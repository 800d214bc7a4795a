import HostNet.Proofs.RuleInstances
import HostNet.Proofs.Trial
/-!
The calls a declared piece of state can come to make, in each direction and whatever the host
answers. Only the listed rules are answers that later calls depend on, and a rule is deleted only
if it is the same as the declared one.
-/
namespace HostNet

open Pass

namespace Config

/-- The calls that bringing the declared state about, or taking it away, can consist of. -/
def MayMake (enabled : Bool) : Config → Call → Prop
  | sysctl config, .setSysctl key _ => key = config.key
  | route wanted, .addRoute added => enabled = true ∧ added = wanted
  | route wanted, .delRoute victim => enabled = false ∧ victim = wanted
  | rule _, .listRules _ => True
  | rule wanted, .addRule added => enabled = true ∧ added = wanted
  | rule wanted, .delRule victim => victim.same wanted = true
  | chain config, .newChain target => enabled = true ∧ target = config.chain
  | chain config, .appendUnique target added =>
    enabled = true ∧ target = config.chain ∧ added ∈ config.rules
  | chain config, .clearChain target =>
    enabled = false ∧ config.builtIn = false ∧ target = config.chain
  | chain config, .deleteChain target =>
    enabled = false ∧ config.builtIn = false ∧ target = config.chain
  | chain config, .deleteRule target victim =>
    enabled = false ∧ config.builtIn = true ∧ target = config.chain ∧ victim ∈ config.rules
  | _, _ => False

end Config

namespace Rule

theorem makes_deleteEach {rule : Rule} {enabled : Bool} {victims : List Rule}
    (h : ∀ victim ∈ victims, victim.same rule = true) (sofar : Outcome) :
    (deleteEach victims sofar).Makes ((Config.rule rule).MayMake enabled) := by
  induction victims generalizing sofar with
  | nil => trivial
  | cons victim victims ih =>
      refine ⟨h victim List.mem_cons_self, fun reply => ?_⟩
      exact ih (fun other hother => h other (List.mem_cons_of_mem victim hother)) _

theorem makes_converge {rule : Rule} {enabled : Bool} {installed : List Rule}
    (h : ∀ found ∈ installed, found.same rule = true) :
    (rule.converge enabled installed).Makes ((Config.rule rule).MayMake enabled) := by
  cases enabled with
  | false => exact makes_deleteEach h _
  | true =>
      cases installed with
      | nil => exact Makes.attempt ⟨rfl, rfl⟩
      | cons first rest =>
          apply makes_deleteEach
          intro victim hvictim
          exact h victim ((List.dropLast_sublist _).subset hvictim)

end Rule

namespace ChainConfig

variable (config : ChainConfig)

theorem makes_enable : config.enable.Makes ((Config.chain config).MayMake true) := by
  apply Makes.andThen
  · exact Makes.attempt ⟨rfl, rfl⟩
  · apply Makes.inOrder
    intro pass hpass
    obtain ⟨rule, hrule, rfl⟩ := List.mem_map.mp hpass
    exact Makes.attempt ⟨rfl, rfl, hrule⟩

theorem makes_remove (hown : config.builtIn = false) :
    config.remove.Makes ((Config.chain config).MayMake false) := by
  refine ⟨⟨rfl, hown, rfl⟩, fun reply => ?_⟩
  cases reply with
  | ok _ => exact Makes.attempt ⟨rfl, hown, rfl⟩
  | error fault => trivial

theorem makes_withdraw (hshared : config.builtIn = true) :
    config.withdraw.Makes ((Config.chain config).MayMake false) := by
  apply Makes.inOrder
  intro pass hpass
  obtain ⟨rule, hrule, rfl⟩ := List.mem_map.mp hpass
  exact Makes.attempt ⟨rfl, hshared, rfl, hrule⟩

end ChainConfig

namespace Config

/-- Nothing but the declared state is ever called for. -/
theorem makes_ensure (config : Config) (enabled : Bool) :
    (config.ensure enabled).Makes (config.MayMake enabled) := by
  cases config with
  | sysctl config =>
      refine ⟨rfl, fun reply => ?_⟩
      cases reply with
      | ok _ => trivial
      | error fault => trivial
  | route wanted =>
      cases enabled with
      | true => exact Makes.attempt ⟨rfl, rfl⟩
      | false => exact Makes.attempt ⟨rfl, rfl⟩
  | rule wanted =>
      refine ⟨trivial, fun reply => ?_⟩
      cases reply with
      | ok listed => exact Rule.makes_converge fun found hfound => (Rule.mem_instances.mp hfound).2
      | error fault => trivial
  | chain config =>
      cases enabled with
      | true => exact config.makes_enable
      | false =>
          cases hkind : config.builtIn with
          | true =>
              simp only [ensure, ChainConfig.ensure, hkind]
              exact config.makes_withdraw hkind
          | false =>
              simp only [ensure, ChainConfig.ensure, hkind]
              exact config.makes_remove hkind

end Config

namespace Feature

/-- The calls of a feature are those of its members. -/
theorem makes_ensure (feature : Feature) (enabled : Bool) :
    (feature.ensure enabled).Makes
      fun c => ∃ config ∈ feature.configs, config.MayMake enabled c := by
  apply Makes.inOrder
  intro pass hpass
  obtain ⟨config, hconfig, rfl⟩ := List.mem_map.mp hpass
  exact (config.makes_ensure enabled).mono fun c hc => ⟨config, hconfig, hc⟩

end Feature

end HostNet
