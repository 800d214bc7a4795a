import HostNet.Proofs.Foreign
import HostNet.Proofs.Retry
import Mathlib.Data.List.Nodup
/-!
Whole features on a host without failures. The only member that can fail there is a parameter the
kernel does not have. Main statements: a pass succeeds if the parameters are there, one that
enables has brought about every member, and one that disables has taken away every member and
nothing else.
-/
namespace HostNet

namespace Memory

/-! ## Parameters written by several members -/

theorem lookup_overwrite_of_not_mem {writes : List (String × String)} {key : String}
    (h : key ∉ writes.map Prod.fst) (sysctls : List (String × String)) :
    (overwrite writes sysctls).lookup key = sysctls.lookup key := by
  induction writes generalizing sysctls with
  | nil => rfl
  | cons entry writes ih =>
      have hne : key ≠ entry.1 := List.ne_of_not_mem_cons h
      have hrest : key ∉ writes.map Prod.fst := List.not_mem_of_not_mem_cons h
      change (overwrite writes (replace entry.1 entry.2 sysctls)).lookup key = _
      rw [ih hrest, lookup_replace, if_neg hne]

theorem lookup_overwrite_of_mem {writes : List (String × String)} {key value : String}
    (hkeys : (writes.map Prod.fst).Nodup) (h : (key, value) ∈ writes)
    (sysctls : List (String × String)) :
    (overwrite writes sysctls).lookup key = (sysctls.lookup key).map fun _ => value := by
  induction writes generalizing sysctls with
  | nil => exact absurd h List.not_mem_nil
  | cons entry writes ih =>
      obtain ⟨hfirst, hrest⟩ := List.nodup_cons.mp hkeys
      change (overwrite writes (replace entry.1 entry.2 sysctls)).lookup key = _
      rcases List.mem_cons.mp h with rfl | hmem
      · rw [lookup_overwrite_of_not_mem hfirst, lookup_replace, if_pos rfl]
      · have hne : key ≠ entry.1 := by
          rintro rfl
          exact hfirst (List.mem_map.mpr ⟨_, hmem, rfl⟩)
        rw [ih hrest hmem, lookup_replace, if_neg hne]

end Memory

namespace Pass

/-! ## Passes that succeed -/

theorem run_andThen_of_ok {σ : Type} {host : Host σ} {first : Pass} {state : σ}
    (h : (first.run host state).1 = .ok ()) (second : Pass) :
    (first.andThen second).run host state = second.run host (first.run host state).2 := by
  rw [run_andThen]
  generalize first.run host state = result at h ⊢
  obtain ⟨outcome, after⟩ := result
  subst h
  rfl

/-- Passes that succeed wherever something holds, and keep it so, succeed one after the other. -/
theorem run_inOrder_ok {holds : Memory → Prop} {passes : List Pass}
    (hok : ∀ pass ∈ passes, ∀ memory, holds memory → (pass.run Memory.host memory).1 = .ok ())
    (hkeeps : ∀ pass ∈ passes, pass.Keeps holds) {memory : Memory} (h : holds memory) :
    ((inOrder passes).run Memory.host memory).1 = .ok () := by
  induction passes generalizing memory with
  | nil => rfl
  | cons pass passes ih =>
      rw [inOrder, run_andThen_of_ok (hok pass List.mem_cons_self memory h)]
      apply ih
      · exact fun other hother => hok other (List.mem_cons_of_mem pass hother)
      · exact fun other hother => hkeeps other (List.mem_cons_of_mem pass hother)
      · exact hkeeps pass List.mem_cons_self (trial_run pass memory) h

end Pass

open Pass

/-! ## Members -/

theorem Route.run_ensure_ok (route : Route) (enabled : Bool) (memory : Memory) :
    ((route.ensure enabled).run Memory.host memory).1 = .ok () := by
  cases enabled with
  | true => exact memory.tolerate_addRoute route
  | false => exact memory.tolerate_delRoute route

namespace ChainConfig

variable (config : ChainConfig)

theorem run_enable_ok (memory : Memory) : (config.enable.run Memory.host memory).1 = .ok () := by
  have hnew : ((attempt (.newChain config.chain) (tolerate Fault.isAlreadyExists)).run
      Memory.host memory).1 = .ok () := memory.tolerate_newChain config.chain
  rw [enable, run_andThen_of_ok hnew]
  have hthere : ((Memory.host (.newChain config.chain) memory).2.chain? config.chain).isSome =
      true := by
    rw [Memory.host_chain?, Call.onChain, if_pos rfl]
    rfl
  -- from here on the chain is there, and each append finds it
  refine run_inOrder_ok ?_ config.appends_keep_chain hthere
  intro pass hpass memory hchain
  obtain ⟨rule, -, rfl⟩ := List.mem_map.mp hpass
  obtain ⟨rules, hrules⟩ := Option.isSome_iff_exists.mp hchain
  change (memory.appendUnique config.chain rule).1 = .ok ()
  unfold Memory.appendUnique
  rw [hrules]
  simp only
  split <;> rfl

theorem run_withdraw_ok (memory : Memory) :
    (config.withdraw.run Memory.host memory).1 = .ok () := by
  have hkeeps : ∀ pass ∈ config.rules.map fun rule =>
      attempt (.deleteRule config.chain rule) (tolerate Fault.isNotFound),
      pass.Keeps fun _ => True := by
    intro pass _ before after outcome _ _
    trivial
  refine run_inOrder_ok ?_ hkeeps trivial
  intro pass hpass memory _
  obtain ⟨rule, -, rfl⟩ := List.mem_map.mp hpass
  exact memory.tolerate_deleteRule config.chain rule

theorem run_ensure_ok (enabled : Bool) (memory : Memory) :
    ((config.ensure enabled).run Memory.host memory).1 = .ok () := by
  unfold ensure
  split
  · exact config.run_enable_ok memory
  · split
    · exact config.run_withdraw_ok memory
    · rw [run_remove]

end ChainConfig

namespace Config

/-- The parameter of the member is there, if it is one. -/
def Settable : Config → Memory → Prop
  | sysctl config, memory => (memory.sysctls.lookup config.key).isSome = true
  | _, _ => True

theorem keeps_settable (config : Config) (pass : Pass) : pass.Keeps config.Settable := by
  refine Keeps.of_makes pass.makes_true ?_
  intro c memory _ h
  cases config with
  | sysctl config => exact (Memory.lookup_isSome_host config.key).trans h
  | _ => trivial

theorem run_ensure_ok {config : Config} {memory : Memory} (h : config.Settable memory)
    (enabled : Bool) : ((config.ensure enabled).run Memory.host memory).1 = .ok () := by
  cases config with
  | sysctl config =>
      obtain ⟨previous, hset⟩ :=
        SysctlConfig.setSysctl_of_isSome (if enabled then config.on else config.off) h
      rw [ensure, SysctlConfig.ensure_eq_attempt, run_attempt, hset]
      rfl
  | route wanted => exact wanted.run_ensure_ok enabled memory
  | rule wanted =>
      rw [ensure, Rule.run_ensure]
  | chain config => exact config.run_ensure_ok enabled memory

end Config

namespace Feature

def Settable (feature : Feature) (memory : Memory) : Prop :=
  ∀ config ∈ feature.configs, config.Settable memory

theorem run_ensure_ok {feature : Feature} {memory : Memory} (h : feature.Settable memory)
    (enabled : Bool) : ((feature.ensure enabled).run Memory.host memory).1 = .ok () := by
  refine run_inOrder_ok ?_ ?_ h
  · intro pass hpass memory hmemory
    obtain ⟨config, hconfig, rfl⟩ := List.mem_map.mp hpass
    exact Config.run_ensure_ok (hmemory config hconfig) enabled
  · intro pass _ before after outcome htrial hbefore config hconfig
    exact config.keeps_settable pass htrial (hbefore config hconfig)

theorem settable_run {feature : Feature} {memory : Memory} (h : feature.Settable memory)
    (pass : Pass) : feature.Settable (pass.run Memory.host memory).2 := fun config hconfig =>
  config.keeps_settable pass (trial_run pass memory) (h config hconfig)

def keys (feature : Feature) : List String :=
  feature.configs.flatMap fun
    | .sysctl config => [config.key]
    | _ => []

theorem map_fst_writes (feature : Feature) (enabled : Bool) :
    (feature.configs.flatMap (Config.writes enabled)).map Prod.fst = feature.keys := by
  rw [List.map_flatMap, keys]
  congr 1
  funext config
  cases config <;> rfl

section Outcome

variable {feature : Feature} {enabled : Bool} {before after : Memory}

/-- A pass that succeeded has settled every member. -/
theorem settled_of_run (horderly : before.Orderly)
    (hrun : (feature.ensure enabled).run Memory.host before = (.ok (), after)) :
    ∀ config ∈ feature.configs, config.Settled enabled after :=
  (feature.resumable enabled).settles horderly hrun

theorem trial_of_run (hrun : (feature.ensure enabled).run Memory.host before = (.ok (), after)) :
    Trial Fault.Hard (feature.ensure enabled) before (.ok ()) after := by
  have htrial : Trial Fault.Hard (feature.ensure enabled) before _ _ :=
    trial_run (feature.ensure enabled) before
  rwa [hrun] at htrial

/-- The parameters of a pass that succeeded are written. -/
theorem write_of_run (horderly : before.Orderly)
    (hrun : (feature.ensure enabled).run Memory.host before = (.ok (), after)) :
    after.write (feature.configs.flatMap (Config.writes enabled)) = after := by
  have hresumable := feature.resumable enabled
  -- a second pass would end as the first one did, and all it does is to write them
  have hagain := hresumable.resumes [] horderly rfl (trial_of_run hrun)
  rw [hrun] at hagain
  have hrests := hresumable.rests (settled_of_run horderly hrun)
  exact congrArg Prod.snd (hrests.symm.trans hagain)

theorem lookup_of_run (hkeys : feature.keys.Nodup) (horderly : before.Orderly)
    (hrun : (feature.ensure enabled).run Memory.host before = (.ok (), after))
    {config : SysctlConfig} (hconfig : .sysctl config ∈ feature.configs) :
    after.sysctls.lookup config.key = some (if enabled then config.on else config.off) := by
  have hwrite : (config.key, if enabled then config.on else config.off) ∈
      feature.configs.flatMap (Config.writes enabled) :=
    List.mem_flatMap.mpr ⟨_, hconfig, List.mem_singleton.mpr rfl⟩
  have hdistinct : ((feature.configs.flatMap (Config.writes enabled)).map Prod.fst).Nodup := by
    rw [map_fst_writes]
    exact hkeys
  have hlookup := Memory.lookup_overwrite_of_mem hdistinct hwrite after.sysctls
  rw [Memory.write_eq_self_iff.mp (write_of_run horderly hrun)] at hlookup
  have hthere : (after.sysctls.lookup config.key).isSome = true :=
    settled_of_run horderly hrun _ hconfig
  obtain ⟨value, hvalue⟩ := Option.isSome_iff_exists.mp hthere
  rw [hvalue] at hlookup
  rw [hvalue, hlookup]
  rfl

end Outcome

/-! ## Features in place, and gone -/

/-- Every member is in place, no route, rule or rule of a chain more than once. -/
structure InPlace (feature : Feature) (memory : Memory) : Prop where
  sysctls : ∀ config, .sysctl config ∈ feature.configs →
    memory.sysctls.lookup config.key = some config.on
  routes : ∀ wanted, .route wanted ∈ feature.configs →
    memory.routes.countP (·.samePlace wanted) = 1
  rules : ∀ wanted, .rule wanted ∈ feature.configs → memory.rules.countP (·.same wanted) = 1
  chains : ∀ config, .chain config ∈ feature.configs →
    ∃ rules, memory.chain? config.chain = some rules ∧
      ∀ rule ∈ config.rules, rules.count rule = 1

/-- Every member is gone, or back at the value it is left at, and all else is as it was. -/
structure Withdrawn (feature : Feature) (before after : Memory) : Prop where
  sysctls : ∀ config, .sysctl config ∈ feature.configs →
    after.sysctls.lookup config.key = some config.off
  otherSysctls : ∀ key, feature.foreignKey key = true →
    after.sysctls.lookup key = before.sysctls.lookup key
  routes : after.routes = before.routes.filter feature.foreignRoute
  rules : after.rules = before.rules.filter feature.foreignRule
  shared : ∀ config, .chain config ∈ feature.configs → feature.Shares config.chain →
    ∀ rules, before.chain? config.chain = some rules →
      after.chain? config.chain = some (rules.filter (feature.foreignChainRule config.chain))
  owned : ∀ config, .chain config ∈ feature.configs → config.builtIn = false →
    after.chain? config.chain = none
  otherChains : ∀ target, feature.foreignChain target = true →
    after.chain? target = before.chain? target

section Outcome

variable {feature : Feature} {before between after : Memory}

theorem inPlace_of_run (hkeys : feature.keys.Nodup) (horderly : before.Orderly)
    (hrun : (feature.ensure true).run Memory.host before = (.ok (), after)) :
    feature.InPlace after := by
  have hsettled := settled_of_run horderly hrun
  have hafter : after.Orderly := (trial_of_run hrun).orderly horderly
  constructor
  · exact fun config hconfig => lookup_of_run hkeys horderly hrun hconfig
  · intro wanted hwanted
    have hany : after.routes.any (·.samePlace wanted) = true := hsettled _ hwanted
    apply Nat.le_antisymm (Route.countP_samePlace_le_one wanted hafter.placed)
    exact List.countP_pos_iff.mpr (List.any_eq_true.mp hany)
  · exact fun wanted hwanted => hsettled _ hwanted
  · intro config hconfig
    obtain ⟨hthere, hholds⟩ : (after.chain? config.chain).isSome = true ∧
        ∀ rule ∈ config.rules, after.Holds config.chain rule := hsettled _ hconfig
    obtain ⟨rules, hrules⟩ := Option.isSome_iff_exists.mp hthere
    refine ⟨rules, hrules, fun rule hrule => ?_⟩
    obtain ⟨held, hheld, hmem⟩ := hholds rule hrule
    rw [Option.some.inj (hrules.symm.trans hheld)]
    exact List.count_eq_one_of_mem (hafter.unrepeated config.chain held hheld) hmem

theorem routes_of_settled (hsettled : ∀ config ∈ feature.configs, config.Settled false after) :
    after.routes.filter feature.foreignRoute = after.routes := by
  rw [List.filter_eq_self]
  intro installed hinstalled
  rw [foreignRoute_iff]
  intro wanted hwanted
  have hnone : after.routes.any (·.samePlace wanted) = false := hsettled _ hwanted
  exact List.any_eq_false.mp hnone installed hinstalled

theorem rules_of_settled (hsettled : ∀ config ∈ feature.configs, config.Settled false after) :
    after.rules.filter feature.foreignRule = after.rules := by
  rw [List.filter_eq_self]
  intro installed hinstalled
  rw [foreignRule_iff]
  intro wanted hwanted
  have hnone : after.rules.countP (·.same wanted) = 0 := hsettled _ hwanted
  exact List.countP_eq_zero.mp hnone installed hinstalled

theorem chain_of_settled (hsettled : ∀ config ∈ feature.configs, config.Settled false after)
    {target : Chain} (hshares : feature.Shares target) {rules : List ChainRule}
    (hrules : after.chain? target = some rules) :
    rules.filter (feature.foreignChainRule target) = rules := by
  rw [List.filter_eq_self]
  intro installed hinstalled
  rw [foreignChainRule_iff]
  rintro member hmember ⟨rfl, hdeclared⟩
  have hgone : member.Settled false after := hsettled _ hmember
  rw [ChainConfig.Settled, if_neg Bool.false_ne_true, if_pos (hshares member hmember rfl)] at hgone
  exact hgone installed hdeclared ⟨rules, hrules, hinstalled⟩

/-- A disabling pass on what spared all that is foreign leaves just that. -/
theorem withdrawn_of_run (hkeys : feature.keys.Nodup) (hspares : feature.Spares before between)
    (horderly : between.Orderly)
    (hrun : (feature.ensure false).run Memory.host between = (.ok (), after)) :
    feature.Withdrawn before after := by
  have hsettled := settled_of_run horderly hrun
  have hall := hspares.trans (spares_of_trial (trial_of_run hrun))
  constructor
  · exact fun config hconfig => lookup_of_run hkeys horderly hrun hconfig
  · exact hall.sysctls
  · rw [← hall.routes, routes_of_settled hsettled]
  · rw [← hall.rules, rules_of_settled hsettled]
  · intro config hconfig hshares rules hrules
    obtain ⟨kept, hkept, hfilter⟩ := hall.shared config.chain rules hshares hrules
    rw [hkept, ← hfilter, chain_of_settled hsettled hshares hkept]
  · intro config hconfig hown
    have hgone : config.Settled false after := hsettled _ hconfig
    rwa [ChainConfig.Settled, if_neg Bool.false_ne_true, hown, if_neg Bool.false_ne_true] at hgone
  · exact hall.chains

end Outcome

/-! ## Enabling, then disabling -/

/-- On a quiet host that has the parameters of the feature, enabling succeeds and puts every member
in place; disabling after that succeeds and leaves what was there before, less the members. -/
theorem enable_then_disable {feature : Feature} (hkeys : feature.keys.Nodup) {drill : Drill}
    (hquiet : drill.Quiet) (horderly : drill.memory.Orderly)
    (hsettable : feature.Settable drill.memory) :
    let enabled := (feature.ensure true).run Drill.host drill
    let disabled := (feature.ensure false).run Drill.host enabled.2
    enabled.1 = .ok () ∧ feature.InPlace enabled.2.memory ∧
      disabled.1 = .ok () ∧ feature.Withdrawn drill.memory disabled.2.memory := by
  intro enabled disabled
  have henabled : enabled = _ := Drill.run_of_quiet (feature.ensure true) hquiet
  have hquiet' : enabled.2.Quiet := by
    rw [henabled]
    exact hquiet
  have hdisabled : disabled = _ := Drill.run_of_quiet (feature.ensure false) hquiet'
  have hmemory : enabled.2.memory = ((feature.ensure true).run Memory.host drill.memory).2 := by
    rw [henabled]
  have hfirst : (feature.ensure true).run Memory.host drill.memory =
      (.ok (), enabled.2.memory) :=
    Prod.ext (run_ensure_ok hsettable true) hmemory.symm
  have hsettable' : feature.Settable enabled.2.memory := by
    rw [hmemory]
    exact settable_run hsettable _
  have hsecond : (feature.ensure false).run Memory.host enabled.2.memory =
      (.ok (), disabled.2.memory) := by
    refine Prod.ext (run_ensure_ok hsettable' false) ?_
    rw [hdisabled]
  have htrial := trial_of_run hfirst
  refine ⟨?_, inPlace_of_run hkeys horderly hfirst, ?_, ?_⟩
  · rw [henabled]
    exact run_ensure_ok hsettable true
  · rw [hdisabled]
    exact run_ensure_ok hsettable' false
  · exact withdrawn_of_run hkeys (spares_of_trial htrial) (htrial.orderly horderly) hsecond

end Feature

end HostNet
