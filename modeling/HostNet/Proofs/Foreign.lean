import HostNet.Proofs.ConfigCalls
import HostNet.Proofs.Tables
/-!
What does not belong to a feature is left alone, whichever of its calls fail and however they are
answered. Ownership is what the members declare: a rule up to its priority, a route by its place,
a parameter by its key, a chain by its name, and inside a built-in chain each declared rule.
-/
namespace HostNet

namespace Config

/-- The installed rule is the declared one but for the priority. -/
def ownsRule : Config → Rule → Bool
  | rule wanted, installed => installed.same wanted
  | _, _ => false

/-- The route takes the place of the declared one. -/
def ownsRoute : Config → Route → Bool
  | route wanted, installed => installed.samePlace wanted
  | _, _ => false

def ownsKey : Config → String → Bool
  | sysctl config, key => config.key == key
  | _, _ => false

def ownsChain : Config → Chain → Bool
  | chain config, target => config.chain == target
  | _, _ => false

/-- The rule is declared for the chain. -/
def ownsChainRule : Config → Chain → ChainRule → Bool
  | chain config, target, installed => config.chain == target && config.rules.contains installed
  | _, _, _ => false

variable {config : Config}

theorem ownsRule_iff {installed : Rule} :
    config.ownsRule installed = true ↔
      ∃ wanted, config = .rule wanted ∧ installed.same wanted = true := by
  cases config <;> simp [ownsRule]

theorem ownsRoute_iff {installed : Route} :
    config.ownsRoute installed = true ↔
      ∃ wanted, config = .route wanted ∧ installed.samePlace wanted = true := by
  cases config <;> simp [ownsRoute]

theorem ownsKey_iff {key : String} :
    config.ownsKey key = true ↔ ∃ member, config = .sysctl member ∧ member.key = key := by
  cases config <;> simp [ownsKey]

theorem ownsChain_iff {target : Chain} :
    config.ownsChain target = true ↔ ∃ member, config = .chain member ∧ member.chain = target := by
  cases config <;> simp [ownsChain]

theorem ownsChainRule_iff {target : Chain} {installed : ChainRule} :
    config.ownsChainRule target installed = true ↔
      ∃ member, config = .chain member ∧ member.chain = target ∧ installed ∈ member.rules := by
  cases config <;> simp [ownsChainRule]

end Config

namespace Feature

variable (feature : Feature)

def foreignRule (installed : Rule) : Bool :=
  !feature.configs.any (·.ownsRule installed)

/-- A route whose place no member declares. -/
def foreignRoute (installed : Route) : Bool :=
  !feature.configs.any (·.ownsRoute installed)

def foreignKey (key : String) : Bool :=
  !feature.configs.any (·.ownsKey key)

def foreignChain (target : Chain) : Bool :=
  !feature.configs.any (·.ownsChain target)

/-- A rule that no member declares for the chain. -/
def foreignChainRule (target : Chain) (installed : ChainRule) : Bool :=
  !feature.configs.any (·.ownsChainRule target installed)

section Unowned

variable {feature}

/-- What no member owns is what none of the declarations of its kind covers. -/
theorem unowned_iff {α : Type} {owns : Config → Bool} (declared : α → Config) {covers : α → Prop}
    (howns : ∀ config, owns config = true ↔ ∃ a, config = declared a ∧ covers a)
    {configs : List Config} :
    (!configs.any owns) = true ↔ ∀ a, declared a ∈ configs → ¬ covers a := by
  rw [Bool.not_eq_true', List.any_eq_false]
  constructor
  · intro h a hmem hcovers
    exact h _ hmem ((howns _).mpr ⟨a, rfl, hcovers⟩)
  · intro h config hmem hown
    obtain ⟨a, rfl, hcovers⟩ := (howns config).mp hown
    exact h a hmem hcovers

theorem foreignRule_iff {installed : Rule} :
    feature.foreignRule installed = true ↔
      ∀ wanted, .rule wanted ∈ feature.configs → ¬ installed.same wanted = true :=
  unowned_iff Config.rule fun _ => Config.ownsRule_iff

theorem foreignRoute_iff {installed : Route} :
    feature.foreignRoute installed = true ↔
      ∀ wanted, .route wanted ∈ feature.configs → ¬ installed.samePlace wanted = true :=
  unowned_iff Config.route fun _ => Config.ownsRoute_iff

theorem foreignKey_iff {key : String} :
    feature.foreignKey key = true ↔ ∀ member, .sysctl member ∈ feature.configs → member.key ≠ key :=
  unowned_iff Config.sysctl fun _ => Config.ownsKey_iff

theorem foreignChain_iff {target : Chain} :
    feature.foreignChain target = true ↔
      ∀ member, .chain member ∈ feature.configs → member.chain ≠ target :=
  unowned_iff Config.chain fun _ => Config.ownsChain_iff

theorem foreignChainRule_iff {target : Chain} {installed : ChainRule} :
    feature.foreignChainRule target installed = true ↔
      ∀ member, .chain member ∈ feature.configs →
        ¬ (member.chain = target ∧ installed ∈ member.rules) :=
  unowned_iff Config.chain fun _ => Config.ownsChainRule_iff

end Unowned

/-- Members declare the chain as a built-in one, or not at all. -/
def Shares (target : Chain) : Prop :=
  ∀ config, Config.chain config ∈ feature.configs → config.chain = target →
    config.builtIn = true

/-- From one state of the tables to another, all that is foreign to the feature is as it was and
in its order. A built-in chain is still there with its foreign rules. -/
structure Spares (before after : Memory) : Prop where
  rules : after.rules.filter feature.foreignRule = before.rules.filter feature.foreignRule
  routes : after.routes.filter feature.foreignRoute = before.routes.filter feature.foreignRoute
  sysctls : ∀ key, feature.foreignKey key = true →
    after.sysctls.lookup key = before.sysctls.lookup key
  chains : ∀ target, feature.foreignChain target = true →
    after.chain? target = before.chain? target
  shared : ∀ target rules, feature.Shares target → before.chain? target = some rules →
    ∃ kept, after.chain? target = some kept ∧
      kept.filter (feature.foreignChainRule target) =
        rules.filter (feature.foreignChainRule target)

namespace Spares

variable {feature : Feature} {before between after : Memory}

theorem refl (memory : Memory) : feature.Spares memory memory where
  rules := rfl
  routes := rfl
  sysctls _ _ := rfl
  chains _ _ := rfl
  shared _ rules _ h := ⟨rules, h, rfl⟩

theorem trans (hfirst : feature.Spares before between) (hlast : feature.Spares between after) :
    feature.Spares before after where
  rules := hlast.rules.trans hfirst.rules
  routes := hlast.routes.trans hfirst.routes
  sysctls key hkey := (hlast.sysctls key hkey).trans (hfirst.sysctls key hkey)
  chains target htarget := (hlast.chains target htarget).trans (hfirst.chains target htarget)
  shared target rules hshares h := by
    obtain ⟨kept, hkept, heq⟩ := hfirst.shared target rules hshares h
    obtain ⟨last, hlast, hlastEq⟩ := hlast.shared target kept hshares hkept
    exact ⟨last, hlast, hlastEq.trans heq⟩

end Spares

/-! ## One call of a member -/

section Step

variable {feature : Feature} {enabled : Bool} {config : Config} {c : Call}

theorem foreignRule_eq_false {wanted installed : Rule} (hmem : .rule wanted ∈ feature.configs)
    (hsame : installed.same wanted = true) : feature.foreignRule installed = false := by
  rw [Bool.eq_false_iff, ne_eq, foreignRule_iff]
  exact fun h => h wanted hmem hsame

theorem foreignRoute_eq_false {wanted installed : Route} (hmem : .route wanted ∈ feature.configs)
    (hplace : installed.samePlace wanted = true) : feature.foreignRoute installed = false := by
  rw [Bool.eq_false_iff, ne_eq, foreignRoute_iff]
  exact fun h => h wanted hmem hplace

theorem foreignChainRule_eq_false {member : ChainConfig} {rule : ChainRule}
    (hmem : .chain member ∈ feature.configs) (hrule : rule ∈ member.rules) :
    feature.foreignChainRule member.chain rule = false := by
  rw [Bool.eq_false_iff, ne_eq, foreignChainRule_iff]
  exact fun h => h member hmem ⟨rfl, hrule⟩

theorem filter_onRules (hmem : config ∈ feature.configs) (hmay : config.MayMake enabled c)
    (rules : List Rule) :
    (c.onRules rules).filter feature.foreignRule = rules.filter feature.foreignRule := by
  cases c with
  | addRule added =>
      cases config with
      | rule wanted =>
          obtain ⟨-, rfl⟩ := hmay
          have hown : feature.foreignRule (Memory.installedForm added) = false :=
            foreignRule_eq_false hmem (Memory.same_installedForm added)
          simp only [Call.onRules]
          split
          · rfl
          · rw [List.filter_append, List.filter_cons_of_neg (by simp [hown]), List.filter_nil,
              List.append_nil]
      | _ => exact hmay.elim
  | delRule victim =>
      cases config with
      | rule wanted =>
          apply Memory.filter_eraseP
          intro installed _ hmatch
          have hvictim : installed.same victim = true := Memory.same_of_ruleMatches hmatch
          exact foreignRule_eq_false hmem (Rule.same_trans hvictim hmay)
      | _ => exact hmay.elim
  | _ => rfl

theorem filter_onRoutes (hmem : config ∈ feature.configs) (hmay : config.MayMake enabled c)
    (routes : List Route) :
    (c.onRoutes routes).filter feature.foreignRoute = routes.filter feature.foreignRoute := by
  cases c with
  | addRoute added =>
      cases config with
      | route wanted =>
          obtain ⟨-, rfl⟩ := hmay
          have hown : feature.foreignRoute added = false :=
            foreignRoute_eq_false hmem (Route.samePlace_refl added)
          simp only [Call.onRoutes]
          split
          · rfl
          · rw [List.filter_append, List.filter_cons_of_neg (by simp [hown]), List.filter_nil,
              List.append_nil]
      | _ => exact hmay.elim
  | delRoute victim =>
      cases config with
      | route wanted =>
          obtain ⟨-, rfl⟩ := hmay
          apply Memory.filter_eraseP
          intro installed _ hplace
          exact foreignRoute_eq_false hmem hplace
      | _ => exact hmay.elim
  | _ => rfl

theorem lookup_onSysctls (hmem : config ∈ feature.configs) (hmay : config.MayMake enabled c)
    {key : String} (hkey : feature.foreignKey key = true) (sysctls : List (String × String)) :
    (c.onSysctls sysctls).lookup key = sysctls.lookup key := by
  cases c with
  | setSysctl written value =>
      cases config with
      | sysctl member =>
          have hne : ¬ key = written := by
            rintro rfl
            exact foreignKey_iff.mp hkey member hmem hmay.symm
          simp [Call.onSysctls, Memory.lookup_replace, hne]
      | _ => exact hmay.elim
  | _ => rfl

theorem onChain_of_foreign (hmem : config ∈ feature.configs) (hmay : config.MayMake enabled c)
    {target : Chain} (htarget : feature.foreignChain target = true)
    (content : Option (List ChainRule)) : c.onChain target content = content := by
  have hne {member : ChainConfig} (hmember : .chain member ∈ feature.configs) :
      ¬ target = member.chain :=
    fun heq => foreignChain_iff.mp htarget member hmember heq.symm
  cases config with
  | chain member => cases c <;> grind [Config.MayMake, Call.onChain]
  | _ => cases c <;> first | rfl | exact hmay.elim

theorem filter_appendUnique {q : ChainRule → Bool} {rule : ChainRule} (hrule : q rule = false)
    (rules : List ChainRule) :
    (if rules.contains rule then rules else rules ++ [rule]).filter q = rules.filter q := by
  split
  · rfl
  · rw [List.filter_append, List.filter_cons_of_neg (by simp [hrule]), List.filter_nil,
      List.append_nil]

theorem filter_erase {q : ChainRule → Bool} {rule : ChainRule} (hrule : q rule = false)
    (rules : List ChainRule) : (rules.erase rule).filter q = rules.filter q := by
  rw [List.erase_eq_eraseP]
  apply Memory.filter_eraseP
  intro other _ heq
  rw [← LawfulBEq.eq_of_beq heq, hrule]

theorem onChain_of_shares (hmem : config ∈ feature.configs) (hmay : config.MayMake enabled c)
    {target : Chain} (hshares : feature.Shares target) (rules : List ChainRule) :
    ∃ kept, c.onChain target (some rules) = some kept ∧
      kept.filter (feature.foreignChainRule target) =
        rules.filter (feature.foreignChainRule target) := by
  cases config with
  | chain member =>
      by_cases htarget : target = member.chain
      · subst htarget
        cases c with
        | newChain other => exact ⟨rules, by simp [Call.onChain], rfl⟩
        | appendUnique other rule =>
            obtain ⟨-, rfl, hrule⟩ := hmay
            refine ⟨_, if_pos rfl, ?_⟩
            exact filter_appendUnique (foreignChainRule_eq_false hmem hrule) rules
        | deleteRule other rule =>
            obtain ⟨-, -, rfl, hrule⟩ := hmay
            refine ⟨_, if_pos rfl, ?_⟩
            exact filter_erase (foreignChainRule_eq_false hmem hrule) rules
        | clearChain other =>
            -- only a chain of our own is cleared, and a shared one is none
            have hshared := hshares member hmem rfl
            exact absurd (hmay.2.1.symm.trans hshared) Bool.false_ne_true
        | deleteChain other =>
            have hshared := hshares member hmem rfl
            exact absurd (hmay.2.1.symm.trans hshared) Bool.false_ne_true
        | _ => exact hmay.elim
      · refine ⟨rules, ?_, rfl⟩
        cases c <;> grind [Config.MayMake, Call.onChain]
  | _ =>
      refine ⟨rules, ?_, rfl⟩
      cases c <;> first | rfl | exact hmay.elim

theorem spares_host (hmem : config ∈ feature.configs) (hmay : config.MayMake enabled c)
    (memory : Memory) : feature.Spares memory (Memory.host c memory).2 where
  rules := by
    rw [Memory.host_rules, filter_onRules hmem hmay]
  routes := by
    rw [Memory.host_routes, filter_onRoutes hmem hmay]
  sysctls key hkey := by
    rw [Memory.host_sysctls, lookup_onSysctls hmem hmay hkey]
  chains target htarget := by
    rw [Memory.host_chain?, onChain_of_foreign hmem hmay htarget]
  shared target rules hshares h := by
    rw [Memory.host_chain?, h]
    exact onChain_of_shares hmem hmay hshares rules

end Step

/-! ## Whole passes -/

theorem spares_of_trial {feature : Feature} {enabled : Bool} {refusal : Fault → Prop}
    {before after : Memory} {outcome : Outcome}
    (htrial : Pass.Trial refusal (feature.ensure enabled) before outcome after) :
    feature.Spares before after := by
  refine Pass.Trial.preserves (feature.Spares before) ?_ (feature.makes_ensure enabled) htrial
    (Spares.refl before)
  rintro c memory ⟨config, hmem, hmay⟩ hspares
  exact hspares.trans (spares_host hmem hmay memory)

/-- A pass leaves alone what is foreign to its feature, in either direction, from any tables and
with any failures to come, be they of a kind that counts as success. -/
theorem ensure_spares (feature : Feature) (enabled : Bool) (drill : Drill) :
    feature.Spares drill.memory ((feature.ensure enabled).run Drill.host drill).2.memory :=
  spares_of_trial (Drill.trial_run _ drill.plans_true)

end Feature

end HostNet
