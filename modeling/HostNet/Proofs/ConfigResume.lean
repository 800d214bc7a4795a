import HostNet.Proofs.Direction
import HostNet.Proofs.Resume
import HostNet.Proofs.RuleConvergence
/-!
Resuming the pass of one declared piece of state. Main statements: each of the four kinds can be
taken up again wherever its pass stopped: with some instances of a rule deleted, with a chain made
but not filled, or emptied but not deleted.
-/
namespace HostNet

open Pass

/-! ## Parameters -/

namespace SysctlConfig

theorem ensure_eq_attempt (config : SysctlConfig) (enabled : Bool) :
    config.ensure enabled =
      attempt (.setSysctl config.key (if enabled then config.on else config.off))
        fun reply => reply.map fun _ => () := by
  rw [ensure, attempt]
  congr
  funext reply
  cases reply <;> rfl

theorem setSysctl_of_isSome {memory : Memory} {key : String} (value : String)
    (h : (memory.sysctls.lookup key).isSome = true) :
    ∃ previous : String, Memory.host (.setSysctl key value) memory =
      (.ok previous, memory.write [(key, value)]) := by
  obtain ⟨previous, hprevious⟩ := Option.isSome_iff_exists.mp h
  refine ⟨previous, ?_⟩
  change memory.setSysctl key value = _
  rw [Memory.setSysctl, hprevious]
  rfl

theorem resumable (config : SysctlConfig) (enabled : Bool) :
    (config.ensure enabled).Resumable
      [(config.key, if enabled then config.on else config.off)]
      (fun memory => (memory.sysctls.lookup config.key).isSome = true) := by
  rw [ensure_eq_attempt]
  generalize (if enabled = true then config.on else config.off) = value
  apply Resumable.attempt
  · intro fault _ hok
    cases hok
  · exact fun _ => rfl
  · intro memory _ hok
    cases hlookup : memory.sysctls.lookup config.key with
    | none =>
        have habsent : Memory.host (.setSysctl config.key value) memory =
            (.error (.sysctl config.key .absent), memory) := by
          change memory.setSysctl config.key value = _
          rw [Memory.setSysctl, hlookup]
          rfl
        rw [habsent] at hok
        cases hok
    | some previous =>
        rw [Memory.host_sysctls]
        simp [Call.onSysctls, Memory.lookup_replace, hlookup]
  · intro memory hsettled
    obtain ⟨previous, hset⟩ := setSysctl_of_isSome value hsettled
    rw [hset]
    exact ⟨rfl, rfl⟩
  · intro memory held hsettled
    exact (Memory.lookup_overwrite_isSome held memory.sysctls config.key).trans hsettled
  · intro memory held hheld
    rw [← Memory.write_append, Memory.write_eq_self_iff, Memory.host_sysctls]
    change Memory.overwrite (held ++ [(config.key, value)])
        (Memory.replace config.key value memory.sysctls) =
      Memory.replace config.key value memory.sysctls
    rw [Memory.overwrite, List.foldl_append]
    refine (Memory.replace_overwrite_replace config.key value held memory.sysctls).trans ?_
    rw [Memory.write_eq_self_iff.mp hheld]

end SysctlConfig

/-! ## Calls that leave the parameters alone -/

section Attempt

variable {c : Call} {settle : c.Reply → Outcome} {Settled : Memory → Prop}

/-- A call without parameters can be resumed if making it again changes nothing. -/
theorem attempt_resumable (hsysctls : ∀ sysctls, c.onSysctls sysctls = sysctls)
    (hrefused : ∀ fault, fault.Hard → settle (.error fault) ≠ .ok ())
    (hanswered : ∀ answer, settle (.ok answer) = .ok ())
    (hsettles : ∀ memory, memory.Orderly → settle (Memory.host c memory).1 = .ok () →
      Settled (Memory.host c memory).2)
    (hrests : ∀ memory, Settled memory → settle (Memory.host c memory).1 = .ok () ∧
      (Memory.host c memory).2 = memory)
    (hsteady : ∀ memory held, Settled memory → Settled (memory.write held)) :
    (attempt c settle).Resumable [] Settled := by
  refine Resumable.attempt hrefused hanswered hsettles ?_ hsteady ?_
  · exact hrests
  · intro memory held hheld
    exact Memory.write_host (hsysctls memory.sysctls) hheld

theorem tolerate_of_hard {benign : Fault → Bool} (h : ∀ fault, fault.Hard → benign fault = false)
    (fault : Fault) (hhard : fault.Hard) : tolerate benign (.error fault) ≠ .ok () := by
  simp [tolerate, h fault hhard]

end Attempt

/-! ## Calls that find their work done -/

namespace Memory

variable (memory : Memory)

theorem tolerate_addRoute (route : Route) :
    tolerate Fault.isAlreadyExists (memory.addRoute route).1 = .ok () := by
  unfold addRoute
  split <;> rfl

theorem tolerate_delRoute (route : Route) :
    tolerate Fault.isNotFound (memory.delRoute route).1 = .ok () := by
  unfold delRoute
  split <;> rfl

theorem tolerate_newChain (chain : Chain) :
    tolerate Fault.isAlreadyExists (memory.newChain chain).1 = .ok () := by
  unfold newChain
  split <;> rfl

theorem tolerate_deleteRule (chain : Chain) (rule : ChainRule) :
    tolerate Fault.isNotFound (memory.deleteRule chain rule).1 = .ok () := by
  unfold deleteRule
  split
  · rfl
  · split <;> rfl

end Memory

/-! ## Routes -/

namespace Route

theorem samePlace_of_both {first second route : Route} (hfirst : first.samePlace route = true)
    (hsecond : second.samePlace route = true) : first.samePlace second = true := by
  obtain ⟨hdst, htable, hgateway⟩ := samePlace_iff.mp hfirst
  obtain ⟨hdst', htable', hgateway'⟩ := samePlace_iff.mp hsecond
  exact samePlace_iff.mpr ⟨hdst.trans hdst'.symm, htable.trans htable'.symm,
    hgateway.trans hgateway'.symm⟩

theorem countP_samePlace_le_one {routes : List Route} (route : Route)
    (hplaced : routes.Pairwise fun a b => a.samePlace b = false) :
    routes.countP (·.samePlace route) ≤ 1 := by
  induction routes with
  | nil => exact Nat.zero_le 1
  | cons head tail ih =>
      obtain ⟨hhead, htail⟩ := List.pairwise_cons.mp hplaced
      by_cases hplace : head.samePlace route = true
      · have hnone : tail.countP (·.samePlace route) = 0 := by
          rw [List.countP_eq_zero]
          intro other hother hsame
          have hboth := samePlace_of_both hplace hsame
          exact absurd ((hhead other hother).symm.trans hboth) Bool.false_ne_true
        apply Nat.le_of_eq
        rw [List.countP_cons, hnone, if_pos hplace]
      · rw [List.countP_cons, if_neg hplace]
        exact ih htail

theorem any_eraseP_samePlace {routes : List Route} (route : Route)
    (hplaced : routes.Pairwise fun a b => a.samePlace b = false) :
    (routes.eraseP (·.samePlace route)).any (·.samePlace route) = false := by
  have hle := countP_samePlace_le_one route hplaced
  rw [List.any_eq_false]
  intro other hother hplace
  have herase : (routes.eraseP (·.samePlace route)).countP (·.samePlace route) + 1 =
      routes.countP (·.samePlace route) :=
    Memory.countP_eraseP ⟨other, List.mem_of_mem_eraseP hother, hplace⟩ fun _ hsame => hsame
  have hpos : 0 < (routes.eraseP (·.samePlace route)).countP (·.samePlace route) :=
    List.countP_pos_iff.mpr ⟨other, hother, hplace⟩
  omega

theorem resumable (route : Route) (enabled : Bool) :
    (route.ensure enabled).Resumable []
      (fun memory => memory.routes.any (·.samePlace route) = enabled) := by
  cases enabled with
  | true =>
      apply attempt_resumable (fun _ => rfl)
      · exact tolerate_of_hard fun _ hhard => hhard.isAlreadyExists
      · exact fun _ => rfl
      · intro memory _ _
        rw [Memory.host_routes, Call.onRoutes]
        split
        · assumption
        · simp [samePlace_refl]
      · intro memory hsettled
        refine ⟨memory.tolerate_addRoute route, ?_⟩
        simp only [Memory.host, Memory.addRoute, hsettled, if_true]
      · exact fun _ _ hsettled => hsettled
  | false =>
      apply attempt_resumable (fun _ => rfl)
      · exact tolerate_of_hard fun _ hhard => hhard.isNotFound
      · exact fun _ => rfl
      · intro memory horderly _
        rw [Memory.host_routes]
        exact any_eraseP_samePlace route horderly.placed
      · intro memory hsettled
        refine ⟨memory.tolerate_delRoute route, ?_⟩
        simp only [Memory.host, Memory.delRoute, hsettled]
        rfl
      · exact fun _ _ hsettled => hsettled

end Route

/-! ## Chains -/

namespace Memory

/-- The tables without a chain. -/
def without (memory : Memory) (chain : Chain) : Memory :=
  { memory with chains := memory.chains.filter (·.1 != chain) }

theorem without_of_none {memory : Memory} {chain : Chain} (h : memory.chain? chain = none) :
    memory.without chain = memory := by
  have hkept : memory.chains.filter (·.1 != chain) = memory.chains := by
    rw [List.filter_eq_self]
    intro entry hentry
    have hne : chain ≠ entry.1 := by
      simpa using List.lookup_eq_none_iff.mp h entry hentry
    simpa using hne.symm
  rw [without, hkept]

theorem filter_replace (chain : Chain) (rules : List ChainRule)
    (chains : List (Chain × List ChainRule)) :
    (replace chain rules chains).filter (·.1 != chain) = chains.filter (·.1 != chain) := by
  induction chains with
  | nil => rfl
  | cons entry rest ih =>
      by_cases hkey : entry.1 = chain
      · simp [replace, hkey]
      · simp [replace, hkey, ih]

/-- What a chain holds does not matter once it is gone. -/
theorem without_withChain (memory : Memory) (chain : Chain) (rules : List ChainRule) :
    (memory.withChain chain rules).without chain = memory.without chain := by
  rw [without, withChain, filter_replace, without]

theorem without_without (memory : Memory) (chain : Chain) :
    (memory.without chain).without chain = memory.without chain := by
  rw [without, without, List.filter_filter]
  simp

theorem clearChain_of_none {memory : Memory} {chain : Chain} (h : memory.chain? chain = none) :
    host (.clearChain chain) memory = (.error (filterFault .clear chain noChain), memory) := by
  change memory.clearChain chain = _
  rw [clearChain, h]
  rfl

theorem clearChain_of_some {memory : Memory} {chain : Chain} {rules : List ChainRule}
    (h : memory.chain? chain = some rules) :
    host (.clearChain chain) memory = (.ok (), memory.withChain chain []) := by
  change memory.clearChain chain = _
  rw [clearChain, h]
  rfl

theorem deleteChain_cleared {memory : Memory} {chain : Chain} {rules : List ChainRule}
    (h : memory.chain? chain = some rules) :
    host (.deleteChain chain) (memory.withChain chain []) =
      (.ok (), memory.without chain) := by
  have hempty : (memory.withChain chain []).chain? chain = some [] := by
    rw [chain?_withChain, if_pos rfl, h]
    rfl
  change (memory.withChain chain []).deleteChain chain = _
  rw [← without_withChain memory chain [], deleteChain, hempty]
  rfl

theorem chain?_without (memory : Memory) (chain : Chain) :
    (memory.without chain).chain? chain = none := by
  rw [chain?, without, lookup_filter_ne, if_pos rfl]

end Memory

namespace ChainConfig

theorem newChain_resumable (chain : Chain) :
    (attempt (.newChain chain) (tolerate Fault.isAlreadyExists)).Resumable []
      (fun memory => (memory.chain? chain).isSome = true) := by
  apply attempt_resumable (fun _ => rfl)
  · exact tolerate_of_hard fun _ hhard => hhard.isAlreadyExists
  · exact fun _ => rfl
  · intro memory _ _
    simp [Call.onChain]
  · intro memory hsettled
    obtain ⟨rules, hrules⟩ := Option.isSome_iff_exists.mp hsettled
    refine ⟨memory.tolerate_newChain chain, ?_⟩
    simp only [Memory.host, Memory.newChain, hrules]
  · exact fun _ _ hsettled => hsettled

theorem appendUnique_resumable (chain : Chain) (rule : ChainRule) :
    (attempt (.appendUnique chain rule) id).Resumable []
      (fun memory => memory.Holds chain rule) := by
  apply attempt_resumable (fun _ => rfl)
  · intro fault _ hok
    cases hok
  · exact fun _ => rfl
  · intro memory _ hok
    cases hcontent : memory.chain? chain with
    | none =>
        simp only [Memory.host, Memory.appendUnique, hcontent] at hok
        cases hok
    | some rules =>
        rw [Memory.Holds, Memory.host_chain?, hcontent]
        refine ⟨_, if_pos rfl, ?_⟩
        change rule ∈ if rules.contains rule then rules else rules ++ [rule]
        split
        · exact List.contains_iff_mem.mp ‹_›
        · simp
  · rintro memory ⟨rules, hcontent, hmem⟩
    simp only [Memory.host, Memory.appendUnique, hcontent, List.contains_iff_mem.mpr hmem,
      if_true]
    exact ⟨rfl, trivial⟩
  · exact fun _ _ hsettled => hsettled

theorem deleteRule_resumable (chain : Chain) (rule : ChainRule) :
    (attempt (.deleteRule chain rule) (tolerate Fault.isNotFound)).Resumable []
      (fun memory => ¬ memory.Holds chain rule) := by
  apply attempt_resumable (fun _ => rfl)
  · exact tolerate_of_hard fun _ hhard => hhard.isNotFound
  · exact fun _ => rfl
  · rintro memory horderly - ⟨rules, hcontent, hmem⟩
    rw [Memory.host_chain?] at hcontent
    cases hbefore : memory.chain? chain with
    | none => simp [Call.onChain, hbefore] at hcontent
    | some old =>
        -- a chain holds the rule at most once, so one delete is enough
        have hold := horderly.unrepeated chain old hbefore
        simp only [Call.onChain, hbefore, if_true, Option.map_some, Option.some.injEq] at hcontent
        rw [← hcontent, hold.mem_erase_iff] at hmem
        exact hmem.1 rfl
  · intro memory hsettled
    refine ⟨memory.tolerate_deleteRule chain rule, ?_⟩
    cases hcontent : memory.chain? chain with
    | none => simp only [Memory.host, Memory.deleteRule, hcontent]
    | some rules =>
        have hnot : rules.contains rule = false := by
          rw [Bool.eq_false_iff]
          exact fun hmem => hsettled ⟨rules, hcontent, List.contains_iff_mem.mp hmem⟩
        simp only [Memory.host, Memory.deleteRule, hcontent, hnot]
        rfl
  · exact fun _ _ hsettled => hsettled

/-- Each trial of removing a chain leaves at most that chain behind, and one that succeeds does
not leave it either. -/
theorem trial_remove {config : ChainConfig} {before after : Memory} {outcome : Outcome}
    (h : Trial Fault.Hard config.remove before outcome after) :
    after.without config.chain = before.without config.chain ∧
      (outcome = .ok () → after = before.without config.chain) := by
  rcases trial_call_iff.mp h with ⟨fault, hfault, rest⟩ | rest
  · obtain ⟨houtcome, rfl⟩ := trial_done_iff.mp rest
    refine ⟨rfl, fun hok => ?_⟩
    exact absurd (houtcome.symm.trans hok)
      (tolerate_of_hard (fun _ hhard => hhard.isNotFound) fault hfault)
  · cases hcontent : before.chain? config.chain with
    | none =>
        rw [Memory.clearChain_of_none hcontent] at rest
        obtain ⟨-, rfl⟩ := trial_done_iff.mp rest
        exact ⟨rfl, fun _ => (Memory.without_of_none hcontent).symm⟩
    | some rules =>
        rw [Memory.clearChain_of_some hcontent] at rest
        rcases trial_attempt rest with ⟨fault, hfault, houtcome, rfl⟩ | ⟨-, rfl⟩
        · refine ⟨Memory.without_withChain before config.chain [], fun hok => ?_⟩
          exact absurd (houtcome.symm.trans hok)
            (tolerate_of_hard (fun _ hhard => hhard.isNotFound) fault hfault)
        · rw [Memory.deleteChain_cleared hcontent]
          exact ⟨Memory.without_without before config.chain, fun _ => rfl⟩

theorem run_remove (config : ChainConfig) (memory : Memory) :
    config.remove.run Memory.host memory = (.ok (), memory.without config.chain) := by
  rw [remove, run]
  cases hcontent : memory.chain? config.chain with
  | none =>
      rw [Memory.clearChain_of_none hcontent, Memory.without_of_none hcontent]
      rfl
  | some rules =>
      rw [Memory.clearChain_of_some hcontent]
      refine (run_attempt Memory.host (.deleteChain config.chain) _ _).trans ?_
      rw [Memory.deleteChain_cleared hcontent]
      rfl

theorem remove_resumable (config : ChainConfig) :
    config.remove.Resumable [] (fun memory => memory.chain? config.chain = none) where
  finishes := by
    intro before after _ htrial
    rw [run_remove, (trial_remove htrial).2 rfl]
  settles := by
    intro before after _ hrun
    rw [run_remove] at hrun
    obtain ⟨-, rfl⟩ := Prod.mk.inj hrun
    exact Memory.chain?_without before config.chain
  resumes := by
    intro held before after outcome _ hheld htrial
    rw [run_remove, run_remove]
    have hafter : (after.write held).without config.chain =
        (after.without config.chain).write held := rfl
    have hbefore : (before.without config.chain).write held =
        (before.write held).without config.chain := rfl
    rw [hafter, (trial_remove htrial).1, hbefore, hheld]
  rests := by
    intro memory hnone
    rw [run_remove, Memory.without_of_none hnone]
    rfl
  steady := fun _ _ hnone => hnone

theorem appends_keep_chain (config : ChainConfig) :
    ∀ pass ∈ config.rules.map fun rule => attempt (.appendUnique config.chain rule) id,
      pass.Keeps fun memory => (memory.chain? config.chain).isSome = true := by
  intro pass hpass
  obtain ⟨rule, -, rfl⟩ := List.mem_map.mp hpass
  exact Keeps.attempt fun memory hmemory => Memory.isSome_chain?_host rfl hmemory

theorem enable_resumable (config : ChainConfig) :
    config.enable.Resumable []
      (fun memory => (memory.chain? config.chain).isSome = true ∧
        ∀ rule ∈ config.rules, memory.Holds config.chain rule) := by
  have hrules : (inOrder (config.rules.map fun rule =>
      attempt (.appendUnique config.chain rule) id)).Resumable
        (config.rules.flatMap fun _ => [])
        (fun memory => ∀ rule ∈ config.rules, memory.Holds config.chain rule) := by
    apply Resumable.inOrder
    · exact fun rule _ => appendUnique_resumable config.chain rule
    · intro rule _ other _
      exact Keeps.attempt fun memory hmemory => Memory.holds_host rfl hmemory
  have hkeeps : (inOrder (config.rules.map fun rule =>
      attempt (.appendUnique config.chain rule) id)).Keeps
        (fun memory => (memory.chain? config.chain).isSome = true) :=
    Keeps.inOrder config.appends_keep_chain
  have hall := (newChain_resumable config.chain).andThen hrules hkeeps
  have hwrites : ([] : List (String × String)) ++ (config.rules.flatMap fun _ => []) = [] := by
    simp
  rw [hwrites] at hall
  exact hall

theorem withdraw_resumable (config : ChainConfig) :
    config.withdraw.Resumable []
      (fun memory => ∀ rule ∈ config.rules, ¬ memory.Holds config.chain rule) := by
  have hrules : config.withdraw.Resumable (config.rules.flatMap fun _ => [])
      (fun memory => ∀ rule ∈ config.rules, ¬ memory.Holds config.chain rule) := by
    apply Resumable.inOrder
    · exact fun rule _ => deleteRule_resumable config.chain rule
    · intro rule _ other _
      exact Keeps.attempt fun memory hmemory => Memory.not_holds_host rfl hmemory
  have hwrites : (config.rules.flatMap fun _ => ([] : List (String × String))) = [] := by
    simp
  rw [hwrites] at hrules
  exact hrules

end ChainConfig

/-! ## Rules -/

namespace Rule

variable {before after : Memory} {outcome : Outcome}

/-- A trial of deletes deletes some of the victims; if it succeeds, all of them. -/
theorem trial_deleteEach {victims : List Rule} {sofar : Outcome}
    (h : Trial Fault.Hard (deleteEach victims sofar) before outcome after) :
    (∃ deleted : List Rule, deleted.Sublist victims ∧
        after = { before with rules := eraseEach deleted before.rules }) ∧
      (outcome = .ok () → sofar = .ok () ∧
        after = { before with rules := eraseEach victims before.rules }) := by
  induction victims generalizing sofar before with
  | nil =>
      obtain ⟨rfl, rfl⟩ := trial_done_iff.mp h
      exact ⟨⟨[], List.Sublist.refl [], rfl⟩, fun hok => ⟨hok, rfl⟩⟩
  | cons victim victims ih =>
      rcases trial_call_iff.mp h with ⟨fault, hfault, rest⟩ | rest
      · obtain ⟨⟨deleted, hsub, hafter⟩, hok⟩ := ih rest
        refine ⟨⟨deleted, hsub.cons victim, hafter⟩, fun houtcome => ?_⟩
        have hlatest : latest Fault.isNotFound sofar (.error fault) = .error fault := by
          rw [latest, hfault.isNotFound]
          rfl
        exact absurd (hlatest.symm.trans (hok houtcome).1) (by simp)
      · have hrest : Trial Fault.Hard
            (deleteEach victims (latest Fault.isNotFound sofar (before.delRule victim).1))
            (before.delRule victim).2 outcome after := rest
        rw [latest_delRule, delRule_snd] at hrest
        obtain ⟨⟨deleted, hsub, hafter⟩, hok⟩ := ih hrest
        exact ⟨⟨victim :: deleted, hsub.cons_cons victim, hafter⟩, hok⟩

/-- A trial of a rule is refused its listing, or goes on from the instances there are. -/
theorem trial_ensure_cases {rule : Rule} {enabled : Bool}
    (h : Trial Fault.Hard (rule.ensure enabled) before outcome after) :
    (∃ fault, outcome = .error fault ∧ after = before) ∨
      Trial Fault.Hard (rule.converge enabled (rule.instances before.rules)) before outcome
        after := by
  rcases trial_call_iff.mp h with ⟨fault, -, rest⟩ | rest
  · exact Or.inl ⟨fault, trial_done_iff.mp rest⟩
  · rw [← instances_listRules]
    exact Or.inr rest

/-- However a trial of a rule goes, it touches nothing but rules, and these settle as they would
have before. If it succeeds they are settled. -/
theorem trial_ensure {rule : Rule} {enabled : Bool}
    (hprio : ∀ installed ∈ before.rules, installed.priority.isSome = true)
    (h : Trial Fault.Hard (rule.ensure enabled) before outcome after) :
    (∃ rules, after = { before with rules := rules } ∧
        rule.settle enabled rules = rule.settle enabled before.rules) ∧
      (outcome = .ok () →
        after = { before with rules := rule.settle enabled before.rules }) := by
  rcases trial_ensure_cases h with ⟨fault, rfl, rfl⟩ | hconverge
  · exact ⟨⟨after.rules, rfl, rfl⟩, fun hok => absurd hok (by simp)⟩
  · cases enabled with
    | false =>
        obtain ⟨⟨deleted, hsub, hafter⟩, hok⟩ := trial_deleteEach hconverge
        exact ⟨⟨_, hafter, settle_false_eraseEach hprio hsub⟩, fun houtcome => (hok houtcome).2⟩
    | true =>
        rcases Nat.eq_zero_or_pos (before.rules.countP (·.same rule)) with hnone | hpos
        · rw [instances_eq_nil_iff.mpr hnone] at hconverge
          rcases trial_attempt hconverge with ⟨fault, hfault, houtcome, rfl⟩ | ⟨-, rfl⟩
          · refine ⟨⟨after.rules, rfl, rfl⟩, fun hok => ?_⟩
            exact absurd (houtcome.symm.trans hok)
              (tolerate_of_hard (fun _ hhard => hhard.isAlreadyExists) fault hfault)
          · rw [host_addRule_of_none hnone, settle_true_of_none hnone]
            refine ⟨⟨_, rfl, settle_of_countP ?_⟩, fun _ => rfl⟩
            rw [← settle_true_of_none hnone]
            exact (rule.settle_converged true hprio).countP
        · rw [converge_true_of_pos hpos] at hconverge
          obtain ⟨⟨deleted, hsub, hafter⟩, hok⟩ := trial_deleteEach hconverge
          refine ⟨⟨_, hafter, settle_true_eraseEach hpos hprio hsub⟩, fun houtcome => ?_⟩
          rw [settle_true_of_pos hpos]
          exact (hok houtcome).2

theorem resumable (rule : Rule) (enabled : Bool) :
    (rule.ensure enabled).Resumable []
      (fun memory => memory.rules.countP (·.same rule) = enabled.toNat) where
  finishes := by
    intro before after horderly htrial
    rw [run_ensure, (trial_ensure horderly.prioritized htrial).2 rfl]
  settles := by
    intro before after horderly hrun
    rw [run_ensure] at hrun
    obtain ⟨-, rfl⟩ := Prod.mk.inj hrun
    exact (rule.settle_converged enabled horderly.prioritized).countP
  resumes := by
    intro held before after outcome horderly hheld htrial
    obtain ⟨⟨rules, rfl, hrules⟩, -⟩ := trial_ensure horderly.prioritized htrial
    rw [run_ensure, run_ensure, Memory.write_rules, hrules]
    have hsysctls := Memory.write_eq_self_iff.mp hheld
    simp only [Memory.write, hsysctls]
  rests := by
    intro memory hcount
    rw [run_ensure, settle_of_countP hcount]
    rfl
  steady := fun _ _ hcount => hcount

end Rule

/-! ## Declared state of any kind -/

/-- The chain is there with our rules, or without them; a chain of our own is gone. -/
def ChainConfig.Settled (config : ChainConfig) (enabled : Bool) (memory : Memory) : Prop :=
  if enabled then
    (memory.chain? config.chain).isSome = true ∧
      ∀ rule ∈ config.rules, memory.Holds config.chain rule
  else if config.builtIn then ∀ rule ∈ config.rules, ¬ memory.Holds config.chain rule
  else memory.chain? config.chain = none

theorem ChainConfig.resumable (config : ChainConfig) (enabled : Bool) :
    (config.ensure enabled).Resumable [] (config.Settled enabled) := by
  unfold ensure Settled
  split
  · exact config.enable_resumable
  · split
    · exact config.withdraw_resumable
    · exact config.remove_resumable

namespace Config

/-- The parameters that a pass writes. -/
def writes (enabled : Bool) : Config → List (String × String)
  | sysctl config => [(config.key, if enabled then config.on else config.off)]
  | _ => []

/-- What a pass that has succeeded brought about. Of a parameter this is only that it is there;
another member may write it too. -/
def Settled (enabled : Bool) : Config → Memory → Prop
  | sysctl config, memory => (memory.sysctls.lookup config.key).isSome = true
  | route wanted, memory => memory.routes.any (·.samePlace wanted) = enabled
  | rule wanted, memory => memory.rules.countP (·.same wanted) = enabled.toNat
  | chain config, memory => config.Settled enabled memory

theorem resumable (config : Config) (enabled : Bool) :
    (config.ensure enabled).Resumable (config.writes enabled) (config.Settled enabled) := by
  cases config with
  | sysctl config => exact config.resumable enabled
  | route wanted => exact wanted.resumable enabled
  | rule wanted => exact wanted.resumable enabled
  | chain config => exact config.resumable enabled

end Config

end HostNet
