import HostNet.Proofs.RuleInstances
import HostNet.Proofs.Trial
/-!
Passes of one rule on a host in memory. Without failures a disabled rule loses all its instances
and an enabled one keeps exactly the one that survives, or is added at the end; what remains is a
state in which the next pass only lists.
-/
namespace HostNet

namespace Rule

/-- What a pass without failures comes to. A disabled rule loses all its instances. An enabled one
is added at the end where it has none, at the kernel's priority if it names none itself; otherwise
one instance survives, in its place among the foreign rules. -/
def Converged (rule : Rule) : (enabled : Bool) → (before after : List Rule) → Prop
  | false, before, after => after = before.filter rule.foreign
  | true, before, after =>
    (before.countP (·.same rule) = 0 ∧
        after = before.filter rule.foreign ++
          [{ rule with priority := some (rule.priority.getD 32765) }]) ∨
      ∃ pre kept post, before = pre ++ kept :: post ∧ rule.Survives pre kept post ∧
        after = pre.filter rule.foreign ++ kept :: post.filter rule.foreign

/-- The installed rules after a pass without failures. -/
def settle (rule : Rule) : (enabled : Bool) → List Rule → List Rule
  | false, rules => eraseEach (rule.instances rules) rules
  | true, rules =>
    if rules.countP (·.same rule) = 0 then rules ++ [Memory.installedForm rule]
    else eraseEach (rule.instances rules).dropLast rules

variable {rule : Rule}

theorem installedForm_eq (rule : Rule) :
    Memory.installedForm rule = { rule with priority := some (rule.priority.getD 32765) } :=
  rfl

/-! ## What becomes of the installed rules -/

namespace Converged

variable {enabled : Bool} {before after : List Rule}

theorem countP (h : rule.Converged enabled before after) :
    after.countP (·.same rule) = enabled.toNat := by
  cases enabled with
  | false =>
      rw [Converged] at h
      rw [h, countP_filter_foreign]
      rfl
  | true =>
      rcases h with ⟨-, rfl⟩ | ⟨pre, kept, post, -, hsurvives, rfl⟩
      · have hadded : [Memory.installedForm rule].countP (·.same rule) = 1 :=
          List.countP_cons_of_pos (Memory.same_installedForm rule)
        rw [← installedForm_eq, List.countP_append, countP_filter_foreign, hadded]
        rfl
      · have hkept : (kept :: post.filter rule.foreign).countP (·.same rule) =
            (post.filter rule.foreign).countP (·.same rule) + 1 :=
          List.countP_cons_of_pos hsurvives.1
        rw [List.countP_append, hkept, countP_filter_foreign, countP_filter_foreign]
        rfl

theorem foreign (h : rule.Converged enabled before after) :
    after.filter rule.foreign = before.filter rule.foreign := by
  have hinstance : ∀ installed : Rule, installed.same rule = true →
      ¬ rule.foreign installed = true := by
    intro installed hsame
    simp [Rule.foreign, hsame]
  cases enabled with
  | false =>
      rw [Converged] at h
      rw [h, List.filter_filter]
      simp
  | true =>
      rcases h with ⟨-, rfl⟩ | ⟨pre, kept, post, rfl, hsurvives, rfl⟩
      · rw [← installedForm_eq, List.filter_append,
          List.filter_cons_of_neg (hinstance _ (Memory.same_installedForm rule))]
        simp
      · rw [List.filter_append, List.filter_append,
          List.filter_cons_of_neg (hinstance _ hsurvives.1),
          List.filter_cons_of_neg (hinstance _ hsurvives.1)]
        simp

end Converged

section Settle

variable {rules : List Rule}

theorem settle_false (hprio : ∀ installed ∈ rules, installed.priority.isSome = true) :
    rule.settle false rules = rules.filter rule.foreign :=
  eraseEach_instances hprio

theorem settle_true_of_none (hnone : rules.countP (·.same rule) = 0) :
    rule.settle true rules = rules ++ [Memory.installedForm rule] :=
  if_pos hnone

theorem settle_true_of_pos (hpos : 0 < rules.countP (·.same rule)) :
    rule.settle true rules = eraseEach (rule.instances rules).dropLast rules :=
  if_neg (Nat.ne_of_gt hpos)

theorem settle_true_of_survives {pre post : List Rule} {kept : Rule}
    (hprio : ∀ installed ∈ pre ++ kept :: post, installed.priority.isSome = true)
    (h : rule.Survives pre kept post) :
    rule.settle true (pre ++ kept :: post) =
      pre.filter rule.foreign ++ kept :: post.filter rule.foreign := by
  have hpos : 0 < (pre ++ kept :: post).countP (·.same rule) :=
    List.countP_pos_iff.mpr ⟨kept, by simp, h.1⟩
  rw [settle_true_of_pos hpos, eraseEach_dropLast hprio h]

theorem settle_converged (rule : Rule) (enabled : Bool) {rules : List Rule}
    (hprio : ∀ installed ∈ rules, installed.priority.isSome = true) :
    rule.Converged enabled rules (rule.settle enabled rules) := by
  cases enabled with
  | false => exact settle_false hprio
  | true =>
      rcases Nat.eq_zero_or_pos (rules.countP (·.same rule)) with hnone | hpos
      · refine Or.inl ⟨hnone, ?_⟩
        rw [settle_true_of_none hnone, filter_foreign_eq_self hnone, installedForm_eq]
      · obtain ⟨pre, kept, post, rfl, hsurvives⟩ := exists_survives hpos
        exact Or.inr ⟨pre, kept, post, rfl, hsurvives, settle_true_of_survives hprio hsurvives⟩

/-- One instance of an enabled rule is settled, and so is none of a disabled one. -/
theorem settle_of_countP {enabled : Bool}
    (hcount : rules.countP (·.same rule) = enabled.toNat) : rule.settle enabled rules = rules := by
  rw [← length_instances] at hcount
  cases enabled with
  | false =>
      rw [settle, List.length_eq_zero_iff.mp hcount]
      rfl
  | true =>
      obtain ⟨kept, hinstances⟩ := List.length_eq_one_iff.mp hcount
      have hpos : 0 < rules.countP (·.same rule) := by
        rw [← length_instances, hcount]
        exact Nat.one_pos
      rw [settle_true_of_pos hpos, hinstances]
      rfl

/-- Rules that a disabling pass stopped amid its deletes settle as they would have before. -/
theorem settle_false_eraseEach {deleted : List Rule}
    (hprio : ∀ installed ∈ rules, installed.priority.isSome = true)
    (hdeleted : deleted.Sublist (rule.instances rules)) :
    rule.settle false (eraseEach deleted rules) = rule.settle false rules := by
  have hsame : ∀ victim ∈ deleted, victim.same rule = true := fun victim hvictim =>
    (mem_instances.mp (hdeleted.subset hvictim)).2
  have hprio' : ∀ installed ∈ eraseEach deleted rules, installed.priority.isSome = true :=
    fun installed hinstalled => hprio installed ((eraseEach_sublist _ _).subset hinstalled)
  rw [settle_false hprio', settle_false hprio, filter_foreign_eraseEach hsame]

/-- Rules that an enabling pass stopped amid its deletes settle as they would have before: the
same instance survives. -/
theorem settle_true_eraseEach {deleted : List Rule} (hpos : 0 < rules.countP (·.same rule))
    (hprio : ∀ installed ∈ rules, installed.priority.isSome = true)
    (hdeleted : deleted.Sublist (rule.instances rules).dropLast) :
    rule.settle true (eraseEach deleted rules) = rule.settle true rules := by
  obtain ⟨pre, kept, post, rfl, hsurvives⟩ := exists_survives hpos
  obtain ⟨pre', post', herase, hsurvives', hpre, hpost⟩ :=
    eraseEach_of_sublist hprio hsurvives hdeleted
  have hprio' : ∀ installed ∈ pre' ++ kept :: post', installed.priority.isSome = true := by
    rw [← herase]
    exact fun installed hinstalled =>
      hprio installed ((eraseEach_sublist _ _).subset hinstalled)
  rw [herase, settle_true_of_survives hprio' hsurvives', settle_true_of_survives hprio hsurvives,
    hpre, hpost]

end Settle

/-! ## Passes on a host in memory -/

variable {memory : Memory}

theorem latest_delRule (memory : Memory) (victim : Rule) (sofar : Outcome) :
    latest Fault.isNotFound sofar (memory.delRule victim).1 = sofar := by
  unfold Memory.delRule
  split
  · rfl
  · rfl

theorem delRule_snd (memory : Memory) (victim : Rule) :
    (memory.delRule victim).2 =
      { memory with rules := memory.rules.eraseP (Memory.ruleMatches victim) } := by
  unfold Memory.delRule
  split
  · rfl
  · rename_i h
    have hnone : ∀ installed ∈ memory.rules,
        ¬ Memory.ruleMatches victim installed = true := by
      simpa using h
    rw [List.eraseP_of_forall_not hnone]

/-- Deletes that find nothing are no failures. -/
theorem run_deleteEach (victims : List Rule) (sofar : Outcome) (memory : Memory) :
    (deleteEach victims sofar).run Memory.host memory =
      (sofar, { memory with rules := eraseEach victims memory.rules }) := by
  induction victims generalizing sofar memory with
  | nil => rfl
  | cons victim victims ih =>
      change (deleteEach victims (latest Fault.isNotFound sofar (memory.delRule victim).1)).run
        Memory.host (memory.delRule victim).2 = _
      rw [latest_delRule, delRule_snd, ih]
      rfl

/-- The listing of the family holds every instance. -/
theorem instances_listRules (rule : Rule) (memory : Memory) :
    rule.instances (memory.listRules rule.family) = rule.instances memory.rules := by
  have hfamily : (memory.listRules rule.family).filter (·.same rule) =
      memory.rules.filter (·.same rule) := by
    rw [Memory.listRules, List.filter_filter]
    apply List.filter_congr
    intro installed _
    by_cases hsame : installed.same rule = true
    · have hshape : installed.shape.family = rule.shape.family :=
        congrArg Rule.family (same_iff.mp hsame)
      have heq : installed.family = rule.family := hshape
      simp [hsame, heq]
    · simp [hsame]
  rw [instances_eq, instances_eq, hfamily]

theorem converge_true_of_pos {listed : List Rule} (hpos : 0 < listed.countP (·.same rule)) :
    rule.converge true (rule.instances listed) =
      deleteEach (rule.instances listed).dropLast (.ok ()) := by
  rw [← length_instances, List.length_pos_iff] at hpos
  obtain ⟨first, rest, hinstances⟩ := List.exists_cons_of_ne_nil hpos
  rw [hinstances]
  rfl

theorem host_addRule_of_none (hnone : memory.rules.countP (·.same rule) = 0) :
    Memory.host (.addRule rule) memory =
      (.ok (), { memory with rules := memory.rules ++ [Memory.installedForm rule] }) := by
  have hfree : memory.rules.any (Memory.ruleMatches rule) = false := by
    rw [List.any_eq_false]
    intro installed hinstalled hmatch
    exact List.countP_eq_zero.mp hnone installed hinstalled (Memory.same_of_ruleMatches hmatch)
  change memory.addRule rule = _
  rw [Memory.addRule, hfree]
  rfl

/-- A pass without failures succeeds and settles the rules. -/
theorem run_ensure (rule : Rule) (enabled : Bool) (memory : Memory) :
    (rule.ensure enabled).run Memory.host memory =
      (.ok (), { memory with rules := rule.settle enabled memory.rules }) := by
  have hlisted : (rule.ensure enabled).run Memory.host memory =
      (rule.converge enabled (rule.instances memory.rules)).run Memory.host memory := by
    rw [← instances_listRules]
    rfl
  rw [hlisted]
  cases enabled with
  | false => exact run_deleteEach _ _ _
  | true =>
      rcases Nat.eq_zero_or_pos (memory.rules.countP (·.same rule)) with hnone | hpos
      · rw [instances_eq_nil_iff.mpr hnone, settle_true_of_none hnone]
        refine (Pass.run_attempt Memory.host (.addRule rule) _ memory).trans ?_
        rw [host_addRule_of_none hnone]
        rfl
      · rw [converge_true_of_pos hpos, run_deleteEach, settle_true_of_pos hpos]

/-- With one instance of an enabled rule, or none of a disabled one, a pass only lists. -/
theorem calls_ensure_of_countP {enabled : Bool}
    (hcount : memory.rules.countP (·.same rule) = enabled.toNat) :
    (rule.ensure enabled).calls Memory.host memory = [.listRules rule.family] := by
  have hlisted : (rule.ensure enabled).calls Memory.host memory = .listRules rule.family ::
      (rule.converge enabled (rule.instances memory.rules)).calls Memory.host memory := by
    rw [← instances_listRules]
    rfl
  rw [← length_instances] at hcount
  rw [hlisted]
  cases enabled with
  | false =>
      rw [List.length_eq_zero_iff.mp hcount]
      rfl
  | true =>
      obtain ⟨kept, hinstances⟩ := List.length_eq_one_iff.mp hcount
      rw [hinstances]
      rfl

/-- On a host without planned failures whose rules all have a priority, a pass of a rule succeeds,
converges and changes nothing but the rules. A second pass in the same direction lists the rules
once, makes no other call and changes nothing. -/
theorem ensure_converges (rule : Rule) (enabled : Bool) (drill : Drill) (hquiet : drill.Quiet)
    (hprio : ∀ installed ∈ drill.memory.rules, installed.priority.isSome = true) :
    let first := (rule.ensure enabled).run Drill.host drill
    let second := (rule.ensure enabled).run Drill.host first.2
    first.1 = .ok () ∧
      first.2.memory = { drill.memory with rules := first.2.memory.rules } ∧
      rule.Converged enabled drill.memory.rules first.2.memory.rules ∧
      first.2.memory.rules.filter rule.foreign = drill.memory.rules.filter rule.foreign ∧
      first.2.memory.rules.countP (·.same rule) = enabled.toNat ∧
      second.1 = .ok () ∧ second.2.memory = first.2.memory ∧
      second.2.log = first.2.log ++ [.listRules rule.family] := by
  intro first second
  have hconverged := rule.settle_converged enabled hprio
  have hfirst : first = (.ok (), { drill with
      memory := { drill.memory with rules := rule.settle enabled drill.memory.rules }
      log := drill.log ++ (rule.ensure enabled).calls Memory.host drill.memory }) := by
    change (rule.ensure enabled).run Drill.host drill = _
    rw [Drill.run_of_quiet _ hquiet, run_ensure]
  have hcount : first.2.memory.rules.countP (·.same rule) = enabled.toNat := by
    rw [hfirst]
    exact hconverged.countP
  have hquiet' : first.2.Quiet := by
    rw [hfirst]
    exact hquiet
  have hsecond : second = (.ok (), { first.2 with
      log := first.2.log ++ [.listRules rule.family] }) := by
    change (rule.ensure enabled).run Drill.host first.2 = _
    rw [Drill.run_of_quiet _ hquiet', run_ensure, settle_of_countP hcount,
      calls_ensure_of_countP hcount]
  refine ⟨by rw [hfirst], by rw [hfirst], ?_, ?_, hcount, by rw [hsecond], by rw [hsecond],
    by rw [hsecond]⟩
  · rw [hfirst]
    exact hconverged
  · rw [hfirst]
    exact hconverged.foreign

/-- Of three instances under three priorities, the one at the rule's own priority stays, though
its mask is spelled out. -/
theorem ensure_converges_duplicates :
    let rule := ((ofFamily .inet).withMark 16).withPriority 100
    let spelled := rule.withMaskedMark 16 0xffffffff
    let other := (ofFamily .inet).withPriority 100
    let rules := [rule.withPriority 50, spelled, other, rule.withPriority 200]
    let drill := Drill.ofMemory ⟨[], [], rules, []⟩
    let first := (rule.ensure true).run Drill.host drill
    drill.Quiet ∧ (∀ installed ∈ rules, installed.priority.isSome = true) ∧
      first.1 = .ok () ∧ first.2.memory.rules = [spelled, other] := by
  intro rule spelled other rules drill first
  have hquiet : drill.Quiet := ⟨rfl, rfl⟩
  have hprio : ∀ installed ∈ rules, installed.priority.isSome = true := by decide
  have hconverges := ensure_converges rule true drill hquiet hprio
  have hrules : first.2.memory.rules = [spelled, other] := by decide +kernel
  exact ⟨hquiet, hprio, hconverges.1, hrules⟩

end Rule

end HostNet
