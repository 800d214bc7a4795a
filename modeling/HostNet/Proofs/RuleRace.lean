import HostNet.Proofs.Interleaving
import HostNet.Proofs.Survivors
/-!
Passes of one rule at the same time. Each deletes the instances that were too many at its own
listing, some of which others delete before it; and several may find none and add the rule. Every
listing tells the same instance to survive, so that none of them deletes it, and only the first
addition succeeds. Main statement: whatever the order of their calls, all passes succeed and leave
what one of them alone would have left.
-/
namespace HostNet

namespace Rule

/-- No two instances share a priority. -/
def Spread (rule : Rule) (rules : List Rule) : Prop :=
  rules.Pairwise fun a b => a.same rule = true → b.same rule = true → a.priority ≠ b.priority

instance (rule : Rule) (rules : List Rule) : Decidable (rule.Spread rules) :=
  inferInstanceAs (Decidable (rules.Pairwise _))

/-- What all passes uphold: the rules settle as `goal`, and there are not many more instances than
at the start. -/
structure Contested (rule : Rule) (enabled : Bool) (goal : List Rule) (most : Nat)
    (rules : List Rule) : Prop where
  prioritized : ∀ installed ∈ rules, installed.priority.isSome = true
  spread : rule.Spread rules
  settles : rule.settle enabled rules = goal
  few : rules.countP (·.same rule) ≤ most + 1

/-- What a pass has still to delete. The victims name every installed instance that is not to
remain, and nothing that is; what is to remain is installed. -/
structure Victims (rule : Rule) (goal rules victims : List Rule) : Prop where
  instances : ∀ victim ∈ victims, victim.same rule = true ∧ victim.priority.isSome = true
  spare : ∀ victim ∈ victims, ∀ kept ∈ goal, Memory.ruleMatches victim kept = false
  cover : ∀ installed ∈ rules, installed.same rule = true →
    installed ∈ goal ∨ ∃ victim ∈ victims, Memory.ruleMatches victim installed = true
  remain : ∀ kept ∈ goal, kept.same rule = true → kept ∈ rules

/-- How far a pass has come, with a bound on the calls it has still to make. -/
inductive Contender (rule : Rule) (enabled : Bool) (goal : List Rule) (most : Nat)
    (rules : List Rule) : Nat → Pass → Prop
  /-- It has not listed the rules. -/
  | waiting {left : Nat} (hleft : most + 2 ≤ left) :
    Contender rule enabled goal most rules left (rule.ensure enabled)
  /-- It found no instance, and what it adds is what is to remain. -/
  | adding {left : Nat} (hleft : 1 ≤ left) (henabled : enabled = true)
    (hadded : ∀ kept ∈ goal, kept.same rule = true → kept = Memory.installedForm rule)
    (hcover : ∀ installed ∈ rules, installed.same rule = true → installed ∈ goal) :
    Contender rule enabled goal most rules left
      (Pass.attempt (.addRule rule) (Pass.tolerate Fault.isAlreadyExists))
  /-- It has victims to delete, and is over after the last of them. -/
  | deleting {left : Nat} {victims : List Rule} (hleft : victims.length ≤ left)
    (hvictims : rule.Victims goal rules victims) :
    Contender rule enabled goal most rules left (deleteEach victims (.ok ()))

/-- From one state of the rules to the next, no instance comes but to remain, and none goes that
is to remain. -/
structure Approaches (rule : Rule) (goal rules after : List Rule) : Prop where
  comes : ∀ installed ∈ after, installed.same rule = true → installed ∈ rules ∨ installed ∈ goal
  stays : ∀ kept ∈ goal, kept.same rule = true → kept ∈ rules → kept ∈ after

variable {rule : Rule} {enabled : Bool} {goal rules after victims : List Rule} {most : Nat}

/-! ## Instances under different priorities -/

theorem ruleMatches_self (installed : Rule) : Memory.ruleMatches installed installed = true := by
  simp [Memory.ruleMatches]

theorem ruleMatches_installedForm (rule : Rule) :
    Memory.ruleMatches rule (Memory.installedForm rule) = true := by
  rw [Memory.ruleMatches, Memory.same_installedForm, Bool.true_and]
  rcases hpriority : rule.priority with _ | priority
  · rfl
  · simp [Memory.installedForm, hpriority]

/-- What an instance names is an instance. -/
theorem same_of_named {victim installed : Rule} (hsame : victim.same rule = true)
    (h : Memory.ruleMatches victim installed = true) : installed.same rule = true :=
  same_trans (Memory.same_of_ruleMatches h) hsame

theorem priority_of_ruleMatches {victim installed : Rule} (hprio : victim.priority.isSome = true)
    (h : Memory.ruleMatches victim installed = true) : installed.priority = victim.priority := by
  have hnamed := (Bool.and_eq_true_iff.mp h).2
  rw [Option.isNone_eq_false_iff.mpr hprio, Bool.false_or, beq_iff_eq] at hnamed
  exact hnamed.symm

theorem Spread.instances (h : rule.Spread rules) :
    (rule.instances rules).Pairwise fun a b => a.priority ≠ b.priority := by
  have hfound : (rules.filter (·.same rule)).Pairwise fun a b => a.priority ≠ b.priority := by
    refine (List.Pairwise.filter _ h).imp_of_mem ?_
    intro a b ha hb hne
    exact hne (List.mem_filter.mp ha).2 (List.mem_filter.mp hb).2
  have hperm : (rule.instances rules).Perm (rules.filter (·.same rule)) := by
    rw [instances_eq]
    exact List.perm_append_comm.trans (List.filter_append_perm _ _)
  exact (hperm.pairwise_iff fun hne => Ne.symm hne).mpr hfound

/-- Where a victim is deleted, no other rule is left that it names. -/
theorem Spread.ruleMatches_of_mem_eraseP {victim installed : Rule} (hspread : rule.Spread rules)
    (hvictim : victim.same rule = true ∧ victim.priority.isSome = true)
    (hmem : installed ∈ rules.eraseP (Memory.ruleMatches victim)) :
    Memory.ruleMatches victim installed = false := by
  rw [← Bool.not_eq_true]
  intro hmatch
  obtain ⟨first, pre, post, hpre, hfirst, rfl, herase⟩ :=
    List.exists_of_eraseP (List.mem_of_mem_eraseP hmem) hmatch
  rw [herase] at hmem
  rcases List.mem_append.mp hmem with hbefore | hbehind
  · exact hpre installed hbefore hmatch
  · have hne := (List.pairwise_cons.mp (List.pairwise_append.mp hspread).2.1).1 installed hbehind
      (same_of_named hvictim.1 hfirst) (same_of_named hvictim.1 hmatch)
    rw [priority_of_ruleMatches hvictim.2 hfirst, priority_of_ruleMatches hvictim.2 hmatch] at hne
    exact hne rfl

/-- An instance without another one beside it is the only one. -/
theorem Spread.countP_eq_one {kept : Rule} (hspread : rule.Spread rules) (hkept : kept ∈ rules)
    (hsame : kept.same rule = true)
    (hall : ∀ installed ∈ rules, installed.same rule = true → installed = kept) :
    rules.countP (·.same rule) = 1 := by
  have hmem : kept ∈ rule.instances rules := mem_instances.mpr ⟨hkept, hsame⟩
  have hpairs := hspread.instances
  have hequal : ∀ installed ∈ rule.instances rules, installed = kept := by
    intro installed hinstalled
    obtain ⟨hin, hsame'⟩ := mem_instances.mp hinstalled
    exact hall installed hin hsame'
  rw [← length_instances]
  rcases hinstances : rule.instances rules with _ | ⟨first, rest⟩
  · rw [hinstances] at hmem
    cases hmem
  · rw [hinstances] at hpairs hequal
    rcases rest with _ | ⟨second, rest⟩
    · rfl
    · have hfirst := hequal first List.mem_cons_self
      have hsecond := hequal second (List.mem_cons_of_mem first List.mem_cons_self)
      have hne := (List.pairwise_cons.mp hpairs).1 second List.mem_cons_self
      rw [hfirst, hsecond] at hne
      exact absurd rfl hne

/-! ## What remains -/

/-- Disabled, a rule keeps no instance. -/
theorem not_same_of_mem_settle (hprio : ∀ installed ∈ rules, installed.priority.isSome = true)
    {kept : Rule} (hkept : kept ∈ rule.settle false rules) : ¬ kept.same rule = true := by
  rw [settle_false hprio] at hkept
  simpa [foreign] using (List.mem_filter.mp hkept).2

/-- Enabled, it keeps the survivor. -/
theorem mem_settle_same_iff (hprio : ∀ installed ∈ rules, installed.priority.isSome = true)
    {kept : Rule} :
    kept ∈ rule.settle true rules ∧ kept.same rule = true ↔ kept = rule.survivor rules := by
  have hmem : kept ∈ (rule.settle true rules).filter (·.same rule) ↔
      kept = rule.survivor rules := by
    rw [filter_same_settle hprio, List.mem_singleton]
  exact List.mem_filter.symm.trans hmem

/-- The survivor stands last among the instances. -/
theorem dropLast_instances_concat (hpos : 0 < rules.countP (·.same rule)) :
    (rule.instances rules).dropLast ++ [rule.survivor rules] = rule.instances rules := by
  rw [← length_instances] at hpos
  obtain ⟨last, hlast⟩ : ∃ last, (rule.instances rules).getLast? = some last :=
    ⟨_, List.getLast?_eq_getLast_of_ne_nil (List.ne_nil_of_length_pos hpos)⟩
  rw [survivor, hlast]
  exact List.dropLast_append_getLast? last hlast

/-- Deleting a victim that names nothing of what is to remain makes no difference to that. -/
theorem settle_eraseP {victim : Rule}
    (hprio : ∀ installed ∈ rules, installed.priority.isSome = true)
    (hvictim : victim.same rule = true ∧ victim.priority.isSome = true)
    (hspare : ∀ kept ∈ rule.settle enabled rules, Memory.ruleMatches victim kept = false) :
    rule.settle enabled (rules.eraseP (Memory.ruleMatches victim)) =
      rule.settle enabled rules := by
  by_cases hany : ∃ found ∈ rules, Memory.ruleMatches victim found = true
  · obtain ⟨found, hmem, hmatch⟩ := hany
    have hsame : found.same rule = true := same_of_named hvictim.1 hmatch
    have hfound : found ∈ rule.instances rules := mem_instances.mpr ⟨hmem, hsame⟩
    -- the victim may be gone itself, and names what this instance names
    have herase : rules.eraseP (Memory.ruleMatches victim) = eraseEach [found] rules := by
      rw [eraseEach, eraseEach, ruleMatches_eq_sameAt hvictim.1 hvictim.2,
        ruleMatches_eq_sameAt hsame (hprio found hmem), priority_of_ruleMatches hvictim.2 hmatch]
    rw [herase]
    cases enabled with
    | false => exact settle_false_eraseEach hprio (List.singleton_sublist.mpr hfound)
    | true =>
        have hpos : 0 < rules.countP (·.same rule) := List.countP_pos_iff.mpr ⟨found, hmem, hsame⟩
        refine settle_true_eraseEach hpos hprio (List.singleton_sublist.mpr ?_)
        rw [← dropLast_instances_concat hpos] at hfound
        rcases List.mem_append.mp hfound with hother | hlast
        · exact hother
        · have hkept := (mem_settle_same_iff hprio).mpr (List.mem_singleton.mp hlast)
          exact absurd ((hspare found hkept.1).symm.trans hmatch) Bool.false_ne_true
  · rw [List.eraseP_of_forall_not fun installed hmem hmatch => hany ⟨installed, hmem, hmatch⟩]

/-! ## Victims -/

namespace Victims

/-- The victims of a disabling pass at its listing. -/
theorem of_disabled (hprio : ∀ installed ∈ rules, installed.priority.isSome = true) :
    rule.Victims (rule.settle false rules) rules (rule.instances rules) where
  instances := instances_prioritized rule hprio
  spare victim hvictim kept hkept := by
    rw [← Bool.not_eq_true]
    intro hmatch
    exact not_same_of_mem_settle hprio hkept
      (same_of_named (mem_instances.mp hvictim).2 hmatch)
  cover installed hinstalled hsame :=
    Or.inr ⟨installed, mem_instances.mpr ⟨hinstalled, hsame⟩, ruleMatches_self installed⟩
  remain kept hkept hsame := absurd hsame (not_same_of_mem_settle hprio hkept)

/-- The victims of an enabling pass at its listing, where there is an instance. -/
theorem of_enabled (hprio : ∀ installed ∈ rules, installed.priority.isSome = true)
    (hspread : rule.Spread rules) (hpos : 0 < rules.countP (·.same rule)) :
    rule.Victims (rule.settle true rules) rules (rule.instances rules).dropLast := by
  have hsplit := dropLast_instances_concat hpos
  have hinstances : ∀ victim ∈ (rule.instances rules).dropLast,
      victim.same rule = true ∧ victim.priority.isSome = true := fun victim hvictim =>
    instances_prioritized rule hprio victim (List.dropLast_subset _ hvictim)
  refine ⟨hinstances, ?_, ?_, ?_⟩
  · intro victim hvictim kept hkept
    obtain ⟨hsame, hpriority⟩ := hinstances victim hvictim
    rw [← Bool.not_eq_true]
    intro hmatch
    have hsurvivor : kept = rule.survivor rules :=
      (mem_settle_same_iff hprio).mp ⟨hkept, same_of_named hsame hmatch⟩
    have hpairs := hspread.instances
    rw [← hsplit] at hpairs
    have hne := (List.pairwise_append.mp hpairs).2.2 victim hvictim kept (by simp [hsurvivor])
    exact hne (priority_of_ruleMatches hpriority hmatch).symm
  · intro installed hinstalled hsame
    have hmem : installed ∈ rule.instances rules := mem_instances.mpr ⟨hinstalled, hsame⟩
    rw [← hsplit] at hmem
    rcases List.mem_append.mp hmem with hvictim | hlast
    · exact Or.inr ⟨installed, hvictim, ruleMatches_self installed⟩
    · exact Or.inl ((mem_settle_same_iff hprio).mpr (List.mem_singleton.mp hlast)).1
  · intro kept hkept hsame
    have hsurvivor := (mem_settle_same_iff hprio).mp ⟨hkept, hsame⟩
    have hmem : kept ∈ rule.instances rules := by
      rw [← hsplit, hsurvivor]
      exact List.mem_append_right _ (List.mem_singleton_self _)
    exact (mem_instances.mp hmem).1

/-- What a pass has still to delete stays right while others have their turns. -/
theorem approaches (h : rule.Victims goal rules victims)
    (happroaches : rule.Approaches goal rules after) : rule.Victims goal after victims where
  instances := h.instances
  spare := h.spare
  cover installed hinstalled hsame := by
    rcases happroaches.comes installed hinstalled hsame with hold | hkept
    · exact h.cover installed hold hsame
    · exact Or.inl hkept
  remain kept hkept hsame := happroaches.stays kept hkept hsame (h.remain kept hkept hsame)

theorem nil (hcover : ∀ installed ∈ rules, installed.same rule = true → installed ∈ goal)
    (hremain : ∀ kept ∈ goal, kept.same rule = true → kept ∈ rules) :
    rule.Victims goal rules [] where
  instances := List.forall_mem_nil _
  spare := List.forall_mem_nil _
  cover installed hinstalled hsame := Or.inl (hcover installed hinstalled hsame)
  remain := hremain

/-- Without victims the rules are settled. -/
theorem eq_goal (h : rule.Victims goal rules [])
    (hcontested : rule.Contested enabled goal most rules) : rules = goal := by
  obtain ⟨hprio, hspread, rfl, -⟩ := hcontested
  have hcover : ∀ installed ∈ rules, installed.same rule = true →
      installed ∈ rule.settle enabled rules := by
    intro installed hinstalled hsame
    rcases h.cover installed hinstalled hsame with hkept | ⟨victim, hvictim, -⟩
    · exact hkept
    · cases hvictim
  refine (settle_of_countP ?_).symm
  cases enabled with
  | false =>
      refine List.countP_eq_zero.mpr fun installed hinstalled hsame => ?_
      exact not_same_of_mem_settle hprio (hcover installed hinstalled hsame) hsame
  | true =>
      obtain ⟨hkept, hsame⟩ : rule.survivor rules ∈ rule.settle true rules ∧
          (rule.survivor rules).same rule = true := (mem_settle_same_iff hprio).mpr rfl
      refine hspread.countP_eq_one (h.remain _ hkept hsame) hsame ?_
      intro installed hinstalled hsame'
      exact (mem_settle_same_iff hprio).mp ⟨hcover installed hinstalled hsame', hsame'⟩

end Victims

/-! ## Calls -/

section Calls

variable {left : Nat} {pass : Pass}

theorem Approaches.refl (rules : List Rule) : rule.Approaches goal rules rules where
  comes _ hinstalled _ := Or.inl hinstalled
  stays _ _ _ hkept := hkept

theorem Contender.approaches (h : rule.Contender enabled goal most rules left pass)
    (happroaches : rule.Approaches goal rules after) :
    rule.Contender enabled goal most after left pass := by
  rcases h with hleft | ⟨hleft, henabled, hadded, hcover⟩ | ⟨hleft, hvictims⟩
  · exact .waiting hleft
  · refine .adding hleft henabled hadded fun installed hinstalled hsame => ?_
    rcases happroaches.comes installed hinstalled hsame with hold | hkept
    · exact hcover installed hold hsame
    · exact hkept
  · exact .deleting hleft (hvictims.approaches happroaches)

/-- The pass after its listing. -/
theorem contender_converge (hcontested : rule.Contested enabled goal most rules)
    (hleft : most + 1 ≤ left) :
    rule.Contender enabled goal most rules left
      (rule.converge enabled (rule.instances rules)) := by
  obtain ⟨hprio, hspread, rfl, hfew⟩ := hcontested
  have hlength : (rule.instances rules).length ≤ left := by
    rw [length_instances]
    exact Nat.le_trans hfew hleft
  cases enabled with
  | false => exact .deleting hlength (Victims.of_disabled hprio)
  | true =>
      rcases Nat.eq_zero_or_pos (rules.countP (·.same rule)) with hnone | hpos
      · rw [instances_eq_nil_iff.mpr hnone]
        refine .adding ?_ rfl ?_ ?_
        · exact Nat.le_trans (Nat.succ_le_succ (Nat.zero_le most)) hleft
        · intro kept hkept hsame
          rw [← survivor_of_none hnone]
          exact (mem_settle_same_iff hprio).mp ⟨hkept, hsame⟩
        · exact fun installed hinstalled hsame =>
            absurd hsame (List.countP_eq_zero.mp hnone installed hinstalled)
      · rw [converge_true_of_pos hpos]
        refine .deleting ?_ (Victims.of_enabled hprio hspread hpos)
        exact Nat.le_trans (List.dropLast_sublist _).length_le hlength

/-- One of the victims is deleted, if another pass has not done it. -/
theorem contested_eraseP {victim : Rule} (hcontested : rule.Contested enabled goal most rules)
    (hvictims : rule.Victims goal rules (victim :: victims)) :
    let after := rules.eraseP (Memory.ruleMatches victim)
    rule.Contested enabled goal most after ∧ rule.Victims goal after victims ∧
      rule.Approaches goal rules after := by
  intro after
  have hsub : after.Sublist rules := List.eraseP_sublist
  have hspare := hvictims.spare victim List.mem_cons_self
  have happroaches : rule.Approaches goal rules after := by
    constructor
    · exact fun installed hinstalled _ => Or.inl (hsub.subset hinstalled)
    · intro kept hkept _ hmem
      refine (List.mem_eraseP_of_neg ?_).mpr hmem
      rw [hspare kept hkept]
      exact Bool.false_ne_true
  refine ⟨?_, ?_, happroaches⟩
  · obtain ⟨hprio, hspread, rfl, hfew⟩ := hcontested
    refine ⟨fun installed hinstalled => hprio installed (hsub.subset hinstalled),
      List.Pairwise.sublist hsub hspread, ?_, Nat.le_trans hsub.countP_le hfew⟩
    exact settle_eraseP hprio (hvictims.instances victim List.mem_cons_self) hspare
  · obtain ⟨hinstances, hspares, hcover, hremain⟩ := hvictims.approaches happroaches
    refine ⟨fun other hother => hinstances other (List.mem_cons_of_mem victim hother),
      fun other hother => hspares other (List.mem_cons_of_mem victim hother), ?_, hremain⟩
    intro installed hinstalled hsame
    rcases hcover installed hinstalled hsame with hkept | ⟨other, hother, hmatch⟩
    · exact Or.inl hkept
    · rcases List.mem_cons.mp hother with rfl | hother
      · have hgone := hcontested.spread.ruleMatches_of_mem_eraseP
          (hvictims.instances other List.mem_cons_self) hinstalled
        exact absurd (hgone.symm.trans hmatch) Bool.false_ne_true
      · exact Or.inr ⟨other, hother, hmatch⟩

/-- The rule is added where there is no instance. -/
theorem contested_addRule_of_none (hcontested : rule.Contested true goal most rules)
    (hnone : rules.countP (·.same rule) = 0) :
    let after := rules ++ [Memory.installedForm rule]
    rule.Contested true goal most after ∧ rule.Victims goal after [] ∧
      rule.Approaches goal rules after := by
  intro after
  obtain ⟨hprio, hspread, hsettles, -⟩ := hcontested
  rw [settle_true_of_none hnone] at hsettles
  subst hsettles
  have hcount : after.countP (·.same rule) = 1 := by
    have hconverged := (rule.settle_converged true hprio).countP
    rwa [settle_true_of_none hnone] at hconverged
  refine ⟨⟨?_, ?_, settle_of_countP hcount, ?_⟩, Victims.nil ?_ ?_, ?_, ?_⟩
  · intro installed hinstalled
    rcases List.mem_append.mp hinstalled with hold | hnew
    · exact hprio installed hold
    · rw [List.mem_singleton.mp hnew]
      rfl
  · refine List.pairwise_append.mpr ⟨hspread, List.pairwise_singleton _ _, ?_⟩
    intro installed hinstalled _ _ hsame
    exact absurd hsame (List.countP_eq_zero.mp hnone installed hinstalled)
  · rw [hcount]
    exact Nat.le_add_left 1 most
  · exact fun installed hinstalled _ => hinstalled
  · exact fun kept hkept _ => hkept
  · exact fun installed hinstalled _ => Or.inr hinstalled
  · exact fun kept hkept _ _ => hkept

/-- The rule is added, if another pass has not done it. -/
theorem contested_addRule {memory : Memory}
    (hcontested : rule.Contested true goal most memory.rules)
    (hadded : ∀ kept ∈ goal, kept.same rule = true → kept = Memory.installedForm rule)
    (hcover : ∀ installed ∈ memory.rules, installed.same rule = true → installed ∈ goal) :
    let next := Memory.host (.addRule rule) memory
    Pass.tolerate Fault.isAlreadyExists next.1 = .ok () ∧
      rule.Contested true goal most next.2.rules ∧ rule.Victims goal next.2.rules [] ∧
      rule.Approaches goal memory.rules next.2.rules := by
  intro next
  rcases Nat.eq_zero_or_pos (memory.rules.countP (·.same rule)) with hnone | hpos
  · have hnext : next =
        (.ok (), { memory with rules := memory.rules ++ [Memory.installedForm rule] }) :=
      host_addRule_of_none hnone
    rw [hnext]
    exact ⟨rfl, contested_addRule_of_none hcontested hnone⟩
  · obtain ⟨installed, hinstalled, hsame⟩ := List.countP_pos_iff.mp hpos
    have hform := hadded installed (hcover installed hinstalled hsame) hsame
    have hnext : next = (.error (.kernel Errno.alreadyExists), memory) := by
      refine if_pos (List.any_eq_true.mpr ⟨installed, hinstalled, ?_⟩)
      rw [hform]
      exact ruleMatches_installedForm rule
    rw [hnext]
    refine ⟨rfl, hcontested, Victims.nil hcover fun kept hkept hsame' => ?_, Approaches.refl _⟩
    rw [hadded kept hkept hsame', ← hform]
    exact hinstalled

end Calls

/-! ## Turns -/

section Turns

variable {drill : Drill}

theorem advance_of_quiet (hquiet : drill.Quiet) (c : Call) (next : c.Reply → Pass) :
    (Pass.call c next).advance Drill.host drill =
      (next (Memory.host c drill.memory).1,
        { drill with
          memory := (Memory.host c drill.memory).2
          log := drill.log ++ [c] }) := by
  rw [Pass.advance, Drill.host_of_quiet c hquiet]

/-- The listing holds every instance that is installed. -/
theorem advance_ensure (hquiet : drill.Quiet) :
    (rule.ensure enabled).advance Drill.host drill =
      (rule.converge enabled (rule.instances drill.memory.rules),
        { drill with log := drill.log ++ [.listRules rule.family] }) := by
  rw [← instances_listRules]
  exact advance_of_quiet hquiet _ _

/-- A victim that is gone already is no failure. -/
theorem advance_deleteEach (hquiet : drill.Quiet) (victim : Rule) (victims : List Rule) :
    (deleteEach (victim :: victims) (.ok ())).advance Drill.host drill =
      (deleteEach victims (.ok ()),
        { drill with
          memory := { drill.memory with
            rules := drill.memory.rules.eraseP (Memory.ruleMatches victim) }
          log := drill.log ++ [.delRule victim] }) := by
  rw [← delRule_snd]
  refine (advance_of_quiet hquiet (.delRule victim) _).trans ?_
  exact congrArg (fun sofar => (deleteEach victims sofar, _)) (latest_delRule _ victim _)

theorem advance_addRule (hquiet : drill.Quiet)
    (hreply : Pass.tolerate Fault.isAlreadyExists
      (Memory.host (.addRule rule) drill.memory).1 = .ok ()) :
    (Pass.attempt (.addRule rule) (Pass.tolerate Fault.isAlreadyExists)).advance Drill.host
        drill =
      (.done (.ok ()),
        { drill with
          memory := (Memory.host (.addRule rule) drill.memory).2
          log := drill.log ++ [.addRule rule] }) := by
  rw [← hreply]
  exact advance_of_quiet hquiet _ _

/-- A call of any of the passes upholds what is true of the host and of all passes. -/
theorem ensure_upholds (rule : Rule) (enabled : Bool) (goal : List Rule) (most : Nat) :
    Pass.Upholds Drill.host
      (fun drill => drill.Quiet ∧ rule.Contested enabled goal most drill.memory.rules)
      (fun left pass drill => rule.Contender enabled goal most drill.memory.rules left pass) := by
  rintro left pass drill ⟨hquiet, hcontested⟩ hcontender
  rcases hcontender with hleft | ⟨hleft, rfl, hadded, hcover⟩ | ⟨hleft, hvictims⟩
  · rw [advance_ensure hquiet]
    refine ⟨⟨hquiet, hcontested⟩, contender_converge hcontested ?_, fun _ _ hother => hother⟩
    exact Nat.le_sub_one_of_lt hleft
  · obtain ⟨hreply, hafter, hnone, happroaches⟩ := contested_addRule hcontested hadded hcover
    rw [advance_addRule hquiet hreply]
    refine ⟨⟨hquiet, hafter⟩, .deleting (Nat.zero_le _) hnone, ?_⟩
    exact fun _ _ hother => hother.approaches happroaches
  · rename_i victims
    rcases victims with _ | ⟨victim, victims⟩
    · -- the pass is over, and its turn changes nothing
      exact ⟨⟨hquiet, hcontested⟩, .deleting (Nat.zero_le _) hvictims, fun _ _ hother => hother⟩
    · obtain ⟨hafter, hrest, happroaches⟩ := contested_eraseP hcontested hvictims
      rw [advance_deleteEach hquiet]
      refine ⟨⟨hquiet, hafter⟩, .deleting (Nat.le_sub_one_of_lt hleft) hrest, ?_⟩
      exact fun _ _ hother => hother.approaches happroaches

/-- A pass that is over has succeeded, and has no victims left. -/
theorem Contender.of_done {left : Nat} {outcome : Outcome}
    (h : rule.Contender enabled goal most rules left (.done outcome)) :
    outcome = .ok () ∧ rule.Victims goal rules [] := by
  generalize hpass : Pass.done outcome = pass at h
  rcases h with hleft | ⟨hleft, henabled, hadded, hcover⟩ | ⟨hleft, hvictims⟩
  · cases hpass
  · cases hpass
  · rename_i victims
    rcases victims with _ | ⟨victim, victims⟩
    · exact ⟨Pass.done.inj hpass, hvictims⟩
    · cases hpass

/-- A pass without calls to make is over. -/
theorem Contender.eq_done {pass : Pass}
    (h : rule.Contender enabled goal most rules 0 pass) : pass = .done (.ok ()) := by
  rcases h with hleft | ⟨hleft, henabled, hadded, hcover⟩ | ⟨hleft, hvictims⟩
  · exact absurd hleft (Nat.not_succ_le_zero _)
  · exact absurd hleft (Nat.not_succ_le_zero _)
  · rw [List.eq_nil_of_length_eq_zero (Nat.le_zero.mp hleft)]
    rfl

end Turns

/-- Any number of passes of one rule in one direction, on a host without planned failures whose
rules all have a priority and on which no two instances share one, with their calls in any order. A
pass is over after as many turns as there were instances, and two more. No pass fails, and rules
that are no instances stay as they are throughout. Once a pass is over, the rules are what one pass
alone leaves: one instance, or none. -/
theorem ensure_race (rule : Rule) (enabled : Bool) (drill : Drill) (hquiet : drill.Quiet)
    (hprio : ∀ installed ∈ drill.memory.rules, installed.priority.isSome = true)
    (hspread : rule.Spread drill.memory.rules) (count : Nat) (turns : List Nat) :
    let alone := ((rule.ensure enabled).run Drill.host drill).2.memory.rules
    let last := Pass.interleave Drill.host turns
      (List.replicate count (rule.ensure enabled), drill)
    (∀ i < count, drill.memory.rules.countP (·.same rule) + 2 ≤ turns.count i →
        last.1[i]? = some (.done (.ok ()))) ∧
      last.1.length = count ∧ (∀ outcome, .done outcome ∈ last.1 → outcome = .ok ()) ∧
      last.2.memory.rules.filter rule.foreign = drill.memory.rules.filter rule.foreign ∧
      ∀ outcome, .done outcome ∈ last.1 → last.2.memory.rules = alone ∧
        last.2.memory.rules.countP (·.same rule) = enabled.toNat := by
  intro alone last
  let goal := rule.settle enabled drill.memory.rules
  let most := drill.memory.rules.countP (·.same rule)
  have halone : alone = goal := by
    change ((rule.ensure enabled).run Drill.host drill).2.memory.rules = _
    rw [Drill.run_of_quiet _ hquiet, run_ensure]
  have hcontested : rule.Contested enabled goal most drill.memory.rules :=
    ⟨hprio, hspread, rfl, Nat.le_succ most⟩
  have hwaiting : ∀ (i : Nat) pass, (List.replicate count (rule.ensure enabled))[i]? = some pass →
      rule.Contender enabled goal most drill.memory.rules (most + 2) pass := by
    intro i pass hpass
    rw [List.eq_of_mem_replicate (List.mem_of_getElem? hpass)]
    exact .waiting (Nat.le_refl _)
  obtain ⟨⟨-, hlast⟩, hlength, hcontenders⟩ :=
    Pass.interleave_upholds (rule.ensure_upholds enabled goal most) turns (fun _ => most + 2)
      (List.replicate count (rule.ensure enabled), drill) ⟨hquiet, hcontested⟩ hwaiting
  have hover : ∀ outcome, .done outcome ∈ last.1 →
      outcome = .ok () ∧ rule.Victims goal last.2.memory.rules [] := by
    intro outcome hmem
    obtain ⟨i, hi⟩ := List.mem_iff_getElem?.mp hmem
    exact (hcontenders i _ hi).of_done
  rw [List.length_replicate] at hlength
  refine ⟨?_, hlength, fun outcome hmem => (hover outcome hmem).1, ?_, ?_⟩
  · intro i hi hturns
    have hpass : last.1[i]? = some last.1[i] := List.getElem?_eq_getElem (hlength ▸ hi)
    have hcontender := hcontenders i _ hpass
    rw [Nat.sub_eq_zero_of_le hturns] at hcontender
    rw [hpass, hcontender.eq_done]
  · have hforeign := (rule.settle_converged enabled hlast.prioritized).foreign
    rw [hlast.settles] at hforeign
    rw [← hforeign]
    exact (rule.settle_converged enabled hprio).foreign
  · intro outcome hmem
    have hsettled := (hover outcome hmem).2.eq_goal hlast
    rw [hsettled, halone]
    exact ⟨rfl, (rule.settle_converged enabled hprio).countP⟩

/-- Two passes that list the same three instances, and delete the same two of them in turns. -/
theorem ensure_race_duplicates :
    let rule := ((ofFamily .inet).withMark 16).withPriority 100
    let other := (ofFamily .inet).withPriority 100
    let rules := [rule.withPriority 50, rule, other, rule.withPriority 200]
    let drill := Drill.ofMemory ⟨[], [], rules, []⟩
    let turns := [0, 1, 0, 1, 1, 0, 1, 1, 0, 0]
    let last := Pass.interleave Drill.host turns (List.replicate 2 (rule.ensure true), drill)
    drill.Quiet ∧ (∀ installed ∈ rules, installed.priority.isSome = true) ∧ rule.Spread rules ∧
      last.1[0]? = some (.done (.ok ())) ∧
      last.1[1]? = some (.done (.ok ())) ∧ last.2.memory.rules = [rule, other] := by
  intro rule other rules drill turns last
  have hquiet : drill.Quiet := ⟨rfl, rfl⟩
  have hprio : ∀ installed ∈ rules, installed.priority.isSome = true := by decide
  have hspread : rule.Spread rules := by decide
  obtain ⟨hdone, -, -, -, hover⟩ := ensure_race rule true drill hquiet hprio hspread 2 turns
  have hfirst := hdone 0 (by decide) (by decide)
  have hsecond := hdone 1 (by decide) (by decide)
  refine ⟨hquiet, hprio, hspread, hfirst, hsecond, ?_⟩
  rw [(hover _ (List.mem_of_getElem? hfirst)).1]
  decide +kernel

/-- Where two instances do share a priority, each of two passes deletes one of them for the other's
sake, and none is left. -/
example :
    let rule := (ofFamily .inet).withPriority 100
    let drill := Drill.ofMemory ⟨[], [], [rule.withPriority 50, rule.withPriority 50], []⟩
    (Pass.interleave Drill.host [0, 1, 0, 1]
      (List.replicate 2 (rule.ensure true), drill)).2.memory.rules = [] := by
  decide +kernel

end Rule

end HostNet
