import HostNet.Config
import HostNet.Proofs.Tables
/-!
Bringing the instances of a rule down to one, or to none. A delete takes the first installed rule
that the victim names, which need not be the victim itself where priorities repeat; counted by
priority it makes no difference. Main statements: which instance survives and that nothing else
moves, and that a second pass finds nothing to do.
-/
namespace HostNet

namespace Rule

/-- The installed rule is an instance at the priority. -/
def sameAt (rule : Rule) (priority : Option UInt32) (installed : Rule) : Bool :=
  installed.same rule && decide (installed.priority = priority)

/-- The installed rule stands at the priority the rule asks for. -/
def prefers (rule installed : Rule) : Bool :=
  rule.priority.isSome && installed.priority == rule.priority

def foreign (rule installed : Rule) : Bool :=
  !installed.same rule

/-- Of the installed rules `pre ++ kept :: post`, the one that enabling keeps: the last instance
at the rule's own priority, or the last instance of all where none stands at it. -/
def Survives (rule : Rule) (pre : List Rule) (kept : Rule) (post : List Rule) : Prop :=
  kept.same rule = true ∧
    ((rule.prefers kept = true ∧
        ∀ other ∈ post, other.same rule = true → rule.prefers other = false) ∨
      ((∀ other ∈ pre ++ kept :: post, other.same rule = true → rule.prefers other = false) ∧
        ∀ other ∈ post, other.same rule = false))

/-- The rules after deleting for each victim the first rule it names. -/
def eraseEach : (victims rules : List Rule) → List Rule
  | [], rules => rules
  | victim :: victims, rules =>
    eraseEach victims (rules.eraseP (Memory.ruleMatches victim))

variable {rule : Rule}

/-! ## Counting instances by priority -/

theorem same_congr {a b : Rule} (h : a.same b = true) (installed : Rule) :
    installed.same a = installed.same b := by
  rw [same, same, same_iff.mp h]

/-- An instance with a priority names exactly the instances at that priority. -/
theorem ruleMatches_eq_sameAt {victim : Rule} (hsame : victim.same rule = true)
    (hprio : victim.priority.isSome = true) :
    Memory.ruleMatches victim = rule.sameAt victim.priority := by
  funext installed
  obtain ⟨priority, hpriority⟩ := Option.isSome_iff_exists.mp hprio
  rw [Memory.ruleMatches, sameAt, same_congr hsame, hpriority, Bool.eq_iff_iff]
  simp only [Option.isNone_some, Bool.false_or, Bool.and_eq_true, beq_iff_eq, decide_eq_true_eq]
  exact and_congr_right fun _ => eq_comm

theorem countP_eraseP_sameAt {priority : Option UInt32} {rules : List Rule}
    (h : 0 < rules.countP (rule.sameAt priority)) (other : Option UInt32) :
    (rules.eraseP (rule.sameAt priority)).countP (rule.sameAt other) +
        (if priority = other then 1 else 0) =
      rules.countP (rule.sameAt other) := by
  obtain ⟨found, hfound, hat⟩ := List.countP_pos_iff.mp h
  obtain ⟨first, pre, post, -, hfirst, rfl, herase⟩ := List.exists_of_eraseP hfound hat
  have hother : rule.sameAt other first = decide (priority = other) := by
    simp only [sameAt, Bool.and_eq_true, decide_eq_true_eq] at hfirst
    rw [sameAt, hfirst.1, hfirst.2, Bool.true_and]
  rw [herase, List.countP_append, List.countP_append, List.countP_cons, hother]
  by_cases heq : priority = other <;> simp [heq, Nat.add_assoc]

theorem countP_same_eraseP {priority : Option UInt32} {rules : List Rule}
    (h : 0 < rules.countP (rule.sameAt priority)) :
    (rules.eraseP (rule.sameAt priority)).countP (·.same rule) + 1 =
      rules.countP (·.same rule) := by
  apply Memory.countP_eraseP (List.countP_pos_iff.mp h)
  exact fun installed hat => (Bool.and_eq_true_iff.mp hat).1

theorem eraseEach_sublist (victims rules : List Rule) :
    (eraseEach victims rules).Sublist rules := by
  induction victims generalizing rules with
  | nil => exact List.Sublist.refl rules
  | cons victim victims ih => exact (ih _).trans List.eraseP_sublist

/-- Deleting leaves every rule alone that is no instance. -/
theorem filter_foreign_eraseEach {victims : List Rule}
    (hsame : ∀ victim ∈ victims, victim.same rule = true) (rules : List Rule) :
    (eraseEach victims rules).filter rule.foreign = rules.filter rule.foreign := by
  induction victims generalizing rules with
  | nil => rfl
  | cons victim victims ih =>
      rw [eraseEach, ih fun other hother => hsame other (List.mem_cons_of_mem victim hother)]
      apply Memory.filter_eraseP
      intro installed _ hmatch
      have hinstance : installed.same rule = true :=
        same_trans (Memory.same_of_ruleMatches hmatch) (hsame victim List.mem_cons_self)
      simp [foreign, hinstance]

section Deletes

variable {victims : List Rule}

/-- Once the first victim is deleted, the others still fit what is left. -/
theorem fit_eraseP (extra : Option UInt32 → Nat) {victim : Rule} {rules : List Rule}
    (hsame : victim.same rule = true) (hpos : 0 < rules.countP (rule.sameAt victim.priority))
    (hfit : ∀ priority, (victim :: victims).countP (rule.sameAt priority) ≤
      rules.countP (rule.sameAt priority) + extra priority) (priority : Option UInt32) :
    victims.countP (rule.sameAt priority) ≤
      (rules.eraseP (rule.sameAt victim.priority)).countP (rule.sameAt priority) +
        extra priority := by
  have hle := hfit priority
  have hcount := countP_eraseP_sameAt hpos priority
  have hvictim : rule.sameAt priority victim = decide (victim.priority = priority) := by
    rw [sameAt, hsame, Bool.true_and]
  rw [List.countP_cons, hvictim] at hle
  by_cases heq : victim.priority = priority
  · simp only [heq, decide_true, if_true] at hle hcount ⊢
    omega
  · simp only [heq, decide_false, if_false, Bool.false_eq_true] at hle hcount ⊢
    omega

/-- Victims that are instances and no more than there are at each priority are deleted one by
one. -/
theorem countP_eraseEach {rules : List Rule}
    (hvictims : ∀ victim ∈ victims, victim.same rule = true ∧ victim.priority.isSome = true)
    (hfit : ∀ priority, victims.countP (rule.sameAt priority) ≤
      rules.countP (rule.sameAt priority)) :
    (eraseEach victims rules).countP (·.same rule) + victims.length =
      rules.countP (·.same rule) := by
  induction victims generalizing rules with
  | nil => rfl
  | cons victim victims ih =>
      obtain ⟨hsame, hprio⟩ := hvictims victim List.mem_cons_self
      have hat : rule.sameAt victim.priority victim = true := by
        simp [sameAt, hsame]
      have hpos : 0 < rules.countP (rule.sameAt victim.priority) := by
        have hle := hfit victim.priority
        rw [List.countP_cons_of_pos hat] at hle
        omega
      have hrest := fit_eraseP (fun _ => 0) hsame hpos hfit
      rw [eraseEach, ruleMatches_eq_sameAt hsame hprio, List.length_cons, ← Nat.add_assoc,
        ih (fun other hother => hvictims other (List.mem_cons_of_mem victim hother)) hrest,
        countP_same_eraseP hpos]

/-- An instance with no other of its priority behind it outlives the victims, if these are no more
at each priority than the rest of the instances. What stands before it and behind it stays on its
side. -/
theorem eraseEach_split {pre post : List Rule} {kept : Rule}
    (hvictims : ∀ victim ∈ victims, victim.same rule = true ∧ victim.priority.isSome = true)
    (hfit : ∀ priority, victims.countP (rule.sameAt priority) ≤
      pre.countP (rule.sameAt priority) + post.countP (rule.sameAt priority))
    (hlast : post.countP (rule.sameAt kept.priority) = 0) :
    ∃ pre' post', eraseEach victims (pre ++ kept :: post) = pre' ++ kept :: post' ∧
      pre'.Sublist pre ∧ post'.Sublist post ∧
      pre'.filter rule.foreign = pre.filter rule.foreign ∧
      post'.filter rule.foreign = post.filter rule.foreign := by
  induction victims generalizing pre post with
  | nil => exact ⟨pre, post, rfl, List.Sublist.refl _, List.Sublist.refl _, rfl, rfl⟩
  | cons victim victims ih =>
      obtain ⟨hsame, hprio⟩ := hvictims victim List.mem_cons_self
      have hrest := fun other hother => hvictims other (List.mem_cons_of_mem victim hother)
      have hforeign : ∀ other : Rule, rule.sameAt victim.priority other = true →
          rule.foreign other = false := by
        intro other hother
        simp [foreign, (Bool.and_eq_true_iff.mp hother).1]
      rw [eraseEach, ruleMatches_eq_sameAt hsame hprio]
      by_cases hpre : 0 < pre.countP (rule.sameAt victim.priority)
      · obtain ⟨found, hfound, hat⟩ := List.countP_pos_iff.mp hpre
        rw [List.eraseP_append_left hat _ hfound]
        obtain ⟨pre', post', herase, hsub, hsub', hfilter, hfilter'⟩ :=
          ih hrest (fit_eraseP _ hsame hpre hfit) hlast
        refine ⟨pre', post', herase, hsub.trans List.eraseP_sublist, hsub', ?_, hfilter'⟩
        rw [hfilter, Memory.filter_eraseP fun other _ => hforeign other]
      · -- no instance at the priority stands before `kept`, so the victim names one behind it
        have hnone : pre.countP (rule.sameAt victim.priority) = 0 := Nat.eq_zero_of_not_pos hpre
        have hpost : 0 < post.countP (rule.sameAt victim.priority) := by
          have hle := hfit victim.priority
          have hat : rule.sameAt victim.priority victim = true := by
            simp [sameAt, hsame]
          rw [List.countP_cons_of_pos hat] at hle
          omega
        have hkept : ¬ rule.sameAt victim.priority kept = true := by
          intro hat
          have hpriority : kept.priority = victim.priority :=
            of_decide_eq_true (Bool.and_eq_true_iff.mp hat).2
          rw [hpriority] at hlast
          omega
        rw [List.eraseP_append_right _ (List.countP_eq_zero.mp hnone),
          List.eraseP_cons_of_neg hkept]
        have hfit' : ∀ priority, (victim :: victims).countP (rule.sameAt priority) ≤
            post.countP (rule.sameAt priority) + pre.countP (rule.sameAt priority) := by
          intro priority
          rw [Nat.add_comm]
          exact hfit priority
        have hrestFit : ∀ priority, victims.countP (rule.sameAt priority) ≤
            pre.countP (rule.sameAt priority) +
              (post.eraseP (rule.sameAt victim.priority)).countP (rule.sameAt priority) := by
          intro priority
          rw [Nat.add_comm]
          exact fit_eraseP _ hsame hpost hfit' priority
        have hlast' : (post.eraseP (rule.sameAt victim.priority)).countP
            (rule.sameAt kept.priority) = 0 :=
          Nat.eq_zero_of_le_zero (hlast ▸ List.eraseP_sublist.countP_le)
        obtain ⟨pre', post', herase, hsub, hsub', hfilter, hfilter'⟩ := ih hrest hrestFit hlast'
        refine ⟨pre', post', herase, hsub, hsub'.trans List.eraseP_sublist, hfilter, ?_⟩
        rw [hfilter', Memory.filter_eraseP fun other _ => hforeign other]

end Deletes

/-! ## The instance that survives -/

theorem mem_instances {installed : Rule} {listed : List Rule} :
    installed ∈ rule.instances listed ↔ installed ∈ listed ∧ installed.same rule = true := by
  simp only [instances, List.mem_append, List.mem_filter]
  grind

theorem instances_eq (listed : List Rule) :
    rule.instances listed =
      (listed.filter (·.same rule)).filter (fun installed => !rule.prefers installed) ++
        (listed.filter (·.same rule)).filter rule.prefers :=
  rfl

theorem instances_prioritized (rule : Rule) {rules : List Rule}
    (hprio : ∀ installed ∈ rules, installed.priority.isSome = true) :
    ∀ victim ∈ rule.instances rules, victim.same rule = true ∧
      victim.priority.isSome = true := by
  intro victim hvictim
  obtain ⟨hinstalled, hsame⟩ := mem_instances.mp hvictim
  exact ⟨hsame, hprio victim hinstalled⟩

theorem instances_eq_nil_iff {listed : List Rule} :
    rule.instances listed = [] ↔ listed.countP (·.same rule) = 0 := by
  rw [List.eq_nil_iff_forall_not_mem, List.countP_eq_zero]
  exact forall_congr' fun installed => by rw [mem_instances, not_and]

/-- Sorting the instances neither loses nor repeats any. -/
theorem countP_instances (p : Rule → Bool) (listed : List Rule) :
    (rule.instances listed).countP p = (listed.filter (·.same rule)).countP p := by
  rw [List.countP_eq_countP_filter_add (listed.filter (·.same rule)) p rule.prefers,
    instances_eq, List.countP_append, Nat.add_comm]

theorem length_instances (listed : List Rule) :
    (rule.instances listed).length = listed.countP (·.same rule) := by
  rw [← List.countP_true, countP_instances, List.countP_true, List.countP_eq_length_filter]

theorem countP_sameAt_instances (rule : Rule) (priority : Option UInt32) (listed : List Rule) :
    (rule.instances listed).countP (rule.sameAt priority) =
      listed.countP (rule.sameAt priority) := by
  rw [countP_instances, List.countP_filter]
  apply List.countP_congr
  intro installed _
  simp only [sameAt]
  grind

/-- The instance that survives stands last among those to delete. -/
theorem instances_of_survives {pre post : List Rule} {kept : Rule}
    (h : rule.Survives pre kept post) :
    ∃ victims, rule.instances (pre ++ kept :: post) = victims ++ [kept] := by
  obtain ⟨hsame, hcases⟩ := h
  have hfound : (pre ++ kept :: post).filter (·.same rule) =
      pre.filter (·.same rule) ++ kept :: post.filter (·.same rule) := by
    rw [List.filter_append, List.filter_cons, if_pos hsame]
  rw [instances_eq, hfound]
  rcases hcases with ⟨hprefers, hlast⟩ | ⟨hnone, hlast⟩
  · have hpost : (post.filter (·.same rule)).filter rule.prefers = [] := by
      rw [List.filter_eq_nil_iff]
      intro other hother
      obtain ⟨hmem, hinstance⟩ := List.mem_filter.mp hother
      simp [hlast other hmem hinstance]
    have hwanted : (pre.filter (·.same rule) ++ kept :: post.filter (·.same rule)).filter
        rule.prefers = (pre.filter (·.same rule)).filter rule.prefers ++ [kept] := by
      rw [List.filter_append, List.filter_cons_of_pos hprefers, hpost]
    exact ⟨_, by rw [hwanted, ← List.append_assoc]⟩
  · have hpost : post.filter (·.same rule) = [] := by
      rw [List.filter_eq_nil_iff]
      intro other hother
      simp [hlast other hother]
    have hothers : ∀ other ∈ pre.filter (·.same rule) ++ [kept],
        rule.prefers other = false := by
      intro other hother
      rcases List.mem_append.mp hother with hpre | hkept
      · obtain ⟨hmem, hinstance⟩ := List.mem_filter.mp hpre
        exact hnone other (List.mem_append_left _ hmem) hinstance
      · rw [List.mem_singleton.mp hkept]
        exact hnone kept (by simp) hsame
    have hwanted : (pre.filter (·.same rule) ++ [kept]).filter rule.prefers = [] := by
      rw [List.filter_eq_nil_iff]
      intro other hother
      simp [hothers other hother]
    have hrest : (pre.filter (·.same rule) ++ [kept]).filter
        (fun installed => !rule.prefers installed) = pre.filter (·.same rule) ++ [kept] := by
      rw [List.filter_eq_self]
      intro other hother
      simp [hothers other hother]
    exact ⟨pre.filter (·.same rule), by rw [hpost, hrest, hwanted, List.append_nil]⟩

theorem exists_last {p : Rule → Bool} {l : List Rule} (h : ∃ x ∈ l, p x = true) :
    ∃ pre x post, l = pre ++ x :: post ∧ p x = true ∧ ∀ y ∈ post, p y = false := by
  induction l with
  | nil => simp at h
  | cons head tail ih =>
      by_cases htail : ∃ x ∈ tail, p x = true
      · obtain ⟨pre, x, post, rfl, hx, hpost⟩ := ih htail
        exact ⟨head :: pre, x, post, rfl, hx, hpost⟩
      · obtain ⟨x, hmem, hx⟩ := h
        rcases List.mem_cons.mp hmem with rfl | hmem
        · exact ⟨[], x, tail, rfl, hx, by simpa using htail⟩
        · exact absurd ⟨x, hmem, hx⟩ htail

/-- Where there is an instance, one survives. -/
theorem exists_survives {rules : List Rule} (h : 0 < rules.countP (·.same rule)) :
    ∃ pre kept post, rules = pre ++ kept :: post ∧ rule.Survives pre kept post := by
  by_cases hprefers : ∃ other ∈ rules, (other.same rule && rule.prefers other) = true
  · obtain ⟨pre, kept, post, rfl, hkept, hpost⟩ := exists_last hprefers
    obtain ⟨hsame, hprefers⟩ := Bool.and_eq_true_iff.mp hkept
    refine ⟨pre, kept, post, rfl, hsame, Or.inl ⟨hprefers, ?_⟩⟩
    intro other hother hinstance
    simpa [hinstance] using hpost other hother
  · obtain ⟨pre, kept, post, rfl, hsame, hpost⟩ := exists_last (List.countP_pos_iff.mp h)
    refine ⟨pre, kept, post, rfl, hsame, Or.inr ⟨?_, hpost⟩⟩
    intro other hother hinstance
    cases hvalue : rule.prefers other with
    | false => rfl
    | true => exact absurd ⟨other, hother, by rw [hinstance, hvalue]; rfl⟩ hprefers

theorem Survives.sublist {pre pre' post post' : List Rule} {kept : Rule}
    (h : rule.Survives pre kept post) (hpre : pre'.Sublist pre) (hpost : post'.Sublist post) :
    rule.Survives pre' kept post' := by
  obtain ⟨hsame, ⟨hprefers, hlast⟩ | ⟨hnone, hlast⟩⟩ := h
  · exact ⟨hsame, Or.inl ⟨hprefers, fun other hother => hlast other (hpost.subset hother)⟩⟩
  · refine ⟨hsame, Or.inr ⟨?_, fun other hother => hlast other (hpost.subset hother)⟩⟩
    intro other hother
    exact hnone other ((hpre.append (hpost.cons_cons kept)).subset hother)

theorem Survives.countP_post {pre post : List Rule} {kept : Rule}
    (h : rule.Survives pre kept post) : post.countP (rule.sameAt kept.priority) = 0 := by
  rw [List.countP_eq_zero]
  intro other hother hat
  simp only [sameAt, Bool.and_eq_true, decide_eq_true_eq] at hat
  obtain ⟨-, ⟨hprefers, hlast⟩ | ⟨-, hlast⟩⟩ := h
  · have hnot := hlast other hother hat.1
    rw [prefers, hat.2] at hnot
    exact absurd (hnot.symm.trans hprefers) Bool.false_ne_true
  · exact absurd ((hlast other hother).symm.trans hat.1) Bool.false_ne_true

theorem filter_foreign_eq_self {rules : List Rule} (h : rules.countP (·.same rule) = 0) :
    rules.filter rule.foreign = rules := by
  rw [List.filter_eq_self]
  intro other hother
  have hnot := List.countP_eq_zero.mp h other hother
  simpa [foreign] using hnot

theorem countP_filter_foreign (rules : List Rule) :
    (rules.filter rule.foreign).countP (·.same rule) = 0 := by
  rw [List.countP_eq_zero]
  intro other hother
  simpa [foreign] using (List.mem_filter.mp hother).2

section Collapse

variable {pre post : List Rule} {kept : Rule}

/-- Deleting some of the instances before the survivor in the order of deletion keeps it, and
keeps it the one to survive. -/
theorem eraseEach_of_sublist {deleted : List Rule}
    (hprio : ∀ installed ∈ pre ++ kept :: post, installed.priority.isSome = true)
    (h : rule.Survives pre kept post)
    (hdeleted : deleted.Sublist (rule.instances (pre ++ kept :: post)).dropLast) :
    ∃ pre' post', eraseEach deleted (pre ++ kept :: post) = pre' ++ kept :: post' ∧
      rule.Survives pre' kept post' ∧
      pre'.filter rule.foreign = pre.filter rule.foreign ∧
      post'.filter rule.foreign = post.filter rule.foreign := by
  have hvictims := fun victim hvictim => instances_prioritized rule hprio victim
    ((List.dropLast_sublist _).subset (hdeleted.subset hvictim))
  obtain ⟨victims, hinstances⟩ := instances_of_survives h
  rw [hinstances, List.dropLast_concat] at hdeleted
  have hfit : ∀ priority, deleted.countP (rule.sameAt priority) ≤
      pre.countP (rule.sameAt priority) + post.countP (rule.sameAt priority) := by
    intro priority
    have hall := countP_sameAt_instances rule priority (pre ++ kept :: post)
    have hle := hdeleted.countP_le (p := rule.sameAt priority)
    simp only [hinstances, List.countP_append, List.countP_cons, List.countP_nil] at hall
    omega
  obtain ⟨pre', post', herase, hpre, hpost, hfilter, hfilter'⟩ :=
    eraseEach_split hvictims hfit h.countP_post
  exact ⟨pre', post', herase, h.sublist hpre hpost, hfilter, hfilter'⟩

/-- Deleting all instances but the last in the order of deletion leaves the survivor in its place
among the foreign rules. -/
theorem eraseEach_dropLast
    (hprio : ∀ installed ∈ pre ++ kept :: post, installed.priority.isSome = true)
    (h : rule.Survives pre kept post) :
    eraseEach (rule.instances (pre ++ kept :: post)).dropLast (pre ++ kept :: post) =
      pre.filter rule.foreign ++ kept :: post.filter rule.foreign := by
  obtain ⟨pre', post', herase, -, hpre, hpost⟩ :=
    eraseEach_of_sublist hprio h (List.Sublist.refl _)
  have hvictims := fun victim hvictim => instances_prioritized rule hprio victim
    ((List.dropLast_sublist (rule.instances (pre ++ kept :: post))).subset hvictim)
  have hcount := countP_eraseEach hvictims fun priority =>
    Nat.le_trans (List.dropLast_sublist _).countP_le
      (Nat.le_of_eq (countP_sameAt_instances rule priority (pre ++ kept :: post)))
  have hkept : (kept :: post').countP (·.same rule) = post'.countP (·.same rule) + 1 :=
    List.countP_cons_of_pos h.1
  have hpos : 0 < (pre ++ kept :: post).countP (·.same rule) :=
    List.countP_pos_iff.mpr ⟨kept, by simp, h.1⟩
  rw [List.length_dropLast, length_instances, herase, List.countP_append, hkept] at hcount
  rw [herase, ← hpre, ← hpost, filter_foreign_eq_self (by omega),
    filter_foreign_eq_self (by omega)]

end Collapse

/-- Deleting all instances leaves the foreign rules. -/
theorem eraseEach_instances {rules : List Rule}
    (hprio : ∀ installed ∈ rules, installed.priority.isSome = true) :
    eraseEach (rule.instances rules) rules = rules.filter rule.foreign := by
  have hinstances := instances_prioritized rule hprio
  have hcount := countP_eraseEach hinstances fun priority =>
    Nat.le_of_eq (countP_sameAt_instances rule priority rules)
  rw [length_instances] at hcount
  rw [← filter_foreign_eraseEach (fun victim hvictim => (hinstances victim hvictim).1) rules,
    filter_foreign_eq_self (by omega)]

end Rule

end HostNet
