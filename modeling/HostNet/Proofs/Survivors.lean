import HostNet.Proofs.FeatureOutcome
/-!
The rules that remain where several members of a feature are rules. Each member settles its own
instances and moves no other's, so that the survivor of a rule can be told from the rules of
before. Main statements: an enabling pass that succeeds leaves exactly the survivor of each rule,
and the survivor stands at the rule's own priority if an instance stood there, or none anywhere.
-/
namespace HostNet

open Pass

namespace Rule

/-- The instance that an enabling pass leaves: the last one in the order of deletion, or the rule
itself where there is none. -/
def survivor (rule : Rule) (rules : List Rule) : Rule :=
  (rule.instances rules).getLast?.getD (Memory.installedForm rule)

/-- There is no instance of the rule, or one stands at its own priority. Otherwise all instances
were left behind under other priorities. -/
def Home (rule : Rule) (rules : List Rule) : Prop :=
  rules.countP (·.same rule) = 0 ∨
    ∃ installed ∈ rules, installed.same rule = true ∧ rule.prefers installed = true

/-- The first rule is looked up ahead of the second, by a strictly smaller priority. -/
def precedes (first second : Rule) : Bool :=
  match first.priority, second.priority with
  | some priority, some other => decide (priority < other)
  | _, _ => false

variable {rule : Rule} {rules : List Rule}

/-! ## Survivors -/

theorem survivor_congr {others : List Rule}
    (h : rules.filter (·.same rule) = others.filter (·.same rule)) :
    rule.survivor rules = rule.survivor others := by
  rw [survivor, survivor, instances_eq, instances_eq, h]

theorem survivor_of_none (hnone : rules.countP (·.same rule) = 0) :
    rule.survivor rules = Memory.installedForm rule := by
  rw [survivor, instances_eq_nil_iff.mpr hnone]
  rfl

theorem survivor_of_survives {pre post : List Rule} {kept : Rule}
    (h : rule.Survives pre kept post) : rule.survivor (pre ++ kept :: post) = kept := by
  obtain ⟨victims, hinstances⟩ := instances_of_survives h
  rw [survivor, hinstances, List.getLast?_concat]
  rfl

theorem survivor_priority {priority : UInt32} (hrule : rule.priority = some priority)
    (hhome : rule.Home rules) : (rule.survivor rules).priority = some priority := by
  rcases hhome with hnone | ⟨found, hfound, hsame, hprefers⟩
  · rw [survivor_of_none hnone, Memory.installedForm, hrule]
    rfl
  · have hpos : 0 < rules.countP (·.same rule) :=
      List.countP_pos_iff.mpr ⟨found, hfound, hsame⟩
    obtain ⟨pre, kept, post, rfl, hsurvives⟩ := exists_survives hpos
    rw [survivor_of_survives hsurvives, ← hrule]
    rcases hsurvives.2 with ⟨hkept, -⟩ | ⟨hnone, -⟩
    · exact LawfulBEq.eq_of_beq (Bool.and_eq_true_iff.mp hkept).2
    · exact absurd ((hnone found hfound hsame).symm.trans hprefers) Bool.false_ne_true

/-! ## What settling one rule does to the instances of another -/

theorem filter_same_filter_foreign (rules : List Rule) :
    (rules.filter rule.foreign).filter (·.same rule) = [] := by
  rw [List.filter_eq_nil_iff]
  exact List.countP_eq_zero.mp (countP_filter_foreign rules)

theorem filter_same_settle (hprio : ∀ installed ∈ rules, installed.priority.isSome = true) :
    (rule.settle true rules).filter (·.same rule) = [rule.survivor rules] := by
  rcases rule.settle_converged true hprio with
    ⟨hnone, hafter⟩ | ⟨pre, kept, post, rfl, hkept, hafter⟩
  · rw [hafter, ← installedForm_eq, survivor_of_none hnone, List.filter_append,
      filter_same_filter_foreign, List.filter_cons, if_pos (Memory.same_installedForm rule)]
    rfl
  · rw [hafter, survivor_of_survives hkept, List.filter_append, filter_same_filter_foreign,
      List.filter_cons, if_pos hkept.1, filter_same_filter_foreign]
    rfl

/-- An instance of one rule is no instance of a rule of another shape. -/
theorem foreign_of_same {next installed : Rule} (hother : next.same rule = false)
    (hsame : installed.same rule = true) : next.foreign installed = true := by
  rw [foreign, Bool.not_eq_true', ← Bool.not_eq_true]
  intro hnext
  rw [same_comm] at hnext
  exact Bool.false_ne_true (hother.symm.trans (same_trans hnext hsame))

theorem filter_same_settle_of_not_same {next : Rule}
    (hprio : ∀ installed ∈ rules, installed.priority.isSome = true)
    (hother : next.same rule = false) :
    (next.settle true rules).filter (·.same rule) = rules.filter (·.same rule) := by
  have hforeign : ∀ l : List Rule,
      l.filter (·.same rule) = (l.filter next.foreign).filter (·.same rule) := by
    intro l
    rw [List.filter_filter]
    apply List.filter_congr
    intro installed _
    cases hsame : installed.same rule with
    | false => rfl
    | true => rw [foreign_of_same hother hsame, Bool.and_self]
  rw [hforeign, (next.settle_converged true hprio).foreign, ← hforeign]

theorem settle_prioritized (enabled : Bool)
    (hprio : ∀ installed ∈ rules, installed.priority.isSome = true) :
    ∀ installed ∈ rule.settle enabled rules, installed.priority.isSome = true := by
  cases enabled with
  | false => exact fun installed hmem => hprio installed ((eraseEach_sublist _ _).subset hmem)
  | true =>
      rw [settle]
      split
      · intro installed hmem
        rcases List.mem_append.mp hmem with hold | hnew
        · exact hprio installed hold
        · rw [List.mem_singleton.mp hnew]
          rfl
      · exact fun installed hmem => hprio installed ((eraseEach_sublist _ _).subset hmem)

end Rule

namespace Config

/-! ## Members, one after the other -/

/-- The installed rules after a pass of the member that succeeds. -/
def settleRules (enabled : Bool) (rules : List Rule) : Config → List Rule
  | rule wanted => wanted.settle enabled rules
  | _ => rules

theorem onRules_of_mayMake {config : Config} {enabled : Bool} {c : Call}
    (hmay : config.MayMake enabled c) (hother : ∀ wanted, config ≠ .rule wanted)
    (rules : List Rule) : c.onRules rules = rules := by
  cases config with
  | rule wanted => exact absurd rfl (hother wanted)
  | _ => cases c <;> first | rfl | exact hmay.elim

theorem rules_run (config : Config) (enabled : Bool) (memory : Memory) :
    ((config.ensure enabled).run Memory.host memory).2.rules =
      config.settleRules enabled memory.rules := by
  have hkept : (∀ wanted, config ≠ .rule wanted) →
      ((config.ensure enabled).run Memory.host memory).2.rules = memory.rules := by
    intro hother
    have htrial : Trial Fault.Hard (config.ensure enabled) memory _ _ := trial_run _ memory
    refine htrial.preserves (fun after => after.rules = memory.rules) ?_
      (config.makes_ensure enabled) rfl
    intro c between hmay hrules
    rw [Memory.host_rules, onRules_of_mayMake hmay hother, hrules]
  cases config with
  | rule wanted => rw [ensure, Rule.run_ensure, settleRules]
  | sysctl config => exact hkept fun _ => Config.noConfusion
  | route wanted => exact hkept fun _ => Config.noConfusion
  | chain config => exact hkept fun _ => Config.noConfusion

section Fold

variable {wanted : Rule} {configs : List Config} {rules : List Rule}

theorem settleRules_prioritized (config : Config) (enabled : Bool)
    (hprio : ∀ installed ∈ rules, installed.priority.isSome = true) :
    ∀ installed ∈ config.settleRules enabled rules, installed.priority.isSome = true := by
  cases config with
  | rule next => exact Rule.settle_prioritized enabled hprio
  | _ => exact hprio

theorem filter_same_settleRules {config : Config}
    (hprio : ∀ installed ∈ rules, installed.priority.isSome = true) (hne : config ≠ .rule wanted)
    (hdistinct : ∀ next, config = .rule next → next.same wanted = true → next = wanted) :
    (config.settleRules true rules).filter (·.same wanted) = rules.filter (·.same wanted) := by
  cases config with
  | rule next =>
      apply Rule.filter_same_settle_of_not_same hprio
      rw [← Bool.not_eq_true]
      intro hsame
      exact hne (congrArg Config.rule (hdistinct next rfl hsame))
  | _ => rfl

/-- Once there is a single instance of a rule, the members leave it alone. -/
theorem filter_same_foldl_of_countP
    (hdistinct : ∀ next, .rule next ∈ configs → next.same wanted = true → next = wanted)
    (hprio : ∀ installed ∈ rules, installed.priority.isSome = true)
    (hcount : rules.countP (·.same wanted) = 1) :
    (configs.foldl (settleRules true) rules).filter (·.same wanted) =
      rules.filter (·.same wanted) := by
  induction configs generalizing rules with
  | nil => rfl
  | cons config configs ih =>
      have hstep : (config.settleRules true rules).filter (·.same wanted) =
          rules.filter (·.same wanted) := by
        by_cases hwanted : config = .rule wanted
        · rw [hwanted, settleRules, Rule.settle_of_countP hcount]
        · apply filter_same_settleRules hprio hwanted
          rintro next rfl
          exact hdistinct next List.mem_cons_self
      have hcount' : (config.settleRules true rules).countP (·.same wanted) = 1 := by
        rw [List.countP_eq_length_filter, hstep, ← List.countP_eq_length_filter, hcount]
      rw [List.foldl_cons, ih (fun next hnext => hdistinct next (List.mem_cons_of_mem config hnext))
        (config.settleRules_prioritized true hprio) hcount', hstep]

/-- Members of no two shapes leave exactly the survivor of each of them, wherever it stands in
their order. -/
theorem filter_same_foldl (hwanted : .rule wanted ∈ configs)
    (hdistinct : ∀ next, .rule next ∈ configs → next.same wanted = true → next = wanted)
    (hprio : ∀ installed ∈ rules, installed.priority.isSome = true) :
    (configs.foldl (settleRules true) rules).filter (·.same wanted) = [wanted.survivor rules] := by
  induction configs generalizing rules with
  | nil => exact absurd hwanted List.not_mem_nil
  | cons config configs ih =>
      have hrest := fun next hnext => hdistinct next (List.mem_cons_of_mem config hnext)
      have hprio' := config.settleRules_prioritized true hprio
      rw [List.foldl_cons]
      by_cases hfirst : config = .rule wanted
      · have hstep : (config.settleRules true rules).filter (·.same wanted) =
            [wanted.survivor rules] := by
          rw [hfirst, settleRules, Rule.filter_same_settle hprio]
        rw [filter_same_foldl_of_countP hrest hprio', hstep]
        rw [List.countP_eq_length_filter, hstep]
        rfl
      · have hstep : (config.settleRules true rules).filter (·.same wanted) =
            rules.filter (·.same wanted) := by
          apply filter_same_settleRules hprio hfirst
          rintro next rfl
          exact hdistinct next List.mem_cons_self
        have hmem : .rule wanted ∈ configs :=
          (List.mem_cons.mp hwanted).resolve_left fun heq => hfirst heq.symm
        rw [ih hmem hrest hprio', Rule.survivor_congr hstep]

end Fold

end Config

/-! ## Whole passes -/

theorem Pass.run_andThen_eq_ok {σ : Type} {host : Host σ} {first second : Pass} {state : σ}
    (h : ((first.andThen second).run host state).1 = .ok ()) :
    (first.run host state).1 = .ok () := by
  rw [run_andThen] at h
  generalize first.run host state = result at h ⊢
  obtain ⟨fault | done, after⟩ := result
  · exact h
  · rfl

namespace Feature

theorem rules_inOrder {configs : List Config} {enabled : Bool} {memory : Memory}
    (hok : ((inOrder (configs.map (·.ensure enabled))).run Memory.host memory).1 = .ok ()) :
    ((inOrder (configs.map (·.ensure enabled))).run Memory.host memory).2.rules =
      configs.foldl (Config.settleRules enabled) memory.rules := by
  induction configs generalizing memory with
  | nil => rfl
  | cons config configs ih =>
      rw [List.map_cons, inOrder] at hok ⊢
      have hfirst := run_andThen_eq_ok hok
      rw [run_andThen_of_ok hfirst] at hok ⊢
      rw [ih hok, config.rules_run, List.foldl_cons]

/-- A pass that succeeds leaves exactly the survivor of each rule of the feature. -/
theorem filter_same_of_run {feature : Feature} {wanted : Rule} {memory : Memory}
    (hwanted : .rule wanted ∈ feature.configs)
    (hdistinct : ∀ next, .rule next ∈ feature.configs → next.same wanted = true → next = wanted)
    (hprio : ∀ installed ∈ memory.rules, installed.priority.isSome = true)
    (hok : ((feature.ensure true).run Memory.host memory).1 = .ok ()) :
    ((feature.ensure true).run Memory.host memory).2.rules.filter (·.same wanted) =
      [wanted.survivor memory.rules] := by
  have hrules := rules_inOrder hok
  rw [ensure, hrules]
  exact Config.filter_same_foldl hwanted hdistinct hprio

end Feature

end HostNet
