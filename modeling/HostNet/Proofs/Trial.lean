import HostNet.Config
import HostNet.Host.Drill
import Mathlib.Logic.Relation
/-!
Passes on tables any of whose calls may be refused. A trial is one way such a pass can go, so a
fact about trials covers every pattern of failures at once. Main statements: what none of the
calls of a pass can break holds after each of its trials, and a pass on a drill is a trial whose
refusals are the planned failures.
-/
namespace HostNet

namespace Pass

/-- One way a pass can go where any call may be refused, with a fault of the given nature and
without effect: how the pass ends, and the tables it leaves. -/
inductive Trial (refusal : Fault → Prop) : Pass → Memory → Outcome → Memory → Prop where
  | done (outcome : Outcome) (memory : Memory) :
      Trial refusal (.done outcome) memory outcome memory
  | answered {c : Call} {next : c.Reply → Pass} {before after : Memory} {outcome : Outcome}
      (rest : Trial refusal (next (Memory.host c before).1) (Memory.host c before).2
        outcome after) :
      Trial refusal (.call c next) before outcome after
  | refused {c : Call} {next : c.Reply → Pass} {before after : Memory} {outcome : Outcome}
      (fault : Fault) (hfault : refusal fault)
      (rest : Trial refusal (next (.error fault)) before outcome after) :
      Trial refusal (.call c next) before outcome after

/-- Any finite number of trials of a pass, each from where the one before left the tables. -/
def Tries (refusal : Fault → Prop) (pass : Pass) : Memory → Memory → Prop :=
  Relation.ReflTransGen fun before after => ∃ outcome, Trial refusal pass before outcome after

/-- Every call the pass can come to make is allowed, whatever it is answered. -/
def Makes (allowed : Call → Prop) : Pass → Prop
  | done _ => True
  | call c next => allowed c ∧ ∀ reply, (next reply).Makes allowed

/-- The calls a pass makes on a host, in order. -/
def calls {σ : Type} (host : Host σ) : Pass → σ → List Call
  | done _, _ => []
  | call c next, state => c :: (next (host c state).1).calls host (host c state).2

/-- The states a host goes through in a pass, from the first to the last. -/
def stages {σ : Type} (host : Host σ) : Pass → σ → List σ
  | done _, state => [state]
  | call c next, state => state :: (next (host c state).1).stages host (host c state).2

/-! ## Trials of composed passes -/

section Trials

variable {refusal : Fault → Prop} {before after : Memory} {outcome : Outcome}

theorem trial_done_iff {last : Outcome} :
    Trial refusal (.done last) before outcome after ↔ outcome = last ∧ after = before := by
  constructor
  · intro h
    cases h with
    | done => exact ⟨rfl, rfl⟩
  · rintro ⟨rfl, rfl⟩
    exact Trial.done _ _

theorem trial_call_iff {c : Call} {next : c.Reply → Pass} :
    Trial refusal (.call c next) before outcome after ↔
      (∃ fault, refusal fault ∧ Trial refusal (next (.error fault)) before outcome after) ∨
        Trial refusal (next (Memory.host c before).1) (Memory.host c before).2 outcome after := by
  constructor
  · intro h
    cases h with
    | answered rest => exact Or.inr rest
    | refused fault hfault rest => exact Or.inl ⟨fault, hfault, rest⟩
  · rintro (⟨fault, hfault, rest⟩ | rest)
    · exact Trial.refused fault hfault rest
    · exact Trial.answered rest

/-- A pass none of whose calls is refused is one of its trials. -/
theorem trial_run (pass : Pass) (memory : Memory) :
    Trial refusal pass memory (pass.run Memory.host memory).1
      (pass.run Memory.host memory).2 := by
  induction pass generalizing memory with
  | done outcome => exact Trial.done outcome memory
  | call c next ih => exact Trial.answered (ih _ _)

theorem trial_andThen {first second : Pass}
    (h : Trial refusal (first.andThen second) before outcome after) :
    (∃ fault, outcome = .error fault ∧ Trial refusal first before (.error fault) after) ∨
      ∃ between, Trial refusal first before (.ok ()) between ∧
        Trial refusal second between outcome after := by
  induction first generalizing before with
  | done last =>
      cases last with
      | ok done => exact Or.inr ⟨before, Trial.done _ _, h⟩
      | error fault =>
          obtain ⟨rfl, rfl⟩ := trial_done_iff.mp h
          exact Or.inl ⟨fault, rfl, Trial.done _ _⟩
  | call c next ih =>
      rcases trial_call_iff.mp h with ⟨fault, hfault, rest⟩ | rest
      · rcases ih _ rest with ⟨last, hlast, hfirst⟩ | ⟨between, hfirst, hsecond⟩
        · exact Or.inl ⟨last, hlast, Trial.refused fault hfault hfirst⟩
        · exact Or.inr ⟨between, Trial.refused fault hfault hfirst, hsecond⟩
      · rcases ih _ rest with ⟨last, hlast, hfirst⟩ | ⟨between, hfirst, hsecond⟩
        · exact Or.inl ⟨last, hlast, Trial.answered hfirst⟩
        · exact Or.inr ⟨between, Trial.answered hfirst, hsecond⟩

theorem run_attempt {σ : Type} (host : Host σ) (c : Call) (settle : c.Reply → Outcome)
    (state : σ) :
    (attempt c settle).run host state = (settle (host c state).1, (host c state).2) :=
  rfl

/-- A trial of one call: it was refused, or it was answered. -/
theorem trial_attempt {c : Call} {settle : c.Reply → Outcome}
    (h : Trial refusal (attempt c settle) before outcome after) :
    (∃ fault, refusal fault ∧ outcome = settle (.error fault) ∧ after = before) ∨
      (outcome = settle (Memory.host c before).1 ∧ after = (Memory.host c before).2) := by
  rcases trial_call_iff.mp h with ⟨fault, hfault, rest⟩ | rest
  · exact Or.inl ⟨fault, hfault, trial_done_iff.mp rest⟩
  · exact Or.inr (trial_done_iff.mp rest)

end Trials

/-! ## The calls a pass makes -/

section Makes

variable {allowed : Call → Prop}

theorem Makes.mono {wider : Call → Prop} (hle : ∀ c, allowed c → wider c) {pass : Pass}
    (h : pass.Makes allowed) : pass.Makes wider := by
  induction pass with
  | done _ => trivial
  | call c next ih => exact ⟨hle c h.1, fun reply => ih reply (h.2 reply)⟩

theorem Makes.andThen {first second : Pass} (hfirst : first.Makes allowed)
    (hsecond : second.Makes allowed) : (first.andThen second).Makes allowed := by
  induction first with
  | done outcome =>
      cases outcome with
      | ok _ => exact hsecond
      | error _ => trivial
  | call c next ih => exact ⟨hfirst.1, fun reply => ih reply (hfirst.2 reply)⟩

theorem Makes.inOrder {passes : List Pass} (h : ∀ pass ∈ passes, pass.Makes allowed) :
    (inOrder passes).Makes allowed := by
  induction passes with
  | nil => trivial
  | cons pass passes ih =>
      apply Makes.andThen (h pass List.mem_cons_self)
      exact ih fun other hother => h other (List.mem_cons_of_mem pass hother)

theorem Makes.attempt {c : Call} {settle : c.Reply → Outcome} (h : allowed c) :
    (Pass.attempt c settle).Makes allowed :=
  ⟨h, fun _ => trivial⟩

theorem makes_true (pass : Pass) : pass.Makes fun _ => True := by
  induction pass with
  | done _ => trivial
  | call c next ih => exact ⟨trivial, ih⟩

/-- What no allowed call breaks holds after every trial of a pass that makes no other. -/
theorem Trial.preserves {refusal : Fault → Prop} (holds : Memory → Prop)
    (hstep : ∀ c memory, allowed c → holds memory → holds (Memory.host c memory).2)
    {pass : Pass} {before after : Memory} {outcome : Outcome} (hmakes : pass.Makes allowed)
    (htrial : Trial refusal pass before outcome after) (h : holds before) : holds after := by
  induction htrial with
  | done => exact h
  | answered _ ih => exact ih (hmakes.2 _) (hstep _ _ hmakes.1 h)
  | refused fault _ _ ih => exact ih (hmakes.2 _) h

theorem run_mem_stages {σ : Type} {host : Host σ} (pass : Pass) (state : σ) :
    (pass.run host state).2 ∈ pass.stages host state := by
  induction pass generalizing state with
  | done outcome => exact List.mem_cons_self
  | call c next ih => exact List.mem_cons_of_mem state (ih (host c state).1 (host c state).2)

/-- What no allowed call breaks holds at every stage of a pass that makes no other. -/
theorem Makes.forall_stages {σ : Type} {host : Host σ} {holds : σ → Prop}
    (hstep : ∀ c state, allowed c → holds state → holds (host c state).2) {pass : Pass} {state : σ}
    (hmakes : pass.Makes allowed) (h : holds state) :
    ∀ stage ∈ pass.stages host state, holds stage := by
  induction pass generalizing state with
  | done outcome =>
      intro stage hstage
      rw [List.mem_singleton.mp hstage]
      exact h
  | call c next ih =>
      intro stage hstage
      rcases List.mem_cons.mp hstage with rfl | hlater
      · exact h
      · exact ih _ (hmakes.2 _) (hstep c state hmakes.1 h) stage hlater

end Makes

end Pass

/-! ## Drills -/

namespace Drill

/-- All failures to come are of the given nature. -/
def Plans (nature : Fault → Prop) (drill : Drill) : Prop :=
  (∀ entry ∈ drill.once, nature entry.2) ∧ ∀ entry ∈ drill.always, nature entry.2

/-- No failure is to come. -/
def Quiet (drill : Drill) : Prop :=
  drill.once = [] ∧ drill.always = []

instance (drill : Drill) : Decidable drill.Quiet :=
  inferInstanceAs (Decidable (_ ∧ _))

theorem Plans.of_lookup {nature : Fault → Prop} {entries : List (CallKind × Fault)}
    (h : ∀ entry ∈ entries, nature entry.2) {kind : CallKind} {fault : Fault}
    (hlookup : entries.lookup kind = some fault) : nature fault := by
  obtain ⟨l₁, l₂, rfl, -⟩ := List.lookup_eq_some_iff.mp hlookup
  exact h (kind, fault) (by simp)

/-- A call on a drill is logged, and then refused by a planned failure or answered by the tables;
the failures still to come were planned before. -/
theorem host_cases {nature : Fault → Prop} {drill : Drill} (hplans : drill.Plans nature)
    (c : Call) :
    (host c drill).2.log = drill.log ++ [c] ∧ (host c drill).2.Plans nature ∧
      ((∃ fault, nature fault ∧ (host c drill).1 = .error fault ∧
          (host c drill).2.memory = drill.memory) ∨
        ((host c drill).1 = (Memory.host c drill.memory).1 ∧
          (host c drill).2.memory = (Memory.host c drill.memory).2)) := by
  unfold host planned
  cases halways : drill.always.lookup c.kind with
  | some fault =>
      exact ⟨rfl, hplans, Or.inl ⟨fault, Plans.of_lookup hplans.2 halways, rfl, rfl⟩⟩
  | none =>
      cases honce : drill.once.lookup c.kind with
      | some fault =>
          refine ⟨rfl, ⟨?_, hplans.2⟩, Or.inl ⟨fault, Plans.of_lookup hplans.1 honce, rfl, rfl⟩⟩
          intro other hother
          exact hplans.1 other (List.mem_of_mem_eraseP hother)
      | none => exact ⟨rfl, hplans, Or.inr ⟨rfl, rfl⟩⟩

/-- A pass on a drill is one trial of it, with the planned failures as refusals. -/
theorem trial_run {nature : Fault → Prop} (pass : Pass) {drill : Drill}
    (hplans : drill.Plans nature) :
    Pass.Trial nature pass drill.memory (pass.run host drill).1
      (pass.run host drill).2.memory := by
  induction pass generalizing drill with
  | done outcome => exact Pass.Trial.done outcome drill.memory
  | call c next ih =>
      obtain ⟨-, hafter, hcases⟩ := host_cases hplans c
      have hrest := ih (host c drill).1 hafter
      rcases hcases with ⟨fault, hfault, hreply, hmemory⟩ | ⟨hreply, hmemory⟩
      · refine Pass.Trial.refused fault hfault ?_
        rw [← hmemory, ← hreply]
        exact hrest
      · refine Pass.Trial.answered ?_
        rw [← hmemory, ← hreply]
        exact hrest

theorem plans_true (drill : Drill) : drill.Plans fun _ => True :=
  ⟨fun _ _ => trivial, fun _ _ => trivial⟩

/-- Without planned failures a drill answers a call as its tables do, and logs it. -/
theorem host_of_quiet (c : Call) {drill : Drill} (hquiet : drill.Quiet) :
    host c drill =
      ((Memory.host c drill.memory).1,
        { drill with
          memory := (Memory.host c drill.memory).2
          log := drill.log ++ [c] }) := by
  obtain ⟨memory, once, always, log⟩ := drill
  obtain ⟨rfl, rfl⟩ := hquiet
  rfl

/-- Without planned failures a drill answers as its tables do, and logs the calls. -/
theorem run_of_quiet (pass : Pass) {drill : Drill} (hquiet : drill.Quiet) :
    pass.run host drill =
      ((pass.run Memory.host drill.memory).1,
        { drill with
          memory := (pass.run Memory.host drill.memory).2
          log := drill.log ++ pass.calls Memory.host drill.memory }) := by
  induction pass generalizing drill with
  | done outcome => simp [Pass.run, Pass.calls]
  | call c next ih =>
      obtain ⟨memory, once, always, log⟩ := drill
      obtain ⟨rfl, rfl⟩ := hquiet
      have hnext : (⟨(Memory.host c memory).2, [], [], log ++ [c]⟩ : Drill).Quiet := ⟨rfl, rfl⟩
      refine (ih (Memory.host c memory).1 hnext).trans ?_
      simp [Pass.run, Pass.calls]

end Drill

end HostNet
