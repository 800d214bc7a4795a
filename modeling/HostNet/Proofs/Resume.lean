import HostNet.Proofs.Tables
import HostNet.Proofs.Trial
/-!
Passes that can be resumed after a failure. A pass may stop halfway, and the next one starts from
what it left. Main statements: passes whose next run does not show where the one before stopped
can be put one after the other, as long as none of them undoes what another has settled.
-/
namespace HostNet

/-- A failure that counts as success in neither direction. -/
def Fault.Hard (fault : Fault) : Prop :=
  fault.kind ≠ .alreadyExists ∧ fault.kind ≠ .notFound

theorem Fault.Hard.isAlreadyExists {fault : Fault} (h : fault.Hard) :
    fault.isAlreadyExists = false :=
  beq_eq_false_iff_ne.mpr h.1

theorem Fault.Hard.isNotFound {fault : Fault} (h : fault.Hard) : fault.isNotFound = false :=
  beq_eq_false_iff_ne.mpr h.2

namespace Memory

/-- The parameters after writing those that are there, in order. -/
def overwrite (writes sysctls : List (String × String)) : List (String × String) :=
  writes.foldl (fun sysctls entry => replace entry.1 entry.2 sysctls) sysctls

/-- The tables after writing parameters. -/
def write (memory : Memory) (writes : List (String × String)) : Memory :=
  { memory with sysctls := overwrite writes memory.sysctls }

theorem write_append (memory : Memory) (writes later : List (String × String)) :
    memory.write (writes ++ later) = (memory.write writes).write later := by
  simp [write, overwrite, List.foldl_append]

@[simp] theorem write_rules (memory : Memory) (writes : List (String × String)) :
    (memory.write writes).rules = memory.rules :=
  rfl

theorem write_eq_self_iff {memory : Memory} {writes : List (String × String)} :
    memory.write writes = memory ↔ overwrite writes memory.sysctls = memory.sysctls := by
  constructor
  · exact fun h => congrArg Memory.sysctls h
  · intro h
    rw [write, h]

/-- Writes that change nothing still change nothing after a call that leaves the parameters
alone. -/
theorem write_host {c : Call} {memory : Memory} {writes : List (String × String)}
    (hc : c.onSysctls memory.sysctls = memory.sysctls) (h : memory.write writes = memory) :
    (host c memory).2.write writes = (host c memory).2 := by
  rw [write_eq_self_iff] at h ⊢
  rw [host_sysctls, hc, h]

/-- A value written last hides an earlier one of the same key. -/
theorem replace_overwrite_replace (key value : String)
    (writes sysctls : List (String × String)) :
    replace key value (overwrite writes (replace key value sysctls)) =
      replace key value (overwrite writes sysctls) := by
  induction writes generalizing sysctls with
  | nil => exact replace_replace key value value sysctls
  | cons entry writes ih =>
      change replace key value
          (overwrite writes (replace entry.1 entry.2 (replace key value sysctls))) =
        replace key value (overwrite writes (replace entry.1 entry.2 sysctls))
      by_cases hkey : entry.1 = key
      · rw [hkey, replace_replace]
      · rw [replace_comm hkey, ih]

theorem lookup_overwrite_isSome (writes sysctls : List (String × String)) (key : String) :
    ((overwrite writes sysctls).lookup key).isSome = (sysctls.lookup key).isSome := by
  induction writes generalizing sysctls with
  | nil => rfl
  | cons entry writes ih =>
      change ((overwrite writes (replace entry.1 entry.2 sysctls)).lookup key).isSome = _
      rw [ih, lookup_replace_isSome]

end Memory

namespace Pass

/-- The order of the tables survives every trial. -/
theorem Trial.orderly {refusal : Fault → Prop} {pass : Pass} {before after : Memory}
    {outcome : Outcome} (h : Trial refusal pass before outcome after) (horderly : before.Orderly) :
    after.Orderly :=
  h.preserves Memory.Orderly (fun c _ _ hmemory => hmemory.host c) pass.makes_true horderly

/-- A pass that can be taken up again after any trial with hard failures. Once it has succeeded
the tables are settled, and from then on it only writes its parameters anew. Writes that the
tables already hold, such as those of the passes before it, make no difference to it. -/
structure Resumable (pass : Pass) (writes : List (String × String)) (Settled : Memory → Prop) :
    Prop where
  finishes : ∀ {before after : Memory}, before.Orderly →
    Trial Fault.Hard pass before (.ok ()) after → pass.run Memory.host before = (.ok (), after)
  settles : ∀ {before after : Memory}, before.Orderly →
    pass.run Memory.host before = (.ok (), after) → Settled after
  resumes : ∀ (held : List (String × String)) {before after : Memory} {outcome : Outcome},
    before.Orderly → before.write held = before → Trial Fault.Hard pass before outcome after →
    pass.run Memory.host (after.write held) = pass.run Memory.host before
  rests : ∀ {memory : Memory}, Settled memory →
    pass.run Memory.host memory = (.ok (), memory.write writes)
  steady : ∀ (held : List (String × String)) {memory : Memory}, Settled memory →
    Settled (memory.write held)

/-- No trial of the pass undoes what holds of the tables. -/
def Keeps (holds : Memory → Prop) (pass : Pass) : Prop :=
  ∀ ⦃before after : Memory⦄ ⦃outcome : Outcome⦄, Trial Fault.Hard pass before outcome after →
    holds before → holds after

theorem Keeps.of_makes {holds : Memory → Prop} {allowed : Call → Prop} {pass : Pass}
    (hmakes : pass.Makes allowed)
    (hstep : ∀ c memory, allowed c → holds memory → holds (Memory.host c memory).2) :
    pass.Keeps holds := by
  intro before after outcome htrial hbefore
  exact htrial.preserves holds hstep hmakes hbefore

theorem Keeps.attempt {holds : Memory → Prop} {c : Call} {settle : c.Reply → Outcome}
    (hstep : ∀ memory, holds memory → holds (Memory.host c memory).2) :
    (attempt c settle).Keeps holds := by
  intro before after outcome htrial hbefore
  rcases trial_attempt htrial with ⟨-, -, -, rfl⟩ | ⟨-, rfl⟩
  · exact hbefore
  · exact hstep before hbefore

theorem Keeps.inOrder {holds : Memory → Prop} {passes : List Pass}
    (h : ∀ pass ∈ passes, pass.Keeps holds) : (inOrder passes).Keeps holds := by
  induction passes with
  | nil =>
      intro before after outcome htrial hbefore
      rw [(trial_done_iff.mp htrial).2]
      exact hbefore
  | cons pass passes ih =>
      intro before after outcome htrial hbefore
      have hpass := h pass List.mem_cons_self
      have hrest := ih fun other hother => h other (List.mem_cons_of_mem pass hother)
      rcases trial_andThen htrial with ⟨fault, -, hfirst⟩ | ⟨between, hfirst, hsecond⟩
      · exact hpass hfirst hbefore
      · exact hrest hsecond (hpass hfirst hbefore)

namespace Resumable

/-! ## One call -/

section Attempt

variable {c : Call} {settle : c.Reply → Outcome} {writes : List (String × String)}
  {Settled : Memory → Prop}

/-- The pass of one call can be resumed if a call that was made before is as good as one that is
made now. -/
theorem attempt
    (hrefused : ∀ fault, fault.Hard → settle (.error fault) ≠ .ok ())
    (hanswered : ∀ answer, settle (.ok answer) = .ok ())
    (hsettles : ∀ memory, memory.Orderly → settle (Memory.host c memory).1 = .ok () →
      Settled (Memory.host c memory).2)
    (hrests : ∀ memory, Settled memory → settle (Memory.host c memory).1 = .ok () ∧
      (Memory.host c memory).2 = memory.write writes)
    (hsteady : ∀ memory held, Settled memory → Settled (memory.write held))
    (habsorbs : ∀ memory held, memory.write held = memory →
      ((Memory.host c memory).2.write held).write writes = (Memory.host c memory).2) :
    (Pass.attempt c settle).Resumable writes Settled where
  finishes := by
    intro before after _ htrial
    rcases trial_attempt htrial with ⟨fault, hfault, houtcome, -⟩ | ⟨houtcome, rfl⟩
    · exact absurd houtcome.symm (hrefused fault hfault)
    · rw [houtcome]
      rfl
  settles := by
    intro before after horderly hrun
    obtain ⟨houtcome, rfl⟩ := Prod.mk.inj hrun
    exact hsettles before horderly houtcome
  resumes := by
    intro held before after outcome horderly hheld htrial
    rcases trial_attempt htrial with ⟨-, -, -, rfl⟩ | ⟨-, rfl⟩
    · rw [hheld]
    · cases hreply : (Memory.host c before).1 with
      | error fault => rw [Memory.host_of_error hreply, hheld]
      | ok answer =>
          have houtcome : settle (Memory.host c before).1 = .ok () := by
            rw [hreply]
            exact hanswered answer
          have hsettled := hsteady _ held (hsettles before horderly houtcome)
          obtain ⟨hagain, hstate⟩ := hrests _ hsettled
          rw [run_attempt, run_attempt, hagain, hstate, houtcome, habsorbs before held hheld]
  rests := by
    intro memory hsettled
    obtain ⟨houtcome, hstate⟩ := hrests memory hsettled
    rw [run_attempt, houtcome, hstate]
  steady := fun held memory hsettled => hsteady memory held hsettled

end Attempt

/-! ## Passes in order -/

section Order

variable {first second : Pass} {writes later : List (String × String)}
  {Settled SettledLater : Memory → Prop}

theorem andThen (hfirst : first.Resumable writes Settled)
    (hsecond : second.Resumable later SettledLater) (hkeeps : second.Keeps Settled) :
    (first.andThen second).Resumable (writes ++ later)
      (fun memory => Settled memory ∧ SettledLater memory) where
  finishes := by
    intro before after horderly htrial
    rcases trial_andThen htrial with ⟨fault, hfault, -⟩ | ⟨between, hone, htwo⟩
    · exact absurd hfault (by simp)
    · rw [run_andThen, hfirst.finishes horderly hone]
      exact hsecond.finishes (hone.orderly horderly) htwo
  settles := by
    intro before after horderly hrun
    rw [run_andThen] at hrun
    rcases hone : first.run Memory.host before with ⟨fault | done, between⟩
    · rw [hone] at hrun
      exact absurd (congrArg Prod.fst hrun) (by simp)
    · rw [hone] at hrun
      have hbetween : between.Orderly := by
        have htrial : Trial Fault.Hard first before _ _ := trial_run first before
        rw [hone] at htrial
        exact htrial.orderly horderly
      have htwo : Trial Fault.Hard second between _ _ := trial_run second between
      simp only at hrun
      rw [hrun] at htwo
      exact ⟨hkeeps htwo (hfirst.settles horderly hone), hsecond.settles hbetween hrun⟩
  resumes := by
    intro held before after outcome horderly hheld htrial
    rcases trial_andThen htrial with ⟨fault, -, hone⟩ | ⟨between, hone, htwo⟩
    · rw [run_andThen, run_andThen, hfirst.resumes held horderly hheld hone]
    · have hrun := hfirst.finishes horderly hone
      have hsettled := hfirst.settles horderly hrun
      -- the tables hold the writes of the first pass as well when the second one starts
      have hbetween : between.write (held ++ writes) = between := by
        have hagain := hfirst.resumes held horderly hheld hone
        rw [hfirst.rests (hfirst.steady held hsettled), hrun] at hagain
        rw [Memory.write_append]
        exact congrArg Prod.snd hagain
      have hafter := hfirst.rests (hfirst.steady held (hkeeps htwo hsettled))
      rw [run_andThen, run_andThen, hafter, hrun]
      change second.run Memory.host ((after.write held).write writes) =
        second.run Memory.host between
      rw [← Memory.write_append]
      exact hsecond.resumes _ (hone.orderly horderly) hbetween htwo
  rests := by
    rintro memory ⟨hone, htwo⟩
    rw [run_andThen, hfirst.rests hone, Memory.write_append]
    exact hsecond.rests (hsecond.steady writes htwo)
  steady := fun held _ hsettled => ⟨hfirst.steady held hsettled.1, hsecond.steady held hsettled.2⟩

theorem inOrder {ι : Type} {pass : ι → Pass} {writes : ι → List (String × String)}
    {Settled : ι → Memory → Prop} {members : List ι}
    (h : ∀ member ∈ members, (pass member).Resumable (writes member) (Settled member))
    (hkeeps : ∀ member ∈ members, ∀ other ∈ members, (pass other).Keeps (Settled member)) :
    (Pass.inOrder (members.map pass)).Resumable (members.flatMap writes)
      (fun memory => ∀ member ∈ members, Settled member memory) := by
  induction members with
  | nil =>
      exact {
        finishes := fun _ htrial => by rw [(trial_done_iff.mp htrial).2]; rfl
        settles := fun _ _ _ hmember => absurd hmember List.not_mem_nil
        resumes := fun _ _ _ _ _ hheld htrial => by rw [(trial_done_iff.mp htrial).2, hheld]
        rests := fun _ => rfl
        steady := fun _ _ _ _ hmember => absurd hmember List.not_mem_nil }
  | cons member members ih =>
      have hrest := ih (fun other hother => h other (List.mem_cons_of_mem member hother))
        fun one hone other hother => hkeeps one (List.mem_cons_of_mem member hone) other
          (List.mem_cons_of_mem member hother)
      have hkeep : (Pass.inOrder (members.map pass)).Keeps (Settled member) := by
        apply Keeps.inOrder
        intro other hother
        obtain ⟨next, hnext, rfl⟩ := List.mem_map.mp hother
        exact hkeeps member List.mem_cons_self next (List.mem_cons_of_mem member hnext)
      have hall := (h member List.mem_cons_self).andThen hrest hkeep
      simp only [List.map_cons, List.flatMap_cons, List.forall_mem_cons]
      exact hall

end Order

/-! ## Any number of passes -/

/-- However many trials went before, the tables end as one pass without failures leaves them, and
it ends the same way. -/
theorem run_of_tries {pass : Pass} {writes : List (String × String)} {Settled : Memory → Prop}
    (h : pass.Resumable writes Settled) {before after : Memory} (horderly : before.Orderly)
    (htries : Tries Fault.Hard pass before after) :
    pass.run Memory.host after = pass.run Memory.host before := by
  induction htries using Relation.ReflTransGen.head_induction_on with
  | refl => rfl
  | head hfirst _ ih =>
      obtain ⟨outcome, htrial⟩ := hfirst
      rw [ih (htrial.orderly horderly)]
      exact h.resumes [] horderly rfl htrial

end Resumable

end Pass

end HostNet
