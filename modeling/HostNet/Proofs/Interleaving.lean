import HostNet.Host.Pass
/-!
Passes side by side on one host. At its turn a pass makes its next call and takes the reply; in
between, others may have their turns. Main statement: what holds of the host, and of each pass on
it, is kept by any order of turns if one turn keeps it, for the pass itself and for the others.
-/
namespace HostNet.Pass

variable {σ : Type}

/-- What is left of a pass after its next call, and the host then. A pass that is over does
nothing. -/
def advance (host : Host σ) : Pass → σ → Pass × σ
  | done outcome, state => (done outcome, state)
  | call c next, state => (next (host c state).1, (host c state).2)

/-- One of several passes has its turn. -/
def turn (host : Host σ) (system : List Pass × σ) (i : Nat) : List Pass × σ :=
  match system.1[i]? with
  | none => system
  | some pass =>
    let (rest, after) := pass.advance host system.2
    (system.1.set i rest, after)

/-- The passes, and the host, after turns in the given order. -/
def interleave (host : Host σ) (turns : List Nat) (system : List Pass × σ) : List Pass × σ :=
  turns.foldl (turn host) system

variable {host : Host σ}

theorem turn_of_getElem? {system : List Pass × σ} {i : Nat} {pass : Pass}
    (h : system.1[i]? = some pass) :
    turn host system i =
      (system.1.set i (pass.advance host system.2).1, (pass.advance host system.2).2) := by
  rw [turn, h]

section Upholds

variable {shared : σ → Prop} {own : Nat → Pass → σ → Prop}

/-- A claim on the host, and one on each pass with a bound on the calls it still has, are kept by
the call of any of the passes: it uses up one call of its own, and upholds the claims on others. -/
def Upholds (host : Host σ) (shared : σ → Prop) (own : Nat → Pass → σ → Prop) : Prop :=
  ∀ left pass state, shared state → own left pass state →
    shared (pass.advance host state).2 ∧
      own (left - 1) (pass.advance host state).1 (pass.advance host state).2 ∧
      ∀ others other, own others other state → own others other (pass.advance host state).2

theorem turn_upholds (hupholds : Upholds host shared own) {left : Nat → Nat}
    {system : List Pass × σ} (hshared : shared system.2)
    (hown : ∀ i pass, system.1[i]? = some pass → own (left i) pass system.2) (first : Nat) :
    let next := turn host system first
    shared next.2 ∧ next.1.length = system.1.length ∧
      ∀ i pass, next.1[i]? = some pass → own (left i - [first].count i) pass next.2 := by
  rcases hfirst : system.1[first]? with _ | pass
  · -- nobody's turn
    have hskip : turn host system first = system := by
      rw [turn, hfirst]
    rw [hskip]
    refine ⟨hshared, rfl, fun i other hother => ?_⟩
    have hne : first ≠ i := by
      rintro rfl
      cases hfirst.symm.trans hother
    rw [List.count_singleton, if_neg (by simpa using hne)]
    exact hown i other hother
  · obtain ⟨hafter, hself, hothers⟩ :=
      hupholds (left first) pass system.2 hshared (hown first pass hfirst)
    have hin : first < system.1.length := (List.getElem?_eq_some_iff.mp hfirst).1
    rw [turn_of_getElem? hfirst]
    refine ⟨hafter, List.length_set, fun i other hother => ?_⟩
    by_cases hi : first = i
    · subst hi
      rw [List.getElem?_set_self hin] at hother
      rw [List.count_singleton_self, ← Option.some.inj hother]
      exact hself
    · rw [List.getElem?_set_ne hi] at hother
      rw [List.count_singleton, if_neg (by simpa using hi)]
      exact hothers (left i) other (hown i other hother)

/-- What the call of any pass keeps, any order of turns keeps. -/
theorem interleave_upholds (hupholds : Upholds host shared own) (turns : List Nat)
    (left : Nat → Nat) (system : List Pass × σ) (hshared : shared system.2)
    (hown : ∀ i pass, system.1[i]? = some pass → own (left i) pass system.2) :
    let last := interleave host turns system
    shared last.2 ∧ last.1.length = system.1.length ∧
      ∀ i pass, last.1[i]? = some pass → own (left i - turns.count i) pass last.2 := by
  induction turns generalizing left system with
  | nil => exact ⟨hshared, rfl, hown⟩
  | cons first turns ih =>
      obtain ⟨hnext, hlength, hclaims⟩ := turn_upholds hupholds hshared hown first
      obtain ⟨hlast, hlength', hclaims'⟩ := ih _ _ hnext hclaims
      refine ⟨hlast, hlength'.trans hlength, fun i pass hpass => ?_⟩
      have hclaim := hclaims' i pass hpass
      rwa [Nat.sub_sub, ← List.count_append] at hclaim

end Upholds

end HostNet.Pass
