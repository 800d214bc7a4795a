import HostNet.Proofs.ConfigResume
/-!
Retrying a whole feature. No member undoes what another one has settled in the same direction,
even where the two overlap. Main statement: after any number of passes with failures, one that
meets none ends as if it had been the first.
-/
namespace HostNet

open Pass

/-! ## Members beside each other -/

/-- Once there is a single instance of a rule, enabling a rule of any shape keeps it that way. -/
theorem Rule.keeps_single (rule : Rule) (config : Config) :
    (config.ensure true).Keeps (fun memory => memory.rules.countP (·.same rule) = 1) := by
  by_cases hshape : ∃ next, config = .rule next ∧ next.same rule = true
  · obtain ⟨next, rfl, hsame⟩ := hshape
    intro before after outcome htrial hcount
    have hcounts : before.rules.countP (·.same next) = 1 := by
      rw [← hcount]
      exact List.countP_congr fun installed _ => by rw [same_congr hsame]
    rcases trial_ensure_cases htrial with ⟨fault, -, rfl⟩ | hconverge
    · exact hcount
    · -- the instance is listed alone, so there is nothing to delete
      have hlength : (next.instances before.rules).length = 1 :=
        (length_instances before.rules).trans hcounts
      obtain ⟨kept, hinstances⟩ := List.length_eq_one_iff.mp hlength
      rw [hinstances] at hconverge
      rw [(trial_done_iff.mp hconverge).2]
      exact hcount
  · refine Keeps.of_makes (config.makes_ensure true) ?_
    intro c memory hmay hcount
    rw [Memory.countP_same_host hmay, hcount]
    intro next hnext
    rw [← Bool.not_eq_true]
    exact fun hsame => hshape ⟨next, hnext, hsame⟩

theorem ChainConfig.settled_host {config : ChainConfig} {enabled : Bool} {c : Call}
    {memory : Memory} (hc : c.Towards enabled) (h : config.Settled enabled memory) :
    config.Settled enabled (Memory.host c memory).2 := by
  cases enabled with
  | true =>
      simp only [Settled, if_true] at h ⊢
      exact ⟨Memory.isSome_chain?_host hc h.1,
        fun rule hrule => Memory.holds_host hc (h.2 rule hrule)⟩
  | false =>
      cases hkind : config.builtIn with
      | true =>
          simp only [Settled, hkind, Bool.false_eq_true, if_false, if_true] at h ⊢
          exact fun rule hrule => Memory.not_holds_host hc (h rule hrule)
      | false =>
          simp only [Settled, hkind, Bool.false_eq_true, if_false] at h ⊢
          exact Memory.chain?_eq_none_host hc h

/-- No member undoes what another one has settled. -/
theorem Config.keeps_settled (config other : Config) (enabled : Bool) :
    (other.ensure enabled).Keeps (config.Settled enabled) := by
  have hmakes := other.makes_ensure enabled
  cases config with
  | sysctl config =>
      refine Keeps.of_makes hmakes ?_
      intro c memory _ hsettled
      exact (Memory.lookup_isSome_host config.key).trans hsettled
  | route wanted =>
      refine Keeps.of_makes hmakes ?_
      intro c memory hmay hsettled
      exact Memory.any_samePlace_host hmay.towards hsettled
  | rule wanted =>
      cases enabled with
      | true => exact wanted.keeps_single other
      | false =>
          refine Keeps.of_makes hmakes ?_
          intro c memory hmay hsettled
          exact Memory.countP_same_host_of_zero hmay.towards hsettled
  | chain config =>
      refine Keeps.of_makes hmakes ?_
      intro c memory hmay hsettled
      exact config.settled_host hmay.towards hsettled

namespace Feature

theorem resumable (feature : Feature) (enabled : Bool) :
    (feature.ensure enabled).Resumable (feature.configs.flatMap (Config.writes enabled))
      (fun memory => ∀ config ∈ feature.configs, config.Settled enabled memory) := by
  apply Resumable.inOrder
  · exact fun config _ => config.resumable enabled
  · exact fun config _ other _ => config.keeps_settled other enabled

/-! ## Whole passes -/

/-- The tables after a pass for each of the drills, with the failures that are planned there. -/
def retried (feature : Feature) (enabled : Bool) : List Drill → Memory → Memory
  | [], memory => memory
  | drill :: drills, memory =>
    feature.retried enabled drills
      ((feature.ensure enabled).run Drill.host { drill with memory := memory }).2.memory

theorem tries_retried {feature : Feature} {enabled : Bool} {nature : Fault → Prop}
    {drills : List Drill} (h : ∀ drill ∈ drills, drill.Plans nature) (memory : Memory) :
    Tries nature (feature.ensure enabled) memory (feature.retried enabled drills memory) := by
  induction drills generalizing memory with
  | nil => exact Relation.ReflTransGen.refl
  | cons drill drills ih =>
      have hplans : ({ drill with memory := memory } : Drill).Plans nature :=
        h drill List.mem_cons_self
      have hfirst := Drill.trial_run (feature.ensure enabled) hplans
      have hrest := ih fun other hother => h other (List.mem_cons_of_mem drill hother)
      exact Relation.ReflTransGen.head ⟨_, hfirst⟩ (hrest _)

/-- However many passes were tried before, each stopped or not by hard failures at any of its
calls, a pass without failures ends as it would have from the start, and leaves the same tables.
This covers the passes on drills whose planned failures are hard. -/
theorem ensure_resumes (feature : Feature) (enabled : Bool) (before : Memory)
    (horderly : before.Orderly) :
    (∀ after, Tries Fault.Hard (feature.ensure enabled) before after →
        (feature.ensure enabled).run Memory.host after =
          (feature.ensure enabled).run Memory.host before) ∧
      ∀ drills : List Drill, (∀ drill ∈ drills, drill.Plans Fault.Hard) →
        (feature.ensure enabled).run Memory.host (feature.retried enabled drills before) =
          (feature.ensure enabled).run Memory.host before := by
  have hresumable := feature.resumable enabled
  constructor
  · intro after htries
    exact hresumable.run_of_tries horderly htries
  · intro drills hhard
    exact hresumable.run_of_tries horderly (tries_retried hhard before)

/-- One of two deletes is refused, so that an instance too many stays and the chain is not made.
The next pass ends as the first would have. -/
theorem ensure_resumes_halfway :
    let rule := ((Rule.ofFamily .inet).withMark 16).withPriority 100
    let chain : ChainConfig := ⟨⟨"filter", "PODS"⟩, false, [⟨["-j", "ACCEPT"]⟩]⟩
    let feature : Feature := ⟨"pods", true, [.rule rule, .chain chain]⟩
    let before : Memory := ⟨[], [], [rule, rule.withPriority 200, rule.withPriority 300], []⟩
    let drill := (Drill.ofMemory before).failNext .delRule (.kernel 16)
    let halfway := feature.retried true [drill] before
    before.Orderly ∧ drill.Plans Fault.Hard ∧ halfway.rules = [rule, rule.withPriority 200] ∧
      (feature.ensure true).run Memory.host halfway =
        (feature.ensure true).run Memory.host before := by
  intro rule chain feature before drill halfway
  have horderly : before.Orderly := by
    refine ⟨by decide, List.Pairwise.nil, ?_⟩
    intro chain rules hrules
    cases hrules
  have hhard : drill.Plans Fault.Hard := by
    refine ⟨?_, fun entry hentry => absurd hentry List.not_mem_nil⟩
    intro entry hentry
    rw [List.mem_singleton.mp hentry]
    exact ⟨by decide, by decide⟩
  have hrules : halfway.rules = [rule, rule.withPriority 200] := by decide +kernel
  have hdrills : ∀ other ∈ [drill], other.Plans Fault.Hard := by
    intro other hother
    rw [List.mem_singleton.mp hother]
    exact hhard
  exact ⟨horderly, hhard, hrules, (ensure_resumes feature true before horderly).2 [drill] hdrills⟩

end Feature

end HostNet
