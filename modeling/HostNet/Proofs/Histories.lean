import HostNet.Proofs.Tables
import HostNet.Proofs.Trial
/-!
A host in memory over any length of time. Calls are made on it in any order, and between them more
failures may be planned. Main statement: if it starts with parameters and empty chains only, nothing
is ever installed twice, and a call that fails leaves the tables as they were.
-/
namespace HostNet

/-- Two rules that the host cannot tell apart: the same at one priority. -/
def Rule.Twins (a b : Rule) : Prop :=
  a.same b = true ∧ a.priority = b.priority

namespace Memory

/-- The tables are in order, and no rule is installed twice at one priority. -/
structure Sound (memory : Memory) : Prop extends memory.Orderly where
  distinct : memory.rules.Pairwise fun a b => ¬ a.Twins b

/-- A request to add a rule names every twin of what it would install. One without a priority
names even more. -/
theorem ruleMatches_of_twins {wanted installed : Rule}
    (h : installed.Twins (installedForm wanted)) : ruleMatches wanted installed = true := by
  obtain ⟨hsame, hpriority⟩ := h
  have hinstance : installed.same wanted = true :=
    Rule.same_trans hsame (same_installedForm wanted)
  cases hwanted : wanted.priority with
  | none => simp [ruleMatches, hinstance, hwanted]
  | some priority =>
      have hheld : installed.priority = some priority := by
        simpa [installedForm, hwanted] using hpriority
      simp [ruleMatches, hinstance, hwanted, hheld]

end Memory

theorem Call.onRules_distinct {c : Call} {rules : List Rule}
    (h : rules.Pairwise fun a b => ¬ a.Twins b) :
    (c.onRules rules).Pairwise fun a b => ¬ a.Twins b := by
  cases c with
  | addRule wanted =>
      by_cases hnamed : rules.any (Memory.ruleMatches wanted) = true
      · simpa [onRules, hnamed] using h
      · have hfree : ∀ installed ∈ rules, ¬ installed.Twins (Memory.installedForm wanted) :=
          fun installed hinstalled htwins => hnamed
            (List.any_eq_true.mpr ⟨installed, hinstalled, Memory.ruleMatches_of_twins htwins⟩)
        simpa [onRules, hnamed, List.pairwise_append] using ⟨h, hfree⟩
  | delRule victim => exact h.sublist List.eraseP_sublist
  | _ => exact h

namespace Memory

/-- A chain among empty ones holds no rules. -/
theorem lookup_empties {chains : List Chain} {chain : Chain} {rules : List ChainRule}
    (h : (chains.map fun chain => (chain, ([] : List ChainRule))).lookup chain = some rules) :
    rules = [] := by
  obtain ⟨before, after, hentry, -⟩ := List.lookup_eq_some_iff.mp h
  have hmem : (chain, rules) ∈ chains.map fun chain => (chain, ([] : List ChainRule)) := by
    simp [hentry]
  obtain ⟨other, -, hother⟩ := List.mem_map.mp hmem
  exact (congrArg Prod.snd hother).symm

/-- Parameters and empty chains. -/
def bare (sysctls : List (String × String)) (chains : List Chain) : Memory :=
  ⟨sysctls, [], [], chains.map fun chain => (chain, [])⟩

theorem sound_bare (sysctls : List (String × String)) (chains : List Chain) :
    (bare sysctls chains).Sound where
  prioritized rule hrule := absurd hrule List.not_mem_nil
  placed := List.Pairwise.nil
  unrepeated chain rules hrules := by
    rw [lookup_empties hrules]
    exact List.nodup_nil
  distinct := List.Pairwise.nil

/-- Every call keeps the tables sound. -/
theorem Sound.host {memory : Memory} (h : memory.Sound) (c : Call) :
    (Memory.host c memory).2.Sound where
  toOrderly := h.toOrderly.host c
  distinct := by
    rw [host_rules]
    exact Call.onRules_distinct h.distinct

end Memory

namespace Drill

/-- What happens to a host: a call on it, or one more failure that is planned. -/
inductive Event where
  | call (c : Call)
  | failNext (kind : CallKind) (fault : Fault)
  | failAlways (kind : CallKind) (fault : Fault)
deriving DecidableEq, Repr

def after (drill : Drill) : Event → Drill
  | .call c => (host c drill).2
  | .failNext kind fault => drill.failNext kind fault
  | .failAlways kind fault => drill.failAlways kind fault

def history (drill : Drill) (events : List Event) : Drill :=
  events.foldl after drill

variable {drill : Drill}

/-- A call that fails leaves the tables as they were, whether the failure was planned or is the
answer of the tables. -/
theorem memory_host_of_error {c : Call} {fault : Fault} (h : (host c drill).1 = .error fault) :
    (host c drill).2.memory = drill.memory := by
  obtain ⟨-, -, ⟨planned, -, -, hmemory⟩ | ⟨hreply, hmemory⟩⟩ := host_cases drill.plans_true c
  · exact hmemory
  · rw [hmemory]
    exact Memory.host_of_error (hreply.symm.trans h)

theorem sound_after (h : drill.memory.Sound) (event : Event) :
    (drill.after event).memory.Sound := by
  cases event with
  | call c =>
      obtain ⟨-, -, ⟨planned, -, -, hmemory⟩ | ⟨-, hmemory⟩⟩ := host_cases drill.plans_true c
      · exact hmemory.symm ▸ h
      · exact hmemory.symm ▸ h.host c
  | failNext kind fault => exact h
  | failAlways kind fault => exact h

theorem sound_history (h : drill.memory.Sound) (events : List Event) :
    (drill.history events).memory.Sound := by
  induction events generalizing drill with
  | nil => exact h
  | cons event events ih => exact ih (sound_after h event)

/-- A host starts with parameters and empty chains. Whatever happens to it, every rule has a
priority, no two rules are the same at one priority, no place in the routing tables is taken twice,
and no chain holds a rule twice. If its next call fails, the tables are what they were before. -/
theorem history_unrepeated (sysctls : List (String × String)) (chains : List Chain)
    (events : List Event) :
    let drill := (ofMemory (Memory.bare sysctls chains)).history events
    (∀ rule ∈ drill.memory.rules, rule.priority.isSome = true) ∧
      (drill.memory.rules.Pairwise fun a b => ¬ (a.same b = true ∧ a.priority = b.priority)) ∧
      (drill.memory.routes.Pairwise fun a b =>
        ¬ (a.dst = b.dst ∧ a.table = b.table ∧ a.gateway = b.gateway)) ∧
      (∀ chain rules, drill.memory.chain? chain = some rules → rules.Nodup) ∧
      ∀ (c : Call) (fault : Fault), (host c drill).1 = .error fault →
        (drill.after (.call c)).memory = drill.memory := by
  intro drill
  have hsound : drill.memory.Sound := sound_history (Memory.sound_bare sysctls chains) events
  refine ⟨hsound.prioritized, hsound.distinct, ?_, hsound.unrepeated,
    fun _ _ => memory_host_of_error⟩
  refine hsound.placed.imp fun hfree hplace => ?_
  exact Bool.false_ne_true (hfree.symm.trans (Route.samePlace_iff.mpr hplace))

/-- A rule can be installed at two priorities, and where it is, a request without a priority is
refused; so is one that meets a planned failure. -/
example :
    let rule := Rule.ofFamily .inet
    let installed := (ofMemory (Memory.bare [] [])).history
      [.call (.addRule (rule.withPriority 10)), .call (.addRule rule),
        .failNext .addRule (.kernel 16), .call (.addRule (rule.withPriority 30)),
        .call (.addRule (rule.withPriority 20))]
    installed.memory.rules = [rule.withPriority 10, rule.withPriority 20] := by
  decide +kernel

end Drill

end HostNet
