import HostNet.Proofs.RuleConvergence
import HostNet.Proofs.Transcript
/-!
Passes of one rule amid failures. A pass takes a fixed number of calls, whichever of them fail, and
it reports the last failure that does not count as success. Main statement: the calls, the
instances that remain and the report, for any rules and any failures to come.
-/
namespace HostNet

open Pass

namespace Rule

/-- The calls it takes, once the rules are listed, to go from a number of instances to one or to
none. -/
def Takes (rule : Rule) : (enabled : Bool) → (count : Nat) → List Call → Prop
  | true, 0, calls => calls = [.addRule rule]
  | true, extra + 1, calls =>
    calls.length = extra ∧ ∀ c ∈ calls, ∃ victim, c = .delRule victim ∧ victim.same rule = true
  | false, count, calls =>
    calls.length = count ∧ ∀ c ∈ calls, ∃ victim, c = .delRule victim ∧ victim.same rule = true

variable {rule : Rule}

/-! ## One call -/

theorem countP_same_delRule {victim : Rule} (hsame : victim.same rule = true) (drill : Drill) :
    (Drill.host (.delRule victim) drill).2.memory.rules.countP (·.same rule) +
        ([⟨_, (Drill.host (.delRule victim) drill).1⟩] : List Exchange).countP
          (·.carriedOut .delRule) =
      drill.memory.rules.countP (·.same rule) := by
  rcases (Drill.host_cases drill.plans_true (.delRule victim)).2.2 with
    ⟨fault, -, hreply, hmemory⟩ | ⟨hreply, hmemory⟩
  · rw [hreply, hmemory]
    rfl
  · rw [hreply, hmemory]
    change (drill.memory.delRule victim).2.rules.countP _ +
      ([⟨.delRule victim, (drill.memory.delRule victim).1⟩] : List Exchange).countP _ = _
    unfold Memory.delRule
    split
    · rename_i hany
      exact Memory.countP_eraseP (List.any_eq_true.mp hany) fun installed hmatch =>
        same_trans (Memory.same_of_ruleMatches hmatch) hsame
    · rfl

theorem countP_same_addRule (rule : Rule) (drill : Drill) :
    (Drill.host (.addRule rule) drill).2.memory.rules.countP (·.same rule) =
      drill.memory.rules.countP (·.same rule) +
        ([⟨_, (Drill.host (.addRule rule) drill).1⟩] : List Exchange).countP
          (·.carriedOut .addRule) := by
  rcases (Drill.host_cases drill.plans_true (.addRule rule)).2.2 with
    ⟨fault, -, hreply, hmemory⟩ | ⟨hreply, hmemory⟩
  · rw [hreply, hmemory]
    rfl
  · rw [hreply, hmemory]
    change (drill.memory.addRule rule).2.rules.countP _ = _ +
      ([⟨.addRule rule, (drill.memory.addRule rule).1⟩] : List Exchange).countP _
    unfold Memory.addRule
    split
    · rfl
    · have hadded : [Memory.installedForm rule].countP (·.same rule) = 1 :=
        List.countP_cons_of_pos (Memory.same_installedForm rule)
      rw [List.countP_append, hadded]
      rfl

/-! ## The deletes -/

section Deletes

variable {σ : Type} (host : Host σ)

/-- Every victim is asked for, whatever became of those before it. -/
theorem calls_transcript_deleteEach (victims : List Rule) (sofar : Outcome) (state : σ) :
    ((deleteEach victims sofar).transcript host state).map Exchange.call =
      victims.map Call.delRule := by
  induction victims generalizing sofar state with
  | nil => rfl
  | cons victim victims ih =>
      rw [deleteEach, transcript, List.map_cons, List.map_cons, ih]

theorem run_deleteEach_eq_verdict (victims : List Rule) (sofar : Outcome) (state : σ) :
    ((deleteEach victims sofar).run host state).1 =
      verdict sofar ((deleteEach victims sofar).transcript host state) := by
  induction victims generalizing sofar state with
  | nil => rfl
  | cons victim victims ih =>
      have hlatest : latest Fault.isNotFound sofar (host (.delRule victim) state).1 =
          verdict sofar [⟨.delRule victim, (host (.delRule victim) state).1⟩] := by
        rcases (host (.delRule victim) state).1 with fault | done
        · exact (verdict_refused sofar (.delRule victim) fault).symm
        · rfl
      rw [deleteEach, transcript, verdict_cons, ← hlatest]
      exact ih _ _

end Deletes

/-- Every delete that is carried out takes one instance away. -/
theorem countP_same_deleteEach {victims : List Rule}
    (hsame : ∀ victim ∈ victims, victim.same rule = true) (sofar : Outcome) (drill : Drill) :
    ((deleteEach victims sofar).run Drill.host drill).2.memory.rules.countP (·.same rule) +
        ((deleteEach victims sofar).transcript Drill.host drill).countP
          (·.carriedOut .delRule) =
      drill.memory.rules.countP (·.same rule) := by
  induction victims generalizing sofar drill with
  | nil => rfl
  | cons victim victims ih =>
      have hfirst := countP_same_delRule (hsame victim List.mem_cons_self) drill
      have hrest := ih (fun other hother => hsame other (List.mem_cons_of_mem victim hother))
        (latest Fault.isNotFound sofar (Drill.host (.delRule victim) drill).1)
        (Drill.host (.delRule victim) drill).2
      rw [List.countP_singleton] at hfirst
      rw [deleteEach, transcript, List.countP_cons, ← hfirst, ← hrest, Nat.add_assoc]
      rfl

/-! ## Whole passes -/

/-- What a pass does on a drill once the rules are listed. -/
structure Converges (rule : Rule) (enabled : Bool) (drill : Drill) (pass : Pass) : Prop where
  calls : rule.Takes enabled (drill.memory.rules.countP (·.same rule))
    ((pass.transcript Drill.host drill).map Exchange.call)
  count : (pass.run Drill.host drill).2.memory.rules.countP (·.same rule) +
      (pass.transcript Drill.host drill).countP (·.carriedOut .delRule) =
    drill.memory.rules.countP (·.same rule) +
      (pass.transcript Drill.host drill).countP (·.carriedOut .addRule)
  report : (pass.run Drill.host drill).1 = verdict (.ok ()) (pass.transcript Drill.host drill)

theorem takes_of_victims {enabled : Bool} {victims : List Rule} {count : Nat}
    (hsame : ∀ victim ∈ victims, victim.same rule = true)
    (hlength : victims.length + enabled.toNat = count) :
    rule.Takes enabled count (victims.map Call.delRule) := by
  have hcalls : ∀ c ∈ victims.map Call.delRule,
      ∃ victim, c = .delRule victim ∧ victim.same rule = true := by
    intro c hc
    obtain ⟨victim, hvictim, rfl⟩ := List.mem_map.mp hc
    exact ⟨victim, rfl, hsame victim hvictim⟩
  subst hlength
  cases enabled with
  | false => exact ⟨List.length_map _, hcalls⟩
  | true => exact ⟨List.length_map _, hcalls⟩

theorem countP_added_deleteEach (victims : List Rule) (sofar : Outcome) (drill : Drill) :
    ((deleteEach victims sofar).transcript Drill.host drill).countP (·.carriedOut .addRule) =
      0 := by
  rw [List.countP_eq_zero]
  intro exchange hexchange hadded
  have hcall := List.mem_map_of_mem (f := Exchange.call) hexchange
  rw [calls_transcript_deleteEach] at hcall
  obtain ⟨victim, -, hvictim⟩ := List.mem_map.mp hcall
  have hkind : exchange.call.kind = .addRule := of_decide_eq_true (Bool.and_eq_true_iff.mp hadded).1
  rw [← hvictim] at hkind
  cases hkind

theorem converges_deleteEach {enabled : Bool} {victims : List Rule} {drill : Drill}
    (hsame : ∀ victim ∈ victims, victim.same rule = true)
    (hlength : victims.length + enabled.toNat = drill.memory.rules.countP (·.same rule)) :
    rule.Converges enabled drill (deleteEach victims (.ok ())) where
  calls := by
    rw [calls_transcript_deleteEach]
    exact takes_of_victims hsame hlength
  count := by
    rw [countP_added_deleteEach, countP_same_deleteEach hsame, Nat.add_zero]
  report := run_deleteEach_eq_verdict Drill.host victims (.ok ()) drill

theorem converges_addRule {drill : Drill}
    (hnone : drill.memory.rules.countP (·.same rule) = 0) :
    rule.Converges true drill (attempt (.addRule rule) (tolerate Fault.isAlreadyExists)) where
  calls := by
    rw [hnone]
    rfl
  count := by
    have hcount := countP_same_addRule rule drill
    exact hcount
  report := by
    change tolerate Fault.isAlreadyExists (Drill.host (.addRule rule) drill).1 =
      verdict (.ok ()) [⟨.addRule rule, (Drill.host (.addRule rule) drill).1⟩]
    rcases (Drill.host (.addRule rule) drill).1 with fault | done
    · exact (verdict_refused (.ok ()) (.addRule rule) fault).symm
    · rfl

theorem converges_converge (rule : Rule) (enabled : Bool) (drill : Drill) {listed : List Rule}
    (hlisted : listed.countP (·.same rule) = drill.memory.rules.countP (·.same rule)) :
    rule.Converges enabled drill (rule.converge enabled (rule.instances listed)) := by
  have hsame : ∀ victim ∈ rule.instances listed, victim.same rule = true :=
    fun victim hvictim => (mem_instances.mp hvictim).2
  cases enabled with
  | false =>
      apply converges_deleteEach hsame
      rw [length_instances, hlisted]
      rfl
  | true =>
      rcases Nat.eq_zero_or_pos (listed.countP (·.same rule)) with hnone | hpos
      · rw [instances_eq_nil_iff.mpr hnone]
        exact converges_addRule (hlisted.symm.trans hnone)
      · rw [converge_true_of_pos hpos]
        apply converges_deleteEach
        · exact fun victim hvictim => hsame victim ((List.dropLast_sublist _).subset hvictim)
        · rw [List.length_dropLast, length_instances, hlisted]
          rw [hlisted] at hpos
          exact Nat.sub_add_cancel hpos

/-- Enabling leaves an instance where there was one. -/
theorem Converges.pos {drill : Drill} {pass : Pass} (h : rule.Converges true drill pass)
    (hpos : 0 < drill.memory.rules.countP (·.same rule)) :
    0 < (pass.run Drill.host drill).2.memory.rules.countP (·.same rule) := by
  obtain ⟨extra, hextra⟩ := Nat.exists_eq_succ_of_ne_zero (Nat.ne_of_gt hpos)
  have hcalls := h.calls
  have hcount := h.count
  rw [hextra] at hcalls hcount
  have hlength := hcalls.1
  rw [List.length_map] at hlength
  have hdeleted := List.countP_le_length (p := fun exchange => exchange.carriedOut .delRule)
    (l := pass.transcript Drill.host drill)
  omega

theorem countP_same_listRules (rule : Rule) (memory : Memory) :
    (memory.listRules rule.family).countP (·.same rule) = memory.rules.countP (·.same rule) := by
  rw [← length_instances, ← length_instances, instances_listRules]

/-! ## The listing -/

section Listing

variable {drill listing : Drill}

theorem ensure_of_refused {fault : Fault} (enabled : Bool)
    (h : Drill.host (.listRules rule.family) drill = (.error fault, listing)) :
    (rule.ensure enabled).run Drill.host drill = (.error fault, listing) ∧
      (rule.ensure enabled).transcript Drill.host drill =
        [⟨.listRules rule.family, .error fault⟩] := by
  rw [ensure, run, transcript, h]
  exact ⟨rfl, rfl⟩

/-- A pass goes on from the listing to the instances there are. -/
theorem ensure_of_listed {listed : List Rule} (enabled : Bool)
    (h : Drill.host (.listRules rule.family) drill = (.ok listed, listing)) :
    (rule.ensure enabled).run Drill.host drill =
        (rule.converge enabled (rule.instances listed)).run Drill.host listing ∧
      (rule.ensure enabled).transcript Drill.host drill = ⟨.listRules rule.family, .ok listed⟩ ::
        (rule.converge enabled (rule.instances listed)).transcript Drill.host listing := by
  rw [ensure, run, transcript, h]
  exact ⟨rfl, rfl⟩

theorem memory_of_refused {fault : Fault}
    (h : Drill.host (.listRules rule.family) drill = (.error fault, listing)) :
    listing.memory = drill.memory := by
  have hcases := (Drill.host_cases drill.plans_true (.listRules rule.family)).2.2
  rw [h] at hcases
  rcases hcases with ⟨-, -, -, hmemory⟩ | ⟨hanswer, -⟩
  · exact hmemory
  · cases hanswer

theorem memory_of_listed {listed : List Rule}
    (h : Drill.host (.listRules rule.family) drill = (.ok listed, listing)) :
    listed = drill.memory.listRules rule.family ∧ listing.memory = drill.memory := by
  have hcases := (Drill.host_cases drill.plans_true (.listRules rule.family)).2.2
  rw [h] at hcases
  rcases hcases with ⟨fault, -, hfault, -⟩ | ⟨hanswer, hmemory⟩
  · cases hfault
  · exact ⟨Except.ok.inj hanswer, hmemory⟩

end Listing

/-- A pass of a rule lists once. If that fails it stops there and reports the failure. Otherwise it
takes its calls whichever of them fail, each call that is carried out counts for one instance, and
the report is the last failure of a delete that did find its rule, or of an add that did not find
it there. -/
theorem ensure_best_effort (rule : Rule) (enabled : Bool) (drill : Drill) :
    let result := (rule.ensure enabled).run Drill.host drill
    let exchanges := (rule.ensure enabled).transcript Drill.host drill
    let before := drill.memory.rules.countP (·.same rule)
    let after := result.2.memory.rules.countP (·.same rule)
    result.2.log = drill.log ++ exchanges.map Exchange.call ∧
      ∃ (reply : (Call.listRules rule.family).Reply) (rest : List Exchange),
        exchanges = ⟨.listRules rule.family, reply⟩ :: rest ∧
        (∀ fault, reply = .error fault →
          rest = [] ∧ result.1 = .error fault ∧ result.2.memory = drill.memory) ∧
        ∀ listed : List Rule, reply = .ok listed →
          listed = drill.memory.listRules rule.family ∧
          listed.countP (·.same rule) = before ∧
          rule.Takes enabled before (rest.map Exchange.call) ∧
          after + rest.countP (·.carriedOut .delRule) =
            before + rest.countP (·.carriedOut .addRule) ∧
          (enabled = true → 0 < before → 0 < after) ∧
          ∀ fault, result.1 = .error fault ↔
            (rest.filterMap Exchange.complaint?).getLast? = some fault := by
  intro result exchanges before after
  refine ⟨Drill.log_run _ drill, ?_⟩
  rcases hlisting : Drill.host (.listRules rule.family) drill with ⟨fault | listed, listing⟩
  · obtain ⟨hresult, hexchanges⟩ : result = _ ∧ exchanges = _ :=
      ensure_of_refused enabled hlisting
    refine ⟨.error fault, [], hexchanges, ?_, ?_⟩
    · rintro refusal ⟨⟩
      rw [hresult]
      exact ⟨rfl, rfl, memory_of_refused hlisting⟩
    · rintro listed ⟨⟩
  · obtain ⟨hresult, hexchanges⟩ : result = _ ∧ exchanges = _ :=
      ensure_of_listed enabled hlisting
    obtain ⟨hlisted, hkept⟩ := memory_of_listed hlisting
    refine ⟨.ok listed, _, hexchanges, ?_, ?_⟩
    · rintro fault ⟨⟩
    · rintro listed ⟨⟩
      have hcount : listed.countP (·.same rule) = before := by
        rw [hlisted, countP_same_listRules]
      have hinstances : listed.countP (·.same rule) =
          listing.memory.rules.countP (·.same rule) := by
        rw [hcount, hkept]
      have hconverges := rule.converges_converge enabled listing hinstances
      have hcalls := hconverges.calls
      have hbalance := hconverges.count
      rw [hkept] at hcalls hbalance
      refine ⟨hlisted, hcount, hcalls, ?_, ?_, ?_⟩
      · change result.2.memory.rules.countP _ + _ = _
        rw [hresult]
        exact hbalance
      · rintro rfl hpos
        change 0 < result.2.memory.rules.countP _
        rw [hresult]
        apply hconverges.pos
        rw [hkept]
        exact hpos
      · intro fault
        rw [hresult, hconverges.report]
        exact verdict_eq_error_iff

end Rule

end HostNet
