import HostNet.Host.Machine
import HostNet.Proofs.BestEffort
import HostNet.Proofs.Datagrams
import HostNet.Proofs.RuleReading
/-!
Reported rules that are not ours to touch. A payload is unmodelled if its family, its action or any
of its attributes has no place in a rule, wherever that attribute stands. Main statement: no such
payload is read as a rule, so that a listing is that of the other payloads alone, and a pass counts
and deletes nothing else.
-/
namespace HostNet

namespace Wire

/-- The types of attributes that the reader knows. -/
def RuleAttr.known : List UInt16 :=
  [priority, src, dst, iif, oif, mark, mask, table, suppressLength, suppressGroup, protocol, pad]

/-- The attribute is of a type that is not known, or it suppresses routes. -/
def Attr.unmodelled (attr : Attr) : Bool :=
  !RuleAttr.known.contains attr.kind ||
    (attr.kind == RuleAttr.suppressLength || attr.kind == RuleAttr.suppressGroup) &&
      Attr.word? attr.payload != some notSuppressed

/-- The payload reports a rule with a family, an action or an attribute that is not modelled. -/
def unmodelled (payload : List UInt8) : Bool :=
  match RuleHeader.decode? payload with
  | none => false
  | some (header, rest) =>
    (Family.ofCode? header.family).isNone || (RuleAction.ofCode? header.action).isNone ||
      (Attr.readAll rest).any Attr.unmodelled

/-! ## Attributes -/

section Attributes

variable {header : RuleHeader} {rule : Rule}

theorem reportedPrefix_ne_foreign {length : UInt8} {payload : List UInt8} :
    reportedPrefix header length payload ≠ .error .foreign := by
  intro h
  rw [reportedPrefix] at h
  rcases haddress : Attr.address? header.family payload with _ | address
  · rw [haddress] at h
    cases h
  · rw [haddress] at h
    simp only at h
    rcases hmake : Cidr.make? address length.toNat with _ | cidr
    · rw [hmake] at h
      cases h
    · rw [hmake] at h
      cases h

theorem map_reportedPrefix_ne_foreign {length : UInt8} {payload : List UInt8}
    {set : Option Cidr → Rule} :
    (do return set (← reportedPrefix header length payload)) ≠ Except.error Unread.foreign := by
  intro h
  rcases hmade : reportedPrefix header length payload with unread | cidr?
  · rw [hmade] at h
    have hforeign : unread = .foreign := Except.error.inj h
    rw [hforeign] at hmade
    exact reportedPrefix_ne_foreign hmade
  · rw [hmade] at h
    cases h

/-- The known types that say nothing about whether the rule is modelled. -/
def RuleAttr.alwaysRead : List UInt16 :=
  [src, dst, priority, iif, oif, mark, mask, table, protocol, pad]

theorem RuleAttr.mem_known_iff {kind : UInt16} :
    kind ∈ known ↔ kind ∈ alwaysRead ∨ kind = suppressLength ∨ kind = suppressGroup := by
  simp only [known, alwaysRead, List.mem_cons, List.not_mem_nil, or_false]
  grind

/-- At a type that is always read, no rule is foreign: a prefix may be malformed, and any other
payload is taken. -/
theorem absorb_eq_foreign_iff_of_read {attr : Attr} (h : attr.kind ∈ RuleAttr.alwaysRead) :
    absorb header rule attr = .error .foreign ↔ attr.unmodelled = true := by
  have hok : ∀ next : Rule, Except.ok next ≠ Except.error Unread.foreign := by
    intro next h
    cases h
  obtain ⟨kind, payload⟩ := attr
  simp only [RuleAttr.alwaysRead, List.mem_cons, List.not_mem_nil, or_false] at h
  rcases h with rfl | rfl | rfl | rfl | rfl | rfl | rfl | rfl | rfl | rfl
  · exact iff_of_false map_reportedPrefix_ne_foreign Bool.false_ne_true
  · exact iff_of_false map_reportedPrefix_ne_foreign Bool.false_ne_true
  all_goals exact iff_of_false (hok _) Bool.false_ne_true

theorem absorb_eq_foreign_iff_of_suppress {attr : Attr}
    (h : attr.kind = RuleAttr.suppressLength ∨ attr.kind = RuleAttr.suppressGroup) :
    absorb header rule attr = .error .foreign ↔ attr.unmodelled = true := by
  obtain ⟨kind, payload⟩ := attr
  have habsorb : absorb header rule ⟨kind, payload⟩ =
      if Attr.word? payload = some notSuppressed then .ok rule else .error .foreign := by
    rcases h with rfl | rfl <;> rfl
  have hunmodelled : Attr.unmodelled ⟨kind, payload⟩ = true ↔
      Attr.word? payload ≠ some notSuppressed := by
    rcases h with rfl | rfl <;> exact bne_iff_ne
  rw [habsorb, hunmodelled]
  split
  · rename_i hword
    exact iff_of_false nofun (not_not_intro hword)
  · rename_i hword
    exact iff_of_true rfl hword

theorem absorb_of_not_mem {attr : Attr} (h : attr.kind ∉ RuleAttr.known) :
    absorb header rule attr = .error .foreign := by
  simp only [RuleAttr.known, List.mem_cons, List.not_mem_nil, or_false, not_or] at h
  simp [absorb, h]

theorem Attr.unmodelled_of_not_mem {attr : Attr} (h : attr.kind ∉ RuleAttr.known) :
    attr.unmodelled = true := by
  simp [unmodelled, h]

/-- The reader calls a rule foreign at an attribute exactly if that is unmodelled, whatever the
rule looks like by then. -/
theorem absorb_eq_foreign_iff {attr : Attr} :
    absorb header rule attr = .error .foreign ↔ attr.unmodelled = true := by
  by_cases hknown : attr.kind ∈ RuleAttr.known
  · rcases RuleAttr.mem_known_iff.mp hknown with hread | hsuppress
    · exact absorb_eq_foreign_iff_of_read hread
    · exact absorb_eq_foreign_iff_of_suppress hsuppress
  · exact iff_of_true (absorb_of_not_mem hknown) (Attr.unmodelled_of_not_mem hknown)

theorem exists_unmodelled_of_absorbAll {attrs : List Attr}
    (h : absorbAll header rule attrs = .error .foreign) :
    ∃ attr ∈ attrs, attr.unmodelled = true := by
  induction attrs generalizing rule with
  | nil => cases h
  | cons attr attrs ih =>
      rw [absorbAll] at h
      rcases habsorb : absorb header rule attr with unread | next
      · rw [habsorb] at h
        rw [Except.error.inj h] at habsorb
        exact ⟨attr, List.mem_cons_self, absorb_eq_foreign_iff.mp habsorb⟩
      · rw [habsorb] at h
        obtain ⟨other, hother, hunmodelled⟩ := ih h
        exact ⟨other, List.mem_cons_of_mem attr hother, hunmodelled⟩

end Attributes

/-! ## Payloads -/

section Payloads

variable {payload : List UInt8}

/-- What is read as a rule has a family, an action and attributes that are all modelled. -/
theorem unmodelled_of_readRule_some {rule : Rule} (h : readRule payload = .ok (some rule)) :
    unmodelled payload = false := by
  obtain ⟨header, rest, hheader⟩ := exists_header_of_readRule h
  obtain ⟨family, action, result, hfamily, haction, habsorb, -⟩ :=
    readRuleParts_eq_ok (readRule_eq_some hheader h)
  have hattrs : (Attr.readAll rest).any Attr.unmodelled = false := by
    rw [List.any_eq_false]
    intro attr hattr hunmodelled
    obtain ⟨before, after, hafter⟩ := exists_absorb_of_mem habsorb hattr
    cases hafter.symm.trans (absorb_eq_foreign_iff.mpr hunmodelled)
  rw [unmodelled, hheader]
  simp only [hfamily, haction, hattrs, Option.isNone_some, Bool.or_false]

/-- Only for an unmodelled part is a payload passed over. -/
theorem unmodelled_of_readRule_none (h : readRule payload = .ok none) :
    unmodelled payload = true := by
  rw [readRule] at h
  rw [unmodelled]
  rcases hheader : RuleHeader.decode? payload with _ | ⟨header, rest⟩
  · rw [hheader] at h
    cases h
  rw [hheader] at h
  simp only [readRuleParts] at h ⊢
  rcases hfamily : Family.ofCode? header.family with _ | family
  · rfl
  rcases haction : RuleAction.ofCode? header.action with _ | action
  · rfl
  rw [hfamily, haction] at h
  simp only at h
  rcases habsorb : absorbAll header (headerRule header family action) (Attr.readAll rest) with
    unread | result
  · rw [habsorb] at h
    cases unread with
    | foreign =>
        obtain ⟨attr, hattr, hunmodelled⟩ := exists_unmodelled_of_absorbAll habsorb
        simp only [Option.isNone_some, Bool.false_or]
        exact List.any_eq_true.mpr ⟨attr, hattr, hunmodelled⟩
    | malformed fault => cases h
  · rw [habsorb] at h
    cases h

end Payloads

end Wire

open HostNet.Wire

namespace Connection

/-! ## Listings -/

section Listing

variable {family : Family} {payloads : List (List UInt8)} {rules : List Rule}

theorem readRules_cons_eq_ok {payload : List UInt8}
    (h : readRules family (payload :: payloads) = .ok rules) :
    ∃ rule? rest, readRule payload = .ok rule? ∧ readRules family payloads = .ok rest ∧
      rules = (rule?.filter (·.family == family)).toList ++ rest := by
  rw [readRules] at h
  rcases hread : readRule payload with fault | rule?
  · rw [hread] at h
    cases h
  rcases hrest : readRules family payloads with fault | rest
  · rw [hread, hrest] at h
    cases h
  · rw [hread, hrest] at h
    exact ⟨rule?, rest, rfl, rfl, (Except.ok.inj h).symm⟩

/-- A dump is read as it would be without its unmodelled payloads. -/
theorem readRules_filter_unmodelled (h : readRules family payloads = .ok rules) :
    readRules family (payloads.filter fun payload => !unmodelled payload) = .ok rules := by
  induction payloads generalizing rules with
  | nil => exact h
  | cons payload payloads ih =>
      obtain ⟨rule?, rest, hread, hrest, rfl⟩ := readRules_cons_eq_ok h
      rcases rule? with _ | rule
      · have hunmodelled := unmodelled_of_readRule_none hread
        rw [List.filter_cons_of_neg (by simp [hunmodelled])]
        exact ih hrest
      · have hmodelled := unmodelled_of_readRule_some hread
        rw [List.filter_cons_of_pos (by simp [hmodelled]), readRules, hread, ih hrest]

theorem exists_payload_of_mem {rule : Rule} (h : readRules family payloads = .ok rules)
    (hrule : rule ∈ rules) :
    ∃ payload ∈ payloads, unmodelled payload = false ∧ readRule payload = .ok (some rule) := by
  induction payloads generalizing rules with
  | nil =>
      rw [← Except.ok.inj h] at hrule
      cases hrule
  | cons payload payloads ih =>
      obtain ⟨rule?, rest, hread, hrest, rfl⟩ := readRules_cons_eq_ok h
      rcases List.mem_append.mp hrule with hfirst | hlater
      · obtain ⟨hrule?, -⟩ := Option.filter_eq_some_iff.mp (Option.mem_toList.mp hfirst)
        rw [hrule?] at hread
        exact ⟨payload, List.mem_cons_self, unmodelled_of_readRule_some hread, hread⟩
      · obtain ⟨other, hother, hmodelled⟩ := ih hrest hlater
        exact ⟨other, List.mem_cons_of_mem payload hother, hmodelled⟩

theorem exists_dump_of_listRules {κ : Type} {peer : Peer κ} {connection : Connection κ}
    (h : (connection.listRules peer family).1 = .ok rules) :
    ∃ payloads, (connection.dump peer (ruleDumpRequest family)).1 = .ok payloads ∧
      readRules family payloads = .ok rules := by
  change (connection.dump peer (ruleDumpRequest family)).1.bind (readRules family) = .ok rules at h
  rcases hdump : (connection.dump peer (ruleDumpRequest family)).1 with fault | payloads
  · rw [hdump] at h
    cases h
  · rw [hdump] at h
    exact ⟨payloads, rfl, h⟩

end Listing

end Connection

/-! ## Passes -/

namespace Rule

section Passes

variable {σ : Type} {host : Host σ} {rule : Rule} {enabled : Bool} {rules : List Rule}

theorem takes_deleteEach {victims : List Rule} (hvictims : victims ⊆ rule.instances rules)
    (hlength : victims.length + enabled.toNat = rules.countP (·.same rule)) (state : σ) :
    let calls := ((deleteEach victims (.ok ())).transcript host state).map Exchange.call
    rule.Takes enabled (rules.countP (·.same rule)) calls ∧
      ∀ victim, .delRule victim ∈ calls → victim ∈ rules := by
  intro calls
  have hcalls : calls = victims.map Call.delRule := calls_transcript_deleteEach host victims _ state
  rw [hcalls]
  constructor
  · exact takes_of_victims (fun victim hvictim => (mem_instances.mp (hvictims hvictim)).2) hlength
  · intro victim hcall
    obtain ⟨other, hother, heq⟩ := List.mem_map.mp hcall
    rw [← Call.delRule.inj heq]
    exact (mem_instances.mp (hvictims hother)).1

/-- Once rules are listed, a pass deletes none but these, and takes the calls that the number of
instances among them asks for. -/
theorem takes_converge (rule : Rule) (enabled : Bool) (rules : List Rule) (state : σ) :
    let calls := ((rule.converge enabled (rule.instances rules)).transcript host state).map
      Exchange.call
    rule.Takes enabled (rules.countP (·.same rule)) calls ∧
      ∀ victim, .delRule victim ∈ calls → victim ∈ rules := by
  cases enabled with
  | false =>
      refine takes_deleteEach (List.Subset.refl _) ?_ state
      exact length_instances rules
  | true =>
      rcases Nat.eq_zero_or_pos (rules.countP (·.same rule)) with hnone | hpos
      · rw [instances_eq_nil_iff.mpr hnone, hnone]
        refine ⟨rfl, fun victim hcall => ?_⟩
        cases List.mem_singleton.mp hcall
      · rw [converge_true_of_pos hpos]
        refine takes_deleteEach (List.dropLast_subset _) ?_ state
        rw [List.length_dropLast, length_instances]
        exact Nat.sub_add_cancel hpos

end Passes

/-- A payload with an unmodelled part is never read as a rule, and no other payload is passed over.
A listing that succeeds is therefore that of the payloads without one, and each of its rules is read
from one of these. On any machine a pass counts the instances among them and deletes none but
them. -/
theorem unmodelled_spared :
    (∀ payload rule, unmodelled payload = true → readRule payload ≠ .ok (some rule)) ∧
      (∀ payload, readRule payload = .ok none → unmodelled payload = true) ∧
      (∀ {κ : Type} (peer : Peer κ) (connection : Connection κ) (family : Family)
          (rules : List Rule),
        (connection.listRules peer family).1 = .ok rules →
        ∃ payloads, (connection.dump peer (ruleDumpRequest family)).1 = .ok payloads ∧
          Connection.readRules family (payloads.filter fun payload => !unmodelled payload) =
            .ok rules ∧
          ∀ rule ∈ rules, ∃ payload ∈ payloads, unmodelled payload = false ∧
            readRule payload = .ok (some rule)) ∧
      ∀ {κ τ φ : Type} (ends : Machine.Ends κ τ φ) (machine : Machine κ τ φ) (rule : Rule)
          (enabled : Bool),
        let listing := (machine.connection.listRules ends.peer rule.family).1
        let calls := ((rule.ensure enabled).transcript (Machine.host ends) machine).map
          Exchange.call
        (∀ fault, listing = .error fault → calls = [.listRules rule.family]) ∧
          ∀ rules, listing = .ok rules →
            ∃ later, calls = .listRules rule.family :: later ∧
              rule.Takes enabled (rules.countP (·.same rule)) later ∧
              ∀ victim, .delRule victim ∈ later → victim ∈ rules := by
  refine ⟨?_, fun payload => unmodelled_of_readRule_none, ?_, ?_⟩
  · intro payload rule hunmodelled hread
    exact absurd (hunmodelled.symm.trans (unmodelled_of_readRule_some hread)).symm
      Bool.false_ne_true
  · intro κ peer connection family rules hlisted
    obtain ⟨payloads, hdump, hread⟩ := Connection.exists_dump_of_listRules hlisted
    exact ⟨payloads, hdump, Connection.readRules_filter_unmodelled hread,
      fun rule hrule => Connection.exists_payload_of_mem hread hrule⟩
  · intro κ τ φ ends machine rule enabled listing calls
    have hreply : (Machine.host ends (.listRules rule.family) machine).1 = listing := rfl
    constructor
    · intro fault hfault
      rw [hfault] at hreply
      change (Pass.transcript _ (Pass.call _ _) machine).map _ = _
      rw [Pass.transcript_call, hreply]
      rfl
    · intro rules hlisted
      rw [hlisted] at hreply
      have hcalls : calls = .listRules rule.family ::
          ((rule.converge enabled (rule.instances rules)).transcript (Machine.host ends)
            (Machine.host ends (.listRules rule.family) machine).2).map Exchange.call := by
        change (Pass.transcript _ (Pass.call _ _) machine).map _ = _
        rw [Pass.transcript_call, hreply]
        rfl
      exact ⟨_, hcalls, takes_converge rule enabled rules _⟩

/-- A rule that differs from ours in the routes it suppresses is not counted. Disabling ours deletes
ours alone. -/
theorem unmodelled_spared_suppressing :
    let rule := (ofFamily .inet).withPriority 100
    let own : List UInt8 := [2, 0, 0, 0, 254, 0, 0, 1, 0, 0, 0, 0, 8, 0, 6, 0, 100, 0, 0, 0]
    let suppressing := own ++ [8, 0, 14, 0, 0, 0, 0, 0]
    let answer := Message.encodeAll [Message.answering MessageKind.newRule 1 7 suppressing,
      Message.answering MessageKind.newRule 1 7 own,
      Message.answering MessageKind.done 1 7 (Word.bytes32 0)]
    let ends : Machine.Ends (List (Option Errno)) (List Iptables.ScriptedAnswer) FileTree :=
      ⟨Connection.scripted, Iptables.scripted, FileTree.files, "/"⟩
    let machine : Machine _ _ _ := ⟨Connection.fresh 7 [.ok answer] [] [], ⟨[], []⟩, ⟨[]⟩⟩
    unmodelled suppressing = true ∧ readRule suppressing ≠ .ok (some rule) ∧
      (machine.connection.listRules ends.peer rule.family).1 = .ok [rule] ∧
      ((rule.ensure false).transcript (Machine.host ends) machine).map Exchange.call =
        [.listRules .inet, .delRule rule] := by
  intro rule own suppressing answer ends machine
  obtain ⟨hunread, -, -, hpass⟩ := unmodelled_spared
  have hunmodelled : unmodelled suppressing = true := by decide +kernel
  have hlisted : (machine.connection.listRules ends.peer rule.family).1 = .ok [rule] := by cbv
  refine ⟨hunmodelled, hunread suppressing rule hunmodelled, hlisted, ?_⟩
  obtain ⟨later, hcalls, ⟨hlength, hdeletes⟩, hlater⟩ :=
    (hpass ends machine rule false).2 [rule] hlisted
  obtain ⟨c, rfl⟩ := List.length_eq_one_iff.mp hlength
  obtain ⟨victim, rfl, -⟩ := hdeletes c List.mem_cons_self
  rw [hcalls, List.mem_singleton.mp (hlater victim List.mem_cons_self)]
  rfl

end Rule

end HostNet
