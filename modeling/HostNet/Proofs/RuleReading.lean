import HostNet.Wire.RuleCodec
import Mathlib.Logic.Basic
/-!
What a reported rule is read as. The reader goes through the attributes once, and each of them sets
at most one field, so that of repeated attributes the last one counts. Main statement: a selector
that was reported is in the rule exactly if the last attribute of its type is well formed; a
malformed one is dropped, and the rule is broader than the one reported.
-/
namespace HostNet.Wire

/-- The last attribute of a type. -/
def Attr.last? (kind : UInt16) (attrs : List Attr) : Option Attr :=
  (attrs.filter fun attr => attr.kind == kind).getLast?

theorem Attr.last?_cons (kind : UInt16) (attr : Attr) (attrs : List Attr) :
    last? kind (attr :: attrs) =
      (last? kind attrs).or (if attr.kind = kind then some attr else none) := by
  rw [last?, last?, List.filter_cons]
  by_cases hkind : attr.kind = kind
  · rw [if_pos (beq_iff_eq.mpr hkind), if_pos hkind, List.getLast?_cons]
    cases (attrs.filter fun attr => attr.kind == kind).getLast? with
    | none => rfl
    | some last => rfl
  · rw [if_neg (by simp [hkind]), if_neg hkind, Option.or_none]

theorem Attr.mem_of_last? {kind : UInt16} {attrs : List Attr} {attr : Attr}
    (h : last? kind attrs = some attr) : attr ∈ attrs ∧ attr.kind = kind := by
  obtain ⟨hmem, hkind⟩ := List.mem_filter.mp (List.mem_of_getLast? h)
  exact ⟨hmem, beq_iff_eq.mp hkind⟩

/-- The prefix that the front of a payload and a length make, if they make one. -/
def prefix? (header : RuleHeader) (length : UInt8) (payload : List UInt8) : Option Cidr :=
  (Attr.address? header.family payload).bind fun address => Cidr.make? address length.toNat

/-- The rule with the field of an attribute's type set to what the payload is read as. A type
without a field changes nothing. -/
def update (header : RuleHeader) (rule : Rule) (attr : Attr) : Rule :=
  { rule with
    priority := if attr.kind = RuleAttr.priority then Attr.word? attr.payload else rule.priority
    table :=
      if attr.kind = RuleAttr.table then (Attr.word? attr.payload).getD rule.table
      else rule.table
    src :=
      if attr.kind = RuleAttr.src then prefix? header header.srcLength attr.payload
      else rule.src
    dst :=
      if attr.kind = RuleAttr.dst then prefix? header header.dstLength attr.payload
      else rule.dst
    iif := if attr.kind = RuleAttr.iif then Attr.text? attr.payload else rule.iif
    oif := if attr.kind = RuleAttr.oif then Attr.text? attr.payload else rule.oif
    mark := if attr.kind = RuleAttr.mark then Attr.word? attr.payload else rule.mark
    mask := if attr.kind = RuleAttr.mask then Attr.word? attr.payload else rule.mask }

/-! ## One attribute -/

section Absorb

variable {header : RuleHeader} {rule next : Rule} {attr : Attr}

theorem reportedPrefix_eq_ok {length : UInt8} {payload : List UInt8} {cidr? : Option Cidr}
    (h : reportedPrefix header length payload = .ok cidr?) :
    cidr? = prefix? header length payload := by
  rw [reportedPrefix] at h
  rw [prefix?]
  rcases haddress : Attr.address? header.family payload with _ | address
  · rw [haddress] at h
    exact (Except.ok.inj h).symm
  · rw [haddress] at h
    simp only at h
    rcases hmake : Cidr.make? address length.toNat with _ | cidr
    · rw [hmake] at h
      cases h
    · rw [hmake] at h
      rw [Option.bind_some, hmake]
      exact (Except.ok.inj h).symm

theorem exists_of_map_reportedPrefix {length : UInt8} {payload : List UInt8}
    {set : Option Cidr → Rule}
    (h : (do return set (← reportedPrefix header length payload)) = Except.ok next) :
    ∃ cidr?, reportedPrefix header length payload = .ok cidr? ∧ next = set cidr? := by
  cases hmade : reportedPrefix header length payload with
  | error unread =>
      rw [hmade] at h
      cases h
  | ok cidr? =>
      rw [hmade] at h
      exact ⟨cidr?, rfl, (Except.ok.inj h).symm⟩

/-- An attribute that is understood sets its field. -/
theorem absorb_eq_ok (h : absorb header rule attr = .ok next) : next = update header rule attr := by
  obtain ⟨kind, payload⟩ := attr
  rw [absorb] at h
  -- one branch of the reader after the other
  rcases ite_eq_iff.mp h with ⟨rfl, h⟩ | ⟨-, h⟩
  · cases h
    rfl
  rcases ite_eq_iff.mp h with ⟨rfl, h⟩ | ⟨-, h⟩
  · obtain ⟨cidr?, hmade, rfl⟩ := exists_of_map_reportedPrefix h
    rw [reportedPrefix_eq_ok hmade]
    rfl
  rcases ite_eq_iff.mp h with ⟨rfl, h⟩ | ⟨-, h⟩
  · obtain ⟨cidr?, hmade, rfl⟩ := exists_of_map_reportedPrefix h
    rw [reportedPrefix_eq_ok hmade]
    rfl
  rcases ite_eq_iff.mp h with ⟨rfl, h⟩ | ⟨-, h⟩
  · cases h
    rfl
  rcases ite_eq_iff.mp h with ⟨rfl, h⟩ | ⟨-, h⟩
  · cases h
    rfl
  rcases ite_eq_iff.mp h with ⟨rfl, h⟩ | ⟨-, h⟩
  · cases h
    rfl
  rcases ite_eq_iff.mp h with ⟨rfl, h⟩ | ⟨-, h⟩
  · cases h
    rfl
  rcases ite_eq_iff.mp h with ⟨rfl, h⟩ | ⟨-, h⟩
  · cases h
    rfl
  rcases ite_eq_iff.mp h with ⟨rfl | rfl, h⟩ | ⟨-, h⟩
  · rcases ite_eq_iff.mp h with ⟨-, h⟩ | ⟨-, h⟩
    · cases h
      rfl
    · cases h
  · rcases ite_eq_iff.mp h with ⟨-, h⟩ | ⟨-, h⟩
    · cases h
      rfl
    · cases h
  rcases ite_eq_iff.mp h with ⟨rfl | rfl, h⟩ | ⟨-, h⟩
  · cases h
    rfl
  · cases h
    rfl
  · cases h

end Absorb

/-! ## All attributes -/

section Fields

variable {header : RuleHeader} {attrs : List Attr}

theorem absorbAll_eq_ok {rule result : Rule} (h : absorbAll header rule attrs = .ok result) :
    result = attrs.foldl (update header) rule := by
  induction attrs generalizing rule with
  | nil => exact (Except.ok.inj h).symm
  | cons attr attrs ih =>
      rw [absorbAll] at h
      rcases habsorb : absorb header rule attr with unread | next
      · rw [habsorb] at h
        cases h
      · rw [habsorb] at h
        rw [List.foldl_cons, ← absorb_eq_ok habsorb]
        exact ih h

/-- A field that attributes of one type set, and no others, is what the last of them is read as. -/
theorem foldl_update {α : Type} {kind : UInt16} (field : Rule → α) {read : List UInt8 → α}
    (hset : ∀ rule attr, field (update header rule attr) =
      if attr.kind = kind then read attr.payload else field rule) (rule : Rule) :
    field (attrs.foldl (update header) rule) =
      ((Attr.last? kind attrs).map fun attr => read attr.payload).getD (field rule) := by
  induction attrs generalizing rule with
  | nil => rfl
  | cons attr attrs ih =>
      rw [List.foldl_cons, ih, hset]
      rw [Attr.last?_cons]
      by_cases hkind : attr.kind = kind
      · rw [if_pos hkind, if_pos hkind]
        cases Attr.last? kind attrs with
        | none => rfl
        | some last => rfl
      · rw [if_neg hkind, if_neg hkind, Option.or_none]

theorem foldl_update_of_none {α : Type} {kind : UInt16} (field : Rule → Option α)
    {read : List UInt8 → Option α}
    (hset : ∀ rule attr, field (update header rule attr) =
      if attr.kind = kind then read attr.payload else field rule) {rule : Rule}
    (hnone : field rule = none) :
    field (attrs.foldl (update header) rule) =
      (Attr.last? kind attrs).bind fun attr => read attr.payload := by
  rw [foldl_update field hset, hnone]
  cases Attr.last? kind attrs with
  | none => rfl
  | some last => rfl

/-- Attributes do not change what the header alone says. -/
theorem foldl_update_keeps (rule : Rule) :
    let result := attrs.foldl (update header) rule
    result.family = rule.family ∧ result.action = rule.action ∧ result.tos = rule.tos ∧
      result.inverted = rule.inverted := by
  induction attrs generalizing rule with
  | nil => exact ⟨rfl, rfl, rfl, rfl⟩
  | cons attr attrs ih => exact ih (update header rule attr)

end Fields

/-! ## Rules -/

section Rules

variable {header : RuleHeader} {attrs : List Attr}

/-- Every attribute of a rule that is read is understood. -/
theorem exists_absorb_of_mem {rule result : Rule} {attr : Attr}
    (h : absorbAll header rule attrs = .ok result) (hattr : attr ∈ attrs) :
    ∃ before after, absorb header before attr = .ok after := by
  induction attrs generalizing rule with
  | nil => cases hattr
  | cons first rest ih =>
      rw [absorbAll] at h
      rcases habsorb : absorb header rule first with unread | next
      · rw [habsorb] at h
        cases h
      · rw [habsorb] at h
        rcases List.mem_cons.mp hattr with rfl | hrest
        · exact ⟨rule, next, habsorb⟩
        · exact ih h hrest

theorem exists_dropZeroMark_eq (rule : Rule) :
    ∃ mark mask, dropZeroMark rule = { rule with mark := mark, mask := mask } ∧
      (mark = some 0 → mask.getD 0 ≠ 0) := by
  unfold dropZeroMark
  split
  · exact ⟨none, none, rfl, nofun⟩
  · rename_i hzero
    exact ⟨rule.mark, rule.mask, rfl, fun hmark hmask => hzero ⟨hmark, hmask⟩⟩

theorem readRuleParts_eq_ok {rule : Rule} (h : readRuleParts header attrs = .ok rule) :
    ∃ family action result, Family.ofCode? header.family = some family ∧
      RuleAction.ofCode? header.action = some action ∧
      absorbAll header (headerRule header family action) attrs = .ok result ∧
      rule = dropZeroMark result := by
  rw [readRuleParts] at h
  rcases hfamily : Family.ofCode? header.family with _ | family
  · rw [hfamily] at h
    cases h
  · rcases haction : RuleAction.ofCode? header.action with _ | action
    · rw [hfamily, haction] at h
      cases h
    · rw [hfamily, haction] at h
      simp only at h
      rcases habsorb : absorbAll header (headerRule header family action) attrs with _ | result
      · rw [habsorb] at h
        cases h
      · rw [habsorb] at h
        exact ⟨family, action, result, rfl, rfl, habsorb, (Except.ok.inj h).symm⟩

theorem readRule_eq_some {payload rest : List UInt8} {rule : Rule}
    (hheader : RuleHeader.decode? payload = some (header, rest))
    (h : readRule payload = .ok (some rule)) :
    readRuleParts header (Attr.readAll rest) = .ok rule := by
  rw [readRule, hheader] at h
  simp only at h
  rcases hparts : readRuleParts header (Attr.readAll rest) with unread | result
  · rw [hparts] at h
    cases unread with
    | foreign => cases h
    | malformed fault => cases h
  · rw [hparts] at h
    exact congrArg Except.ok (Option.some.inj (Except.ok.inj h))

theorem exists_header_of_readRule {payload : List UInt8} {rule : Rule}
    (h : readRule payload = .ok (some rule)) :
    ∃ header rest, RuleHeader.decode? payload = some (header, rest) := by
  rw [readRule] at h
  rcases hheader : RuleHeader.decode? payload with _ | ⟨header, rest⟩
  · rw [hheader] at h
    cases h
  · exact ⟨header, rest, rfl⟩

/-- A rule that was read under a header from attributes that are all understood. -/
structure ReadFrom (header : RuleHeader) (attrs : List Attr) (rule : Rule) : Prop where
  family : Family.ofCode? header.family = some rule.family
  understood : ∀ attr ∈ attrs, ∃ before after, absorb header before attr = .ok after
  src : rule.src = (Attr.last? RuleAttr.src attrs).bind fun attr =>
    prefix? header header.srcLength attr.payload
  dst : rule.dst = (Attr.last? RuleAttr.dst attrs).bind fun attr =>
    prefix? header header.dstLength attr.payload
  iif : rule.iif = (Attr.last? RuleAttr.iif attrs).bind fun attr => Attr.text? attr.payload
  oif : rule.oif = (Attr.last? RuleAttr.oif attrs).bind fun attr => Attr.text? attr.payload
  zero : rule.mark = some 0 → rule.mask.getD 0 ≠ 0

theorem readFrom_of_readRule {payload rest : List UInt8} {rule : Rule}
    (hheader : RuleHeader.decode? payload = some (header, rest))
    (h : readRule payload = .ok (some rule)) : ReadFrom header (Attr.readAll rest) rule := by
  obtain ⟨family, action, result, hfamily, -, habsorb, rfl⟩ :=
    readRuleParts_eq_ok (readRule_eq_some hheader h)
  have hunderstood := fun attr (hattr : attr ∈ Attr.readAll rest) =>
    exists_absorb_of_mem habsorb hattr
  have hresult := absorbAll_eq_ok habsorb
  obtain ⟨mark, mask, hdrop, hzero⟩ := exists_dropZeroMark_eq result
  rw [hdrop, hresult]
  have hkeeps := @foldl_update_keeps header (Attr.readAll rest) (headerRule header family action)
  exact {
    family := hfamily.trans (congrArg some hkeeps.1.symm)
    understood := hunderstood
    src := foldl_update_of_none Rule.src (fun _ _ => rfl) rfl
    dst := foldl_update_of_none Rule.dst (fun _ _ => rfl) rfl
    iif := foldl_update_of_none Rule.iif (fun _ _ => rfl) rfl
    oif := foldl_update_of_none Rule.oif (fun _ _ => rfl) rfl
    zero := hzero }

/-! ## Selectors -/

theorem isSome_prefix?_iff {length : UInt8} {payload : List UInt8} {family : Family}
    {cidr? : Option Cidr} (hfamily : Family.ofCode? header.family = some family)
    (h : reportedPrefix header length payload = .ok cidr?) :
    (prefix? header length payload).isSome = true ↔ family.octetCount ≤ payload.length := by
  rw [← reportedPrefix_eq_ok h]
  rw [reportedPrefix, Attr.address?, hfamily, Option.bind_some, Address.ofOctets?] at h
  by_cases hlength : family.octetCount ≤ payload.length
  · rw [if_pos hlength] at h
    simp only at h
    split at h
    · rw [← Except.ok.inj h]
      exact iff_of_true rfl hlength
    · cases h
  · rw [if_neg hlength] at h
    rw [← Except.ok.inj h]
    exact iff_of_false Bool.false_ne_true hlength

/-- A field that the last attribute of a type sets is there exactly if that one is readable. -/
theorem isSome_bind_last?_iff {α : Type} {kind : UInt16} {read : List UInt8 → Option α}
    {readable : Attr → Prop}
    (h : ∀ attr ∈ attrs, attr.kind = kind → ((read attr.payload).isSome = true ↔ readable attr)) :
    ((Attr.last? kind attrs).bind fun attr => read attr.payload).isSome = true ↔
      ∃ attr, Attr.last? kind attrs = some attr ∧ readable attr := by
  rcases hlast : Attr.last? kind attrs with _ | attr
  · simp
  · obtain ⟨hmem, hkind⟩ := Attr.mem_of_last? hlast
    simp [h attr hmem hkind]

/-- Of a type that reports a prefix, an attribute is readable that holds an address in full. -/
theorem ReadFrom.isSome_reported_iff {rule : Rule} {kind : UInt16} {length : UInt8}
    (h : ReadFrom header attrs rule)
    (hreports : ∀ before attr, attr.kind = kind → ∃ set : Option Cidr → Rule,
      absorb header before attr = do return set (← reportedPrefix header length attr.payload)) :
    ((Attr.last? kind attrs).bind fun attr => prefix? header length attr.payload).isSome = true ↔
      ∃ attr, Attr.last? kind attrs = some attr ∧
        rule.family.octetCount ≤ attr.payload.length := by
  apply isSome_bind_last?_iff
  intro attr hmem hkind
  obtain ⟨before, after, habsorb⟩ := h.understood attr hmem
  obtain ⟨set, hset⟩ := hreports before attr hkind
  obtain ⟨cidr?, hmade, -⟩ := exists_of_map_reportedPrefix (hset.symm.trans habsorb)
  exact isSome_prefix?_iff h.family hmade

/-- A rule that is read has a selector exactly if the payload reports it and the last attribute of
its type is well formed, that is, holds an address of the rule's family in full, or a name that is
text up to its NUL. -/
theorem selectors_of_readRule {payload : List UInt8} {rule : Rule}
    (hread : readRule payload = .ok (some rule)) :
    ∃ header rest, RuleHeader.decode? payload = some (header, rest) ∧
      let attrs := Attr.readAll rest
      (rule.src.isSome = true ↔ ∃ attr, Attr.last? RuleAttr.src attrs = some attr ∧
        rule.family.octetCount ≤ attr.payload.length) ∧
      (rule.dst.isSome = true ↔ ∃ attr, Attr.last? RuleAttr.dst attrs = some attr ∧
        rule.family.octetCount ≤ attr.payload.length) ∧
      (rule.iif.isSome = true ↔ ∃ attr, Attr.last? RuleAttr.iif attrs = some attr ∧
        (Attr.text? attr.payload).isSome = true) ∧
      (rule.oif.isSome = true ↔ ∃ attr, Attr.last? RuleAttr.oif attrs = some attr ∧
        (Attr.text? attr.payload).isSome = true) := by
  obtain ⟨header, rest, hheader⟩ := exists_header_of_readRule hread
  have hfrom := readFrom_of_readRule hheader hread
  refine ⟨header, rest, hheader, ?_, ?_, ?_, ?_⟩
  · rw [hfrom.src]
    apply hfrom.isSome_reported_iff
    intro before attr hkind
    rw [absorb, hkind]
    exact ⟨_, rfl⟩
  · rw [hfrom.dst]
    apply hfrom.isSome_reported_iff
    intro before attr hkind
    rw [absorb, hkind]
    exact ⟨_, rfl⟩
  · rw [hfrom.iif]
    exact isSome_bind_last?_iff fun _ _ _ => Iff.rfl
  · rw [hfrom.oif]
    exact isSome_bind_last?_iff fun _ _ _ => Iff.rfl

/-- What a payload is read as can be decided where it is not refused. -/
theorem readRule_eq_of_toOption {payload : List UInt8} {rule? : Option Rule}
    (h : (readRule payload).toOption = some rule?) : readRule payload = .ok rule? := by
  rcases hread : readRule payload with fault | result
  · rw [hread] at h
    cases h
  · rw [hread] at h
    exact congrArg Except.ok (Option.some.inj h)

/-- A name that is no text does not count where one follows that is. -/
theorem selectors_of_readRule_repeated :
    let payload : List UInt8 := [2, 0, 24, 0, 254, 0, 0, 1, 0, 0, 0, 0, 8, 0, 2, 0, 10, 0, 0, 0,
      6, 0, 3, 0, 255, 0, 0, 0, 7, 0, 3, 0, 108, 111, 0, 0]
    ∃ rule, readRule payload = .ok (some rule) ∧ rule.src.isSome = true ∧
      rule.iif.isSome = true ∧ rule.oif.isSome = false := by
  intro payload
  let rule := ((Rule.ofFamily .inet).fromSource ⟨.v4 0x0a000000, 24, by decide⟩).onInput "lo"
  have hread : readRule payload = .ok (some rule) := readRule_eq_of_toOption (by decide +kernel)
  obtain ⟨header, rest, hheader, hsrc, -, hiif, hoif⟩ := selectors_of_readRule hread
  obtain ⟨rfl, rfl⟩ : _ = header ∧ _ = rest := Prod.mk.inj (Option.some.inj hheader)
  refine ⟨rule, hread, ?_, ?_, ?_⟩
  · exact hsrc.mpr ⟨⟨RuleAttr.src, [10, 0, 0, 0]⟩, by decide +kernel, by decide⟩
  · exact hiif.mpr ⟨⟨RuleAttr.iif, [108, 111, 0]⟩, by decide +kernel, by decide +kernel⟩
  · have hnone : Attr.last? RuleAttr.oif (Attr.readAll (payload.drop 12)) = none := by
      decide +kernel
    rw [← Bool.not_eq_true, hoif]
    rintro ⟨attr, hattr, -⟩
    cases hnone.symm.trans hattr

/-- A reported interface is dropped where its name is no text: the rule selects every interface. -/
theorem selector_dropped :
    let payload : List UInt8 := [2, 0, 0, 0, 254, 0, 0, 1, 0, 0, 0, 0, 6, 0, 3, 0, 255, 0, 0, 0]
    ∃ header rest, RuleHeader.decode? payload = some (header, rest) ∧
      ⟨RuleAttr.iif, [255, 0]⟩ ∈ Attr.readAll rest ∧
      ∃ rule, readRule payload = .ok (some rule) ∧ rule.iif = none := by
  intro payload
  refine ⟨_, _, rfl, by decide +kernel, Rule.ofFamily .inet, ?_, rfl⟩
  exact readRule_eq_of_toOption (by decide +kernel)

end Rules

end HostNet.Wire
