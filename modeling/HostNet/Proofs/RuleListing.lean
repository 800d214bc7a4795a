import HostNet.Proofs.MessageReading
import HostNet.Wire.RuleCodec
/-!
Rules read back from the request that adds them. Adding sends prefixes without their host bits, a
mask only with a mark, and a zero mark as one that is none. Main statement: what is read back, and
that it is the same as the added rule exactly where nothing of it was lost on the way.
-/
namespace HostNet

def Cidr.cleared (cidr : Cidr) : Cidr :=
  ⟨cidr.network, cidr.length, cidr.length_le⟩

theorem Cidr.cleared_eq_self_iff {cidr : Cidr} : cidr.cleared = cidr ↔ cidr.Canonical := by
  obtain ⟨address, length, hlength⟩ := cidr
  constructor
  · exact fun h => congrArg Cidr.address h
  · intro h
    have haddress : (⟨address, length, hlength⟩ : Cidr).network = address := h
    simp only [cleared, haddress]

namespace Rule

/-- Prefixes are of the rule's own family. -/
def Coherent (rule : Rule) : Prop :=
  (∀ src, rule.src = some src → src.family = rule.family) ∧
    ∀ dst, rule.dst = some dst → dst.family = rule.family

/-- The rule as it is sent: prefixes without host bits, and a mask only with a mark. -/
def sent (rule : Rule) : Rule :=
  { rule with
    src := rule.src.map Cidr.cleared
    dst := rule.dst.map Cidr.cleared
    mask := if rule.mark.isSome then rule.mask else none }

/-- The rule as it is read back. -/
def listed (rule : Rule) : Rule :=
  Wire.dropZeroMark rule.sent

/-- Nothing of the rule is lost between adding and listing it: prefixes have no host bits, a mask
without a mark is zero, and a zero mark has a mask. -/
structure Survivable (rule : Rule) : Prop where
  src : ∀ src, rule.src = some src → src.Canonical
  dst : ∀ dst, rule.dst = some dst → dst.Canonical
  unmarked : rule.mark = none → rule.mask.getD 0 = 0
  zero : rule.mark = some 0 → rule.mask.isSome = true

end Rule

namespace Wire

/-! ## Attributes in turn -/

section Absorb

variable {header : RuleHeader}

theorem absorbAll_append {rule between : Rule} {attrs later : List Attr}
    (h : absorbAll header rule attrs = .ok between) :
    absorbAll header rule (attrs ++ later) = absorbAll header between later := by
  induction attrs generalizing rule with
  | nil =>
      have hbetween : rule = between := Except.ok.inj h
      rw [hbetween, List.nil_append]
  | cons attr attrs ih =>
      rw [List.cons_append, absorbAll]
      rw [absorbAll] at h
      cases habsorb : absorb header rule attr with
      | ok next =>
          rw [habsorb] at h
          exact ih h
      | error unread =>
          rw [habsorb] at h
          cases h

/-- An optional field that is read from one attribute, where there is none yet. -/
theorem absorbAll_optional {α : Type} {rule : Rule} {value : Option α} {toAttr : α → Attr}
    (field : Option α → Rule) (hnone : field none = rule)
    (hsome : ∀ a, value = some a → absorb header rule (toAttr a) = .ok (field (some a))) :
    absorbAll header rule (value.map toAttr).toList = .ok (field value) := by
  cases value with
  | none => rw [hnone]; rfl
  | some a =>
      rw [Option.map_some, Option.toList_some, absorbAll, hsome a rfl]
      rfl

variable (rule : Rule)

theorem absorb_priority (value : UInt32) :
    absorb header rule (Attr.word RuleAttr.priority value) =
      .ok { rule with priority := some value } := by
  change Except.ok { rule with priority := Attr.word? (Word.bytes32 value) } = _
  rw [Attr.word?_bytes32]

theorem absorb_mark (value : UInt32) :
    absorb header rule (Attr.word RuleAttr.mark value) =
      .ok { rule with mark := some value } := by
  change Except.ok { rule with mark := Attr.word? (Word.bytes32 value) } = _
  rw [Attr.word?_bytes32]

theorem absorb_mask (value : UInt32) :
    absorb header rule (Attr.word RuleAttr.mask value) =
      .ok { rule with mask := some value } := by
  change Except.ok { rule with mask := Attr.word? (Word.bytes32 value) } = _
  rw [Attr.word?_bytes32]

theorem absorb_table (value : UInt32) :
    absorb header rule (Attr.word RuleAttr.table value) = .ok { rule with table := value } := by
  change Except.ok { rule with table := (Attr.word? (Word.bytes32 value)).getD rule.table } = _
  rw [Attr.word?_bytes32]
  rfl

theorem absorb_iif {name : String} (h : '\x00' ∉ name.toList) :
    absorb header rule (Attr.text RuleAttr.iif name) = .ok { rule with iif := some name } := by
  change Except.ok { rule with iif := Attr.text? (Text.toBytes name ++ [0]) } = _
  rw [Attr.text?_toBytes h]

theorem absorb_oif {name : String} (h : '\x00' ∉ name.toList) :
    absorb header rule (Attr.text RuleAttr.oif name) = .ok { rule with oif := some name } := by
  change Except.ok { rule with oif := Attr.text? (Text.toBytes name ++ [0]) } = _
  rw [Attr.text?_toBytes h]

/-- The address of a prefix without its host bits, with the length from the header, is the prefix
without its host bits. -/
theorem reportedPrefix_octets {cidr : Cidr} (hfamily : header.family = cidr.family.code) :
    reportedPrefix header cidr.lengthByte cidr.network.octets = .ok (some cidr.cleared) := by
  have hwidth : cidr.address.family.width ≤ 128 := by
    cases cidr.address.family <;> decide
  have hlength : cidr.lengthByte.toNat = cidr.length := by
    have hlt : cidr.length < 256 := by
      have hle := cidr.length_le
      omega
    rw [Cidr.lengthByte, UInt8.toNat_ofNat', Nat.mod_eq_of_lt hlt]
  have haddress : Attr.address? header.family cidr.network.octets = some cidr.network := by
    rw [hfamily]
    exact Attr.address?_octets cidr.network
  have hmake : Cidr.make? cidr.network cidr.length = some cidr.cleared := dif_pos cidr.length_le
  rw [reportedPrefix, haddress, hlength]
  simp only [hmake]

theorem absorb_src {src : Cidr} (hfamily : header.family = src.family.code)
    (hlength : header.srcLength = src.lengthByte) :
    absorb header rule (Attr.address RuleAttr.src src.network) =
      .ok { rule with src := some src.cleared } := by
  change (do return { rule with
    src := ← reportedPrefix header header.srcLength src.network.octets }) = _
  rw [hlength, reportedPrefix_octets hfamily]
  rfl

theorem absorb_dst {dst : Cidr} (hfamily : header.family = dst.family.code)
    (hlength : header.dstLength = dst.lengthByte) :
    absorb header rule (Attr.address RuleAttr.dst dst.network) =
      .ok { rule with dst := some dst.cleared } := by
  change (do return { rule with
    dst := ← reportedPrefix header header.dstLength dst.network.octets }) = _
  rw [hlength, reportedPrefix_octets hfamily]
  rfl

end Absorb

section Fields

variable {header : RuleHeader} {rule : Rule}

theorem absorbAll_markAttrs {mark mask : Option UInt32} (hmark : rule.mark = none)
    (hmask : rule.mask = none) :
    absorbAll header rule (markAttrs mark mask) =
      .ok { rule with mark := mark, mask := if mark.isSome then mask else none } := by
  obtain ⟨family, priority, table, action, src, dst, iif, oif, _, _, tos, inverted⟩ := rule
  cases hmark
  cases hmask
  cases mark with
  | none => rfl
  | some mark =>
      cases mask with
      | none =>
          rw [markAttrs, absorbAll, absorb_mark]
          rfl
      | some mask =>
          rw [markAttrs, absorbAll, absorb_mark]
          simp only
          rw [absorbAll, absorb_mask]
          rfl

theorem toUInt32_tableByte {table : UInt32} (hsmall : table ≤ 255) :
    (tableByte table).toUInt32 = table := by
  rw [tableByte, if_pos hsmall]
  apply UInt32.toNat_inj.mp
  have hlt : table.toNat ≤ 255 := hsmall
  simp
  omega

theorem absorbAll_tableAttrs {table : UInt32} (htable : rule.table = (tableByte table).toUInt32) :
    absorbAll header rule (tableAttrs RuleAttr.table table) =
      .ok { rule with table := table } := by
  by_cases hsmall : table ≤ 255
  · rw [toUInt32_tableByte hsmall] at htable
    rw [tableAttrs, if_pos hsmall, ← htable]
    rfl
  · rw [tableAttrs, if_neg hsmall, absorbAll, absorb_table]
    rfl

end Fields

/-! ## The request -/

section Request

variable {rule : Rule}

theorem validInterfaceName_of_check {names : List (Option String)} {name : String}
    (h : checkInterfaceNames names = .ok ()) (hname : some name ∈ names) :
    validInterfaceName name = true := by
  rw [checkInterfaceNames] at h
  cases hfind : names.find? fun name? => name?.any fun name => !validInterfaceName name with
  | none =>
      have hvalid := List.find?_eq_none.mp hfind (some name) hname
      simpa using hvalid
  | some found =>
      cases found with
      | none => exact absurd (List.find?_some hfind) Bool.false_ne_true
      | some other =>
          rw [hfind] at h
          cases h

/-- A name the kernel takes is short, and its NUL is the only one. -/
theorem bytes_of_validInterfaceName {name : String} (h : validInterfaceName name = true) :
    (Text.toBytes name).length < 16 ∧ '\x00' ∉ name.toList := by
  rw [validInterfaceName, Bool.and_eq_true, Bool.and_eq_true] at h
  exact ⟨of_decide_eq_true h.1.2, by simpa using h.2⟩

theorem headerRule_ruleHeader (rule : Rule) :
    headerRule (ruleHeader rule) rule.family rule.action =
      { Rule.ofFamily rule.family with
        action := rule.action
        table := (tableByte rule.table).toUInt32
        tos := rule.tos
        inverted := rule.inverted } := by
  cases hinverted : rule.inverted <;>
    simp [headerRule, ruleHeader, hinverted, RuleHeader.invertFlag]

/-- The attributes of a rule, read under its header, give back what was sent. -/
theorem absorbAll_ruleAttrs (hcoherent : rule.Coherent)
    (hiif : ∀ name, rule.iif = some name → '\x00' ∉ name.toList)
    (hoif : ∀ name, rule.oif = some name → '\x00' ∉ name.toList) :
    absorbAll (ruleHeader rule) (headerRule (ruleHeader rule) rule.family rule.action)
      (ruleAttrs rule) = .ok rule.sent := by
  rw [headerRule_ruleHeader]
  -- the rule after each attribute: one more field is filled in, the others are still empty
  let base : Rule := { Rule.ofFamily rule.family with
    action := rule.action
    table := (tableByte rule.table).toUInt32
    tos := rule.tos
    inverted := rule.inverted }
  let prioritized : Rule := { base with priority := rule.priority }
  let sourced : Rule := { prioritized with src := rule.src.map Cidr.cleared }
  let aimed : Rule := { sourced with dst := rule.dst.map Cidr.cleared }
  let entering : Rule := { aimed with iif := rule.iif }
  let leaving : Rule := { entering with oif := rule.oif }
  let marked : Rule := { leaving with
    mark := rule.mark
    mask := if rule.mark.isSome then rule.mask else none }
  have hpriority : absorbAll (ruleHeader rule) base
      (rule.priority.map (Attr.word RuleAttr.priority)).toList = .ok prioritized :=
    absorbAll_optional (fun priority => { base with priority := priority }) rfl
      fun value _ => absorb_priority base value
  have hsrc : absorbAll (ruleHeader rule) prioritized
      (rule.src.map fun src => Attr.address RuleAttr.src src.network).toList = .ok sourced := by
    apply absorbAll_optional (fun src => { prioritized with src := src.map Cidr.cleared }) rfl
    intro src hsrc
    refine absorb_src prioritized ?_ ?_
    · rw [hcoherent.1 src hsrc]
      rfl
    · rw [ruleHeader, hsrc]
      rfl
  have hdst : absorbAll (ruleHeader rule) sourced
      (rule.dst.map fun dst => Attr.address RuleAttr.dst dst.network).toList = .ok aimed := by
    apply absorbAll_optional (fun dst => { sourced with dst := dst.map Cidr.cleared }) rfl
    intro dst hdst
    refine absorb_dst sourced ?_ ?_
    · rw [hcoherent.2 dst hdst]
      rfl
    · rw [ruleHeader, hdst]
      rfl
  have hiif' : absorbAll (ruleHeader rule) aimed
      (rule.iif.map (Attr.text RuleAttr.iif)).toList = .ok entering :=
    absorbAll_optional (fun iif => { aimed with iif := iif }) rfl
      fun name hname => absorb_iif aimed (hiif name hname)
  have hoif' : absorbAll (ruleHeader rule) entering
      (rule.oif.map (Attr.text RuleAttr.oif)).toList = .ok leaving :=
    absorbAll_optional (fun oif => { entering with oif := oif }) rfl
      fun name hname => absorb_oif entering (hoif name hname)
  have hmark : absorbAll (ruleHeader rule) leaving (markAttrs rule.mark rule.mask) =
      .ok marked :=
    absorbAll_markAttrs rfl rfl
  have htable : absorbAll (ruleHeader rule) marked (tableAttrs RuleAttr.table rule.table) =
      .ok rule.sent :=
    absorbAll_tableAttrs rfl
  rw [ruleAttrs]
  simp only [List.append_assoc]
  rw [absorbAll_append hpriority, absorbAll_append hsrc, absorbAll_append hdst,
    absorbAll_append hiif', absorbAll_append hoif', absorbAll_append hmark, htable]

theorem fits_word {kind : UInt16} (hkind : kind &&& Attr.kindMask = kind) (value : UInt32) :
    (Attr.word kind value).Fits := by
  refine ⟨hkind, ?_⟩
  rw [Attr.word, Word.length_bytes32]
  decide

theorem fits_address {kind : UInt16} (hkind : kind &&& Attr.kindMask = kind) (value : Address) :
    (Attr.address kind value).Fits := by
  refine ⟨hkind, ?_⟩
  rw [Attr.address, Address.length_octets]
  cases value.family <;> decide

theorem fits_text {kind : UInt16} (hkind : kind &&& Attr.kindMask = kind) {name : String}
    (hname : validInterfaceName name = true) : (Attr.text kind name).Fits := by
  refine ⟨hkind, ?_⟩
  have hlength := (bytes_of_validInterfaceName hname).1
  simp only [Attr.text, List.length_append, List.length_singleton, Attr.headerLength]
  omega

/-- What holds of words, of addresses and of the texts of interface names holds of every attribute
of a rule. -/
theorem forall_ruleAttrs {holds : Attr → Prop}
    (hword : ∀ {kind : UInt16} (_ : kind &&& Attr.kindMask = kind) (value : UInt32),
      holds (Attr.word kind value))
    (haddress : ∀ {kind : UInt16} (_ : kind &&& Attr.kindMask = kind) (value : Address),
      holds (Attr.address kind value))
    (htext : ∀ {kind : UInt16} (_ : kind &&& Attr.kindMask = kind) {name : String}
      (_ : validInterfaceName name = true), holds (Attr.text kind name))
    (hiif : ∀ name, rule.iif = some name → validInterfaceName name = true)
    (hoif : ∀ name, rule.oif = some name → validInterfaceName name = true) :
    ∀ attr ∈ ruleAttrs rule, holds attr := by
  intro attr hattr
  simp only [ruleAttrs, List.mem_append, Option.mem_toList, Option.map_eq_some_iff] at hattr
  rcases hattr with (((((⟨value, -, rfl⟩ | ⟨src, -, rfl⟩) | ⟨dst, -, rfl⟩) | ⟨name, hname, rfl⟩) |
    ⟨name, hname, rfl⟩) | hmark) | htable
  · exact hword rfl value
  · exact haddress rfl src.network
  · exact haddress rfl dst.network
  · exact htext rfl (hiif name hname)
  · exact htext rfl (hoif name hname)
  · unfold markAttrs at hmark
    split at hmark
    · exact absurd hmark List.not_mem_nil
    · rw [List.mem_singleton.mp hmark]
      exact hword rfl _
    · rcases List.mem_cons.mp hmark with rfl | hmask
      · exact hword rfl _
      · rw [List.mem_singleton.mp hmask]
        exact hword rfl _
  · unfold tableAttrs at htable
    split at htable
    · exact absurd htable List.not_mem_nil
    · rw [List.mem_singleton.mp htable]
      exact hword rfl _

/-- Every attribute of a rule can be told from its bytes. -/
theorem fits_ruleAttrs (hiif : ∀ name, rule.iif = some name → validInterfaceName name = true)
    (hoif : ∀ name, rule.oif = some name → validInterfaceName name = true) :
    ∀ attr ∈ ruleAttrs rule, attr.Fits :=
  forall_ruleAttrs fits_word fits_address fits_text hiif hoif

theorem readRule_encode_append {header : RuleHeader} {attrs : List Attr} {rule : Rule}
    (hfits : ∀ attr ∈ attrs, attr.Fits) (h : readRuleParts header attrs = .ok rule) :
    readRule (header.encode ++ Attr.encodeAll attrs) = .ok (some rule) := by
  rw [readRule, RuleHeader.decode?_encode_append]
  simp only
  rw [Attr.readAll_encodeAll hfits, h]

theorem ruleRequest_eq_ok {verb : RuleVerb} {request : Request}
    (h : ruleRequest verb rule = .ok request) :
    checkInterfaceNames [rule.iif, rule.oif] = .ok () ∧
      request = ⟨verb.kind, verb.flags, (ruleHeader rule).encode, ruleAttrs rule⟩ := by
  rw [ruleRequest] at h
  cases hcheck : checkInterfaceNames [rule.iif, rule.oif] with
  | error fault =>
      rw [hcheck] at h
      cases h
  | ok _ =>
      rw [hcheck] at h
      exact ⟨rfl, (Except.ok.inj h).symm⟩

/-- What a request for a rule carries behind the message header. -/
theorem drop_encode_ruleRequest {verb : RuleVerb} {request : Request} (seq port : UInt32)
    (h : ruleRequest verb rule = .ok request) :
    (request.encode seq port).drop Header.size =
      (ruleHeader rule).encode ++ Attr.encodeAll (ruleAttrs rule) := by
  have hfixed : 4 ∣ (ruleHeader rule).encode.length := by
    simp [RuleHeader.encode, Word.length_bytes32]
  rw [(ruleRequest_eq_ok h).2, Request.encode, List.drop_left' (Header.length_encode _),
    Request.body_of_dvd hfixed]

/-- A coherent rule that can be added is read back as what was sent of it. -/
theorem readRule_ruleRequest {verb : RuleVerb} {request : Request} (seq port : UInt32)
    (hcoherent : rule.Coherent) (h : ruleRequest verb rule = .ok request) :
    readRule ((request.encode seq port).drop Header.size) = .ok (some rule.listed) := by
  have hcheck := (ruleRequest_eq_ok h).1
  have hiif : ∀ name, rule.iif = some name → validInterfaceName name = true := fun name hname =>
    validInterfaceName_of_check hcheck (by simp [hname])
  have hoif : ∀ name, rule.oif = some name → validInterfaceName name = true := fun name hname =>
    validInterfaceName_of_check hcheck (by simp [hname])
  have hattrs := absorbAll_ruleAttrs hcoherent
    (fun name hname => (bytes_of_validInterfaceName (hiif name hname)).2)
    fun name hname => (bytes_of_validInterfaceName (hoif name hname)).2
  have hparts : readRuleParts (ruleHeader rule) (ruleAttrs rule) = .ok rule.listed := by
    have hfamily : Family.ofCode? (ruleHeader rule).family = some rule.family :=
      Family.ofCode?_code rule.family
    have haction : RuleAction.ofCode? (ruleHeader rule).action = some rule.action :=
      RuleAction.ofCode?_code rule.action
    rw [readRuleParts, hfamily, haction]
    simp only
    rw [hattrs]
    rfl
  rw [drop_encode_ruleRequest seq port h]
  exact readRule_encode_append (fits_ruleAttrs hiif hoif) hparts

end Request

end Wire

namespace Rule

/-! ## The comparison -/

theorem map_cleared_eq_iff {cidr? : Option Cidr} :
    cidr?.map Cidr.cleared = cidr? ↔ ∀ cidr, cidr? = some cidr → cidr.Canonical := by
  cases cidr? with
  | none => simp
  | some cidr => simp [Cidr.cleared_eq_self_iff]

theorem exists_listed_eq (rule : Rule) :
    ∃ mark mask, rule.listed = { rule.sent with mark := mark, mask := mask } := by
  unfold listed Wire.dropZeroMark
  split
  · exact ⟨_, _, rfl⟩
  · exact ⟨rule.sent.mark, rule.sent.mask, rfl⟩

theorem mark_listed (rule : Rule) : rule.listed.mark.getD 0 = rule.mark.getD 0 := by
  unfold listed Wire.dropZeroMark
  split
  · rename_i h
    have hmark : rule.mark = some 0 := h.1
    rw [hmark]
    rfl
  · rfl

/-- The masks compare equal unless one was set without a mark, or left out with a zero mark. -/
theorem storedMask_listed_iff (rule : Rule) :
    rule.listed.storedMask.getD 0 = rule.storedMask.getD 0 ↔
      (rule.mark = none → rule.mask.getD 0 = 0) ∧
        (rule.mark = some 0 → rule.mask.isSome = true) := by
  cases hmark : rule.mark with
  | none =>
      have hlisted : rule.listed.storedMask = none := by
        simp [listed, Wire.dropZeroMark, sent, storedMask, hmark]
      have hstored : rule.storedMask = rule.mask := by
        cases hmask : rule.mask <;> simp [storedMask, hmark, hmask]
      rw [hlisted, hstored]
      constructor
      · exact fun h => ⟨fun _ => h.symm, fun hzero => by cases hzero⟩
      · exact fun h => (h.1 rfl).symm
  | some mark =>
      cases hmask : rule.mask with
      | none =>
          by_cases hzero : mark = 0
          · simp [listed, Wire.dropZeroMark, sent, storedMask, hmark, hmask, hzero]
          · simp [listed, Wire.dropZeroMark, sent, storedMask, hmark, hmask, hzero]
      | some mask =>
          by_cases hzero : mark = 0 ∧ mask = 0
          · simp [listed, Wire.dropZeroMark, sent, storedMask, hmark, hmask, hzero]
          · simp [listed, Wire.dropZeroMark, sent, storedMask, hmark, hmask, hzero]

theorem listed_same_iff (rule : Rule) : rule.listed.same rule = true ↔ rule.Survivable := by
  have hshape : rule.listed.shape = rule.shape ↔
      rule.src.map Cidr.cleared = rule.src ∧ rule.dst.map Cidr.cleared = rule.dst ∧
        rule.listed.storedMask.getD 0 = rule.storedMask.getD 0 := by
    obtain ⟨mark, mask, hlisted⟩ := rule.exists_listed_eq
    have hmark := rule.mark_listed
    rw [hlisted] at hmark ⊢
    simp only at hmark
    simp only [shape, sent, hmark, mk.injEq, Option.some.injEq, true_and, and_true]
  rw [same_iff, hshape, map_cleared_eq_iff, map_cleared_eq_iff, storedMask_listed_iff]
  constructor
  · rintro ⟨hsrc, hdst, hunmarked, hzero⟩
    exact ⟨hsrc, hdst, hunmarked, hzero⟩
  · rintro ⟨hsrc, hdst, hunmarked, hzero⟩
    exact ⟨hsrc, hdst, hunmarked, hzero⟩

/-- A coherent rule that can be added is read back from its request, at its own priority. It counts
as the same rule exactly if nothing of it was lost. -/
theorem read_same_iff {rule : Rule} {request : Wire.Request} (seq port : UInt32)
    (hcoherent : rule.Coherent) (hrequest : Wire.ruleRequest .add rule = .ok request) :
    Wire.readRule ((request.encode seq port).drop Wire.Header.size) = .ok (some rule.listed) ∧
      rule.listed.priority = rule.priority ∧
      (rule.listed.same rule = true ↔ rule.Survivable) := by
  refine ⟨Wire.readRule_ruleRequest seq port hcoherent hrequest, ?_, rule.listed_same_iff⟩
  obtain ⟨mark, mask, hlisted⟩ := rule.exists_listed_eq
  rw [hlisted]
  rfl

theorem coherent_fromSource {rule : Rule} (src : Cidr) (hdst : rule.dst = none) :
    (rule.fromSource src).Coherent := by
  constructor
  · intro other hother
    rw [← Option.some.inj hother]
    rfl
  · intro dst hsome
    cases hdst.symm.trans hsome

/-- A marked rule for a prefix without host bits is read back as the same. -/
theorem read_same_iff_marked :
    let rule := (((ofFamily .inet).withPriority 100).withMaskedMark 16 255).fromSource
      ⟨.v4 0x0a000000, 24, by decide⟩
    rule.Coherent ∧ ∃ request, Wire.ruleRequest .add rule = .ok request ∧
      Wire.readRule ((request.encode 1 0).drop Wire.Header.size) = .ok (some rule.listed) ∧
      rule.listed.priority = some 100 ∧ rule.listed.same rule = true := by
  intro rule
  have hcoherent : rule.Coherent := coherent_fromSource _ rfl
  have hrequest : Wire.ruleRequest .add rule = .ok ⟨_, _, _, _⟩ := rfl
  obtain ⟨hread, hpriority, hsame⟩ := read_same_iff 1 0 hcoherent hrequest
  refine ⟨hcoherent, _, hrequest, hread, hpriority, hsame.mpr ?_⟩
  refine ⟨?_, ?_, ?_, ?_⟩
  · intro src hsrc
    rw [← Option.some.inj hsrc]
    decide
  · intro dst hdst
    cases hdst
  · intro hmark
    cases hmark
  · intro hmark
    exact absurd (Option.some.inj hmark) (by decide)

/-- A rule for a prefix with host bits is read back as another rule. -/
theorem not_read_same_of_host_bits :
    let rule := (((ofFamily .inet).withPriority 100).withMaskedMark 16 255).fromSource
      ⟨.v4 0x0a000005, 24, by decide⟩
    rule.Coherent ∧ ∃ request, Wire.ruleRequest .add rule = .ok request ∧
      ∃ listed, Wire.readRule ((request.encode 1 0).drop Wire.Header.size) = .ok (some listed) ∧
        listed.same rule = false := by
  intro rule
  have hcoherent : rule.Coherent := coherent_fromSource _ rfl
  have hrequest : Wire.ruleRequest .add rule = .ok ⟨_, _, _, _⟩ := rfl
  refine ⟨hcoherent, _, hrequest, rule.listed, ?_, ?_⟩
  · exact Wire.readRule_ruleRequest 1 0 hcoherent hrequest
  · rw [← Bool.not_eq_true, listed_same_iff]
    intro hsurvivable
    exact absurd (hsurvivable.src _ rfl) (by decide)

end Rule

end HostNet
