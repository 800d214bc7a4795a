import HostNet.Proofs.MessageReading
import HostNet.Proofs.RuleListing
/-!
Rules that travel unchanged. A rule that the wire format can express in full is read back from
either of its requests in all of its fields. Main statement: its request is one message, built
exactly if its interface names are the kernel's, and its payload tells it from every other such
rule.
-/
namespace HostNet

namespace Rule

/-- The wire format has a place for all of the rule: prefixes are of its family and have no host
bits, a mask comes with a mark, and a zero mark with a mask that is not zero. -/
structure Exact (rule : Rule) : Prop where
  coherent : rule.Coherent
  src : ∀ src, rule.src = some src → src.Canonical
  dst : ∀ dst, rule.dst = some dst → dst.Canonical
  masked : rule.mask.isSome = true → rule.mark.isSome = true
  zero : rule.mark = some 0 → rule.mask.getD 0 ≠ 0

/-- Interface names are of 1 to 15 bytes, none of them NUL. -/
def Named (rule : Rule) : Prop :=
  ∀ name, rule.iif = some name ∨ rule.oif = some name →
    0 < (Text.toBytes name).length ∧ (Text.toBytes name).length ≤ 15 ∧ '\x00' ∉ name.toList

variable {rule : Rule}

theorem Exact.sent_eq (h : rule.Exact) : rule.sent = rule := by
  have hsrc := map_cleared_eq_iff.mpr h.src
  have hdst := map_cleared_eq_iff.mpr h.dst
  have hmask : (if rule.mark.isSome then rule.mask else none) = rule.mask := by
    cases hmark : rule.mark.isSome with
    | true => rfl
    | false =>
        -- without a mark there is no mask to lose
        cases hvalue : rule.mask with
        | none => rfl
        | some mask =>
            have hsome : rule.mask.isSome = true := by
              rw [hvalue]
              rfl
            exact absurd (hmark.symm.trans (h.masked hsome)) Bool.false_ne_true
  rw [sent, hsrc, hdst, hmask]

theorem Exact.listed_eq (h : rule.Exact) : rule.listed = rule := by
  rw [listed, h.sent_eq, Wire.dropZeroMark, if_neg]
  rintro ⟨hmark, hmask⟩
  exact h.zero hmark hmask

end Rule

namespace Wire

/-! ## Names -/

theorem length_toBytes_eq_zero_iff {name : String} :
    (Text.toBytes name).length = 0 ↔ name.isEmpty = true := by
  rw [Text.toBytes, String.isEmpty_iff_utf8ByteSize_eq_zero]
  rfl

theorem validInterfaceName_iff {name : String} :
    validInterfaceName name = true ↔
      0 < (Text.toBytes name).length ∧ (Text.toBytes name).length ≤ 15 ∧
        '\x00' ∉ name.toList := by
  rw [validInterfaceName, Nat.pos_iff_ne_zero, Ne, length_toBytes_eq_zero_iff,
    ← Nat.lt_succ_iff, Bool.and_eq_true, Bool.and_eq_true, decide_eq_true_eq, and_assoc]
  simp [interfaceNameSize]

theorem checkInterfaceNames_eq_ok_iff {names : List (Option String)} :
    checkInterfaceNames names = .ok () ↔
      ∀ name, some name ∈ names → validInterfaceName name = true := by
  constructor
  · exact fun h name hname => validInterfaceName_of_check h hname
  · intro h
    have hnone : (names.find? fun name? => name?.any fun name => !validInterfaceName name) =
        none := by
      rw [List.find?_eq_none]
      intro name? hmem
      cases name? with
      | none => exact Bool.false_ne_true
      | some name => simp [h name hmem]
    rw [checkInterfaceNames, hnone]

theorem exists_ruleRequest_iff {verb : RuleVerb} {rule : Rule} :
    (∃ request, ruleRequest verb rule = .ok request) ↔ rule.Named := by
  have hnamed : rule.Named ↔ checkInterfaceNames [rule.iif, rule.oif] = .ok () := by
    rw [checkInterfaceNames_eq_ok_iff, Rule.Named]
    apply forall_congr'
    intro name
    rw [validInterfaceName_iff]
    simp [eq_comm]
  rw [hnamed]
  constructor
  · rintro ⟨request, hrequest⟩
    exact (ruleRequest_eq_ok hrequest).1
  · intro hcheck
    rw [ruleRequest, hcheck]
    exact ⟨_, rfl⟩

/-! ## Requests -/

/-- Where a table number travels: in the header up to 255, and in an attribute of its own above. -/
def CarriesTable (payload : List UInt8) (table : UInt32) : Prop :=
  ∃ header rest, RuleHeader.decode? payload = some (header, rest) ∧
    (table ≤ 255 → header.table.toUInt32 = table ∧
      ∀ attr ∈ Attr.readAll rest, attr.kind ≠ RuleAttr.table) ∧
    (255 < table → Attr.word RuleAttr.table table ∈ Attr.readAll rest)

section Request

variable {rule : Rule} {verb : RuleVerb} {request : Request}

theorem body_ruleRequest (h : ruleRequest verb rule = .ok request) :
    request.body = (ruleHeader rule).encode ++ Attr.encodeAll (ruleAttrs rule) := by
  have hdrop := drop_encode_ruleRequest 0 0 h
  rwa [Request.encode, List.drop_left' (Header.length_encode _)] at hdrop

theorem fits_of_ruleRequest (h : ruleRequest verb rule = .ok request) :
    ∀ attr ∈ ruleAttrs rule, attr.Fits := by
  have hvalid := checkInterfaceNames_eq_ok_iff.mp (ruleRequest_eq_ok h).1
  apply fits_ruleAttrs
  · exact fun name hname => hvalid name (by simp [hname])
  · exact fun name hname => hvalid name (by simp [hname])

theorem length_ruleAttrs_le (rule : Rule) : (ruleAttrs rule).length ≤ 8 := by
  have hoptional : ∀ attr? : Option Attr, attr?.toList.length ≤ 1 := by
    intro attr?
    cases attr? <;> simp
  have hmark : (markAttrs rule.mark rule.mask).length ≤ 2 := by
    unfold markAttrs
    split <;> simp
  have htable : (tableAttrs RuleAttr.table rule.table).length ≤ 1 := by
    unfold tableAttrs
    split <;> simp
  have hpriority := hoptional (rule.priority.map (Attr.word RuleAttr.priority))
  have hsrc := hoptional (rule.src.map fun src => Attr.address RuleAttr.src src.network)
  have hdst := hoptional (rule.dst.map fun dst => Attr.address RuleAttr.dst dst.network)
  have hiif := hoptional (rule.iif.map (Attr.text RuleAttr.iif))
  have hoif := hoptional (rule.oif.map (Attr.text RuleAttr.oif))
  simp only [ruleAttrs, List.length_append]
  omega

/-- The body of a request for a rule is short: a header and at most eight short attributes. -/
theorem length_body_ruleRequest_le (h : ruleRequest verb rule = .ok request) :
    request.body.length ≤ 1024 := by
  have hvalid := checkInterfaceNames_eq_ok_iff.mp (ruleRequest_eq_ok h).1
  have hpayload : ∀ attr ∈ ruleAttrs rule, attr.payload.length ≤ 16 := by
    apply forall_ruleAttrs
    · intro kind _ value
      rw [Attr.word, Word.length_bytes32]
      decide
    · intro kind _ value
      rw [Attr.address, Address.length_octets]
      cases value.family <;> decide
    · intro kind _ name hname
      have hlength := (bytes_of_validInterfaceName hname).1
      simp only [Attr.text, List.length_append, List.length_singleton]
      omega
    · exact fun name hname => hvalid name (by simp [hname])
    · exact fun name hname => hvalid name (by simp [hname])
  have hattrs := Attr.length_encodeAll_le hpayload
  have hcount := length_ruleAttrs_le rule
  rw [body_ruleRequest h, List.length_append]
  simp only [RuleHeader.encode, List.length_append, Word.length_bytes32, List.length_cons,
    List.length_nil]
  omega

/-- The length of a request for a rule fits the length field of its message. -/
theorem length_ruleRequest_lt (h : ruleRequest verb rule = .ok request) :
    Header.size + request.body.length < 4294967296 := by
  have hbody := length_body_ruleRequest_le h
  rw [Header.size]
  omega

/-- Only a table that does not fit the header has an attribute. -/
theorem table_of_mem_ruleAttrs {attr : Attr} (hattr : attr ∈ ruleAttrs rule)
    (hkind : attr.kind = RuleAttr.table) : 255 < rule.table := by
  simp only [ruleAttrs, List.mem_append, Option.mem_toList, Option.map_eq_some_iff] at hattr
  rcases hattr with (((((⟨value, -, rfl⟩ | ⟨src, -, rfl⟩) | ⟨dst, -, rfl⟩) | ⟨name, -, rfl⟩) |
    ⟨name, -, rfl⟩) | hmark) | htable
  · exact absurd hkind (show RuleAttr.priority ≠ RuleAttr.table by decide)
  · exact absurd hkind (show RuleAttr.src ≠ RuleAttr.table by decide)
  · exact absurd hkind (show RuleAttr.dst ≠ RuleAttr.table by decide)
  · exact absurd hkind (show RuleAttr.iif ≠ RuleAttr.table by decide)
  · exact absurd hkind (show RuleAttr.oif ≠ RuleAttr.table by decide)
  · have hother : attr.kind = RuleAttr.mark ∨ attr.kind = RuleAttr.mask := by
      unfold markAttrs at hmark
      split at hmark
      · exact absurd hmark List.not_mem_nil
      · rw [List.mem_singleton.mp hmark]
        exact Or.inl rfl
      · rcases List.mem_cons.mp hmark with rfl | hmask
        · exact Or.inl rfl
        · rw [List.mem_singleton.mp hmask]
          exact Or.inr rfl
    rw [hkind] at hother
    exact absurd hother (by decide)
  · unfold tableAttrs at htable
    split at htable
    · exact absurd htable List.not_mem_nil
    · rename_i hlarge
      exact UInt32.not_le.mp hlarge

theorem carriesTable_ruleRequest (h : ruleRequest verb rule = .ok request) :
    CarriesTable request.body rule.table := by
  have hread := Attr.readAll_encodeAll (fits_of_ruleRequest h)
  refine ⟨ruleHeader rule, Attr.encodeAll (ruleAttrs rule), ?_, ?_, ?_⟩
  · rw [body_ruleRequest h, RuleHeader.decode?_encode_append]
  · intro hsmall
    refine ⟨toUInt32_tableByte hsmall, ?_⟩
    rw [hread]
    intro attr hattr hkind
    exact UInt32.not_lt.mpr hsmall (table_of_mem_ruleAttrs hattr hkind)
  · intro hlarge
    rw [hread, ruleAttrs, tableAttrs, if_neg (UInt32.not_le.mpr hlarge)]
    exact List.mem_append_right _ (List.mem_singleton.mpr rfl)

theorem readRule_body (hexact : rule.Exact) (h : ruleRequest verb rule = .ok request) :
    readRule request.body = .ok (some rule) := by
  have hread := readRule_ruleRequest 0 0 hexact.coherent h
  rwa [drop_encode_ruleRequest 0 0 h, ← body_ruleRequest h, hexact.listed_eq] at hread

end Request

end Wire

namespace Rule

/-- An exact rule has a request exactly if its interface names are the kernel's. The request is one
message of the wanted type, its table is where it belongs, and the rule is read back from the
payload in all of its fields, so that no other exact rule has the same payload. -/
theorem request_round_trip {rule : Rule} (hexact : rule.Exact) (verb : Wire.RuleVerb)
    (seq port : UInt32) :
    ((∃ request, Wire.ruleRequest verb rule = .ok request) ↔ rule.Named) ∧
      ∀ request, Wire.ruleRequest verb rule = .ok request →
        Wire.Message.readAll (request.encode seq port) =
            [.ok ⟨request.header seq port, request.body⟩] ∧
          (request.header seq port).kind = verb.kind ∧
          Wire.readRule request.body = .ok (some rule) ∧
          Wire.CarriesTable request.body rule.table ∧
          ∀ (other : Rule) (otherVerb : Wire.RuleVerb) (otherRequest : Wire.Request),
            other.Exact → Wire.ruleRequest otherVerb other = .ok otherRequest →
            otherRequest.body = request.body → other = rule := by
  refine ⟨Wire.exists_ruleRequest_iff, fun request hrequest => ?_⟩
  have hread := Wire.readRule_body hexact hrequest
  refine ⟨Wire.Request.readAll_encode seq port (Wire.length_ruleRequest_lt hrequest), ?_, hread,
    Wire.carriesTable_ruleRequest hrequest, ?_⟩
  · rw [(Wire.ruleRequest_eq_ok hrequest).2]
    rfl
  · intro other otherVerb otherRequest hother hotherRequest hbody
    have hotherRead := Wire.readRule_body hother hotherRequest
    rw [hbody, hread] at hotherRead
    exact (Option.some.inj (Except.ok.inj hotherRead)).symm

/-- A rule between two IPv6 prefixes with a zero mark under a mask and a table beyond the header
byte travels unchanged in a request to delete it. -/
theorem request_round_trip_delete :
    let src : Cidr := ⟨⟨.inet6, 0x20010db8000000000000000000000000#128⟩, 32, by decide⟩
    let dst : Cidr := ⟨⟨.inet6, 0#128⟩, 0, by decide⟩
    let rule := ((((((ofFamily .inet6).withPriority 30000).fromSource src).toDestination
      dst).onInput "cbr0").withMaskedMark 0 255).lookingUp 1000
    rule.Exact ∧ rule.Named ∧ ∃ request, Wire.ruleRequest .delete rule = .ok request ∧
      Wire.Message.readAll (request.encode 7 0) = [.ok ⟨request.header 7 0, request.body⟩] ∧
      (request.header 7 0).kind = 33 ∧ Wire.readRule request.body = .ok (some rule) := by
  intro src dst rule
  have hexact : rule.Exact := by
    refine ⟨⟨?_, ?_⟩, ?_, ?_, fun _ => rfl, fun _ => by decide⟩
    · intro other hother
      rw [← Option.some.inj hother]
      rfl
    · intro other hother
      rw [← Option.some.inj hother]
      rfl
    · intro other hother
      rw [← Option.some.inj hother]
      decide
    · intro other hother
      rw [← Option.some.inj hother]
      decide
  have hnamed : rule.Named := by
    rintro name (hname | hname)
    · rw [← Option.some.inj hname]
      decide +kernel
    · cases hname
  obtain ⟨haccepted, hcarried⟩ := request_round_trip hexact .delete 7 0
  obtain ⟨request, hrequest⟩ := haccepted.mpr hnamed
  obtain ⟨hmessage, hkind, hread, -⟩ := hcarried request hrequest
  exact ⟨hexact, hnamed, request, hrequest, hmessage, hkind, hread⟩

end Rule

end HostNet
