import HostNet.Proofs.RuleReading
import HostNet.Proofs.RuleRoundTrip
/-!
What a request to delete a listed rule names. All that was reported of the rule goes into the
request, except for a mask without a mark: the kernel reports one where the mark is zero, and no
request carries it. Main statement: what is read back from the request, and that it is the listed
rule exactly where there was no such mask.
-/
namespace HostNet

namespace Wire

/-- The prefixes that the payload reports have no host bits. -/
def Tidy (payload : List UInt8) : Prop :=
  ∀ read ∈ RuleHeader.decode? payload, ∀ attr ∈ Attr.readAll read.2,
    (attr.kind = RuleAttr.src →
        ∀ src ∈ prefix? read.1 read.1.srcLength attr.payload, src.Canonical) ∧
      (attr.kind = RuleAttr.dst →
        ∀ dst ∈ prefix? read.1 read.1.dstLength attr.payload, dst.Canonical)

instance (payload : List UInt8) : Decidable (Tidy payload) :=
  inferInstanceAs (Decidable (∀ read ∈ RuleHeader.decode? payload, ∀ attr ∈ Attr.readAll read.2,
    _ ∧ _))

section Prefixes

variable {header : RuleHeader} {attrs : List Attr} {rule : Rule}

theorem family_of_prefix? {length : UInt8} {payload : List UInt8} {cidr : Cidr}
    (h : prefix? header length payload = some cidr) :
    Family.ofCode? header.family = some cidr.family := by
  obtain ⟨address, haddress, hmake⟩ := Option.bind_eq_some_iff.mp h
  obtain ⟨family, hfamily, hoctets⟩ := Option.bind_eq_some_iff.mp haddress
  rw [hfamily]
  unfold Cidr.make? at hmake
  unfold Address.ofOctets? at hoctets
  split at hmake
  · split at hoctets
    · cases hoctets
      cases hmake
      rfl
    · cases hoctets
  · cases hmake

/-- A field that holds a prefix was read from a reported attribute of its type. -/
theorem exists_prefix?_of_bind {kind : UInt16} {length : UInt8} {field : Option Cidr} {cidr : Cidr}
    (hfield : field = (Attr.last? kind attrs).bind fun attr => prefix? header length attr.payload)
    (hcidr : field = some cidr) :
    ∃ attr ∈ attrs, attr.kind = kind ∧ prefix? header length attr.payload = some cidr := by
  obtain ⟨attr, hlast, hmade⟩ := Option.bind_eq_some_iff.mp (hfield.symm.trans hcidr)
  obtain ⟨hmem, hkind⟩ := Attr.mem_of_last? hlast
  exact ⟨attr, hmem, hkind, hmade⟩

/-- The prefixes of a rule that is read are of its own family. -/
theorem ReadFrom.coherent (h : ReadFrom header attrs rule) : rule.Coherent := by
  constructor
  · intro src hsrc
    obtain ⟨attr, -, -, hmade⟩ := exists_prefix?_of_bind h.src hsrc
    exact Option.some.inj ((family_of_prefix? hmade).symm.trans h.family)
  · intro dst hdst
    obtain ⟨attr, -, -, hmade⟩ := exists_prefix?_of_bind h.dst hdst
    exact Option.some.inj ((family_of_prefix? hmade).symm.trans h.family)

end Prefixes

/-- A rule that is read loses nothing by the way a zero mark is read. -/
theorem ReadFrom.listed_eq {header : RuleHeader} {attrs : List Attr} {rule : Rule}
    (h : ReadFrom header attrs rule) : rule.listed = rule.sent := by
  rw [Rule.listed, dropZeroMark, if_neg]
  rintro ⟨hmark, hmask⟩
  have hmarked : rule.mark = some 0 := hmark
  refine h.zero hmarked ?_
  simpa [Rule.sent, hmarked] using hmask

/-- A request to delete a listed rule names what was listed, at its own priority, but for a mask
without a mark. It names the same rule exactly if such a mask is zero. -/
theorem delete_names_iff {payload : List UInt8} {rule : Rule} {request : Request}
    (htidy : Tidy payload) (hread : readRule payload = .ok (some rule))
    (hrequest : ruleRequest .delete rule = .ok request) :
    let named := { rule with mask := if rule.mark.isSome then rule.mask else none }
    readRule request.body = .ok (some named) ∧ named.priority = rule.priority ∧
      (named.same rule = true ↔ (rule.mark = none → rule.mask.getD 0 = 0)) := by
  intro named
  obtain ⟨header, rest, hheader⟩ := exists_header_of_readRule hread
  have hfrom := readFrom_of_readRule hheader hread
  have hsrc : ∀ src, rule.src = some src → src.Canonical := by
    intro src hsome
    obtain ⟨attr, hmem, hkind, hmade⟩ := exists_prefix?_of_bind hfrom.src hsome
    exact (htidy (header, rest) hheader attr hmem).1 hkind src hmade
  have hdst : ∀ dst, rule.dst = some dst → dst.Canonical := by
    intro dst hsome
    obtain ⟨attr, hmem, hkind, hmade⟩ := exists_prefix?_of_bind hfrom.dst hsome
    exact (htidy (header, rest) hheader attr hmem).2 hkind dst hmade
  have hzero : rule.mark = some 0 → rule.mask.isSome = true := by
    intro hmark
    cases hmask : rule.mask with
    | none => exact absurd (by rw [hmask]; rfl) (hfrom.zero hmark)
    | some mask => rfl
  have hnamed : rule.listed = named := by
    rw [hfrom.listed_eq, Rule.sent, Rule.map_cleared_eq_iff.mpr hsrc,
      Rule.map_cleared_eq_iff.mpr hdst]
  refine ⟨?_, rfl, ?_⟩
  · have hback := readRule_ruleRequest 0 0 hfrom.coherent hrequest
    rwa [drop_encode_ruleRequest 0 0 hrequest, ← body_ruleRequest hrequest, hnamed] at hback
  · rw [← hnamed, Rule.listed_same_iff]
    constructor
    · exact fun hsurvivable => hsurvivable.unmarked
    · exact fun hunmarked => ⟨hsrc, hdst, hunmarked, hzero⟩

/-- A mask with a mark is named, and so is a prefix without host bits. -/
theorem delete_names_iff_marked :
    let payload : List UInt8 := [2, 0, 24, 0, 254, 0, 0, 1, 0, 0, 0, 0, 8, 0, 6, 0, 100, 0, 0, 0,
      8, 0, 2, 0, 10, 0, 0, 0, 8, 0, 10, 0, 16, 0, 0, 0, 8, 0, 16, 0, 255, 0, 0, 0]
    let rule := (((Rule.ofFamily .inet).withPriority 100).fromSource
      ⟨.v4 0x0a000000, 24, by decide⟩).withMaskedMark 16 255
    Tidy payload ∧ readRule payload = .ok (some rule) ∧
      ∃ request, ruleRequest .delete rule = .ok request ∧
        readRule request.body = .ok (some rule) := by
  intro payload rule
  have htidy : Tidy payload := by decide +kernel
  have hread : readRule payload = .ok (some rule) := readRule_eq_of_toOption (by decide +kernel)
  have hrequest : ruleRequest .delete rule = .ok ⟨_, _, _, _⟩ := rfl
  exact ⟨htidy, hread, _, hrequest, (delete_names_iff htidy hread hrequest).1⟩

/-- Of a rule that is reported with a mask and no mark, the request to delete it names another. -/
theorem not_delete_names_of_unmarked_mask :
    let payload : List UInt8 := [2, 0, 0, 0, 254, 0, 0, 1, 0, 0, 0, 0, 8, 0, 6, 0, 100, 0, 0, 0,
      8, 0, 16, 0, 255, 0, 0, 0]
    Tidy payload ∧ ∃ rule request named, readRule payload = .ok (some rule) ∧
      ruleRequest .delete rule = .ok request ∧ readRule request.body = .ok (some named) ∧
      named.same rule = false := by
  intro payload
  let plain := (Rule.ofFamily .inet).withPriority 100
  let rule := { plain with mask := some 255 }
  have hrequest : ruleRequest .delete rule = .ok ⟨_, _, _, _⟩ := rfl
  refine ⟨by decide +kernel, rule, _, plain, ?_, hrequest, ?_, by decide⟩
  · exact readRule_eq_of_toOption (by decide +kernel)
  · exact readRule_eq_of_toOption (by decide +kernel)

end Wire

end HostNet
