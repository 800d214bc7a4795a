import HostNet.Proofs.RuleListing
import HostNet.Proofs.RuleReading
import Mathlib.Data.List.Nodup
/-!
Attributes of a rule in another order. Whether an attribute is understood depends on the header
alone, and attributes of different types set different fields. Main statement: where no type comes
twice, the attributes of a rule can be put in any order and the same rule is read.
-/
namespace HostNet.Wire

variable {header : RuleHeader}

/-! ## Two attributes -/

/-- The reader takes the attribute, whatever it has read before. -/
def Attr.Understood (header : RuleHeader) (attr : Attr) : Prop :=
  ∀ before, absorb header before attr = .ok (update header before attr)

theorem map_set_reportedPrefix {length : UInt8} {payload : List UInt8}
    (set : Option Cidr → Rule) :
    (do return set (← reportedPrefix header length payload) : Except Unread Rule).map
        (fun _ => ()) =
      (reportedPrefix header length payload).map fun _ => () := by
  cases reportedPrefix header length payload with
  | error unread => rfl
  | ok cidr? => rfl

/-- Whether an attribute is taken, and why not, does not hang on what was read before it. -/
theorem map_absorb (header : RuleHeader) (rule other : Rule) (attr : Attr) :
    (absorb header rule attr).map (fun _ => ()) = (absorb header other attr).map fun _ => () := by
  simp only [absorb, apply_ite (Except.map fun _ => ()), map_set_reportedPrefix]
  rfl

theorem understood_of_absorb {rule next : Rule} {attr : Attr}
    (h : absorb header rule attr = .ok next) : attr.Understood header := by
  intro before
  have hmap := map_absorb header rule before attr
  rw [h] at hmap
  cases hbefore : absorb header before attr with
  | error unread =>
      rw [hbefore] at hmap
      cases hmap
  | ok taken => rw [absorb_eq_ok hbefore]

/-- A field that one type sets and a field that another type sets are set in either order. -/
theorem setField_comm {α : Type} {first second : Attr} (h : first.kind ≠ second.kind)
    (kind : UInt16) (set reset : α → α) (field : α) :
    (if second.kind = kind then reset (if first.kind = kind then set field else field)
      else if first.kind = kind then set field else field) =
    if first.kind = kind then set (if second.kind = kind then reset field else field)
      else if second.kind = kind then reset field else field := by
  by_cases hfirst : first.kind = kind
  · have hsecond : second.kind ≠ kind := fun hsecond => h (hfirst.trans hsecond.symm)
    rw [if_pos hfirst, if_pos hfirst, if_neg hsecond, if_neg hsecond]
  · rw [if_neg hfirst, if_neg hfirst]

theorem update_comm {first second : Attr} (h : first.kind ≠ second.kind) (rule : Rule) :
    update header (update header rule first) second =
      update header (update header rule second) first := by
  have hset {α : Type} (kind : UInt16) (value other field : α) :=
    setField_comm h kind (fun _ => value) (fun _ => other) field
  -- a table number that cannot be read leaves the one of before
  have htable := setField_comm h RuleAttr.table (Attr.word? first.payload).getD
    (Attr.word? second.payload).getD rule.table
  simp only [update]
  rw [htable]
  simp only [hset]

/-! ## All attributes -/

section Lists

variable {attrs others : List Attr}

theorem absorbAll_eq_ok_iff {rule result : Rule} :
    absorbAll header rule attrs = .ok result ↔
      (∀ attr ∈ attrs, attr.Understood header) ∧ result = attrs.foldl (update header) rule := by
  constructor
  · intro h
    refine ⟨fun attr hattr => ?_, absorbAll_eq_ok h⟩
    obtain ⟨before, after, habsorb⟩ := exists_absorb_of_mem h hattr
    exact understood_of_absorb habsorb
  · rintro ⟨hunderstood, rfl⟩
    induction attrs generalizing rule with
    | nil => rfl
    | cons attr attrs ih =>
        obtain ⟨hattr, hattrs⟩ := List.forall_mem_cons.mp hunderstood
        rw [absorbAll, hattr rule]
        exact ih hattrs

/-- The rule that a header and its attributes are read as, if there is one: family and action are
modelled, every attribute is understood, and each sets the field of its type. -/
theorem readRule_encode_eq_some_iff (hfits : ∀ attr ∈ attrs, attr.Fits) {rule : Rule} :
    readRule (header.encode ++ Attr.encodeAll attrs) = .ok (some rule) ↔
      ∃ family action, Family.ofCode? header.family = some family ∧
        RuleAction.ofCode? header.action = some action ∧
        (∀ attr ∈ attrs, attr.Understood header) ∧
        rule = dropZeroMark (attrs.foldl (update header) (headerRule header family action)) := by
  constructor
  · intro h
    have hparts := readRule_eq_some (RuleHeader.decode?_encode_append header _) h
    rw [Attr.readAll_encodeAll hfits] at hparts
    obtain ⟨family, action, result, hfamily, haction, habsorb, rfl⟩ := readRuleParts_eq_ok hparts
    obtain ⟨hunderstood, rfl⟩ := absorbAll_eq_ok_iff.mp habsorb
    exact ⟨family, action, hfamily, haction, hunderstood, rfl⟩
  · rintro ⟨family, action, hfamily, haction, hunderstood, rfl⟩
    apply readRule_encode_append hfits
    rw [readRuleParts, hfamily, haction]
    simp only [absorbAll_eq_ok_iff.mpr ⟨hunderstood, rfl⟩]
    rfl

/-- Attributes of different types set their fields in any order. -/
theorem foldl_update_perm (hperm : attrs.Perm others) (hkinds : (attrs.map Attr.kind).Nodup)
    (rule : Rule) : attrs.foldl (update header) rule = others.foldl (update header) rule := by
  refine hperm.foldl_eq' (fun first hfirst second hsecond before => ?_) rule
  by_cases hkind : first.kind = second.kind
  · rw [List.inj_on_of_nodup_map hkinds hfirst hsecond hkind]
  · exact update_comm hkind before

end Lists

/-- Under any header, attributes of pairwise different types are read as a rule exactly if they are
in any other order, and the rule is the same. -/
theorem readRule_reordered {attrs others : List Attr} (hperm : attrs.Perm others)
    (hkinds : (attrs.map Attr.kind).Nodup)
    (hbounds : ∀ attr ∈ attrs, attr.kind < 0x4000 ∧ attr.payload.length ≤ 65531) (rule : Rule) :
    readRule (header.encode ++ Attr.encodeAll attrs) = .ok (some rule) ↔
      readRule (header.encode ++ Attr.encodeAll others) = .ok (some rule) := by
  have hfits : ∀ attr ∈ attrs, attr.Fits := fun attr hattr =>
    Attr.fits_of_bounds (hbounds attr hattr).1 (hbounds attr hattr).2
  have hothers : ∀ attr ∈ others, attr.Fits := fun attr hattr =>
    hfits attr (hperm.mem_iff.mpr hattr)
  have hunderstood : (∀ attr ∈ attrs, attr.Understood header) ↔
      ∀ attr ∈ others, attr.Understood header := by
    simp only [hperm.mem_iff]
  rw [readRule_encode_eq_some_iff hfits, readRule_encode_eq_some_iff hothers]
  simp only [hunderstood, foldl_update_perm hperm hkinds]

/-- A rule in the order in which a dump reports it, with the table first and nothing suppressed,
and in the order of a request, which ends with the table. -/
theorem readRule_reordered_dump :
    let header : RuleHeader := ⟨2, 0, 0, 0, 0, 0, 0, 1, 0⟩
    let table := Attr.word RuleAttr.table 1000
    let priority := Attr.word RuleAttr.priority 30001
    let iif := Attr.text RuleAttr.iif "cbr0"
    let mark := Attr.word RuleAttr.mark 0x4000
    let mask := Attr.word RuleAttr.mask notSuppressed
    let unsuppressed := Attr.word RuleAttr.suppressLength notSuppressed
    let rule : Rule := { Rule.ofFamily .inet with
      priority := some 30001
      table := 1000
      iif := some "cbr0"
      mark := some 0x4000
      mask := some 0xffffffff }
    let dumped := [table, unsuppressed, priority, iif, mark, mask]
    let requested := [priority, iif, mark, mask, unsuppressed, table]
    dumped.Perm requested ∧ (dumped.map Attr.kind).Nodup ∧
      readRule (header.encode ++ Attr.encodeAll dumped) = .ok (some rule) ∧
      readRule (header.encode ++ Attr.encodeAll requested) = .ok (some rule) := by
  intro header table priority iif mark mask unsuppressed rule dumped requested
  have hperm : dumped.Perm requested := by decide +kernel
  have hkinds : (dumped.map Attr.kind).Nodup := by decide +kernel
  have hbounds : ∀ attr ∈ dumped, attr.kind < 0x4000 ∧ attr.payload.length ≤ 65531 := by
    decide +kernel
  have hdumped : readRule (header.encode ++ Attr.encodeAll dumped) = .ok (some rule) := by
    decide +kernel
  exact ⟨hperm, hkinds, hdumped, (readRule_reordered hperm hkinds hbounds rule).mp hdumped⟩

/-- Where no rule is read the order does count: the first attribute that is not understood decides
whether the payload is passed over or malformed. -/
example :
    let header : RuleHeader := ⟨2, 0, 33, 0, 254, 0, 0, 1, 0⟩
    let unknown : Attr := ⟨99, []⟩
    let tooLong : Attr := ⟨RuleAttr.src, [10, 0, 0, 0]⟩
    readRule (header.encode ++ Attr.encodeAll [unknown, tooLong]) = .ok none ∧
      readRule (header.encode ++ Attr.encodeAll [tooLong, unknown]) =
        .error (.invalidMessage "bad rule prefix 10.0.0.0/33: invalid prefix") := by
  decide +kernel

end HostNet.Wire
