import HostNet.Wire.Attr
/-!
Reading attributes back. Main statements: attributes of known types whose length fits its field
are read as they were written, whatever follows them, and so are the words, names and addresses in
their payloads.
-/
namespace HostNet

namespace Text

/-- The bytes of a text are those of its characters. -/
theorem toBytes_eq_flatMap (text : String) :
    toBytes text = text.toList.flatMap String.utf8EncodeChar := by
  rw [toBytes, String.toUTF8_eq_toByteArray, ← String.utf8Encode_toList, List.utf8Encode]
  simp

theorem ofBytes?_toBytes (text : String) : ofBytes? (toBytes text) = some text := by
  have hbytes : (⟨(toBytes text).toArray⟩ : ByteArray) = text.toByteArray := by
    rw [toBytes, String.toUTF8_eq_toByteArray, Array.toArray_toList]
  rw [ofBytes?, hbytes, String.fromUTF8?, dif_pos text.isValidUTF8]
  rfl

/-- Only the NUL character has a zero byte. -/
theorem zero_not_mem_utf8EncodeChar {c : Char} (hc : c ≠ '\x00') :
    0 ∉ String.utf8EncodeChar c := by
  have hpos : c.val.toNat ≠ 0 := by
    intro hzero
    exact hc (Char.ext (UInt32.toNat_inj.mp hzero))
  have hne : ∀ n : Nat, 0 < n → n < 256 → (0 : UInt8) ≠ UInt8.ofNat n := by
    intro n hn hlt hzero
    have hnat := congrArg UInt8.toNat hzero
    simp [UInt8.toNat_ofNat', Nat.mod_eq_of_lt hlt] at hnat
    omega
  unfold String.utf8EncodeChar
  simp only
  split
  · simp only [List.mem_singleton]
    exact hne _ (by omega) (by omega)
  · split
    · simp only [List.mem_cons, List.not_mem_nil, or_false, not_or]
      exact ⟨hne _ (by omega) (by omega), hne _ (by omega) (by omega)⟩
    · split
      · simp only [List.mem_cons, List.not_mem_nil, or_false, not_or]
        exact ⟨hne _ (by omega) (by omega), hne _ (by omega) (by omega),
          hne _ (by omega) (by omega)⟩
      · simp only [List.mem_cons, List.not_mem_nil, or_false, not_or]
        exact ⟨hne _ (by omega) (by omega), hne _ (by omega) (by omega),
          hne _ (by omega) (by omega), hne _ (by omega) (by omega)⟩

theorem zero_not_mem_toBytes {text : String} (h : '\x00' ∉ text.toList) : 0 ∉ toBytes text := by
  rw [toBytes_eq_flatMap, List.mem_flatMap]
  rintro ⟨c, hc, hzero⟩
  have hne : c ≠ '\x00' := by
    rintro rfl
    exact h hc
  exact zero_not_mem_utf8EncodeChar hne hzero

end Text

namespace Wire

namespace Attr

/-! ## Payloads -/

theorem word?_bytes32 (value : UInt32) : word? (Word.bytes32 value) = some value := by
  have hlength := Word.length_bytes32 value
  rw [word?, if_pos (Nat.le_of_eq hlength.symm), List.take_of_length_le (Nat.le_of_eq hlength),
    Word.word32_bytes32]

/-- A name without NUL reads back up to the NUL that ends it. -/
theorem text?_toBytes {name : String} (h : '\x00' ∉ name.toList) :
    text? (Text.toBytes name ++ [0]) = some name := by
  have hbytes : ∀ byte ∈ Text.toBytes name, (byte != 0) = true := by
    intro byte hbyte
    rw [bne_iff_ne]
    rintro rfl
    exact Text.zero_not_mem_toBytes h hbyte
  have hname : (Text.toBytes name ++ [0]).takeWhile (· != 0) = Text.toBytes name := by
    rw [List.takeWhile_append_of_pos hbytes]
    simp
  rw [text?, hname, Text.ofBytes?_toBytes]

theorem address?_octets (value : Address) :
    address? value.family.code value.octets = some value := by
  have hoctets := Address.ofOctets?_octets_append value []
  rw [List.append_nil] at hoctets
  rw [address?, Family.ofCode?_code]
  exact hoctets

/-! ## Sequences -/

theorem length_header (kind : UInt16) (payloadLength : Nat) :
    (header kind payloadLength).length = headerLength := by
  rw [header, List.length_append, Word.length_bytes16, Word.length_bytes16]
  rfl

/-- The attribute can be told from its bytes: its type has no flags, and its length fits the
length field. -/
def Fits (attr : Attr) : Prop :=
  attr.kind &&& kindMask = attr.kind ∧ headerLength + attr.payload.length < 65536

/-- A type without flags and a payload of at most 65531 bytes are those of an attribute that can be
told from its bytes. -/
theorem fits_of_bounds {attr : Attr} (hkind : attr.kind < 0x4000)
    (hpayload : attr.payload.length ≤ 65531) : attr.Fits := by
  constructor
  · have hlow : attr.kind.toNat % 2 ^ 14 = attr.kind.toNat :=
      Nat.mod_eq_of_lt (UInt16.lt_iff_toNat_lt.mp hkind)
    rw [← UInt16.toNat_inj, UInt16.toNat_and]
    exact (Nat.and_two_pow_sub_one_eq_mod attr.kind.toNat 14).trans hlow
  · rw [headerLength]
    omega

theorem readAll_eq_cons {bytes : List UInt8}
    (h : headerLength ≤ lengthField bytes ∧ lengthField bytes ≤ bytes.length) :
    readAll bytes = ⟨kindField bytes, (bytes.take (lengthField bytes)).drop headerLength⟩ ::
      readAll (afterPadded (lengthField bytes) bytes) := by
  rw [readAll]
  exact dif_pos h

/-- An attribute followed by anything is read first. -/
theorem readAll_encode_append {attr : Attr} (h : attr.Fits) (rest : List UInt8) :
    readAll (attr.encode ++ rest) = attr :: readAll rest := by
  obtain ⟨kind, payload⟩ := attr
  obtain ⟨hkind, hlength⟩ := h
  simp only at hkind hlength
  have hpadded := le_align4 (headerLength + payload.length)
  have hheader := length_header kind payload.length
  have hbytes : encode ⟨kind, payload⟩ ++ rest = header kind payload.length ++
      (payload ++ (padding (headerLength + payload.length) ++ rest)) := by
    simp [encode]
  have hfield : lengthField (encode ⟨kind, payload⟩ ++ rest) =
      headerLength + payload.length := by
    rw [hbytes, lengthField, header, List.append_assoc, List.take_left' (Word.length_bytes16 _),
      Word.word16_bytes16, UInt16.toNat_ofNat', Nat.mod_eq_of_lt hlength]
  have hkindField : kindField (encode ⟨kind, payload⟩ ++ rest) = kind := by
    rw [hbytes, kindField, header, List.append_assoc, List.drop_left' (Word.length_bytes16 _),
      List.take_left' (Word.length_bytes16 _), Word.word16_bytes16, hkind]
  have htaken : ((encode ⟨kind, payload⟩ ++ rest).take (headerLength + payload.length)).drop
      headerLength = payload := by
    rw [List.drop_take, hbytes, List.drop_left' hheader, Nat.add_sub_cancel_left, List.take_left]
  have hafter : afterPadded (headerLength + payload.length) (encode ⟨kind, payload⟩ ++ rest) =
      rest := by
    rw [afterPadded]
    apply List.drop_left'
    simp only [encode, padding, List.length_append, hheader, List.length_replicate]
    omega
  have hroom : headerLength + payload.length ≤ (encode ⟨kind, payload⟩ ++ rest).length := by
    rw [hbytes, List.length_append, List.length_append, hheader]
    omega
  have hcovers : headerLength ≤ lengthField (encode ⟨kind, payload⟩ ++ rest) ∧
      lengthField (encode ⟨kind, payload⟩ ++ rest) ≤ (encode ⟨kind, payload⟩ ++ rest).length := by
    rw [hfield]
    exact ⟨Nat.le_add_right _ _, hroom⟩
  rw [readAll_eq_cons hcovers, hfield, hkindField, htaken, hafter]

/-- Attributes are read as they were written. -/
theorem readAll_encodeAll {attrs : List Attr} (h : ∀ attr ∈ attrs, attr.Fits) :
    readAll (encodeAll attrs) = attrs := by
  induction attrs with
  | nil =>
      rw [readAll]
      rfl
  | cons attr attrs ih =>
      rw [encodeAll, List.flatMap_cons, readAll_encode_append (h attr List.mem_cons_self)]
      rw [← encodeAll, ih fun other hother => h other (List.mem_cons_of_mem attr hother)]

end Attr

end Wire

end HostNet
