import HostNet.Proofs.Datagrams
/-!
How the readers of messages and of attributes take a byte string apart. Main statement: any byte
string is a row of what is read from it, each item with its padding, and a tail where the reader
stops.
-/
namespace HostNet.Wire

/-! ## Tilings -/

/-- The bytes are a row of tiles, each an item and what fills it up to the next multiple of four,
and a tail. Only behind the last item can the end of the bytes cut the filler short. -/
structure Tiles {α : Type} (encode : α → List UInt8) (tiles : List (α × List UInt8))
    (tail bytes : List UInt8) : Prop where
  whole : bytes = tiles.flatMap (fun tile => encode tile.1 ++ tile.2) ++ tail
  filled : ∀ tile ∈ tiles.dropLast, tile.2.length = gap (encode tile.1).length
  last : ∀ tile, tiles.getLast? = some tile →
    tile.2.length = gap (encode tile.1).length ∨
      tile.2.length < gap (encode tile.1).length ∧ tail = []

namespace Tiles

variable {α : Type} {encode : α → List UInt8} {tiles : List (α × List UInt8)}
  {tail bytes : List UInt8}

theorem nil (tail : List UInt8) : Tiles encode [] tail tail :=
  ⟨rfl, nofun, nofun⟩

/-- Tiles of at least so many bytes each are no more than fit. -/
theorem length_le {unit : Nat} (hunit : ∀ x, unit ≤ (encode x).length)
    (h : Tiles encode tiles tail bytes) : unit * tiles.length + tail.length ≤ bytes.length := by
  have hrow : unit * tiles.length ≤
      (tiles.flatMap fun tile => encode tile.1 ++ tile.2).length := by
    clear h
    induction tiles with
    | nil => exact Nat.zero_le _
    | cons tile tiles ih =>
        have htile := hunit tile.1
        rw [List.flatMap_cons, List.length_append, List.length_append, List.length_cons,
          Nat.mul_succ]
        omega
  rw [h.whole, List.length_append]
  exact Nat.add_le_add_right hrow _

/-- An item at the front of the bytes is one more tile. -/
theorem cons (hpos : ∀ x, 0 < (encode x).length) {x : α} {length : Nat}
    (hitem : encode x = bytes.take length) (hlength : length ≤ bytes.length)
    (h : Tiles encode tiles tail (afterPadded length bytes)) :
    Tiles encode ((x, (bytes.take (align4 length)).drop length) :: tiles) tail bytes := by
  have hgap : gap (encode x).length = align4 length - length := by
    rw [gap_eq, hitem, List.length_take_of_le hlength]
  have hfiller : ((bytes.take (align4 length)).drop length).length =
      min (align4 length) bytes.length - length := by
    rw [List.length_drop, List.length_take]
  have hafter : (afterPadded length bytes).length = bytes.length - align4 length := by
    rw [afterPadded, List.length_drop]
  have hfront := List.take_append_drop length (bytes.take (align4 length))
  rw [List.take_take, Nat.min_eq_left (le_align4 length)] at hfront
  constructor
  · rw [List.flatMap_cons, List.append_assoc, ← h.whole, hitem, hfront, afterPadded,
      List.take_append_drop]
  · intro tile htile
    cases tiles with
    | nil => cases htile
    | cons next tiles =>
        rcases List.mem_cons.mp htile with rfl | hrest
        · -- another item follows, so the end of the bytes is further on
          have hroom : (encode next.1).length ≤ (afterPadded length bytes).length := by
            rw [h.whole, List.flatMap_cons]
            simp only [List.length_append]
            omega
          have hnext := hpos next.1
          rw [hgap, hfiller]
          omega
        · exact h.filled tile hrest
  · intro tile htile
    cases tiles with
    | nil =>
        obtain rfl := Option.some.inj (List.getLast?_singleton.symm.trans htile)
        rw [hgap, hfiller]
        by_cases hroom : align4 length ≤ bytes.length
        · exact Or.inl (by rw [Nat.min_eq_left hroom])
        · have htail : tail = [] := by
            rw [← List.nil_append tail, ← List.length_eq_zero_iff]
            exact h.whole ▸ hafter.trans (by omega)
          exact Or.inr ⟨by omega, htail⟩
    | cons next tiles => exact h.last tile htile

end Tiles

theorem length_take_drop {bytes : List UInt8} (start width : Nat)
    (h : start + width ≤ bytes.length) :
    ((bytes.drop start).take width).length = width := by
  rw [List.length_take, List.length_drop]
  omega

/-! ## Messages -/

namespace Header

/-- A header takes the bytes it was read from. -/
theorem encode_read {bytes : List UInt8} (h : size ≤ bytes.length) :
    (read bytes).encode = bytes.take size := by
  rw [size] at h
  have hlength : (bytes.take 4).length = 4 := length_take_drop 0 4 (by omega)
  have hkind : ((bytes.drop 4).take 2).length = 2 := length_take_drop 4 2 (by omega)
  have hflags : ((bytes.drop 6).take 2).length = 2 := length_take_drop 6 2 (by omega)
  have hseq : ((bytes.drop 8).take 4).length = 4 := length_take_drop 8 4 (by omega)
  have hport : ((bytes.drop 12).take 4).length = 4 := length_take_drop 12 4 (by omega)
  calc (read bytes).encode
      = bytes.take 4 ++ (bytes.drop 4).take 2 ++ (bytes.drop 6).take 2 ++ (bytes.drop 8).take 4 ++
          (bytes.drop 12).take 4 := by
        simp only [encode, read, Word.bytes32_word32 hlength, Word.bytes16_word16 hkind,
          Word.bytes16_word16 hflags, Word.bytes32_word32 hseq, Word.bytes32_word32 hport]
    _ = bytes.take size := by
        rw [← List.take_add, ← List.take_add, ← List.take_add, ← List.take_add]
        rfl

end Header

namespace Message

def unpadded (message : Message) : List UInt8 :=
  message.header.encode ++ message.payload

/-- The reader stops at a tail that holds no header, or it fails there, for a header whose length
does not cover the header itself or exceeds the tail. -/
def Ends (tail : List UInt8) : Option Fault → Prop
  | none => tail.length < 16
  | some fault =>
    let length := (Word.word32 (tail.take 4)).toNat
    16 ≤ tail.length ∧ (length < 16 ∨ tail.length < length) ∧ fault = lengthFault length

theorem size_le_length_unpadded (message : Message) : Header.size ≤ message.unpadded.length := by
  rw [unpadded, List.length_append, Header.length_encode]
  exact Nat.le_add_right _ _

/-- The bytes that a message was read from. -/
theorem unpadded_read {bytes : List UInt8} {length : Nat} (hlower : Header.size ≤ length)
    (hupper : length ≤ bytes.length) :
    unpadded ⟨Header.read bytes, (bytes.take length).drop Header.size⟩ = bytes.take length := by
  have hsplit := List.take_append_drop Header.size (bytes.take length)
  rw [List.take_take, Nat.min_eq_left hlower] at hsplit
  rw [unpadded, Header.encode_read (Nat.le_trans hlower hupper), hsplit]

/-- The bytes of a datagram are the messages read from it, each with its padding, and a tail. -/
theorem exists_tiles (bytes : List UInt8) :
    ∃ (tiles : List (Message × List UInt8)) (tail : List UInt8) (failure : Option Fault),
      Tiles unpadded tiles tail bytes ∧ (∀ tile ∈ tiles, tile.1.Framed) ∧
        readAll bytes = (tiles.map fun tile => .ok tile.1) ++ (failure.map .error).toList ∧
        Ends tail failure := by
  fun_induction readAll bytes with
  | case1 bytes hsize header length h hshorter ih =>
      obtain ⟨tiles, tail, failure, htiles, hframed, hread, hends⟩ := ih
      have hitem : unpadded ⟨header, (bytes.take length).drop Header.size⟩ = bytes.take length :=
        unpadded_read h.1 h.2
      have hpayload : ((bytes.take length).drop Header.size).length = length - Header.size := by
        rw [List.length_drop, List.length_take_of_le h.2]
      have hfirst : Framed ⟨header, (bytes.take length).drop Header.size⟩ := by
        rw [Framed, size, hpayload]
        exact (Nat.add_sub_cancel' h.1).symm
      refine ⟨_, tail, failure, htiles.cons (fun message => ?_) hitem h.2, ?_, ?_, hends⟩
      · exact Nat.lt_of_lt_of_le (by decide) (size_le_length_unpadded message)
      · exact List.forall_mem_cons.mpr ⟨hfirst, hframed⟩
      · rw [hread]
        rfl
  | case2 bytes hsize header length h =>
      refine ⟨[], bytes, some (lengthFault length), Tiles.nil bytes, List.forall_mem_nil _, rfl,
        hsize, ?_, rfl⟩
      change length < Header.size ∨ bytes.length < length
      omega
  | case3 bytes hsize =>
      exact ⟨[], bytes, none, Tiles.nil bytes, List.forall_mem_nil _, rfl, Nat.not_le.mp hsize⟩

end Message

/-! ## Attributes -/

namespace Attr

def unpadded (attr : Attr) : List UInt8 :=
  header attr.kind attr.payload.length ++ attr.payload

/-- The attribute without the flags in its type field. -/
def unflagged (attr : Attr) : Attr :=
  ⟨attr.kind &&& 0x3fff, attr.payload⟩

/-- The reader stops at a tail that holds no header, or one whose length does not cover the header
itself or exceeds the tail. -/
def Ends (tail : List UInt8) : Prop :=
  let length := (Word.word16 (tail.take 2)).toNat
  tail.length < 4 ∨ length < 4 ∨ tail.length < length

theorem headerLength_le_length_unpadded (attr : Attr) : headerLength ≤ attr.unpadded.length := by
  rw [unpadded, List.length_append, length_header]
  exact Nat.le_add_right _ _

/-- The bytes that an attribute was read from. -/
theorem unpadded_read {bytes : List UInt8} (hlower : headerLength ≤ lengthField bytes)
    (hupper : lengthField bytes ≤ bytes.length) :
    unpadded ⟨Word.word16 ((bytes.drop 2).take 2),
        (bytes.take (lengthField bytes)).drop headerLength⟩ = bytes.take (lengthField bytes) := by
  have hfour : 4 ≤ bytes.length := Nat.le_trans hlower hupper
  have hlength : (bytes.take 2).length = 2 := length_take_drop 0 2 (by omega)
  have hkind : ((bytes.drop 2).take 2).length = 2 := length_take_drop 2 2 (by omega)
  have hpayload : headerLength + ((bytes.take (lengthField bytes)).drop headerLength).length =
      lengthField bytes := by
    rw [List.length_drop, List.length_take_of_le hupper]
    exact Nat.add_sub_cancel' hlower
  have hsplit := List.take_append_drop headerLength (bytes.take (lengthField bytes))
  rw [List.take_take, Nat.min_eq_left hlower] at hsplit
  have hheader : header (Word.word16 ((bytes.drop 2).take 2))
      ((bytes.take (lengthField bytes)).drop headerLength).length = bytes.take headerLength := by
    rw [header, hpayload, lengthField, UInt16.ofNat_toNat, Word.bytes16_word16 hlength,
      Word.bytes16_word16 hkind, ← List.take_add]
    rfl
  rw [unpadded, hheader, hsplit]

/-- The bytes are the attributes read from them, each with its flags and its padding, and a tail. -/
theorem exists_tiles (bytes : List UInt8) :
    ∃ (tiles : List (Attr × List UInt8)) (tail : List UInt8),
      Tiles unpadded tiles tail bytes ∧
        (∀ tile ∈ tiles, headerLength + tile.1.payload.length < 65536) ∧
        readAll bytes = tiles.map (fun tile => tile.1.unflagged) ∧ Ends tail := by
  fun_induction readAll bytes with
  | case1 bytes length h hshorter ih =>
      obtain ⟨tiles, tail, htiles, hfits, hread, hends⟩ := ih
      have hpayload : headerLength + ((bytes.take length).drop headerLength).length = length := by
        rw [List.length_drop, List.length_take_of_le h.2]
        exact Nat.add_sub_cancel' h.1
      have hlt : length < 65536 := UInt16.toNat_lt _
      refine ⟨_, tail, htiles.cons (fun attr => ?_) (unpadded_read h.1 h.2) h.2, ?_, ?_, hends⟩
      · exact Nat.lt_of_lt_of_le (by decide) (headerLength_le_length_unpadded attr)
      · exact List.forall_mem_cons.mpr ⟨by rwa [hpayload], hfits⟩
      · rw [hread]
        rfl
  | case2 bytes length h =>
      refine ⟨[], bytes, Tiles.nil bytes, List.forall_mem_nil _, rfl, ?_⟩
      change bytes.length < 4 ∨ length < 4 ∨ bytes.length < length
      rw [headerLength] at h
      omega

end Attr

/-- Every byte string is the messages that are read from it, each with its padding, and a tail.
Without a failure the tail is shorter than a header. With one, which is then the last thing read,
it starts with a header whose length is too small or too large. A string is also the attributes
that are read from it, each with its flags and its padding, and a tail that starts with no
attribute. Headers take room, so what is read is at most a sixteenth or a quarter as many. -/
theorem framing_lossless (bytes : List UInt8) :
    (∃ (tiles : List (Message × List UInt8)) (tail : List UInt8) (failure : Option Fault),
      Tiles Message.unpadded tiles tail bytes ∧
        (∀ tile ∈ tiles, tile.1.header.length.toNat = 16 + tile.1.payload.length) ∧
        Message.readAll bytes = (tiles.map fun tile => .ok tile.1) ++ (failure.map .error).toList ∧
        Message.Ends tail failure ∧ (Message.readAll bytes).length ≤ bytes.length / 16) ∧
    ∃ (tiles : List (Attr × List UInt8)) (tail : List UInt8),
      Tiles Attr.unpadded tiles tail bytes ∧
        (∀ tile ∈ tiles, 4 + tile.1.payload.length < 65536) ∧
        Attr.readAll bytes = tiles.map (fun tile => tile.1.unflagged) ∧
        Attr.Ends tail ∧ (Attr.readAll bytes).length ≤ bytes.length / 4 := by
  constructor
  · obtain ⟨tiles, tail, failure, htiles, hframed, hread, hends⟩ := Message.exists_tiles bytes
    refine ⟨tiles, tail, failure, htiles, hframed, hread, hends, ?_⟩
    have hroom := htiles.length_le Message.size_le_length_unpadded
    -- a failure is reported for a whole header, which takes the room of one more message
    have htail : 16 * failure.toList.length ≤ tail.length := by
      cases failure with
      | none => exact Nat.zero_le _
      | some fault => exact hends.1
    rw [Header.size] at hroom
    rw [hread, Option.toList_map, List.length_append, List.length_map, List.length_map,
      Nat.le_div_iff_mul_le (by decide)]
    omega
  · obtain ⟨tiles, tail, htiles, hfits, hread, hends⟩ := Attr.exists_tiles bytes
    refine ⟨tiles, tail, htiles, hfits, hread, hends, ?_⟩
    have hroom := htiles.length_le Attr.headerLength_le_length_unpadded
    rw [Attr.headerLength] at hroom
    rw [hread, List.length_map, Nat.le_div_iff_mul_le (by decide)]
    omega

end HostNet.Wire

