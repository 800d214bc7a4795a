/-!
Numbers as fixed numbers of bytes, in either byte order. Main statements: the bytes of a number read
back as the number modulo their range, machine words read back as themselves, and a number takes
the bytes it was read from.
-/
namespace HostNet.Word

/-- The lowest `width` bytes of a number, least significant first. -/
def littleEndian : (width : Nat) → Nat → List UInt8
  | 0, _ => []
  | width + 1, n => UInt8.ofNat n :: littleEndian width (n / 256)

/-- The number whose bytes these are, least significant first. -/
def ofLittleEndian : List UInt8 → Nat
  | [] => 0
  | byte :: rest => byte.toNat + 256 * ofLittleEndian rest

/-- The lowest `width` bytes of a number, most significant first. -/
def bigEndian (width n : Nat) : List UInt8 :=
  (littleEndian width n).reverse

/-- The number whose bytes these are, most significant first. -/
def ofBigEndian (bytes : List UInt8) : Nat :=
  ofLittleEndian bytes.reverse

def bytes16 (word : UInt16) : List UInt8 :=
  littleEndian 2 word.toNat

def bytes32 (word : UInt32) : List UInt8 :=
  littleEndian 4 word.toNat

def word16 (bytes : List UInt8) : UInt16 :=
  UInt16.ofNat (ofLittleEndian bytes)

def word32 (bytes : List UInt8) : UInt32 :=
  UInt32.ofNat (ofLittleEndian bytes)

@[simp] theorem length_littleEndian (width n : Nat) :
    (littleEndian width n).length = width := by
  induction width generalizing n with
  | zero => rfl
  | succ width ih => simp [littleEndian, ih]

@[simp] theorem length_bigEndian (width n : Nat) : (bigEndian width n).length = width := by
  simp [bigEndian]

/-- Reading back the bytes of a number gives the number modulo their range. -/
theorem ofLittleEndian_littleEndian (width n : Nat) :
    ofLittleEndian (littleEndian width n) = n % Nat.pow 256 width := by
  induction width generalizing n with
  | zero => simp [littleEndian, ofLittleEndian, Nat.mod_one]
  | succ width ih =>
    have hbyte : (UInt8.ofNat n).toNat = n % 256 := by simp
    have hpow : Nat.pow 256 (width + 1) = 256 * Nat.pow 256 width := Nat.pow_succ'
    rw [littleEndian, ofLittleEndian, ih, hbyte, hpow, Nat.mod_mul]

theorem ofBigEndian_bigEndian (width n : Nat) :
    ofBigEndian (bigEndian width n) = n % Nat.pow 256 width := by
  simp [ofBigEndian, bigEndian, ofLittleEndian_littleEndian]

theorem length_bytes16 (word : UInt16) : (bytes16 word).length = 2 := by
  simp [bytes16]

theorem length_bytes32 (word : UInt32) : (bytes32 word).length = 4 := by
  simp [bytes32]

/-- A 16-bit word reads back from its bytes. -/
@[simp] theorem word16_bytes16 (word : UInt16) : word16 (bytes16 word) = word := by
  have hlt : word.toNat < Nat.pow 256 2 := word.toNat_lt
  rw [word16, bytes16, ofLittleEndian_littleEndian, Nat.mod_eq_of_lt hlt, UInt16.ofNat_toNat]

/-- A 32-bit word reads back from its bytes. -/
@[simp] theorem word32_bytes32 (word : UInt32) : word32 (bytes32 word) = word := by
  have hlt : word.toNat < Nat.pow 256 4 := word.toNat_lt
  rw [word32, bytes32, ofLittleEndian_littleEndian, Nat.mod_eq_of_lt hlt, UInt32.ofNat_toNat]

/-- A number takes the bytes it was read from. -/
theorem littleEndian_ofLittleEndian (bytes : List UInt8) :
    littleEndian bytes.length (ofLittleEndian bytes) = bytes := by
  induction bytes with
  | nil => rfl
  | cons byte rest ih =>
    have hlt := byte.toNat_lt
    have hrest : (byte.toNat + 256 * ofLittleEndian rest) / 256 = ofLittleEndian rest := by omega
    have hbyte : UInt8.ofNat (byte.toNat + 256 * ofLittleEndian rest) = byte := by
      apply UInt8.toNat_inj.mp
      rw [UInt8.toNat_ofNat']
      omega
    rw [ofLittleEndian, List.length_cons, littleEndian, hrest, hbyte, ih]

theorem ofLittleEndian_lt (bytes : List UInt8) :
    ofLittleEndian bytes < Nat.pow 256 bytes.length := by
  induction bytes with
  | nil => exact Nat.one_pos
  | cons byte rest ih =>
    have hlt := byte.toNat_lt
    have hpow : Nat.pow 256 (rest.length + 1) = 256 * Nat.pow 256 rest.length := Nat.pow_succ'
    rw [ofLittleEndian, List.length_cons, hpow]
    omega

theorem bytes16_word16 {bytes : List UInt8} (h : bytes.length = 2) :
    bytes16 (word16 bytes) = bytes := by
  have hlt := ofLittleEndian_lt bytes
  rw [h] at hlt
  rw [bytes16, word16, UInt16.toNat_ofNat', Nat.mod_eq_of_lt hlt, ← h, littleEndian_ofLittleEndian]

theorem bytes32_word32 {bytes : List UInt8} (h : bytes.length = 4) :
    bytes32 (word32 bytes) = bytes := by
  have hlt := ofLittleEndian_lt bytes
  rw [h] at hlt
  rw [bytes32, word32, UInt32.toNat_ofNat', Nat.mod_eq_of_lt hlt, ← h, littleEndian_ofLittleEndian]

end HostNet.Word
