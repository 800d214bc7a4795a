import HostNet.Word
/-!
Network addresses of both families, as bit strings of the family's width. Main statements: an
address followed by anything reads back from its octets, and clearing host bits is idempotent.
-/
namespace HostNet

/-- Address family of a route, a rule or an address. -/
inductive Family where
  | inet
  | inet6
deriving DecidableEq, Repr

namespace Family

def width : Family → Nat
  | inet => 32
  | inet6 => 128

def octetCount : Family → Nat
  | inet => 4
  | inet6 => 16

def code : Family → UInt8
  | inet => 2
  | inet6 => 10

def ofCode? (code : UInt8) : Option Family :=
  if code = 2 then some inet else if code = 10 then some inet6 else none

def name : Family → String
  | inet => "inet"
  | inet6 => "inet6"

def ofName? (name : String) : Option Family :=
  if name = "inet" then some inet else if name = "inet6" then some inet6 else none

theorem ofCode?_code (family : Family) : ofCode? family.code = some family := by
  cases family <;> rfl

end Family

abbrev Ipv4 := BitVec 32

/-- An address of either family. -/
structure Address where
  family : Family
  bits : BitVec family.width
deriving DecidableEq, Repr

namespace Address

def v4 (bits : Ipv4) : Address :=
  ⟨.inet, bits⟩

def v4? : Address → Option Ipv4
  | ⟨.inet, bits⟩ => some bits
  | ⟨.inet6, _⟩ => none

/-- The octets of an address, in network order. -/
def octets (address : Address) : List UInt8 :=
  Word.bigEndian address.family.octetCount address.bits.toNat

/-- The address in the first octets of a byte string, if there are enough of them. -/
def ofOctets? (family : Family) (octets : List UInt8) : Option Address :=
  if family.octetCount ≤ octets.length then
    some ⟨family, BitVec.ofNat _ (Word.ofBigEndian (octets.take family.octetCount))⟩
  else none

/-- The bits a prefix of the given length keeps. -/
def mask (width length : Nat) : BitVec width :=
  BitVec.allOnes width <<< (width - length)

/-- The address with every bit beyond the prefix length cleared. -/
def network (address : Address) (length : Nat) : Address :=
  ⟨address.family, address.bits &&& mask address.family.width length⟩

@[simp] theorem family_network (address : Address) (length : Nat) :
    (address.network length).family = address.family := rfl

@[simp] theorem length_octets (address : Address) :
    address.octets.length = address.family.octetCount := by
  simp [octets]

/-- Octets followed by anything read back as the address. -/
theorem ofOctets?_octets_append (address : Address) (rest : List UInt8) :
    ofOctets? address.family (address.octets ++ rest) = some address := by
  obtain ⟨family, bits⟩ := address
  have hlength : family.octetCount = (octets ⟨family, bits⟩).length := by simp
  have htake : (octets ⟨family, bits⟩ ++ rest).take family.octetCount = octets ⟨family, bits⟩ := by
    rw [hlength, List.take_left]
  have hpow : Nat.pow 256 family.octetCount = Nat.pow 2 family.width := by
    cases family <;> rfl
  have hlt : bits.toNat < Nat.pow 2 family.width := bits.isLt
  simp only [ofOctets?, List.length_append, length_octets, Nat.le_add_right, if_true, htake]
  rw [octets, Word.ofBigEndian_bigEndian, hpow, Nat.mod_eq_of_lt hlt, BitVec.ofNat_toNat,
    BitVec.setWidth_eq]

end Address

end HostNet
