import HostNet.Net.Address
/-!
Network prefixes. The length never exceeds the width of the family, so every prefix is usable
as it stands; host bits may be set.
-/
namespace HostNet

/-- A network prefix: an address, host bits kept, and how many leading bits matter. -/
structure Cidr where
  address : Address
  length : Nat
  length_le : length ≤ address.family.width
deriving DecidableEq, Repr

namespace Cidr

/-- The prefix of full length that holds one address. -/
def host (address : Address) : Cidr :=
  ⟨address, address.family.width, Nat.le_refl _⟩

/-- The prefix with the given length, if the family has that many bits. -/
def make? (address : Address) (length : Nat) : Option Cidr :=
  if h : length ≤ address.family.width then some ⟨address, length, h⟩ else none

def family (cidr : Cidr) : Family :=
  cidr.address.family

/-- The first address of the prefix. -/
def network (cidr : Cidr) : Address :=
  cidr.address.network cidr.length

def contains (cidr : Cidr) (address : Address) : Bool :=
  address.network cidr.length == cidr.network

/-- The length as it travels in a header. -/
def lengthByte (cidr : Cidr) : UInt8 :=
  UInt8.ofNat cidr.length

/-- No bit is set beyond the prefix length. -/
def Canonical (cidr : Cidr) : Prop :=
  cidr.network = cidr.address

instance (cidr : Cidr) : Decidable cidr.Canonical :=
  inferInstanceAs (Decidable (_ = _))

end Cidr

end HostNet
