import HostNet.Net.Address
import HostNet.Text.Bytes
/-!
Attributes: a length and a type in four bytes, a payload, and padding to the next multiple of
four. The reader takes what is well formed from the front and stops silently at the first length
that does not fit, since whatever follows cannot be located.
-/
namespace HostNet.Wire

/-- The next multiple of four. -/
def align4 (n : Nat) : Nat :=
  (n + 3) / 4 * 4

theorem le_align4 (n : Nat) : n ≤ align4 n := by
  unfold align4
  omega

/-- Zero bytes up to the next multiple of four. -/
def padding (length : Nat) : List UInt8 :=
  List.replicate (align4 length - length) 0

/-- What follows an item of the given length and its padding. Padding may be cut short by the end
of the input. -/
def afterPadded (length : Nat) (bytes : List UInt8) : List UInt8 :=
  bytes.drop (align4 length)

/-- One attribute. -/
structure Attr where
  kind : UInt16
  payload : List UInt8
deriving DecidableEq, Repr

namespace Attr

def headerLength : Nat := 4

/-- The part of a type field that is the type; the two high bits are flags. -/
def kindMask : UInt16 := 0x3fff

/-- Length and type fields. The length counts the fields themselves and wraps at 16 bits. -/
def header (kind : UInt16) (payloadLength : Nat) : List UInt8 :=
  Word.bytes16 (UInt16.ofNat (headerLength + payloadLength)) ++ Word.bytes16 kind

def encode (attr : Attr) : List UInt8 :=
  header attr.kind attr.payload.length ++ attr.payload ++
    padding (headerLength + attr.payload.length)

def word (kind : UInt16) (value : UInt32) : Attr :=
  ⟨kind, Word.bytes32 value⟩

/-- The attribute with a text as payload, ended by a NUL. -/
def text (kind : UInt16) (value : String) : Attr :=
  ⟨kind, Text.toBytes value ++ [0]⟩

/-- The attribute with the octets of an address as payload. -/
def address (kind : UInt16) (value : Address) : Attr :=
  ⟨kind, value.octets⟩

def lengthField (bytes : List UInt8) : Nat :=
  (Word.word16 (bytes.take 2)).toNat

/-- The type field behind it, without its flags. -/
def kindField (bytes : List UInt8) : UInt16 :=
  Word.word16 ((bytes.drop 2).take 2) &&& kindMask

/-- The attributes at the front of the bytes, in order. A length field that does not cover its own
header or exceeds what is left ends them. -/
def readAll (bytes : List UInt8) : List Attr :=
  let length := lengthField bytes
  if h : headerLength ≤ length ∧ length ≤ bytes.length then
    have : (afterPadded length bytes).length < bytes.length := by
      have := le_align4 length
      simp only [afterPadded, List.length_drop, headerLength] at *
      omega
    ⟨kindField bytes, (bytes.take length).drop headerLength⟩ :: readAll (afterPadded length bytes)
  else []
termination_by bytes.length

def encodeAll (attrs : List Attr) : List UInt8 :=
  attrs.flatMap encode

/-- The 32-bit word at the front of a payload, if it is long enough. -/
def word? (payload : List UInt8) : Option UInt32 :=
  if 4 ≤ payload.length then some (Word.word32 (payload.take 4)) else none

/-- The text up to the first NUL of a payload, or to its end, if it is well formed. -/
def text? (payload : List UInt8) : Option String :=
  Text.ofBytes? (payload.takeWhile (· != 0))

/-- The address at the front of a payload, for the family number of the message header. -/
def address? (familyCode : UInt8) (payload : List UInt8) : Option Address :=
  (Family.ofCode? familyCode).bind (Address.ofOctets? · payload)

end Attr

end HostNet.Wire
