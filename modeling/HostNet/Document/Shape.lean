import HostNet.Document.Tree
import HostNet.Text.Instant
/-!
Shapes of documents: what has to stand where, also in the parts that nothing is read from. An object
of a shape may lack any of its members, may have others, and may have each of them several times.
-/
namespace HostNet

/-- What a document looks like. -/
inductive Shape where
  | text
  | flag
  /-- A whole number that a signed word of the given number of bits can hold. -/
  | integer (bits : Nat)
  | instant
  /-- Any document whose leaves all have values. -/
  | anything
  | list (item : Shape)
  /-- An object with members of any name, all of the same shape. -/
  | table (value : Shape)
  | record (fields : List (String × Shape))

namespace Scalar

/-- Whether a number is one that words of 64 bits can hold, with a sign or without one. -/
def isWordSized (value : Int) : Bool :=
  -0x8000000000000000 ≤ value && value ≤ 0xffffffffffffffff

/-- Whether a spelling of a number is near a double-precision number. -/
def isDouble (spelling : String) : Bool :=
  Plain.isFractional spelling

/-- Whether a scalar with a tag is of the kind that the tag says. Tags of the text's own are of no
kind. -/
def isOfKind (tag spelling : String) : Bool :=
  if tag = kindTag "bool" then (Plain.flag? spelling).isSome
  else if tag = kindTag "int" then (Plain.integer? spelling).any isWordSized
  else if tag = kindTag "float" then isDouble spelling
  else if tag = kindTag "null" then Plain.nullWords.contains spelling
  else tag.toList.head? != some '!'

/-- Whether a scalar has a value. Whole numbers that are written as such have none where words are
too short for them, while a longer row of digits is a text. -/
def hasValue : Scalar → Bool
  | null => true
  | flag _ => true
  | whole value => isWordSized value || isDouble (toString value)
  | fractional spelling => isDouble spelling
  | text _ => true
  | word spelling => (Plain.integer? spelling).all isWordSized
  | tagged tag _ spelling => isOfKind tag spelling
  | garbled => false

end Scalar

namespace Document

mutual

/-- Whether all leaves have values, and collections stand in each other in no more levels than
given. -/
def hasValue (levels : Nat) : Document → Bool
  | leaf scalar => scalar.hasValue
  | list items => levels != 0 && itemsHaveValues (levels - 1) items
  | object members => levels != 0 && membersHaveValues (levels - 1) members

def itemsHaveValues (levels : Nat) : List Document → Bool
  | [] => true
  | item :: items => hasValue levels item && itemsHaveValues levels items

def membersHaveValues (levels : Nat) : List (String × Document) → Bool
  | [] => true
  | (_, value) :: members => hasValue levels value && membersHaveValues levels members

end

end Document

namespace Shape

def fits (bits : Nat) (value : Int) : Bool :=
  let bound := Int.ofNat (Nat.pow 2 (bits - 1))
  decide (-bound ≤ value) && value < bound

mutual

/-- Whether a document has the shape, with collections in no more levels than given. -/
def admits (levels : Nat) : Shape → Document → Bool
  | text, document => document.text?.isSome
  | flag, document => document.flag?.isSome
  | integer bits, document => document.integer?.any (fits bits)
  | instant, document => (document.text?.bind Instant.read?).isSome
  | anything, document => document.hasValue levels
  | list item, document => document.items?.any fun items => items.all (admits (levels - 1) item)
  | table value, document =>
    document.members?.any fun members => members.all fun member =>
      admits (levels - 1) value member.2
  | record fields, document =>
    document.members?.any fun members => admitsFields (levels - 1) fields members

/-- Whether the members of an object have the shapes that are given for them, unless they are
absent. -/
def admitsFields (levels : Nat) : List (String × Shape) → Members → Bool
  | [], _ => true
  | (name, shape) :: fields, members =>
    (members.every name).all (fun document =>
      document.absence?.any fun absent => absent || admits levels shape document) &&
    admitsFields levels fields members

end

end Shape

end HostNet
