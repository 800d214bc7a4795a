import HostNet.Document.Plain
/-!
Documents: trees of scalars, whichever notation they were written in. An unquoted word keeps its
spelling, since what it stands for depends on what the reader of the field wants.
-/
namespace HostNet

/-- How a scalar with a tag is written. -/
inductive ScalarForm where
  /-- As a word without quotes. -/
  | word
  /-- As a block of lines that stand as they are. -/
  | literal
  | quoted
deriving DecidableEq, Repr

/-- A leaf of a document. -/
inductive Scalar where
  | null
  | flag (value : Bool)
  | whole (value : Int)
  /-- A number with a fraction or an exponent, as it is spelled. -/
  | fractional (spelling : String)
  | text (value : String)
  /-- An unquoted word. -/
  | word (spelling : String)
  /-- A scalar that says what kind of thing it is. -/
  | tagged (tag : String) (form : ScalarForm) (spelling : String)
  /-- Something that may be passed over, but has no value. -/
  | garbled
deriving DecidableEq, Repr

namespace Scalar

def kindTag (kind : String) : String :=
  "tag:yaml.org,2002:" ++ kind

/-- Whether nothing was given. That cannot be told where a tag says so and the word does not. -/
def absence? : Scalar → Option Bool
  | null => some true
  | word spelling => some (Plain.isNull spelling)
  | tagged tag .word spelling =>
    if tag = kindTag "null" then if Plain.nullWords.contains spelling then some true else none
    else some false
  | _ => some false

/-- The text of a scalar. Any unquoted word is one. -/
def text? : Scalar → Option String
  | text value => some value
  | word spelling => some spelling
  | tagged _ _ spelling => some spelling
  | _ => none

/-- The word that may stand for a value of a kind: one without quotes, or lines under the tag of
the kind. -/
def wordFor? (kind : String) : Scalar → Option String
  | word spelling => some spelling
  | tagged _ .word spelling => some spelling
  | tagged tag .literal spelling => if tag = kindTag kind then some spelling else none
  | _ => none

def flag? : Scalar → Option Bool
  | flag value => some value
  | scalar => (scalar.wordFor? "bool").bind Plain.flag?

def natural? : Scalar → Option Nat
  | whole (.ofNat value) => some value
  | scalar => (scalar.wordFor? "int").bind Plain.natural?

def integer? : Scalar → Option Int
  | whole value => some value
  | scalar => (scalar.wordFor? "int").bind Plain.integer?

/-- Whether the scalar is an empty word, which stands for anything empty. -/
def isEmptyWord : Scalar → Bool
  | word "" => true
  | tagged _ .word "" => true
  | _ => false

end Scalar

/-- A document. Objects keep the order of their members, and members of the same name. -/
inductive Document where
  | leaf (scalar : Scalar)
  | list (items : List Document)
  | object (members : List (String × Document))
deriving Repr

abbrev Members : Type :=
  List (String × Document)

namespace Document

def null : Document :=
  leaf .null

def flag (value : Bool) : Document :=
  leaf (.flag value)

def natural (value : Nat) : Document :=
  leaf (.whole (.ofNat value))

def text (value : String) : Document :=
  leaf (.text value)

/-- A value that may be absent. -/
def optional {α : Type} (form : α → Document) : Option α → Document
  | none => null
  | some value => form value

/-- The document of an empty place, which stands for anything empty. -/
def blank : Document :=
  leaf (.word "")

/-- What has no value, though it may be passed over. -/
def garbled : Document :=
  leaf .garbled

/-- Whether nothing was given, as far as that can be told. -/
def absence? : Document → Option Bool
  | leaf scalar => scalar.absence?
  | _ => some false

def text? : Document → Option String
  | leaf scalar => scalar.text?
  | _ => none

def flag? : Document → Option Bool
  | leaf scalar => scalar.flag?
  | _ => none

def integer? : Document → Option Int
  | leaf scalar => scalar.integer?
  | _ => none

/-- A natural number below a bound. -/
def naturalBelow? (bound : Nat) : Document → Option Nat
  | leaf scalar => scalar.natural?.filter (· < bound)
  | _ => none

def items? : Document → Option (List Document)
  | list items => some items
  | leaf scalar => if scalar.isEmptyWord then some [] else none
  | _ => none

def members? : Document → Option Members
  | object members => some members
  | leaf scalar => if scalar.isEmptyWord then some [] else none
  | _ => none

/-- A list of at least `least` values as the object that gives them the names, in order. Other
documents stay as they are. -/
def labelled (names : List String) (least : Nat) : Document → Document
  | list items =>
    if least ≤ items.length && items.length ≤ names.length then object (names.zip items)
    else list items
  | document => document

end Document

/-- A reader of documents; it gives nothing where a document is not what it reads. -/
abbrev Reader (α : Type) : Type :=
  Document → Option α

namespace Reader

/-- An absent value, or what the reader gives. -/
def optional {α : Type} (read : Reader α) : Reader (Option α) := fun document =>
  document.absence?.bind fun absent => if absent then some none else (read document).map some

/-- Every item of a list. -/
def each {α : Type} (read : Reader α) : Reader (List α) := fun document =>
  document.items?.bind fun items => items.mapM read

/-- A text with a meaning. -/
def named {α : Type} (meaning : String → Option α) : Reader α := fun document =>
  document.text?.bind meaning

def word32 : Reader UInt32 := fun document =>
  (document.naturalBelow? 0x100000000).map UInt32.ofNat

def word8 : Reader UInt8 := fun document =>
  (document.naturalBelow? 0x100).map UInt8.ofNat

end Reader

namespace Members

/-- All values under a name. -/
def every (members : Members) (name : String) : List Document :=
  (members.filter (·.1 == name)).map (·.2)

/-- The value under a name that must be there once. -/
def required {α : Type} (members : Members) (name : String) (read : Reader α) : Option α :=
  match members.every name with
  | [document] => read document
  | _ => none

/-- The value under a name that may be missing, and otherwise is there once. -/
def orElse {α : Type} (members : Members) (name : String) (default : α) (read : Reader α) :
    Option α :=
  match members.every name with
  | [] => some default
  | [document] => read document
  | _ => none

/-- The value under a name that may be missing or absent, and otherwise is there once. -/
def optional {α : Type} (members : Members) (name : String) (read : Reader α) :
    Option (Option α) :=
  members.orElse name none read.optional

/-- The value under a name that may be missing or absent, the last one where there are several.
All of them must be readable. -/
def latest {α : Type} (members : Members) (name : String) (read : Reader α) :
    Option (Option α) :=
  ((members.every name).mapM read.optional).map fun values => values.getLast?.join

end Members

end HostNet
