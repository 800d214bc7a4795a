import HostNet.Document.Tree
import HostNet.Document.Yaml.Tag
/-!
Tokens of the YAML notation, and the directives at its start. Tokens tell where collections begin
and end, whether they are set in brackets or by indentation.
-/
namespace HostNet.Yaml

open HostNet.Text

inductive Token where
  | version (major minor : Nat)
  /-- A handle of tags, and what it stands for. -/
  | handle (name meaning : String)
  | documentStart
  | documentEnd
  | blockListStart
  | blockObjectStart
  /-- A block collection ends. -/
  | blockEnd
  | listStart
  | listEnd
  | objectStart
  | objectEnd
  /-- An item of a block list follows. -/
  | item
  /-- The parts of a collection in brackets are set apart. -/
  | comma
  /-- The name of a member follows. -/
  | name
  /-- The value of a member follows. -/
  | value
  | anchor (name : String)
  | alias (name : String)
  | tag (tag : Tag)
  | scalar (form : ScalarForm) (text : String)
deriving DecidableEq, Repr

/-- The largest number of digits in a part of a version. -/
def versionDigits : Nat := 9

def readVersionPart (text : List Char) : Option (Nat × List Char) :=
  let (digits, rest) := splitDigits 10 text
  if digits.isEmpty || versionDigits < digits.length then none
  else some (ofDigits 10 digits, rest)

def readVersion (text : List Char) : Option (Token × List Char) := do
  let (major, rest) ← readVersionPart (text.dropWhile isGap)
  match rest with
  | '.' :: rest =>
    let (minor, rest) ← readVersionPart rest
    return (.version major minor, rest)
  | _ => none

/-- The handle and its meaning at the front of a text, and what follows them. -/
def readMeaning (fuel : Nat) (text : List Char) : Option (Token × List Char) := do
  let (name, rest) ← readHandle (text.dropWhile isGap)
  guard (name == "!" || isNamedHandle name)
  guard (rest.head?.any isGap)
  let (meaning, rest) ← readTagName true fuel "" (rest.dropWhile isGap)
  guard (!meaning.isEmpty && endsWord rest)
  return (.handle name meaning, rest)

/-- The directive at the front of a text, behind its percent sign, and what follows it. -/
def readDirective (fuel : Nat) (text : List Char) : Option (Token × List Char) := do
  let name := text.takeWhile isNameChar
  let rest := text.drop name.length
  guard (endsWord rest)
  let word := String.ofList name
  if word = "YAML" then readVersion rest
  else if word = "TAG" then readMeaning fuel rest
  else none

def readAnchor (text : List Char) : Option (String × List Char) :=
  let name := text.takeWhile isNameChar
  let rest := text.drop name.length
  let ends := endsWord rest ||
    rest.head?.any ['?', ':', ',', ']', '\x7d', '%', '@', '\x60'].contains
  if name.isEmpty || !ends then none else some (String.ofList name, rest)

end HostNet.Yaml
