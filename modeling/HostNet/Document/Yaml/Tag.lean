import HostNet.Document.Yaml.Place
import HostNet.Text.Bytes
/-!
Tags of the YAML notation, which say what kind of thing a node is. A tag is written as a handle and
the rest of its name; directives say which text each handle stands for.
-/
namespace HostNet.Yaml

open HostNet.Text

/-- A tag as it is written. A full name has no handle. -/
structure Tag where
  handle : String
  suffix : String
deriving DecidableEq, Repr

/-- Whether a character may stand in the name of a tag. Between angle brackets the marks of lists
may too. -/
def isTagChar (bracketed : Bool) (c : Char) : Bool :=
  isNameChar c || ";/?:@&=+$.!~*'()%".toList.contains c ||
    (bracketed && [',', '[', ']'].contains c)

/-- The number of bytes of a character, by the first of them. -/
def byteCount? (first : Nat) : Option Nat :=
  if first < 0x80 then some 1
  else if first / 32 = 6 then some 2
  else if first / 16 = 14 then some 3
  else if first / 8 = 30 then some 4
  else none

/-- A byte that is given by two digits behind a percent sign, and what follows it. -/
def readByte : List Char → Option (Nat × List Char)
  | '%' :: a :: b :: rest =>
    if isDigit 16 a && isDigit 16 b then some (ofDigits 16 [a, b], rest) else none
  | _ => none

/-- The given number of bytes that go on with a character, and what follows them. -/
def readTail : Nat → List Char → Option (List Nat × List Char)
  | 0, text => some ([], text)
  | count + 1, text =>
    match readByte text with
    | none => none
    | some (byte, rest) =>
      if byte / 64 = 2 then (readTail count rest).map fun (tail, rest) => (byte :: tail, rest)
      else none

def textOfBytes (bytes : List Nat) : String :=
  (ofBytes? (bytes.map UInt8.ofNat)).getD "\ufffd"

/-- The name of a tag at the front of a text, and what follows it. -/
def readTagName (bracketed : Bool) (fuel : Nat) (sofar : String) (text : List Char) :
    Option (String × List Char) :=
  match fuel, text with
  | 0, _ => none
  | _, [] => some (sofar, [])
  | fuel + 1, c :: rest =>
    if c == '%' then do
      let (first, rest) ← readByte (c :: rest)
      let count ← byteCount? first
      let (tail, rest) ← readTail (count - 1) rest
      readTagName bracketed fuel (sofar ++ textOfBytes (first :: tail)) rest
    else if isTagChar bracketed c then readTagName bracketed fuel (sofar.push c) rest
    else some (sofar, c :: rest)

/-- A handle at the front of a text, and what follows it: an exclamation mark, with a name and a
second mark behind it where they are there. -/
def readHandle : List Char → Option (String × List Char)
  | '!' :: text =>
    let name := text.takeWhile isNameChar
    match text.drop name.length with
    | '!' :: rest => some (String.ofList ('!' :: name ++ ['!']), rest)
    | rest => some (String.ofList ('!' :: name), rest)
  | _ => none

def isNamedHandle (handle : String) : Bool :=
  1 < handle.length && handle.toList.getLast? == some '!'

/-- A tag in angle brackets at the front of a text, behind the opening one. -/
def readFullTag (fuel : Nat) (text : List Char) : Option (Tag × List Char) := do
  let (name, rest) ← readTagName true fuel "" text
  match rest with
  | '>' :: rest => if name.isEmpty then none else return (⟨"", name⟩, rest)
  | _ => none

/-- A tag at the front of a text that begins with an exclamation mark, and what follows it. The mark
alone is a name by itself. -/
def readTag (fuel : Nat) (text : List Char) : Option (Tag × List Char) :=
  match text with
  | '!' :: '<' :: rest => readFullTag fuel rest
  | _ => do
    let (handle, rest) ← readHandle text
    if isNamedHandle handle then
      let (suffix, rest) ← readTagName false fuel "" rest
      if suffix.isEmpty then none else return (⟨handle, suffix⟩, rest)
    else
      let (suffix, rest) ← readTagName false fuel (String.ofList (handle.toList.drop 1)) rest
      return (if suffix.isEmpty then ⟨"", "!"⟩ else ⟨"!", suffix⟩, rest)

abbrev Handles : Type :=
  List (String × String)

/-- The handles that need no directive. -/
def Handles.standard : Handles :=
  [("!", "!"), ("!!", "tag:yaml.org,2002:")]

/-- The full name of a tag, if its handle stands for something. -/
def Tag.name? (tag : Tag) (handles : Handles) : Option String :=
  if tag.handle.isEmpty then some tag.suffix
  else (handles.lookup tag.handle).map (· ++ tag.suffix)

end HostNet.Yaml
