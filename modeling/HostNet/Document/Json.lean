import HostNet.Document.Tree
/-!
The JSON notation of documents: a strict reader, and a compact and an indented writer.
-/
namespace HostNet.Json

open HostNet.Text

def isSpace (c : Char) : Bool :=
  c == ' ' || c == '\t' || c == '\n' || c == '\r'

def skip (text : List Char) : List Char :=
  text.dropWhile isSpace

/-- The character that a letter stands for behind a backslash. -/
def escape? : Char → Option Char
  | '"' => some '"'
  | '\\' => some '\\'
  | '/' => some '/'
  | 'b' => some '\x08'
  | 'f' => some '\x0c'
  | 'n' => some '\n'
  | 'r' => some '\r'
  | 't' => some '\t'
  | _ => none

def readHex4 : List Char → Option (Nat × List Char)
  | a :: b :: c :: d :: rest =>
    if [a, b, c, d].all (isDigit 16) then some (ofDigits 16 [a, b, c, d], rest) else none
  | _ => none

/-- The character given by number behind a backslash and `u`, and what follows it. Characters beyond
16 bits take two numbers; half of such a pair alone is no character. -/
def readNumbered (text : List Char) : Option (Option Char × List Char) :=
  match readHex4 text with
  | none => none
  | some (high, rest) =>
    if 0xd800 ≤ high ∧ high < 0xdc00 then
      match rest with
      | '\\' :: 'u' :: more =>
        match readHex4 more with
        | none => none
        | some (low, behind) =>
          if 0xdc00 ≤ low ∧ low < 0xe000 then
            some (some (Char.ofNat (0x10000 + (high - 0xd800) * 1024 + (low - 0xdc00))), behind)
          else some (none, rest)
      | _ => some (none, rest)
    else if 0xdc00 ≤ high ∧ high < 0xe000 then some (none, rest)
    else some (some (Char.ofNat high), rest)

/-- The rest of a string up to its closing quote, and what follows it. The characters read so far
are kept in reverse, as long as all of them are characters. -/
def readString (fuel : Nat) (sofar : Option (List Char)) (text : List Char) :
    Option (Option String × List Char) :=
  match fuel, text with
  | 0, _ => none
  | _, [] => none
  | fuel + 1, c :: rest =>
    if c = '"' then some (sofar.map fun sofar => String.ofList sofar.reverse, rest)
    else if c.toNat < 0x20 then none
    else if c = '\\' then
      match rest with
      | [] => none
      | 'u' :: rest =>
        match readNumbered rest with
        | none => none
        | some (some c, rest) => readString fuel (sofar.map (c :: ·)) rest
        | some (none, rest) => readString fuel none rest
      | letter :: rest =>
        match escape? letter with
        | none => none
        | some c => readString fuel (sofar.map (c :: ·)) rest
    else readString fuel (sofar.map (c :: ·)) rest

/-- A fraction at the front: a point and digits. Nothing is an empty one. -/
def splitFraction : List Char → Option (List Char × List Char)
  | '.' :: rest =>
    let (digits, rest) := splitDigits 10 rest
    if digits.isEmpty then none else some ('.' :: digits, rest)
  | text => some ([], text)

def splitSign : List Char → List Char × List Char
  | '+' :: rest => (['+'], rest)
  | '-' :: rest => (['-'], rest)
  | text => ([], text)

/-- An exponent at the front. Nothing is an empty one. -/
def splitExponent : List Char → Option (List Char × List Char)
  | c :: rest =>
    if c = 'e' || c = 'E' then
      let (sign, rest) := splitSign rest
      let (digits, rest) := splitDigits 10 rest
      if digits.isEmpty then none else some (c :: sign ++ digits, rest)
    else some ([], c :: rest)
  | [] => some ([], [])

/-- The digits of a whole number at the front, which begin with a zero only if that is all. -/
def splitWhole (text : List Char) : Option (List Char × List Char) :=
  match splitDigits 10 text with
  | ([], _) => none
  | ('0' :: _ :: _, _) => none
  | split => some split

/-- A number as a scalar. What has a fraction or an exponent is no whole number, nor is minus
zero. -/
def numberScalar (negative : Bool) (digits tail : List Char) : Scalar :=
  let value := ofDigits 10 digits
  if tail.isEmpty && !(negative && value == 0) then
    .whole (if negative then -(value : Int) else value)
  else .fractional ((if negative then "-" else "") ++ String.ofList (digits ++ tail))

def readNumber (text : List Char) : Option (Document × List Char) := do
  let (negative, text) := match text with
    | '-' :: rest => (true, rest)
    | _ => (false, text)
  let (digits, text) ← splitWhole text
  let (fraction, text) ← splitFraction text
  let (exponent, text) ← splitExponent text
  return (.leaf (numberScalar negative digits (fraction ++ exponent)), text)

def readWord : List Char → Option (Document × List Char)
  | 'n' :: 'u' :: 'l' :: 'l' :: rest => some (.null, rest)
  | 't' :: 'r' :: 'u' :: 'e' :: rest => some (.flag true, rest)
  | 'f' :: 'a' :: 'l' :: 's' :: 'e' :: rest => some (.flag false, rest)
  | text => readNumber text

def readName (text : List Char) : Option (Option String × List Char) :=
  match skip text with
  | '"' :: rest =>
    match readString (rest.length + 1) (some []) rest with
    | none => none
    | some (name, rest) =>
      match skip rest with
      | ':' :: rest => some (name, rest)
      | _ => none
  | _ => none

mutual

/-- A value at the front, and what follows it. Every step takes one unit of fuel. -/
def readValue (fuel : Nat) (text : List Char) : Option (Document × List Char) :=
  match fuel with
  | 0 => none
  | fuel + 1 =>
    match skip text with
    | '[' :: rest =>
      match skip rest with
      | ']' :: rest => some (.list [], rest)
      | rest => readItems fuel [] rest
    | '\x7b' :: rest =>
      match skip rest with
      | '\x7d' :: rest => some (.object [], rest)
      | rest => readMembers fuel (some []) rest
    | '"' :: rest =>
      match readString (rest.length + 1) (some []) rest with
      | none => none
      | some (value?, rest) => some (value?.elim .garbled .text, rest)
    | text => readWord text

/-- The rest of a list from an item on. The items so far are kept in reverse. -/
def readItems (fuel : Nat) (sofar : List Document) (text : List Char) :
    Option (Document × List Char) :=
  match fuel with
  | 0 => none
  | fuel + 1 =>
    match readValue fuel text with
    | none => none
    | some (item, rest) =>
      match skip rest with
      | ',' :: rest => readItems fuel (item :: sofar) rest
      | ']' :: rest => some (.list (item :: sofar).reverse, rest)
      | _ => none

/-- The rest of an object from a member on. The members so far are kept in reverse, as long as all
names are texts; otherwise the object is garbled. -/
def readMembers (fuel : Nat) (sofar : Option Members) (text : List Char) :
    Option (Document × List Char) :=
  match fuel with
  | 0 => none
  | fuel + 1 =>
    match readName text with
    | none => none
    | some (name?, rest) =>
      match readValue fuel rest with
      | none => none
      | some (value, rest) =>
        let members? := sofar.bind fun sofar => name?.map fun name => (name, value) :: sofar
        match skip rest with
        | ',' :: rest => readMembers fuel members? rest
        | '\x7d' :: rest =>
          some (members?.elim .garbled fun members => .object members.reverse, rest)
        | _ => none

end

/-- The levels of collections in collections that readers of documents in this notation follow. -/
def levels : Nat := 127

/-- The whole of a text as a document. -/
def read? (text : String) : Option Document :=
  match readValue (2 * text.length + 2) text.toList with
  | some (document, rest) => if (skip rest).isEmpty then some document else none
  | none => none

def writeChar (c : Char) : String :=
  match c with
  | '"' => "\\\""
  | '\\' => "\\\\"
  | '\x08' => "\\b"
  | '\x0c' => "\\f"
  | '\n' => "\\n"
  | '\r' => "\\r"
  | '\t' => "\\t"
  | c => if c.toNat < 0x20 then "\\u" ++ hexPadded 4 c.toNat else String.singleton c

def writeString (text : String) : String :=
  text.foldl (fun written c => written ++ writeChar c) "\"" ++ "\""

def writeScalar : Scalar → String
  | .null => "null"
  | .flag true => "true"
  | .flag false => "false"
  | .whole value => toString value
  | .fractional spelling => spelling
  | .text value => writeString value
  | .word spelling => writeString spelling
  | .tagged _ _ spelling => writeString spelling
  | .garbled => "null"

mutual

def compact : Document → String
  | .leaf scalar => writeScalar scalar
  | .list items => "[" ++ compactItems items ++ "]"
  | .object members => "\x7b" ++ compactMembers members ++ "\x7d"

/-- The items of a list, a comma between each two. -/
def compactItems : List Document → String
  | [] => ""
  | [item] => compact item
  | item :: items => compact item ++ "," ++ compactItems items

/-- The members of an object, a comma between each two. -/
def compactMembers : List (String × Document) → String
  | [] => ""
  | [(name, value)] => writeString name ++ ":" ++ compact value
  | (name, value) :: members =>
    writeString name ++ ":" ++ compact value ++ "," ++ compactMembers members

end

def newline (depth : Nat) : String :=
  "\n" ++ "".pushn ' ' (2 * depth)

mutual

/-- A document on as many lines as it has parts, two spaces for each level. -/
def pretty (depth : Nat) : Document → String
  | .leaf scalar => writeScalar scalar
  | .list [] => "[]"
  | .list items => "[" ++ prettyItems (depth + 1) items ++ newline depth ++ "]"
  | .object [] => "\x7b\x7d"
  | .object members => "\x7b" ++ prettyMembers (depth + 1) members ++ newline depth ++ "\x7d"

/-- The items of a list, each on a line of its own. -/
def prettyItems (depth : Nat) : List Document → String
  | [] => ""
  | [item] => newline depth ++ pretty depth item
  | item :: items => newline depth ++ pretty depth item ++ "," ++ prettyItems depth items

/-- The members of an object, each on a line of its own. -/
def prettyMembers (depth : Nat) : List (String × Document) → String
  | [] => ""
  | [(name, value)] => newline depth ++ writeString name ++ ": " ++ pretty depth value
  | (name, value) :: members =>
    newline depth ++ writeString name ++ ": " ++ pretty depth value ++ "," ++
      prettyMembers depth members

end

end HostNet.Json
