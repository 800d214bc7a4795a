import HostNet.Document.Tree
import HostNet.Document.Yaml.Character
/-!
Writing the YAML notation of documents: block collections, each member on a line of its own, and
each scalar in the plainest form that reads back as the same scalar.
-/
namespace HostNet.Yaml

open HostNet.Text

/-- Whether the first character of a plain word would be taken for a mark. -/
def opensMark (c : Char) (rest : List Char) : Bool :=
  "#,[]\x7b\x7d&*!|>'\"%@\x60".toList.contains c ||
    ((c == '?' || c == ':' || c == '-') && endsWord rest)

/-- Whether a mark stands behind the first character of a plain word: a colon with a blank behind
it, or a comment behind a blank. -/
def holdsMark : (previous : Char) → List Char → Bool
  | _, [] => false
  | previous, c :: rest =>
    (c == ':' && endsWord rest) || (c == '#' && endsWord [previous]) || holdsMark c rest

/-- Whether a text would be taken for more than a word, or for the mark of a document's start or
end. -/
def hasMark (text : List Char) : Bool :=
  startsWith text ['-', '-', '-'] || startsWith text ['.', '.', '.'] ||
    match text with
    | [] => false
    | c :: rest => opensMark c rest || holdsMark c rest

/-- Whether two neighbours in a text are of the given kinds. -/
def hasPair (first second : Char → Bool) : List Char → Bool
  | c :: d :: rest => (first c && second d) || hasPair first second (d :: rest)
  | _ => false

/-- A text that only double quotes can hold. -/
def needsEscapes (text : List Char) : Bool :=
  text.any (fun c => !isPrintable c) || hasPair isSpace isBreak text

/-- Whether a text of several lines may stand as a block of lines. -/
def blockAllowed (text : List Char) : Bool :=
  !needsEscapes text && !(text.getLast?.any isSpace)

/-- Whether a text may stand between single quotes. -/
def singleAllowed (text : List Char) : Bool :=
  !needsEscapes text && !hasPair isBreak isSpace text

/-- Whether a text may stand without quotes, apart from what the word would stand for. -/
def plainAllowed (text : List Char) : Bool :=
  singleAllowed text && !text.any isBreak && !(text.head?.any isSpace) &&
    !(text.getLast?.any isSpace) && !hasMark text

def escapeLetter? (c : Char) : Option Char :=
  match c.toNat with
  | 0x00 => some '0'
  | 0x07 => some 'a'
  | 0x08 => some 'b'
  | 0x09 => some 't'
  | 0x0a => some 'n'
  | 0x0b => some 'v'
  | 0x0c => some 'f'
  | 0x0d => some 'r'
  | 0x1b => some 'e'
  | 0x22 => some '"'
  | 0x5c => some '\\'
  | 0x85 => some 'N'
  | 0xa0 => some '_'
  | 0x2028 => some 'L'
  | 0x2029 => some 'P'
  | _ => none

def doubleChar (c : Char) : String :=
  if isPrintable c && !isBreak c && c != '"' && c != '\\' then String.singleton c
  else
    match escapeLetter? c with
    | some letter => String.ofList ['\\', letter]
    | none =>
      let n := c.toNat
      let digits := if n ≤ 0xff then "x" ++ hexPadded 2 n
        else if n ≤ 0xffff then "u" ++ hexPadded 4 n
        else "U" ++ hexPadded 8 n
      "\\" ++ String.ofList (digits.toList.map fun d =>
        if 'a' ≤ d && d ≤ 'f' then d.toUpper else d)

def writeDouble (text : List Char) : String :=
  "\"" ++ String.join (text.map doubleChar) ++ "\""

def spaces (count : Nat) : List Char :=
  List.replicate count ' '

/-- The inside of single quotes. Behind a line end the text goes on at the given column; a line
feed counts as a line end only when it is doubled. -/
def singleChars (column : Nat) : (broken : Bool) → List Char → List Char
  | broken, [] => if broken then spaces column else []
  | broken, c :: rest =>
    if isBreak c then
      (if !broken && c == '\n' then ['\n'] else []) ++ c :: singleChars column true rest
    else
      (if broken then spaces column else []) ++
        (if c == '\'' then ['\'', '\''] else [c]) ++ singleChars column false rest

def writeSingle (column : Nat) (text : List Char) : String :=
  "'" ++ String.ofList (singleChars column false text) ++ "'"

/-- The lines of a block, the ones with something on them at the given column. -/
def blockChars (column : Nat) : (broken : Bool) → List Char → List Char
  | _, [] => []
  | broken, c :: rest =>
    if isBreak c then c :: blockChars column true rest
    else (if broken then spaces column else []) ++ c :: blockChars column false rest

/-- What the head of a block says about the line ends at its end. -/
def chompMark (text : List Char) : String :=
  match text.reverse with
  | [] => "-"
  | c :: rest =>
    if !isBreak c then "-"
    else
      match rest with
      | [] => "+"
      | d :: _ => if isBreak d then "+" else ""

/-- A text as a block of lines. Where it begins with a blank, the head gives the indentation. -/
def writeBlock (column : Nat) (text : List Char) : String :=
  let hint := if text.head?.any fun c => isSpace c || isBreak c then "2" else ""
  "|" ++ hint ++ chompMark text ++ "\n" ++ String.ofList (blockChars column true text)

/-- A text as a scalar; the lines it takes stand at the given column. -/
def writeText (column : Nat) (text : String) : String :=
  let chars := text.toList
  if chars.contains '\n' then
    if blockAllowed chars then writeBlock column chars else writeDouble chars
  else if !Plain.isTyped text && plainAllowed chars then text
  else if singleAllowed chars then writeSingle column chars
  else writeDouble chars

/-- A scalar; the lines it takes stand at the given column. -/
def writeScalar (column : Nat) : Scalar → String
  | .null => "null"
  | .flag true => "true"
  | .flag false => "false"
  | .whole value => toString value
  | .fractional spelling => spelling
  | .text value => writeText column value
  | .word spelling => spelling
  | .tagged _ _ spelling => writeText column spelling
  | .garbled => "null"

/-- A line end and the spaces up to a column, unless the text before it ended its line. -/
def newline (written : String) (column : Nat) : String :=
  if written.toList.getLast?.any isBreak then String.ofList (spaces column)
  else "\n" ++ String.ofList (spaces column)

mutual

/-- A document behind a list mark, its parts at the given column. -/
def writeItem (column : Nat) : Document → String
  | .leaf scalar => writeScalar column scalar
  | .list [] => "[]"
  | .list items => writeItems column items
  | .object [] => "\x7b\x7d"
  | .object members => writeMembers column members

/-- A document behind the name of a member of an object at the given column. A list stands at that
column too, an object further in. -/
def writeValue (column : Nat) : Document → String
  | .leaf scalar => " " ++ writeScalar (column + 2) scalar
  | .list [] => " []"
  | .list items => "\n" ++ String.ofList (spaces column) ++ writeItems column items
  | .object [] => " \x7b\x7d"
  | .object members =>
    "\n" ++ String.ofList (spaces (column + 2)) ++ writeMembers (column + 2) members

/-- The items of a list, each but the first on a line at the given column. -/
def writeItems (column : Nat) : List Document → String
  | [] => ""
  | [item] => "- " ++ writeItem (column + 2) item
  | item :: items =>
    let written := "- " ++ writeItem (column + 2) item
    written ++ newline written column ++ writeItems column items

/-- The members of an object, each but the first on a line at the given column. -/
def writeMembers (column : Nat) : List (String × Document) → String
  | [] => ""
  | [(name, value)] => writeText column name ++ ":" ++ writeValue column value
  | (name, value) :: members =>
    let written := writeText column name ++ ":" ++ writeValue column value
    written ++ newline written column ++ writeMembers column members

end

def write (document : Document) : String :=
  let written := writeItem 0 document
  written ++ newline written 0

end HostNet.Yaml
