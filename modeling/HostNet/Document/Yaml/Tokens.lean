import HostNet.Document.Yaml.Block
import HostNet.Document.Yaml.Plain
import HostNet.Document.Yaml.Quoted
import HostNet.Document.Yaml.Token
/-!
The tokens of a text in the YAML notation. Whether a scalar or a collection in brackets is the name
of a member shows only at the colon behind it, so the place where a name may have begun is kept
until then. A name stands on one line and is not longer than 1024 characters.
-/
namespace HostNet.Yaml

/-- A place where a name may have begun. -/
structure PossibleName where
  /-- At its column nothing but a name can stand. -/
  required : Bool
  /-- How many tokens stand before it. -/
  count : Nat
  index : Nat
  line : Nat
  column : Nat
deriving DecidableEq, Repr

/-- How far a name and the gap behind it may reach. -/
def nameLimit : Nat := 1024

/-- Whether the colon of a name cannot stand at a place. -/
def PossibleName.isPassed (name : PossibleName) (place : Place) : Bool :=
  name.line < place.line || name.index + nameLimit < place.index

/-- A text that is partly read. -/
structure Scan where
  place : Place
  /-- The tokens so far, in reverse. -/
  tokens : List Token
  count : Nat
  /-- The columns of the block collections around the place, innermost first. -/
  columns : List Nat
  /-- Whether a name or a block collection may begin. -/
  fresh : Bool
  /-- Where a name may have begun in the innermost collection. -/
  name : Option PossibleName
  /-- Where names may have begun in the collections around the brackets that are open. -/
  outer : List (Option PossibleName)
deriving DecidableEq, Repr

namespace Scan

def start (text : List Char) : Scan :=
  ⟨.start text, [], 0, [], true, none, []⟩

def inFlow (scan : Scan) : Bool :=
  !scan.outer.isEmpty

/-- The least column at which the content of the innermost block collection stands. -/
def least (scan : Scan) : Nat :=
  match scan.columns with
  | [] => 0
  | column :: _ => column + 1

def push (scan : Scan) (token : Token) : Scan :=
  { scan with
    tokens := token :: scan.tokens
    count := scan.count + 1 }

/-- One more token, of the given number of characters. -/
def pushMark (scan : Scan) (token : Token) (size : Nat) : Scan :=
  { scan.push token with place := scan.place.advance size }

/-- One more token behind as many others as given. -/
def insert (scan : Scan) (count : Nat) (token : Token) : Scan :=
  let later := scan.count - count
  { scan with
    tokens := scan.tokens.take later ++ token :: scan.tokens.drop later
    count := scan.count + 1 }

/-- The place of the next character that means something. Line ends let names begin, but not inside
brackets; where a name may begin, a tab is not skipped, since it cannot indent. -/
def skipFrom (flow fresh comment : Bool) (index line column : Nat) : List Char → Bool × Place
  | [] => (fresh, ⟨index, line, column, []⟩)
  | c :: rest =>
    if isBreak c then skipFrom flow (fresh || !flow) false (index + 1) (line + 1) 0 rest
    else if comment || isSpace c || (c == '\t' && (flow || !fresh)) ||
        (isOrderMark c && column == 0) then
      skipFrom flow fresh comment (index + 1) line (column + 1) rest
    else if c == '#' then skipFrom flow fresh true (index + 1) line (column + 1) rest
    else (fresh, ⟨index, line, column, c :: rest⟩)

def skip (scan : Scan) : Scan :=
  let place := scan.place
  let (fresh, place) :=
    skipFrom scan.inFlow scan.fresh false place.index place.line place.column place.rest
  { scan with place, fresh }

/-- A place where a name may have begun, unless its colon cannot follow any more. -/
def stillPossible? (place : Place) : Option PossibleName → Option (Option PossibleName)
  | none => some none
  | some name =>
    if !name.isPassed place then some (some name)
    else if name.required then none
    else some none

def checkNames? (scan : Scan) : Option Scan := do
  let name ← stillPossible? scan.place scan.name
  let outer ← scan.outer.mapM (stillPossible? scan.place)
  return { scan with name, outer }

/-- No name has begun in the innermost collection. -/
def dropName? (scan : Scan) : Option Scan :=
  if scan.name.any (·.required) then none else some { scan with name := none }

/-- A name may begin here, if any may. -/
def noteName? (scan : Scan) : Option Scan :=
  if scan.fresh then
    let place := scan.place
    let required := !scan.inFlow && scan.columns.head? == some place.column
    scan.dropName?.map fun scan =>
      { scan with name := some ⟨required, scan.count, place.index, place.line, place.column⟩ }
  else some scan

/-- The tokens of block collections that end, and the columns that stay: those before `bound`. -/
def endBlocks (bound : Nat) : (columns : List Nat) → List Token × List Nat
  | [] => ([], [])
  | column :: columns =>
    if bound ≤ column then
      let (ends, left) := endBlocks bound columns
      (.blockEnd :: ends, left)
    else ([], column :: columns)

/-- Block collections end whose column is not before `bound`. Inside brackets none ends. -/
def leave (scan : Scan) (bound : Nat) : Scan :=
  if scan.inFlow then scan
  else
    let (ends, columns) := endBlocks bound scan.columns
    { scan with
      tokens := ends ++ scan.tokens
      count := scan.count + ends.length
      columns }

/-- A block collection begins at a column with the token behind as many others as given, unless it
has begun there. Inside brackets none begins. -/
def enter (scan : Scan) (column count : Nat) (token : Token) : Scan :=
  if scan.inFlow || column < scan.least then scan
  else { scan.insert count token with columns := column :: scan.columns }

def documentMark? (scan : Scan) (token : Token) : Option Scan := do
  let scan ← (scan.leave 0).dropName?
  return { scan.pushMark token 3 with fresh := false }

def directive? (fuel : Nat) (scan : Scan) : Option Scan := do
  let scan ← (scan.leave 0).dropName?
  let place := scan.place.advance 1
  let (token, rest) ← readDirective fuel place.rest
  let place ← (place.upTo rest).behindHead?
  return { scan.push token with place, fresh := false }

def openBracket? (scan : Scan) (token : Token) : Option Scan :=
  scan.noteName?.map fun scan =>
    { scan.pushMark token 1 with
      outer := scan.name :: scan.outer
      name := none
      fresh := true }

def closeBracket? (scan : Scan) (token : Token) : Option Scan :=
  scan.dropName?.map fun scan =>
    { scan.pushMark token 1 with
      outer := scan.outer.tail
      name := scan.outer.head?.join
      fresh := false }

def comma? (scan : Scan) : Option Scan :=
  scan.dropName?.map fun scan => { scan.pushMark .comma 1 with fresh := true }

/-- The mark of a block list's item. Inside brackets it is a token too, though it means nothing
there. -/
def item? (scan : Scan) : Option Scan :=
  if !scan.inFlow && !scan.fresh then none
  else
    (scan.enter scan.place.column scan.count .blockListStart).dropName?.map fun scan =>
      { scan.pushMark .item 1 with fresh := true }

/-- The mark of a name that would not show otherwise. -/
def nameMark? (scan : Scan) : Option Scan :=
  if !scan.inFlow && !scan.fresh then none
  else
    (scan.enter scan.place.column scan.count .blockObjectStart).dropName?.map fun scan =>
      { scan.pushMark .name 1 with fresh := !scan.inFlow }

/-- A colon: what stands before it is a name, where one may have begun. -/
def colon? (scan : Scan) : Option Scan :=
  match scan.name with
  | some name =>
    let scan := scan.insert name.count .name
    let scan := scan.enter name.column name.count .blockObjectStart
    some { scan.pushMark .value 1 with name := none, fresh := false }
  | none =>
    if !scan.inFlow && !scan.fresh then none
    else
      let scan := scan.enter scan.place.column scan.count .blockObjectStart
      some { scan.pushMark .value 1 with fresh := !scan.inFlow }

def anchor? (scan : Scan) (token : String → Token) : Option Scan := do
  let scan ← scan.noteName?
  let (name, _) ← readAnchor (scan.place.rest.drop 1)
  return { scan.pushMark (token name) (name.length + 1) with fresh := false }

/-- A tag, with the end of a word behind it. -/
def tag? (fuel : Nat) (scan : Scan) : Option Scan := do
  let scan ← scan.noteName?
  let (tag, behind) ← readTag fuel scan.place.rest
  guard (endsWord behind || (scan.inFlow && behind.head? == some ','))
  return { scan.push (.tag tag) with place := scan.place.upTo behind, fresh := false }

def block? (folded : Bool) (fuel : Nat) (scan : Scan) : Option Scan := do
  let scan ← scan.dropName?
  let (text, place) ← readBlock folded scan.least fuel scan.place
  let form := if folded then ScalarForm.quoted else .literal
  return { scan.push (.scalar form text) with place, fresh := true }

def quoted? (fuel : Nat) (scan : Scan) : Option Scan := do
  let scan ← scan.noteName?
  let (text, place) ← readQuoted fuel scan.place
  return { scan.push (.scalar .quoted text) with place, fresh := false }

def word? (fuel : Nat) (scan : Scan) : Option Scan := do
  let scan ← scan.noteName?
  let word ← readWord scan.inFlow scan.least fuel [] ⟨[], []⟩ scan.place
  return { scan.push (.scalar .word word.text) with place := word.after, fresh := word.broken }

def next? (fuel : Nat) (scan : Scan) : Option Scan :=
  match scan.place.rest with
  | [] => none
  | c :: rest =>
    let flow := scan.inFlow
    if scan.place.column == 0 && c == '%' then scan.directive? fuel
    else if scan.place.atMarkOf '-' then scan.documentMark? .documentStart
    else if scan.place.atMarkOf '.' then scan.documentMark? .documentEnd
    else if c == '[' then scan.openBracket? .listStart
    else if c == '\x7b' then scan.openBracket? .objectStart
    else if c == ']' then scan.closeBracket? .listEnd
    else if c == '\x7d' then scan.closeBracket? .objectEnd
    else if c == ',' then scan.comma?
    else if c == '-' && endsWord rest then scan.item?
    else if c == '?' && (flow || endsWord rest) then scan.nameMark?
    else if c == ':' && (flow || endsWord rest) then scan.colon?
    else if c == '*' then scan.anchor? .alias
    else if c == '&' then scan.anchor? .anchor
    else if c == '!' then scan.tag? fuel
    else if c == '|' && !flow then scan.block? false fuel
    else if c == '>' && !flow then scan.block? true fuel
    else if c == '\'' || c == '"' then scan.quoted? fuel
    else if startsWord flow (c :: rest) then scan.word? fuel
    else none

/-- All tokens from here to the end of the text, where every collection that was set by indentation
ends. -/
def tokens? (fuel : Nat) (scan : Scan) : Option (List Token) :=
  match fuel with
  | 0 => none
  | fuel + 1 =>
    match scan.skip.checkNames? with
    | none => none
    | some scan =>
      let scan := scan.leave (scan.place.column + 1)
      if scan.place.rest.isEmpty then
        (scan.leave 0).dropName?.map fun scan => scan.tokens.reverse
      else
        match scan.next? fuel with
        | none => none
        | some scan => scan.tokens? fuel

end Scan

def tokens? (text : List Char) : Option (List Token) :=
  (Scan.start text).tokens? (text.length + 2)

end HostNet.Yaml
