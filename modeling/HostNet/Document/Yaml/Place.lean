import HostNet.Document.Yaml.Character
/-!
Places in a text of the YAML notation, and the gaps of blanks and line ends between its words. A gap
without a line end stands for its blanks; a single line end is a space, of more than one the first
is dropped.
-/
namespace HostNet.Yaml

structure Place where
  /-- How many characters stand before it. -/
  index : Nat
  line : Nat
  column : Nat
  rest : List Char
deriving DecidableEq, Repr

namespace Place

def start (text : List Char) : Place :=
  ⟨0, 0, 0, text⟩

/-- The place behind the given number of characters, none of which ends a line. -/
def advance (place : Place) (count : Nat) : Place :=
  { place with
    index := place.index + count
    column := place.column + count
    rest := place.rest.drop count }

/-- The place behind the characters at the front that are of one kind, none of which ends a line. -/
def advanceWhile (place : Place) (kind : Char → Bool) : Place :=
  place.advance (place.rest.takeWhile kind).length

/-- The place at the start of the next line, where the text goes on as given. -/
def nextLine (place : Place) (rest : List Char) : Place :=
  ⟨place.index + 1, place.line + 1, 0, rest⟩

def skipLine (place : Place) : Place :=
  place.advanceWhile fun c => !isBreak c

/-- The line end at a place, if there is one, and the place behind it. -/
def takeBreak (place : Place) : List Char × Place :=
  match place.rest with
  | c :: rest => if isBreak c then ([c], place.nextLine rest) else ([], place)
  | [] => ([], place)

/-- Three characters of one kind at the start of a line, with the end of a word behind them: the
mark of a document's start or end. -/
def atMarkOf (place : Place) (mark : Char) : Bool :=
  place.column == 0 &&
    match place.rest with
    | a :: b :: c :: rest => a == mark && b == mark && c == mark && endsWord rest
    | _ => false

/-- The mark of a document's start or end stands at the place. -/
def atMark (place : Place) : Bool :=
  place.atMarkOf '-' || place.atMarkOf '.'

/-- The place on the same line where the text goes on as given. -/
def upTo (place : Place) (rest : List Char) : Place :=
  place.advance (place.rest.length - rest.length)

end Place

structure Gap where
  /-- The blanks before the first line end. -/
  blanks : List Char
  breaks : List Char
deriving DecidableEq, Repr

namespace Gap

def isBroken (gap : Gap) : Bool :=
  !gap.breaks.isEmpty

/-- What line ends fold to. Those that are no line feeds all stay. -/
def foldBreaks : List Char → List Char
  | ['\n'] => [' ']
  | '\n' :: more => more
  | breaks => breaks

/-- What a gap inside a scalar stands for. -/
def text (gap : Gap) : List Char :=
  if gap.isBroken then foldBreaks gap.breaks else gap.blanks

end Gap

/-- A gap at the front of a text, in reverse as far as it is read, and the place behind it. Blanks
do not count once a line has ended; a tab before column `least` of a later line indents, which
only spaces can. -/
def readGapFrom (least : Nat) (broken : Bool) (gap : Gap) (index line column : Nat) :
    List Char → Option (Gap × Place)
  | [] => some (⟨gap.blanks.reverse, gap.breaks.reverse⟩, ⟨index, line, column, []⟩)
  | c :: rest =>
    if isGap c then
      if broken && c == '\t' && column < least then none
      else
        let blanks := if broken then gap.blanks else c :: gap.blanks
        readGapFrom least broken { gap with blanks := blanks } (index + 1) line (column + 1) rest
    else if isBreak c then
      readGapFrom least true { gap with breaks := c :: gap.breaks } (index + 1) (line + 1) 0 rest
    else some (⟨gap.blanks.reverse, gap.breaks.reverse⟩, ⟨index, line, column, c :: rest⟩)

/-- The gap at a place, which stands inside a scalar whose lines are at column `least` at least. -/
def Place.readGap (least : Nat) (place : Place) : Option (Gap × Place) :=
  readGapFrom least false ⟨[], []⟩ place.index place.line place.column place.rest

end HostNet.Yaml
