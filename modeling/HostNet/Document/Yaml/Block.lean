import HostNet.Document.Yaml.Place
/-!
Blocks of lines in the YAML notation: scalars whose lines stand as they are (literal ones), or are
joined by spaces (folded ones). The head of a block says how far its lines are indented, or their
first lines do, and what becomes of the line ends behind them.
-/
namespace HostNet.Yaml

open HostNet.Text

/-- What becomes of the line ends at the end of a block. -/
inductive Chomp where
  /-- The one of the last line stays. -/
  | clip
  | strip
  | keep
deriving DecidableEq, Repr

/-- The head of a block. -/
structure BlockHead where
  chomp : Chomp
  /-- Indentation beyond that of the surrounding collection, where it is given. -/
  indent : Option Nat
deriving DecidableEq, Repr

def readChomp : List Char → Option Chomp × List Char
  | '-' :: rest => (some .strip, rest)
  | '+' :: rest => (some .keep, rest)
  | text => (none, text)

/-- The digit for the indentation at the front of a text, and what follows it. There is no
indentation of zero. -/
def readIndent : List Char → Option (Option Nat × List Char)
  | '0' :: _ => none
  | c :: rest => if isDigit 10 c then some (digitValue? 10 c, rest) else some (none, c :: rest)
  | [] => some (none, [])

/-- The head of a block behind its first mark, and what follows it. Its parts stand in either
order. -/
def readHead (text : List Char) : Option (BlockHead × List Char) :=
  let (before, text) := readChomp text
  (readIndent text).map fun (indent, text) =>
    match before with
    | some chomp => (⟨chomp, indent⟩, text)
    | none =>
      let (behind, text) := readChomp text
      (⟨behind.getD .clip, indent⟩, text)

/-- The place where the lines of a block begin, behind the blanks and the comment that may follow
its head. -/
def Place.behindHead? (place : Place) : Option Place :=
  let place := place.advanceWhile isGap
  let place := if place.rest.head? == some '#' then place.skipLine else place
  if endsLine place.rest then some place.takeBreak.2 else none

/-- The empty lines before the next line of a block that has something on it. -/
structure Indentation where
  /-- The column of the longest of all these lines, spaces alone. -/
  deepest : Nat
  /-- The ends of the empty ones. -/
  breaks : List Char
  after : Place
deriving DecidableEq, Repr

/-- The empty lines and the spaces at the front of a text, up to the indentation of the block where
it is known. A tab does not indent. -/
def readIndentation (indent : Option Nat) (deepest : Nat) (breaks : List Char)
    (index line column : Nat) : List Char → Option Indentation
  | [] => some ⟨max deepest column, breaks.reverse, ⟨index, line, column, []⟩⟩
  | c :: rest =>
    let inside := indent.all fun indent => column < indent
    if inside && isSpace c then
      readIndentation indent deepest breaks (index + 1) line (column + 1) rest
    else if inside && c == '\t' then none
    else if isBreak c then
      readIndentation indent (max deepest column) (c :: breaks) (index + 1) (line + 1) 0 rest
    else some ⟨max deepest column, breaks.reverse, ⟨index, line, column, c :: rest⟩⟩

def Place.readIndentation (indent : Option Nat) (place : Place) : Option Indentation :=
  Yaml.readIndentation indent 0 [] place.index place.line place.column place.rest

/-- The lines of a block as far as they are read. -/
structure BlockLines where
  /-- Their text in reverse, but for the end of the last line. -/
  text : List Char
  /-- The end of the last line, if it has one. -/
  ending : List Char
  /-- The ends of the empty lines behind it. -/
  breaks : List Char
  /-- Whether the last line begins with a blank; beside such lines nothing folds. -/
  spaced : Bool
  after : Place
deriving DecidableEq, Repr

namespace BlockLines

/-- The line ends before the next line, in order. -/
def between (lines : BlockLines) (folded spaced : Bool) : List Char :=
  if folded && lines.ending == ['\n'] && !lines.spaced && !spaced then
    if lines.breaks.isEmpty then [' '] else lines.breaks
  else lines.ending ++ lines.breaks

def content (lines : BlockLines) (chomp : Chomp) : String :=
  let tail := match chomp with
    | .strip => []
    | .clip => lines.ending
    | .keep => lines.ending ++ lines.breaks
  String.ofList (lines.text.reverse ++ tail)

/-- The rest of the lines of a block, which end where the text does or a line is indented less. -/
def readAll (folded : Bool) (indent fuel : Nat) (lines : BlockLines) : Option BlockLines :=
  match fuel with
  | 0 => none
  | fuel + 1 =>
    let place := lines.after
    if place.column != indent || place.rest.isEmpty then some lines
    else
      let spaced := place.rest.head?.any isGap
      let line := place.rest.takeWhile fun c => !isBreak c
      let (ending, next) := place.skipLine.takeBreak
      match next.readIndentation (some indent) with
      | none => none
      | some ahead =>
        let text := line.reverse ++ ((lines.between folded spaced).reverse ++ lines.text)
        readAll folded indent fuel ⟨text, ending, ahead.breaks, spaced, ahead.after⟩

end BlockLines

/-- The block whose first mark stands at a place, and the place behind it. The content of the
surrounding collection stands at column `least` at least. -/
def readBlock (folded : Bool) (least fuel : Nat) (place : Place) : Option (String × Place) := do
  let place := place.advance 1
  let (head, rest) ← readHead place.rest
  let place ← (place.upTo rest).behindHead?
  let ahead ← place.readIndentation (head.indent.map fun more => (least - 1) + more)
  let indent := match head.indent with
    | some more => (least - 1) + more
    | none => max (max least 1) ahead.deepest
  let lines ← BlockLines.readAll folded indent fuel ⟨[], [], ahead.breaks, false, ahead.after⟩
  return (lines.content head.chomp, lines.after)

end HostNet.Yaml
