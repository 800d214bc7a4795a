import HostNet.Document.Yaml.Place
/-!
Scalars between quotes in the YAML notation. Single quotes know no escapes but the doubled quote;
double quotes have escapes, and a backslash at the end of a line joins it to the next one.
-/
namespace HostNet.Yaml

open HostNet.Text

/-- The character that a letter stands for behind a backslash. -/
def escape? : Char → Option Char
  | '0' => some '\x00'
  | 'a' => some '\x07'
  | 'b' => some '\x08'
  | 't' => some '\t'
  | '\t' => some '\t'
  | 'n' => some '\n'
  | 'v' => some '\x0b'
  | 'f' => some '\x0c'
  | 'r' => some '\r'
  | 'e' => some '\x1b'
  | ' ' => some ' '
  | '"' => some '"'
  | '/' => some '/'
  | '\\' => some '\\'
  | 'N' => some '\u0085'
  | '_' => some '\u00a0'
  | 'L' => some '\u2028'
  | 'P' => some '\u2029'
  | _ => none

/-- How many digits follow a letter that gives a character by number. -/
def numberWidth? : Char → Option Nat
  | 'x' => some 2
  | 'u' => some 4
  | 'U' => some 8
  | _ => none

def charOfNumber? (n : Nat) : Option Char :=
  if h : n.isValidChar then some (Char.ofNatAux n h) else none

/-- The character behind a backslash, and how many characters stand for it. -/
def readEscape? : List Char → Option (Char × Nat)
  | [] => none
  | letter :: rest =>
    match numberWidth? letter with
    | none => (escape? letter).map fun c => (c, 1)
    | some width =>
      let digits := rest.take width
      if digits.length = width ∧ digits.all (isDigit 16) then
        (charOfNumber? (ofDigits 16 digits)).map fun c => (c, width + 1)
      else none

/-- The rest of a scalar between single quotes, and the place behind it. The characters so far are
kept in reverse. -/
def readSingle (fuel : Nat) (sofar : List Char) (place : Place) : Option (String × Place) :=
  match fuel with
  | 0 => none
  | fuel + 1 =>
    if place.atMark then none
    else
      match place.rest with
      | [] => none
      | '\'' :: '\'' :: _ => readSingle fuel ('\'' :: sofar) (place.advance 2)
      | '\'' :: _ => some (String.ofList sofar.reverse, place.advance 1)
      | c :: _ =>
        if isGap c || isBreak c then
          match place.readGap 0 with
          | none => none
          | some (gap, after) => readSingle fuel (gap.text.reverse ++ sofar) after
        else readSingle fuel (c :: sofar) (place.advance 1)

/-- The rest of a scalar between double quotes, and the place behind it. The characters so far are
kept in reverse. Of the line ends behind a joined one, all stay. -/
def readDouble (fuel : Nat) (sofar : List Char) (place : Place) : Option (String × Place) :=
  match fuel with
  | 0 => none
  | fuel + 1 =>
    if place.atMark then none
    else
      match place.rest with
      | [] => none
      | '"' :: _ => some (String.ofList sofar.reverse, place.advance 1)
      | '\\' :: rest =>
        if rest.head?.any isBreak then
          match (place.advance 1).takeBreak.2.readGap 0 with
          | none => none
          | some (gap, after) => readDouble fuel (gap.breaks.reverse ++ sofar) after
        else
          match readEscape? rest with
          | none => none
          | some (c, count) => readDouble fuel (c :: sofar) (place.advance (count + 1))
      | c :: _ =>
        if isGap c || isBreak c then
          match place.readGap 0 with
          | none => none
          | some (gap, after) => readDouble fuel (gap.text.reverse ++ sofar) after
        else readDouble fuel (c :: sofar) (place.advance 1)

/-- The scalar that begins with a quote at a place, and the place behind it. -/
def readQuoted (fuel : Nat) (place : Place) : Option (String × Place) :=
  match place.rest with
  | '"' :: _ => readDouble fuel [] (place.advance 1)
  | _ => readSingle fuel [] (place.advance 1)

end HostNet.Yaml
