import HostNet.Text.Blank
import HostNet.Text.Digits
/-!
What an unquoted word of a document stands for: nothing, a truth value, a whole number, a number
with a fraction, or itself. The readers ask for the one they want; the writer asks whether a text
would be taken for something else and must be quoted.
-/
namespace HostNet.Plain

open HostNet.Text

/-- The words for nothing, but for the empty one. -/
def nullWords : List String :=
  ["null", "Null", "NULL", "~"]

def isNull (word : String) : Bool :=
  word.isEmpty || nullWords.contains word

def flag? (word : String) : Option Bool :=
  if ["true", "True", "TRUE"].contains word then some true
  else if ["false", "False", "FALSE"].contains word then some false
  else none

/-- A whole text of digits as a number. A sign is none. -/
def digits? (radix : Nat) (text : List Char) : Option Nat :=
  if text.isEmpty || !text.all (isDigit radix) then none else some (ofDigits radix text)

/-- Digits behind the mark of their radix. -/
def marked? : List Char → Option Nat
  | '0' :: 'x' :: digits => digits? 16 digits
  | '0' :: 'o' :: digits => digits? 8 digits
  | '0' :: 'b' :: digits => digits? 2 digits
  | _ => none

/-- Decimal digits. A leading zero makes them a text, so that codes keep their zeros. -/
def decimal? : List Char → Option Nat
  | '0' :: _ :: _ => none
  | digits => digits? 10 digits

def dropPlus : List Char → List Char
  | '+' :: rest => rest
  | text => text

/-- The largest number that counts as a whole one. -/
def naturalLimit : Nat := 0xffffffffffffffffffffffffffffffff

def natural? (word : String) : Option Nat :=
  let text := dropPlus word.toList
  ((marked? text).orElse fun _ => decimal? text).filter (· ≤ naturalLimit)

/-- The largest number that may stand behind a minus sign. -/
def negativeLimit : Nat := 0x80000000000000000000000000000000

def negative? (word : String) : Option Int :=
  match word.toList with
  | '-' :: text =>
    (((marked? text).orElse fun _ => decimal? text).filter (· ≤ negativeLimit)).map
      fun n => -(n : Int)
  | _ => none

def integer? (word : String) : Option Int :=
  ((natural? word).map Int.ofNat).orElse fun _ => negative? word

/-- Whether a word is digits that a leading zero keeps from being a number. -/
def isCode (word : String) : Bool :=
  let digits := match word.toList with
    | '-' :: rest => rest
    | text => dropPlus text
  match digits with
  | '0' :: c :: rest => (c :: rest).all (isDigit 10)
  | _ => false

/-- The parts of a decimal number: all its digits as one number, and the power of ten. -/
structure Decimal where
  digits : Nat
  exponent : Int

/-- The exponent behind an `e`, if the text is one. -/
def exponent? : List Char → Option Int
  | [] => some 0
  | c :: rest =>
    if c = 'e' || c = 'E' then
      match rest with
      | '-' :: digits => (digits? 10 digits).map fun n => -(n : Int)
      | _ => (digits? 10 (dropPlus rest)).map fun n => (n : Int)
    else none

/-- A decimal number with digits on at least one side of its point. -/
def unsigned? (text : List Char) : Option Decimal :=
  let (before, rest) := splitDigits 10 text
  let (after, rest) := match rest with
    | '.' :: rest => splitDigits 10 rest
    | _ => ([], rest)
  if before.isEmpty && after.isEmpty then none
  else (exponent? rest).map fun exponent =>
    ⟨ofDigits 10 (before ++ after), exponent - after.length⟩

/-- Numbers from here on are beyond every double-precision number. -/
def doubleLimit : Nat := Nat.pow 2 1024 - Nat.pow 2 970

/-- Whether a double-precision number is near the decimal one. Exponents far out are settled by
the count of digits alone. -/
def Decimal.isFinite (n : Decimal) : Bool :=
  let size := (Nat.toDigits 10 n.digits).length
  if n.digits = 0 then true
  else if n.exponent + size < 300 then true
  else if 400 < n.exponent + size then false
  else if 0 ≤ n.exponent then decide (n.digits * Nat.pow 10 n.exponent.toNat < doubleLimit)
  else decide (n.digits < doubleLimit * Nat.pow 10 (-n.exponent).toNat)

/-- Whether a word is a number with a fraction or an exponent, or one of the words for what is
beyond all numbers. -/
def isFractional (word : String) : Bool :=
  let text := word.toList
  let unsigned := match text with
    | '-' :: rest => rest
    | _ => dropPlus text
  [".inf", ".Inf", ".INF"].contains (String.ofList unsigned) ||
    [".nan", ".NaN", ".NAN"].contains word ||
    ((unsigned? unsigned).map Decimal.isFinite).getD false

/-- Whether a word would be read as something other than itself. -/
def isTyped (word : String) : Bool :=
  isNull word || (flag? word).isSome || (integer? word).isSome || isCode word || isFractional word

end HostNet.Plain
