/-!
Numbers as digits: reading a run of digits at the front of a text, and writing hexadecimal.
-/
namespace HostNet.Text

/-- The value of a digit, letters of either case standing for ten and above. -/
def digitValue? (radix : Nat) (c : Char) : Option Nat :=
  let n := c.toNat
  let value? :=
    if 48 ≤ n ∧ n ≤ 57 then some (n - 48)
    else if 97 ≤ n ∧ n ≤ 122 then some (n - 87)
    else if 65 ≤ n ∧ n ≤ 90 then some (n - 55)
    else none
  value?.filter (· < radix)

def isDigit (radix : Nat) (c : Char) : Bool :=
  (digitValue? radix c).isSome

/-- The number a run of digits stands for, most significant digit first. -/
def ofDigits (radix : Nat) (digits : List Char) : Nat :=
  digits.foldl (fun value c => value * radix + (digitValue? radix c).getD 0) 0

/-- The digits at the front of a text, and what follows them. -/
def splitDigits (radix : Nat) (text : List Char) : List Char × List Char :=
  (text.takeWhile (isDigit radix), text.dropWhile (isDigit radix))

/-- A whole text of digits with an optional plus sign, read as a number. -/
def readNatural? (text : List Char) : Option Nat :=
  let digits :=
    match text with
    | '+' :: rest => rest
    | _ => text
  if digits.isEmpty || !digits.all (isDigit 10) then none else some (ofDigits 10 digits)

/-- Lower-case hexadecimal without leading zeros. -/
def hex (n : Nat) : String :=
  String.ofList (Nat.toDigits 16 n)

/-- Lower-case hexadecimal of at least `width` digits. -/
def hexPadded (width n : Nat) : String :=
  let digits := Nat.toDigits 16 n
  String.ofList (List.replicate (width - digits.length) '0' ++ digits)

end HostNet.Text
