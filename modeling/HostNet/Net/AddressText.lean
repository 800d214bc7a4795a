import HostNet.Net.Address
import HostNet.Text.Digits
/-!
The written form of addresses: dotted octets for IPv4, and for IPv6 eight hexadecimal groups of
which the first longest run of zeros is left out. Reading takes every accepted spelling, writing
gives one.
-/
namespace HostNet.Address

open HostNet.Text

/-- A run of digits at the front, of bounded length and value, and what follows it. -/
def readNumber (radix maxDigits bound : Nat) (leadingZeros : Bool) (text : List Char) :
    Option (Nat × List Char) :=
  let (digits, rest) := splitDigits radix text
  let value := ofDigits radix digits
  if digits.isEmpty || maxDigits < digits.length || bound < value then none
  else if !leadingZeros && digits.head? == some '0' && 1 < digits.length then none
  else some (value, rest)

def readChar (wanted : Char) : List Char → Option (List Char)
  | [] => none
  | c :: rest => if c = wanted then some rest else none

/-- One octet of a dotted address: a decimal without leading zeros. -/
def readOctet (text : List Char) : Option (Nat × List Char) :=
  readNumber 10 3 255 false text

/-- The given number of octets, each after a dot. -/
def readDottedOctets : (count : Nat) → List Char → Option (List Nat × List Char)
  | 0, text => some ([], text)
  | count + 1, text => do
    let text ← readChar '.' text
    let (octet, text) ← readOctet text
    let (octets, text) ← readDottedOctets count text
    return (octet :: octets, text)

def readDotted (text : List Char) : Option (Nat × List Char) := do
  let (octet, text) ← readOctet text
  let (octets, text) ← readDottedOctets 3 text
  return ((octet :: octets).foldl (fun value o => value * 256 + o) 0, text)

/-- The colon before a group, which the first one lacks. -/
def readGroupMark (first : Bool) (text : List Char) : Option (List Char) :=
  if first then some text else readChar ':' text

/-- Up to `room` colon-separated groups of 16 bits. Where two groups of room are left, a dotted
address may stand for both, and it is the last one then; the flag tells whether it did. -/
def readGroups : (room : Nat) → (first : Bool) → List Char → List Nat × Bool × List Char
  | 0, _, text => ([], false, text)
  | room + 1, first, text =>
    let dotted? := do
      if room = 0 then none
      readDotted (← readGroupMark first text)
    match dotted? with
    | some (value, rest) => ([value / 65536, value % 65536], true, rest)
    | none =>
      match (do readNumber 16 4 65535 true (← readGroupMark first text)) with
      | none => ([], false, text)
      | some (group, rest) =>
        let (groups, dotted, rest) := readGroups room false rest
        (group :: groups, dotted, rest)

def ofGroups (groups : List Nat) : Nat :=
  groups.foldl (fun value group => value * 65536 + group) 0

/-- An IPv6 address at the front of a text, and what follows it. -/
def readColons (text : List Char) : Option (Nat × List Char) :=
  let (before, dotted, rest) := readGroups 8 true text
  if before.length = 8 then some (ofGroups before, rest)
  else if dotted then none
  else do
    let rest ← readChar ':' rest
    let rest ← readChar ':' rest
    let (after, _, rest) := readGroups (7 - before.length) true rest
    let zeros := List.replicate (8 - before.length - after.length) 0
    return (ofGroups (before ++ zeros ++ after), rest)

def readV4? (text : String) : Option Ipv4 :=
  match readDotted text.toList with
  | some (value, []) => some (BitVec.ofNat _ value)
  | _ => none

def readV6? (text : String) : Option (BitVec 128) :=
  match readColons text.toList with
  | some (value, []) => some (BitVec.ofNat _ value)
  | _ => none

def readAs? (family : Family) (text : String) : Option Address :=
  match family with
  | .inet => (readV4? text).map (⟨.inet, ·⟩)
  | .inet6 => (readV6? text).map (⟨.inet6, ·⟩)

def read? (text : String) : Option Address :=
  readAs? .inet text <|> readAs? .inet6 text

def dotted (n : Nat) : String :=
  ".".intercalate ((Word.bigEndian 4 n).map fun octet => toString octet.toNat)

/-- The eight 16-bit groups of an IPv6 address. -/
def groups (n : Nat) : List Nat :=
  (List.range 8).map fun i => n / Nat.pow 65536 (7 - i) % 65536

/-- Start and length of the first longest run of zeros. -/
def longestZeroRun (groups : List Nat) : Nat × Nat :=
  let runFrom := fun start => ((groups.drop start).takeWhile (· == 0)).length
  (List.range groups.length).foldl
    (fun best start => if best.2 < runFrom start then (start, runFrom start) else best) (0, 0)

/-- Groups in hexadecimal, joined by colons. -/
def joinGroups (groups : List Nat) : String :=
  ":".intercalate (groups.map hex)

/-- The written form of an IPv6 address. An IPv4-mapped one shows its IPv4 part dotted. -/
def colons (n : Nat) : String :=
  if n / 0x100000000 = 0xffff then "::ffff:" ++ dotted (n % 0x100000000)
  else
    let all := groups n
    let (start, length) := longestZeroRun all
    if 1 < length then
      joinGroups (all.take start) ++ "::" ++ joinGroups (all.drop (start + length))
    else joinGroups all

def text : Address → String
  | ⟨.inet, bits⟩ => dotted bits.toNat
  | ⟨.inet6, bits⟩ => colons bits.toNat

end HostNet.Address
