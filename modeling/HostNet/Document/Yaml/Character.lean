import HostNet.Text.Digits
/-!
The kinds of characters that the YAML notation tells apart.
-/
namespace HostNet.Yaml

open HostNet.Text

/-- Whether a character may stand in a text at all. -/
def isAllowed (c : Char) : Bool :=
  let n := c.toNat
  n == 0x09 || n == 0x0a || n == 0x0d || (0x20 ≤ n && n ≤ 0x7e) || n == 0x85 ||
    (0xa0 ≤ n && n ≤ 0xfffd) || 0x10000 ≤ n

/-- Whether a character is written as it is. -/
def isPrintable (c : Char) : Bool :=
  let n := c.toNat
  n == 0x0a || (0x20 ≤ n && n ≤ 0x7e) || (0xa0 ≤ n && n ≤ 0xfffd && n != 0xfeff) || 0x10000 ≤ n

/-- Whether a character is the mark of a byte order, which means nothing at the start of a line. -/
def isOrderMark (c : Char) : Bool :=
  c.toNat == 0xfeff

def isSpace (c : Char) : Bool :=
  c == ' '

def isGap (c : Char) : Bool :=
  c == ' ' || c == '\t'

def isBreak (c : Char) : Bool :=
  let n := c.toNat
  n == 0x0a || n == 0x0d || n == 0x85 || n == 0x2028 || n == 0x2029

/-- A word ends before the text: it begins with a blank or a line end, or is over. -/
def endsWord : List Char → Bool
  | [] => true
  | c :: _ => isGap c || isBreak c

def endsLine : List Char → Bool
  | [] => true
  | c :: _ => isBreak c

def isFlowMark (c : Char) : Bool :=
  [',', '[', ']', '\x7b', '\x7d'].contains c

/-- The characters of the name of an anchor, a directive or a family of tags. -/
def isNameChar (c : Char) : Bool :=
  isDigit 36 c || c == '_' || c == '-'

/-- The text with the line ends of one or two control characters as one line feed each. -/
def unifyLines : List Char → List Char
  | [] => []
  | '\r' :: '\n' :: rest => '\n' :: unifyLines rest
  | '\r' :: rest => '\n' :: unifyLines rest
  | '\u0085' :: rest => '\n' :: unifyLines rest
  | c :: rest => c :: unifyLines rest

end HostNet.Yaml
