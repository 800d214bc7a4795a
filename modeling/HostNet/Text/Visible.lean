/-!
Texts without terminal control: control characters other than ASCII blanks are left out, and so are
the sequences that an escape character begins.
-/
namespace HostNet.Text

/-- What is being read of a text. -/
inductive ControlState where
  | outside
  /-- Behind an escape character. -/
  | escape
  /-- Behind the marks that may follow it. -/
  | marks
  /-- The numbers of a control sequence, up to the letter that ends it. -/
  | numbers
  /-- A command with a text, which the bell character ends. -/
  | command
  /-- A string that goes on up to the next escape character. -/
  | string
deriving DecidableEq, Repr

/-- The blanks of ASCII, which show wherever controls take effect. -/
def isAsciiBlank (c : Char) : Bool :=
  [' ', '\t', '\n', '\x0c', '\r'].contains c

/-- What is being read behind a character of a sequence. -/
def ControlState.next (state : ControlState) (c : Char) : ControlState :=
  if c == '\x1b' then escape
  else if c == '\x18' || c == '\x1a' then outside
  else
    match state with
    | outside => outside
    | escape =>
      if c < '\x20' || c == '\x7f' then escape
      else if c < '\x30' then marks
      else if c == '[' then numbers
      else if c == ']' then command
      else if ['P', 'X', '^', '_'].contains c then string
      else outside
    | marks => if c < '\x30' || c == '\x7f' then marks else outside
    | numbers => if c < '\x40' || c == '\x7f' then numbers else outside
    | command => if c == '\x07' then outside else command
    | string => string

/-- Whether control characters take effect. -/
def ControlState.controls : ControlState → Bool
  | outside => true
  | escape => true
  | marks => true
  | numbers => true
  | command => false
  | string => false

/-- What is left of a character beyond ASCII whose first byte a sequence has taken: a replacement
character for each other byte. -/
def remainder (c : Char) : List Char :=
  List.replicate (c.utf8Size - 1) '\ufffd'

/-- What shows of a text. A blank that takes effect ends the sequence it stands in, and so does a
character beyond ASCII. -/
def visibleFrom (state : ControlState) : List Char → List Char
  | [] => []
  | c :: rest =>
    if 0x80 ≤ c.toNat then
      (if state = .outside then [c] else remainder c) ++ visibleFrom .outside rest
    else if (state = .outside && '\x20' ≤ c && c != '\x7f') ||
        (isAsciiBlank c && c != ' ' && state.controls) then
      c :: visibleFrom .outside rest
    else visibleFrom (state.next c) rest

def visible (text : String) : String :=
  String.ofList (visibleFrom .outside text.toList)

end HostNet.Text
