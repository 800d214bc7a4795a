import HostNet.Rule
import HostNet.Wire.Message
/-!
Rules on the wire: the requests that add and delete one, and the reader for what a dump reports.
-/
namespace HostNet.Wire

/-! Types of rule attributes. -/
namespace RuleAttr

def dst : UInt16 := 1
def src : UInt16 := 2
def iif : UInt16 := 3
def priority : UInt16 := 6
def mark : UInt16 := 10
def suppressGroup : UInt16 := 13
def suppressLength : UInt16 := 14
def table : UInt16 := 15
def mask : UInt16 := 16
def oif : UInt16 := 17
def pad : UInt16 := 18
def protocol : UInt16 := 21

end RuleAttr

structure RuleHeader where
  family : UInt8
  dstLength : UInt8
  srcLength : UInt8
  tos : UInt8
  table : UInt8
  reserved1 : UInt8
  reserved2 : UInt8
  action : UInt8
  flags : UInt32
deriving DecidableEq, Repr

namespace RuleHeader

def size : Nat := 12

def invertFlag : UInt32 := 0x02

def encode (header : RuleHeader) : List UInt8 :=
  [header.family, header.dstLength, header.srcLength, header.tos, header.table,
    header.reserved1, header.reserved2, header.action] ++ Word.bytes32 header.flags

/-- The header at the front of the bytes, and what follows it. -/
def decode? : List UInt8 → Option (RuleHeader × List UInt8)
  | family :: dstLength :: srcLength :: tos :: table :: reserved1 :: reserved2 :: action ::
      f0 :: f1 :: f2 :: f3 :: rest =>
    some (⟨family, dstLength, srcLength, tos, table, reserved1, reserved2, action,
      Word.word32 [f0, f1, f2, f3]⟩, rest)
  | _ => none

/-- A header followed by anything reads back. -/
theorem decode?_encode_append (header : RuleHeader) (rest : List UInt8) :
    decode? (header.encode ++ rest) = some (header, rest) := by
  have hflags := Word.word32_bytes32 header.flags
  simp only [Word.bytes32, Word.littleEndian] at hflags
  simp only [encode, decode?, Word.bytes32, Word.littleEndian, List.cons_append, List.nil_append,
    hflags]

/-- The header that selects a family in a dump request. -/
def ofFamily (family : Family) : RuleHeader :=
  ⟨family.code, 0, 0, 0, 0, 0, 0, 0, 0⟩

end RuleHeader

/-- A table number in its header byte, which is 0 for those that do not fit. -/
def tableByte (table : UInt32) : UInt8 :=
  if table ≤ 255 then table.toUInt8 else 0

/-- The attribute of a table number that does not fit the header byte. -/
def tableAttrs (kind : UInt16) (table : UInt32) : List Attr :=
  if table ≤ 255 then [] else [Attr.word kind table]

/-- Bytes of an interface name with its NUL. -/
def interfaceNameSize : Nat := 16

/-- A name the kernel takes for an interface: 1 to 15 bytes, no NUL. -/
def validInterfaceName (name : String) : Bool :=
  !name.isEmpty && (Text.toBytes name).length < interfaceNameSize && !name.toList.contains '\x00'

def interfaceNameFault (name : String) : Fault :=
  .invalidMessage ("invalid interface name " ++ Text.quoted name ++ ": must be 1 to 15 bytes")

/-- The first name the kernel does not take. -/
def checkInterfaceNames (names : List (Option String)) : Except Fault Unit :=
  match names.find? fun name? => name?.any fun name => !validInterfaceName name with
  | some (some name) => .error (interfaceNameFault name)
  | _ => .ok ()

/-- The two requests about one rule. -/
inductive RuleVerb where
  | add
  | delete
deriving DecidableEq, Repr

namespace RuleVerb

def kind : RuleVerb → UInt16
  | add => MessageKind.newRule
  | delete => MessageKind.delRule

/-- The flags of the request. Adding fails where the rule exists. -/
def flags : RuleVerb → UInt16
  | add => MessageFlag.request ||| MessageFlag.ack ||| MessageFlag.create ||| MessageFlag.exclusive
  | delete => MessageFlag.request ||| MessageFlag.ack

end RuleVerb

def ruleHeader (rule : Rule) : RuleHeader where
  family := rule.family.code
  dstLength := (rule.dst.map Cidr.lengthByte).getD 0
  srcLength := (rule.src.map Cidr.lengthByte).getD 0
  tos := rule.tos
  table := tableByte rule.table
  reserved1 := 0
  reserved2 := 0
  action := rule.action.code
  flags := if rule.inverted then RuleHeader.invertFlag else 0

/-- Mark and mask. A mask travels only with a mark. -/
def markAttrs (mark mask : Option UInt32) : List Attr :=
  match mark, mask with
  | none, _ => []
  | some mark, none => [Attr.word RuleAttr.mark mark]
  | some mark, some mask => [Attr.word RuleAttr.mark mark, Attr.word RuleAttr.mask mask]

/-- The attributes of a rule. Prefixes travel without their host bits. -/
def ruleAttrs (rule : Rule) : List Attr :=
  (rule.priority.map (Attr.word RuleAttr.priority)).toList ++
  (rule.src.map fun src => Attr.address RuleAttr.src src.network).toList ++
  (rule.dst.map fun dst => Attr.address RuleAttr.dst dst.network).toList ++
  (rule.iif.map (Attr.text RuleAttr.iif)).toList ++
  (rule.oif.map (Attr.text RuleAttr.oif)).toList ++
  markAttrs rule.mark rule.mask ++
  tableAttrs RuleAttr.table rule.table

def ruleRequest (verb : RuleVerb) (rule : Rule) : Except Fault Request := do
  checkInterfaceNames [rule.iif, rule.oif]
  return ⟨verb.kind, verb.flags, (ruleHeader rule).encode, ruleAttrs rule⟩

def ruleDumpRequest (family : Family) : Request where
  kind := MessageKind.getRule
  flags := MessageFlag.request ||| MessageFlag.dump
  fixed := (RuleHeader.ofFamily family).encode
  attrs := []

/-- Why the reader gives up on a reported rule. -/
inductive Unread where
  /-- The rule has a part that is not modelled, so it is no rule of ours. -/
  | foreign
  /-- The message is malformed. -/
  | malformed (fault : Fault)
deriving DecidableEq, Repr

/-- The value that suppression attributes have where nothing is suppressed. -/
def notSuppressed : UInt32 := 0xffffffff

/-- The prefix a payload reports, if it holds an address. -/
def reportedPrefix (header : RuleHeader) (length : UInt8) (payload : List UInt8) :
    Except Unread (Option Cidr) :=
  match Attr.address? header.family payload with
  | none => .ok none
  | some address =>
    match Cidr.make? address length.toNat with
    | some cidr => .ok (some cidr)
    | none =>
      .error (.malformed (.invalidMessage
        ("bad rule prefix " ++ address.text ++ "/" ++ toString length.toNat ++
          ": invalid prefix")))

/-- The rule after one more reported attribute. -/
def absorb (header : RuleHeader) (rule : Rule) (attr : Attr) : Except Unread Rule :=
  let payload := attr.payload
  if attr.kind = RuleAttr.priority then .ok { rule with priority := Attr.word? payload }
  else if attr.kind = RuleAttr.src then do
    return { rule with src := ← reportedPrefix header header.srcLength payload }
  else if attr.kind = RuleAttr.dst then do
    return { rule with dst := ← reportedPrefix header header.dstLength payload }
  else if attr.kind = RuleAttr.iif then .ok { rule with iif := Attr.text? payload }
  else if attr.kind = RuleAttr.oif then .ok { rule with oif := Attr.text? payload }
  else if attr.kind = RuleAttr.mark then .ok { rule with mark := Attr.word? payload }
  else if attr.kind = RuleAttr.mask then .ok { rule with mask := Attr.word? payload }
  else if attr.kind = RuleAttr.table then
    .ok { rule with table := (Attr.word? payload).getD rule.table }
  else if attr.kind = RuleAttr.suppressLength ∨ attr.kind = RuleAttr.suppressGroup then
    if Attr.word? payload = some notSuppressed then .ok rule else .error .foreign
  else if attr.kind = RuleAttr.protocol ∨ attr.kind = RuleAttr.pad then .ok rule
  else .error .foreign

/-- The rule after all reported attributes, in their order. -/
def absorbAll (header : RuleHeader) : Rule → List Attr → Except Unread Rule
  | rule, [] => .ok rule
  | rule, attr :: attrs =>
    match absorb header rule attr with
    | .ok rule => absorbAll header rule attrs
    | .error unread => .error unread

/-- The kernel reports a zero mark with a zero mask where there is none. -/
def dropZeroMark (rule : Rule) : Rule :=
  if rule.mark = some 0 ∧ rule.mask.getD 0 = 0 then { rule with mark := none, mask := none }
  else rule

/-- The rule a header stands for before any attribute. -/
def headerRule (header : RuleHeader) (family : Family) (action : RuleAction) : Rule :=
  { Rule.ofFamily family with
    action := action
    table := header.table.toUInt32
    tos := header.tos
    inverted := header.flags &&& RuleHeader.invertFlag != 0 }

def readRuleParts (header : RuleHeader) (attrs : List Attr) : Except Unread Rule :=
  match Family.ofCode? header.family, RuleAction.ofCode? header.action with
  | some family, some action =>
    (absorbAll header (headerRule header family action) attrs).map dropZeroMark
  | _, _ => .error .foreign

/-- The rule in the payload of a dump message, or none where it has a family, an action or a
selector that is not modelled. -/
def readRule (payload : List UInt8) : Except Fault (Option Rule) :=
  match RuleHeader.decode? payload with
  | none => .error (.truncated RuleHeader.size payload.length)
  | some (header, rest) =>
    match readRuleParts header (Attr.readAll rest) with
    | .ok rule => .ok (some rule)
    | .error .foreign => .ok none
    | .error (.malformed fault) => .error fault

end HostNet.Wire
