import HostNet.Net.CidrText
/-!
Policy-routing rules, and when two of them count as the same one.
-/
namespace HostNet

def mainTable : UInt32 := 254

def localTable : UInt32 := 255

/-- What a rule does with the traffic it selects. -/
inductive RuleAction where
  | lookup
  | goto
  | nop
  | blackhole
  | unreachable
  | prohibit
deriving DecidableEq, Repr

namespace RuleAction

def code : RuleAction → UInt8
  | lookup => 1
  | goto => 2
  | nop => 3
  | blackhole => 6
  | unreachable => 7
  | prohibit => 8

def name : RuleAction → String
  | lookup => "lookup"
  | goto => "goto"
  | nop => "nop"
  | blackhole => "blackhole"
  | unreachable => "unreachable"
  | prohibit => "prohibit"

def all : List RuleAction :=
  [lookup, goto, nop, blackhole, unreachable, prohibit]

def ofCode? (code : UInt8) : Option RuleAction :=
  all.find? fun action => action.code == code

def ofName? (name : String) : Option RuleAction :=
  all.find? fun action => action.name == name

theorem ofCode?_code (action : RuleAction) : ofCode? action.code = some action := by
  cases action <;> rfl

end RuleAction

/-- A policy-routing rule. Selectors that are absent select everything. -/
structure Rule where
  family : Family
  /-- Absent on adding, the kernel picks one; absent on deleting, any matches. -/
  priority : Option UInt32
  table : UInt32
  action : RuleAction
  src : Option Cidr
  dst : Option Cidr
  iif : Option String
  oif : Option String
  mark : Option UInt32
  mask : Option UInt32
  tos : UInt8
  /-- Select the traffic that the selectors do not match. -/
  inverted : Bool
deriving DecidableEq, Repr

namespace Rule

/-- The rule of a family that selects everything and looks up the main table. -/
def ofFamily (family : Family) : Rule where
  family := family
  priority := none
  table := mainTable
  action := .lookup
  src := none
  dst := none
  iif := none
  oif := none
  mark := none
  mask := none
  tos := 0
  inverted := false

def withPriority (rule : Rule) (priority : UInt32) : Rule :=
  { rule with priority := some priority }

/-- Select a source prefix; the rule takes its family. -/
def fromSource (rule : Rule) (src : Cidr) : Rule :=
  { rule with family := src.family, src := some src }

/-- Select a destination prefix; the rule takes its family. -/
def toDestination (rule : Rule) (dst : Cidr) : Rule :=
  { rule with family := dst.family, dst := some dst }

def onInput (rule : Rule) (name : String) : Rule :=
  { rule with iif := some name }

def onOutput (rule : Rule) (name : String) : Rule :=
  { rule with oif := some name }

def withMark (rule : Rule) (mark : UInt32) : Rule :=
  { rule with mark := some mark }

def withMaskedMark (rule : Rule) (mark mask : UInt32) : Rule :=
  { rule with mark := some mark, mask := some mask }

def lookingUp (rule : Rule) (table : UInt32) : Rule :=
  { rule with table := table, action := .lookup }

/-- Do something else than before. -/
def withAction (rule : Rule) (action : RuleAction) : Rule :=
  { rule with action := action }

def inverting (rule : Rule) : Rule :=
  { rule with inverted := true }

/-- The mask the kernel stores: a mark without one is stored with all ones. -/
def storedMask (rule : Rule) : Option UInt32 :=
  match rule.mark, rule.mask with
  | _, some mask => some mask
  | some _, none => some 0xffffffff
  | none, none => none

/-- The rule without its priority, and with mark and mask as the kernel stores them, where an
absent one is zero. -/
def shape (rule : Rule) : Rule :=
  { rule with
    priority := none
    mark := some (rule.mark.getD 0)
    mask := some (rule.storedMask.getD 0) }

/-- Whether two rules are the same but for the priority. Rules left behind under another priority
count as the same rule, which is what lets duplicates be removed. -/
def same (a b : Rule) : Bool :=
  a.shape == b.shape

def text (rule : Rule) : String :=
  let priority := match rule.priority with
    | some priority => toString priority.toNat ++ ": "
    | none => ""
  let inversion := if rule.inverted then "not " else ""
  let src := match rule.src with
    | some src => "from " ++ src.text
    | none => "from all"
  let dst := match rule.dst with
    | some dst => " to " ++ dst.text
    | none => ""
  let iif := match rule.iif with
    | some name => " iif " ++ name
    | none => ""
  let oif := match rule.oif with
    | some name => " oif " ++ name
    | none => ""
  let mask := match rule.mask with
    | some mask => "/0x" ++ Text.hex mask.toNat
    | none => ""
  let mark := match rule.mark with
    | some mark => " fwmark 0x" ++ Text.hex mark.toNat ++ mask
    | none => ""
  let action := match rule.action with
    | .lookup => " lookup " ++ toString rule.table.toNat
    | action => " " ++ action.name
  priority ++ inversion ++ src ++ dst ++ iif ++ oif ++ mark ++ action

theorem same_iff {a b : Rule} : a.same b = true ↔ a.shape = b.shape := by
  simp [same]

@[simp] theorem same_refl (a : Rule) : a.same a = true := by
  simp [same]

theorem same_comm (a b : Rule) : a.same b = b.same a := by
  rw [Bool.eq_iff_iff, same_iff, same_iff, eq_comm]

theorem same_trans {a b c : Rule} (hab : a.same b = true) (hbc : b.same c = true) :
    a.same c = true := by
  rw [same_iff] at *
  exact hab.trans hbc

end Rule

end HostNet
