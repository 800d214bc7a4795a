import HostNet.Chain
import HostNet.Fault
import HostNet.Route
/-!
The calls a host takes, each with the type of its answer, and hosts as what answers them. A host
is a state and a function on it; whether the state is a kernel's tables, a script of datagrams or
a directory is the business of each host.
-/
namespace HostNet

inductive Call where
  /-- Set a kernel parameter. The answer is the previous value. -/
  | setSysctl (key value : String)
  | addRoute (route : Route)
  | delRoute (route : Route)
  | addRule (rule : Rule)
  | delRule (rule : Rule)
  /-- The answer is the family's rules in the kernel's order. -/
  | listRules (family : Family)
  | newChain (chain : Chain)
  /-- Remove every rule of a chain. -/
  | clearChain (chain : Chain)
  /-- Remove an empty chain. -/
  | deleteChain (chain : Chain)
  /-- Append a rule unless the chain holds it. -/
  | appendUnique (chain : Chain) (rule : ChainRule)
  | deleteRule (chain : Chain) (rule : ChainRule)
deriving DecidableEq, Repr

/-- The operation a call performs, without its operands. -/
inductive CallKind where
  | setSysctl
  | addRoute
  | delRoute
  | addRule
  | delRule
  | listRules
  | newChain
  | clearChain
  | deleteChain
  | appendUnique
  | deleteRule
deriving DecidableEq, Repr

namespace Call

def kind : Call → CallKind
  | setSysctl .. => .setSysctl
  | addRoute .. => .addRoute
  | delRoute .. => .delRoute
  | addRule .. => .addRule
  | delRule .. => .delRule
  | listRules .. => .listRules
  | newChain .. => .newChain
  | clearChain .. => .clearChain
  | deleteChain .. => .deleteChain
  | appendUnique .. => .appendUnique
  | deleteRule .. => .deleteRule

/-- What a successful call gives back. -/
def Answer : Call → Type
  | setSysctl .. => String
  | listRules .. => List Rule
  | _ => Unit

/-- What a call gives back: an answer, or why there is none. -/
abbrev Reply (call : Call) : Type :=
  Except Fault call.Answer

end Call

/-- A host with state `σ`. -/
abbrev Host (σ : Type) :=
  (call : Call) → σ → call.Reply × σ

end HostNet
