import HostNet.Host.Pass
/-!
Packet-filter chains through the filter tool. The tool reports failures by exit status and output;
they are classified here, once, against the operation that ran into them.
-/
namespace HostNet

/-- One run of the filter tool. A rule is given as one command line. -/
inductive Invocation where
  | create (chain : Chain)
  | flush (chain : Chain)
  | delete (chain : Chain)
  /-- Whether the chain holds the rule. -/
  | check (chain : Chain) (line : String)
  | append (chain : Chain) (line : String)
  | remove (chain : Chain) (line : String)
deriving DecidableEq, Repr

/-- What a successful run gives back. -/
def Invocation.Answer : Invocation → Type
  | check .. => Bool
  | _ => Unit

/-- Why a run failed. -/
inductive ToolFailure where
  | exited (status : Int32) (output : String)
  /-- The tool could not be run. -/
  | notRun (reason : String)
deriving DecidableEq, Repr

/-- A filter tool with state `τ`. -/
abbrev FilterTool (τ : Type) : Type :=
  (invocation : Invocation) → τ → Except ToolFailure invocation.Answer × τ

/-- The failure of an operation on a chain. The tool's output counts without the blanks around
it. -/
def ToolFailure.fault (op : ChainOp) (chain : Chain) : ToolFailure → Fault
  | exited status output => .filter op chain.table chain.name status (Text.trim output)
  | notRun reason => .filter op chain.table chain.name (-1) reason

/-- The tool and the runs of it so far. -/
structure Iptables (τ : Type) where
  tool : τ
  runs : List Invocation

namespace Iptables

variable {τ : Type}

def invoke (tool : FilterTool τ) (invocation : Invocation) (filter : Iptables τ) :
    Except ToolFailure invocation.Answer × Iptables τ :=
  let (answer, state) := tool invocation filter.tool
  (answer, ⟨state, filter.runs ++ [invocation]⟩)

def newChain (tool : FilterTool τ) (chain : Chain) (filter : Iptables τ) :
    Outcome × Iptables τ :=
  let (answer, after) := filter.invoke tool (.create chain)
  (answer.mapError (ToolFailure.fault .create chain), after)

def clearChain (tool : FilterTool τ) (chain : Chain) (filter : Iptables τ) :
    Outcome × Iptables τ :=
  let (answer, after) := filter.invoke tool (.flush chain)
  (answer.mapError (ToolFailure.fault .clear chain), after)

def deleteChain (tool : FilterTool τ) (chain : Chain) (filter : Iptables τ) :
    Outcome × Iptables τ :=
  let (answer, after) := filter.invoke tool (.delete chain)
  (answer.mapError (ToolFailure.fault .delete chain), after)

/-- Append a rule unless the tool finds it in the chain. -/
def appendUnique (tool : FilterTool τ) (chain : Chain) (rule : ChainRule)
    (filter : Iptables τ) : Outcome × Iptables τ :=
  match filter.invoke tool (.check chain rule.line) with
  | (.error failure, after) => (.error (failure.fault .append chain), after)
  | (.ok true, after) => (.ok (), after)
  | (.ok false, after) =>
    let (answer, after) := after.invoke tool (.append chain rule.line)
    (answer.mapError (ToolFailure.fault .append chain), after)

def deleteRule (tool : FilterTool τ) (chain : Chain) (rule : ChainRule)
    (filter : Iptables τ) : Outcome × Iptables τ :=
  let (answer, after) := filter.invoke tool (.remove chain rule.line)
  (answer.mapError (ToolFailure.fault .deleteRule chain), after)

/-- An entry of a script of answers. -/
inductive ScriptedAnswer where
  | success
  /-- The answer to a check; any other run succeeds. -/
  | found (present : Bool)
  | failing (cause : ToolFailure)
deriving DecidableEq, Repr

/-- The answer an entry gives to a run. -/
def ScriptedAnswer.toAnswer : (invocation : Invocation) → ScriptedAnswer →
    Except ToolFailure invocation.Answer
  | _, .failing cause => .error cause
  | .check .., .success => .ok false
  | .check .., .found present => .ok present
  | .create .., _ => .ok ()
  | .flush .., _ => .ok ()
  | .delete .., _ => .ok ()
  | .append .., _ => .ok ()
  | .remove .., _ => .ok ()

/-- The tool that follows a script of answers and succeeds once it is used up. -/
def scripted : FilterTool (List ScriptedAnswer) := fun invocation script =>
  match script with
  | [] => (ScriptedAnswer.toAnswer invocation .success, [])
  | answer :: rest => (answer.toAnswer invocation, rest)

end Iptables

end HostNet
