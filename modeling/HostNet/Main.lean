import HostNet.Agent.Session
import HostNet.Host.Procfs
/-!
The agent as a program: arguments, environment and files go in, text and an exit status come out.
Of the host it reaches the kernel parameters; sockets and the filter tool are not available to it.
-/
namespace HostNet.Agent

def readText (path : String) : IO (Option String) := do
  try
    return some (← IO.FS.readFile path)
  catch _ =>
    return none

def readEnvironment : IO Environment := do
  let values ← [configVariable, nodeVariable].mapM fun name => do
    return (← IO.getEnv name).map fun value => (name, value)
  return values.filterMap id

def readFiles (environment : Environment) (arguments : List String) :
    IO (List (String × Option String)) :=
  match readArguments environment arguments with
  | .run arguments =>
    (arguments.configFile.toList ++ arguments.nodeFile.toList).mapM fun path => do
      return (path, ← readText path)
  | _ => return []

def causeOf : IO.Error → IoCause
  | .noFileOrDirectory .. => .os Errno.noEntry
  | .permissionDenied .. => .os 13
  | _ => .os 5

/-- One file with its content as all the files there are. -/
def soleFile : Files (Except IoCause (List UInt8)) :=
  ⟨fun _ content => content, fun _ content _ => .ok (.ok content)⟩

def readContent (path : String) : IO (Except IoCause (List UInt8)) := do
  try
    return .ok (← IO.FS.readBinFile path).data.toList
  catch error =>
    return .error (causeOf error)

def setParameter (key value : String) : IO (Except Fault String) := do
  let path := Procfs.path Procfs.defaultRoot key
  let before ← readContent path
  let (reply, after) := Procfs.set soleFile Procfs.defaultRoot key value before
  match before, after with
  | .ok old, .ok new =>
    if old = new then return reply
    try
      IO.FS.writeBinFile path ⟨new.toArray⟩
      return reply
    catch error =>
      return .error (.sysctl key (causeOf error))
  | _, _ => return reply

/-- What a call gives that the program has no way to make. -/
def unreachable : Fault :=
  .io (.os 95)

def answer : (call : Call) → IO call.Reply
  | .setSysctl key value => setParameter key value
  | .addRoute _ => return .error unreachable
  | .delRoute _ => return .error unreachable
  | .addRule _ => return .error unreachable
  | .delRule _ => return .error unreachable
  | .listRules _ => return .error unreachable
  | .newChain _ => return .error unreachable
  | .clearChain _ => return .error unreachable
  | .deleteChain _ => return .error unreachable
  | .appendUnique _ _ => return .error unreachable
  | .deleteRule _ _ => return .error unreachable

def perform : Pass → IO Outcome
  | .done outcome => return outcome
  | .call call next => do
    let reply ← answer call
    perform (next reply)

def finish (exit : Exit) : IO UInt32 := do
  IO.print exit.output
  if exit.code = 2 then
    IO.eprintln "error: wrong usage\n\nFor more information, try '--help'."
  for message in exit.complaint.toList do
    IO.eprintln ("Error: " ++ message)
  return UInt32.ofNat exit.code

end HostNet.Agent

open HostNet HostNet.Agent in
/-- The agent on this machine. -/
def main (arguments : List String) : IO UInt32 := do
  let environment ← readEnvironment
  let files ← readFiles environment arguments
  match decide environment (fun path => (files.lookup path).join) arguments with
  | .exit exit => finish exit
  | .perform pass => do
    let outcome ← perform pass
    finish (.ofOutcome outcome)
