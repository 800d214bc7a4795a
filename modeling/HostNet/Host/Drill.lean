import HostNet.Host.Memory
/-!
A host in memory with planned failures and a log of the calls made on it. Drills show what a pass
does when any of its calls goes wrong.
-/
namespace HostNet

/-- Tables, the failures to come and the calls so far. -/
structure Drill where
  memory : Memory
  /-- Failures of the next calls of an operation, oldest first. -/
  once : List (CallKind × Fault)
  /-- Failures of every call of an operation; the first entry for it counts. -/
  always : List (CallKind × Fault)
  /-- The calls made, oldest first. -/
  log : List Call
deriving DecidableEq, Repr

namespace Drill

def ofMemory (memory : Memory) : Drill :=
  ⟨memory, [], [], []⟩

/-- One more failure of an operation, after those already planned. -/
def failNext (drill : Drill) (kind : CallKind) (fault : Fault) : Drill :=
  { drill with once := drill.once ++ [(kind, fault)] }

/-- Every call of an operation fails from now on. -/
def failAlways (drill : Drill) (kind : CallKind) (fault : Fault) : Drill :=
  { drill with always := (kind, fault) :: drill.always }

/-- The planned failure of a call, if there is one, and what is planned after it. A permanent
failure comes before those planned once and uses none of them up. -/
def planned (drill : Drill) (kind : CallKind) : Option Fault × Drill :=
  match drill.always.lookup kind with
  | some fault => (some fault, drill)
  | none =>
    match drill.once.lookup kind with
    | some fault => (some fault, { drill with once := drill.once.eraseP (·.1 == kind) })
    | none => (none, drill)

/-- Every call is logged; then it fails as planned, or the tables answer it. -/
def host : Host Drill := fun call drill =>
  match { drill with log := drill.log ++ [call] }.planned call.kind with
  | (some fault, drill) => (.error fault, drill)
  | (none, drill) =>
    let (reply, memory) := Memory.host call drill.memory
    (reply, { drill with memory := memory })

end Drill

end HostNet
