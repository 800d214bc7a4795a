import HostNet.Host.Call
/-!
Passes over a host. A pass is a tree: it is over, or it makes a call and goes on from the reply.
The same pass runs on any host, a call at a time, and passes can be interleaved.
-/
namespace HostNet

/-- How a pass ends: well, or with the failure it reports. -/
abbrev Outcome : Type :=
  Except Fault Unit

/-- A computation that reaches the host only through calls. -/
inductive Pass where
  | done (outcome : Outcome)
  | call (call : Call) (next : call.Reply → Pass)

namespace Pass

def run {σ : Type} (host : Host σ) : Pass → σ → Outcome × σ
  | done outcome, state => (outcome, state)
  | call c next, state =>
    let (reply, state) := host c state
    (next reply).run host state

/-- The first pass, and the second one after it if it ended well. -/
def andThen : Pass → Pass → Pass
  | done (.ok ()), second => second
  | done (.error fault), _ => done (.error fault)
  | call c next, second => call c fun reply => (next reply).andThen second

/-- The passes in order, up to the first that fails. -/
def inOrder : List Pass → Pass
  | [] => done (.ok ())
  | pass :: passes => pass.andThen (inOrder passes)

/-- A failure of the given nature counts as success. -/
def tolerate (benign : Fault → Bool) : Except Fault Unit → Outcome
  | .ok () => .ok ()
  | .error fault => if benign fault then .ok () else .error fault

/-- The pass of one call without an answer. -/
def attempt (c : Call) (settle : c.Reply → Outcome) : Pass :=
  call c fun reply => done (settle reply)

/-- Running two passes one after the other is running the first, and the second from where the
first left the host. -/
theorem run_andThen {σ : Type} (host : Host σ) (first second : Pass) (state : σ) :
    (first.andThen second).run host state =
      match first.run host state with
      | (.ok (), after) => second.run host after
      | (.error fault, after) => (.error fault, after) := by
  induction first generalizing state with
  | done outcome =>
    cases outcome with
    | ok _ => rfl
    | error _ => rfl
  | call c next ih => exact ih (host c state).1 (host c state).2

end Pass

end HostNet
