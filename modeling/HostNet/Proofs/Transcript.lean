import HostNet.Proofs.Trial
/-!
What a pass was answered. The transcript of a pass is its calls on a host, each with the reply it
got. Main statement: a drill logs the calls of the transcript and nothing else.
-/
namespace HostNet

/-- A call and what it was answered. -/
structure Exchange where
  call : Call
  reply : call.Reply

/-- Failures of a call that count as success. -/
def Call.tolerates : Call → Fault → Bool
  | addRoute _, fault => fault.kind == .alreadyExists
  | addRule _, fault => fault.kind == .alreadyExists
  | newChain _, fault => fault.kind == .alreadyExists
  | delRoute _, fault => fault.kind == .notFound
  | delRule _, fault => fault.kind == .notFound
  | clearChain _, fault => fault.kind == .notFound
  | deleteChain _, fault => fault.kind == .notFound
  | deleteRule _ _, fault => fault.kind == .notFound
  | _, _ => false

namespace Exchange

def fault? (exchange : Exchange) : Option Fault :=
  match exchange.reply with
  | .ok _ => none
  | .error fault => some fault

/-- The failure of the call, unless it counts as success. -/
def complaint? (exchange : Exchange) : Option Fault :=
  exchange.fault?.filter fun fault => !exchange.call.tolerates fault

/-- The call was of the operation, and was carried out. -/
def carriedOut (kind : CallKind) (exchange : Exchange) : Bool :=
  exchange.call.kind == kind && exchange.fault?.isNone

theorem complaint?_error (c : Call) (fault : Fault) :
    (⟨c, .error fault⟩ : Exchange).complaint? =
      if c.tolerates fault then none else some fault := by
  cases h : c.tolerates fault <;> simp [complaint?, fault?, Option.filter, h]

end Exchange

namespace Pass

variable {σ : Type} (host : Host σ)

/-- The calls of a pass on a host with their replies, in order. -/
def transcript : Pass → σ → List Exchange
  | done _, _ => []
  | call c next, state =>
    ⟨c, (host c state).1⟩ :: (next (host c state).1).transcript (host c state).2

theorem run_call (c : Call) (next : c.Reply → Pass) (state : σ) :
    (call c next).run host state = (next (host c state).1).run host (host c state).2 :=
  rfl

theorem transcript_call (c : Call) (next : c.Reply → Pass) (state : σ) :
    (call c next).transcript host state =
      ⟨c, (host c state).1⟩ :: (next (host c state).1).transcript host (host c state).2 :=
  rfl

/-- How a pass ends that reports the last complaint of a transcript, and ends as given where there
is none. -/
def verdict (sofar : Outcome) (exchanges : List Exchange) : Outcome :=
  match (exchanges.filterMap Exchange.complaint?).getLast? with
  | some fault => .error fault
  | none => sofar

theorem verdict_refused (sofar : Outcome) (c : Call) (fault : Fault) :
    verdict sofar [⟨c, .error fault⟩] = if c.tolerates fault then sofar else .error fault := by
  cases h : c.tolerates fault <;> simp [verdict, Exchange.complaint?_error, h]

theorem verdict_cons (sofar : Outcome) (exchange : Exchange) (exchanges : List Exchange) :
    verdict sofar (exchange :: exchanges) = verdict (verdict sofar [exchange]) exchanges := by
  cases hfirst : exchange.complaint? with
  | none => simp [verdict, hfirst]
  | some fault =>
      cases hlast : (exchanges.filterMap Exchange.complaint?).getLast? with
      | none => simp [verdict, hfirst, hlast, List.getLast?_cons]
      | some later => simp [verdict, hfirst, hlast, List.getLast?_cons]

theorem verdict_eq_error_iff {exchanges : List Exchange} {fault : Fault} :
    verdict (.ok ()) exchanges = .error fault ↔
      (exchanges.filterMap Exchange.complaint?).getLast? = some fault := by
  unfold verdict
  cases (exchanges.filterMap Exchange.complaint?).getLast? with
  | none => simp
  | some later => simp

end Pass

/-- The log of a drill grows by the calls of the transcript. -/
theorem Drill.log_run (pass : Pass) (drill : Drill) :
    (pass.run host drill).2.log =
      drill.log ++ (pass.transcript host drill).map Exchange.call := by
  induction pass generalizing drill with
  | done outcome => simp [Pass.run, Pass.transcript]
  | call c next ih =>
      have hlog := (host_cases drill.plans_true c).1
      refine (ih (host c drill).1 (host c drill).2).trans ?_
      rw [hlog, List.append_assoc]
      rfl

end HostNet
