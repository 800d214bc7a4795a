import HostNet.Host.Machine
import HostNet.Proofs.Awaiting
import HostNet.Proofs.Transcript
/-!
Calls on a machine as exchanges on its socket. A call either has nothing to do with the socket, or
it is refused for an interface name before anything is sent, or it is one exchange: a request under
the next number and a wait that heeds this number only. Main statements: these are all the cases,
and what each of them does to the connection.
-/
namespace HostNet

open HostNet.Wire

theorem Exchange.reply_of_fault? {call : Call} {reply : call.Reply} {fault : Fault}
    (h : (⟨call, reply⟩ : Exchange).fault? = some fault) : reply = .error fault := by
  cases reply with
  | ok answer => cases h
  | error other => rw [Option.some.inj h]

namespace Connection

variable {κ : Type}

/-- Send a request and wait for the result of its answer. -/
def exchange {σ α : Type} (peer : Peer κ) (request : Request)
    (step : σ → Message → Progress σ α) (start : σ) (connection : Connection κ) :
    Except Fault α × Connection κ :=
  match send peer request connection with
  | (.error fault, after) => (.error fault, after)
  | (.ok (), after) =>
    let (result, inbox) := await step start after.inbox
    (result, { after with inbox := inbox })

/-- What a call asks of the socket, if anything: a request, or why it is refused beforehand. -/
def prepared? (connection : Connection κ) : Call → Option (Except Fault Request)
  | .addRoute route =>
    some ((connection.routeIndex route).map fun index => routeAddRequest route index)
  | .delRoute route =>
    some ((connection.routeIndex route).map fun index => routeDeleteRequest route index)
  | .addRule rule => some (ruleRequest .add rule)
  | .delRule rule => some (ruleRequest .delete rule)
  | .listRules family => some (.ok (ruleDumpRequest family))
  | _ => none

/-- The request of a call that passes validation. -/
def validRequest? (connection : Connection κ) (call : Call) : Option Request :=
  (connection.prepared? call).bind Except.toOption

section Prepared

variable {α : Type} {prepared : Except Fault α} {toRequest : α → Request}

theorem eq_error_of_map {fault : Fault} (h : some (prepared.map toRequest) = some (.error fault)) :
    prepared = .error fault := by
  cases prepared with
  | error other =>
      cases h
      rfl
  | ok _ => cases h

theorem exists_of_map_eq_ok {request : Request}
    (h : some (prepared.map toRequest) = some (.ok request)) :
    ∃ index, prepared = .ok index ∧ toRequest index = request := by
  cases prepared with
  | error other => cases h
  | ok index =>
      cases h
      exact ⟨index, rfl, rfl⟩

end Prepared

theorem request_eq_exchange (peer : Peer κ) (wanted : Request) (connection : Connection κ) :
    connection.request peer wanted =
      connection.exchange peer wanted (outcomeStep connection.seq) () := by
  rw [request, exchange]
  rcases send peer wanted connection with ⟨_ | _, after⟩
  · rfl
  · simp only [awaitOutcome_eq]

theorem dump_eq_exchange (peer : Peer κ) (wanted : Request) (connection : Connection κ) :
    connection.dump peer wanted =
      connection.exchange peer wanted (dumpStep connection.seq) [] := by
  rw [dump, exchange]
  rcases send peer wanted connection with ⟨_ | _, after⟩
  · rfl
  · simp only [awaitDump_eq]

theorem prepared?_congr {first second : Connection κ}
    (h : first.interfaces = second.interfaces) (call : Call) :
    first.prepared? call = second.prepared? call := by
  have hindex : ∀ route, first.routeIndex route = second.routeIndex route := by
    intro route
    unfold routeIndex interfaceIndex
    rw [h]
  cases call <;> simp [prepared?, hindex]

section Exchange

variable {σ α : Type} (peer : Peer κ) (request : Request) (step : σ → Message → Progress σ α)
  (start : σ) (connection : Connection κ)

/-- Every exchange uses up one number and offers one message, whether it is taken or not. -/
theorem exchange_snd :
    let after := (connection.exchange peer request step start).2
    after.port = connection.port ∧ after.interfaces = connection.interfaces ∧
      after.seq = connection.seq + 1 ∧
      after.peer = (peer (request.encode connection.seq connection.port) connection.peer).2 := by
  simp only [exchange, send]
  rcases peer (request.encode connection.seq connection.port) connection.peer with ⟨_ | _, state⟩
  · exact ⟨rfl, rfl, rfl, rfl⟩
  · exact ⟨rfl, rfl, rfl, rfl⟩

end Exchange

end Connection

namespace Machine

variable {κ τ φ : Type} (ends : Ends κ τ φ) {machine : Machine κ τ φ} {call : Call}

def receiving (machine : Machine κ τ φ) (inbox : List Datagram) : Machine κ τ φ :=
  { machine with connection := { machine.connection with inbox := inbox } }

theorem prepared?_receiving (inbox : List Datagram) (call : Call) :
    (machine.receiving inbox).connection.prepared? call = machine.connection.prepared? call :=
  Connection.prepared?_congr rfl call

/-- A call that asks nothing of the socket leaves the connection alone, and does not look at it. -/
theorem host_of_elsewhere (h : machine.connection.prepared? call = none) :
    (host ends call machine).2.connection = machine.connection ∧
      ∀ inbox, host ends call (machine.receiving inbox) =
        ((host ends call machine).1, (host ends call machine).2.receiving inbox) := by
  cases call with
  | addRoute route => cases h
  | delRoute route => cases h
  | addRule rule => cases h
  | delRule rule => cases h
  | listRules family => cases h
  | _ => exact ⟨rfl, fun _ => rfl⟩

/-- A call that is refused beforehand fails with the reason, and nothing is sent or used up. -/
theorem host_of_refused {fault : Fault}
    (h : machine.connection.prepared? call = some (.error fault)) :
    (⟨call, (host ends call machine).1⟩ : Exchange).fault? = some fault ∧
      (host ends call machine).2 = machine := by
  cases call with
  | addRoute route =>
      have hindex := Connection.eq_error_of_map h
      simp [host, Connection.addRoute, hindex, Exchange.fault?]
  | delRoute route =>
      have hindex := Connection.eq_error_of_map h
      simp [host, Connection.delRoute, hindex, Exchange.fault?]
  | addRule rule =>
      have hrequest : ruleRequest .add rule = .error fault := Option.some.inj h
      simp [host, Connection.changeRule, hrequest, Exchange.fault?]
  | delRule rule =>
      have hrequest : ruleRequest .delete rule = .error fault := Option.some.inj h
      simp [host, Connection.changeRule, hrequest, Exchange.fault?]
  | listRules family => cases Option.some.inj h
  | _ => cases h

/-- Any other call is one exchange, whatever is to be received: its reply is made of the result. -/
theorem host_of_request {request : Request}
    (h : machine.connection.prepared? call = some (.ok request)) :
    ∃ (σ α : Type) (step : σ → Message → Connection.Progress σ α) (start : σ)
      (finish : Except Fault α → call.Reply), Connection.Heeds step machine.connection.seq ∧
      ∀ inbox,
        let result :=
          (machine.receiving inbox).connection.exchange ends.peer request step start
        host ends call (machine.receiving inbox) =
          (finish result.1, { machine with connection := result.2 }) := by
  cases call with
  | addRoute route =>
      obtain ⟨index, hindex, rfl⟩ := Connection.exists_of_map_eq_ok h
      refine ⟨_, _, _, (), Connection.inContext ("add route " ++ route.text),
        Connection.heeds_outcomeStep _, fun inbox => ?_⟩
      have hsame : (machine.receiving inbox).connection.routeIndex route = .ok index := hindex
      simp only [host, Connection.addRoute, hsame, Connection.request_eq_exchange]
      rfl
  | delRoute route =>
      obtain ⟨index, hindex, rfl⟩ := Connection.exists_of_map_eq_ok h
      refine ⟨_, _, _, (), Connection.inContext ("delete route " ++ route.text),
        Connection.heeds_outcomeStep _, fun inbox => ?_⟩
      have hsame : (machine.receiving inbox).connection.routeIndex route = .ok index := hindex
      simp only [host, Connection.delRoute, hsame, Connection.request_eq_exchange]
      rfl
  | addRule rule =>
      have hrequest : ruleRequest .add rule = .ok request := Option.some.inj h
      refine ⟨_, _, _, (), Connection.inContext (Connection.rulePurpose .add rule),
        Connection.heeds_outcomeStep _, fun inbox => ?_⟩
      simp only [host, Connection.changeRule, hrequest, Connection.request_eq_exchange]
      rfl
  | delRule rule =>
      have hrequest : ruleRequest .delete rule = .ok request := Option.some.inj h
      refine ⟨_, _, _, (), Connection.inContext (Connection.rulePurpose .delete rule),
        Connection.heeds_outcomeStep _, fun inbox => ?_⟩
      simp only [host, Connection.changeRule, hrequest, Connection.request_eq_exchange]
      rfl
  | listRules family =>
      have hrequest : ruleDumpRequest family = request := Except.ok.inj (Option.some.inj h)
      refine ⟨_, _, _, [], fun result => result.bind (Connection.readRules family),
        Connection.heeds_dumpStep _, fun inbox => ?_⟩
      simp only [host, Connection.listRules, hrequest, Connection.dump_eq_exchange]
      rfl
  | _ => cases h

end Machine

end HostNet
