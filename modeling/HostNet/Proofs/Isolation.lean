import HostNet.Proofs.Exchanges
/-!
Requests that do not disturb each other. Numbers are given out in order, one to each request that
passes validation, and a wait heeds its own number only. Main statement: whatever is refused and
whatever is to be received, a datagram that holds nothing under the number of the call that
receives it makes no difference to a run.
-/
namespace HostNet

open HostNet.Wire

namespace Pass

/-- Every call of the run is made in a state where the condition holds of it. -/
def Throughout {σ : Type} (holds : Call → σ → Prop) (host : Host σ) : Pass → σ → Prop
  | done _, _ => True
  | call c next, state =>
    holds c state ∧ (next (host c state).1).Throughout holds host (host c state).2

end Pass

namespace Connection

variable {κ : Type}

/-- The other end with a log of the messages it is offered, refused ones included. -/
def recording (peer : Peer κ) : Peer (List (List UInt8) × κ) := fun message state =>
  let (answer, next) := peer message state.2
  (answer, (state.1 ++ [message], next))

/-- The other end never adds to what is to be received. -/
def Silent (peer : Peer κ) : Prop :=
  ∀ message state answers, (peer message state).1 = .ok answers → answers = []

theorem silent_scripted : Silent scripted := by
  intro message script answers h
  match script with
  | [] => exact (Except.ok.inj h).symm
  | none :: _ => exact (Except.ok.inj h).symm
  | some _ :: _ => cases h

theorem Silent.recording {peer : Peer κ} (h : Silent peer) : Silent (recording peer) :=
  fun message state => h message state.2

/-- Requests as they are offered, under numbers that count up. -/
def numbered (port : UInt32) : UInt32 → List Request → List (List UInt8)
  | _, [] => []
  | seq, request :: requests => request.encode seq port :: numbered port (seq + 1) requests

theorem length_numbered (port seq : UInt32) (requests : List Request) :
    (numbered port seq requests).length = requests.length := by
  induction requests generalizing seq with
  | nil => rfl
  | cons request requests ih => exact congrArg (· + 1) (ih (seq + 1))

theorem getElem?_numbered (port seq : UInt32) (requests : List Request) (k : Nat) :
    (numbered port seq requests)[k]? =
      requests[k]?.map fun request => request.encode (seq + UInt32.ofNat k) port := by
  induction requests generalizing seq k with
  | nil => rfl
  | cons request requests ih =>
      cases k with
      | zero => simp [numbered]
      | succ k =>
          have hnumber : seq + 1 + UInt32.ofNat k = seq + UInt32.ofNat (k + 1) := by
            rw [UInt32.ofNat_add, UInt32.add_assoc, UInt32.add_comm (UInt32.ofNat k)]
            rfl
          rw [numbered, List.getElem?_cons_succ, List.getElem?_cons_succ, ih, hnumber]

section Silent

variable {peer : Peer κ} {σ α : Type}

/-- Where nothing is added to what is to be received, an exchange is either refused, or a wait on
what was there before. -/
theorem exchange_of_silent (hsilent : Silent peer) (request : Request)
    (step : σ → Message → Progress σ α) (start : σ) (connection : Connection κ) :
    ∃ after : Connection κ,
      (∃ fault, ∀ inbox, exchange peer request step start { connection with inbox := inbox } =
        (.error fault, { after with inbox := inbox })) ∨
      ∀ inbox, exchange peer request step start { connection with inbox := inbox } =
        ((await step start inbox).1, { after with inbox := (await step start inbox).2 }) := by
  have hquiet := hsilent (request.encode connection.seq connection.port) connection.peer
  rcases hpeer : peer (request.encode connection.seq connection.port) connection.peer with
    ⟨errno | answers, state⟩
  · refine ⟨{ connection with seq := connection.seq + 1, peer := state }, Or.inl ?_⟩
    refine ⟨.io (.os errno), fun inbox => ?_⟩
    simp only [exchange, send, hpeer]
  · rw [hpeer] at hquiet
    have hnone : answers = [] := hquiet answers rfl
    refine ⟨{ connection with
      seq := connection.seq + 1
      sent := connection.sent ++ [request.encode connection.seq connection.port]
      peer := state }, Or.inr fun inbox => ?_⟩
    simp only [exchange, send, hpeer, hnone, List.append_nil]

end Silent

end Connection

namespace Machine

variable {κ τ φ : Type}

/-- The call receives the datagram that has this many others behind it. -/
def Takes (ends : Ends κ τ φ) (behind : Nat) (call : Call) (machine : Machine κ τ φ) : Prop :=
  behind < machine.connection.inbox.length ∧
    (host ends call machine).2.connection.inbox.length ≤ behind

/-! ## Numbers -/

section Numbers

variable {peer : Peer κ} {ends : Ends (List (List UInt8) × κ) τ φ}

/-- One call offers the request it makes, if it makes one, under the next number. -/
theorem host_numbered (hpeer : ends.peer = Connection.recording peer) (call : Call)
    (machine : Machine (List (List UInt8) × κ) τ φ) :
    let requests := (machine.connection.validRequest? call).toList
    let after := (host ends call machine).2.connection
    after.port = machine.connection.port ∧
      after.interfaces = machine.connection.interfaces ∧
      after.seq = machine.connection.seq + UInt32.ofNat requests.length ∧
      after.peer.1 = machine.connection.peer.1 ++
        Connection.numbered machine.connection.port machine.connection.seq requests := by
  intro requests after
  cases hprepared : machine.connection.prepared? call with
  | none =>
      have hrequests : requests = [] := by
        simp [requests, Connection.validRequest?, hprepared]
      have hafter : after = machine.connection := (host_of_elsewhere ends hprepared).1
      rw [hrequests, hafter]
      simp [Connection.numbered]
  | some prepared =>
      cases prepared with
      | error fault =>
          have hrequests : requests = [] := by
            simp [requests, Connection.validRequest?, hprepared, Except.toOption]
          have hafter : after = machine.connection :=
            congrArg Machine.connection (host_of_refused ends hprepared).2
          rw [hrequests, hafter]
          simp [Connection.numbered]
      | ok request =>
          have hrequests : requests = [request] := by
            simp [requests, Connection.validRequest?, hprepared, Except.toOption]
          obtain ⟨σ, α, step, start, finish, -, hhost⟩ := host_of_request ends hprepared
          have hafter : after =
              (machine.connection.exchange ends.peer request step start).2 :=
            congrArg (fun result => result.2.connection) (hhost machine.connection.inbox)
          obtain ⟨hport, hinterfaces, hseq, hoffered⟩ :=
            Connection.exchange_snd ends.peer request step start machine.connection
          rw [hrequests, hafter]
          refine ⟨hport, hinterfaces, hseq, ?_⟩
          rw [hoffered, hpeer]
          rfl

/-- The requests of the calls, in order, under numbers that count up. -/
theorem run_numbered (hpeer : ends.peer = Connection.recording peer) (pass : Pass)
    (machine : Machine (List (List UInt8) × κ) τ φ) :
    (pass.run (host ends) machine).2.connection.peer.1 =
      machine.connection.peer.1 ++
        Connection.numbered machine.connection.port machine.connection.seq
          ((pass.transcript (host ends) machine).filterMap fun exchange =>
            machine.connection.validRequest? exchange.call) := by
  induction pass generalizing machine with
  | done outcome => simp [Pass.run, Pass.transcript, Connection.numbered]
  | call c next ih =>
      obtain ⟨hport, hinterfaces, hseq, hoffered⟩ := host_numbered hpeer c machine
      have hvalid : ∀ call, (host ends c machine).2.connection.validRequest? call =
          machine.connection.validRequest? call := by
        intro call
        rw [Connection.validRequest?, Connection.prepared?_congr hinterfaces]
        rfl
      have hlater := ih (host ends c machine).1 (host ends c machine).2
      simp only [hvalid] at hlater
      rw [Pass.run_call, Pass.transcript_call, List.filterMap_cons, hlater, hoffered, hport, hseq]
      cases machine.connection.validRequest? c with
      | none => simp [Connection.numbered]
      | some request => simp [Connection.numbered]

end Numbers

/-! ## A datagram more -/

variable {ends : Ends κ τ φ} {extra : List UInt8} {after : List Datagram}

/-- Two machines of which the first has a datagram more to receive, or had. -/
inductive Ahead (extra : List UInt8) (after : List Datagram) :
    Machine κ τ φ → Machine κ τ φ → Prop where
  | waiting (machine : Machine κ τ φ) (before : List Datagram) :
      Ahead extra after (machine.receiving (before ++ .ok extra :: after))
        (machine.receiving (before ++ after))
  | taken (machine : Machine κ τ φ) : Ahead extra after machine machine

theorem Ahead.connection_eq {ahead behind : Machine κ τ φ} (h : Ahead extra after ahead behind) :
    ahead.connection.sent = behind.connection.sent ∧
      ahead.connection.peer = behind.connection.peer := by
  cases h with
  | waiting machine before => exact ⟨rfl, rfl⟩
  | taken => exact ⟨rfl, rfl⟩

/-- Where nothing is added to what is to be received, a call either leaves it alone or is a wait
on it. -/
theorem host_of_silent (hsilent : Connection.Silent ends.peer) (call : Call)
    (machine : Machine κ τ φ) :
    (∃ (reply : call.Reply) (next : Machine κ τ φ), ∀ inbox,
      host ends call (machine.receiving inbox) = (reply, next.receiving inbox)) ∨
    ∃ (σ α : Type) (step : σ → Message → Connection.Progress σ α) (start : σ)
      (finish : Except Fault α → call.Reply) (next : Machine κ τ φ),
      Connection.Heeds step machine.connection.seq ∧ ∀ inbox,
        host ends call (machine.receiving inbox) =
          (finish (Connection.await step start inbox).1,
            next.receiving (Connection.await step start inbox).2) := by
  cases hprepared : machine.connection.prepared? call with
  | none => exact Or.inl ⟨_, _, (host_of_elsewhere ends hprepared).2⟩
  | some prepared =>
      cases prepared with
      | error fault =>
          refine Or.inl ⟨.error fault, machine, fun inbox => ?_⟩
          obtain ⟨hfault, hsame⟩ :=
            host_of_refused ends ((prepared?_receiving inbox call).trans hprepared)
          exact Prod.ext (Exchange.reply_of_fault? hfault) hsame
      | ok request =>
          obtain ⟨σ, α, step, start, finish, hheeds, hhost⟩ := host_of_request ends hprepared
          obtain ⟨next, ⟨fault, hrefused⟩ | hwait⟩ :=
            Connection.exchange_of_silent hsilent request step start machine.connection
          · refine Or.inl ⟨finish (.error fault), { machine with connection := next }, ?_⟩
            intro inbox
            rw [hhost, receiving, hrefused]
            rfl
          · refine Or.inr ⟨σ, α, step, start, finish, { machine with connection := next },
              hheeds, fun inbox => ?_⟩
            rw [hhost, receiving, hwait]
            rfl

variable {items : List Message}

/-- The machines answer alike and stay in step, if a call that receives the datagram has no message
under its number in it. -/
theorem host_ahead (hsilent : Connection.Silent ends.peer)
    (hframed : Connection.messages extra = items.map .ok) {ahead behind : Machine κ τ φ}
    (h : Ahead extra after ahead behind) {call : Call}
    (hforeign : Takes ends after.length call ahead →
      ∀ item ∈ items, item.header.seq ≠ ahead.connection.seq) :
    (host ends call ahead).1 = (host ends call behind).1 ∧
      Ahead extra after (host ends call ahead).2 (host ends call behind).2 := by
  cases h with
  | taken => exact ⟨rfl, Ahead.taken _⟩
  | waiting machine before =>
      rcases host_of_silent hsilent call machine with
        ⟨reply, next, hhost⟩ | ⟨σ, α, step, start, finish, next, hheeds, hhost⟩
      · rw [hhost, hhost]
        exact ⟨rfl, Ahead.waiting next before⟩
      · rcases Connection.await_append step start before with
          ⟨result, left, hawait⟩ | ⟨between, hawait⟩
        · rw [hhost, hhost, hawait, hawait]
          exact ⟨rfl, Ahead.waiting next left⟩
        · -- the wait reaches the datagram, so the call receives it
          have htakes : Takes ends after.length call
              (machine.receiving (before ++ .ok extra :: after)) := by
            constructor
            · simp only [receiving, List.length_append, List.length_cons]
              omega
            · rw [hhost, hawait]
              exact Connection.length_await_cons_le _ after
          have hskip : Connection.await step between (.ok extra :: after) =
              Connection.await step between after := by
            rw [Connection.await, hframed, Connection.scan_of_heeds hheeds (hforeign htakes)]
          rw [hhost, hhost, hawait, hawait, hskip]
          exact ⟨rfl, Ahead.taken _⟩

theorem run_ahead (hsilent : Connection.Silent ends.peer)
    (hframed : Connection.messages extra = items.map .ok) {pass : Pass}
    {ahead behind : Machine κ τ φ} (h : Ahead extra after ahead behind)
    (hforeign : pass.Throughout (fun call state => Takes ends after.length call state →
      ∀ item ∈ items, item.header.seq ≠ state.connection.seq) (host ends) ahead) :
    pass.transcript (host ends) ahead = pass.transcript (host ends) behind ∧
      (pass.run (host ends) ahead).1 = (pass.run (host ends) behind).1 ∧
      Ahead extra after (pass.run (host ends) ahead).2 (pass.run (host ends) behind).2 := by
  induction pass generalizing ahead behind with
  | done outcome => exact ⟨rfl, rfl, h⟩
  | call c next ih =>
      obtain ⟨hcall, hrest⟩ := hforeign
      obtain ⟨hreply, hnext⟩ := host_ahead hsilent hframed h hcall
      obtain ⟨htranscript, houtcome, hend⟩ := ih _ hnext hrest
      rw [Pass.transcript_call, Pass.transcript_call, Pass.run_call, Pass.run_call, ← hreply]
      exact ⟨congrArg _ htranscript, houtcome, hend⟩

/-! ## Runs on a script -/

/-- On a fresh socket that follows scripts, the k-th request that passes validation is offered
under number k with the port of the socket, whether it is taken or not; a call that is refused for
an interface name changes nothing; and a datagram put anywhere into what is to be received makes
no difference to any answer or to anything that is sent, unless it has a message under the number
of the call that receives it. -/
theorem run_isolated {ends : Ends (List (List UInt8) × List (Option Errno)) τ φ}
    {machine : Machine (List (List UInt8) × List (Option Errno)) τ φ} {port : UInt32}
    {inbox : List Datagram} {interfaces : List (String × UInt32)} {script : List (Option Errno)}
    (hpeer : ends.peer = Connection.recording Connection.scripted)
    (hfresh : machine.connection = Connection.fresh port inbox interfaces ([], script))
    (pass : Pass) :
    let last := (pass.run (host ends) machine).2.connection
    let requests := (pass.transcript (host ends) machine).filterMap fun exchange =>
      machine.connection.validRequest? exchange.call
    (requests.length < 4294967296 →
      last.peer.1.length = requests.length ∧
        ∀ k request, requests[k]? = some request →
          ∃ message header, last.peer.1[k]? = some message ∧
            message = request.encode header.seq port ∧ Header.decode message = .ok header ∧
            header.seq.toNat = k + 1 ∧ header.port = port) ∧
      (∀ call fault (state : Machine (List (List UInt8) × List (Option Errno)) τ φ),
        state.connection.prepared? call = some (.error fault) →
          (⟨call, (host ends call state).1⟩ : Exchange).fault? = some fault ∧
            (host ends call state).2 = state) ∧
      ∀ (before after : List Datagram) (extra : List UInt8) (items : List Message),
        inbox = before ++ after → extra.length ≤ Connection.receiveLimit →
        Message.readAll extra = items.map .ok →
        let longer := machine.receiving (before ++ .ok extra :: after)
        (pass.Throughout (fun call state => Takes ends after.length call state →
          ∀ item ∈ items, item.header.seq ≠ state.connection.seq) (host ends) longer) →
        pass.transcript (host ends) longer = pass.transcript (host ends) machine ∧
          (pass.run (host ends) longer).1 = (pass.run (host ends) machine).1 ∧
          (pass.run (host ends) longer).2.connection.sent = last.sent ∧
          (pass.run (host ends) longer).2.connection.peer = last.peer := by
  intro last requests
  refine ⟨fun hfew => ?_, fun call fault state hrefused => host_of_refused ends hrefused, ?_⟩
  · have hoffered : last.peer.1 = Connection.numbered port 1 requests := by
      have hrun := run_numbered hpeer pass machine
      have hport : machine.connection.port = port := by rw [hfresh]; rfl
      have hseq : machine.connection.seq = 1 := by rw [hfresh]; rfl
      have hlog : machine.connection.peer.1 = [] := by rw [hfresh]; rfl
      rw [hport, hseq, hlog, List.nil_append] at hrun
      exact hrun
    rw [hoffered]
    refine ⟨Connection.length_numbered port 1 requests, fun k request hrequest => ?_⟩
    have hk : k < requests.length := (List.getElem?_eq_some_iff.mp hrequest).1
    have hseq : (1 + UInt32.ofNat k).toNat = k + 1 := by
      rw [UInt32.toNat_add, UInt32.toNat_ofNat', UInt32.toNat_one]
      omega
    refine ⟨_, request.header (1 + UInt32.ofNat k) port, ?_, rfl, ?_, hseq, rfl⟩
    · rw [Connection.getElem?_numbered, hrequest]
      rfl
    · exact Header.decode_encode_append (request.header _ port) request.body
  · intro before after extra items hinbox hfits hread longer hforeign
    have hsilent : Connection.Silent ends.peer := by
      rw [hpeer]
      exact Connection.silent_scripted.recording
    have hframed : Connection.messages extra = items.map .ok := by
      rw [Connection.messages, List.take_of_length_le hfits, hread]
    have hshort : machine.receiving (before ++ after) = machine := by
      rw [receiving, ← hinbox]
      obtain ⟨connection, filter, files⟩ := machine
      subst hfresh
      rfl
    have hwaiting : Ahead extra after longer (machine.receiving (before ++ after)) :=
      Ahead.waiting machine before
    rw [hshort] at hwaiting
    obtain ⟨htranscript, houtcome, hend⟩ := run_ahead hsilent hframed hwaiting hforeign
    refine ⟨htranscript, houtcome, ?_, ?_⟩
    · exact hend.connection_eq.1
    · exact hend.connection_eq.2

/-- A request whose answer is lost to a receive error, and another one. The report of the first
comes late, before the report of the second, and makes no difference. -/
theorem run_isolated_late_report :
    let rule := (Rule.ofFamily .inet).withPriority 100
    let pass := Pass.call (.addRule rule) fun _ => .call (.delRule rule) fun _ => .done (.ok ())
    let report := fun seq => Message.answering MessageKind.error seq 7 (Word.bytes32 0)
    let ends : Ends (List (List UInt8) × List (Option Errno)) (List Iptables.ScriptedAnswer)
        FileTree :=
      ⟨Connection.recording Connection.scripted, Iptables.scripted, FileTree.files, "/"⟩
    let answer := Message.encodeAll [report 2]
    let machine : Machine _ _ _ :=
      ⟨Connection.fresh 7 [.error 105, .ok answer] [] ([], []), ⟨[], []⟩, ⟨[]⟩⟩
    let longer := machine.receiving [.error 105, .ok (Message.encodeAll [report 1]), .ok answer]
    (pass.run (host ends) machine).2.connection.peer.1.length = 2 ∧
      pass.transcript (host ends) longer = pass.transcript (host ends) machine := by
  intro rule pass report ends answer machine longer
  have hpeer : ends.peer = Connection.recording Connection.scripted := rfl
  have hfresh : machine.connection =
      Connection.fresh 7 [.error 105, .ok answer] [] ([], []) := rfl
  obtain ⟨hnumbers, -, hinsert⟩ := run_isolated hpeer hfresh pass
  refine ⟨(hnumbers (by decide)).1, ?_⟩
  have hframed : ∀ message ∈ [report 1], message.Framed := by
    intro message hmem
    rw [List.mem_singleton.mp hmem]
    exact Message.framed_answering (by decide) _ _ _
  have hread := Message.readAll_of_packed (Message.packed_encodeAll hframed)
  refine (hinsert [.error 105] [.ok answer] _ [report 1] rfl (by decide +kernel) hread ?_).1
  refine ⟨fun htakes => ?_, fun _ item hitem => ?_, trivial⟩
  · -- the first call receives the error only
    exact absurd htakes.2 (by decide)
  · rw [List.mem_singleton.mp hitem]
    decide

end Machine

end HostNet
