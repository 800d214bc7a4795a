import HostNet.Proofs.DumpReading
import HostNet.Proofs.Exchanges
/-!
The outcome of a request in what is received. The datagrams are read as one sequence of items, and
one item settles the request: the first that reports on its number, or at which reading fails. Main
statement: the outcome of adding or deleting a route or a rule is what this item says, and the
datagrams behind it are left to receive.
-/
namespace HostNet

open HostNet.Wire

namespace Wire.Message

theorem readAll_eq_fault {bytes : List UInt8} {length : Nat} (hsize : Header.size ≤ bytes.length)
    (hlength : (Header.read bytes).length.toNat = length)
    (h : ¬ (Header.size ≤ length ∧ length ≤ bytes.length)) :
    readAll bytes = [.error (lengthFault length)] := by
  subst hlength
  rw [readAll, dif_pos hsize]
  exact dif_neg h

/-- Reading on only ever fails at a length field. -/
theorem exists_of_error_mem_readAll {bytes : List UInt8} {fault : Fault}
    (h : .error fault ∈ readAll bytes) : ∃ length, fault = lengthFault length := by
  induction bytes using readAll.induct with
  | case1 bytes hsize header length hlength _ ih =>
      rw [readAll_eq_cons rfl hlength] at h
      rcases List.mem_cons.mp h with hhead | hrest
      · cases hhead
      · exact ih hrest
  | case2 bytes hsize header length hlength =>
      rw [readAll_eq_fault hsize rfl hlength] at h
      cases List.mem_singleton.mp h
      exact ⟨length, rfl⟩
  | case3 bytes hsize =>
      rw [readAll_eq_nil (Nat.lt_of_not_le hsize)] at h
      cases h

end Wire.Message

namespace Connection

/-- The datagrams that are received before receiving fails. -/
def received : List Datagram → List (List UInt8)
  | .ok datagram :: rest => datagram :: received rest
  | _ => []

/-- What receiving fails with in the end. -/
def endFault : List Datagram → Fault
  | .ok _ :: rest => endFault rest
  | .error errno :: _ => .io (.os errno)
  | [] => .io (.os Errno.wouldBlock)

/-- The messages in order, whatever datagrams they are in, and the failures to read on. -/
def items (inbox : List Datagram) : List (Except Fault Message) :=
  (received inbox).flatMap Message.readAll

/-- Whether an item settles a request: a report under its number, or a failure to read on. -/
def decides (seq : UInt32) : Except Fault Message → Bool
  | .error _ => true
  | .ok message => message.header.seq == seq && message.reports

/-- A datagram in which nothing settles the request, so that the next one is received. -/
def passedOver (seq : UInt32) : Datagram → Bool
  | .ok datagram => (Message.readAll datagram).all fun item => !decides seq item
  | .error _ => false

/-- What is left to receive once the request is settled. -/
def unread (seq : UInt32) (inbox : List Datagram) : List Datagram :=
  (inbox.dropWhile (passedOver seq)).tail

/-- What the item that settles a request says. -/
def settled : Except Fault Message → Outcome
  | .error fault => .error fault
  | .ok report => reported report.payload

theorem withContext_endFault (operation : String) (inbox : List Datagram) :
    (endFault inbox).withContext operation = endFault inbox := by
  induction inbox with
  | nil => rfl
  | cons datagram rest ih =>
      cases datagram with
      | error errno => rfl
      | ok bytes => exact ih

theorem findOutcome_eq_find? (seq : UInt32) (items : List (Except Fault Message)) :
    findOutcome seq items = (items.find? (decides seq)).map settled := by
  induction items with
  | nil => rfl
  | cons item items ih =>
      cases item with
      | error fault => rfl
      | ok message =>
          rw [findOutcome, List.find?_cons, decides, ih, Message.isError_eq_reports]
          by_cases h : message.header.seq = seq ∧ message.reports = true
          · rw [if_pos h, h.1, h.2, beq_self_eq_true]
            rfl
          · rw [if_neg h]
            have hnot : (message.header.seq == seq && message.reports) = false := by
              rw [← Bool.not_eq_true, Bool.and_eq_true, beq_iff_eq]
              exact h
            rw [hnot]

theorem passedOver_iff {seq : UInt32} {bytes : List UInt8} :
    passedOver seq (.ok bytes) = true ↔ (Message.readAll bytes).find? (decides seq) = none := by
  simp only [passedOver, List.all_eq_true, Bool.not_eq_true', List.find?_eq_none,
    Bool.not_eq_true]

/-- Waiting for the outcome is looking for the item that settles it, over all datagrams. -/
theorem awaitOutcome_eq_find? (seq : UInt32) {inbox : List Datagram}
    (hsize : ∀ datagram ∈ received inbox, datagram.length ≤ receiveLimit) :
    awaitOutcome seq inbox =
      ((((items inbox).find? (decides seq)).map settled).getD (.error (endFault inbox)),
        unread seq inbox) := by
  induction inbox with
  | nil => rfl
  | cons datagram rest ih =>
      cases datagram with
      | error errno => rfl
      | ok bytes =>
          have hread : messages bytes = Message.readAll bytes := by
            rw [messages, List.take_of_length_le (hsize bytes List.mem_cons_self)]
          have hitems : items (.ok bytes :: rest) = Message.readAll bytes ++ items rest := by
            rw [items, received, List.flatMap_cons, items]
          have hrest := ih fun other hother => hsize other (List.mem_cons_of_mem bytes hother)
          rw [awaitOutcome, hread, findOutcome_eq_find?, hitems, List.find?_append]
          cases hfound : (Message.readAll bytes).find? (decides seq) with
          | some item =>
              have hstop : ¬ passedOver seq (.ok bytes) = true := by
                rw [passedOver_iff, hfound]
                exact Option.some_ne_none item
              rw [unread, List.dropWhile_cons_of_neg hstop]
              rfl
          | none =>
              rw [unread, List.dropWhile_cons_of_pos (passedOver_iff.mpr hfound), ← unread]
              exact hrest

end Connection

/-! ## Changes to routes and rules -/

/-- A request to add or delete a route or a rule. -/
inductive Mutation where
  | addRoute (route : Route)
  | delRoute (route : Route)
  | changeRule (verb : RuleVerb) (rule : Rule)
deriving DecidableEq, Repr

namespace Mutation

variable {κ : Type}

def call : Mutation → Call
  | addRoute route => .addRoute route
  | delRoute route => .delRoute route
  | changeRule .add rule => .addRule rule
  | changeRule .delete rule => .delRule rule

/-- What a failure reported by the kernel is put in the context of. -/
def purpose : Mutation → String
  | addRoute route => "add route " ++ route.text
  | delRoute route => "delete route " ++ route.text
  | changeRule verb rule => Connection.rulePurpose verb rule

/-- The request sent on a connection and its outcome waited for. -/
def perform (peer : Peer κ) (connection : Connection κ) : Mutation → Outcome × Connection κ
  | addRoute route => connection.addRoute peer route
  | delRoute route => connection.delRoute peer route
  | changeRule verb rule => connection.changeRule peer verb rule

theorem perform_eq {mutation : Mutation} {connection : Connection κ} {request : Request}
    (hvalid : connection.prepared? mutation.call = some (.ok request)) (peer : Peer κ) :
    mutation.perform peer connection =
      (Connection.inContext mutation.purpose (connection.request peer request).1,
        (connection.request peer request).2) := by
  cases mutation with
  | addRoute route =>
      obtain ⟨index, hindex, rfl⟩ := Connection.exists_of_map_eq_ok hvalid
      simp only [perform, Connection.addRoute, hindex, purpose]
  | delRoute route =>
      obtain ⟨index, hindex, rfl⟩ := Connection.exists_of_map_eq_ok hvalid
      simp only [perform, Connection.delRoute, hindex, purpose]
  | changeRule verb rule =>
      have hrequest : ruleRequest verb rule = .ok request := by
        cases verb <;> exact Option.some.inj hvalid
      simp only [perform, Connection.changeRule, hrequest, purpose]

/-- The outcome is what an item says: a failure to read on is passed on, and a report succeeds or
gives the reason why the kernel refuses. The least code has no negation and is left out. -/
def Says (operation : String) (outcome : Outcome) : Except Fault Message → Prop
  | .error fault => outcome = .error fault
  | .ok report =>
    if report.payload.length < 4 then outcome = .error (.truncated 4 report.payload.length)
    else if report.code = 0 then outcome = .ok ()
    else -2147483648 < report.code.toInt →
      ∃ errno : Errno, errno.toInt = -report.code.toInt ∧
        outcome = .error (.refused operation errno)

theorem says_settled (operation : String) {inbox : List Datagram} {item : Except Fault Message}
    (hitem : item ∈ Connection.items inbox) :
    Says operation (Connection.inContext operation (Connection.settled item)) item := by
  cases item with
  | error fault =>
      obtain ⟨datagram, -, hread⟩ := List.mem_flatMap.mp hitem
      obtain ⟨length, rfl⟩ := Message.exists_of_error_mem_readAll hread
      rfl
  | ok report =>
      rw [Says, Connection.settled]
      by_cases hshort : report.payload.length < 4
      · rw [if_pos hshort, Connection.reported_of_lt hshort]
        rfl
      · rw [if_neg hshort, Connection.reported_of_le (Nat.le_of_not_lt hshort)]
        by_cases hzero : report.code = 0
        · rw [if_pos hzero, if_pos hzero]
          rfl
        · rw [if_neg hzero, if_neg hzero]
          exact fun hleast => ⟨-report.code, Errno.toInt_neg_of_lt hleast, rfl⟩

/-- A request that was sent is settled by the first item in what is received that reports on its
own number, or at which reading fails. Without one, receiving goes on until it fails. No other
message makes a difference, and no datagram behind the settling one is received. -/
theorem decided_by_own_report {mutation : Mutation} {request : Request}
    {connection : Connection κ} {peer : Peer κ} {answers : List Datagram} {state : κ}
    (hvalid : connection.prepared? mutation.call = some (.ok request))
    (hsent : peer (request.encode connection.seq connection.port) connection.peer =
      (.ok answers, state))
    (hsize : ∀ datagram ∈ Connection.received (connection.inbox ++ answers),
      datagram.length ≤ Connection.receiveLimit) :
    let inbox := connection.inbox ++ answers
    let result := mutation.perform peer connection
    (match (Connection.items inbox).find? (Connection.decides connection.seq) with
      | some item => Says mutation.purpose result.1 item
      | none => result.1 = .error (Connection.endFault inbox)) ∧
      result.2 = { connection with
        seq := connection.seq + 1
        inbox := Connection.unread connection.seq inbox
        sent := connection.sent ++ [request.encode connection.seq connection.port]
        peer := state } := by
  intro inbox result
  have hresult : result = _ := perform_eq hvalid peer
  simp only [Connection.request, Connection.send, hsent,
    Connection.awaitOutcome_eq_find? connection.seq hsize] at hresult
  rw [hresult]
  refine ⟨?_, rfl⟩
  cases hfound : (Connection.items inbox).find? (Connection.decides connection.seq) with
  | some item => exact says_settled mutation.purpose (List.mem_of_find?_eq_some hfound)
  | none => exact congrArg Except.error (Connection.withContext_endFault mutation.purpose inbox)

/-- A message of the own number that reports nothing and a report on another number come first. The
report that settles the request is in the second datagram, and the third is left alone. -/
theorem decided_by_own_report_among_others :
    let route := (Route.toDestination (.host (.v4 0x0a7c0001#32))).inTable 1
    let report := fun seq code => Message.answering MessageKind.error seq 7 (Word.bytes32 code)
    let first := Message.encodeAll [Message.answering MessageKind.newRoute 1 7 [2, 0], report 9 0]
    let second := Message.encodeAll [report 1 0xffffffef]
    let third := Message.encodeAll [report 1 0]
    let connection := Connection.fresh 7 [.ok first, .ok second, .ok third] [] []
    let result := (Mutation.addRoute route).perform Connection.scripted connection
    result.1 = .error (.refused ("add route " ++ route.text) 17) ∧
      result.2.inbox = [.ok third] := by
  intro route report first second third connection result
  have hvalid : connection.prepared? (Mutation.addRoute route).call =
      some (.ok (routeAddRequest route none)) := rfl
  have hsent : Connection.scripted ((routeAddRequest route none).encode 1 7) connection.peer =
      (.ok [], []) := rfl
  have hsize : ∀ datagram ∈ Connection.received (connection.inbox ++ []),
      datagram.length ≤ Connection.receiveLimit := by
    decide +kernel
  have hfound : (Connection.items (connection.inbox ++ [])).find?
      (Connection.decides connection.seq) = some (.ok (report 1 0xffffffef)) := by
    cbv
  have hpassed : (connection.inbox ++ []).dropWhile (Connection.passedOver connection.seq) =
      [.ok second, .ok third] := by
    cbv
  obtain ⟨hdecided, hafter⟩ := decided_by_own_report hvalid hsent hsize
  rw [hfound] at hdecided
  obtain ⟨errno, herrno, houtcome⟩ := hdecided (by decide)
  refine ⟨houtcome.trans ?_, (congrArg Connection.inbox hafter).trans (congrArg List.tail hpassed)⟩
  rw [Int32.toInt_inj.mp (herrno.trans (by decide : _ = (17 : Int32).toInt))]
  rfl

end Mutation

end HostNet
