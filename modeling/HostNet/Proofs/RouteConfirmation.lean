import HostNet.Host.Machine
import HostNet.Proofs.OutcomeReading
/-!
Routes through the socket: when a pass over a route ends well. A route is asked for by way of its
device's index, so a device that is missing ends the pass before anything is sent: badly where the
route is wanted, and well where it is to be gone, for the kernel drops the routes of a device with
the device. Main statement: otherwise the pass ends well exactly if the kernel reports success, or
that the route is there (gone) already, and every other failure is passed on with its kind.
-/
namespace HostNet

open HostNet.Wire

namespace Connection

/-- The datagrams as they are received: the end of one that is too long is lost. -/
def cut (inbox : List Datagram) : List Datagram :=
  inbox.map (Except.map (List.take receiveLimit))

/-- The first item in what is received that settles a request is a report with the code. -/
def Reports (seq : UInt32) (inbox : List Datagram) (code : Int32) : Prop :=
  ∃ report, (items (cut inbox)).find? (decides seq) = some (.ok report) ∧
    4 ≤ report.payload.length ∧ report.code = code

variable {κ : Type}

/-- The request of a call, if it comes to one, is taken by the other end, and a report with the code
settles it. -/
def Answered (peer : Peer κ) (connection : Connection κ) (call : Call) (code : Int32) : Prop :=
  ∀ request, connection.prepared? call = some (.ok request) →
    ∃ answers state,
      peer (request.encode connection.seq connection.port) connection.peer = (.ok answers, state) ∧
        Reports connection.seq (connection.inbox ++ answers) code

/-- The name is that of an interface. -/
def Resolves (connection : Connection κ) (name : String) : Prop :=
  '\x00' ∉ name.toList ∧ ∃ index, connection.interfaces.lookup name = some index ∧ index ≠ 0

theorem received_cut (inbox : List Datagram) :
    received (cut inbox) = (received inbox).map (List.take receiveLimit) := by
  induction inbox with
  | nil => rfl
  | cons datagram rest ih =>
      cases datagram with
      | error errno => rfl
      | ok bytes => exact congrArg (bytes.take receiveLimit :: ·) ih

/-- What is lost of a datagram makes no difference. -/
theorem fst_awaitOutcome_cut (seq : UInt32) (inbox : List Datagram) :
    (awaitOutcome seq (cut inbox)).1 = (awaitOutcome seq inbox).1 := by
  induction inbox with
  | nil => rfl
  | cons datagram rest ih =>
      cases datagram with
      | error errno => rfl
      | ok bytes =>
          have hread : messages (bytes.take receiveLimit) = messages bytes := by
            rw [messages, List.take_take, Nat.min_self, messages]
          change (awaitOutcome seq (.ok (bytes.take receiveLimit) :: cut rest)).1 = _
          rw [awaitOutcome, awaitOutcome, hread]
          cases findOutcome seq (messages bytes) with
          | some outcome => rfl
          | none => exact ih

theorem fst_awaitOutcome_of_reports {seq : UInt32} {inbox : List Datagram} {code : Int32}
    (h : Reports seq inbox code) :
    (awaitOutcome seq inbox).1 = if code = 0 then .ok () else .error (Fault.ofCode code) := by
  obtain ⟨report, hfound, hlong, rfl⟩ := h
  have hsize : ∀ datagram ∈ received (cut inbox), datagram.length ≤ receiveLimit := by
    rw [received_cut]
    intro datagram hmem
    obtain ⟨bytes, -, rfl⟩ := List.mem_map.mp hmem
    exact List.length_take_le _ _
  rw [← fst_awaitOutcome_cut, awaitOutcome_eq_find? seq hsize, hfound]
  exact reported_of_le hlong

/-- On a script that refuses nothing, a call is answered by what is queued. -/
theorem answered_of_reports {connection : Connection (List (Option Errno))} {code : Int32}
    (htaken : ∀ turn ∈ connection.peer, turn = none)
    (h : Reports connection.seq connection.inbox code) (call : Call) :
    connection.Answered scripted call code := by
  intro request _
  obtain ⟨port, seq, inbox, sent, interfaces, script⟩ := connection
  have hqueued : Reports seq (inbox ++ []) code := by
    rwa [List.append_nil]
  cases script with
  | nil => exact ⟨[], [], rfl, hqueued⟩
  | cons turn script =>
      rw [htaken turn List.mem_cons_self]
      exact ⟨[], script, rfl, hqueued⟩

theorem interfaceIndex_eq_ok_iff {connection : Connection κ} {name : String} {index : UInt32} :
    connection.interfaceIndex name = .ok index ↔
      '\x00' ∉ name.toList ∧ connection.interfaces.lookup name = some index ∧ index ≠ 0 := by
  unfold interfaceIndex
  by_cases hnul : '\x00' ∈ name.toList
  · simp [hnul]
  · cases hlookup : connection.interfaces.lookup name with
    | none => simp [hnul]
    | some found =>
        by_cases hzero : found = 0
        · simp +contextual [hnul, hzero, eq_comm]
        · have hne : found = index → index ≠ 0 := fun heq => heq ▸ hzero
          simpa [hnul, hzero] using hne

theorem interfaceIndex_of_not_resolves {connection : Connection κ} {name : String}
    (hlegible : '\x00' ∉ name.toList) (hunknown : ¬ connection.Resolves name) :
    connection.interfaceIndex name = .error (.interfaceNotFound name) := by
  cases hindex : connection.interfaceIndex name with
  | ok index =>
      obtain ⟨-, hlookup, hne⟩ := interfaceIndex_eq_ok_iff.mp hindex
      exact absurd ⟨hlegible, index, hlookup, hne⟩ hunknown
  | error fault =>
      simp only [interfaceIndex, List.contains_iff_mem, if_neg hlegible] at hindex
      split at hindex
      · exact hindex.symm
      · split at hindex
        · exact hindex.symm
        · cases hindex

end Connection

namespace Fault

variable {operation : String} {errno : Errno}

/-- The kernel says in one way that an object is there already. -/
theorem isAlreadyExists_refused :
    (refused operation errno).isAlreadyExists = true ↔ errno = Errno.alreadyExists := by
  rw [isAlreadyExists, kind, kindOfErrno, beq_iff_eq]
  by_cases hthere : errno = Errno.alreadyExists
  · simp [hthere]
  · rw [if_neg hthere]
    split
    · simp [hthere]
    · simp [hthere]

/-- The kernel says in two ways that an object is absent. -/
theorem isNotFound_refused :
    (refused operation errno).isNotFound = true ↔
      errno = Errno.noEntry ∨ errno = Errno.noProcess := by
  rw [isNotFound, kind, kindOfErrno, beq_iff_eq]
  by_cases hthere : errno = Errno.alreadyExists
  · subst hthere
    decide
  · rw [if_neg hthere]
    split
    · simp_all
    · simp_all

end Fault

namespace Pass

variable {benign : Fault → Bool} {fault other : Fault}

theorem tolerate_error_eq_ok_iff :
    tolerate benign (.error fault) = .ok () ↔ benign fault = true := by
  simp [tolerate]

theorem eq_of_tolerate_eq_error (h : tolerate benign (.error fault) = .error other) :
    other = fault := by
  rw [tolerate] at h
  split at h
  · cases h
  · exact (Except.error.inj h).symm

end Pass

namespace Mutation

variable {κ : Type} {mutation : Mutation} {connection : Connection κ} {peer : Peer κ}

/-- The outcome of a change is what the report on it says. -/
theorem fst_perform_of_answered {request : Request} {code : Int32}
    (hvalid : connection.prepared? mutation.call = some (.ok request))
    (h : connection.Answered peer mutation.call code) :
    (mutation.perform peer connection).1 =
      if code = 0 then .ok () else .error (.refused mutation.purpose (-code)) := by
  obtain ⟨answers, state, hsent, hreports⟩ := h request hvalid
  have houtcome := Connection.fst_awaitOutcome_of_reports hreports
  rw [perform_eq hvalid, Connection.request, Connection.send, hsent]
  change Connection.inContext mutation.purpose
    (Connection.awaitOutcome connection.seq (connection.inbox ++ answers)).1 = _
  rw [houtcome]
  split
  · rfl
  · rfl

end Mutation

namespace Route

variable {κ : Type} {route : Route} {connection : Connection κ}

/-- What a pass over the route asks for. -/
def change (route : Route) : (enabled : Bool) → Mutation
  | true => .addRoute route
  | false => .delRoute route

/-- The failures by which the route is there, or gone, already. -/
def benign : (enabled : Bool) → Fault → Bool
  | true => Fault.isAlreadyExists
  | false => Fault.isNotFound

/-- The device of the route, if it names one, is an interface. -/
def Linked (route : Route) (connection : Connection κ) : Prop :=
  ∀ name, route.dev = some name → connection.Resolves name

/-- The route names a device that could be an interface and is none. -/
def Unlinked (route : Route) (connection : Connection κ) : Prop :=
  ∃ name, route.dev = some name ∧ '\x00' ∉ name.toList ∧ ¬ connection.Resolves name

/-- After a report with the code, the route is known to be there, or to be gone. -/
def Confirmed (route : Route) (connection : Connection κ) (code : Int32) :
    (enabled : Bool) → Prop
  | true => route.Linked connection ∧ (code = 0 ∨ code = -Errno.alreadyExists)
  | false =>
    route.Unlinked connection ∨
      route.Linked connection ∧ (code = 0 ∨ code = -Errno.noEntry ∨ code = -Errno.noProcess)

/-- Why the device of a route has no index: its name cannot be looked up, or is no interface's. -/
inductive Unfound (route : Route) (connection : Connection κ) : Fault → Prop where
  | malformed {name : String} (dev : route.dev = some name) (nul : '\x00' ∈ name.toList) :
      Unfound route connection (.invalidMessage ("invalid interface name: " ++ Text.quoted name))
  | missing {name : String} (dev : route.dev = some name) (legible : '\x00' ∉ name.toList)
      (unknown : ¬ connection.Resolves name) : Unfound route connection (.interfaceNotFound name)

/-- Why a request for the route fails: its device has no index, or the kernel refuses with the
error number that its code negates. -/
inductive Cause (route : Route) (connection : Connection κ) (code : Int32) : Fault → Prop where
  | unfound {fault : Fault} (h : route.Unfound connection fault) : Cause route connection code fault
  | refused {errno : Errno} (linked : route.Linked connection) (failed : code ≠ 0)
      (negated : errno.toInt = -code.toInt) : Cause route connection code (.kernel errno)

/-! ## The device -/

theorem linked_of_routeIndex {index : Option UInt32} (h : connection.routeIndex route = .ok index) :
    route.Linked connection := by
  intro name hdev
  simp only [Connection.routeIndex, hdev] at h
  cases hindex : connection.interfaceIndex name with
  | error fault =>
      rw [hindex] at h
      cases h
  | ok found =>
      obtain ⟨hlegible, hlookup, hne⟩ := Connection.interfaceIndex_eq_ok_iff.mp hindex
      exact ⟨hlegible, found, hlookup, hne⟩

theorem unfound_of_routeIndex {fault : Fault} (h : connection.routeIndex route = .error fault) :
    route.Unfound connection fault := by
  unfold Connection.routeIndex at h
  cases hdev : route.dev with
  | none =>
      rw [hdev] at h
      cases h
  | some name =>
      simp only [hdev] at h
      by_cases hnul : '\x00' ∈ name.toList
      · simp only [Connection.interfaceIndex, List.contains_iff_mem, if_pos hnul] at h
        cases h
        exact .malformed hdev hnul
      · cases hindex : connection.interfaceIndex name with
        | error reason =>
            have hunknown : ¬ connection.Resolves name := by
              rintro ⟨-, index, hlookup, hne⟩
              rw [Connection.interfaceIndex_eq_ok_iff.mpr ⟨hnul, hlookup, hne⟩] at hindex
              cases hindex
            rw [Connection.interfaceIndex_of_not_resolves hnul hunknown] at h
            cases h
            exact .missing hdev hnul hunknown
        | ok index =>
            rw [hindex] at h
            cases h

theorem Unfound.not_linked {fault : Fault} (h : route.Unfound connection fault) :
    ¬ route.Linked connection := by
  intro hlinked
  cases h with
  | malformed dev nul => exact (hlinked _ dev).1 nul
  | missing dev _ unknown => exact unknown (hlinked _ dev)

theorem Unfound.isAlreadyExists {fault : Fault} (h : route.Unfound connection fault) :
    fault.isAlreadyExists = false := by
  cases h <;> rfl

/-- A device that is missing counts as a route that is gone. A name that cannot be looked up does
not. -/
theorem Unfound.isNotFound_iff {fault : Fault} (h : route.Unfound connection fault) :
    fault.isNotFound = true ↔ route.Unlinked connection := by
  cases h with
  | malformed dev nul =>
      refine iff_of_false Bool.false_ne_true ?_
      rintro ⟨name, hdev, hlegible, -⟩
      rw [dev] at hdev
      exact hlegible (Option.some.inj hdev ▸ nul)
  | missing dev legible unknown => exact iff_of_true rfl ⟨_, dev, legible, unknown⟩

theorem Unlinked.not_linked (h : route.Unlinked connection) : ¬ route.Linked connection := by
  obtain ⟨name, hdev, -, hunknown⟩ := h
  exact fun hlinked => hunknown (hlinked name hdev)

theorem Unfound.withContext {fault : Fault} (h : route.Unfound connection fault)
    (operation : String) : fault.withContext operation = fault := by
  cases h <;> rfl

/-- Without an index nothing is sent, and no number is used up. -/
theorem perform_of_routeIndex_error {peer : Peer κ} {fault : Fault}
    (h : connection.routeIndex route = .error fault) (enabled : Bool) :
    (route.change enabled).perform peer connection = (.error fault, connection) := by
  cases enabled with
  | true => simp only [change, Mutation.perform, Connection.addRoute, h]
  | false => simp only [change, Mutation.perform, Connection.delRoute, h]

theorem exists_request_of_routeIndex {index : Option UInt32}
    (h : connection.routeIndex route = .ok index) (enabled : Bool) :
    ∃ request, connection.prepared? (route.change enabled).call = some (.ok request) := by
  cases enabled with
  | true =>
      refine ⟨routeAddRequest route index, ?_⟩
      rw [change, Mutation.call, Connection.prepared?, h]
      rfl
  | false =>
      refine ⟨routeDeleteRequest route index, ?_⟩
      rw [change, Mutation.call, Connection.prepared?, h]
      rfl

/-! ## The outcome -/

/-- Without an index it is known at most that the route is gone. -/
theorem Unfound.benign_iff {fault : Fault} (h : route.Unfound connection fault) (code : Int32)
    (enabled : Bool) : benign enabled fault = true ↔ route.Confirmed connection code enabled := by
  cases enabled with
  | true =>
      rw [benign, h.isAlreadyExists, Confirmed]
      exact iff_of_false Bool.false_ne_true fun hconfirmed => h.not_linked hconfirmed.1
  | false =>
      rw [benign, h.isNotFound_iff, Confirmed]
      exact ⟨Or.inl, fun hconfirmed =>
        hconfirmed.resolve_right fun hlinked => h.not_linked hlinked.1⟩

/-- With an index the code of the report decides. -/
theorem Linked.benign_iff (h : route.Linked connection) (operation : String) (code : Int32)
    (enabled : Bool) :
    code = 0 ∨ benign enabled (.refused operation (-code)) = true ↔
      route.Confirmed connection code enabled := by
  have hneg : ∀ errno : Errno, -code = errno ↔ code = -errno := by
    intro errno
    grind
  cases enabled with
  | true =>
      rw [benign, Fault.isAlreadyExists_refused, hneg, Confirmed]
      exact ⟨fun hcode => ⟨h, hcode⟩, And.right⟩
  | false =>
      rw [benign, Fault.isNotFound_refused, hneg, hneg, Confirmed]
      exact ⟨fun hcode => Or.inr ⟨h, hcode⟩, fun hconfirmed =>
        (hconfirmed.resolve_left fun hunlinked => hunlinked.not_linked h).2⟩

theorem run_ensure_eq {τ φ : Type} (ends : Machine.Ends κ τ φ) (machine : Machine κ τ φ)
    (route : Route) (enabled : Bool) :
    (route.ensure enabled).run (Machine.host ends) machine =
      (Pass.tolerate (benign enabled)
          ((route.change enabled).perform ends.peer machine.connection).1,
        { machine with
          connection := ((route.change enabled).perform ends.peer machine.connection).2 }) := by
  cases enabled <;> rfl

/-- A pass over a route whose request, if it comes to one, is settled by a report. It ends well
exactly if the report, or the missing device, confirms what is wanted. Without an index the machine
is as before. What fails is passed on, in context and with its kind. -/
theorem ensure_confirmed {τ φ : Type} {ends : Machine.Ends κ τ φ} {machine : Machine κ τ φ}
    {code : Int32} {enabled : Bool} (hleast : -2147483648 < code.toInt)
    (hanswered : machine.connection.Answered ends.peer (route.change enabled).call code) :
    let result := (route.ensure enabled).run (Machine.host ends) machine
    (result.1 = .ok () ↔ route.Confirmed machine.connection code enabled) ∧
      (¬ route.Linked machine.connection → result.2 = machine) ∧
      ∀ fault, result.1 = .error fault → ∃ cause, route.Cause machine.connection code cause ∧
        fault = cause.withContext (route.change enabled).purpose ∧ fault.kind = cause.kind := by
  intro result
  have hresult : result = _ := run_ensure_eq ends machine route enabled
  cases hindex : machine.connection.routeIndex route with
  | error fault =>
      have hunfound := unfound_of_routeIndex hindex
      rw [perform_of_routeIndex_error hindex] at hresult
      rw [hresult]
      refine ⟨?_, fun _ => rfl, ?_⟩
      · rw [Pass.tolerate_error_eq_ok_iff]
        exact hunfound.benign_iff code enabled
      · intro other hother
        rw [Pass.eq_of_tolerate_eq_error hother]
        exact ⟨fault, .unfound hunfound, (hunfound.withContext _).symm, rfl⟩
  | ok index =>
      have hlinked := linked_of_routeIndex hindex
      obtain ⟨request, hvalid⟩ := exists_request_of_routeIndex hindex enabled
      have houtcome := Mutation.fst_perform_of_answered hvalid hanswered
      have hsettled := hlinked.benign_iff (route.change enabled).purpose code enabled
      have hfirst : result.1 = _ := congrArg Prod.fst hresult
      rw [houtcome] at hfirst
      refine ⟨?_, fun hnot => absurd hlinked hnot, ?_⟩
      · rw [hfirst, ← hsettled]
        by_cases hzero : code = 0
        · rw [if_pos hzero]
          exact iff_of_true rfl (Or.inl hzero)
        · rw [if_neg hzero, Pass.tolerate_error_eq_ok_iff, or_iff_right hzero]
      · intro fault hfault
        rw [hfirst] at hfault
        by_cases hzero : code = 0
        · rw [if_pos hzero] at hfault
          cases hfault
        · rw [if_neg hzero] at hfault
          rw [Pass.eq_of_tolerate_eq_error hfault]
          exact ⟨.kernel (-code), .refused hlinked hzero (Errno.toInt_neg_of_lt hleast), rfl, rfl⟩

/-- The kernel has no such route to delete. Its report comes behind one on another number, and the
pass ends well. -/
theorem ensure_confirmed_gone_already :
    let route := ((toDestination (.host (.v4 0x0a7c0001#32))).onDevice "cbr0").inTable 1
    let report := fun seq code => Message.answering MessageKind.error seq 7 (Word.bytes32 code)
    let stray := Message.encodeAll [report 9 0xffffffef]
    let answer := Message.encodeAll [report 1 0xfffffffd]
    let connection := Connection.fresh 7 [.ok stray, .ok answer] [("cbr0", 5)] []
    let ends : Machine.Ends (List (Option Errno)) (List Iptables.ScriptedAnswer) FileTree :=
      ⟨Connection.scripted, Iptables.scripted, FileTree.files, "/"⟩
    let machine : Machine _ _ _ := ⟨connection, ⟨[], []⟩, ⟨[]⟩⟩
    Connection.Reports connection.seq connection.inbox (-3) ∧ route.Linked connection ∧
      ((route.ensure false).run (Machine.host ends) machine).1 = .ok () := by
  intro route report stray answer connection ends machine
  have hreports : Connection.Reports connection.seq connection.inbox (-3) := by
    refine ⟨report 1 0xfffffffd, ?_, by decide, by decide⟩
    cbv
  have htaken : ∀ turn ∈ connection.peer, turn = none :=
    fun turn hturn => absurd hturn List.not_mem_nil
  have hanswered : machine.connection.Answered ends.peer (route.change false).call (-3) :=
    Connection.answered_of_reports htaken hreports _
  have hlinked : route.Linked connection := by
    rintro name ⟨rfl⟩
    exact ⟨by decide, 5, rfl, by decide⟩
  obtain ⟨hok, -⟩ := ensure_confirmed (by decide) hanswered
  exact ⟨hreports, hlinked, hok.mpr (Or.inr ⟨hlinked, Or.inr (Or.inr rfl)⟩)⟩

end Route

end HostNet
