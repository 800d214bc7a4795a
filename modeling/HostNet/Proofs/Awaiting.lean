import HostNet.Proofs.Datagrams
/-!
Waiting for an answer. Both kinds of request read messages one by one until one of them, or a
failure, settles the result; they differ only in what a single message does. Main statements: how
messages are cut into datagrams makes no difference, the datagrams behind the one that settles the
result are left alone, and so is a wait by messages under other numbers.
-/
namespace HostNet.Connection

open HostNet.Wire

/-- How far reading has come: it goes on from a state, or its result is settled. -/
inductive Progress (σ α : Type) where
  | going (state : σ)
  | settled (result : Except Fault α)

section Wait

variable {σ α : Type}

/-- Read messages until the result is settled. A failure to read on settles it. -/
def scan (step : σ → Message → Progress σ α) : σ → List (Except Fault Message) → Progress σ α
  | state, [] => .going state
  | _, .error fault :: _ => .settled (.error fault)
  | state, .ok message :: rest =>
    match step state message with
    | .going state => scan step state rest
    | .settled result => .settled result

/-- Receive datagrams until the result is settled: the result, and what is left to receive. -/
def await (step : σ → Message → Progress σ α) :
    σ → List Datagram → Except Fault α × List Datagram
  | _, [] => (.error (.io (.os Errno.wouldBlock)), [])
  | _, .error errno :: rest => (.error (.io (.os errno)), rest)
  | state, .ok datagram :: rest =>
    match scan step state (messages datagram) with
    | .going state => await step state rest
    | .settled result => (result, rest)

/-- Only messages under the number make a difference. -/
def Heeds (step : σ → Message → Progress σ α) (seq : UInt32) : Prop :=
  ∀ state message, message.header.seq ≠ seq → step state message = .going state

/-- What receiving fails with where no datagram comes next. -/
def receiveFault? : List Datagram → Option Fault
  | [] => some (.io (.os Errno.wouldBlock))
  | .error errno :: _ => some (.io (.os errno))
  | .ok _ :: _ => none

variable {step : σ → Message → Progress σ α} {state between : σ}

theorem fst_await_of_receiveFault? {ending : List Datagram} {fault : Fault}
    (h : receiveFault? ending = some fault) : (await step state ending).1 = .error fault := by
  rcases ending with _ | ⟨_ | datagram, rest⟩
  · rw [← Option.some.inj h]
    rfl
  · rw [← Option.some.inj h]
    rfl
  · cases h

/-! ## Messages in turn -/

theorem scan_append {items : List (Except Fault Message)}
    (h : scan step state items = .going between) (later : List (Except Fault Message)) :
    scan step state (items ++ later) = scan step between later := by
  induction items generalizing state with
  | nil =>
      cases h
      rfl
  | cons item items ih =>
      cases item with
      | error fault => cases h
      | ok message =>
          rw [List.cons_append, scan]
          rw [scan] at h
          cases hstep : step state message with
          | going next =>
              rw [hstep] at h
              exact ih h
          | settled result =>
              rw [hstep] at h
              cases h

theorem scan_append_of_settled {items : List (Except Fault Message)} {result : Except Fault α}
    (h : scan step state items = .settled result) (later : List (Except Fault Message)) :
    scan step state (items ++ later) = .settled result := by
  induction items generalizing state with
  | nil => cases h
  | cons item items ih =>
      cases item with
      | error fault => exact h
      | ok message =>
          rw [List.cons_append, scan]
          rw [scan] at h
          cases hstep : step state message with
          | going next =>
              rw [hstep] at h
              exact ih h
          | settled last =>
              rw [hstep] at h
              exact h

/-- Where reading comes to an end, one message settles the result. -/
theorem exists_of_scan_settled {items : List Message} {result : Except Fault α}
    (h : scan step state (items.map .ok) = .settled result) :
    ∃ earlier last later between, items = earlier ++ last :: later ∧
      scan step state (earlier.map .ok) = .going between ∧
      step between last = .settled result := by
  induction items generalizing state with
  | nil => cases h
  | cons message items ih =>
      rw [List.map_cons, scan] at h
      cases hstep : step state message with
      | going next =>
          rw [hstep] at h
          obtain ⟨earlier, last, later, between, rfl, hscan, hlast⟩ := ih h
          refine ⟨message :: earlier, last, later, between, rfl, ?_, hlast⟩
          rw [List.map_cons, scan, hstep]
          exact hscan
      | settled last =>
          rw [hstep] at h
          exact ⟨[], message, items, state, rfl, rfl, hstep.trans h⟩

theorem scan_of_heeds {seq : UInt32} (hheeds : Heeds step seq) {items : List Message}
    (hother : ∀ message ∈ items, message.header.seq ≠ seq) :
    scan step state (items.map .ok) = .going state := by
  induction items with
  | nil => rfl
  | cons message items ih =>
      rw [List.map_cons, scan, hheeds state message (hother message List.mem_cons_self)]
      exact ih fun other hmem => hother other (List.mem_cons_of_mem message hmem)

/-! ## Datagrams in turn -/

theorem await_suffix (inbox : List Datagram) : (await step state inbox).2 <:+ inbox := by
  induction inbox generalizing state with
  | nil => exact List.suffix_refl _
  | cons datagram rest ih =>
      cases datagram with
      | error errno => exact List.suffix_cons _ _
      | ok bytes =>
          rw [await]
          cases scan step state (messages bytes) with
          | going next => exact ih.trans (List.suffix_cons _ _)
          | settled result => exact List.suffix_cons _ _

/-- A wait receives at least one datagram, if there is one. -/
theorem length_await_cons_le (datagram : Datagram) (rest : List Datagram) :
    (await step state (datagram :: rest)).2.length ≤ rest.length := by
  cases datagram with
  | error errno => exact Nat.le_refl _
  | ok bytes =>
      rw [await]
      cases scan step state (messages bytes) with
      | going next => exact (await_suffix rest).length_le
      | settled result => exact Nat.le_refl _

/-- Either the wait ends before some point of what is to be received, and then whatever follows is
left to receive, or it goes on from there as if it had begun there. -/
theorem await_append (step : σ → Message → Progress σ α) (state : σ) (before : List Datagram) :
    (∃ result left, ∀ later, await step state (before ++ later) = (result, left ++ later)) ∨
      ∃ between, ∀ later, await step state (before ++ later) = await step between later := by
  induction before generalizing state with
  | nil => exact Or.inr ⟨state, fun _ => rfl⟩
  | cons datagram before ih =>
      cases datagram with
      | error errno => exact Or.inl ⟨.error (.io (.os errno)), before, fun _ => rfl⟩
      | ok bytes =>
          simp only [List.cons_append, await]
          cases scan step state (messages bytes) with
          | going next => exact ih next
          | settled result => exact Or.inl ⟨result, before, fun _ => rfl⟩

variable {datagrams : List (List UInt8)}

theorem await_of_going {items : List Message} (hcarries : Carries datagrams items)
    (h : scan step state (items.map .ok) = .going between) (ending : List Datagram) :
    await step state (datagrams.map .ok ++ ending) = await step between ending := by
  induction hcarries generalizing state with
  | nil =>
      cases h
      rfl
  | @cons datagram group items datagrams packed fits _ ih =>
      rw [List.map_cons, List.cons_append, await, messages_of_packed packed fits]
      rw [List.map_append] at h
      cases hgroup : scan step state (group.map .ok) with
      | going next =>
          rw [scan_append hgroup] at h
          exact ih h
      | settled result =>
          rw [scan_append_of_settled hgroup] at h
          cases h

/-- One message settles the result. The datagrams behind its own are left, and they hold nothing
that came before it. -/
theorem await_of_settled {earlier later : List Message} {last : Message}
    {result : Except Fault α} (hcarries : Carries datagrams (earlier ++ last :: later))
    (hearlier : scan step state (earlier.map .ok) = .going between)
    (hlast : step between last = .settled result) (ending : List Datagram) :
    ∃ rest left, Carries rest left ∧ left <:+ later ∧
      await step state (datagrams.map .ok ++ ending) = (result, rest.map .ok ++ ending) := by
  generalize hitems : earlier ++ last :: later = items at hcarries
  induction hcarries generalizing state earlier with
  | nil => exact absurd hitems (by simp)
  | @cons datagram group items datagrams packed fits hrest ih =>
      simp only [List.map_cons, List.cons_append, await, messages_of_packed packed fits]
      rcases List.append_eq_append_iff.mp hitems with ⟨more, hgroup, hmore⟩ | ⟨more, hmore, hitems'⟩
      · rcases List.cons_eq_append_iff.mp hmore with ⟨rfl, hitems'⟩ | ⟨more, rfl, rfl⟩
        · -- the datagram ends right before the message that settles the result
          rw [List.append_nil] at hgroup
          subst hgroup
          have hnone : scan step between (([] : List Message).map .ok) = .going between := rfl
          rw [hearlier]
          exact ih hnone hitems'.symm
        · have hscan : scan step state (group.map .ok) = .settled result := by
            rw [hgroup, List.map_append, scan_append hearlier, List.map_cons, scan, hlast]
          rw [hscan]
          exact ⟨datagrams, items, hrest, List.suffix_append _ _, rfl⟩
      · subst hmore
        rw [List.map_append] at hearlier
        cases hgroup : scan step state (group.map .ok) with
        | going next =>
            rw [scan_append hgroup] at hearlier
            exact ih hearlier hitems'.symm
        | settled other =>
            rw [scan_append_of_settled hgroup] at hearlier
            cases hearlier

end Wait

/-! ## The two kinds of request -/

/-- A report under the number settles a request. -/
def outcomeStep (seq : UInt32) (_ : Unit) (message : Message) : Progress Unit Unit :=
  if message.header.seq = seq ∧ message.header.isError then .settled (reported message.payload)
  else .going ()

/-- A report or an end under the number settles a dump, and the payloads of the other messages
under it are its parts. -/
def dumpStep (seq : UInt32) (payloads : List (List UInt8)) (message : Message) :
    Progress (List (List UInt8)) (List (List UInt8)) :=
  if message.header.seq ≠ seq then .going payloads
  else if message.header.isError then
    .settled ((reported message.payload).map fun _ => payloads)
  else if message.header.isDone then .settled (.ok payloads)
  else .going (payloads ++ [message.payload])

theorem heeds_outcomeStep (seq : UInt32) : Heeds (outcomeStep seq) seq :=
  fun _ _ hother => if_neg fun h => hother h.1

theorem heeds_dumpStep (seq : UInt32) : Heeds (dumpStep seq) seq :=
  fun _ _ hother => if_pos hother

theorem findOutcome_eq_scan (seq : UInt32) (items : List (Except Fault Message)) :
    findOutcome seq items =
      match scan (outcomeStep seq) () items with
      | .going _ => none
      | .settled outcome => some outcome := by
  induction items with
  | nil => rfl
  | cons item items ih =>
      cases item with
      | error fault => rfl
      | ok message =>
          rw [findOutcome, scan, outcomeStep]
          split
          · rfl
          · exact ih

theorem collect_eq_scan (seq : UInt32) (payloads : List (List UInt8))
    (items : List (Except Fault Message)) :
    collect seq payloads items =
      match scan (dumpStep seq) payloads items with
      | .going payloads => .partway payloads
      | .settled (.ok payloads) => .complete payloads
      | .settled (.error fault) => .failed fault := by
  induction items generalizing payloads with
  | nil => rfl
  | cons item items ih =>
      cases item with
      | error fault => rfl
      | ok message =>
          rw [collect, scan, dumpStep]
          by_cases hother : message.header.seq ≠ seq
          · rw [if_pos hother, if_pos hother]
            exact ih payloads
          · rw [if_neg hother, if_neg hother]
            by_cases herror : message.header.isError = true
            · rw [if_pos herror, if_pos herror]
              cases reported message.payload with
              | ok _ => rfl
              | error fault => rfl
            · rw [if_neg herror, if_neg herror]
              by_cases hdone : message.header.isDone = true
              · rw [if_pos hdone, if_pos hdone]
              · rw [if_neg hdone, if_neg hdone]
                exact ih (payloads ++ [message.payload])

theorem awaitOutcome_eq (seq : UInt32) (inbox : List Datagram) :
    awaitOutcome seq inbox = await (outcomeStep seq) () inbox := by
  induction inbox with
  | nil => rfl
  | cons datagram rest ih =>
      cases datagram with
      | error errno => rfl
      | ok bytes =>
          rw [awaitOutcome, await, findOutcome_eq_scan]
          cases scan (outcomeStep seq) () (messages bytes) with
          | going _ => exact ih
          | settled outcome => rfl

theorem awaitDump_eq (seq : UInt32) (payloads : List (List UInt8)) (inbox : List Datagram) :
    awaitDump seq payloads inbox = await (dumpStep seq) payloads inbox := by
  induction inbox generalizing payloads with
  | nil => rfl
  | cons datagram rest ih =>
      cases datagram with
      | error errno => rfl
      | ok bytes =>
          rw [awaitDump, await, collect_eq_scan]
          cases scan (dumpStep seq) payloads (messages bytes) with
          | going payloads => exact ih payloads
          | settled result =>
              cases result with
              | ok payloads => rfl
              | error fault => rfl

end HostNet.Connection
