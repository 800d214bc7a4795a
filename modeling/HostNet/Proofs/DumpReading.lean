import HostNet.Proofs.Awaiting
import HostNet.Proofs.RuleRoundTrip
/-!
Reading a dump of rules. Main statement: the answer to a listing depends on the messages under its
own number up to the first report or end among them, and on nothing else: not on other messages
between them, and not on how all of them are cut into datagrams.
-/
namespace HostNet

open HostNet.Wire

/-- The number of a failure is the negated code, for all codes but the least, which has no
negation. -/
theorem Errno.toInt_neg_of_lt {code : Int32} (h : -2147483648 < code.toInt) :
    (-code).toInt = -code.toInt := by
  have hlow := Int32.le_toInt code
  have hhigh := Int32.toInt_lt code
  rw [Int32.toInt_neg]
  apply Int.bmod_eq_of_le
  · omega
  · omega

namespace Wire.Message

/-- The message reports the outcome of a request. -/
def reports (message : Message) : Bool :=
  message.header.kind == 2

/-- The message is the end of an answer in several parts. -/
def ends (message : Message) : Bool :=
  message.header.kind == 3

/-- The message is the last one of an answer: an end, or the report of an outcome. -/
def concludes (message : Message) : Bool :=
  message.reports || message.ends

/-- The number that a report begins with: 0, or a negated error number. -/
def code (report : Message) : Int32 :=
  (Word.word32 (report.payload.take 4)).toInt32

theorem isError_eq_reports (message : Message) : message.header.isError = message.reports := rfl

theorem isDone_eq_ends (message : Message) : message.header.isDone = message.ends := rfl

theorem reports_of_ends {message : Message} (h : message.ends = true) :
    message.reports = false := by
  have hkind : message.header.kind = 3 := beq_iff_eq.mp h
  rw [reports, hkind]
  rfl

end Wire.Message

namespace Connection

theorem reported_of_lt {report : Message} (h : report.payload.length < 4) :
    reported report.payload = .error (.truncated 4 report.payload.length) := by
  rw [reported, Message.outcomeCode, if_neg (Nat.not_le.mpr h)]

theorem reported_of_le {report : Message} (h : 4 ≤ report.payload.length) :
    reported report.payload =
      if report.code = 0 then .ok () else .error (Fault.ofCode report.code) := by
  rw [reported, Message.outcomeCode, if_pos h]
  rfl

/-- The rules of a family among those that the payloads are read as, in their order, or the first
failure to read one. -/
def recognizedRules (family : Family) (payloads : List (List UInt8)) :
    Except Fault (List Rule) := do
  let rules ← payloads.mapM readRule
  return (rules.filterMap id).filter fun rule => rule.family == family

theorem readRules_eq (family : Family) (payloads : List (List UInt8)) :
    readRules family payloads = recognizedRules family payloads := by
  induction payloads with
  | nil => rfl
  | cons payload payloads ih =>
      rw [readRules, ih, recognizedRules, recognizedRules, List.mapM_cons]
      cases readRule payload with
      | error fault => rfl
      | ok rule? =>
          cases payloads.mapM readRule with
          | error fault => rfl
          | ok rules =>
              cases rule? with
              | none => rfl
              | some rule =>
                  by_cases hfamily : rule.family = family <;>
                    simp [bind, Except.bind, pure, Except.pure, Option.filter, hfamily]

variable {κ : Type}

/-- The request is sent, and what is to be received from then on are the datagrams and what stands
behind them. -/
def Receives (connection : Connection κ) (peer : Peer κ) (request : Request)
    (datagrams : List (List UInt8)) (ending : List Datagram) : Prop :=
  ∃ answers state, peer (request.encode connection.seq connection.port) connection.peer =
      (.ok answers, state) ∧
    connection.inbox ++ answers = datagrams.map .ok ++ ending

section Dump

variable {seq : UInt32} {payloads : List (List UInt8)}

/-- Up to the end of the answer, the payloads under the number are collected in their order. -/
theorem scan_dumpStep {items : List Message}
    (h : ∀ message ∈ items, message.header.seq = seq → message.concludes = false) :
    scan (dumpStep seq) payloads (items.map .ok) =
      .going (payloads ++
        (items.filter fun message => message.header.seq == seq).map Message.payload) := by
  induction items generalizing payloads with
  | nil => simp [scan]
  | cons message items ih =>
      have hrest := fun other hother => h other (List.mem_cons_of_mem message hother)
      rw [List.map_cons, scan]
      by_cases hseq : message.header.seq = seq
      · have hplain := h message List.mem_cons_self hseq
        simp only [Message.concludes, Bool.or_eq_false_iff] at hplain
        have hstep : dumpStep seq payloads message = .going (payloads ++ [message.payload]) := by
          simp [dumpStep, hseq, Message.isError_eq_reports, Message.isDone_eq_ends, hplain.1,
            hplain.2]
        rw [hstep]
        simp only
        rw [ih hrest, List.filter_cons_of_pos (by simp [hseq])]
        simp
      · rw [heeds_dumpStep seq payloads message hseq]
        simp only
        rw [ih hrest, List.filter_cons_of_neg (by simp [hseq])]

/-- The first message under the number that concludes the answer settles the dump. -/
theorem scan_dumpStep_of_own {items earlier later : List Message} {last : Message}
    {result : Except Fault (List (List UInt8))}
    (hown : (items.filter fun message => message.header.seq == seq) = earlier ++ last :: later)
    (hearlier : ∀ message ∈ earlier, message.concludes = false)
    (hlast : dumpStep seq (earlier.map Message.payload) last = .settled result) :
    scan (dumpStep seq) [] (items.map .ok) = .settled result := by
  obtain ⟨front, back, rfl, hfront, hback⟩ := List.filter_eq_append_iff.mp hown
  obtain ⟨gap, rest, rfl, hgap, hseq, -⟩ := List.filter_eq_cons_iff.mp hback
  have hbefore : ∀ message ∈ front ++ gap, message.header.seq = seq →
      message.concludes = false := by
    intro message hmem hmine
    rcases List.mem_append.mp hmem with hmem | hmem
    · apply hearlier
      rw [← hfront]
      exact List.mem_filter.mpr ⟨hmem, by simp [hmine]⟩
    · exact absurd (beq_iff_eq.mpr hmine) (hgap message hmem)
  have hnone : (gap.filter fun message => message.header.seq == seq) = [] :=
    List.filter_eq_nil_iff.mpr hgap
  have hscan := @scan_dumpStep seq [] (front ++ gap) hbefore
  rw [List.filter_append, hfront, hnone, List.append_nil, List.nil_append] at hscan
  rw [← List.append_assoc, List.map_append, scan_append hscan, List.map_cons, scan, hlast]

/-- The answer to a listing is decided by the messages, however they are cut into datagrams. -/
theorem listRules_eq_of_receives {peer : Peer κ} {connection : Connection κ} {family : Family}
    {datagrams : List (List UInt8)} {items : List Message} {ending : List Datagram}
    {fault : Fault} (hcarries : Carries datagrams items)
    (hending : receiveFault? ending = some fault)
    (hreceives : connection.Receives peer (ruleDumpRequest family) datagrams ending) :
    (connection.listRules peer family).1 =
      match scan (dumpStep connection.seq) [] (items.map .ok) with
      | .going _ => .error fault
      | .settled result => result.bind (recognizedRules family) := by
  obtain ⟨answers, state, hpeer, hinbox⟩ := hreceives
  have hlist : (connection.listRules peer family).1 =
      (await (dumpStep connection.seq) [] (datagrams.map .ok ++ ending)).1.bind
        (recognizedRules family) := by
    have hread : readRules family = recognizedRules family := funext (readRules_eq family)
    rw [listRules, dump, send, hpeer, ← hread]
    simp only
    rw [hinbox, awaitDump_eq]
  rw [hlist]
  cases hscan : scan (dumpStep connection.seq) [] (items.map .ok) with
  | going between =>
      rw [await_of_going hcarries hscan, fst_await_of_receiveFault? hending]
      rfl
  | settled result =>
      obtain ⟨earlier, last, later, between, rfl, hearlier, hlast⟩ := exists_of_scan_settled hscan
      obtain ⟨rest, left, -, -, hawait⟩ := await_of_settled hcarries hearlier hlast ending
      rw [hawait]

end Dump

/-- A listing whose request is sent reads the messages under its own number up to the first that
concludes an answer. After an end, or a report of success, the answer is the recognized rules of
the family; after a report of a failure it is that failure; without either it is the failure to
receive. However the same messages are cut into datagrams, the answer is the same. -/
theorem listRules_of_carries {peer : Peer κ} {connection : Connection κ} {family : Family}
    {datagrams : List (List UInt8)} {items : List Message} {ending : List Datagram}
    {fault : Fault} (hcarries : Carries datagrams items)
    (hending : receiveFault? ending = some fault)
    (hreceives : connection.Receives peer (ruleDumpRequest family) datagrams ending) :
    let own := items.filter fun message => message.header.seq == connection.seq
    let answer := (connection.listRules peer family).1
    (∀ earlier last later, own = earlier ++ last :: later →
        (∀ message ∈ earlier, message.concludes = false) →
        (last.ends = true ∨ last.reports = true ∧ 4 ≤ last.payload.length ∧ last.code = 0 →
          answer = recognizedRules family (earlier.map Message.payload)) ∧
        (last.reports = true → 4 ≤ last.payload.length → last.code ≠ 0 →
          -2147483648 < last.code.toInt →
          ∃ errno : Errno, errno.toInt = -last.code.toInt ∧ answer = .error (.kernel errno))) ∧
      ((∀ message ∈ own, message.concludes = false) → answer = .error fault) ∧
      ∀ (other : Connection κ) (regrouped : List (List UInt8)) (otherEnding : List Datagram),
        other.seq = connection.seq → Carries regrouped items →
        receiveFault? otherEnding = some fault →
        other.Receives peer (ruleDumpRequest family) regrouped otherEnding →
        (other.listRules peer family).1 = answer := by
  intro own answer
  have hanswer := listRules_eq_of_receives hcarries hending hreceives
  refine ⟨?_, ?_, ?_⟩
  · intro earlier last later hown hearlier
    have hseq : last.header.seq = connection.seq := by
      have hmem : last ∈ own := by
        rw [hown]
        exact List.mem_append_right _ List.mem_cons_self
      exact beq_iff_eq.mp (List.mem_filter.mp hmem).2
    have hsettled : ∀ result,
        dumpStep connection.seq (earlier.map Message.payload) last = .settled result →
        answer = result.bind (recognizedRules family) := by
      intro result hlast
      exact hanswer.trans (by rw [scan_dumpStep_of_own hown hearlier hlast])
    constructor
    · intro hend
      refine hsettled (.ok (earlier.map Message.payload)) ?_
      rcases hend with hdone | ⟨hreport, hlong, hcode⟩
      · have hplain := Message.reports_of_ends hdone
        simp [dumpStep, hseq, Message.isError_eq_reports, Message.isDone_eq_ends, hdone, hplain]
      · rw [dumpStep, if_neg (not_not_intro hseq), Message.isError_eq_reports, if_pos hreport,
          reported_of_le hlong, if_pos hcode]
        rfl
    · intro hreport hlong hne hlow
      refine ⟨-last.code, Errno.toInt_neg_of_lt hlow, ?_⟩
      apply hsettled (.error (.kernel (-last.code)))
      rw [dumpStep, if_neg (not_not_intro hseq), Message.isError_eq_reports, if_pos hreport,
        reported_of_le hlong, if_neg hne]
      rfl
  · intro hnone
    have hplain : ∀ message ∈ items, message.header.seq = connection.seq →
        message.concludes = false :=
      fun message hmem hmine => hnone message (List.mem_filter.mpr ⟨hmem, beq_iff_eq.mpr hmine⟩)
    refine hanswer.trans ?_
    rw [scan_dumpStep hplain]
  · intro other regrouped otherEnding hnumber hregrouped hotherEnding hother
    have hsame := listRules_eq_of_receives hregrouped hotherEnding hother
    rw [hnumber] at hsame
    exact hsame.trans hanswer.symm

/-- A report under another number in the midst of a dump does not end it, and the rule is listed
though the end comes in a datagram of its own. -/
theorem listRules_of_carries_stray_report :
    let rule := (Rule.ofFamily .inet).withPriority 100
    ∃ request, ruleRequest .add rule = .ok request ∧
      let part := Message.answering MessageKind.newRule 1 7 request.body
      let stray := Message.answering MessageKind.error 9 7 (Word.bytes32 1)
      let done := Message.answering MessageKind.done 1 7 (Word.bytes32 0)
      let datagrams := [Message.encodeAll [part, stray], Message.encodeAll [done]]
      let connection := fresh 7 (datagrams.map .ok) [] []
      Carries datagrams [part, stray, done] ∧
        receiveFault? [] = some (.io (.os Errno.wouldBlock)) ∧
        connection.Receives scripted (ruleDumpRequest .inet) datagrams [] ∧
        (connection.listRules scripted .inet).1 = .ok [rule] := by
  intro rule
  have hrequest : ruleRequest .add rule = .ok ⟨_, _, _, _⟩ := rfl
  have hexact : rule.Exact :=
    ⟨⟨nofun, nofun⟩, nofun, nofun, nofun, nofun⟩
  refine ⟨_, hrequest, ?_⟩
  intro part stray done datagrams connection
  have hpart : part.Framed := Message.framed_answering (length_ruleRequest_lt hrequest) _ _ _
  have hstray : stray.Framed := Message.framed_answering (by decide) _ _ _
  have hdone : done.Framed := Message.framed_answering (by decide) _ _ _
  have hfirst : Message.Packed [part, stray] (Message.encodeAll [part, stray]) :=
    Message.packed_encodeAll (by simpa using ⟨hpart, hstray⟩)
  have hsecond : Message.Packed [done] (Message.encodeAll [done]) :=
    Message.packed_encodeAll (by simpa using hdone)
  have hcarries : Carries datagrams [part, stray, done] :=
    Carries.cons hfirst (by decide +kernel) (Carries.cons hsecond (by decide +kernel) Carries.nil)
  have hreceives : connection.Receives scripted (ruleDumpRequest .inet) datagrams [] :=
    ⟨[], [], rfl, rfl⟩
  refine ⟨hcarries, rfl, hreceives, ?_⟩
  obtain ⟨hend, -⟩ := listRules_of_carries hcarries rfl hreceives
  have hread : readRule part.payload = .ok (some rule) := readRule_body hexact hrequest
  have hanswer := (hend [part] done [] rfl (by simp [part]; decide)).1 (Or.inl rfl)
  rw [hanswer, recognizedRules, List.map_cons, List.mapM_cons, hread]
  rfl

end Connection

end HostNet
