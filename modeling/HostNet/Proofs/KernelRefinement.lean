import HostNet.Proofs.DumpReading
import HostNet.Proofs.Exchanges
import HostNet.Proofs.ReferenceKernel
import HostNet.Proofs.RuleInstances
/-!
Rules through a socket and rules in memory. Against a kernel that holds the rules of a memory, a
call on the socket is answered as the memory answers it, and the kernel holds the rules of the
memory afterwards. Main statement: hence a rule is brought about alike on both, in either
direction.
-/
namespace HostNet

open HostNet.Wire

/-- The same answer, or failures of the same kind. -/
def SameKind {α : Type} (first second : Except Fault α) : Prop :=
  first.mapError Fault.kind = second.mapError Fault.kind

theorem SameKind.refl {α : Type} (answer : Except Fault α) : SameKind answer answer :=
  rfl

theorem sameKind_error_iff {α : Type} {first second : Fault} :
    SameKind (.error first : Except Fault α) (.error second) ↔ first.kind = second.kind :=
  ⟨Except.error.inj, congrArg Except.error⟩

theorem SameKind.tolerate {benign : Fault → Bool} {reply answer : Outcome}
    (hbenign : ∀ first second : Fault, first.kind = second.kind → benign first = benign second)
    (h : SameKind reply answer) :
    SameKind (Pass.tolerate benign reply) (Pass.tolerate benign answer) := by
  cases reply with
  | ok _ =>
      cases answer with
      | ok _ => rfl
      | error fault => cases h
  | error first =>
      cases answer with
      | ok _ => cases h
      | error second =>
          rw [Pass.tolerate, Pass.tolerate, hbenign first second (sameKind_error_iff.mp h)]
          split
          · rfl
          · exact h

/-- What is to be reported depends on the kinds of failures only. -/
theorem SameKind.latest {sofar other reply answer : Outcome} (hsofar : SameKind sofar other)
    (hreply : SameKind reply answer) :
    SameKind (Rule.latest Fault.isNotFound sofar reply)
      (Rule.latest Fault.isNotFound other answer) := by
  cases reply with
  | ok _ =>
      cases answer with
      | ok _ => exact hsofar
      | error fault => cases hreply
  | error first =>
      cases answer with
      | ok _ => cases hreply
      | error second =>
          have hkind := sameKind_error_iff.mp hreply
          rw [Rule.latest, Rule.latest, Fault.isNotFound, Fault.isNotFound, hkind]
          split
          · exact hsofar
          · exact hreply

theorem sameKind_inContext (operation : String) (outcome : Outcome) :
    SameKind (Connection.inContext operation outcome) outcome := by
  cases outcome with
  | ok _ => rfl
  | error fault => exact congrArg Except.error (Fault.kind_withContext operation fault)

namespace Rule

/-- The rule can be requested, and travels unchanged. -/
structure Canonical (rule : Rule) : Prop where
  exact : rule.Exact
  named : rule.Named

/-- Nothing that makes a rule canonical looks at its priority. -/
theorem Canonical.installedForm {rule : Rule} (h : rule.Canonical) :
    (Memory.installedForm rule).Canonical :=
  ⟨⟨h.exact.coherent, h.exact.src, h.exact.dst, h.exact.masked, h.exact.zero⟩, h.named⟩

end Rule

/-- A call about rules. Those it adds or deletes are canonical. -/
def Call.Canonical : Call → Prop
  | addRule rule => rule.Canonical
  | delRule rule => rule.Canonical
  | listRules _ => True
  | _ => False

/-! ## Tables -/

namespace Wire.RuleVerb

/-- A request for a rule looks at the rules only. -/
theorem apply_congr {first second : Memory} (h : first.rules = second.rules) (verb : RuleVerb)
    (rule : Rule) :
    (verb.apply first rule).1 = (verb.apply second rule).1 ∧
      (verb.apply first rule).2.rules = (verb.apply second rule).2.rules := by
  cases verb with
  | add =>
      simp only [apply, Memory.addRule, h]
      split <;> simp [h]
  | delete =>
      simp only [apply, Memory.delRule, h]
      split <;> simp [h]

/-- The outcome of a request for a rule is success or one of two errors. -/
theorem apply_outcome (verb : RuleVerb) (memory : Memory) (rule : Rule) :
    (verb.apply memory rule).1 = .ok () ∨
      ∃ errno : Errno, errno ≠ 0 ∧ (verb.apply memory rule).1 = .error (.kernel errno) := by
  cases verb with
  | add =>
      simp only [apply, Memory.addRule]
      split
      · exact Or.inr ⟨Errno.alreadyExists, by decide, rfl⟩
      · exact Or.inl rfl
  | delete =>
      simp only [apply, Memory.delRule]
      split
      · exact Or.inl rfl
      · exact Or.inr ⟨Errno.noEntry, by decide, rfl⟩

/-- Every rule after a request was there before, or is the requested one as it is installed. -/
theorem mem_apply {verb : RuleVerb} {memory : Memory} {rule other : Rule}
    (h : other ∈ (verb.apply memory rule).2.rules) :
    other ∈ memory.rules ∨ other = Memory.installedForm rule := by
  cases verb with
  | add =>
      simp only [apply, Memory.addRule] at h
      split at h
      · exact Or.inl h
      · simpa using h
  | delete =>
      simp only [apply, Memory.delRule] at h
      split at h
      · exact Or.inl (List.mem_of_mem_eraseP h)
      · exact Or.inl h

end Wire.RuleVerb

namespace Connection

/-- Nothing that is to be received holds a message. -/
def Idle {κ : Type} (connection : Connection κ) : Prop :=
  ∃ datagrams, connection.inbox = datagrams.map .ok ∧ Carries datagrams []

/-- What a report says that begins with a code. -/
theorem reported_code (code : Int32) (rest : List UInt8) :
    reported (Word.bytes32 code.toUInt32 ++ rest) =
      if code = 0 then .ok () else .error (Fault.ofCode code) := by
  have htake : (Word.bytes32 code.toUInt32 ++ rest).take 4 = Word.bytes32 code.toUInt32 :=
    List.take_left' (Word.length_bytes32 _)
  have hlong : 4 ≤ (Word.bytes32 code.toUInt32 ++ rest).length := by
    rw [List.length_append, Word.length_bytes32]
    omega
  rw [reported, Message.outcomeCode, if_pos hlong, htake, Word.word32_bytes32]
  rfl

/-- An exchange on an idle socket whose answer is settled by its last message has that result, and
leaves the socket idle. -/
theorem exchange_of_answered {κ σ α : Type} {peer : Peer κ} {request : Request}
    {step : σ → Message → Progress σ α} {start between : σ} {connection : Connection κ} {state : κ}
    {datagrams : List (List UInt8)} {earlier : List Message} {last : Message}
    {result : Except Fault α} (hidle : connection.Idle)
    (hpeer : peer (request.encode connection.seq connection.port) connection.peer =
      (.ok (datagrams.map .ok), state))
    (hcarries : Carries datagrams (earlier ++ [last]))
    (hearlier : scan step start (earlier.map .ok) = .going between)
    (hlast : step between last = .settled result) :
    let outcome := connection.exchange peer request step start
    outcome.1 = result ∧ outcome.2.peer = state ∧ outcome.2.Idle := by
  obtain ⟨idle, hinbox, hnone⟩ := hidle
  have hboth : Carries (idle ++ datagrams) (earlier ++ [last]) := hnone.append hcarries
  obtain ⟨rest, left, hrest, hleft, hawait⟩ := await_of_settled hboth hearlier hlast []
  have hempty : left = [] := List.suffix_nil.mp hleft
  have hall : connection.inbox ++ datagrams.map .ok = (idle ++ datagrams).map .ok ++ [] := by
    rw [hinbox, List.map_append, List.append_nil]
  intro outcome
  have houtcome : outcome = (result, { connection with
      seq := connection.seq + 1
      inbox := rest.map .ok ++ []
      sent := connection.sent ++ [request.encode connection.seq connection.port]
      peer := state }) := by
    simp only [outcome, exchange, send, hpeer, hall, hawait]
  rw [houtcome]
  refine ⟨rfl, rfl, rest, ?_, ?_⟩
  · rw [List.append_nil]
  · rwa [hempty] at hrest

/-- The kernel behind the socket holds the rules of the memory, all of them canonical and with a
priority, and no answer is left over. -/
structure Mirrors {ς : Type} (connection : Connection (Kernel ς)) (memory : Memory) : Prop where
  rules : connection.peer.rules = memory.rules
  canonical : ∀ rule ∈ memory.rules, rule.Canonical
  prioritized : ∀ rule ∈ memory.rules, rule.priority.isSome = true
  idle : connection.Idle

/-! ## Calls -/

section Calls

variable {ς : Type} {packing : Packing ς} {peer : Peer (Kernel ς)}
  {connection : Connection (Kernel ς)} {memory : Memory}

/-- The kernel answers a request for a canonical rule with what the memory answers. -/
theorem answer_change {verb : RuleVerb} {rule : Rule} {request : Request} {rules : List Rule}
    (hrule : rule.Canonical) (hrequest : ruleRequest verb rule = .ok request)
    (hrules : rules = memory.rules) (seq port : UInt32) :
    let changed := verb.apply memory rule
    Kernel.answer ⟨request.header seq port, request.body⟩ rules =
      ([Kernel.acknowledgement (request.header seq port) (Kernel.code changed.1)],
        changed.2.rules) := by
  have hkind : (request.header seq port).kind = verb.kind := by
    rw [(ruleRequest_eq_ok hrequest).2]
    rfl
  have hsame : { Memory.empty with rules := rules }.rules = memory.rules := hrules
  obtain ⟨houtcome, hafter⟩ := verb.apply_congr hsame rule
  have hchange : Kernel.change verb request.body rules =
      (Kernel.code (verb.apply memory rule).1, (verb.apply memory rule).2.rules) := by
    rw [Kernel.change, readRule_body hrule.exact hrequest, ← houtcome, ← hafter]
  have hanswer := Kernel.answer_verb ⟨request.header seq port, request.body⟩ hkind rules
  simp only [hchange] at hanswer
  exact hanswer

/-- An acknowledgement under the number settles a request with the outcome it tells of. -/
theorem outcomeStep_acknowledgement {header : Header} {outcome : Outcome}
    (houtcome : outcome = .ok () ∨
      ∃ errno : Errno, errno ≠ 0 ∧ outcome = .error (.kernel errno)) :
    outcomeStep header.seq () (Kernel.acknowledgement header (Kernel.code outcome)) =
      .settled outcome := by
  have hstep : outcomeStep header.seq () (Kernel.acknowledgement header (Kernel.code outcome)) =
      .settled (reported (Word.bytes32 (Kernel.code outcome).toUInt32 ++ header.encode)) :=
    if_pos ⟨rfl, rfl⟩
  rw [hstep, reported_code]
  rcases houtcome with rfl | ⟨errno, hne, rfl⟩
  · rfl
  · have hcode : Kernel.code (.error (.kernel errno)) = -errno := rfl
    rw [hcode, if_neg (by simpa using hne), Fault.ofCode, Int32.neg_neg]

theorem changeRule_mirrors (hpeer : peer = Kernel.peer packing) (h : connection.Mirrors memory)
    {rule : Rule} (hrule : rule.Canonical) (verb : RuleVerb) :
    let changed := connection.changeRule peer verb rule
    SameKind changed.1 (verb.apply memory rule).1 ∧
      changed.2.Mirrors (verb.apply memory rule).2 := by
  subst hpeer
  obtain ⟨request, hrequest⟩ := exists_ruleRequest_iff.mpr hrule.named
  obtain ⟨datagrams, state, hpeer, hcarries, hrules⟩ :=
    Kernel.peer_encode packing connection.peer (length_body_ruleRequest_le hrequest)
      connection.seq connection.port
  rw [answer_change hrule hrequest h.rules connection.seq connection.port] at hcarries hrules
  have hearlier : scan (outcomeStep connection.seq) () (([] : List Message).map .ok) =
      .going () := rfl
  obtain ⟨hresult, hstate, hidle⟩ := exchange_of_answered h.idle hpeer hcarries hearlier
    (outcomeStep_acknowledgement (verb.apply_outcome memory rule))
  simp only [changeRule, hrequest, request_eq_exchange]
  refine ⟨?_, ?_, ?_, ?_, hidle⟩
  · rw [hresult]
    exact sameKind_inContext _ _
  · exact (congrArg Kernel.rules hstate).trans hrules
  · intro other hmem
    rcases RuleVerb.mem_apply hmem with hbefore | rfl
    · exact h.canonical other hbefore
    · exact hrule.installedForm
  · intro other hmem
    rcases RuleVerb.mem_apply hmem with hbefore | rfl
    · exact h.prioritized other hbefore
    · rfl

theorem readRule_reportBody {rule : Rule} (hrule : rule.Canonical) :
    readRule (Kernel.reportBody rule) = .ok (some rule) := by
  have haccepted : ∃ request, ruleRequest .add rule = .ok request :=
    exists_ruleRequest_iff.mpr hrule.named
  obtain ⟨request, hrequest⟩ := haccepted
  rw [Kernel.reportBody, hrequest]
  exact readRule_body hrule.exact hrequest

/-- The payloads of a report of canonical rules are read as these rules. -/
theorem mapM_readRule_reportBody {rules : List Rule} (h : ∀ rule ∈ rules, rule.Canonical) :
    (rules.map Kernel.reportBody).mapM readRule = .ok (rules.map some) := by
  induction rules with
  | nil => rfl
  | cons rule rules ih =>
      have hrest := ih fun other hother => h other (List.mem_cons_of_mem rule hother)
      rw [List.map_cons, List.mapM_cons, readRule_reportBody (h rule List.mem_cons_self), hrest]
      rfl

theorem recognizedRules_report {rules : List Rule} (h : ∀ rule ∈ rules, rule.Canonical)
    (family : Family) :
    recognizedRules family (rules.map Kernel.reportBody) =
      .ok (rules.filter fun rule => rule.family == family) := by
  rw [recognizedRules, mapM_readRule_reportBody h]
  simp [bind, Except.bind, pure, Except.pure]

/-- A report of rules and the end behind it settle a dump with the bodies of the report. -/
theorem scan_report (header : Header) (rules : List Rule) :
    scan (dumpStep header.seq) [] ((rules.map (Kernel.report header)).map .ok) =
        .going (rules.map Kernel.reportBody) ∧
      dumpStep header.seq (rules.map Kernel.reportBody) (Kernel.ending header) =
        .settled (.ok (rules.map Kernel.reportBody)) := by
  constructor
  · have hplain : ∀ message ∈ rules.map (Kernel.report header),
        message.header.seq = header.seq → message.concludes = false := by
      intro message hmem _
      obtain ⟨rule, -, rfl⟩ := List.mem_map.mp hmem
      rfl
    have hown : (rules.map (Kernel.report header)).filter
        (fun message => message.header.seq == header.seq) = rules.map (Kernel.report header) := by
      apply List.filter_eq_self.mpr
      intro message hmem
      obtain ⟨rule, -, rfl⟩ := List.mem_map.mp hmem
      exact beq_self_eq_true header.seq
    rw [scan_dumpStep hplain, hown, List.nil_append, List.map_map]
    rfl
  · have hseq : (Kernel.ending header).header.seq = header.seq := rfl
    rw [dumpStep, if_neg (not_not_intro hseq)]
    rfl

theorem listRules_mirrors (hpeer : peer = Kernel.peer packing) (h : connection.Mirrors memory)
    (family : Family) :
    let listed := connection.listRules peer family
    listed.1 = .ok (memory.listRules family) ∧ listed.2.Mirrors memory := by
  subst hpeer
  have hsmall : (ruleDumpRequest family).body.length ≤ 1024 := by
    cases family <;> decide
  obtain ⟨datagrams, state, hpeer, hcarries, hrules⟩ :=
    Kernel.peer_encode packing connection.peer hsmall connection.seq connection.port
  rw [Kernel.answer_dump rfl] at hcarries hrules
  obtain ⟨hearlier, hlast⟩ :=
    scan_report ((ruleDumpRequest family).header connection.seq connection.port)
      connection.peer.rules
  obtain ⟨hresult, hstate, hidle⟩ :=
    exchange_of_answered h.idle hpeer hcarries hearlier hlast
  have hread : readRules family = recognizedRules family := funext (readRules_eq family)
  simp only [listRules, dump_eq_exchange]
  refine ⟨?_, ?_, h.canonical, h.prioritized, hidle⟩
  · refine (congrArg (fun result => result.bind (readRules family)) hresult).trans ?_
    rw [hread, h.rules]
    exact recognizedRules_report h.canonical family
  · exact (congrArg Kernel.rules hstate).trans (hrules.trans h.rules)

end Calls

end Connection

namespace Machine

variable {ς τ φ : Type} {packing : Packing ς} {ends : Ends (Kernel ς) τ φ}
  {machine : Machine (Kernel ς) τ φ} {memory : Memory}

/-- A call about rules is answered alike on both hosts, and they stay alike. -/
theorem host_mirrors (hpeer : ends.peer = Kernel.peer packing)
    (h : machine.connection.Mirrors memory) {call : Call} (hcall : call.Canonical) :
    SameKind (host ends call machine).1 (Memory.host call memory).1 ∧
      (host ends call machine).2.connection.Mirrors (Memory.host call memory).2 := by
  cases call with
  | addRule rule => exact Connection.changeRule_mirrors hpeer h hcall .add
  | delRule rule => exact Connection.changeRule_mirrors hpeer h hcall .delete
  | listRules family =>
      obtain ⟨hlisted, hafter⟩ := Connection.listRules_mirrors hpeer h family
      exact ⟨congrArg (Except.mapError Fault.kind) hlisted, hafter⟩
  | _ => exact hcall.elim

/-! ## Bringing a rule about -/

theorem run_deleteEach_mirrors (hpeer : ends.peer = Kernel.peer packing)
    (h : machine.connection.Mirrors memory) {victims : List Rule}
    (hvictims : ∀ victim ∈ victims, victim.Canonical) {sofar other : Outcome}
    (hsofar : SameKind sofar other) :
    let first := (Rule.deleteEach victims sofar).run (host ends) machine
    let second := (Rule.deleteEach victims other).run Memory.host memory
    SameKind first.1 second.1 ∧ first.2.connection.Mirrors second.2 := by
  induction victims generalizing machine memory sofar other with
  | nil => exact ⟨hsofar, h⟩
  | cons victim victims ih =>
      have hcall : (Call.delRule victim).Canonical := hvictims victim List.mem_cons_self
      obtain ⟨hreply, hafter⟩ := host_mirrors hpeer h hcall
      exact ih hafter (fun later hlater => hvictims later (List.mem_cons_of_mem victim hlater))
        (hsofar.latest hreply)

theorem run_converge_mirrors (hpeer : ends.peer = Kernel.peer packing)
    (h : machine.connection.Mirrors memory) {rule : Rule} (hrule : rule.Canonical)
    {installed : List Rule} (hinstalled : ∀ other ∈ installed, other.Canonical) (enabled : Bool) :
    let first := (rule.converge enabled installed).run (host ends) machine
    let second := (rule.converge enabled installed).run Memory.host memory
    SameKind first.1 second.1 ∧ first.2.connection.Mirrors second.2 := by
  cases enabled with
  | false =>
      rw [Rule.converge]
      exact run_deleteEach_mirrors hpeer h hinstalled (SameKind.refl _)
  | true =>
      cases installed with
      | nil =>
          have hcall : (Call.addRule rule).Canonical := hrule
          obtain ⟨hreply, hafter⟩ := host_mirrors hpeer h hcall
          have hbenign : ∀ first second : Fault, first.kind = second.kind →
              first.isAlreadyExists = second.isAlreadyExists := by
            intro first second hkind
            rw [Fault.isAlreadyExists, Fault.isAlreadyExists, hkind]
          exact ⟨SameKind.tolerate hbenign hreply, hafter⟩
      | cons first others =>
          rw [Rule.converge]
          · refine run_deleteEach_mirrors hpeer h (fun victim hvictim => ?_) (SameKind.refl _)
            exact hinstalled victim (List.dropLast_subset _ hvictim)
          · nofun

/-- A rule is brought about, or taken away, alike on both hosts. -/
theorem run_ensure_mirrors (hpeer : ends.peer = Kernel.peer packing)
    (h : machine.connection.Mirrors memory) {rule : Rule} (hrule : rule.Canonical)
    (enabled : Bool) :
    let first := (rule.ensure enabled).run (host ends) machine
    let second := (rule.ensure enabled).run Memory.host memory
    SameKind first.1 second.1 ∧ first.2.connection.Mirrors second.2 := by
  obtain ⟨hlisted, hafter⟩ := Connection.listRules_mirrors hpeer h rule.family
  have hinstances : ∀ other ∈ rule.instances (memory.listRules rule.family), other.Canonical := by
    intro other hmem
    have hlist := (Rule.mem_instances.mp hmem).1
    exact h.canonical other (List.mem_filter.mp hlist).1
  have hreply : (host ends (.listRules rule.family) machine).1 =
      .ok (memory.listRules rule.family) := hlisted
  rw [Rule.ensure, Pass.run_call, Pass.run_call, hreply]
  exact run_converge_mirrors hpeer hafter hrule hinstances enabled

/-- Against a kernel that holds the rules of a memory, however it packs its answers, every call
about canonical rules has the outcome it has on the memory and leaves the kernel with the rules of
the memory, and so has bringing about or taking away any canonical rule. -/
theorem rules_refine_memory (hpeer : ends.peer = Kernel.peer packing)
    (h : machine.connection.Mirrors memory) :
    (∀ call : Call, call.Canonical →
      SameKind (host ends call machine).1 (Memory.host call memory).1 ∧
        (host ends call machine).2.connection.Mirrors (Memory.host call memory).2) ∧
      ∀ (rule : Rule) (enabled : Bool), rule.Canonical →
        let first := (rule.ensure enabled).run (host ends) machine
        let second := (rule.ensure enabled).run Memory.host memory
        SameKind first.1 second.1 ∧ first.2.connection.Mirrors second.2 :=
  ⟨fun _ hcall => host_mirrors hpeer h hcall,
    fun _ enabled hrule => run_ensure_mirrors hpeer h hrule enabled⟩

/-- A fresh socket to a kernel that holds one rule twice, under two priorities. It is listed
twice, and taking it away leaves nothing. -/
theorem rules_refine_memory_duplicates :
    let rule := (Rule.ofFamily .inet).withPriority 100
    let other := rule.withPriority 200
    let ends : Ends (Kernel Unit) (List Iptables.ScriptedAnswer) FileTree :=
      ⟨Kernel.peer Packing.single, Iptables.scripted, FileTree.files, "/"⟩
    let memory : Memory := { Memory.empty with rules := [other, rule] }
    let machine : Machine (Kernel Unit) _ _ :=
      ⟨Connection.fresh 7 [] [] ⟨[other, rule], ()⟩, ⟨[], []⟩, ⟨[]⟩⟩
    machine.connection.Mirrors memory ∧
      SameKind (host ends (.listRules .inet) machine).1 (.ok [other, rule]) ∧
      ((rule.ensure false).run (host ends) machine).2.connection.peer.rules = [] := by
  intro rule other ends memory machine
  have hcanonical : ∀ priority, ((Rule.ofFamily .inet).withPriority priority).Canonical := by
    intro priority
    refine ⟨⟨⟨nofun, nofun⟩, nofun, nofun, nofun, nofun⟩, ?_⟩
    rintro name (hname | hname)
    · cases hname
    · cases hname
  have hmirrors : machine.connection.Mirrors memory := by
    refine ⟨rfl, ?_, ?_, [], rfl, Connection.Carries.nil⟩
    · intro installed hmem
      rcases List.mem_cons.mp hmem with rfl | hmem
      · exact hcanonical 200
      · rw [List.mem_singleton.mp hmem]
        exact hcanonical 100
    · decide
  have hpeer : ends.peer = Kernel.peer Packing.single := rfl
  obtain ⟨hcalls, hensure⟩ := rules_refine_memory hpeer hmirrors
  refine ⟨hmirrors, (hcalls (.listRules .inet) trivial).1, ?_⟩
  have hempty : ((rule.ensure false).run Memory.host memory).2.rules = [] := by decide
  exact (hensure rule false (hcanonical 100)).2.rules.trans hempty

end Machine

end HostNet
