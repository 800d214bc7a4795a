import HostNet.Host.Memory
import HostNet.Proofs.Datagrams
import HostNet.Proofs.RuleRoundTrip
/-!
A kernel that holds a list of rules and answers requests about them as messages on the wire: it
acknowledges the number of a request with a code, and reports its rules one message each with an
end behind them. How it cuts its answers into datagrams is its own affair. Main statement: what it
answers to a request, for every way of cutting.
-/
namespace HostNet

open HostNet.Wire

/-- The error number for a request that cannot be understood. -/
def Errno.invalid : Errno := 22

namespace Wire

/-- The message can be sent: its length field is right, and with its padding it fits a
receive. -/
def Message.Sendable (message : Message) : Prop :=
  message.Framed ∧ align4 message.size ≤ Connection.receiveLimit

theorem Message.sendable_answering {payload : List UInt8} (h : payload.length ≤ 1024)
    (kind : UInt16) (seq port : UInt32) : (answering kind seq port payload).Sendable := by
  constructor
  · apply framed_answering
    rw [Header.size]
    omega
  · change align4 (Header.size + payload.length) ≤ 32768
    rw [align4, Header.size]
    omega

theorem Message.length_encodeAll_single (message : Message) :
    (encodeAll [message]).length = align4 message.size := by
  have hle := le_align4 message.size
  have hsize : message.size = Header.size + message.payload.length := rfl
  simp only [encodeAll, List.flatMap_cons, List.flatMap_nil, List.append_nil, List.length_append,
    Header.length_encode, padding, List.length_replicate]
  omega

/-- What the tables in memory do on a request for a rule. -/
def RuleVerb.apply : RuleVerb → Memory → Rule → Outcome × Memory
  | add => Memory.addRule
  | delete => Memory.delRule

end Wire

/-- A way to put the messages of an answer into datagrams, which may depend on a state. -/
structure Packing (ς : Type) where
  pack : List Message → ς → List (List UInt8) × ς
  carries : ∀ messages state, (∀ message ∈ messages, message.Sendable) →
    Connection.Carries (pack messages state).1 messages

def Packing.single : Packing Unit where
  pack messages _ := (messages.map fun message => Message.encodeAll [message], ())
  carries := by
    intro messages _ h
    induction messages with
    | nil => exact Connection.Carries.nil
    | cons message messages ih =>
        obtain ⟨hframed, hsize⟩ := h message List.mem_cons_self
        have hpacked : Message.Packed [message] (Message.encodeAll [message]) :=
          Message.packed_encodeAll (by simpa using hframed)
        have hfits : (Message.encodeAll [message]).length ≤ Connection.receiveLimit := by
          rw [Message.length_encodeAll_single]
          exact hsize
        exact Connection.Carries.cons hpacked hfits
          (ih fun other hother => h other (List.mem_cons_of_mem message hother))

/-- A kernel: the rules it holds, and what it needs to pack its answers. -/
structure Kernel (ς : Type) where
  rules : List Rule
  packer : ς

namespace Kernel

/-- The code that an outcome is acknowledged with: 0, or a negated error number. -/
def code : Outcome → Int32
  | .ok () => 0
  | .error fault => -(fault.errno?.getD Errno.invalid)

/-- Carry out a request about the rule that its body is read as. -/
def change (verb : RuleVerb) (body : List UInt8) (rules : List Rule) : Int32 × List Rule :=
  match readRule body with
  | .ok (some rule) =>
    let (outcome, after) := verb.apply { Memory.empty with rules := rules } rule
    (code outcome, after.rules)
  | _ => (-Errno.invalid, rules)

/-- The acknowledgement of a request, which repeats its header. -/
def acknowledgement (request : Header) (code : Int32) : Message :=
  Message.answering MessageKind.error request.seq request.port
    (Word.bytes32 code.toUInt32 ++ request.encode)

/-- What a dump reports of a rule: the body of the request that adds it. -/
def reportBody (rule : Rule) : List UInt8 :=
  match ruleRequest .add rule with
  | .ok request => request.body
  | .error _ => []

/-- A rule in the answer to a request. -/
def report (request : Header) (rule : Rule) : Message :=
  Message.answering MessageKind.newRule request.seq request.port (reportBody rule)

/-- The end of the answer to a request. -/
def ending (request : Header) : Message :=
  Message.answering MessageKind.done request.seq request.port (Word.bytes32 0)

/-- The messages that answer a message, and the rules afterwards. -/
def answer (message : Message) (rules : List Rule) : List Message × List Rule :=
  let header := message.header
  if header.kind = MessageKind.newRule then
    let (code, after) := change .add message.payload rules
    ([acknowledgement header code], after)
  else if header.kind = MessageKind.delRule then
    let (code, after) := change .delete message.payload rules
    ([acknowledgement header code], after)
  else if header.kind = MessageKind.getRule then
    (rules.map (report header) ++ [ending header], rules)
  else ([acknowledgement header (-Errno.invalid)], rules)

/-- The kernel as the other end of a socket. It takes one message at a time. -/
def peer {ς : Type} (packing : Packing ς) : Peer (Kernel ς) := fun bytes kernel =>
  match Message.readAll bytes with
  | [.ok message] =>
    let (messages, rules) := answer message kernel.rules
    let (datagrams, packer) := packing.pack messages kernel.packer
    (.ok (datagrams.map .ok), ⟨rules, packer⟩)
  | _ => (.error Errno.invalid, kernel)

theorem answer_verb (message : Message) {verb : RuleVerb} (h : message.header.kind = verb.kind)
    (rules : List Rule) :
    let changed := change verb message.payload rules
    answer message rules = ([acknowledgement message.header changed.1], changed.2) := by
  cases verb with
  | add => exact if_pos h
  | delete =>
      have hother : message.header.kind ≠ MessageKind.newRule := by
        rw [h]
        decide
      exact (if_neg hother).trans (if_pos h)

theorem answer_dump {message : Message} (h : message.header.kind = MessageKind.getRule)
    (rules : List Rule) :
    answer message rules =
      (rules.map (report message.header) ++ [ending message.header], rules) := by
  simp only [answer, h]
  rfl

theorem length_reportBody_le (rule : Rule) : (reportBody rule).length ≤ 1024 := by
  unfold reportBody
  split
  · rename_i request hrequest
    exact length_body_ruleRequest_le hrequest
  · exact Nat.zero_le _

theorem sendable_acknowledgement (request : Header) (code : Int32) :
    (acknowledgement request code).Sendable := by
  apply Message.sendable_answering
  rw [List.length_append, Word.length_bytes32, Header.length_encode]
  decide

theorem sendable_answer (message : Message) (rules : List Rule) :
    ∀ reply ∈ (answer message rules).1, reply.Sendable := by
  intro reply hreply
  simp only [answer] at hreply
  split at hreply
  · rw [List.mem_singleton.mp hreply]
    exact sendable_acknowledgement _ _
  · split at hreply
    · rw [List.mem_singleton.mp hreply]
      exact sendable_acknowledgement _ _
    · split at hreply
      · rcases List.mem_append.mp hreply with hreport | hending
        · obtain ⟨rule, -, rfl⟩ := List.mem_map.mp hreport
          exact Message.sendable_answering (length_reportBody_le rule) _ _ _
        · rw [List.mem_singleton.mp hending]
          exact Message.sendable_answering (by decide) _ _ _
      · rw [List.mem_singleton.mp hreply]
        exact sendable_acknowledgement _ _

section Answer

variable {ς : Type} (packing : Packing ς) (kernel : Kernel ς) {request : Request}

/-- A request is taken, and what it is answered comes in datagrams that fit a receive. -/
theorem peer_encode (h : request.body.length ≤ 1024) (seq port : UInt32) :
    ∃ datagrams after, peer packing (request.encode seq port) kernel =
        (.ok (datagrams.map .ok), after) ∧
      Connection.Carries datagrams
        (answer ⟨request.header seq port, request.body⟩ kernel.rules).1 ∧
      after.rules = (answer ⟨request.header seq port, request.body⟩ kernel.rules).2 := by
  have hlength : Header.size + request.body.length < 4294967296 := by
    rw [Header.size]
    omega
  have hread := Request.readAll_encode seq port hlength
  have hcarries := packing.carries _ kernel.packer
    (sendable_answer ⟨request.header seq port, request.body⟩ kernel.rules)
  rw [peer, hread]
  exact ⟨_, _, rfl, hcarries, rfl⟩

end Answer

end Kernel

end HostNet
