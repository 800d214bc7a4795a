import HostNet.Host.Connection
import HostNet.Proofs.MessageReading
/-!
Messages spread over datagrams. A datagram holds whole messages, each padded to the next multiple
of four, and how a sequence of messages is cut into datagrams is up to the sender. Main statement:
what is received of a datagram that fits one receive is the messages that were put into it.
-/
namespace HostNet

open HostNet.Wire

def Wire.MessageFlag.multipart : UInt16 := 0x002

/-- How many bytes are missing from a length to the next multiple of four. -/
def Wire.gap (length : Nat) : Nat :=
  (4 - length % 4) % 4

theorem Wire.gap_eq (length : Nat) : gap length = align4 length - length := by
  unfold gap align4
  omega

namespace Wire.Message

/-- Bytes of the message, its header included and padding left out. -/
def size (message : Message) : Nat :=
  Header.size + message.payload.length

/-- The length field counts the header and the payload. -/
def Framed (message : Message) : Prop :=
  message.header.length.toNat = message.size

/-- The bytes are these messages, each padded to the next multiple of four. What the padding holds
does not matter. -/
inductive Packed : List Message → List UInt8 → Prop where
  | nil : Packed [] []
  | cons {message : Message} {messages : List Message} {filler rest : List UInt8}
      (framed : message.Framed) (aligned : filler.length = gap message.size)
      (packed : Packed messages rest) :
      Packed (message :: messages) (message.header.encode ++ message.payload ++ filler ++ rest)

/-- A message of an answer, of the given kind and under the number of the request. -/
def answering (kind : UInt16) (seq port : UInt32) (payload : List UInt8) : Message :=
  ⟨⟨UInt32.ofNat (Header.size + payload.length), kind, MessageFlag.multipart, seq, port⟩, payload⟩

theorem framed_answering {payload : List UInt8}
    (h : Header.size + payload.length < 4294967296) (kind : UInt16) (seq port : UInt32) :
    (answering kind seq port payload).Framed := by
  change (UInt32.ofNat (Header.size + payload.length)).toNat = Header.size + payload.length
  rw [UInt32.toNat_ofNat', Nat.mod_eq_of_lt h]

/-- The messages on the wire, with zero padding. -/
def encodeAll (messages : List Message) : List UInt8 :=
  messages.flatMap fun message =>
    message.header.encode ++ message.payload ++ padding message.size

theorem packed_encodeAll {messages : List Message} (h : ∀ message ∈ messages, message.Framed) :
    Packed messages (encodeAll messages) := by
  induction messages with
  | nil => exact Packed.nil
  | cons message messages ih =>
      refine Packed.cons (h message List.mem_cons_self) ?_ ?_
      · rw [padding, List.length_replicate, gap_eq]
      · exact ih fun other hother => h other (List.mem_cons_of_mem message hother)

theorem readAll_of_packed {messages : List Message} {bytes : List UInt8}
    (h : Packed messages bytes) : readAll bytes = messages.map .ok := by
  induction h with
  | nil =>
      apply readAll_eq_nil
      decide
  | @cons message messages filler rest framed aligned packed ih =>
      have hfiller : (filler ++ rest).drop (align4 message.size - message.size) = rest :=
        List.drop_left' (aligned.trans (gap_eq message.size))
      rw [List.append_assoc, readAll_encode_append framed]
      change .ok message :: readAll ((filler ++ rest).drop (align4 message.size - message.size)) = _
      rw [hfiller, ih]
      rfl

end Wire.Message

namespace Connection

/-- The datagrams hold the messages in their order, and each of them fits one receive. -/
inductive Carries : List (List UInt8) → List Message → Prop where
  | nil : Carries [] []
  | cons {datagram : List UInt8} {group messages : List Message} {datagrams : List (List UInt8)}
      (packed : Message.Packed group datagram) (fits : datagram.length ≤ receiveLimit)
      (rest : Carries datagrams messages) :
      Carries (datagram :: datagrams) (group ++ messages)

theorem messages_of_packed {group : List Message} {datagram : List UInt8}
    (hpacked : Message.Packed group datagram) (hfits : datagram.length ≤ receiveLimit) :
    messages datagram = group.map .ok := by
  rw [messages, List.take_of_length_le hfits]
  exact Message.readAll_of_packed hpacked

theorem Carries.append {first second : List (List UInt8)} {earlier later : List Message}
    (hfirst : Carries first earlier) (hsecond : Carries second later) :
    Carries (first ++ second) (earlier ++ later) := by
  induction hfirst with
  | nil => exact hsecond
  | cons packed fits _ ih =>
      rw [List.append_assoc]
      exact Carries.cons packed fits ih

end Connection

end HostNet
