import HostNet.Proofs.AttrReading
import HostNet.Wire.Message
/-!
Reading a request back as a message. Main statement: a request whose length fits the length field
is one message of its type, and its payload is what follows the message header.
-/
namespace HostNet.Wire

theorem align4_of_dvd {n : Nat} (h : 4 ∣ n) : align4 n = n := by
  unfold align4
  omega

theorem padding_of_dvd {length : Nat} (h : 4 ∣ length) : padding length = [] := by
  rw [padding, align4_of_dvd h, Nat.sub_self, List.replicate_zero]

namespace Attr

/-- Padding rounds an attribute up to the next multiple of four. -/
theorem length_encode (attr : Attr) :
    attr.encode.length = align4 (headerLength + attr.payload.length) := by
  have hle := le_align4 (headerLength + attr.payload.length)
  simp only [encode, padding, List.length_append, List.length_replicate, length_header]
  omega

/-- Attributes with short payloads are short: seven bytes more each at most, four of header and
three of padding. -/
theorem length_encodeAll_le {bound : Nat} {attrs : List Attr}
    (h : ∀ attr ∈ attrs, attr.payload.length ≤ bound) :
    (encodeAll attrs).length ≤ (bound + 7) * attrs.length := by
  induction attrs with
  | nil => exact Nat.zero_le _
  | cons attr attrs ih =>
      have hrest := ih fun other hother => h other (List.mem_cons_of_mem attr hother)
      have hpayload := h attr List.mem_cons_self
      have hattr : attr.encode.length ≤ bound + 7 := by
        rw [length_encode, align4, headerLength]
        omega
      rw [encodeAll] at hrest ⊢
      rw [List.flatMap_cons, List.length_append, List.length_cons, Nat.mul_succ]
      omega

end Attr

namespace Message

theorem readAll_eq_nil {bytes : List UInt8} (h : bytes.length < Header.size) :
    readAll bytes = [] := by
  rw [readAll]
  exact dif_neg (Nat.not_le.mpr h)

theorem readAll_eq_cons {bytes : List UInt8} {length : Nat}
    (hlength : (Header.read bytes).length.toNat = length)
    (h : Header.size ≤ length ∧ length ≤ bytes.length) :
    readAll bytes = .ok ⟨Header.read bytes, (bytes.take length).drop Header.size⟩ ::
      readAll (afterPadded length bytes) := by
  subst hlength
  rw [readAll, dif_pos (Nat.le_trans h.1 h.2)]
  exact dif_pos h

/-- A message is read first, whatever follows, of which its padding takes as much as it needs. -/
theorem readAll_encode_append {header : Header} {payload : List UInt8}
    (hlength : header.length.toNat = Header.size + payload.length) (behind : List UInt8) :
    readAll (header.encode ++ payload ++ behind) = .ok ⟨header, payload⟩ ::
      readAll (behind.drop (align4 (Header.size + payload.length) -
        (Header.size + payload.length))) := by
  have hmessage : (header.encode ++ payload).length = Header.size + payload.length := by
    rw [List.length_append, Header.length_encode]
  have hread : Header.read (header.encode ++ payload ++ behind) = header := by
    rw [List.append_assoc]
    exact Header.read_encode_append header _
  have hcovers : Header.size ≤ Header.size + payload.length ∧
      Header.size + payload.length ≤ (header.encode ++ payload ++ behind).length := by
    rw [List.length_append, hmessage]
    omega
  have hpayload : ((header.encode ++ payload ++ behind).take
      (Header.size + payload.length)).drop Header.size = payload := by
    rw [List.take_left' hmessage]
    exact List.drop_left' (Header.length_encode header)
  have hafter : afterPadded (Header.size + payload.length) (header.encode ++ payload ++ behind) =
      behind.drop (align4 (Header.size + payload.length) - (Header.size + payload.length)) := by
    have hwhole : (header.encode ++ payload).drop (align4 (Header.size + payload.length)) = [] :=
      List.drop_of_length_le (hmessage ▸ le_align4 (Header.size + payload.length))
    rw [afterPadded, List.drop_append, hwhole, hmessage, List.nil_append]
  rw [readAll_eq_cons (by rw [hread, hlength]) hcovers, hread, hpayload, hafter]

/-- A message that fills the rest of a datagram is the last one read. -/
theorem readAll_encode {header : Header} {payload : List UInt8}
    (hlength : header.length.toNat = Header.size + payload.length) :
    readAll (header.encode ++ payload) = [.ok ⟨header, payload⟩] := by
  have hnone : readAll [] = [] := readAll_eq_nil (by decide)
  have hfirst := readAll_encode_append hlength []
  rwa [List.append_nil, List.drop_nil, hnone] at hfirst

end Message

namespace Request

theorem body_of_dvd {request : Request} (h : 4 ∣ request.fixed.length) :
    request.body = request.fixed ++ Attr.encodeAll request.attrs := by
  rw [body, padding_of_dvd h, List.append_nil]

/-- The header a request is sent under. -/
def header (request : Request) (seq port : UInt32) : Header :=
  ⟨UInt32.ofNat (Header.size + request.body.length), request.kind, request.flags, seq, port⟩

/-- A request is a single message. -/
theorem readAll_encode {request : Request} (seq port : UInt32)
    (hlength : Header.size + request.body.length < 4294967296) :
    Message.readAll (request.encode seq port) =
      [.ok ⟨request.header seq port, request.body⟩] := by
  have hsent : (request.header seq port).length.toNat = Header.size + request.body.length := by
    rw [header, UInt32.toNat_ofNat', Nat.mod_eq_of_lt hlength]
  exact Message.readAll_encode hsent

end Request

end HostNet.Wire
