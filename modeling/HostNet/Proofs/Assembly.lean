import HostNet.Proofs.Tiling
import HostNet.Wire.RuleCodec
/-!
Requests put together piece by piece. The family header and every attribute go to the end of what
is there, and after each of them the whole body is filled up to a multiple of four. Main
statements: the body never leaves that boundary, so that it is the pieces side by side, each with
its own padding; and the readers take a request apart into what it was put together from.
-/
namespace HostNet.Wire

/-! ## Filling up -/

/-- The bytes, filled up to the next multiple of four. -/
def filled (bytes : List UInt8) : List UInt8 :=
  bytes ++ padding bytes.length

theorem align4_add {m : Nat} (h : 4 ∣ m) (n : Nat) : align4 (m + n) = m + align4 n := by
  unfold align4
  omega

@[simp] theorem length_filled (bytes : List UInt8) :
    (filled bytes).length = align4 bytes.length := by
  have hle := le_align4 bytes.length
  simp only [filled, padding, List.length_append, List.length_replicate]
  omega

theorem dvd_length_filled (bytes : List UInt8) : 4 ∣ (filled bytes).length := by
  rw [length_filled, align4]
  exact Nat.dvd_mul_left 4 _

/-- What ends at the boundary can be set aside when the rest is filled up. -/
theorem filled_append {front : List UInt8} (h : 4 ∣ front.length) (bytes : List UInt8) :
    filled (front ++ bytes) = front ++ filled bytes := by
  simp only [filled, padding, List.length_append, align4_add h, Nat.add_sub_add_left,
    List.append_assoc]

/-! ## Bodies -/

namespace Attr

variable {body : List UInt8}

/-- A body after one more attribute. -/
def appendTo (body : List UInt8) (attr : Attr) : List UInt8 :=
  filled (body ++ attr.unpadded)

theorem encode_eq_filled (attr : Attr) : attr.encode = filled attr.unpadded := by
  rw [encode, filled, unpadded, List.length_append, length_header]

theorem appendTo_of_dvd (h : 4 ∣ body.length) (attr : Attr) :
    appendTo body attr = body ++ attr.encode := by
  rw [appendTo, filled_append h, encode_eq_filled]

/-- No attribute leaves the boundary that the ones before it have kept. -/
theorem dvd_length_foldl_appendTo (h : 4 ∣ body.length) (attrs : List Attr) :
    4 ∣ (attrs.foldl appendTo body).length := by
  induction attrs generalizing body with
  | nil => exact h
  | cons attr attrs ih => exact ih (dvd_length_filled (body ++ attr.unpadded))

/-- Filling up the body after every attribute is filling up every attribute by itself. -/
theorem foldl_appendTo (h : 4 ∣ body.length) (attrs : List Attr) :
    attrs.foldl appendTo body = body ++ encodeAll attrs := by
  induction attrs generalizing body with
  | nil => simp [encodeAll]
  | cons attr attrs ih =>
      calc (attr :: attrs).foldl appendTo body
          = appendTo body attr ++ encodeAll attrs := ih (dvd_length_filled (body ++ attr.unpadded))
        _ = body ++ (attr.encode ++ encodeAll attrs) := by
          rw [appendTo_of_dvd h, List.append_assoc]
        _ = body ++ encodeAll (attr :: attrs) := rfl

end Attr

/-! ## Requests -/

namespace Request

variable {request : Request} {seq port : UInt32}

/-- The body put together from the family header and the attributes in their order. -/
def assembled (request : Request) : List UInt8 :=
  request.attrs.foldl Attr.appendTo (filled request.fixed)

theorem body_eq_assembled (request : Request) : request.body = request.assembled :=
  (Attr.foldl_appendTo (dvd_length_filled request.fixed) request.attrs).symm

theorem dvd_length_body (request : Request) : 4 ∣ request.body.length := by
  rw [body_eq_assembled]
  exact Attr.dvd_length_foldl_appendTo (dvd_length_filled request.fixed) request.attrs

theorem length_encode (request : Request) (seq port : UInt32) :
    (request.encode seq port).length = Header.size + request.body.length := by
  rw [encode, List.length_append, Header.length_encode]

theorem dvd_length_encode (request : Request) (seq port : UInt32) :
    4 ∣ (request.encode seq port).length := by
  rw [length_encode]
  exact Nat.dvd_add (by decide) request.dvd_length_body

/-- The length field of a request counts all of its bytes, if it can. -/
theorem length_header (h : (request.encode seq port).length < 4294967296) :
    (request.header seq port).length.toNat = (request.encode seq port).length := by
  rw [length_encode] at h ⊢
  rw [header, UInt32.toNat_ofNat', Nat.mod_eq_of_lt h]

/-- A request is read first, whatever follows it. It ends at the boundary and takes no padding. -/
theorem readAll_encode_append (h : (request.encode seq port).length < 4294967296)
    (rest : List UInt8) :
    Message.readAll (request.encode seq port ++ rest) =
      .ok ⟨request.header seq port, request.body⟩ :: Message.readAll rest := by
  have hsize := length_encode request seq port
  have hframed : (request.header seq port).length.toNat = Header.size + request.body.length :=
    (length_header h).trans hsize
  have haligned : align4 (Header.size + request.body.length) = Header.size + request.body.length :=
    align4_of_dvd (hsize ▸ dvd_length_encode request seq port)
  have hfirst := Message.readAll_encode_append hframed rest
  rwa [haligned, Nat.sub_self, List.drop_zero] at hfirst

/-- A request is its header and the body that its parts are put together to, and it ends at a
multiple of four, which its length field tells. Whatever follows it, the first message read has its
type, its flags, its number and its port, and as payload the family header in front of attributes
that are read as they were put in. -/
theorem read_assembled (request : Request) (seq port : UInt32)
    (hfixed : 4 ∣ request.fixed.length)
    (hattrs : ∀ attr ∈ request.attrs, attr.kind < 0x4000 ∧ attr.payload.length ≤ 65531)
    (hlength : (request.encode seq port).length < 4294967296) :
    ∃ (header : Header) (region : List UInt8),
      request.encode seq port = header.encode ++ request.assembled ∧
      4 ∣ (request.encode seq port).length ∧
      header.length.toNat = (request.encode seq port).length ∧
      header.kind = request.kind ∧ header.flags = request.flags ∧
      header.seq = seq ∧ header.port = port ∧
      (∀ rest, Message.readAll (request.encode seq port ++ rest) =
        .ok ⟨header, request.fixed ++ region⟩ :: Message.readAll rest) ∧
      Attr.readAll region = request.attrs := by
  refine ⟨request.header seq port, Attr.encodeAll request.attrs, ?_, dvd_length_encode ..,
    length_header hlength, rfl, rfl, rfl, rfl, ?_, ?_⟩
  · rw [← body_eq_assembled]
    rfl
  · intro rest
    rw [readAll_encode_append hlength, body_of_dvd hfixed]
  · apply Attr.readAll_encodeAll
    intro attr hattr
    exact Attr.fits_of_bounds (hattrs attr hattr).1 (hattrs attr hattr).2

/-- A name that takes five bytes and so three of padding, a priority, and an empty attribute. -/
theorem read_assembled_name :
    let attrs := [Attr.text RuleAttr.iif "eth0", Attr.word RuleAttr.priority 30000, ⟨99, []⟩]
    let request : Request := ⟨MessageKind.getRule, MessageFlag.request,
      (RuleHeader.ofFamily .inet).encode, attrs⟩
    4 ∣ request.fixed.length ∧
      (∀ attr ∈ attrs, attr.kind < 0x4000 ∧ attr.payload.length ≤ 65531) ∧
      (request.encode 42 1234).length = 52 ∧
      ∃ (header : Header) (region : List UInt8),
        header.length.toNat = 52 ∧ header.kind = 34 ∧ header.flags = 1 ∧ header.seq = 42 ∧
        header.port = 1234 ∧
        Message.readAll (request.encode 42 1234) = [.ok ⟨header, request.fixed ++ region⟩] ∧
        Attr.readAll region = attrs := by
  intro attrs request
  have hfixed : 4 ∣ request.fixed.length := by decide
  have hattrs : ∀ attr ∈ attrs, attr.kind < 0x4000 ∧ attr.payload.length ≤ 65531 := by
    decide +kernel
  have hlength : (request.encode 42 1234).length = 52 := by decide +kernel
  obtain ⟨header, region, -, -, hheader, hkind, hflags, hseq, hport, hread, hregion⟩ :=
    read_assembled request 42 1234 hfixed hattrs (by omega)
  refine ⟨hfixed, hattrs, hlength, header, region, hheader.trans hlength, hkind, hflags, hseq,
    hport, ?_, hregion⟩
  have hnone : Message.readAll [] = [] := Message.readAll_eq_nil (by decide)
  have halone := hread []
  rwa [List.append_nil, hnone] at halone

end Request

end HostNet.Wire
