import HostNet.Fault
import HostNet.Wire.Attr
/-!
Messages: a sixteen-byte header with the length of the whole, a payload, and padding to the next
multiple of four. A datagram holds any number of them.
-/
namespace HostNet.Wire

/-! Types of messages. -/
namespace MessageKind

def error : UInt16 := 2
def done : UInt16 := 3
def newRoute : UInt16 := 24
def delRoute : UInt16 := 25
def newRule : UInt16 := 32
def delRule : UInt16 := 33
def getRule : UInt16 := 34

end MessageKind

/-! Flags of messages. -/
namespace MessageFlag

def request : UInt16 := 0x001
/-- Answer with an acknowledgement. -/
def ack : UInt16 := 0x004
/-- Fail where the object exists. -/
def exclusive : UInt16 := 0x200
/-- Return every object of the kind. -/
def dump : UInt16 := 0x300
def create : UInt16 := 0x400

end MessageFlag

structure Header where
  /-- Length of the whole message, header included. -/
  length : UInt32
  kind : UInt16
  flags : UInt16
  seq : UInt32
  /-- Port of the sender; the kernel's is 0. -/
  port : UInt32
deriving DecidableEq, Repr

namespace Header

def size : Nat := 16

/-- The header of a message without payload, sequence number or port. -/
def bare (kind flags : UInt16) : Header :=
  ⟨UInt32.ofNat size, kind, flags, 0, 0⟩

/-- The message reports the outcome of a request. -/
def isError (header : Header) : Bool :=
  header.kind == MessageKind.error

/-- The message ends a dump. -/
def isDone (header : Header) : Bool :=
  header.kind == MessageKind.done

def encode (header : Header) : List UInt8 :=
  Word.bytes32 header.length ++ Word.bytes16 header.kind ++ Word.bytes16 header.flags ++
    Word.bytes32 header.seq ++ Word.bytes32 header.port

/-- The header in the first bytes of at least sixteen. -/
def read (bytes : List UInt8) : Header where
  length := Word.word32 (bytes.take 4)
  kind := Word.word16 ((bytes.drop 4).take 2)
  flags := Word.word16 ((bytes.drop 6).take 2)
  seq := Word.word32 ((bytes.drop 8).take 4)
  port := Word.word32 ((bytes.drop 12).take 4)

/-- The header at the front of the bytes. -/
def decode (bytes : List UInt8) : Except Fault Header :=
  if size ≤ bytes.length then .ok (read bytes) else .error (.truncated size bytes.length)

@[simp] theorem length_encode (header : Header) : header.encode.length = size := by
  simp [encode, size, Word.length_bytes16, Word.length_bytes32]

/-- A header followed by anything reads back. -/
theorem read_encode_append (header : Header) (rest : List UInt8) :
    read (header.encode ++ rest) = header := by
  obtain ⟨length, kind, flags, seq, port⟩ := header
  simp [read, encode, List.drop_append, Word.length_bytes16, Word.length_bytes32,
    List.drop_of_length_le]

theorem decode_encode_append (header : Header) (rest : List UInt8) :
    decode (header.encode ++ rest) = .ok header := by
  simp [decode, read_encode_append]

end Header

/-- A received message. -/
structure Message where
  header : Header
  payload : List UInt8
deriving DecidableEq, Repr

namespace Message

/-- The code of an outcome report: 0, or a negated error number. -/
def outcomeCode (payload : List UInt8) : Except Fault Int32 :=
  if 4 ≤ payload.length then .ok (Word.word32 (payload.take 4)).toInt32
  else .error (.truncated 4 payload.length)

/-- The failure that a length field out of bounds is reported as. -/
def lengthFault (length : Nat) : Fault :=
  .invalidMessage ("netlink message length " ++ toString length ++ " out of bounds")

/-- The messages of a datagram, in order. A tail shorter than a header ends them silently, a length
field that does not cover the header or exceeds what is left ends them with a failure. -/
def readAll (bytes : List UInt8) : List (Except Fault Message) :=
  if hsize : Header.size ≤ bytes.length then
    let header := Header.read bytes
    let length := header.length.toNat
    if h : Header.size ≤ length ∧ length ≤ bytes.length then
      have : (afterPadded length bytes).length < bytes.length := by
        have := le_align4 length
        simp only [afterPadded, List.length_drop, Header.size] at *
        omega
      .ok ⟨header, (bytes.take length).drop Header.size⟩ :: readAll (afterPadded length bytes)
    else [.error (lengthFault length)]
  else []
termination_by bytes.length

end Message

/-- A request to the kernel: a message type with its flags, a fixed family header, and
attributes. -/
structure Request where
  kind : UInt16
  flags : UInt16
  fixed : List UInt8
  attrs : List Attr
deriving DecidableEq, Repr

namespace Request

def body (request : Request) : List UInt8 :=
  request.fixed ++ padding request.fixed.length ++ Attr.encodeAll request.attrs

/-- The complete message, under a sequence number and the sender's port. -/
def encode (request : Request) (seq port : UInt32) : List UInt8 :=
  let body := request.body
  Header.encode ⟨UInt32.ofNat (Header.size + body.length), request.kind, request.flags, seq, port⟩
    ++ body

end Request

end HostNet.Wire
