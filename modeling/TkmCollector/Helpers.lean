import TkmCollector.Library.Varint
import TkmCollector.MonitorDevice

/-!
# Helpers

The identity of a device and where it is dialed, and the descriptor with which a control client
introduces itself. The hash function and the messages come from libraries and are parameters.
-/

namespace TkmCollector

/-- What is read of a text that is handed on as a null-terminated string. -/
def cStr (text : String) : String := String.ofList (text.toList.takeWhile fun c => c ≠ '\x00')

def hashForDevice (jnkHsh : String → Nat) (data : Control.DeviceData) : String :=
  let tmp := data.address ++ toString data.port
  toString (jnkHsh (cStr tmp))

/-- The address and the port that `Connection::connect` dials: `h_addr` of what `gethostbyname`
returns for the name. Without an entry nothing is dialed, since the null pointer is followed. -/
def Connection.dials (gethostbyname : String → Option (BitVec 32)) (deviceData : Control.DeviceData) :
    Option (BitVec 32 × BitVec 16) :=
  (gethostbyname (cStr deviceData.address)).map fun address =>
    (address, BitVec.ofInt 16 deviceData.port)

namespace Control

/-- `Message::Type`. -/
inductive MessageType where
  | unknown | descriptor | setSession | status | deviceList | sessionList
  deriving DecidableEq

/-- `tkm::msg::control::Message`, with its data still packed. -/
structure PackedMessage (Any : Type) where
  type : MessageType
  data : Any

end Control

/-- `tkm::msg::Envelope`, with its message still packed. -/
structure PackedEnvelope (Any : Type) where
  target : Recipient
  origin : Recipient
  mesg : Any

/-- What `Any::UnpackTo` does: it reads the message, or returns false, since the type is another
one, or since the bytes are no message, of which the target then holds a part. -/
inductive Unpacked (α : Type) where
  | unpacked (message : α)
  | otherType
  | malformed (part : α)

/-- What its target holds after `UnpackTo`. -/
def Unpacked.target {α : Type} (target : α) : Unpacked α → α
  | .unpacked message => message
  | .otherType => target
  | .malformed part => part

/-- What is used of protobuf: `PackFrom` and `UnpackTo`, and the bytes of an envelope. -/
structure Protobuf (Any Descriptor : Type) where
  packDescriptor : Descriptor → Any
  unpackDescriptor : Any → Unpacked Descriptor
  packMessage : Control.PackedMessage Any → Any
  unpackMessage : Any → Unpacked (Control.PackedMessage Any)
  serialize : PackedEnvelope Any → List UInt8
  parse : List UInt8 → Option (PackedEnvelope Any)

/-- What is packed can be unpacked, and what is serialized can be parsed. -/
structure Protobuf.Lawful {Any Descriptor : Type} (pb : Protobuf Any Descriptor) : Prop where
  unpack_descriptor (d : Descriptor) : pb.unpackDescriptor (pb.packDescriptor d) = .unpacked d
  unpack_message (m : Control.PackedMessage Any) : pb.unpackMessage (pb.packMessage m) = .unpacked m
  parse_serialize (e : PackedEnvelope Any) : pb.parse (pb.serialize e) = some e

def descBufferSize : Nat := 1024

/-- `sizeof(uint64_t)`, the bytes that both sides take for the size. -/
def headerSize : Nat := 8

/-- `ReadVarint32` reads ten bytes at most, and drops the bits that do not fit. -/
def readVarint32 (bytes : List UInt8) : Option (Nat × List UInt8) :=
  (Varint.decode 10 bytes).map fun (n, rest) => (n % 2 ^ 32, rest)

/-- The arguments of a call of `send`. -/
structure SendCall where
  buffer : List UInt8
  length : Nat

section Descriptors

variable {Any Descriptor : Type} (pb : Protobuf Any Descriptor)

/-- The envelope of a descriptor. -/
def descriptorEnvelope (descriptor : Descriptor) : PackedEnvelope Any where
  target := .collector
  origin := .control
  mesg := pb.packMessage ⟨.descriptor, pb.packDescriptor descriptor⟩

/-- The result, and the call of `send`, which returns what `send` says. -/
def sendControlDescriptor (send : SendCall → Int) (descriptor : Descriptor) : Bool × Option SendCall :=
  let array := pb.serialize (descriptorEnvelope pb descriptor)
  let envelopeSize := array.length
  if envelopeSize > 2 ^ 32 - 1 ∨ envelopeSize > descBufferSize then (false, none)
  else
    let written := Varint.encode 4 envelopeSize ++ array
    if written.length > descBufferSize then (false, none)
    else
      let call : SendCall :=
        ⟨written ++ List.replicate (descBufferSize - written.length) 0, envelopeSize + headerSize⟩
      (send call = call.length, some call)

/-- What is parsed, and the rest of the stream, when both calls of `recv` are answered in full. The
size is read before anything is behind the header, and the envelope after. -/
def receiveEnvelope (stream : List UInt8) : Option (List UInt8 × List UInt8) :=
  let header := stream.take headerSize
  if header.length ≠ headerSize then none
  else match readVarint32 (header ++ List.replicate (descBufferSize - headerSize) 0) with
    -- the zeros end every number
    | none => none
    | some (messageSize, unread) =>
      if messageSize > descBufferSize - headerSize then none
      else
        let body := (stream.drop headerSize).take messageSize
        if body.length ≠ messageSize then none
        else
          let buffer := header ++ body ++ List.replicate (descBufferSize - headerSize - messageSize) 0
          some ((buffer.drop (descBufferSize - unread.length)).take messageSize,
            (stream.drop headerSize).drop messageSize)

/-- The descriptor and the rest of the stream, when the result is true. `descriptor` is what the
caller has there before. -/
def readControlDescriptor (stream : List UInt8) (descriptor : Descriptor) :
    Option (Descriptor × List UInt8) :=
  let message : Control.PackedMessage Any := ⟨.descriptor, pb.packDescriptor descriptor⟩
  match receiveEnvelope stream with
  | none => none
  | some (array, rest) =>
    match pb.parse array with
    | none => none
    | some envelope =>
      let message := (pb.unpackMessage envelope.mesg).target message
      if message.type ≠ .descriptor then none
      else some ((pb.unpackDescriptor message.data).target descriptor, rest)

end Descriptors

end TkmCollector
