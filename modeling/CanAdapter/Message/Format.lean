/-
The format of every message: one layout for each of the sixteen kinds. Questions have the id of their answer, so an id
alone does not tell a kind; `Message.decodeReply` knows that bytes come from the adapter, and there the id suffices.

`id_kind`: a message is written under the id of its kind. `minLength_le`: and never shorter than its kind's fields.
-/
import CanAdapter.Message.Basic
import CanAdapter.Message.Layout

namespace CanAdapter

/-! ## Ids; zero is none, it ends a buffer -/

namespace MessageId

def hello : UInt8 := 0x01
def greeting : UInt8 := 0x02
def deviceInfo : UInt8 := 0x03
def canInfo : UInt8 := 0x04
def nominalTiming : UInt8 := 0x05
def dataTiming : UInt8 := 0x06
def features : UInt8 := 0x07
def bus : UInt8 := 0x08
def outcome : UInt8 := 0x09
def busReport : UInt8 := 0x10
def received : UInt8 := 0x11
def transmit : UInt8 := 0x12
def transmitted : UInt8 := 0x13
def busError : UInt8 := 0x14

end MessageId

/-! ## Layouts -/

namespace Layout

/-- a message without fields -/
def bare (id : UInt8) : Layout Unit where
  id := id
  minLength := headerLength
  write _ := []
  read _ := pure ()

def greeting : Layout Greeting where
  id := MessageId.greeting
  minLength := 8
  write g := [.u8 g.version, .u8 g.order.toByte, .u16be g.bufferSize, .gap 2]
  read _ := do
    let version ← Reader.u8
    let raw ← Reader.u8
    let order ← Decoder.enum .byteOrder raw (ByteOrder.ofByte? raw)
    let bufferSize ← Reader.u16be
    return { version, order, bufferSize }

/-- a text in the room it has, zero after its end -/
def padded (room : Nat) (text : Bytes) : Bytes := text ++ List.replicate (room - text.length) 0

def deviceInfo : Layout DeviceInfo where
  id := MessageId.deviceInfo
  minLength := 60
  write i := [.u16 i.permanent.bits, .u16 i.configurable.bits,
    .u8 i.firmware.major, .u8 i.firmware.minor, .u8 i.firmware.patch,
    .u8 (UInt8.ofNat i.serial.length), .slice (padded serialRoom i.serial),
    .u8 (UInt8.ofNat i.name.length), .slice (padded nameRoom i.name), .gap 1]
  read _ := do
    let permanent := Features.ofWord (← Reader.u16)
    let configurable := Features.ofWord (← Reader.u16)
    let major ← Reader.u8
    let minor ← Reader.u8
    let patch ← Reader.u8
    let serialLength ← Reader.u8
    let serial ← Reader.take serialRoom
    let nameLength ← Reader.u8
    let name ← Reader.take nameRoom
    return .ofParts permanent configurable { major, minor, patch }
      (serial.take serialLength.toNat) (name.take nameLength.toNat)

/-- Of the jump widths only the upper limits travel; the lower ones are read as one. The data limits are bytes, all zero
for a controller without a data phase, and so an upper prescaler limit of zero means that there is none. -/
def canInfo : Layout CanInfo where
  id := MessageId.canInfo
  minLength := 28
  write i := [.u32 i.clock, .u16 i.bufferSize,
    .u16 i.nominal.min.brp, .u16 i.nominal.max.brp, .u16 i.nominal.min.tseg1, .u16 i.nominal.max.tseg1,
    .u8 i.nominal.max.sjw, .u8 i.nominal.min.tseg2, .u8 i.nominal.max.tseg2,
    .u8 i.txFifo, .u8 i.rxFifo] ++
    match i.data with
    | some d => [.u8 d.min.brp.toUInt8, .u8 d.max.brp.toUInt8, .u8 d.min.tseg1.toUInt8, .u8 d.max.tseg1.toUInt8,
      .u8 d.max.sjw, .u8 d.min.tseg2, .u8 d.max.tseg2]
    | none => [.gap 7]
  read _ := do
    let clock ← Reader.u32
    let bufferSize ← Reader.u16
    let minBrp ← Reader.u16
    let maxBrp ← Reader.u16
    let minTseg1 ← Reader.u16
    let maxTseg1 ← Reader.u16
    let maxSjw ← Reader.u8
    let minTseg2 ← Reader.u8
    let maxTseg2 ← Reader.u8
    let txFifo ← Reader.u8
    let rxFifo ← Reader.u8
    let nominal : TimingRange := ⟨⟨minBrp, 1, minTseg1, minTseg2⟩, ⟨maxBrp, maxSjw, maxTseg1, maxTseg2⟩⟩
    let minBrp ← Reader.u8
    let maxBrp ← Reader.u8
    let minTseg1 ← Reader.u8
    let maxTseg1 ← Reader.u8
    let maxSjw ← Reader.u8
    let minTseg2 ← Reader.u8
    let maxTseg2 ← Reader.u8
    let data : TimingRange := ⟨⟨minBrp.toUInt16, 1, minTseg1.toUInt16, minTseg2⟩,
      ⟨maxBrp.toUInt16, maxSjw, maxTseg1.toUInt16, maxTseg2⟩⟩
    return { clock, bufferSize, nominal, data := if maxBrp = 0 then none else some data, txFifo, rxFifo }

/-- a timing request, for the nominal or the data phase by its id -/
def timing (id : UInt8) : Layout BitTiming where
  id := id
  minLength := 8
  write t := [.u8 t.sjw, .u8 t.tseg2, .u16 t.brp, .u16 t.tseg1]
  read _ := do
    let sjw ← Reader.u8
    let tseg2 ← Reader.u8
    let brp ← Reader.u16
    let tseg1 ← Reader.u16
    return { brp, sjw, tseg1, tseg2 }

def nominalTiming : Layout BitTiming := timing MessageId.nominalTiming

def dataTiming : Layout BitTiming := timing MessageId.dataTiming

/-- the operation is looked at only after the argument was read -/
def features : Layout FeatureRequest where
  id := MessageId.features
  minLength := 8
  write r := [.u8 r.op.toByte, .gap 1, .u32 r.arg]
  read _ := do
    let raw ← Reader.u8
    Reader.skip 1
    let arg ← Reader.u32
    let op ← Decoder.enum .featureOp raw (FeatureOp.ofByte? raw)
    return { op, arg }

def bus : Layout Bool where
  id := MessageId.bus
  minLength := 4
  write on := [.u16 (if on then 1 else 0)]
  read _ := return (← Reader.u16) != 0

def outcome : Layout Int8 where
  id := MessageId.outcome
  minLength := 4
  write code := [.i8 code, .gap 1]
  read _ := Reader.i8

def busReport : Layout BusReport where
  id := MessageId.busReport
  minLength := 16
  write r := [.u8 r.flags.bits, .u8 r.status.toByte, .u32 r.timestamp, .u16 r.rxLost, .u16 r.txDropped,
    .u8 r.rxErrors, .u8 r.txErrors, .u8 r.rxFill, .u8 r.txFill]
  read _ := do
    let flags := StatusFlags.ofByte (← Reader.u8)
    let raw ← Reader.u8
    let status ← Decoder.enum .busStatus raw (BusStatus.ofByte? raw)
    let timestamp ← Reader.u32
    let rxLost ← Reader.u16
    let txDropped ← Reader.u16
    let rxErrors ← Reader.u8
    let txErrors ← Reader.u8
    let rxFill ← Reader.u8
    let txFill ← Reader.u8
    return { flags, status, timestamp, rxLost, txDropped, rxErrors, txErrors, rxFill, txFill }

/-- the payload of a frame, in a message of `len` bytes of which `fixed` come before it -/
def readPayload (id : UInt8) (fixed len : Nat) (f : Frame) : Decoder Frame := do
  if len < fixed + f.length then throw (.short id (fixed + f.length) len)
  let payload ← Reader.take f.length
  return { f with data := .ofBytes payload }

def received : Layout Frame where
  id := MessageId.received
  minLength := 12
  payload := Frame.length
  write f := [.u8 f.dlc, .u8 f.flags.bits, .u32 f.id, .u32 f.timestamp, .slice f.payload]
  read len := do
    let dlc := (← Reader.u8) &&& 0x0f
    let flags := FrameFlags.ofByte (← Reader.u8)
    let id ← Reader.u32
    let timestamp ← Reader.u32
    readPayload MessageId.received 12 len { Frame.empty with id, dlc, flags, timestamp }

def transmit : Layout TxRequest where
  id := MessageId.transmit
  minLength := 10
  payload r := r.frame.length
  write r := [.u8 r.frame.dlc, .u8 r.frame.flags.bits, .u32 r.frame.id, .u8 r.track, .gap 1, .slice r.frame.payload]
  read len := do
    let dlc := (← Reader.u8) &&& 0x0f
    let flags := FrameFlags.ofByte (← Reader.u8)
    let id ← Reader.u32
    let track ← Reader.u8
    Reader.skip 1
    let frame ← readPayload MessageId.transmit 10 len { Frame.empty with id, dlc, flags }
    return { frame, track }

def transmitted : Layout TxReport where
  id := MessageId.transmitted
  minLength := 8
  write r := [.u8 r.track, .u8 r.flags.bits, .u32 r.timestamp]
  read _ := do
    let track ← Reader.u8
    let flags := FrameFlags.ofByte (← Reader.u8)
    let timestamp ← Reader.u32
    return { track, flags, timestamp }

def busError : Layout BusError where
  id := MessageId.busError
  minLength := 8
  write e := [.u8 e.code.toByte, .u8 ((if e.transmitting then 1 else 0) ||| (if e.dataPhase then 2 else 0)),
    .u32 e.timestamp]
  read _ := do
    let raw ← Reader.u8
    let code ← Decoder.enum .errorCode raw (ErrorCode.ofByte? raw)
    let flags ← Reader.u8
    let timestamp ← Reader.u32
    return { code, transmitting := flags &&& 1 != 0, dataPhase := flags &&& 2 != 0, timestamp }

end Layout

/-! ## Messages -/

/-- the sixteen kinds of message -/
inductive MessageKind where
  | hello
  | greeting
  | deviceInfoRequest
  | deviceInfo
  | canInfoRequest
  | canInfo
  | nominalTiming
  | dataTiming
  | features
  | bus
  | outcome
  | busReport
  | received
  | transmit
  | transmitted
  | busError
deriving DecidableEq, Repr

namespace MessageKind

def id : MessageKind → UInt8
  | .hello => MessageId.hello
  | .greeting => MessageId.greeting
  | .deviceInfoRequest | .deviceInfo => MessageId.deviceInfo
  | .canInfoRequest | .canInfo => MessageId.canInfo
  | .nominalTiming => MessageId.nominalTiming
  | .dataTiming => MessageId.dataTiming
  | .features => MessageId.features
  | .bus => MessageId.bus
  | .outcome => MessageId.outcome
  | .busReport => MessageId.busReport
  | .received => MessageId.received
  | .transmit => MessageId.transmit
  | .transmitted => MessageId.transmitted
  | .busError => MessageId.busError

/-- length of the fields that are always there, header included -/
def minLength : MessageKind → Nat
  | .hello | .deviceInfoRequest | .canInfoRequest => 2
  | .bus | .outcome => 4
  | .greeting | .nominalTiming | .dataTiming | .features | .transmitted | .busError => 8
  | .transmit => 10
  | .received => 12
  | .busReport => 16
  | .canInfo => 28
  | .deviceInfo => 60

/-- reads a message of this kind from exactly its bytes -/
def decode (o : ByteOrder) (bytes : Bytes) : MessageKind → Except WireError Message
  | .hello => (fun _ => .hello) <$> (Layout.bare MessageId.hello).decode o bytes
  | .greeting => .greeting <$> Layout.greeting.decode o bytes
  | .deviceInfoRequest => (fun _ => .deviceInfoRequest) <$> (Layout.bare MessageId.deviceInfo).decode o bytes
  | .deviceInfo => .deviceInfo <$> Layout.deviceInfo.decode o bytes
  | .canInfoRequest => (fun _ => .canInfoRequest) <$> (Layout.bare MessageId.canInfo).decode o bytes
  | .canInfo => .canInfo <$> Layout.canInfo.decode o bytes
  | .nominalTiming => .nominalTiming <$> Layout.nominalTiming.decode o bytes
  | .dataTiming => .dataTiming <$> Layout.dataTiming.decode o bytes
  | .features => .features <$> Layout.features.decode o bytes
  | .bus => .bus <$> Layout.bus.decode o bytes
  | .outcome => .outcome <$> Layout.outcome.decode o bytes
  | .busReport => .busReport <$> Layout.busReport.decode o bytes
  | .received => .received <$> Layout.received.decode o bytes
  | .transmit => .transmit <$> Layout.transmit.decode o bytes
  | .transmitted => .transmitted <$> Layout.transmitted.decode o bytes
  | .busError => .busError <$> Layout.busError.decode o bytes

/-- the kind of a message from the adapter with the given id -/
def ofReplyId? (id : UInt8) : Option MessageKind :=
  [greeting, deviceInfo, canInfo, outcome, busReport, received, transmitted, busError].find? (·.id == id)

end MessageKind

namespace Message

def kind : Message → MessageKind
  | hello => .hello
  | greeting _ => .greeting
  | deviceInfoRequest => .deviceInfoRequest
  | deviceInfo _ => .deviceInfo
  | canInfoRequest => .canInfoRequest
  | canInfo _ => .canInfo
  | nominalTiming _ => .nominalTiming
  | dataTiming _ => .dataTiming
  | features _ => .features
  | bus _ => .bus
  | outcome _ => .outcome
  | busReport _ => .busReport
  | received _ => .received
  | transmit _ => .transmit
  | transmitted _ => .transmitted
  | busError _ => .busError

def packet : Message → Packet
  | hello => (Layout.bare MessageId.hello).packet ()
  | greeting g => Layout.greeting.packet g
  | deviceInfoRequest => (Layout.bare MessageId.deviceInfo).packet ()
  | deviceInfo i => Layout.deviceInfo.packet i
  | canInfoRequest => (Layout.bare MessageId.canInfo).packet ()
  | canInfo i => Layout.canInfo.packet i
  | nominalTiming t => Layout.nominalTiming.packet t
  | dataTiming t => Layout.dataTiming.packet t
  | features r => Layout.features.packet r
  | bus on => Layout.bus.packet on
  | outcome code => Layout.outcome.packet code
  | busReport r => Layout.busReport.packet r
  | received f => Layout.received.packet f
  | transmit r => Layout.transmit.packet r
  | transmitted r => Layout.transmitted.packet r
  | busError e => Layout.busError.packet e

/-- length on the wire, header and padding included -/
def wireLength (m : Message) : Nat := m.packet.wireLength

/-- the bytes of a message -/
def encode (m : Message) (o : ByteOrder) : Bytes := m.packet.encode o

/-- writes a message to the front of a buffer -/
def writeTo (m : Message) (o : ByteOrder) (buffer : Bytes) : Except WireError Nat × Bytes := m.packet.writeTo o buffer

/-- reads a message that the adapter sent; its id tells its kind -/
def decodeReply (o : ByteOrder) (id : UInt8) (bytes : Bytes) : Except WireError Message :=
  match MessageKind.ofReplyId? id with
  | some k => k.decode o bytes
  | none => .error (.unexpectedId id)

theorem id_kind (m : Message) : m.packet.id = m.kind.id := by cases m <;> rfl

theorem minLength_le (m : Message) : m.kind.minLength ≤ m.packet.size := by
  cases m <;> simp [packet, Layout.packet, kind, MessageKind.minLength, Layout.bare, headerLength, Layout.greeting,
    Layout.deviceInfo, Layout.canInfo, Layout.nominalTiming, Layout.dataTiming, Layout.timing, Layout.features,
    Layout.bus, Layout.outcome, Layout.busReport, Layout.received, Layout.transmit, Layout.transmitted,
    Layout.busError]

end Message

/-- the longest message of the CAN pipe: a received FD frame with a full payload -/
def maxCanMessage : Nat := alignLength (12 + maxPayload)

end CanAdapter
