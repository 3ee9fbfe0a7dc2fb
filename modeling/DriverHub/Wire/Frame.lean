import DriverHub.Wire.Layout

/-!
Frames. Every message is a frame of 64 bytes: the code of its type, four bytes of zero, and a
payload. The payload is the message's fields one behind the other, followed by zeros.
-/
namespace DriverHub

abbrev frameSize : Nat := 64

/-- A message in its written form. -/
abbrev Frame := Vector UInt8 frameSize

/-- Replaces the whole content of a frame: the bytes given, followed by zeros. -/
def Frame.overwrite (frame : Frame) (bytes : List UInt8) : Frame :=
  frame.mapIdx fun i _ => bytes.getD i 0

namespace Wire

/-- Size of the type and the bytes of zero behind it. -/
abbrev headerSize : Nat := 8

/-- Why bytes are no message. -/
inductive WireError where
  | truncated
  | unknownType (code : UInt32)
  | badCount (count : UInt8)
deriving DecidableEq

def WireError.message : WireError → String
  | .truncated => "frame truncated"
  | .unknownType code => "unknown message type " ++ Bytes.hexMarked code.toNat
  | .badCount count => s!"segment count {count.toNat} exceeds {maxSegments}"

inductive RequestType where
  | init
  | configure
  | transfer (direction : Direction)
  | acknowledge
deriving DecidableEq

def RequestType.code : RequestType → UInt32
  | .init => 0x1D00
  | .configure => 0x1D01
  | .transfer .send => 0x1D02
  | .transfer .receive => 0x1D03
  | .acknowledge => 0x1D04

def RequestType.all : List RequestType :=
  [.init, .configure, .transfer .send, .transfer .receive, .acknowledge]

def RequestType.ofCode? (code : UInt32) : Option RequestType :=
  RequestType.all.find? (·.code = code)

inductive ReplyType where
  | init
  | finished (kind : RequestKind)
  | status
deriving DecidableEq

def ReplyType.code : ReplyType → UInt32
  | .init => 0x1D80
  | .finished .configure => 0x1D81
  | .finished .send => 0x1D82
  | .finished .receive => 0x1D83
  | .status => 0x1D84

def ReplyType.all : List ReplyType :=
  [.init, .finished .configure, .finished .send, .finished .receive, .status]

def ReplyType.ofCode? (code : UInt32) : Option ReplyType :=
  ReplyType.all.find? (·.code = code)

/-- The bytes of a message from its type's code and its payload. -/
def assemble (code : UInt32) (payload : List UInt8) : List UInt8 :=
  Format.u32.write code ++ List.replicate 4 0 ++ payload

/-- The frame at the front of some bytes, if there are that many. -/
def frame? (bytes : List UInt8) : Option (List UInt8) :=
  if bytes.length < frameSize then none else some (bytes.take frameSize)

end Wire

open Wire

namespace Request

def type : Request → RequestType
  | .init _ => .init
  | .configure _ => .configure
  | .transfer direction _ => .transfer direction
  | .acknowledge _ => .acknowledge

def payload : Request → List UInt8
  | .init id | .acknowledge id => Format.u32.write id
  | .configure change => Layout.reconfiguration.write change
  | .transfer _ t => Layout.transfer.write t

/-- Writes the request into a frame, of whose former content nothing stays. -/
def encodeInto (request : Request) (frame : Frame) : Frame :=
  frame.overwrite (assemble request.type.code request.payload)

def encode (request : Request) : Frame := request.encodeInto (Vector.replicate frameSize 0)

/-- Reads the fields of a request of the given type. -/
def ofPayload (payload : List UInt8) : RequestType → Except Defect (Except WireError Request)
  | .init => return .ok (.init (← Format.u32.scan payload))
  | .configure => return .ok (.configure (← Layout.reconfiguration.scan payload))
  | .transfer direction => do
    let t ← Layout.transfer.scan payload
    if maxSegments < t.count.toNat then return .error (.badCount t.count)
    else return .ok (.transfer direction t)
  | .acknowledge => return .ok (.acknowledge (← Format.u32.scan payload))

/-- Reads the request in the frame at the front. -/
def decode (bytes : List UInt8) : Except Defect (Except WireError Request) :=
  match frame? bytes with
  | none => return .error .truncated
  | some frame => do
    let code ← Format.u32.scan frame
    match RequestType.ofCode? code with
    | none => return .error (.unknownType code)
    | some type => ofPayload (frame.drop headerSize) type

end Request

namespace Reply

def type : Reply → ReplyType
  | .init _ => .init
  | .finished kind _ _ => .finished kind
  | .status _ _ => .status

def payload : Reply → List UInt8
  | .init reply => Layout.initReply.write reply
  | .finished _ id result => Layout.completion.write (id, result)
  | .status id report => Layout.statusReport.write (id, report)

/-- Writes the reply into a frame, of whose former content nothing stays. -/
def encodeInto (reply : Reply) (frame : Frame) : Frame :=
  frame.overwrite (assemble reply.type.code reply.payload)

def encode (reply : Reply) : Frame := reply.encodeInto (Vector.replicate frameSize 0)

/-- Reads the fields of a reply of the given type. -/
def ofPayload (payload : List UInt8) : ReplyType → Except Defect Reply
  | .init => return .init (← Layout.initReply.scan payload)
  | .finished kind => do
    let (id, result) ← Layout.completion.scan payload
    return .finished kind id result
  | .status => do
    let (id, report) ← Layout.statusReport.scan payload
    return .status id report

/-- Reads the reply in the frame at the front. -/
def decode (bytes : List UInt8) : Except Defect (Except WireError Reply) :=
  match frame? bytes with
  | none => return .error .truncated
  | some frame => do
    let code ← Format.u32.scan frame
    match ReplyType.ofCode? code with
    | none => return .error (.unknownType code)
    | some type => return .ok (← ofPayload (frame.drop headerSize) type)

end Reply
end DriverHub
