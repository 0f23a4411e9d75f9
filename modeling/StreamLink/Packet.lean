import StreamLink.Fault

/-!
# Packets

What the two sides say to each other: a packet of one of five kinds, for one stream, with a payload
that fits a frame. A frame is the same thing before its kind has been understood.
-/

namespace StreamLink

/-- What a packet asks or tells. -/
inductive PacketKind
  /-- The host opens a stream to the service that the payload names. -/
  | connect
  /-- The peer answers a connect with one result byte. -/
  | connectResponse
  /-- Bytes of a stream. -/
  | data
  /-- The sender's direction of the stream has ended. -/
  | eos
  /-- The stream is gone at once, in both directions. -/
  | reset
deriving Repr, DecidableEq, Inhabited

namespace PacketKind

def code : PacketKind → UInt8
  | connect => 1
  | connectResponse => 2
  | data => 3
  | eos => 4
  | reset => 5

/-- The kind that a byte stands for. -/
def ofCode? (b : UInt8) : Option PacketKind :=
  if b = 1 then some connect
  else if b = 2 then some connectResponse
  else if b = 3 then some data
  else if b = 4 then some eos
  else if b = 5 then some reset
  else none

def name : PacketKind → String
  | connect => "Connect"
  | connectResponse => "ConnectResponse"
  | data => "Data"
  | eos => "Eos"
  | reset => "Reset"

@[simp] theorem ofCode?_code (k : PacketKind) : ofCode? k.code = some k := by
  cases k <;> rfl

theorem code_of_ofCode? {b : UInt8} {k : PacketKind} (h : ofCode? b = some k) : k.code = b := by
  unfold ofCode? at h
  repeat' split at h
  all_goals simp_all [code]
  all_goals subst h; rfl

/-- The kind of a byte, or the fault that no kind has it. -/
def ofCode (b : UInt8) : Except Fault PacketKind :=
  match ofCode? b with
  | some kind => .ok kind
  | none => .error (.malformed .packetKind)

end PacketKind

/-- The result byte of an accepted connect. Any other result refuses the service. -/
def connectAccepted : UInt8 := 0

/-- The three bytes in front of a payload. -/
structure Header where
  length : UInt8
  kind : UInt8
  stream : UInt8
deriving Repr, DecidableEq, Inhabited

/-- The bytes of the frame that a header announces, its own three included. -/
def Header.frameLength (h : Header) : Nat :=
  headerSize + h.length.toNat

/-- A frame as it travels: its kind byte may mean nothing. -/
structure Frame where
  kind : UInt8
  stream : UInt8
  payload : Bytes
deriving Repr, DecidableEq, Inhabited

namespace Frame

def header (f : Frame) : Header :=
  ⟨UInt8.ofNat f.payload.length, f.kind, f.stream⟩

def bytes (f : Frame) : Bytes :=
  f.header.length :: f.header.kind :: f.header.stream :: f.payload

def length (f : Frame) : Nat :=
  headerSize + f.payload.length

@[simp] theorem length_bytes (f : Frame) : f.bytes.length = f.length := by
  simp [bytes, length, headerSize]; omega

end Frame

/-- A packet of a known kind whose payload fits a frame. -/
structure Packet where
  kind : PacketKind
  stream : UInt8
  payload : Bytes
  payload_le : payload.length ≤ maxPayload := by simp [maxPayload]
deriving Repr, DecidableEq

instance : Inhabited Packet := ⟨{ kind := .eos, stream := 0, payload := [] }⟩

namespace Packet

/-- A packet of the given parts, refused if the payload fits no frame. -/
def make (kind : PacketKind) (stream : UInt8) (payload : Bytes) : Except Fault Packet :=
  if h : payload.length ≤ maxPayload then .ok ⟨kind, stream, payload, h⟩
  else .error (.payloadTooLarge payload.length)

def connect (stream : UInt8) (service : Bytes) : Except Fault Packet :=
  make .connect stream service

def connectResponse (stream : UInt8) (result : UInt8) : Packet :=
  { kind := .connectResponse, stream, payload := [result] }

def data (stream : UInt8) (payload : Bytes) : Except Fault Packet :=
  make .data stream payload

def eos (stream : UInt8) : Packet :=
  { kind := .eos, stream, payload := [] }

def reset (stream : UInt8) : Packet :=
  { kind := .reset, stream, payload := [] }

def frame (p : Packet) : Frame :=
  ⟨p.kind.code, p.stream, p.payload⟩

def header (p : Packet) : Header :=
  p.frame.header

theorem toNat_header_length (p : Packet) : p.header.length.toNat = p.payload.length := by
  have : p.payload.length ≤ 252 := p.payload_le
  simp only [header, Frame.header, frame, UInt8.toNat_ofNat']
  omega

end Packet

end StreamLink
