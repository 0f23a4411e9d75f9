import StreamLink.Multiplexer.Departure

/-!
# Submitted requests

What a request does at the moment it is handed in. It is answered at once, or it waits in a slot of
its socket. Misuse of a stream resets the stream.
-/

namespace StreamLink

namespace Multiplexer

/-- The open socket of an address. -/
def findOpen? (m : Multiplexer) (address : Address) : Option Socket :=
  (m.sockets.lookup address).filter fun s => !s.flags.closed

/-- Refuses a request that misuses a stream, and resets the stream. -/
def misuse (m : Multiplexer) (r : Request) (stream : UInt8) : Multiplexer :=
  (m.answer r r.failure).close stream true

/-- Makes a write or an end of stream wait for its turn. -/
def parkWrite (m : Multiplexer) (stream : UInt8) (r : Request) (length : Nat) : Multiplexer :=
  (m.modify stream ({ · with pendingWrite := some r })).enqueue stream length

/-- A connect needs an address without a socket, a service that fits a frame, and a free stream. -/
def submitConnect (m : Multiplexer) (r : Request) (service : Bytes) : Multiplexer :=
  if (m.sockets.lookup r.address).isSome then m.answer r (.ofStatus .socketInUse)
  else if service.length > maxPayload then m.answer r (.ofStatus .connectReset)
  else
    match m.sockets.create r.address with
    | .error _ => m.answer r (.ofStatus .connectReset)
    | .ok (stream, sockets) =>
      let m := ({ m with sockets }.record (.opened stream r)).record
        (.accepted .connect stream service)
      let m :=
        if m.canSendNow service.length then m.transmit .connect stream service
        else m.enqueue stream service.length
      m.modify stream ({ · with pendingConnect := some r })

/-- A read takes the oldest chunk, or is told that no more will come, or waits. -/
def submitRead (m : Multiplexer) (r : Request) (capacity : Nat) : Multiplexer :=
  match m.findOpen? r.address with
  | none => m.answer r (.ofStatus .readReset)
  | some s =>
    if s.pendingConnect.isSome || s.pendingRead.isSome then m.misuse r s.stream
    else
      match s.popChunk? with
      | some (data, rest) =>
        if capacity < data.length then m.misuse r s.stream
        else (m.modify s.stream fun _ => rest).answer r (.read data)
      | none =>
        if s.flags.eosFromPeer then m.deliverEos s.stream r
        else m.modify s.stream ({ · with pendingRead := some r })

/-- A write goes out at once, or waits for its turn. -/
def submitWrite (m : Multiplexer) (r : Request) (data : Bytes) : Multiplexer :=
  match m.findOpen? r.address with
  | none => m.answer r (.ofStatus .writeReset)
  | some s =>
    if s.writeConflicts || data.length > maxPayload then m.misuse r s.stream
    else
      let m := m.record (.accepted .data s.stream data)
      if m.canSendNow data.length then m.sendWrite s.stream r
      else m.parkWrite s.stream r data.length

/-- An end of stream goes out at once, or waits for its turn. It can be said once. -/
def submitEos (m : Multiplexer) (r : Request) : Multiplexer :=
  match m.findOpen? r.address with
  | none => m.answer r (.ofStatus .eosReset)
  | some s =>
    if s.writeConflicts then m.misuse r s.stream
    else
      let m := (m.modifyFlags s.stream ({ · with eosFromCaller := true })).record
        (.accepted .eos s.stream [])
      if m.canSendNow 0 then m.sendWrite s.stream r
      else m.parkWrite s.stream r 0

/-- A reset always succeeds, and ends the stream if there is one. -/
def submitReset (m : Multiplexer) (r : Request) : Multiplexer :=
  let done := m.answer r (.ofStatus .resetOk)
  match m.findOpen? r.address with
  | none => done
  | some s => done.close s.stream true

def submit (m : Multiplexer) (r : Request) : Multiplexer :=
  let m := m.record (.submitted r)
  match r.command with
  | .connect service => m.submitConnect r service
  | .read capacity => m.submitRead r capacity
  | .write data => m.submitWrite r data
  | .eos => m.submitEos r
  | .reset => m.submitReset r

/-! ### What a request leaves alone -/

@[simp] theorem inbound_misuse (m : Multiplexer) (r : Request) (stream : UInt8) :
    (m.misuse r stream).inbound = m.inbound := by
  simp [misuse]

@[simp] theorem inbound_parkWrite (m : Multiplexer) (stream : UInt8) (r : Request) (length : Nat) :
    (m.parkWrite stream r length).inbound = m.inbound := by
  simp [parkWrite]

@[simp] theorem inbound_submit (m : Multiplexer) (r : Request) :
    (m.submit r).inbound = m.inbound := by
  unfold submit
  dsimp only
  split
  · unfold submitConnect
    split
    · simp
    split
    · simp
    split
    · simp
    · dsimp only
      split <;> simp
  · unfold submitRead
    split
    · simp
    split
    · simp
    split
    · split <;> simp
    · split <;> simp
  · unfold submitWrite
    split
    · simp
    split
    · simp
    · dsimp only
      split <;> simp
  · unfold submitEos
    split
    · simp
    split
    · simp
    · dsimp only
      split <;> simp
  · unfold submitReset
    dsimp only
    split <;> simp

end Multiplexer

end StreamLink
