import StreamLink.Limits

/-!
# Requests

What an owner asks of one of its sockets, and what it is told. Every request is answered with one
completion. A request carries the number its owner knows it by.
-/

namespace StreamLink

/-- What an owner asks of a socket. -/
inductive Command
  /-- Open a stream to a service. -/
  | connect (service : Bytes)
  /-- Take the next chunk, if it is no longer than the capacity. -/
  | read (capacity : Nat)
  /-- Send one chunk. -/
  | write (data : Bytes)
  /-- Say that nothing more will be written. -/
  | eos
  /-- Give the stream up. -/
  | reset
deriving Repr, DecidableEq, Inhabited

/-- How a request ended. -/
inductive Status
  | ok
  | socketInUse
  | connectReset
  | connectUnknownService
  | readReset
  | readEos
  | writeReset
  | eosReset
  | resetOk
deriving Repr, DecidableEq, Inhabited

namespace Status

def all : List Status :=
  [ok, socketInUse, connectReset, connectUnknownService, readReset, readEos, writeReset, eosReset,
   resetOk]

def name : Status → String
  | ok => "Ok"
  | socketInUse => "SocketInUse"
  | connectReset => "ConnectReset"
  | connectUnknownService => "ConnectUnknownService"
  | readReset => "ReadReset"
  | readEos => "ReadEos"
  | writeReset => "WriteReset"
  | eosReset => "EosReset"
  | resetOk => "ResetOk"

def ofName? (s : String) : Option Status :=
  all.find? (·.name == s)

/-- Whether the request did not get what it asked for. The end of a stream is not a failure. -/
def isFailure : Status → Bool
  | ok | readEos | resetOk => false
  | _ => true

end Status

namespace Command

def name : Command → String
  | connect _ => "connect"
  | read _ => "read"
  | write _ => "write"
  | eos => "eos"
  | reset => "reset"

/-- The bytes that the command puts on the wire. -/
def payload : Command → Bytes
  | connect service => service
  | write data => data
  | _ => []

/-- The most bytes that a read accepts. -/
def capacity : Command → Nat
  | read capacity => capacity
  | _ => 0

/-- How the command ends when its stream is given up. -/
def resetStatus : Command → Status
  | connect _ => .connectReset
  | read _ => .readReset
  | write _ => .writeReset
  | eos => .eosReset
  | reset => .resetOk

end Command

/-- What an owner is told about a request. -/
structure Completion where
  status : Status
  data : Bytes := []
  length : Nat := 0
deriving Repr, DecidableEq, Inhabited

namespace Completion

def ofStatus (status : Status) : Completion :=
  { status }

def read (data : Bytes) : Completion :=
  { status := .ok, data, length := data.length }

def written (length : Nat) : Completion :=
  { status := .ok, length }

end Completion

/-- A socket as its owner names it: owners number their sockets themselves. -/
structure Address where
  owner : UInt32
  localId : UInt8
deriving Repr, DecidableEq, Inhabited

/-- A command for a socket, with the number that its completion is told apart by. -/
structure Request where
  number : Nat
  address : Address
  command : Command
deriving Repr, DecidableEq, Inhabited

/-- The completion of a request whose stream is given up. -/
def Request.failure (r : Request) : Completion :=
  .ofStatus r.command.resetStatus

end StreamLink
