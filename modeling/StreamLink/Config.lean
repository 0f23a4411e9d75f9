import StreamLink.Limits

/-!
# Configuration

What the host may choose for one link.
-/

namespace StreamLink

/-- The choices of one host. A receive limit of zero means that buffering is not limited. -/
structure Config where
  /-- Bytes that one socket may buffer before its stream is reset. -/
  maxReceiveQueueBytes : Nat := 65536
  /-- Sockets wanted at the same time. -/
  maxSockets : Nat := streamIdSpace
  /-- Requests that may wait for the worker; none for no limit. -/
  requestQueueSize : Option Nat := none
  workerName : String := "ringmux-worker"
deriving Repr, DecidableEq, Inhabited

/-- There are never more sockets than stream ids. -/
def Config.effectiveMaxSockets (config : Config) : Nat :=
  min config.maxSockets streamIdSpace

end StreamLink
