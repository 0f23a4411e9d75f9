/-!
# Socket flags

What a socket remembers about the end of its stream, and the byte that shows it.
-/

namespace StreamLink

/-- The six facts a socket keeps about its own end. -/
structure SocketFlags where
  /-- The stream is given up; the socket only waits for its Reset to leave. -/
  closed : Bool := false
  /-- A Reset has yet to be sent. -/
  owesReset : Bool := false
  /-- The peer has said that it sends nothing more. -/
  eosFromPeer : Bool := false
  /-- A read was told that the peer sends nothing more. -/
  eosDelivered : Bool := false
  /-- The caller has said that it writes nothing more. -/
  eosFromCaller : Bool := false
  /-- The peer was told that the caller writes nothing more. -/
  eosSent : Bool := false
deriving Repr, DecidableEq, Inhabited

namespace SocketFlags

/-- One bit for each fact, the first fact lowest. -/
def bits (f : SocketFlags) : UInt8 :=
  (if f.closed then 1 else 0) + (if f.owesReset then 2 else 0) + (if f.eosFromPeer then 4 else 0)
    + (if f.eosDelivered then 8 else 0) + (if f.eosFromCaller then 16 else 0)
    + (if f.eosSent then 32 else 0)

/-- The facts whose bits are set; other bits mean nothing. -/
def ofBits (b : UInt8) : SocketFlags where
  closed := b &&& 1 != 0
  owesReset := b &&& 2 != 0
  eosFromPeer := b &&& 4 != 0
  eosDelivered := b &&& 8 != 0
  eosFromCaller := b &&& 16 != 0
  eosSent := b &&& 32 != 0

/-- The facts of either. -/
def union (f g : SocketFlags) : SocketFlags where
  closed := f.closed || g.closed
  owesReset := f.owesReset || g.owesReset
  eosFromPeer := f.eosFromPeer || g.eosFromPeer
  eosDelivered := f.eosDelivered || g.eosDelivered
  eosFromCaller := f.eosFromCaller || g.eosFromCaller
  eosSent := f.eosSent || g.eosSent

/-- The facts of the first that the second lacks. -/
def without (f g : SocketFlags) : SocketFlags where
  closed := f.closed && !g.closed
  owesReset := f.owesReset && !g.owesReset
  eosFromPeer := f.eosFromPeer && !g.eosFromPeer
  eosDelivered := f.eosDelivered && !g.eosDelivered
  eosFromCaller := f.eosFromCaller && !g.eosFromCaller
  eosSent := f.eosSent && !g.eosSent

/-- Both directions have ended, and both parties know. -/
def eosExchanged (f : SocketFlags) : Bool :=
  f.eosDelivered && f.eosSent

@[simp] theorem ofBits_bits (f : SocketFlags) : ofBits f.bits = f := by
  obtain ⟨a, b, c, d, e, g⟩ := f
  cases a <;> cases b <;> cases c <;> cases d <;> cases e <;> cases g <;> rfl

end SocketFlags

end StreamLink
