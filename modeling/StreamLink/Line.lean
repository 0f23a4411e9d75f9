/-!
# Lines

A line carries a single signal from those who can raise it to one listener. A signal waits until it is
taken, and further ones join it. Once the listener has gone, raising does nothing.
-/

namespace StreamLink

/-- A line with some raising ends. -/
structure Line where
  raisers : Nat := 1
  /-- Whether a signal waits; none once the listener has gone. -/
  waiting : Option Bool := some false
deriving Repr, DecidableEq, Inhabited

namespace Line

def isRaised (l : Line) : Bool :=
  l.waiting.getD false

def raise (l : Line) : Line :=
  { l with waiting := l.waiting.map fun _ => true }

def take (l : Line) : Line :=
  { l with waiting := l.waiting.map fun _ => false }

def addRaiser (l : Line) : Line :=
  { l with raisers := l.raisers + 1 }

def hangUp (l : Line) : Line :=
  { l with waiting := none }

end Line

end StreamLink
