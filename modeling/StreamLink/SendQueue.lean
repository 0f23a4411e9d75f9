import StreamLink.Limits

/-!
# The send queue

The streams whose next frame did not fit the ring, in the order in which they asked. The oldest goes
first, however long its frame is, and nobody overtakes it. A stream stands in the queue once; the
queue does not check this, its users see to it.
-/

namespace StreamLink

/-- One stream's turn, and the payload length that has to fit. -/
structure SendQueue.Entry where
  stream : UInt8
  length : Nat
deriving Repr, DecidableEq, Inhabited

/-- The turns, oldest first. -/
structure SendQueue where
  entries : List SendQueue.Entry := []
deriving Repr, DecidableEq, Inhabited

namespace SendQueue

def isEmpty (q : SendQueue) : Bool :=
  q.entries.isEmpty

def length (q : SendQueue) : Nat :=
  q.entries.length

def front? (q : SendQueue) : Option Entry :=
  q.entries.head?

def pop (q : SendQueue) : SendQueue :=
  ⟨q.entries.tail⟩

/-- Puts a stream last. -/
def enqueue (q : SendQueue) (stream : UInt8) (length : Nat) : SendQueue :=
  ⟨q.entries ++ [⟨stream, length⟩]⟩

/-- Whether a stream waits. -/
def contains (q : SendQueue) (stream : UInt8) : Bool :=
  q.entries.any (·.stream == stream)

/-- The queue without the oldest turn of a stream. -/
def remove (q : SendQueue) (stream : UInt8) : SendQueue :=
  ⟨q.entries.eraseP (·.stream == stream)⟩

theorem isEmpty_iff {q : SendQueue} : q.isEmpty = true ↔ q.entries = [] := by
  simp [isEmpty]

theorem length_remove_le (q : SendQueue) (stream : UInt8) :
    (q.remove stream).length ≤ q.length :=
  List.length_eraseP_le

@[simp] theorem length_enqueue (q : SendQueue) (stream : UInt8) (n : Nat) :
    (q.enqueue stream n).length = q.length + 1 := by
  simp [enqueue, length]

theorem length_pop_lt {q : SendQueue} {e : Entry} (h : q.front? = some e) :
    q.pop.length < q.length := by
  obtain ⟨_ | ⟨a, rest⟩⟩ := q
  · simp [front?] at h
  · simp [pop, length]

end SendQueue

end StreamLink
