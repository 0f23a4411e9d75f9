import StreamLink.Fault
import StreamLink.Socket.Basic

/-!
# The socket table

The resident sockets, found by stream id or by address, and the cursor that hands out stream ids. Ids
go round: a freed id waits until the cursor comes by again, so that what the peer still sends on the
old stream does not reach a new one.
-/

namespace StreamLink

/-- The resident sockets, the next stream id to try, and the most sockets there may be. -/
structure SocketTable where
  sockets : List Socket := []
  cursor : UInt8 := firstStreamId
  limit : Nat := streamIdSpace
deriving Repr, DecidableEq, Inhabited

namespace SocketTable

/-- An empty table. There are never more sockets than stream ids. -/
def ofLimit (limit : Nat) : SocketTable :=
  { limit := min limit streamIdSpace }

def size (t : SocketTable) : Nat :=
  t.sockets.length

def isEmpty (t : SocketTable) : Bool :=
  t.sockets.isEmpty

def get? (t : SocketTable) (stream : UInt8) : Option Socket :=
  t.sockets.find? (·.stream == stream)

def lookup (t : SocketTable) (address : Address) : Option Socket :=
  t.sockets.find? (·.address == address)

def contains (t : SocketTable) (stream : UInt8) : Bool :=
  t.sockets.any (·.stream == stream)

/-- Changes the socket of a stream. -/
def modify (t : SocketTable) (stream : UInt8) (f : Socket → Socket) : SocketTable :=
  { t with sockets := t.sockets.map fun s => if s.stream = stream then f s else s }

/-- The table without the socket of a stream. -/
def erase (t : SocketTable) (stream : UInt8) : SocketTable :=
  { t with sockets := t.sockets.filter (·.stream != stream) }

/-- The first stream id without a socket among so many ids from one on. -/
def firstFree? (t : SocketTable) : Nat → UInt8 → Option UInt8
  | 0, _ => none
  | n + 1, candidate =>
    if t.contains candidate then t.firstFree? n (candidate + streamIdStep) else some candidate

/-- Adds a socket for an address that has none, under the next free stream id. -/
def create (t : SocketTable) (address : Address) : Except Fault (UInt8 × SocketTable) :=
  if t.limit ≤ t.size then .error .socketTableFull
  else
    match t.firstFree? streamIdSpace t.cursor with
    | none => .error .socketTableFull
    | some stream =>
      .ok (stream,
        { t with
          sockets := t.sockets ++ [{ stream := stream, address := address }]
          cursor := stream + streamIdStep })

/-- Adds several sockets of one owner, whose own numbers follow each other. -/
def createMany (t : SocketTable) (owner : UInt32) (localId : UInt8) :
    Nat → List (Except Fault UInt8) × SocketTable
  | 0 => ([], t)
  | n + 1 =>
    match t.create ⟨owner, localId⟩ with
    | .ok (stream, t') =>
      let (results, t'') := t'.createMany owner (localId + 1) n
      (.ok stream :: results, t'')
    | .error fault =>
      let (results, t'') := t.createMany owner (localId + 1) n
      (.error fault :: results, t'')

/-- The resident sockets by ascending stream id. -/
def byStream (t : SocketTable) : List Socket :=
  t.sockets.mergeSort fun a b => a.stream ≤ b.stream

theorem contains_iff {t : SocketTable} {stream : UInt8} :
    t.contains stream = true ↔ ∃ s ∈ t.sockets, s.stream = stream := by
  simp [contains]

theorem contains_eq_isSome_get? (t : SocketTable) (stream : UInt8) :
    t.contains stream = (t.get? stream).isSome := by
  simp [contains, get?, List.isSome_find?]

/-- A free id has no socket. -/
theorem contains_of_firstFree? {t : SocketTable} {n : Nat} {candidate stream : UInt8}
    (h : t.firstFree? n candidate = some stream) : t.contains stream = false := by
  induction n generalizing candidate with
  | zero => simp [firstFree?] at h
  | succ n ih =>
    unfold firstFree? at h
    split at h
    · exact ih h
    next hfree =>
      simp only [Option.some.injEq] at h
      subst h
      simpa using hfree

end SocketTable

end StreamLink
