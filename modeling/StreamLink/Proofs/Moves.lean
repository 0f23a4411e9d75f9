import StreamLink.Proofs.Effects

/-!
# Moves

The multiplexer does nothing but let one stream after the other take a step. A move is such a step
with its frame: the other sockets, and the turns of the other streams, stay as they are. Each function
of the multiplexer is followed down to its moves here, once; what is true of every move is then true
of everything that the multiplexer does.
-/

namespace StreamLink

/-- The request that an event hands in. -/
@[simp] def Event.submission? : Event → Option Request
  | submitted r => some r
  | _ => none

/-- The requests that were handed in, in order. -/
def submissionsIn (events : List Event) : List Request :=
  events.filterMap Event.submission?

@[simp] theorem submissionsIn_nil : submissionsIn [] = [] := rfl

@[simp] theorem submissionsIn_cons (e : Event) (events : List Event) :
    submissionsIn (e :: events) = e.submission?.toList ++ submissionsIn events :=
  filterMap_cons_eq e events

@[simp] theorem submissionsIn_append (first second : List Event) :
    submissionsIn (first ++ second) = submissionsIn first ++ submissionsIn second :=
  List.filterMap_append

@[simp] theorem submissionsIn_received (frame? : Option Frame) :
    submissionsIn (frame?.map Event.received).toList = [] :=
  filterMap_received (fun _ => rfl) frame?

@[simp] theorem submissionsIn_again (stream : UInt8) (turns : List Nat) :
    submissionsIn (again stream turns) = [] :=
  filterMap_again (fun _ => rfl) stream turns

@[simp] theorem submissionsIn_farewell (s : Socket) (turns : List Nat) :
    submissionsIn (s.farewell turns) = [] := by
  rw [submissionsIn, s.filterMap_farewell fun _ => rfl]
  exact List.filterMap_eq_nil_iff.mpr fun _ _ => rfl

@[simp] theorem reverse_again (stream : UInt8) (turns : List Nat) :
    (again stream turns).reverse = again stream turns := by
  unfold again; split <;> rfl

namespace Multiplexer

/-- One stream takes a step, and nothing else changes. -/
structure Move (m : Multiplexer) (stream : UInt8) (turn : Turn) (events : List Event)
    (m' : Multiplexer) : Prop where
  step : SocketStep stream (m.sockets.get? stream) (m.queue.turns stream) turn events
    (m'.sockets.get? stream)
  others : m'.sockets.others stream = m.sockets.others stream
  queue : turn.Changes stream m.queue m'.queue
  history : m'.history = events.reverse ++ m.history
  distinct : m'.sockets.Distinct

namespace Move

variable {m m' : Multiplexer} {stream : UInt8} {turn : Turn} {events : List Event}

/-- A move that leaves the sockets alone. -/
theorem of_same (h : m.sockets.Distinct)
    (hstep : SocketStep stream (m.sockets.get? stream) (m.queue.turns stream) turn events
      (m.sockets.get? stream))
    (hsockets : m'.sockets = m.sockets) (hqueue : turn.Changes stream m.queue m'.queue)
    (hhistory : m'.history = events.reverse ++ m.history) : Move m stream turn events m' where
  step := by rw [hsockets]; exact hstep
  others := by rw [hsockets]
  queue := hqueue
  history := hhistory
  distinct := by rw [hsockets]; exact h

/-- A move that changes the stream's socket. -/
theorem of_modify (h : m.sockets.Distinct) {s : Socket} (hget : m.sockets.get? stream = some s)
    {f : Socket → Socket}
    (hstep : SocketStep stream (some s) (m.queue.turns stream) turn events (some (f s)))
    (hstream : (f s).stream = s.stream) (haddress : (f s).address = s.address)
    (hsockets : m'.sockets = m.sockets.modify stream f)
    (hqueue : turn.Changes stream m.queue m'.queue)
    (hhistory : m'.history = events.reverse ++ m.history) : Move m stream turn events m' := by
  have hkeep := h.forall_of_get? hget (p := fun s => (f s).stream = s.stream) hstream
  have hstay : ∀ s ∈ m.sockets.sockets, s.stream = stream → (f s).stream = stream :=
    fun s hs heq => (hkeep s hs heq).trans heq
  refine ⟨?_, ?_, hqueue, hhistory, ?_⟩
  · rw [hsockets, SocketTable.get?_modify hstay, hget]
    exact hstep
  · rw [hsockets, SocketTable.others_modify hstay]
  · rw [hsockets]
    exact h.modify hkeep (h.forall_of_get? hget haddress)

/-- A move that takes the stream's socket away. -/
theorem of_erase (h : m.sockets.Distinct) {s : Socket} (hget : m.sockets.get? stream = some s)
    (hstep : SocketStep stream (some s) (m.queue.turns stream) turn events none)
    (hsockets : m'.sockets = m.sockets.erase stream)
    (hqueue : turn.Changes stream m.queue m'.queue)
    (hhistory : m'.history = events.reverse ++ m.history) : Move m stream turn events m' where
  step := by rw [hsockets, hget, SocketTable.get?_erase]; exact hstep
  others := by rw [hsockets, SocketTable.others_erase]
  queue := hqueue
  history := hhistory
  distinct := by rw [hsockets]; exact h.erase

/-- A move that gives the stream a socket. -/
theorem of_create (h : m.sockets.Distinct) {address : Address}
    (hfree : m.sockets.lookup address = none) {t : SocketTable}
    (hcreate : m.sockets.create address = .ok (stream, t)) {f : Socket → Socket}
    (hstep : SocketStep stream none (m.queue.turns stream) turn events
      (some (f { stream := stream, address := address })))
    (hstream : (f { stream := stream, address := address }).stream = stream)
    (haddress : (f { stream := stream, address := address }).address = address)
    (hsockets : m'.sockets = t.modify stream f) (hqueue : turn.Changes stream m.queue m'.queue)
    (hhistory : m'.history = events.reverse ++ m.history) : Move m stream turn events m' := by
  have hget := SocketTable.get?_create hcreate
  have hd := h.create hfree hcreate
  have hkeep := hd.forall_of_get? hget (p := fun s => (f s).stream = s.stream) hstream
  have hstay : ∀ s ∈ t.sockets, s.stream = stream → (f s).stream = stream :=
    fun s hs heq => (hkeep s hs heq).trans heq
  refine ⟨?_, ?_, hqueue, hhistory, ?_⟩
  · rw [hsockets, SocketTable.get?_modify hstay, hget, (SocketTable.create_eq_ok hcreate).1]
    exact hstep
  · rw [hsockets, SocketTable.others_modify hstay, SocketTable.others_create hcreate]
  · rw [hsockets]
    exact hd.modify hkeep (hd.forall_of_get? hget (p := fun s => (f s).address = s.address) haddress)

/-- A move without events or turns: a change of the rings or the totals. -/
theorem of_rings (h : m.sockets.Distinct) (hsockets : m'.sockets = m.sockets)
    (hqueue : m'.queue = m.queue) (hhistory : m'.history = m.history) :
    Move m stream .keep [] m' :=
  of_same h .idle hsockets hqueue hhistory

theorem get?_of_ne (h : Move m stream turn events m') {other : UInt8} (hne : other ≠ stream) :
    m'.sockets.get? other = m.sockets.get? other :=
  SocketTable.get?_of_others hne h.others

theorem turns_of_ne (h : Move m stream turn events m') {other : UInt8} (hne : other ≠ stream) :
    m'.queue.turns other = m.queue.turns other :=
  h.queue.turns_of_ne hne

theorem turns_eq (h : Move m stream turn events m') :
    m'.queue.turns stream = turn.after (m.queue.turns stream) :=
  h.queue.turns_eq

/-- What the step keeps for its stream, every stream keeps. -/
theorem forall_streams (h : Move m stream turn events m')
    {p : UInt8 → Option Socket → List Nat → Prop}
    (hm : ∀ other, p other (m.sockets.get? other) (m.queue.turns other))
    (hstep : p stream (m.sockets.get? stream) (m.queue.turns stream) →
      p stream (m'.sockets.get? stream) (turn.after (m.queue.turns stream))) :
    ∀ other, p other (m'.sockets.get? other) (m'.queue.turns other) := by
  intro other
  by_cases hother : other = stream
  · subst hother
    rw [h.turns_eq]
    exact hstep (hm other)
  · rw [h.get?_of_ne hother, h.turns_of_ne hother]
    exact hm other

end Move

/-- The one state leads to the other by moves that hand in these requests. -/
inductive Leads : Multiplexer → List Request → Multiplexer → Prop
  | refl (m : Multiplexer) : Leads m [] m
  | tail {m m' m'' : Multiplexer} {rs : List Request} {stream : UInt8} {turn : Turn}
      {events : List Event} : Leads m rs m' → Move m' stream turn events m'' →
      Leads m (rs ++ submissionsIn events) m''

namespace Leads

variable {m m' m'' : Multiplexer} {rs rs' : List Request}

theorem of_move {stream : UInt8} {turn : Turn} {events : List Event}
    (h : Move m stream turn events m') : Leads m (submissionsIn events) m' := by
  simpa using tail (.refl m) h

/-- A move that hands in no request. -/
theorem of_quiet {stream : UInt8} {turn : Turn} {events : List Event}
    (h : Move m stream turn events m') (hquiet : submissionsIn events = []) : Leads m [] m' := by
  rw [← hquiet]
  exact of_move h

theorem trans (h : Leads m rs m') (h' : Leads m' rs' m'') : Leads m (rs ++ rs') m'' := by
  induction h' with
  | refl => simpa using h
  | tail _ hmove ih =>
      rw [← List.append_assoc]
      exact .tail ih hmove

theorem distinct (h : Leads m rs m') (hd : m.sockets.Distinct) : m'.sockets.Distinct := by
  cases h with
  | refl => exact hd
  | tail _ hmove => exact hmove.distinct

/-- A property that every move keeps is kept. -/
theorem induct {p : Multiplexer → Prop} (h : Leads m rs m') (hm : p m)
    (hmove : ∀ {m m' : Multiplexer} {stream : UInt8} {turn : Turn} {events : List Event},
      Move m stream turn events m' → p m → p m') : p m' := by
  induction h with
  | refl => exact hm
  | tail _ hlast ih => exact hmove hlast ih

end Leads

end Multiplexer

end StreamLink
