import StreamLink.Proofs.Agreement
import StreamLink.Proofs.Shipping

/-!
# Parcels and their fates

An outbound operation that was taken on is a parcel. It waits until it is sent, or it is cancelled:
its socket is closed first, or its connect is answered first. A chronicle tells of every parcel what
became of it, and the send queue and the sockets tell which parcels still wait, and in which order.
A step of one stream sends none but the oldest that waits, and takes new ones on behind the others.
-/

namespace StreamLink

/-! ### What a chronicle tells of a parcel -/

/-- What became of a parcel. -/
inductive Fate
  | sent
  | cancelled
deriving Repr, DecidableEq, Inhabited

/-- The parcel that an event takes on. -/
@[simp] def Event.acceptance? : Event → Option Parcel
  | accepted kind stream payload => some ⟨kind, stream, payload⟩
  | _ => none

/-- Whether a frame answers a connect that waits for its answer: with one byte, whichever it is. -/
def Frame.isAnswer (f : Frame) : Prop :=
  PacketKind.ofCode? f.kind = some .connectResponse ∧ f.payload.length = 1

instance (f : Frame) : Decidable f.isAnswer :=
  inferInstanceAs (Decidable (_ ∧ _))

/-- What an event does to a parcel that waits. The parcel is sent; or its socket is closed, at once or
with a Reset that is taken on; or it is a connect, and the peer answers it. -/
@[simp] def Event.fate? (p : Parcel) : Event → Option Fate
  | sent kind stream payload => if ⟨kind, stream, payload⟩ = p then some .sent else none
  | retired stream => if stream = p.stream then some .cancelled else none
  | accepted .reset stream _ => if stream = p.stream then some .cancelled else none
  | received f =>
    if f.stream = p.stream ∧ p.kind = .connect ∧ f.isAnswer then some .cancelled else none
  | _ => none

/-- What becomes of a waiting parcel in the course of the events; nothing if it still waits. -/
def fate? (p : Parcel) (events : List Event) : Option Fate :=
  events.findSome? (Event.fate? p)

/-- The parcels that were taken on, in that order, each with what became of it. -/
def parcelsIn : List Event → List (Parcel × Option Fate)
  | [] => []
  | e :: rest => (e.acceptance?.map fun p => (p, fate? p rest)).toList ++ parcelsIn rest

/-- Whether a parcel was not cancelled. -/
def Kept (parcel : Parcel × Option Fate) : Bool :=
  parcel.2 ≠ some .cancelled

/-- The parcels that were taken on and not cancelled. -/
def keptIn (events : List Event) : List (Parcel × Option Fate) :=
  (parcelsIn events).filter Kept

section Fates

variable {p : Parcel}

@[simp] theorem fate?_nil : fate? p [] = none := rfl

@[simp] theorem fate?_cons (e : Event) (events : List Event) :
    fate? p (e :: events) = (e.fate? p).or (fate? p events) := by
  rw [fate?, List.findSome?_cons]
  cases e.fate? p <;> rfl

@[simp] theorem fate?_append (first second : List Event) :
    fate? p (first ++ second) = (fate? p first).or (fate? p second) :=
  List.findSome?_append

@[simp] theorem fate?_again (stream : UInt8) (turns : List Nat) :
    fate? p (again stream turns) = none := by
  unfold again
  split <;> rfl

@[simp] theorem fate?_farewell (s : Socket) (turns : List Nat) :
    fate? p (s.farewell turns) = none := by
  rw [fate?, List.findSome?_eq_none_iff]
  intro e he
  rcases Socket.mem_farewell he with rfl | ⟨r, -, rfl⟩ <;> rfl

/-- As long as nothing is sent, the first word on a parcel is that it is cancelled. -/
theorem fate?_eq_cancelled {events : List Event} (hsent : sentIn events = [])
    (h : ∃ e ∈ events, e.fate? p = some .cancelled) : fate? p events = some .cancelled := by
  induction events with
  | nil =>
      obtain ⟨e, he, -⟩ := h
      contradiction
  | cons e events ih =>
      rw [sentIn_cons, List.append_eq_nil_iff] at hsent
      rw [fate?_cons]
      cases hfate : e.fate? p with
      | none =>
          obtain ⟨e', he', hcancelled⟩ := h
          rcases List.mem_cons.mp he' with rfl | he'
          · rw [hfate] at hcancelled
            contradiction
          · exact ih hsent.2 ⟨e', he', hcancelled⟩
      | some fate =>
          cases fate with
          | cancelled => rfl
          | sent =>
              cases e with
              | sent => simp at hsent
              | accepted kind => cases kind <;> simp at hfate
              | _ => simp at hfate

@[simp] theorem parcelsIn_nil : parcelsIn [] = [] := rfl

@[simp] theorem parcelsIn_cons (e : Event) (events : List Event) :
    parcelsIn (e :: events) =
      (e.acceptance?.map fun p => (p, fate? p events)).toList ++ parcelsIn events := rfl

theorem parcelsIn_append (past events : List Event) :
    parcelsIn (past ++ events) =
      (parcelsIn past).map (fun (p, fate) => (p, fate.or (fate? p events))) ++ parcelsIn events := by
  induction past with
  | nil => rfl
  | cons e past ih =>
      rw [List.cons_append, parcelsIn_cons, ih, parcelsIn_cons, List.map_append, List.append_assoc]
      congr 1
      cases e.acceptance? with
      | none => rfl
      | some p => simp

theorem parcelsIn_append_of_eq_nil {past : List Event} (h : parcelsIn past = [])
    (events : List Event) : parcelsIn (past ++ events) = parcelsIn events := by
  rw [parcelsIn_append, h]
  rfl

/-- Events that take nothing on. -/
theorem parcelsIn_eq_nil {events : List Event} (h : ∀ e ∈ events, e.acceptance? = none) :
    parcelsIn events = [] := by
  induction events with
  | nil => rfl
  | cons e events ih =>
      rw [parcelsIn_cons, h e List.mem_cons_self, ih fun e' he' => h e' (List.mem_cons_of_mem e he')]
      rfl

@[simp] theorem parcelsIn_received (frame? : Option Frame) :
    parcelsIn (frame?.map Event.received).toList = [] := by
  cases frame? <;> rfl

@[simp] theorem parcelsIn_again (stream : UInt8) (turns : List Nat) :
    parcelsIn (again stream turns) = [] := by
  apply parcelsIn_eq_nil
  intro e he
  rw [(mem_again.mp he).2]
  rfl

@[simp] theorem parcelsIn_farewell (s : Socket) (turns : List Nat) :
    parcelsIn (s.farewell turns) = [] := by
  apply parcelsIn_eq_nil
  intro e he
  rcases Socket.mem_farewell he with rfl | ⟨r, -, rfl⟩ <;> rfl

end Fates

/-! ### Parcels that wait -/

/-- Those of the waiting parcels that the events do not cancel. -/
def survivors (events : List Event) (waiting : List Parcel) : List (Parcel × Option Fate) :=
  (waiting.map fun p => (p, fate? p events)).filter Kept

/-- The events send the oldest of the waiting parcels that they do not cancel, and take new ones on
behind the others. -/
def InOrder (waiting : List Parcel) (events : List Event) (waiting' : List Parcel) : Prop :=
  survivors events waiting ++ keptIn events =
    (sentIn events).map (·, some .sent) ++ waiting'.map (·, none)

section Survivors

variable {events : List Event} {waiting waiting' : List Parcel}

theorem survivors_append (events : List Event) (first second : List Parcel) :
    survivors events (first ++ second) = survivors events first ++ survivors events second := by
  rw [survivors, List.map_append, List.filter_append]
  rfl

theorem survivors_of_none (h : ∀ p ∈ waiting, fate? p events = none) :
    survivors events waiting = waiting.map (·, none) := by
  have hmap : (waiting.map fun p => (p, fate? p events)) = waiting.map (·, none) :=
    List.map_congr_left fun p hp => by rw [h p hp]
  rw [survivors, hmap, List.filter_eq_self]
  intro parcel hparcel
  obtain ⟨p, -, rfl⟩ := List.mem_map.mp hparcel
  rfl

/-- When a stream's own parcels are cancelled, those of the others survive. -/
theorem survivors_of_cancelled {stream : UInt8}
    (hother : ∀ p : Parcel, p.stream ≠ stream → fate? p events = none)
    (hown : ∀ p ∈ waiting, p.stream = stream → fate? p events = some .cancelled) :
    survivors events waiting = (waiting.filter (·.stream != stream)).map (·, none) := by
  induction waiting with
  | nil => rfl
  | cons p waiting ih =>
      have hrest := ih fun p' hp' => hown p' (List.mem_cons_of_mem p hp')
      have hsplit := survivors_append events [p] waiting
      rw [List.singleton_append] at hsplit
      rw [hsplit, hrest]
      by_cases hstream : p.stream = stream
      · simp [survivors, Kept, hown p List.mem_cons_self hstream, hstream]
      · simp [survivors, Kept, hother p hstream, hstream]

/-- What is kept stays in order when more happens in order. -/
theorem InOrder.append {past : List Event} (h : InOrder waiting events waiting')
    (hpast : keptIn past = (sentIn past).map (·, some .sent) ++ waiting.map (·, none)) :
    keptIn (past ++ events) =
      (sentIn (past ++ events)).map (·, some .sent) ++ waiting'.map (·, none) := by
  let later : Parcel × Option Fate → Parcel × Option Fate :=
    fun parcel => (parcel.1, parcel.2.or (fate? parcel.1 events))
  -- What was cancelled stays cancelled, and what was sent stays sent.
  have hlater : ((parcelsIn past).map later).filter Kept = ((keptIn past).map later).filter Kept := by
    rw [keptIn, List.filter_map, List.filter_map, List.filter_filter]
    congr 1
    apply List.filter_congr
    rintro ⟨p, fate⟩ -
    rcases fate with _ | _ | _ <;> simp [later, Kept]
  have hsent : (((sentIn past).map (·, some Fate.sent)).map later).filter Kept =
      (sentIn past).map (·, some .sent) := by
    rw [List.map_map, List.filter_eq_self.mpr]
    · rfl
    · intro parcel hparcel
      obtain ⟨p, -, rfl⟩ := List.mem_map.mp hparcel
      rfl
  have hwaiting : ((waiting.map (·, none)).map later).filter Kept = survivors events waiting := by
    rw [List.map_map]
    rfl
  calc keptIn (past ++ events)
      = ((parcelsIn past).map later).filter Kept ++ keptIn events := by
        rw [keptIn, parcelsIn_append, List.filter_append]
        rfl
    _ = (sentIn past).map (·, some .sent) ++ (survivors events waiting ++ keptIn events) := by
        rw [hlater, hpast, List.map_append, List.filter_append, hsent, hwaiting, List.append_assoc]
    _ = (sentIn (past ++ events)).map (·, some .sent) ++ waiting'.map (·, none) := by
        rw [h, sentIn_append, List.map_append, List.append_assoc]

end Survivors

/-! ### The send queue -/

/-- The parcel that a socket would send when its turn comes. -/
def Work.parcel? (stream : UInt8) : Work → Option Parcel
  | .connect service => some ⟨.connect, stream, service⟩
  | .write r =>
    match r.command with
    | .write data => some ⟨.data, stream, data⟩
    | _ => some ⟨.eos, stream, []⟩
  | .reset => some ⟨.reset, stream, []⟩
  | .idle => none

def parcelOn? (stream : UInt8) (s? : Option Socket) : Option Parcel :=
  s?.bind fun s => s.work.parcel? stream

theorem stream_of_parcelOn? {stream : UInt8} {s? : Option Socket} {p : Parcel}
    (h : parcelOn? stream s? = some p) : p.stream = stream := by
  obtain ⟨s, -, hwork⟩ := Option.bind_eq_some_iff.mp h
  unfold Work.parcel? at hwork
  split at hwork
  · obtain rfl := Option.some.inj hwork
    rfl
  · split at hwork <;> obtain rfl := Option.some.inj hwork <;> rfl
  · obtain rfl := Option.some.inj hwork
    rfl
  · contradiction

namespace SendQueue

/-- The parcels that the turns in the queue are for, if each stream has that parcel to send. -/
def parcels (q : SendQueue) (parcel? : UInt8 → Option Parcel) : List Parcel :=
  q.entries.filterMap fun e => parcel? e.stream

/-- The parcels of the other streams. -/
def parcelsBut (stream : UInt8) (q : SendQueue) (parcel? : UInt8 → Option Parcel) : List Parcel :=
  (q.entries.filter (·.stream != stream)).filterMap fun e => parcel? e.stream

variable {q q' : SendQueue} {stream : UInt8} {parcel? parcel?' : UInt8 → Option Parcel}

theorem parcels_enqueue (n : Nat) :
    (q.enqueue stream n).parcels parcel? = q.parcels parcel? ++ (parcel? stream).toList := by
  rw [parcels, enqueue, List.filterMap_append]
  cases h : parcel? stream <;> simp [parcels, h]

theorem parcels_of_cons {n : Nat} (h : q.entries = ⟨stream, n⟩ :: q'.entries) :
    q.parcels parcel? = (parcel? stream).toList ++ q'.parcels parcel? := by
  rw [parcels, h]
  cases hp : parcel? stream <;> simp [parcels, hp]

/-- What the other streams have to send is not the stream's concern. -/
theorem parcelsBut_congr (h : ∀ other, other ≠ stream → parcel?' other = parcel? other) :
    q.parcelsBut stream parcel?' = q.parcelsBut stream parcel? := by
  apply List.filterMap_congr
  intro e he
  exact h e.stream (by simpa using (List.mem_filter.mp he).2)

theorem parcels_eq_of_none (h : parcel? stream = none) :
    q.parcels parcel? = q.parcelsBut stream parcel? := by
  unfold parcels parcelsBut
  rw [List.filterMap_filter]
  apply List.filterMap_congr
  intro e _
  by_cases hstream : e.stream = stream
  · simp [hstream, h]
  · simp [hstream]

theorem parcels_eq_of_turns (h : q.turns stream = []) :
    q.parcels parcel? = q.parcelsBut stream parcel? := by
  unfold parcels parcelsBut
  rw [List.filter_eq_self.mpr]
  intro e he
  have hnone := List.filter_eq_nil_iff.mp (List.map_eq_nil_iff.mp h) e he
  simpa using hnone

theorem filter_parcels (h : ∀ other p, parcel? other = some p → p.stream = other) :
    (q.parcels parcel?).filter (·.stream != stream) = q.parcelsBut stream parcel? := by
  unfold parcels parcelsBut
  rw [List.filterMap_filter, List.filter_filterMap]
  apply List.filterMap_congr
  intro e _
  cases hp : parcel? e.stream with
  | none => simp
  | some p => simp [h e.stream p hp, Option.filter]

end SendQueue

/-- The order of the other streams is not the stream's concern. -/
theorem Turn.Changes.entries_of_ne {stream : UInt8} {q q' : SendQueue} {turn : Turn}
    (h : turn.Changes stream q q') :
    q'.entries.filter (·.stream != stream) = q.entries.filter (·.stream != stream) := by
  have hremove : (q.remove stream).entries.filter (·.stream != stream) =
      q.entries.filter (·.stream != stream) := by
    unfold SendQueue.remove
    induction q.entries with
    | nil => rfl
    | cons e rest ih =>
        by_cases heq : e.stream = stream
        · simp [heq]
        · simpa [heq] using ih
  cases turn with
  | keep => rw [h]
  | bypass => rw [h.2]
  | join n => rw [h]; simp [SendQueue.enqueue]
  | serve n =>
      have hentries : q.entries = ⟨stream, n⟩ :: q'.entries := h
      simp [hentries]
  | leave => rw [h, hremove]
  | clear => rw [h.1, hremove]
  | rejoin => rw [h, ← hremove]; simp [SendQueue.enqueue]

end StreamLink
