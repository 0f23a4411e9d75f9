import Mathlib.Data.List.TakeWhile
import StreamLink.Proofs.SocketStep

/-!
# The lives of a stream

A stream lives from the connect that opens it until it is retired, and it may live again. A chronicle
tells of each life apart from the others: what it was opened for, what happened in the meantime, and
whether it is over. When a chronicle goes on, only the life that is not over goes on with it.
-/

namespace StreamLink

/-- One life of a stream. -/
structure Life where
  /-- The connect that opened the stream. -/
  request : Request
  /-- Everything that happened during the life. -/
  events : List Event
  retired : Bool
deriving Repr, DecidableEq, Inhabited

/-- The lives of a stream, oldest first. -/
def livesOn (stream : UInt8) : List Event → List Life
  | [] => []
  | .opened other r :: rest =>
    if other = stream then
      ⟨r, rest.takeWhile (· ≠ .retired stream), decide (.retired stream ∈ rest)⟩ ::
        livesOn stream rest
    else livesOn stream rest
  | _ :: rest => livesOn stream rest

/-- The packet that the event put into the ring for a stream. -/
@[simp] def Event.packetOn? (stream : UInt8) : Event → Option (PacketKind × Bytes)
  | sent kind other payload => if other = stream then some (kind, payload) else none
  | _ => none

/-- The packets that entered the ring for a stream, in order. -/
def packetsOn (stream : UInt8) (events : List Event) : List (PacketKind × Bytes) :=
  events.filterMap (Event.packetOn? stream)

/-- The packet that a command asks for. -/
@[simp] def Command.packet? : Command → Option (PacketKind × Bytes)
  | write data => some (.data, data)
  | eos => some (.eos, [])
  | _ => none

/-- The packet whose request, made on the socket of an address, the event answers with success. -/
@[simp] def Event.fulfilledAt? (address : Address) : Event → Option (PacketKind × Bytes)
  | answered r c => if r.address = address ∧ c.status = .ok then r.command.packet? else none
  | _ => none

/-- The packets whose requests, made on one socket, were answered with success, in order. -/
def fulfilledAt (address : Address) (events : List Event) : List (PacketKind × Bytes) :=
  events.filterMap (Event.fulfilledAt? address)

section

variable {stream : UInt8} {address : Address}

@[simp] theorem packetsOn_nil : packetsOn stream [] = [] := rfl

@[simp] theorem packetsOn_cons (e : Event) (events : List Event) :
    packetsOn stream (e :: events) = (e.packetOn? stream).toList ++ packetsOn stream events :=
  filterMap_cons_eq e events

@[simp] theorem packetsOn_append (first second : List Event) :
    packetsOn stream (first ++ second) = packetsOn stream first ++ packetsOn stream second :=
  List.filterMap_append

theorem mem_packetsOn {kind : PacketKind} {payload : Bytes} {events : List Event} :
    (kind, payload) ∈ packetsOn stream events ↔ .sent kind stream payload ∈ events := by
  unfold packetsOn
  rw [List.mem_filterMap]
  constructor
  · rintro ⟨e, he, heq⟩
    cases e with
    | sent kind' other payload' =>
        rw [Event.packetOn?] at heq
        split at heq
        next hother =>
          obtain ⟨rfl, rfl⟩ := Prod.mk.inj (Option.some.inj heq)
          exact hother ▸ he
        · contradiction
    | _ => contradiction
  · intro he
    exact ⟨_, he, by simp⟩

@[simp] theorem packetsOn_received (frame? : Option Frame) :
    packetsOn stream (frame?.map Event.received).toList = [] :=
  filterMap_received (fun _ => rfl) frame?

@[simp] theorem packetsOn_again (other : UInt8) (turns : List Nat) :
    packetsOn stream (again other turns) = [] :=
  filterMap_again (fun _ => rfl) other turns

@[simp] theorem packetsOn_farewell (s : Socket) (turns : List Nat) :
    packetsOn stream (s.farewell turns) = [] := by
  rw [packetsOn, s.filterMap_farewell fun _ => rfl]
  exact List.filterMap_eq_nil_iff.mpr fun _ _ => rfl

@[simp] theorem fulfilledAt_nil : fulfilledAt address [] = [] := rfl

@[simp] theorem fulfilledAt_cons (e : Event) (events : List Event) :
    fulfilledAt address (e :: events) =
      (e.fulfilledAt? address).toList ++ fulfilledAt address events :=
  filterMap_cons_eq e events

@[simp] theorem fulfilledAt_append (first second : List Event) :
    fulfilledAt address (first ++ second) = fulfilledAt address first ++ fulfilledAt address second :=
  List.filterMap_append

@[simp] theorem fulfilledAt_received (frame? : Option Frame) :
    fulfilledAt address (frame?.map Event.received).toList = [] :=
  filterMap_received (fun _ => rfl) frame?

@[simp] theorem fulfilledAt_again (stream : UInt8) (turns : List Nat) :
    fulfilledAt address (again stream turns) = [] :=
  filterMap_again (fun _ => rfl) stream turns

/-- What fails is not fulfilled. -/
@[simp] theorem fulfilledAt_farewell (s : Socket) (turns : List Nat) :
    fulfilledAt address (s.farewell turns) = [] := by
  rw [fulfilledAt, s.filterMap_farewell fun _ => rfl, List.filterMap_eq_nil_iff]
  intro r _
  exact if_neg fun h => r.command.resetStatus_ne_ok h.2

end

/-! ### A chronicle that goes on -/

/-- What a chronicle that went on tells of happened before, or it is new. -/
theorem split_append {past events early late : List Event} {e : Event}
    (h : past ++ events = early ++ e :: late) :
    (∃ rest, past = early ++ e :: rest) ∨ ∃ rest, early = past ++ rest ∧ events = rest ++ e :: late := by
  rcases List.append_eq_append_iff.mp h with ⟨rest, hearly, hevents⟩ | ⟨rest, hpast, hlate⟩
  · exact .inr ⟨rest, hearly, hevents⟩
  · cases rest with
    | nil => exact .inr ⟨[], by simpa using hpast.symm, hlate.symm⟩
    | cons e' rest =>
        obtain ⟨rfl, -⟩ := List.cons.inj hlate
        exact .inl ⟨rest, hpast⟩

/-- The life after more has happened. -/
def Life.extend (life : Life) (stream : UInt8) (events : List Event) : Life :=
  if life.retired then life
  else
    { life with
      events := life.events ++ events.takeWhile (· ≠ .retired stream)
      retired := decide (.retired stream ∈ events) }

/-- The first part of a life, as long as it is not over. -/
theorem takeWhile_append_of_not_mem {past : List Event} {e : Event} (h : e ∉ past)
    (events : List Event) :
    (past ++ events).takeWhile (· ≠ e) = past ++ events.takeWhile (· ≠ e) := by
  apply List.takeWhile_append_of_pos
  intro e' he'
  simpa using fun heq : e' = e => h (heq ▸ he')

theorem takeWhile_eq_self {events : List Event} {e : Event} (h : e ∉ events) :
    events.takeWhile (· ≠ e) = events := by
  simpa using takeWhile_append_of_not_mem h []

theorem takeWhile_append_of_mem {past : List Event} {e : Event} (h : e ∈ past)
    (events : List Event) :
    (past ++ events).takeWhile (· ≠ e) = past.takeWhile (· ≠ e) := by
  rw [List.takeWhile_append, if_neg]
  intro hlength
  have hall := (List.takeWhile_prefix _).eq_of_length hlength
  rw [List.takeWhile_eq_self_iff] at hall
  simpa using hall e h

/-- The lives that there were go on, and new ones begin. -/
theorem livesOn_append (stream : UInt8) (past events : List Event) :
    livesOn stream (past ++ events) =
      (livesOn stream past).map (·.extend stream events) ++ livesOn stream events := by
  induction past with
  | nil => rfl
  | cons e past ih =>
      cases e with
      | opened other r =>
          by_cases hother : other = stream
          · simp only [List.cons_append, livesOn, hother, ↓reduceIte, ih, List.map_cons]
            congr 1
            by_cases hover : .retired stream ∈ past
            · rw [takeWhile_append_of_mem hover]
              simp [Life.extend, hover]
            · rw [takeWhile_append_of_not_mem hover, takeWhile_eq_self hover]
              simp [Life.extend, hover]
          · simp only [List.cons_append, livesOn, hother, ↓reduceIte, ih]
      | _ => exact ih

/-- Whether a life of the stream begins or ends with the event. -/
@[simp] def Event.bounds (stream : UInt8) : Event → Bool
  | opened other _ => other == stream
  | retired other => other == stream
  | _ => false

section

variable {stream : UInt8} {events : List Event}

@[simp] theorem any_bounds_received (frame? : Option Frame) :
    (frame?.map Event.received).toList.any (Event.bounds stream) = false := by
  cases frame? <;> rfl

@[simp] theorem any_bounds_again (other : UInt8) (turns : List Nat) :
    (again other turns).any (Event.bounds stream) = false := by
  rw [List.any_eq_false]
  intro e he
  rw [(mem_again.mp he).2]
  exact Bool.false_ne_true

@[simp] theorem any_bounds_farewell (s : Socket) (turns : List Nat) :
    (s.farewell turns).any (Event.bounds stream) = false := by
  rw [List.any_eq_false]
  intro e he
  rcases Socket.mem_farewell he with rfl | ⟨r, -, rfl⟩ <;> exact Bool.false_ne_true

theorem livesOn_eq_nil (h : events.any (Event.bounds stream) = false) :
    livesOn stream events = [] := by
  induction events with
  | nil => rfl
  | cons e events ih =>
      rw [List.any_cons, Bool.or_eq_false_iff] at h
      cases e with
      | opened other r =>
          have hother : ¬ other = stream := by simpa using h.1
          rw [livesOn, if_neg hother]
          exact ih h.2
      | _ => exact ih h.2

theorem retired_not_mem (h : events.any (Event.bounds stream) = false) :
    .retired stream ∉ events := by
  intro hmem
  have hbounds := List.any_eq_false.mp h _ hmem
  simp at hbounds

/-- A life begins. -/
theorem livesOn_opened (h : events.any (Event.bounds stream) = false) (r : Request) :
    livesOn stream (.opened stream r :: events) = [⟨r, events, false⟩] := by
  have hretired := retired_not_mem h
  rw [livesOn, if_pos rfl, livesOn_eq_nil h, takeWhile_eq_self hretired, decide_eq_false hretired]

theorem Life.extend_of_over {life : Life} (h : life.retired = true) (events : List Event) :
    life.extend stream events = life :=
  if_pos h

/-- A life goes on. -/
theorem Life.extend_of_quiet {life : Life} (h : life.retired = false)
    (hquiet : events.any (Event.bounds stream) = false) :
    life.extend stream events = { life with events := life.events ++ events } := by
  have hretired := retired_not_mem hquiet
  rw [extend, if_neg (by simp [h]), takeWhile_eq_self hretired, decide_eq_false hretired, h]

/-- A life ends. -/
theorem Life.extend_retired {life : Life} (h : life.retired = false)
    (hquiet : events.any (Event.bounds stream) = false) :
    life.extend stream (events ++ [.retired stream]) =
      { life with events := life.events ++ events, retired := true } := by
  rw [extend, if_neg (by simp [h]), takeWhile_append_of_not_mem (retired_not_mem hquiet),
    List.takeWhile_cons_of_neg (by simp), List.append_nil, decide_eq_true (by simp)]

/-- Lives that are over stay as they are. -/
theorem map_extend_eq_self {lives : List Life} (h : ∀ life ∈ lives, life.retired = true)
    (events : List Event) : lives.map (·.extend stream events) = lives := by
  nth_rewrite 2 [← List.map_id lives]
  apply List.map_congr_left
  exact fun life hlife => life.extend_of_over (h life hlife) events

variable {past : List Event} {lives : List Life} {life : Life}

/-- No life goes on, and none begins. -/
theorem livesOn_append_quiet (hover : ∀ life ∈ livesOn stream past, life.retired = true)
    (hquiet : events.any (Event.bounds stream) = false) :
    livesOn stream (past ++ events) = livesOn stream past := by
  rw [livesOn_append, map_extend_eq_self hover, livesOn_eq_nil hquiet, List.append_nil]

/-- No life goes on, and one begins. -/
theorem livesOn_append_opened (hover : ∀ life ∈ livesOn stream past, life.retired = true)
    (hquiet : events.any (Event.bounds stream) = false) (r : Request) :
    livesOn stream (past ++ .submitted r :: .opened stream r :: events) =
      livesOn stream past ++ [⟨r, events, false⟩] := by
  rw [livesOn_append, map_extend_eq_self hover, ← livesOn_opened hquiet]
  rfl

/-- A life that goes on went on before. -/
theorem exists_life_of_append_quiet (hquiet : events.any (Event.bounds stream) = false)
    (hmem : life ∈ livesOn stream (past ++ events)) (hongoing : life.retired = false) :
    ∃ life' ∈ livesOn stream past, life'.retired = false ∧
      life = { life' with events := life'.events ++ events } := by
  rw [livesOn_append, livesOn_eq_nil hquiet, List.append_nil, List.mem_map] at hmem
  obtain ⟨life', hmem', rfl⟩ := hmem
  cases hover : life'.retired with
  | true => simp [life'.extend_of_over hover, hover] at hongoing
  | false => exact ⟨life', hmem', hover, Life.extend_of_quiet hover hquiet⟩

/-- The last life goes on. -/
theorem livesOn_append_ongoing (hlives : livesOn stream past = lives ++ [life])
    (hover : ∀ life ∈ lives, life.retired = true) (hongoing : life.retired = false)
    (hquiet : events.any (Event.bounds stream) = false) :
    livesOn stream (past ++ events) = lives ++ [{ life with events := life.events ++ events }] := by
  rw [livesOn_append, hlives, List.map_append, map_extend_eq_self hover, List.map_singleton,
    Life.extend_of_quiet hongoing hquiet, livesOn_eq_nil hquiet, List.append_nil]

/-- The last life ends. -/
theorem livesOn_append_retired (hlives : livesOn stream past = lives ++ [life])
    (hover : ∀ life ∈ lives, life.retired = true) (hongoing : life.retired = false)
    (hquiet : events.any (Event.bounds stream) = false) :
    livesOn stream (past ++ (events ++ [.retired stream])) =
      lives ++ [{ life with events := life.events ++ events, retired := true }] := by
  rw [livesOn_append, hlives, List.map_append, map_extend_eq_self hover, List.map_singleton,
    Life.extend_retired hongoing hquiet, livesOn_append, livesOn_eq_nil hquiet]
  simp [livesOn]

end

/-! ### Steps of the stream and of others -/

section

variable {stream other : UInt8} {s? s?' : Option Socket} {s s' : Socket} {turns : List Nat}
  {turn : Turn} {events : List Event}

/-- While a stream has its socket, its life neither begins nor ends. -/
theorem SocketStep.any_bounds (h : SocketStep stream (some s) turns turn events (some s')) :
    events.any (Event.bounds stream) = false := by
  cases h with
  | connected => split <;> rfl
  | serveConnect _ he | serveWrite _ _ _ he => rcases he with rfl | ⟨rfl, -⟩ <;> rfl
  | _ => simp

/-- Between its lives a stream has no socket. -/
theorem SocketStep.any_bounds_between (h : SocketStep stream none turns turn events none) :
    events.any (Event.bounds stream) = false := by
  cases h with
  | _ => simp

/-- A stream gets a socket as a life begins. -/
theorem SocketStep.exists_opened (h : SocketStep stream none turns turn events (some s')) :
    ∃ r rest, events = .submitted r :: .opened stream r :: rest ∧
      rest.any (Event.bounds stream) = false := by
  cases h with
  | openNow => exact ⟨_, _, rfl, rfl⟩
  | openLater => exact ⟨_, _, rfl, by simp⟩

/-- A stream loses its socket as a life ends. -/
theorem SocketStep.exists_retired (h : SocketStep stream (some s) turns turn events none) :
    ∃ rest, events = rest ++ [.retired stream] ∧ rest.any (Event.bounds stream) = false := by
  cases h with
  | rejected =>
      refine ⟨_, rfl, ?_⟩
      split <;> simp
  | closeQuietly => exact ⟨_, rfl, by simp⟩
  | @closeNow _ _ f? =>
      exact ⟨(f?.map Event.received).toList ++ s.farewell turns ++
        [.accepted .reset stream [], .sent .reset stream []], by simp, by simp⟩
  | serveReset => exact ⟨[.sent .reset stream []], rfl, rfl⟩

theorem SocketStep.any_bounds_elsewhere (h : SocketStep stream s? turns turn events s?')
    (hother : stream ≠ other) : events.any (Event.bounds other) = false := by
  cases h with
  | connected | rejected => split <;> simp [hother]
  | serveConnect _ he | serveWrite _ _ _ he => rcases he with rfl | ⟨rfl, -⟩ <;> rfl
  | _ => simp [hother]

end

end StreamLink
