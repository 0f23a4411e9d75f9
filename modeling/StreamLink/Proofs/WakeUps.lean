import StreamLink.Proofs.Interplay

/-!
# No wake-up is lost

A worker that has gone to sleep by itself does not sleep on work. Whatever the peer does while the
worker goes to sleep, and however its steps fall between the worker's, every move that gives the host
something to do is either told by an event that is set and enabled, or its event is still owed. The
events are cleared before the conditions are judged: what the peer moves later sets its event again,
and nobody clears that before the worker wakes.

Main statement: `no_lost_wake_up`.
-/

namespace StreamLink

/-! ### Events as signals -/

namespace HostSignals

/-- The signals whose bits are set. -/
def ofBits (b : UInt8) : HostSignals :=
  ⟨b.toBitVec.getLsbD 0, b.toBitVec.getLsbD 1⟩

@[simp] theorem ofBits_bits (s : HostSignals) : ofBits s.bits = s := by
  obtain ⟨tail, head⟩ := s
  cases tail <;> cases head <;> rfl

@[simp] theorem ofBits_or (a b : UInt8) : ofBits (a ||| b) = (ofBits a).union (ofBits b) := by
  simp [ofBits, union]

/-- A signal that two registers share is a bit that they share. -/
theorem and_ne_zero {a b : UInt8} (h : (ofBits a).inboundTail = true ∧ (ofBits b).inboundTail = true ∨
    (ofBits a).outboundHead = true ∧ (ofBits b).outboundHead = true) : a &&& b ≠ 0 := by
  intro hzero
  have hbits (i : Nat) : (a.toBitVec.getLsbD i && b.toBitVec.getLsbD i) = false := by
    rw [← BitVec.getLsbD_and, ← UInt8.toBitVec_and, hzero]
    simp
  rcases h with ⟨ha, hb⟩ | ⟨ha, hb⟩
  · have hnone := hbits 0
    rw [show a.toBitVec.getLsbD 0 = true from ha, show b.toBitVec.getLsbD 0 = true from hb] at hnone
    contradiction
  · have hnone := hbits 1
    rw [show a.toBitVec.getLsbD 1 = true from ha, show b.toBitVec.getLsbD 1 = true from hb] at hnone
    contradiction

/-- What is no longer owed is set. -/
theorem without_union (s t u : HostSignals) :
    (s.without t).union (u.union t) = (s.union u).union t := by
  obtain ⟨s₀, s₁⟩ := s
  obtain ⟨t₀, t₁⟩ := t
  cases t₀ <;> cases t₁ <;> simp [union, without]

end HostSignals

/-! ### The doorbell -/

namespace Doorbell

variable (d : Doorbell)

@[simp] theorem events_raiseIfDue : d.raiseIfDue.events = d.events := by
  unfold raiseIfDue; split <;> rfl

@[simp] theorem enable_raiseIfDue : d.raiseIfDue.enable = d.enable := by
  unfold raiseIfDue; split <;> rfl

@[simp] theorem masked_raiseIfDue : d.raiseIfDue.masked = d.masked := by
  unfold raiseIfDue; split <;> rfl

@[simp] theorem isSome_waiting_raiseIfDue :
    d.raiseIfDue.hostLine.waiting.isSome = d.hostLine.waiting.isSome := by
  unfold raiseIfDue
  split
  · simp [Line.raise]
  · rfl

/-- Whether the host's line is raised if it has to be. -/
structure Delivers : Prop where
  unmasked : d.masked = false
  raised : d.isDue = true → d.hostLine.isRaised = true

variable {d}

theorem delivers_raiseIfDue (hunmasked : d.masked = false)
    (hlistening : d.hostLine.waiting.isSome = true) : d.raiseIfDue.Delivers where
  unmasked := by rw [masked_raiseIfDue, hunmasked]
  raised := by
    intro hdue
    have hdue : d.isDue = true := by simpa [isDue] using hdue
    obtain ⟨signal, hwaiting⟩ := Option.isSome_iff_exists.mp hlistening
    simp [raiseIfDue, hunmasked, hdue, Line.raise, Line.isRaised, hwaiting]

end Doorbell

/-! ### What the worker may sleep on -/

/-- What may be slept on covers the inbound ring, and the outbound ring if a turn waits. -/
theorem Multiplexer.wakeConditions_of_armed {m : Multiplexer}
    (h : m.wakeConditions.isEmpty = false) : m.wakeConditions.inboundTail = true ∧
      (m.queue.front? ≠ none → m.wakeConditions.outboundHead = true) := by
  unfold wakeConditions at h ⊢
  split
  next hfilled => simp [hfilled, HostSignals.isEmpty] at h
  next hempty =>
    cases hfront : m.queue.front? with
    | none => simp
    | some e =>
        cases hroom : m.outbound.roomFor e.length with
        | false => simp [hroom]
        | true => simp [hempty, hfront, hroom, HostSignals.isEmpty] at h

namespace Interplay

/-- Whether everything that gives the host something to do has its event set, or still owed. -/
structure Covers (s : Interplay) : Prop where
  inbound : s.worker.mux.inbound.isEmpty = false →
    (s.owed.union (.ofBits s.worker.bell.events)).inboundTail = true
  outbound : s.worker.mux.canServe = true →
    (s.owed.union (.ofBits s.worker.bell.events)).outboundHead = true

/-- Whether these events are the ones that the host needs. -/
structure Enables (s : Interplay) (enabled : HostSignals) : Prop where
  inbound : enabled.inboundTail = true
  outbound : s.worker.mux.queue.front? ≠ none → enabled.outboundHead = true

/-- What holds once the conditions were judged, until the worker wakes. -/
def Poised (s : Interplay) : Prop :=
  match s.phase with
  | .enable armed _ => s.Covers ∧ s.Enables armed
  | .announce _ | .unmask true => s.Covers ∧ s.Enables (.ofBits s.worker.bell.enable)
  | .sleep => 0 < s.processed →
    s.Covers ∧ s.Enables (.ofBits s.worker.bell.enable) ∧ s.worker.bell.Delivers
  | _ => True

def Listening (s : Interplay) : Prop :=
  s.worker.bell.hostLine.waiting.isSome = true

variable {s s' : Interplay}

theorem Covers.congr (h : s.Covers) (howed : s'.owed = s.owed)
    (hmux : s'.worker.mux = s.worker.mux)
    (hevents : s'.worker.bell.events = s.worker.bell.events) : s'.Covers := by
  obtain ⟨hinbound, houtbound⟩ := h
  exact ⟨by rwa [hmux, howed, hevents], by rwa [hmux, howed, hevents]⟩

/-! ### Steps of the others -/

/-- What a step of anyone but the worker leaves alone. -/
structure Aside (s s' : Interplay) : Prop where
  phase : s'.phase = s.phase
  processed : s'.processed = s.processed
  queue : s'.worker.mux.queue = s.worker.mux.queue
  enable : s'.worker.bell.enable = s.worker.bell.enable
  covers : s.Covers → s'.Covers
  delivers : s.worker.bell.Delivers → s'.worker.bell.Delivers

theorem Aside.poised (h : Aside s s') (hpoised : s.Poised) : s'.Poised := by
  have henables {enabled : HostSignals} (hs : s.Enables enabled) : s'.Enables enabled :=
    ⟨hs.inbound, h.queue ▸ hs.outbound⟩
  unfold Poised at hpoised ⊢
  rw [h.phase]
  cases hphase : s.phase with
  | enable armed moved =>
      rw [hphase] at hpoised
      exact ⟨h.covers hpoised.1, henables hpoised.2⟩
  | announce moved =>
      rw [hphase] at hpoised
      exact ⟨h.covers hpoised.1, h.enable ▸ henables hpoised.2⟩
  | unmask armed =>
      cases armed with
      | false => trivial
      | true =>
          rw [hphase] at hpoised
          exact ⟨h.covers hpoised.1, h.enable ▸ henables hpoised.2⟩
  | sleep =>
      rw [hphase] at hpoised
      rw [h.processed]
      intro hprocessed
      obtain ⟨hcovers, henables', hdelivers⟩ := hpoised hprocessed
      exact ⟨h.covers hcovers, h.enable ▸ henables henables', h.delivers hdelivers⟩
  | _ => trivial

/-- A step that touches neither the rings nor the events. -/
theorem Aside.of_same (hphase : s'.phase = s.phase) (hprocessed : s'.processed = s.processed)
    (howed : s'.owed = s.owed) (hmux : s'.worker.mux = s.worker.mux)
    (hevents : s'.worker.bell.events = s.worker.bell.events)
    (henable : s'.worker.bell.enable = s.worker.bell.enable)
    (hdelivers : s.worker.bell.Delivers → s'.worker.bell.Delivers) : Aside s s' where
  phase := hphase
  processed := hprocessed
  queue := by rw [hmux]
  enable := henable
  covers := fun hcovers => hcovers.congr howed hmux hevents
  delivers := hdelivers

theorem aside_append (bytes : Bytes) : Aside s (s.step (.append bytes)) where
  phase := rfl
  processed := rfl
  queue := rfl
  enable := rfl
  covers := by
    rintro ⟨-, houtbound⟩
    refine ⟨fun _ => ?_, fun hserve => ?_⟩
    · simp [step, HostSignals.union]
    · simpa [step, HostSignals.union, withLink, Worker.withLink, Worker.link] using houtbound hserve
  delivers := id

/-- The peer moves its reading position, however far. -/
theorem aside_outbound (ring : Ring) :
    Aside s { s.withLink { s.worker.link with toPeer := ring } with
      owed := s.owed.union { outboundHead := true } } where
  phase := rfl
  processed := rfl
  queue := rfl
  enable := rfl
  covers := by
    rintro ⟨hinbound, -⟩
    refine ⟨fun hfilled => ?_, fun _ => ?_⟩
    · simpa [HostSignals.union, withLink, Worker.withLink, Worker.link] using hinbound hfilled
    · simp [HostSignals.union]
  delivers := id

theorem aside_take : Aside s (s.step .take) := by
  unfold step
  dsimp only
  split
  · exact .of_same rfl rfl rfl rfl rfl rfl id
  · exact aside_outbound _

/-- What the peer no longer owes is set. -/
theorem aside_signal (hlistening : s.Listening) (signals : HostSignals) :
    Aside s (s.step (.signal signals)) := by
  have hevents : (s.step (.signal signals)).worker.bell.events =
      s.worker.bell.events ||| signals.bits := Doorbell.events_raiseIfDue _
  have hcovered : (s.step (.signal signals)).owed.union
        (.ofBits (s.step (.signal signals)).worker.bell.events) =
      (s.owed.union (.ofBits s.worker.bell.events)).union signals := by
    rw [hevents, HostSignals.ofBits_or, HostSignals.ofBits_bits]
    exact HostSignals.without_union ..
  refine ⟨rfl, rfl, rfl, Doorbell.enable_raiseIfDue _, ?_, ?_⟩
  · rintro ⟨hinbound, houtbound⟩
    refine ⟨fun hfilled => ?_, fun hserve => ?_⟩
    · rw [hcovered]
      exact Bool.or_eq_true_iff.mpr (.inl (hinbound hfilled))
    · rw [hcovered]
      exact Bool.or_eq_true_iff.mpr (.inl (houtbound hserve))
  · intro hdelivers
    exact Doorbell.delivers_raiseIfDue hdelivers.unmasked hlistening

theorem aside_post (r : Request) : Aside s (s.step (.post r)) :=
  .of_same rfl rfl rfl rfl rfl rfl id

theorem aside_collect : Aside s (s.step .collect) :=
  .of_same rfl rfl rfl rfl rfl rfl fun h => ⟨h.unmasked, h.raised⟩

theorem aside_wait : Aside s (s.step .wait) := by
  unfold step Link.wait
  dsimp only
  split
  · exact .of_same rfl rfl rfl rfl rfl rfl fun h => ⟨h.unmasked, h.raised⟩
  · exact .of_same rfl rfl rfl rfl rfl rfl id

/-! ### Steps of the worker -/

/-- What was judged covers everything: there was nothing to do. -/
theorem poised_judge {moved : PeerSignals} (hphase : s.phase = .judge moved) : s.work.Poised := by
  unfold work
  rw [hphase]
  dsimp only
  cases harmed : s.worker.mux.wakeConditions.isEmpty with
  | true => trivial
  | false =>
      have hidle := harmed
      rw [Multiplexer.isEmpty_wakeConditions_iff, Bool.or_eq_false_iff, Bool.not_eq_false'] at hidle
      obtain ⟨hempty, hserve⟩ := hidle
      obtain ⟨hinbound, houtbound⟩ := Multiplexer.wakeConditions_of_armed harmed
      refine ⟨⟨fun hfilled => ?_, fun hserve' => ?_⟩, hinbound, houtbound⟩
      · rw [hempty] at hfilled
        contradiction
      · rw [hserve] at hserve'
        contradiction

theorem poised_enable {armed : HostSignals} {moved : PeerSignals}
    (hphase : s.phase = .enable armed moved) (hpoised : s.Poised) : s.work.Poised := by
  rw [Poised, hphase] at hpoised
  obtain ⟨hcovers, hinbound, houtbound⟩ := hpoised
  have hwork : s.work =
      { s with worker := s.worker.write .enable armed.bits, phase := .announce moved } := by
    simp only [work, hphase]
  have henable : (s.worker.write .enable armed.bits).bell.enable = armed.bits :=
    Doorbell.enable_raiseIfDue _
  rw [hwork]
  refine ⟨hcovers.congr rfl rfl (Doorbell.events_raiseIfDue _), ?_⟩
  rw [henable, HostSignals.ofBits_bits]
  exact ⟨hinbound, houtbound⟩

theorem poised_announce {moved : PeerSignals} (hphase : s.phase = .announce moved)
    (hpoised : s.Poised) : s.work.Poised := by
  rw [Poised, hphase] at hpoised
  obtain ⟨hcovers, henables⟩ := hpoised
  simp only [work, hphase]
  split
  · exact ⟨hcovers.congr rfl rfl rfl, henables.inbound, henables.outbound⟩
  · have henable : (s.worker.write .peerEvents moved.bits).bell.enable = s.worker.bell.enable :=
      Doorbell.enable_raiseIfDue _
    refine ⟨hcovers.congr rfl rfl (Doorbell.events_raiseIfDue _), ?_⟩
    rw [henable]
    exact ⟨henables.inbound, henables.outbound⟩

/-- As soon as the doorbell is unmasked, the line is raised if it has to be. -/
theorem poised_unmask (hphase : s.phase = .unmask true) (hpoised : s.Poised)
    (hlistening : s.Listening) : s.work.Poised := by
  rw [Poised, hphase] at hpoised
  obtain ⟨hcovers, henables⟩ := hpoised
  have hwork : s.work =
      { s with worker := s.worker.unmask, phase := .sleep, processed := s.processed + 1 } := by
    simp [work, hphase]
  have henable : s.worker.unmask.bell.enable = s.worker.bell.enable := Doorbell.enable_raiseIfDue _
  rw [hwork]
  intro _
  refine ⟨hcovers.congr rfl rfl (Doorbell.events_raiseIfDue _), ?_,
    Doorbell.delivers_raiseIfDue rfl hlistening⟩
  rw [henable]
  exact ⟨henables.inbound, henables.outbound⟩

/-- Before the conditions are judged nothing is promised yet. -/
theorem Poised.work (hpoised : s.Poised) (hlistening : s.Listening) : s.work.Poised := by
  cases hphase : s.phase with
  | sleep =>
      have hsame : s.work = s := by simp only [Interplay.work, hphase]
      rwa [hsame]
  | judge moved => exact poised_judge hphase
  | enable armed moved => exact poised_enable hphase hpoised
  | announce moved => exact poised_announce hphase hpoised
  | unmask armed =>
      cases armed with
      | true => exact poised_unmask hphase hpoised hlistening
      | false => simp [Interplay.work, hphase, Poised]
  | handleNext | receive worked =>
      simp only [Interplay.work, hphase]
      split <;> trivial
  | send worked =>
      simp only [Interplay.work, hphase]
      split
      · trivial
      · cases worked <;> trivial
  | _ => simp only [Interplay.work, hphase, Poised]

/-! ### Steps of anyone -/

theorem Listening.work (h : s.Listening) : s.work.Listening := by
  have hraise {d : Doorbell} (hd : d.hostLine = s.worker.bell.hostLine) :
      d.raiseIfDue.hostLine.waiting.isSome = true := by
    rw [Doorbell.isSome_waiting_raiseIfDue, hd]
    exact h
  cases hphase : s.phase with
  | disable | enable | release | unmask =>
      simp only [Interplay.work, hphase]
      exact hraise rfl
  | announce =>
      simp only [Interplay.work, hphase]
      split
      · exact h
      · exact hraise rfl
  | handleNext | receive | send =>
      simp only [Interplay.work, hphase]
      split <;> exact h
  | _ =>
      simp only [Interplay.work, hphase]
      exact h

theorem Listening.step (h : s.Listening) (step : Step) : (s.step step).Listening := by
  cases step with
  | work => exact h.work
  | wakeForRequest =>
      unfold Interplay.step
      dsimp only
      split <;> exact h
  | wakeForSignal =>
      unfold Interplay.step
      dsimp only
      split
      · simpa [Listening, wake, Line.take] using h
      · exact h
  | post | append | release | collect => exact h
  | take =>
      unfold Interplay.step
      dsimp only
      split <;> exact h
  | signal signals => exact (Doorbell.isSome_waiting_raiseIfDue _).trans h
  | wait =>
      unfold Interplay.step Link.wait
      dsimp only
      split <;> exact h

theorem Poised.step (hpoised : s.Poised) (hlistening : s.Listening) (step : Step) :
    (s.step step).Poised := by
  cases step with
  | work => exact hpoised.work hlistening
  | wakeForRequest =>
      unfold Interplay.step
      dsimp only
      split
      · trivial
      · exact hpoised
  | wakeForSignal =>
      unfold Interplay.step
      dsimp only
      split
      · trivial
      · exact hpoised
  | post r => exact (aside_post r).poised hpoised
  | append bytes => exact (aside_append bytes).poised hpoised
  | take => exact aside_take.poised hpoised
  | release length => exact (aside_outbound _).poised hpoised
  | signal signals => exact (aside_signal hlistening signals).poised hpoised
  | collect => exact aside_collect.poised hpoised
  | wait => exact aside_wait.poised hpoised

theorem poised_run {w : Worker} (hlistening : w.bell.hostLine.waiting.isSome = true)
    (steps : List Step) : (run w steps).Poised ∧ (run w steps).Listening := by
  have hstart : Poised { worker := w } ∧ Listening { worker := w } := ⟨nofun, hlistening⟩
  unfold run
  generalize ({ worker := w } : Interplay) = s at hstart
  induction steps generalizing s with
  | nil => exact hstart
  | cons step steps ih => exact ih _ ⟨hstart.1.step hstart.2 step, hstart.2.step step⟩

/-- However the steps of the worker, the peer and the clients fall: once the worker has gone to sleep
by itself, as long as it sleeps without a signal on its line, and the peer owes no event, there is
nothing to do. The inbound ring is empty, and no turn waits, or the oldest does not fit. -/
theorem no_lost_wake_up (w : Worker) (hlistening : w.bell.hostLine.waiting.isSome = true)
    (steps : List Step) :
    let s := run w steps
    s.phase = .sleep → 0 < s.processed → s.worker.bell.hostLine.isRaised = false →
      s.owed = {} → s.worker.mux.inbound.isEmpty = true ∧
        ∀ e ∈ s.worker.mux.queue.front?, s.worker.mux.outbound.roomFor e.length = false := by
  intro s hsleep hprocessed hquiet howed
  have hpoised := (poised_run hlistening steps).1
  rw [Poised, hsleep] at hpoised
  obtain ⟨hcovers, henables, hdelivers⟩ := hpoised hprocessed
  have howes (signals : HostSignals) : s.owed.union signals = signals := by
    rw [howed]
    rfl
  have hdue : s.worker.bell.events &&& s.worker.bell.enable = 0 := by
    by_contra hdue
    have hraised := hdelivers.raised (by simpa [Doorbell.isDue] using hdue)
    exact absurd hquiet (by simp [s, hraised])
  refine ⟨?_, fun e he => ?_⟩
  · by_contra hfilled
    have hset := hcovers.inbound (by simpa using hfilled)
    rw [howes] at hset
    exact HostSignals.and_ne_zero (.inl ⟨hset, henables.inbound⟩) hdue
  · by_contra hroom
    have hserve : s.worker.mux.canServe = true := by
      unfold Multiplexer.canServe
      rw [he]
      simpa using hroom
    have hset := hcovers.outbound hserve
    rw [howes] at hset
    have hwaits : s.worker.mux.queue.front? ≠ none := Option.ne_none_iff_exists'.mpr ⟨e, he⟩
    exact HostSignals.and_ne_zero (.inr ⟨hset, henables.outbound hwaits⟩) hdue

/-- Two connects fill the ring and a third waits. The peer appends a frame just after the conditions
were judged, and rings while the doorbell is masked: the line is raised as soon as it is unmasked, and
the worker goes to sleep a second time with nothing to do. -/
theorem no_lost_wake_up_of_late_frame :
    let w : Worker := { mux := .fresh {} }
    let asleep : List Step := [.post ⟨0, ⟨1, 1⟩, .connect (List.replicate 100 1)⟩,
      .post ⟨1, ⟨1, 2⟩, .connect (List.replicate 149 2)⟩, .post ⟨2, ⟨1, 3⟩, .connect [5]⟩,
      .wakeForRequest] ++ List.replicate 12 .work ++ [.append [0, 5, 9], .work,
      .signal { inboundTail := true }, .work, .work]
    let steps := asleep ++ [.wakeForSignal] ++ List.replicate 11 .work
    let s := run w steps
    (run w asleep).phase = .sleep ∧ (run w asleep).worker.bell.hostLine.isRaised = true ∧
      s.worker.mux.queue.front? = some ⟨5, 1⟩ ∧
      w.bell.hostLine.waiting.isSome = true ∧ s.phase = .sleep ∧ 0 < s.processed ∧
      s.worker.bell.hostLine.isRaised = false ∧ s.owed = {} ∧
      s.worker.mux.inbound.isEmpty = true ∧
      ∀ e ∈ s.worker.mux.queue.front?, s.worker.mux.outbound.roomFor e.length = false := by
  intro w asleep steps s
  have hfirst : (run w asleep).phase = .sleep ∧
      (run w asleep).worker.bell.hostLine.isRaised = true := by decide +kernel
  have hfront : s.worker.mux.queue.front? = some ⟨5, 1⟩ := by decide +kernel
  have hsleep : s.phase = .sleep := by decide +kernel
  have hprocessed : 0 < s.processed := by decide +kernel
  have hquiet : s.worker.bell.hostLine.isRaised = false := by decide +kernel
  have howed : s.owed = {} := by decide +kernel
  have hidle := no_lost_wake_up w rfl steps
  dsimp only at hidle
  have hs : run w steps = s := rfl
  rw [hs] at hidle
  exact ⟨hfirst.1, hfirst.2, hfront, rfl, hsleep, hprocessed, hquiet, howed,
    hidle hsleep hprocessed hquiet howed⟩

end Interplay

end StreamLink
