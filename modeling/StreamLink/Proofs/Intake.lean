import StreamLink.Proofs.OneWake
import StreamLink.Proofs.Splitting

/-!
# Taking in what the peer sent

Whatever bytes are in the inbound ring, the frames in them are dispatched one after the other, and
what is left over is thrown away at once. The loop comes to its end and never consumes more than
there is. What is done with a frame does not depend on the ring that it came from, so that only the
bytes matter, and not where they lie.

Main statement: `takes_in_frame_by_frame`.
-/

namespace StreamLink

/-- Consumes bytes, provided that so many are there. -/
def Ring.consume? (r : Ring) (n : Nat) : Option Ring :=
  if n ≤ r.occupied then some (r.consume n) else none

theorem Ring.consume?_of_le {r : Ring} {n : Nat} (h : n ≤ r.occupied) :
    r.consume? n = some (r.consume n) :=
  if_pos h

/-- A ring of which everything is consumed has its head at its tail. -/
theorem Ring.discardAll_eq (r : Ring) : r.discardAll = { r with head := r.tail } := by
  rw [discardAll, consume, head_add_occupied]

namespace Multiplexer

/-! ### The loop as it runs -/

/-- Counts a violation and throws away whatever is in the ring. -/
def throwAway? (m : Multiplexer) : Option Multiplexer :=
  (m.inbound.consume? m.inbound.occupied).map fun ring =>
    { m with inbound := ring }.countViolation.record (.garbled m.inbound.occupied)

/-- Looks at the header, then at the whole frame, consumes it and dispatches it. -/
def takeIn? (m : Multiplexer) : Option Multiplexer :=
  match m.inbound.peekHeader? with
  | none => m.throwAway?
  | some h =>
    match m.inbound.peekFrame h with
    | .error _ => m.throwAway?
    | .ok bytes =>
      (m.inbound.consume? h.frameLength).map fun ring =>
        { m with inbound := ring }.dispatch ⟨h.kind, h.stream, bytes.drop headerSize⟩

theorem throwAway?_eq (m : Multiplexer) : m.throwAway? =
    some ({ m with inbound := m.inbound.discardAll }.countViolation.record
      (.garbled m.inbound.occupied)) := by
  rw [throwAway?, Ring.consume?_of_le (Nat.le_refl _)]
  rfl

/-- Nothing is consumed that is not there. -/
theorem takeIn?_eq (m : Multiplexer) : m.takeIn? = some m.receiveOne := by
  unfold takeIn? receiveOne Ring.takeFrame? Ring.peekFrame
  cases m.inbound.peekHeader? with
  | none => exact m.throwAway?_eq
  | some h =>
      by_cases hshort : m.inbound.occupied < h.frameLength
      · simp only [if_pos hshort]
        exact m.throwAway?_eq
      · have hpayload : (m.inbound.copyFrom m.inbound.head h.frameLength).drop headerSize =
            m.inbound.copyFrom (m.inbound.head + 3) h.length.toNat := by
          rw [Header.frameLength, Ring.copyFrom_add]
          exact List.drop_left' (m.inbound.length_copyFrom m.inbound.head headerSize)
        simp only [if_neg hshort, hpayload, Ring.consume?_of_le (Nat.le_of_not_lt hshort)]
        rfl

/-- Takes in until the ring is empty, and tells whether anything was taken in. -/
def takeInAll? (progressed : Bool) (m : Multiplexer) : Option (Bool × Multiplexer) :=
  if _hempty : m.inbound.isEmpty then some (progressed, m)
  else
    match _htake : m.takeIn? with
    | none => none
    | some m' => m'.takeInAll? true
termination_by m.inbound.occupied
decreasing_by
  obtain rfl := Option.some.inj (m.takeIn?_eq.symm.trans _htake)
  exact occupied_receiveOne_lt m (by simpa using _hempty)

/-- The loop ends, and tells whether the ring held anything. -/
theorem takeInAll?_eq (progressed : Bool) (m : Multiplexer) :
    m.takeInAll? progressed = some (progressed || !m.inbound.isEmpty, m.drainInbound) := by
  fun_induction drainInbound m generalizing progressed with
  | case1 m hempty =>
      unfold takeInAll?
      simp [hempty]
  | case2 m hpending ih =>
      unfold takeInAll?
      rw [dif_neg hpending]
      split
      next hnone => simp [takeIn?_eq] at hnone
      next m' htake =>
        obtain rfl := Option.some.inj (m.takeIn?_eq.symm.trans htake)
        simp [ih, hpending]

/-! ### Frames and the ring they came from -/

/-- The state with another inbound ring. -/
def withInbound (m : Multiplexer) (ring : Ring) : Multiplexer :=
  { m with inbound := ring }

section WithInbound

variable (m : Multiplexer) (ring : Ring) (stream : UInt8)

@[simp] theorem config_withInbound : (m.withInbound ring).config = m.config := rfl

@[simp] theorem sockets_withInbound : (m.withInbound ring).sockets = m.sockets := rfl

@[simp] theorem statistics_withInbound : (m.withInbound ring).statistics = m.statistics := rfl

@[simp] theorem withInbound_withInbound (ring' : Ring) :
    (m.withInbound ring).withInbound ring' = m.withInbound ring' := rfl

@[simp] theorem record_withInbound (e : Event) :
    (m.withInbound ring).record e = (m.record e).withInbound ring := rfl

@[simp] theorem answer_withInbound (r : Request) (c : Completion) :
    (m.withInbound ring).answer r c = (m.answer r c).withInbound ring := rfl

@[simp] theorem modify_withInbound (f : Socket → Socket) :
    (m.withInbound ring).modify stream f = (m.modify stream f).withInbound ring := rfl

@[simp] theorem modifyFlags_withInbound (f : SocketFlags → SocketFlags) :
    (m.withInbound ring).modifyFlags stream f = (m.modifyFlags stream f).withInbound ring := rfl

@[simp] theorem canSendNow_withInbound (n : Nat) :
    (m.withInbound ring).canSendNow n = m.canSendNow n := rfl

@[simp] theorem retire_withInbound :
    (m.withInbound ring).retire stream = (m.retire stream).withInbound ring := by
  unfold retire
  rw [sockets_withInbound]
  split <;> rfl

@[simp] theorem transmit_withInbound (kind : PacketKind) (payload : Bytes) :
    (m.withInbound ring).transmit kind stream payload =
      (m.transmit kind stream payload).withInbound ring := by
  unfold transmit withInbound
  dsimp only
  split <;> rfl

@[simp] theorem enqueue_withInbound (n : Nat) :
    (m.withInbound ring).enqueue stream n = (m.enqueue stream n).withInbound ring := by
  unfold enqueue withInbound
  dsimp only
  split <;> rfl

@[simp] theorem withdraw_withInbound :
    (m.withInbound ring).withdraw stream = (m.withdraw stream).withInbound ring := by
  unfold withdraw withInbound
  dsimp only
  split
  · rfl
  · split <;> rfl

@[simp] theorem failAll_withInbound (rs : List Request) :
    (m.withInbound ring).failAll rs = (m.failAll rs).withInbound ring := by
  induction rs generalizing m with
  | nil => rfl
  | cons r rs ih => exact ih (m.answer r r.failure)

@[simp] theorem abandon_withInbound (s : Socket) :
    (m.withInbound ring).abandon stream s = (m.abandon stream s).withInbound ring := by
  unfold abandon
  rw [withdraw_withInbound, failAll_withInbound]
  rfl

@[simp] theorem close_withInbound (emitReset : Bool) :
    (m.withInbound ring).close stream emitReset = (m.close stream emitReset).withInbound ring := by
  cases hget : m.sockets.get? stream with
  | none =>
      have hget' : (m.withInbound ring).sockets.get? stream = none := hget
      rw [close, close, hget, hget']
  | some s =>
      rw [close_eq hget, close_eq (m := m.withInbound ring) hget, abandon_withInbound]
      cases emitReset with
      | false => simp
      | true =>
          cases hnow : ((m.abandon stream s).record (.accepted .reset stream [])).canSendNow 0 <;>
            simp [hnow]

@[simp] theorem closeIfExchanged_withInbound :
    (m.withInbound ring).closeIfExchanged stream = (m.closeIfExchanged stream).withInbound ring := by
  unfold closeIfExchanged
  rw [sockets_withInbound]
  split
  · rfl
  · split <;> simp

@[simp] theorem deliverEos_withInbound (r : Request) :
    (m.withInbound ring).deliverEos stream r = (m.deliverEos stream r).withInbound ring := by
  simp [deliverEos]

@[simp] theorem takeFrame_withInbound (s : Socket) (f : Frame) :
    (m.withInbound ring).takeFrame s f = (m.takeFrame s f).withInbound ring := by
  unfold takeFrame
  split
  · unfold takeConnectResponse
    split
    · dsimp only
      split <;> simp
    · rfl
  · unfold takeData
    split
    · split <;> simp
    · rw [config_withInbound]
      split <;> simp
  · unfold takeEos
    dsimp only
    split <;> simp
  · rfl

/-- What is done with a frame does not depend on the ring. -/
theorem dispatch_withInbound (f : Frame) :
    (m.withInbound ring).dispatch f = (m.dispatch f).withInbound ring := by
  have hreceive : (m.withInbound ring).receive f = (m.receive f).withInbound ring := rfl
  rw [dispatch, dispatch, ← receive, ← receive, hreceive, sockets_withInbound]
  split
  · rfl
  split
  · simp
  split
  · rfl
  · simp

theorem foldl_dispatch_withInbound (frames : List Frame) :
    frames.foldl dispatch (m.withInbound ring) = (frames.foldl dispatch m).withInbound ring := by
  induction frames generalizing m with
  | nil => rfl
  | cons f frames ih => rw [List.foldl_cons, dispatch_withInbound, ih, List.foldl_cons]

end WithInbound

/-- The state after these frames have arrived and these bytes were left over. -/
def takenIn (m : Multiplexer) (frames : List Frame) (rest : Bytes) : Multiplexer :=
  let dispatched := frames.foldl dispatch m
  if rest = [] then dispatched else dispatched.countViolation.record (.garbled rest.length)

theorem takenIn_withInbound (m : Multiplexer) (ring : Ring) (frames : List Frame) (rest : Bytes) :
    (m.withInbound ring).takenIn frames rest = (m.takenIn frames rest).withInbound ring := by
  unfold takenIn
  rw [foldl_dispatch_withInbound]
  dsimp only
  split <;> rfl

/-- The frames are dispatched, and the rest is thrown away. -/
theorem drainInbound_of_splits {m : Multiplexer} {bytes rest : Bytes} {frames : List Frame}
    (h : Frame.Splits bytes frames rest) (hbytes : m.inbound.contents = bytes) :
    m.drainInbound = (m.takenIn frames rest).withInbound m.inbound.discardAll := by
  have hoccupied : m.inbound.occupied = bytes.length := by rw [← hbytes, Ring.length_contents]
  induction h generalizing m with
  | @stuck rest hnone =>
      by_cases hrest : rest = []
      · have hempty : m.inbound.isEmpty = true := by
          rw [Ring.isEmpty_iff, hoccupied, hrest, List.length_nil]
        rw [drainInbound_of_isEmpty hempty, Ring.discardAll_of_isEmpty hempty, takenIn, if_pos hrest]
        rfl
      · have hpending : ¬ m.inbound.isEmpty = true := by
          rw [Ring.isEmpty_iff, hoccupied, List.length_eq_zero_iff]
          exact hrest
        have htake : m.inbound.takeFrame? = none := Ring.takeFrame?_of_noneIn (hbytes ▸ hnone)
        have hreceived : m.receiveOne =
            (m.countViolation.record (.garbled rest.length)).withInbound m.inbound.discardAll := by
          rw [receiveOne, htake, hoccupied]
          rfl
        have hempty : m.receiveOne.inbound.isEmpty = true := by
          rw [hreceived]
          exact Ring.isEmpty_iff.mpr (Ring.occupied_discardAll _)
        rw [drainInbound, if_neg hpending, drainInbound_of_isEmpty hempty, hreceived, takenIn,
          if_neg hrest]
        rfl
  | @frame f bytes frames rest hf _ ih =>
      have hpending : ¬ m.inbound.isEmpty = true := by
        have hpos := f.three_le_length
        rw [Ring.isEmpty_iff, Ring.occupied_of_contents hbytes]
        omega
      have htake := Ring.takeFrame?_of_contents hf hbytes
      have hreceived : m.receiveOne = (m.dispatch f).withInbound (m.inbound.consume f.length) := by
        rw [receiveOne, htake]
        exact m.dispatch_withInbound _ f
      have hcontents : m.receiveOne.inbound.contents = bytes := by
        rw [hreceived]
        exact Ring.contents_consume_frame hbytes
      have hdiscard : m.receiveOne.inbound.discardAll = m.inbound.discardAll := by
        rw [hreceived]
        exact Ring.discardAll_of_takeFrame? htake
      rw [drainInbound, if_neg hpending,
        ih hcontents (by rw [← hcontents, Ring.length_contents]), hdiscard, hreceived,
        takenIn_withInbound]
      rfl

/-- Whatever the inbound ring holds, there is one way to see it as frames and a rest in which no
frame stands. Taking in ends, without consuming more than there is, and tells whether there was
anything. The frames are dispatched one by one and in order, a rest is one violation and is thrown
away, nothing else happens, and then the ring is empty. Another ring with the same bytes makes no
difference but that it is emptied instead. Who asks the ring for packets gets what these frames
carry, until no whole frame is left. -/
theorem takes_in_frame_by_frame (m : Multiplexer) :
    ∃ frames rest, Frame.Splits m.inbound.contents frames rest ∧
      (∀ frames' rest', Frame.Splits m.inbound.contents frames' rest' →
        frames' = frames ∧ rest' = rest) ∧
      m.takeInAll? false = some (!m.inbound.isEmpty, m.drainInbound) ∧
      m.drainInbound =
        { m.takenIn frames rest with inbound := { m.inbound with head := m.inbound.tail } } ∧
      m.drainInbound.inbound.contents = [] ∧
      (∀ ring : Ring, ring.contents = m.inbound.contents →
        { m with inbound := ring }.drainInbound =
          { m.drainInbound with inbound := { ring with head := ring.tail } }) ∧
      ∀ n, ((m.inbound.takeUpTo n).1.takeWhile fun outcome => !Packet.isTruncated outcome) =
        (frames.map Frame.packet).take n := by
  obtain ⟨frames, rest, hsplits⟩ := Frame.exists_splits m.inbound.contents
  have hdrained := drainInbound_of_splits hsplits rfl
  refine ⟨frames, rest, hsplits, ?_, m.takeInAll?_eq false, ?_, ?_, ?_, ?_⟩
  · intro frames' rest' hsplits'
    exact hsplits.unique hsplits'
  · rw [hdrained, Ring.discardAll_eq]
    rfl
  · rw [hdrained]
    exact Ring.contents_discardAll
  · intro ring hring
    have hother : (m.withInbound ring).drainInbound =
        ((m.withInbound ring).takenIn frames rest).withInbound ring.discardAll :=
      drainInbound_of_splits (hring ▸ hsplits) hring
    calc (m.withInbound ring).drainInbound
        = (m.takenIn frames rest).withInbound ring.discardAll := by
          rw [hother, takenIn_withInbound, withInbound_withInbound]
      _ = m.drainInbound.withInbound { ring with head := ring.tail } := by
          rw [hdrained, withInbound_withInbound, Ring.discardAll_eq]
  · intro n
    exact Ring.takeUpTo_of_splits hsplits rfl n

end Multiplexer

end StreamLink
