import Mathlib.Logic.Relation
import StreamLink.Proofs.Effects
import StreamLink.Worker

/-!
# Worker and peer side by side

While the worker is awake the peer does not wait for it. Each goes on in small steps, in any order: the
worker makes one access to the doorbell, takes in one frame or serves one turn, and the peer moves one
of its ring positions or rings the doorbell. The peer moves first and rings afterwards; in between it
owes the event. Clients hand in requests at any time.

Main statements: left alone, the worker's small steps amount to what it does when it is woken
(`works_request`, `works_signal`), and so do the peer's (`step_send`, `step_receive`).
-/

namespace StreamLink

namespace HostSignals

def union (s t : HostSignals) : HostSignals :=
  ⟨s.inboundTail || t.inboundTail, s.outboundHead || t.outboundHead⟩

/-- The signals of the first that the second lacks. -/
def without (s t : HostSignals) : HostSignals :=
  ⟨s.inboundTail && !t.inboundTail, s.outboundHead && !t.outboundHead⟩

theorem union_without (s t : HostSignals) : (s.union t).without t = s.without t := by
  simp [union, without, Bool.and_or_distrib_right]

end HostSignals

/-- What the worker does next. -/
inductive Phase
  /-- Nothing, until it is woken. -/
  | sleep
  /-- It was woken by a request: it masks the doorbell, -/
  | hold (first : Request)
  /-- disables all events, -/
  | disable (first : Request)
  /-- unmasks the doorbell, -/
  | release (first : Request)
  /-- handles the request, -/
  | handle (first : Request)
  /-- and every one that waits. -/
  | handleNext
  /-- It takes in the next frame; and whether this round did anything yet. -/
  | receive (worked : Bool)
  /-- It serves the next turn; and whether this round did anything yet. -/
  | send (worked : Bool)
  /-- It masks the doorbell, -/
  | mask (moved : PeerSignals)
  /-- clears the events, -/
  | clear (moved : PeerSignals)
  /-- judges what it may sleep on, -/
  | judge (moved : PeerSignals)
  /-- enables that, -/
  | enable (armed : HostSignals) (moved : PeerSignals)
  /-- tells the peer what moved, -/
  | announce (moved : PeerSignals)
  /-- and unmasks the doorbell. It goes to sleep if anything is enabled. -/
  | unmask (armed : Bool)
deriving Repr, DecidableEq, Inhabited

/-- Both sides at some moment. -/
structure Interplay where
  worker : Worker := {}
  phase : Phase := .sleep
  /-- Where the host's positions were when it was woken. -/
  marks : Marks := worker.mux.marks
  /-- The peer's moves whose events it has yet to set. -/
  owed : HostSignals := {}
  /-- The wakes from which the worker has gone back to sleep. -/
  processed : Nat := 0
deriving Repr, DecidableEq

namespace Interplay

/-- One atomic step of anyone. -/
inductive Step
  /-- The worker goes on, if it is awake. -/
  | work
  /-- The worker wakes for the oldest request. -/
  | wakeForRequest
  /-- The worker wakes for the signal on its line. -/
  | wakeForSignal
  /-- A request is handed in. -/
  | post (request : Request)
  /-- The peer stores bytes in the ring that the host reads. -/
  | append (bytes : Bytes)
  /-- The peer takes the next packet. -/
  | take
  /-- The peer moves its reading position on, by as much as it likes. -/
  | release (length : Nat)
  /-- The peer sets events. -/
  | signal (signals : HostSignals)
  /-- The peer takes the events that it was told. -/
  | collect
  /-- The peer uses up its wake-up. -/
  | wait
deriving Repr, DecidableEq, Inhabited

/-- The worker goes on. -/
def work (s : Interplay) : Interplay :=
  let w := s.worker
  match s.phase with
  | .sleep => s
  | .hold first => { s with worker := w.mask, phase := .disable first }
  | .disable first => { s with worker := w.write .enable 0, phase := .release first }
  | .release first => { s with worker := w.unmask, phase := .handle first }
  | .handle first => { s with worker := { w with mux := w.mux.submit first }, phase := .handleNext }
  | .handleNext =>
    match w.inbox with
    | [] => { s with phase := .receive false }
    | r :: rest => { s with worker := { w with mux := w.mux.submit r, inbox := rest } }
  | .receive worked =>
    if w.mux.inbound.isEmpty then { s with phase := .send worked }
    else { s with worker := { w with mux := w.mux.receiveOne }, phase := .receive true }
  | .send worked =>
    if w.mux.canServe then { s with worker := { w with mux := w.mux.serveFront }, phase := .send true }
    else { s with phase := if worked then .receive false else .mask (w.mux.movedSince s.marks) }
  | .mask moved => { s with worker := w.mask, phase := .clear moved }
  | .clear moved => { s with worker := w.read .hostEvents, phase := .judge moved }
  | .judge moved =>
    let armed := w.mux.wakeConditions
    { s with phase := if armed.isEmpty then .unmask false else .enable armed moved }
  | .enable armed moved =>
    { s with worker := w.write .enable armed.bits, phase := .announce moved }
  | .announce moved =>
    { s with
      worker := if moved.isEmpty then w else w.write .peerEvents moved.bits
      phase := .unmask true }
  | .unmask armed =>
    { s with
      worker := w.unmask
      phase := if armed then .sleep else .receive false
      processed := if armed then s.processed + 1 else s.processed }

/-- The worker wakes; it remembers where its positions are. -/
def wake (s : Interplay) (worker : Worker) (phase : Phase) : Interplay :=
  { s with worker, phase, marks := worker.mux.marks }

def withLink (s : Interplay) (l : Link) : Interplay :=
  { s with worker := s.worker.withLink l }

/-- One step. A step that cannot be taken changes nothing. -/
def step (s : Interplay) : Step → Interplay
  | .work => s.work
  | .wakeForRequest =>
    match s.phase, s.worker.inbox with
    | .sleep, r :: rest => s.wake { s.worker with inbox := rest } (.hold r)
    | _, _ => s
  | .wakeForSignal =>
    let bell := s.worker.bell
    if s.phase = .sleep ∧ bell.hostLine.isRaised = true then
      s.wake { s.worker with bell := { bell with hostLine := bell.hostLine.take } } (.receive false)
    else s
  | .post r => { s with worker := s.worker.post r }
  | .append bytes =>
    let l := s.worker.link
    { s.withLink { l with fromPeer := l.fromPeer.publish bytes } with
      owed := s.owed.union { inboundTail := true } }
  | .take =>
    let l := s.worker.link
    match l.toPeer.takePacket with
    | (none, _) => s
    | (some _, ring) =>
      { s.withLink { l with toPeer := ring } with owed := s.owed.union { outboundHead := true } }
  | .release length =>
    let l := s.worker.link
    { s.withLink { l with toPeer := l.toPeer.consume length } with
      owed := s.owed.union { outboundHead := true } }
  | .signal signals =>
    { s.withLink (s.worker.link.signal signals) with owed := s.owed.without signals }
  | .collect =>
    let l := s.worker.link
    s.withLink { l with bell := l.bell.takePeerEvents.2 }
  | .wait => s.withLink s.worker.link.wait.2

/-- What the steps lead to, from a worker that sleeps and has not been woken. -/
def run (w : Worker) (steps : List Step) : Interplay :=
  steps.foldl step { worker := w }

/-! ### The worker left alone -/

/-- The worker goes on for a while, and nobody else does anything. -/
def Works : Interplay → Interplay → Prop :=
  Relation.ReflTransGen fun s s' => s.work = s'

theorem Works.head {s s' s'' : Interplay} (hwork : s.work = s') (h : s'.Works s'') : s.Works s'' :=
  Relation.ReflTransGen.head hwork h

/-- The worker in some state, about to do something. -/
def about (s : Interplay) (w : Worker) (phase : Phase) : Interplay :=
  { s with worker := w, phase }

/-- The worker with another state of the multiplexer. -/
def holding (w : Worker) (m : Multiplexer) : Worker :=
  { w with mux := m }

variable (s : Interplay) (w : Worker) (m : Multiplexer)

theorem works_receive (worked : Bool) :
    Works (s.about (holding w m) (.receive worked))
      (s.about (holding w m.drainInbound) (.send (worked || !m.inbound.isEmpty))) := by
  fun_induction Multiplexer.drainInbound m generalizing worked with
  | case1 m hempty =>
      refine .single ?_
      simp [work, about, holding, hempty]
  | case2 m hfilled ih =>
      have hwork : (s.about (holding w m) (.receive worked)).work =
          s.about (holding w m.receiveOne) (.receive true) := by
        simp [work, about, holding, hfilled]
      have hrest := ih true
      simp only [Bool.true_or] at hrest
      simpa [hfilled] using Works.head hwork hrest

theorem works_send (worked : Bool) :
    Works (s.about (holding w m) (.send worked)) (s.about (holding w m.drainOutbound)
      (if (worked || m.canServe) = true then .receive false
        else .mask (m.drainOutbound.movedSince s.marks))) := by
  fun_induction Multiplexer.drainOutbound m generalizing worked with
  | case1 m hserve ih =>
      have hwork : (s.about (holding w m) (.send worked)).work =
          s.about (holding w m.serveFront) (.send true) := by
        simp [work, about, holding, hserve]
      have hrest := ih true
      simp only [Bool.true_or, ↓reduceIte] at hrest
      simpa [hserve] using Works.head hwork hrest
  | case2 m hserve =>
      refine .single ?_
      simp [work, about, holding, hserve]

/-- Rounds of receiving and sending amount to polling. -/
theorem works_poll :
    Works (s.about (holding w m) (.receive false))
      (s.about (holding w m.poll.2) (.mask (m.poll.2.movedSince s.marks))) := by
  have hround (m : Multiplexer) := (s.works_receive w m false).trans
    (s.works_send w m.drainInbound (!m.inbound.isEmpty))
  fun_induction Multiplexer.poll m with
  | case1 m hworked ih =>
      have hworked : (!m.inbound.isEmpty || m.drainInbound.canServe) = true := hworked
      have hfirst := hround m
      rw [if_pos hworked] at hfirst
      exact hfirst.trans ih
  | case2 m hidle =>
      have hidle : ¬ (!m.inbound.isEmpty || m.drainInbound.canServe) = true := hidle
      have hfirst := hround m
      rwa [if_neg hidle] at hfirst

/-- The masked section amounts to arming. -/
theorem works_arm (moved : PeerSignals) (harmed : w.mux.wakeConditions.isEmpty = false) :
    Works (s.about w (.mask moved))
      { s with worker := w.arm moved, phase := .sleep, processed := s.processed + 1 } := by
  have hjudge : (s.about (w.mask.read .hostEvents) (.judge moved)).work =
      s.about (w.mask.read .hostEvents) (.enable w.mux.wakeConditions moved) := by
    have hsame : (w.mask.read .hostEvents).mux.wakeConditions = w.mux.wakeConditions := rfl
    simp [work, about, hsame, harmed]
  have hopen : Works (s.about (w.mask.read .hostEvents) (.enable w.mux.wakeConditions moved))
      { s with worker := w.arm moved, phase := .sleep, processed := s.processed + 1 } := by
    have hsame : (w.mask.read .hostEvents).mux.wakeConditions = w.mux.wakeConditions := rfl
    refine .head rfl (.head rfl (.single ?_))
    simp [work, about, Worker.arm, hsame, harmed]
  exact .head rfl (.head rfl (.head hjudge hopen))

theorem works_settle :
    Works (s.about w (.receive false))
      { s with worker := w.settle s.marks, phase := .sleep, processed := s.processed + 1 } := by
  rw [Worker.settle_eq]
  exact (s.works_poll w w.mux).trans
    (s.works_arm w.poll _ (Multiplexer.isEmpty_wakeConditions_poll w.mux))

theorem works_handleNext (inbox : List Request) :
    Works (s.about { w with mux := m, inbox := inbox } .handleNext)
      (s.about { w with mux := inbox.foldl Multiplexer.submit m, inbox := [] } (.receive false)) := by
  induction inbox generalizing m with
  | nil => exact .single rfl
  | cons r inbox ih => exact .head rfl (ih (m.submit r))

variable {s}

/-- Left alone, a worker that wakes for a request does what it does when it is woken by it. -/
theorem works_request {r : Request} {rest : List Request} (hsleep : s.phase = .sleep)
    (hinbox : s.worker.inbox = r :: rest) :
    Works (s.step .wakeForRequest)
      { s with
        worker := { s.worker with inbox := rest }.process (.request r)
        phase := .sleep
        marks := s.worker.mux.marks
        processed := s.processed + 1 } := by
  let w : Worker := { s.worker with inbox := rest }
  let s' := s.wake w (.hold r)
  have hwake : s.step .wakeForRequest = s' := by
    simp only [step, hsleep, hinbox]
    rfl
  have hdisable : Works s' (s'.about (w.disable.handleAll r) (.receive false)) := by
    refine .head rfl (.head rfl (.head rfl (.head rfl ?_)))
    exact s'.works_handleNext w.disable (w.mux.submit r) rest
  rw [hwake]
  exact hdisable.trans (s'.works_settle (w.disable.handleAll r))

/-- Left alone, a worker that wakes for a signal does what it does when it is woken by it. -/
theorem works_signal (hsleep : s.phase = .sleep) (hraised : s.worker.bell.hostLine.isRaised = true) :
    Works (s.step .wakeForSignal)
      { s with
        worker := { s.worker with
          bell := { s.worker.bell with hostLine := s.worker.bell.hostLine.take } }.process .interrupt
        phase := .sleep
        marks := s.worker.mux.marks
        processed := s.processed + 1 } := by
  let w : Worker := { s.worker with
    bell := { s.worker.bell with hostLine := s.worker.bell.hostLine.take } }
  let s' := s.wake w (.receive false)
  have hwake : s.step .wakeForSignal = s' := if_pos ⟨hsleep, hraised⟩
  rw [hwake]
  exact s'.works_settle w

/-! ### The peer's moves -/

/-- Sending a packet is moving and then ringing. -/
theorem step_send {p : Packet} {l : Link} (h : s.worker.link.send p = .ok l) :
    (s.step (.append p.encode)).step (.signal { inboundTail := true }) =
      { s with
        worker := s.worker.withLink l
        owed := s.owed.without { inboundTail := true } } := by
  have hlink : l = { s.worker.link with
      fromPeer := s.worker.link.fromPeer.publish p.encode }.signal { inboundTail := true } := by
    unfold Link.send Ring.appendPacket Ring.append at h
    split at h
    · contradiction
    split at h
    · contradiction
    · exact (Except.ok.inj h).symm
  rw [hlink, ← s.owed.union_without]
  rfl

/-- Receiving a packet is moving and then ringing. -/
theorem step_receive {packet : Except Fault Packet} {l : Link}
    (h : s.worker.link.receive = (some packet, l)) :
    (s.step .take).step (.signal { outboundHead := true }) =
      { s with
        worker := s.worker.withLink l
        owed := s.owed.without { outboundHead := true } } := by
  unfold Link.receive at h
  split at h
  · simp at h
  next packet' ring htake =>
    obtain ⟨-, rfl⟩ := Prod.mk.inj h
    have hmove : s.step .take = { s.withLink { s.worker.link with toPeer := ring } with
        owed := s.owed.union { outboundHead := true } } := by
      simp only [step, htake]
    rw [hmove, ← s.owed.union_without]
    rfl

end Interplay

end StreamLink
