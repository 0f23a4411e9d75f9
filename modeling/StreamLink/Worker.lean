import StreamLink.Link
import StreamLink.Multiplexer.Poll
import StreamLink.Multiplexer.Submission

/-!
# The worker

The worker sleeps until a request or a signal wakes it. It then handles the requests that came in
and settles: it polls, and goes back to sleep only with a wake condition armed. The events are cleared
before the conditions are judged, inside one masked section, so that whatever the peer does after that
raises the line again.

Every access to the doorbell is logged, newest first.
-/

namespace StreamLink

/-- What woke the worker. -/
inductive Wake
  | request (first : Request)
  | interrupt
deriving Repr, DecidableEq, Inhabited

/-- The worker with what it owns. -/
structure Worker where
  mux : Multiplexer := {}
  bell : Doorbell := {}
  /-- Requests that wait to be handled, oldest first. -/
  inbox : List Request := []
  log : List Access := []
deriving Repr, DecidableEq, Inhabited

namespace Worker

/-! ### The doorbell -/

def mask (w : Worker) : Worker :=
  { w with bell := w.bell.mask, log := .mask :: w.log }

def unmask (w : Worker) : Worker :=
  { w with bell := w.bell.unmask, log := .unmask :: w.log }

def read (w : Worker) (register : Register) : Worker :=
  let (value, bell) := w.bell.read register
  { w with bell, log := .read register value :: w.log }

def write (w : Worker) (register : Register) (value : UInt8) : Worker :=
  { w with bell := w.bell.write register value, log := .write register value :: w.log }

/-! ### One wake -/

/-- No event may wake the worker while it is awake. -/
def disable (w : Worker) : Worker :=
  (w.mask.write .enable 0).unmask

/-- Handles a request and every one that waits, in order. -/
def handleAll (w : Worker) (first : Request) : Worker :=
  { w with mux := w.inbox.foldl Multiplexer.submit (w.mux.submit first), inbox := [] }

def poll (w : Worker) : Worker :=
  { w with mux := w.mux.poll.2 }

/-- Clears the events, and arms what the worker may sleep on. Only then is the peer told what moved. -/
def arm (w : Worker) (moved : PeerSignals) : Worker :=
  let w := w.mask.read .hostEvents
  let armed := w.mux.wakeConditions
  let w :=
    if armed.isEmpty then w
    else
      let w := w.write .enable armed.bits
      if moved.isEmpty then w else w.write .peerEvents moved.bits
  w.unmask

/-- Polls and arms until something is armed. -/
def settle (w : Worker) (marks : Marks) : Worker :=
  let polled := w.poll
  let next := polled.arm (polled.mux.movedSince marks)
  if polled.mux.wakeConditions.isEmpty then next.settle marks else next
termination_by w.mux.backlog
decreasing_by
  rename_i h
  exact absurd h (by simp [polled, poll, Multiplexer.isEmpty_wakeConditions_poll])

/-- What the worker does when it is woken. -/
def process (w : Worker) (wake : Wake) : Worker :=
  let marks := w.mux.marks
  let w :=
    match wake with
    | .request first => w.disable.handleAll first
    | .interrupt => w
  w.settle marks

/-! ### A whole run -/

def post (w : Worker) (r : Request) : Worker :=
  { w with inbox := w.inbox ++ [r] }

@[simp] theorem inbox_arm (w : Worker) (moved : PeerSignals) : (w.arm moved).inbox = w.inbox := by
  unfold arm
  dsimp only
  split
  · rfl
  · split <;> rfl

theorem settle_eq (w : Worker) (marks : Marks) :
    w.settle marks = w.poll.arm (w.poll.mux.movedSince marks) := by
  rw [settle]
  exact if_neg (by simp [poll, Multiplexer.isEmpty_wakeConditions_poll])

@[simp] theorem inbox_settle (w : Worker) (marks : Marks) : (w.settle marks).inbox = w.inbox := by
  rw [settle_eq, inbox_arm]
  rfl

@[simp] theorem inbox_process_request (w : Worker) (first : Request) :
    (w.process (.request first)).inbox = [] := by
  simp [process, handleAll]

/-- The worker's last hour, when nobody can post any more: it wakes for the requests that are left,
and ends. -/
def run (w : Worker) : Worker :=
  if h : w.inbox = [] then w
  else ({ w with inbox := w.inbox.tail }.process (.request (w.inbox.head h))).run
termination_by w.inbox.length
decreasing_by simpa using List.length_pos_iff.mpr h

/-! ### What the peer sees -/

def link (w : Worker) : Link :=
  ⟨w.mux.outbound, w.mux.inbound, w.bell⟩

/-- The worker after the peer has acted. -/
def withLink (w : Worker) (l : Link) : Worker :=
  { w with mux := { w.mux with outbound := l.toPeer, inbound := l.fromPeer }, bell := l.bell }

end Worker

end StreamLink
