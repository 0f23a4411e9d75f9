import StreamLink.Worker

/-!
# Outages

A doorbell that fails for good at one of its register accesses takes the worker with it, in the middle
of a wake. What was answered before stays answered; whatever else was asked, or is asked later, learns
only that the worker has stopped.
-/

namespace StreamLink

/-- Whether an access is a register access. The mask is none. -/
def Access.isRegister : Access → Bool
  | read .. | write .. => true
  | mask | unmask => false

/-- The register accesses that a worker has made so far. -/
def Worker.registerAccesses (w : Worker) : Nat :=
  w.log.countP Access.isRegister

/-- A worker whose doorbell serves so many register accesses and then fails. -/
structure FailingWorker where
  worker : Worker := {}
  budget : Nat
  crashed : Bool := false
deriving Repr, DecidableEq, Inhabited

namespace FailingWorker

/-- The state in which a request finds its worker's end. The first access of the wake comes before the
request is handled, all others come after it is handled and the link is polled. -/
def crash (f : FailingWorker) (r : Request) : FailingWorker :=
  let used := f.worker.registerAccesses
  if f.budget ≤ used then { f with crashed := true }
  else { f with worker := (f.worker.disable.handleAll r).poll, crashed := true }

/-- A request wakes the worker, which may not live to see the end of it. -/
def submit (f : FailingWorker) (r : Request) : FailingWorker :=
  if f.crashed then f
  else
    let w := f.worker.process (.request r)
    if f.budget < w.registerAccesses then f.crash r else { f with worker := w }

/-- A client makes a call: the answer that was given while the worker lived, or that it has
stopped. -/
def call (f : FailingWorker) (r : Request) : Except Fault Completion × FailingWorker :=
  let f := f.submit r
  match completionIn? f.worker.mux.history r.number with
  | some completion => (.ok completion, f)
  | none => (.error .workerStopped, f)

/-- How the worker is found when it is waited for. -/
def join (f : FailingWorker) : Except Fault Multiplexer :=
  if f.crashed then .error .workerCrashed else .ok f.worker.mux

end FailingWorker

end StreamLink
