import StreamLink.Request

/-!
# The caller's ledger

Which requests a caller has made, and over which channel each is reported: its own, one common to
several requests, or none any more. A request is reported at most once, because reporting closes its
own channel.
-/

namespace StreamLink

/-- What became of a request. -/
inductive Outcome
  | answered (completion : Completion)
  /-- Given up without an answer. -/
  | dropped
deriving Repr, DecidableEq, Inhabited

/-- What became of the request of that number. -/
structure Report where
  number : Nat
  outcome : Outcome
deriving Repr, DecidableEq, Inhabited

/-- A way in which the holder of a request may end it. -/
inductive Ending
  | fail
  | status (status : Status)
  | read (data : Bytes)
  | written (length : Nat)
  | drop
deriving Repr, DecidableEq, Inhabited

def Request.finish (r : Request) : Ending → Report
  | .fail => ⟨r.number, .answered r.failure⟩
  | .status s => ⟨r.number, .answered (.ofStatus s)⟩
  | .read data => ⟨r.number, .answered (.read data)⟩
  | .written length => ⟨r.number, .answered (.written length)⟩
  | .drop => ⟨r.number, .dropped⟩

/-- Where the report of a request goes. -/
inductive Channel
  /-- To the request's own receiver. -/
  | own
  /-- To the receiver that several requests share; it learns of answers only. -/
  | common
  /-- To nobody: it was reported before, or its receiver went away. -/
  | closed
deriving Repr, DecidableEq, Inhabited

/-- The channel of every request made so far, by number, and how much of a history was read. -/
structure Ledger where
  channels : List Channel := []
  seen : Nat := 0
deriving Repr, DecidableEq, Inhabited

/-- What a caller receives at one moment. -/
structure Delivery where
  own : List Report := []
  common : List Completion := []
deriving Repr, DecidableEq, Inhabited

namespace Ledger

def issue (l : Ledger) (channel : Channel := .own) : Nat × Ledger :=
  (l.channels.length, { l with channels := l.channels ++ [channel] })

/-- The channel of a request; an unknown number has none. -/
def channel (l : Ledger) (number : Nat) : Channel :=
  l.channels[number]?.getD .closed

def close (l : Ledger) (number : Nat) : Ledger :=
  if l.channel number = .own then { l with channels := l.channels.set number .closed } else l

/-- The requests that still wait on their own channel, in ascending order. -/
def inFlight (l : Ledger) : List Nat :=
  (List.range l.channels.length).filter fun number => l.channel number == .own

/-- Hands out reports: those on own channels by ascending number, those on the common channel in the
order in which they were made. -/
def deliver (l : Ledger) (reports : List Report) : Delivery × Ledger :=
  let own := reports.filter fun report => l.channel report.number == .own
  let common := reports.filterMap fun report =>
    match l.channel report.number, report.outcome with
    | .common, .answered completion => some completion
    | _, _ => none
  (⟨own.mergeSort fun a b => a.number ≤ b.number, common⟩,
    own.foldl (fun l report => l.close report.number) l)

end Ledger

end StreamLink
