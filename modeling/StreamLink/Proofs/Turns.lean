import Mathlib.Data.List.Nodup
import StreamLink.SendQueue

/-!
# Turns, stream by stream

What one stream has in the send queue, and the few things that can happen to it: it joins at the
end, it is served at the front, it leaves, or it leaves and joins again for a Reset. The turns of the
other streams and their order stay as they are.
-/

namespace StreamLink

/-- What happens to a stream's place in the send queue. -/
inductive Turn
  /-- Nothing. -/
  | keep
  /-- Nothing: nobody waits, and the stream need not either. -/
  | bypass
  /-- It is put last. -/
  | join (length : Nat)
  /-- It is first, and its turn is over. -/
  | serve (length : Nat)
  /-- Its turn is lost. -/
  | leave
  /-- Its turn is lost, and then nobody waits. -/
  | clear
  /-- Its turn is lost, and it is put last for a Reset. -/
  | rejoin
deriving Repr, DecidableEq, Inhabited

namespace SendQueue

/-- The payload lengths that a stream waits with, oldest first. -/
def turns (q : SendQueue) (stream : UInt8) : List Nat :=
  (q.entries.filter (·.stream == stream)).map (·.length)

theorem mem_turns_iff {q : SendQueue} {stream : UInt8} {n : Nat} :
    n ∈ q.turns stream ↔ (⟨stream, n⟩ : Entry) ∈ q.entries := by
  simp only [turns, List.mem_map, List.mem_filter, beq_iff_eq]
  constructor
  · rintro ⟨⟨s, n⟩, ⟨hmem, rfl⟩, rfl⟩
    exact hmem
  · intro hmem
    exact ⟨_, ⟨hmem, rfl⟩, rfl⟩

theorem contains_eq (q : SendQueue) (stream : UInt8) :
    q.contains stream = !(q.turns stream).isEmpty := by
  unfold contains turns
  induction q.entries with
  | nil => rfl
  | cons e rest ih =>
      by_cases heq : e.stream = stream
      · simp [heq]
      · simp only [List.any_cons, beq_eq_false_iff_ne.mpr heq, Bool.false_or, ih]
        simp [heq]

@[simp] theorem turns_enqueue (q : SendQueue) (stream : UInt8) (n : Nat) :
    (q.enqueue stream n).turns stream = q.turns stream ++ [n] := by
  simp [turns, enqueue]

theorem turns_enqueue_of_ne (q : SendQueue) {stream other : UInt8} (n : Nat) (h : other ≠ stream) :
    (q.enqueue stream n).turns other = q.turns other := by
  simp [turns, enqueue, Ne.symm h]

@[simp] theorem turns_remove (q : SendQueue) (stream : UInt8) :
    (q.remove stream).turns stream = (q.turns stream).tail := by
  unfold turns remove
  induction q.entries with
  | nil => rfl
  | cons e rest ih =>
      by_cases heq : e.stream = stream
      · simp [heq]
      · simpa [heq] using ih

theorem turns_remove_of_ne (q : SendQueue) {stream other : UInt8} (h : other ≠ stream) :
    (q.remove stream).turns other = q.turns other := by
  unfold turns remove
  induction q.entries with
  | nil => rfl
  | cons e rest ih =>
      by_cases heq : e.stream = stream
      · simp [heq, Ne.symm h]
      · rw [List.eraseP_cons_of_neg (by simpa using heq)]
        by_cases hother : e.stream = other
        · simpa [hother] using ih
        · simpa [hother] using ih

theorem length_turns (q : SendQueue) (stream : UInt8) :
    (q.turns stream).length = (q.entries.map (·.stream)).count stream := by
  rw [turns, List.length_map, List.count, List.countP_map, List.countP_eq_length_filter]
  rfl

/-- No stream is in the queue twice if and only if each has at most one turn. -/
theorem nodup_iff_length_turns {q : SendQueue} :
    (q.entries.map (·.stream)).Nodup ↔ ∀ stream, (q.turns stream).length ≤ 1 := by
  rw [List.nodup_iff_count_le_one]
  simp only [length_turns]

end SendQueue

namespace Turn

/-- How the queue changes. -/
def Changes (stream : UInt8) (q q' : SendQueue) : Turn → Prop
  | keep => q' = q
  | bypass => q.entries = [] ∧ q' = q
  | join n => q' = q.enqueue stream n
  | serve n => q.entries = ⟨stream, n⟩ :: q'.entries
  | leave => q' = q.remove stream
  | clear => q' = q.remove stream ∧ q'.entries = []
  | rejoin => q' = (q.remove stream).enqueue stream 0

/-- How the stream's own turns change. -/
def after (turns : List Nat) : Turn → List Nat
  | keep | bypass => turns
  | join n => turns ++ [n]
  | serve _ | leave | clear => turns.tail
  | rejoin => turns.tail ++ [0]

/-- What the stream's own turns have to be. -/
def Fits (turns : List Nat) : Turn → Prop
  | bypass => turns = []
  | serve n => turns.head? = some n
  | clear => turns.tail = []
  | _ => True

variable {stream : UInt8} {q q' : SendQueue} {turn : Turn}

theorem Changes.turns_eq (h : turn.Changes stream q q') :
    q'.turns stream = turn.after (q.turns stream) := by
  cases turn with
  | keep => rw [h]; rfl
  | bypass => rw [h.2]; rfl
  | join n => rw [h, SendQueue.turns_enqueue]; rfl
  | serve n =>
      have hentries : q.entries = ⟨stream, n⟩ :: q'.entries := h
      simp [SendQueue.turns, hentries, after]
  | leave => rw [h, SendQueue.turns_remove]; rfl
  | clear => rw [h.1, SendQueue.turns_remove]; rfl
  | rejoin => rw [h, SendQueue.turns_enqueue, SendQueue.turns_remove]; rfl

theorem Changes.fits (h : turn.Changes stream q q') : turn.Fits (q.turns stream) := by
  cases turn with
  | bypass => simp [Fits, SendQueue.turns, h.1]
  | serve n =>
      have hentries : q.entries = ⟨stream, n⟩ :: q'.entries := h
      simp [Fits, SendQueue.turns, hentries]
  | clear =>
      have hempty : q'.turns stream = [] := by simp [SendQueue.turns, h.2]
      rwa [h.1, SendQueue.turns_remove] at hempty
  | _ => trivial

/-- Only the stream's own turns change. -/
theorem Changes.turns_of_ne (h : turn.Changes stream q q') {other : UInt8} (hne : other ≠ stream) :
    q'.turns other = q.turns other := by
  cases turn with
  | keep => rw [h]
  | bypass => rw [h.2]
  | join n => rw [h, SendQueue.turns_enqueue_of_ne _ _ hne]
  | serve n =>
      have hentries : q.entries = ⟨stream, n⟩ :: q'.entries := h
      simp [SendQueue.turns, hentries, Ne.symm hne]
  | leave => rw [h, SendQueue.turns_remove_of_ne _ hne]
  | clear => rw [h.1, SendQueue.turns_remove_of_ne _ hne]
  | rejoin => rw [h, SendQueue.turns_enqueue_of_ne _ _ hne, SendQueue.turns_remove_of_ne _ hne]

end Turn

end StreamLink
