import StreamLink.Proofs.Records

/-!
# The send queue is consistent with the sockets

Seen from the queue: every entry is there for something that its socket has to send, and is as long
as that. Seen from the sockets: what has to be sent has its entry. Both hold between any two
operations of a run in which no stream gets a second turn.

Main statement: `queue_consistent`.
-/

namespace StreamLink

/-- What an entry of the send queue is there for. -/
inductive Justifies (chronicle : List Event) (e : SendQueue.Entry) (s : Socket) : Prop
  | reset (hclosed : s.flags.closed = true) (howes : s.flags.owesReset = true)
      (hlength : e.length = 0)
  | write {r : Request} (hopen : s.flags.closed = false) (hconnect : s.pendingConnect = none)
      (hwrite : s.pendingWrite = some r) (hlength : e.length = r.command.payload.length)
  | connect {r : Request} (hopen : s.flags.closed = false) (hconnect : s.pendingConnect = some r)
      (hwrite : s.pendingWrite = none) (hlength : e.length = r.command.payload.length)
  -- The peer has accepted the connect, which was never sent: its entry is still there.
  | leftover {life : Life} (hopen : s.flags.closed = false) (hconnect : s.pendingConnect = none)
      (hwrite : s.pendingWrite = none) (hlife : (livesOn e.stream chronicle).getLast? = some life)
      (hongoing : life.retired = false) (haccepted : life.Accepted e.stream)
      (hunsent : ∀ payload, .sent .connect e.stream payload ∉ life.events)
      (hlength : e.length = life.request.command.payload.length)

/-- A stream that has a turn has a socket, which the turn is for. -/
theorem Records.justifies {chronicle : List Event} {s? : Option Socket} {turns : List Nat}
    {e : SendQueue.Entry} (h : Records e.stream turns chronicle s?) (hagrees : Agrees s? turns)
    (hturn : e.length ∈ turns) : ∃ s, s? = some s ∧ Justifies chronicle e s := by
  cases hagrees with
  | absent => contradiction
  | @closed s hclosed howes _ _ =>
      exact ⟨s, rfl, .reset hclosed howes (List.mem_singleton.mp hturn)⟩
  | @connecting s turns r service hsending hconnect hwrite hr _ hturns =>
      refine ⟨s, rfl, .connect hsending.closed hconnect hwrite ?_⟩
      rcases hturns with rfl | rfl
      · contradiction
      · rw [hr]
        exact List.mem_singleton.mp hturn
  | @writing s r data hsending hconnect hwrite hr _ _ =>
      refine ⟨s, rfl, .write hsending.closed hconnect hwrite ?_⟩
      rw [hr]
      exact List.mem_singleton.mp hturn
  | @ending s r hsending hconnect hwrite hr _ _ =>
      refine ⟨s, rfl, .write hsending.closed hconnect hwrite ?_⟩
      rw [hr]
      exact List.mem_singleton.mp hturn
  | @resting s turns hsending hconnect hwrite _ =>
      cases h with
      | @living past life _ service _ _ hlives _ _ hlife =>
          have hturns : turns ≠ [] := List.ne_nil_of_mem hturn
          obtain ⟨-, rfl⟩ := hlife.waiting hsending.closed hwrite hturns
          refine ⟨s, rfl, .leftover hsending.closed hconnect hwrite ?_ hlife.ongoing
            (hlife.accepted hsending.closed hconnect)
            (hlife.connect_unsent hsending.closed hwrite hturns) ?_⟩
          · rw [hlives, List.getLast?_concat]
          · rw [hlife.request]
            exact List.mem_singleton.mp hturn

/-- What has to be sent has its turn. -/
theorem Agrees.turns_ne_nil {s : Socket} {turns : List Nat} (h : Agrees (some s) turns)
    (hwaits : s.pendingWrite.isSome = true ∨ s.flags.closed = true) : turns ≠ [] := by
  cases h with
  | connecting hsending _ hwrite => simp [hsending.closed, hwrite] at hwaits
  | resting hsending _ hwrite => simp [hsending.closed, hwrite] at hwaits
  | _ => simp

namespace Multiplexer

/-- As long as no stream gets a second turn, the queue holds each stream once at most, every entry
has a socket that it is there for and a length that a ring can take, and every write and every closed
socket has its entry. No turn comes up in vain, and the ring refuses no packet. -/
theorem queue_consistent (config : Config) (operations : List Operation)
    (hsingle : ∀ other, .doubled other ∉ (run config operations).chronicle) :
    let m := run config operations
    (m.queue.entries.map (·.stream)).Nodup ∧
      (∀ e ∈ m.queue.entries, e.length ≤ maxPayload ∧
        ∃ s, m.sockets.get? e.stream = some s ∧ Justifies m.chronicle e s) ∧
      (∀ s ∈ m.sockets.sockets, s.pendingWrite.isSome = true ∨ s.flags.closed = true →
        m.queue.contains s.stream = true) ∧
      (∀ stream, .strayed stream ∉ m.chronicle) ∧
      ∀ kind stream payload, .refused kind stream payload ∉ m.chronicle := by
  obtain ⟨hagreeing, -, hrecords⟩ := recorded_run hsingle
  dsimp only
  generalize run config operations = m at hagreeing hrecords ⊢
  refine ⟨hagreeing.nodup, ?_, ?_, hagreeing.not_strayed, hagreeing.not_refused⟩
  · intro e he
    have hturn : e.length ∈ m.queue.turns e.stream := SendQueue.mem_turns_iff.mpr he
    have hagrees := hagreeing.streams e.stream
    exact ⟨hagrees.le_maxPayload _ hturn, (hrecords e.stream).justifies hagrees hturn⟩
  · intro s hs hwaits
    have hagrees := hagreeing.streams s.stream
    rw [hagreeing.distinct.get?_eq_some hs] at hagrees
    rw [SendQueue.contains_eq]
    simpa using hagrees.turns_ne_nil hwaits

/-- While the first connect fills the ring, the second waits. -/
theorem queue_consistent_of_full_ring :
    let m := run {} [.submit ⟨0, ⟨1, 1⟩, .connect (List.replicate 252 7)⟩,
      .submit ⟨1, ⟨1, 2⟩, .connect [101]⟩]
    m.queue.entries = [⟨3, 1⟩] ∧ (m.queue.entries.map (·.stream)).Nodup ∧
      (∀ e ∈ m.queue.entries, e.length ≤ maxPayload ∧
        ∃ s, m.sockets.get? e.stream = some s ∧ Justifies m.chronicle e s) ∧
      (∀ s ∈ m.sockets.sockets, s.pendingWrite.isSome = true ∨ s.flags.closed = true →
        m.queue.contains s.stream = true) ∧
      (∀ stream, .strayed stream ∉ m.chronicle) ∧
      ∀ kind stream payload, .refused kind stream payload ∉ m.chronicle :=
  ⟨by decide +kernel, queue_consistent {} _ (doubled_not_mem (by decide +kernel))⟩

end Multiplexer

end StreamLink
