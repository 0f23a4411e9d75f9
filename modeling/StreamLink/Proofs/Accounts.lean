import StreamLink.Proofs.Lives
import StreamLink.Proofs.Run

/-!
# Accounts of a stream

A chronicle accounts for a stream if every life of the stream that is over was as it should be, and
if the life that goes on, if one does, is in keeping with the stream's socket. A step of the stream
keeps the account if it begins, continues and ends a life as it should; the steps of other streams
only lengthen the life that goes on. What is in keeping with a socket may depend on its turns.

Main statements: `Accounts.step` and `Accounts.elsewhere`, and `Move.accounts` for all streams.
-/

namespace StreamLink

/-- Whether the lives that are over are all `good`, and the one that goes on is in keeping with the
stream's socket. -/
inductive Accounts (stream : UInt8) (good : Life → Prop) (current : Life → Socket → Prop)
    (chronicle : List Event) : Option Socket → Prop
  | between (hpast : ∀ life ∈ livesOn stream chronicle, life.retired = true ∧ good life) :
      Accounts stream good current chronicle none
  | during {past : List Life} {life : Life} {s : Socket}
      (hlives : livesOn stream chronicle = past ++ [life])
      (hpast : ∀ life ∈ past, life.retired = true ∧ good life)
      (hongoing : life.retired = false) (hcurrent : current life s) :
      Accounts stream good current chronicle (some s)

namespace Accounts

variable {stream : UInt8} {good : Life → Prop} {current : Life → Socket → Prop}
  {chronicle events : List Event} {s? s?' : Option Socket} {turns : List Nat} {turn : Turn}

/-- Every life is over, or it goes on in keeping with the stream's socket. -/
theorem retired_or_ongoing (h : Accounts stream good current chronicle s?) {life : Life}
    (hmem : life ∈ livesOn stream chronicle) : life.retired = true ∧ good life ∨
      life.retired = false ∧ ∃ s, s? = some s ∧ current life s := by
  cases h with
  | between hpast => exact .inl (hpast life hmem)
  | during hlives hpast hongoing hcurrent =>
      rw [hlives] at hmem
      rcases List.mem_append.mp hmem with hmem | hmem
      · exact .inl (hpast life hmem)
      · obtain rfl := List.mem_singleton.mp hmem
        exact .inr ⟨hongoing, _, rfl, hcurrent⟩

/-- What is true of the life that goes on and of those that are over is true of all. -/
theorem forall_lives (h : Accounts stream good current chronicle s?)
    (hcurrent : ∀ life s, current life s → good life) :
    ∀ life ∈ livesOn stream chronicle, good life := by
  intro life hmem
  rcases h.retired_or_ongoing hmem with ⟨-, hgood⟩ | ⟨-, s, -, hlife⟩
  · exact hgood
  · exact hcurrent life s hlife

/-- A socket is there for the last life, which goes on. -/
theorem exists_ongoing (h : Accounts stream good current chronicle s?) {s : Socket}
    (hs : s? = some s) : ∃ past life, livesOn stream chronicle = past ++ [life] ∧
      (∀ life ∈ past, life.retired = true) ∧ life.retired = false ∧ current life s := by
  subst hs
  cases h with
  | during hlives hpast hongoing hcurrent =>
      exact ⟨_, _, hlives, fun life hlife => (hpast life hlife).1, hongoing, hcurrent⟩

/-- What is done elsewhere only lengthens a life. -/
theorem elsewhere (h : Accounts stream good current chronicle s?)
    (hquiet : events.any (Event.bounds stream) = false)
    (hkeep : ∀ life, ∀ s ∈ s?, current life s →
      current { life with events := life.events ++ events } s) :
    Accounts stream good current (chronicle ++ events) s? := by
  cases h with
  | between hpast =>
      refine .between ?_
      rwa [livesOn_append_quiet (fun life hlife => (hpast life hlife).1) hquiet]
  | during hlives hpast hongoing hcurrent =>
      have hlives' := livesOn_append_ongoing hlives (fun life hlife => (hpast life hlife).1)
        hongoing hquiet
      exact .during hlives' hpast hongoing (hkeep _ _ rfl hcurrent)

/-- A step of the stream begins, continues or ends a life. -/
theorem step {current' : Life → Socket → Prop} (h : Accounts stream good current chronicle s?)
    (hstep : SocketStep stream s? turns turn events s?')
    (hbegin : ∀ r rest, ∀ s' ∈ s?', s? = none → events = .submitted r :: .opened stream r :: rest →
      current' ⟨r, rest, false⟩ s')
    (hkeep : ∀ life, ∀ s ∈ s?, ∀ s' ∈ s?', current life s →
      current' { life with events := life.events ++ events } s')
    (hend : ∀ life rest, ∀ s ∈ s?, s?' = none → events = rest ++ [.retired stream] →
      current life s → good { life with events := life.events ++ rest, retired := true }) :
    Accounts stream good current' (chronicle ++ events) s?' := by
  cases h with
  | between hpast =>
      have hover : ∀ life ∈ livesOn stream chronicle, life.retired = true :=
        fun life hlife => (hpast life hlife).1
      cases s?' with
      | none =>
          refine .between ?_
          rwa [livesOn_append_quiet hover hstep.any_bounds_between]
      | some s' =>
          obtain ⟨r, rest, rfl, hquiet⟩ := hstep.exists_opened
          exact .during (livesOn_append_opened hover hquiet r) hpast rfl
            (hbegin r rest s' rfl rfl rfl)
  | during hlives hpast hongoing hcurrent =>
      have hover := fun life hlife => (hpast life hlife).1
      cases s?' with
      | none =>
          obtain ⟨rest, rfl, hquiet⟩ := hstep.exists_retired
          refine .between ?_
          rw [livesOn_append_retired hlives hover hongoing hquiet]
          intro life hlife
          rcases List.mem_append.mp hlife with hlife | hlife
          · exact hpast life hlife
          · rw [List.mem_singleton.mp hlife]
            exact ⟨rfl, hend _ rest _ rfl rfl rfl hcurrent⟩
      | some s' =>
          have hlives' := livesOn_append_ongoing hlives hover hongoing hstep.any_bounds
          exact .during hlives' hpast hongoing (hkeep _ _ rfl s' rfl hcurrent)

end Accounts

/-- A move keeps the accounts of all streams. -/
theorem Multiplexer.Move.accounts {m m' : Multiplexer} {stream : UInt8} {turn : Turn}
    {events : List Event} {good : UInt8 → Life → Prop} (hmove : Move m stream turn events m')
    (current : UInt8 → List Nat → Life → Socket → Prop)
    (h : ∀ other, Accounts other (good other) (current other (m.queue.turns other)) m.chronicle
      (m.sockets.get? other))
    (hbegin : ∀ r rest s', SocketStep stream none (m.queue.turns stream) turn
        (.submitted r :: .opened stream r :: rest) (some s') →
      current stream (turn.after (m.queue.turns stream)) ⟨r, rest, false⟩ s')
    (hkeep : ∀ life s s', m.sockets.get? stream = some s →
      SocketStep stream (some s) (m.queue.turns stream) turn events (some s') →
      current stream (m.queue.turns stream) life s →
      current stream (turn.after (m.queue.turns stream))
        { life with events := life.events ++ events } s')
    (hend : ∀ life rest s, m.sockets.get? stream = some s → m'.sockets.get? stream = none →
      events = rest ++ [.retired stream] → current stream (m.queue.turns stream) life s →
      good stream { life with events := life.events ++ rest, retired := true })
    (helsewhere : ∀ other life s, stream ≠ other → m.sockets.get? other = some s →
      current other (m.queue.turns other) life s →
      current other (m.queue.turns other) { life with events := life.events ++ events } s) :
    ∀ other, Accounts other (good other) (current other (m'.queue.turns other)) m'.chronicle
      (m'.sockets.get? other) := by
  intro other
  have hstep := hmove.step
  rw [hmove.chronicle_eq]
  by_cases hother : other = stream
  · subst hother
    rw [hmove.turns_eq]
    apply (h other).step hstep
    · intro r rest s' hs' hnone hevents
      rw [hnone, hs', hevents] at hstep
      exact hbegin r rest s' hstep
    · intro life s hs s' hs' hlife
      rw [hs, hs'] at hstep
      exact hkeep life s s' hs hstep hlife
    · intro life rest s hs hnone hevents hlife
      exact hend life rest s hs hnone hevents hlife
  · have hne : stream ≠ other := Ne.symm hother
    rw [hmove.get?_of_ne hother, hmove.turns_of_ne hother]
    refine (h other).elsewhere (hstep.any_bounds_elsewhere hne) fun life s hs hlife => ?_
    exact helsewhere other life s hne hs hlife

end StreamLink
