import Mathlib.Data.List.Induction
import StreamLink.Proofs.Agreement

/-!
# Second turns

The send queue expects a stream to join it only when it is not in it. The peer can break this: it may
answer a connect whose turn is still to come, and a write or an end of stream that comes next gets a
second turn. Nothing else leads to one. What is lost then is more than the order: the first turn
serves the write by the connect's length, and the ring may have no room for it although the write is
answered as sent.

Main statement: `second_turn_iff_premature`.
-/

namespace StreamLink

/-- Whether the command sends something that can be sent. -/
def Command.Sendable : Command → Prop
  | .write data => data.length ≤ maxPayload
  | .eos => True
  | _ => False

/-- Among agreeing streams only a write can get a second turn, and only on a socket whose connect was
answered early. -/
theorem SocketStep.second_turn {stream other : UInt8} {s? s?' : Option Socket} {turns : List Nat}
    {turn : Turn} {events : List Event} (h : SocketStep stream s? turns turn events s?')
    (hagrees : Agrees s? turns) (hdoubled : .doubled other ∈ events) :
    turns ≠ [] ∧ ∃ s r, s? = some s ∧ submissionsIn events = [r] ∧ r.command.Sendable ∧
      s.OpenFor r ∧ s.writeConflicts = false := by
  have hnone : .doubled other ∉ again stream ([] : List Nat) := by simp [again]
  have hfarewell (s : Socket) : .doubled other ∉ s.farewell turns := by
    intro he
    rcases Socket.mem_farewell he with he | ⟨r, -, he⟩ <;> contradiction
  have hcause (f? : Option Frame) : .doubled other ∉ (f?.map Event.received).toList :=
    not_mem_received (by simp) f?
  cases h with
  | openLater =>
      cases hagrees
      simp [again] at hdoubled
  | @writeLater s _ r _ hr hopen hfree hlength =>
      have hagain : .doubled other ∈ again stream turns := by simpa using hdoubled
      refine ⟨(mem_again.mp hagain).1, s, r, rfl, by simp, ?_, hopen, hfree⟩
      rw [hr]
      exact hlength
  | @endLater s _ r hr hopen hfree =>
      have hagain : .doubled other ∈ again stream turns := by simpa using hdoubled
      refine ⟨(mem_again.mp hagain).1, s, r, rfl, by simp, ?_, hopen, hfree⟩
      rw [hr]
      trivial
  | connected => split at hdoubled <;> simp at hdoubled
  | rejected => split at hdoubled <;> simp [hfarewell] at hdoubled
  | closeQuietly | closeNow => simp [hfarewell] at hdoubled
  | closeLater => simp [hfarewell, hagrees.tail_eq_nil, again] at hdoubled
  | serveConnect _ he | serveWrite _ _ _ he => rcases he with rfl | ⟨rfl, -⟩ <;> simp at hdoubled
  | _ => simp at hdoubled

namespace Multiplexer

variable {m m' : Multiplexer}

/-- Whether a request sends on an open stream that is still waiting for the turn of its connect. -/
def Premature (m : Multiplexer) (r : Request) : Prop :=
  r.command.Sendable ∧ ∃ s, m.findOpen? r.address = some s ∧ s.writeConflicts = false ∧
    m.queue.contains s.stream = true

theorem findOpen?_of_openFor (h : m.sockets.Distinct) {stream : UInt8} {s : Socket} {r : Request}
    (hget : m.sockets.get? stream = some s) (hopen : s.OpenFor r) :
    m.findOpen? r.address = some s := by
  unfold findOpen?
  rw [← hopen.1, h.lookup_eq_some (SocketTable.mem_of_get? hget), Option.filter_eq_some_iff]
  exact ⟨rfl, by simp [hopen.2]⟩

/-- Nobody gets a second turn unless a request is handed in. -/
theorem Agreeing.single_of_quiet {rs : List Request} (h : m.Agreeing)
    (hsingle : ∀ other, .doubled other ∉ m.chronicle) (hleads : Leads m rs m') (hquiet : rs = []) :
    ∀ other, .doubled other ∉ m'.chronicle := by
  induction hleads with
  | refl => exact hsingle
  | tail hfirst hmove ih =>
      obtain ⟨hrs, hevents⟩ := List.append_eq_nil_iff.mp hquiet
      have hbefore := ih hrs
      intro other hdoubled
      rw [hmove.chronicle_eq, List.mem_append] at hdoubled
      rcases hdoubled with hdoubled | hdoubled
      · exact hbefore other hdoubled
      · obtain ⟨-, s, r, -, hone, -⟩ :=
          hmove.step.second_turn ((h.leads hfirst hbefore).streams _) hdoubled
        rw [hevents] at hone
        contradiction

/-- A request that leads to a second turn is premature. -/
theorem Agreeing.premature_of_submits {r : Request} (h : m.Agreeing)
    (hsingle : ∀ other, .doubled other ∉ m.chronicle) (hsubmits : Submits m r m') {other : UInt8}
    (hdoubled : .doubled other ∈ m'.chronicle) : m.Premature r := by
  obtain ⟨stream, turn, events, m₁, hmove, hone, hrest⟩ := hsubmits
  by_cases hfirst : ∃ other, .doubled other ∈ events
  · obtain ⟨_, hfirst⟩ := hfirst
    obtain ⟨hturns, s, r', hget, hone', hsendable, hopen, hfree⟩ :=
      hmove.step.second_turn (h.streams stream) hfirst
    obtain rfl : r = r' := by simpa using hone.symm.trans hone'
    refine ⟨hsendable, s, findOpen?_of_openFor h.distinct hget hopen, hfree, ?_⟩
    rw [SocketTable.stream_of_get? hget, SendQueue.contains_eq]
    simpa using hturns
  · rw [not_exists] at hfirst
    have hsingle₁ : ∀ other, .doubled other ∉ m₁.chronicle := by
      intro other hmem
      rw [hmove.chronicle_eq, List.mem_append] at hmem
      rcases hmem with hmem | hmem
      · exact hsingle other hmem
      · exact hfirst other hmem
    exact absurd hdoubled ((h.move hmove hfirst).single_of_quiet hsingle₁ hrest rfl other)

theorem parkWrite_second_turn {stream : UInt8} (h : m.queue.contains stream = true) (r : Request)
    (length : Nat) :
    .doubled stream ∈ (m.parkWrite stream r length).chronicle ∧
      2 ≤ ((m.parkWrite stream r length).queue.turns stream).length := by
  rw [SendQueue.contains_eq] at h
  have hturns : m.queue.turns stream ≠ [] := by simpa using h
  constructor
  · rw [chronicle, List.mem_reverse, parkWrite, history_enqueue, List.mem_append]
    exact .inl (mem_again.mpr ⟨hturns, rfl⟩)
  · have hpos := List.length_pos_iff.mpr hturns
    simp [parkWrite]
    omega

theorem not_canSendNow_of_contains {stream : UInt8} (h : m.queue.contains stream = true)
    (length : Nat) : m.canSendNow length = false := by
  by_contra hnow
  obtain ⟨hempty, -⟩ := (canSendNow_iff m).mp (by simpa using hnow)
  simp [SendQueue.contains, hempty] at h

/-- A premature request leads to a second turn. -/
theorem Premature.second_turn {r : Request} (h : m.Premature r) :
    ∃ stream, .doubled stream ∈ (m.submit r).chronicle ∧
      2 ≤ ((m.submit r).queue.turns stream).length := by
  obtain ⟨hsendable, s, hfound, hfree, hcontains⟩ := h
  refine ⟨s.stream, ?_⟩
  cases hr : r.command with
  | write data =>
      rw [hr] at hsendable
      have hcontains' : (m.acceptWrite r data s.stream).queue.contains s.stream = true := hcontains
      have hwaits := Bool.eq_false_iff.mp (not_canSendNow_of_contains hcontains' data.length)
      rw [submit_write hr hfound hfree hsendable, if_neg hwaits]
      exact parkWrite_second_turn hcontains' r data.length
  | eos =>
      have hcontains' : (m.acceptEos r s.stream).queue.contains s.stream = true := hcontains
      have hwaits := Bool.eq_false_iff.mp (not_canSendNow_of_contains hcontains' 0)
      rw [submit_eos hr hfound hfree, if_neg hwaits]
      exact parkWrite_second_turn hcontains' r 0
  | _ =>
      rw [hr] at hsendable
      contradiction

/-! ### Runs -/

/-- Whether some request of the run was premature when it was handed in. -/
def PrematureIn (config : Config) (operations : List Operation) : Prop :=
  ∃ before r after, operations = before ++ .submit r :: after ∧ (run config before).Premature r

theorem PrematureIn.append {config : Config} {first : List Operation}
    (h : PrematureIn config first) (second : List Operation) :
    PrematureIn config (first ++ second) := by
  obtain ⟨before, r, after, rfl, hpremature⟩ := h
  exact ⟨before, r, after ++ second, by simp, hpremature⟩

theorem premature_of_doubled {config : Config} {operations : List Operation} {other : UInt8}
    (h : .doubled other ∈ (run config operations).chronicle) : PrematureIn config operations := by
  induction operations using List.reverseRecOn generalizing other with
  | nil => contradiction
  | append_singleton operations operation ih =>
      by_cases hearlier : ∃ other, .doubled other ∈ (run config operations).chronicle
      · obtain ⟨_, hearlier⟩ := hearlier
        exact (ih hearlier).append [operation]
      -- So far the run was sound: it is the last operation that gives the second turn.
      rw [not_exists] at hearlier
      have hagreeing := agreeing_run hearlier
      rw [run_append] at h
      have hquiet (hrequest : operation.request?.toList = []) : False :=
        hagreeing.single_of_quiet hearlier (leads_apply hagreeing.distinct operation) hrequest other h
      cases operation with
      | submit r =>
          have hsubmits := submits_submit hagreeing.distinct r
          exact ⟨operations, r, [], rfl, hagreeing.premature_of_submits hearlier hsubmits h⟩
      | _ => exact absurd rfl hquiet

theorem doubled_of_premature {config : Config} {operations : List Operation}
    (h : PrematureIn config operations) :
    (∃ stream, .doubled stream ∈ (run config operations).chronicle) ∧
      ∃ before, before <+: operations ∧
        ¬ ((run config before).queue.entries.map (·.stream)).Nodup := by
  obtain ⟨before, r, after, rfl, hpremature⟩ := h
  obtain ⟨stream, hdoubled, htwice⟩ := hpremature.second_turn
  have hstate : run config (before ++ [.submit r]) = (run config before).submit r :=
    run_append config before [.submit r]
  rw [← hstate] at hdoubled htwice
  rw [List.append_cons]
  refine ⟨⟨stream, mem_chronicle_run_append hdoubled after⟩, _, List.prefix_append _ after, ?_⟩
  intro hnodup
  have := SendQueue.nodup_iff_length_turns.mp hnodup stream
  omega

/-- Some stream gets a second turn, and some state has a stream in the send queue twice, exactly if a
request is handed in on a stream that waits for the turn of its answered connect. In all other runs
every packet finds room in the ring. -/
theorem second_turn_iff_premature (config : Config) (operations : List Operation) :
    ((∃ stream, .doubled stream ∈ (run config operations).chronicle) ↔
      PrematureIn config operations) ∧
    ((∃ before, before <+: operations ∧
      ¬ ((run config before).queue.entries.map (·.stream)).Nodup) ↔
      PrematureIn config operations) ∧
    (¬ PrematureIn config operations → ∀ kind stream payload,
      .refused kind stream payload ∉ (run config operations).chronicle) := by
  have hagreeing (before : List Operation) (h : ¬ PrematureIn config before) :
      (run config before).Agreeing :=
    agreeing_run fun other hdoubled => h (premature_of_doubled hdoubled)
  refine ⟨⟨?_, ?_⟩, ⟨?_, ?_⟩, ?_⟩
  · rintro ⟨stream, hdoubled⟩
    exact premature_of_doubled hdoubled
  · intro h
    exact (doubled_of_premature h).1
  · rintro ⟨before, ⟨after, rfl⟩, htwice⟩
    by_contra hnot
    exact htwice (hagreeing before fun h => hnot (h.append after)).nodup
  · intro h
    exact (doubled_of_premature h).2
  · intro h
    exact (hagreeing operations h).not_refused

/-- Two connects fill the ring, a third has to wait, and the peer accepts it all the same. The write
that follows gets the second turn. When the peer then takes the first packet, the write is served by
the connect's turn: the ring has room for that turn and none for the write, which is answered as sent. -/
theorem write_lost_after_early_answer :
    let write : Request := ⟨3, ⟨1, 3⟩, .write (List.replicate 252 9)⟩
    let operations : List Operation := [.submit ⟨0, ⟨1, 1⟩, .connect (List.replicate 100 7)⟩,
      .submit ⟨1, ⟨1, 2⟩, .connect (List.replicate 149 7)⟩, .submit ⟨2, ⟨1, 3⟩, .connect []⟩,
      .publish [1, 2, 5, 0], .poll, .submit write]
    (run {} operations).queue.entries = [⟨5, 0⟩, ⟨5, 252⟩] ∧
      .doubled 5 ∈ (run {} operations).chronicle ∧
      .refused .data 5 (List.replicate 252 9) ∈ (run {} (operations ++ [.take, .poll])).chronicle ∧
      .answered write (.written 252) ∈ (run {} (operations ++ [.take, .poll])).chronicle := by
  decide +kernel

end Multiplexer

end StreamLink
