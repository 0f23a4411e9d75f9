import StreamLink.Proofs.Deeds

/-!
# Closing a socket

Closing a socket is one move, whoever closes it. With a Reset it is a deed, for the peer is told;
without one it is a deed if there is another reason, such as a Reset from the peer or the end of
both directions. An owner's closing is no deed: the peer need not know of it.

Main statements: `exists_closes` and `EndNoted.undertakes`.
-/

namespace StreamLink.Multiplexer

variable {m m' : Multiplexer} {stream : UInt8} {s : Socket}

/-- What closing a socket comes to, together with the frame that is the cause of it. -/
structure Closes (m : Multiplexer) (stream : UInt8) (s : Socket) (f? : Option Frame)
    (emitReset : Bool) (turn : Turn) (events : List Event) (m' : Multiplexer) : Prop where
  move : Move m stream turn events m'
  config : m'.config = m.config
  caused : ∃ rest, events = (f?.map Event.received).toList ++ rest ∧ occasionsIn rest = []
  stays : ∀ s' ∈ m'.sockets.get? stream, emitReset = true ∧ s' = s.lingering
  told : emitReset = true → m'.sockets.get? stream = none → .sent .reset stream [] ∈ events

section

variable {f? : Option Frame} (h : m.sockets.Distinct) (hget : m.sockets.get? stream = some s)
  (hf : ∀ f ∈ f?, f.stream = stream) (hsockets : m'.sockets = m.sockets)
  (hqueue : m'.queue = m.queue)
  (hhistory : m'.history = (f?.map Event.received).toList ++ m.history)
  (hconfig : m'.config = m.config)

include hget hsockets hqueue hhistory in
theorem history_abandon_caused : (m'.abandon stream s).history =
    ((f?.map Event.received).toList ++ s.farewell (m.queue.turns stream)).reverse ++ m.history := by
  have hcause : (f?.map Event.received).toList.reverse = (f?.map Event.received).toList := by
    cases f? <;> rfl
  have hget' : m'.sockets.get? stream = some s := by rw [hsockets, hget]
  rw [history_abandon hget', hhistory, hqueue, List.reverse_append, hcause, List.append_assoc]

include h hget hf hsockets hqueue hhistory hconfig

theorem closes_quietly : Closes m stream s f? false .leave
    ((f?.map Event.received).toList ++ s.farewell (m.queue.turns stream) ++ [.retired stream])
    ((m'.abandon stream s).retire stream) := by
  have herased : ((m'.abandon stream s).retire stream).sockets = m.sockets.erase stream := by
    rw [sockets_retire, sockets_abandon, SocketTable.erase_modify Socket.stream_abort, hsockets]
  refine ⟨.of_erase h hget (.closeQuietly hf) herased ?_ ?_, ?_, ?_, ?_, nofun⟩
  · simp [Turn.Changes, hqueue]
  · rw [history_retire _ (contains_abandon (hsockets ▸ hget)),
      history_abandon_caused hget hsockets hqueue hhistory]
    simp
  · rw [config_retire, config_abandon, hconfig]
  · exact ⟨s.farewell (m.queue.turns stream) ++ [.retired stream], by simp,
      by simp [Event.isOccasion]⟩
  · rw [herased, SocketTable.get?_erase]
    rintro _ ⟨⟩

theorem closes_now
    (hnow : ((m'.abandon stream s).record (.accepted .reset stream [])).canSendNow 0 = true) :
    Closes m stream s f? true .clear
      ((f?.map Event.received).toList ++ s.farewell (m.queue.turns stream) ++
        [.accepted .reset stream [], .sent .reset stream [], .retired stream])
      ((((m'.abandon stream s).record (.accepted .reset stream [])).transmit .reset stream
        []).retire stream) := by
  obtain ⟨hempty, hroom⟩ := (canSendNow_iff _).mp hnow
  have hcontains : (m'.abandon stream s).sockets.contains stream = true :=
    contains_abandon (hsockets ▸ hget)
  have herased : ((((m'.abandon stream s).record (.accepted .reset stream [])).transmit .reset
      stream []).retire stream).sockets = m.sockets.erase stream := by
    rw [sockets_retire, sockets_transmit, sockets_record, sockets_abandon,
      SocketTable.erase_modify Socket.stream_abort, hsockets]
  refine ⟨.of_erase h hget (.closeNow hf) herased ⟨by simp [hqueue], ?_⟩ ?_, ?_, ?_, ?_, ?_⟩
  · simpa using hempty
  · rw [history_retire _ (by simpa using hcontains), history_transmit _ hroom, history_record,
      history_abandon_caused hget hsockets hqueue hhistory]
    simp
  · rw [config_retire, config_transmit]
    exact config_abandon.trans hconfig
  · exact ⟨s.farewell (m.queue.turns stream) ++
      [.accepted .reset stream [], .sent .reset stream [], .retired stream], by simp,
      by simp [Event.isOccasion]⟩
  · rw [herased, SocketTable.get?_erase]
    rintro _ ⟨⟩
  · simp

theorem closes_later : Closes m stream s f? true .rejoin
    ((f?.map Event.received).toList ++ s.farewell (m.queue.turns stream) ++
      [.accepted .reset stream []] ++ again stream (m.queue.turns stream).tail)
    ((((m'.abandon stream s).record (.accepted .reset stream [])).modifyFlags stream
      ({ · with owesReset := true })).enqueue stream 0) := by
  have hmodified : ((((m'.abandon stream s).record (.accepted .reset stream [])).modifyFlags stream
      ({ · with owesReset := true })).enqueue stream 0).sockets =
        m.sockets.modify stream Socket.lingering := by
    rw [sockets_enqueue, sockets_modifyFlags, sockets_record, sockets_abandon, hsockets,
      SocketTable.modify_modify Socket.stream_abort]
    rfl
  have hlingers := get?_of_modify h hget rfl hmodified
  refine ⟨.of_modify h hget (f := Socket.lingering) (.closeLater hf) rfl rfl hmodified ?_ ?_, ?_,
    ?_, ?_, ?_⟩
  · simp [Turn.Changes, hqueue]
  · rw [history_enqueue, queue_modifyFlags, queue_record, queue_abandon, history_modifyFlags,
      history_record, history_abandon_caused hget hsockets hqueue hhistory, SendQueue.turns_remove,
      hqueue]
    simp
  · rw [config_enqueue]
    exact config_abandon.trans hconfig
  · exact ⟨s.farewell (m.queue.turns stream) ++ [.accepted .reset stream []] ++
      again stream (m.queue.turns stream).tail, by simp, by simp [Event.isOccasion]⟩
  · rw [hlingers]
    rintro _ ⟨⟩
    exact ⟨rfl, rfl⟩
  · rw [hlingers]
    intro _ hnone
    contradiction

variable (m' f?) in
/-- Closing a socket is one move, together with the frame that is the cause of it. -/
theorem exists_closes (emitReset : Bool) :
    ∃ turn events, Closes m stream s f? emitReset turn events (m'.close stream emitReset) := by
  have hget' : m'.sockets.get? stream = some s := by rw [hsockets, hget]
  rw [close_eq hget']
  cases emitReset with
  | false => exact ⟨_, _, closes_quietly h hget hf hsockets hqueue hhistory hconfig⟩
  | true =>
      rw [if_neg (by simp)]
      split
      next hnow => exact ⟨_, _, closes_now h hget hf hsockets hqueue hhistory hconfig hnow⟩
      next => exact ⟨_, _, closes_later h hget hf hsockets hqueue hhistory hconfig⟩

end

theorem exists_closes_uncaused (h : m.sockets.Distinct) (hget : m.sockets.get? stream = some s)
    (emitReset : Bool) :
    ∃ turn events, Closes m stream s none emitReset turn events (m.close stream emitReset) :=
  exists_closes m none h hget (by simp) rfl rfl rfl rfl emitReset

namespace Closes

variable {f? : Option Frame} {emitReset : Bool} {turn : Turn} {events : List Event}

theorem occasions (h : Closes m stream s f? emitReset turn events m') :
    occasionsIn events = (f?.map Event.received).toList := by
  obtain ⟨rest, rfl, hrest⟩ := h.caused
  rw [occasionsIn_append, occasionsIn_received, hrest, List.append_nil]

theorem modest (h : Closes m stream s f? emitReset turn events m')
    (hget : m.sockets.get? stream = some s) (hm : m.Modest) : m'.Modest := by
  refine h.move.modest h.config ?_ hm
  intro s' hs' hs
  rw [(h.stays s' hs').2]
  exact (hs s hget).lingering

/-- Closing a socket with a Reset is a deed, and so is closing it for a reason. -/
theorem deed (h : Closes m stream s f? emitReset turn events m')
    (hget : m.sockets.get? stream = some s)
    (hparting : emitReset = false →
      ∀ rest, Parting stream s ((f?.map Event.received).toList ++ rest)) :
    Deed m stream turn events m' := by
  refine ⟨h.move, h.config, ?_, h.modest hget⟩
  intro s' hs' hnone
  obtain rfl : s = s' := Option.some.inj (hget.symm.trans hs')
  cases emitReset with
  | true => exact .told (h.told rfl hnone)
  | false =>
      obtain ⟨rest, rfl, -⟩ := h.caused
      exact hparting rfl rest

end Closes

theorem leads_close (h : m.sockets.Distinct) (stream : UInt8) (emitReset : Bool) :
    Leads m [] (m.close stream emitReset) := by
  cases hget : m.sockets.get? stream with
  | none =>
      rw [close, hget]
      exact .refl m
  | some s =>
      obtain ⟨_, _, hcloses⟩ := exists_closes_uncaused h hget emitReset
      refine .of_quiet hcloses.move ?_
      rw [← submissionsIn_occasionsIn, hcloses.occasions]
      rfl

theorem config_close (h : m.sockets.Distinct) (stream : UInt8) (emitReset : Bool) :
    (m.close stream emitReset).config = m.config := by
  cases hget : m.sockets.get? stream with
  | none => rw [close, hget]
  | some s =>
      obtain ⟨_, _, hcloses⟩ := exists_closes_uncaused h hget emitReset
      exact hcloses.config

theorem modest_close (h : m.sockets.Distinct) (stream : UInt8) (emitReset : Bool) (hm : m.Modest) :
    (m.close stream emitReset).Modest := by
  cases hget : m.sockets.get? stream with
  | none =>
      rw [close, hget]
      exact hm
  | some s =>
      obtain ⟨_, _, hcloses⟩ := exists_closes_uncaused h hget emitReset
      exact hcloses.modest hget hm

/-- A socket is closed with a Reset, or because both directions have ended. -/
theorem conducts_close (h : m.sockets.Distinct) (stream : UInt8) (emitReset : Bool)
    (hended : emitReset = false → ∀ s ∈ m.sockets.get? stream, s.flags.eosExchanged = true) :
    Conducts m [] (m.close stream emitReset) := by
  cases hget : m.sockets.get? stream with
  | none =>
      rw [close, hget]
      exact .refl m
  | some s =>
      obtain ⟨_, _, hcloses⟩ := exists_closes_uncaused h hget emitReset
      refine .of_deed (hcloses.deed hget fun hquietly _ => ?_) hcloses.occasions
      exact .exchanged (hended hquietly s hget)

theorem conducts_closeIfExchanged (h : m.sockets.Distinct) (stream : UInt8) :
    Conducts m [] (m.closeIfExchanged stream) := by
  unfold closeIfExchanged
  split
  · exact .refl m
  next s hget =>
  split
  next hended =>
    apply conducts_close h
    intro _ s' hs'
    obtain rfl : s = s' := Option.some.inj (hget.symm.trans hs')
    exact hended
  · exact .refl m

/-- The end of one direction is noted on a socket. If it was the second end, the socket is still to
be closed. -/
structure EndNoted (m : Multiplexer) (stream : UInt8) (s : Socket) (f : Socket → Socket) (turn : Turn)
    (events : List Event) (m' : Multiplexer) : Prop where
  get? : m.sockets.get? stream = some s
  step : SocketStep stream (some s) (m.queue.turns stream) turn events (some (f s))
  keepsStream : ∀ s, (f s).stream = s.stream
  keepsAddress : ∀ s, (f s).address = s.address
  bytes : (f s).queuedBytes = s.queuedBytes
  sockets : m'.sockets = m.sockets.modify stream f
  queue : turn.Changes stream m.queue m'.queue
  history : m'.history = events.reverse ++ m.history
  config : m'.config = m.config

namespace EndNoted

variable {f : Socket → Socket} {turn : Turn} {events : List Event}

theorem move (h : EndNoted m stream s f turn events m') (hd : m.sockets.Distinct) :
    Move m stream turn events m' :=
  .of_modify hd h.get? h.step (h.keepsStream s) (h.keepsAddress s) h.sockets h.queue h.history

theorem get?_after (h : EndNoted m stream s f turn events m') :
    m'.sockets.get? stream = some (f s) := by
  rw [h.sockets]
  exact SocketTable.get?_modify_eq_some h.keepsStream h.get?

theorem closeIfExchanged_of_ended (h : EndNoted m stream s f turn events m')
    (hended : (f s).flags.eosExchanged = true) :
    m'.closeIfExchanged stream = m'.close stream false := by
  rw [closeIfExchanged, h.get?_after]
  exact if_pos hended

theorem closeIfExchanged_of_not_ended (h : EndNoted m stream s f turn events m')
    (hended : ¬ (f s).flags.eosExchanged = true) : m'.closeIfExchanged stream = m' := by
  rw [closeIfExchanged, h.get?_after]
  exact if_neg hended

/-- The end of one direction is a move, and if it was the second the socket is closed. -/
theorem undertakes (h : EndNoted m stream s f turn events m') (hd : m.sockets.Distinct) :
    Undertakes m (occasionsIn events) (m'.closeIfExchanged stream) := by
  have hmove := h.move hd
  have hrest := conducts_closeIfExchanged hmove.distinct stream
  refine ⟨⟨_, _, _, m', hmove, h.config, .of_get? h.get?_after, rfl, hrest.proceeds⟩, ?_⟩
  intro hm
  by_cases hended : (f s).flags.eosExchanged = true
  · -- The socket goes, and the others are as modest as before.
    obtain ⟨_, _, hcloses⟩ := exists_closes_uncaused hmove.distinct h.get?_after false
    rw [h.closeIfExchanged_of_ended hended]
    intro other s' hs'
    rw [hcloses.config, h.config]
    by_cases hother : other = stream
    · subst hother
      exact absurd (hcloses.stays s' hs').1 (by simp)
    · rw [hcloses.move.get?_of_ne hother, hmove.get?_of_ne hother] at hs'
      exact hm other s' hs'
  · -- The socket stays, and buffers as much as before.
    rw [h.closeIfExchanged_of_not_ended hended]
    refine hmove.modest h.config ?_ hm
    rw [h.get?_after]
    rintro _ ⟨⟩ hs
    refine ⟨by simpa using hended, ?_⟩
    rw [Socket.Within, h.bytes]
    exact (hs s h.get?).within

end EndNoted

end StreamLink.Multiplexer
