import StreamLink.Proofs.Parcels

/-!
# Parcels keep their order

When a stream takes a step, the parcels that wait keep their order, of whichever streams they are:
only the oldest is sent, a parcel that is sent at once finds none waiting, and new ones wait behind
the others. This takes streams that agree with their turns, and a step without a second turn.

Main statement: `Multiplexer.Move.inOrder`.
-/

namespace StreamLink

/-! ### What one step does to the parcels that wait -/

section Fates

variable {events : List Event} {waiting rest new : List Parcel} {p : Parcel}

/-- Nothing is sent or cancelled, and what is taken on waits behind the others. -/
theorem InOrder.of_joined (hfate : ∀ p ∈ waiting, fate? p events = none)
    (hsent : sentIn events = []) (hkept : keptIn events = new.map (·, none)) :
    InOrder waiting events (waiting ++ new) := by
  rw [InOrder, survivors_of_none hfate, hkept, hsent, List.map_append]
  rfl

/-- Nothing happens to any parcel. -/
theorem InOrder.of_quiet (hfate : ∀ p ∈ waiting, fate? p events = none)
    (hsent : sentIn events = []) (hkept : keptIn events = []) : InOrder waiting events waiting := by
  have hjoined : InOrder waiting events (waiting ++ []) := .of_joined hfate hsent hkept
  rwa [List.append_nil] at hjoined

/-- The oldest parcel is sent. -/
theorem InOrder.of_served (hfate : ∀ p ∈ rest, fate? p events = none)
    (hfirst : fate? p events = some .sent) (hsent : sentIn events = [p])
    (hkept : keptIn events = []) : InOrder (p :: rest) events rest := by
  have hsplit := survivors_append events [p] rest
  rw [List.singleton_append] at hsplit
  rw [InOrder, hsplit, survivors_of_none hfate, hkept, hsent]
  simp [survivors, hfirst, Kept]

end Fates

theorem Socket.SendsLike.work_eq {s s' : Socket} (h : s'.SendsLike s) : s'.work = s.work := by
  unfold Socket.work
  rw [h.connect, h.write, h.owes]

theorem Socket.SendsLike.parcelOn? {s s' : Socket} (h : s'.SendsLike s) (stream : UInt8) :
    parcelOn? stream (some s') = parcelOn? stream (some s) := by
  simp only [StreamLink.parcelOn?, Option.bind_some, h.work_eq]

theorem parcelOn?_connect {s : Socket} {r : Request} {stream : UInt8}
    (hconnect : s.pendingConnect = some r) :
    parcelOn? stream (some s) = some ⟨.connect, stream, r.command.payload⟩ := by
  simp [parcelOn?, Socket.work, hconnect, Work.parcel?]

theorem parcelOn?_write {s : Socket} {r : Request} {stream : UInt8} {data : Bytes}
    (hconnect : s.pendingConnect = none) (hwrite : s.pendingWrite = some r)
    (hr : r.command = .write data) : parcelOn? stream (some s) = some ⟨.data, stream, data⟩ := by
  simp [parcelOn?, Socket.work, hconnect, hwrite, Work.parcel?, hr]

theorem parcelOn?_end {s : Socket} {r : Request} {stream : UInt8}
    (hconnect : s.pendingConnect = none) (hwrite : s.pendingWrite = some r)
    (hr : ∀ data, r.command ≠ .write data) :
    parcelOn? stream (some s) = some ⟨.eos, stream, []⟩ := by
  have hwork : s.work = .write r := by simp [Socket.work, hconnect, hwrite]
  simp only [parcelOn?, Option.bind_some, hwork, Work.parcel?]

theorem parcelOn?_reset {s : Socket} {stream : UInt8} (hconnect : s.pendingConnect = none)
    (hwrite : s.pendingWrite = none) (howes : s.flags.owesReset = true) :
    parcelOn? stream (some s) = some ⟨.reset, stream, []⟩ := by
  simp [parcelOn?, Socket.work, hconnect, hwrite, howes, Work.parcel?]

theorem parcelOn?_idle {s : Socket} {stream : UInt8} (hconnect : s.pendingConnect = none)
    (hwrite : s.pendingWrite = none) (howes : s.flags.owesReset = false) :
    parcelOn? stream (some s) = none := by
  simp [parcelOn?, Socket.work, hconnect, hwrite, howes, Work.parcel?]

/-- Only a connect that waits for its answer is a connect's parcel. -/
theorem exists_connect_of_parcelOn? {s : Socket} {stream : UInt8} {p : Parcel}
    (hp : parcelOn? stream (some s) = some p) (hkind : p.kind = .connect) :
    ∃ r, s.pendingConnect = some r := by
  rcases s.work_cases with ⟨r, hconnect, -⟩ | ⟨hconnect, ⟨r, hwrite, -⟩ | ⟨hwrite, howes⟩⟩
  · exact ⟨r, hconnect⟩
  · by_cases hr : ∃ data, r.command = .write data
    · obtain ⟨data, hr⟩ := hr
      rw [parcelOn?_write hconnect hwrite hr] at hp
      obtain rfl := Option.some.inj hp
      contradiction
    · rw [parcelOn?_end hconnect hwrite (not_exists.mp hr)] at hp
      obtain rfl := Option.some.inj hp
      contradiction
  · rcases howes with ⟨howes, -⟩ | ⟨howes, -⟩
    · rw [parcelOn?_reset hconnect hwrite howes] at hp
      obtain rfl := Option.some.inj hp
      contradiction
    · rw [parcelOn?_idle hconnect hwrite howes] at hp
      contradiction

/-- A frame without effect on a socket answers no connect of it. -/
theorem Agrees.fate?_unheeded {s : Socket} {turns : List Nat} (h : Agrees (some s) turns)
    {f : Frame} (hunheeding : s.Unheeding f) {stream : UInt8} {p : Parcel}
    (hp : parcelOn? stream (some s) = some p) : (Event.received f).fate? p = none := by
  rw [Event.fate?, if_neg]
  rintro ⟨-, hkind, hanswer, hlength⟩
  obtain ⟨r, hconnect⟩ := exists_connect_of_parcelOn? hp hkind
  have hopen := (h.of_connect hconnect).1.closed
  obtain ⟨result, hpayload⟩ := List.length_eq_one_iff.mp hlength
  simp only [Socket.Unheeding, hopen, Bool.false_eq_true, ↓reduceIte, hanswer, hconnect, reduceCtorEq,
    false_or] at hunheeding
  exact hunheeding result hpayload

/-- Frames other than answers to connects leave the parcels as they are. -/
theorem fate?_received_cons {f : Frame} {kind : PacketKind}
    (hf : PacketKind.ofCode? f.kind = some kind) (hkind : kind ≠ .connectResponse) (p : Parcel)
    (events : List Event) : fate? p (.received f :: events) = fate? p events := by
  have hnone : (Event.received f).fate? p = none := by
    rw [Event.fate?, if_neg]
    rintro ⟨-, -, hanswer, -⟩
    exact hkind (Option.some.inj (hf.symm.trans hanswer))
  rw [fate?_cons, hnone, Option.none_or]

/-- A step of one stream is no news of the parcels of the others. -/
theorem SocketStep.fate?_elsewhere {stream : UInt8} {s? s?' : Option Socket} {turns : List Nat}
    {turn : Turn} {events : List Event} (h : SocketStep stream s? turns turn events s?')
    {p : Parcel} (hp : p.stream ≠ stream) : fate? p events = none := by
  obtain ⟨kind, other, payload⟩ := p
  have hne : stream ≠ other := Ne.symm hp
  have hcause {f? : Option Frame} (hf : ∀ f ∈ f?, f.stream = stream) :
      fate? ⟨kind, other, payload⟩ (f?.map Event.received).toList = none := by
    cases f? with
    | none => rfl
    | some f => simp [hf f rfl, hne]
  cases h with
  | ignore hf | dataRead hf | dataKept hf | endRead hf | endKept hf => simp [hf, hne]
  | connected hf | rejected hf => split <;> simp [hf, hne]
  | closeQuietly hf | closeNow hf | closeLater hf => simp [hcause hf, hne]
  | serveConnect _ he | serveWrite _ _ _ he => rcases he with rfl | ⟨rfl, -⟩ <;> simp [hne]
  | _ => simp [hne]

namespace Multiplexer

/-- The parcel that a stream has to send. -/
def parcel? (m : Multiplexer) (stream : UInt8) : Option Parcel :=
  parcelOn? stream (m.sockets.get? stream)

/-- The parcels that wait, in the order of their turns. -/
def waiting (m : Multiplexer) : List Parcel :=
  m.queue.parcels m.parcel?

variable {m m' : Multiplexer} {stream : UInt8} {turn : Turn} {events : List Event}

theorem stream_of_parcel? {p : Parcel} (h : m.parcel? stream = some p) : p.stream = stream :=
  stream_of_parcelOn? h

theorem mem_waiting {p : Parcel} (h : p ∈ m.waiting) :
    m.parcel? p.stream = some p ∧ m.queue.turns p.stream ≠ [] := by
  obtain ⟨e, he, hp⟩ := List.mem_filterMap.mp h
  have hstream := stream_of_parcel? hp
  rw [hstream]
  exact ⟨hp, List.ne_nil_of_mem (SendQueue.mem_turns_iff.mpr he)⟩

/-- A stream without a turn has nothing that waits. -/
theorem stream_ne_of_mem_waiting (hturns : m.queue.turns stream = []) {p : Parcel}
    (h : p ∈ m.waiting) : p.stream ≠ stream := by
  rintro rfl
  exact (mem_waiting h).2 hturns

theorem filter_waiting (m : Multiplexer) (stream : UInt8) :
    m.waiting.filter (·.stream != stream) = m.queue.parcelsBut stream m.parcel? :=
  SendQueue.filter_parcels fun _ _ => stream_of_parcel?

namespace Move

/-- What the other streams have to send, in whichever queue. -/
theorem parcelsBut_congr (h : Move m stream turn events m') (q : SendQueue) :
    q.parcelsBut stream m'.parcel? = q.parcelsBut stream m.parcel? := by
  apply SendQueue.parcelsBut_congr
  intro other hne
  rw [parcel?, h.get?_of_ne hne]
  rfl

theorem parcelsBut_eq (h : Move m stream turn events m') :
    m'.queue.parcelsBut stream m'.parcel? = m.queue.parcelsBut stream m.parcel? := by
  rw [h.parcelsBut_congr, SendQueue.parcelsBut, SendQueue.parcelsBut, h.queue.entries_of_ne]

/-! ### The parcels that wait after a move -/

theorem waiting_of_keep (h : Move m stream .keep events m')
    (hsame : m'.parcel? stream = m.parcel? stream) : m'.waiting = m.waiting := by
  have hparcel : m'.parcel? = m.parcel? := by
    funext other
    by_cases hother : other = stream
    · rw [hother, hsame]
    · rw [parcel?, h.get?_of_ne hother]
      rfl
  have hqueue : m'.queue = m.queue := h.queue
  rw [waiting, hparcel, hqueue]
  rfl

theorem waiting_of_join {n : Nat} (h : Move m stream (.join n) events m')
    (hturns : m.queue.turns stream = []) :
    m'.waiting = m.waiting ++ (m'.parcel? stream).toList := by
  have hqueue : m'.queue = m.queue.enqueue stream n := h.queue
  rw [waiting, hqueue, SendQueue.parcels_enqueue, SendQueue.parcels_eq_of_turns hturns,
    h.parcelsBut_congr, ← SendQueue.parcels_eq_of_turns hturns]
  rfl

theorem waiting_of_serve {n : Nat} (h : Move m stream (.serve n) events m')
    (hturns : (m.queue.turns stream).tail = []) :
    m.waiting = (m.parcel? stream).toList ++ m'.waiting := by
  have hturns' : m'.queue.turns stream = [] := h.turns_eq.trans hturns
  rw [waiting, SendQueue.parcels_of_cons h.queue, waiting, SendQueue.parcels_eq_of_turns hturns',
    SendQueue.parcels_eq_of_turns hturns', h.parcelsBut_congr]

/-- The stream's own parcel waits no longer. -/
theorem waiting_of_done (h : Move m stream turn events m')
    (hdone : m'.parcel? stream = none ∨ m'.queue.turns stream = []) :
    m'.waiting = m.waiting.filter (·.stream != stream) := by
  rw [filter_waiting, ← h.parcelsBut_eq]
  rcases hdone with hnone | hturns
  · exact SendQueue.parcels_eq_of_none hnone
  · exact SendQueue.parcels_eq_of_turns hturns

/-- The stream's own parcel makes way for another, behind those of the other streams. -/
theorem waiting_of_rejoin (h : Move m stream .rejoin events m')
    (hturns : (m.queue.turns stream).tail = []) :
    m'.waiting = m.waiting.filter (·.stream != stream) ++ (m'.parcel? stream).toList := by
  have hqueue : m'.queue = (m.queue.remove stream).enqueue stream 0 := h.queue
  have hremoved : (m.queue.remove stream).turns stream = [] := by
    rw [SendQueue.turns_remove, hturns]
  have hentries : (m.queue.remove stream).entries.filter (·.stream != stream) =
      m.queue.entries.filter (·.stream != stream) := by
    have hleave : Turn.leave.Changes stream m.queue (m.queue.remove stream) := rfl
    exact hleave.entries_of_ne
  rw [waiting, hqueue, SendQueue.parcels_enqueue, SendQueue.parcels_eq_of_turns hremoved,
    h.parcelsBut_congr, filter_waiting, SendQueue.parcelsBut, hentries]
  rfl

/-! ### Moves keep the order -/

theorem fate?_of_own (h : Move m stream turn events m')
    (hown : ∀ p, m.parcel? stream = some p → fate? p events = none) :
    ∀ p ∈ m.waiting, fate? p events = none := by
  intro p hp
  by_cases hstream : p.stream = stream
  · exact hown p (hstream ▸ (mem_waiting hp).1)
  · exact h.step.fate?_elsewhere hstream

theorem survivors_of_cancelled (h : Move m stream turn events m')
    (hown : ∀ p, m.parcel? stream = some p → fate? p events = some .cancelled) :
    survivors events m.waiting = (m.waiting.filter (·.stream != stream)).map (·, none) := by
  apply StreamLink.survivors_of_cancelled
  · intro p hp
    exact h.step.fate?_elsewhere hp
  · intro p hp hstream
    exact hown p (hstream ▸ (mem_waiting hp).1)

/-- When a Reset is taken on, the stream's own parcel is cancelled. -/
theorem survivors_of_reset (h : Move m stream turn events m') {early late : List Event}
    (hevents : events = early ++ [.accepted .reset stream []] ++ late) (hsent : sentIn early = []) :
    survivors events m.waiting = (m.waiting.filter (·.stream != stream)).map (·, none) := by
  apply h.survivors_of_cancelled
  intro p hp
  have hcancelled : (Event.accepted .reset stream []).fate? p = some .cancelled :=
    if_pos (stream_of_parcel? hp).symm
  have hearly : fate? p (early ++ [.accepted .reset stream []]) = some .cancelled :=
    fate?_eq_cancelled (by simp [hsent]) ⟨_, by simp, hcancelled⟩
  rw [hevents, fate?_append, hearly]
  rfl

/-- The stream's own parcel is neither sent nor cancelled, and nothing is taken on. -/
theorem inOrder_of_quiet (h : Move m stream .keep events m')
    (hsame : m'.parcel? stream = m.parcel? stream)
    (hown : ∀ p, m.parcel? stream = some p → fate? p events = none)
    (hsent : sentIn events = []) (hkept : keptIn events = []) :
    InOrder m.waiting events m'.waiting := by
  rw [h.waiting_of_keep hsame]
  exact .of_quiet (h.fate?_of_own hown) hsent hkept

/-- A parcel is taken on and sent at once, since none waits. -/
theorem inOrder_of_bypass (h : Move m stream .bypass events m')
    (hkept : keptIn events = (sentIn events).map (·, some .sent)) :
    InOrder m.waiting events m'.waiting := by
  obtain ⟨hentries, hqueue⟩ : m.queue.entries = [] ∧ m'.queue = m.queue := h.queue
  have hempty : m.waiting = [] := by rw [waiting, SendQueue.parcels, hentries, List.filterMap_nil]
  have hempty' : m'.waiting = [] := by
    rw [waiting, SendQueue.parcels, hqueue, hentries, List.filterMap_nil]
  rw [InOrder, hempty, hempty', hkept, List.map_nil, List.append_nil]
  rfl

/-- A parcel is taken on and waits. -/
theorem inOrder_of_join {n : Nat} {p : Parcel} (h : Move m stream (.join n) events m')
    (hturns : m.queue.turns stream = []) (hparcel : m'.parcel? stream = some p)
    (hsent : sentIn events = []) (hkept : keptIn events = [(p, none)]) :
    InOrder m.waiting events m'.waiting := by
  rw [h.waiting_of_join hturns, hparcel]
  refine .of_joined (fun p hp => ?_) hsent hkept
  exact h.step.fate?_elsewhere (stream_ne_of_mem_waiting hturns hp)

/-- The stream's own parcel is cancelled. -/
theorem inOrder_of_cancelled (h : Move m stream turn events m')
    (hown : ∀ p, m.parcel? stream = some p → fate? p events = some .cancelled)
    (hdone : m'.parcel? stream = none ∨ m'.queue.turns stream = [])
    (hsent : sentIn events = []) (hkept : keptIn events = []) :
    InOrder m.waiting events m'.waiting := by
  rw [InOrder, h.survivors_of_cancelled hown, h.waiting_of_done hdone, hsent, hkept,
    List.append_nil]
  rfl

/-- The stream's own parcel is cancelled as its socket goes. -/
theorem inOrder_of_retired (h : Move m stream turn events m') (hretired : .retired stream ∈ events)
    (hdone : m'.parcel? stream = none) (hsent : sentIn events = []) (hkept : parcelsIn events = []) :
    InOrder m.waiting events m'.waiting := by
  refine h.inOrder_of_cancelled (fun p hp => ?_) (.inl hdone) hsent (by rw [keptIn, hkept]; rfl)
  exact fate?_eq_cancelled hsent ⟨_, hretired, if_pos (stream_of_parcel? hp).symm⟩

/-- The stream's turn comes, and its parcel is sent. -/
theorem inOrder_of_serve {n : Nat} {p : Parcel} (h : Move m stream (.serve n) events m')
    (hturns : (m.queue.turns stream).tail = []) (hparcel : m.parcel? stream = some p)
    (hfate : fate? p events = some .sent) (hsent : sentIn events = [p])
    (hkept : keptIn events = []) : InOrder m.waiting events m'.waiting := by
  have hturns' : m'.queue.turns stream = [] := h.turns_eq.trans hturns
  rw [h.waiting_of_serve hturns, hparcel]
  refine .of_served (fun p' hp' => ?_) hfate hsent hkept
  exact h.step.fate?_elsewhere (stream_ne_of_mem_waiting hturns' hp')

/-- Among agreeing streams every move without a second turn keeps the order. -/
theorem inOrder (h : Move m stream turn events m')
    (hagrees : Agrees (m.sockets.get? stream) (m.queue.turns stream))
    (hsingle : ∀ other, .doubled other ∉ events) : InOrder m.waiting events m'.waiting := by
  have hstep := h.step
  have htail := hagrees.tail_eq_nil
  have hparcel : m.parcel? stream = parcelOn? stream (m.sockets.get? stream) := rfl
  have hparcel' : m'.parcel? stream = parcelOn? stream (m'.sockets.get? stream) := rfl
  have hsame : parcelOn? stream (m'.sockets.get? stream) = parcelOn? stream (m.sockets.get? stream) →
      m'.parcel? stream = m.parcel? stream := id
  generalize hs : m.sockets.get? stream = s? at hstep hagrees hparcel hsame
  generalize hs' : m'.sockets.get? stream = s?' at hstep hparcel' hsame
  generalize hturns : m.queue.turns stream = turns at hstep hagrees
  -- The stream has no turn yet when it is put last without getting a second one.
  have hfirst (hagain : .doubled stream ∉ again stream turns) : m.queue.turns stream = [] :=
    hturns.trans (eq_nil_of_again hagain)
  -- What is received changes nothing in what is sent.
  have hlike {s s' : Socket} (heq : s? = some s) (heq' : s?' = some s') (hlike : s'.SendsLike s) :
      m'.parcel? stream = m.parcel? stream := by
    subst heq heq'
    exact hsame (hlike.parcelOn? stream)
  cases hstep with
  | idle | refuse | garble => exact h.inOrder_of_quiet (hsame rfl) (fun _ _ => rfl) rfl rfl
  | ignore hf hunheeding =>
      refine h.inOrder_of_quiet (hsame rfl) (fun p hp => ?_) rfl rfl
      rw [hparcel] at hp
      cases s? with
      | none => contradiction
      | some s => rw [fate?_cons, hagrees.fate?_unheeded (hunheeding s rfl) hp]; rfl
  | openNow | writeNow | endNow => exact h.inOrder_of_bypass (by simp [keptIn, Kept])
  | openLater hr _ =>
      refine h.inOrder_of_join (hfirst fun hmem => hsingle _ (List.mem_append_right _ hmem))
        (hparcel'.trans (parcelOn?_connect rfl)) (by simp) ?_
      simp [keptIn, Kept, hr, Command.payload]
  | readChunk _ _ _ _ hpop _ =>
      obtain ⟨_, _, rfl⟩ := Socket.exists_of_popChunk? hpop
      exact h.inOrder_of_quiet (hlike rfl rfl (.received ..)) (fun _ _ => rfl) rfl rfl
  | readEnd | readWait =>
      exact h.inOrder_of_quiet (hlike rfl rfl (.received ..)) (fun _ _ => rfl) rfl rfl
  | writeLater hr _ hfree _ =>
      have hconnect := (Socket.writeConflicts_eq_false_iff.mp hfree).1
      refine h.inOrder_of_join (hfirst fun hmem => hsingle _ (List.mem_append_right _ hmem))
        (hparcel'.trans (parcelOn?_write hconnect rfl hr)) (by simp) ?_
      simp [keptIn, Kept]
  | endLater hr _ hfree =>
      have hconnect := (Socket.writeConflicts_eq_false_iff.mp hfree).1
      refine h.inOrder_of_join (hfirst fun hmem => hsingle _ (List.mem_append_right _ hmem))
        (hparcel'.trans (parcelOn?_end hconnect rfl (by simp [hr]))) (by simp) ?_
      simp [keptIn, Kept]
  | connected hf hkind hpayload hopen hconnect =>
      obtain ⟨hsending, hwrite, -⟩ := hagrees.of_connect hconnect
      have hidle := hparcel'.trans (parcelOn?_idle rfl hwrite hsending.owes)
      refine h.inOrder_of_cancelled (fun p hp => ?_) (.inl hidle) ?_ ?_
      · rw [hparcel, parcelOn?_connect hconnect] at hp
        obtain rfl := Option.some.inj hp
        simp [hf, Frame.isAnswer, hkind, hpayload]
      · split <;> simp
      · split <;> simp [keptIn]
  | rejected =>
      refine h.inOrder_of_retired (by simp) hparcel' ?_ ?_
      · split <;> simp
      · split <;> simp [parcelsIn_append_of_eq_nil]
  | dataRead _ hkind | dataKept _ hkind | endRead _ hkind | endKept _ hkind =>
      refine h.inOrder_of_quiet (hlike rfl rfl (.received ..)) (fun p _ => ?_) rfl rfl
      exact fate?_received_cons hkind (by decide) p _
  | closeQuietly =>
      refine h.inOrder_of_retired (by simp) hparcel' (by simp) ?_
      simp [parcelsIn_append_of_eq_nil]
  | closeNow =>
      have hdone := h.waiting_of_done (.inl hparcel')
      have hentries : m'.queue.entries = [] := h.queue.2
      have hempty : m'.waiting = [] := by rw [waiting, SendQueue.parcels, hentries]; rfl
      rw [InOrder, h.survivors_of_reset (List.append_cons ..) (by simp), ← hdone, hempty]
      simp [keptIn, Kept, parcelsIn_append_of_eq_nil]
  | closeLater =>
      rw [InOrder, h.survivors_of_reset rfl (by simp), h.waiting_of_rejoin htail, hparcel',
        parcelOn?_reset rfl rfl rfl]
      simp [keptIn, Kept, parcelsIn_append_of_eq_nil]
  | serveConnect hconnect he =>
      obtain rfl := hagrees.sent_connect (hturns ▸ h.queue.fits) hconnect he
      exact h.inOrder_of_serve htail (hparcel.trans (parcelOn?_connect hconnect)) (by simp) rfl rfl
  | serveWrite hconnect hwrite hr he =>
      obtain rfl := hagrees.sent_write (hturns ▸ h.queue.fits) hwrite hr he
      exact h.inOrder_of_serve htail (hparcel.trans (parcelOn?_write hconnect hwrite hr)) (by simp) rfl
        rfl
  | serveEnd hconnect hwrite hr =>
      exact h.inOrder_of_serve htail (hparcel.trans (parcelOn?_end hconnect hwrite hr)) (by simp) rfl
        rfl
  | serveReset hconnect hwrite howes =>
      exact h.inOrder_of_serve htail (hparcel.trans (parcelOn?_reset hconnect hwrite howes)) (by simp)
        rfl rfl
  | serveIdle hconnect hwrite howes =>
      have hidle := hparcel.trans (parcelOn?_idle hconnect hwrite howes)
      have hsame : m.waiting = m'.waiting := by simpa [hidle] using h.waiting_of_serve htail
      rw [hsame]
      exact .of_quiet (fun _ _ => rfl) rfl rfl
  | serveStray =>
      cases hagrees
      exact absurd h.queue.fits (by simp [Turn.Fits, hturns])

end Move

end Multiplexer

end StreamLink
