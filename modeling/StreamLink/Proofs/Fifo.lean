import StreamLink.Proofs.ParcelOrder

/-!
# First come, first sent

As long as no stream gets a second turn, there is one order for all streams: parcels are sent in the
order in which they were taken on. None overtakes another on its way to the ring, whether it goes at
once or waits, however long it is, and whichever parcels before it are cancelled. The peer then takes
what was sent, in that order and as it was sent.

Main statement: `fifo_across_streams`.
-/

namespace StreamLink.Multiplexer

variable {m m' : Multiplexer}

/-! ### Parcels on their way to the ring -/

/-- The parcels that were taken on and not cancelled are those that were sent, followed by those that
wait. -/
def Fifo (m : Multiplexer) : Prop :=
  keptIn m.chronicle = (sentIn m.chronicle).map (·, some .sent) ++ m.waiting.map (·, none)

theorem Fifo.move {stream : UInt8} {turn : Turn} {events : List Event} (h : m.Fifo)
    (hagreeing : m.Agreeing) (hmove : Move m stream turn events m')
    (hsingle : ∀ other, .doubled other ∉ events) : m'.Fifo := by
  have hinOrder := hmove.inOrder (hagreeing.streams stream) hsingle
  rw [Fifo, hmove.chronicle_eq]
  exact hinOrder.append h

/-- As long as no stream gets a second turn, the order is kept. -/
theorem Fifo.leads {rs : List Request} (h : m.Fifo) (hagreeing : m.Agreeing)
    (hleads : Leads m rs m') (hsingle : ∀ other, .doubled other ∉ m'.chronicle) : m'.Fifo := by
  induction hleads with
  | refl => exact h
  | tail hleads hmove ih =>
      rw [hmove.chronicle_eq] at hsingle
      have hbefore := fun other hmem => hsingle other (List.mem_append_left _ hmem)
      exact (ih hbefore).move (hagreeing.leads hleads hbefore) hmove fun other hmem =>
        hsingle other (List.mem_append_right _ hmem)

theorem fifo_fresh (config : Config) : (fresh config).Fifo := by
  unfold Fifo
  rfl

theorem fifo_run {config : Config} {operations : List Operation}
    (hsingle : ∀ other, .doubled other ∉ (run config operations).chronicle) :
    (run config operations).Fifo :=
  (fifo_fresh config).leads (agreeing_fresh config) (leads_run config operations) hsingle

/-! ### Parcels on their way to the peer -/

/-- What the peer gets in an operation: the next packet, if it takes one. -/
def handed (m : Multiplexer) : Operation → List (Except Fault Packet)
  | .take => m.outbound.takePacket.1.toList
  | _ => []

/-- What the peer gets in the course of the operations, in order. -/
def handedAll (m : Multiplexer) : List Operation → List (Except Fault Packet)
  | [] => []
  | operation :: operations => m.handed operation ++ (m.apply operation).handedAll operations

/-- Whether the peer has taken these packets of those that were sent, and the ring holds the rest. -/
def Delivers (m : Multiplexer) (taken : List Packet) : Prop :=
  ∃ held, m.outbound.Holds held ∧ sentIn m.chronicle = (taken ++ held).map Packet.parcel

namespace Delivers

variable {taken : List Packet}

theorem fresh (config : Config) : (Multiplexer.fresh config).Delivers [] :=
  ⟨[], Ring.holds_empty, rfl⟩

theorem ships (h : m.Delivers taken) (hships : Ships m m') : m'.Delivers taken := by
  obtain ⟨held, hheld, hsent⟩ := h
  obtain ⟨packets, happends, hsent'⟩ := hships
  have hnext : sentIn m'.chronicle = sentIn m.chronicle ++ packets.map Packet.parcel :=
    filterMap_reverse_of_append hsent'
  refine ⟨held ++ packets, happends.holds hheld, ?_⟩
  rw [hnext, hsent, ← List.map_append, List.append_assoc]

/-- The peer takes the next packet. -/
theorem take (h : m.Delivers taken) : ∃ new : List Packet, m.handed .take = new.map .ok ∧
    (m.apply .take).Delivers (taken ++ new) := by
  obtain ⟨held, hheld, hsent⟩ := h
  have hchronicle : (m.apply .take).chronicle = m.chronicle := rfl
  cases held with
  | nil =>
      refine ⟨[], ?_, [], ?_, by simpa [hchronicle] using hsent⟩
      · rw [handed, hheld.takePacket_nil]
        rfl
      · rwa [apply, hheld.takePacket_nil]
  | cons p held =>
      refine ⟨[p], ?_, held, ?_, by simpa [hchronicle] using hsent⟩
      · rw [handed, hheld.takePacket]
        rfl
      · rw [apply, hheld.takePacket]
        exact hheld.consume

/-- Whatever is done, as long as the peer moves on by whole packets only. -/
theorem apply (h : m.Delivers taken) {operation : Operation}
    (hwhole : ∀ length, operation ≠ .release length) :
    ∃ new : List Packet, m.handed operation = new.map .ok ∧
      (m.apply operation).Delivers (taken ++ new) := by
  have hnone (hships : Ships m (m.apply operation)) :
      (m.apply operation).Delivers (taken ++ []) := by
    rw [List.append_nil]
    exact h.ships hships
  cases operation with
  | submit r => exact ⟨[], rfl, hnone (m.ships_submit r)⟩
  | publish bytes => exact ⟨[], rfl, hnone (.of_same rfl rfl)⟩
  | take => exact h.take
  | release length => exact absurd rfl (hwhole length)
  | poll => exact ⟨[], rfl, hnone m.ships_poll⟩
  | close stream emitReset => exact ⟨[], rfl, hnone (m.ships_close stream emitReset)⟩

theorem applyAll (h : m.Delivers taken) {operations : List Operation}
    (hwhole : ∀ length, .release length ∉ operations) :
    ∃ new : List Packet, m.handedAll operations = new.map .ok ∧
      (operations.foldl Multiplexer.apply m).Delivers (taken ++ new) := by
  induction operations generalizing m taken with
  | nil => exact ⟨[], rfl, by simpa using h⟩
  | cons operation operations ih =>
      obtain ⟨new, hnew, hdelivers⟩ := h.apply fun length heq =>
        hwhole length (heq ▸ List.mem_cons_self)
      obtain ⟨more, hmore, hlast⟩ := ih hdelivers fun length hmem =>
        hwhole length (List.mem_cons_of_mem _ hmem)
      refine ⟨new ++ more, ?_, by simpa using hlast⟩
      rw [handedAll, hnew, hmore, List.map_append]

end Delivers

/-! ### Runs -/

/-- As long as no stream gets a second turn, parcels are sent in the order in which they were taken
on: those that were not cancelled are those that were sent, followed by those that wait, in the order
of their turns. If the peer moves on by whole packets only, it takes what was sent, in that order and
as it was sent, and the ring holds the rest. -/
theorem fifo_across_streams (config : Config) (operations : List Operation)
    (hsingle : ∀ other, .doubled other ∉ (run config operations).chronicle) :
    let m := run config operations
    keptIn m.chronicle = (sentIn m.chronicle).map (·, some .sent) ++ m.waiting.map (·, none) ∧
      ((∀ length, .release length ∉ operations) → ∃ taken held : List Packet,
        (fresh config).handedAll operations = taken.map .ok ∧
          sentIn m.chronicle = (taken ++ held).map Packet.parcel ∧
          m.outbound.contents = held.flatMap Packet.encode) := by
  refine ⟨fifo_run hsingle, fun hwhole => ?_⟩
  obtain ⟨taken, htaken, held, hheld, hsent⟩ := (Delivers.fresh config).applyAll hwhole
  exact ⟨taken, held, htaken, hsent, hheld⟩

/-- Two connects fill the ring. A third waits and is cancelled as its socket is closed, and the Reset
goes after the fourth; a fifth still waits. -/
theorem fifo_across_streams_of_closed_stream :
    let operations := [.submit ⟨0, ⟨1, 1⟩, .connect (List.replicate 100 1)⟩,
      .submit ⟨1, ⟨1, 2⟩, .connect (List.replicate 149 2)⟩, .submit ⟨2, ⟨1, 3⟩, .connect [5]⟩,
      .submit ⟨3, ⟨1, 4⟩, .connect [6]⟩, .close 5 true, .take, .poll,
      .submit ⟨4, ⟨1, 5⟩, .connect (List.replicate 200 7)⟩]
    let m := run {} operations
    (keptIn m.chronicle).map (fun (p, fate) => (p.kind, p.stream, fate)) =
        [(.connect, 1, some .sent), (.connect, 3, some .sent), (.connect, 7, some .sent),
          (.reset, 5, some .sent), (.connect, 9, none)] ∧
      (∀ other, .doubled other ∉ m.chronicle) ∧ (∀ length, .release length ∉ operations) ∧
      keptIn m.chronicle = (sentIn m.chronicle).map (·, some .sent) ++ m.waiting.map (·, none) ∧
      ∃ taken held : List Packet, (fresh {}).handedAll operations = taken.map .ok ∧
        sentIn m.chronicle = (taken ++ held).map Packet.parcel ∧
        m.outbound.contents = held.flatMap Packet.encode := by
  intro operations m
  have hsingle : ∀ other, .doubled other ∉ m.chronicle := doubled_not_mem (by decide +kernel)
  have hwhole : ∀ length, .release length ∉ operations := by simp [operations]
  obtain ⟨hfifo, htaken⟩ := fifo_across_streams {} operations hsingle
  exact ⟨by decide +kernel, hsingle, hwhole, hfifo, htaken hwhole⟩

end StreamLink.Multiplexer
