import StreamLink.Proofs.Agreement
import StreamLink.Proofs.Conservation
import StreamLink.Proofs.LifeOrder

/-!
# Records

A chronicle is a record of every stream: each of its lives is in order, only the last one may go on,
and it goes on exactly while the stream has a socket. A step of one stream adds to the record of that
stream, and leaves the others as they are.
-/

namespace StreamLink

/-- What a chronicle tells of a stream: its lives are in order, only the last may go on, and nothing
was sent between them. -/
inductive Records (stream : UInt8) (turns : List Nat) (chronicle : List Event) :
    Option Socket → Prop
  | retired (hpast : ∀ life ∈ livesOn stream chronicle, life.retired = true ∧ life.Orderly stream)
      (hpackets : packetsOn stream chronicle =
        (livesOn stream chronicle).flatMap fun life => packetsOn stream life.events) :
      Records stream turns chronicle none
  | living {past : List Life} {life : Life} {s : Socket} {service : Bytes}
      {connects : List (PacketKind × Bytes)} {written : List Bytes}
      (hlives : livesOn stream chronicle = past ++ [life])
      (hpast : ∀ life ∈ past, life.retired = true ∧ life.Orderly stream)
      (hpackets : packetsOn stream chronicle =
        (livesOn stream chronicle).flatMap fun life => packetsOn stream life.events)
      (hlife : life.Tracks stream s turns service connects written) :
      Records stream turns chronicle (some s)

section Records

variable {stream : UInt8} {turns turns' : List Nat} {chronicle events : List Event}

/-- A life that goes on tells of the stream's socket. -/
theorem Records.of_ongoing {s? : Option Socket} (h : Records stream turns chronicle s?) {life : Life}
    (hmem : life ∈ livesOn stream chronicle) (hongoing : life.retired = false) :
    ∃ s service connects written, s? = some s ∧
      life.Tracks stream s turns service connects written := by
  cases h with
  | retired hpast =>
      rw [(hpast life hmem).1] at hongoing
      contradiction
  | living hlives hpast _ hlife =>
      rw [hlives] at hmem
      rcases List.mem_append.mp hmem with hmem | hmem
      · rw [(hpast life hmem).1] at hongoing
        contradiction
      · obtain rfl := List.mem_singleton.mp hmem
        exact ⟨_, _, _, _, rfl, hlife⟩

/-- Between its lives a stream stays as it is. -/
theorem Records.of_retired (h : Records stream turns chronicle none)
    (hquiet : events.any (Event.bounds stream) = false) (hpackets : packetsOn stream events = []) :
    Records stream turns' (chronicle ++ events) none := by
  cases h with
  | retired hpast hall =>
      have hlives := livesOn_append_quiet (fun life hlife => (hpast life hlife).1) hquiet
      refine .retired (hlives ▸ hpast) ?_
      rw [packetsOn_append, hpackets, List.append_nil, hlives, hall]

/-- A life begins. -/
theorem Records.of_opened (h : Records stream turns chronicle none) {r : Request} {s : Socket}
    {service : Bytes} {connects : List (PacketKind × Bytes)} {written : List Bytes}
    (hquiet : events.any (Event.bounds stream) = false)
    (hlife : Life.Tracks ⟨r, events, false⟩ stream s turns' service connects written) :
    Records stream turns' (chronicle ++ .submitted r :: .opened stream r :: events) (some s) := by
  cases h with
  | retired hpast hall =>
      have hlives := livesOn_append_opened (fun life hlife => (hpast life hlife).1) hquiet r
      refine .living hlives hpast ?_ hlife
      rw [packetsOn_append, hall, hlives, List.flatMap_append]
      simp

/-- A life goes on. -/
theorem Records.of_tracks {past : List Life} {life : Life} {s : Socket} {service : Bytes}
    {connects : List (PacketKind × Bytes)} {written : List Bytes}
    (hlives : livesOn stream chronicle = past ++ [life])
    (hpast : ∀ life ∈ past, life.retired = true ∧ life.Orderly stream)
    (hpackets : packetsOn stream chronicle =
      (livesOn stream chronicle).flatMap fun life => packetsOn stream life.events)
    (hongoing : life.retired = false) (hquiet : events.any (Event.bounds stream) = false)
    (hlife : Life.Tracks { life with events := life.events ++ events } stream s turns' service
      connects written) : Records stream turns' (chronicle ++ events) (some s) := by
  have hlives' := livesOn_append_ongoing hlives (fun life hlife => (hpast life hlife).1) hongoing
    hquiet
  refine .living hlives' hpast ?_ hlife
  rw [packetsOn_append, hpackets, hlives, hlives']
  simp

/-- A life ends. -/
theorem Records.of_orderly {past : List Life} {life : Life}
    (hlives : livesOn stream chronicle = past ++ [life])
    (hpast : ∀ life ∈ past, life.retired = true ∧ life.Orderly stream)
    (hpackets : packetsOn stream chronicle =
      (livesOn stream chronicle).flatMap fun life => packetsOn stream life.events)
    (hongoing : life.retired = false) (hquiet : events.any (Event.bounds stream) = false)
    (hlife : Life.Orderly { life with events := life.events ++ events, retired := true } stream) :
    Records stream turns' (chronicle ++ (events ++ [.retired stream])) none := by
  have hlives' := livesOn_append_retired hlives (fun life hlife => (hpast life hlife).1) hongoing
    hquiet
  refine .retired ?_ ?_
  · rw [hlives']
    intro life' hmem
    rcases List.mem_append.mp hmem with hmem | hmem
    · exact hpast life' hmem
    · rw [List.mem_singleton.mp hmem]
      exact ⟨rfl, hlife⟩
  · rw [packetsOn_append, hpackets, hlives, hlives']
    simp

end Records

theorem fulfilledAt_refused {r : Request} {status : Status} (h : r.RefusedWith status)
    (address : Address) :
    fulfilledAt address [.submitted r, .answered r (.ofStatus status)] = [] := by
  simp [Completion.ofStatus, h.ne_ok]

section Step

variable {stream : UInt8} {s s' : Socket} {turns : List Nat} {turn : Turn} {events : List Event}
  {life : Life} {service : Bytes} {connects : List (PacketKind × Bytes)} {written : List Bytes}

theorem SocketStep.tracks (h : SocketStep stream (some s) turns turn events (some s'))
    (hagrees : Agrees (some s) turns) (hfits : turn.Fits turns) (htidy : s.Tidy)
    (hlife : life.Tracks stream s turns service connects written) :
    ∃ connects written, Life.Tracks { life with events := life.events ++ events } stream s'
      (turn.after turns) service connects written := by
  -- Nothing is sent, and what the turns depend on stays as it is.
  have hquiet {events : List Event} {s' : Socket} (hlike : s'.SendsLike s)
      (hpackets : packetsOn stream events = []) (hfulfilled : fulfilledAt s.address events = []) :
      ∃ connects written, Life.Tracks { life with events := life.events ++ events } stream s'
        turns service connects written := by
    refine ⟨connects, written, hlife.keep hpackets hfulfilled hlike.address hlike.closed hlike.sent
      hlike.connect ?_⟩
    rw [hlike.write]
    intro hnone _
    exact ⟨hnone, rfl⟩
  cases h with
  | idle => exact hquiet (.refl s) rfl rfl
  | refuse hr => exact hquiet (.refl s) rfl (fulfilledAt_refused hr _)
  | ignore => exact hquiet (.refl s) rfl rfl
  | garble => exact hquiet (.refl s) rfl rfl
  | readChunk hr _ _ _ hpop _ =>
      obtain ⟨_, _, rfl⟩ := Socket.exists_of_popChunk? hpop
      exact hquiet (.received ..) rfl (by simp [hr])
  | readEnd => exact hquiet (.received ..) rfl (by simp [Completion.ofStatus])
  | readWait => exact hquiet (.received ..) rfl rfl
  | @writeNow _ _ _ data hr hopen hfree _ =>
      obtain rfl : turns = [] := hfits
      obtain ⟨hconnect, -, hcaller⟩ := Socket.writeConflicts_eq_false_iff.mp hfree
      have hsent := (hagrees.sending hopen.2).eosSent_eq_false hcaller
      refine ⟨connects, written ++ [data], hlife.send hopen.2 hconnect ?_ ?_ rfl hconnect⟩
      · simp [Completion.written, hopen.1, hr]
      · rw [hlife.fulfilled, hsent]
        simp [Completion.written, hopen.1, hr]
  | writeLater =>
      refine ⟨connects, written, hlife.keep (by simp) (by simp) rfl rfl rfl rfl ?_⟩
      intro hnone
      contradiction
  | endNow hr hopen hfree =>
      obtain rfl : turns = [] := hfits
      obtain ⟨hconnect, -, hcaller⟩ := Socket.writeConflicts_eq_false_iff.mp hfree
      have hsent := (hagrees.sending hopen.2).eosSent_eq_false hcaller
      refine ⟨connects, written, hlife.send hopen.2 hconnect ?_ ?_ rfl hconnect⟩
      · simp [Completion.ofStatus, hopen.1, hr]
      · rw [hlife.fulfilled, hsent]
        simp [Completion.ofStatus, hopen.1, hr]
  | endLater =>
      refine ⟨connects, written, hlife.keep (by simp) (by simp) rfl rfl rfl rfl ?_⟩
      intro hnone
      contradiction
  | connected hf hkind hpayload hopen hconnect =>
      obtain ⟨rfl, -⟩ := hlife.pending _ hconnect
      refine ⟨connects, written, hlife.quiet ?_ ?_ rfl rfl ?_ ?_ ?_⟩
      · split <;> simp
      · split <;> simp [hlife.request]
      · intro _ hr
        contradiction
      · intro _ _
        exact .inr ⟨by simp, _, by simp, hf, hkind, hpayload⟩
      · intro hopen hnone _
        exact ⟨hopen, hnone, rfl⟩
  | dataRead _ _ _ hread _ =>
      obtain ⟨_, hr⟩ := htidy.reading _ hread
      exact hquiet (.received ..) rfl (by simp [hr])
  | dataKept => exact hquiet (.received ..) rfl rfl
  | endRead => exact hquiet (.received ..) rfl (by simp [Completion.ofStatus])
  | endKept => exact hquiet (.received ..) rfl rfl
  | closeLater =>
      refine ⟨connects, written, hlife.quiet (by simp) (by simp) rfl rfl ?_ ?_ ?_⟩
      · intro _ hr
        contradiction
      · intro hopen
        contradiction
      · intro hopen
        contradiction
  | serveConnect hconnect he =>
      obtain ⟨hsending, hwrite, -⟩ := hagrees.of_connect hconnect
      rw [hagrees.sent_connect hfits hconnect he, Turn.after, hagrees.tail_eq_nil]
      refine ⟨_, _, hlife.sendConnect hsending.closed hconnect hwrite ?_⟩
      rintro rfl
      contradiction
  | @serveWrite _ _ _ _ data _ hconnect hwrite hr he =>
      obtain ⟨hsending, -, -, hcaller⟩ := hagrees.of_write hwrite hr
      have haddress := htidy.addressed _ (Socket.mem_parked.mpr (.inr (.inr hwrite)))
      have hsent := hsending.eosSent_eq_false hcaller
      rw [hagrees.sent_write hfits hwrite hr he, Turn.after, hagrees.tail_eq_nil]
      refine ⟨connects, written ++ [data], hlife.send hsending.closed hconnect ?_ ?_ rfl hconnect⟩
      · simp [Completion.written, haddress, hr]
      · rw [hlife.fulfilled, hsent]
        simp [Completion.written, haddress, hr]
  | serveEnd hconnect hwrite hr =>
      obtain ⟨hsending, -, hr, -, -, hsent⟩ := hagrees.of_end hwrite hr
      have haddress := htidy.addressed _ (Socket.mem_parked.mpr (.inr (.inr hwrite)))
      rw [Turn.after, hagrees.tail_eq_nil]
      refine ⟨connects, written, hlife.send hsending.closed hconnect ?_ ?_ rfl hconnect⟩
      · simp [Completion.ofStatus, haddress, hr]
      · rw [hlife.fulfilled, hsent]
        simp [Completion.ofStatus, haddress, hr]
  | serveIdle =>
      rw [Turn.after, hagrees.tail_eq_nil]
      refine ⟨connects, written, hlife.keep rfl rfl rfl rfl rfl rfl ?_⟩
      intro _ hturns
      exact absurd rfl hturns

/-- When a stream loses its socket, its life ends in order. -/
theorem SocketStep.orderly_over (h : SocketStep stream (some s) turns turn events none)
    (hlife : life.Tracks stream s turns service connects written) :
    ∃ rest, events = rest ++ [.retired stream] ∧ rest.any (Event.bounds stream) = false ∧
      Life.Orderly { life with events := life.events ++ rest, retired := true } stream := by
  cases h with
  | rejected _ _ hconnect =>
      obtain ⟨rfl, -⟩ := hlife.pending _ hconnect
      refine ⟨_, rfl, ?_, hlife.orderly_over ?_ (.inl ?_)⟩
      · split <;> simp
      · split <;> simp [hlife.request]
      · split <;> simp
  | closeQuietly =>
      exact ⟨_, rfl, by simp, hlife.orderly_over (by simp) (.inl (by simp))⟩
  | @closeNow _ _ f? =>
      refine ⟨(f?.map Event.received).toList ++ s.farewell turns ++
        [.accepted .reset stream [], .sent .reset stream []], by simp, by simp, ?_⟩
      exact hlife.orderly_over (by simp) (.inr ⟨by simp, by simp⟩)
  | serveReset =>
      exact ⟨[.sent .reset stream []], rfl, rfl, hlife.orderly_over rfl (.inr ⟨by simp, rfl⟩)⟩

/-- Every step keeps the records of its stream. -/
theorem SocketStep.records {s? s?' : Option Socket} {chronicle : List Event}
    (h : SocketStep stream s? turns turn events s?') (hagrees : Agrees s? turns)
    (hfits : turn.Fits turns) (htidy : ∀ s ∈ s?, s.Tidy)
    (hrecords : Records stream turns chronicle s?) :
    Records stream (turn.after turns) (chronicle ++ events) s?' := by
  cases hrecords with
  | retired hpast hpackets =>
      have hrecords : Records stream turns chronicle none := .retired hpast hpackets
      cases h with
      | idle => exact hrecords.of_retired rfl rfl
      | refuse => exact hrecords.of_retired rfl rfl
      | ignore => exact hrecords.of_retired rfl rfl
      | garble => exact hrecords.of_retired rfl rfl
      | openNow hr _ =>
          obtain rfl : turns = [] := hfits
          apply hrecords.of_opened rfl
          exact Life.tracks_opening hr (.inr rfl) (by simp) (fun _ => rfl) (absurd rfl)
      | openLater hr _ =>
          cases hagrees
          apply hrecords.of_opened rfl
          exact Life.tracks_opening hr (.inl rfl) rfl (fun _ => rfl) fun _ => ⟨rfl, rfl⟩
      | serveStray => exact hrecords.of_retired rfl rfl
  | living hlives hpast hpackets hlife =>
      cases s?' with
      | some s' =>
          obtain ⟨connects, written, hlife'⟩ := h.tracks hagrees hfits (htidy _ rfl) hlife
          exact .of_tracks hlives hpast hpackets hlife.ongoing h.any_bounds hlife'
      | none =>
          obtain ⟨rest, rfl, hquiet, horderly⟩ := h.orderly_over hlife
          exact .of_orderly hlives hpast hpackets hlife.ongoing hquiet horderly

end Step

/-! ### The other streams -/

section Elsewhere

variable {stream other : UInt8} {s? s?' : Option Socket} {turns : List Nat} {turn : Turn}
  {events : List Event}

theorem SocketStep.packetsOn_elsewhere (h : SocketStep stream s? turns turn events s?')
    (hother : stream ≠ other) : packetsOn other events = [] := by
  cases h with
  | connected | rejected => split <;> simp
  | serveConnect _ he | serveWrite _ _ _ he => rcases he with rfl | ⟨rfl, -⟩ <;> simp [hother]
  | _ => simp [hother]

theorem SocketStep.fulfilledAt_elsewhere (h : SocketStep stream s? turns turn events s?')
    (htidy : ∀ s ∈ s?, s.Tidy) {address : Address} (haddress : ∀ s ∈ s?, s.address ≠ address) :
    fulfilledAt address events = [] := by
  rw [fulfilledAt, List.filterMap_eq_nil_iff]
  intro e he
  cases e with
  | answered r c =>
      refine if_neg ?_
      rintro ⟨heq, hok⟩
      obtain ⟨s, hs, hs'⟩ := h.address_of_ok htidy he hok
      exact haddress s hs (hs'.trans heq)
  | _ => rfl

/-- What is done elsewhere changes nothing for a stream. -/
theorem Records.of_elsewhere {chronicle : List Event} (h : Records stream turns chronicle s?)
    (hquiet : events.any (Event.bounds stream) = false) (hpackets : packetsOn stream events = [])
    (hfulfilled : ∀ s ∈ s?, fulfilledAt s.address events = []) :
    Records stream turns (chronicle ++ events) s? := by
  cases h with
  | retired hpast hall =>
      have hrecords : Records stream turns chronicle none := .retired hpast hall
      exact hrecords.of_retired hquiet hpackets
  | living hlives hpast hall hlife =>
      have hlife' := hlife.quiet hpackets (hfulfilled _ rfl) rfl rfl (fun _ h => h)
        (fun hopen hnone => .inl ⟨hopen, hnone⟩) fun hopen hnone _ => ⟨hopen, hnone, rfl⟩
      exact .of_tracks hlives hpast hall hlife.ongoing hquiet hlife'

end Elsewhere

/-! ### Runs -/

namespace Multiplexer

variable {m m' : Multiplexer}

/-- The chronicle tells of every stream. -/
structure Recorded (m : Multiplexer) : Prop where
  agreeing : m.Agreeing
  balanced : m.Balanced
  records : ∀ stream,
    Records stream (m.queue.turns stream) m.chronicle (m.sockets.get? stream)

theorem Recorded.move {stream : UInt8} {turn : Turn} {events : List Event} (h : m.Recorded)
    (hmove : Move m stream turn events m') (hsingle : ∀ other, .doubled other ∉ events) :
    m'.Recorded where
  agreeing := h.agreeing.move hmove hsingle
  balanced := h.balanced.move hmove
  records := by
    intro other
    have hdistinct := h.agreeing.distinct
    have htidy := h.balanced.tidy stream
    rw [hmove.chronicle_eq]
    by_cases hother : other = stream
    · subst hother
      rw [hmove.turns_eq]
      exact hmove.step.records (h.agreeing.streams other) hmove.queue.fits htidy (h.records other)
    · rw [hmove.turns_of_ne hother, hmove.get?_of_ne hother]
      have hne : stream ≠ other := Ne.symm hother
      refine (h.records other).of_elsewhere (hmove.step.any_bounds_elsewhere hne)
        (hmove.step.packetsOn_elsewhere hne) fun s hs => ?_
      exact hmove.step.fulfilledAt_elsewhere htidy fun s' hs' => hdistinct.address_ne hne hs' hs

theorem recorded_fresh (config : Config) : (fresh config).Recorded where
  agreeing := agreeing_fresh config
  balanced := balanced_fresh config
  records := by
    intro stream
    refine .retired ?_ rfl
    intro life hlife
    contradiction

theorem Recorded.leads {rs : List Request} (h : m.Recorded) (hleads : Leads m rs m')
    (hsingle : ∀ other, .doubled other ∉ m'.chronicle) : m'.Recorded := by
  induction hleads with
  | refl => exact h
  | tail _ hmove ih =>
      rw [hmove.chronicle_eq] at hsingle
      have hbefore := ih fun other hmem => hsingle other (List.mem_append_left _ hmem)
      exact hbefore.move hmove fun other hmem => hsingle other (List.mem_append_right _ hmem)

theorem recorded_run {config : Config} {operations : List Operation}
    (hsingle : ∀ other, .doubled other ∉ (run config operations).chronicle) :
    (run config operations).Recorded :=
  (recorded_fresh config).leads (leads_run config operations) hsingle

end Multiplexer

end StreamLink
