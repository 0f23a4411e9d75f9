import StreamLink.Proofs.Run

/-!
# Conservation of requests

No request is lost and none is answered twice. Counted, the requests that were handed in are those
that were answered and those that wait in a slot: each move of each stream keeps the balance. What
waits, waits on the open socket it was meant for.

Main statement: `completed_once_or_waits_once`.
-/

namespace StreamLink

/-- The request that an event answers. -/
@[simp] def Event.answer? : Event → Option Request
  | answered r _ => some r
  | _ => none

/-- The requests that were answered, in order. -/
def answersIn (events : List Event) : List Request :=
  events.filterMap Event.answer?

@[simp] theorem answersIn_nil : answersIn [] = [] := rfl

@[simp] theorem answersIn_cons (e : Event) (events : List Event) :
    answersIn (e :: events) = e.answer?.toList ++ answersIn events :=
  filterMap_cons_eq e events

@[simp] theorem answersIn_append (first second : List Event) :
    answersIn (first ++ second) = answersIn first ++ answersIn second :=
  List.filterMap_append

@[simp] theorem answersIn_received (frame? : Option Frame) :
    answersIn (frame?.map Event.received).toList = [] :=
  filterMap_received (fun _ => rfl) frame?

@[simp] theorem answersIn_again (stream : UInt8) (turns : List Nat) :
    answersIn (again stream turns) = [] :=
  filterMap_again (fun _ => rfl) stream turns

@[simp] theorem answersIn_farewell (s : Socket) (turns : List Nat) :
    answersIn (s.farewell turns) = s.parked := by
  rw [answersIn, s.filterMap_farewell fun _ => rfl]
  exact List.filterMap_some

/-- The completions that the maker of a request was sent. -/
def completionsFor (number : Nat) (events : List Event) : List Completion :=
  events.filterMap fun
    | .answered r c => if r.number = number then some c else none
    | _ => none

theorem length_completionsFor (number : Nat) (events : List Event) :
    (completionsFor number events).length =
      ((answersIn events).filter (·.number = number)).length := by
  unfold completionsFor
  induction events with
  | nil => rfl
  | cons e events ih =>
      cases e with
      | answered r c =>
          by_cases hnumber : r.number = number
          · simp [hnumber, ih]
          · simp [hnumber, ih]
      | _ => simp [ih]

/-! ### Where requests wait -/

/-- What waits on a socket was meant for it, and nothing waits on a closed one. -/
structure Socket.Tidy (s : Socket) : Prop where
  addressed : ∀ r ∈ s.parked, r.address = s.address
  owing : s.flags.owesReset = true → s.flags.closed = true
  closed : s.flags.closed = true → s.parked = []
  reading : ∀ r ∈ s.pendingRead, ∃ capacity, r.command = .read capacity

/-- Requests may leave their slots, and one that finds the socket open may enter. -/
theorem Socket.Tidy.of_parked {s s' : Socket} (h : s.Tidy) (haddress : s'.address = s.address)
    (hclosed : s'.flags.closed = s.flags.closed) (howes : s'.flags.owesReset = s.flags.owesReset)
    (hparked : ∀ r ∈ s'.parked, r ∈ s.parked ∨ s.OpenFor r)
    (hread : ∀ r ∈ s'.pendingRead, r ∈ s.pendingRead ∨ ∃ capacity, r.command = .read capacity) :
    s'.Tidy where
  addressed := by
    intro r hr
    rw [haddress]
    rcases hparked r hr with hmem | hopen
    · exact h.addressed r hmem
    · exact hopen.1.symm
  owing := by
    rw [hclosed, howes]
    exact h.owing
  closed := by
    rw [hclosed]
    intro hover
    rw [List.eq_nil_iff_forall_not_mem]
    intro r hr
    rcases hparked r hr with hmem | hopen
    · rw [h.closed hover] at hmem
      contradiction
    · rw [hopen.2] at hover
      contradiction
  reading := by
    intro r hr
    rcases hread r hr with hr | hr
    · exact h.reading r hr
    · exact hr

/-- What a socket receives leaves it tidy, and so does a read that finds it open. -/
theorem Socket.Tidy.of_sendsLike {s s' : Socket} (h : s.Tidy) (hlike : s'.SendsLike s)
    (hread : ∀ r ∈ s'.pendingRead,
      r ∈ s.pendingRead ∨ s.OpenFor r ∧ ∃ capacity, r.command = .read capacity) : s'.Tidy := by
  refine h.of_parked hlike.address hlike.closed hlike.owes ?_ ?_
  · intro r hr
    rw [mem_parked, hlike.connect, hlike.write] at hr
    rw [mem_parked]
    rcases hr with hr | hr | hr
    · exact .inl (.inl hr)
    · rcases hread r hr with hr | ⟨hopen, -⟩
      · exact .inl (.inr (.inl hr))
      · exact .inr hopen
    · exact .inl (.inr (.inr hr))
  · intro r hr
    exact (hread r hr).imp_right And.right

theorem Socket.tidy_opening (stream : UInt8) (r : Request) : (opening stream r).Tidy where
  addressed := by
    intro r' hr'
    obtain rfl : r' = r := by simpa [parked, opening] using hr'
    rfl
  owing := by simp [opening]
  closed := by simp [opening]
  reading := by simp [opening]

theorem SocketStep.tidy {stream : UInt8} {s? s?' : Option Socket} {turns : List Nat}
    {turn : Turn} {events : List Event} (h : SocketStep stream s? turns turn events s?')
    (htidy : ∀ s ∈ s?, s.Tidy) : ∀ s ∈ s?', s.Tidy := by
  -- A step that sends keeps the read; one that receives keeps all but the read.
  have hsend {s s' : Socket} (hs : s? = some s) (haddress : s'.address = s.address)
      (hclosed : s'.flags.closed = s.flags.closed)
      (howes : s'.flags.owesReset = s.flags.owesReset) (hread : s'.pendingRead = s.pendingRead)
      (hparked : ∀ r ∈ s'.parked, r ∈ s.parked ∨ s.OpenFor r) : ∀ s ∈ some s', s.Tidy := by
    rintro _ ⟨⟩
    refine (htidy s hs).of_parked haddress hclosed howes hparked ?_
    intro r hr
    rw [hread] at hr
    exact .inl hr
  have hreceive {s s' : Socket} (hs : s? = some s) (hlike : s'.SendsLike s)
      (hread : ∀ r ∈ s'.pendingRead,
        r ∈ s.pendingRead ∨ s.OpenFor r ∧ ∃ capacity, r.command = .read capacity) :
      ∀ s ∈ some s', s.Tidy := by
    rintro _ ⟨⟩
    exact (htidy s hs).of_sendsLike hlike hread
  cases h with
  | idle => exact htidy
  | refuse => exact htidy
  | ignore => exact htidy
  | garble => exact htidy
  | openNow =>
      rintro _ ⟨⟩
      exact Socket.tidy_opening _ _
  | openLater =>
      rintro _ ⟨⟩
      exact Socket.tidy_opening _ _
  | readChunk _ _ _ _ hpop _ =>
      obtain ⟨_, _, rfl⟩ := Socket.exists_of_popChunk? hpop
      exact hreceive rfl (.received ..) fun r hr => .inl hr
  | readEnd => exact hreceive rfl (.received ..) fun r hr => .inl hr
  | readWait hcommand hopen =>
      apply hreceive rfl (.received ..)
      rintro _ ⟨⟩
      exact .inr ⟨hopen, _, hcommand⟩
  | writeNow => exact htidy
  | writeLater _ hopen =>
      refine hsend rfl rfl rfl rfl rfl fun r hr =>
        Or.imp_right ?_ (Socket.mem_parked_of_write hr rfl rfl rfl)
      rintro rfl
      exact hopen
  | endNow => exact hsend rfl rfl rfl rfl rfl fun r hr => .inl hr
  | endLater _ hopen =>
      refine hsend rfl rfl rfl rfl rfl fun r hr =>
        Or.imp_right ?_ (Socket.mem_parked_of_write hr rfl rfl rfl)
      rintro rfl
      exact hopen
  | connected | serveWrite | serveEnd =>
      refine hsend rfl rfl rfl rfl rfl fun r hr => .inl ?_
      rw [Socket.mem_parked] at hr ⊢
      grind
  | dataRead | endRead =>
      apply hreceive rfl (.received ..)
      rintro _ ⟨⟩
  | dataKept => exact hreceive rfl (.received ..) fun r hr => .inl hr
  | endKept => exact hreceive rfl (.received ..) fun r hr => .inl hr
  | rejected => rintro _ ⟨⟩
  | closeQuietly => rintro _ ⟨⟩
  | closeNow => rintro _ ⟨⟩
  | closeLater =>
      rintro _ ⟨⟩
      exact ⟨by simp, fun _ => rfl, fun _ => rfl, fun _ hr => by contradiction⟩
  | serveConnect => exact htidy
  | serveReset => rintro _ ⟨⟩
  | serveIdle => exact htidy
  | serveStray => rintro _ ⟨⟩

/-- Only the connect that waited can wait. -/
theorem SocketStep.mem_pendingConnect {stream : UInt8} {s s' : Socket} {turns : List Nat}
    {turn : Turn} {events : List Event}
    (h : SocketStep stream (some s) turns turn events (some s')) {r : Request}
    (hr : r ∈ s'.pendingConnect) : r ∈ s.pendingConnect := by
  cases h with
  | readChunk _ _ _ _ hpop =>
      obtain ⟨_, _, rfl⟩ := Socket.exists_of_popChunk? hpop
      exact hr
  | connected | closeLater => contradiction
  | _ => exact hr

/-- Only requests for the stream's own socket are answered with success. -/
theorem SocketStep.address_of_ok {stream : UInt8} {s? s?' : Option Socket} {turns : List Nat}
    {turn : Turn} {events : List Event} (h : SocketStep stream s? turns turn events s?')
    (htidy : ∀ s ∈ s?, s.Tidy) {r : Request} {c : Completion} (hmem : .answered r c ∈ events)
    (hok : c.status = .ok) : ∃ s ∈ s?, s.address = r.address := by
  have hparked {s : Socket} (hs : s? = some s) {r : Request} (hr : r ∈ s.parked) :
      ∃ s ∈ s?, s.address = r.address :=
    ⟨s, hs, ((htidy s hs).addressed r hr).symm⟩
  have hfarewell (s : Socket) (turns : List Nat) : .answered r c ∉ s.farewell turns := by
    intro hmem
    rw [Socket.eq_failure_of_mem_farewell hmem] at hok
    exact r.command.resetStatus_ne_ok hok
  cases h with
  | refuse hr =>
      obtain ⟨rfl, rfl⟩ : r = _ ∧ c = _ := by simpa using hmem
      exact absurd hok hr.ne_ok
  | readChunk _ hopen | readEnd _ hopen | writeNow _ hopen | endNow _ hopen =>
      obtain ⟨rfl, -⟩ : r = _ ∧ c = _ := by simpa using hmem
      exact ⟨_, rfl, hopen.1⟩
  | connected _ _ _ _ hconnect =>
      obtain ⟨rfl, -⟩ : r = _ ∧ c = _ := by split at hmem <;> simpa using hmem
      exact hparked rfl (Socket.mem_parked.mpr (.inl hconnect))
  | rejected _ _ hconnect =>
      obtain ⟨rfl, -⟩ : r = _ ∧ c = _ := by split at hmem <;> simpa [hfarewell] using hmem
      exact hparked rfl (Socket.mem_parked.mpr (.inl hconnect))
  | dataRead _ _ _ hread | endRead _ _ _ hread =>
      obtain ⟨rfl, -⟩ : r = _ ∧ c = _ := by simpa using hmem
      exact hparked rfl (Socket.mem_parked.mpr (.inr (.inl hread)))
  | serveConnect _ he => rcases he with rfl | ⟨rfl, -⟩ <;> simp at hmem
  | serveWrite _ hwrite _ he =>
      obtain ⟨rfl, -⟩ : r = _ ∧ c = _ := by rcases he with rfl | ⟨rfl, -⟩ <;> simpa using hmem
      exact hparked rfl (Socket.mem_parked.mpr (.inr (.inr hwrite)))
  | serveEnd _ hwrite _ =>
      obtain ⟨rfl, -⟩ : r = _ ∧ c = _ := by simpa using hmem
      exact hparked rfl (Socket.mem_parked.mpr (.inr (.inr hwrite)))
  | _ => simp [hfarewell] at hmem

/-! ### The balance -/

/-- The requests that wait on a stream. -/
def parkedOn (s? : Option Socket) : List Request :=
  s?.toList.flatMap Socket.parked

theorem Socket.count_parked (s : Socket) (r : Request) : s.parked.count r =
    s.pendingConnect.toList.count r + s.pendingRead.toList.count r +
      s.pendingWrite.toList.count r := by
  rw [parked, List.count_append, List.count_append]

/-- What was handed in or waited before is what was answered or waits afterwards. -/
theorem SocketStep.count_balance {stream : UInt8} {s? s?' : Option Socket} {turns : List Nat}
    {turn : Turn} {events : List Event} (h : SocketStep stream s? turns turn events s?')
    (htidy : ∀ s ∈ s?, s.Tidy) (r : Request) :
    (submissionsIn events).count r + (parkedOn s?).count r =
      (answersIn events).count r + (parkedOn s?').count r := by
  cases h with
  | idle => rfl
  | refuse => simp
  | ignore => simp
  | garble => simp
  | openNow => simp [parkedOn, Socket.count_parked, Socket.opening]
  | openLater => simp [parkedOn, Socket.count_parked, Socket.opening]
  | readChunk _ _ _ _ hpop _ =>
      obtain ⟨_, _, rfl⟩ := Socket.exists_of_popChunk? hpop
      simp [parkedOn, Socket.count_parked]
  | readEnd => simp [parkedOn, Socket.count_parked]
  | readWait _ _ _ hread =>
      simp [parkedOn, Socket.count_parked, hread]
      omega
  | writeNow => simp [parkedOn]
  | writeLater _ _ hfree _ =>
      have hwrite := (Socket.writeConflicts_eq_false_iff.mp hfree).2.1
      simp [parkedOn, Socket.count_parked, hwrite]
      omega
  | endNow => simp [parkedOn, Socket.count_parked]
  | endLater _ _ hfree =>
      have hwrite := (Socket.writeConflicts_eq_false_iff.mp hfree).2.1
      simp [parkedOn, Socket.count_parked, hwrite]
      omega
  | connected _ _ _ _ hconnect =>
      split <;> simp [parkedOn, Socket.count_parked, hconnect, Nat.add_assoc]
  | rejected _ _ hconnect => split <;> simp [parkedOn, Socket.parked, hconnect]
  | dataRead _ _ _ hread _ =>
      simp [parkedOn, Socket.count_parked, hread]
      omega
  | dataKept => simp [parkedOn, Socket.count_parked, Socket.pushChunk]
  | endRead _ _ _ hread =>
      simp [parkedOn, Socket.count_parked, hread]
      omega
  | endKept => simp [parkedOn, Socket.count_parked]
  | closeQuietly => simp [parkedOn]
  | closeNow => simp [parkedOn]
  | closeLater => simp [parkedOn]
  | serveConnect _ he =>
      rcases he with rfl | ⟨rfl, -⟩
      · simp
      · simp
  | serveWrite _ hwrite _ he =>
      rcases he with rfl | ⟨rfl, -⟩
      · simp [parkedOn, Socket.count_parked, hwrite]
        omega
      · simp [parkedOn, Socket.count_parked, hwrite]
        omega
  | serveEnd _ hwrite _ =>
      simp [parkedOn, Socket.count_parked, hwrite]
      omega
  | serveReset _ _ howes =>
      have hs := htidy _ rfl
      simp [parkedOn, hs.closed (hs.owing howes)]
  | serveIdle => simp
  | serveStray => simp [parkedOn]

namespace Multiplexer

/-- The requests that wait. -/
def parked (m : Multiplexer) : List Request :=
  m.sockets.sockets.flatMap Socket.parked

theorem count_parked {m : Multiplexer} (h : m.sockets.Distinct) (stream : UInt8) (r : Request) :
    m.parked.count r = (parkedOn (m.sockets.get? stream)).count r +
      ((m.sockets.others stream).flatMap Socket.parked).count r := by
  have hperm := (h.perm stream).flatMap_right Socket.parked
  rw [parked, hperm.count_eq, List.flatMap_append, List.count_append]
  rfl

/-- The places where a request of that number waits. -/
def places (m : Multiplexer) (number : Nat) : List (Socket × Slot) :=
  m.sockets.sockets.flatMap fun s =>
    ([.connect, .read, .write].filter fun slot => (s.slot slot).any (·.number = number)).map
      fun slot => (s, slot)

theorem mem_places {m : Multiplexer} {number : Nat} {s : Socket} {slot : Slot}
    (h : (s, slot) ∈ m.places number) :
    s ∈ m.sockets.sockets ∧ ∃ r, s.slot slot = some r ∧ r.number = number := by
  unfold places at h
  simp only [List.mem_flatMap, List.mem_map, List.mem_filter, Option.any_eq_true,
    decide_eq_true_eq] at h
  obtain ⟨s, hs, slot, ⟨-, r, hr, hnumber⟩, rfl, rfl⟩ := h
  exact ⟨hs, r, hr, hnumber⟩

theorem length_places (m : Multiplexer) (number : Nat) :
    (m.places number).length = (m.parked.filter (·.number = number)).length := by
  unfold places parked
  induction m.sockets.sockets with
  | nil => rfl
  | cons s rest ih =>
      rw [List.flatMap_cons, List.flatMap_cons, List.length_append, List.filter_append,
        List.length_append, ih, List.length_map]
      congr 1
      cases hconnect : s.pendingConnect <;> cases hread : s.pendingRead <;>
        cases hwrite : s.pendingWrite <;>
        simp [Socket.slot, Socket.parked, hconnect, hread, hwrite, List.filter_cons] <;>
        split_ifs <;> rfl

/-- Nothing is lost so far. -/
structure Balanced (m : Multiplexer) : Prop where
  distinct : m.sockets.Distinct
  tidy : ∀ stream, ∀ s ∈ m.sockets.get? stream, s.Tidy
  perm : (submissionsIn m.chronicle).Perm (answersIn m.chronicle ++ m.parked)

theorem Balanced.move {m m' : Multiplexer} {stream : UInt8} {turn : Turn} {events : List Event}
    (h : m.Balanced) (hmove : Move m stream turn events m') : m'.Balanced where
  distinct := hmove.distinct
  tidy := by
    refine hmove.forall_streams (p := fun _ s? _ => ∀ s ∈ s?, s.Tidy) h.tidy ?_
    exact hmove.step.tidy
  perm := by
    have hbefore := h.perm
    rw [List.perm_iff_count] at hbefore ⊢
    intro r
    have hcount := hbefore r
    have hstep := hmove.step.count_balance (h.tidy stream) r
    rw [List.count_append, count_parked h.distinct stream] at hcount
    rw [hmove.chronicle_eq, submissionsIn_append, answersIn_append, List.count_append,
      List.count_append, List.count_append, count_parked hmove.distinct stream, hmove.others]
    omega

theorem balanced_fresh (config : Config) : (fresh config).Balanced where
  distinct := distinct_fresh config
  tidy := by simp
  perm := .refl _

theorem balanced_run (config : Config) (operations : List Operation) :
    (run config operations).Balanced :=
  (leads_run config operations).induct (balanced_fresh config) fun hmove h => h.move hmove

/-- A number tells its request apart. -/
theorem filter_number {rs : List Request} (h : (rs.map Request.number).Nodup) {r : Request}
    (hr : r ∈ rs) : rs.filter (·.number = r.number) = [r] := by
  induction rs with
  | nil => contradiction
  | cons r' rs ih =>
      rw [List.map_cons, List.nodup_cons, List.mem_map] at h
      rcases List.mem_cons.mp hr with rfl | hr
      · have hrest : rs.filter (·.number = r.number) = [] := by
          rw [List.filter_eq_nil_iff]
          intro r' hr' hnumber
          exact h.1 ⟨r', hr', by simpa using hnumber⟩
        rw [List.filter_cons_of_pos (by simp), hrest]
      · have hne : r'.number ≠ r.number := fun heq => h.1 ⟨r, hr, heq.symm⟩
        rw [List.filter_cons_of_neg (by simpa using hne)]
        exact ih h.2 hr

/-- After a run each request was answered, with one completion, and waits nowhere, or it was not
answered and waits in one place: in a slot of an open socket of its address. The requests are told
apart by their numbers. -/
theorem completed_once_or_waits_once (config : Config) (operations : List Operation)
    (hnumbers : ((submissions operations).map Request.number).Nodup) (r : Request)
    (hr : r ∈ submissions operations) :
    ((∃ c, completionsFor r.number (run config operations).chronicle = [c]) ∧
      (run config operations).places r.number = []) ∨
    (completionsFor r.number (run config operations).chronicle = [] ∧
      ∃ s slot, (run config operations).places r.number = [(s, slot)] ∧
        s ∈ (run config operations).sockets.sockets ∧ s.slot slot = some r ∧
        s.flags.closed = false ∧ s.address = r.address) := by
  obtain ⟨hdistinct, htidy, hperm⟩ := balanced_run config operations
  rw [submissionsIn_chronicle_run] at hperm
  generalize run config operations = m at *
  -- Of that number there is one request, which was answered or waits.
  have hone := hperm.filter (·.number = r.number)
  rw [filter_number hnumbers hr, List.filter_append] at hone
  have hlength := hone.length_eq
  rw [List.length_append, ← length_completionsFor, ← length_places, List.length_singleton]
    at hlength
  rcases Nat.eq_zero_or_pos (m.places r.number).length with hplaces | hplaces
  · left
    exact ⟨List.length_eq_one_iff.mp (by omega), List.length_eq_zero_iff.mp hplaces⟩
  · right
    refine ⟨List.length_eq_zero_iff.mp (by omega), ?_⟩
    have hplaces : (m.places r.number).length = 1 := by omega
    obtain ⟨⟨s, slot⟩, hplace⟩ := List.length_eq_one_iff.mp hplaces
    obtain ⟨hs, r', hslot, hnumber⟩ := mem_places (hplace ▸ List.mem_singleton_self _)
    have hparked := Socket.mem_parked_of_slot hslot
    have hwaits : r' ∈ m.parked := List.mem_flatMap.mpr ⟨s, hs, hparked⟩
    have hr' : r' ∈ [r] := by
      rw [hone.mem_iff, List.mem_append, List.mem_filter, List.mem_filter]
      exact .inr ⟨hwaits, by simpa using hnumber⟩
    obtain rfl := List.mem_singleton.mp hr'
    have hs' := htidy s.stream s (hdistinct.get?_eq_some hs)
    refine ⟨s, slot, hplace, hs, hslot, ?_, (hs'.addressed r' hparked).symm⟩
    by_contra hover
    rw [hs'.closed (by simpa using hover)] at hparked
    contradiction

theorem read_completed_once_or_waits_once :
    let connect : Request := ⟨0, ⟨1, 1⟩, .connect [101]⟩
    let read : Request := ⟨1, ⟨1, 1⟩, .read 16⟩
    let m := run {} [.submit connect, .poll, .publish [1, 1, 1, 0], .poll, .submit read, .poll]
    ((∃ c, completionsFor 1 m.chronicle = [c]) ∧ m.places 1 = []) ∨
    (completionsFor 1 m.chronicle = [] ∧ ∃ s slot, m.places 1 = [(s, slot)] ∧
      s ∈ m.sockets.sockets ∧ s.slot slot = some read ∧ s.flags.closed = false ∧
      s.address = read.address) :=
  completed_once_or_waits_once {} [.submit ⟨0, ⟨1, 1⟩, .connect [101]⟩, .poll,
    .publish [1, 1, 1, 0], .poll, .submit ⟨1, ⟨1, 1⟩, .read 16⟩, .poll]
    (by decide) ⟨1, ⟨1, 1⟩, .read 16⟩ (by decide)

end Multiplexer

end StreamLink
