import StreamLink.Proofs.Interplay
import StreamLink.Proofs.Isolation

/-!
# The end of a worker

A worker ends once nobody is left who could hand in requests, and it finds none when it is asleep.
Until then it wakes for a request or for a signal, whichever it picks, and its line may be closed on
the way. A request is handled when the worker woke for it, or when it drains its inbox after
handling another; either way the oldest is handled first, and none is left behind.

Main statement: `nothing_lost_at_the_end`.
-/

namespace StreamLink

/-! ### Requests on their way -/

/-- The request that the worker was woken by and has not handled yet. -/
def Phase.first? : Phase → Option Request
  | hold first | disable first | release first | handle first => some first
  | _ => none

namespace Interplay

/-- The request that a step hands in. -/
def Step.request? : Step → Option Request
  | post r => some r
  | _ => none

/-- The requests that are not handled yet, oldest first. -/
def waiting (s : Interplay) : List Request :=
  s.phase.first?.toList ++ s.worker.inbox

/-- Whether the multiplexer was handed the oldest of the requests that waited or came in, and the
rest still waits. -/
def Hands (s : Interplay) (posted : List Request) (s' : Interplay) : Prop :=
  ∃ rs, Multiplexer.Leads s.worker.mux rs s'.worker.mux ∧ s.waiting ++ posted = rs ++ s'.waiting

variable {s s' : Interplay} {posted : List Request}

/-- Nothing is handled. -/
theorem Hands.of_same (hmux : s'.worker.mux = s.worker.mux)
    (hwaiting : s'.waiting = s.waiting ++ posted) : s.Hands posted s' := by
  refine ⟨[], ?_, hwaiting.symm⟩
  rw [hmux]
  exact .refl _

/-- Nothing is handed in, and nothing is handled. -/
theorem Hands.of_leads (hleads : Multiplexer.Leads s.worker.mux [] s'.worker.mux)
    (hwaiting : s'.waiting = s.waiting) : s.Hands [] s' :=
  ⟨[], hleads, by rw [hwaiting, List.append_nil, List.nil_append]⟩

theorem leads_receiveOne {m : Multiplexer} (h : m.sockets.Distinct) :
    Multiplexer.Leads m [] m.receiveOne := by
  have hquiet : submissionsIn [m.arrival] = [] := by
    unfold Multiplexer.arrival
    split <;> rfl
  rw [← hquiet]
  exact (Multiplexer.conducts_receiveOne h).proceeds.leads

/-- The peer moves the rings and rings the doorbell. -/
theorem Hands.of_link (h : s.worker.mux.sockets.Distinct)
    (hsockets : s'.worker.mux.sockets = s.worker.mux.sockets)
    (hqueue : s'.worker.mux.queue = s.worker.mux.queue)
    (hhistory : s'.worker.mux.history = s.worker.mux.history)
    (hwaiting : s'.waiting = s.waiting) : s.Hands [] s' := by
  have hmove : Multiplexer.Move s.worker.mux 0 .keep [] s'.worker.mux :=
    .of_rings h hsockets hqueue hhistory
  exact .of_leads (.of_quiet hmove rfl) hwaiting

theorem hands_work (h : s.worker.mux.sockets.Distinct) : s.Hands [] s.work := by
  cases hphase : s.phase with
  | handle first =>
      refine ⟨[first], ?_, ?_⟩
      · simp only [work, hphase]
        exact (Multiplexer.submits_submit h first).leads
      · simp [waiting, work, hphase, Phase.first?]
  | handleNext =>
      cases hinbox : s.worker.inbox with
      | nil =>
          apply Hands.of_same
          · simp only [work, hphase, hinbox]
          · simp [waiting, work, hphase, hinbox, Phase.first?]
      | cons r rest =>
          refine ⟨[r], ?_, ?_⟩
          · simp only [work, hphase, hinbox]
            exact (Multiplexer.submits_submit h r).leads
          · simp [waiting, work, hphase, hinbox, Phase.first?]
  | receive worked =>
      simp only [work, hphase]
      split
      · exact .of_same rfl (by simp [waiting, hphase, Phase.first?])
      · exact .of_leads (leads_receiveOne h) (by simp [waiting, hphase, Phase.first?])
  | send worked =>
      simp only [work, hphase]
      split
      next hserve =>
        have hleads := (Multiplexer.conducts_serveFront h hserve).proceeds.leads
        exact .of_leads hleads (by simp [waiting, hphase, Phase.first?])
      · cases worked <;> exact .of_same rfl (by simp [waiting, hphase, Phase.first?])
  | judge moved =>
      apply Hands.of_same
      · simp only [work, hphase]
      · simp only [waiting, work, hphase, List.append_nil]
        split <;> rfl
  | announce moved =>
      simp only [work, hphase]
      split <;> exact .of_same rfl (by simp [waiting, hphase, Phase.first?, Worker.write])
  | unmask armed =>
      apply Hands.of_same
      · simp only [work, hphase]
        rfl
      · cases armed <;> simp [waiting, work, hphase, Phase.first?, Worker.unmask]
  | _ =>
      apply Hands.of_same
      · simp only [work, hphase] <;> rfl
      · simp [waiting, work, hphase, Phase.first?, Worker.mask, Worker.unmask, Worker.write,
          Worker.read]

/-- Whatever step is taken, the requests keep their order and none is lost. -/
theorem hands_step (h : s.worker.mux.sockets.Distinct) (e : Step) :
    s.Hands e.request?.toList (s.step e) := by
  cases e with
  | work => exact hands_work h
  | wakeForRequest =>
      unfold step
      dsimp only
      split
      next hsleep hinbox =>
        exact .of_same rfl (by simp [waiting, wake, hsleep, hinbox, Phase.first?, Step.request?])
      · exact .of_same rfl (by simp [Step.request?])
  | wakeForSignal =>
      unfold step
      dsimp only
      split
      next hraised =>
        exact .of_same rfl (by simp [waiting, wake, hraised.1, Phase.first?, Step.request?])
      · exact .of_same rfl (by simp [Step.request?])
  | post r => exact .of_same rfl (by simp [waiting, step, Worker.post, Step.request?])
  | append bytes => exact .of_link h rfl rfl rfl rfl
  | take =>
      unfold step
      dsimp only
      split
      · exact .of_same rfl (by simp [Step.request?])
      · exact .of_link h rfl rfl rfl rfl
  | release length => exact .of_link h rfl rfl rfl rfl
  | signal | collect => exact .of_link h rfl rfl rfl rfl
  | wait =>
      unfold step Link.wait
      dsimp only
      split <;> exact .of_link h rfl rfl rfl rfl

/-! ### The worker comes to rest -/

/-- Whether the worker goes to sleep if it is left alone. -/
def Rests (s : Interplay) : Prop :=
  ∃ s', s.Works s' ∧ s'.phase = .sleep

theorem Rests.of_works (hworks : s.Works s') (h : s'.Rests) : s.Rests := by
  obtain ⟨s'', hrest, hsleep⟩ := h
  exact ⟨s'', hworks.trans hrest, hsleep⟩

theorem Rests.of_work (h : s.work.Rests) : s.Rests :=
  h.of_works (.single rfl)

theorem rests_of_asleep (hsleep : s.phase = .sleep) : s.Rests :=
  ⟨s, .refl, hsleep⟩

section

variable (s : Interplay) (w : Worker)

theorem rests_settle : (s.about w (.receive false)).Rests :=
  ⟨_, s.works_settle w, rfl⟩

theorem rests_unmask (armed : Bool) : (s.about w (.unmask armed)).Rests := by
  apply Rests.of_work
  cases armed with
  | true => exact rests_of_asleep rfl
  | false => exact s.rests_settle w.unmask

theorem rests_enable (armed : HostSignals) (moved : PeerSignals) :
    (s.about w (.enable armed moved)).Rests :=
  .of_work (.of_work (s.rests_unmask _ true))

theorem rests_judge (moved : PeerSignals) : (s.about w (.judge moved)).Rests := by
  apply Rests.of_work
  unfold work about
  dsimp only
  split
  · exact s.rests_unmask w false
  · exact s.rests_enable w _ moved

theorem rests_mask (moved : PeerSignals) : (s.about w (.mask moved)).Rests :=
  .of_work (.of_work (s.rests_judge _ moved))

theorem rests_send (worked : Bool) : (s.about w (.send worked)).Rests := by
  refine .of_works (s.works_send w w.mux worked) ?_
  split
  · exact s.rests_settle _
  · exact s.rests_mask _ _

theorem rests_receive (worked : Bool) : (s.about w (.receive worked)).Rests :=
  .of_works (s.works_receive w w.mux worked) (s.rests_send _ _)

theorem rests_handleNext : (s.about w .handleNext).Rests :=
  .of_works (s.works_handleNext w w.mux w.inbox) (s.rests_settle _)

theorem rests_handle (first : Request) : (s.about w (.handle first)).Rests :=
  .of_work (s.rests_handleNext _)

theorem rests_hold (first : Request) : (s.about w (.hold first)).Rests :=
  .of_work (.of_work (.of_work (s.rests_handle _ first)))

/-- A worker that is left alone goes to sleep, whatever it is about to do. -/
theorem rests : s.Rests := by
  change (s.about s.worker s.phase).Rests
  generalize s.worker = w
  cases s.phase with
  | sleep => exact rests_of_asleep rfl
  | hold first => exact s.rests_hold w first
  | disable first => exact .of_work (.of_work (s.rests_handle _ first))
  | release first => exact .of_work (s.rests_handle _ first)
  | handle first => exact s.rests_handle w first
  | handleNext => exact s.rests_handleNext w
  | receive worked => exact s.rests_receive w worked
  | send worked => exact s.rests_send w worked
  | mask moved => exact s.rests_mask w moved
  | clear moved => exact .of_work (s.rests_judge _ moved)
  | judge moved => exact s.rests_judge w moved
  | enable armed moved => exact s.rests_enable w armed moved
  | announce moved => exact .of_work (s.rests_unmask _ true)
  | unmask armed => exact s.rests_unmask w armed

end

end Interplay

/-! ### What becomes of a request -/

namespace Multiplexer

/-- Whether a request was answered once, or waits once: on the open socket that it was meant for. -/
def Settled (m : Multiplexer) (r : Request) : Prop :=
  ((answersIn m.chronicle).count r = 1 ∧ r ∉ m.parked) ∨
  (r ∉ answersIn m.chronicle ∧ m.parked.count r = 1 ∧
    ∃ s ∈ m.sockets.sockets, s.address = r.address ∧ s.flags.closed = false ∧ r ∈ s.parked)

theorem Balanced.settled {m : Multiplexer} (h : m.Balanced)
    (hnodup : (submissionsIn m.chronicle).Nodup) {r : Request}
    (hr : r ∈ submissionsIn m.chronicle) : m.Settled r := by
  have honce : (answersIn m.chronicle).count r + m.parked.count r = 1 := by
    rw [← List.count_append, ← h.perm.count_eq, List.count_eq_one_of_mem hnodup hr]
  by_cases hwaits : r ∈ m.parked
  · have hwaitsOnce := List.count_pos_iff.mpr hwaits
    obtain ⟨s, hs, hparked⟩ := List.mem_flatMap.mp hwaits
    have htidy := h.tidy s.stream s (h.distinct.get?_eq_some hs)
    refine .inr ⟨?_, by omega, s, hs, (htidy.addressed r hparked).symm, ?_, hparked⟩
    · rw [← List.count_eq_zero]
      omega
    · by_contra hclosed
      rw [htidy.closed (by simpa using hclosed)] at hparked
      contradiction
  · have hnowhere := List.count_eq_zero.mpr hwaits
    exact .inl ⟨by omega, hwaits⟩

end Multiplexer

/-! ### A whole life -/

/-- The line on which the worker is signalled. -/
inductive LineState
  | attached
  /-- Nobody can raise it any more; and whether a signal still waits on it. -/
  | closed (signal : Bool)
  /-- The worker found it closed, and looks at it no more. -/
  | forgotten
deriving Repr, DecidableEq, Inhabited

/-- A worker and those around it, from its start to its end. -/
structure Shift where
  play : Interplay := {}
  line : LineState := .attached
  /-- Whether anybody is left who can hand in requests. -/
  staffed : Bool := true
  ended : Bool := false
deriving Repr, DecidableEq

/-- What may happen next. -/
inductive Happening
  | step (step : Interplay.Step)
  | lastClientLeaves
  | lineCloses
  /-- The worker wakes for the signal that waits on the closed line. -/
  | wakeForLastSignal
  /-- The worker, asleep, finds the line closed. -/
  | forgetLine
  /-- The worker, asleep, finds no request and nobody who could hand one in. -/
  | leave
deriving Repr, DecidableEq, Inhabited

/-- The request that is handed in, if anybody is left to do so. -/
def Happening.request? : Happening → Option Request
  | step e => e.request?
  | _ => none

/-- The requests that were handed in before the last client left. -/
def handedIn : List Happening → List Request
  | [] => []
  | .lastClientLeaves :: _ => []
  | e :: rest => e.request?.toList ++ handedIn rest

namespace Shift

/-- A worker that starts on a fresh link. -/
def start (config : Config) (bell : Doorbell) : Shift :=
  { play := { worker := { mux := .fresh config, bell } } }

/-- What happens while the worker has not ended. What cannot happen changes nothing. -/
def proceed (s : Shift) : Happening → Shift
  | .step e =>
    if e.request?.isSome ∧ s.staffed = false then s else { s with play := s.play.step e }
  | .lastClientLeaves => { s with staffed := false }
  | .lineCloses =>
    let w := s.play.worker
    let bell := { w.bell with hostLine := w.bell.hostLine.hangUp }
    if s.line = .attached then
      { s with
        play := { s.play with worker := { w with bell } }
        line := .closed w.bell.hostLine.isRaised }
    else s
  | .wakeForLastSignal =>
    if s.play.phase = .sleep ∧ s.line = .closed true then
      { s with play := s.play.wake s.play.worker (.receive false), line := .closed false }
    else s
  | .forgetLine =>
    if s.play.phase = .sleep ∧ s.line = .closed false then { s with line := .forgotten } else s
  | .leave =>
    if s.play.phase = .sleep ∧ s.play.worker.inbox = [] ∧ s.staffed = false then
      { s with ended := true }
    else s

/-- What happens next. Nothing does once the worker has ended. -/
def happen (s : Shift) (e : Happening) : Shift :=
  if s.ended then s else s.proceed e

def run (config : Config) (bell : Doorbell) (schedule : List Happening) : Shift :=
  schedule.foldl happen (start config bell)

/-- The multiplexer, which is given back at the end. -/
def mux (s : Shift) : Multiplexer :=
  s.play.worker.mux

/-- Whether these are the requests that were handed in so far: those that the multiplexer was
handed, and those that wait. At the end none waits. -/
structure Accounted (s : Shift) (rs : List Request) : Prop where
  balanced : s.mux.Balanced
  requests : submissionsIn s.mux.chronicle ++ s.play.waiting = rs
  finished : s.ended = true → s.staffed = false ∧ s.play.waiting = []

namespace Accounted

variable {s s' : Shift} {rs : List Request}

theorem start (config : Config) (bell : Doorbell) : (Shift.start config bell).Accounted [] where
  balanced := Multiplexer.balanced_fresh config
  requests := rfl
  finished := nofun

/-- The interplay goes on, and the worker has not ended. -/
theorem of_hands (h : s.Accounted rs) {posted : List Request} (hands : s.play.Hands posted s'.play)
    (hgoing : s'.ended = false) : s'.Accounted (rs ++ posted) := by
  obtain ⟨handled, hleads, hwaiting⟩ := hands
  refine ⟨h.balanced.leads hleads, ?_, fun hended => ?_⟩
  · rw [mux, hleads.submissionsIn_chronicle, List.append_assoc, ← hwaiting, ← List.append_assoc,
      ← h.requests]
    rfl
  · rw [hgoing] at hended
    contradiction

/-- Nothing happens to the requests. -/
theorem of_quiet (h : s.Accounted rs) (hmux : s'.mux = s.mux)
    (hwaiting : s'.play.waiting = s.play.waiting)
    (hover : s'.ended = true → s'.staffed = false ∧ s'.play.waiting = []) : s'.Accounted rs where
  balanced := by
    rw [hmux]
    exact h.balanced
  requests := by
    rw [hmux, hwaiting]
    exact h.requests
  finished := hover

/-- What happens hands in a request or none. -/
theorem proceed (h : s.Accounted rs) (hgoing : s.ended = false) (e : Happening) :
    (s.proceed e).Accounted (rs ++ if s.staffed then e.request?.toList else []) := by
  have hnot {s' : Shift} (hsame : s'.ended = s.ended) :
      s'.ended = true → s'.staffed = false ∧ s'.play.waiting = [] := by
    rw [hsame, hgoing]
    exact nofun
  have hnone {s' : Shift} (h : s'.Accounted rs) :
      s'.Accounted (rs ++ if s.staffed then [] else []) := by
    rwa [ite_self, List.append_nil]
  cases e with
  | step e =>
      unfold Shift.proceed
      dsimp only
      split
      next hlate =>
        rw [hlate.2]
        simpa using h
      next hintime =>
        have hstep : Accounted { s with play := s.play.step e } (rs ++ e.request?.toList) :=
          h.of_hands (Interplay.hands_step h.balanced.distinct e) hgoing
        by_cases hstaffed : s.staffed = true
        · rwa [if_pos hstaffed]
        · have hnothing : e.request? = none := by simpa [hstaffed] using hintime
          rw [hnothing] at hstep
          rwa [if_neg hstaffed]
  | lastClientLeaves => exact hnone (h.of_quiet rfl rfl (hnot rfl))
  | lineCloses =>
      apply hnone
      unfold Shift.proceed
      dsimp only
      split
      · exact h.of_quiet rfl rfl (hnot rfl)
      · exact h
  | wakeForLastSignal =>
      apply hnone
      unfold Shift.proceed
      dsimp only
      split
      next hwakes =>
        refine h.of_quiet rfl ?_ (hnot rfl)
        simp [Interplay.waiting, Interplay.wake, hwakes.1, Phase.first?]
      · exact h
  | forgetLine =>
      apply hnone
      unfold Shift.proceed
      dsimp only
      split
      · exact h.of_quiet rfl rfl (hnot rfl)
      · exact h
  | leave =>
      apply hnone
      unfold Shift.proceed
      dsimp only
      split
      next hleaves =>
        obtain ⟨hsleep, hinbox, hstaffed⟩ := hleaves
        refine h.of_quiet rfl rfl fun _ => ⟨hstaffed, ?_⟩
        simp [Interplay.waiting, hsleep, hinbox, Phase.first?]
      · exact h

theorem happen (h : s.Accounted rs) (e : Happening) :
    (s.happen e).Accounted (rs ++ if s.staffed then e.request?.toList else []) := by
  unfold Shift.happen
  cases hended : s.ended with
  | true =>
      rw [(h.finished hended).1]
      simpa using h
  | false => simpa using h.proceed hended e

end Accounted

/-- Once the last client has left, nobody is left, whether or not the worker had ended. -/
theorem Accounted.unstaffed {s : Shift} {rs : List Request} (h : s.Accounted rs) :
    (s.happen .lastClientLeaves).staffed = false := by
  unfold Shift.happen
  split
  next hended => exact (h.finished hended).1
  · rfl

/-- Nobody else makes the last client leave. -/
theorem staffed_happen (s : Shift) (e : Happening) (h : e ≠ .lastClientLeaves) :
    (s.happen e).staffed = s.staffed := by
  unfold happen
  split
  · rfl
  cases e with
  | lastClientLeaves => contradiction
  | _ =>
      unfold proceed
      dsimp only
      split <;> rfl

/-- The requests that are handed in as long as anybody is left are accounted for. -/
theorem Accounted.foldl_happen {s : Shift} {rs : List Request} (h : s.Accounted rs)
    (schedule : List Happening) : (schedule.foldl Shift.happen s).Accounted
      (rs ++ if s.staffed then handedIn schedule else []) := by
  induction schedule generalizing s rs with
  | nil => simpa [handedIn] using h
  | cons e rest ih =>
      have hrest := ih (h.happen e)
      rw [List.append_assoc] at hrest
      rw [List.foldl_cons]
      by_cases hleaves : e = .lastClientLeaves
      · subst hleaves
        rw [h.unstaffed] at hrest
        simpa [handedIn, Happening.request?] using hrest
      · have hhanded : handedIn (e :: rest) = e.request?.toList ++ handedIn rest := by
          cases e <;> first | rfl | contradiction
        rw [staffed_happen s e hleaves] at hrest
        rw [hhanded]
        by_cases hstaffed : s.staffed = true
        · simpa [hstaffed] using hrest
        · simpa [hstaffed] using hrest

/-! ### The end -/

/-- Whether the second may come of the first. -/
def Permits (s s' : Shift) : Prop :=
  ∃ more : List Happening, more.foldl happen s = s'

namespace Permits

variable {s s' s'' : Shift}

theorem single {e : Happening} (h : s.happen e = s') : s.Permits s' :=
  ⟨[e], h⟩

theorem trans (h : s.Permits s') (h' : s'.Permits s'') : s.Permits s'' := by
  obtain ⟨first, rfl⟩ := h
  obtain ⟨second, rfl⟩ := h'
  exact ⟨first ++ second, List.foldl_append⟩

end Permits

section

variable {s : Shift}

theorem permits_step (hgoing : s.ended = false) (play : Interplay) {e : Interplay.Step}
    (hpost : e.request? = none) : { s with play }.Permits { s with play := play.step e } := by
  refine .single (e := .step e) ?_
  simp [happen, proceed, hgoing, hpost]

/-- What the worker does if it is left alone may happen. -/
theorem permits_of_works (hgoing : s.ended = false) {play play' : Interplay}
    (h : play.Works play') : { s with play }.Permits { s with play := play' } := by
  induction h with
  | refl => exact ⟨[], rfl⟩
  | tail _ hwork ih =>
      rw [← hwork]
      exact ih.trans (permits_step hgoing _ (e := .work) rfl)

theorem permits_leave (hgoing : s.ended = false) (hstaffed : s.staffed = false)
    (hsleep : s.play.phase = .sleep) (hinbox : s.play.worker.inbox = []) :
    s.Permits { s with ended := true } := by
  refine .single (e := .leave) ?_
  simp [happen, proceed, hgoing, hsleep, hinbox, hstaffed]

/-- A worker that sleeps when nobody is left may go on to its end as in its last hour. -/
theorem permits_lastHour (hgoing : s.ended = false) (hstaffed : s.staffed = false)
    (hsleep : s.play.phase = .sleep) :
    ∃ s', s.Permits s' ∧ s'.ended = true ∧ s'.play.worker = s.play.worker.run := by
  cases hinbox : s.play.worker.inbox with
  | nil =>
      have hrun : s.play.worker.run = s.play.worker := by
        rw [Worker.run, dif_pos hinbox]
      exact ⟨_, permits_leave hgoing hstaffed hsleep hinbox, rfl, hrun.symm⟩
  | cons r rest =>
      have hwake : s.Permits { s with play := s.play.step .wakeForRequest } :=
        permits_step hgoing s.play rfl
      have hwork := hwake.trans
        (permits_of_works hgoing (Interplay.works_request hsleep hinbox))
      have hdone := hwork.trans
        (permits_leave hgoing hstaffed rfl (Worker.inbox_process_request _ r))
      have hrun : s.play.worker.run =
          { s.play.worker with inbox := rest }.process (.request r) := by
        rw [Worker.run, dif_neg (by simp [hinbox]), Worker.run, dif_pos (by simp)]
        simp [hinbox]
      exact ⟨_, hdone, rfl, hrun.symm⟩

/-- When nobody is left the worker may come to its end, whatever it is about to do. -/
theorem permits_end (hstaffed : s.staffed = false) : ∃ s', s.Permits s' ∧ s'.ended = true := by
  cases hgoing : s.ended with
  | true => exact ⟨s, ⟨[], rfl⟩, hgoing⟩
  | false =>
      obtain ⟨play, hworks, hsleep⟩ := s.play.rests
      obtain ⟨s', hpermits, hended, -⟩ := permits_lastHour
        (s := { s with play }) hgoing hstaffed hsleep
      exact ⟨s', (permits_of_works hgoing hworks).trans hpermits, hended⟩

end

theorem accounted_run (config : Config) (bell : Doorbell) (schedule : List Happening) :
    (run config bell schedule).Accounted (handedIn schedule) :=
  (Accounted.start config bell).foldl_happen schedule

/-- When the worker has ended, the multiplexer was handed exactly the requests that were handed in,
each once and in order, and each was answered once, or waits once on the open socket that it was
meant for. And once the last client has left the worker can always come to its end. The requests are
told apart by what they are. -/
theorem nothing_lost_at_the_end (config : Config) (bell : Doorbell) (schedule : List Happening) :
    let s := run config bell schedule
    (s.ended = true → submissionsIn s.mux.chronicle = handedIn schedule ∧
      ((handedIn schedule).Nodup → ∀ r ∈ handedIn schedule, s.mux.Settled r)) ∧
    (s.staffed = false → ∃ more, (run config bell (schedule ++ more)).ended = true) := by
  intro s
  have haccounted := accounted_run config bell schedule
  refine ⟨fun hended => ?_, fun hstaffed => ?_⟩
  · have hhanded : submissionsIn s.mux.chronicle = handedIn schedule := by
      rw [← haccounted.requests, (haccounted.finished hended).2, List.append_nil]
    rw [← hhanded]
    exact ⟨rfl, fun hnodup _ hr => haccounted.balanced.settled hnodup hr⟩
  · obtain ⟨_, ⟨more, rfl⟩, hended⟩ := permits_end hstaffed
    refine ⟨more, ?_⟩
    rw [run, List.foldl_append]
    exact hended

/-- The worker wakes for signals while requests wait, drains one request after another, and finds
the line closed before it leaves. -/
theorem nothing_lost_over_a_closed_line :
    let works : List Happening := List.replicate 20 (.step .work)
    let schedule : List Happening := List.flatten [
      [.step (.post ⟨0, ⟨1, 1⟩, .connect [101]⟩), .step .wakeForRequest], works,
      [.step (.append [1, 2, 1, 0]), .step (.signal { inboundTail := true }),
        .step (.post ⟨1, ⟨1, 1⟩, .read 16⟩), .step .wakeForSignal], works,
      [.step .wakeForRequest, .step (.post ⟨2, ⟨1, 1⟩, .write [7]⟩)], works,
      [.step (.append [0, 9, 9]), .step (.signal { inboundTail := true }), .lineCloses,
        .wakeForLastSignal, .lastClientLeaves], works,
      [.forgetLine, .leave]]
    let s := run {} {} schedule
    s.line = .forgotten ∧ s.ended = true ∧ submissionsIn s.mux.chronicle = handedIn schedule ∧
      (∀ r ∈ handedIn schedule, s.mux.Settled r) ∧
      ∃ more, (run {} {} (schedule.dropLast ++ more)).ended = true := by
  intro works schedule s
  have hended : s.ended = true := by decide +kernel
  have hnodup : (handedIn schedule).Nodup := by decide +kernel
  obtain ⟨hhanded, hsettled⟩ := (nothing_lost_at_the_end {} {} schedule).1 hended
  have hstaffed : (run {} {} schedule.dropLast).staffed = false := by decide +kernel
  have hends := (nothing_lost_at_the_end {} {} schedule.dropLast).2 hstaffed
  exact ⟨by decide +kernel, hended, hhanded, hsettled hnodup, hends⟩

end Shift

end StreamLink
