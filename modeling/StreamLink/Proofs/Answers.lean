import StreamLink.Proofs.Coherence
import StreamLink.Proofs.Conservation

/-!
# Answers

Requests of different commands share slots: a write and the end of a stream wait in the same one,
and whatever waits there and is no write is sent as an end. What waits in a slot is of a command the
slot is for, from the moment it is parked until it is served or given up. So each command is only
ever answered with a status of its own, and a completion carries data or a length only where the
command asked for it.

Main statement: `completions_fit`.
-/

namespace StreamLink

/-- The statuses that a command can end with. -/
def Command.outcomes : Command → List Status
  | connect _ => [.ok, .socketInUse, .connectReset, .connectUnknownService]
  | read _ => [.ok, .readEos, .readReset]
  | write _ => [.ok, .writeReset]
  | eos => [.ok, .eosReset]
  | reset => [.resetOk]

/-- What a completion says beside its status: a read that succeeded hands out a chunk that its
capacity allows, a write that succeeded tells the length of its data, and there is nothing else to
say. -/
def Completion.Carries (c : Completion) (command : Command) : Prop :=
  match c.status, command with
  | .ok, .read capacity => c.length = c.data.length ∧ c.length ≤ capacity
  | .ok, .write data => c.data = [] ∧ c.length = data.length
  | _, _ => c.data = [] ∧ c.length = 0

/-- Whether a completion can be the answer to a command. -/
structure Completion.Suits (c : Completion) (command : Command) : Prop where
  status : c.status ∈ command.outcomes
  carries : c.Carries command

/-! ### The completions that are made -/

theorem Command.resetStatus_mem_outcomes (command : Command) :
    command.resetStatus ∈ command.outcomes := by
  cases command <;> simp [resetStatus, outcomes]

namespace Completion

variable {command : Command} {data : Bytes} {capacity : Nat} {status : Status}

/-- A bare status is an answer unless a successful read or write owes more. -/
theorem suits_ofStatus (hstatus : status ∈ command.outcomes)
    (hread : ∀ capacity, command = .read capacity → status ≠ .ok)
    (hwrite : ∀ data, command = .write data → status ≠ .ok) :
    (ofStatus status).Suits command where
  status := hstatus
  carries := by
    unfold Carries ofStatus
    split
    next hok => exact absurd hok (hread _ rfl)
    next hok => exact absurd hok (hwrite _ rfl)
    next => exact ⟨rfl, rfl⟩

theorem suits_ofStatus_of_ne_ok (hstatus : status ∈ command.outcomes) (hok : status ≠ .ok) :
    (ofStatus status).Suits command :=
  suits_ofStatus hstatus (fun _ _ => hok) fun _ _ => hok

theorem suits_read (hcommand : command = .read capacity) (hfits : data.length ≤ capacity) :
    (read data).Suits command := by
  subst hcommand
  exact ⟨by simp [read, Command.outcomes], rfl, hfits⟩

theorem suits_written (hcommand : command = .write data) :
    (written data.length).Suits command := by
  subst hcommand
  exact ⟨by simp [written, Command.outcomes], rfl, rfl⟩

theorem suits_readEos (hcommand : command = .read capacity) :
    (ofStatus .readEos).Suits command :=
  suits_ofStatus_of_ne_ok (by simp [hcommand, Command.outcomes]) (by simp)

/-- A stream is opened, or refused by the peer. -/
theorem suits_connect {service : Bytes} (hcommand : command = .connect service)
    (hstatus : status ∈ command.outcomes) : (ofStatus status).Suits command :=
  suits_ofStatus hstatus (by simp [hcommand]) (by simp [hcommand])

theorem suits_eos (hcommand : command = .eos) : (ofStatus .ok).Suits command :=
  suits_ofStatus (by simp [hcommand, Command.outcomes]) (by simp [hcommand]) (by simp [hcommand])

end Completion

theorem Request.suits_failure (r : Request) : r.failure.Suits r.command :=
  Completion.suits_ofStatus_of_ne_ok r.command.resetStatus_mem_outcomes r.command.resetStatus_ne_ok

theorem Request.RefusedWith.suits {r : Request} {status : Status} (h : r.RefusedWith status) :
    (Completion.ofStatus status).Suits r.command := by
  rcases h with rfl | ⟨⟨service, hcommand⟩, rfl⟩
  · exact r.suits_failure
  · exact Completion.suits_connect hcommand (by simp [hcommand, Command.outcomes])

/-! ### What one step answers -/

/-- What waits for the peer's answer is a connect. -/
theorem Socket.Coherent.suits_connect {s : Socket} {r : Request} {status : Status} (h : s.Coherent)
    (hconnect : s.pendingConnect = some r)
    (hstatus : ∀ service, status ∈ (Command.connect service).outcomes) :
    (Completion.ofStatus status).Suits r.command := by
  obtain ⟨⟨service, hr⟩, -⟩ := h.connect r hconnect
  exact Completion.suits_connect hr (hr ▸ hstatus service)

/-- Every answer that a step gives suits the command it is given to. -/
theorem SocketStep.suits {stream : UInt8} {s? s?' : Option Socket} {turns : List Nat}
    {turn : Turn} {events : List Event} (h : SocketStep stream s? turns turn events s?')
    (hs : ∀ s ∈ s?, s.Coherent) {r : Request} {c : Completion} (hmem : .answered r c ∈ events) :
    c.Suits r.command := by
  have hfarewell {s : Socket} {turns : List Nat} (hmem : .answered r c ∈ s.farewell turns) :
      c.Suits r.command := by
    rw [Socket.eq_failure_of_mem_farewell hmem]
    exact r.suits_failure
  cases h with
  | refuse hr =>
      obtain ⟨rfl, rfl⟩ : r = _ ∧ c = _ := by simpa using hmem
      exact hr.suits
  | readChunk hr _ _ _ _ hfits =>
      obtain ⟨rfl, rfl⟩ : r = _ ∧ c = _ := by simpa using hmem
      exact Completion.suits_read hr hfits
  | readEnd hr =>
      obtain ⟨rfl, rfl⟩ : r = _ ∧ c = _ := by simpa using hmem
      exact Completion.suits_readEos hr
  | writeNow hr =>
      obtain ⟨rfl, rfl⟩ : r = _ ∧ c = _ := by simpa using hmem
      exact Completion.suits_written hr
  | endNow hr =>
      obtain ⟨rfl, rfl⟩ : r = _ ∧ c = _ := by simpa using hmem
      exact Completion.suits_eos hr
  | connected _ _ _ _ hconnect =>
      obtain ⟨rfl, rfl⟩ : r = _ ∧ c = _ := by split at hmem <;> simpa using hmem
      exact (hs _ rfl).suits_connect hconnect (by simp [Command.outcomes])
  | rejected _ _ hconnect =>
      simp only [List.mem_append] at hmem
      rcases hmem with (((hmem | hmem) | hmem) | hmem) | hmem
      · simp at hmem
      · split at hmem <;> simp at hmem
      · obtain ⟨rfl, rfl⟩ : r = _ ∧ c = _ := by simpa using hmem
        exact (hs _ rfl).suits_connect hconnect (by simp [Command.outcomes])
      · exact hfarewell hmem
      · simp at hmem
  | dataRead _ _ _ hread hfits =>
      obtain ⟨rfl, rfl⟩ : r = _ ∧ c = _ := by simpa using hmem
      obtain ⟨⟨capacity, hr⟩, -⟩ := (hs _ rfl).read _ hread
      rw [hr] at hfits
      exact Completion.suits_read hr hfits
  | endRead _ _ _ hread =>
      obtain ⟨rfl, rfl⟩ : r = _ ∧ c = _ := by simpa using hmem
      obtain ⟨⟨capacity, hr⟩, -⟩ := (hs _ rfl).read _ hread
      exact Completion.suits_readEos hr
  | @closeQuietly s | @closeNow s | @closeLater s =>
      have hmem : .answered r c ∈ s.farewell turns := by simpa using hmem
      exact hfarewell hmem
  | serveConnect _ he => rcases he with rfl | ⟨rfl, -⟩ <;> simp at hmem
  | serveWrite _ _ hr he =>
      obtain ⟨rfl, rfl⟩ : r = _ ∧ c = _ := by rcases he with rfl | ⟨rfl, -⟩ <;> simpa using hmem
      exact Completion.suits_written hr
  | serveEnd _ hwrite hr =>
      obtain ⟨rfl, rfl⟩ : r = _ ∧ c = _ := by simpa using hmem
      exact Completion.suits_eos ((hs _ rfl).eos_of_pendingWrite hwrite hr)
  | _ => simp at hmem

/-! ### Runs -/

namespace Multiplexer

/-- Every resident socket is coherent, and every answer so far suits its command. -/
structure AnswersWell (m : Multiplexer) : Prop where
  coherent : ∀ stream, ∀ s ∈ m.sockets.get? stream, s.Coherent
  suits : ∀ r c, .answered r c ∈ m.chronicle → c.Suits r.command

theorem AnswersWell.move {m m' : Multiplexer} {stream : UInt8} {turn : Turn} {events : List Event}
    (h : m.AnswersWell) (hmove : Move m stream turn events m') : m'.AnswersWell where
  coherent := hmove.coherent h.coherent
  suits := by
    intro r c hmem
    rw [hmove.chronicle_eq, List.mem_append] at hmem
    rcases hmem with hmem | hmem
    · exact h.suits r c hmem
    · exact hmove.step.suits (h.coherent stream) hmem

theorem answersWell_run (config : Config) (operations : List Operation) :
    (run config operations).AnswersWell :=
  (leads_run config operations).induct ⟨by simp, nofun⟩ fun hmove h => h.move hmove

theorem mem_answersIn {r : Request} {c : Completion} {events : List Event}
    (h : .answered r c ∈ events) : r ∈ answersIn events :=
  List.mem_filterMap.mpr ⟨_, h, rfl⟩

/-- Whatever is answered was handed in. -/
theorem mem_submissions_of_answered {config : Config} {operations : List Operation} {r : Request}
    {c : Completion} (h : .answered r c ∈ (run config operations).chronicle) :
    r ∈ submissions operations := by
  rw [← submissionsIn_chronicle_run config operations,
    (balanced_run config operations).perm.mem_iff]
  exact List.mem_append_left _ (mem_answersIn h)

/-- In every run each completion answers a request that was handed in, with a status of its command
and with the data and the length that go with it. -/
theorem completions_fit (config : Config) (operations : List Operation) {r : Request}
    {c : Completion} (h : .answered r c ∈ (run config operations).chronicle) :
    r ∈ submissions operations ∧ c.Suits r.command :=
  ⟨mem_submissions_of_answered h, (answersWell_run config operations).suits r c h⟩

/-- A connect that the peer rejects, a read that takes a chunk, and a write that waits for room. -/
theorem completions_fit_of_late_write :
    let connect : Request := ⟨1, ⟨1, 2⟩, .connect [102]⟩
    let read : Request := ⟨2, ⟨1, 1⟩, .read 16⟩
    let write : Request := ⟨3, ⟨1, 1⟩, .write (.replicate 250 5)⟩
    let operations : List Operation := [.submit ⟨0, ⟨1, 1⟩, .connect [101]⟩, .submit connect, .poll,
      .publish [1, 2, 1, 0, 1, 2, 3, 1, 2, 3, 1, 7, 8], .poll, .submit read, .submit write, .take,
      .take, .poll]
    ∀ answer ∈ [(connect, Completion.ofStatus .connectUnknownService), (read, .read [7, 8]),
        (write, .written 250)],
      .answered answer.1 answer.2 ∈ (run {} operations).chronicle ∧
        answer.1 ∈ submissions operations ∧ answer.2.Suits answer.1.command := by
  intro connect read write operations answer hanswer
  have hmem : ∀ answer ∈ [(connect, Completion.ofStatus .connectUnknownService),
      (read, .read [7, 8]), (write, .written 250)],
      .answered answer.1 answer.2 ∈ (run {} operations).chronicle := by
    decide +kernel
  exact ⟨hmem answer hanswer, completions_fit {} operations (hmem answer hanswer)⟩

end Multiplexer

end StreamLink
