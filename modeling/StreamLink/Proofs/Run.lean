import Mathlib.Data.List.Induction
import StreamLink.Proofs.Conduct

/-!
# Runs

Whatever can happen to a host's end between its creation and some moment: its owners hand in requests
and close sockets, it polls, and the peer does what it likes with its ends of the two rings. A run is
a sequence of such operations from a fresh state, in any order.
-/

namespace StreamLink

/-- One thing that happens to a host's end. -/
inductive Operation
  /-- A request is handed in. -/
  | submit (request : Request)
  /-- The peer stores bytes in the ring that the host reads, whatever they are and whether or not
  they fit. -/
  | publish (bytes : Bytes)
  /-- The peer takes the next packet. -/
  | take
  /-- The peer moves its reading position on, by as much as it likes. -/
  | release (length : Nat)
  /-- The host takes in and sends what it can. -/
  | poll
  /-- A socket is closed. -/
  | close (stream : UInt8) (emitReset : Bool)
deriving Repr, DecidableEq, Inhabited

/-- The request that an operation hands in. -/
def Operation.request? : Operation → Option Request
  | submit r => some r
  | _ => none

/-- The requests that the operations hand in, in order. -/
def submissions (operations : List Operation) : List Request :=
  operations.filterMap Operation.request?

theorem submissions_cons (operation : Operation) (operations : List Operation) :
    submissions (operation :: operations) =
      operation.request?.toList ++ submissions operations := by
  cases operation <;> rfl

namespace Multiplexer

def apply (m : Multiplexer) : Operation → Multiplexer
  | .submit r => m.submit r
  | .publish bytes => { m with inbound := m.inbound.publish bytes }
  | .take => { m with outbound := m.outbound.takePacket.2 }
  | .release length => { m with outbound := m.outbound.consume length }
  | .poll => m.poll.2
  | .close stream emitReset => m.close stream emitReset

/-- The state after a run. -/
def run (config : Config) (operations : List Operation) : Multiplexer :=
  operations.foldl apply (.fresh config)

/-- What was done so far, oldest first. -/
def chronicle (m : Multiplexer) : List Event :=
  m.history.reverse

theorem run_append (config : Config) (first second : List Operation) :
    run config (first ++ second) = second.foldl apply (run config first) :=
  List.foldl_append

theorem Move.chronicle_eq {m m' : Multiplexer} {stream : UInt8} {turn : Turn}
    {events : List Event} (h : Move m stream turn events m') :
    m'.chronicle = m.chronicle ++ events := by
  rw [chronicle, h.history, List.reverse_append, List.reverse_reverse]
  rfl

theorem Leads.submissionsIn_chronicle {m m' : Multiplexer} {rs : List Request}
    (h : Leads m rs m') :
    submissionsIn m'.chronicle = submissionsIn m.chronicle ++ rs := by
  induction h with
  | refl => exact (List.append_nil _).symm
  | tail _ hmove ih =>
      rw [hmove.chronicle_eq, submissionsIn_append, ih, List.append_assoc]

/-- Nothing is ever struck from the chronicle. -/
theorem Leads.chronicle_isPrefix {m m' : Multiplexer} {rs : List Request} (h : Leads m rs m') :
    m.chronicle <+: m'.chronicle := by
  induction h with
  | refl => exact List.prefix_rfl
  | tail _ hmove ih =>
      rw [hmove.chronicle_eq]
      exact ih.trans (List.prefix_append _ _)

/-- The chronicle tells of what came from outside. -/
theorem Proceeds.occasionsIn_chronicle {m m' : Multiplexer} {occasions : List Event}
    (h : Proceeds m occasions m') :
    occasionsIn m'.chronicle = occasionsIn m.chronicle ++ occasions := by
  induction h with
  | refl => exact (List.append_nil _).symm
  | tail _ hmove _ _ ih => rw [hmove.chronicle_eq, occasionsIn_append, ih, List.append_assoc]

theorem leads_apply {m : Multiplexer} (h : m.sockets.Distinct) (operation : Operation) :
    Leads m operation.request?.toList (m.apply operation) := by
  have hrings {m' : Multiplexer} (hsockets : m'.sockets = m.sockets) (hqueue : m'.queue = m.queue)
      (hhistory : m'.history = m.history) : Leads m [] m' := by
    have hmove : Move m 0 .keep [] m' := .of_rings h hsockets hqueue hhistory
    exact .of_quiet hmove rfl
  cases operation with
  | submit r => exact (submits_submit h r).leads
  | publish bytes => exact hrings rfl rfl rfl
  | take => exact hrings rfl rfl rfl
  | release length => exact hrings rfl rfl rfl
  | poll => exact leads_poll h
  | close stream emitReset => exact leads_close h stream emitReset

theorem config_apply {m : Multiplexer} (h : m.sockets.Distinct) (operation : Operation) :
    (m.apply operation).config = m.config := by
  cases operation with
  | submit r => exact (undertakes_submit h r).conducts.proceeds.config
  | poll =>
      obtain ⟨_, -, hpoll⟩ := exists_conducts_poll h
      exact hpoll.proceeds.config
  | close stream emitReset => exact config_close h stream emitReset
  | publish | take | release => rfl

theorem modest_apply {m : Multiplexer} (h : m.sockets.Distinct) (operation : Operation)
    (hm : m.Modest) : (m.apply operation).Modest := by
  cases operation with
  | submit r => exact (undertakes_submit h r).modest hm
  | poll =>
      obtain ⟨_, -, hpoll⟩ := exists_conducts_poll h
      exact hpoll.modest hm
  | close stream emitReset => exact modest_close h stream emitReset hm
  | publish | take | release => exact hm

/-- What is not closed from outside goes on by itself. -/
theorem exists_proceeds_apply {m : Multiplexer} (h : m.sockets.Distinct) (operation : Operation)
    (hclose : ∀ stream emitReset, operation ≠ .close stream emitReset) :
    ∃ occasions, Proceeds m occasions (m.apply operation) := by
  have hrings {m' : Multiplexer} (hsockets : m'.sockets = m.sockets) (hqueue : m'.queue = m.queue)
      (hhistory : m'.history = m.history) (hconfig : m'.config = m.config) :
      ∃ occasions, Proceeds m occasions m' := by
    have hdeed : Deed m 0 .keep [] m' := .of_rings h hsockets hqueue hhistory hconfig
    exact ⟨_, (Conducts.of_deed hdeed rfl).proceeds⟩
  cases operation with
  | submit r => exact ⟨_, (undertakes_submit h r).conducts.proceeds⟩
  | poll =>
      obtain ⟨occasions, -, hpoll⟩ := exists_conducts_poll h
      exact ⟨occasions, hpoll.proceeds⟩
  | close stream emitReset => exact absurd rfl (hclose stream emitReset)
  | publish bytes => exact hrings rfl rfl rfl rfl
  | take => exact hrings rfl rfl rfl rfl
  | release length => exact hrings rfl rfl rfl rfl

@[simp] theorem get?_fresh (config : Config) (stream : UInt8) :
    (fresh config).sockets.get? stream = none := rfl

@[simp] theorem turns_fresh (config : Config) (stream : UInt8) :
    (fresh config).queue.turns stream = [] := rfl

theorem distinct_fresh (config : Config) : (fresh config).sockets.Distinct :=
  SocketTable.distinct_ofLimit _

theorem leads_foldl_apply {m : Multiplexer} (h : m.sockets.Distinct) (operations : List Operation) :
    Leads m (submissions operations) (operations.foldl apply m) := by
  induction operations generalizing m with
  | nil => exact .refl m
  | cons operation operations ih =>
      have hfirst := leads_apply h operation
      rw [submissions_cons]
      exact hfirst.trans (ih (hfirst.distinct h))

theorem leads_run (config : Config) (operations : List Operation) :
    Leads (fresh config) (submissions operations) (run config operations) :=
  leads_foldl_apply (distinct_fresh config) operations

theorem distinct_run (config : Config) (operations : List Operation) :
    (run config operations).sockets.Distinct :=
  (leads_run config operations).distinct (distinct_fresh config)

/-- What every operation keeps is kept. -/
theorem run_induct {p : Multiplexer → Prop} (config : Config) (operations : List Operation)
    (hfresh : p (fresh config))
    (happly : ∀ (m : Multiplexer) (operation : Operation), m.sockets.Distinct →
      operation ∈ operations → p m → p (m.apply operation)) : p (run config operations) := by
  induction operations using List.reverseRecOn with
  | nil => exact hfresh
  | append_singleton operations operation ih =>
      rw [run_append]
      refine happly _ operation (distinct_run config operations) (by simp) (ih ?_)
      intro m operation' h hmem
      exact happly m operation' h (List.mem_append_left _ hmem)

theorem config_run (config : Config) (operations : List Operation) :
    (run config operations).config = config :=
  run_induct (p := fun m => m.config = config) config operations rfl
    fun _ operation h _ hconfig => (config_apply h operation).trans hconfig

/-- Between operations no socket has ended both ways or buffers more than it may. -/
theorem modest_run (config : Config) (operations : List Operation) :
    (run config operations).Modest :=
  run_induct config operations (by simp [Modest]) fun _ operation h _ hm =>
    modest_apply h operation hm

/-- Unless somebody else closes sockets, a run goes on by itself. -/
theorem exists_proceeds_run (config : Config) {operations : List Operation}
    (hclose : ∀ stream emitReset, .close stream emitReset ∉ operations) :
    ∃ occasions, Proceeds (fresh config) occasions (run config operations) := by
  apply run_induct (p := fun m => ∃ occasions, Proceeds (fresh config) occasions m)
  · exact ⟨[], .refl _⟩
  · rintro m operation h hmem ⟨occasions, hbefore⟩
    have hnot : ∀ stream emitReset, operation ≠ .close stream emitReset := by
      rintro stream emitReset rfl
      exact hclose stream emitReset hmem
    obtain ⟨occasions', hnext⟩ := exists_proceeds_apply h operation hnot
    exact ⟨_, hbefore.trans hnext⟩

/-- The chronicle tells of the requests that were handed in. -/
theorem submissionsIn_chronicle_run (config : Config) (operations : List Operation) :
    submissionsIn (run config operations).chronicle = submissions operations :=
  (leads_run config operations).submissionsIn_chronicle

/-- What was done stays in the chronicle. -/
theorem mem_chronicle_run_append {config : Config} {first : List Operation} {e : Event}
    (h : e ∈ (run config first).chronicle) (second : List Operation) :
    e ∈ (run config (first ++ second)).chronicle := by
  rw [run_append]
  exact List.IsPrefix.mem h (leads_foldl_apply (distinct_run config first) second).chronicle_isPrefix

end Multiplexer

end StreamLink
