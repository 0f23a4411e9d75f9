import StreamLink.Proofs.Misuse

/-!
# Frames of no use

A frame may come for a stream without a socket, or for one that is given up; it may be of a kind
that only the host sends, or of none; it may answer a connect that does not wait, or say something
else than an answer does. Such a frame is noted and counted, and everything else is as if it had not
come. In particular a connect still waits, and the right answer reaches it later.

Main statements: `useless_frame_leaves_no_trace`, and `counted_iff_useless`: no other frame is
counted as such.
-/

namespace StreamLink

/-- How a frame that is of no use is counted. -/
inductive Waste
  /-- Nobody listens. -/
  | unheard
  /-- The peer does not send such frames. -/
  | unexpected
  /-- It is no answer to any connect. -/
  | unasked
deriving Repr, DecidableEq

def Waste.count (s : Statistics) : Waste → Statistics
  | unheard => s.countDiscarded
  | unexpected => s.countViolation.countDiscarded
  | unasked => s.countViolation

namespace Multiplexer

variable {m m' : Multiplexer} {f : Frame} {waste : Waste} {s : Socket} {stream : UInt8}
  {r : Request}

/-- Whether a frame is of no use to the host's end, and why. -/
inductive Wastes (m : Multiplexer) (f : Frame) : Waste → Prop
  | unknownStream (hget : m.sockets.get? f.stream = none) : Wastes m f .unheard
  | givenUp {s : Socket} (hget : m.sockets.get? f.stream = some s) (hclosed : s.flags.closed = true)
      (hkind : PacketKind.ofCode? f.kind ≠ some .reset) : Wastes m f .unheard
  | connect {s : Socket} (hget : m.sockets.get? f.stream = some s) (hopen : s.flags.closed = false)
      (hkind : PacketKind.ofCode? f.kind = some .connect) : Wastes m f .unexpected
  | unknownKind {s : Socket} (hget : m.sockets.get? f.stream = some s)
      (hopen : s.flags.closed = false) (hkind : PacketKind.ofCode? f.kind = none) :
      Wastes m f .unexpected
  | notPending {s : Socket} (hget : m.sockets.get? f.stream = some s)
      (hopen : s.flags.closed = false) (hkind : PacketKind.ofCode? f.kind = some .connectResponse)
      (hconnect : s.pendingConnect = none) : Wastes m f .unasked
  | notOneByte {s : Socket} (hget : m.sockets.get? f.stream = some s)
      (hopen : s.flags.closed = false) (hkind : PacketKind.ofCode? f.kind = some .connectResponse)
      (hlength : f.payload.length ≠ 1) : Wastes m f .unasked

/-- The sockets decide what is of use. -/
theorem Wastes.congr (h : m.Wastes f waste) (hsockets : m'.sockets = m.sockets) :
    m'.Wastes f waste := by
  cases h with
  | unknownStream hget => exact .unknownStream (hsockets ▸ hget)
  | givenUp hget hclosed hkind => exact .givenUp (hsockets ▸ hget) hclosed hkind
  | connect hget hopen hkind => exact .connect (hsockets ▸ hget) hopen hkind
  | unknownKind hget hopen hkind => exact .unknownKind (hsockets ▸ hget) hopen hkind
  | notPending hget hopen hkind hconnect =>
      exact .notPending (hsockets ▸ hget) hopen hkind hconnect
  | notOneByte hget hopen hkind hlength => exact .notOneByte (hsockets ▸ hget) hopen hkind hlength

/-! ### Nothing happens -/

theorem dispatch_of_none (hget : m.sockets.get? f.stream = none) :
    m.dispatch f = (m.receive f).discard := by
  have hget' : (m.receive f).sockets.get? f.stream = none := hget
  rw [receive] at hget'
  rw [dispatch, hget']
  rfl

theorem dispatch_of_some (hget : m.sockets.get? f.stream = some s) :
    m.dispatch f =
      if PacketKind.ofCode? f.kind = some .reset then (m.receive f).close f.stream false
      else if s.flags.closed = true then (m.receive f).discard
      else (m.receive f).takeFrame s f := by
  have hget' : (m.receive f).sockets.get? f.stream = some s := hget
  rw [receive] at hget'
  rw [dispatch, hget']
  rfl

/-- A frame that does not reset an open stream goes to its socket. -/
theorem dispatch_of_open (hget : m.sockets.get? f.stream = some s)
    (hopen : s.flags.closed = false) (hkind : PacketKind.ofCode? f.kind ≠ some .reset) :
    m.dispatch f = (m.receive f).takeFrame s f := by
  rw [dispatch_of_some hget, if_neg hkind, if_neg (by simp [hopen])]

/-- What has come of frames that were noted and counted, and did nothing else. -/
def noted (m : Multiplexer) (fs : List Frame) (statistics : Statistics) : Multiplexer :=
  { m with statistics := statistics, history := (fs.map Event.received).reverse ++ m.history }

theorem dispatch_of_wastes (h : m.Wastes f waste) :
    m.dispatch f =
      m.noted [f] (waste.count (m.statistics.countReceived f.payload.length)) := by
  cases h with
  | unknownStream hget => exact dispatch_of_none hget
  | givenUp hget hclosed hkind =>
      rw [dispatch_of_some hget, if_neg hkind, if_pos hclosed]
      rfl
  | connect hget hopen hkind =>
      rw [dispatch_of_open hget hopen (by simp [hkind]), takeFrame, hkind]
      rfl
  | unknownKind hget hopen hkind =>
      rw [dispatch_of_open hget hopen (by simp [hkind]), takeFrame, hkind]
      rfl
  | notPending hget hopen hkind hconnect =>
      rw [dispatch_of_open hget hopen (by simp [hkind]), takeFrame, hkind]
      dsimp only
      unfold takeConnectResponse
      rw [hconnect]
      rfl
  | notOneByte hget hopen hkind hlength =>
      rw [dispatch_of_open hget hopen (by simp [hkind]), takeFrame, hkind]
      dsimp only
      unfold takeConnectResponse
      split
      next hpayload => simp [hpayload] at hlength
      next => rfl

/-- One frame of no use after the other: none changes what the others are. -/
theorem exists_noted (fs : List Frame) (h : ∀ f ∈ fs, ∃ waste, m.Wastes f waste) :
    ∃ statistics, fs.foldl dispatch m = m.noted fs statistics := by
  induction fs generalizing m with
  | nil => exact ⟨m.statistics, rfl⟩
  | cons f fs ih =>
      obtain ⟨waste, hfirst⟩ := h f List.mem_cons_self
      have hnoted := dispatch_of_wastes hfirst
      have hrest : ∀ g ∈ fs, ∃ waste, (m.dispatch f).Wastes g waste := by
        intro g hg
        obtain ⟨waste, hwastes⟩ := h g (List.mem_cons_of_mem f hg)
        exact ⟨waste, hwastes.congr (by rw [hnoted]; rfl)⟩
      obtain ⟨statistics, hlast⟩ := ih hrest
      refine ⟨statistics, ?_⟩
      rw [List.foldl_cons, hlast, hnoted]
      simp [noted]

/-! ### The right answer -/

/-- Whether a connect is answered as the result says: it is told so, and nobody else is; or it is
told that there is no such service, what else waits on the socket fails, and the socket is gone. -/
def ConnectAnswered (m : Multiplexer) (s : Socket) (r : Request) (result : UInt8)
    (m' : Multiplexer) : Prop :=
  ∃ events, m'.chronicle = m.chronicle ++ events ∧
    if result = connectAccepted then
      completionsIn events = [(r, .ofStatus .ok)] ∧
        m'.sockets = m.sockets.modify s.stream ({ · with pendingConnect := none })
    else
      completionsIn events = (r, .ofStatus .connectUnknownService) ::
          { s with pendingConnect := none }.parked.map (fun q => (q, q.failure)) ∧
        m'.sockets = m.sockets.erase s.stream

theorem completionsIn_withdrawn (stream : UInt8) (turns : List Nat) :
    completionsIn (if turns = [] then [] else [.withdrawn stream]) = [] := by
  split <;> rfl

/-- A connect that waits is answered by one byte. -/
theorem connectAnswered_dispatch (hget : m.sockets.get? stream = some s)
    (hopen : s.flags.closed = false) (hconnect : s.pendingConnect = some r) (result : UInt8) :
    ConnectAnswered m s r result (m.dispatch (Packet.connectResponse stream result).frame) := by
  obtain rfl : s.stream = stream := SocketTable.stream_of_get? hget
  let answer := (Packet.connectResponse s.stream result).frame
  have hkind : PacketKind.ofCode? answer.kind = some .connectResponse := by
    simp [answer, Packet.frame, Packet.connectResponse]
  have hpayload : answer.payload = [result] := rfl
  have htaken : m.dispatch answer =
      if result = connectAccepted then (m.receive answer).resolve s.stream r (.ofStatus .ok)
      else ((m.receive answer).resolve s.stream r (.ofStatus .connectUnknownService)).close s.stream
        false := by
    rw [dispatch_of_open (f := answer) hget hopen (by simp [hkind]), takeFrame, hkind]
    dsimp only
    unfold takeConnectResponse
    rw [hconnect, hpayload]
    rfl
  have hreceived : (m.receive answer).sockets.get? s.stream = some s := hget
  have hhistory (c : Completion) := history_resolve hreceived hconnect c
  rw [ConnectAnswered, htaken]
  by_cases hresult : result = connectAccepted
  · rw [if_pos hresult]
    refine ⟨[.received answer] ++ (if m.queue.turns s.stream = [] then [] else
      [.withdrawn s.stream]) ++ [.answered r (.ofStatus .ok)], ?_, ?_⟩
    · apply chronicle_eq_of_history
      rw [hhistory]
      split <;> simp_all [receive]
    · rw [if_pos hresult]
      exact ⟨by simp [completionsIn_withdrawn], sockets_resolve ..⟩
  · have hresolved : ((m.receive answer).resolve s.stream r
        (.ofStatus .connectUnknownService)).sockets.get? s.stream =
          some { s with pendingConnect := none } := by
      rw [sockets_resolve]
      exact SocketTable.get?_modify_eq_some (f := ({ · with pendingConnect := none }))
        (fun _ => rfl) hreceived
    have hcontains := contains_abandon hresolved
    rw [if_neg hresult, close_eq hresolved, if_pos rfl]
    refine ⟨[.received answer] ++ (if m.queue.turns s.stream = [] then [] else
      [.withdrawn s.stream]) ++ [.answered r (.ofStatus .connectUnknownService)] ++
      { s with pendingConnect := none }.farewell (m.queue.turns s.stream) ++
      [.retired s.stream], ?_, ?_⟩
    · apply chronicle_eq_of_history
      rw [history_retire _ hcontains, history_abandon hresolved, queue_resolve, hhistory]
      split <;> simp_all [receive]
    · rw [if_neg hresult]
      refine ⟨by simp [completionsIn_withdrawn], ?_⟩
      rw [sockets_retire, sockets_abandon, SocketTable.erase_modify Socket.stream_abort,
        sockets_resolve, SocketTable.erase_modify (by simp)]
      rfl

/-- A frame of no use is noted and counted, and nothing else changes: no socket, no turn, no
request, neither ring. However many such frames come, a connect that waits is still answered as if
none had come. -/
theorem useless_frame_leaves_no_trace (h : m.Wastes f waste) :
    m.dispatch f =
        { m with
          statistics := waste.count (m.statistics.countReceived f.payload.length)
          history := .received f :: m.history } ∧
      ∀ fs : List Frame, (∀ g ∈ fs, ∃ waste, m.Wastes g waste) →
        ∀ (stream : UInt8) (s : Socket) (r : Request), m.sockets.get? stream = some s →
          s.flags.closed = false → s.pendingConnect = some r → ∀ result,
            ConnectAnswered ((f :: fs).foldl dispatch m) s r result
              (((f :: fs).foldl dispatch m).dispatch
                (Packet.connectResponse stream result).frame) := by
  refine ⟨dispatch_of_wastes h, ?_⟩
  intro fs hfs stream s r hget hopen hconnect result
  have hall : ∀ g ∈ f :: fs, ∃ waste, m.Wastes g waste := by
    intro g hg
    rcases List.mem_cons.mp hg with rfl | hg
    · exact ⟨waste, h⟩
    · exact hfs g hg
  obtain ⟨statistics, hnoted⟩ := exists_noted (f :: fs) hall
  have hget' : ((f :: fs).foldl dispatch m).sockets.get? stream = some s := by
    rw [hnoted]
    exact hget
  exact connectAnswered_dispatch hget' hopen hconnect result

/-- A connect gets an answer of two bytes, which is none, and then the right one. -/
theorem useless_frame_leaves_no_trace_of_two_bytes :
    let m := run {} [.submit ⟨0, ⟨1, 1⟩, .connect [101]⟩]
    let f : Frame := ⟨2, 1, [0, 0]⟩
    let s : Socket := .opening 1 ⟨0, ⟨1, 1⟩, .connect [101]⟩
    m.sockets.get? 1 = some s ∧
      m.dispatch f =
        { m with
          statistics := Waste.unasked.count (m.statistics.countReceived 2)
          history := .received f :: m.history } ∧
      ConnectAnswered (m.dispatch f) s ⟨0, ⟨1, 1⟩, .connect [101]⟩ 0
        ((m.dispatch f).dispatch (Packet.connectResponse 1 0).frame) := by
  intro m f s
  have hget : m.sockets.get? 1 = some s := by decide +kernel
  have hwastes : m.Wastes f .unasked := .notOneByte hget rfl (by decide) (by decide)
  obtain ⟨hnoted, hanswered⟩ := useless_frame_leaves_no_trace hwastes
  exact ⟨hget, hnoted, hanswered [] (by simp) 1 s _ hget rfl rfl 0⟩

/-! ### No other frame is counted -/

/-- The totals of what nobody could use and of what the peer should not have sent. -/
def blame (m : Multiplexer) : UInt64 × UInt64 :=
  (m.statistics.packetsDiscarded, m.statistics.protocolViolations)

@[simp] theorem blame_transmit (m : Multiplexer) (kind : PacketKind) (stream : UInt8)
    (payload : Bytes) : (m.transmit kind stream payload).blame = m.blame := by
  unfold transmit; split <;> rfl

@[simp] theorem blame_retire (m : Multiplexer) (stream : UInt8) :
    (m.retire stream).blame = m.blame := by
  unfold retire; split <;> rfl

@[simp] theorem blame_enqueue (m : Multiplexer) (stream : UInt8) (n : Nat) :
    (m.enqueue stream n).blame = m.blame := by
  unfold enqueue; dsimp only; split <;> rfl

theorem blame_withdraw (m : Multiplexer) (stream : UInt8) :
    (m.withdraw stream).blame = m.blame := by
  unfold withdraw; split
  · rfl
  · split <;> rfl

@[simp] theorem blame_close (m : Multiplexer) (stream : UInt8) (emitReset : Bool) :
    (m.close stream emitReset).blame = m.blame := by
  cases hget : m.sockets.get? stream with
  | none => rw [close, hget]
  | some s =>
      have habandon : (m.abandon stream s).blame = m.blame := by rw [abandon_eq hget]; rfl
      rw [close_eq hget]
      split
      · rw [blame_retire, habandon]
      split
      · rw [blame_retire, blame_transmit]
        exact habandon
      · rw [blame_enqueue]
        exact habandon

theorem blame_deliverEos (m : Multiplexer) (stream : UInt8) (r : Request) :
    (m.deliverEos stream r).blame = m.blame := by
  unfold deliverEos closeIfExchanged
  split
  · rfl
  · split
    · rw [blame_close]
      rfl
    · rfl

theorem wastes_of_blame (h : (m.dispatch f).blame ≠ m.blame) : ∃ waste, m.Wastes f waste := by
  cases hget : m.sockets.get? f.stream with
  | none => exact ⟨_, .unknownStream hget⟩
  | some s =>
      by_cases hreset : PacketKind.ofCode? f.kind = some .reset
      · rw [dispatch_of_some hget, if_pos hreset, blame_close] at h
        exact absurd rfl h
      cases hclosed : s.flags.closed with
      | true => exact ⟨_, .givenUp hget hclosed hreset⟩
      | false =>
          rw [dispatch_of_open hget hclosed hreset] at h
          unfold takeFrame at h
          split at h
          next hkind =>
            by_cases hlength : f.payload.length = 1
            · cases hconnect : s.pendingConnect with
              | none => exact ⟨_, .notPending hget hclosed hkind hconnect⟩
              | some r =>
                  obtain ⟨result, hpayload⟩ := List.length_eq_one_iff.mp hlength
                  unfold takeConnectResponse at h
                  rw [hconnect, hpayload] at h
                  have hresolve (c : Completion) :
                      ((m.receive f).resolve s.stream r c).blame = m.blame :=
                    blame_withdraw (m.receive f) s.stream
                  dsimp only at h
                  split at h
                  · exact absurd (hresolve _) h
                  · rw [blame_close] at h
                    exact absurd (hresolve _) h
            · exact ⟨_, .notOneByte hget hclosed hkind hlength⟩
          next hkind =>
            unfold takeData at h
            split at h
            · split at h
              · exact absurd rfl h
              · rw [blame_close] at h
                exact absurd rfl h
            · split at h
              · rw [blame_close] at h
                exact absurd rfl h
              · exact absurd rfl h
          next hkind =>
            unfold takeEos at h
            dsimp only at h
            split at h
            · rw [blame_deliverEos] at h
              exact absurd rfl h
            · exact absurd rfl h
          next hresponse hdata heos =>
            cases hkind : PacketKind.ofCode? f.kind with
            | none => exact ⟨_, .unknownKind hget hclosed hkind⟩
            | some kind =>
                cases kind with
                | connect => exact ⟨_, .connect hget hclosed hkind⟩
                | connectResponse => exact absurd hkind hresponse
                | data => exact absurd hkind hdata
                | eos => exact absurd hkind heos
                | reset => exact absurd hkind hreset

/-- A frame is counted as discarded or as a violation if and only if it is of no use. -/
theorem counted_iff_useless : (m.dispatch f).blame ≠ m.blame ↔ ∃ waste, m.Wastes f waste := by
  refine ⟨wastes_of_blame, ?_⟩
  rintro ⟨waste, h⟩
  rw [dispatch_of_wastes h]
  cases waste <;>
    simp [blame, noted, Waste.count, Statistics.countDiscarded, Statistics.countViolation,
      Statistics.countReceived]

end Multiplexer

end StreamLink
