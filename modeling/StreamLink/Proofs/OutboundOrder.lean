import StreamLink.Proofs.Records

/-!
# What a stream sends

As long as no stream gets a second turn, every life of every stream sends in order, whichever way its
packets take to the ring: at once, or when its turn comes. Closings and frames of the peer cut a life
short at any moment, and it is still in order.

Main statement: `outbound_order`.
-/

namespace StreamLink.Multiplexer

/-- As long as no stream gets a second turn, every life of every stream sends in order: its connect,
its writes and its end of stream as they are answered, a Reset when it ends. Nothing is sent for the
stream outside its lives, and it has a socket exactly while its last life goes on. -/
theorem outbound_order (config : Config) (operations : List Operation)
    (hsingle : ∀ other, .doubled other ∉ (run config operations).chronicle) (stream : UInt8) :
    let m := run config operations
    (∀ life ∈ livesOn stream m.chronicle, life.Orderly stream) ∧
      packetsOn stream m.chronicle =
        (livesOn stream m.chronicle).flatMap (fun life => packetsOn stream life.events) ∧
      ((livesOn stream m.chronicle).filter (!·.retired)).map (·.request.address) =
        (m.sockets.get? stream).toList.map (·.address) := by
  have hrecords := (recorded_run hsingle).records stream
  dsimp only
  generalize (run config operations).sockets.get? stream = s? at hrecords ⊢
  have hover {lives : List Life} (h : ∀ life ∈ lives, life.retired = true ∧ life.Orderly stream) :
      lives.filter (!·.retired) = [] := by
    rw [List.filter_eq_nil_iff]
    intro life hlife
    simp [(h life hlife).1]
  cases hrecords with
  | retired hpast hpackets =>
      refine ⟨fun life hlife => (hpast life hlife).2, hpackets, ?_⟩
      rw [hover hpast]
      rfl
  | living hlives hpast hpackets hlife =>
      refine ⟨?_, hpackets, ?_⟩
      · rw [hlives]
        intro life hmem
        rcases List.mem_append.mp hmem with hmem | hmem
        · exact (hpast life hmem).2
        · rw [List.mem_singleton.mp hmem]
          exact hlife.orderly
      · rw [hlives, List.filter_append, hover hpast]
        simp [hlife.ongoing, hlife.address]

/-- A stream that is opened, written to and ended, and then reset by the peer. -/
theorem outbound_order_of_reset_stream :
    let m := run {} [.submit ⟨0, ⟨1, 1⟩, .connect [101]⟩, .publish [1, 2, 1, 0], .poll,
      .submit ⟨1, ⟨1, 1⟩, .write [1, 2, 3]⟩, .submit ⟨2, ⟨1, 1⟩, .eos⟩, .publish [0, 5, 1], .poll]
    packetsOn 1 m.chronicle = [(.connect, [101]), (.data, [1, 2, 3]), (.eos, [])] ∧
      (∀ life ∈ livesOn 1 m.chronicle, life.Orderly 1) ∧
      packetsOn 1 m.chronicle =
        (livesOn 1 m.chronicle).flatMap (fun life => packetsOn 1 life.events) ∧
      ((livesOn 1 m.chronicle).filter (!·.retired)).map (·.request.address) =
        (m.sockets.get? 1).toList.map (·.address) :=
  ⟨by decide +kernel, outbound_order {} _ (doubled_not_mem (by decide +kernel)) 1⟩

end StreamLink.Multiplexer
