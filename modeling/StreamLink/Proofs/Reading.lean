import StreamLink.Proofs.Splitting

/-!
# Reading packets out of a ring

Asking for a packet moves the reader on as long as a whole frame stands at the front, also over a
frame that is no packet. A frame that is not whole stays where it is, and whoever asks again is told
so again. Asking until nothing is left therefore ends if and only if the bytes behind the last whole
frame are too few for a header.

Main statement: `moves_on_iff_whole`.
-/

namespace StreamLink.Ring

/-- What is told about a frame that is not whole. -/
abbrev truncated : Except Fault Packet :=
  .error (.malformed .truncated)

variable {r : Ring} {f : Frame} {rest : Bytes}

/-- Whether asking for a packet moves the reader on: over a header at least, and over no more bytes
than there are. -/
def MovesOn (r : Ring) : Prop :=
  ∃ n, headerSize ≤ n ∧ n ≤ r.occupied ∧ r.takePacket.2 = r.consume n

/-- Whether asking for packets ends: of enough requests the last finds nothing. -/
def ReadsOut (r : Ring) : Prop :=
  ∃ n, (takeUpTo n r).1.length < n

theorem MovesOn.occupied_lt (h : r.MovesOn) : r.takePacket.2.occupied < r.occupied := by
  obtain ⟨n, hheader, hle, hnext⟩ := h
  rw [hnext, occupied_consume hle]
  have : 3 ≤ n := hheader
  omega

/-- A reader that does not move does not move on. -/
theorem not_movesOn_of_same (h : r.takePacket.2 = r) : ¬ r.MovesOn := by
  intro hmoves
  have := hmoves.occupied_lt
  rw [h] at this
  exact Nat.lt_irrefl _ this

/-! ### One request -/

/-- Where no whole frame stands, the outcome depends on whether a header does. -/
theorem takePacket_of_stuck (h : Frame.NoneIn r.contents) :
    r.takePacket = (if r.occupied < headerSize then none else some truncated, r) := by
  by_cases hshort : r.occupied < headerSize
  · rw [takePacket, peekHeader?, if_pos hshort, if_pos hshort]
  · rcases stuck_cases h with hheader | ⟨header, hheader, hpart⟩
    · rw [peekHeader?, if_neg hshort] at hheader
      contradiction
    · have hframe : r.peekFrame header = .error (.malformed .truncated) := if_pos hpart
      rw [takePacket, hheader, if_neg hshort]
      simp only [hframe]

theorem movesOn_of_contents (hf : f.Sized) (h : r.contents = f.bytes ++ rest) : r.MovesOn := by
  refine ⟨f.length, f.three_le_length, ?_, ?_⟩
  · rw [occupied_of_contents h]
    exact Nat.le_add_right _ _
  · rw [takePacket_of_contents hf h]

theorem movesOn_iff : r.MovesOn ↔ ¬ Frame.NoneIn r.contents := by
  constructor
  · intro hmoves hnone
    have hsame : r.takePacket.2 = r := by rw [takePacket_of_stuck hnone]
    exact not_movesOn_of_same hsame hmoves
  · intro hwhole
    obtain ⟨f, rest, hf, hcontents⟩ := (Frame.front_cases r.contents).resolve_left hwhole
    exact movesOn_of_contents hf hcontents

theorem packet_ne_truncated (f : Frame) : f.packet ≠ truncated := by
  intro h
  have := f.isTruncated_packet
  rw [h] at this
  exact absurd this (by decide)

/-- An outcome moves the reader on, or it is that the frame is not whole and nothing changes. -/
theorem movesOn_of_outcome {outcome : Except Fault Packet} (h : r.takePacket.1 = some outcome) :
    r.MovesOn ∧ outcome ≠ truncated ∨ r.takePacket = (some truncated, r) ∧ outcome = truncated := by
  rcases Frame.front_cases r.contents with hnone | ⟨f, rest, hf, hcontents⟩
  · right
    have htake := takePacket_of_stuck hnone
    rw [htake] at h
    split at h
    · contradiction
    next hheader =>
      rw [if_neg hheader] at htake
      exact ⟨htake, (Option.some.inj h).symm⟩
  · left
    rw [takePacket_of_contents hf hcontents, Option.some.injEq] at h
    exact ⟨movesOn_of_contents hf hcontents, h ▸ packet_ne_truncated f⟩

/-! ### Many requests -/

theorem takeUpTo_of_stuck (h : Frame.NoneIn r.contents) (n : Nat) :
    takeUpTo n r = (if r.occupied < headerSize then [] else List.replicate n truncated, r) := by
  induction n with
  | zero => simp [takeUpTo]
  | succ n ih =>
      rw [takeUpTo, takePacket_of_stuck h]
      by_cases hshort : r.occupied < headerSize
      · simp only [if_pos hshort]
      · simp only [if_neg hshort, ih, List.replicate_succ]

/-- What is told about the bytes behind the whole frames, asked so often. -/
def leftover (rest : Bytes) (n : Nat) : List (Except Fault Packet) :=
  if rest.length < headerSize then [] else List.replicate n truncated

/-- Asking takes one frame after the other, and is then stuck with the rest. -/
theorem takeUpTo_eq {bytes : Bytes} {frames : List Frame} (h : Frame.Splits bytes frames rest)
    (hr : r.contents = bytes) (n : Nat) :
    (takeUpTo n r).1 = (frames.map Frame.packet).take n ++ leftover rest (n - frames.length) ∧
      (takeUpTo n r).2.contents = (frames.drop n).flatMap Frame.bytes ++ rest := by
  induction h generalizing r n with
  | @stuck rest hnone =>
      have hstuck : Frame.NoneIn r.contents := hr ▸ hnone
      have hlength : r.occupied = rest.length := by rw [← length_contents, hr]
      rw [takeUpTo_of_stuck hstuck, hlength]
      refine ⟨?_, by simpa using hr⟩
      simp [leftover]
  | @frame f bytes frames rest hf hrest ih =>
      cases n with
      | zero =>
          refine ⟨?_, ?_⟩
          · simp [takeUpTo, leftover]
          · rw [takeUpTo, hr, hrest.bytes_eq]
            simp
      | succ n =>
          obtain ⟨houtcomes, hcontents⟩ := ih (contents_consume_frame hr) n
          rw [takeUpTo, takePacket_of_contents hf hr]
          refine ⟨?_, by simpa using hcontents⟩
          simp [houtcomes]

theorem readsOut_iff {frames : List Frame} (h : Frame.Splits r.contents frames rest) :
    r.ReadsOut ↔ rest.length < headerSize := by
  have hlength (n : Nat) : (takeUpTo n r).1.length =
      min n frames.length + (leftover rest (n - frames.length)).length := by
    rw [(takeUpTo_eq h rfl n).1, List.length_append, List.length_take, List.length_map]
  constructor
  · rintro ⟨n, hn⟩
    refine Nat.lt_of_not_le fun hheader => ?_
    rw [hlength, leftover, if_neg (Nat.not_lt.mpr hheader), List.length_replicate] at hn
    omega
  · intro hshort
    refine ⟨frames.length + 1, ?_⟩
    rw [hlength, leftover, if_pos hshort, List.length_nil]
    omega

/-- Whatever a ring holds and wherever it begins: an outcome moves the reader on by a header at
least if and only if a whole frame stands at the front, and is that the frame is not whole otherwise,
with the ring as before. The outcomes are the whole frames, and then that one for ever unless too few
bytes are left for a header; that is when asking ends. -/
theorem moves_on_iff_whole (r : Ring) :
    (∀ outcome, r.takePacket.1 = some outcome →
      (r.MovesOn ↔ ¬ Frame.NoneIn r.contents) ∧ (r.MovesOn ↔ outcome ≠ truncated) ∧
        (¬ r.MovesOn → r.takePacket = (some truncated, r))) ∧
    ∃ frames rest, Frame.Splits r.contents frames rest ∧
      (∀ n, (takeUpTo n r).1 =
          (frames.map Frame.packet).take n ++ leftover rest (n - frames.length) ∧
        (takeUpTo n r).2.contents = (frames.drop n).flatMap Frame.bytes ++ rest) ∧
      (r.ReadsOut ↔ rest.length < headerSize) := by
  refine ⟨?_, ?_⟩
  · intro outcome houtcome
    rcases movesOn_of_outcome houtcome with ⟨hmoves, hwhole⟩ | ⟨hstuck, rfl⟩
    · exact ⟨movesOn_iff, iff_of_true hmoves hwhole, fun hnot => absurd hmoves hnot⟩
    · have hstays : ¬ r.MovesOn := not_movesOn_of_same (by rw [hstuck])
      exact ⟨movesOn_iff, iff_of_false hstays (not_not.mpr rfl), fun _ => hstuck⟩
  · obtain ⟨frames, rest, hsplits⟩ := Frame.exists_splits r.contents
    exact ⟨frames, rest, hsplits, takeUpTo_eq hsplits rfl, readsOut_iff hsplits⟩

/-- A header that announces five bytes, with nothing behind it, is met again however often a packet
is asked for. -/
theorem header_alone_is_met_again :
    (({} : Ring).publish [5, 3, 1]).takePacket = (some truncated, ({} : Ring).publish [5, 3, 1]) ∧
      ¬ (({} : Ring).publish [5, 3, 1]).MovesOn ∧ ¬ (({} : Ring).publish [5, 3, 1]).ReadsOut := by
  have hcontents : (({} : Ring).publish [5, 3, 1]).contents = [5, 3, 1] :=
    contents_publish (r := {}) (by decide)
  have hnone : Frame.NoneIn [5, 3, 1] := Frame.noneIn_cons_iff.mpr (by decide)
  have hheader : ¬ (({} : Ring).publish [5, 3, 1]).occupied < headerSize := by
    rw [← length_contents, hcontents]
    decide
  refine ⟨?_, ?_, ?_⟩
  · rw [takePacket_of_stuck (hcontents ▸ hnone), if_neg hheader]
  · rw [movesOn_iff, hcontents]
    exact not_not.mpr hnone
  · have hsplits : Frame.Splits (({} : Ring).publish [5, 3, 1]).contents [] [5, 3, 1] := by
      rw [hcontents]
      exact .stuck hnone
    rw [readsOut_iff hsplits]
    decide

end StreamLink.Ring
