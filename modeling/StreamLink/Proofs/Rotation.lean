import Mathlib.Data.List.Induction
import StreamLink.Proofs.Directory

/-!
# Stream ids go round

The cursor of a socket table goes round the odd stream ids in one direction. A create moves it past
the ids that have a socket and past the first that has none, which it hands out; nothing else moves
it. So before an id is handed out again the cursor has been at every other one: each was handed out
in the meantime, or had a socket when the cursor came by.

Main statement: `ids_go_round`.
-/

namespace StreamLink.SocketTable

/-! ### The circle of ids -/

section Circle

variable {candidate : UInt8}

theorem after_add (candidate : UInt8) (n k : Nat) :
    after (after candidate n) k = after candidate (n + k) := by
  rw [← UInt8.toNat_inj]
  simp only [after, UInt8.toNat_add, UInt8.toNat_ofNat']
  omega

/-- Whoever goes round from an odd id comes to every odd id. -/
theorem exists_after {other : UInt8} (h : candidate.toNat % 2 = 1) (hother : other.toNat % 2 = 1) :
    ∃ k < streamIdSpace, other = after candidate k := by
  have hcandidate := candidate.toNat_lt
  have hlt := other.toNat_lt
  have hdistance := (other - candidate).toNat_lt
  refine ⟨(other - candidate).toNat / 2, ?_, ?_⟩
  · unfold streamIdSpace
    omega
  · rw [← UInt8.toNat_inj]
    simp only [after, UInt8.toNat_add, UInt8.toNat_ofNat', UInt8.toNat_sub]
    omega

/-- Whoever is back where he began has gone all the way round. -/
theorem le_of_after_eq {n : Nat} (hpos : 0 < n) (h : after candidate n = candidate) :
    streamIdSpace ≤ n := by
  have hlt := candidate.toNat_lt
  rw [← UInt8.toNat_inj] at h
  simp only [after, UInt8.toNat_add, UInt8.toNat_ofNat'] at h
  unfold streamIdSpace
  omega

end Circle

/-! ### One action -/

/-- Whether a stream id is the first without a socket, in the cyclic order of the odd ids from the
cursor on. -/
def FirstFree (t : SocketTable) (stream : UInt8) : Prop :=
  ∃ k < streamIdSpace, stream = after t.cursor k ∧ t.contains stream = false ∧
    ∀ j < k, t.contains (after t.cursor j) = true

/-- The stream id that an action hands out. An address that has a socket is given no other. -/
def handsOut? (t : SocketTable) : TableAction → Option UInt8
  | .create address =>
    if (t.lookup address).isSome then none
    else
      match t.create address with
      | .ok (stream, _) => some stream
      | .error _ => none
  | .delete _ => none

/-- Whether the cursor passes the id of a socket while an action looks for a free one. -/
def PassesOver (t : SocketTable) (action : TableAction) (stream : UInt8) : Prop :=
  t.contains stream = true ∧ ∃ j k, j < k ∧ k < streamIdSpace ∧ stream = after t.cursor j ∧
    t.handsOut? action = some (after t.cursor k)

section Step

variable {t t' : SocketTable} {address : Address} {action : TableAction} {stream : UInt8}

/-- A socket is created under the first free id, and the cursor is left behind it. -/
theorem firstFree_of_create (h : t.create address = .ok (stream, t')) :
    t.FirstFree stream ∧ t'.cursor = after stream 1 := by
  unfold create at h
  split at h
  · contradiction
  split at h
  · contradiction
  next candidate hfree =>
    obtain ⟨rfl, rfl⟩ := Prod.mk.inj (Except.ok.inj h)
    obtain ⟨k, hk, hcandidate, hresident⟩ := firstFree?_eq_some hfree
    exact ⟨⟨k, hk, hcandidate, contains_of_firstFree? hfree, hresident⟩, rfl⟩

/-- A create that hands out no id changes nothing. -/
theorem act_create_cases (t : SocketTable) (address : Address) :
    t.handsOut? (.create address) = none ∧ t.act (.create address) = t ∨
      ∃ stream, t.handsOut? (.create address) = some stream ∧
        t.create address = .ok (stream, t.act (.create address)) := by
  unfold handsOut? act
  dsimp only
  split
  · exact .inl ⟨rfl, rfl⟩
  · cases t.create address with
    | ok made => exact .inr ⟨made.1, rfl, rfl⟩
    | error fault => exact .inl ⟨rfl, rfl⟩

theorem exists_create_of_handsOut? (h : t.handsOut? action = some stream) :
    ∃ address, t.create address = .ok (stream, t.act action) := by
  cases action with
  | create address =>
      obtain ⟨hnone, -⟩ | ⟨stream', hout, hcreate⟩ := t.act_create_cases address
      · rw [hnone] at h
        contradiction
      · rw [hout] at h
        obtain rfl := Option.some.inj h
        exact ⟨address, hcreate⟩
  | delete => contradiction

theorem cursor_act_of_handsOut?_eq_none (h : t.handsOut? action = none) :
    (t.act action).cursor = t.cursor := by
  cases action with
  | create address =>
      obtain ⟨-, hsame⟩ | ⟨stream, hout, -⟩ := t.act_create_cases address
      · rw [hsame]
      · rw [hout] at h
        contradiction
  | delete => rfl

theorem contains_act_of_handsOut? (h : t.handsOut? action = some stream) :
    (t.act action).contains stream = true := by
  obtain ⟨_, hcreate⟩ := exists_create_of_handsOut? h
  exact contains_of_get? (get?_create hcreate)

/-- A socket stays until its stream is deleted. -/
theorem contains_act (h : t.contains stream = true) (hkeep : action ≠ .delete stream) :
    (t.act action).contains stream = true := by
  rw [contains_eq_isSome_get?] at h ⊢
  cases action with
  | create address =>
      obtain ⟨-, hsame⟩ | ⟨other, -, hcreate⟩ := t.act_create_cases address
      · rwa [hsame]
      · rw [get?_of_create hcreate]
        split
        · rfl
        · exact h
  | delete other =>
      have hne : stream ≠ other := by
        rintro rfl
        exact hkeep rfl
      rw [act, get?_of_erase, if_neg hne]
      exact h

/-- What the cursor moves past while an action is done was handed out or has a socket. -/
theorem exists_passed_act (t : SocketTable) (action : TableAction) :
    ∃ n, (t.act action).cursor = after t.cursor n ∧
      (∀ stream, t.handsOut? action = some stream → 0 < n) ∧
      ∀ j < n, t.handsOut? action = some (after t.cursor j) ∨
        t.PassesOver action (after t.cursor j) := by
  cases hout : t.handsOut? action with
  | none =>
      refine ⟨0, ?_, by simp, fun j hj => absurd hj (Nat.not_lt_zero j)⟩
      rw [cursor_act_of_handsOut?_eq_none hout, after_zero]
  | some stream =>
      obtain ⟨_, hcreate⟩ := exists_create_of_handsOut? hout
      obtain ⟨⟨k, hk, rfl, -, hresident⟩, hcursor⟩ := firstFree_of_create hcreate
      refine ⟨k + 1, ?_, fun _ _ => Nat.succ_pos k, fun j hj => ?_⟩
      · rw [hcursor, after_add]
      · rcases Nat.lt_succ_iff_lt_or_eq.mp hj with hj | rfl
        · exact .inr ⟨hresident j hj, j, k, hj, hk, rfl, hout⟩
        · exact .inl rfl

end Step

/-! ### Many actions -/

/-- Whether one of the actions hands the stream id out. -/
def HandsOut (t : SocketTable) (actions : List TableAction) (stream : UInt8) : Prop :=
  ∃ done action rest, actions = done ++ action :: rest ∧
    (t.actAll done).handsOut? action = some stream

/-- Whether the cursor comes by the stream id during the actions while the id has a socket. -/
def ComesBy (t : SocketTable) (actions : List TableAction) (stream : UInt8) : Prop :=
  ∃ done action rest, actions = done ++ action :: rest ∧
    (t.actAll done).PassesOver action stream

section Run

variable {t : SocketTable} {actions : List TableAction} {stream : UInt8}

theorem actAll_append (t : SocketTable) (first second : List TableAction) :
    t.actAll (first ++ second) = (t.actAll first).actAll second :=
  List.foldl_append

theorem HandsOut.cons {action : TableAction} (h : (t.act action).HandsOut actions stream) :
    t.HandsOut (action :: actions) stream := by
  obtain ⟨done, last, rest, rfl, hout⟩ := h
  exact ⟨action :: done, last, rest, rfl, hout⟩

theorem ComesBy.cons {action : TableAction} (h : (t.act action).ComesBy actions stream) :
    t.ComesBy (action :: actions) stream := by
  obtain ⟨done, last, rest, rfl, hpast⟩ := h
  exact ⟨action :: done, last, rest, rfl, hpast⟩

/-- What the cursor moves past during the actions was handed out or had a socket. -/
theorem exists_passed_actAll (t : SocketTable) (actions : List TableAction) :
    ∃ n, (t.actAll actions).cursor = after t.cursor n ∧
      (∀ stream, t.HandsOut actions stream → 0 < n) ∧
      ∀ j < n, t.HandsOut actions (after t.cursor j) ∨ t.ComesBy actions (after t.cursor j) := by
  induction actions generalizing t with
  | nil =>
      refine ⟨0, (after_zero _).symm, ?_, fun j hj => absurd hj (Nat.not_lt_zero j)⟩
      rintro stream ⟨done, action, rest, hsplit, -⟩
      simp at hsplit
  | cons action actions ih =>
      obtain ⟨n, hcursor, hpos, hfirst⟩ := t.exists_passed_act action
      obtain ⟨n', hcursor', hpos', hrest⟩ := ih (t.act action)
      refine ⟨n + n', ?_, ?_, ?_⟩
      · rw [← after_add, ← hcursor]
        exact hcursor'
      · rintro stream ⟨_ | ⟨_, done⟩, last, rest, hsplit, hout⟩
        · obtain ⟨rfl, -⟩ := List.cons.inj hsplit
          exact Nat.add_pos_left (hpos stream hout) n'
        · obtain ⟨rfl, rfl⟩ := List.cons.inj hsplit
          exact Nat.add_pos_right n (hpos' stream ⟨done, last, rest, rfl, hout⟩)
      · intro j hj
        by_cases hearly : j < n
        · exact (hfirst j hearly).imp (fun hout => ⟨[], action, actions, rfl, hout⟩)
            fun hpast => ⟨[], action, actions, rfl, hpast⟩
        · obtain ⟨i, rfl⟩ := Nat.exists_eq_add_of_le (Nat.le_of_not_lt hearly)
          rw [← after_add, ← hcursor]
          exact (hrest i (Nat.lt_of_add_lt_add_left hj)).imp HandsOut.cons ComesBy.cons

theorem contains_actAll (h : t.contains stream = true) (hkeep : .delete stream ∉ actions) :
    (t.actAll actions).contains stream = true := by
  induction actions generalizing t with
  | nil => exact h
  | cons action actions ih =>
      rw [List.mem_cons, not_or] at hkeep
      exact ih (contains_act h (Ne.symm hkeep.1)) hkeep.2

/-- What is handed out in the end is the id that the last action hands out, or was handed out
before. -/
theorem HandsOut.of_append {last : TableAction} {other : UInt8}
    (h : t.HandsOut (actions ++ [last]) other)
    (hlast : (t.actAll actions).handsOut? last ≠ some other) : t.HandsOut actions other := by
  obtain ⟨done, action, rest, hsplit, hout⟩ := h
  cases rest using List.reverseRecOn with
  | nil =>
      obtain ⟨rfl, hone⟩ := List.append_inj' hsplit rfl
      obtain rfl := List.singleton_inj.mp hone
      exact absurd hout hlast
  | append_singleton rest e =>
      rw [← List.cons_append, ← List.append_assoc] at hsplit
      exact ⟨done, action, rest, (List.append_inj' hsplit rfl).1, hout⟩

end Run

/-- Whatever sockets are created and deleted, a create gives the first free id from the cursor on, in
the cyclic order of the odd ids, as long as there is room for a socket, and leaves the cursor just
behind it. If two creates give the same id, then its first socket was deleted in between, and every
other odd id was given by a create in between or had a socket when the cursor came by: no id that is
free and was not given since is passed over for one that was. -/
theorem ids_go_round (limit : Nat) (before : List TableAction) :
    let t := (ofLimit limit).actAll before
    (∀ address, t.lookup address = none →
      if t.size < t.limit then
        ∃ stream t', t.create address = .ok (stream, t') ∧ t.FirstFree stream ∧
          t'.cursor = stream + streamIdStep
      else t.create address = .error .socketTableFull) ∧
    ∀ (first second : TableAction) (between : List TableAction) (stream : UInt8),
      t.handsOut? first = some stream →
      ((t.act first).actAll between).handsOut? second = some stream →
      .delete stream ∈ between ∧
      ∀ other : UInt8, other.toNat % 2 = 1 → other ≠ stream →
        (t.act first).HandsOut between other ∨ (t.act first).ComesBy (between ++ [second]) other := by
  intro t
  obtain ⟨-, horderly⟩ :=
    (Directory.Shows.ofLimit limit).actAll (Orderly.ofLimit limit) before
  constructor
  · intro address _
    obtain ⟨hfull, hfailed⟩ | ⟨stream, hroom, -, hmade⟩ := horderly.create_cases address
    · rw [if_neg (Nat.not_lt.mpr (Nat.le_of_eq hfull.symm))]
      exact hfailed
    · rw [if_pos hroom]
      exact ⟨stream, _, hmade, firstFree_of_create hmade⟩
  intro first second between stream hfirst hsecond
  obtain ⟨_, hcreate⟩ := exists_create_of_handsOut? hfirst
  obtain ⟨_, hcreate'⟩ := exists_create_of_handsOut? hsecond
  obtain ⟨⟨k, -, hstream, -⟩, hcursor⟩ := firstFree_of_create hcreate
  obtain ⟨⟨-, -, -, hfree, -⟩, hcursor'⟩ := firstFree_of_create hcreate'
  have hodd : (t.act first).cursor.toNat % 2 = 1 := by
    rw [hcursor, hstream, after_add]
    exact after_odd horderly.cursor_odd (k + 1)
  refine ⟨?_, fun other hother hne => ?_⟩
  · by_contra hkept
    have hstays := contains_actAll (contains_act_of_handsOut? hfirst) hkept
    rw [hfree] at hstays
    contradiction
  · -- the cursor is where it was after the first create, and has moved
    obtain ⟨n, hmoved, hpos, hpassed⟩ := (t.act first).exists_passed_actAll (between ++ [second])
    have hreturned : after (t.act first).cursor n = (t.act first).cursor := by
      rw [← hmoved, actAll_append, hcursor]
      exact hcursor'
    have hround : streamIdSpace ≤ n :=
      le_of_after_eq (hpos stream ⟨between, second, [], rfl, hsecond⟩) hreturned
    obtain ⟨j, hj, rfl⟩ := exists_after hodd hother
    refine (hpassed j (Nat.lt_of_lt_of_le hj hround)).imp_left fun hout => hout.of_append ?_
    rw [hsecond]
    exact fun heq => hne (Option.some.inj heq).symm

/-- One socket stays while another is opened and closed again and again: its id comes back after all
the others were given, but for the id of the socket that stayed. -/
theorem id_comes_back_last :
    let t := (ofLimit 2).actAll [.create ⟨1, 7⟩]
    let reopen : TableAction := .create ⟨1, 0⟩
    let between := .delete 3 :: (List.range 126).flatMap fun k => [reopen, .delete (after 5 k)]
    t.handsOut? reopen = some 3 ∧ ((t.act reopen).actAll between).handsOut? reopen = some 3 ∧
      ∀ other : UInt8, other.toNat % 2 = 1 → other ≠ 3 →
        (t.act reopen).HandsOut between other ∨ (t.act reopen).ComesBy (between ++ [reopen]) other := by
  intro t reopen between
  have hfirst : t.handsOut? reopen = some 3 := by decide +kernel
  have hsecond : ((t.act reopen).actAll between).handsOut? reopen = some 3 := by decide +kernel
  exact ⟨hfirst, hsecond, ((ids_go_round 2 [.create ⟨1, 7⟩]).2 _ _ _ _ hfirst hsecond).2⟩

end StreamLink.SocketTable
