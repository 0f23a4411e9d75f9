import Mathlib.Data.List.Perm.Subperm
import StreamLink.Proofs.Residents

/-!
# A directory under two keys

The sockets can be kept in a map by stream id, with a second map from the address of each to its
stream id. Then creating and deleting a socket change both maps. A directory kept so answers as the
socket table does, which has one list, and its two maps stay inverse to each other.

The cursor passes every odd stream id before it meets one again, so that a table that finds no free
id has all of them in use.

Main statement: `directory_consistent`.
-/

namespace StreamLink

instance : Hashable Address where
  hash address := mixHash (hash address.owner) (hash address.localId)

/-- The sockets by stream id and the stream ids by address. -/
structure Directory where
  sockets : Std.HashMap UInt8 Socket := ∅
  byAddress : Std.HashMap Address UInt8 := ∅
  cursor : UInt8 := firstStreamId
  limit : Nat := streamIdSpace

/-- What is done with a directory. A socket is created only for an address that has none. -/
inductive TableAction
  | create (address : Address)
  | delete (stream : UInt8)
deriving Repr, DecidableEq, Inhabited

namespace Directory

/-- An empty directory. There are never more sockets than stream ids. -/
def ofLimit (limit : Nat) : Directory :=
  { limit := min limit streamIdSpace }

def size (d : Directory) : Nat :=
  d.sockets.size

def get? (d : Directory) (stream : UInt8) : Option Socket :=
  d.sockets[stream]?

def find (d : Directory) (address : Address) : Option UInt8 :=
  d.byAddress[address]?

/-- The first stream id without a socket among so many from the cursor on. The cursor moves past
each that is looked at. -/
def allocate : Nat → Directory → Option UInt8 × Directory
  | 0, d => (none, d)
  | n + 1, d =>
    let candidate := d.cursor
    let d := { d with cursor := candidate + streamIdStep }
    if d.sockets.contains candidate then allocate n d else (some candidate, d)

/-- Adds a socket for an address under the next free stream id. -/
def create (d : Directory) (address : Address) : Except Fault UInt8 × Directory :=
  if d.limit ≤ d.size then (.error .socketTableFull, d)
  else
    match allocate streamIdSpace d with
    | (none, d) => (.error .socketTableFull, d)
    | (some stream, d) =>
      (.ok stream,
        { d with
          sockets := d.sockets.insert stream { stream := stream, address := address }
          byAddress := d.byAddress.insert address stream })

/-- Removes the socket of a stream. Its stream id and its address are free again. -/
def delete (d : Directory) (stream : UInt8) : Option Socket × Directory :=
  match d.sockets[stream]? with
  | none => (none, d)
  | some s =>
    (some s,
      { d with
        sockets := d.sockets.erase stream
        byAddress := d.byAddress.erase s.address })

def act (d : Directory) : TableAction → Directory
  | .create address => if (d.find address).isSome then d else (d.create address).2
  | .delete stream => (d.delete stream).2

def actAll (d : Directory) (actions : List TableAction) : Directory :=
  actions.foldl act d

end Directory

namespace SocketTable

/-! ### Going round -/

section Round

variable {t : SocketTable}

/-- The stream id some steps after another. -/
def after (candidate : UInt8) (k : Nat) : UInt8 :=
  candidate + UInt8.ofNat (2 * k)

theorem after_zero (candidate : UInt8) : after candidate 0 = candidate :=
  UInt8.add_zero candidate

theorem after_step (candidate : UInt8) (k : Nat) :
    after (candidate + streamIdStep) k = after candidate (k + 1) := by
  have hstep : streamIdStep.toNat = 2 := rfl
  rw [← UInt8.toNat_inj]
  simp only [after, UInt8.toNat_add, UInt8.toNat_ofNat', hstep]
  omega

theorem after_inj {candidate : UInt8} {i j : Nat} (hi : i < streamIdSpace) (hj : j < streamIdSpace)
    (h : after candidate i = after candidate j) : i = j := by
  rw [← UInt8.toNat_inj] at h
  simp only [after, UInt8.toNat_add, UInt8.toNat_ofNat'] at h
  unfold streamIdSpace at hi hj
  omega

theorem after_odd {candidate : UInt8} (h : candidate.toNat % 2 = 1) (k : Nat) :
    (after candidate k).toNat % 2 = 1 := by
  simp only [after, UInt8.toNat_add, UInt8.toNat_ofNat']
  omega

/-- The id that is found is the first free one. -/
theorem firstFree?_eq_some {n : Nat} {candidate stream : UInt8}
    (h : t.firstFree? n candidate = some stream) :
    ∃ k < n, stream = after candidate k ∧ ∀ j < k, t.contains (after candidate j) = true := by
  induction n generalizing candidate with
  | zero => contradiction
  | succ n ih =>
      unfold firstFree? at h
      split at h
      next hresident =>
        obtain ⟨k, hk, hstream, hbefore⟩ := ih h
        refine ⟨k + 1, Nat.succ_lt_succ hk, by rw [hstream, after_step], ?_⟩
        intro j hj
        cases j with
        | zero => rwa [after_zero]
        | succ j =>
            rw [← after_step]
            exact hbefore j (Nat.lt_of_succ_lt_succ hj)
      · obtain rfl := Option.some.inj h
        exact ⟨0, Nat.succ_pos n, (after_zero _).symm, fun j hj => absurd hj (Nat.not_lt_zero j)⟩

/-- No id is found only if all of them have a socket. -/
theorem contains_of_firstFree?_eq_none {n : Nat} {candidate : UInt8}
    (h : t.firstFree? n candidate = none) {k : Nat} (hk : k < n) :
    t.contains (after candidate k) = true := by
  induction n generalizing candidate k with
  | zero => contradiction
  | succ n ih =>
      unfold firstFree? at h
      split at h
      next hresident =>
        cases k with
        | zero => rwa [after_zero]
        | succ k =>
            rw [← after_step]
            exact ih h (Nat.lt_of_succ_lt_succ hk)
      · contradiction

/-- A round of the cursor passes as many ids as there are, so that without a free one there are as
many sockets. -/
theorem full_of_firstFree?_eq_none (h : t.firstFree? streamIdSpace t.cursor = none) :
    streamIdSpace ≤ t.size := by
  let passed := (List.range streamIdSpace).map (after t.cursor)
  have hdistinct : passed.Nodup := by
    refine List.Nodup.map_on ?_ List.nodup_range
    intro i hi j hj hij
    exact after_inj (List.mem_range.mp hi) (List.mem_range.mp hj) hij
  have hresident : passed ⊆ t.sockets.map Socket.stream := by
    intro stream hstream
    obtain ⟨k, hk, rfl⟩ := List.mem_map.mp hstream
    exact List.mem_map.mpr
      (contains_iff.mp (contains_of_firstFree?_eq_none h (List.mem_range.mp hk)))
  calc
    streamIdSpace = passed.length := by rw [List.length_map, List.length_range]
    _ ≤ (t.sockets.map Socket.stream).length :=
      (List.subperm_of_subset hdistinct hresident).length_le
    _ = t.size := List.length_map _

end Round

/-! ### Looking up after a change -/

section Lookup

variable {t t' : SocketTable} {address : Address} {stream : UInt8}

theorem lookup_create (habsent : t.lookup address = none)
    (h : t.create address = .ok (stream, t')) (a : Address) :
    t'.lookup a =
      if a = address then some { stream := stream, address := address } else t.lookup a := by
  obtain ⟨-, hsockets⟩ := create_eq_ok h
  unfold lookup at habsent ⊢
  rw [hsockets, List.find?_append]
  split
  next heq =>
    subst heq
    rw [habsent]
    simp
  next hne =>
    have hother : (address == a) = false := by simpa using Ne.symm hne
    simp [hother]

theorem get?_of_create (h : t.create address = .ok (stream, t')) (other : UInt8) :
    t'.get? other =
      if other = stream then some { stream := stream, address := address } else t.get? other := by
  split
  next heq => rw [heq, get?_create h]
  next hne => exact get?_of_others hne (others_create h)

theorem get?_of_erase (other : UInt8) :
    (t.erase stream).get? other = if other = stream then none else t.get? other := by
  split
  next heq => rw [heq, get?_erase]
  next hne => exact get?_of_others hne (others_erase t stream)

/-- Without a socket of the stream there is nothing to erase. -/
theorem erase_of_get?_eq_none (h : t.get? stream = none) : t.erase stream = t := by
  have hall : t.sockets.filter (·.stream != stream) = t.sockets := by
    rw [List.filter_eq_self]
    intro s hs
    simpa using List.find?_eq_none.mp h s hs
  rw [SocketTable.erase, hall]

namespace Distinct

theorem lookup_erase (h : t.Distinct) (stream : UInt8) (a : Address) :
    (t.erase stream).lookup a =
      if (t.lookup a).map Socket.stream = some stream then none else t.lookup a := by
  have hkept {s : Socket} : s ∈ (t.erase stream).sockets ↔ s ∈ t.sockets ∧ s.stream ≠ stream := by
    simp [SocketTable.erase]
  have hgone (hall : ∀ s ∈ (t.erase stream).sockets, s.address ≠ a) :
      (t.erase stream).lookup a = none :=
    List.find?_eq_none.mpr fun s hs => by simpa using hall s hs
  cases hfound : t.lookup a with
  | none =>
      rw [hgone, ite_self]
      intro s hs haddress
      rw [← haddress, h.lookup_eq_some (hkept.mp hs).1] at hfound
      contradiction
  | some s =>
      obtain rfl := address_of_lookup hfound
      simp only [Option.map_some, Option.some.injEq]
      split
      next heq =>
        apply hgone
        intro s' hs' haddress
        obtain ⟨hs', hne⟩ := hkept.mp hs'
        rw [h.eq_of_address hs' (mem_of_lookup hfound) haddress] at hne
        exact hne heq
      next hne => exact h.erase.lookup_eq_some (hkept.mpr ⟨mem_of_lookup hfound, hne⟩)

/-- A stream id is found by an address exactly if its socket has the address. -/
theorem lookup_stream_iff (h : t.Distinct) {address : Address} {stream : UInt8} :
    (t.lookup address).map Socket.stream = some stream ↔
      ∃ s, t.get? stream = some s ∧ s.address = address := by
  rw [Option.map_eq_some_iff]
  constructor
  · rintro ⟨s, hfound, rfl⟩
    exact ⟨s, h.get?_eq_some (mem_of_lookup hfound), address_of_lookup hfound⟩
  · rintro ⟨s, hfound, rfl⟩
    exact ⟨s, h.lookup_eq_some (mem_of_get? hfound), stream_of_get? hfound⟩

theorem size_erase (h : t.Distinct) (stream : UInt8) :
    (t.erase stream).size = if (t.get? stream).isSome then t.size - 1 else t.size := by
  have hlength := (h.perm stream).length_eq
  rw [List.length_append] at hlength
  cases hfound : t.get? stream with
  | none =>
      rw [hfound, Option.toList_none, List.length_nil, Nat.zero_add] at hlength
      exact hlength.symm
  | some s =>
      rw [hfound, Option.toList_some, List.length_singleton] at hlength
      exact (Nat.sub_eq_of_eq_add' hlength).symm

end Distinct

end Lookup

/-! ### Every table -/

/-- What holds of every table that sockets were created in and deleted from. -/
structure Orderly (limit : Nat) (t : SocketTable) : Prop where
  distinct : t.Distinct
  limit_eq : t.limit = min limit streamIdSpace
  within : t.size ≤ t.limit
  cursor_odd : t.cursor.toNat % 2 = 1
  streams_odd : ∀ s ∈ t.sockets, s.stream.toNat % 2 = 1

namespace Orderly

variable {limit : Nat} {t t' : SocketTable} {address : Address} {stream : UInt8}

theorem ofLimit (limit : Nat) : (SocketTable.ofLimit limit).Orderly limit where
  distinct := distinct_ofLimit limit
  limit_eq := rfl
  within := Nat.zero_le _
  cursor_odd := rfl
  streams_odd := by
    intro s hs
    contradiction

/-- A socket can be created exactly while there is room for one. -/
theorem create_cases (h : t.Orderly limit) (address : Address) :
    (t.size = t.limit ∧ t.create address = .error .socketTableFull) ∨
      ∃ stream, t.size < t.limit ∧ t.firstFree? streamIdSpace t.cursor = some stream ∧
        t.create address = .ok (stream,
          { t with
            sockets := t.sockets ++ [{ stream := stream, address := address }]
            cursor := stream + streamIdStep }) := by
  have hwithin := h.within
  by_cases hfull : t.limit ≤ t.size
  · exact .inl ⟨Nat.le_antisymm hwithin hfull, if_pos hfull⟩
  · have hroom := Nat.lt_of_not_le hfull
    cases hfree : t.firstFree? streamIdSpace t.cursor with
    | none =>
        have := full_of_firstFree?_eq_none hfree
        have := h.limit_eq
        omega
    | some stream =>
        refine .inr ⟨stream, hroom, rfl, ?_⟩
        rw [SocketTable.create, if_neg hfull, hfree]

theorem create (h : t.Orderly limit) (habsent : t.lookup address = none)
    (hcreate : t.create address = .ok (stream, t')) : t'.Orderly limit := by
  have hdistinct := h.distinct.create habsent hcreate
  obtain ⟨-, hfailed⟩ | ⟨stream', hroom, hfree, hmade⟩ := h.create_cases address
  · rw [hfailed] at hcreate
    contradiction
  · rw [hmade] at hcreate
    obtain ⟨rfl, rfl⟩ := Prod.mk.inj (Except.ok.inj hcreate)
    obtain ⟨k, -, hstream, -⟩ := firstFree?_eq_some hfree
    have hodd : stream'.toNat % 2 = 1 := hstream ▸ after_odd h.cursor_odd k
    refine ⟨hdistinct, h.limit_eq, ?_, after_odd hodd 1, ?_⟩
    · rw [size, List.length_append, List.length_singleton]
      exact hroom
    · intro s hs
      rcases List.mem_append.mp hs with hs | hs
      · exact h.streams_odd s hs
      · rw [List.mem_singleton.mp hs]
        exact hodd

theorem erase (h : t.Orderly limit) : (t.erase stream).Orderly limit where
  distinct := h.distinct.erase
  limit_eq := h.limit_eq
  within := Nat.le_trans (List.length_filter_le _ _) h.within
  cursor_odd := h.cursor_odd
  streams_odd s hs := h.streams_odd s (List.mem_filter.mp hs).1

end Orderly

def act (t : SocketTable) : TableAction → SocketTable
  | .create address =>
    if (t.lookup address).isSome then t
    else
      match t.create address with
      | .ok (_, t') => t'
      | .error _ => t
  | .delete stream => t.erase stream

def actAll (t : SocketTable) (actions : List TableAction) : SocketTable :=
  actions.foldl act t

end SocketTable

/-! ### The directory and the table -/

namespace Directory

/-- Whether a directory shows what is in a table, under either key. -/
structure Shows (d : Directory) (t : SocketTable) : Prop where
  sockets : ∀ stream, d.get? stream = t.get? stream
  addresses : ∀ address, d.find address = (t.lookup address).map Socket.stream
  size : d.size = t.size
  cursor : d.cursor = t.cursor
  limit : d.limit = t.limit

namespace Shows

variable {d : Directory} {t : SocketTable} {limit : Nat}

theorem ofLimit (limit : Nat) : (Directory.ofLimit limit).Shows (SocketTable.ofLimit limit) where
  sockets _ := Std.HashMap.getElem?_empty
  addresses _ := Std.HashMap.getElem?_empty
  size := rfl
  cursor := rfl
  limit := rfl

theorem contains (h : d.Shows t) (stream : UInt8) :
    d.sockets.contains stream = t.contains stream := by
  rw [SocketTable.contains_eq_isSome_get?, ← h.sockets, get?,
    Std.HashMap.isSome_getElem?_eq_contains]

theorem find_eq_none_iff (h : d.Shows t) {address : Address} :
    d.find address = none ↔ t.lookup address = none := by
  rw [h.addresses, Option.map_eq_none_iff]

/-- The directory finds the same stream id, and its cursor ends up behind it. -/
theorem allocate (h : d.Shows t) {n : Nat} {stream : UInt8}
    (hfree : t.firstFree? n t.cursor = some stream) :
    Directory.allocate n d = (some stream, { d with cursor := stream + streamIdStep }) := by
  have hcontains := h.contains
  rw [← h.cursor] at hfree
  -- the cursor of the directory moves on, that of the table does not
  clear h
  induction n generalizing d with
  | zero => contradiction
  | succ n ih =>
      unfold SocketTable.firstFree? at hfree
      unfold Directory.allocate
      dsimp only
      rw [hcontains]
      split at hfree
      next hresident =>
        rw [if_pos hresident]
        exact ih hfree hcontains
      next hresident =>
        obtain rfl := Option.some.inj hfree
        rw [if_neg hresident]

/-- The two create alike. -/
theorem create (h : d.Shows t) (ht : t.Orderly limit) {address : Address}
    (habsent : t.lookup address = none) :
    (t.size = t.limit ∧ t.create address = .error .socketTableFull ∧
        d.create address = (.error .socketTableFull, d)) ∨
      ∃ stream t' d', t.size < t.limit ∧ t.create address = .ok (stream, t') ∧
        d.create address = (.ok stream, d') ∧ d'.Shows t' := by
  have hroom_iff : d.limit ≤ d.size ↔ t.limit ≤ t.size := by rw [h.limit, h.size]
  obtain ⟨hfull, hfailed⟩ | ⟨stream, hroom, hfree, hmade⟩ := ht.create_cases address
  · exact .inl ⟨hfull, hfailed, if_pos (hroom_iff.mpr (Nat.le_of_eq hfull.symm))⟩
  · have hroom' : ¬ d.limit ≤ d.size := mt hroom_iff.mp (Nat.not_le.mpr hroom)
    have hfresh : stream ∉ d.sockets := by
      rw [← Std.HashMap.contains_iff_mem, h.contains, SocketTable.contains_of_firstFree? hfree]
      exact Bool.false_ne_true
    have hmade' : d.create address = (.ok stream,
        { d with
          sockets := d.sockets.insert stream { stream := stream, address := address }
          byAddress := d.byAddress.insert address stream
          cursor := stream + streamIdStep }) := by
      rw [Directory.create, if_neg hroom', h.allocate hfree]
    refine .inr ⟨stream, _, _, hroom, hmade, hmade', ?sockets, ?addresses, ?size, rfl, h.limit⟩
    case sockets =>
      intro other
      rw [SocketTable.get?_of_create hmade, ← h.sockets]
      exact Std.HashMap.getElem?_insert.trans (if_congr (beq_iff_eq.trans eq_comm) rfl rfl)
    case addresses =>
      intro a
      rw [SocketTable.lookup_create habsent hmade, apply_ite (Option.map Socket.stream),
        ← h.addresses]
      exact Std.HashMap.getElem?_insert.trans (if_congr (beq_iff_eq.trans eq_comm) rfl rfl)
    case size =>
      rw [SocketTable.size, List.length_append, List.length_singleton]
      exact (Std.HashMap.size_insert.trans (if_neg hfresh)).trans (congrArg (· + 1) h.size)

/-- The two delete alike. -/
theorem delete (h : d.Shows t) (ht : t.Distinct) (stream : UInt8) :
    (d.delete stream).1 = d.get? stream ∧ (d.delete stream).2.Shows (t.erase stream) := by
  unfold Directory.delete
  cases hfound : d.sockets[stream]? with
  | none =>
      have hnone : t.get? stream = none := (h.sockets stream).symm.trans hfound
      exact ⟨hfound.symm, (SocketTable.erase_of_get?_eq_none hnone).symm ▸ h⟩
  | some s =>
      have hsome : t.get? stream = some s := (h.sockets stream).symm.trans hfound
      refine ⟨hfound.symm, ?sockets, ?addresses, ?size, h.cursor, h.limit⟩
      case sockets =>
        intro other
        rw [SocketTable.get?_of_erase, ← h.sockets]
        exact Std.HashMap.getElem?_erase.trans (if_congr (beq_iff_eq.trans eq_comm) rfl rfl)
      case addresses =>
        intro a
        have hpair : (s.address == a) = true ↔ (t.lookup a).map Socket.stream = some stream := by
          rw [beq_iff_eq, ht.lookup_stream_iff, hsome]
          simp
        rw [ht.lookup_erase, apply_ite (Option.map Socket.stream), ← h.addresses]
        rw [← h.addresses] at hpair
        exact Std.HashMap.getElem?_erase.trans (if_congr hpair rfl rfl)
      case size =>
        have hmem : stream ∈ d.sockets := by
          rw [← Std.HashMap.contains_iff_mem, h.contains, SocketTable.contains_of_get? hsome]
        rw [ht.size_erase, hsome, Option.isSome_some, if_pos rfl, ← h.size]
        exact Std.HashMap.size_erase.trans (if_pos hmem)

theorem act (h : d.Shows t) (ht : t.Orderly limit) (action : TableAction) :
    (d.act action).Shows (t.act action) ∧ (t.act action).Orderly limit := by
  cases action with
  | create address =>
      unfold Directory.act SocketTable.act
      dsimp only
      cases habsent : t.lookup address with
      | some s =>
          rw [h.addresses, habsent]
          exact ⟨h, ht⟩
      | none =>
          rw [h.addresses, habsent]
          obtain ⟨-, hfailed, hfailed'⟩ | ⟨stream, t', d', -, hmade, hmade', hshows⟩ :=
            h.create ht habsent
          · rw [hfailed, hfailed']
            exact ⟨h, ht⟩
          · have ht' := ht.create habsent hmade
            rw [hmade, hmade']
            exact ⟨hshows, ht'⟩
  | delete stream => exact ⟨(h.delete ht.distinct stream).2, ht.erase⟩

theorem actAll (h : d.Shows t) (ht : t.Orderly limit) (actions : List TableAction) :
    (d.actAll actions).Shows (t.actAll actions) ∧ (t.actAll actions).Orderly limit := by
  induction actions generalizing d t with
  | nil => exact ⟨h, ht⟩
  | cons action actions ih =>
      obtain ⟨hshows, horderly⟩ := h.act ht action
      exact ih hshows horderly

end Shows

/-- The two maps are inverse to each other, and there are only so many sockets, all under odd ids.
-/
structure Consistent (d : Directory) (limit : Nat) : Prop where
  inverse : ∀ address stream,
    d.find address = some stream ↔ ∃ s, d.get? stream = some s ∧ s.address = address
  own : ∀ stream s, d.get? stream = some s → s.stream = stream
  streams_odd : ∀ stream s, d.get? stream = some s → stream.toNat % 2 = 1
  cursor_odd : d.cursor.toNat % 2 = 1
  within : d.size ≤ min limit streamIdSpace

/-- How a socket is created: under a stream id that was free, or not at all if there is no room, and
everything else stays. -/
structure CreatesFor (d : Directory) (limit : Nat) (address : Address) : Prop where
  fails_iff : (∃ fault, (d.create address).1 = .error fault) ↔ d.size = min limit streamIdSpace
  failed : ∀ fault, (d.create address).1 = .error fault →
    d.create address = (.error .socketTableFull, d)
  fresh : ∀ stream, (d.create address).1 = .ok stream → d.get? stream = none
  get? : ∀ stream, (d.create address).1 = .ok stream → ∀ other, (d.create address).2.get? other =
    if other = stream then some { stream := stream, address := address } else d.get? other
  find : ∀ stream, (d.create address).1 = .ok stream → ∀ a, (d.create address).2.find a =
    if a = address then some stream else d.find a

/-- How a socket is deleted: it is given back and with it goes what its address is found by, and
everything else stays. -/
structure Deletes (d : Directory) (stream : UInt8) : Prop where
  removed : (d.delete stream).1 = d.get? stream
  get? : ∀ other, (d.delete stream).2.get? other = if other = stream then none else d.get? other
  find : ∀ a, (d.delete stream).2.find a = if d.find a = some stream then none else d.find a
  cursor : (d.delete stream).2.cursor = d.cursor

namespace Shows

variable {d : Directory} {t : SocketTable} {limit : Nat}

theorem consistent (h : d.Shows t) (ht : t.Orderly limit) : d.Consistent limit where
  inverse address stream := by
    rw [h.addresses, h.sockets]
    exact ht.distinct.lookup_stream_iff
  own stream s hs := SocketTable.stream_of_get? ((h.sockets stream).symm.trans hs)
  streams_odd stream s hs := by
    rw [h.sockets] at hs
    rw [← SocketTable.stream_of_get? hs]
    exact ht.streams_odd s (SocketTable.mem_of_get? hs)
  cursor_odd := h.cursor ▸ ht.cursor_odd
  within := by
    rw [h.size, ← ht.limit_eq]
    exact ht.within

theorem createsFor (h : d.Shows t) (ht : t.Orderly limit) {address : Address}
    (habsent : t.lookup address = none) :
    d.CreatesFor limit address ∧ (d.create address).1 = (t.create address).map Prod.fst := by
  have hsize : d.size = min limit streamIdSpace ↔ t.size = t.limit := by rw [h.size, ht.limit_eq]
  obtain ⟨hfull, hfailed, hfailed'⟩ | ⟨stream, t', d', hroom, hmade, hmade', hshows⟩ :=
    h.create ht habsent
  · rw [hfailed, hfailed']
    refine ⟨⟨?_, ?_, ?_, ?_, ?_⟩, rfl⟩ <;> rw [hfailed']
    · exact iff_of_true ⟨_, rfl⟩ (hsize.mpr hfull)
    · intro fault _
      rfl
    all_goals
      intro stream hmade
      contradiction
  · rw [hmade, hmade']
    refine ⟨⟨?_, ?_, ?_, ?_, ?_⟩, rfl⟩ <;> rw [hmade']
    · refine iff_of_false ?_ fun hfull => Nat.ne_of_lt hroom (hsize.mp hfull)
      rintro ⟨fault, hfailed⟩
      contradiction
    · intro fault hfailed
      contradiction
    all_goals
      intro stream' hstream
      obtain rfl := Except.ok.inj hstream
    · rw [h.sockets]
      exact (SocketTable.create_eq_ok hmade).1
    · intro other
      rw [hshows.sockets, h.sockets]
      exact SocketTable.get?_of_create hmade other
    · intro a
      rw [hshows.addresses, h.addresses, SocketTable.lookup_create habsent hmade,
        apply_ite (Option.map Socket.stream)]
      rfl

theorem deletes (h : d.Shows t) (ht : t.Distinct) (stream : UInt8) : d.Deletes stream := by
  obtain ⟨hremoved, hshows⟩ := h.delete ht stream
  refine ⟨hremoved, ?_, ?_, ?_⟩
  · intro other
    rw [hshows.sockets, h.sockets]
    exact SocketTable.get?_of_erase other
  · intro a
    rw [hshows.addresses, h.addresses, ht.lookup_erase, apply_ite (Option.map Socket.stream)]
    rfl
  · exact hshows.cursor.trans h.cursor.symm

end Shows

end Directory

/-- Whatever sockets are created and deleted, a directory of at most so many finds the same sockets
by stream id and by address, all under odd ids, and never more than there may be. It refuses another
socket exactly when it is full, and is left as it was then; else it gives out a stream id that was
free. To delete a socket removes that socket and its address and nothing else. The socket table
answers as the directory does. -/
theorem directory_consistent (limit : Nat) (actions : List TableAction) :
    let d := (Directory.ofLimit limit).actAll actions
    let t := (SocketTable.ofLimit limit).actAll actions
    d.Consistent limit ∧
    (∀ address, d.find address = none →
      d.CreatesFor limit address ∧ (d.create address).1 = (t.create address).map Prod.fst) ∧
    (∀ stream, d.Deletes stream) ∧
    d.Shows t ∧ t.Orderly limit := by
  obtain ⟨hshows, horderly⟩ :=
    (Directory.Shows.ofLimit limit).actAll (SocketTable.Orderly.ofLimit limit) actions
  refine ⟨hshows.consistent horderly, ?_, fun stream => hshows.deletes horderly.distinct stream,
    hshows, horderly⟩
  intro address habsent
  exact hshows.createsFor horderly (hshows.find_eq_none_iff.mp habsent)

end StreamLink
