import Mathlib.Data.List.Nodup
import StreamLink.SocketTable

/-!
# Residents, stream by stream

A socket table holds at most one socket of each stream and of each address. Then the table falls
apart into the socket of one stream and the others, and whatever is done to the one leaves the
others as they are.
-/

namespace StreamLink.SocketTable

/-- No two sockets share their stream or their address. -/
structure Distinct (t : SocketTable) : Prop where
  streams : (t.sockets.map Socket.stream).Nodup
  addresses : (t.sockets.map Socket.address).Nodup

/-- The sockets of the other streams. -/
def others (t : SocketTable) (stream : UInt8) : List Socket :=
  t.sockets.filter (·.stream != stream)

theorem distinct_ofLimit (limit : Nat) : (ofLimit limit).Distinct :=
  ⟨List.nodup_nil, List.nodup_nil⟩

theorem stream_of_get? {t : SocketTable} {stream : UInt8} {s : Socket}
    (h : t.get? stream = some s) : s.stream = stream := by
  simpa using List.find?_some h

theorem mem_of_get? {t : SocketTable} {stream : UInt8} {s : Socket}
    (h : t.get? stream = some s) : s ∈ t.sockets :=
  List.mem_of_find?_eq_some h

theorem address_of_lookup {t : SocketTable} {address : Address} {s : Socket}
    (h : t.lookup address = some s) : s.address = address := by
  simpa using List.find?_some h

theorem mem_of_lookup {t : SocketTable} {address : Address} {s : Socket}
    (h : t.lookup address = some s) : s ∈ t.sockets :=
  List.mem_of_find?_eq_some h

/-- The sockets of the other streams decide what each of those streams has. -/
theorem get?_of_others {t t' : SocketTable} {stream other : UInt8} (hne : other ≠ stream)
    (h : t'.others stream = t.others stream) : t'.get? other = t.get? other := by
  have hfind (t : SocketTable) : t.get? other = (t.others stream).find? (·.stream == other) := by
    rw [get?, others, List.find?_filter]
    congr 1
    funext s
    by_cases heq : s.stream = other
    · simp [heq, hne]
    · simp [heq]
  rw [hfind t', hfind t, h]

namespace Distinct

variable {t : SocketTable}

/-- A resident is found by its stream. -/
theorem get?_eq_some (h : t.Distinct) {s : Socket} (hs : s ∈ t.sockets) :
    t.get? s.stream = some s := by
  cases hfound : t.get? s.stream with
  | none =>
      have := List.find?_eq_none.mp hfound s hs
      simp at this
  | some s' =>
      rw [List.inj_on_of_nodup_map h.streams (mem_of_get? hfound) hs (stream_of_get? hfound)]

/-- A resident is found by its address. -/
theorem lookup_eq_some (h : t.Distinct) {s : Socket} (hs : s ∈ t.sockets) :
    t.lookup s.address = some s := by
  cases hfound : t.lookup s.address with
  | none =>
      have := List.find?_eq_none.mp hfound s hs
      simp at this
  | some s' =>
      rw [List.inj_on_of_nodup_map h.addresses (mem_of_lookup hfound) hs
        (address_of_lookup hfound)]

theorem eq_of_address (h : t.Distinct) {s s' : Socket} (hs : s ∈ t.sockets) (hs' : s' ∈ t.sockets)
    (haddress : s.address = s'.address) : s = s' :=
  List.inj_on_of_nodup_map h.addresses hs hs' haddress

/-- Sockets of different streams have different addresses. -/
theorem address_ne (h : t.Distinct) {stream other : UInt8} (hne : stream ≠ other) {s s' : Socket}
    (hs : s ∈ t.get? stream) (hs' : s' ∈ t.get? other) : s.address ≠ s'.address := by
  intro haddress
  apply hne
  rw [← stream_of_get? hs, ← stream_of_get? hs',
    h.eq_of_address (mem_of_get? hs) (mem_of_get? hs') haddress]

/-- The table is the socket of a stream and the others. -/
theorem perm (h : t.Distinct) (stream : UInt8) :
    t.sockets.Perm ((t.get? stream).toList ++ t.others stream) := by
  have hsplit : t.sockets.Perm
      (t.sockets.filter (·.stream == stream) ++ t.others stream) := by
    have := (List.filter_append_perm (fun s : Socket => s.stream == stream) t.sockets).symm
    simpa [others, bne] using this
  suffices hone : t.sockets.filter (·.stream == stream) = (t.get? stream).toList by
    rwa [hone] at hsplit
  have hnodup := h.streams
  unfold get?
  clear hsplit h
  generalize t.sockets = sockets at hnodup ⊢
  induction sockets with
  | nil => rfl
  | cons s rest ih =>
      rw [List.map_cons, List.nodup_cons] at hnodup
      by_cases heq : s.stream = stream
      · have hrest : rest.filter (·.stream == stream) = [] := by
          rw [List.filter_eq_nil_iff]
          intro s' hs' heq'
          exact hnodup.1 (List.mem_map.mpr ⟨s', hs', by rw [heq]; simpa using heq'⟩)
        simp [heq, hrest]
      · simpa [heq] using ih hnodup.2

/-- Forgetting sockets keeps the rest apart. -/
theorem of_sublist (h : t.Distinct) {t' : SocketTable} (hsub : t'.sockets.Sublist t.sockets) :
    t'.Distinct :=
  ⟨h.streams.sublist (hsub.map _), h.addresses.sublist (hsub.map _)⟩

end Distinct

/-! ### Changing a socket -/

section Modify

variable {t : SocketTable} {stream : UInt8} {f : Socket → Socket}

theorem get?_modify (hf : ∀ s ∈ t.sockets, s.stream = stream → (f s).stream = stream) :
    (t.modify stream f).get? stream = (t.get? stream).map f := by
  unfold get? modify
  generalize t.sockets = sockets at hf
  induction sockets with
  | nil => rfl
  | cons s rest ih =>
      by_cases heq : s.stream = stream
      · simp [heq, hf s List.mem_cons_self heq]
      · simpa [heq] using ih fun s' hs' => hf s' (List.mem_cons_of_mem s hs')

theorem get?_modify_eq_some {s : Socket} (hf : ∀ s, (f s).stream = s.stream)
    (hget : t.get? stream = some s) : (t.modify stream f).get? stream = some (f s) := by
  rw [get?_modify fun s _ heq => (hf s).trans heq, hget]
  rfl

theorem others_modify (hf : ∀ s ∈ t.sockets, s.stream = stream → (f s).stream = stream) :
    (t.modify stream f).others stream = t.others stream := by
  unfold others modify
  generalize t.sockets = sockets at hf
  induction sockets with
  | nil => rfl
  | cons s rest ih =>
      have hrest := ih fun s' hs' => hf s' (List.mem_cons_of_mem s hs')
      by_cases heq : s.stream = stream
      · simpa [heq, hf s List.mem_cons_self heq] using hrest
      · simpa [heq] using hrest

/-- Two changes of one socket are one change. -/
theorem modify_modify {g : Socket → Socket} (hf : ∀ s, (f s).stream = s.stream) :
    (t.modify stream f).modify stream g = t.modify stream fun s => g (f s) := by
  simp only [modify, List.map_map]
  congr 1
  apply List.map_congr_left
  intro s _
  by_cases heq : s.stream = stream
  · simp [heq, hf]
  · simp [heq]

theorem Distinct.modify (h : t.Distinct)
    (hstream : ∀ s ∈ t.sockets, s.stream = stream → (f s).stream = s.stream)
    (haddress : ∀ s ∈ t.sockets, s.stream = stream → (f s).address = s.address) :
    (t.modify stream f).Distinct := by
  have hsame {α : Type} (g : Socket → α)
      (hg : ∀ s ∈ t.sockets, s.stream = stream → g (f s) = g s) :
      (t.modify stream f).sockets.map g = t.sockets.map g := by
    simp only [SocketTable.modify, List.map_map]
    apply List.map_congr_left
    intro s hs
    by_cases heq : s.stream = stream
    · simp [heq, hg s hs heq]
    · simp [heq]
  constructor
  · rw [hsame _ hstream]
    exact h.streams
  · rw [hsame _ haddress]
    exact h.addresses

/-- Of distinct sockets only one is of the stream. -/
theorem Distinct.forall_of_get? (h : t.Distinct) {s : Socket} (hs : t.get? stream = some s)
    {p : Socket → Prop} (hp : p s) : ∀ s' ∈ t.sockets, s'.stream = stream → p s' := by
  intro s' hs' heq
  have := h.get?_eq_some hs'
  rw [heq, hs, Option.some.injEq] at this
  exact this ▸ hp

end Modify

/-! ### Removing a socket -/

section Erase

variable {t : SocketTable} {stream : UInt8}

@[simp] theorem get?_erase (t : SocketTable) (stream : UInt8) :
    (t.erase stream).get? stream = none := by
  simp [get?, erase]

@[simp] theorem others_erase (t : SocketTable) (stream : UInt8) :
    (t.erase stream).others stream = t.others stream := by
  simp [others, erase, List.filter_filter]

theorem Distinct.erase (h : t.Distinct) : (t.erase stream).Distinct :=
  h.of_sublist List.filter_sublist

/-- Whatever a socket went through, it can be removed as if it had not. -/
theorem erase_modify {f : Socket → Socket} (hf : ∀ s, (f s).stream = s.stream) :
    (t.modify stream f).erase stream = t.erase stream := by
  have : (t.modify stream f).others stream = t.others stream :=
    others_modify fun s _ heq => (hf s).trans heq
  simpa [others, SocketTable.erase, modify] using this

theorem contains_of_get? {s : Socket} (h : t.get? stream = some s) :
    t.contains stream = true := by
  rw [contains_eq_isSome_get?, h, Option.isSome_some]

end Erase

/-! ### Adding a socket -/

section Create

variable {t t' : SocketTable} {address : Address} {stream : UInt8}

/-- A socket is added for a stream that had none. -/
theorem create_eq_ok (h : t.create address = .ok (stream, t')) :
    t.get? stream = none ∧ t'.sockets = t.sockets ++ [{ stream := stream, address := address }] := by
  unfold create at h
  split at h
  · contradiction
  split at h
  · contradiction
  next candidate hfree =>
    simp only [Except.ok.injEq, Prod.mk.injEq] at h
    obtain ⟨rfl, rfl⟩ := h
    have hfresh := contains_of_firstFree? hfree
    rw [contains_eq_isSome_get?] at hfresh
    exact ⟨by simpa using hfresh, rfl⟩

theorem get?_create (h : t.create address = .ok (stream, t')) :
    t'.get? stream = some { stream := stream, address := address } := by
  obtain ⟨hnone, hsockets⟩ := create_eq_ok h
  unfold get? at hnone ⊢
  rw [hsockets, List.find?_append, hnone]
  simp

theorem others_create (h : t.create address = .ok (stream, t')) :
    t'.others stream = t.others stream := by
  obtain ⟨-, hsockets⟩ := create_eq_ok h
  simp [others, hsockets]

theorem Distinct.create (hd : t.Distinct) (haddress : t.lookup address = none)
    (h : t.create address = .ok (stream, t')) : t'.Distinct := by
  obtain ⟨hnone, hsockets⟩ := create_eq_ok h
  constructor
  · rw [hsockets, List.map_append, List.nodup_append]
    refine ⟨hd.streams, by simp, ?_⟩
    intro a ha b hb hab
    obtain ⟨s, hs, rfl⟩ := List.mem_map.mp ha
    have := List.find?_eq_none.mp hnone s hs
    simp_all
  · rw [hsockets, List.map_append, List.nodup_append]
    refine ⟨hd.addresses, by simp, ?_⟩
    intro a ha b hb hab
    obtain ⟨s, hs, rfl⟩ := List.mem_map.mp ha
    have := List.find?_eq_none.mp haddress s hs
    simp_all

end Create

end StreamLink.SocketTable
