import StreamLink.Ring

/-!
# The bytes in a ring

A ring holds its bytes from the head on, across the wrap. Storing a byte adds it behind what the ring
holds, as long as a cell stays free, and consuming takes bytes away at the front; positions that wrap
do not show.
-/

namespace StreamLink.Ring

variable (r : Ring)

@[simp] theorem length_copyFrom (i : UInt8) (n : Nat) : (r.copyFrom i n).length = n := by
  induction n generalizing i with
  | zero => rfl
  | succ n ih => simp [copyFrom, ih]

@[simp] theorem length_contents : r.contents.length = r.occupied :=
  length_copyFrom ..

theorem copyFrom_add (i : UInt8) (n k : Nat) :
    r.copyFrom i (n + k) = r.copyFrom i n ++ r.copyFrom (i + UInt8.ofNat n) k := by
  induction n generalizing i with
  | zero => simp [copyFrom]
  | succ n ih =>
      have hnext : i + 1 + UInt8.ofNat n = i + UInt8.ofNat (n + 1) := by
        rw [UInt8.add_assoc, UInt8.ofNat_add, UInt8.add_comm 1]
        rfl
      rw [Nat.add_right_comm, copyFrom, copyFrom, ih, hnext, List.cons_append]

/-! ### Writing -/

theorem load_push (b i : UInt8) : (r.push b).load i = if i = r.tail then b else r.load i := by
  unfold load push
  rw [Vector.getElem_set]
  simp only [UInt8.toNat_inj, eq_comm]

/-- Cells before the tail keep their bytes. -/
theorem copyFrom_push (b i : UInt8) {n : Nat} (h : n ≤ (r.tail - i).toNat) :
    (r.push b).copyFrom i n = r.copyFrom i n := by
  induction n generalizing i with
  | zero => rfl
  | succ n ih =>
      have hne : i ≠ r.tail := by
        rintro rfl
        simp at h
      have hnext : n ≤ (r.tail - (i + 1)).toNat := by
        revert h
        simp only [UInt8.toNat_sub, UInt8.toNat_add, UInt8.toNat_one]
        have := i.toNat_lt
        have := r.tail.toNat_lt
        omega
      rw [copyFrom, copyFrom, load_push, if_neg hne, ih (i + 1) hnext]

theorem head_add_occupied : r.head + UInt8.ofNat r.occupied = r.tail := by
  rw [occupied, UInt8.ofNat_toNat, UInt8.add_comm, UInt8.sub_add_cancel]

@[simp] theorem head_publish (bytes : Bytes) : (r.publish bytes).head = r.head := by
  induction bytes generalizing r with
  | nil => rfl
  | cons b bytes ih => exact ih (r.push b)

/-- The tail counts the bytes that were stored, as far as it can. -/
theorem tail_publish (bytes : Bytes) :
    (r.publish bytes).tail = r.tail + UInt8.ofNat bytes.length := by
  induction bytes generalizing r with
  | nil => simp [publish]
  | cons b bytes ih =>
      calc (r.publish (b :: bytes)).tail
          = r.tail + 1 + UInt8.ofNat bytes.length := ih (r.push b)
        _ = r.tail + UInt8.ofNat (b :: bytes).length := by
          rw [List.length_cons, UInt8.add_assoc, UInt8.ofNat_add, UInt8.add_comm 1]
          rfl

variable {r}

theorem occupied_push (b : UInt8) (h : r.occupied < maxOccupancy) :
    (r.push b).occupied = r.occupied + 1 := by
  revert h
  simp only [occupied, push, UInt8.toNat_sub, UInt8.toNat_add, UInt8.toNat_one, maxOccupancy]
  have := r.head.toNat_lt
  have := r.tail.toNat_lt
  omega

theorem contents_push (b : UInt8) (h : r.occupied < maxOccupancy) :
    (r.push b).contents = r.contents ++ [b] := by
  have hkept : (r.push b).copyFrom r.head r.occupied = r.contents :=
    r.copyFrom_push b r.head (Nat.le_refl _)
  have hlast : (r.push b).copyFrom r.tail 1 = [b] := by
    rw [copyFrom, load_push, if_pos rfl, copyFrom]
  calc (r.push b).contents
      = (r.push b).copyFrom r.head (r.occupied + 1) := by rw [contents, occupied_push b h]; rfl
    _ = r.contents ++ [b] := by rw [copyFrom_add, hkept, head_add_occupied, hlast]

/-- Bytes that fit are added behind the others. -/
theorem contents_publish {bytes : Bytes} (h : r.occupied + bytes.length ≤ maxOccupancy) :
    (r.publish bytes).contents = r.contents ++ bytes := by
  induction bytes generalizing r with
  | nil => simp [publish]
  | cons b bytes ih =>
      rw [List.length_cons] at h
      have hroom : r.occupied < maxOccupancy := by omega
      have hrest : (r.push b).occupied + bytes.length ≤ maxOccupancy := by
        rw [occupied_push b hroom]
        omega
      calc (r.publish (b :: bytes)).contents
          = ((r.push b).publish bytes).contents := rfl
        _ = r.contents ++ b :: bytes := by rw [ih hrest, contents_push b hroom]; simp

/-! ### Reading -/

theorem copyFrom_head {n : Nat} (h : n ≤ r.occupied) : r.copyFrom r.head n = r.contents.take n := by
  obtain ⟨k, hk⟩ := Nat.exists_eq_add_of_le h
  rw [contents, hk, copyFrom_add]
  simp

/-- What is consumed is gone, and the rest stays. -/
theorem contents_consume {n : Nat} (h : n ≤ r.occupied) :
    (r.consume n).contents = r.contents.drop n := by
  obtain ⟨k, hk⟩ := Nat.exists_eq_add_of_le h
  have hleft : (r.consume n).occupied = k := by
    rw [occupied_consume h, hk, Nat.add_sub_cancel_left]
  have hcells (i : UInt8) (k : Nat) : (r.consume n).copyFrom i k = r.copyFrom i k := by
    induction k generalizing i with
    | zero => rfl
    | succ k ih => rw [copyFrom, copyFrom, ih]; rfl
  calc (r.consume n).contents
      = r.copyFrom (r.head + UInt8.ofNat n) k := by rw [contents, hleft, hcells]; rfl
    _ = r.contents.drop n := by rw [contents, hk, copyFrom_add]; simp

theorem contents_discardAll : r.discardAll.contents = [] := by
  rw [← List.length_eq_zero_iff, length_contents, occupied_discardAll]

/-- The header is the first three bytes. -/
theorem peekHeader?_eq {length kind stream : UInt8} {rest : Bytes}
    (h : r.contents = length :: kind :: stream :: rest) :
    r.peekHeader? = some ⟨length, kind, stream⟩ := by
  have hoccupied : r.occupied = rest.length + 3 := by
    rw [← length_contents, h]
    rfl
  have hthree : r.copyFrom r.head 3 = [length, kind, stream] := by
    rw [copyFrom_head (by omega), h]
    rfl
  obtain ⟨rfl, rfl, rfl⟩ : r.load r.head = length ∧ r.load (r.head + 1) = kind ∧
      r.load (r.head + 2) = stream := by
    have htwo : r.head + 1 + 1 = r.head + 2 := by rw [UInt8.add_assoc]; rfl
    simpa [copyFrom, htwo] using hthree
  have hwhole : ¬ r.occupied < headerSize := by simp [hoccupied]
  rw [peekHeader?, if_neg hwhole]

end StreamLink.Ring
