import Lccc.Abi.IntoIterSound

/-!
# Lccc.Abi.VecDrop

**Dropping a `Vec` drops its elements once and frees what was allocated.** `Drop for Vec` drops
the first `len` slots in place and then recomputes the allocation's size in bytes with
`cap.checked_mul(size_of::<T>()).unwrap()`, which panics on overflow. That panic never happens:

* `Fits size v` says that `cap * size_of::<T>()` fits in a `usize`. Every allocation is sized
  by the same checked product (`with_capacity_in`, `reallocate`), and every other operation
  keeps the capacity, so every reachable vector fits (`Reachable.fits`);
* on a vector that holds `l` and fits, `drop` drops exactly `l`, in order, and frees the
  allocation exactly when `T` is sized and there is one: never the dangling pointer of
  `new_in` or of a zero-sized `T`, and never an allocation leaked (`reachable_drop`).
-/

namespace Lccc.Abi

namespace Vec

variable {α : Type} {size : Nat}

/-- The capacity in bytes of `v` fits in a `usize`. -/
def Fits (size : Nat) (v : Vec α) : Prop := v.cap * size ≤ usizeMax

theorem le_of_checkedMul_eq_some {a b c : Nat} (h : checkedMul a b = some c) :
    a * b ≤ usizeMax := by
  unfold checkedMul at h
  split at h
  · assumption
  · cases h

theorem checkedMul_of_le {a b : Nat} (h : a * b ≤ usizeMax) : checkedMul a b = some (a * b) :=
  if_pos h

/-! ### Allocation is sized by a checked product -/

theorem fits_newIn : Fits size (newIn : Vec α) := by
  simp [Fits, newIn, usizeMax]

theorem fits_withCapacityIn {c : Nat} {w : Vec α} (h : withCapacityIn size c = .ok w) :
    Fits size w := by
  simp only [withCapacityIn, bind_eq_ok, unwrap_eq_ok] at h
  obtain ⟨cap, -, raw, hraw, h⟩ := h
  split at h <;> cases h <;> exact le_of_checkedMul_eq_some hraw

theorem Fits.reallocate {v v' : Vec α} {ncap : Nat} (hv : Fits size v)
    (h : reallocate size v ncap = .ok v') : Fits size v' := by
  unfold Vec.reallocate at h
  split at h
  · obtain ⟨raw, hraw, h⟩ := bind_eq_ok.1 h
    have hfits := le_of_checkedMul_eq_some (unwrap_eq_ok.1 hraw)
    split at h <;> cases h
    · exact hv
    · exact hfits
  · cases h
    exact hv

/-! ### Every operation keeps it -/

section Operations

variable {v v' : Vec α}

theorem Fits.push {x : α} (hv : Fits size v) (h : Vec.push size v x = .ok v') : Fits size v' := by
  rw [push_eq] at h
  obtain ⟨v1, h1, h⟩ := bind_eq_ok.1 h
  obtain ⟨mem, -, h⟩ := bind_eq_ok.1 h
  cases h
  split at h1
  · obtain ⟨ncap, -, h1⟩ := bind_eq_ok.1 h1
    exact (hv.reallocate h1 :)
  · cases h1
    exact hv

theorem Fits.pop {r : Option α} (hv : Fits size v) (h : Vec.pop v = .ok (v', r)) :
    Fits size v' := by
  unfold Vec.pop at h
  split at h
  · cases h
    exact hv
  · obtain ⟨x, -, h⟩ := bind_eq_ok.1 h
    cases h
    exact hv

theorem Fits.reserve {k : Nat} (hv : Fits size v) (h : Vec.reserve size v k = .ok v') :
    Fits size v' := by
  unfold Vec.reserve at h
  obtain ⟨n, -, h⟩ := bind_eq_ok.1 h
  obtain ⟨ncap, -, h⟩ := bind_eq_ok.1 h
  split at h
  · exact hv.reallocate h
  · cases h
    exact hv

theorem Fits.foldlM_push {β : Type} (f : β → α) (xs : List β) :
    ∀ {v v' : Vec α}, Fits size v →
      xs.foldlM (fun v x => Vec.push size v (f x)) v = .ok v' → Fits size v' := by
  induction xs with
  | nil =>
    intro v v' hv h
    cases h
    exact hv
  | cons x xs ih =>
    intro v v' hv h
    obtain ⟨v1, h1, h⟩ := bind_eq_ok.1 h
    exact ih (hv.push h1) h

theorem Fits.extendFromSlice {cl : α → α} {xs : List α} (hv : Fits size v)
    (h : Vec.extendFromSlice size cl v xs = .ok v') : Fits size v' := by
  obtain ⟨v1, h1, h⟩ := bind_eq_ok.1 h
  exact Fits.foldlM_push cl xs (hv.reserve h1) h

theorem Fits.extend {hint : Nat} {xs : List α} (hv : Fits size v)
    (h : Vec.extend size v hint xs = .ok v') : Fits size v' := by
  obtain ⟨v1, h1, h⟩ := bind_eq_ok.1 h
  exact Fits.foldlM_push id xs (hv.reserve h1) h

/-- `split_off` keeps the capacity; the vector it returns is a new allocation. -/
theorem Fits.splitOff {v1 w : Vec α} {n : Nat} (hv : Fits size v)
    (h : Vec.splitOff size v n = .ok (v1, w)) : Fits size v1 ∧ Fits size w := by
  unfold Vec.splitOff at h
  obtain ⟨⟨⟩, -, h⟩ := bind_eq_ok.1 h
  obtain ⟨new, hnew, h⟩ := bind_eq_ok.1 h
  obtain ⟨mem, -, h⟩ := bind_eq_ok.1 h
  cases h
  exact ⟨hv, (fits_withCapacityIn hnew :)⟩

theorem Fits.splitOffBack {v1 w : Vec α} {n : Nat} (hv : Fits size v)
    (h : Vec.splitOffBack size v n = .ok (v1, w)) : Fits size v1 ∧ Fits size w := by
  unfold Vec.splitOffBack at h
  obtain ⟨⟨⟩, -, h⟩ := bind_eq_ok.1 h
  obtain ⟨new, hnew, h⟩ := bind_eq_ok.1 h
  obtain ⟨mem, -, h⟩ := bind_eq_ok.1 h
  cases h
  exact ⟨hv, (fits_withCapacityIn hnew :)⟩

theorem Fits.shrink {n : Nat} (hv : Fits size v) (h : Vec.shrink v n = .ok v') : Fits size v' := by
  obtain ⟨⟨⟩, -, h⟩ := bind_eq_ok.1 h
  cases h
  exact hv

theorem fits_clone {isCopy : Bool} {cl : α → α} (h : Vec.clone size isCopy cl v = .ok v') :
    Fits size v' := by
  obtain ⟨nvec, hnew, h⟩ := bind_eq_ok.1 h
  dsimp only at h
  split at h <;> obtain ⟨mem, -, h⟩ := bind_eq_ok.1 h <;> cases h <;>
    exact (fits_withCapacityIn hnew :)

theorem Fits.write {v v' : Vec UInt8} {buf : List UInt8} {n : Nat} (hv : Fits 1 v)
    (h : v.write buf = .ok (v', n)) : Fits 1 v' := by
  obtain ⟨v1, h1, h⟩ := bind_eq_ok.1 h
  obtain ⟨mem, -, h⟩ := bind_eq_ok.1 h
  cases h
  exact (hv.reserve h1 :)

end Operations

/-! ### Vectors built from elements -/

theorem fits_vecMacro {xs : List α} {v : Vec α} (h : Vec.vecMacro size xs = .ok v) :
    Fits size v := by
  obtain ⟨w, hw, h⟩ := bind_eq_ok.1 h
  obtain ⟨mem, -, h⟩ := bind_eq_ok.1 h
  cases h
  exact (fits_withCapacityIn hw :)

theorem fits_fromStdVec {xs : List α} {v : Vec α} (h : Vec.fromStdVec size xs = .ok v) :
    Fits size v := by
  unfold Vec.fromStdVec at h
  split at h
  · cases h
    exact fits_newIn
  · exact fits_vecMacro h

theorem fits_fromSlice {cl : α → α} {xs : List α} {v : Vec α}
    (h : Vec.fromSlice size cl xs = .ok v) : Fits size v := by
  unfold Vec.fromSlice at h
  split at h
  · cases h
    exact fits_newIn
  · obtain ⟨w, hw, h⟩ := bind_eq_ok.1 h
    exact (fits_withCapacityIn hw).extendFromSlice h

theorem fits_vecMacroRepeat {cl : α → α} {x : α} {n : Nat} {v : Vec α}
    (h : Vec.vecMacroRepeat size cl x n = .ok v) : Fits size v := by
  obtain ⟨w, hw, h⟩ := bind_eq_ok.1 h
  exact Fits.foldlM_push (fun _ => cl x) (List.range n) (fits_withCapacityIn hw) h

theorem fits_fromIter {hint : Nat} {xs : List α} {v : Vec α}
    (h : Vec.fromIter size hint xs = .ok v) : Fits size v := by
  obtain ⟨w, hw, h⟩ := bind_eq_ok.1 h
  exact Fits.foldlM_push id xs (fits_withCapacityIn hw) h

/-- Every reachable vector's capacity in bytes fits in a `usize`. -/
theorem Reachable.fits {v : Vec α} (h : Reachable size v) : Fits size v := by
  induction h with
  | newIn => exact fits_newIn
  | withCapacityIn h => exact fits_withCapacityIn h
  | fromSlice h => exact fits_fromSlice h
  | fromStdVec h => exact fits_fromStdVec h
  | vecMacro h => exact fits_vecMacro h
  | vecMacroRepeat h => exact fits_vecMacroRepeat h
  | fromIter h => exact fits_fromIter h
  | push _ h ih => exact ih.push h
  | pop _ h ih => exact ih.pop h
  | reserve _ h ih => exact ih.reserve h
  | clear _ ih => exact ih
  | extendFromSlice _ h ih => exact ih.extendFromSlice h
  | extend _ h ih => exact ih.extend h
  | splitOffKept _ h ih => exact (ih.splitOff h).1
  | splitOffReturned _ h ih => exact (ih.splitOff h).2
  | splitOffBackKept _ h ih => exact (ih.splitOffBack h).1
  | splitOffBackReturned _ h ih => exact (ih.splitOffBack h).2
  | shrink _ h ih => exact ih.shrink h
  | clone _ h => exact fits_clone h
  | write _ h ih => exact ih.write h

/-! ### `Drop` -/

/-- On a vector that holds `l` and fits, `drop` drops `l` and frees the allocation when `T` is
sized and it has slots. -/
theorem Holds.drop {v : Vec α} {l : List α} (hv : Holds size v l) (hf : Fits size v)
    (needsDrop : Bool) :
    v.drop size needsDrop = .ok (if needsDrop then l else [], size != 0 && !v.mem.isEmpty) := by
  obtain ⟨rest, hr⟩ := hv.mem_eq
  have hread : (List.range' 0 v.len).mapM (readSlot v.mem) = .ok l := by
    rw [hr, hv.len_eq, IntoIter.mapM_readSlot_range' _ 0 (by simp), List.drop_zero,
      List.take_length]
  have hfreed : (v.cap * size != 0) = (size != 0 && !v.mem.isEmpty) := by
    by_cases hs : size = 0
    · simp [hs]
    · rw [← hv.alloc hs, Bool.eq_iff_iff]
      simp [hs, Nat.mul_eq_zero, List.isEmpty_iff]
  cases needsDrop <;>
    simp only [Vec.drop, ↓reduceIte, Bool.false_eq_true, hread, ok_bind, checkedMul_of_le hf,
      unwrap, hfreed]

/-- Dropping a vector the program built never panics: it drops exactly the elements the vector
holds, in order, when `T` needs dropping, and it frees the allocation exactly when `T` is sized
and the vector has slots, never the dangling pointer of an empty or zero-sized vector. -/
theorem reachable_drop {v : Vec α} (h : Reachable size v) (needsDrop : Bool) :
    ∃ l, Holds size v l ∧
      v.drop size needsDrop = .ok (if needsDrop then l else [], size != 0 && !v.mem.isEmpty) :=
  let ⟨l, hl⟩ := h.holds
  ⟨l, hl, hl.drop h.fits needsDrop⟩

/-- A vector of `u64`s after one `push`: its one element is dropped and its allocation freed. -/
theorem pushed_drop :
    ∃ l, Holds 8 ({ mem := [some 5], cap := 1, len := 1 } : Vec Nat) l ∧
      Vec.drop 8 true ({ mem := [some 5], cap := 1, len := 1 } : Vec Nat) =
        .ok (if true then l else [], 8 != 0 && !List.isEmpty [some 5]) :=
  @reachable_drop Nat 8 ⟨[some 5], 1, 1⟩ (.push .newIn rfl) true

end Vec

end Lccc.Abi
