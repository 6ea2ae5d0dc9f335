import Lccc.Abi.Vec

/-!
# Lccc.Abi.VecSound

**What a `Vec` stands for.** `Holds size v l` says that `v` holds the list `l`: its length is
`l`'s, its allocation starts with `l`'s elements, initialised, and for a sized `T` the allocation
has exactly `cap` slots. This is the reading of a `Vec` as "the list of its first `len`
elements", with the invariant that makes that reading sound; it determines `l`
(`Holds.unique`).

Every operation keeps it, as the list operation it documents (`Holds.push`, `Holds.pop`, ...),
and never reaches undefined behaviour on the way: its raw reads and writes stay inside the
allocation and read initialised slots. `Write::write` is the exception to the list reading: it
copies the bytes after the last element and never moves `len`, so the bytes are not part of the
vector.
-/

namespace Lccc.Abi

/-! ### Raw memory -/

section Memory

variable {α : Type} {size : Nat}

/-- Writing the slot after a prefix `p` replaces the first slot of what follows, or appends one
for a zero-sized `T`. -/
theorem writeSlot_append (p rest : List (Option α)) (x : Option α) (h : rest ≠ [] ∨ size = 0) :
    writeSlot size (p ++ rest) p.length x = .ok (p ++ x :: rest.tail) := by
  cases rest with
  | nil =>
    simp only [ne_eq, not_true_eq_false, false_or] at h
    simp [writeSlot, h]
  | cons r rest => simp [writeSlot]

/-- Consecutive writes after a prefix `p` replace as many slots as they write. -/
theorem writeSlots_append (xs : List (Option α)) :
    ∀ (p rest : List (Option α)), xs.length ≤ rest.length ∨ size = 0 →
      writeSlots size (p ++ rest) p.length xs = .ok (p ++ xs ++ rest.drop xs.length) := by
  induction xs with
  | nil => intro p rest _; simp [writeSlots]
  | cons x xs ih =>
    intro p rest h
    have hr : rest ≠ [] ∨ size = 0 := by
      rcases h with h | h
      · exact .inl (List.ne_nil_of_length_pos (by simp at h; omega))
      · exact .inr h
    have ht : xs.length ≤ rest.tail.length ∨ size = 0 := by
      rcases h with h | h
      · exact .inl (by simp at h ⊢; omega)
      · exact .inr h
    rw [writeSlots, writeSlot_append p rest x hr, ok_bind,
      show p ++ x :: rest.tail = (p ++ [x]) ++ rest.tail by simp,
      show p.length + 1 = (p ++ [x]).length by simp, ih _ _ ht]
    simp [List.drop_tail]

theorem writeSlots_singleton (mem : List (Option α)) (i : Nat) (x : Option α) :
    writeSlots size mem i [x] = writeSlot size mem i x := by
  simp only [writeSlots]
  cases writeSlot size mem i x <;> rfl

/-- Reading the slots of a middle part `q`. -/
theorem readSlots_append (p q r : List (Option α)) :
    readSlots size (p ++ q ++ r) p.length q.length = .ok q := by
  unfold readSlots
  rw [if_neg fun h => absurd h.2 (by simp only [List.length_append]; omega)]
  simp only [List.append_assoc, List.drop_left, List.take_left, List.length_append,
    Nat.add_sub_cancel_left]
  rw [Nat.sub_eq_zero_of_le (Nat.le_add_right _ _)]
  simp

/-- Reading a slot among the initialised ones. -/
theorem readSlot_map_some_append {xs : List α} {rest : List (Option α)} {i : Nat}
    (h : i < xs.length) : readSlot (xs.map some ++ rest) i = .ok xs[i] := by
  simp [readSlot, List.getElem?_append_left (by simpa using h : i < (xs.map some).length), h]

end Memory

namespace Vec

variable {α : Type} {size : Nat}

/-! ### The list a `Vec` holds -/

/-- `v` holds `l`: `len` is `l`'s length, the allocation starts with `l`'s elements
(initialised), and a sized `T`'s allocation has exactly `cap` slots. -/
structure Holds (size : Nat) (v : Vec α) (l : List α) : Prop where
  len_eq : v.len = l.length
  mem_eq : ∃ rest, v.mem = l.map some ++ rest
  alloc : size ≠ 0 → v.mem.length = v.cap

/-- A `Vec` holds one list at most. -/
theorem Holds.unique {v : Vec α} {l l' : List α} (h : Holds size v l) (h' : Holds size v l') :
    l = l' := by
  obtain ⟨r, hr⟩ := h.mem_eq
  obtain ⟨r', hr'⟩ := h'.mem_eq
  have hlen : (l.map some).length = (l'.map some).length := by
    simp only [List.length_map, ← h.len_eq, ← h'.len_eq]
  simpa [Function.comp_def] using congrArg (List.filterMap id) (List.append_inj (hr.symm.trans hr') hlen).1

/-- A sized `T`'s held elements fit in the capacity. -/
theorem Holds.len_le_cap {v : Vec α} {l : List α} (hv : Holds size v l) (hs : size ≠ 0) :
    v.len ≤ v.cap := by
  obtain ⟨rest, hr⟩ := hv.mem_eq
  have hlen := congrArg List.length hr
  simp only [List.length_append, List.length_map] at hlen
  have := hv.alloc hs
  have := hv.len_eq
  omega

theorem holds_newIn : Holds size (newIn : Vec α) [] := ⟨rfl, ⟨[], rfl⟩, fun _ => rfl⟩

/-- A new vector holds nothing and has room for the capacity asked for. -/
theorem holds_withCapacityIn {c : Nat} {w : Vec α} (h : withCapacityIn size c = .ok w) :
    Holds size w [] ∧ (size ≠ 0 → c ≤ w.cap) := by
  simp only [withCapacityIn, bind_eq_ok, unwrap_eq_ok] at h
  obtain ⟨cap, hcap, raw, hraw, h⟩ := h
  obtain rfl := checkedMul_eq_some hraw
  have hle := le_of_checkedNextPowerOfTwo hcap
  have hpos := pos_of_checkedNextPowerOfTwo hcap
  split at h <;> cases h
  · rename_i h0
    exact ⟨⟨rfl, ⟨[], rfl⟩, fun hs => absurd h0 (Nat.mul_ne_zero (Nat.ne_of_gt hpos) hs)⟩,
      fun hs => absurd h0 (Nat.mul_ne_zero (Nat.ne_of_gt hpos) hs)⟩
  · exact ⟨⟨rfl, ⟨_, rfl⟩, fun _ => List.length_replicate _ _⟩, fun _ => hle⟩

/-! ### Growth -/

/-- `reallocate` keeps the list; for a sized `T` it leaves room for at least `ncap` slots. -/
theorem Holds.reallocate {v v' : Vec α} {l : List α} {ncap : Nat} (hv : Holds size v l)
    (h : reallocate size v ncap = .ok v') : Holds size v' l ∧ (size ≠ 0 → ncap ≤ v'.cap) := by
  unfold Vec.reallocate at h
  split at h
  · rename_i hlt
    obtain ⟨raw, hraw, h⟩ := bind_eq_ok.1 h
    obtain rfl := checkedMul_eq_some (unwrap_eq_ok.1 hraw)
    split at h <;> cases h
    · rename_i h0
      exact ⟨hv, fun hs => absurd h0 (Nat.mul_ne_zero (by omega) hs)⟩
    · rename_i h0
      have hs : size ≠ 0 := fun hs => h0 (by simp [hs])
      obtain ⟨rest, hr⟩ := hv.mem_eq
      have htake : v.mem.take v.cap = v.mem := List.take_of_length_le (Nat.le_of_eq (hv.alloc hs))
      refine ⟨⟨hv.len_eq, ⟨rest ++ List.replicate (ncap - v.cap) none, ?_⟩, fun _ => ?_⟩,
        fun _ => Nat.le_refl _⟩
      · rw [htake, hr, List.append_assoc]
      · simp [htake, hv.alloc hs]; omega
  · cases h
    exact ⟨hv, fun _ => by omega⟩

/-- Writing the slots `xs` after the held elements, when a sized `T` has room for them: the
allocation then starts with the held elements and `xs`, and keeps its size. -/
theorem Holds.writeSlots_len {v : Vec α} {l : List α} (hv : Holds size v l) (xs : List (Option α))
    (hroom : size ≠ 0 → v.len + xs.length ≤ v.cap) :
    ∃ rest, writeSlots size v.mem v.len xs = .ok (l.map some ++ xs ++ rest) ∧
      (size ≠ 0 → (l.map some ++ xs ++ rest).length = v.cap) := by
  obtain ⟨rest, hr⟩ := hv.mem_eq
  have hlen := congrArg List.length hr
  simp only [List.length_append, List.length_map] at hlen
  have := hv.len_eq
  have hfit : xs.length ≤ rest.length ∨ size = 0 := or_iff_not_imp_right.2 fun hs => by
    have := hv.alloc hs
    have := hroom hs
    omega
  refine ⟨rest.drop xs.length, ?_, fun hs => ?_⟩
  · rw [hr, hv.len_eq, ← List.length_map l some]
    exact writeSlots_append xs _ rest hfit
  · have := hv.alloc hs
    have := hroom hs
    simp only [List.length_append, List.length_map, List.length_drop]
    omega

/-- Writing `x` after the held elements, when a sized `T` has room for it. -/
theorem Holds.writeSlot_len {v : Vec α} {l : List α} (hv : Holds size v l)
    (hroom : size ≠ 0 → v.len < v.cap) (x : α) :
    ∃ mem, writeSlot size v.mem v.len (some x) = .ok mem ∧
      Holds size { v with mem, len := v.len + 1 } (l ++ [x]) := by
  obtain ⟨rest, hw, hcap⟩ := hv.writeSlots_len [some x] hroom
  rw [writeSlots_singleton] at hw
  exact ⟨_, hw, ⟨by simp [hv.len_eq], ⟨rest, by simp⟩, hcap⟩⟩

/-- `push` is its growth step followed by the write of the new element. -/
theorem push_eq (v : Vec α) (x : α) :
    Vec.push size v x =
      (if v.len = v.cap then unwrap (checkedNextPowerOfTwo (v.cap + 1)) >>= Vec.reallocate size v
        else .ok v) >>= fun v =>
        writeSlot size v.mem v.len (some x) >>= fun mem => .ok { v with mem, len := v.len + 1 } := by
  unfold Vec.push
  split <;> simp only [bind_assoc, ok_bind]

/-- The growth step of `push`: a full vector is reallocated to the next power of two above its
capacity. It keeps the list and leaves room for one more element. -/
theorem Holds.pushGrow {v v1 : Vec α} {l : List α} (hv : Holds size v l)
    (h : (if v.len = v.cap then unwrap (checkedNextPowerOfTwo (v.cap + 1)) >>= Vec.reallocate size v
      else .ok v) = .ok v1) : Holds size v1 l ∧ (size ≠ 0 → v1.len < v1.cap) := by
  split at h
  · obtain ⟨ncap, hn, h⟩ := bind_eq_ok.1 h
    have hle := le_of_checkedNextPowerOfTwo (unwrap_eq_ok.1 hn)
    obtain ⟨hh, hc⟩ := hv.reallocate h
    refine ⟨hh, fun hs => ?_⟩
    have := hc hs
    rw [hh.len_eq, ← hv.len_eq]
    omega
  · rename_i hfull
    cases h
    exact ⟨hv, fun hs => Nat.lt_of_le_of_ne (hv.len_le_cap hs) hfull⟩

/-- `push x` appends `x`. -/
theorem Holds.push {v v' : Vec α} {l : List α} {x : α} (hv : Holds size v l)
    (h : push size v x = .ok v') : Holds size v' (l ++ [x]) := by
  rw [push_eq] at h
  obtain ⟨v1, h1, h⟩ := bind_eq_ok.1 h
  obtain ⟨hv1, hroom⟩ := hv.pushGrow h1
  obtain ⟨mem, hw, hh⟩ := hv1.writeSlot_len hroom x
  rw [hw, ok_bind] at h
  cases h
  exact hh

/-- `pop` removes and returns the last element, and returns `None` on an empty vector. -/
theorem Holds.pop {v v' : Vec α} {l : List α} {r : Option α} (hv : Holds size v l)
    (h : pop v = .ok (v', r)) : Holds size v' l.dropLast ∧ r = l.getLast? := by
  unfold Vec.pop at h
  split at h
  · rename_i h0
    cases h
    obtain rfl : l = [] := List.eq_nil_of_length_eq_zero (hv.len_eq ▸ h0)
    exact ⟨hv, rfl⟩
  · rename_i h0
    obtain ⟨x, hx, h⟩ := bind_eq_ok.1 h
    cases h
    rcases List.eq_nil_or_concat l with rfl | ⟨L, b, rfl⟩
    · exact absurd hv.len_eq h0
    rw [List.concat_eq_append] at hv ⊢
    obtain ⟨rest, hr⟩ := hv.mem_eq
    have hlen : v.len - 1 = L.length := by simp [hv.len_eq]
    have hr' : v.mem = L.map some ++ some b :: rest := by simp [hr]
    have hb : v.mem[L.length]? = some (some b) := by
      rw [hr', List.getElem?_append_right (by simp)]
      simp
    simp only [hlen, readSlot, hb, Except.ok.injEq] at hx
    subst hx
    exact ⟨⟨by simpa using hlen, ⟨some b :: rest, by simpa using hr'⟩, hv.alloc⟩, by simp⟩

/-- `pop` never fails on a vector that holds a list. -/
theorem Holds.pop_ok {v : Vec α} {l : List α} (hv : Holds size v l) : ∃ r, Vec.pop v = .ok r := by
  unfold Vec.pop
  split
  · exact ⟨_, rfl⟩
  · obtain ⟨rest, hr⟩ := hv.mem_eq
    have hlt : v.len - 1 < l.length := by rw [← hv.len_eq]; omega
    simp only [hr, readSlot_map_some_append hlt, ok_bind]
    exact ⟨_, rfl⟩

/-- Cutting the length down to `n` keeps the first `n` held elements. -/
theorem Holds.take {v : Vec α} {l : List α} {n : Nat} (hv : Holds size v l) (hn : n ≤ v.len) :
    Holds size { v with len := n } (l.take n) := by
  obtain ⟨rest, hr⟩ := hv.mem_eq
  refine ⟨by simp [← hv.len_eq]; omega, ⟨(l.drop n).map some ++ rest, ?_⟩, hv.alloc⟩
  rw [hr, ← List.append_assoc, ← List.map_append, List.take_append_drop]

/-- `reserve` keeps the list; for a sized `T` it leaves room for `additional` more elements. -/
theorem Holds.reserve {v v' : Vec α} {l : List α} {k : Nat} (hv : Holds size v l)
    (h : reserve size v k = .ok v') : Holds size v' l ∧ (size ≠ 0 → v.len + k ≤ v'.cap) := by
  unfold Vec.reserve at h
  obtain ⟨n, hn, h⟩ := bind_eq_ok.1 h
  obtain rfl := checkedAdd_eq_some (unwrap_eq_ok.1 hn)
  obtain ⟨ncap, hc, hr⟩ := bind_eq_ok.1 h
  have hle := le_of_checkedNextPowerOfTwo (unwrap_eq_ok.1 hc)
  split at hr
  · obtain ⟨hh, hcap⟩ := hv.reallocate hr
    exact ⟨hh, fun hs => by have := hcap hs; omega⟩
  · cases hr
    exact ⟨hv, fun _ => by omega⟩

/-- `clear` empties the vector. -/
theorem Holds.clear {v : Vec α} {l : List α} (hv : Holds size v l) : Holds size v.clear [] :=
  ⟨rfl, ⟨v.mem, rfl⟩, hv.alloc⟩

/-- `shrink n` keeps the first `n` elements. -/
theorem Holds.shrink {v v' : Vec α} {l : List α} {n : Nat} (hv : Holds size v l)
    (h : shrink v n = .ok v') : Holds size v' (l.take n) := by
  unfold Vec.shrink at h
  obtain ⟨⟨⟩, hn, h⟩ := bind_eq_ok.1 h
  cases h
  exact hv.take (ensure_eq_ok.1 hn)

/-- Pushing the images of `xs` one by one appends them. -/
theorem Holds.foldlM_push (f : α → α) (xs : List α) :
    ∀ {v v' : Vec α} {l : List α}, Holds size v l →
      xs.foldlM (fun v x => Vec.push size v (f x)) v = .ok v' → Holds size v' (l ++ xs.map f) := by
  induction xs with
  | nil =>
    intro v v' l hv h
    cases h
    simpa using hv
  | cons x xs ih =>
    intro v v' l hv h
    obtain ⟨v1, h1, h⟩ := bind_eq_ok.1 h
    simpa using ih (hv.push h1) h

/-- `extend_from_slice xs` appends the clones of `xs`, in order. -/
theorem Holds.extendFromSlice {v v' : Vec α} {l xs : List α} {cl : α → α} (hv : Holds size v l)
    (h : Vec.extendFromSlice size cl v xs = .ok v') : Holds size v' (l ++ xs.map cl) := by
  obtain ⟨v1, h1, h⟩ := bind_eq_ok.1 h
  exact Holds.foldlM_push cl xs (hv.reserve h1).1 h

/-- `extend` appends the items, in order, whatever the iterator's size hint. -/
theorem Holds.extend {v v' : Vec α} {l xs : List α} {hint : Nat} (hv : Holds size v l)
    (h : Vec.extend size v hint xs = .ok v') : Holds size v' (l ++ xs) := by
  obtain ⟨v1, h1, h⟩ := bind_eq_ok.1 h
  simpa using Holds.foldlM_push id xs (hv.reserve h1).1 h

/-- Copying `k` held elements from `n` on into a vector that holds nothing and has room for
them makes it hold exactly those. -/
theorem Holds.copyNonoverlapping_ok {v w : Vec α} {l : List α} {n k : Nat}
    (hv : Holds size v l) (hw : Holds size w []) (hroom : size ≠ 0 → k ≤ w.cap)
    (hk : n + k ≤ l.length) :
    ∃ mem, Abi.copyNonoverlapping size v.mem n w.mem 0 k = .ok mem ∧
      Holds size { w with mem, len := k } ((l.drop n).take k) := by
  obtain ⟨rest, hr⟩ := hv.mem_eq
  have hsplit : v.mem = (l.take n).map some ++ ((l.drop n).take k).map some ++
      (((l.drop n).drop k).map some ++ rest) := by
    have hl : l.take n ++ ((l.drop n).take k ++ (l.drop n).drop k) = l := by
      rw [List.take_append_drop, List.take_append_drop]
    calc v.mem = (l.take n ++ ((l.drop n).take k ++ (l.drop n).drop k)).map some ++ rest := by
          rw [hl, hr]
      _ = _ := by simp only [List.map_append, List.append_assoc]
  have hn : ((l.take n).map some).length = n := by simp; omega
  have hq : (((l.drop n).take k).map some).length = k := by simp; omega
  have hread := @readSlots_append _ size ((l.take n).map some) (((l.drop n).take k).map some)
    (((l.drop n).drop k).map some ++ rest)
  rw [hn, hq, ← hsplit] at hread
  obtain ⟨restw, hwrite, hcap⟩ := hw.writeSlots_len (((l.drop n).take k).map some)
    fun hs => by rw [hq, show w.len = 0 from hw.len_eq, Nat.zero_add]; exact hroom hs
  rw [show w.len = 0 from hw.len_eq] at hwrite
  refine ⟨_, by rw [Abi.copyNonoverlapping, hread, ok_bind, hwrite], ⟨by simp; omega, ⟨restw, by simp⟩, hcap⟩⟩

theorem Holds.copyNonoverlapping {v w : Vec α} {l : List α} {n k : Nat} {mem : List (Option α)}
    (hv : Holds size v l) (hw : Holds size w []) (hroom : size ≠ 0 → k ≤ w.cap)
    (hk : n + k ≤ l.length) (h : Abi.copyNonoverlapping size v.mem n w.mem 0 k = .ok mem) :
    Holds size { w with mem, len := k } ((l.drop n).take k) := by
  obtain ⟨m, hm, hh⟩ := hv.copyNonoverlapping_ok hw hroom hk
  rw [hm] at h
  cases h
  exact hh

/-- `split_off n` keeps the first `n` elements and returns the rest. -/
theorem Holds.splitOff {v v1 w : Vec α} {l : List α} {n : Nat} (hv : Holds size v l)
    (h : Vec.splitOff size v n = .ok (v1, w)) : Holds size v1 (l.take n) ∧ Holds size w (l.drop n) := by
  unfold Vec.splitOff at h
  obtain ⟨⟨⟩, hn, h⟩ := bind_eq_ok.1 h
  obtain ⟨new, hnew, h⟩ := bind_eq_ok.1 h
  obtain ⟨mem, hmem, h⟩ := bind_eq_ok.1 h
  cases h
  have hn := ensure_eq_ok.1 hn
  obtain ⟨hw, hroom⟩ := holds_withCapacityIn hnew
  have hc := hv.copyNonoverlapping hw hroom (by rw [← hv.len_eq]; omega) hmem
  rw [List.take_of_length_le (by simp [← hv.len_eq])] at hc
  exact ⟨hv.take hn, hc⟩

/-- `split_off_back n` keeps all but the last `n` elements and returns those `n`. -/
theorem Holds.splitOffBack {v v1 w : Vec α} {l : List α} {n : Nat} (hv : Holds size v l)
    (h : Vec.splitOffBack size v n = .ok (v1, w)) :
    Holds size v1 (l.take (l.length - n)) ∧ Holds size w (l.drop (l.length - n)) := by
  unfold Vec.splitOffBack at h
  obtain ⟨⟨⟩, hn, h⟩ := bind_eq_ok.1 h
  obtain ⟨new, hnew, h⟩ := bind_eq_ok.1 h
  obtain ⟨mem, hmem, h⟩ := bind_eq_ok.1 h
  cases h
  have hn := ensure_eq_ok.1 hn
  obtain ⟨hw, hroom⟩ := holds_withCapacityIn hnew
  have hc := hv.copyNonoverlapping hw hroom (by rw [← hv.len_eq]; omega) hmem
  rw [List.take_of_length_le (by simp only [List.length_drop, ← hv.len_eq]; omega)] at hc
  rw [← hv.len_eq]
  exact ⟨hv.take (Nat.sub_le _ _), hc⟩

/-- The element-by-element loop of `clone`, `k` elements in: the new allocation starts with the
clones of the first `k` elements. -/
theorem Holds.clone_loop {v w : Vec α} {l : List α} {cl : α → α} (hv : Holds size v l)
    (hw : Holds size w []) (hroom : size ≠ 0 → v.len ≤ w.cap) :
    ∀ k, k ≤ v.len → ∃ mem, (List.range k).foldlM (fun mem i => do
        let x ← readSlot v.mem i
        writeSlot size mem i (some (cl x))) w.mem = .ok mem ∧
      Holds size { w with mem, len := k } ((l.take k).map cl)
  | 0, _ => ⟨w.mem, rfl, rfl, ⟨w.mem, by simp⟩, hw.alloc⟩
  | k + 1, hk => by
    obtain ⟨mem1, h1, ih⟩ := hv.clone_loop hw hroom k (by omega)
    have hkl : k < l.length := by rw [← hv.len_eq]; omega
    obtain ⟨rest, hr⟩ := hv.mem_eq
    obtain ⟨mem2, h2, hh⟩ := ih.writeSlot_len (fun hs => by have := hroom hs; simp; omega) (cl l[k])
    refine ⟨mem2, ?_, ?_⟩
    · rw [List.range_succ, List.foldlM_append, h1, ok_bind]
      simp only [List.foldlM_cons, List.foldlM_nil, hr, readSlot_map_some_append hkl, ok_bind]
      exact congrArg (· >>= pure) h2
    · rw [List.take_succ, List.getElem?_eq_getElem hkl, Option.toList_some, List.map_append,
        List.map_singleton]
      exact hh

/-- `clone` copies the list: slot for slot when `T` is `Copy`, through `clone` otherwise. -/
theorem Holds.clone {v w : Vec α} {l : List α} {isCopy : Bool} {cl : α → α} (hv : Holds size v l)
    (h : Vec.clone size isCopy cl v = .ok w) : Holds size w (if isCopy then l else l.map cl) := by
  unfold Vec.clone at h
  obtain ⟨nvec, hnew, h⟩ := bind_eq_ok.1 h
  dsimp only at h
  obtain ⟨hw, hroom⟩ := holds_withCapacityIn hnew
  cases isCopy with
  | true =>
    rw [if_pos rfl] at h
    obtain ⟨mem, hmem, h⟩ := bind_eq_ok.1 h
    cases h
    have hc := hv.copyNonoverlapping hw hroom (by rw [← hv.len_eq]; omega) hmem
    rwa [List.drop_zero, List.take_of_length_le (Nat.le_of_eq hv.len_eq.symm)] at hc
  | false =>
    rw [if_neg Bool.false_ne_true] at h
    obtain ⟨mem, hmem, h⟩ := bind_eq_ok.1 h
    cases h
    obtain ⟨m, hm, hc⟩ := hv.clone_loop hw hroom v.len (Nat.le_refl _)
    rw [hm] at hmem
    cases hmem
    rwa [show l.take v.len = l by rw [hv.len_eq, List.take_length]] at hc

/-! ### `Write::write` -/

/-- After the `reserve` of `write`, the copy of `buf` past the last element stays inside the
allocation and leaves the list alone. -/
theorem Holds.write_copy {v v1 : Vec UInt8} {l buf : List UInt8} (hv : Holds 1 v l)
    (h1 : Vec.reserve 1 v buf.length = .ok v1) :
    ∃ rest, writeSlots 1 v1.mem v1.len (buf.map some) = .ok (l.map some ++ buf.map some ++ rest) ∧
      Holds 1 { v1 with mem := l.map some ++ buf.map some ++ rest } l := by
  obtain ⟨hv1, hroom⟩ := hv.reserve h1
  obtain ⟨rest, hw, hcap⟩ := hv1.writeSlots_len (buf.map some) fun hs => by
    rw [hv1.len_eq, ← hv.len_eq, List.length_map]
    exact hroom hs
  exact ⟨rest, hw, ⟨hv1.len_eq, ⟨_, List.append_assoc _ _ _⟩, hcap⟩⟩

/-- `write` on a `Vec<u8>` reserves room and copies `buf` past the last element, but leaves the
length alone: the vector still holds the same list. -/
theorem Holds.write {v v' : Vec UInt8} {l buf : List UInt8} {n : Nat} (hv : Holds 1 v l)
    (h : v.write buf = .ok (v', n)) : Holds 1 v' l ∧ n = buf.length := by
  unfold Vec.write at h
  obtain ⟨v1, h1, h⟩ := bind_eq_ok.1 h
  obtain ⟨rest, hw, hh⟩ := hv.write_copy h1
  rw [hw, ok_bind] at h
  cases h
  exact ⟨hh, rfl⟩

/-! ### Vectors built from elements -/

/-- The array (or the buffer of a standard vector) holding `xs`, seen as a vector. -/
theorem holds_array (xs : List α) :
    Holds size ({ mem := xs.map some, cap := xs.length, len := xs.length } : Vec α) xs :=
  ⟨rfl, ⟨[], by simp⟩, fun _ => by simp⟩

/-- `vec![e, ...]` holds the elements. -/
theorem holds_vecMacro {xs : List α} {v : Vec α} (h : Vec.vecMacro size xs = .ok v) :
    Holds size v xs := by
  obtain ⟨w, hw, h⟩ := bind_eq_ok.1 h
  obtain ⟨mem, hmem, h⟩ := bind_eq_ok.1 h
  cases h
  obtain ⟨hw0, hroom⟩ := holds_withCapacityIn hw
  simpa using (holds_array xs).copyNonoverlapping hw0 hroom (by simp) hmem

/-- `From<std::vec::Vec<T>>` holds the standard vector's elements. -/
theorem holds_fromStdVec {xs : List α} {v : Vec α} (h : Vec.fromStdVec size xs = .ok v) :
    Holds size v xs := by
  unfold Vec.fromStdVec at h
  split at h
  · rename_i he
    cases h
    rw [List.isEmpty_iff.1 he]
    exact holds_newIn
  · exact holds_vecMacro h

/-- `From<&S>` holds the clones of the slice's elements. -/
theorem holds_fromSlice {cl : α → α} {xs : List α} {v : Vec α}
    (h : Vec.fromSlice size cl xs = .ok v) : Holds size v (xs.map cl) := by
  unfold Vec.fromSlice at h
  split at h
  · rename_i he
    cases h
    rw [List.isEmpty_iff.1 he]
    exact holds_newIn
  · obtain ⟨w, hw, h⟩ := bind_eq_ok.1 h
    simpa using (holds_withCapacityIn hw).1.extendFromSlice h

/-- `vec![elem; n]` holds `n` clones of `elem`. -/
theorem holds_vecMacroRepeat {cl : α → α} {x : α} {n : Nat} {v : Vec α}
    (h : Vec.vecMacroRepeat size cl x n = .ok v) : Holds size v (List.replicate n (cl x)) := by
  obtain ⟨w, hw, h⟩ := bind_eq_ok.1 h
  have hr : ((List.range n).map fun _ => x).foldlM (fun v y => Vec.push size v (cl y)) w = .ok v := by
    rwa [List.foldlM_map]
  rw [List.map_const', List.length_range] at hr
  simpa using Holds.foldlM_push cl _ (holds_withCapacityIn hw).1 hr

/-- `FromIterator` holds the items, in order, whatever the iterator's size hint. -/
theorem holds_fromIter {hint : Nat} {xs : List α} {v : Vec α}
    (h : Vec.fromIter size hint xs = .ok v) : Holds size v xs := by
  obtain ⟨w, hw, h⟩ := bind_eq_ok.1 h
  simpa using Holds.foldlM_push id xs (holds_withCapacityIn hw).1 h

/-! ### Reachable vectors -/

/-- The reachable vectors: those a program builds from `new`, `with_capacity`, the two `From`
conversions, `FromIterator` and the two forms of `vec!` with the operations above, `Write::write` on a
`Vec<u8>` included, the vectors that `split_off`, `split_off_back` and `clone` return included. -/
inductive Reachable : Nat → {α : Type} → Vec α → Prop
  | newIn {size : Nat} {α : Type} : Reachable size (newIn : Vec α)
  | withCapacityIn {size c : Nat} {α : Type} {w : Vec α} : withCapacityIn size c = .ok w →
      Reachable size w
  | fromSlice {size : Nat} {α : Type} {cl : α → α} {xs : List α} {w : Vec α} :
      fromSlice size cl xs = .ok w → Reachable size w
  | fromStdVec {size : Nat} {α : Type} {xs : List α} {w : Vec α} :
      fromStdVec size xs = .ok w → Reachable size w
  | vecMacro {size : Nat} {α : Type} {xs : List α} {w : Vec α} :
      vecMacro size xs = .ok w → Reachable size w
  | vecMacroRepeat {size : Nat} {α : Type} {cl : α → α} {x : α} {n : Nat} {w : Vec α} :
      vecMacroRepeat size cl x n = .ok w → Reachable size w
  | fromIter {size : Nat} {α : Type} {hint : Nat} {xs : List α} {w : Vec α} :
      Vec.fromIter size hint xs = .ok w → Reachable size w
  | push {size : Nat} {α : Type} {v v' : Vec α} {x : α} : Reachable size v →
      Vec.push size v x = .ok v' → Reachable size v'
  | pop {size : Nat} {α : Type} {v v' : Vec α} {r : Option α} : Reachable size v →
      Vec.pop v = .ok (v', r) → Reachable size v'
  | reserve {size : Nat} {α : Type} {v v' : Vec α} {k : Nat} : Reachable size v →
      Vec.reserve size v k = .ok v' → Reachable size v'
  | clear {size : Nat} {α : Type} {v : Vec α} : Reachable size v → Reachable size v.clear
  | extendFromSlice {size : Nat} {α : Type} {v v' : Vec α} {cl : α → α} {xs : List α} :
      Reachable size v → Vec.extendFromSlice size cl v xs = .ok v' → Reachable size v'
  | extend {size : Nat} {α : Type} {v v' : Vec α} {hint : Nat} {xs : List α} :
      Reachable size v → Vec.extend size v hint xs = .ok v' → Reachable size v'
  | splitOffKept {size : Nat} {α : Type} {v v1 w : Vec α} {n : Nat} : Reachable size v →
      Vec.splitOff size v n = .ok (v1, w) → Reachable size v1
  | splitOffReturned {size : Nat} {α : Type} {v v1 w : Vec α} {n : Nat} : Reachable size v →
      Vec.splitOff size v n = .ok (v1, w) → Reachable size w
  | splitOffBackKept {size : Nat} {α : Type} {v v1 w : Vec α} {n : Nat} : Reachable size v →
      Vec.splitOffBack size v n = .ok (v1, w) → Reachable size v1
  | splitOffBackReturned {size : Nat} {α : Type} {v v1 w : Vec α} {n : Nat} : Reachable size v →
      Vec.splitOffBack size v n = .ok (v1, w) → Reachable size w
  | shrink {size : Nat} {α : Type} {v v' : Vec α} {n : Nat} : Reachable size v →
      Vec.shrink v n = .ok v' → Reachable size v'
  | clone {size : Nat} {α : Type} {v w : Vec α} {isCopy : Bool} {cl : α → α} :
      Reachable size v → Vec.clone size isCopy cl v = .ok w → Reachable size w
  | write {v v' : Vec UInt8} {buf : List UInt8} {n : Nat} : Reachable 1 v →
      v.write buf = .ok (v', n) → Reachable 1 v'

/-- Every reachable vector holds a list. -/
theorem Reachable.holds {v : Vec α} (h : Reachable size v) : ∃ l, Holds size v l := by
  induction h with
  | newIn => exact ⟨[], holds_newIn⟩
  | withCapacityIn h => exact ⟨[], (holds_withCapacityIn h).1⟩
  | fromSlice h => exact ⟨_, holds_fromSlice h⟩
  | fromStdVec h => exact ⟨_, holds_fromStdVec h⟩
  | vecMacro h => exact ⟨_, holds_vecMacro h⟩
  | vecMacroRepeat h => exact ⟨_, holds_vecMacroRepeat h⟩
  | fromIter h => exact ⟨_, holds_fromIter h⟩
  | push _ h ih => obtain ⟨l, hl⟩ := ih; exact ⟨_, hl.push h⟩
  | pop _ h ih => obtain ⟨l, hl⟩ := ih; exact ⟨_, (hl.pop h).1⟩
  | reserve _ h ih => obtain ⟨l, hl⟩ := ih; exact ⟨_, (hl.reserve h).1⟩
  | clear _ ih => obtain ⟨l, hl⟩ := ih; exact ⟨_, hl.clear⟩
  | extendFromSlice _ h ih => obtain ⟨l, hl⟩ := ih; exact ⟨_, hl.extendFromSlice h⟩
  | extend _ h ih => obtain ⟨l, hl⟩ := ih; exact ⟨_, hl.extend h⟩
  | splitOffKept _ h ih => obtain ⟨l, hl⟩ := ih; exact ⟨_, (hl.splitOff h).1⟩
  | splitOffReturned _ h ih => obtain ⟨l, hl⟩ := ih; exact ⟨_, (hl.splitOff h).2⟩
  | splitOffBackKept _ h ih => obtain ⟨l, hl⟩ := ih; exact ⟨_, (hl.splitOffBack h).1⟩
  | splitOffBackReturned _ h ih => obtain ⟨l, hl⟩ := ih; exact ⟨_, (hl.splitOffBack h).2⟩
  | shrink _ h ih => obtain ⟨l, hl⟩ := ih; exact ⟨_, hl.shrink h⟩
  | clone _ h ih => obtain ⟨l, hl⟩ := ih; exact ⟨_, hl.clone h⟩
  | write _ h ih => obtain ⟨l, hl⟩ := ih; exact ⟨_, (hl.write h).1⟩

/-! ### The list operations -/

/-- What the documentation promises of each operation on a vector holding `l`: `push` appends,
`pop` removes and returns the last element (`None` on an empty vector), `reserve` changes nothing,
`extend_from_slice` and `extend` append in order, `split_off n` keeps the first `n` and returns
the rest, `split_off_back n` keeps all but the last `n` and returns those, `shrink n` keeps the
first `n`, `clear` empties, and `clone` copies. -/
def RefinesList (size : Nat) (v : Vec α) (l : List α) : Prop :=
  (∀ x v', Vec.push size v x = .ok v' → Holds size v' (l ++ [x])) ∧
  (∀ v' r, Vec.pop v = .ok (v', r) → Holds size v' l.dropLast ∧ r = l.getLast?) ∧
  (∀ k v', Vec.reserve size v k = .ok v' → Holds size v' l) ∧
  (∀ cl xs v', Vec.extendFromSlice size cl v xs = .ok v' → Holds size v' (l ++ xs.map cl)) ∧
  (∀ hint xs v', Vec.extend size v hint xs = .ok v' → Holds size v' (l ++ xs)) ∧
  (∀ n v1 w, Vec.splitOff size v n = .ok (v1, w) →
    Holds size v1 (l.take n) ∧ Holds size w (l.drop n)) ∧
  (∀ n v1 w, Vec.splitOffBack size v n = .ok (v1, w) →
    Holds size v1 (l.take (l.length - n)) ∧ Holds size w (l.drop (l.length - n))) ∧
  (∀ n v', Vec.shrink v n = .ok v' → Holds size v' (l.take n)) ∧
  Holds size v.clear [] ∧
  (∀ isCopy cl w, Vec.clone size isCopy cl v = .ok w →
    Holds size w (if isCopy then l else l.map cl))

theorem Holds.refinesList {v : Vec α} {l : List α} (hv : Holds size v l) : RefinesList size v l :=
  ⟨fun _ _ h => hv.push h, fun _ _ h => hv.pop h, fun _ _ h => (hv.reserve h).1,
    fun _ _ _ h => hv.extendFromSlice h, fun _ _ _ h => hv.extend h,
    fun _ _ _ h => hv.splitOff h, fun _ _ _ h => hv.splitOffBack h, fun _ _ h => hv.shrink h,
    hv.clear, fun _ _ _ h => hv.clone h⟩

/-- Every reachable vector holds a list, and every operation on it acts on that list as its
documentation says. -/
theorem reachable_refines_list {v : Vec α} (h : Reachable size v) :
    ∃ l, Holds size v l ∧ RefinesList size v l :=
  let ⟨l, hl⟩ := h.holds
  ⟨l, hl, hl.refinesList⟩

/-- A vector of `u64`s after one `push`. -/
theorem pushed_refines_list :
    ∃ l, Holds 8 ({ mem := [some 5], cap := 1, len := 1 } : Vec Nat) l ∧
      RefinesList 8 ({ mem := [some 5], cap := 1, len := 1 } : Vec Nat) l :=
  reachable_refines_list (.push .newIn rfl)

/-! ### `Write::write` does not extend the vector -/

/-- `Write::write` never extends the vector: on every reachable `Vec<u8>` it reports the whole
buffer written, yet the vector holds the list it held before, and never that list followed by a
non-empty buffer. -/
theorem write_never_extends {v v' : Vec UInt8} {buf : List UInt8} {n : Nat} (hr : Reachable 1 v)
    (h : v.write buf = .ok (v', n)) :
    ∃ l, Holds 1 v l ∧ Holds 1 v' l ∧ n = buf.length ∧ (buf ≠ [] → ¬ Holds 1 v' (l ++ buf)) := by
  obtain ⟨l, hl⟩ := hr.holds
  obtain ⟨hl', hn⟩ := hl.write h
  refine ⟨l, hl, hl', hn, fun hb h' => hb ?_⟩
  simpa using hl'.unique h'

/-- Writing `[1, 2, 3]` to a new `Vec<u8>`: the bytes land in the allocation, the result is
`Ok(3)`, and the vector is still empty. -/
theorem write_new_vec_stays_empty :
    ∃ l, Holds 1 (Vec.newIn : Vec UInt8) l ∧
      Holds 1 ({ mem := [some 1, some 2, some 3, none], cap := 4, len := 0 } : Vec UInt8) l ∧
      3 = [(1 : UInt8), 2, 3].length ∧
      ([(1 : UInt8), 2, 3] ≠ [] →
        ¬ Holds 1 ({ mem := [some 1, some 2, some 3, none], cap := 4, len := 0 } : Vec UInt8)
          (l ++ [1, 2, 3])) :=
  write_never_extends .newIn rfl

end Vec

end Lccc.Abi
