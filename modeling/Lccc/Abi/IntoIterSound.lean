import Lccc.Abi.VecSound

/-!
# Lccc.Abi.IntoIterSound

**`IntoIter` hands out every element exactly once.** The iterator its documentation describes is
`Taken`: over the elements `xs` of the vector, the counts of elements taken from the front by
`next` and from the back by `next_back`. `next` returns `xs[front]`, `next_back` returns
`xs[n - 1 - back]`, and both return `None` once the two counts add up to `n`.

* `Tracks it xs t` relates the concrete iterator to `t`: `consumed` is the front count, `len`
  is `n` less the back count, and the allocation still starts with `xs`;
* `Tracks.call` is the step lemma: one call of either end returns what `Taken.call` returns and
  keeps the relation; `Tracks.run` lifts it to every sequence of calls;
* `size_hint` is the number of elements not yet returned, `Drop` drops exactly those, and
  together with those returned they are a permutation of `xs` (`Taken.run_perm`).
-/

namespace Lccc.Abi

namespace IntoIter

variable {α : Type}

/-- A call on the iterator: `Iterator::next` or `DoubleEndedIterator::next_back`. -/
inductive Call where
  | next
  | nextBack
  deriving Repr, DecidableEq

/-- One call on the iterator. -/
def call (it : IntoIter α) : Call → Except Fault (IntoIter α × Option α)
  | .next => it.next
  | .nextBack => it.nextBack

/-- A sequence of calls, and what each returned. -/
def run (it : IntoIter α) : List Call → Except Fault (IntoIter α × List (Option α))
  | [] => .ok (it, [])
  | c :: cs => do
    let (it, x) ← it.call c
    let (it, xs) ← run it cs
    .ok (it, x :: xs)

/-! ### The documented iterator -/

/-- The documented iterator: how many elements `next` and `next_back` have taken. -/
structure Taken where
  front : Nat
  back : Nat
  deriving Repr, DecidableEq

namespace Taken

/-- `next` returns `xs[front]` and `next_back` returns `xs[n - 1 - back]`; both return `None`
once all `n` elements have been returned. -/
def call (xs : List α) (t : Taken) (c : Call) : Taken × Option α :=
  if t.front + t.back = xs.length then (t, none)
  else match c with
    | .next => (⟨t.front + 1, t.back⟩, xs[t.front]?)
    | .nextBack => (⟨t.front, t.back + 1⟩, xs[xs.length - 1 - t.back]?)

/-- A sequence of calls on the documented iterator, and what each returned. -/
def run (xs : List α) (t : Taken) : List Call → Taken × List (Option α)
  | [] => (t, [])
  | c :: cs =>
    let r := t.call xs c
    let s := run xs r.1 cs
    (s.1, r.2 :: s.2)

/-- The elements not yet returned, in order. -/
def remaining (xs : List α) (t : Taken) : List α :=
  (xs.drop t.front).take (xs.length - t.front - t.back)

theorem call_of_end {xs : List α} {t : Taken} (h : t.front + t.back = xs.length) (c : Call) :
    t.call xs c = (t, none) := by
  simp [call, h]

theorem call_next {xs : List α} {t : Taken} (h : t.front + t.back ≠ xs.length) :
    t.call xs .next = (⟨t.front + 1, t.back⟩, xs[t.front]?) := by
  simp [call, h]

theorem call_nextBack {xs : List α} {t : Taken} (h : t.front + t.back ≠ xs.length) :
    t.call xs .nextBack = (⟨t.front, t.back + 1⟩, xs[xs.length - 1 - t.back]?) := by
  simp [call, h]

/-- One call returns one of the elements not yet returned, or `None` when there is none; the
rest are those not returned after it. -/
theorem call_perm {xs : List α} {t : Taken} (h : t.front + t.back ≤ xs.length) (c : Call) :
    (t.call xs c).1.front + (t.call xs c).1.back ≤ xs.length ∧
      ((t.call xs c).2.toList ++ (t.call xs c).1.remaining xs).Perm (t.remaining xs) := by
  by_cases hend : t.front + t.back = xs.length
  · rw [call_of_end hend]
    exact ⟨h, List.Perm.refl _⟩
  have hk : xs.length - t.front - t.back = xs.length - (t.front + 1) - t.back + 1 := by omega
  cases c with
  | next =>
    simp only [call_next hend, List.getElem?_eq_getElem (by omega : t.front < xs.length),
      Option.toList_some, remaining, hk, List.drop_eq_getElem_cons (by omega : t.front < xs.length),
      List.take_succ_cons, List.singleton_append]
    exact ⟨by omega, List.Perm.refl _⟩
  | nextBack =>
    have hidx : xs.length - 1 - t.back = t.front + (xs.length - t.front - (t.back + 1)) := by
      omega
    have hk' : xs.length - t.front - t.back = xs.length - t.front - (t.back + 1) + 1 := by omega
    simp only [call_nextBack hend, remaining, hk', List.take_succ, hidx, List.getElem?_drop]
    exact ⟨by omega, List.perm_append_comm⟩

/-- Along any sequence of calls, the elements returned and those not yet returned are together
a permutation of the elements not yet returned at the start. -/
theorem run_perm {xs : List α} :
    ∀ (cs : List Call) {t : Taken}, t.front + t.back ≤ xs.length →
      ((t.run xs cs).2.filterMap id ++ (t.run xs cs).1.remaining xs).Perm (t.remaining xs)
  | [], _, _ => List.Perm.refl _
  | c :: cs, t, h => by
    obtain ⟨h1, hp⟩ := call_perm h c
    have ih := run_perm cs h1
    simp only [run, List.filterMap_cons]
    cases hx : (t.call xs c).2 with
    | none => simpa [hx] using ih.trans (by simpa [hx] using hp)
    | some x =>
      rw [hx] at hp
      exact (List.Perm.cons x ih).trans hp

end Taken

/-! ### The concrete iterator tracks the documented one -/

/-- The iterator over `xs` has taken `t.front` elements from the front and `t.back` from the
back, and its allocation still holds `xs`. -/
structure Tracks (it : IntoIter α) (xs : List α) (t : Taken) : Prop where
  consumed_eq : it.consumed = t.front
  len_eq : it.len + t.back = xs.length
  taken_le : t.front + t.back ≤ xs.length
  mem_eq : ∃ rest, it.mem = xs.map some ++ rest

/-- `into_iter` on a vector holding `xs` starts the documented iterator with nothing taken. -/
theorem tracks_intoIter {size : Nat} {v : Vec α} {xs : List α} (hv : Vec.Holds size v xs) :
    Tracks v.intoIter xs ⟨0, 0⟩ :=
  ⟨rfl, hv.len_eq, Nat.zero_le _, hv.mem_eq⟩

/-- One call on either end returns what the documented iterator returns, and keeps tracking
it. -/
theorem Tracks.call {it : IntoIter α} {xs : List α} {t : Taken} (h : Tracks it xs t) (c : Call) :
    ∃ it', it.call c = .ok (it', (t.call xs c).2) ∧ Tracks it' xs (t.call xs c).1 := by
  obtain ⟨mem, len, cap, consumed⟩ := it
  obtain ⟨f, b⟩ := t
  obtain ⟨hc, hl, hle, rest, hr⟩ := h
  dsimp only at hc hl hle hr
  subst hc hr
  by_cases hend : consumed + b = xs.length
  · rw [Taken.call_of_end hend]
    have hce : consumed = len := by omega
    refine ⟨⟨xs.map some ++ rest, len, cap, consumed⟩, ?_, ⟨rfl, hl, hle, rest, rfl⟩⟩
    cases c <;> simp [IntoIter.call, next, nextBack, hce]
  · have hne : consumed ≠ len := by omega
    cases c with
    | next =>
      have hlt : consumed < xs.length := by omega
      rw [Taken.call_next hend]
      refine ⟨⟨xs.map some ++ rest, len, cap, consumed + 1⟩, ?_,
        ⟨rfl, hl, by dsimp only; omega, rest, rfl⟩⟩
      simp [IntoIter.call, next, hne, readSlot_map_some_append hlt, List.getElem?_eq_getElem hlt]
    | nextBack =>
      have hlt : len - 1 < xs.length := by omega
      have hidx : xs.length - 1 - b = len - 1 := by omega
      rw [Taken.call_nextBack hend]
      refine ⟨⟨xs.map some ++ rest, len - 1, cap, consumed⟩, ?_,
        ⟨rfl, by dsimp only; omega, by dsimp only; omega, rest, rfl⟩⟩
      simp [IntoIter.call, nextBack, hne, hidx, readSlot_map_some_append hlt,
        List.getElem?_eq_getElem hlt]

/-- Every sequence of calls returns what the documented iterator returns. -/
theorem Tracks.run {xs : List α} :
    ∀ (cs : List Call) {it : IntoIter α} {t : Taken}, Tracks it xs t →
      ∃ it', it.run cs = .ok (it', (t.run xs cs).2) ∧ Tracks it' xs (t.run xs cs).1
  | [], it, _, h => ⟨it, rfl, h⟩
  | c :: cs, it, t, h => by
    obtain ⟨it1, h1, ht1⟩ := h.call c
    obtain ⟨it2, h2, ht2⟩ := Tracks.run cs ht1
    refine ⟨it2, ?_, ht2⟩
    rw [IntoIter.run, h1, ok_bind]
    dsimp only
    rw [h2, ok_bind]
    rfl

/-- `size_hint` is the number of elements not yet returned. -/
theorem Tracks.sizeHint {it : IntoIter α} {xs : List α} {t : Taken} (h : Tracks it xs t) :
    it.sizeHint = ((t.remaining xs).length, some (t.remaining xs).length) := by
  obtain ⟨hc, hl, hle, -⟩ := h
  have hlen : (t.remaining xs).length = it.len - it.consumed := by
    simp only [Taken.remaining, List.length_take, List.length_drop]
    omega
  rw [hlen]
  rfl

/-- Reading the slots from `a` on, `k` of them, among the initialised ones. -/
theorem mapM_readSlot_range' {xs : List α} {rest : List (Option α)} :
    ∀ (k a : Nat), a + k ≤ xs.length →
      (List.range' a k).mapM (readSlot (xs.map some ++ rest)) = .ok ((xs.drop a).take k)
  | 0, _, _ => rfl
  | k + 1, a, h => by
    rw [List.range'_succ, List.mapM_cons, readSlot_map_some_append (by omega), ok_bind,
      mapM_readSlot_range' k (a + 1) (by omega), ok_bind,
      List.drop_eq_getElem_cons (by omega : a < xs.length), List.take_succ_cons]
    rfl

/-- `Drop` drops exactly the elements not yet returned. -/
theorem Tracks.drop {it : IntoIter α} {xs : List α} {t : Taken} (h : Tracks it xs t)
    (needsDrop : Bool) :
    it.drop needsDrop = .ok (if needsDrop then t.remaining xs else []) := by
  cases needsDrop with
  | false => rfl
  | true =>
    obtain ⟨hc, hl, hle, rest, hr⟩ := h
    simp only [IntoIter.drop, ↓reduceIte, hr, Taken.remaining]
    rw [mapM_readSlot_range' _ _ (by omega), hc,
      show it.len - t.front = xs.length - t.front - t.back by omega]

/-! ### Every interleaving of calls -/

/-- For every vector holding `xs`, every sequence of `next` and `next_back` calls on its
`IntoIter` returns what the documented iterator returns: `next` hands out `xs[0], xs[1], ...`,
`next_back` hands out `xs[n-1], xs[n-2], ...`, both return `None` once all `n` have been
returned; `size_hint` is then the number of elements not yet returned, `Drop` drops exactly
those, and with the ones returned they make up `xs`, each element once. -/
theorem intoIter_matches_spec {size : Nat} {v : Vec α} {xs : List α} (hv : Vec.Holds size v xs)
    (cs : List Call) (needsDrop : Bool) :
    let r := Taken.run xs ⟨0, 0⟩ cs
    ∃ it, v.intoIter.run cs = .ok (it, r.2) ∧
      it.sizeHint = ((r.1.remaining xs).length, some (r.1.remaining xs).length) ∧
      it.drop needsDrop = .ok (if needsDrop then r.1.remaining xs else []) ∧
      (r.2.filterMap id ++ r.1.remaining xs).Perm xs := by
  intro r
  obtain ⟨it, hrun, ht⟩ := Tracks.run cs (tracks_intoIter hv)
  have hp := @Taken.run_perm _ xs cs ⟨0, 0⟩ (Nat.zero_le _)
  simp only [Taken.remaining, List.drop_zero, Nat.sub_zero, List.take_length] at hp
  exact ⟨it, hrun, ht.sizeHint, ht.drop needsDrop, hp⟩

/-- Three elements, taken from the front, the back, the front, and once more. -/
theorem three_elems_into_iter :
    ∃ it, (({ mem := [some 1, some 2, some 3], cap := 3, len := 3 } : Vec Nat).intoIter.run
        [.next, .nextBack, .next, .next]) = .ok (it, [some 1, some 3, some 2, none]) ∧
      it.sizeHint = (0, some 0) ∧ it.drop true = .ok [] ∧ ([1, 3, 2] ++ []).Perm [1, 2, 3] :=
  intoIter_matches_spec (@Vec.holds_array Nat 8 [1, 2, 3]) [.next, .nextBack, .next, .next] true

end IntoIter

end Lccc.Abi
