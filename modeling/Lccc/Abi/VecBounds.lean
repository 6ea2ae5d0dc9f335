import Lccc.Abi.VecSound

/-!
# Lccc.Abi.VecBounds

**A sized `Vec` never addresses memory outside its allocation.** In the model a raw access
outside the allocation, or a read of a slot never written, is the fault `Fault.ub`, and a failed
`unwrap` or `assert!` is `Fault.panic`; `NoUb r` says that a call returns or panics. On a vector
that holds a list:

* `push`, `pop`, `split_off`, `split_off_back`, `clone` and `Write::write` never reach undefined
  behaviour: the allocation they write to has room for what they write, and every slot they read
  holds an element;
* for a sized `T` an allocation has exactly `cap` slots (`Holds.alloc`), so every slot these
  operations address lies below the capacity of its buffer, and `len ≤ cap`.

Every vector a program builds holds a list (`Reachable.holds`), so both facts hold along every
sequence of operations.
-/

namespace Lccc.Abi

/-- A call of the `Vec` code does not reach undefined behaviour: it returns, or it panics. -/
def NoUb {β : Type} (r : Except Fault β) : Prop := ∀ what, r ≠ .error (.ub what)

namespace NoUb

variable {α β : Type}

theorem ok {b : β} : NoUb (.ok b : Except Fault β) := fun _ => nofun

/-- A sequence avoids undefined behaviour when its first call does and, whenever the first call
returns, the rest does. -/
theorem bind {x : Except Fault α} {f : α → Except Fault β} (hx : NoUb x)
    (hf : ∀ a, x = .ok a → NoUb (f a)) : NoUb (x >>= f) := by
  cases x with
  | error e =>
    intro w h
    rw [error_bind] at h
    cases h
    exact hx w rfl
  | ok a => exact hf a rfl

end NoUb

theorem noUb_unwrap {α : Type} {o : Option α} : NoUb (unwrap o) := by
  cases o <;> intro _ h <;> cases h

theorem noUb_ensure {c : Prop} [Decidable c] {msg : String} : NoUb (ensure c msg) := by
  unfold ensure
  split <;> intro _ h <;> cases h

namespace Vec

variable {α : Type} {size : Nat}

/-! ### Allocation only panics -/

theorem noUb_reallocate {v : Vec α} {ncap : Nat} : NoUb (Vec.reallocate size v ncap) := by
  unfold Vec.reallocate
  split
  · exact NoUb.bind noUb_unwrap fun _ _ => by split <;> exact NoUb.ok
  · exact NoUb.ok

theorem noUb_withCapacityIn {c : Nat} : NoUb (withCapacityIn size c : Except Fault (Vec α)) := by
  unfold withCapacityIn
  exact NoUb.bind noUb_unwrap fun _ _ => NoUb.bind noUb_unwrap fun _ _ => by
    split <;> exact NoUb.ok

theorem noUb_reserve {v : Vec α} {k : Nat} : NoUb (Vec.reserve size v k) := by
  unfold Vec.reserve
  exact NoUb.bind noUb_unwrap fun _ _ => NoUb.bind noUb_unwrap fun _ _ => by
    split
    · exact noUb_reallocate
    · exact NoUb.ok

/-! ### One lemma per operation -/

section Operations

variable {v : Vec α} {l : List α}

theorem Holds.push_noUb (hv : Holds size v l) (x : α) : NoUb (Vec.push size v x) := by
  rw [push_eq]
  refine NoUb.bind ?_ fun v1 h1 => ?_
  · split
    · exact NoUb.bind noUb_unwrap fun _ _ => noUb_reallocate
    · exact NoUb.ok
  · obtain ⟨hv1, hroom⟩ := hv.pushGrow h1
    obtain ⟨mem, hw, -⟩ := hv1.writeSlot_len hroom x
    rw [hw, ok_bind]
    exact NoUb.ok

theorem Holds.pop_noUb (hv : Holds size v l) : NoUb (Vec.pop v) := by
  obtain ⟨r, h⟩ := hv.pop_ok
  rw [h]
  exact NoUb.ok

/-- Copying `k` held elements from `n` on into a fresh allocation of `k` slots, whatever is then
built from the copy. -/
theorem Holds.copyFresh_noUb (hv : Holds size v l) {n k : Nat} (hk : n + k ≤ l.length) {β : Type}
    (f : List (Option α) → Vec α → β) :
    NoUb (withCapacityIn size k >>= fun w =>
      Abi.copyNonoverlapping size v.mem n w.mem 0 k >>= fun mem => .ok (f mem w)) := by
  refine NoUb.bind noUb_withCapacityIn fun w hw => ?_
  obtain ⟨hw0, hroom⟩ := holds_withCapacityIn hw
  obtain ⟨mem, hc, -⟩ := hv.copyNonoverlapping_ok hw0 hroom hk
  rw [hc, ok_bind]
  exact NoUb.ok

theorem Holds.splitOff_noUb (hv : Holds size v l) (n : Nat) : NoUb (Vec.splitOff size v n) :=
  NoUb.bind noUb_ensure fun _ hn => hv.copyFresh_noUb
    (by have := ensure_eq_ok.1 hn; rw [← hv.len_eq]; omega)
    fun mem w => (({ v with len := n } : Vec α), { w with mem, len := v.len - n })

theorem Holds.splitOffBack_noUb (hv : Holds size v l) (n : Nat) :
    NoUb (Vec.splitOffBack size v n) :=
  NoUb.bind noUb_ensure fun _ hn => hv.copyFresh_noUb
    (by have := ensure_eq_ok.1 hn; rw [← hv.len_eq]; omega)
    fun mem w => (({ v with len := v.len - n } : Vec α), { w with mem, len := n })

theorem Holds.clone_noUb (hv : Holds size v l) (isCopy : Bool) (cl : α → α) :
    NoUb (Vec.clone size isCopy cl v) := by
  cases isCopy with
  | true =>
    exact hv.copyFresh_noUb (n := 0) (k := v.len) (by simp [hv.len_eq])
      fun mem w => { w with mem, len := v.len }
  | false =>
    unfold Vec.clone
    refine NoUb.bind noUb_withCapacityIn fun w hw => ?_
    obtain ⟨hw0, hroom⟩ := holds_withCapacityIn hw
    obtain ⟨mem, hc, -⟩ := hv.clone_loop hw0 hroom v.len (Nat.le_refl _)
    simp only [Bool.false_eq_true, ↓reduceIte]
    rw [hc, ok_bind]
    exact NoUb.ok

end Operations

theorem Holds.write_noUb {v : Vec UInt8} {l : List UInt8} (hv : Holds 1 v l) (buf : List UInt8) :
    NoUb (v.write buf) := by
  unfold Vec.write
  refine NoUb.bind noUb_reserve fun v1 h1 => ?_
  obtain ⟨rest, hw, -⟩ := hv.write_copy h1
  rw [hw, ok_bind]
  exact NoUb.ok

/-! ### Reachable vectors -/

/-- For a sized `T`, every vector a program builds keeps `len ≤ cap`, and on it no call of
`push`, `pop`, `split_off`, `split_off_back` or `clone`, and no `Write::write` on a `Vec<u8>`,
reads or writes a slot outside the allocation it addresses (whose `cap` slots are exactly the
allocation, `Holds.alloc`) or reads one never written. -/
theorem reachable_accesses_in_bounds :
    (∀ {α : Type} {size : Nat} {v : Vec α}, size ≠ 0 → Reachable size v →
      v.len ≤ v.cap ∧ (∀ x, NoUb (Vec.push size v x)) ∧ NoUb (Vec.pop v) ∧
        (∀ n, NoUb (Vec.splitOff size v n)) ∧ (∀ n, NoUb (Vec.splitOffBack size v n)) ∧
        ∀ isCopy cl, NoUb (Vec.clone size isCopy cl v)) ∧
      ∀ (v : Vec UInt8) (buf : List UInt8), Reachable 1 v → NoUb (v.write buf) := by
  refine ⟨fun hs hr => ?_, fun v buf hr => ?_⟩
  · obtain ⟨l, hl⟩ := hr.holds
    exact ⟨hl.len_le_cap hs, hl.push_noUb, hl.pop_noUb, hl.splitOff_noUb, hl.splitOffBack_noUb,
      hl.clone_noUb⟩
  · obtain ⟨l, hl⟩ := hr.holds
    exact hl.write_noUb buf

/-- A `Vec<u64>` after one push. -/
theorem pushed_accesses_in_bounds :
    (({ mem := [some 5], cap := 1, len := 1 } : Vec Nat).len ≤
        ({ mem := [some 5], cap := 1, len := 1 } : Vec Nat).cap ∧
      (∀ x, NoUb (Vec.push 8 ({ mem := [some 5], cap := 1, len := 1 } : Vec Nat) x)) ∧
      NoUb (Vec.pop ({ mem := [some 5], cap := 1, len := 1 } : Vec Nat)) ∧
      (∀ n, NoUb (Vec.splitOff 8 ({ mem := [some 5], cap := 1, len := 1 } : Vec Nat) n)) ∧
      (∀ n, NoUb (Vec.splitOffBack 8 ({ mem := [some 5], cap := 1, len := 1 } : Vec Nat) n)) ∧
      ∀ isCopy cl,
        NoUb (Vec.clone 8 isCopy cl ({ mem := [some 5], cap := 1, len := 1 } : Vec Nat))) :=
  reachable_accesses_in_bounds.1 (by decide : (8 : Nat) ≠ 0) (.push (x := 5) .newIn rfl)

end Vec

end Lccc.Abi
