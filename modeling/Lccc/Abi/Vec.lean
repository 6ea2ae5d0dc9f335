import Mathlib.Logic.Basic
import Lccc.Except

/-!
# Lccc.Abi.Vec

**The `Vec` of `xlang_abi/src/vec.rs`.** A `Vec<T, A>` is a pointer to an allocation, a capacity
and a length. The allocation is modelled slot by slot (`some x` for an initialised element, `none`
for uninitialised memory), and every raw access the source makes through the pointer is a checked
access to that list:

* `ptr.add(i).write(x)` and `copy_nonoverlapping` stay inside the allocation, except that a
  zero-sized `T` occupies no memory, so its accesses are never out of bounds (the slots grow as
  they are written);
* `ptr.add(i).read()` reads an initialised slot.

Anything else is undefined behaviour, `Fault.ub`. A failed `unwrap` or `assert!` is `Fault.panic`.
The size of `T` is the parameter `size` (`size_of::<T>()`); `usize` arithmetic is on `Nat`, and
the `checked_*` operations of the source fail above `usizeMax`. The allocator is not modelled:
every allocation and every `grow` succeeds, keeping the old contents.
-/

namespace Lccc.Abi

/-- `usize::MAX` on the 64-bit targets. -/
def usizeMax : Nat := 2 ^ 64 - 1

/-- How a call of the `Vec` code goes wrong. -/
inductive Fault where
  /-- An `unwrap` of `None` or a failed `assert!`. -/
  | panic (msg : String)
  /-- An access outside the allocation or a read of uninitialised memory. -/
  | ub (what : String)
  deriving Repr, DecidableEq

/-- `Option::unwrap`. -/
def unwrap {α : Type} : Option α → Except Fault α
  | some a => .ok a
  | none => .error (.panic "called Option::unwrap on a None value")

/-- `assert!(c)`. -/
def ensure (c : Prop) [Decidable c] (msg : String) : Except Fault Unit :=
  if c then .ok () else .error (.panic msg)

@[simp] theorem unwrap_eq_ok {α : Type} {o : Option α} {a : α} : unwrap o = .ok a ↔ o = some a := by
  cases o <;> simp [unwrap]

@[simp] theorem ensure_eq_ok {c : Prop} [Decidable c] {msg : String} {u : Unit} :
    ensure c msg = .ok u ↔ c := by
  unfold ensure; split <;> simp [*]

/-! ### `usize` arithmetic -/

/-- `usize::checked_add`. -/
def checkedAdd (a b : Nat) : Option Nat := if a + b ≤ usizeMax then some (a + b) else none

/-- `usize::checked_mul`. -/
def checkedMul (a b : Nat) : Option Nat := if a * b ≤ usizeMax then some (a * b) else none

/-- `usize::checked_next_power_of_two`: the least power of two at least `n` (so `1` for `0`),
when it fits in a `usize`. -/
def checkedNextPowerOfTwo (n : Nat) : Option Nat :=
  ((List.range 64).map (2 ^ ·)).find? fun p => n ≤ p

theorem checkedAdd_eq_some {a b c : Nat} (h : checkedAdd a b = some c) : c = a + b := by
  unfold checkedAdd at h; split at h <;> simp_all

theorem checkedMul_eq_some {a b c : Nat} (h : checkedMul a b = some c) : c = a * b := by
  unfold checkedMul at h; split at h <;> simp_all

theorem le_of_checkedNextPowerOfTwo {n m : Nat} (h : checkedNextPowerOfTwo n = some m) : n ≤ m := by
  unfold checkedNextPowerOfTwo at h
  exact of_decide_eq_true (@List.find?_some _ (fun p => decide (n ≤ p)) m _ h)

theorem pos_of_checkedNextPowerOfTwo {n m : Nat} (h : checkedNextPowerOfTwo n = some m) : 0 < m := by
  obtain ⟨k, -, rfl⟩ := List.mem_map.1 (List.mem_of_find?_eq_some h)
  exact Nat.pos_pow_of_pos k (by decide)

/-! ### Raw memory -/

section Memory

variable {α : Type} (size : Nat)

/-- `ptr.add(i).write(x)`, or the copy of one slot: inside the allocation, or anywhere for a
zero-sized `T`. -/
def writeSlot (mem : List (Option α)) (i : Nat) (x : Option α) : Except Fault (List (Option α)) :=
  if i < mem.length then .ok (mem.set i x)
  else if size = 0 then .ok (mem ++ List.replicate (i - mem.length) none ++ [x])
  else .error (.ub "write outside the allocation")

/-- Consecutive writes from slot `i` on. -/
def writeSlots : List (Option α) → Nat → List (Option α) → Except Fault (List (Option α))
  | mem, _, [] => .ok mem
  | mem, i, x :: xs => do
    let mem ← writeSlot size mem i x
    writeSlots mem (i + 1) xs

/-- The `n` slots from `off` on, as `copy_nonoverlapping` reads them (uninitialised ones
included): inside the allocation, or anywhere for a zero-sized `T`. -/
def readSlots (src : List (Option α)) (off n : Nat) : Except Fault (List (Option α)) :=
  if size ≠ 0 ∧ src.length < off + n then .error (.ub "copy from outside the allocation")
  else .ok ((src.drop off).take n ++ List.replicate (n - (src.length - off)) none)

/-- `copy_nonoverlapping(src.add(off), dst.add(dst_off), n)`. -/
def copyNonoverlapping (src : List (Option α)) (off : Nat) (dst : List (Option α)) (dstOff n : Nat) :
    Except Fault (List (Option α)) := do
  let xs ← readSlots size src off n
  writeSlots size dst dstOff xs

end Memory

/-- `ptr.add(i).read()`: an initialised slot. -/
def readSlot {α : Type} (mem : List (Option α)) (i : Nat) : Except Fault α :=
  match mem[i]? with
  | some (some x) => .ok x
  | _ => .error (.ub "read of uninitialised memory")

/-! ### The vector -/

/-- `Vec<T, A>`: the allocation `ptr` points to (as its slots), `cap` and `len`. -/
structure Vec (α : Type) where
  mem : List (Option α)
  cap : Nat
  len : Nat

namespace Vec

variable {α : Type} (size : Nat)

/-- `Vec::new_in`: no allocation (a dangling pointer), capacity and length `0`. -/
def newIn : Vec α := { mem := [], cap := 0, len := 0 }

/-- `Vec::with_capacity_in`: the capacity is rounded up to a power of two; nothing is allocated
when its size in bytes is `0` (a zero-sized `T`). -/
def withCapacityIn (cap : Nat) : Except Fault (Vec α) := do
  let cap ← unwrap (checkedNextPowerOfTwo cap)
  let rawCap ← unwrap (checkedMul cap size)
  if rawCap = 0 then .ok { mem := [], cap, len := 0 }
  else .ok { mem := List.replicate cap none, cap, len := 0 }

/-- `Vec::reallocate`: grow the allocation to `ncap` slots, keeping the first `cap`, when `ncap`
exceeds the capacity; for a zero-sized `T` nothing changes, not even the capacity. -/
def reallocate (v : Vec α) (ncap : Nat) : Except Fault (Vec α) :=
  if v.cap < ncap then do
    let rawCap ← unwrap (checkedMul ncap size)
    if rawCap = 0 then .ok v
    else .ok { v with mem := v.mem.take v.cap ++ List.replicate (ncap - v.cap) none, cap := ncap }
  else .ok v

/-- `Vec::push`: on a full vector, reallocate to the next power of two above the capacity; then
write the value after the last element. -/
def push (v : Vec α) (val : α) : Except Fault (Vec α) := do
  let v ← if v.len = v.cap then do
      let ncap ← unwrap (checkedNextPowerOfTwo (v.cap + 1))
      reallocate size v ncap
    else .ok v
  let mem ← writeSlot size v.mem v.len (some val)
  .ok { v with mem, len := v.len + 1 }

/-- `Vec::pop`: the last element, moved out, or `None` on an empty vector. -/
def pop (v : Vec α) : Except Fault (Vec α × Option α) :=
  if v.len = 0 then .ok (v, none)
  else do
    let v := { v with len := v.len - 1 }
    let x ← readSlot v.mem v.len
    .ok (v, some x)

/-- `Vec::reserve`: room for `additional` more elements, the capacity rounded up to a power of
two. -/
def reserve (v : Vec α) (additional : Nat) : Except Fault (Vec α) := do
  let n ← unwrap (checkedAdd v.len additional)
  let ncap ← unwrap (checkedNextPowerOfTwo n)
  if v.cap < ncap then reallocate size v ncap else .ok v

/-- `Vec::clear`: the length drops to `0`; the elements are dropped in place. -/
def clear (v : Vec α) : Vec α := { v with len := 0 }

/-- `Vec::extend_from_slice`: reserve, then push a clone of each element. -/
def extendFromSlice (clone : α → α) (v : Vec α) (xs : List α) : Except Fault (Vec α) := do
  let v ← reserve size v xs.length
  xs.foldlM (fun v x => push size v (clone x)) v

/-- `Extend::extend` over an iterator yielding `xs` whose `size_hint` has lower bound `hint`:
reserve the hint, then push each item. -/
def extend (v : Vec α) (hint : Nat) (xs : List α) : Except Fault (Vec α) := do
  let v ← reserve size v hint
  xs.foldlM (push size) v

/-- `FromIterator::from_iter` over an iterator yielding `xs` whose `size_hint` has lower bound
`hint`: a new vector with room for the hint, then a push of each item. -/
def fromIter (hint : Nat) (xs : List α) : Except Fault (Vec α) := do
  let v ← withCapacityIn size hint
  xs.foldlM (push size) v

/-- `Vec::split_off`: the elements from `n` on move to a new vector of their own capacity. -/
def splitOff (v : Vec α) (n : Nat) : Except Fault (Vec α × Vec α) := do
  ensure (n ≤ v.len) "assertion failed: n <= self.len"
  let nlen := v.len - n
  let new ← withCapacityIn size nlen
  let v := { v with len := n }
  let mem ← copyNonoverlapping size v.mem n new.mem 0 nlen
  .ok (v, { new with mem, len := nlen })

/-- `Vec::split_off_back`: the last `n` elements move to a new vector of their own capacity. -/
def splitOffBack (v : Vec α) (n : Nat) : Except Fault (Vec α × Vec α) := do
  ensure (n ≤ v.len) "assertion failed: n <= self.len"
  let nlen := v.len - n
  let new ← withCapacityIn size n
  let v := { v with len := nlen }
  let mem ← copyNonoverlapping size v.mem nlen new.mem 0 n
  .ok (v, { new with mem, len := n })

/-- `Vec::shrink`: the length drops to `newLen`; the rest are dropped in place. -/
def shrink (v : Vec α) (newLen : Nat) : Except Fault (Vec α) := do
  ensure (newLen ≤ v.len) "assertion failed: new_len <= self.len"
  .ok { v with len := newLen }

/-- `Clone::clone`: a vector with room for `len` elements, filled by one copy of the slots when
`T` is `Copy` and by a clone of each element otherwise. -/
def clone (isCopy : Bool) (cl : α → α) (v : Vec α) : Except Fault (Vec α) := do
  let nvec ← withCapacityIn size v.len
  let mem ← if isCopy then copyNonoverlapping size v.mem 0 nvec.mem 0 v.len
    else (List.range v.len).foldlM (fun mem i => do
      let x ← readSlot v.mem i
      writeSlot size mem i (some (cl x))) nvec.mem
  .ok { nvec with mem, len := v.len }

/-- `From<&S>`: a new vector for an empty slice, otherwise one with room for the slice, filled by
`extend_from_slice`. -/
def fromSlice (clone : α → α) (xs : List α) : Except Fault (Vec α) :=
  if xs.isEmpty then .ok newIn
  else do
    let v ← withCapacityIn size xs.length
    extendFromSlice size clone v xs

/-- `From<std::vec::Vec<T>>`: a new vector for an empty one, otherwise one with room for its
elements, which are copied out of its buffer in one piece. -/
def fromStdVec (xs : List α) : Except Fault (Vec α) :=
  if xs.isEmpty then .ok newIn
  else do
    let v ← withCapacityIn size xs.length
    let mem ← copyNonoverlapping size (xs.map some) 0 v.mem 0 xs.length
    .ok { v with mem, len := xs.length }

/-- `vec![e, ...]`: a vector with room for the elements, copied out of the array holding them. -/
def vecMacro (xs : List α) : Except Fault (Vec α) := do
  let v ← withCapacityIn size xs.length
  let mem ← copyNonoverlapping size (xs.map some) 0 v.mem 0 xs.length
  .ok { v with mem, len := xs.length }

/-- `vec![elem; n]`: a vector with room for `n` elements, and `n` pushes of a clone of `elem`. -/
def vecMacroRepeat (clone : α → α) (elem : α) (n : Nat) : Except Fault (Vec α) := do
  let v ← withCapacityIn size n
  (List.range n).foldlM (fun v _ => push size v (clone elem)) v

/-- `Drop for Vec`: the elements dropped in place, the first `len`, when `T` needs dropping
(`needs_drop::<T>()`); then the layout of `cap` elements, whose size in bytes is a
`checked_mul(..).unwrap()`, is deallocated unless its size is `0`. The result is the elements
dropped and whether the allocation was freed. -/
def drop (needsDrop : Bool) (v : Vec α) : Except Fault (List α × Bool) := do
  let dropped ← if needsDrop then (List.range' 0 v.len).mapM (readSlot v.mem) else .ok []
  let rawCap ← unwrap (checkedMul v.cap size)
  .ok (dropped, rawCap != 0)

end Vec

/-! ### The owning iterator -/

/-- `IntoIter<T, A>`: the vector's allocation and capacity, the end `len` (lowered by
`next_back`) and the number of elements `next` has taken. -/
structure IntoIter (α : Type) where
  mem : List (Option α)
  len : Nat
  cap : Nat
  consumed : Nat

/-- `IntoIterator::into_iter`: the vector's raw parts, nothing taken. -/
def Vec.intoIter {α : Type} (v : Vec α) : IntoIter α :=
  { mem := v.mem, len := v.len, cap := v.cap, consumed := 0 }

namespace IntoIter

variable {α : Type}

/-- `Iterator::next`: `None` once the two ends meet, otherwise the element at `consumed`, moved
out. -/
def next (it : IntoIter α) : Except Fault (IntoIter α × Option α) :=
  if it.consumed = it.len then .ok (it, none)
  else do
    let x ← readSlot it.mem it.consumed
    .ok ({ it with consumed := it.consumed + 1 }, some x)

/-- `Iterator::size_hint`. -/
def sizeHint (it : IntoIter α) : Nat × Option Nat :=
  (it.len - it.consumed, some (it.len - it.consumed))

/-- `DoubleEndedIterator::next_back`: `None` once the two ends meet, otherwise the element before
`len`, moved out. -/
def nextBack (it : IntoIter α) : Except Fault (IntoIter α × Option α) :=
  if it.consumed = it.len then .ok (it, none)
  else do
    let it := { it with len := it.len - 1 }
    let x ← readSlot it.mem it.len
    .ok (it, some x)

/-- `Drop for IntoIter`: the elements dropped in place, those from `consumed` to `len`, when `T`
needs dropping (`needs_drop::<T>()`). -/
def drop (needsDrop : Bool) (it : IntoIter α) : Except Fault (List α) :=
  if needsDrop then (List.range' it.consumed (it.len - it.consumed)).mapM (readSlot it.mem)
  else .ok []

end IntoIter

/-- `io::Write::write` for `Vec<u8, A>`: reserve room for `buf`, copy it after the last element,
and report all of it written. The length is never updated. -/
def Vec.write (v : Vec UInt8) (buf : List UInt8) : Except Fault (Vec UInt8 × Nat) := do
  let v ← Vec.reserve 1 v buf.length
  let mem ← writeSlots 1 v.mem v.len (buf.map some)
  .ok ({ v with mem }, buf.length)

end Lccc.Abi
