import Lccc.Xir.Opcodes

/-!
# Lccc.Xir.Effect

**The height of the operand stack.** Every stack-only opcode pops a fixed number of items and
pushes a fixed number, whatever their types and the tables: `stackEffect` is that table, and
`heightAfter` is the abstract machine that runs it on the height of the stack alone. The
simulator of `tycheck_expr` refines it:

* `HasEffect p q f` says that an accepted `f` found at least `p` items and left the stack without
  its top `p` items, followed by `q` new ones. It is built along the `do` blocks of the source from
  the stack primitives (`HasEffect.pop`, `HasEffect.popN`, `HasEffect.splitOffBack`), the checks
  between them (`HasEffect.bind`, `HasEffect.ite`) and the final push (`HasEffect.push`,
  `HasEffect.map`). Every stack-only arm has the effect its opcode has in the table
  (`stackOp_effect`).
* So a straight-line run of stack-only instructions that the replay loop of `tycheck_block`
  accepts never pops more than the stack holds and ends at the height the abstract machine
  computes (`tycheckItems_height`): the height at each point of such a run is fixed by the
  opcodes alone.
-/

namespace Lccc.Xir

open Lccc.Xlang

/-- What an accepted stack-only instruction pops and pushes, as `(pops, pushes)`: comparisons
push their fixed result type, checked arithmetic also pushes the overflow flag, `Dup(n)` pushes
its `n` items twice and `Pivot(n, m)` puts back the `n + m` items it took. `TailCall` and
`Convert` are never accepted, and the other opcodes are not stack-only. -/
def stackEffect : Expr → Nat × Nat
  | .binaryOp op v => (2, if isComparison op then 1 else if v = .checked then 2 else 1)
  | .unaryOp op v => (1, if op = .minus ∧ v = .checked then 2 else 1)
  | .callFunction sig => (sig.params.length + 1, 1)
  | .branchIndirect => (1, 0)
  | .«local» _ => (0, 1)
  | .pop n => (n, 0)
  | .dup n => (n, n + n)
  | .pivot n m => (m + n, m + n)
  | .aggregate ctor => (ctor.fields.length, 1)
  | .member _ | .memberIndirect _ | .asRValue | .indirect | .addrOf => (1, 1)
  | .assign => (2, 0)
  | .compoundAssign _ v => (2, if v = .checked then 1 else 0)
  | .lValueOp .xchg _ => (2, 0)
  | .lValueOp .cmpxchg _ | .lValueOp .wcmpxchg _ => (3, 1)
  | .lValueOp _ v => (1, if v = .checked then 2 else 1)
  | _ => (0, 0)

/-- The abstract machine: the height of the operand stack after a run of stack-only
instructions from height `h`, or `none` if an instruction would pop more than there is. -/
def heightAfter : List Expr → Nat → Option Nat
  | [], h => some h
  | e :: es, h =>
    if (stackEffect e).1 ≤ h then heightAfter es (h - (stackEffect e).1 + (stackEffect e).2)
    else none

/-- `f` pops `p` items and pushes `q`: an accepted `f` found at least `p` items and left the stack
without its top `p` items, followed by `q` new ones. -/
def HasEffect (p q : Nat) (f : List StackItem → Except Failure (List StackItem)) : Prop :=
  ∀ ⦃s s'⦄, f s = .ok s' → p ≤ s.length ∧
    ∃ pushed : List StackItem, pushed.length = q ∧ s' = s.take (s.length - p) ++ pushed

namespace HasEffect

variable {α : Type} {p q : Nat}

/-- Taking `n` more items off a stack with `top` (of length `n`) on top of `r`. -/
theorem take_append {r top : List StackItem} {n : Nat} (hn : top.length = n)
    (hp : p ≤ r.length) :
    (r ++ top).take ((r ++ top).length - (n + p)) = r.take (r.length - p) := by
  rw [List.length_append, show r.length + top.length - (n + p) = r.length - p by omega]
  exact List.take_append_of_le_length (by omega)

theorem pop {k : StackItem × List StackItem → Except Failure (List StackItem)}
    (hk : ∀ x, HasEffect p q fun s => k (x, s)) :
    HasEffect (p + 1) q fun s => Stack.pop s >>= k := by
  intro s s' h
  obtain ⟨⟨x, r⟩, hp, hr⟩ := bind_eq_ok.1 h
  obtain rfl := Stack.pop_eq_ok.1 hp
  obtain ⟨hle, pushed, hl, rfl⟩ := hk x hr
  refine ⟨by simp only [List.length_append, List.length_singleton]; omega, pushed, hl, ?_⟩
  rw [Nat.add_comm p 1, take_append (List.length_singleton x) hle]

/-- Taking the top `n` items off in one go, as `split_off` and `split_off_back` do. -/
theorem takeTop (n : Nat)
    {split : List StackItem → Except Failure (List StackItem × List StackItem)}
    {k : List StackItem × List StackItem → Except Failure (List StackItem)}
    (hsplit : ∀ {s top r}, split s = .ok (top, r) → s = r ++ top ∧ top.length = n)
    (hk : ∀ top : List StackItem, top.length = n → HasEffect p q fun s => k (top, s)) :
    HasEffect (n + p) q fun s => split s >>= k := by
  intro s s' h
  obtain ⟨⟨top, r⟩, hp, hr⟩ := bind_eq_ok.1 h
  obtain ⟨rfl, hn⟩ := hsplit hp
  obtain ⟨hle, pushed, hl, rfl⟩ := hk top hn hr
  exact ⟨by simp only [List.length_append]; omega, pushed, hl, by rw [take_append hn hle]⟩

theorem popN (n : Nat) {k : List StackItem × List StackItem → Except Failure (List StackItem)}
    (hk : ∀ top : List StackItem, top.length = n → HasEffect p q fun s => k (top, s)) :
    HasEffect (n + p) q fun s => Stack.popN s n >>= k :=
  takeTop n Stack.popN_eq_ok.1 hk

/-- `popN` as the last pop of an arm. -/
theorem popN_last (n : Nat)
    {k : List StackItem × List StackItem → Except Failure (List StackItem)}
    (hk : ∀ top : List StackItem, top.length = n → HasEffect 0 q fun s => k (top, s)) :
    HasEffect n q fun s => Stack.popN s n >>= k :=
  popN n hk

theorem splitOffBack (n : Nat)
    {k : List StackItem × List StackItem → Except Failure (List StackItem)}
    (hk : ∀ top : List StackItem, top.length = n → HasEffect p q fun s => k (top, s)) :
    HasEffect (n + p) q fun s => Stack.splitOffBack s n >>= k :=
  takeTop n Stack.splitOffBack_eq_ok.1 hk

/-- A check that does not read the stack. -/
theorem bind {c : Except Failure α} {k : α → List StackItem → Except Failure (List StackItem)}
    (hk : ∀ a, HasEffect p q (k a)) : HasEffect p q fun s => c >>= fun a => k a s := by
  intro s s' h
  obtain ⟨a, -, hr⟩ := bind_eq_ok.1 h
  exact hk a hr

/-- A choice whose branches push as many items as the table says for that choice. -/
theorem ite {c : Prop} [Decidable c] {q₁ q₂ : Nat}
    {f g : List StackItem → Except Failure (List StackItem)} (hf : HasEffect p q₁ f)
    (hg : HasEffect p q₂ g) :
    HasEffect p (if c then q₁ else q₂) fun s => if c then f s else g s := by
  by_cases hc : c
  · simpa only [if_pos hc] using hf
  · simpa only [if_neg hc] using hg

theorem ite_same {c : Prop} [Decidable c] {f g : List StackItem → Except Failure (List StackItem)}
    (hf : HasEffect p q f) (hg : HasEffect p q g) :
    HasEffect p q fun s => if c then f s else g s := by
  simpa only [ite_self] using ite (c := c) hf hg

/-- A result that is what is left with `l` on top. -/
theorem map {g : List StackItem → List StackItem} (l : List StackItem) (hg : ∀ s, g s = s ++ l)
    (hq : l.length = q) : HasEffect 0 q fun s => .ok (g s) := by
  rintro s _ ⟨⟩
  exact ⟨Nat.zero_le _, l, hq, by rw [hg, Nat.sub_zero, List.take_length]⟩

theorem push (l : List StackItem) (hq : l.length = q) : HasEffect 0 q fun s => .ok (s ++ l) :=
  map l (fun _ => rfl) hq

theorem ok : HasEffect 0 0 .ok := map [] (fun s => (List.append_nil s).symm) rfl

theorem error (e : Failure) : HasEffect p q fun _ => .error e := nofun

end HasEffect

/-! ### The stack-only arms -/

section Arms

variable {fuel : Nat} {ts : TypeState} {locals : List Ty}

theorem tycheckBinaryOp_effect (op : BinaryOp) (v : OverflowBehaviour) :
    HasEffect (stackEffect (.binaryOp op v)).1 (stackEffect (.binaryOp op v)).2
      (tycheckBinaryOp ts op v) :=
  .pop fun val1 => .pop fun _ => .bind fun _ => .bind fun _ => by
    generalize ts.refiyType val1.ty = t
    cases t <;> try exact .error _
    cases op <;> first | exact .push _ rfl | cases v <;> exact .push _ rfl

theorem tycheckUnaryOp_effect (op : UnaryOp) (v : OverflowBehaviour) :
    HasEffect (stackEffect (.unaryOp op v)).1 (stackEffect (.unaryOp op v)).2
      (tycheckUnaryOp op v) :=
  .pop fun val => .bind fun _ => by
    generalize val.ty = t
    cases t <;> try exact .error _
    cases op <;> first | exact .push _ rfl | cases v <;> exact .push _ rfl

theorem tycheckCallFunction_effect (fnty : FnType) :
    HasEffect (stackEffect (.callFunction fnty)).1 (stackEffect (.callFunction fnty)).2
      (tycheckCallFunction fuel ts fnty) := by
  refine .splitOffBack _ fun _ _ => .pop fun dest => .bind fun _ => .bind fun _ => ?_
  generalize ts.refiyType dest.ty = t
  cases t <;> try exact .bind fun _ => .push _ rfl
  rename_i p
  dsimp only
  generalize ts.refiyType p.inner = t
  cases t <;> try exact .bind fun _ => .push _ rfl
  case fnType f =>
    exact .ite_same (c := f.variadic = true)
      (.bind fun _ => .bind fun _ => .bind fun _ => .bind fun _ => .push _ rfl)
      (.bind fun _ => .bind fun _ => .bind fun _ => .bind fun _ => .push _ rfl)

theorem tycheckCompoundAssign_effect (op : BinaryOp) (v : OverflowBehaviour) :
    HasEffect (stackEffect (.compoundAssign op v)).1 (stackEffect (.compoundAssign op v)).2
      (tycheckCompoundAssign fuel ts v) :=
  .pop fun _ => .pop fun lvalue => .bind fun _ => .bind fun _ => .bind fun _ => by
    generalize ts.refiyType lvalue.ty = t
    cases t <;> first | exact .error _ | exact .ite (.push _ rfl) .ok

theorem tycheckLValueOp_effect (op : LValueOp) (v : OverflowBehaviour) :
    HasEffect (stackEffect (.lValueOp op v)).1 (stackEffect (.lValueOp op v)).2
      (tycheckLValueOp fuel ts op v) := by
  cases op
  case xchg => exact .pop fun _ => .pop fun _ => .bind fun _ => .bind fun _ => .bind fun _ => .ok
  case cmpxchg | wcmpxchg =>
    exact .pop fun _ => .pop fun _ => .pop fun _ =>
      .bind fun _ => .bind fun _ => .bind fun _ => .bind fun _ => .bind fun _ => .push _ rfl
  all_goals
    refine .pop fun lvalue => .bind fun _ => ?_
    generalize ts.refiyType lvalue.ty = t
    cases t <;> first | exact .error _ | exact .ite (.push _ rfl) (.push _ rfl)

theorem stackOp_local_effect (n : Nat) : HasEffect 0 1 (stackOp fuel ts locals (.«local» n)) := by
  intro s s' h
  unfold stackOp at h
  rcases hl : locals[n]? with _ | ty <;> simp only [hl] at h
  · cases h
  · cases h
    exact ⟨Nat.zero_le _, [_], rfl, by rw [Nat.sub_zero, List.take_length]⟩

/-- Every stack-only arm of `tycheck_expr` pops and pushes what the table says. -/
theorem stackOp_effect : ∀ e, isStackOp e = true →
    HasEffect (stackEffect e).1 (stackEffect e).2 (stackOp fuel ts locals e)
  | .binaryOp op v, _ => tycheckBinaryOp_effect op v
  | .unaryOp op v, _ => tycheckUnaryOp_effect op v
  | .callFunction fnty, _ => tycheckCallFunction_effect fnty
  | .compoundAssign op v, _ => tycheckCompoundAssign_effect op v
  | .lValueOp op v, _ => tycheckLValueOp_effect op v
  | .«local» n, _ => stackOp_local_effect n
  | .tailcall _, _ | .convert _, _ => .error _
  | .branchIndirect, _ => .pop fun _ => .bind fun _ => .bind fun _ => .ok
  | .pop n, _ => .popN_last n fun _ _ => .ok
  | .dup n, _ => .popN_last n fun top hn =>
      .map (top ++ top) (fun _ => List.append_assoc _ _ _) (by rw [List.length_append, hn]; rfl)
  | .pivot n m, _ => .popN m fun top hm => .popN_last n fun top' hn =>
      .map (top ++ top') (fun _ => List.append_assoc _ _ _)
        (by rw [List.length_append, hm, hn]; rfl)
  | .aggregate _, _ => .popN_last _ fun _ _ => .bind fun _ => .push _ rfl
  | .member _, _ => .pop fun _ => .bind fun _ => .bind fun _ => .push _ rfl
  | .memberIndirect _, _ => .pop fun val => .bind fun _ => by
      generalize val.ty = t
      cases t <;> first | exact .error _ | exact .bind fun _ => .push _ rfl
  | .assign, _ => .pop fun _ => .pop fun _ => .bind fun _ => .bind fun _ => .bind fun _ => .ok
  | .asRValue, _ | .addrOf, _ => .pop fun _ => .bind fun _ => .push _ rfl
  | .indirect, _ => .pop fun val => .bind fun _ => by
      generalize val.ty = t
      cases t <;> first | exact .error _ | exact .push _ rfl
  | .null, _ | .sequence, _ | .fence, _ => .ok

end Arms

/-! ### Runs -/

section Run

variable {fuel : Nat} {ts : TypeState} {locals : List Ty} {targets : List (Nat × List StackItem)}

/-- The simulator refines the abstract machine: a straight-line run of stack-only instructions
that the replay loop of `tycheck_block` accepts never pops more than the stack holds, and ends at
the height `heightAfter` computes from the opcodes alone, whatever the types, the tables and the
state it starts from. -/
theorem tycheckItems_height : ∀ es : List Expr, (∀ e ∈ es, isStackOp e = true) →
    ∀ {dv : Bool} {st st' : Checker},
      (tycheckItems fuel ts locals targets (es.map .expr) dv st).2 = .ok st' →
      heightAfter es st.vstack.length = some st'.vstack.length
  | [], _, _, _, _, rfl => rfl
  | e :: es, hes, _, st, st', h => by
    rw [List.forall_mem_cons] at hes
    simp only [List.map_cons, tycheckItems] at h
    rcases he : (tycheckExpr fuel ts locals targets e st).2 with f | ⟨st1, d⟩
    · simp [he] at h
    simp only [he] at h
    obtain ⟨s, hs, rfl, rfl⟩ := (tycheckExpr_stackOp_eq_ok hes.1).1 he
    obtain ⟨hle, pushed, hl, rfl⟩ := stackOp_effect e hes.1 hs
    rw [heightAfter, if_pos hle, ← tycheckItems_height es hes.2 h, List.length_append,
      List.length_take, hl, Nat.min_eq_left (Nat.sub_le _ _)]

/-- Reading an `i32` local, duplicating it and adding with overflow checking: the run from an
empty stack ends with two items, as the table says. -/
theorem checked_add_height :
    (∀ e ∈ [Expr.«local» 0, .asRValue, .dup 1, .binaryOp .add .checked],
      isStackOp e = true) ∧
      (tycheckItems 0 {} [i32Ty] []
        ([Expr.«local» 0, .asRValue, .dup 1, .binaryOp .add .checked].map .expr) false {}).2 =
        .ok { vstack := [⟨i32Ty, .rvalue⟩, ⟨u1Ty, .rvalue⟩] } ∧
      heightAfter [.«local» 0, .asRValue, .dup 1, .binaryOp .add .checked] 0 = some 2 :=
  have hes : ∀ e ∈ [Expr.«local» 0, .asRValue, .dup 1, .binaryOp .add .checked],
      isStackOp e = true := by decide
  have h : (tycheckItems 0 {} [i32Ty] []
      ([Expr.«local» 0, .asRValue, .dup 1, .binaryOp .add .checked].map .expr) false {}).2 =
      .ok { vstack := [⟨i32Ty, .rvalue⟩, ⟨u1Ty, .rvalue⟩] } := rfl
  ⟨hes, h, tycheckItems_height _ hes h⟩

end Run

end Lccc.Xir
