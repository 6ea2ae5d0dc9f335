import Lccc.Xir.Run
import Lccc.Xir.Unify

/-!
# Lccc.Xir.Opcodes

**What the stack-only opcodes leave on the stack.** One spec lemma for each arm of `tycheck_expr`
read here, saying everything an accepted check established and what it pushed, and the laws read
off them:

* `CallFunction` unifies the callee's parameters, zipped with the call site's, and its return;
  a non-variadic callee's arity is never compared with the call site's, because the source
  compares the call site's arity with itself (`callFunction_arity_unchecked`).
* `Derive` pops the pointer it refines and never pushes it back.
* `BranchIndirect` never accepts a label address: its type is a pointer to `Void`, which is
  compared with a pointer to `Void`, and `Void` does not unify with itself.
* `BinaryOp` reads the type of its top operand only.
* `UnaryOp` matches its operand's type as written, without reifying it, so a `TaggedType` or
  `Aligned` wrapper around a scalar is rejected where the scalar itself is accepted.
* The checked form of an arithmetic `BinaryOp`, of `Minus`, of `CompoundAssign` and of
  `PreInc`/`PreDec` pushes what the other forms push and then the overflow flag; the checked
  `PostInc`/`PostDec` also turns the pushed l-value into an r-value.
* `AddrOf` keeps the l-value kind of the item it pops, so the pointer it pushes is an l-value and
  `Indirect`, which takes a pointer r-value, rejects it: the two are inverse only with an
  `AsRValue` between them.
-/

namespace Lccc.Xir

open Lccc.Xlang

/-- The comparison operators, whose result type is fixed; every other operator's result has the
type of the top operand. -/
def isComparison : BinaryOp → Bool
  | .cmpInt | .cmpLt | .cmpLe | .cmpGt | .cmpGe | .cmpNe | .cmpEq | .cmp => true
  | _ => false

/-- What an accepted `BinaryOp(op, v)` pushes, `val1` being the top operand. -/
def binaryOpPush (op : BinaryOp) (v : OverflowBehaviour) (val1 : StackItem) : List StackItem :=
  match op with
  | .cmpInt | .cmp => [⟨i32Ty, .rvalue⟩]
  | .cmpLt | .cmpLe | .cmpGt | .cmpGe | .cmpNe | .cmpEq => [⟨u1Ty, .rvalue⟩]
  | _ => if v = .checked then [val1, ⟨u1Ty, .rvalue⟩] else [val1]

theorem binaryOpPush_of_not_comparison {op : BinaryOp} (h : isComparison op = false)
    (v : OverflowBehaviour) (val1 : StackItem) :
    binaryOpPush op v val1 = if v = .checked then [val1, ⟨u1Ty, .rvalue⟩] else [val1] := by
  cases op <;> first | rfl | cases h

theorem Stack.pop_append_singleton (s : List StackItem) (x : StackItem) :
    Stack.pop (s ++ [x]) = .ok (x, s) :=
  Stack.pop_eq_ok.2 rfl

section Steps

variable {fuel : Nat} {ts : TypeState} {locals : List Ty} {targets : List (Nat × List StackItem)}

/-- An arm of `stackOp` seen through `tycheck_expr`: the stack is replaced, nothing else changes,
and control does not diverge. -/
theorem tycheckExpr_stackOp_eq_ok {e : Expr} (he : isStackOp e = true) {st st' : Checker}
    {d : Bool} :
    (tycheckExpr fuel ts locals targets e st).2 = .ok (st', d) ↔
      ∃ s, stackOp fuel ts locals e st.vstack = .ok s ∧ st' = { st with vstack := s } ∧
        d = false := by
  rw [tycheckExpr_stackOp he, map_eq_ok]
  simp only [Prod.mk.injEq, eq_comm]

@[simp] theorem stackOp_binaryOp (op : BinaryOp) (v : OverflowBehaviour) (s : List StackItem) :
    stackOp fuel ts locals (.binaryOp op v) s = tycheckBinaryOp ts op v s := rfl

@[simp] theorem stackOp_unaryOp (op : UnaryOp) (v : OverflowBehaviour) (s : List StackItem) :
    stackOp fuel ts locals (.unaryOp op v) s = tycheckUnaryOp op v s := rfl

@[simp] theorem stackOp_callFunction (sig : FnType) (s : List StackItem) :
    stackOp fuel ts locals (.callFunction sig) s = tycheckCallFunction fuel ts sig s := rfl

@[simp] theorem stackOp_compoundAssign (op : BinaryOp) (v : OverflowBehaviour)
    (s : List StackItem) :
    stackOp fuel ts locals (.compoundAssign op v) s = tycheckCompoundAssign fuel ts v s := rfl

@[simp] theorem stackOp_lValueOp (op : LValueOp) (v : OverflowBehaviour) (s : List StackItem) :
    stackOp fuel ts locals (.lValueOp op v) s = tycheckLValueOp fuel ts op v s := rfl

/-! ### Calls -/

/-- The arity of a non-variadic callee is not checked: a pointer to `fn(i32, i32) -> i32` is
called with one `i32` argument and with three, and both calls are accepted. -/
theorem callFunction_arity_unchecked :
    (tycheckExpr 1 {} [] [] (.callFunction { ret := i32Ty, params := [i32Ty] })
        { vstack :=
          [⟨.pointer { inner := .fnType { ret := i32Ty, params := [i32Ty, i32Ty] } }, .rvalue⟩,
            ⟨i32Ty, .rvalue⟩] }).2 =
      .ok ({ vstack := [⟨i32Ty, .rvalue⟩] }, false) ∧
    (tycheckExpr 1 {} [] [] (.callFunction { ret := i32Ty, params := [i32Ty, i32Ty, i32Ty] })
        { vstack :=
          [⟨.pointer { inner := .fnType { ret := i32Ty, params := [i32Ty, i32Ty] } }, .rvalue⟩,
            ⟨i32Ty, .rvalue⟩, ⟨i32Ty, .rvalue⟩, ⟨i32Ty, .rvalue⟩] }).2 =
      .ok ({ vstack := [⟨i32Ty, .rvalue⟩] }, false) :=
  ⟨rfl, rfl⟩

/-- `Derive`'s own step pops a pointer r-value whose pointee unifies with the annotation's and
pushes nothing. -/
theorem deriveTail_eq_ok {pty : PointerType} {s s' : List StackItem} :
    deriveTail fuel ts pty s = .ok s' ↔
      ∃ ptr p, s = s' ++ [ptr] ∧ ptr.kind = .rvalue ∧ ptr.ty = .pointer p ∧
        checkUnify fuel ts pty.inner p.inner = .ok () := by
  constructor
  · intro h
    simp only [deriveTail, bind_eq_ok, ensure_eq_ok] at h
    obtain ⟨⟨ptr, rest⟩, hp, ⟨⟩, hk, h⟩ := h
    obtain rfl := Stack.pop_eq_ok.1 hp
    generalize hT : ptr.ty = T at h
    cases T with
    | pointer p =>
      obtain ⟨⟨⟩, hu, h⟩ := bind_eq_ok.1 h
      exact ⟨ptr, p, by rw [← Except.ok.inj h], hk, hT, hu⟩
    | _ => nomatch h
  · rintro ⟨ptr, p, rfl, hk, hT, hu⟩
    simp only [deriveTail, Stack.pop_append_singleton, ok_bind, ensure, hk, if_true, hT, hu]

/-- `Derive` drops the pointer it refines: after an accepted `Derive(pty, e)` the stack is the one
`e` leaves without its top item, a pointer r-value whose pointee unifies with `pty`'s, and the
rest of the state is the one `e` leaves. The refined pointer is never pushed back, so the stack
is one item shorter than after `e` alone. -/
theorem tycheckExpr_derive_pops {pty : PointerType} {e : Expr} {st st' : Checker} {d : Bool}
    (h : (tycheckExpr fuel ts locals targets (.derive pty e) st).2 = .ok (st', d)) :
    ∃ st1 d1 ptr p, (tycheckExpr fuel ts locals targets e st).2 = .ok (st1, d1) ∧
      st1.vstack = st'.vstack ++ [ptr] ∧ st' = { st1 with vstack := st'.vstack } ∧
      ptr.kind = .rvalue ∧ ptr.ty = .pointer p ∧ checkUnify fuel ts pty.inner p.inner = .ok () ∧
      d = false := by
  obtain ⟨⟨st1, d1⟩, he, h⟩ := bind_eq_ok.1 h
  obtain ⟨s, hd, h⟩ := map_eq_ok.1 h
  obtain ⟨ptr, p, hs, hk, hT, hu⟩ := deriveTail_eq_ok.1 hd
  cases h
  exact ⟨st1, d1, ptr, p, he, hs, rfl, hk, hT, hu, rfl⟩

/-- `Derive` of a pointer to `i32` leaves an empty stack. -/
theorem derive_i32_pointer_pops :
    (tycheckExpr 1 {} [] [] (.derive { inner := i32Ty } .null)
        { vstack := [⟨.pointer { inner := i32Ty }, .rvalue⟩] }).2 = .ok ({ vstack := [] }, false) ∧
    ∃ st1 d1 ptr p, (tycheckExpr 1 {} [] [] .null
        { vstack := [⟨.pointer { inner := i32Ty }, .rvalue⟩] }).2 = .ok (st1, d1) ∧
      st1.vstack = [] ++ [ptr] ∧ ({ vstack := [] } : Checker) = { st1 with vstack := [] } ∧
      ptr.kind = .rvalue ∧ ptr.ty = .pointer p ∧ checkUnify 1 {} i32Ty p.inner = .ok () ∧
      false = false :=
  ⟨rfl, @tycheckExpr_derive_pops 1 {} [] [] { inner := i32Ty } .null
    { vstack := [⟨.pointer { inner := i32Ty }, .rvalue⟩] } { vstack := [] } false rfl⟩

/-! ### Indirect branches -/

/-- An indirect branch to a label address is always rejected: whenever `Const(LabelAddress n)` is
accepted, `BranchIndirect` on the state it leaves fails, at every fuel and over every table. -/
theorem branchIndirect_labelAddress_rejected {n : Nat} {st st1 : Checker} {d : Bool}
    (h : (tycheckExpr fuel ts locals targets (.const (.labelAddress n)) st).2 = .ok (st1, d)) :
    ∀ r, (tycheckExpr fuel ts locals targets .branchIndirect st1).2 ≠ .ok r := by
  obtain ⟨s, hc, hst⟩ := map_eq_ok.1 h
  cases hst
  simp only [backfill, tycheckConst, bind_eq_ok] at hc
  obtain ⟨_, -, ⟨⟩, -, hc⟩ := hc
  cases hc
  rintro ⟨st', d'⟩ hr
  obtain ⟨s', hs', -, -⟩ := (tycheckExpr_stackOp_eq_ok (by rfl)).1 hr
  obtain ⟨⟨target, rest⟩, hp, hs'⟩ := bind_eq_ok.1 hs'
  simp only [Stack.pop_append_singleton, Except.ok.injEq, Prod.mk.injEq] at hp
  obtain ⟨rfl, rfl⟩ := hp
  obtain ⟨⟨⟩, -, hs'⟩ := bind_eq_ok.1 hs'
  obtain ⟨⟨⟩, hu, -⟩ := bind_eq_ok.1 hs'
  cases fuel with
  | zero => nomatch hu
  | succ m => exact checkUnify_void_void_ne_ok m ts ((checkUnify_succ_eq_ok m ts _ _).1 hu)

/-- Taking the address of an empty-stack label `0` and branching to it. -/
theorem labelAddress_zero_branch_rejected :
    (tycheckExpr 1 {} [] [(0, [])] (.const (.labelAddress 0)) {}).2 =
        .ok ({ vstack := [⟨.pointer { inner := .void }, .rvalue⟩] }, false) ∧
      ∀ r, (tycheckExpr 1 {} [] [(0, [])] .branchIndirect
        { vstack := [⟨.pointer { inner := .void }, .rvalue⟩] }).2 ≠ .ok r :=
  ⟨rfl, @branchIndirect_labelAddress_rejected 1 {} [] [(0, [])] 0 {}
    { vstack := [⟨.pointer { inner := .void }, .rvalue⟩] } false rfl⟩

/-! ### Arithmetic -/

/-- Everything an accepted `BinaryOp(op, v)` checked, and its result: both operands are
r-values, the top one reifies to a scalar, and they are replaced by `binaryOpPush`. The operand
below the top is not looked at beyond its kind. -/
theorem tycheckBinaryOp_eq_ok {op : BinaryOp} {v : OverflowBehaviour} {s s' : List StackItem} :
    tycheckBinaryOp ts op v s = .ok s' ↔
      ∃ rest val2 val1 sc, s = rest ++ [val2, val1] ∧ val1.kind = .rvalue ∧
        val2.kind = .rvalue ∧ ts.refiyType val1.ty = .scalar sc ∧
        s' = rest ++ binaryOpPush op v val1 := by
  have hpush : ∀ rest val2 val1 sc, val1.kind = .rvalue → val2.kind = .rvalue →
      ts.refiyType val1.ty = .scalar sc →
      tycheckBinaryOp ts op v (rest ++ [val2, val1]) = .ok (rest ++ binaryOpPush op v val1) := by
    intro rest val2 val1 sc hk1 hk2 hs
    rw [show rest ++ [val2, val1] = rest ++ [val2] ++ [val1] by simp]
    simp only [tycheckBinaryOp, Stack.pop_append_singleton, ok_bind, ensure, hk1, hk2, if_true, hs]
    cases op <;> cases v <;> rfl
  constructor
  · intro h
    have h0 := h
    simp only [tycheckBinaryOp, bind_eq_ok, ensure_eq_ok] at h
    obtain ⟨⟨val1, s1⟩, h1, ⟨val2, rest⟩, h2, ⟨⟩, hk1, ⟨⟩, hk2, h⟩ := h
    obtain rfl := Stack.pop_eq_ok.1 h1
    obtain rfl := Stack.pop_eq_ok.1 h2
    generalize hD : ts.refiyType val1.ty = D at h
    cases D with
    | scalar sc =>
      have hs : rest ++ [val2] ++ [val1] = rest ++ [val2, val1] := by simp
      rw [hs, hpush rest val2 val1 sc hk1 hk2 hD] at h0
      exact ⟨rest, val2, val1, sc, hs, hk1, hk2, hD, (Except.ok.inj h0).symm⟩
    | _ => nomatch h
  · rintro ⟨rest, val2, val1, sc, rfl, hk1, hk2, hs, rfl⟩
    exact hpush rest val2 val1 sc hk1 hk2 hs

/-- `BinaryOp` reads the type of its top operand only: with an r-value reifying to a scalar on
top and any r-value below it, whatever that one's type, every operator is accepted, and it pushes
`binaryOpPush`. -/
theorem tycheckExpr_binaryOp_of_top_scalar {op : BinaryOp} {v : OverflowBehaviour} {st : Checker}
    {rest : List StackItem} {val2 val1 : StackItem} {sc : ScalarType}
    (hs : st.vstack = rest ++ [val2, val1]) (h2 : val2.kind = .rvalue) (h1 : val1.kind = .rvalue)
    (hsc : ts.refiyType val1.ty = .scalar sc) :
    (tycheckExpr fuel ts locals targets (.binaryOp op v) st).2 =
      .ok ({ st with vstack := rest ++ binaryOpPush op v val1 }, false) :=
  (tycheckExpr_stackOp_eq_ok (by rfl)).2
    ⟨_, tycheckBinaryOp_eq_ok.2 ⟨rest, val2, val1, sc, hs, h1, h2, hsc, rfl⟩, rfl, rfl⟩

/-- `Add` accepts a pointer below an `i32` and pushes the `i32` back. -/
theorem add_pointer_operand_accepted :
    (tycheckExpr 0 {} [] [] (.binaryOp .add .unchecked)
        { vstack := [⟨.pointer { inner := i32Ty }, .rvalue⟩, ⟨i32Ty, .rvalue⟩] }).2 =
      .ok ({ vstack := [⟨i32Ty, .rvalue⟩] }, false) :=
  @tycheckExpr_binaryOp_of_top_scalar 0 {} [] [] .add .unchecked
    { vstack := [⟨.pointer { inner := i32Ty }, .rvalue⟩, ⟨i32Ty, .rvalue⟩] } []
    ⟨.pointer { inner := i32Ty }, .rvalue⟩ ⟨i32Ty, .rvalue⟩ _ rfl rfl rfl rfl

/-- `UnaryOp(Minus, v)` checks an r-value whose type, as written, is a scalar, and pushes it back
(with the flag when checked). -/
theorem tycheckUnaryOp_minus_eq_ok {v : OverflowBehaviour} {s s' : List StackItem} :
    tycheckUnaryOp .minus v s = .ok s' ↔
      ∃ rest val sc, s = rest ++ [val] ∧ val.kind = .rvalue ∧ val.ty = .scalar sc ∧
        s' = rest ++ if v = .checked then [val, ⟨u1Ty, .rvalue⟩] else [val] := by
  constructor
  · intro h
    simp only [tycheckUnaryOp, bind_eq_ok, ensure_eq_ok] at h
    obtain ⟨⟨val, rest⟩, hp, ⟨⟩, hk, h⟩ := h
    obtain rfl := Stack.pop_eq_ok.1 hp
    generalize hT : val.ty = T at h
    cases T with
    | scalar sc => exact ⟨rest, val, sc, rfl, hk, hT, by cases v <;> exact (Except.ok.inj h).symm⟩
    | _ => nomatch h
  · rintro ⟨rest, val, sc, rfl, hk, hT, rfl⟩
    simp only [tycheckUnaryOp, Stack.pop_append_singleton, ok_bind, ensure, hk, if_true, hT]
    cases v <;> rfl

/-- `CompoundAssign(op, v)` checks an l-value and an r-value whose types unify, the l-value's
reifying to a scalar; it pushes only the flag, and only when checked. -/
theorem tycheckCompoundAssign_eq_ok {v : OverflowBehaviour} {s s' : List StackItem} :
    tycheckCompoundAssign fuel ts v s = .ok s' ↔
      ∃ rest lvalue rvalue sc, s = rest ++ [lvalue, rvalue] ∧ rvalue.kind = .rvalue ∧
        lvalue.kind = .lvalue ∧ checkUnify fuel ts lvalue.ty rvalue.ty = .ok () ∧
        ts.refiyType lvalue.ty = .scalar sc ∧
        s' = rest ++ if v = .checked then [⟨u1Ty, .rvalue⟩] else [] := by
  constructor
  · intro h
    simp only [tycheckCompoundAssign, bind_eq_ok, ensure_eq_ok] at h
    obtain ⟨⟨rvalue, s1⟩, h1, ⟨lvalue, rest⟩, h2, ⟨⟩, hk1, ⟨⟩, hk2, ⟨⟩, hu, h⟩ := h
    obtain rfl := Stack.pop_eq_ok.1 h1
    obtain rfl := Stack.pop_eq_ok.1 h2
    generalize hD : ts.refiyType lvalue.ty = D at h
    cases D with
    | scalar sc =>
      refine ⟨rest, lvalue, rvalue, sc, by simp, hk1, hk2, hu, hD, ?_⟩
      dsimp only at h
      split at h <;> simp_all
    | _ => nomatch h
  · rintro ⟨rest, lvalue, rvalue, sc, rfl, hk1, hk2, hu, hD, rfl⟩
    rw [show rest ++ [lvalue, rvalue] = rest ++ [lvalue] ++ [rvalue] by simp]
    simp only [tycheckCompoundAssign, Stack.pop_append_singleton, ok_bind, ensure, hk1, hk2,
      if_true, hu, hD]
    split <;> simp

/-- `PreInc`/`PreDec` check an l-value reifying to a scalar and push it back (with the flag when
checked). -/
theorem tycheckLValueOp_pre_eq_ok {op : LValueOp} (hop : op = .preInc ∨ op = .preDec)
    {v : OverflowBehaviour} {s s' : List StackItem} :
    tycheckLValueOp fuel ts op v s = .ok s' ↔
      ∃ rest l sc, s = rest ++ [l] ∧ l.kind = .lvalue ∧ ts.refiyType l.ty = .scalar sc ∧
        s' = rest ++ if v = .checked then [l, ⟨u1Ty, .rvalue⟩] else [l] := by
  rcases hop with rfl | rfl <;> constructor
  all_goals first
    | intro h
      simp only [tycheckLValueOp, bind_eq_ok, ensure_eq_ok] at h
      obtain ⟨⟨l, rest⟩, hp, ⟨⟩, hk, h⟩ := h
      obtain rfl := Stack.pop_eq_ok.1 hp
      generalize hD : ts.refiyType l.ty = D at h
      cases D
      case scalar sc => exact ⟨rest, l, sc, rfl, hk, hD, by dsimp only at h; split at h <;> simp_all⟩
      all_goals nomatch h
    | rintro ⟨rest, l, sc, rfl, hk, hD, rfl⟩
      simp only [tycheckLValueOp, Stack.pop_append_singleton, ok_bind, ensure, hk, if_true, hD]
      split <;> simp

/-- `PostInc`/`PostDec` check an l-value reifying to a scalar; the checked form pushes it back as
an r-value with the flag, every other form pushes the l-value itself. -/
theorem tycheckLValueOp_post_eq_ok {op : LValueOp} (hop : op = .postInc ∨ op = .postDec)
    {v : OverflowBehaviour} {s s' : List StackItem} :
    tycheckLValueOp fuel ts op v s = .ok s' ↔
      ∃ rest l sc, s = rest ++ [l] ∧ l.kind = .lvalue ∧ ts.refiyType l.ty = .scalar sc ∧
        s' = rest ++ if v = .checked then [{ l with kind := .rvalue }, ⟨u1Ty, .rvalue⟩] else [l] := by
  rcases hop with rfl | rfl <;> constructor
  all_goals first
    | intro h
      simp only [tycheckLValueOp, bind_eq_ok, ensure_eq_ok] at h
      obtain ⟨⟨l, rest⟩, hp, ⟨⟩, hk, h⟩ := h
      obtain rfl := Stack.pop_eq_ok.1 hp
      generalize hD : ts.refiyType l.ty = D at h
      cases D
      case scalar sc => exact ⟨rest, l, sc, rfl, hk, hD, by dsimp only at h; split at h <;> simp_all⟩
      all_goals nomatch h
    | rintro ⟨rest, l, sc, rfl, hk, hD, rfl⟩
      simp only [tycheckLValueOp, Stack.pop_append_singleton, ok_bind, ensure, hk, if_true, hD]
      split <;> simp

/-! ### Overflow flags -/

/-- Checked post-increment and post-decrement do more than add the flag: wherever another form
is accepted, the checked form is accepted too, but it pushes the old value as an r-value where the
other form pushes the l-value, so the checked stack is never the other stack followed by the
flag. -/
theorem postIncDec_checked_not_flag {op : LValueOp} (hop : op = .postInc ∨ op = .postDec)
    {v : OverflowBehaviour} (hv : v ≠ .checked) {st st2 : Checker} {d : Bool}
    (h : (tycheckExpr fuel ts locals targets (.lValueOp op v) st).2 = .ok (st2, d)) :
    ∃ st1, (tycheckExpr fuel ts locals targets (.lValueOp op .checked) st).2 = .ok (st1, false) ∧
      st1.vstack ≠ st2.vstack ++ [⟨u1Ty, .rvalue⟩] := by
  obtain ⟨s2, h2, rfl, -⟩ := (tycheckExpr_stackOp_eq_ok (by rfl)).1 h
  obtain ⟨rest, l, sc, hs, hk, hD, rfl⟩ := (tycheckLValueOp_post_eq_ok hop).1 h2
  refine ⟨_, (tycheckExpr_stackOp_eq_ok (by rfl)).2
    ⟨_, (tycheckLValueOp_post_eq_ok hop).2 ⟨rest, l, sc, hs, hk, hD, rfl⟩, rfl, rfl⟩, ?_⟩
  simp only [if_pos, if_neg hv, List.append_assoc, List.singleton_append, ne_eq,
    List.append_cancel_left_eq, List.cons.injEq, and_true]
  intro hl
  simpa [hk] using congrArg StackItem.kind hl

/-- Post-incrementing a `u8` local: the unchecked form leaves the l-value, the checked form an
r-value and the flag. -/
theorem postInc_u8_checked_not_flag :
    ∃ st1, (tycheckExpr 0 {} [] [] (.lValueOp .postInc .checked)
        { vstack := [⟨u8Ty, .lvalue⟩] }).2 = .ok (st1, false) ∧
      st1.vstack ≠ [⟨u8Ty, .lvalue⟩] ++ [⟨u1Ty, .rvalue⟩] :=
  @postIncDec_checked_not_flag 0 {} [] [] .postInc (.inl rfl) .unchecked (by decide)
    { vstack := [⟨u8Ty, .lvalue⟩] } { vstack := [⟨u8Ty, .lvalue⟩] } false rfl

/-- The overflow-sensitive instructions whose checked form only adds the flag, as functions of
the overflow behaviour: arithmetic `BinaryOp`, `Minus`, `CompoundAssign`, `PreInc`/`PreDec`. -/
inductive FlagsOverflow : (OverflowBehaviour → Expr) → Prop
  | binaryOp {op : BinaryOp} : isComparison op = false → FlagsOverflow (.binaryOp op)
  | minus : FlagsOverflow (.unaryOp .minus)
  | compoundAssign (op : BinaryOp) : FlagsOverflow (.compoundAssign op)
  | pre {op : LValueOp} : (op = .preInc ∨ op = .preDec) → FlagsOverflow (.lValueOp op)

theorem FlagsOverflow.isStackOp {e : OverflowBehaviour → Expr} (he : FlagsOverflow e)
    (v : OverflowBehaviour) : isStackOp (e v) = true := by
  cases he <;> rfl

theorem stackOp_checked_eq_ok {e : OverflowBehaviour → Expr} (he : FlagsOverflow e)
    {v : OverflowBehaviour} (hv : v ≠ .checked) (s s1 : List StackItem) :
    stackOp fuel ts locals (e .checked) s = .ok s1 ↔
      ∃ s2, stackOp fuel ts locals (e v) s = .ok s2 ∧ s1 = s2 ++ [⟨u1Ty, .rvalue⟩] := by
  cases he with
  | binaryOp hop =>
    simp only [stackOp_binaryOp, tycheckBinaryOp_eq_ok, binaryOpPush_of_not_comparison hop,
      if_pos, if_neg hv]
    constructor
    · rintro ⟨rest, val2, val1, sc, hs, h1, h2, hsc, rfl⟩
      exact ⟨_, ⟨rest, val2, val1, sc, hs, h1, h2, hsc, rfl⟩, by simp⟩
    · rintro ⟨_, ⟨rest, val2, val1, sc, hs, h1, h2, hsc, rfl⟩, rfl⟩
      exact ⟨rest, val2, val1, sc, hs, h1, h2, hsc, by simp⟩
  | minus =>
    simp only [stackOp_unaryOp, tycheckUnaryOp_minus_eq_ok, if_pos, if_neg hv]
    constructor
    · rintro ⟨rest, val, sc, hs, hk, hT, rfl⟩
      exact ⟨_, ⟨rest, val, sc, hs, hk, hT, rfl⟩, by simp⟩
    · rintro ⟨_, ⟨rest, val, sc, hs, hk, hT, rfl⟩, rfl⟩
      exact ⟨rest, val, sc, hs, hk, hT, by simp⟩
  | compoundAssign op =>
    simp only [stackOp_compoundAssign, tycheckCompoundAssign_eq_ok, if_pos, if_neg hv]
    constructor
    · rintro ⟨rest, l, r, sc, hs, h1, h2, hu, hD, rfl⟩
      exact ⟨_, ⟨rest, l, r, sc, hs, h1, h2, hu, hD, rfl⟩, by simp⟩
    · rintro ⟨_, ⟨rest, l, r, sc, hs, h1, h2, hu, hD, rfl⟩, rfl⟩
      exact ⟨rest, l, r, sc, hs, h1, h2, hu, hD, by simp⟩
  | pre hop =>
    simp only [stackOp_lValueOp, tycheckLValueOp_pre_eq_ok hop, if_pos, if_neg hv]
    constructor
    · rintro ⟨rest, l, sc, hs, hk, hD, rfl⟩
      exact ⟨_, ⟨rest, l, sc, hs, hk, hD, rfl⟩, by simp⟩
    · rintro ⟨_, ⟨rest, l, sc, hs, hk, hD, rfl⟩, rfl⟩
      exact ⟨rest, l, sc, hs, hk, hD, by simp⟩

/-- For arithmetic `BinaryOp`, `Minus`, `CompoundAssign`, `PreInc` and `PreDec`, the checked form
is accepted exactly when any other form is, and it leaves the other form's state with the
overflow flag pushed on top. -/
theorem tycheckExpr_checked_adds_flag {e : OverflowBehaviour → Expr} (he : FlagsOverflow e)
    {v : OverflowBehaviour} (hv : v ≠ .checked) (st st1 : Checker) (d : Bool) :
    (tycheckExpr fuel ts locals targets (e .checked) st).2 = .ok (st1, d) ↔
      ∃ st2, (tycheckExpr fuel ts locals targets (e v) st).2 = .ok (st2, d) ∧
        st1 = { st2 with vstack := st2.vstack ++ [⟨u1Ty, .rvalue⟩] } := by
  simp only [tycheckExpr_stackOp_eq_ok (he.isStackOp _)]
  constructor
  · rintro ⟨s1, h1, rfl, rfl⟩
    obtain ⟨s2, h2, rfl⟩ := (stackOp_checked_eq_ok he hv _ _).1 h1
    exact ⟨_, ⟨s2, h2, rfl, rfl⟩, rfl⟩
  · rintro ⟨_, ⟨s2, h2, rfl, rfl⟩, rfl⟩
    exact ⟨_, (stackOp_checked_eq_ok he hv _ _).2 ⟨s2, h2, rfl⟩, rfl, rfl⟩

/-- Checked and unchecked `PreInc` on a `u8` local. -/
theorem preInc_u8_checked_adds_flag :
    (tycheckExpr 0 {} [] [] (.lValueOp .preInc .checked) { vstack := [⟨u8Ty, .lvalue⟩] }).2 =
        .ok ({ vstack := [⟨u8Ty, .lvalue⟩, ⟨u1Ty, .rvalue⟩] }, false) ↔
      ∃ st2, (tycheckExpr 0 {} [] [] (.lValueOp .preInc .unchecked)
          { vstack := [⟨u8Ty, .lvalue⟩] }).2 = .ok (st2, false) ∧
        ({ vstack := [⟨u8Ty, .lvalue⟩, ⟨u1Ty, .rvalue⟩] } : Checker) =
          { st2 with vstack := st2.vstack ++ [⟨u1Ty, .rvalue⟩] } :=
  @tycheckExpr_checked_adds_flag 0 {} [] [] _ (.pre (.inl rfl)) .unchecked (by decide)
    { vstack := [⟨u8Ty, .lvalue⟩] } { vstack := [⟨u8Ty, .lvalue⟩, ⟨u1Ty, .rvalue⟩] } false

/-! ### Wrappers -/

/-- An arm of `stackOp` is accepted by `tycheck_expr` exactly when `stackOp` accepts the stack. -/
theorem tycheckExpr_stackOp_ok_iff {e : Expr} (he : isStackOp e = true) {st : Checker} :
    (∃ r, (tycheckExpr fuel ts locals targets e st).2 = .ok r) ↔
      ∃ s, stackOp fuel ts locals e st.vstack = .ok s := by
  constructor
  · rintro ⟨⟨st', d⟩, h⟩
    obtain ⟨s, hs, -⟩ := (tycheckExpr_stackOp_eq_ok he).1 h
    exact ⟨s, hs⟩
  · rintro ⟨s, hs⟩
    exact ⟨_, (tycheckExpr_stackOp_eq_ok he).2 ⟨s, hs, rfl, rfl⟩⟩

/-- A `UnaryOp` on an r-value is accepted exactly when the operand's type, as written, is a
scalar: the arm matches `val.ty` without reifying it. -/
theorem tycheckUnaryOp_rvalue_ok_iff {op : UnaryOp} {v : OverflowBehaviour}
    {rest : List StackItem} {ty : Ty} :
    (∃ s, tycheckUnaryOp op v (rest ++ [⟨ty, .rvalue⟩]) = .ok s) ↔ ∃ sc, ty = .scalar sc := by
  simp only [tycheckUnaryOp, Stack.pop_append_singleton, ok_bind, ensure, if_true]
  cases ty
  case scalar sc => cases op <;> cases v <;> simp
  all_goals simp

/-- Wrappers are not transparent to `UnaryOp`: on every stack, every unary operator accepts an
r-value of scalar type on top and rejects the same value with its type wrapped once in
`TaggedType` or in `Aligned`. -/
theorem unaryOp_wrapper_not_transparent (op : UnaryOp) (v : OverflowBehaviour) (st : Checker)
    (rest : List StackItem) (sc : ScalarType) (n : Nat) :
    (∃ r, (tycheckExpr fuel ts locals targets (.unaryOp op v)
        { st with vstack := rest ++ [⟨.scalar sc, .rvalue⟩] }).2 = .ok r) ∧
      (¬ ∃ r, (tycheckExpr fuel ts locals targets (.unaryOp op v)
        { st with vstack := rest ++ [⟨.taggedType n (.scalar sc), .rvalue⟩] }).2 = .ok r) ∧
      ¬ ∃ r, (tycheckExpr fuel ts locals targets (.unaryOp op v)
        { st with vstack := rest ++ [⟨.aligned n (.scalar sc), .rvalue⟩] }).2 = .ok r := by
  simp only [tycheckExpr_stackOp_ok_iff (e := .unaryOp op v) rfl, stackOp_unaryOp,
    tycheckUnaryOp_rvalue_ok_iff]
  exact ⟨⟨sc, rfl⟩, nofun, nofun⟩

/-! ### L-values and r-values -/

/-- `AsRValue` turns the l-value on top into an r-value of the same type. -/
theorem stackOp_asRValue_eq_ok {s s' : List StackItem} :
    stackOp fuel ts locals .asRValue s = .ok s' ↔
      ∃ rest ty, s = rest ++ [⟨ty, .lvalue⟩] ∧ s' = rest ++ [⟨ty, .rvalue⟩] := by
  constructor
  · intro h
    unfold stackOp at h
    simp only [bind_eq_ok, ensure_eq_ok] at h
    obtain ⟨⟨⟨ty, k⟩, rest⟩, hp, ⟨⟩, rfl, h⟩ := h
    exact ⟨rest, ty, Stack.pop_eq_ok.1 hp, (Except.ok.inj h).symm⟩
  · rintro ⟨rest, ty, rfl, rfl⟩
    unfold stackOp
    dsimp only
    rw [Stack.pop_append_singleton]
    rfl

/-- `AddrOf` pushes a pointer to the type of the l-value on top, and keeps its kind: the pointer
is an l-value. -/
theorem stackOp_addrOf_eq_ok {s s' : List StackItem} :
    stackOp fuel ts locals .addrOf s = .ok s' ↔
      ∃ rest ty, s = rest ++ [⟨ty, .lvalue⟩] ∧ s' = rest ++ [⟨.pointer { inner := ty }, .lvalue⟩] := by
  constructor
  · intro h
    unfold stackOp at h
    simp only [bind_eq_ok, ensure_eq_ok] at h
    obtain ⟨⟨⟨ty, k⟩, rest⟩, hp, ⟨⟩, rfl, h⟩ := h
    exact ⟨rest, ty, Stack.pop_eq_ok.1 hp, (Except.ok.inj h).symm⟩
  · rintro ⟨rest, ty, rfl, rfl⟩
    unfold stackOp
    dsimp only
    rw [Stack.pop_append_singleton]
    rfl

/-- `Indirect` replaces a pointer r-value on top, as written, by an l-value of its pointee. -/
theorem stackOp_indirect_eq_ok {s s' : List StackItem} :
    stackOp fuel ts locals .indirect s = .ok s' ↔
      ∃ rest p, s = rest ++ [⟨.pointer p, .rvalue⟩] ∧ s' = rest ++ [⟨p.inner, .lvalue⟩] := by
  constructor
  · intro h
    unfold stackOp at h
    simp only [bind_eq_ok, ensure_eq_ok] at h
    obtain ⟨⟨⟨ty, k⟩, rest⟩, hp, ⟨⟩, rfl, h⟩ := h
    cases ty with
    | pointer p => exact ⟨rest, p, Stack.pop_eq_ok.1 hp, (Except.ok.inj h).symm⟩
    | _ => nomatch h
  · rintro ⟨rest, p, rfl, rfl⟩
    unfold stackOp
    dsimp only
    rw [Stack.pop_append_singleton]
    rfl

theorem stackOp_indirect_lvalue (rest : List StackItem) (ty : Ty) :
    ∃ f, stackOp fuel ts locals .indirect (rest ++ [⟨ty, .lvalue⟩]) = .error f := by
  rcases hi : stackOp fuel ts locals .indirect (rest ++ [⟨ty, .lvalue⟩]) with f | s
  · exact ⟨f, hi⟩
  · obtain ⟨rest', p, h, -⟩ := stackOp_indirect_eq_ok.1 hi
    have := congrArg List.getLast? h
    simp at this

/-- `AddrOf` and `Indirect` are not inverse: `AddrOf` keeps the l-value kind of the item it pops,
so the pointer it pushes is an l-value, which `Indirect` rejects. From every state, whatever
follows, a block in which control reaches `AddrOf` and then `Indirect` is rejected. Only with an
`AsRValue` between them does the l-value come back; the other way round, `Indirect` then `AddrOf`
turns a pointer r-value into a pointer l-value with its annotations reset. -/
theorem addrOf_indirect_rejected :
    (∀ targets dv st items, ∃ f, (tycheckItems fuel ts locals targets
      (.expr .addrOf :: .expr .indirect :: items) dv st).2 = .error f) ∧
    (∀ rest ty, (stackOp fuel ts locals .addrOf (rest ++ [⟨ty, .lvalue⟩]) >>=
      stackOp fuel ts locals .asRValue >>= stackOp fuel ts locals .indirect) =
        .ok (rest ++ [⟨ty, .lvalue⟩])) ∧
    ∀ rest p, (stackOp fuel ts locals .indirect (rest ++ [⟨.pointer p, .rvalue⟩]) >>=
      stackOp fuel ts locals .addrOf) = .ok (rest ++ [⟨.pointer { inner := p.inner }, .lvalue⟩]) := by
  refine ⟨fun targets dv st items => ?_, fun rest ty => ?_, fun rest p => ?_⟩
  · simp only [tycheckItems, tycheckExpr_stackOp (e := .addrOf) rfl,
      tycheckExpr_stackOp (e := .indirect) rfl]
    rcases ha : stackOp fuel ts locals .addrOf st.vstack with f | s1
    · exact ⟨f, rfl⟩
    obtain ⟨rest, ty, -, rfl⟩ := stackOp_addrOf_eq_ok.1 ha
    obtain ⟨f, hf⟩ := @stackOp_indirect_lvalue fuel ts locals rest (.pointer { inner := ty })
    exact ⟨f, by simp only [Except.map, hf]⟩
  · rw [stackOp_addrOf_eq_ok.2 ⟨rest, ty, rfl, rfl⟩, ok_bind, stackOp_asRValue_eq_ok.2 ⟨_, _, rfl, rfl⟩,
      ok_bind, stackOp_indirect_eq_ok.2 ⟨_, _, rfl, rfl⟩]
  · rw [stackOp_indirect_eq_ok.2 ⟨rest, p, rfl, rfl⟩, ok_bind, stackOp_addrOf_eq_ok.2 ⟨_, _, rfl, rfl⟩]

end Steps

end Lccc.Xir
