import Lccc.Xir.Validate
import Mathlib.Data.List.Forall2

/-!
# Lccc.Xir.Run

**Runs of the validator.** What each control-flow step can do, stated once, and how a property
of single steps lifts to whole runs:

* `StackFits`/`SameShape` — the declarative reading of `check_unify_stack` and of the pairwise
  comparisons of exit stacks and switch cases (`checkUnifyStack_eq_ok`);
* inversion lemmas for `ExitBlock`, `Branch`, `Switch` (`tycheckExitBlock_inv`, ...);
* `tycheck_induction` — the mutual recursion of `tycheck_expr` and `tycheck_block` as an
  induction principle, with one case per kind of arm;
* `RunInvariant` and `RunInvariant.run`/`.run_block` — a relation between states that every step
  respects holds between the first and last state of every successful run.
-/

namespace Lccc.Xir

open Lccc.Xlang

/-! ### Stack operations -/

theorem Stack.pop_eq_ok {s s' : List StackItem} {x : StackItem} :
    Stack.pop s = .ok (x, s') ↔ s = s' ++ [x] := by
  unfold Stack.pop
  constructor
  · intro h
    split at h
    · rename_i hl
      cases h
      exact (List.dropLast_append_getLast? x hl).symm
    · cases h
  · rintro rfl
    simp

theorem Stack.popN_eq_ok {s top rest : List StackItem} {n : Nat} :
    Stack.popN s n = .ok (top, rest) ↔ s = rest ++ top ∧ top.length = n := by
  unfold Stack.popN
  split
  · simp only [Except.ok.injEq, Prod.mk.injEq]
    constructor
    · rintro ⟨rfl, rfl⟩
      simp only [List.take_append_drop, List.length_drop, true_and]
      omega
    · rintro ⟨rfl, rfl⟩
      simp
  · simp only [reduceCtorEq, false_iff, not_and]
    rintro rfl rfl
    simp_all

theorem Stack.splitOffBack_eq_ok {s top rest : List StackItem} {n : Nat} :
    Stack.splitOffBack s n = .ok (top, rest) ↔ s = rest ++ top ∧ top.length = n := by
  rw [← Stack.popN_eq_ok]
  unfold Stack.splitOffBack Stack.popN
  split <;> simp

/-! ### Stack shapes -/

section Shapes

variable (fuel : Nat) (ts : TypeState)

/-- One stack item fits another: equal kinds, and types that `check_unify` accepts. -/
def ItemFits (a b : StackItem) : Prop := a.kind = b.kind ∧ checkUnify fuel ts a.ty b.ty = .ok ()

/-- The top `declared.length` items of `live` fit `declared`, position by position. -/
def StackFits (live declared : List StackItem) : Prop :=
  declared.length ≤ live.length ∧
    List.Forall₂ (ItemFits fuel ts) (live.drop (live.length - declared.length)) declared

/-- Two stacks of equal length that fit item by item. -/
def SameShape (a b : List StackItem) : Prop := List.Forall₂ (ItemFits fuel ts) a b

instance (a b : StackItem) : Decidable (ItemFits fuel ts a b) := by
  unfold ItemFits; infer_instance

instance (live declared : List StackItem) : Decidable (StackFits fuel ts live declared) := by
  unfold StackFits; infer_instance

instance (a b : List StackItem) : Decidable (SameShape fuel ts a b) := by
  unfold SameShape; infer_instance

end Shapes

theorem forM_zip_eq_ok {R : StackItem → StackItem → Prop}
    {f : StackItem × StackItem → Except Failure PUnit} {a b : List StackItem}
    (hf : ∀ x y, f (x, y) = .ok ⟨⟩ ↔ R x y) (hl : a.length = b.length) :
    (a.zip b).forM f = .ok ⟨⟩ ↔ List.Forall₂ R a b := by
  rw [forM_eq_ok, List.forall₂_iff_zip]
  simp only [hl, true_and]
  exact ⟨fun h x y hxy => (hf x y).1 (h _ hxy), fun h p hp => (hf p.1 p.2).2 (h hp)⟩

theorem itemCheck_eq_ok {fuel : Nat} {ts : TypeState} {a b : StackItem} {msg : String} :
    (do ensure (a.kind = b.kind) msg; checkUnify fuel ts a.ty b.ty) = .ok ⟨⟩ ↔
      ItemFits fuel ts a b := by
  rcases h : checkUnify fuel ts a.ty b.ty with e | ⟨⟩ <;>
    by_cases hk : a.kind = b.kind <;> simp [ItemFits, ensure, hk, h, bind, Except.bind]

/-- `check_unify_stack` succeeds exactly when the live stack fits the target. -/
theorem checkUnifyStack_eq_ok {fuel : Nat} {ts : TypeState} {live declared : List StackItem}
    {u : Unit} :
    checkUnifyStack fuel ts live declared = .ok u ↔ StackFits fuel ts live declared := by
  unfold checkUnifyStack StackFits
  split
  · rename_i hle
    simp only [hle, true_and]
    exact forM_zip_eq_ok (fun _ _ => itemCheck_eq_ok) (by simp; omega)
  · simp_all

theorem SameShape.length_eq {fuel : Nat} {ts : TypeState} {a b : List StackItem}
    (h : SameShape fuel ts a b) : a.length = b.length :=
  List.Forall₂.length_eq h

/-- Stacks of equal length fit exactly when they have the same shape. -/
theorem stackFits_iff_sameShape {fuel : Nat} {ts : TypeState} {a b : List StackItem}
    (h : a.length = b.length) : StackFits fuel ts a b ↔ SameShape fuel ts a b := by
  simp [StackFits, SameShape, h]

/-! ### Transfer events -/

/-- The event is a transfer into a label. -/
def Event.IsJump : Event → Prop
  | .jump .. => True
  | .exit .. => False

/-- What the validator has checked of a transfer when it records it: the live stack fits the
label's declared stack, except for a later case of a hash switch, where the live stack fits the
first case's declared stack and that stack has the shape of the case's own. Exits are not
transfers into a label. -/
def Event.Checked (fuel : Nat) (ts : TypeState) : Event → Prop
  | .jump _ live declared none => StackFits fuel ts live declared
  | .jump _ live declared (some first) =>
    StackFits fuel ts live first ∧ SameShape fuel ts first declared
  | .exit .. => True

instance (fuel : Nat) (ts : TypeState) : (ev : Event) → Decidable (ev.Checked fuel ts)
  | .jump _ live declared none => inferInstanceAs (Decidable (StackFits fuel ts live declared))
  | .jump _ live declared (some first) =>
    inferInstanceAs (Decidable (StackFits fuel ts live first ∧ SameShape fuel ts first declared))
  | .exit .. => isTrue trivial

/-! ### What the control-flow steps do -/

section Steps

variable {fuel : Nat} {ts : TypeState} {targets : List (Nat × List StackItem)} {st st' : Checker}

/-- `ExitBlock` pops `values` items and records the exit; an empty slot takes the popped stack,
a filled one stays and the popped stack has its shape. -/
theorem tycheckExitBlock_inv {blk values : Nat}
    (h : tycheckExitBlock fuel ts blk values st = .ok st') :
    ∃ stack, st.vstack = st'.vstack ++ stack ∧ stack.length = values ∧
      blk < st.blockExits.length ∧
      st'.trace = st.trace ++ [.exit (st.blockExits.length - 1) blk stack] ∧
      ((st.blockExits.getD blk none = none ∧
          st'.blockExits = st.blockExits.set blk (some stack)) ∨
        ∃ items, st.blockExits.getD blk none = some items ∧ SameShape fuel ts stack items ∧
          st'.blockExits = st.blockExits) := by
  unfold tycheckExitBlock at h
  rcases hg : st.blockExits[blk]? with _ | exit
  · simp [hg, bind, Except.bind] at h
  rcases hp : Stack.popN st.vstack values with e | ⟨stack, s⟩
  · simp [hg, hp, bind, Except.bind] at h
  obtain ⟨hs, hl⟩ := Stack.popN_eq_ok.1 hp
  have hblk : blk < st.blockExits.length := (List.getElem?_eq_some_iff.1 hg).1
  have hd : st.blockExits.getD blk none = exit := by
    rw [List.getD_eq_getElem?_getD, hg]; rfl
  simp only [hg, hp, bind, Except.bind] at h
  cases exit with
  | none =>
    cases h
    exact ⟨stack, hs, hl, hblk, rfl, .inl ⟨hd, rfl⟩⟩
  | some items =>
    rcases hc : checkUnifyStack fuel ts stack items with e | ⟨⟩ <;>
      by_cases hlen : items.length = values <;>
      simp [hc, hlen, ensure, Checker.record] at h
    cases h
    refine ⟨stack, hs, hl, hblk, rfl, .inr ⟨items, hd, ?_, rfl⟩⟩
    exact (stackFits_iff_sameShape (by omega)).1 (checkUnifyStack_eq_ok.1 hc)

/-- `Branch` records one checked transfer and changes nothing but the stack (by the condition it
pops) and the trace. -/
theorem tycheckBranch_inv {cond : BranchCondition} {target : Nat}
    (h : tycheckBranch fuel ts targets cond target st = .ok st') :
    ∃ s tstack, lookupTarget targets target = .ok tstack ∧ StackFits fuel ts s tstack ∧
      st' = { st with vstack := s }.record (.jump target s tstack none) := by
  simp only [tycheckBranch, bind_eq_ok] at h
  obtain ⟨s, -, tstack, ht, ⟨⟩, hc, h⟩ := h
  exact ⟨s, tstack, ht, checkUnifyStack_eq_ok.1 hc, (Except.ok.inj h).symm⟩

/-- The case loop records only transfers, each as checked, once the live stack fits the
reference stack (if there is one yet). -/
theorem switchCases_inv {ctrlTy : Ty} :
    ∀ {cases : List (Value × Nat)} {ustack : Option (List StackItem)} {st st' : Checker},
      switchCases fuel ts targets ctrlTy cases ustack st = .ok st' →
      (∀ first, ustack = some first → StackFits fuel ts st.vstack first) →
      ∃ evs, st' = { st with trace := st.trace ++ evs } ∧
        ∀ ev ∈ evs, ev.IsJump ∧ ev.Checked fuel ts
  | [], _, st, st', h, _ => by
    cases h
    exact ⟨[], by simp, by simp⟩
  | (val, targ) :: cases, ustack, st, st', h, hu => by
    simp only [switchCases, bind_eq_ok] at h
    obtain ⟨_, -, tstack, -, h⟩ := h
    cases ustack with
    | some stack =>
      simp only [bind_eq_ok, ensure_eq_ok] at h
      obtain ⟨_, hlen, ⟨⟩, hz, h⟩ := h
      have hshape : SameShape fuel ts stack tstack :=
        (forM_zip_eq_ok (fun _ _ => itemCheck_eq_ok) hlen).1 hz
      obtain ⟨evs, rfl, hevs⟩ := switchCases_inv h (fun first hf => by
        obtain rfl := Option.some.inj hf; exact hu stack rfl)
      refine ⟨.jump targ st.vstack tstack (some stack) :: evs, by simp [Checker.record], ?_⟩
      simp only [List.mem_cons, forall_eq_or_imp]
      exact ⟨⟨trivial, hu stack rfl, hshape⟩, hevs⟩
    | none =>
      simp only [bind_eq_ok] at h
      obtain ⟨_, hc, h⟩ := h
      have hfit := checkUnifyStack_eq_ok.1 hc
      obtain ⟨evs, rfl, hevs⟩ := switchCases_inv h (fun first hf => by
        obtain rfl := Option.some.inj hf; exact hfit)
      refine ⟨.jump targ st.vstack tstack none :: evs, by simp [Checker.record], ?_⟩
      simp only [List.mem_cons, forall_eq_or_imp]
      exact ⟨⟨trivial, hfit⟩, hevs⟩

/-- `Switch` pops its control value and records checked transfers only. -/
theorem tycheckSwitch_inv {s : Switch} (h : tycheckSwitch fuel ts targets s st = .ok st') :
    ∃ rest evs, st' = { st with vstack := rest, trace := st.trace ++ evs } ∧
      ∀ ev ∈ evs, ev.IsJump ∧ ev.Checked fuel ts := by
  simp only [tycheckSwitch, bind_eq_ok] at h
  obtain ⟨⟨ctrl, rest⟩, -, ⟨⟩, -, ⟨⟩, -, h⟩ := h
  cases s with
  | hash cases =>
    obtain ⟨evs, rfl, hevs⟩ := switchCases_inv h (by simp)
    exact ⟨rest, evs, rfl, hevs⟩
  | linear => cases h

end Steps

/-! ### Induction over the recursion of `tycheck_expr` -/

/-- The stack-only opcodes unfold to `stackOp`. -/
theorem tycheckExpr_stackOp {fuel : Nat} {ts : TypeState} {locals : List Ty}
    {targets : List (Nat × List StackItem)} {e : Expr} (h : isStackOp e = true) (st : Checker) :
    tycheckExpr fuel ts locals targets e st =
      (e, (stackOp fuel ts locals e st.vstack).map fun s => ({ st with vstack := s }, false)) := by
  cases e <;> first | rfl | simp [isStackOp] at h

section Induction

variable {P : Expr → Prop} {Q : List BlockItem → Prop}
  (const : ∀ v, P (.const v))
  (derive : ∀ pty e, P e → P (.derive pty e))
  (block : ∀ n items, Q items → P (.block n items))
  (exitBlock : ∀ blk values, P (.exitBlock blk values))
  (branch : ∀ cond target, P (.branch cond target))
  (switch : ∀ s, P (.switch s))
  (stackOp : ∀ e, isStackOp e = true → P e)
  (nil : Q [])
  (consExpr : ∀ e items, P e → Q items → Q (.expr e :: items))
  (consTarget : ∀ num stack items, Q items → Q (.target num stack :: items))
include const derive block exitBlock branch switch stackOp nil consExpr consTarget

set_option linter.unusedSectionVars false in
mutual
/-- Induction following `tycheck_expr`: one case per kind of arm. -/
theorem tycheck_induction_expr : ∀ e, P e
  | .const v => const v
  | .derive pty e => derive pty e (tycheck_induction_expr e)
  | .block n items => block n items (tycheck_induction_items items)
  | .exitBlock blk values => exitBlock blk values
  | .branch cond target => branch cond target
  | .switch s => switch s
  | .null | .binaryOp _ _ | .unaryOp _ _ | .tailcall _ | .callFunction _ | .branchIndirect
  | .convert _ | .«local» _ | .pop _ | .dup _ | .pivot _ _ | .aggregate _ | .member _
  | .memberIndirect _ | .assign | .asRValue | .compoundAssign _ _ | .lValueOp _ _ | .indirect
  | .addrOf | .sequence | .fence => stackOp _ rfl
/-- Induction following the replay loop of `tycheck_block`. -/
theorem tycheck_induction_items : ∀ items, Q items
  | [] => nil
  | .expr e :: items => consExpr e items (tycheck_induction_expr e) (tycheck_induction_items items)
  | .target num stack :: items => consTarget num stack items (tycheck_induction_items items)
end

end Induction

/-! ### Blocks and functions -/

/-- A successful `withBlock` ran its replay from the entered state (a fresh exit slot, an empty
stack) and returned the last slot's stack, dropping the slot. -/
theorem withBlock_inv {items : List BlockItem}
    {replay : List (Nat × List StackItem) → Checker → List BlockItem × Except Failure Checker}
    {st st' : Checker} {res : List StackItem}
    (h : (withBlock items replay st).2 = .ok (res, st')) :
    ∃ targets st1 exit, collectTargets items = .ok targets ∧
      (replay targets { st with blockExits := st.blockExits ++ [none], vstack := [] }).2 =
        .ok st1 ∧
      st1.blockExits.getLast? = some exit ∧ res = exit.getD [] ∧
      st' = { st1 with blockExits := st1.blockExits.dropLast } := by
  unfold withBlock at h
  rcases hc : collectTargets items with e | targets
  · simp [hc] at h
  simp only [hc] at h
  rcases hr : (replay targets { st with blockExits := st.blockExits ++ [none], vstack := [] }).2
    with e | st1
  · simp [hr, Except.bind] at h
  rcases hl : st1.blockExits.getLast? with _ | exit
  · simp [hr, hl, Except.bind, unwrap] at h
  simp only [hr, hl, Except.bind, unwrap, ok_bind, Except.ok.injEq, Prod.mk.injEq] at h
  exact ⟨targets, st1, exit, rfl, hr, hl, h.1.symm, h.2.symm⟩

/-- `Expr::Block` checks its nesting ordinal, runs `tycheck_block` and pushes the block's exit
stack onto the enclosing stack. -/
theorem tycheckExpr_block_inv {fuel : Nat} {ts : TypeState} {locals : List Ty}
    {targets : List (Nat × List StackItem)} {n : Nat} {items : List BlockItem} {st st' : Checker}
    {b : Bool} (h : (tycheckExpr fuel ts locals targets (.block n items) st).2 = .ok (st', b)) :
    n = st.blockExits.length ∧
      ∃ res st1, (tycheckBlock fuel ts locals items st).2 = .ok (res, st1) ∧
        st' = { st1 with vstack := st.vstack ++ res } := by
  simp only [tycheckExpr] at h
  split at h
  · rcases hw : (tycheckBlock fuel ts locals items st).2 with err | ⟨res, st1⟩ <;>
      simp [tycheckBlock] at hw <;> simp [hw, Except.map] at h
    exact ⟨by assumption, res, st1, rfl, h.1.symm⟩
  · cases h

/-- A function accepted by `tycheck_function` is a declaration, or its root block was accepted
from the initial state with an exit stack passing the return check, and the trace is that run's. -/
theorem tycheckFunction_ok_inv {fuel : Nat} {ts : TypeState} {decl : FunctionDeclaration}
    {tr : List Event} (h : (tycheckFunction fuel ts decl).2 = .ok tr) :
    (decl.body = none ∧ tr = []) ∨
      ∃ body ret st, decl.body = some body ∧
        (tycheckBlock fuel ts (decl.ty.params ++ body.locals) body.block {}).2 = .ok (ret, st) ∧
        checkReturn fuel ts ret decl.ty.ret = .ok () ∧ tr = st.trace := by
  unfold tycheckFunction at h
  rcases hb : decl.body with _ | body
  · simp only [hb] at h; cases h; exact .inl ⟨rfl, rfl⟩
  simp only [hb] at h
  rcases hr : (tycheckBlock fuel ts (decl.ty.params ++ body.locals) body.block {}).2
    with e | ⟨ret, st⟩
  · simp [hr] at h
  rcases hc : checkReturn fuel ts ret decl.ty.ret with e | ⟨⟩ <;>
    simp only [hr, hc, ok_bind, error_bind, reduceCtorEq, Except.ok.injEq] at h
  exact .inr ⟨body, ret, st, rfl, hr, hc, h.symm⟩

/-! ### Properties of whole runs -/

/-- A relation between checker states that every step of a run respects: it is a preorder, holds
across any change of the operand stack alone, across each control-flow step, across the
fall-through into a label, and across a nested block (from entering it to leaving it). -/
structure RunInvariant (fuel : Nat) (ts : TypeState) (R : Checker → Checker → Prop) : Prop where
  refl : ∀ st, R st st
  trans : ∀ {a b c}, R a b → R b c → R a c
  stack : ∀ st (s : List StackItem), R st { st with vstack := s }
  exitBlock : ∀ {blk values st st'}, tycheckExitBlock fuel ts blk values st = .ok st' → R st st'
  branch : ∀ {targets cond target st st'},
    tycheckBranch fuel ts targets cond target st = .ok st' → R st st'
  switch : ∀ {targets s st st'}, tycheckSwitch fuel ts targets s st = .ok st' → R st st'
  target : ∀ {st : Checker} {num declared}, StackFits fuel ts st.vstack declared →
    R st { st.record (.jump num st.vstack declared none) with vstack := declared }
  block : ∀ {st st1 : Checker} {exit} (s : List StackItem),
    R { st with blockExits := st.blockExits ++ [none], vstack := [] } st1 →
    st1.blockExits.getLast? = some exit →
    R st { st1 with blockExits := st1.blockExits.dropLast, vstack := s }

namespace RunInvariant

variable {fuel : Nat} {ts : TypeState} {R : Checker → Checker → Prop} (hR : RunInvariant fuel ts R)
  {locals : List Ty}
include hR

/-- `withBlock` around a replay that respects the invariant respects it. -/
theorem withBlock {items : List BlockItem}
    {replay : List (Nat × List StackItem) → Checker → List BlockItem × Except Failure Checker}
    (hrep : ∀ targets st st', (replay targets st).2 = .ok st' → R st st')
    {st st' : Checker} {res : List StackItem} (s : List StackItem)
    (h : (Lccc.Xir.withBlock items replay st).2 = .ok (res, st')) :
    R st { st' with vstack := s } := by
  obtain ⟨targets, st1, exit, -, hr, hl, -, rfl⟩ := withBlock_inv h
  exact hR.block s (hrep _ _ _ hr) hl

/-- The invariant holds from the first to the last state of every successful run of
`tycheck_expr` and of the replay loop. -/
theorem run :
    (∀ e targets st st' b, (tycheckExpr fuel ts locals targets e st).2 = .ok (st', b) →
      R st st') ∧
    (∀ items targets d st st', (tycheckItems fuel ts locals targets items d st).2 = .ok st' →
      R st st') := by
  refine ⟨tycheck_induction_expr (Q := fun items => ∀ targets d st st',
      (tycheckItems fuel ts locals targets items d st).2 = .ok st' → R st st')
    ?const ?derive ?block ?exitBlock ?branch ?switch ?stackOp ?nil ?consExpr ?consTarget,
    tycheck_induction_items ?const ?derive ?block ?exitBlock ?branch ?switch ?stackOp ?nil
      ?consExpr ?consTarget⟩
  case const =>
    intro v targets st st' b h
    obtain ⟨s, -, ⟨⟩⟩ := map_eq_ok.1 h
    exact hR.stack st s
  case derive =>
    intro pty e ih targets st st' b h
    obtain ⟨⟨st1, b1⟩, hi, h⟩ := bind_eq_ok.1 h
    obtain ⟨s, -, ⟨⟩⟩ := map_eq_ok.1 h
    exact hR.trans (ih targets st st1 b1 hi) (hR.stack st1 s)
  case block =>
    intro n items ih targets st st' b h
    obtain ⟨-, res, st1, hw, rfl⟩ := tycheckExpr_block_inv h
    exact hR.withBlock (fun targets st st' hr => ih targets false st st' hr) _ hw
  case exitBlock =>
    intro blk values targets st st' b h
    obtain ⟨_, he, ⟨⟩⟩ := map_eq_ok.1 h
    exact hR.exitBlock he
  case branch =>
    intro cond target targets st st' b h
    obtain ⟨_, he, ⟨⟩⟩ := map_eq_ok.1 h
    exact hR.branch he
  case switch =>
    intro s targets st st' b h
    obtain ⟨_, he, ⟨⟩⟩ := map_eq_ok.1 h
    exact hR.switch he
  case stackOp =>
    intro e he targets st st' b h
    rw [tycheckExpr_stackOp he] at h
    obtain ⟨s, -, ⟨⟩⟩ := map_eq_ok.1 h
    exact hR.stack st s
  case nil =>
    intro targets d st st' h
    cases h; exact hR.refl st
  case consExpr =>
    intro e items ihe ihi targets d st st' h
    simp only [tycheckItems] at h
    rcases he : (tycheckExpr fuel ts locals targets e st).2 with err | ⟨st1, d1⟩
    · simp [he] at h
    simp only [he] at h
    exact hR.trans (ihe targets st st1 d1 he) (ihi targets d1 st1 st' h)
  case consTarget =>
    intro num stack items ih targets d st st' h
    simp only [tycheckItems] at h
    cases d with
    | true => exact hR.trans (hR.stack st stack) (ih targets false _ st' (by simpa using h))
    | false =>
      rcases hc : checkUnifyStack fuel ts st.vstack stack with err | ⟨⟩
      · simp [hc] at h
      simp only [hc, Bool.false_eq_true, ↓reduceIte] at h
      exact hR.trans (hR.target (checkUnifyStack_eq_ok.1 hc)) (ih targets false _ st' h)

/-- The invariant holds across every successful run of `tycheck_block`, whatever stack the
caller then puts in place. -/
theorem run_block {items : List BlockItem} {st st' : Checker} {res : List StackItem}
    (h : (tycheckBlock fuel ts locals items st).2 = .ok (res, st')) (s : List StackItem) :
    R st { st' with vstack := s } :=
  hR.withBlock (fun targets st st' hr => hR.run.2 items targets false st st' hr) s h

end RunInvariant

end Lccc.Xir
