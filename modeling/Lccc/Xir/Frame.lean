import Lccc.Xir.Opcodes

/-!
# Lccc.Xir.Frame

**The validator reads the operand stack from the top.** What lies under the stack never changes
its verdict: every run of `tycheck_expr` and of the replay loop of `tycheck_block` that is accepted
from a state is accepted from the same state with more items under the stack, which stay under it
until a `Target` resets the stack (`tycheck_beneath`). Two layers:

* `Framed f` says it exactly of a stack transformer `f`: what `f` does to a stack, it does to any
  stack with more items below, which it leaves in place. It is built up along the `do` blocks of
  the source from the stack primitives (`Framed.pop`, `Framed.popN`, `Framed.splitOffBack`), the
  checks between them (`Framed.bind`, `Framed.ite`) and the final push (`Framed.push`,
  `Framed.map`). Every stack-only arm is framed (`stackOp_framed`), and so are `Const`, the tail of
  `Derive` and the condition of `Branch`.
* `Beneath below st1 st2` relates two checker states: `st2` is `st1` with the items `below` slid
  under its stack, and has the same exit slots. One lemma per kind of arm shows that a run from `st2` follows an accepted run from
  `st1`. `Branch` and `Switch` follow too, because `check_unify_stack` compares only the top of the
  live stack with the label's declared stack; the transfer they record carries the whole live
  stack, so the traces differ. A nested `Block` runs on a fresh stack, and a `Target` resets the
  stack to its declaration, after which the two runs have the same stack.
-/

namespace Lccc.Xlang

/-- A `Target`, which resets the validator's stack to its declaration. -/
def BlockItem.isTarget : BlockItem → Bool
  | .target .. => true
  | .expr _ => false

end Lccc.Xlang

namespace Lccc.Xir

open Lccc.Xlang

/-- A stack transformer that sees only the top of the stack: what it does to a stack, it does to
any stack with more items below, which it leaves in place. -/
def Framed (f : List StackItem → Except Failure (List StackItem)) : Prop :=
  ∀ ⦃s s'⦄, f s = .ok s' → ∀ below, f (below ++ s) = .ok (below ++ s')

namespace Framed

variable {α : Type}

theorem pop {k : StackItem × List StackItem → Except Failure (List StackItem)}
    (hk : ∀ x, Framed fun s => k (x, s)) : Framed fun s => Stack.pop s >>= k := by
  intro s s' h below
  dsimp only at h ⊢
  obtain ⟨⟨x, r⟩, hp, hr⟩ := bind_eq_ok.1 h
  rw [Stack.pop_eq_ok.1 hp, ← List.append_assoc, Stack.pop_append_singleton, ok_bind]
  exact hk x hr below

/-- Taking the top `n` items off in one go, as `split_off` and `split_off_back` do. -/
theorem takeTop (n : Nat)
    {split : List StackItem → Except Failure (List StackItem × List StackItem)}
    {k : List StackItem × List StackItem → Except Failure (List StackItem)}
    (hsplit : ∀ {s top r}, split s = .ok (top, r) ↔ s = r ++ top ∧ top.length = n)
    (hk : ∀ x, Framed fun s => k (x, s)) : Framed fun s => split s >>= k := by
  intro s s' h below
  dsimp only at h ⊢
  obtain ⟨⟨top, r⟩, hp, hr⟩ := bind_eq_ok.1 h
  obtain ⟨rfl, hn⟩ := hsplit.1 hp
  rw [← List.append_assoc, hsplit.2 ⟨rfl, hn⟩, ok_bind]
  exact hk top hr below

theorem popN (n : Nat) {k : List StackItem × List StackItem → Except Failure (List StackItem)}
    (hk : ∀ x, Framed fun s => k (x, s)) : Framed fun s => Stack.popN s n >>= k :=
  takeTop n Stack.popN_eq_ok hk

theorem splitOffBack (n : Nat)
    {k : List StackItem × List StackItem → Except Failure (List StackItem)}
    (hk : ∀ x, Framed fun s => k (x, s)) : Framed fun s => Stack.splitOffBack s n >>= k :=
  takeTop n Stack.splitOffBack_eq_ok hk

/-- A check that does not read the stack. -/
theorem bind {c : Except Failure α} {k : α → List StackItem → Except Failure (List StackItem)}
    (hk : ∀ a, Framed (k a)) : Framed fun s => c >>= fun a => k a s := by
  intro s s' h below
  dsimp only at h ⊢
  obtain ⟨a, hc, hr⟩ := bind_eq_ok.1 h
  rw [hc, ok_bind]
  exact hk a hr below

theorem ite {c : Prop} [Decidable c] {f g : List StackItem → Except Failure (List StackItem)}
    (hf : Framed f) (hg : Framed g) : Framed fun s => if c then f s else g s := by
  by_cases hc : c
  · simpa only [if_pos hc] using hf
  · simpa only [if_neg hc] using hg

/-- A result built on top of what is left. -/
theorem map {g : List StackItem → List StackItem} (hg : ∀ below s, g (below ++ s) = below ++ g s) :
    Framed fun s => .ok (g s) := by
  rintro s _ ⟨⟩ below
  exact congrArg Except.ok (hg below s)

theorem push (p : List StackItem) : Framed fun s => .ok (s ++ p) :=
  map fun _ _ => List.append_assoc _ _ _

theorem ok : Framed .ok := map fun _ _ => rfl

theorem error (e : Failure) : Framed fun _ => .error e := nofun

end Framed

/-! ### The stack-only arms -/

section Arms

variable {fuel : Nat} {ts : TypeState} {locals : List Ty}

theorem tycheckBinaryOp_framed (op : BinaryOp) (v : OverflowBehaviour) :
    Framed (tycheckBinaryOp ts op v) :=
  .pop fun val1 => .pop fun _ => .bind fun _ => .bind fun _ => by
    generalize ts.refiyType val1.ty = t
    cases t <;> try exact .error _
    cases op <;> first | exact .push _ | cases v <;> exact .push _

theorem tycheckUnaryOp_framed (op : UnaryOp) (v : OverflowBehaviour) :
    Framed (tycheckUnaryOp op v) :=
  .pop fun val => .bind fun _ => by
    generalize val.ty = t
    cases t <;> try exact .error _
    cases op <;> first | exact .push _ | cases v <;> exact .push _

theorem tycheckCallFunction_framed (fnty : FnType) :
    Framed (tycheckCallFunction fuel ts fnty) :=
  .splitOffBack _ fun _ => .pop fun dest => .bind fun _ => .bind fun _ => by
    generalize ts.refiyType dest.ty = t
    cases t <;> try exact .bind fun _ => .push _
    rename_i p
    dsimp only
    generalize ts.refiyType p.inner = t
    cases t <;> try exact .bind fun _ => .push _
    exact .ite (.bind fun _ => .bind fun _ => .bind fun _ => .bind fun _ => .push _)
      (.bind fun _ => .bind fun _ => .bind fun _ => .bind fun _ => .push _)

theorem tycheckCompoundAssign_framed (v : OverflowBehaviour) :
    Framed (tycheckCompoundAssign fuel ts v) :=
  .pop fun _ => .pop fun lvalue => .bind fun _ => .bind fun _ => .bind fun _ => by
    generalize ts.refiyType lvalue.ty = t
    cases t <;> first | exact .error _ | exact .ite (.push _) .ok

theorem tycheckLValueOp_framed (op : LValueOp) (v : OverflowBehaviour) :
    Framed (tycheckLValueOp fuel ts op v) := by
  cases op
  case xchg => exact .pop fun _ => .pop fun _ => .bind fun _ => .bind fun _ => .bind fun _ => .ok
  case cmpxchg | wcmpxchg =>
    exact .pop fun _ => .pop fun _ => .pop fun _ =>
      .bind fun _ => .bind fun _ => .bind fun _ => .bind fun _ => .bind fun _ => .push _
  all_goals
    refine .pop fun lvalue => .bind fun _ => ?_
    generalize ts.refiyType lvalue.ty = t
    cases t <;> first | exact .error _ | exact .ite (.push _) (.push _)

theorem stackOp_local_framed (n : Nat) : Framed (stackOp fuel ts locals (.«local» n)) := by
  intro s s' h below
  unfold stackOp at h ⊢
  rcases hl : locals[n]? with _ | ty <;> simp only [hl] at h ⊢
  · cases h
  · cases h
    rw [List.append_assoc]

/-- Every stack-only arm of `tycheck_expr` is framed. -/
theorem stackOp_framed : ∀ e, isStackOp e = true → Framed (stackOp fuel ts locals e)
  | .binaryOp op v, _ => tycheckBinaryOp_framed op v
  | .unaryOp op v, _ => tycheckUnaryOp_framed op v
  | .callFunction fnty, _ => tycheckCallFunction_framed fnty
  | .compoundAssign _ v, _ => tycheckCompoundAssign_framed v
  | .lValueOp op v, _ => tycheckLValueOp_framed op v
  | .«local» n, _ => stackOp_local_framed n
  | .tailcall _, _ | .convert _, _ => .error _
  | .branchIndirect, _ => .pop fun _ => .bind fun _ => .bind fun _ => .ok
  | .pop n, _ => .popN n fun _ => .ok
  | .dup n, _ => .popN n fun _ => .map fun _ _ => by simp only [List.append_assoc]
  | .pivot n m, _ => .popN m fun _ => .popN n fun _ => .map fun _ _ => by
      simp only [List.append_assoc]
  | .aggregate _, _ => .popN _ fun _ => .bind fun _ => .push _
  | .member _, _ => .pop fun _ => .bind fun _ => .bind fun _ => .push _
  | .memberIndirect _, _ => .pop fun val => .bind fun _ => by
      generalize val.ty = t
      cases t <;> first | exact .error _ | exact .bind fun _ => .push _
  | .assign, _ => .pop fun _ => .pop fun _ => .bind fun _ => .bind fun _ => .bind fun _ => .ok
  | .asRValue, _ | .addrOf, _ => .pop fun _ => .bind fun _ => .push _
  | .indirect, _ => .pop fun val => .bind fun _ => by
      generalize val.ty = t
      cases t <;> first | exact .error _ | exact .push _
  | .null, _ | .sequence, _ | .fence, _ => .ok

theorem tycheckConst_framed (targets : List (Nat × List StackItem)) (v : Value) :
    Framed (tycheckConst targets v) := by
  cases v <;> first | exact .push _ | exact .error _ | exact .bind fun _ => .bind fun _ => .push _

theorem deriveTail_framed (pty : PointerType) : Framed (deriveTail fuel ts pty) :=
  .pop fun ptr => .bind fun _ => by
    generalize ptr.ty = t
    cases t <;> first | exact .error _ | exact .bind fun _ => .ok

theorem popBranchCondition_framed (cond : BranchCondition) :
    Framed (popBranchCondition ts cond) := by
  cases cond <;> first | exact .ok | exact .pop fun _ => .bind fun _ => .bind fun _ => .ok

end Arms

/-! ### More items beneath -/

/-- `check_unify_stack` compares the top of the live stack only. -/
theorem checkUnifyStack_append_left {fuel : Nat} {ts : TypeState} {live declared : List StackItem}
    {u : Unit} (below : List StackItem) (h : checkUnifyStack fuel ts live declared = .ok u) :
    checkUnifyStack fuel ts (below ++ live) declared = .ok u := by
  obtain ⟨hle, hfit⟩ := checkUnifyStack_eq_ok.1 h
  refine checkUnifyStack_eq_ok.2 ⟨by simp only [List.length_append]; omega, ?_⟩
  have hn : (below ++ live).length - declared.length =
      below.length + (live.length - declared.length) := by
    simp only [List.length_append]; omega
  rwa [hn, List.drop_append]

/-- `st2` is `st1` with the items `below` slid under its operand stack and the same exit slots;
the traces may differ. -/
def Beneath (below : List StackItem) (st1 st2 : Checker) : Prop :=
  st2.vstack = below ++ st1.vstack ∧ st2.blockExits = st1.blockExits

namespace Beneath

variable {below : List StackItem} {st1 st2 : Checker}

theorem record (h : Beneath below st1 st2) (ev1 ev2 : Event) :
    Beneath below (st1.record ev1) (st2.record ev2) := h

theorem framed {f : List StackItem → Except Failure (List StackItem)} (hf : Framed f)
    (hb : Beneath below st1 st2) {s : List StackItem} (h : f st1.vstack = .ok s) :
    f st2.vstack = .ok (below ++ s) :=
  hb.1 ▸ hf h below

/-- An arm that only replaces the stack. -/
theorem stack {f : List StackItem → Except Failure (List StackItem)} (hf : Framed f)
    (hb : Beneath below st1 st2) {st1' : Checker} {d : Bool}
    (h : (f st1.vstack).map (fun s => ({ st1 with vstack := s }, false)) = .ok (st1', d)) :
    ∃ st2', (f st2.vstack).map (fun s => ({ st2 with vstack := s }, false)) = .ok (st2', d) ∧
      Beneath below st1' st2' := by
  obtain ⟨s, hs, ⟨⟩⟩ := map_eq_ok.1 h
  exact ⟨{ st2 with vstack := below ++ s }, by rw [hb.framed hf hs]; rfl, rfl, hb.2⟩

/-- An arm that runs a checker step and does not diverge. -/
theorem step {f : Checker → Except Failure Checker} (hb : Beneath below st1 st2) {st1' : Checker}
    {d : Bool} (h : (f st1).map (·, false) = .ok (st1', d))
    (hf : ∀ {st1 st2 st1'}, Beneath below st1 st2 → f st1 = .ok st1' →
      ∃ st2', f st2 = .ok st2' ∧ Beneath below st1' st2') :
    ∃ st2', (f st2).map (·, false) = .ok (st2', d) ∧ Beneath below st1' st2' := by
  obtain ⟨_, he, ⟨⟩⟩ := map_eq_ok.1 h
  obtain ⟨st2', he2, hb'⟩ := hf hb he
  exact ⟨st2', map_eq_ok.2 ⟨st2', he2, rfl⟩, hb'⟩

end Beneath

section Steps

variable {fuel : Nat} {ts : TypeState} {targets : List (Nat × List StackItem)}
  {below : List StackItem} {st1 st2 st1' : Checker}

theorem tycheckExitBlock_beneath {blk values : Nat} (hb : Beneath below st1 st2)
    (h : tycheckExitBlock fuel ts blk values st1 = .ok st1') :
    ∃ st2', tycheckExitBlock fuel ts blk values st2 = .ok st2' ∧ Beneath below st1' st2' := by
  obtain ⟨hv, hx⟩ := hb
  unfold tycheckExitBlock at h ⊢
  rw [hx]
  rcases hg : st1.blockExits[blk]? with _ | exit
  · simp only [hg, error_bind, reduceCtorEq] at h
  simp only [hg, ok_bind] at h ⊢
  obtain ⟨⟨stack, s⟩, hp, h⟩ := bind_eq_ok.1 h
  obtain ⟨hs, hn⟩ := Stack.popN_eq_ok.1 hp
  have hp2 : Stack.popN st2.vstack values = .ok (stack, below ++ s) :=
    Stack.popN_eq_ok.2 ⟨by rw [hv, hs, List.append_assoc], hn⟩
  rw [hp2, ok_bind]
  dsimp only at h ⊢
  cases exit with
  | none =>
    cases h
    exact ⟨_, rfl, rfl, rfl⟩
  | some items =>
    dsimp only at h ⊢
    obtain ⟨_, hl, h⟩ := bind_eq_ok.1 h
    obtain ⟨_, hc, h⟩ := bind_eq_ok.1 h
    cases h
    exact ⟨_, bind_eq_ok.2 ⟨_, hl, bind_eq_ok.2 ⟨_, hc, rfl⟩⟩, rfl, rfl⟩

theorem tycheckBranch_beneath {cond : BranchCondition} {target : Nat} (hb : Beneath below st1 st2)
    (h : tycheckBranch fuel ts targets cond target st1 = .ok st1') :
    ∃ st2', tycheckBranch fuel ts targets cond target st2 = .ok st2' ∧ Beneath below st1' st2' := by
  obtain ⟨s, hs, h⟩ := bind_eq_ok.1 h
  obtain ⟨tstack, ht, h⟩ := bind_eq_ok.1 h
  obtain ⟨u, hc, h⟩ := bind_eq_ok.1 h
  cases h
  exact ⟨_, bind_eq_ok.2 ⟨_, hb.framed (popBranchCondition_framed cond) hs, bind_eq_ok.2 ⟨_, ht,
    bind_eq_ok.2 ⟨u, checkUnifyStack_append_left below hc, rfl⟩⟩⟩, rfl, hb.2⟩

theorem switchCases_beneath {ctrlTy : Ty} :
    ∀ {cases : List (Value × Nat)} {ustack : Option (List StackItem)} {st1 st2 st1' : Checker},
      Beneath below st1 st2 → switchCases fuel ts targets ctrlTy cases ustack st1 = .ok st1' →
      ∃ st2', switchCases fuel ts targets ctrlTy cases ustack st2 = .ok st2' ∧
        Beneath below st1' st2'
  | [], _, _, _, _, hb, h => by
    cases h
    exact ⟨_, rfl, hb⟩
  | (val, targ) :: cases, ustack, st1, st2, st1', hb, h => by
    obtain ⟨_, hv, h⟩ := bind_eq_ok.1 h
    obtain ⟨tstack, ht, h⟩ := bind_eq_ok.1 h
    cases ustack with
    | some stack =>
      obtain ⟨_, hl, h⟩ := bind_eq_ok.1 h
      obtain ⟨_, hz, h⟩ := bind_eq_ok.1 h
      obtain ⟨st2', hr, hb'⟩ := switchCases_beneath (hb.record _ _) h
      refine ⟨st2', bind_eq_ok.2 ⟨_, hv, bind_eq_ok.2 ⟨_, ht, ?_⟩⟩, hb'⟩
      exact bind_eq_ok.2 ⟨_, hl, bind_eq_ok.2 ⟨_, hz, hr⟩⟩
    | none =>
      obtain ⟨_, hc, h⟩ := bind_eq_ok.1 h
      obtain ⟨st2', hr, hb'⟩ := switchCases_beneath (hb.record _ _) h
      refine ⟨st2', bind_eq_ok.2 ⟨_, hv, bind_eq_ok.2 ⟨_, ht, ?_⟩⟩, hb'⟩
      exact bind_eq_ok.2 ⟨_, hb.1 ▸ checkUnifyStack_append_left below hc, hr⟩

theorem tycheckSwitch_beneath {s : Switch} (hb : Beneath below st1 st2)
    (h : tycheckSwitch fuel ts targets s st1 = .ok st1') :
    ∃ st2', tycheckSwitch fuel ts targets s st2 = .ok st2' ∧ Beneath below st1' st2' := by
  obtain ⟨⟨ctrl, rest⟩, hp, h⟩ := bind_eq_ok.1 h
  obtain ⟨_, h1, h⟩ := bind_eq_ok.1 h
  obtain ⟨_, h2, h⟩ := bind_eq_ok.1 h
  obtain ⟨hv, hx⟩ := hb
  have hp2 : Stack.pop st2.vstack = .ok (ctrl, below ++ rest) :=
    Stack.pop_eq_ok.2 (by rw [hv, Stack.pop_eq_ok.1 hp, List.append_assoc])
  cases s with
  | hash cases =>
    have hbr : Beneath below { st1 with vstack := rest } { st2 with vstack := below ++ rest } :=
      ⟨rfl, hx⟩
    obtain ⟨st2', h3, hb'⟩ := switchCases_beneath hbr h
    exact ⟨st2', bind_eq_ok.2 ⟨_, hp2, bind_eq_ok.2 ⟨_, h1, bind_eq_ok.2 ⟨_, h2, h3⟩⟩⟩, hb'⟩
  | linear => cases h

theorem withBlock_snd (items : List BlockItem)
    (replay : List (Nat × List StackItem) → Checker → List BlockItem × Except Failure Checker)
    (st : Checker) :
    (withBlock items replay st).2 = collectTargets items >>= fun targets =>
      (replay targets { st with blockExits := st.blockExits ++ [none], vstack := [] }).2 >>=
        fun st => unwrap st.blockExits.getLast? >>= fun exit =>
          .ok (exit.getD [], { st with blockExits := st.blockExits.dropLast }) := by
  unfold withBlock
  rcases collectTargets items with f | targets <;> rfl

/-- A block runs on a fresh stack, so what lies under the caller's stack does not reach it: the
replay starts from two states with the same (empty) stack, and only its exit slots matter. -/
theorem withBlock_beneath {items : List BlockItem}
    {replay : List (Nat × List StackItem) → Checker → List BlockItem × Except Failure Checker}
    (hrep : ∀ targets st1 st2 st1', Beneath [] st1 st2 → (replay targets st1).2 = .ok st1' →
      ∃ st2', (replay targets st2).2 = .ok st2' ∧ st2'.blockExits = st1'.blockExits)
    (hb : Beneath below st1 st2) {res : List StackItem}
    (h : (withBlock items replay st1).2 = .ok (res, st1')) :
    ∃ st2', (withBlock items replay st2).2 = .ok (res, st2') ∧
      st2'.blockExits = st1'.blockExits := by
  obtain ⟨targets, st1m, exit, hc, hr, hl, rfl, rfl⟩ := withBlock_inv h
  have hfresh : Beneath [] { st1 with blockExits := st1.blockExits ++ [none], vstack := [] }
      { st2 with blockExits := st2.blockExits ++ [none], vstack := [] } := ⟨rfl, by rw [hb.2]⟩
  obtain ⟨st2m, hr2, hx⟩ := hrep targets _ _ st1m hfresh hr
  refine ⟨{ st2m with blockExits := st2m.blockExits.dropLast }, ?_, by rw [hx]⟩
  rw [withBlock_snd, hc, ok_bind, hr2, ok_bind, hx, hl]
  rfl

end Steps

/-! ### Every run -/

section Run

variable {fuel : Nat} {ts : TypeState} {locals : List Ty} {below : List StackItem}

theorem tycheckExpr_block_snd (targets : List (Nat × List StackItem)) (n : Nat)
    (items : List BlockItem) (st : Checker) :
    (tycheckExpr fuel ts locals targets (.block n items) st).2 =
      if n = st.blockExits.length then
        (tycheckBlock fuel ts locals items st).2.map fun (res, st') =>
          ({ st' with vstack := st.vstack ++ res }, false)
      else .error (.panic "assertion failed: n == block_exits.len()") := by
  simp only [tycheckExpr]
  split <;> rfl

/-- A nested block follows whenever its replay loop does: it starts from a fresh stack, and the
result it pushes goes on top of what lay under the caller's stack. -/
theorem tycheckExpr_block_beneath {targets : List (Nat × List StackItem)} {n : Nat}
    {items : List BlockItem}
    (hrep : ∀ targets st1 st2 st1', Beneath [] st1 st2 →
      (tycheckItems fuel ts locals targets items false st1).2 = .ok st1' →
      ∃ st2', (tycheckItems fuel ts locals targets items false st2).2 = .ok st2' ∧
        st2'.blockExits = st1'.blockExits)
    {st1 st2 st1' : Checker} {d : Bool} (hb : Beneath below st1 st2)
    (h : (tycheckExpr fuel ts locals targets (.block n items) st1).2 = .ok (st1', d)) :
    ∃ st2', (tycheckExpr fuel ts locals targets (.block n items) st2).2 = .ok (st2', d) ∧
      Beneath below st1' st2' := by
  rw [tycheckExpr_block_snd] at h ⊢
  split at h
  · rename_i hn
    obtain ⟨⟨res, st1m⟩, hw, ⟨⟩⟩ := map_eq_ok.1 h
    obtain ⟨st2m, hw2, hx⟩ := withBlock_beneath hrep hb hw
    rw [if_pos (hb.2 ▸ hn)]
    exact ⟨_, map_eq_ok.2 ⟨(res, st2m), hw2, rfl⟩, by rw [hb.1, List.append_assoc], hx⟩
  · cases h

/-- An instruction followed by the rest of the block: the rest starts from the states the
instruction leaves. -/
theorem tycheckItems_expr_beneath {targets : List (Nat × List StackItem)} {e : Expr}
    {items : List BlockItem} {below' : List StackItem}
    (ihe : ∀ st1 st2 st1' d, Beneath below st1 st2 →
      (tycheckExpr fuel ts locals targets e st1).2 = .ok (st1', d) →
      ∃ st2', (tycheckExpr fuel ts locals targets e st2).2 = .ok (st2', d) ∧
        Beneath below st1' st2')
    (ihi : ∀ dv st1 st2 st1', Beneath below st1 st2 →
      (tycheckItems fuel ts locals targets items dv st1).2 = .ok st1' →
      ∃ st2', (tycheckItems fuel ts locals targets items dv st2).2 = .ok st2' ∧
        Beneath below' st1' st2')
    {dv : Bool} {st1 st2 st1' : Checker} (hb : Beneath below st1 st2)
    (h : (tycheckItems fuel ts locals targets (.expr e :: items) dv st1).2 = .ok st1') :
    ∃ st2', (tycheckItems fuel ts locals targets (.expr e :: items) dv st2).2 = .ok st2' ∧
      Beneath below' st1' st2' := by
  simp only [tycheckItems] at h ⊢
  rcases he : (tycheckExpr fuel ts locals targets e st1).2 with err | ⟨st1m, dm⟩
  · simp [he] at h
  simp only [he] at h
  obtain ⟨st2m, he2, hbm⟩ := ihe st1 st2 st1m dm hb he
  simp only [he2]
  exact ihi dm st1m st2m st1' hbm h

/-- A `Target` compares the top of the live stack with its declaration and then resets the stack
to it, so the two runs go on from the same stack. -/
theorem tycheckItems_target_beneath {targets : List (Nat × List StackItem)} {num : Nat}
    {stack : List StackItem} {items : List BlockItem}
    (ih : ∀ st1 st2 st1', Beneath [] st1 st2 →
      (tycheckItems fuel ts locals targets items false st1).2 = .ok st1' →
      ∃ st2', (tycheckItems fuel ts locals targets items false st2).2 = .ok st2' ∧
        Beneath [] st1' st2')
    {dv : Bool} {st1 st2 st1' : Checker} (hb : Beneath below st1 st2)
    (h : (tycheckItems fuel ts locals targets (.target num stack :: items) dv st1).2 = .ok st1') :
    ∃ st2', (tycheckItems fuel ts locals targets (.target num stack :: items) dv st2).2 =
      .ok st2' ∧ Beneath [] st1' st2' := by
  simp only [tycheckItems] at h ⊢
  cases dv with
  | true =>
    simp only [if_true] at h ⊢
    refine ih _ _ st1' ?_ h
    exact ⟨rfl, hb.2⟩
  | false =>
    rcases hc : checkUnifyStack fuel ts st1.vstack stack with err | ⟨⟩
    · simp [hc] at h
    have hc2 := hb.1 ▸ checkUnifyStack_append_left below hc
    simp only [hc, hc2, Bool.false_eq_true, ↓reduceIte] at h ⊢
    refine ih _ _ st1' ?_ h
    exact ⟨rfl, hb.2⟩

/-- The validator reads the operand stack from the top. A run of `tycheck_expr` or of the replay
loop accepted from `st1` is accepted from `st2`, which is `st1` with the items `below` slid under
its stack and the same exit slots, with the same `diverged` flag. The items stay under the
result: a run of `tycheck_expr` ends with `below` under the stack, and so does a replay of items
unless one of them is a `Target`, which resets the two stacks to its declaration. -/
theorem tycheck_beneath :
    (∀ e targets below st1 st2 st1' d, Beneath below st1 st2 →
      (tycheckExpr fuel ts locals targets e st1).2 = .ok (st1', d) →
      ∃ st2', (tycheckExpr fuel ts locals targets e st2).2 = .ok (st2', d) ∧
        Beneath below st1' st2') ∧
    (∀ items targets dv below st1 st2 st1', Beneath below st1 st2 →
      (tycheckItems fuel ts locals targets items dv st1).2 = .ok st1' →
      ∃ st2', (tycheckItems fuel ts locals targets items dv st2).2 = .ok st2' ∧
        Beneath (if items.any BlockItem.isTarget then [] else below) st1' st2') := by
  refine ⟨tycheck_induction_expr (Q := fun items => ∀ targets dv below st1 st2 st1',
      Beneath below st1 st2 → (tycheckItems fuel ts locals targets items dv st1).2 = .ok st1' →
      ∃ st2', (tycheckItems fuel ts locals targets items dv st2).2 = .ok st2' ∧
        Beneath (if items.any BlockItem.isTarget then [] else below) st1' st2')
    ?const ?derive ?block ?exitBlock ?branch ?switch ?stackOp ?nil ?consExpr ?consTarget,
    tycheck_induction_items ?const ?derive ?block ?exitBlock ?branch ?switch ?stackOp ?nil
      ?consExpr ?consTarget⟩
  case const => exact fun _ targets _ _ _ _ _ hb h => hb.stack (tycheckConst_framed targets _) h
  case derive =>
    intro pty e ih targets below st1 st2 st1' d hb h
    obtain ⟨⟨st1m, dm⟩, hi, h⟩ := bind_eq_ok.1 h
    obtain ⟨st2m, hi2, hbm⟩ := ih targets below st1 st2 st1m dm hb hi
    obtain ⟨st2', h2, hb'⟩ := hbm.stack (deriveTail_framed pty) h
    exact ⟨st2', bind_eq_ok.2 ⟨(st2m, dm), hi2, h2⟩, hb'⟩
  case block =>
    exact fun _ _ ih _ _ _ _ _ _ hb h => tycheckExpr_block_beneath
      (fun targets _ _ _ hb h => (ih targets false [] _ _ _ hb h).imp fun _ h => ⟨h.1, h.2.2⟩) hb h
  case exitBlock => exact fun _ _ _ _ _ _ _ _ hb h => hb.step h tycheckExitBlock_beneath
  case branch => exact fun _ _ _ _ _ _ _ _ hb h => hb.step h tycheckBranch_beneath
  case switch => exact fun _ _ _ _ _ _ _ hb h => hb.step h tycheckSwitch_beneath
  case stackOp =>
    intro e he targets below st1 st2 st1' d hb h
    rw [tycheckExpr_stackOp he] at h ⊢
    exact hb.stack (stackOp_framed e he) h
  case nil =>
    intro targets dv below st1 st2 st1' hb h
    cases h
    exact ⟨st2, rfl, hb⟩
  case consExpr =>
    exact fun _ _ ihe ihi targets _ below _ _ _ hb h =>
      tycheckItems_expr_beneath (ihe targets below) (fun dv => ihi targets dv below) hb h
  case consTarget =>
    exact fun _ _ _ ih targets _ _ _ _ _ hb h => tycheckItems_target_beneath
      (fun _ _ _ hb h => by simpa only [ite_self] using ih targets false [] _ _ _ hb h) hb h

/-- Reading a local and turning it into an r-value checks the same with an item already on the
stack, which stays under the result. -/
theorem local_read_beneath :
    Beneath [⟨i32Ty, .rvalue⟩] {} { vstack := [⟨i32Ty, .rvalue⟩] } ∧
      (tycheckItems 1 {} [i32Ty] [] [.expr (.«local» 0), .expr .asRValue] false {}).2 =
        .ok { vstack := [⟨i32Ty, .rvalue⟩] } ∧
      ∃ st2', (tycheckItems 1 {} [i32Ty] [] [.expr (.«local» 0), .expr .asRValue] false
          { vstack := [⟨i32Ty, .rvalue⟩] }).2 = .ok st2' ∧
        Beneath [⟨i32Ty, .rvalue⟩] { vstack := [⟨i32Ty, .rvalue⟩] } st2' :=
  have hb : Beneath [⟨i32Ty, .rvalue⟩] {} { vstack := [⟨i32Ty, .rvalue⟩] } := ⟨rfl, rfl⟩
  have h : (tycheckItems 1 {} [i32Ty] [] [.expr (.«local» 0), .expr .asRValue] false {}).2 =
      .ok { vstack := [⟨i32Ty, .rvalue⟩] } := rfl
  ⟨hb, h, tycheck_beneath.2 _ _ _ _ _ _ _ hb h⟩

end Run

end Lccc.Xir
