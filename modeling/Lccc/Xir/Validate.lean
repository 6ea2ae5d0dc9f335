import Lccc.Xir.TypeState

/-!
# Lccc.Xir.Validate

**The validator** of `xir/src/validate.rs`: the operand-stack simulator `tycheck_expr`, the block
driver `tycheck_block`, `tycheck_function` and the two-pass file driver `tycheck`.

Design points:

* The mutable state the source threads through the recursion (`vstack`, `block_exits`) is a
  `Checker` record passed explicitly. It carries one field the source does not have: `trace`,
  the events of the run (each control transfer into a label and each block exit, with the
  stacks involved). It is written only where the source makes the corresponding check and never
  read by the validator, so what holds of every control transfer or every block exit of a run is
  what holds of every event of the trace it leaves.
* `tycheck_expr` and `tycheck_block` take the instruction by `&mut` and back-fill the type of
  `Const(GlobalAddress)` in place, and those writes survive a panic. So every function here
  returns the (partly) rewritten syntax *together with* the outcome of the check.
* `tycheck_expr` returns whether control diverged; the source returns `false` on every path, and
  so does the model.
* The arms that touch nothing but the operand stack are functions of the stack alone
  (`stackOp`); `ExitBlock`, `Branch` and `Switch` also read or write the rest of the state, and
  only `Derive` and `Block` recurse.
-/

namespace Lccc.Xir

open Lccc.Xlang

/-! ### The operand stack -/

namespace Stack

/-- `vstack.pop().unwrap()`: the top item and the rest. -/
def pop (s : List StackItem) : Except Failure (StackItem × List StackItem) :=
  match s.getLast? with
  | some x => .ok (x, s.dropLast)
  | none => .error (.panic "called Option::unwrap on a None value")

/-- `vstack.split_off(vstack.len().checked_sub(n).unwrap())`: the top `n` items (in stack order)
and the rest. -/
def popN (s : List StackItem) (n : Nat) : Except Failure (List StackItem × List StackItem) :=
  if n ≤ s.length then .ok (s.drop (s.length - n), s.take (s.length - n))
  else .error (.panic "called Option::unwrap on a None value")

/-- `vstack.split_off_back(n)`, which asserts `n <= len`. -/
def splitOffBack (s : List StackItem) (n : Nat) :
    Except Failure (List StackItem × List StackItem) :=
  if n ≤ s.length then .ok (s.drop (s.length - n), s.take (s.length - n))
  else .error (.panic "assertion failed: n <= self.len")

end Stack

/-- The 1-bit unsigned integer type: comparison results and overflow flags. -/
def u1Ty : Ty := .scalar { header := { bitsize := 1 }, kind := .integer false none none }

/-- The 32-bit signed integer type of `Cmp`/`CmpInt` results. -/
def i32Ty : Ty := .scalar { header := { bitsize := 32 }, kind := .integer true none none }

/-- The pointee of a `ByteString` constant: the 8-bit unsigned integer type. -/
def u8Ty : Ty := .scalar { header := { bitsize := 8 }, kind := .integer false none none }

/-- Is the type an integer scalar (the condition of a branch or switch)? -/
def isIntegerScalar : Ty → Bool
  | .scalar { kind := .integer .., .. } => true
  | _ => false

/-- `targets[n]`: the declared stack of label `n` of the current block. -/
def lookupTarget (targets : List (Nat × List StackItem)) (n : Nat) :
    Except Failure (List StackItem) :=
  match targets.lookup n with
  | some s => .ok s
  | none => .error (.panic "key not found")

/-! ### Constants -/

/-- The back-fill of the `Value::GlobalAddress` arm: a `Null` type is replaced by the item's entry
in the global type table, when it has one. Every other value is left alone. -/
def backfill (ts : TypeState) : Value → Value
  | .globalAddress .null item => .globalAddress ((ts.lookupTy item).getD .null) item
  | v => v

/-- The `Expr::Const` arm, on the already back-filled value. -/
def tycheckConst (targets : List (Nat × List StackItem)) (v : Value) (s : List StackItem) :
    Except Failure (List StackItem) :=
  match v with
  | .invalid ty | .string ty | .uninitialized ty => .ok (s ++ [⟨ty, .rvalue⟩])
  | .genericParameter _ => .error (.todo "generic parameter")
  | .integer ty _ => .ok (s ++ [⟨.scalar ty, .rvalue⟩])
  | .globalAddress ty _ => .ok (s ++ [⟨.pointer { inner := ty }, .rvalue⟩])
  | .byteString => .ok (s ++ [⟨.pointer { inner := u8Ty }, .rvalue⟩])
  | .labelAddress n => do
    let tstack ← lookupTarget targets n
    ensure (tstack.length = 0) "assertion left == right failed"
    .ok (s ++ [⟨.pointer { inner := .void }, .rvalue⟩])

/-! ### Arithmetic -/

/-- `Expr::BinaryOp(op, v)`: both operands must be r-values and the *top* one must reify to a
scalar; comparisons push a fixed integer type, arithmetic pushes the top operand back (and, when
checked, an overflow flag). -/
def tycheckBinaryOp (ts : TypeState) (op : BinaryOp) (v : OverflowBehaviour)
    (s : List StackItem) : Except Failure (List StackItem) := do
  let (val1, s) ← Stack.pop s
  let (val2, s) ← Stack.pop s
  ensure (val1.kind = .rvalue) "assertion left == right failed"
  ensure (val2.kind = .rvalue) "assertion left == right failed"
  match ts.refiyType val1.ty with
  | .scalar _ =>
    match op with
    | .cmpInt | .cmp => .ok (s ++ [⟨i32Ty, .rvalue⟩])
    | .cmpLt | .cmpLe | .cmpGt | .cmpGe | .cmpNe | .cmpEq => .ok (s ++ [⟨u1Ty, .rvalue⟩])
    | _ =>
      match v with
      | .checked => .ok (s ++ [val1, ⟨u1Ty, .rvalue⟩])
      | _ => .ok (s ++ [val1])
  | _ => .error (.todo "binary op on a non-scalar")

/-- `Expr::UnaryOp(op, v)`: the operand must be an r-value whose type, *not* reified, is a
scalar. -/
def tycheckUnaryOp (op : UnaryOp) (v : OverflowBehaviour) (s : List StackItem) :
    Except Failure (List StackItem) := do
  let (val, s) ← Stack.pop s
  ensure (val.kind = .rvalue) "Cannot apply"
  match val.ty with
  | .scalar _ =>
    match op with
    | .minus =>
      match v with
      | .checked => .ok (s ++ [val, ⟨u1Ty, .rvalue⟩])
      | _ => .ok (s ++ [val])
    | .logicNot => .ok (s ++ [⟨u1Ty, .rvalue⟩])
    | .bitNot => .ok (s ++ [val])
  | _ => .error (.panic "Cannot apply")

/-- `Expr::CompoundAssign(op, v, _)`: pops an r-value and an l-value whose types unify; the l-value
must reify to a scalar; only the checked form pushes anything (the overflow flag). -/
def tycheckCompoundAssign (fuel : Nat) (ts : TypeState) (v : OverflowBehaviour)
    (s : List StackItem) : Except Failure (List StackItem) := do
  let (rvalue, s) ← Stack.pop s
  let (lvalue, s) ← Stack.pop s
  ensure (rvalue.kind = .rvalue) "assertion left == right failed"
  ensure (lvalue.kind = .lvalue) "assertion left == right failed"
  checkUnify fuel ts lvalue.ty rvalue.ty
  match ts.refiyType lvalue.ty with
  | .scalar _ => if v = .checked then .ok (s ++ [⟨u1Ty, .rvalue⟩]) else .ok s
  | _ => .error (.todo "compound_assign")

/-- `Expr::LValueOp(op, v, _)`. -/
def tycheckLValueOp (fuel : Nat) (ts : TypeState) (op : LValueOp) (v : OverflowBehaviour)
    (s : List StackItem) : Except Failure (List StackItem) :=
  match op with
  | .xchg => do
    let (val1, s) ← Stack.pop s
    let (val2, s) ← Stack.pop s
    ensure (val1.kind = .lvalue) "assertion left == right failed"
    ensure (val2.kind = .lvalue) "assertion left == right failed"
    checkUnify fuel ts val1.ty val2.ty
    .ok s
  | .cmpxchg | .wcmpxchg => do
    let (control, s) ← Stack.pop s
    let (swap, s) ← Stack.pop s
    let (dest, s) ← Stack.pop s
    ensure (dest.kind = .lvalue) "assertion left == right failed"
    ensure (swap.kind = .lvalue) "assertion left == right failed"
    ensure (control.kind = .rvalue) "assertion left == right failed"
    checkUnify fuel ts dest.ty control.ty
    checkUnify fuel ts dest.ty swap.ty
    .ok (s ++ [⟨u1Ty, .rvalue⟩])
  | .preDec | .preInc => do
    let (lvalue, s) ← Stack.pop s
    ensure (lvalue.kind = .lvalue) "assertion left == right failed"
    match ts.refiyType lvalue.ty with
    | .scalar _ => if v = .checked then .ok (s ++ [lvalue, ⟨u1Ty, .rvalue⟩]) else .ok (s ++ [lvalue])
    | _ => .error (.panic "Cannot use")
  | .postDec | .postInc => do
    let (lvalue, s) ← Stack.pop s
    ensure (lvalue.kind = .lvalue) "assertion left == right failed"
    match ts.refiyType lvalue.ty with
    | .scalar _ =>
      if v = .checked then .ok (s ++ [{ lvalue with kind := .rvalue }, ⟨u1Ty, .rvalue⟩])
      else .ok (s ++ [lvalue])
    | _ => .error (.panic "Cannot use")

/-! ### Calls -/

/-- `Expr::CallFunction(fnty)`: pops the arguments and the callee, checks the callee's
signature against the call-site signature and every argument against its parameter, and pushes
one r-value of the call-site return type. -/
def tycheckCallFunction (fuel : Nat) (ts : TypeState) (fnty : FnType) (s : List StackItem) :
    Except Failure (List StackItem) := do
  let (params, s) ← Stack.splitOffBack s fnty.params.length
  let (dest, s) ← Stack.pop s
  ensure (fnty.variadic = false) "Cannot call with variadic signature"
  ensure (dest.kind = .rvalue) "Cannot call"
  match ts.refiyType dest.ty with
  | .pointer p =>
    match ts.refiyType p.inner with
    | .fnType f => do
      if f.variadic then
        ensure (f.params.length ≤ fnty.params.length) "assertion failed"
      else
        ensure (fnty.params.length = fnty.params.length) "assertion failed"
      (f.params.zip fnty.params).forM fun q => checkUnify fuel ts q.1 q.2
      checkUnify fuel ts f.ret fnty.ret
      (params.zip fnty.params).forM fun q => do
        ensure (q.1.kind = .rvalue) "Cannot pass"
        checkUnify fuel ts q.1.ty q.2
    | _ => .error (.panic "Cannot call")
  | _ => .error (.panic "Cannot call")
  .ok (s ++ [⟨fnty.ret, .rvalue⟩])

/-- The tail of `Expr::Derive(pty, expr)`, after the inner expression: pops a pointer r-value and
unifies pointees. The refined pointer (`alias`, `valid_range` and `decl` overwritten from `pty`)
is a local that the source never pushes back. -/
def deriveTail (fuel : Nat) (ts : TypeState) (pty : PointerType) (s : List StackItem) :
    Except Failure (List StackItem) := do
  let (ptr, s) ← Stack.pop s
  ensure (ptr.kind = .rvalue) "assertion left == right failed"
  match ptr.ty with
  | .pointer p => do
    checkUnify fuel ts pty.inner p.inner
    .ok s
  | _ => .error (.panic "Cannot apply derive to")

/-! ### The arms that touch only the operand stack -/

/-- Is `e` one of the opcodes `stackOp` handles (all but `Const`, `Derive`, `Block`, `ExitBlock`,
`Branch` and `Switch`)? -/
def isStackOp : Expr → Bool
  | .const _ | .derive _ _ | .block _ _ | .exitBlock _ _ | .branch _ _ | .switch _ => false
  | _ => true

/-- The arms of `tycheck_expr` whose only effect is on the operand stack. The opcodes outside
`isStackOp` never reach it. -/
def stackOp (fuel : Nat) (ts : TypeState) (locals : List Ty) :
    Expr → List StackItem → Except Failure (List StackItem)
  | .binaryOp op v, s => tycheckBinaryOp ts op v s
  | .unaryOp op v, s => tycheckUnaryOp op v s
  | .tailcall _, _ => .error (.todo "tailcall")
  | .callFunction fnty, s => tycheckCallFunction fuel ts fnty s
  | .branchIndirect, s => do
    let (target, s) ← Stack.pop s
    ensure (target.kind = .rvalue) "Cannot branch to"
    checkUnify fuel ts target.ty (.pointer { inner := .void })
    .ok s
  | .convert _, _ => .error (.todo "convert")
  | .«local» n, s =>
    match locals[n]? with
    | some ty => .ok (s ++ [⟨ty, .lvalue⟩])
    | none => .error (.panic "index out of bounds")
  | .pop n, s => do
    let (_, s) ← Stack.popN s n
    .ok s
  | .dup n, s => do
    let (stack, s) ← Stack.popN s n
    .ok (s ++ stack ++ stack)
  | .pivot n m, s => do
    let (stack1, s) ← Stack.popN s m
    let (stack2, s) ← Stack.popN s n
    .ok (s ++ stack1 ++ stack2)
  | .aggregate ctor, s => do
    let (values, s) ← Stack.popN s ctor.fields.length
    (ctor.fields.zip values).forM fun q => do
      ensure (q.2.kind = .rvalue) "assertion left == right failed"
      let fty ← getFieldType fuel ts ctor.ty q.1 >>= unwrap
      checkUnify fuel ts fty q.2.ty
    .ok (s ++ [⟨ctor.ty, .rvalue⟩])
  | .member name, s => do
    let (val, s) ← Stack.pop s
    ensure (val.kind = .lvalue) "assertion left == right failed"
    let ty ← getFieldType fuel ts val.ty name >>= unwrap
    .ok (s ++ [⟨ty, .lvalue⟩])
  | .memberIndirect name, s => do
    let (val, s) ← Stack.pop s
    ensure (val.kind = .rvalue) "assertion left == right failed"
    match val.ty with
    | .pointer p => do
      let ty ← getFieldType fuel ts p.inner name >>= unwrap
      .ok (s ++ [⟨.pointer { inner := ty }, val.kind⟩])
    | _ => .error (.panic "Cannot use member indirect")
  | .assign, s => do
    let (rvalue, s) ← Stack.pop s
    let (lvalue, s) ← Stack.pop s
    ensure (rvalue.kind = .rvalue) "assertion left == right failed"
    ensure (lvalue.kind = .lvalue) "assertion left == right failed"
    checkUnify fuel ts rvalue.ty lvalue.ty
    .ok s
  | .asRValue, s => do
    let (val, s) ← Stack.pop s
    ensure (val.kind = .lvalue) "assertion left == right failed"
    .ok (s ++ [⟨val.ty, .rvalue⟩])
  | .compoundAssign _ v, s => tycheckCompoundAssign fuel ts v s
  | .lValueOp op v, s => tycheckLValueOp fuel ts op v s
  | .indirect, s => do
    let (val, s) ← Stack.pop s
    ensure (val.kind = .rvalue) "assertion left == right failed"
    match val.ty with
    | .pointer p => .ok (s ++ [⟨p.inner, .lvalue⟩])
    | _ => .error (.panic "Cannot use indirect on")
  | .addrOf, s => do
    let (val, s) ← Stack.pop s
    ensure (val.kind = .lvalue) "assertion left == right failed"
    .ok (s ++ [⟨.pointer { inner := val.ty }, val.kind⟩])
  | .null, s | .sequence, s | .fence, s => .ok s
  | _, _ => .error (.panic "unreachable")

/-! ### Control flow -/

/-- What a validation run records (not in the source: see the module docstring). -/
inductive Event where
  /-- Control reaches label `label`, whose declared stack is `declared`, from the simulated stack
  `live`. `first` is `some s` for the second and later cases of a hash switch, which the
  validator compares only with `s`, the declared stack of the switch's first case. -/
  | jump (label : Nat) (live declared : List StackItem) (first : Option (List StackItem))
  /-- `ExitBlock { blk, .. }` at nesting depth `depth` pops `popped`. -/
  | exit (depth blk : Nat) (popped : List StackItem)

/-- The state of `tycheck_expr`: the block's simulated operand stack (top last), the recorded exit
stack of every enclosing block (`block_exits`, innermost last), and the trace of the run. -/
structure Checker where
  vstack : List StackItem := []
  blockExits : List (Option (List StackItem)) := []
  trace : List Event := []

/-- Append an event to the trace. -/
def Checker.record (st : Checker) (ev : Event) : Checker := { st with trace := st.trace ++ [ev] }

/-- `Expr::ExitBlock { blk, values }`: pops the top `values` items; the first exit of block `blk`
records them as its exit stack, every later one must match the recorded stack. -/
def tycheckExitBlock (fuel : Nat) (ts : TypeState) (blk values : Nat) (st : Checker) :
    Except Failure Checker := do
  let exit ← match st.blockExits[blk]? with
    | some e => .ok e
    | none => .error (.panic "index out of bounds")
  let (stack, s) ← Stack.popN st.vstack values
  let st' := { st with vstack := s }.record (.exit (st.blockExits.length - 1) blk stack)
  match exit with
  | none => .ok { st' with blockExits := st.blockExits.set blk (some stack) }
  | some items => do
    ensure (items.length = values) "assertion failed: items.len() == values"
    checkUnifyStack fuel ts stack items
    .ok st'

/-- The condition of `Expr::Branch`: `Always` and `Never` pop nothing, every other condition pops
an r-value that reifies to an integer scalar. -/
def popBranchCondition (ts : TypeState) (cond : BranchCondition) (s : List StackItem) :
    Except Failure (List StackItem) :=
  match cond with
  | .always | .never => .ok s
  | _ => do
    let (ctrl, s) ← Stack.pop s
    ensure (ctrl.kind = .rvalue) "Cannot branch on"
    ensure (isIntegerScalar (ts.refiyType ctrl.ty)) "Cannot branch on"
    .ok s

/-- `Expr::Branch { cond, target }`: after the condition, the remaining stack must fit the
target's declared stack. -/
def tycheckBranch (fuel : Nat) (ts : TypeState) (targets : List (Nat × List StackItem))
    (cond : BranchCondition) (target : Nat) (st : Checker) : Except Failure Checker := do
  let s ← popBranchCondition ts cond st.vstack
  let tstack ← lookupTarget targets target
  checkUnifyStack fuel ts s tstack
  .ok ({ st with vstack := s }.record (.jump target s tstack none))

/-- A case value of `Switch::Hash` must be an integer whose type unifies with the control type. -/
def checkCaseValue (fuel : Nat) (ts : TypeState) (ctrlTy : Ty) : Value → Except Failure Unit
  | .integer ty _ => checkUnify fuel ts ctrlTy (.scalar ty)
  | _ => .error (.panic "Cannot switch on case")

/-- The case loop of `Switch::Hash`: every case value must be an integer whose type unifies with
the control type; the first case's target stack is checked against the live stack and becomes
`ustack`, and every later case's target stack is compared with `ustack` only. -/
def switchCases (fuel : Nat) (ts : TypeState) (targets : List (Nat × List StackItem))
    (ctrlTy : Ty) : List (Value × Nat) → Option (List StackItem) → Checker →
    Except Failure Checker
  | [], _, st => .ok st
  | (val, targ) :: cases, ustack, st => do
    checkCaseValue fuel ts ctrlTy val
    let tstack ← lookupTarget targets targ
    match ustack with
    | some stack => do
      ensure (stack.length = tstack.length) "Cannot unify stack for target"
      (stack.zip tstack).forM fun q => do
        ensure (q.1.kind = q.2.kind) "Cannot unify stack for target"
        checkUnify fuel ts q.1.ty q.2.ty
      switchCases fuel ts targets ctrlTy cases (some stack)
        (st.record (.jump targ st.vstack tstack (some stack)))
    | none => do
      checkUnifyStack fuel ts st.vstack tstack
      switchCases fuel ts targets ctrlTy cases (some tstack)
        (st.record (.jump targ st.vstack tstack none))

/-- `Expr::Switch`: pops an integer r-value, then runs the case loop (linear switches are
`todo!()`). -/
def tycheckSwitch (fuel : Nat) (ts : TypeState) (targets : List (Nat × List StackItem))
    (s : Switch) (st : Checker) : Except Failure Checker := do
  let (ctrl, rest) ← Stack.pop st.vstack
  ensure (ctrl.kind = .rvalue) "Cannot switch on"
  ensure (isIntegerScalar (ts.refiyType ctrl.ty)) "Cannot switch on"
  match s with
  | .hash cases => switchCases fuel ts targets ctrl.ty cases none { st with vstack := rest }
  | .linear => .error (.todo "linear switch")

/-! ### Blocks -/

/-- One step of the pre-scan: a `Target` is recorded under its label, unless the label is
already declared. -/
def collectTarget (acc : List (Nat × List StackItem)) :
    BlockItem → Except Failure (List (Nat × List StackItem))
  | .target num stack =>
    if (acc.lookup num).isSome then .error (.panic "Target redeclared")
    else .ok ((num, stack) :: acc)
  | .expr _ => .ok acc

/-- The pre-scan of `tycheck_block`: the declared stack of every `Target` of the block, by label;
a label declared twice is fatal. -/
def collectTargets (items : List BlockItem) : Except Failure (List (Nat × List StackItem)) :=
  items.foldlM collectTarget []

/-- `tycheck_block` around its replay loop `replay`: push a fresh exit slot, start from an empty
stack, pre-scan the labels, replay, and return the block's recorded exit stack (empty if no exit
fired), popping its slot. -/
def withBlock (items : List BlockItem)
    (replay : List (Nat × List StackItem) → Checker → List BlockItem × Except Failure Checker)
    (st : Checker) : List BlockItem × Except Failure (List StackItem × Checker) :=
  let st := { st with blockExits := st.blockExits ++ [none], vstack := [] }
  match collectTargets items with
  | .error f => (items, .error f)
  | .ok targets =>
    let (items', r) := replay targets st
    (items', r.bind fun st => do
      let exit ← unwrap st.blockExits.getLast?
      .ok (exit.getD [], { st with blockExits := st.blockExits.dropLast }))

mutual
/-- `tycheck_expr`: the instruction, back-filled where the source writes to it, and the checker
state after it together with the `diverged` flag (always `false`), or the failure. -/
def tycheckExpr (fuel : Nat) (ts : TypeState) (locals : List Ty)
    (targets : List (Nat × List StackItem)) :
    Expr → Checker → Expr × Except Failure (Checker × Bool)
  | .const v, st =>
    (.const (backfill ts v),
      (tycheckConst targets (backfill ts v) st.vstack).map fun s => ({ st with vstack := s }, false))
  | .derive pty e, st =>
    let (e', r) := tycheckExpr fuel ts locals targets e st
    (.derive pty e', r.bind fun (st, _) =>
      (deriveTail fuel ts pty st.vstack).map fun s => ({ st with vstack := s }, false))
  | .block n items, st =>
    if n = st.blockExits.length then
      let (items', r) :=
        withBlock items (fun targets st => tycheckItems fuel ts locals targets items false st) st
      (.block n items', r.map fun (res, st') => ({ st' with vstack := st.vstack ++ res }, false))
    else (.block n items, .error (.panic "assertion failed: n == block_exits.len()"))
  | .exitBlock blk values, st =>
    (.exitBlock blk values, (tycheckExitBlock fuel ts blk values st).map (·, false))
  | .branch cond target, st =>
    (.branch cond target, (tycheckBranch fuel ts targets cond target st).map (·, false))
  | .switch s, st => (.switch s, (tycheckSwitch fuel ts targets s st).map (·, false))
  | e, st => (e, (stackOp fuel ts locals e st.vstack).map fun s => ({ st with vstack := s }, false))
/-- The replay loop of `tycheck_block` over the block's items, from the `diverged` flag the
previous item left: an instruction feeds the simulator; a `Target` checks a fall-through stack
against its declared stack (unless control diverged) and resets the stack to that declaration. -/
def tycheckItems (fuel : Nat) (ts : TypeState) (locals : List Ty)
    (targets : List (Nat × List StackItem)) :
    List BlockItem → Bool → Checker → List BlockItem × Except Failure Checker
  | [], _, st => ([], .ok st)
  | .expr e :: items, _, st =>
    let (e', r) := tycheckExpr fuel ts locals targets e st
    match r with
    | .error f => (.expr e' :: items, .error f)
    | .ok (st, diverged) =>
      let (items', r) := tycheckItems fuel ts locals targets items diverged st
      (.expr e' :: items', r)
  | .target num stack :: items, diverged, st =>
    match (if diverged then .ok () else checkUnifyStack fuel ts st.vstack stack) with
    | .error f => (.target num stack :: items, .error f)
    | .ok () =>
      let st := if diverged then st else st.record (.jump num st.vstack stack none)
      let (items', r) := tycheckItems fuel ts locals targets items false { st with vstack := stack }
      (.target num stack :: items', r)
end

/-- `tycheck_block`: the block's items (back-filled) and its exit stack with the state after it. -/
def tycheckBlock (fuel : Nat) (ts : TypeState) (locals : List Ty) (items : List BlockItem)
    (st : Checker) : List BlockItem × Except Failure (List StackItem × Checker) :=
  withBlock items (fun targets st => tycheckItems fuel ts locals targets items false st) st

/-! ### Functions and files -/

/-- The return check of `tycheck_function`: a `Void` function's root block leaves nothing, any
other leaves exactly one item, whose type unifies with the return type. -/
def checkReturn (fuel : Nat) (ts : TypeState) (ret : List StackItem) (rty : Ty) :
    Except Failure Unit :=
  match rty with
  | .void => ensure (ret.length = 0) "assertion left == right failed"
  | _ =>
    match ret with
    | [r] => checkUnify fuel ts r.ty rty
    | _ => .error (.panic "assertion left == right failed")

/-- `tycheck_function`: a function with a body has its root block checked with the parameters
followed by the declared locals as local types, and the block's exit stack must match the
declared return type (empty for `Void`, one unifying item otherwise). The result carries the
trace of the run. -/
def tycheckFunction (fuel : Nat) (ts : TypeState) (decl : FunctionDeclaration) :
    FunctionDeclaration × Except Failure (List Event) :=
  match decl.body with
  | none => (decl, .ok [])
  | some body =>
    let (block', r) := tycheckBlock fuel ts (decl.ty.params ++ body.locals) body.block {}
    ({ decl with body := some { body with block := block' } }, do
      let (ret, st) ← r
      checkReturn fuel ts ret decl.ty.ret
      .ok st.trace)

/-- One member of pass one: a function's type or a static's type goes into the global type
table, an aggregate definition (`none` if opaque) into the aggregate table. -/
def gatherType (ts : TypeState) (m : Path × MemberDeclaration) : TypeState :=
  match m.2 with
  | .function decl => { ts with tys := (m.1, .fnType decl.ty) :: ts.tys }
  | .static s => { ts with tys := (m.1, s.ty) :: ts.tys }
  | .aggregateDefinition d => { ts with aggregate := (m.1, some d) :: ts.aggregate }
  | .opaqueAggregate _ => { ts with aggregate := (m.1, none) :: ts.aggregate }
  | _ => ts

/-- Pass one of `tycheck`: the types of the root scope's functions and statics, and its aggregate
definitions (opaque ones as `none`), inserted in iteration order. -/
def gatherTypes (members : List (Path × MemberDeclaration)) : TypeState :=
  members.foldl gatherType {}

/-- Pass two of `tycheck`: every root-scope function with a body is checked, in iteration order,
until the first failure; a static is `todo!()`; other members are skipped. -/
def checkMembers (fuel : Nat) (ts : TypeState) :
    List (Path × MemberDeclaration) → List (Path × MemberDeclaration) × Except Failure Unit
  | [] => ([], .ok ())
  | (path, .function decl) :: ms =>
    if decl.body.isSome then
      let (decl', r) := tycheckFunction fuel ts decl
      match r with
      | .error f => ((path, .function decl') :: ms, .error f)
      | .ok _ =>
        let (ms', r) := checkMembers fuel ts ms
        ((path, .function decl') :: ms', r)
    else
      let (ms', r) := checkMembers fuel ts ms
      ((path, .function decl) :: ms', r)
  | (path, .static s) :: ms => ((path, .static s) :: ms, .error (.todo "static"))
  | m :: ms =>
    let (ms', r) := checkMembers fuel ts ms
    (m :: ms', r)

/-- `tycheck`: the file after validation and whether it was accepted. -/
def tycheck (fuel : Nat) (f : File) : File × Except Failure Unit :=
  let (ms, r) := checkMembers fuel (gatherTypes f.root.members) f.root.members
  ({ root := { members := ms } }, r)

end Lccc.Xir
