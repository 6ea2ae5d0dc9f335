import Lccc.Xir.Passes

/-!
# Lccc.Xir.Backfill

**The only rewrite the validator makes, and resolving before validating instead.**

`tycheck` walks the file with mutable access to every instruction, but the only place it writes
is the `Value::GlobalAddress` arm: a `Null` type is replaced by the item's type in the global
table. `ExprFill`/`ItemsFill` say which rewrites of an instruction tree are of that kind, and
`FileFill` lifts them to files: only the bodies of the root scope's functions change, and
within them only the types of such addresses.

* `tycheck_fills`: the file `tycheck` leaves is related to its input by `FileFill`, whether it
  accepted or failed.
* `tycheck_fill_run`: a filled instruction tree validates exactly as the original, because the
  validator back-fills before it reads.
* `tycheck_idempotent`: validating the file `tycheck` leaves leaves it as it is and has the same
  outcome. A second run fills nothing new: it reads the same constants and so stops where the
  first one stopped, and what the first one filled stays filled (`backfill_backfill`).
* `resolve` is the spec's two-phase alternative: resolve every function body of the file first.
  It is itself a fill, resolving a fill gives the same result (`resolveExpr_of_fill`), and a
  resolved tree has nothing left to fill. So `tycheck` on `resolve F` has the outcome of
  `tycheck` on `F` and leaves `resolve F`, and the file `tycheck F` leaves resolves to
  `resolve F`.
* `tycheck_accepted_resolves`: an accepted run reaches every constant of the tree it checks, so
  an accepted `tycheck F` leaves every function body of the root scope resolved
  (`resolveRoot F`). A failing run leaves the addresses after the point where it stops unfilled,
  and nested scopes, which pass two never visits, keep theirs.
-/

namespace Lccc.Xir

open Lccc.Xlang

/-! ### The back-fill relation -/

mutual
/-- `e'` is `e` with some of its `Const(GlobalAddress { ty: Null, item })` instructions, inside
any nesting of blocks and derives, given the type of `item` in the global type table. -/
inductive ExprFill (ts : TypeState) : Expr → Expr → Prop
  | refl (e : Expr) : ExprFill ts e e
  | globalAddress {item : Path} {t : Ty} : ts.lookupTy item = some t →
    ExprFill ts (.const (.globalAddress .null item)) (.const (.globalAddress t item))
  | derive (pty : PointerType) {e e' : Expr} :
    ExprFill ts e e' → ExprFill ts (.derive pty e) (.derive pty e')
  | block (n : Nat) {items items' : List BlockItem} :
    ItemsFill ts items items' → ExprFill ts (.block n items) (.block n items')
/-- `ExprFill` item by item; labels and their declared stacks are kept. -/
inductive ItemsFill (ts : TypeState) : List BlockItem → List BlockItem → Prop
  | nil : ItemsFill ts [] []
  | expr {e e' : Expr} {items items' : List BlockItem} :
    ExprFill ts e e' → ItemsFill ts items items' → ItemsFill ts (.expr e :: items) (.expr e' :: items')
  | target (num : Nat) (stack : List StackItem) {items items' : List BlockItem} :
    ItemsFill ts items items' → ItemsFill ts (.target num stack :: items) (.target num stack :: items')
end

variable {ts : TypeState}

theorem ItemsFill.rfl : ∀ items : List BlockItem, ItemsFill ts items items
  | [] => .nil
  | .expr e :: items => .expr (.refl e) (ItemsFill.rfl items)
  | .target num stack :: items => .target num stack (ItemsFill.rfl items)

/-- The value `backfill` writes back is a fill of the original constant. -/
theorem backfill_fill (v : Value) : ExprFill ts (.const v) (.const (backfill ts v)) := by
  unfold backfill
  split
  · rcases h : ts.lookupTy _ with _ | t
    · exact .refl _
    · exact .globalAddress h
  · exact .refl _

theorem backfill_null {item : Path} {t : Ty} (h : ts.lookupTy item = some t) :
    backfill ts (.globalAddress .null item) = .globalAddress t item := by
  simp [backfill, h]

/-- A filled address is left alone by a second `backfill`. -/
theorem backfill_filled {item : Path} {t : Ty} (h : ts.lookupTy item = some t) :
    backfill ts (.globalAddress t item) = .globalAddress t item := by
  cases t <;> first | rfl | simp [backfill, h]

/-! ### Validation does not see fills -/

theorem foldlM_collectTarget_fill :
    ∀ {items items' : List BlockItem}, ItemsFill ts items items' →
      ∀ acc, items'.foldlM collectTarget acc = items.foldlM collectTarget acc
  | _, _, .nil, _ => rfl
  | _, _, .expr _ h, acc => by
    simp only [List.foldlM_cons, collectTarget, ok_bind]
    exact foldlM_collectTarget_fill h acc
  | _, _, .target num stack h, acc => by
    simp only [List.foldlM_cons]
    generalize collectTarget acc (.target num stack) = r
    cases r with
    | error => rfl
    | ok acc' => exact foldlM_collectTarget_fill h acc'

theorem withBlock_snd_congr {items items' : List BlockItem}
    {replay replay' :
      List (Nat × List StackItem) → Checker → List BlockItem × Except Failure Checker}
    (hc : collectTargets items' = collectTargets items)
    (hr : ∀ targets st, (replay' targets st).2 = (replay targets st).2) (st : Checker) :
    (withBlock items' replay' st).2 = (withBlock items replay st).2 := by
  unfold withBlock
  rw [hc]
  cases collectTargets items with
  | error => rfl
  | ok targets => simp only [hr]

variable {fuel : Nat} {locals : List Ty}

mutual
/-- A filled instruction validates exactly as the original: the validator reads a constant only
after back-filling it. -/
theorem tycheckExpr_fill_run :
    ∀ {e e' : Expr}, ExprFill ts e e' → ∀ targets st,
      (tycheckExpr fuel ts locals targets e' st).2 = (tycheckExpr fuel ts locals targets e st).2
  | _, _, .refl _, _, _ => rfl
  | _, _, .globalAddress h, _, _ => by simp only [tycheckExpr, backfill_filled h, backfill_null h]
  | _, _, .derive _ h, targets, st => by simp only [tycheckExpr, tycheckExpr_fill_run h targets st]
  | _, _, .block n h, targets, st => by
    simp only [tycheckExpr]
    split
    · rw [withBlock_snd_congr (foldlM_collectTarget_fill h [])
        (fun targets st => tycheckItems_fill_run h targets false st)]
    · rfl
/-- `tycheckExpr_fill_run` for the replay loop. -/
theorem tycheckItems_fill_run :
    ∀ {items items' : List BlockItem}, ItemsFill ts items items' → ∀ targets d st,
      (tycheckItems fuel ts locals targets items' d st).2 =
        (tycheckItems fuel ts locals targets items d st).2
  | _, _, .nil, _, _, _ => rfl
  | _, _, .expr he hi, targets, _, st => by
    simp only [tycheckItems, tycheckExpr_fill_run he targets st]
    split <;> simp only [tycheckItems_fill_run hi]
  | _, _, .target num stack hi, targets, d, st => by
    simp only [tycheckItems]
    split <;> simp only [tycheckItems_fill_run hi]
end

/-! ### Validation only fills -/

/-- The items `withBlock` hands back are the original ones (the pre-scan failed) or those of
the replay. -/
theorem withBlock_fst {items : List BlockItem}
    {replay : List (Nat × List StackItem) → Checker → List BlockItem × Except Failure Checker}
    (st : Checker) :
    (withBlock items replay st).1 = items ∨
      ∃ targets st', (withBlock items replay st).1 = (replay targets st').1 := by
  unfold withBlock
  cases collectTargets items with
  | error => exact .inl rfl
  | ok targets => exact .inr ⟨targets, _, rfl⟩

/-- The instruction tree `tycheck_expr` leaves is a fill of the one it was given, and likewise
for the replay loop, whether or not the run succeeds. -/
theorem tycheck_fills :
    (∀ e targets st, ExprFill ts e (tycheckExpr fuel ts locals targets e st).1) ∧
      ∀ items targets d st,
        ItemsFill ts items (tycheckItems fuel ts locals targets items d st).1 := by
  refine ⟨tycheck_induction_expr (Q := fun items => ∀ targets d st,
      ItemsFill ts items (tycheckItems fuel ts locals targets items d st).1)
    ?const ?derive ?block ?exitBlock ?branch ?switch ?stackOp ?nil ?consExpr ?consTarget,
    tycheck_induction_items ?const ?derive ?block ?exitBlock ?branch ?switch ?stackOp ?nil
      ?consExpr ?consTarget⟩
  case const => intro v targets st; exact backfill_fill v
  case derive => intro pty e ih targets st; exact .derive pty (ih targets st)
  case block =>
    intro n items ih targets st
    simp only [tycheckExpr]
    split
    · rcases @withBlock_fst items
        (fun targets st => tycheckItems fuel ts locals targets items false st) st
        with h | ⟨targets', st', h⟩ <;> rw [h]
      · exact .refl _
      · exact .block n (ih targets' false st')
    · exact .refl _
  case exitBlock | branch => intro _ _ _ _; exact .refl _
  case switch => intro _ _ _; exact .refl _
  case stackOp => intro e he targets st; rw [tycheckExpr_stackOp he]; exact .refl e
  case nil => intro _ _ _; exact .nil
  case consExpr =>
    intro e items ihe ihi targets d st
    simp only [tycheckItems]
    split
    · exact .expr (ihe targets st) (ItemsFill.rfl items)
    · exact .expr (ihe targets st) (ihi _ _ _)
  case consTarget =>
    intro num stack items ih targets d st
    simp only [tycheckItems]
    split
    · exact .target num stack (ItemsFill.rfl items)
    · exact .target num stack (ih _ _ _)

/-- `tycheck_block` leaves a fill of its block, whether or not it accepts it. -/
theorem tycheckBlock_fills (items : List BlockItem) (st : Checker) :
    ItemsFill ts items (tycheckBlock fuel ts locals items st).1 := by
  rcases @withBlock_fst items
    (fun targets st => tycheckItems fuel ts locals targets items false st) st
    with h | ⟨targets, st', h⟩ <;> rw [tycheckBlock, h]
  · exact ItemsFill.rfl items
  · exact tycheck_fills.2 items targets false st'

theorem tycheckBlock_fill_run {items items' : List BlockItem} (h : ItemsFill ts items items')
    (st : Checker) :
    (tycheckBlock fuel ts locals items' st).2 = (tycheckBlock fuel ts locals items st).2 :=
  withBlock_snd_congr (foldlM_collectTarget_fill h [])
    (fun targets st => tycheckItems_fill_run h targets false st) st

/-! ### Files -/

/-- A function body after validation: the same locals, and a fill of the block. -/
def BodyFill (ts : TypeState) : Option FunctionBody → Option FunctionBody → Prop
  | none, b' => b' = none
  | some b, b' => ∃ block', b' = some { b with block := block' } ∧ ItemsFill ts b.block block'

/-- A member after validation: a function keeps its path and signature and fills its body;
every other member is unchanged. -/
def MemberFill (ts : TypeState) : Path × MemberDeclaration → Path × MemberDeclaration → Prop
  | (p, .function d), m' =>
    ∃ body', m' = (p, .function { d with body := body' }) ∧ BodyFill ts d.body body'
  | m, m' => m' = m

theorem BodyFill.rfl : ∀ b : Option FunctionBody, BodyFill ts b b
  | none => Eq.refl none
  | some b => ⟨b.block, Eq.refl _, ItemsFill.rfl b.block⟩

theorem MemberFill.rfl : ∀ m : Path × MemberDeclaration, MemberFill ts m m
  | (_, .function d) => ⟨d.body, Eq.refl _, BodyFill.rfl d.body⟩
  | (_, .empty) | (_, .scope _) | (_, .static _) | (_, .aggregateDefinition _)
  | (_, .opaqueAggregate _) => Eq.refl _

/-- `tycheck_function` fills its function's body and keeps its signature. -/
theorem tycheckFunction_fill (p : Path) (decl : FunctionDeclaration) :
    MemberFill ts (p, .function decl) (p, .function (tycheckFunction fuel ts decl).1) := by
  rcases decl with ⟨ty, _ | body⟩
  · exact ⟨none, Eq.refl _, Eq.refl _⟩
  · exact ⟨_, Eq.refl _, _, Eq.refl _, tycheckBlock_fills body.block {}⟩

theorem checkMembers_fill :
    ∀ ms : List (Path × MemberDeclaration),
      List.Forall₂ (MemberFill ts) ms (checkMembers fuel ts ms).1
  | [] => .nil
  | (p, .function decl) :: ms => by
    simp only [checkMembers]
    split
    · split
      · exact .cons (tycheckFunction_fill p decl) (List.forall₂_same.2 fun m _ => MemberFill.rfl m)
      · exact .cons (tycheckFunction_fill p decl) (checkMembers_fill ms)
    · exact .cons (MemberFill.rfl _) (checkMembers_fill ms)
  | (p, .static s) :: ms => List.forall₂_same.2 fun m _ => MemberFill.rfl m
  | (p, .empty) :: ms | (p, .scope _) :: ms | (p, .aggregateDefinition _) :: ms
  | (p, .opaqueAggregate _) :: ms => .cons (MemberFill.rfl _) (checkMembers_fill ms)

/-- A filled body validates as the original. -/
theorem tycheckFunction_fill_run {d : FunctionDeclaration} {body' : Option FunctionBody}
    (hb : BodyFill ts d.body body') :
    (tycheckFunction fuel ts { d with body := body' }).2 = (tycheckFunction fuel ts d).2 := by
  rcases d with ⟨ty, _ | b⟩
  · cases hb; rfl
  · obtain ⟨block', rfl, hfill⟩ := hb
    simp only [tycheckFunction, tycheckBlock_fill_run hfill]

theorem BodyFill.isSome_eq {b b' : Option FunctionBody} (hb : BodyFill ts b b') :
    b'.isSome = b.isSome := by
  rcases b with _ | b
  · cases hb; rfl
  · obtain ⟨_, rfl, _⟩ := hb; rfl

/-- Pass one reads only what a fill keeps. -/
theorem foldl_gatherType_fill :
    ∀ {ms ms' : List (Path × MemberDeclaration)}, List.Forall₂ (MemberFill ts) ms ms' →
      ∀ acc, ms'.foldl gatherType acc = ms.foldl gatherType acc
  | [], [], .nil, _ => rfl
  | (p, m) :: ms, m' :: ms', .cons hm hms, acc => by
    have : gatherType acc m' = gatherType acc (p, m) := by
      rcases m with _ | _ | d | _ | _ | _ <;>
        first | (cases hm; rfl) | (obtain ⟨_, rfl, _⟩ := hm; rfl)
    simp only [List.foldl_cons, this, foldl_gatherType_fill hms]

theorem gatherTypes_fill {ms ms' : List (Path × MemberDeclaration)}
    (h : List.Forall₂ (MemberFill ts) ms ms') : gatherTypes ms' = gatherTypes ms :=
  foldl_gatherType_fill h {}

/-! ### Validating twice -/

/-- `backfill` is idempotent. -/
theorem backfill_backfill (v : Value) : backfill ts (backfill ts v) = backfill ts v := by
  by_cases hv : ∃ item, v = .globalAddress .null item
  · obtain ⟨item, rfl⟩ := hv
    rcases h : ts.lookupTy item with _ | t
    · simp [backfill, h]
    · rw [backfill_null h, backfill_filled h]
  · have hid : backfill ts v = v := by
      unfold backfill; split
      · exact absurd ⟨_, rfl⟩ hv
      · rfl
    rw [hid, hid]

/-- The items `tycheck_block` hands back: the block's own if the pre-scan fails, else those of
the replay loop from the entered state. -/
theorem tycheckBlock_fst (items : List BlockItem) (st : Checker) :
    (tycheckBlock fuel ts locals items st).1 =
      match collectTargets items with
      | .error _ => items
      | .ok targets => (tycheckItems fuel ts locals targets items false
          { st with blockExits := st.blockExits ++ [none], vstack := [] }).1 := by
  unfold tycheckBlock withBlock
  cases collectTargets items <;> rfl

/-- A second `tycheck_block` from the same state hands back the items the first handed back,
given that the replay loop does. -/
theorem tycheckBlock_fst_idem_of {items : List BlockItem} (st : Checker)
    (ih : ∀ targets st, (tycheckItems fuel ts locals targets
      (tycheckItems fuel ts locals targets items false st).1 false st).1 =
        (tycheckItems fuel ts locals targets items false st).1) :
    (tycheckBlock fuel ts locals (tycheckBlock fuel ts locals items st).1 st).1 =
      (tycheckBlock fuel ts locals items st).1 := by
  have hc : collectTargets (tycheckBlock fuel ts locals items st).1 = collectTargets items :=
    foldlM_collectTarget_fill (tycheckBlock_fills items st) []
  rw [tycheckBlock_fst (tycheckBlock fuel ts locals items st).1 st, hc,
    tycheckBlock_fst items st]
  cases collectTargets items with
  | error => rfl
  | ok targets => exact ih targets _

/-! The instruction trees the steps hand back, whatever their outcome. -/

section Fst

variable {targets : List (Nat × List StackItem)} {st : Checker}

theorem tycheckExpr_derive_fst (pty : PointerType) (e : Expr) :
    (tycheckExpr fuel ts locals targets (.derive pty e) st).1 =
      .derive pty (tycheckExpr fuel ts locals targets e st).1 := rfl

theorem tycheckExpr_block_fst (n : Nat) (items : List BlockItem) :
    (tycheckExpr fuel ts locals targets (.block n items) st).1 =
      if n = st.blockExits.length then .block n (tycheckBlock fuel ts locals items st).1
      else .block n items := by
  simp only [tycheckExpr]; split <;> rfl

theorem tycheckItems_expr_fst (e : Expr) (items : List BlockItem) (d : Bool) :
    (tycheckItems fuel ts locals targets (.expr e :: items) d st).1 =
      .expr (tycheckExpr fuel ts locals targets e st).1 ::
        match (tycheckExpr fuel ts locals targets e st).2 with
        | .error _ => items
        | .ok (st1, d1) => (tycheckItems fuel ts locals targets items d1 st1).1 := by
  simp only [tycheckItems]; split <;> simp only [*]

theorem tycheckItems_target_fst (num : Nat) (stack : List StackItem) (items : List BlockItem)
    (d : Bool) :
    (tycheckItems fuel ts locals targets (.target num stack :: items) d st).1 =
      .target num stack ::
        match (if d then .ok () else checkUnifyStack fuel ts st.vstack stack) with
        | .error _ => items
        | .ok () => (tycheckItems fuel ts locals targets items false
            { (if d then st else st.record (.jump num st.vstack stack none)) with
              vstack := stack }).1 := by
  simp only [tycheckItems]; split <;> simp only [*]

end Fst

/-- Run again from the same state, `tycheck_expr` and the replay loop hand back the instruction
tree the first run handed back. -/
theorem tycheck_fst_idem :
    (∀ e targets st, (tycheckExpr fuel ts locals targets
        (tycheckExpr fuel ts locals targets e st).1 st).1 =
          (tycheckExpr fuel ts locals targets e st).1) ∧
      ∀ items targets d st, (tycheckItems fuel ts locals targets
        (tycheckItems fuel ts locals targets items d st).1 d st).1 =
          (tycheckItems fuel ts locals targets items d st).1 := by
  refine ⟨tycheck_induction_expr (Q := fun items => ∀ targets d st, (tycheckItems fuel ts locals
      targets (tycheckItems fuel ts locals targets items d st).1 d st).1 =
        (tycheckItems fuel ts locals targets items d st).1)
    ?const ?derive ?block ?exitBlock ?branch ?switch ?stackOp ?nil ?consExpr ?consTarget,
    tycheck_induction_items ?const ?derive ?block ?exitBlock ?branch ?switch ?stackOp ?nil
      ?consExpr ?consTarget⟩
  case const => intro v targets st; simp only [tycheckExpr, backfill_backfill]
  case derive =>
    intro pty e ih targets st
    rw [tycheckExpr_derive_fst, tycheckExpr_derive_fst, ih]
  case block =>
    intro n items ih targets st
    rw [tycheckExpr_block_fst n items]
    split
    · rw [tycheckExpr_block_fst, if_pos ‹_›, tycheckBlock_fst_idem_of st (ih · false)]
    · rw [tycheckExpr_block_fst, if_neg ‹_›]
  case exitBlock | branch => intro _ _ _ _; rfl
  case switch => intro _ _ _; rfl
  case stackOp => intro e he targets st; rw [tycheckExpr_stackOp he, tycheckExpr_stackOp he]
  case nil => intro _ _ _; rfl
  case consExpr =>
    intro e items ihe ihi targets d st
    rw [tycheckItems_expr_fst, tycheckItems_expr_fst, ihe,
      tycheckExpr_fill_run (tycheck_fills.1 e targets st)]
    cases (tycheckExpr fuel ts locals targets e st).2 with
    | error => rfl
    | ok r => exact congrArg (List.cons _) (ihi targets r.2 r.1)
  case consTarget =>
    intro num stack items ih targets d st
    rw [tycheckItems_target_fst, tycheckItems_target_fst]
    split
    · rfl
    · exact congrArg (List.cons _) (ih targets false _)

theorem tycheckBlock_fst_idem (locals : List Ty) (items : List BlockItem) (st : Checker) :
    (tycheckBlock fuel ts locals (tycheckBlock fuel ts locals items st).1 st).1 =
      (tycheckBlock fuel ts locals items st).1 :=
  tycheckBlock_fst_idem_of st fun targets st => tycheck_fst_idem.2 items targets false st

/-- The declaration `tycheck_function` hands back: the root block of its body, if it has one, is
replaced by what `tycheck_block` hands back. -/
theorem tycheckFunction_fst (d : FunctionDeclaration) :
    (tycheckFunction fuel ts d).1 = { d with body := d.body.map fun b =>
      { b with block := (tycheckBlock fuel ts (d.ty.params ++ b.locals) b.block {}).1 } } := by
  rcases d with ⟨ty, _ | b⟩ <;> rfl

/-- Run again, `tycheck_function` hands back the declaration it handed back, with the same
outcome. -/
theorem tycheckFunction_idem (d : FunctionDeclaration) :
    tycheckFunction fuel ts (tycheckFunction fuel ts d).1 = tycheckFunction fuel ts d := by
  have hb : BodyFill ts d.body (tycheckFunction fuel ts d).1.body := by
    rcases d with ⟨ty, _ | b⟩
    · rfl
    · exact ⟨_, rfl, tycheckBlock_fills b.block {}⟩
  rw [tycheckFunction_fst d] at hb ⊢
  refine Prod.ext ?_ (tycheckFunction_fill_run hb)
  rw [tycheckFunction_fst, tycheckFunction_fst]
  rcases d with ⟨ty, _ | b⟩
  · rfl
  · simp only [Option.map_some', tycheckBlock_fst_idem]

/-- Run again, pass two hands back the members it handed back, with the same outcome. -/
theorem checkMembers_idem :
    ∀ ms : List (Path × MemberDeclaration),
      checkMembers fuel ts (checkMembers fuel ts ms).1 = checkMembers fuel ts ms
  | [] => rfl
  | (p, .function d) :: ms => by
    have hidem : tycheckFunction fuel ts (tycheckFunction fuel ts d).1 =
        tycheckFunction fuel ts d := tycheckFunction_idem d
    by_cases hb : d.body.isSome
    · have hs : (tycheckFunction fuel ts d).1.body.isSome := by
        rw [tycheckFunction_fst]; simpa using hb
      rcases hd : tycheckFunction fuel ts d with ⟨d', _ | tr⟩ <;> rw [hd] at hs hidem
      · simp only [checkMembers, hb, hd, hs, if_true, hidem]
      · simp only [checkMembers, hb, hd, hs, if_true, hidem, checkMembers_idem ms]
    · simp [checkMembers, hb, checkMembers_idem ms]
  | (p, .static _) :: ms => rfl
  | (p, .empty) :: ms | (p, .scope _) :: ms | (p, .aggregateDefinition _) :: ms
  | (p, .opaqueAggregate _) :: ms => by
    simp only [checkMembers, checkMembers_idem ms]

/-- Validation is idempotent: validating again the file that `tycheck` leaves leaves the same
file and has the same outcome, whether the first run accepted or failed. -/
theorem tycheck_idempotent (fuel : Nat) (F : File) :
    tycheck fuel (tycheck fuel F).1 = tycheck fuel F := by
  have hfill := @checkMembers_fill (gatherTypes F.root.members) fuel F.root.members
  have h : checkMembers fuel (gatherTypes (tycheck fuel F).1.root.members)
      (tycheck fuel F).1.root.members =
        checkMembers fuel (gatherTypes F.root.members) F.root.members := by
    rw [tycheck_fst, gatherTypes_fill hfill, checkMembers_idem]
  exact Prod.ext (by rw [tycheck_fst fuel (tycheck fuel F).1, h, ← tycheck_fst])
    (by rw [tycheck_snd fuel (tycheck fuel F).1, h, ← tycheck_snd])

/-! ### Resolving before validating -/

mutual
/-- The resolve phase of a two-phase validator: every `Const(GlobalAddress { ty: Null, item })`
takes the global type of `item`, when it has one, at any depth of blocks and derives. -/
def resolveExpr (ts : TypeState) : Expr → Expr
  | .const v => .const (backfill ts v)
  | .derive pty e => .derive pty (resolveExpr ts e)
  | .block n items => .block n (resolveItems ts items)
  | e => e
/-- `resolveExpr` item by item. -/
def resolveItems (ts : TypeState) : List BlockItem → List BlockItem
  | [] => []
  | .expr e :: items => .expr (resolveExpr ts e) :: resolveItems ts items
  | .target num stack :: items => .target num stack :: resolveItems ts items
end

mutual
/-- Every function body of a member resolved, in nested scopes too. -/
def resolveMember (ts : TypeState) : MemberDeclaration → MemberDeclaration
  | .function d =>
    .function { d with body := d.body.map fun b => { b with block := resolveItems ts b.block } }
  | .scope ms => .scope (resolveMembers ts ms)
  | m => m
/-- `resolveMember` member by member. -/
def resolveMembers (ts : TypeState) :
    List (Path × MemberDeclaration) → List (Path × MemberDeclaration)
  | [] => []
  | (p, m) :: ms => (p, resolveMember ts m) :: resolveMembers ts ms
end

/-- `resolve(F)`: every function body of `F`, in every scope, resolved against the tables of
pass one. -/
def resolve (F : File) : File :=
  { root := { members := resolveMembers (gatherTypes F.root.members) F.root.members } }

/-- `resolveMember` for a member of the root scope that pass two visits: a nested scope is left as
it is. -/
def resolveRootMember (ts : TypeState) : MemberDeclaration → MemberDeclaration
  | .scope ms => .scope ms
  | m => resolveMember ts m

/-- `F` with the function bodies of its root scope resolved against the tables of pass one, and
its nested scopes as they are. -/
def resolveRoot (F : File) : File :=
  { root := { members := F.root.members.map fun m =>
      (m.1, resolveRootMember (gatherTypes F.root.members) m.2) } }

/-- Resolving is a fill. -/
theorem resolve_fills :
    (∀ e, ExprFill ts e (resolveExpr ts e)) ∧
      ∀ items, ItemsFill ts items (resolveItems ts items) := by
  refine ⟨tycheck_induction_expr (Q := fun items => ItemsFill ts items (resolveItems ts items))
    ?const ?derive ?block ?exitBlock ?branch ?switch ?stackOp ?nil ?consExpr ?consTarget,
    tycheck_induction_items ?const ?derive ?block ?exitBlock ?branch ?switch ?stackOp ?nil
      ?consExpr ?consTarget⟩
  case const => exact backfill_fill
  case derive => exact fun pty _ ih => .derive pty ih
  case block => exact fun n _ ih => .block n ih
  case exitBlock | branch => exact fun _ _ => .refl _
  case switch => exact fun _ => .refl _
  case stackOp => intro e he; cases e <;> first | exact .refl _ | simp [isStackOp] at he
  case nil => exact .nil
  case consExpr => exact fun _ _ he hi => .expr he hi
  case consTarget => exact fun num stack _ ih => .target num stack ih

mutual
/-- Resolving a fill gives what resolving the original gives. -/
theorem resolveExpr_of_fill :
    ∀ {e e' : Expr}, ExprFill ts e e' → resolveExpr ts e' = resolveExpr ts e
  | _, _, .refl _ => rfl
  | _, _, .globalAddress h => by simp only [resolveExpr, backfill_filled h, backfill_null h]
  | _, _, .derive _ h => by simp only [resolveExpr, resolveExpr_of_fill h]
  | _, _, .block _ h => by simp only [resolveExpr, resolveItems_of_fill h]
/-- `resolveExpr_of_fill` item by item. -/
theorem resolveItems_of_fill :
    ∀ {items items' : List BlockItem}, ItemsFill ts items items' →
      resolveItems ts items' = resolveItems ts items
  | _, _, .nil => rfl
  | _, _, .expr he hi => by
    simp only [resolveItems, resolveExpr_of_fill he, resolveItems_of_fill hi]
  | _, _, .target _ _ hi => by simp only [resolveItems, resolveItems_of_fill hi]
end

mutual
/-- A resolved instruction has nothing left to fill. -/
theorem fill_of_resolved :
    ∀ {e e' : Expr}, ExprFill ts e e' → resolveExpr ts e = e → e' = e
  | _, _, .refl _, _ => rfl
  | _, _, .globalAddress h, hr => by
    simp only [resolveExpr, backfill_null h, Expr.const.injEq, Value.globalAddress.injEq] at hr
    rw [hr.1]
  | _, _, .derive _ h, hr => by
    simp only [resolveExpr, Expr.derive.injEq, true_and] at hr
    rw [fill_of_resolved h hr]
  | _, _, .block _ h, hr => by
    simp only [resolveExpr, Expr.block.injEq, true_and] at hr
    rw [items_fill_of_resolved h hr]
/-- `fill_of_resolved` item by item. -/
theorem items_fill_of_resolved :
    ∀ {items items' : List BlockItem}, ItemsFill ts items items' →
      resolveItems ts items = items → items' = items
  | _, _, .nil, _ => rfl
  | _, _, .expr he hi, hr => by
    simp only [resolveItems, List.cons.injEq, BlockItem.expr.injEq] at hr
    rw [fill_of_resolved he hr.1, items_fill_of_resolved hi hr.2]
  | _, _, .target _ _ hi, hr => by
    simp only [resolveItems, List.cons.injEq, true_and] at hr
    rw [items_fill_of_resolved hi hr]
end

theorem resolveItems_resolveItems (items : List BlockItem) :
    resolveItems ts (resolveItems ts items) = resolveItems ts items :=
  resolveItems_of_fill (resolve_fills.2 items)

/-! ### Resolving files -/

/-- Pass one reads only signatures, static types and aggregates, which resolving keeps. -/
theorem foldl_gatherType_resolveMembers (ts' : TypeState) :
    ∀ (ms : List (Path × MemberDeclaration)) (acc : TypeState),
      (resolveMembers ts' ms).foldl gatherType acc = ms.foldl gatherType acc
  | [], _ => rfl
  | (p, m) :: ms, acc => by
    have : gatherType acc (p, resolveMember ts' m) = gatherType acc (p, m) := by cases m <;> rfl
    simp only [resolveMembers, List.foldl_cons, this, foldl_gatherType_resolveMembers ts' ms]

theorem gatherTypes_resolve (F : File) :
    gatherTypes (resolve F).root.members = gatherTypes F.root.members :=
  foldl_gatherType_resolveMembers _ _ _

/-- A resolved function body validates as the original, and pass two skips nested scopes. -/
theorem checkMembers_resolve_snd :
    ∀ ms : List (Path × MemberDeclaration),
      (checkMembers fuel ts (resolveMembers ts ms)).2 = (checkMembers fuel ts ms).2
  | [] => rfl
  | (p, .function d) :: ms => by
    have hb :
        BodyFill ts d.body (d.body.map fun b => { b with block := resolveItems ts b.block }) := by
      rcases d.body with _ | b
      · rfl
      · exact ⟨_, rfl, resolve_fills.2 b.block⟩
    simp only [resolveMembers, resolveMember, checkMembers_function_snd, hb.isSome_eq,
      tycheckFunction_fill_run hb, checkMembers_resolve_snd ms]
  | (p, .static _) :: ms => rfl
  | (p, .empty) :: ms | (p, .scope _) :: ms | (p, .aggregateDefinition _) :: ms
  | (p, .opaqueAggregate _) :: ms => checkMembers_resolve_snd ms

/-- A fill of a resolved member is the member itself. -/
theorem memberFill_resolved {p : Path} {m : MemberDeclaration} {m' : Path × MemberDeclaration}
    (h : MemberFill ts (p, resolveMember ts m) m') : m' = (p, resolveMember ts m) := by
  cases m with
  | function d =>
    obtain ⟨body', rfl, hb⟩ := h
    rcases hd : d.body with _ | b <;>
      simp only [resolveMember, hd, Option.map_none', Option.map_some'] at hb ⊢
    · rw [hb]
    · obtain ⟨block', rfl, hfill⟩ := hb
      rw [items_fill_of_resolved hfill (resolveItems_resolveItems b.block)]
  | _ => exact h

theorem eq_of_forall₂_memberFill_resolved :
    ∀ {ms : List (Path × MemberDeclaration)} {ms'},
      List.Forall₂ (MemberFill ts) (resolveMembers ts ms) ms' → ms' = resolveMembers ts ms
  | [], [], .nil => rfl
  | (_, _) :: _, _ :: _, .cons hm hms => by
    rw [memberFill_resolved hm, eq_of_forall₂_memberFill_resolved hms]; rfl

/-- Resolving a filled body gives what resolving the original gives. -/
theorem BodyFill.map_resolve {b b' : Option FunctionBody} (hb : BodyFill ts b b') :
    b'.map (fun b => { b with block := resolveItems ts b.block }) =
      b.map (fun b => { b with block := resolveItems ts b.block }) := by
  rcases b with _ | b
  · cases hb; rfl
  · obtain ⟨block', rfl, hfill⟩ := hb
    simp only [Option.map_some', resolveItems_of_fill hfill]

theorem resolveMembers_of_fill :
    ∀ {ms ms' : List (Path × MemberDeclaration)}, List.Forall₂ (MemberFill ts) ms ms' →
      resolveMembers ts ms' = resolveMembers ts ms
  | [], [], .nil => rfl
  | (p, m) :: ms, (p', m') :: ms', .cons hm hms => by
    have : (p', resolveMember ts m') = (p, resolveMember ts m) := by
      cases m with
      | function d =>
        obtain ⟨body', hpm, hb⟩ := hm
        obtain ⟨rfl, rfl⟩ := Prod.mk.inj hpm
        simp only [resolveMember, hb.map_resolve]
      | _ => obtain ⟨rfl, rfl⟩ := Prod.mk.inj hm; rfl
    simp only [resolveMembers, List.cons.injEq]
    exact ⟨this, resolveMembers_of_fill hms⟩

/-! ### Accepted runs resolve the root scope -/

/-- An accepted `tycheck_block` hands back what its accepted replay loop hands back. -/
theorem tycheckBlock_fst_of_ok {items : List BlockItem} {st st' : Checker} {res : List StackItem}
    (h : (tycheckBlock fuel ts locals items st).2 = .ok (res, st')) :
    ∃ targets st1, (tycheckItems fuel ts locals targets items false
        { st with blockExits := st.blockExits ++ [none], vstack := [] }).2 = .ok st1 ∧
      (tycheckBlock fuel ts locals items st).1 = (tycheckItems fuel ts locals targets items false
        { st with blockExits := st.blockExits ++ [none], vstack := [] }).1 := by
  obtain ⟨targets, st1, -, hc, hr, -⟩ := withBlock_inv h
  exact ⟨targets, st1, hr, by rw [tycheckBlock_fst, hc]⟩

/-- An accepted run of `tycheck_expr` or of the replay loop has reached every constant of the tree
it checked, at any depth, and back-filled it: it hands back the tree resolved. -/
theorem tycheck_accepted_resolves :
    (∀ e targets st r, (tycheckExpr fuel ts locals targets e st).2 = .ok r →
      (tycheckExpr fuel ts locals targets e st).1 = resolveExpr ts e) ∧
    ∀ items targets d st st', (tycheckItems fuel ts locals targets items d st).2 = .ok st' →
      (tycheckItems fuel ts locals targets items d st).1 = resolveItems ts items := by
  refine ⟨tycheck_induction_expr (Q := fun items => ∀ targets d st st',
      (tycheckItems fuel ts locals targets items d st).2 = .ok st' →
      (tycheckItems fuel ts locals targets items d st).1 = resolveItems ts items)
    ?const ?derive ?block ?exitBlock ?branch ?switch ?stackOp ?nil ?consExpr ?consTarget,
    tycheck_induction_items ?const ?derive ?block ?exitBlock ?branch ?switch ?stackOp ?nil
      ?consExpr ?consTarget⟩
  case const => exact fun _ _ _ _ _ => rfl
  case derive =>
    intro pty e ih targets st r h
    obtain ⟨_, hi, -⟩ := bind_eq_ok.1 h
    rw [tycheckExpr_derive_fst, ih targets st _ hi]
    rfl
  case block =>
    intro n items ih targets st r h
    obtain ⟨hn, res, st1, hw, -⟩ := tycheckExpr_block_inv h
    obtain ⟨targets', st2, hr, hfst⟩ := tycheckBlock_fst_of_ok hw
    rw [tycheckExpr_block_fst, if_pos hn, hfst, ih targets' false _ _ hr]
    rfl
  case exitBlock | branch => exact fun _ _ _ _ _ _ => rfl
  case switch => exact fun _ _ _ _ _ => rfl
  case stackOp =>
    intro e he targets st r _
    rw [tycheckExpr_stackOp he]
    cases e <;> first | rfl | simp [isStackOp] at he
  case nil => exact fun _ _ _ _ _ => rfl
  case consExpr =>
    intro e items ihe ihi targets d st st' h
    rcases he : (tycheckExpr fuel ts locals targets e st).2 with f | ⟨st1, d1⟩
    · simp [tycheckItems, he] at h
    simp only [tycheckItems, he] at h
    rw [tycheckItems_expr_fst, he, ihe targets st _ he]
    exact congrArg (List.cons _) (ihi targets d1 st1 st' h)
  case consTarget =>
    intro num stack items ih targets d st st' h
    rcases hc : (if d then .ok () else checkUnifyStack fuel ts st.vstack stack :
      Except Failure Unit) with f | ⟨⟩
    · simp only [tycheckItems, hc, reduceCtorEq] at h
    simp only [tycheckItems, hc] at h
    rw [tycheckItems_target_fst, hc, ih targets false _ st' h]
    rfl

/-- An accepted `tycheck_function` hands back its declaration with its body resolved. -/
theorem tycheckFunction_accepted_resolves {d : FunctionDeclaration} {tr : List Event}
    (h : (tycheckFunction fuel ts d).2 = .ok tr) :
    (tycheckFunction fuel ts d).1 =
      { d with body := d.body.map fun b => { b with block := resolveItems ts b.block } } := by
  rw [tycheckFunction_fst]
  rcases tycheckFunction_ok_inv h with ⟨hb, -⟩ | ⟨body, ret, st, hb, hr, -, -⟩
  · rw [hb]
    rfl
  · obtain ⟨targets, st1, hi, hfst⟩ := tycheckBlock_fst_of_ok hr
    simp only [hb, Option.map_some', hfst, tycheck_accepted_resolves.2 _ _ _ _ _ hi]

/-- Pass two, when it accepts, hands back every member of the root scope resolved, except the
nested scopes, which it does not visit. -/
theorem checkMembers_accepted_resolves :
    ∀ {ms : List (Path × MemberDeclaration)}, (checkMembers fuel ts ms).2 = .ok () →
      (checkMembers fuel ts ms).1 = ms.map fun m => (m.1, resolveRootMember ts m.2)
  | [], _ => rfl
  | (p, .function d) :: ms, h => by
    rw [checkMembers_function_snd] at h
    by_cases hb : d.body.isSome
    · rw [if_pos hb] at h
      obtain ⟨tr, hf, hms⟩ := bind_eq_ok.1 h
      have hd := tycheckFunction_accepted_resolves hf
      rcases hfun : tycheckFunction fuel ts d with ⟨d', r⟩
      rw [hfun] at hf hd
      cases hf
      simp only [checkMembers, hb, if_true, hfun, checkMembers_accepted_resolves hms,
        List.map_cons, hd]
      rfl
    · rw [if_neg hb] at h
      rcases d with ⟨ty, _ | body⟩
      · simp only [checkMembers, hb, checkMembers_accepted_resolves h, List.map_cons]
        rfl
      · exact absurd rfl hb
  | (p, .static _) :: ms, h => nomatch h
  | (p, .empty) :: ms, h | (p, .scope _) :: ms, h | (p, .aggregateDefinition _) :: ms, h
  | (p, .opaqueAggregate _) :: ms, h => by
    simp only [checkMembers] at h ⊢
    rw [checkMembers_accepted_resolves h]
    rfl

/-- Back-filling during the traversal agrees with resolving first, up to where the run stops:
validating `resolve F` has the outcome of validating `F` and leaves `resolve F` unchanged, the
file validating `F` leaves resolves to `resolve F`, and when that run accepts, it has left every
function body of the root scope resolved (`resolveRoot F`); it never visits nested scopes. -/
theorem tycheck_resolve_same_outcome (fuel : Nat) (F : File) :
    (tycheck fuel (resolve F)).2 = (tycheck fuel F).2 ∧
      (tycheck fuel (resolve F)).1 = resolve F ∧ resolve (tycheck fuel F).1 = resolve F ∧
      ((tycheck fuel F).2 = .ok () → (tycheck fuel F).1 = resolveRoot F) := by
  have hfill := @checkMembers_fill (gatherTypes F.root.members) fuel F.root.members
  refine ⟨?_, ?_, ?_, fun h => ?_⟩
  · rw [tycheck_snd, gatherTypes_resolve, tycheck_snd]
    exact checkMembers_resolve_snd F.root.members
  · rw [tycheck_fst, gatherTypes_resolve]
    unfold resolve
    rw [eq_of_forall₂_memberFill_resolved (checkMembers_fill _)]
  · simp only [resolve, tycheck_fst, gatherTypes_fill hfill, resolveMembers_of_fill hfill]
  · rw [tycheck_fst, checkMembers_accepted_resolves h]
    rfl

/-- The path `f`. -/
def fPath : Path := ⟨[.text "f"]⟩

/-- `fn f() { Pop 1; Const(GlobalAddress { ty: Null, item: f }) }`: the run stops at the pop,
before it reaches the address. -/
def stopsEarlyFn : FunctionDeclaration where
  ty := { ret := .void, params := [] }
  body := some { locals := [], block :=
    [.expr (.pop 1), .expr (.const (.globalAddress .null fPath))] }

/-- A file whose root scope holds only `stopsEarlyFn`, as `f`. -/
def stopsEarlyFile : File := { root := { members := [(fPath, .function stopsEarlyFn)] } }

/-- `fn s::g() { Const(GlobalAddress { ty: Null, item: f }); Pop 1 }`. -/
def addressOfFFn : FunctionDeclaration where
  ty := { ret := .void, params := [] }
  body := some { locals := [], block :=
    [.expr (.const (.globalAddress .null fPath)), .expr (.pop 1)] }

/-- `fn f() {}`. -/
def emptyBodyFn : FunctionDeclaration where
  ty := { ret := .void, params := [] }
  body := some { locals := [], block := [] }

/-- `emptyBodyFn` at the root as `f`, and `addressOfFFn` in a nested scope `s`. -/
def nestedAddressFile : File :=
  { root := { members := [(fPath, .function emptyBodyFn),
    (⟨[.text "s"]⟩, .scope [(⟨[.text "s", .text "g"]⟩, .function addressOfFFn)])] } }

/-- `nestedAddressFile` is accepted, and the file left has its root function resolved and its
nested scope as it was. -/
theorem nestedAddressFile_root_resolved :
    (tycheck 1 nestedAddressFile).2 = .ok () ∧
      (tycheck 1 nestedAddressFile).1 = resolveRoot nestedAddressFile :=
  ⟨rfl, (tycheck_resolve_same_outcome 1 nestedAddressFile).2.2.2 rfl⟩

theorem backfill_leaves_unresolved_addresses :
    (tycheck 1 stopsEarlyFile).2 = (tycheck 1 (resolve stopsEarlyFile)).2 ∧
      (tycheck 1 stopsEarlyFile).1 ≠ (tycheck 1 (resolve stopsEarlyFile)).1 ∧
      (tycheck 1 nestedAddressFile).2 = .ok () ∧
      (tycheck 1 nestedAddressFile).1 ≠ (tycheck 1 (resolve nestedAddressFile)).1 := by
  refine ⟨rfl, ?_, rfl, ?_⟩
  · rw [show (tycheck 1 stopsEarlyFile).1 = stopsEarlyFile from rfl,
      show (tycheck 1 (resolve stopsEarlyFile)).1 = resolve stopsEarlyFile from rfl]
    simp [stopsEarlyFile, stopsEarlyFn, resolve, resolveMembers, resolveMember, resolveItems,
      resolveExpr, backfill, gatherTypes, gatherType, TypeState.lookupTy]
  · rw [show (tycheck 1 nestedAddressFile).1 = nestedAddressFile from rfl,
      show (tycheck 1 (resolve nestedAddressFile)).1 = resolve nestedAddressFile from rfl]
    simp [nestedAddressFile, addressOfFFn, emptyBodyFn, resolve, resolveMembers, resolveMember,
      resolveItems, resolveExpr, backfill, gatherTypes, gatherType, TypeState.lookupTy]

end Lccc.Xir
