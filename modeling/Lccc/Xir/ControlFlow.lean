import Lccc.Xir.Run

/-!
# Lccc.Xir.ControlFlow

**What `tycheck_block` guarantees about labels, block exits and dead code.**

* Transfers into labels: every transfer the validator records is checked as `Event.Checked`
  says. A branch, a fall-through and the first case of a hash switch are compared with the
  label's own declared stack, but a later case of a switch only with the first case's declared
  stack. `check_unify` accepts `Null` against anything and is not transitive, so a later case can
  reach a label whose declared stack its live stack does not fit.
* Block exits: the exit slot of every open block evolves by `SlotStep` over the exits recorded
  to it (`ExitsStep` is a `RunInvariant`). Hence a block's result is the stack its first exit
  popped, empty when no exit fired, and every later exit popped a stack of that shape.
* The `diverged` flag: no arm of `tycheck_expr` sets it, so a `Target` placed after an
  unconditional branch is checked against the stack of the dead code before it, and what that
  dead code pushes decides acceptance (`dead_const_changes_acceptance`).
-/

namespace Lccc.Xir

open Lccc.Xlang

/-! ### Transfers into labels -/

/-- Control reaches the label with a live stack that fits the label's own declared stack. -/
def Event.FitsLabel (fuel : Nat) (ts : TypeState) : Event → Prop
  | .jump _ live declared _ => StackFits fuel ts live declared
  | .exit .. => True

instance (fuel : Nat) (ts : TypeState) : (ev : Event) → Decidable (ev.FitsLabel fuel ts)
  | .jump _ live declared _ => inferInstanceAs (Decidable (StackFits fuel ts live declared))
  | .exit .. => isTrue trivial

/-- Every event recorded so far is checked. -/
def TraceChecked (fuel : Nat) (ts : TypeState) (st : Checker) : Prop :=
  ∀ ev ∈ st.trace, ev.Checked fuel ts

theorem traceChecked_append {fuel : Nat} {ts : TypeState} {st : Checker} {tr evs : List Event}
    (htr : st.trace = tr ++ evs) (h : ∀ ev ∈ tr, ev.Checked fuel ts)
    (hevs : ∀ ev ∈ evs, ev.Checked fuel ts) : TraceChecked fuel ts st := by
  rw [TraceChecked, htr, List.forall_mem_append]
  exact ⟨h, hevs⟩

/-- Keeping the trace checked is a run invariant: every step records checked events only. -/
theorem traceChecked_runInvariant (fuel : Nat) (ts : TypeState) :
    RunInvariant fuel ts fun st st' => TraceChecked fuel ts st → TraceChecked fuel ts st' where
  refl _ h := h
  trans h1 h2 h := h2 (h1 h)
  stack _ _ h := h
  exitBlock he h := by
    obtain ⟨stack, -, -, -, htr, -⟩ := tycheckExitBlock_inv he
    exact traceChecked_append htr h (by simp [Event.Checked])
  branch hb h := by
    obtain ⟨s, tstack, -, hfit, rfl⟩ := tycheckBranch_inv hb
    exact traceChecked_append rfl h (by simpa [Event.Checked] using hfit)
  switch hs h := by
    obtain ⟨rest, evs, rfl, hevs⟩ := tycheckSwitch_inv hs
    exact traceChecked_append rfl h fun ev hev => (hevs ev hev).2
  target hfit h := traceChecked_append rfl h (by simpa [Event.Checked] using hfit)
  block _ h1 _ h := h1 h

/-- Every transfer into a label recorded while `tycheck_function` accepts a function, in any
block of its body, was checked: a branch, a fall-through and the first case of a hash switch
against the label's declared stack, a later case of a switch against the first case's. -/
theorem tycheckFunction_transfers_checked {fuel : Nat} {ts : TypeState}
    {decl : FunctionDeclaration} {tr : List Event}
    (h : (tycheckFunction fuel ts decl).2 = .ok tr) : ∀ ev ∈ tr, ev.Checked fuel ts := by
  rcases tycheckFunction_ok_inv h with ⟨-, rfl⟩ | ⟨body, ret, st, -, hb, -, rfl⟩
  · simp
  · exact (traceChecked_runInvariant fuel ts).run_block hb [] (by simp [TraceChecked])

/-- The `i32` scalar of the concrete blocks below. -/
def i32Scalar : ScalarType := { header := { bitsize := 32 }, kind := .integer true none none }

/-- `Const 0; Const 0; Switch Hash [(1, @0), (2, @1)]; @0 [Null]; @1 [*void]; Pop 1`, a `Void`
function: the switch leaves `[i32]` for both cases. -/
def laterCaseFn : FunctionDeclaration where
  ty := { ret := .void, params := [] }
  body := some
    { locals := []
      block := [.expr (.const (.integer i32Scalar 0)), .expr (.const (.integer i32Scalar 0)),
        .expr (.switch (.hash [(.integer i32Scalar 1, 0), (.integer i32Scalar 2, 1)])),
        .target 0 [⟨.null, .rvalue⟩], .target 1 [⟨.pointer { inner := .void }, .rvalue⟩],
        .expr (.pop 1)] }

/-- A file whose root scope holds `laterCaseFn` under the path `f`. -/
def laterCaseFile : File := { root := { members := [(⟨[.text "f"]⟩, .function laterCaseFn)] } }

/-- The transfers of `laterCaseFn`: the two switch cases, then the two fall-throughs. -/
def laterCaseTrace : List Event :=
  [.jump 0 [⟨.scalar i32Scalar, .rvalue⟩] [⟨.null, .rvalue⟩] none,
    .jump 1 [⟨.scalar i32Scalar, .rvalue⟩] [⟨.pointer { inner := .void }, .rvalue⟩]
      (some [⟨.null, .rvalue⟩]),
    .jump 0 [⟨.scalar i32Scalar, .rvalue⟩] [⟨.null, .rvalue⟩] none,
    .jump 1 [⟨.null, .rvalue⟩] [⟨.pointer { inner := .void }, .rvalue⟩] none]

theorem later_switch_case_unfit_label :
    (tycheck 2 laterCaseFile).2 = .ok () ∧
      ∃ tr, (tycheckFunction 2 (gatherTypes laterCaseFile.root.members) laterCaseFn).2 = .ok tr ∧
        ∃ ev ∈ tr, ¬ ev.FitsLabel 2 (gatherTypes laterCaseFile.root.members) :=
  ⟨rfl, laterCaseTrace, rfl, .jump 1 [⟨.scalar i32Scalar, .rvalue⟩]
    [⟨.pointer { inner := .void }, .rvalue⟩] (some [⟨.null, .rvalue⟩]), by simp [laterCaseTrace],
    by decide⟩

theorem laterCaseFn_transfers_checked :
    (tycheckFunction 2 (gatherTypes laterCaseFile.root.members) laterCaseFn).2 =
        .ok laterCaseTrace ∧
      ∀ ev ∈ laterCaseTrace, ev.Checked 2 (gatherTypes laterCaseFile.root.members) :=
  ⟨rfl, @tycheckFunction_transfers_checked 2 _ laterCaseFn _ rfl⟩

/-! ### Block exits -/

/-- The stacks popped, in replay order, by the exits in `evs` to the block at depth `d`. -/
def exitsTo (d : Nat) : List Event → List (List StackItem)
  | [] => []
  | .exit _ blk popped :: evs => if blk = d then popped :: exitsTo d evs else exitsTo d evs
  | .jump .. :: evs => exitsTo d evs

@[simp] theorem exitsTo_append (d : Nat) (evs evs' : List Event) :
    exitsTo d (evs ++ evs') = exitsTo d evs ++ exitsTo d evs' := by
  induction evs with
  | nil => rfl
  | cons ev evs ih =>
    rcases ev with _ | ⟨_, blk, _⟩
    · simp [exitsTo, ih]
    · by_cases h : blk = d <;> simp [exitsTo, h, ih]

theorem exitsTo_of_jumps {d : Nat} {evs : List Event} (h : ∀ ev ∈ evs, ev.IsJump) :
    exitsTo d evs = [] := by
  induction evs with
  | nil => rfl
  | cons ev evs ih =>
    simp only [List.mem_cons, forall_eq_or_imp] at h
    rcases ev with _ | _
    · exact ih h.2
    · exact h.1.elim

/-- The exit was issued from inside the block it leaves: its target is at most its depth. -/
def Event.ExitWithin : Event → Prop
  | .exit depth blk _ => blk ≤ depth
  | .jump .. => True

section Exits

variable (fuel : Nat) (ts : TypeState)

/-- What the exits to one block, in replay order, make of its slot: an empty slot takes the first
popped stack, and every later popped stack (every one, for a filled slot) has the shape of the
slot's stack. -/
def SlotStep : Option (List StackItem) → List (List StackItem) → Option (List StackItem) → Prop
  | none, [], s' => s' = none
  | none, x :: xs, s' => s' = some x ∧ ∀ y ∈ xs, SameShape fuel ts y x
  | some r, xs, s' => s' = some r ∧ ∀ y ∈ xs, SameShape fuel ts y r

/-- The block's result `R` is the stack its first exit popped, every later exit popped a stack
of its shape, and `R` is empty when no exit fired. -/
def ExitsAgree (R : List StackItem) : List (List StackItem) → Prop
  | [] => R = []
  | first :: later => R = first ∧ ∀ r ∈ later, SameShape fuel ts r first

/-- What a stretch of a run does to the blocks open at its start: their number is kept, the trace
only grows, every exit recorded on the way targets a block enclosing it, and each slot evolves by
`SlotStep` over the exits to its block. -/
def ExitsStep (st st' : Checker) : Prop :=
  st'.blockExits.length = st.blockExits.length ∧
    ∃ evs, st'.trace = st.trace ++ evs ∧ (∀ ev ∈ evs, ev.ExitWithin) ∧
      ∀ i < st.blockExits.length,
        SlotStep fuel ts (st.blockExits.getD i none) (exitsTo i evs) (st'.blockExits.getD i none)

end Exits

variable {fuel : Nat} {ts : TypeState}

theorem SlotStep.nil (s : Option (List StackItem)) : SlotStep fuel ts s [] s := by
  cases s <;> simp [SlotStep]

theorem SlotStep.append {a b c : Option (List StackItem)} {xs ys : List (List StackItem)}
    (h1 : SlotStep fuel ts a xs b) (h2 : SlotStep fuel ts b ys c) :
    SlotStep fuel ts a (xs ++ ys) c := by
  rcases a with _ | r
  · rcases xs with _ | ⟨x, xs⟩
    · simp only [SlotStep] at h1; subst h1; exact h2
    · obtain ⟨rfl, hxs⟩ := h1
      obtain ⟨rfl, hys⟩ := h2
      exact ⟨rfl, fun y hy => (List.mem_append.1 hy).elim (hxs y) (hys y)⟩
  · obtain ⟨rfl, hxs⟩ := h1
    obtain ⟨rfl, hys⟩ := h2
    exact ⟨rfl, fun y hy => (List.mem_append.1 hy).elim (hxs y) (hys y)⟩

/-- A slot that starts empty ends holding the block's result as `ExitsAgree` says. -/
theorem SlotStep.exitsAgree {xs : List (List StackItem)} {s : Option (List StackItem)}
    (h : SlotStep fuel ts none xs s) : ExitsAgree fuel ts (s.getD []) xs := by
  rcases xs with _ | ⟨x, xs⟩
  · simp only [SlotStep] at h; subst h; rfl
  · obtain ⟨rfl, hxs⟩ := h
    exact ⟨rfl, hxs⟩

/-- A step that leaves the slots alone and records transfers only. -/
theorem ExitsStep.of_jumps {st st' : Checker} {evs : List Event}
    (hb : st'.blockExits = st.blockExits) (htr : st'.trace = st.trace ++ evs)
    (hevs : ∀ ev ∈ evs, ev.IsJump) : ExitsStep fuel ts st st' := by
  refine ⟨by rw [hb], evs, htr, fun ev hev => ?_, fun i _ => ?_⟩
  · have := hevs ev hev
    rcases ev with _ | _
    · trivial
    · exact this.elim
  · rw [exitsTo_of_jumps hevs, hb]; exact SlotStep.nil _

/-- `ExitBlock` records one exit to a block enclosing it and updates that block's slot. -/
theorem ExitsStep.exitBlock {blk values : Nat} {st st' : Checker}
    (he : tycheckExitBlock fuel ts blk values st = .ok st') : ExitsStep fuel ts st st' := by
  obtain ⟨stack, -, -, hblk, htr, hslot⟩ := tycheckExitBlock_inv he
  have hlen : st'.blockExits.length = st.blockExits.length := by
    rcases hslot with ⟨-, hb⟩ | ⟨-, -, -, hb⟩ <;> simp [hb]
  refine ⟨hlen, _, htr, by simp [Event.ExitWithin]; omega, fun i hi => ?_⟩
  by_cases hi' : blk = i
  · subst hi'
    rcases hslot with ⟨hd, hb⟩ | ⟨items, hd, hshape, hb⟩
    · rw [hd, hb]
      simp [SlotStep, exitsTo, List.getD_eq_getElem?_getD, List.getElem?_set, hblk]
    · rw [hd, hb, hd]
      exact ⟨rfl, by simpa [exitsTo] using hshape⟩
  · have hget : st'.blockExits.getD i none = st.blockExits.getD i none := by
      rcases hslot with ⟨-, hb⟩ | ⟨-, -, -, hb⟩ <;>
        simp [hb, List.getD_eq_getElem?_getD, List.getElem?_set, hi']
    simp only [htr, exitsTo, hi', if_false, hget]
    exact SlotStep.nil _

/-- Entering a block and leaving it again keeps the slots of the blocks open outside it. -/
theorem ExitsStep.block {st st1 : Checker} {exit : Option (List StackItem)} (s : List StackItem)
    (h : ExitsStep fuel ts { st with blockExits := st.blockExits ++ [none], vstack := [] } st1)
    (_ : st1.blockExits.getLast? = some exit) :
    ExitsStep fuel ts st { st1 with blockExits := st1.blockExits.dropLast, vstack := s } := by
  obtain ⟨hlen, evs, htr, hwithin, hslots⟩ := h
  simp only [List.length_append, List.length_singleton] at hlen hslots
  refine ⟨by simp [hlen], evs, htr, hwithin, fun i hi => ?_⟩
  have hin : (st.blockExits ++ [none]).getD i none = st.blockExits.getD i none := by
    simp only [List.getD_eq_getElem?_getD, List.getElem?_append_left hi]
  have hout : st1.blockExits.dropLast.getD i none = st1.blockExits.getD i none := by
    simp only [List.getD_eq_getElem?_getD, List.getElem?_dropLast,
      if_pos (show i < st1.blockExits.length - 1 by omega)]
  simpa only [hin, hout] using hslots i (by omega)

/-- `ExitsStep` holds across every successful run. -/
theorem exitsStep_runInvariant (fuel : Nat) (ts : TypeState) :
    RunInvariant fuel ts (ExitsStep fuel ts) where
  refl st := ExitsStep.of_jumps rfl (List.append_nil _).symm (by simp)
  trans := by
    rintro a b c ⟨hl1, evs1, htr1, hw1, hs1⟩ ⟨hl2, evs2, htr2, hw2, hs2⟩
    refine ⟨hl2.trans hl1, evs1 ++ evs2, by rw [htr2, htr1, List.append_assoc],
      fun ev hev => (List.mem_append.1 hev).elim (hw1 ev) (hw2 ev), fun i hi => ?_⟩
    rw [exitsTo_append]
    exact (hs1 i hi).append (hs2 i (hl1 ▸ hi))
  stack st s := ExitsStep.of_jumps rfl (List.append_nil _).symm (by simp)
  exitBlock he := ExitsStep.exitBlock he
  branch hb := by
    obtain ⟨s, tstack, -, -, rfl⟩ := tycheckBranch_inv hb
    exact ExitsStep.of_jumps rfl rfl (by simp [Event.IsJump])
  switch hs := by
    obtain ⟨rest, evs, rfl, hevs⟩ := tycheckSwitch_inv hs
    exact ExitsStep.of_jumps rfl rfl fun ev hev => (hevs ev hev).1
  target _ := ExitsStep.of_jumps rfl rfl (by simp [Event.IsJump])
  block s h hl := ExitsStep.block s h hl

/-- For every block accepted by `tycheck_block` at any depth `d` (the number of blocks open
around it): every exit recorded while validating it targets a block enclosing the exit, the
block's result is the stack popped by its first exit (empty when none fired) and every later
exit to it popped a stack of that shape; and `Expr::Block` at that state pushes exactly that
result. -/
theorem block_result_is_first_exit {locals : List Ty} {items : List BlockItem} {st st' : Checker}
    {R : List StackItem} (h : (tycheckBlock fuel ts locals items st).2 = .ok (R, st')) :
    (∃ evs, st'.trace = st.trace ++ evs ∧ (∀ ev ∈ evs, ev.ExitWithin) ∧
        ExitsAgree fuel ts R (exitsTo st.blockExits.length evs)) ∧
      ∀ targets, (tycheckExpr fuel ts locals targets (.block st.blockExits.length items) st).2 =
        .ok ({ st' with vstack := st.vstack ++ R }, false) := by
  refine ⟨?_, fun targets => ?_⟩
  · obtain ⟨targets, st1, exit, -, hr, hl, rfl, rfl⟩ := withBlock_inv h
    obtain ⟨hlen, evs, htr, hwithin, hslots⟩ := (exitsStep_runInvariant fuel ts).run.2 _ _ _ _ _ hr
    simp only [List.length_append, List.length_singleton] at hlen hslots
    have hslot := hslots st.blockExits.length (by omega)
    have hexit : st1.blockExits.getD st.blockExits.length none = exit := by
      rw [List.getD_eq_getElem?_getD, show st.blockExits.length = st1.blockExits.length - 1 by
        omega, ← List.getLast?_eq_getElem?, hl]; rfl
    rw [List.getD_eq_getElem?_getD, List.getElem?_append_right le_rfl, Nat.sub_self, hexit] at hslot
    exact ⟨evs, htr, hwithin, SlotStep.exitsAgree hslot⟩
  · simp only [tycheckExpr, if_true]
    rw [show withBlock items (fun targets st => tycheckItems fuel ts locals targets items false st)
      st = tycheckBlock fuel ts locals items st from rfl, h]
    rfl

/-- `Const 0; Block 1 [Const 1; ExitBlock 0 1]; Const 2; ExitBlock 0 1` as a root block: the
first exit to the root is issued from the nested block, the second from the root itself. -/
def twoExitsBlock : List BlockItem :=
  [.expr (.const (.integer i32Scalar 0)),
    .expr (.block 1 [.expr (.const (.integer i32Scalar 1)), .expr (.exitBlock 0 1)]),
    .expr (.const (.integer i32Scalar 2)), .expr (.exitBlock 0 1)]

theorem twoExitsBlock_result_is_first_exit :
    (tycheckBlock 2 {} [] twoExitsBlock {}).2 =
        .ok ([⟨.scalar i32Scalar, .rvalue⟩],
          { vstack := [⟨.scalar i32Scalar, .rvalue⟩]
            trace := [.exit 1 0 [⟨.scalar i32Scalar, .rvalue⟩],
              .exit 0 0 [⟨.scalar i32Scalar, .rvalue⟩]] }) ∧
      (∃ evs, [.exit 1 0 [⟨.scalar i32Scalar, .rvalue⟩], .exit 0 0 [⟨.scalar i32Scalar, .rvalue⟩]]
          = [] ++ evs ∧ (∀ ev ∈ evs, ev.ExitWithin) ∧
          ExitsAgree 2 {} [⟨.scalar i32Scalar, .rvalue⟩] (exitsTo 0 evs)) ∧
        ∀ targets, (tycheckExpr 2 {} [] targets (.block 0 twoExitsBlock) {}).2 =
          .ok ({ vstack := [⟨.scalar i32Scalar, .rvalue⟩]
                 trace := [.exit 1 0 [⟨.scalar i32Scalar, .rvalue⟩],
                   .exit 0 0 [⟨.scalar i32Scalar, .rvalue⟩]] }, false) :=
  ⟨rfl, @block_result_is_first_exit 2 {} [] twoExitsBlock {} _ _ rfl⟩

/-! ### The `diverged` flag -/

/-- The `u8` scalar. -/
def u8Scalar : ScalarType := { header := { bitsize := 8 }, kind := .integer false none none }

/-- `Const 0; Branch Always @0; dead; @0 [i32]`: the items `dead` cannot be reached. -/
def deadCodeBlock (dead : List BlockItem) : List BlockItem :=
  [.expr (.const (.integer i32Scalar 0)), .expr (.branch .always 0)] ++ dead ++
    [.target 0 [⟨.scalar i32Scalar, .rvalue⟩]]

theorem dead_const_changes_acceptance :
    (tycheckBlock 2 {} [] (deadCodeBlock []) {}).2.toBool = true ∧
      (tycheckBlock 2 {} [] (deadCodeBlock [.expr (.const (.integer u8Scalar 0))]) {}).2 =
        .error (.panic "cannot unify types") :=
  ⟨rfl, rfl⟩

end Lccc.Xir
