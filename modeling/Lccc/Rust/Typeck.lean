import Lccc.Rust.Sema

/-!
# Lccc.Rust.Typeck

**What `typeck_program` guarantees about calls.**

* Calls: `typeckExpr_call_inv` says everything an accepted call was checked for: the callee
  synthesises a function type, an unsafe callee is only called in the unsafe context, the
  argument count is the parameter count, every argument was checked with its parameter as the
  expected type, and the call's type is the return type.
* Unsafe calls: the safety context is `Unsafe` exactly inside an `UnsafeBlock` (a definition is
  checked in the safe context, and only an unsafe block changes it), so `StmtsGuarded` at `Safe`
  says that every call of an unsafe function lies inside an unsafe block. An accepted program
  has this property for every definition.
* Arguments: the expected type reaches a call and an unsafe block, which compare their type with
  it, but `typeck_expr` returns the declared type of an identifier without looking at the
  expected type. A function item passed where an `i32` is expected is accepted.
-/

namespace Lccc.Rust

/-! ### Peeling accepted runs -/

theorem checkExpected_eq_ok {ty : Option Ty} {found : Ty} {u : Unit} :
    checkExpected ty found = .ok u ↔ ∀ t, ty = some t → found = t := by
  cases ty <;> simp [checkExpected]

section Inversion

variable {decls : List Declaration} {safety : Safety} {ty returnTy : Option Ty} {T : Ty}

/-- An accepted call: its callee has a function type, an unsafe callee is not called in the safe
context, there are as many arguments as parameters, the arguments were accepted against the
parameters, and the call has the return type, which is the expected type if there is one. -/
theorem typeckExpr_call_inv {func : Expression} {args : List Expression}
    (h : typeckExpr decls (.functionCall func args) safety ty returnTy = .ok T) :
    ∃ sig : FunctionSignature, typeckExpr decls func safety none returnTy = .ok (.function sig) ∧
      ¬(sig.safety = .Unsafe ∧ safety = .Safe) ∧ sig.params.length = args.length ∧
      typeckArgs decls args sig.params safety returnTy = .ok () ∧
      (∀ t, ty = some t → sig.returnTy = t) ∧ T = sig.returnTy := by
  simp only [typeckExpr] at h
  rcases hf : typeckExpr decls func safety none returnTy with e | funcTy
  · simp [hf] at h
  rw [hf, ok_bind] at h
  cases funcTy with
  | function sig =>
    simp only [bind_eq_ok, ensure_eq_ok, checkExpected_eq_ok, Except.ok.injEq] at h
    obtain ⟨_, hs, _, hl, _, ha, _, hc, rfl⟩ := h
    exact ⟨sig, rfl, hs, hl, ha, hc, rfl⟩
  | _ => cases h

/-- An accepted unsafe block: its statements were accepted in the unsafe context, and their
type is the block's, which is the expected type if there is one. -/
theorem typeckExpr_unsafeBlock_inv {inner : List Statement}
    (h : typeckExpr decls (.unsafeBlock inner) safety ty returnTy = .ok T) :
    typeckStatements decls inner .Unsafe ty returnTy = .ok T ∧ ∀ t, ty = some t → T = t := by
  simp only [typeckExpr, bind_eq_ok, checkExpected_eq_ok, Except.ok.injEq] at h
  obtain ⟨_, hs, _, hc, rfl⟩ := h
  exact ⟨hs, hc⟩

end Inversion

/-! ### Unsafe calls -/

section Guarded

variable (decls : List Declaration) (returnTy : Option Ty)

mutual
/-- Every call in the expression whose callee synthesises a function type with `Unsafe` safety
is made in the unsafe context; an unsafe block's statements are in the unsafe context. -/
def ExprGuarded : Safety → Expression → Prop
  | safety, .functionCall func args =>
    (∀ sig : FunctionSignature, typeckExpr decls func safety none returnTy = .ok (.function sig) →
      sig.safety = .Unsafe → safety = .Unsafe) ∧
      ExprGuarded safety func ∧ ArgsGuarded safety args
  | safety, .cast e _ => ExprGuarded safety e
  | _, .unsafeBlock stmts => StmtsGuarded .Unsafe stmts
  | _, .functionArg _ | _, .identifier _ | _, .stringLiteral _ => True
/-- `ExprGuarded` for every argument. -/
def ArgsGuarded : Safety → List Expression → Prop
  | _, [] => True
  | safety, arg :: args => ExprGuarded safety arg ∧ ArgsGuarded safety args
/-- `ExprGuarded` for the statement's expression. -/
def StmtGuarded : Safety → Statement → Prop
  | safety, .bind _ e | safety, .discard e | safety, .expression e => ExprGuarded safety e
/-- `StmtGuarded` for every statement. -/
def StmtsGuarded : Safety → List Statement → Prop
  | _, [] => True
  | safety, s :: ss => StmtGuarded safety s ∧ StmtsGuarded safety ss
end

end Guarded

section Soundness

variable {decls : List Declaration} {returnTy : Option Ty}

mutual
/-- An expression `typeck_expr` accepts makes its unsafe calls in the unsafe context. -/
theorem typeckExpr_guarded :
    ∀ (e : Expression) {safety : Safety} {ty : Option Ty} {T : Ty},
      typeckExpr decls e safety ty returnTy = .ok T → ExprGuarded decls returnTy safety e
  | .functionCall func args, safety, _, _, h => by
    obtain ⟨sig, hf, hs, hl, ha, -, -⟩ := typeckExpr_call_inv h
    refine ⟨fun sig' hf' hu => ?_, typeckExpr_guarded func hf, typeckArgs_guarded args ha hl.symm⟩
    rw [hf] at hf'
    obtain rfl : sig = sig' := by injection hf' with hf'; injection hf'
    cases safety
    · exact absurd ⟨hu, rfl⟩ hs
    · rfl
  | .unsafeBlock inner, _, _, _, h =>
    typeckStatements_guarded inner (typeckExpr_unsafeBlock_inv h).1
  | .identifier _, _, _, _, _ => trivial
  | .cast _ _, _, _, _, h | .functionArg _, _, _, _, h | .stringLiteral _, _, _, _, h => by
    simp [typeckExpr] at h
/-- Accepted arguments, as many as parameters, make their unsafe calls in the unsafe context. -/
theorem typeckArgs_guarded :
    ∀ (args : List Expression) {params : List Ty} {safety : Safety},
      typeckArgs decls args params safety returnTy = .ok () → args.length = params.length →
        ArgsGuarded decls returnTy safety args
  | [], _, _, _, _ => trivial
  | arg :: args, param :: params, _, h, hl => by
    simp only [typeckArgs, bind_eq_ok] at h
    obtain ⟨_, ha, hs⟩ := h
    exact ⟨typeckExpr_guarded arg ha, typeckArgs_guarded args hs (by simpa using hl)⟩
/-- An accepted statement makes its unsafe calls in the unsafe context. -/
theorem typeckStatement_guarded :
    ∀ (s : Statement) {safety : Safety} {ty : Option Ty} {T : Ty},
      typeckStatement decls s safety ty returnTy = .ok T → StmtGuarded decls returnTy safety s
  | .bind _ _, _, _, _, h => by simp [typeckStatement] at h
  | .discard e, _, _, _, h => by
    simp only [typeckStatement, bind_eq_ok] at h
    obtain ⟨_, he, _⟩ := h
    exact typeckExpr_guarded e he
  | .expression e, _, _, _, h => by
    simp only [typeckStatement, bind_eq_ok] at h
    obtain ⟨_, he, _⟩ := h
    exact typeckExpr_guarded e he
/-- Accepted statements make their unsafe calls in the unsafe context. -/
theorem typeckStatements_guarded :
    ∀ (ss : List Statement) {safety : Safety} {ty : Option Ty} {T : Ty},
      typeckStatements decls ss safety ty returnTy = .ok T → StmtsGuarded decls returnTy safety ss
  | [], _, _, _, _ => trivial
  | [s], _, _, _, h => ⟨typeckStatement_guarded s h, trivial⟩
  | s :: s' :: ss, _, _, _, h => by
    simp only [typeckStatements, bind_eq_ok] at h
    obtain ⟨_, hs, _, _, hrest⟩ := h
    exact ⟨typeckStatement_guarded s hs, typeckStatements_guarded (s' :: ss) hrest⟩
end

end Soundness

/-- If `typeck_program` returns normally, then in every definition every call whose callee
synthesises an unsafe function type lies inside an unsafe block of the body: the body, checked
from the safe context, satisfies `StmtsGuarded`. -/
theorem typeckProgram_unsafe_calls_guarded {p : Program} (h : typeckProgram p = .ok ()) :
    ∀ name returnTy body, Definition.function name returnTy body ∈ p.definitions →
      StmtsGuarded p.declarations (some returnTy) .Safe body := by
  intro name returnTy body hmem
  have hd := forM_eq_ok.1 h _ hmem
  simp only [typeckDefinition, typeckBlock, bind_eq_ok] at hd
  obtain ⟨_, ⟨_, hs, _⟩, _⟩ := hd
  exact typeckStatements_guarded body hs

/-- The signature `convert` gives a function without parameters or return type declared outside
any `extern` block. -/
def plainSig : FunctionSignature :=
  { abi := .rust, mangling := .c, params := [], returnTy := Ty.unit, safety := .Safe,
    visibility := .none }

/-- `extern "C" { fn f(); } unsafe fn h() { f() } fn main() { unsafe { h() } }`. -/
def unsafeFnItems : List Parse.Item :=
  [.externBlock (some "C") [.fnDeclaration .none .Safe "f" [] none none],
    .fnDeclaration .none .Unsafe "h" [] none (some [.expr (.functionCall (.id "f") [])]),
    .fnDeclaration .none .Safe "main" [] none
      (some [.expr (.unsafeBlock [.expr (.functionCall (.id "h") [])])])]

/-- What `convert` makes of `unsafeFnItems`: `h`'s body is wrapped in an unsafe block. -/
def unsafeFnProgram : Program where
  namedTypes := namedTypes
  declarations :=
    [.function false (.basic "f") { plainSig with abi := .c, mangling := .rust, safety := .Unsafe },
      .function true (.basic "h") { plainSig with safety := .Unsafe },
      .function true (.basic "main") plainSig]
  definitions :=
    [.function (.basic "h") Ty.unit
        [.expression (.unsafeBlock [.expression (.functionCall (.identifier (.basic "f")) [])])],
      .function (.basic "main") Ty.unit
        [.expression (.unsafeBlock [.expression (.functionCall (.identifier (.basic "h")) [])])]]

theorem unsafeFnProgram_calls_guarded :
    convert unsafeFnItems = .ok unsafeFnProgram ∧ typeckProgram unsafeFnProgram = .ok () ∧
      ∀ name returnTy body, Definition.function name returnTy body ∈ unsafeFnProgram.definitions →
        StmtsGuarded unsafeFnProgram.declarations (some returnTy) .Safe body :=
  ⟨rfl, rfl, typeckProgram_unsafe_calls_guarded rfl⟩

/-! ### Arguments -/

/-- An identifier has the type of the first declaration of its name, whatever type is expected
of it. -/
theorem typeckExpr_identifier {decls : List Declaration} {id : Identifier} {decl : Declaration}
    (hd : decls.find? (·.name = id) = some decl) (safety : Safety) (ty returnTy : Option Ty) :
    typeckExpr decls (.identifier id) safety ty returnTy = .ok decl.ty := by
  simp [typeckExpr, hd]

/-- `extern "C" { fn f(x: i32); } fn g() {} fn main() { unsafe { f(g) } }`. -/
def fnItemArgItems : List Parse.Item :=
  [.externBlock (some "C") [.fnDeclaration .none .Safe "f" [⟨.name "i32"⟩] none none],
    .fnDeclaration .none .Safe "g" [] none (some []),
    .fnDeclaration .none .Safe "main" [] none
      (some [.expr (.unsafeBlock [.expr (.functionCall (.id "f") [.id "g"])])])]

/-- What `convert` makes of `fnItemArgItems`: `f` takes an `i32`, and `main` calls it with the
function `g`. -/
def fnItemArgProgram : Program where
  namedTypes := namedTypes
  declarations :=
    [.function false (.basic "f")
        { plainSig with abi := .c, mangling := .rust, params := [.integer .i32], safety := .Unsafe },
      .function true (.basic "g") plainSig, .function true (.basic "main") plainSig]
  definitions :=
    [.function (.basic "g") Ty.unit [],
      .function (.basic "main") Ty.unit
        [.expression (.unsafeBlock
          [.expression (.functionCall (.identifier (.basic "f")) [.identifier (.basic "g")])])]]

theorem function_item_argument_accepted :
    convert fnItemArgItems = .ok fnItemArgProgram ∧ typeckProgram fnItemArgProgram = .ok () ∧
      typeckExpr fnItemArgProgram.declarations (.identifier (.basic "g")) .Unsafe
        (some (.integer .i32)) (some Ty.unit) = .ok (.function plainSig) :=
  ⟨rfl, rfl, @typeckExpr_identifier fnItemArgProgram.declarations (.basic "g")
    (.function true (.basic "g") plainSig) rfl _ _ _⟩

end Lccc.Rust
