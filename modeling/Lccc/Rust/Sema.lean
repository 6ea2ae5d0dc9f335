import Lccc.Except

/-!
# Lccc.Rust.Sema

**The semantic pass of the Rust front end** (`rust/src/sema.rs`): the semantic types, the
conversion `convert` from parsed items to a `Program`, and the type checker `typeck_program`.

The parser's types (`crate::parse`) are not among the sources; `parse.Type`, `parse.Expr`,
`parse.BlockItem`, `parse.Item` and `FnParam` are reconstructed from the patterns `convert`
matches on, with only the fields it reads. `Safety`, `Mutability` and `Visibility` are
re-exported from the parser; `Safety` has the two values `sema.rs` names, the other two are only
copied and compared, so one value each beyond the first is enough to tell them apart.

Every `panic!`, failed `assert!` and `todo!()` is an `Except Failure` error; the values a panic
message formats are left out of the message. The warning `println!` of a nested unsafe block has
no effect on the result and is left out.

`Safety::Unsafe` keeps its Rust capitalisation (and so does `Safety::Safe`): the lower-case word
is a Lean keyword.
-/

namespace Lccc.Rust

/-- How the pass stops short of a result. -/
inductive Failure where
  /-- `panic!`, a failed `assert!`, an `unreachable!`. -/
  | panic (msg : String)
  /-- `todo!()`: a construct the pass does not implement. -/
  | todo (what : String)
  deriving Repr, DecidableEq

/-- `assert!(c)`: continue if `c` holds, panic with `msg` otherwise. -/
def ensure (c : Prop) [Decidable c] (msg : String) : Except Failure Unit :=
  if c then .ok () else .error (.panic msg)

@[simp] theorem ensure_eq_ok {c : Prop} [Decidable c] {msg : String} {u : Unit} :
    ensure c msg = .ok u ↔ c := by
  unfold ensure; split <;> simp [*]

/-! ### Semantic types -/

/-- `Identifier`. -/
inductive Identifier where
  | basic (s : String)
  deriving Repr, DecidableEq

/-- `FloatType`. -/
inductive FloatType where
  | f32 | f64
  deriving Repr, DecidableEq

/-- `IntType`. -/
inductive IntType where
  | i8 | i16 | i32 | i64 | i128 | iptr | isize | u8 | u16 | u32 | u64 | u128 | uptr | usize
  deriving Repr, DecidableEq

/-- `Safety` (from the parser). -/
inductive Safety where
  | Safe | Unsafe
  deriving Repr, DecidableEq

/-- `Mutability` (from the parser). -/
inductive Mutability where
  | const | mut
  deriving Repr, DecidableEq

/-- `Visibility` (from the parser). -/
inductive Visibility where
  | none | pub
  deriving Repr, DecidableEq

/-- `Abi`. -/
inductive Abi where
  | c | cUnwind | fastcall | fastcallUnwind | rust | rustCall | rustcallV0 | rustIntrinsic
  | stdcall | stdcallUnwind
  deriving Repr, DecidableEq

/-- `Mangling`. -/
inductive Mangling where
  | c | rust
  deriving Repr, DecidableEq

/-- `FunctionSignature`, parameterised by the type of its parameter and return types so that it
nests inside `Ty`. -/
structure FunctionSignatureOf (τ : Type) where
  abi : Abi
  mangling : Mangling
  params : List τ
  returnTy : τ
  safety : Safety
  visibility : Visibility

/-- The semantic `Type` (a Lean keyword, hence `Ty`). -/
inductive Ty where
  | boolean
  | char
  | float (f : FloatType)
  | function (sig : FunctionSignatureOf Ty)
  | integer (i : IntType)
  | pointer (mutability : Mutability) (underlying : Ty)
  | str
  | tuple (tys : List Ty)

/-- `FunctionSignature`. -/
abbrev FunctionSignature := FunctionSignatureOf Ty

/-- The unit type `()`, `Type::Tuple(Vec::new())`. -/
def Ty.unit : Ty := .tuple []

mutual
/-- The derived `PartialEq` of `Type`, written out because the type is nested. -/
def Ty.beq : Ty → Ty → Bool
  | .boolean, .boolean | .char, .char | .str, .str => true
  | .float a, .float b => a == b
  | .function ⟨a1, m1, ps1, r1, s1, v1⟩, .function ⟨a2, m2, ps2, r2, s2, v2⟩ =>
    a1 == a2 && m1 == m2 && Ty.beqList ps1 ps2 && Ty.beq r1 r2 && s1 == s2 && v1 == v2
  | .integer a, .integer b => a == b
  | .pointer m1 u1, .pointer m2 u2 => m1 == m2 && Ty.beq u1 u2
  | .tuple as, .tuple bs => Ty.beqList as bs
  | _, _ => false
/-- `Ty.beq` on lists, element by element. -/
def Ty.beqList : List Ty → List Ty → Bool
  | [], [] => true
  | a :: as, b :: bs => Ty.beq a b && Ty.beqList as bs
  | _, _ => false
end

mutual
theorem Ty.eq_of_beq : ∀ {a b : Ty}, Ty.beq a b = true → a = b
  | .boolean, b, h | .char, b, h | .str, b, h => by cases b <;> first | rfl | nomatch h
  | .float _, b, h => by
    cases b with
    | float _ => exact congrArg Ty.float (beq_iff_eq.mp h)
    | _ => nomatch h
  | .integer _, b, h => by
    cases b with
    | integer _ => exact congrArg Ty.integer (beq_iff_eq.mp h)
    | _ => nomatch h
  | .function ⟨a1, m1, ps1, r1, s1, v1⟩, b, h => by
    cases b with
    | function sig =>
      obtain ⟨a2, m2, ps2, r2, s2, v2⟩ := sig
      have h : (a1 == a2 && m1 == m2 && Ty.beqList ps1 ps2 && Ty.beq r1 r2 && s1 == s2 &&
        v1 == v2) = true := h
      simp only [Bool.and_eq_true, beq_iff_eq] at h
      obtain ⟨⟨⟨⟨⟨rfl, rfl⟩, hps⟩, hr⟩, rfl⟩, rfl⟩ := h
      rw [Ty.eq_of_beqList hps, Ty.eq_of_beq hr]
    | _ => nomatch h
  | .pointer _ u1, b, h => by
    cases b with
    | pointer _ u2 =>
      obtain ⟨hm, hu⟩ := Bool.and_eq_true_iff.mp h
      rw [beq_iff_eq.mp hm, Ty.eq_of_beq hu]
    | _ => nomatch h
  | .tuple _, b, h => by
    cases b with
    | tuple _ => exact congrArg Ty.tuple (Ty.eq_of_beqList h)
    | _ => nomatch h
theorem Ty.eq_of_beqList : ∀ {as bs : List Ty}, Ty.beqList as bs = true → as = bs
  | [], [], _ => rfl
  | _ :: _, _ :: _, h => by
    obtain ⟨hd, tl⟩ := Bool.and_eq_true_iff.mp h
    rw [Ty.eq_of_beq hd, Ty.eq_of_beqList tl]
  | [], _ :: _, h | _ :: _, [], h => nomatch h
end

mutual
theorem Ty.beq_self : ∀ a : Ty, Ty.beq a a = true
  | .boolean | .char | .str => rfl
  | .float f => beq_self_eq_true f
  | .integer i => beq_self_eq_true i
  | .function ⟨a, m, ps, r, s, v⟩ => by
    show (a == a && m == m && Ty.beqList ps ps && Ty.beq r r && s == s && v == v) = true
    simp [Ty.beqList_self ps, Ty.beq_self r]
  | .pointer m u => Bool.and_eq_true_iff.mpr ⟨beq_self_eq_true m, Ty.beq_self u⟩
  | .tuple as => Ty.beqList_self as
theorem Ty.beqList_self : ∀ as : List Ty, Ty.beqList as as = true
  | [] => rfl
  | a :: as => Bool.and_eq_true_iff.mpr ⟨Ty.beq_self a, Ty.beqList_self as⟩
end

instance : DecidableEq Ty := fun a b =>
  decidable_of_iff (Ty.beq a b = true) ⟨Ty.eq_of_beq, fun h => h ▸ Ty.beq_self a⟩

/-- `Type::name`: the source name of a primitive type; any other type is `todo!()`. -/
def Ty.name : Ty → Except Failure String
  | .boolean => .ok "bool"
  | .char => .ok "char"
  | .float .f32 => .ok "f32"
  | .float .f64 => .ok "f64"
  | .integer .i8 => .ok "i8"
  | .integer .i16 => .ok "i16"
  | .integer .i32 => .ok "i32"
  | .integer .i64 => .ok "i64"
  | .integer .i128 => .ok "i128"
  | .integer .iptr => .ok "iptr"
  | .integer .isize => .ok "isize"
  | .integer .u8 => .ok "u8"
  | .integer .u16 => .ok "u16"
  | .integer .u32 => .ok "u32"
  | .integer .u64 => .ok "u64"
  | .integer .u128 => .ok "u128"
  | .integer .uptr => .ok "uptr"
  | .integer .usize => .ok "usize"
  | _ => .error (.todo "Type::name")

/-! ### Declarations, expressions and programs -/

/-- `Declaration`: its only variant, `Declaration::Function`. -/
inductive Declaration where
  | function (hasDefinition : Bool) (name : Identifier) (sig : FunctionSignature)

/-- `Declaration::name`. -/
def Declaration.name : Declaration → Identifier
  | .function _ name _ => name

/-- `Declaration::ty`: the function type of the signature. -/
def Declaration.ty : Declaration → Ty
  | .function _ _ sig => .function sig

mutual
/-- `Expression`. A string literal's kind is only copied, never read, and is left out. -/
inductive Expression where
  | cast (expr : Expression) (target : Ty)
  | functionArg (n : Nat)
  | functionCall (func : Expression) (args : List Expression)
  | identifier (id : Identifier)
  | stringLiteral (val : String)
  | unsafeBlock (stmts : List Statement)
/-- `Statement`. -/
inductive Statement where
  | bind (target : String) (value : Expression)
  | discard (e : Expression)
  | expression (e : Expression)
end

/-- `Definition`: its only variant, `Definition::Function`. -/
inductive Definition where
  | function (name : Identifier) (returnTy : Ty) (body : List Statement)

/-- `Program`. -/
structure Program where
  namedTypes : List Ty
  declarations : List Declaration
  definitions : List Definition

/-! ### Parsed items (reconstructed) -/

namespace Parse

/-- `parse::Type`. -/
inductive Ty where
  | name (n : String)
  | pointer (mutability : Mutability) (underlying : Ty)

mutual
/-- `parse::Expr`. -/
inductive Expr where
  | cast (e : Expr) (target : Ty)
  | functionCall (func : Expr) (params : List Expr)
  | id (id : String)
  | parentheses (inner : Expr)
  | stringLiteral (val : String)
  | unsafeBlock (inner : List BlockItem)
/-- `parse::BlockItem`. An item inside a block is `todo!()` for `convert_block`, so its
contents are left out. -/
inductive BlockItem where
  | discard (e : Expr)
  | expr (e : Expr)
  | item
end

/-- `FnParam`; only its type is read. -/
structure FnParam where
  ty : Ty

/-- `parse::Item`. -/
inductive Item where
  | externBlock (abi : Option String) (items : List Item)
  | fnDeclaration (visibility : Visibility) (safety : Safety) (name : String)
      (params : List FnParam) (returnTy : Option Ty) (block : Option (List BlockItem))

end Parse

/-! ### `convert` -/

/-- `convert_ty`: a name is looked up in `named_types` by `Type::name`, which is `todo!()` on
the first type without a source name (`str`) it meets. -/
def convertTy (namedTypes : List Ty) : Parse.Ty → Except Failure Ty
  | .name n => lookup namedTypes n
  | .pointer m u => do .ok (.pointer m (← convertTy namedTypes u))
where
  /-- The loop over `named_types`. -/
  lookup : List Ty → String → Except Failure Ty
    | [], n => .error (.panic s!"Unknown type {n}")
    | ty :: tys, n => do
      if n = (← ty.name) then .ok ty else lookup tys n

mutual
/-- `convert_expr`: parentheses disappear, an unsafe block's items are converted by
`convert_block`. -/
def convertExpr (namedTypes : List Ty) : Parse.Expr → Except Failure Expression
  | .cast e target => do .ok (.cast (← convertExpr namedTypes e) (← convertTy namedTypes target))
  | .functionCall func params => do
    .ok (.functionCall (← convertExpr namedTypes func) (← convertExprs namedTypes params))
  | .id id => .ok (.identifier (.basic id))
  | .parentheses inner => convertExpr namedTypes inner
  | .stringLiteral val => .ok (.stringLiteral val)
  | .unsafeBlock inner => do .ok (.unsafeBlock (← convertBlock namedTypes inner))
/-- The `.map(convert_expr)` over call arguments. -/
def convertExprs (namedTypes : List Ty) : List Parse.Expr → Except Failure (List Expression)
  | [] => .ok []
  | e :: es => do .ok ((← convertExpr namedTypes e) :: (← convertExprs namedTypes es))
/-- `convert_block`. -/
def convertBlock (namedTypes : List Ty) : List Parse.BlockItem → Except Failure (List Statement)
  | [] => .ok []
  | .discard e :: items => do
    .ok (.discard (← convertExpr namedTypes e) :: (← convertBlock namedTypes items))
  | .expr e :: items => do
    .ok (.expression (← convertExpr namedTypes e) :: (← convertBlock namedTypes items))
  | .item :: _ => .error (.todo "items in code blocks are currently unsupported")
end

section IterInScope

variable {σ : Type}
  (func : σ → Visibility → Safety → String → List Parse.FnParam → Option Parse.Ty →
    Option (List Parse.BlockItem) → Option String → Except Failure σ)

mutual
/-- One item of `iter_in_scope`: a function declaration is handed to the closure with the ABI of
the `extern` block around it; an `extern` block is descended into, unless it is nested. -/
def iterInScopeItem : σ → Parse.Item → Option String → Except Failure σ
  | acc, .externBlock newAbi items, abi => do
    ensure abi.isNone "`extern` blocks can't be nested"
    iterInScope acc items (some (newAbi.getD "C"))
  | acc, .fnDeclaration vis safety name params returnTy block, abi =>
    func acc vis safety name params returnTy block abi
/-- `iter_in_scope`, with the closure's effect as a state `σ`: the items in order. -/
def iterInScope : σ → List Parse.Item → Option String → Except Failure σ
  | acc, [], _ => .ok acc
  | acc, item :: items, abi => do
    let acc ← iterInScopeItem acc item abi
    iterInScope acc items abi
end

end IterInScope

/-- The primitive types, listed inline for want of a prelude. -/
def namedTypes : List Ty :=
  [.boolean, .char, .float .f32, .float .f64, .integer .i8, .integer .i16, .integer .i32,
    .integer .i64, .integer .i128, .integer .iptr, .integer .isize, .integer .u8, .integer .u16,
    .integer .u32, .integer .u64, .integer .u128, .integer .uptr, .integer .usize, .str]

/-- A return type, `()` when there is none. -/
def convertReturnTy (ty : Option Parse.Ty) : Except Failure Ty :=
  match ty with
  | none => .ok Ty.unit
  | some ty => convertTy namedTypes ty

/-- Pass 2 of `convert`: the declaration of one function. Inside an `extern` block the ABI is
`C` or `Rust`, the mangling is `Rust` and the function is unsafe; outside, the ABI is `Rust`,
the mangling `C`, and the declared safety is kept. -/
def declareFn (decls : List Declaration) (vis : Visibility) (safety : Safety) (name : String)
    (params : List Parse.FnParam) (returnTy : Option Parse.Ty)
    (block : Option (List Parse.BlockItem)) (abi : Option String) :
    Except Failure (List Declaration) := do
  let abi' ← match abi with
    | none => .ok Abi.rust
    | some "C" => .ok .c
    | some "Rust" => .ok .rust
    | some _ => .error (.todo "abi")
  let params ← params.mapM fun p => convertTy namedTypes p.ty
  let returnTy ← convertReturnTy returnTy
  .ok (decls ++ [.function block.isSome (.basic name)
    { abi := abi', mangling := if abi.isSome then .rust else .c, params, returnTy,
      safety := if abi.isSome then .Unsafe else safety, visibility := vis }])

/-- Pass 3 of `convert`: the definition of one function with a body. Parameters are
`todo!()`; the body of a function declared `unsafe` is wrapped in one unsafe block. -/
def defineFn (defs : List Definition) (_vis : Visibility) (safety : Safety) (name : String)
    (params : List Parse.FnParam) (returnTy : Option Parse.Ty)
    (block : Option (List Parse.BlockItem)) (_abi : Option String) :
    Except Failure (List Definition) :=
  match block with
  | none => .ok defs
  | some block =>
    match params with
    | _ :: _ => .error (.todo "Support functions with parameters")
    | [] => do
      let body ← convertBlock namedTypes block
      let body := if safety = .Unsafe then [.expression (.unsafeBlock body)] else body
      .ok (defs ++ [.function (.basic name) (← convertReturnTy returnTy) body])

/-- `convert`: pass 1 lists the primitive types, pass 2 declares every function, pass 3 defines
every function with a body. -/
def convert (items : List Parse.Item) : Except Failure Program := do
  let declarations ← iterInScope declareFn [] items none
  let definitions ← iterInScope defineFn [] items none
  .ok { namedTypes, declarations, definitions }

/-! ### `typeck_program` -/

/-- The closing check of `typeck_block` and of a statement: the type found is the one
expected, if any. -/
def checkExpected (ty : Option Ty) (found : Ty) : Except Failure Unit :=
  match ty with
  | some ty => ensure (found = ty) "expected type"
  | none => .ok ()

mutual
/-- `typeck_expr`: the type of the expression in the given safety context, with `ty` the type
expected by the caller. A call checks its callee, the callee's safety, the argument count, each
argument against its parameter, and the return type against `ty`; an identifier is the type of
the first declaration of that name; an unsafe block is checked as a block in the unsafe context.
Every other expression is `todo!()`. -/
def typeckExpr (declarations : List Declaration) :
    Expression → Safety → Option Ty → Option Ty → Except Failure Ty
  | .functionCall func args, safety, ty, returnTy => do
    let funcTy ← typeckExpr declarations func safety none returnTy
    match funcTy with
    | .function funcSig => do
      ensure (¬(funcSig.safety = .Unsafe ∧ safety = .Safe)) "unsafe function called in safe context"
      ensure (funcSig.params.length = args.length) "provided args to a function expecting"
      typeckArgs declarations args funcSig.params safety returnTy
      checkExpected ty funcSig.returnTy
      .ok funcSig.returnTy
    | _ => .error (.panic "tried to call a non-function as a function")
  | .identifier id, _, _, _ =>
    match declarations.find? (·.name = id) with
    | some decl => .ok decl.ty
    | none => .error (.panic "could not resolve identifier")
  | .unsafeBlock inner, _, ty, returnTy => do
    let resultTy ← typeckStatements declarations inner .Unsafe ty returnTy
    checkExpected ty resultTy
    .ok resultTy
  | _, _, _, _ => .error (.todo "expression")
/-- The loop over `args.iter_mut().zip(func_sig.params.iter())`: each argument is checked with
its parameter as the expected type, and the type found is dropped. -/
def typeckArgs (declarations : List Declaration) :
    List Expression → List Ty → Safety → Option Ty → Except Failure Unit
  | arg :: args, param :: params, safety, returnTy => do
    let _ ← typeckExpr declarations arg safety (some param) returnTy
    typeckArgs declarations args params safety returnTy
  | _, _, _, _ => .ok ()
/-- `typeck_statement`. -/
def typeckStatement (declarations : List Declaration) :
    Statement → Safety → Option Ty → Option Ty → Except Failure Ty
  | .bind .., _, _, _ => .error (.todo "bind")
  | .discard e, safety, _, returnTy => do
    let _ ← typeckExpr declarations e safety none returnTy
    .ok Ty.unit
  | .expression e, safety, ty, returnTy => do
    let resultTy ← typeckExpr declarations e safety ty returnTy
    checkExpected ty resultTy
    .ok resultTy
/-- The statements of `typeck_block` before its closing check: `()` for an empty block; every
statement but the last is checked against `()` and must be `()`, and the last gives the type. -/
def typeckStatements (declarations : List Declaration) :
    List Statement → Safety → Option Ty → Option Ty → Except Failure Ty
  | [], _, _, _ => .ok Ty.unit
  | [s], safety, ty, returnTy => typeckStatement declarations s safety ty returnTy
  | s :: s' :: ss, safety, ty, returnTy => do
    let result ← typeckStatement declarations s safety (some Ty.unit) returnTy
    ensure (result = Ty.unit) "expected ()"
    typeckStatements declarations (s' :: ss) safety ty returnTy
end

/-- `typeck_block`: the statements, then the check against the expected type. -/
def typeckBlock (declarations : List Declaration) (block : List Statement) (safety : Safety)
    (ty returnTy : Option Ty) : Except Failure Ty := do
  let resultTy ← typeckStatements declarations block safety ty returnTy
  checkExpected ty resultTy
  .ok resultTy

/-- `typeck_definition`: the body is a block of the declared return type, in the safe
context. -/
def typeckDefinition (declarations : List Declaration) : Definition → Except Failure Unit
  | .function _ returnTy body => do
    let _ ← typeckBlock declarations body .Safe (some returnTy) (some returnTy)
    .ok ()

/-- `typeck_program`: every definition in order, until the first failure. -/
def typeckProgram (program : Program) : Except Failure Unit :=
  program.definitions.forM (typeckDefinition program.declarations)

end Lccc.Rust
