import Mathlib.Logic.Basic

/-!
# Lccc.Xlang.Struct

**The typed IR data model** (`xlang_struct`) as the validator `xir/src/validate.rs` reads it.

The `xlang_struct` crate among the sources is an older revision than the one the validator is
written against: it lacks `Type::{Null, Product, Aggregate, Array, Named, TaggedType, Aligned}`,
most `Expr` opcodes, `FunctionBody`, `StaticDefinition` and the scope-based `File`. Those
declarations are reconstructed here from the way `validate.rs` matches on them and from the
spec's data model (section 3); every other constructor and field is the one `lib.rs` declares.

Design points:

* Records that hold types (`PointerType`, `FnType`, `AggregateDefinition`, `ArrayType`) are
  parameterised by the type of their components (`PointerTypeOf τ`, ...) so that they nest
  inside `Ty`; the names the source uses are the instances at `Ty`.
* The operand stack and every `Vec` are `List`s in the `Vec`'s own order: the top of the stack is
  the *last* element.
* Payloads that the validator never reads (access classes, conversion strengths, byte-string
  contents, scope annotations and visibilities) are left out.
-/

namespace Lccc.Xlang

/-! ### Paths -/

/-- A component of a global path. -/
inductive PathComponent where
  | root
  | text (s : String)
  | specialComponent (s : String)
  deriving Repr, DecidableEq, Inhabited

/-- A global symbol; equality is structural (`derive(PartialEq)`). -/
structure Path where
  components : List PathComponent
  deriving Repr, DecidableEq, Inhabited

/-! ### Annotations

Only compared for equality (`check_unify` on aggregates), so `DecidableEq` is all they need. -/

/-- `AnnotationItem`: `Meta(Box<Annotation>)` or `Identifier(Path)`, with `Annotation` the list of
items it carries. -/
inductive AnnotationItem where
  | meta (items : List AnnotationItem)
  | identifier (p : Path)
  deriving Repr, Inhabited

mutual
/-- Structural equality of annotation items, written out because `deriving DecidableEq` does not
handle the nesting through `List`. -/
def AnnotationItem.beq : AnnotationItem → AnnotationItem → Bool
  | .meta xs, .meta ys => AnnotationItem.beqList xs ys
  | .identifier p, .identifier q => p = q
  | _, _ => false
/-- Structural equality of annotation item lists. -/
def AnnotationItem.beqList : List AnnotationItem → List AnnotationItem → Bool
  | [], [] => true
  | x :: xs, y :: ys => AnnotationItem.beq x y && AnnotationItem.beqList xs ys
  | _, _ => false
end

mutual
theorem AnnotationItem.eq_of_beq : ∀ {a b : AnnotationItem}, a.beq b = true → a = b
  | .meta _, b, h => by
    cases b with
    | meta _ => exact congrArg AnnotationItem.meta (AnnotationItem.eq_of_beqList h)
    | _ => nomatch h
  | .identifier _, b, h => by
    cases b with
    | identifier _ => exact congrArg AnnotationItem.identifier (of_decide_eq_true h)
    | _ => nomatch h
theorem AnnotationItem.eq_of_beqList : ∀ {xs ys : List AnnotationItem},
    AnnotationItem.beqList xs ys = true → xs = ys
  | [], [], _ => rfl
  | _ :: _, _ :: _, h => by
    obtain ⟨hd, tl⟩ := Bool.and_eq_true_iff.mp h
    rw [AnnotationItem.eq_of_beq hd, AnnotationItem.eq_of_beqList tl]
  | [], _ :: _, h | _ :: _, [], h => nomatch h
end

mutual
theorem AnnotationItem.beq_self : ∀ a : AnnotationItem, a.beq a = true
  | .meta xs => AnnotationItem.beqList_self xs
  | .identifier _ => decide_eq_true rfl
theorem AnnotationItem.beqList_self : ∀ xs : List AnnotationItem,
    AnnotationItem.beqList xs xs = true
  | [] => rfl
  | x :: xs => Bool.and_eq_true_iff.mpr ⟨AnnotationItem.beq_self x, AnnotationItem.beqList_self xs⟩
end

instance : DecidableEq AnnotationItem := fun a b =>
  decidable_of_iff (a.beq b = true) ⟨AnnotationItem.eq_of_beq, fun h => h ▸ a.beq_self⟩

/-- `Annotation { items }`. -/
structure Annotation where
  items : List AnnotationItem
  deriving Repr, DecidableEq, Inhabited

/-! ### Scalar types -/

/-- `ScalarTypeHeader`: bit width, vector width and the `ScalarValidity` flags (a `u8`). -/
structure ScalarTypeHeader where
  bitsize : Nat := 0
  vectorsize : Nat := 0
  validity : Nat := 0
  deriving Repr, DecidableEq, Inhabited

/-- `ScalarTypeKind`. `Char` and `LongFloat` are the validator's additions to `lib.rs`. -/
inductive ScalarTypeKind where
  | empty
  | integer (signed : Bool) (min max : Option Int)
  | float (decimal : Bool)
  | fixed (fractbits : Nat)
  | char (flags : Nat)
  | longFloat
  deriving Repr, DecidableEq, Inhabited

/-- `ScalarType`. -/
structure ScalarType where
  header : ScalarTypeHeader := {}
  kind : ScalarTypeKind := .empty
  deriving Repr, DecidableEq, Inhabited

/-- `Abi`, the calling-convention tag of a function type. -/
inductive Abi where
  | c | cdecl | fastcall | stdcall | vectorcall | thiscall | sysV
  deriving Repr, DecidableEq, Inhabited

/-- `AggregateKind`. -/
inductive AggregateKind where
  | struct | union
  deriving Repr, DecidableEq, Inhabited

/-- An array length: `Value::Integer { ty, val }`, the only length `check_unify` accepts, or any
other value (whose contents nothing in the validator reads). -/
inductive ArrayLen where
  | integer (ty : ScalarType) (val : Nat)
  | other
  deriving Repr, DecidableEq, Inhabited

/-! ### Types -/

/-- `PointerType` over component type `τ`: `alias` is a `PointerAliasingRule`, `validRange` a
`Pair<ValidRangeType, u64>` and `decl` a `PointerDeclarationType`, each a `u8`-backed tag; the
defaults are those of `..Default::default()`. -/
structure PointerTypeOf (τ : Type) where
  «alias» : Nat := 0
  validRange : Nat × Nat := (0, 0)
  decl : Nat := 0
  inner : τ
  deriving Repr

/-- `FnType` over component type `τ`. -/
structure FnTypeOf (τ : Type) where
  ret : τ
  params : List τ
  tag : Abi := .c
  variadic : Bool := false
  deriving Repr

/-- `AggregateDefinition` over component type `τ`. -/
structure AggregateDefinitionOf (τ : Type) where
  annotations : List Annotation := []
  kind : AggregateKind := .struct
  fields : List (String × τ)
  deriving Repr

/-- `ArrayType` over component type `τ`. -/
structure ArrayTypeOf (τ : Type) where
  ty : τ
  len : ArrayLen
  deriving Repr

/-- `Type`. `Null` is the wildcard placeholder, `Named` a reference through the global type
table, `TaggedType`/`Aligned` transparent wrappers (their tag and alignment are never read). -/
inductive Ty where
  | null
  | scalar (s : ScalarType)
  | void
  | fnType (f : FnTypeOf Ty)
  | pointer (p : PointerTypeOf Ty)
  | product (tys : List Ty)
  | aggregate (d : AggregateDefinitionOf Ty)
  | array (a : ArrayTypeOf Ty)
  | named (p : Path)
  | taggedType (tag : Nat) (ty : Ty)
  | aligned (align : Nat) (ty : Ty)
  deriving Inhabited

abbrev PointerType := PointerTypeOf Ty
abbrev FnType := FnTypeOf Ty
abbrev AggregateDefinition := AggregateDefinitionOf Ty
abbrev ArrayType := ArrayTypeOf Ty

/-- `StackValueKind`. -/
inductive StackValueKind where
  | lvalue | rvalue
  deriving Repr, DecidableEq, Inhabited

/-- `StackItem`: one entry of the simulated operand stack. -/
structure StackItem where
  ty : Ty
  kind : StackValueKind
  deriving Inhabited

/-! ### Values and instructions -/

/-- `Value`, the constant operand of `Expr::Const`. -/
inductive Value where
  | invalid (ty : Ty)
  | uninitialized (ty : Ty)
  | genericParameter (n : Nat)
  | integer (ty : ScalarType) (val : Nat)
  | globalAddress (ty : Ty) (item : Path)
  | byteString
  | string (ty : Ty)
  | labelAddress (n : Nat)
  deriving Inhabited

/-- `BinaryOp`. -/
inductive BinaryOp where
  | add | sub | mul | div | mod | bitAnd | bitOr | bitXor | rsh | lsh
  | cmpInt | cmpLt | cmpLe | cmpGt | cmpGe | cmpNe | cmpEq | cmp
  deriving Repr, DecidableEq, Inhabited

/-- `UnaryOp`. -/
inductive UnaryOp where
  | minus | bitNot | logicNot
  deriving Repr, DecidableEq, Inhabited

/-- `OverflowBehaviour`. -/
inductive OverflowBehaviour where
  | wrap | trap | checked | unchecked | saturate
  deriving Repr, DecidableEq, Inhabited

/-- `LValueOp`. -/
inductive LValueOp where
  | xchg | cmpxchg | wcmpxchg | preInc | postInc | preDec | postDec
  deriving Repr, DecidableEq, Inhabited

/-- `BranchCondition`: `Always` and `Never` pop no condition, every other condition pops one. -/
inductive BranchCondition where
  | always | less | lessEqual | equal | notEqual | greater | greaterEqual | never
  deriving Repr, DecidableEq, Inhabited

/-- `Switch`: hash dispatch over `(case value, target label)` pairs, or linear dispatch (whose
contents the validator never reads). -/
inductive Switch where
  | hash (cases : List (Value × Nat))
  | linear
  deriving Inhabited

/-- `AggregateCtor { ty, fields }`. -/
structure AggregateCtor where
  ty : Ty
  fields : List String
  deriving Inhabited

mutual
/-- `Expr`, the stack-machine instruction. -/
inductive Expr where
  | null
  | const (v : Value)
  | exitBlock (blk : Nat) (values : Nat)
  | binaryOp (op : BinaryOp) (v : OverflowBehaviour)
  | unaryOp (op : UnaryOp) (v : OverflowBehaviour)
  | tailcall (f : FnType)
  | callFunction (f : FnType)
  | branch (cond : BranchCondition) (target : Nat)
  | branchIndirect
  | convert (ty : Ty)
  | derive (pty : PointerType) (e : Expr)
  | «local» (n : Nat)
  | pop (n : Nat)
  | dup (n : Nat)
  | pivot (n m : Nat)
  | aggregate (ctor : AggregateCtor)
  | member (name : String)
  | memberIndirect (name : String)
  | block (n : Nat) (items : List BlockItem)
  | assign
  | asRValue
  | compoundAssign (op : BinaryOp) (v : OverflowBehaviour)
  | lValueOp (op : LValueOp) (v : OverflowBehaviour)
  | indirect
  | addrOf
  | sequence
  | fence
  | switch (s : Switch)
/-- `BlockItem`: an instruction, or a `Target` label declaring the stack its join point needs. -/
inductive BlockItem where
  | expr (e : Expr)
  | target (num : Nat) (stack : List StackItem)
end

instance : Inhabited Expr := ⟨.null⟩

/-! ### Declarations and files -/

/-- `FunctionBody`: declared locals (after the parameters) and the root block's items. -/
structure FunctionBody where
  locals : List Ty
  block : List BlockItem

/-- `FunctionDeclaration`: a signature and, unless it is only declared, a body. -/
structure FunctionDeclaration where
  ty : FnType
  body : Option FunctionBody

/-- `StaticDefinition`; only its type is read. -/
structure StaticDefinition where
  ty : Ty

/-- `MemberDeclaration`; a nested `Scope` is the list of its `(path, member)` entries, in the
iteration order of its `HashMap`. -/
inductive MemberDeclaration where
  | empty
  | scope (members : List (Path × MemberDeclaration))
  | function (decl : FunctionDeclaration)
  | static (s : StaticDefinition)
  | aggregateDefinition (d : AggregateDefinition)
  | opaqueAggregate (kind : AggregateKind)

/-- `Scope`: its members in the iteration order of `members : HashMap<Path, ScopeMember>`. -/
structure Scope where
  members : List (Path × MemberDeclaration)

/-- `File`: the target descriptor (not read by the validator) and the root scope. -/
structure File where
  root : Scope

end Lccc.Xlang
