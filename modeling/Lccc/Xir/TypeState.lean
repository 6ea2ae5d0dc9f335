import Lccc.Xlang.Struct
import Lccc.Except

/-!
# Lccc.Xir.TypeState

**Type resolution and unification** of `xir/src/validate.rs`: the global tables (`TypeState`),
`refiy_type`, `get_field_type`, `check_unify` and `check_unify_stack`.

Every failure of the source (`panic!`, a failed `assert!`/`assert_eq!`, `unwrap` of `None`, an
out-of-range index, `todo!()`) is an `Except Failure` error. `check_unify` and `get_field_type`
recurse through the global type table, which need not be acyclic, so they take a `fuel`
argument; running out of it is the distinguished failure `Failure.outOfFuel`, which stands for
the source recursing forever. Every other function of the validator is structural and passes
the fuel on unchanged.
-/

namespace Lccc.Xir

open Lccc.Xlang

/-- How a run of the validator stops short of accepting. -/
inductive Failure where
  /-- `panic!`, a failed `assert!`/`assert_eq!`, an `unwrap` of `None`, an index out of range. -/
  | panic (msg : String)
  /-- `todo!()`: a construct the validator does not implement. -/
  | todo (what : String)
  /-- `check_unify` or `get_field_type` did not return within the fuel. -/
  | outOfFuel
  deriving Repr, DecidableEq

/-- `assert!(c)` and `assert_eq!`: continue if `c` holds, panic with `msg` otherwise. -/
def ensure (c : Prop) [Decidable c] (msg : String) : Except Failure Unit :=
  if c then .ok () else .error (.panic msg)

/-- `Option::unwrap`. -/
def unwrap {α : Type} : Option α → Except Failure α
  | some a => .ok a
  | none => .error (.panic "called Option::unwrap on a None value")

@[simp] theorem ensure_eq_ok {c : Prop} [Decidable c] {msg : String} {u : Unit} :
    ensure c msg = .ok u ↔ c := by
  unfold ensure; split <;> simp [*]

@[simp] theorem unwrap_eq_ok {α : Type} {o : Option α} {a : α} : unwrap o = .ok a ↔ o = some a := by
  cases o <;> simp [unwrap]

/-! ### The global tables -/

/-- `TypeState`: `tys`, the global type table (types of functions and statics), and `aggregate`,
the aggregate-definition table (`none` for an opaque aggregate). Each `HashMap` is the list of
its insertions, latest first, so that `lookup` sees the last value inserted for a key. -/
structure TypeState where
  tys : List (Path × Ty) := []
  aggregate : List (Path × Option AggregateDefinition) := []

namespace TypeState

/-- `tys.get(p)`. -/
def lookupTy (ts : TypeState) (p : Path) : Option Ty := ts.tys.lookup p

/-- `aggregate.get(p)`. -/
def lookupAggregate (ts : TypeState) (p : Path) : Option (Option AggregateDefinition) :=
  ts.aggregate.lookup p

/-- `refiy_type`: one step of resolution. A `Named` path bound in the global type table becomes
its definition (an unbound one is returned as it is), and a `TaggedType`/`Aligned` wrapper is
stripped; only one layer is removed. -/
def refiyType (ts : TypeState) : Ty → Ty
  | .named p => (ts.lookupTy p).getD (.named p)
  | .taggedType _ ty => ty
  | .aligned _ ty => ty
  | ty => ty

@[simp] theorem refiyType_named (ts : TypeState) (p : Path) :
    ts.refiyType (.named p) = (ts.lookupTy p).getD (.named p) := rfl

@[simp] theorem refiyType_taggedType (ts : TypeState) (a : Nat) (t : Ty) :
    ts.refiyType (.taggedType a t) = t := rfl

@[simp] theorem refiyType_aligned (ts : TypeState) (a : Nat) (t : Ty) :
    ts.refiyType (.aligned a t) = t := rfl

end TypeState

/-! ### `get_field_type` -/

/-- `str::parse::<usize>`: an optional `+` followed by one or more decimal digits, below `2^64`. -/
def parseUsize (s : String) : Option Nat :=
  let ds := match s.toList with
    | '+' :: rest => rest
    | cs => cs
  if ds ≠ [] ∧ ds.all Char.isDigit then
    let v := ds.foldl (fun acc c => acc * 10 + (c.toNat - '0'.toNat)) 0
    if v < 2 ^ 64 then some v else none
  else none

/-- The type of the first field named `name`, as `.filter(..).map(..).next().unwrap()` finds it. -/
def fieldNamed (fields : List (String × Ty)) (name : String) : Except Failure Ty :=
  unwrap ((fields.find? (·.1 = name)).map (·.2))

/-- `TypeState::get_field_type`: the type of field `name` of `ty`, looking through wrappers and
through `Named` paths (the aggregate table first, then the global type table); `none` for a type
without fields. -/
def getFieldType : Nat → TypeState → Ty → String → Except Failure (Option Ty)
  | 0, _, _, _ => .error .outOfFuel
  | fuel + 1, ts, ty, name =>
    match ty with
    | .taggedType _ ty => getFieldType fuel ts ty name
    | .aligned _ ty => getFieldType fuel ts ty name
    | .product tys =>
      match parseUsize name with
      | none => .error (.panic "called Result::unwrap on an Err value")
      | some v =>
        match tys[v]? with
        | some t => .ok (some t)
        | none => .error (.panic "index out of bounds")
    | .aggregate d => some <$> fieldNamed d.fields name
    | .named p =>
      match ts.lookupAggregate p with
      | none =>
        match ts.lookupTy p with
        | some t => getFieldType fuel ts t name
        | none => .error (.panic "key not found")
      | some ag => do
        let ag ← unwrap ag
        some <$> fieldNamed ag.fields name
    | _ => .ok none

/-! ### `check_unify` -/

/-- The `ScalarTypeKind` comparison of `check_unify`: integers must agree on signedness (their
bounds are ignored), fixed-point types on fractional bits, characters on flags, floats on the
decimal flag; long floats always agree; every other pair (also `Empty` with itself) is fatal. -/
def unifyScalarKind : ScalarTypeKind → ScalarTypeKind → Except Failure Unit
  | .integer s1 _ _, .integer s2 _ _ => ensure (s1 = s2) "cannot unify types"
  | .fixed f1, .fixed f2 => ensure (f1 = f2) "cannot unify types"
  | .char f1, .char f2 => ensure (f1 = f2) "cannot unify types"
  | .float d1, .float d2 => ensure (d1 = d2) "cannot unify types"
  | .longFloat, .longFloat => .ok ()
  | _, _ => .error (.panic "cannot unify types")

/-- `check_unify`: both sides are reified once, then compared by constructor. `Null` unifies with
anything; scalars compare sizes and kinds; function types compare tag, variadic flag and
parameter count and then unify parameters and returns; pointers unify pointees only; products
unify the pairs of the zip of their components (no length check); aggregates compare kind and
annotations and unify the zip of their fields, requiring equal names; arrays compare only their
`Integer` lengths; `Named` paths must be equal; anything else (also `Void` with `Void`) is fatal. -/
def checkUnify : Nat → TypeState → Ty → Ty → Except Failure Unit
  | 0, _, _, _ => .error .outOfFuel
  | fuel + 1, ts, ty1, ty2 =>
    match ts.refiyType ty1, ts.refiyType ty2 with
    | .null, _ => .ok ()
    | _, .null => .ok ()
    | .scalar s1, .scalar s2 => do
      ensure (s1.header.bitsize = s2.header.bitsize) "cannot unify types"
      ensure (s1.header.vectorsize = s2.header.vectorsize) "cannot unify types"
      unifyScalarKind s1.kind s2.kind
    | .fnType f1, .fnType f2 => do
      ensure (f1.tag = f2.tag) "cannot unify types"
      ensure (f1.variadic = f2.variadic) "cannot unify types"
      ensure (f1.params.length = f2.params.length) "cannot unify types"
      (f1.params.zip f2.params).forM fun p => checkUnify fuel ts p.1 p.2
      checkUnify fuel ts f1.ret f2.ret
    | .pointer p1, .pointer p2 => checkUnify fuel ts p1.inner p2.inner
    | .product tys1, .product tys2 => (tys1.zip tys2).forM fun p => checkUnify fuel ts p.1 p.2
    | .aggregate d1, .aggregate d2 => do
      ensure (d1.kind = d2.kind) "cannot unify types"
      ensure (d1.annotations = d2.annotations) "cannot unify types"
      (d1.fields.zip d2.fields).forM fun p => do
        checkUnify fuel ts p.1.2 p.2.2
        ensure (p.1.1 = p.2.1) "cannot unify types"
    | .array a1, .array a2 =>
      match a1.len, a2.len with
      | .integer s1 v1, .integer s2 v2 => do
        checkUnify fuel ts (.scalar s1) (.scalar s2)
        ensure (v1 = v2) "Cannot unify types"
      | _, _ => .error (.panic "Cannot unify types")
    | .named n1, .named n2 => ensure (n1 = n2) "Cannot unify types"
    | _, _ => .error (.panic "Cannot unify types")

/-- `check_unify_stack`: the top `target.length` items of `stack` (the subtraction panics on a
shorter stack) are compared in order with `target`, kinds by equality and types by
`check_unify`. -/
def checkUnifyStack (fuel : Nat) (ts : TypeState) (stack target : List StackItem) :
    Except Failure Unit :=
  if target.length ≤ stack.length then
    ((stack.drop (stack.length - target.length)).zip target).forM fun p => do
      ensure (p.1.kind = p.2.kind) "Could not unify stack items"
      checkUnify fuel ts p.1.ty p.2.ty
  else .error (.panic "attempt to subtract with overflow")

end Lccc.Xir
