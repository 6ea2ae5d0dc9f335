import Lccc.Xir.Validate
import Mathlib.Data.List.Zip

/-!
# Lccc.Xir.Unify

**What `check_unify` decides.**

`check_unify` reifies both sides once and compares them by constructor, recursing into the
components. `UnifyStep R` says what one call requires of the two reified types when `R` decides
the components; `checkUnify_succ_eq_ok` says that a call with fuel `n + 1` succeeds exactly when
`UnifyStep` holds with `R` the calls at fuel `n`. Every law below is read off that lemma by
induction on the fuel.

* Symmetry holds at every fuel: the comparisons are symmetric, and swapping the sides of a zip
  swaps its pairs.
* Reflexivity fails for `Void`: no arm compares `Void` with `Void`, so `Void`, `*Void` and
  `fn() -> Void` do not unify with themselves.
* Products and aggregate fields are zipped without a length check, although the `FnType` arm
  compares its parameter counts before zipping, and arrays compare only their lengths, never
  their element types (`product_array_unify_unequal`). A successful call says nothing about the
  part of the longer side past the shorter one or about array elements, and the same gap makes
  unification intransitive.
* `refiy_type` strips one layer only: a doubly wrapped type unifies with nothing but `Null`.
-/

namespace Lccc.Xir

open Lccc.Xlang

/-! ### One call -/

/-- What one call of `check_unify` requires of the two reified types, `R` deciding the
recursive calls on components. The clauses follow the arms of the source in order. -/
def UnifyStep (R : Ty → Ty → Prop) : Ty → Ty → Prop
  | .null, _ => True
  | _, .null => True
  | .scalar s1, .scalar s2 =>
    s1.header.bitsize = s2.header.bitsize ∧ s1.header.vectorsize = s2.header.vectorsize ∧
      unifyScalarKind s1.kind s2.kind = .ok ()
  | .fnType f1, .fnType f2 =>
    f1.tag = f2.tag ∧ f1.variadic = f2.variadic ∧ f1.params.length = f2.params.length ∧
      (∀ p ∈ f1.params.zip f2.params, R p.1 p.2) ∧ R f1.ret f2.ret
  | .pointer p1, .pointer p2 => R p1.inner p2.inner
  | .product tys1, .product tys2 => ∀ p ∈ tys1.zip tys2, R p.1 p.2
  | .aggregate d1, .aggregate d2 =>
    d1.kind = d2.kind ∧ d1.annotations = d2.annotations ∧
      ∀ p ∈ d1.fields.zip d2.fields, R p.1.2 p.2.2 ∧ p.1.1 = p.2.1
  | .array a1, .array a2 =>
    match a1.len, a2.len with
    | .integer s1 v1, .integer s2 v2 => R (.scalar s1) (.scalar s2) ∧ v1 = v2
    | _, _ => False
  | .named n1, .named n2 => n1 = n2
  | _, _ => False

/-- A call with fuel `n + 1` succeeds exactly when the reified sides pass `UnifyStep`, the
components being decided by calls with fuel `n`. -/
theorem checkUnify_succ_eq_ok (n : Nat) (ts : TypeState) (a b : Ty) :
    checkUnify (n + 1) ts a b = .ok () ↔
      UnifyStep (fun x y => checkUnify n ts x y = .ok ()) (ts.refiyType a) (ts.refiyType b) := by
  rw [checkUnify]
  generalize ts.refiyType a = A
  generalize ts.refiyType b = B
  cases A <;> cases B
  case scalar.scalar | fnType.fnType | pointer.pointer | product.product | aggregate.aggregate
    | named.named =>
    simp only [UnifyStep, bind_eq_ok, ensure_eq_ok, forM_eq_ok, Prod.forall, exists_and_right,
      exists_eq_ok_unit, exists_const]
  case array.array a1 a2 =>
    rcases a1 with ⟨_, _ | _⟩ <;> rcases a2 with ⟨_, _ | _⟩ <;>
      simp only [UnifyStep, bind_eq_ok, ensure_eq_ok, exists_and_right, exists_eq_ok_unit,
        reduceCtorEq]
  all_goals simp only [UnifyStep, reduceCtorEq, iff_true, false_iff]

/-! ### Symmetry -/

theorem unifyScalarKind_comm (k1 k2 : ScalarTypeKind) :
    unifyScalarKind k1 k2 = .ok () ↔ unifyScalarKind k2 k1 = .ok () := by
  cases k1 <;> cases k2 <;> first | exact Iff.rfl | simp [unifyScalarKind, eq_comm]

/-- Swapping the lists of a zip swaps its pairs. -/
theorem forall_mem_zip_comm {α β : Type} {P : α → β → Prop} (l1 : List α) (l2 : List β) :
    (∀ p ∈ l1.zip l2, P p.1 p.2) ↔ ∀ p ∈ l2.zip l1, P p.2 p.1 := by
  rw [← List.zip_swap l2 l1]
  simp only [List.forall_mem_map, Prod.fst_swap, Prod.snd_swap]

/-- One call's requirements, read with the sides swapped. -/
theorem UnifyStep.swap {R : Ty → Ty → Prop} {a b : Ty} (h : UnifyStep R a b) :
    UnifyStep (fun x y => R y x) b a := by
  cases a <;> cases b
  all_goals first | exact h.elim | exact trivial | exact h | skip
  case scalar.scalar =>
    exact ⟨h.1.symm, h.2.1.symm, (unifyScalarKind_comm _ _).1 h.2.2⟩
  case fnType.fnType =>
    exact ⟨h.1.symm, h.2.1.symm, h.2.2.1.symm, (forall_mem_zip_comm _ _).1 h.2.2.2.1, h.2.2.2.2⟩
  case product.product => exact (forall_mem_zip_comm _ _).1 h
  case aggregate.aggregate =>
    refine ⟨h.1.symm, h.2.1.symm, fun p hp => ?_⟩
    have hf := (forall_mem_zip_comm (P := fun x y => R x.2 y.2 ∧ x.1 = y.1) _ _).1 h.2.2 p hp
    exact ⟨hf.1, hf.2.symm⟩
  case array.array a1 a2 =>
    rcases a1 with ⟨_, _ | _⟩ <;> rcases a2 with ⟨_, _ | _⟩
    all_goals first | exact h.elim | exact ⟨h.1, h.2.symm⟩
  case named.named => exact h.symm

/-- `check_unify` is symmetric at every fuel: `check_unify(A, B)` succeeds exactly when
`check_unify(B, A)` does, whatever the types and the tables. -/
theorem checkUnify_comm : ∀ (n : Nat) (ts : TypeState) (a b : Ty),
    checkUnify n ts a b = .ok () ↔ checkUnify n ts b a = .ok ()
  | 0, _, _, _ => Iff.rfl
  | n + 1, ts, a, b => by
    have hR : (fun x y => checkUnify n ts y x = .ok ()) = fun x y => checkUnify n ts x y = .ok () :=
      funext fun x => funext fun y => propext (checkUnify_comm n ts y x)
    rw [checkUnify_succ_eq_ok, checkUnify_succ_eq_ok]
    exact ⟨fun h => hR ▸ h.swap, fun h => hR ▸ h.swap⟩

/-! ### Unchecked lengths and element types -/

/-- Scalars of different bit sizes unify at no fuel. -/
theorem checkUnify_scalar_ne_ok_of_bitsize {s1 s2 : ScalarType}
    (h : s1.header.bitsize ≠ s2.header.bitsize) :
    ∀ (n : Nat) (ts : TypeState), checkUnify n ts (.scalar s1) (.scalar s2) ≠ .ok ()
  | 0, _ => nofun
  | n + 1, ts => fun hu => h ((checkUnify_succ_eq_ok n ts _ _).1 hu).1

/-- The zips and the array arm in action: `(i32)` unifies with `(i32, u8)`, and arrays of four
`i32` and of four `u8` unify, although `i32` and `u8` unify at no fuel. -/
theorem product_array_unify_unequal :
    checkUnify 2 {} (.product [i32Ty]) (.product [i32Ty, u8Ty]) = .ok () ∧
    checkUnify 2 {}
      (.array { ty := i32Ty, len := .integer { header := { bitsize := 64 }, kind := .integer false none none } 4 })
      (.array { ty := u8Ty, len := .integer { header := { bitsize := 64 }, kind := .integer false none none } 4 })
      = .ok () ∧
    ∀ n, checkUnify n {} i32Ty u8Ty ≠ .ok () :=
  ⟨rfl, rfl, fun n => checkUnify_scalar_ne_ok_of_bitsize (by decide) n {}⟩

/-! ### Reflexivity fails at `Void` -/

/-- `Void` unifies only with what reifies to `Null`: no arm of `check_unify` has `Void` on
either side. -/
theorem checkUnify_void_right (n : Nat) (ts : TypeState) (t : Ty) :
    checkUnify (n + 1) ts t .void = .ok () ↔ ts.refiyType t = .null := by
  rw [checkUnify_succ_eq_ok]
  cases ts.refiyType t
  case null => exact ⟨fun _ => rfl, fun _ => trivial⟩
  all_goals exact ⟨False.elim, nofun⟩

theorem checkUnify_void_void_ne_ok : ∀ (n : Nat) (ts : TypeState),
    checkUnify n ts .void .void ≠ .ok ()
  | 0, _ => nofun
  | n + 1, ts => fun h => nomatch (checkUnify_void_right n ts .void).1 h

/-- Reflexivity fails wherever `Void` sits: `Void`, every pointer to `Void` and every function
type returning `Void` fail to unify with themselves, at every fuel and over every table. -/
theorem checkUnify_void_not_refl (n : Nat) (ts : TypeState) :
    checkUnify n ts .void .void ≠ .ok () ∧
    (∀ p : PointerType,
      checkUnify n ts (.pointer { p with inner := .void }) (.pointer { p with inner := .void })
        ≠ .ok ()) ∧
    ∀ f : FnType,
      checkUnify n ts (.fnType { f with ret := .void }) (.fnType { f with ret := .void }) ≠ .ok () := by
  refine ⟨checkUnify_void_void_ne_ok n ts, fun p => ?_, fun f => ?_⟩ <;> cases n
  case zero | zero => exact nofun
  case succ n => exact fun h => checkUnify_void_void_ne_ok n ts ((checkUnify_succ_eq_ok n ts _ _).1 h)
  case succ n =>
    exact fun h => checkUnify_void_void_ne_ok n ts ((checkUnify_succ_eq_ok n ts _ _).1 h).2.2.2.2

/-! ### Transitivity fails -/

/-- Unification is not transitive: `(i32)` unifies with `()` and `()` with `(u8)` at every
positive fuel, while `(i32)` and `(u8)` unify at none. -/
theorem checkUnify_not_trans :
    (∀ n, checkUnify (n + 1) {} (.product [i32Ty]) (.product []) = .ok ()) ∧
    (∀ n, checkUnify (n + 1) {} (.product []) (.product [u8Ty]) = .ok ()) ∧
    ∀ n, checkUnify n {} (.product [i32Ty]) (.product [u8Ty]) ≠ .ok () := by
  refine ⟨fun n => (checkUnify_succ_eq_ok n {} _ _).2 nofun,
    fun n => (checkUnify_succ_eq_ok n {} _ _).2 nofun, fun n => ?_⟩
  cases n with
  | zero => exact nofun
  | succ n =>
    exact fun h => checkUnify_scalar_ne_ok_of_bitsize (by decide) n {}
      ((checkUnify_succ_eq_ok n {} _ _).1 h (i32Ty, u8Ty) (List.mem_singleton_self _))

/-! ### Wrappers and aliases -/

/-- The resolution the specification calls `full`: strip `TaggedType`/`Aligned` wrappers and
replace a `Named` path bound in the global type table by its definition, repeatedly, at most
`fuel` times. The source has no such function; `refiyType` is one layer of it. -/
def fullyRefiyType : Nat → TypeState → Ty → Ty
  | 0, _, ty => ty
  | fuel + 1, ts, ty =>
    match ty with
    | .named p =>
      match ts.lookupTy p with
      | some t => fullyRefiyType fuel ts t
      | none => .named p
    | .taggedType _ ty | .aligned _ ty => fullyRefiyType fuel ts ty
    | ty => ty

/-- A type under two wrappers unifies only with what reifies to `Null`: one reification leaves the
inner wrapper, which no arm of `check_unify` compares. -/
theorem checkUnify_taggedType_taggedType {n : Nat} {ts : TypeState} {x y : Nat} {t u : Ty}
    (h : checkUnify n ts (.taggedType x (.taggedType y t)) u = .ok ()) : ts.refiyType u = .null := by
  cases n with
  | zero => nomatch h
  | succ m => ?_
  have hs := (checkUnify_succ_eq_ok m ts _ u).1 h
  generalize ts.refiyType u = B at hs
  cases B
  case null => rfl
  all_goals exact hs.elim

/-- Wrappers are not transparent: `full` takes `TaggedType(0, TaggedType(0, i32))` and `i32` to
`i32`, which unifies with itself, but the wrapped type unifies with `i32` at no fuel. -/
theorem doubly_tagged_not_transparent :
    fullyRefiyType 2 {} (.taggedType 0 (.taggedType 0 i32Ty)) = i32Ty ∧
    fullyRefiyType 2 {} i32Ty = i32Ty ∧
    checkUnify 1 {} i32Ty i32Ty = .ok () ∧
    ∀ n, checkUnify n {} (.taggedType 0 (.taggedType 0 i32Ty)) i32Ty ≠ .ok () :=
  ⟨rfl, rfl, rfl, fun _ h => nomatch checkUnify_taggedType_taggedType h⟩

end Lccc.Xir
