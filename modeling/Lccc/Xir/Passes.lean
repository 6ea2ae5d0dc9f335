import Lccc.Xir.ControlFlow

/-!
# Lccc.Xir.Passes

**The two passes of `tycheck`.** Pass one (`gatherTypes`) records the types of the root scope's
functions and statics and its aggregate definitions without looking inside them; pass two
(`checkMembers`) runs `tycheck_function` over the root scope's functions with a body and gives
up on the first static.

* Pass two looks only at the members of the root scope: a function inside a nested scope is
  accepted whatever its body (`nested_rejected_function_accepted`).
* Names bound in neither table: `refiy_type` returns an unbound `Named(p)` as it is, and a
  `GlobalAddress` of an unbound item keeps its `Null` type, so nothing in either pass rejects a
  file for mentioning such a name (`unbound_names_accepted`).
* Names that lead back to themselves: unifying a type with itself can reify forever, and the run
  ends out of fuel whatever the fuel (`self_referential_table_runs_out_of_fuel`).
-/

namespace Lccc.Xir

open Lccc.Xlang

/-! ### Pass two -/

/-- The outcome of pass two on a root member followed by others. -/
theorem checkMembers_function_snd {fuel : Nat} {ts : TypeState} (p : Path) (d : FunctionDeclaration)
    (ms : List (Path × MemberDeclaration)) :
    (checkMembers fuel ts ((p, .function d) :: ms)).2 =
      if d.body.isSome then (tycheckFunction fuel ts d).2 >>= fun _ => (checkMembers fuel ts ms).2
      else (checkMembers fuel ts ms).2 := by
  simp only [checkMembers]
  split
  · split <;> simp_all [bind, Except.bind]
  · rfl

theorem tycheck_fst (fuel : Nat) (F : File) :
    (tycheck fuel F).1 =
      { root :=
        { members := (checkMembers fuel (gatherTypes F.root.members) F.root.members).1 } } :=
  rfl

theorem tycheck_snd (fuel : Nat) (F : File) :
    (tycheck fuel F).2 = (checkMembers fuel (gatherTypes F.root.members) F.root.members).2 :=
  rfl

/-- A function whose body pops from the empty stack. -/
def popEmptyFn : FunctionDeclaration where
  ty := { ret := .void, params := [] }
  body := some { locals := [], block := [.expr (.pop 1)] }

/-- A file whose root scope holds only a nested scope `s`, which holds `popEmptyFn` as `s::g`. -/
def nestedScopeFile : File :=
  { root := { members := [(⟨[.text "s"]⟩,
      .scope [(⟨[.text "s", .text "g"]⟩, .function popEmptyFn)])] } }

theorem nested_rejected_function_accepted :
    (tycheck 1 nestedScopeFile).2 = .ok () ∧
      (tycheckFunction 1 (gatherTypes nestedScopeFile.root.members) popEmptyFn).2 =
        .error (.panic "called Option::unwrap on a None value") :=
  ⟨rfl, rfl⟩

/-! ### Names bound in neither table -/

/-- The path `Foo`, bound nowhere below. -/
def fooPath : Path := ⟨[.text "Foo"]⟩

/-- The path `g`, bound nowhere below. -/
def gPath : Path := ⟨[.text "g"]⟩

/-- `fn f(Named(Foo))` whose body takes the address of `g` and pops it. -/
def unboundNamesFn : FunctionDeclaration where
  ty := { ret := .void, params := [.named fooPath] }
  body := some { locals := [], block :=
    [.expr (.const (.globalAddress .null gPath)), .expr (.pop 1)] }

/-- A file whose root scope holds only `unboundNamesFn`, as `f`. -/
def unboundNamesFile : File := { root := { members := [(⟨[.text "f"]⟩, .function unboundNamesFn)] } }

theorem unbound_names_accepted :
    (gatherTypes unboundNamesFile.root.members).lookupTy fooPath = none ∧
      (gatherTypes unboundNamesFile.root.members).lookupAggregate fooPath = none ∧
      (gatherTypes unboundNamesFile.root.members).lookupTy gPath = none ∧
      (gatherTypes unboundNamesFile.root.members).lookupAggregate gPath = none ∧
      (tycheck 1 unboundNamesFile).2 = .ok () :=
  ⟨rfl, rfl, rfl, rfl, rfl⟩

/-! ### Names that lead back to themselves -/

/-- The path `f`, bound below to a function type that mentions it. -/
def selfPath : Path := ⟨[.text "f"]⟩

/-- `*Named(f)`. -/
def selfPointerTy : Ty := .pointer { inner := .named selfPath }

/-- `fn f(p: *Named(f))`, whose body assigns its parameter to itself:
`Local 0; Local 0; AsRValue; Assign`. -/
def selfPointerFn : FunctionDeclaration where
  ty := { ret := .void, params := [selfPointerTy] }
  body := some { locals := [], block :=
    [.expr (.local 0), .expr (.local 0), .expr .asRValue, .expr .assign] }

/-- A file whose root scope holds only `selfPointerFn`, as `f`. -/
def selfPointerFile : File := { root := { members := [(selfPath, .function selfPointerFn)] } }

/-- Unifying `*Named(f)` with itself reifies `Named(f)` to `f`'s function type, whose parameter
is `*Named(f)` again: two levels of fuel are spent per round and none is ever returned. -/
theorem checkUnify_selfPointer_outOfFuel : ∀ n,
    checkUnify n (gatherTypes selfPointerFile.root.members) selfPointerTy selfPointerTy =
      .error .outOfFuel
  | 0 => rfl
  | 1 => rfl
  | n + 2 => by
    calc checkUnify (n + 2) (gatherTypes selfPointerFile.root.members) selfPointerTy selfPointerTy
        = ((checkUnify n (gatherTypes selfPointerFile.root.members) selfPointerTy selfPointerTy >>=
              fun _ => (pure PUnit.unit : Except Failure PUnit)) >>=
            fun _ => checkUnify n (gatherTypes selfPointerFile.root.members) .void .void) := rfl
      _ = .error .outOfFuel := by rw [checkUnify_selfPointer_outOfFuel n]; rfl

theorem self_referential_table_runs_out_of_fuel (n : Nat) :
    (tycheck n selfPointerFile).2 = .error .outOfFuel := by
  have h := checkUnify_selfPointer_outOfFuel n
  rw [tycheck_snd]
  generalize gatherTypes selfPointerFile.root.members = ts at h ⊢
  show (checkMembers n ts [(selfPath, .function selfPointerFn)]).2 = _
  rw [checkMembers_function_snd]
  simp [selfPointerFn, tycheckFunction, tycheckBlock, withBlock, collectTargets, collectTarget,
    tycheckItems, tycheckExpr, stackOp, Stack.pop, Except.map, Except.bind, ensure, h]

end Lccc.Xir
