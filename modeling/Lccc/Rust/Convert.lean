import Lccc.Rust.Typeck

/-!
# Lccc.Rust.Convert

**The two passes of `convert` agree.** Pass 2 declares every function of the item tree and pass 3
defines every function with a body. They walk the tree with the same `iter_in_scope`, so on a
tree that `convert` accepts the definitions are, in order, the declarations that have a
definition, with the same name and the same return type (`convert_defines_declared`).

* `iterInScope_rel` lifts a relation between the states of two closures over the whole walk: a
  relation that every function declaration keeps holds of the two states the walks end in.
* `declareFn_eq_ok` and `defineFn_eq_ok` say what one step of each pass does, and
  `declare_define_step` that the two steps keep the correspondence `Agree`.

**Type names.** `convert_ty` looks a name up in pass 1's table by `Type::name`. On that table it
is the inverse of writing a type by its source names (`Ty.toParse`): a parsed type converts to
`t` exactly when it is how `t` is written (`convertTy_eq_ok_iff`). The table ends with `str`,
which has no source name, so a name that is not a primitive's fails at `Type::name` of `str`
with `todo!()`, and the `Unknown type` panic after the loop is never reached
(`convertTy_eq_error`).
-/

namespace Lccc.Rust

/-- What a declaration says its definition is: the name and the return type, if it has one. -/
def Declaration.definedKey : Declaration → Option (Identifier × Ty)
  | .function hasDefinition name sig => if hasDefinition then some (name, sig.returnTy) else none

/-- A definition's name and return type. -/
def Definition.key : Definition → Identifier × Ty
  | .function name returnTy _ => (name, returnTy)

/-- The definitions are the declarations that have one, in order. -/
def Agree (decls : List Declaration) (defs : List Definition) : Prop :=
  defs.map Definition.key = decls.filterMap Declaration.definedKey

/-! ### The walk -/

section Walk

variable {σ τ : Type}

mutual
/-- A relation that every function declaration keeps holds at the end of two walks of one item.
-/
theorem iterInScopeItem_rel
    {f : σ → Visibility → Safety → String → List Parse.FnParam → Option Parse.Ty →
      Option (List Parse.BlockItem) → Option String → Except Failure σ}
    {g : τ → Visibility → Safety → String → List Parse.FnParam → Option Parse.Ty →
      Option (List Parse.BlockItem) → Option String → Except Failure τ}
    (R : σ → τ → Prop)
    (hstep : ∀ a b a' b' vis safety name params returnTy block abi,
      f a vis safety name params returnTy block abi = .ok a' →
        g b vis safety name params returnTy block abi = .ok b' → R a b → R a' b') :
    ∀ (item : Parse.Item) {abi : Option String} {a : σ} {b : τ} {a' : σ} {b' : τ},
      iterInScopeItem f a item abi = .ok a' → iterInScopeItem g b item abi = .ok b' →
        R a b → R a' b'
  | .externBlock newAbi items, abi, a, b, a', b', hf, hg, hr => by
    simp only [iterInScopeItem, bind_eq_ok] at hf hg
    obtain ⟨_, -, hf⟩ := hf
    obtain ⟨_, -, hg⟩ := hg
    exact iterInScope_rel R hstep items hf hg hr
  | .fnDeclaration .., _, _, _, _, _, hf, hg, hr => hstep _ _ _ _ _ _ _ _ _ _ _ hf hg hr
/-- A relation that every function declaration keeps holds at the end of two walks of the same
items. -/
theorem iterInScope_rel
    {f : σ → Visibility → Safety → String → List Parse.FnParam → Option Parse.Ty →
      Option (List Parse.BlockItem) → Option String → Except Failure σ}
    {g : τ → Visibility → Safety → String → List Parse.FnParam → Option Parse.Ty →
      Option (List Parse.BlockItem) → Option String → Except Failure τ}
    (R : σ → τ → Prop)
    (hstep : ∀ a b a' b' vis safety name params returnTy block abi,
      f a vis safety name params returnTy block abi = .ok a' →
        g b vis safety name params returnTy block abi = .ok b' → R a b → R a' b') :
    ∀ (items : List Parse.Item) {abi : Option String} {a : σ} {b : τ} {a' : σ} {b' : τ},
      iterInScope f a items abi = .ok a' → iterInScope g b items abi = .ok b' →
        R a b → R a' b'
  | [], _, _, _, _, _, hf, hg, hr => by
    cases hf
    cases hg
    exact hr
  | item :: items, _, _, _, _, _, hf, hg, hr => by
    simp only [iterInScope, bind_eq_ok] at hf hg
    obtain ⟨_, hf1, hf⟩ := hf
    obtain ⟨_, hg1, hg⟩ := hg
    exact iterInScope_rel R hstep items hf hg (iterInScopeItem_rel R hstep item hf1 hg1 hr)
end

end Walk

/-! ### One function -/

section Step

variable {vis : Visibility} {safety : Safety} {name : String} {params : List Parse.FnParam}
  {returnTy : Option Parse.Ty} {block : Option (List Parse.BlockItem)} {abi : Option String}

/-- Pass 2 appends one declaration, with a definition exactly when there is a block. -/
theorem declareFn_eq_ok {decls decls' : List Declaration}
    (h : declareFn decls vis safety name params returnTy block abi = .ok decls') :
    ∃ sig : FunctionSignature, convertReturnTy returnTy = .ok sig.returnTy ∧
      decls' = decls ++ [.function block.isSome (.basic name) sig] := by
  unfold declareFn at h
  rcases abi with _ | s
  · simp only [Option.isSome_none, ok_bind, bind_eq_ok] at h
    obtain ⟨_, -, _, hrt, h⟩ := h
    cases h
    exact ⟨_, hrt, rfl⟩
  · simp only [Option.isSome_some, if_true] at h
    split at h <;> simp only [ok_bind, error_bind, bind_eq_ok] at h <;>
      first
      | obtain ⟨_, -, _, hrt, h⟩ := h
        cases h
        exact ⟨_, hrt, rfl⟩
      | cases h

/-- Pass 3 appends one definition for a block, and nothing without one. -/
theorem defineFn_eq_ok {defs defs' : List Definition}
    (h : defineFn defs vis safety name params returnTy block abi = .ok defs') :
    (block = none ∧ defs' = defs) ∨ ∃ rt body, block.isSome = true ∧
      convertReturnTy returnTy = .ok rt ∧ defs' = defs ++ [.function (.basic name) rt body] := by
  unfold defineFn at h
  rcases block with _ | block
  · exact .inl ⟨rfl, (Except.ok.inj h).symm⟩
  · rcases params with _ | ⟨_, _⟩
    · simp only [bind_eq_ok] at h
      obtain ⟨_, -, _, hrt, h⟩ := h
      cases h
      exact .inr ⟨_, _, rfl, hrt, rfl⟩
    · cases h

/-- One function declaration, seen by both passes, keeps the correspondence. -/
theorem declare_define_step {decls decls' : List Declaration} {defs defs' : List Definition}
    (hd : declareFn decls vis safety name params returnTy block abi = .ok decls')
    (hf : defineFn defs vis safety name params returnTy block abi = .ok defs')
    (h : Agree decls defs) : Agree decls' defs' := by
  unfold Agree at h ⊢
  obtain ⟨sig, hsig, rfl⟩ := declareFn_eq_ok hd
  rcases defineFn_eq_ok hf with ⟨rfl, rfl⟩ | ⟨rt, body, hb, hrt, rfl⟩
  · simp [Declaration.definedKey, h]
  · rw [hrt, Except.ok.injEq] at hsig
    simp [Declaration.definedKey, Definition.key, hb, hsig, h]

end Step

/-! ### The whole conversion -/

/-- On every item tree `convert` accepts, the definitions are, in order, the declarations that
have a definition, with the same name and return type. -/
theorem convert_defines_declared {items : List Parse.Item} {p : Program}
    (h : convert items = .ok p) :
    p.definitions.map Definition.key = p.declarations.filterMap Declaration.definedKey := by
  simp only [convert, bind_eq_ok] at h
  obtain ⟨_, hd, _, hf, h⟩ := h
  cases h
  exact @iterInScope_rel _ _ declareFn defineFn Agree
    (fun _ _ _ _ _ _ _ _ _ _ _ => declare_define_step) items _ _ _ _ _ hd hf rfl

/-- `f` is declared in an `extern` block without a definition; `h` and `main` are defined. -/
theorem unsafeFn_defines_declared :
    convert unsafeFnItems = .ok unsafeFnProgram ∧
      unsafeFnProgram.definitions.map Definition.key =
        unsafeFnProgram.declarations.filterMap Declaration.definedKey :=
  have h : convert unsafeFnItems = .ok unsafeFnProgram := rfl
  ⟨h, convert_defines_declared h⟩

/-! ### Type names -/

/-- How a type is written in the source: a type with a source name by that name, a pointer
around the pointee as written. Function, tuple and `str` types have no written form. -/
def Ty.toParse : Ty → Option Parse.Ty
  | .pointer m u => u.toParse.map (.pointer m)
  | t => match t.name with
    | .ok n => some (.name n)
    | .error _ => none

/-- What a written form can be: a name that is the type's source name, or a pointer around the
written form of the pointee. -/
theorem Ty.toParse_eq_some {t : Ty} {p : Parse.Ty} (h : t.toParse = some p) :
    (∃ n, p = .name n ∧ t.name = .ok n) ∨
      ∃ m u pu, t = .pointer m u ∧ p = .pointer m pu ∧ u.toParse = some pu := by
  unfold Ty.toParse at h
  split at h
  · obtain ⟨pu, hu, rfl⟩ := Option.map_eq_some'.1 h
    exact .inr ⟨_, _, _, rfl, rfl, hu⟩
  · split at h
    · cases h
      exact .inl ⟨_, rfl, ‹_›⟩
    · cases h

theorem Ty.toParse_of_name {t : Ty} {n : String} (h : t.name = .ok n) :
    t.toParse = some (.name n) := by
  unfold Ty.name at h
  split at h <;> cases h <;> rfl

theorem Ty.name_eq_error {t : Ty} {e : Failure} (h : t.name = .error e) :
    e = .todo "Type::name" := by
  unfold Ty.name at h
  split at h <;> cases h
  rfl

/-- The loop over the table returns a type only for its source name. -/
theorem lookup_eq_ok : ∀ {tys : List Ty} {n : String} {t : Ty},
    convertTy.lookup tys n = .ok t → t.name = .ok n
  | [], _, _, h => nomatch h
  | ty :: tys, n, t, h => by
    obtain ⟨s, hs, h⟩ := bind_eq_ok.1 h
    split at h
    · cases h
      rwa [‹n = s›]
    · exact lookup_eq_ok h

/-- With `str` in the table, the loop fails only at its `Type::name`. -/
theorem lookup_eq_error : ∀ {tys : List Ty} {n : String} {e : Failure},
    Ty.str ∈ tys → convertTy.lookup tys n = .error e → e = .todo "Type::name"
  | [], _, _, hm, _ => nomatch hm
  | ty :: tys, n, e, hm, h => by
    unfold convertTy.lookup at h
    cases hty : ty.name with
    | error e' =>
      rw [hty, error_bind] at h
      cases h
      exact Ty.name_eq_error hty
    | ok s =>
      rw [hty, ok_bind] at h
      split at h
      · cases h
      · have hne : Ty.str ≠ ty := by
          rintro rfl
          cases hty
        exact lookup_eq_error ((List.mem_cons.1 hm).resolve_left hne) h

/-- Every source name is found in `convert`'s table, as the type it names. -/
theorem lookup_namedTypes {t : Ty} {n : String} (h : t.name = .ok n) :
    convertTy.lookup namedTypes n = .ok t := by
  unfold Ty.name at h
  split at h <;> cases h <;> rfl

/-- On `convert`'s table, `convert_ty` is the inverse of writing a type: a parsed type converts
to `t` exactly when it is how `t` is written. -/
theorem convertTy_eq_ok_iff : ∀ (p : Parse.Ty) (t : Ty),
    convertTy namedTypes p = .ok t ↔ t.toParse = some p
  | .name n, t => by
    refine ⟨fun h => Ty.toParse_of_name (lookup_eq_ok h), fun h => ?_⟩
    rcases Ty.toParse_eq_some h with ⟨_, hp, hn⟩ | ⟨_, _, _, _, hp, _⟩
    · cases hp
      exact lookup_namedTypes hn
    · cases hp
  | .pointer m pu, t => by
    simp only [convertTy, bind_eq_ok]
    constructor
    · rintro ⟨tu, hu, ⟨⟩⟩
      show Option.map _ tu.toParse = _
      rw [(convertTy_eq_ok_iff pu tu).1 hu]
      rfl
    · intro h
      rcases Ty.toParse_eq_some h with ⟨_, hp, _⟩ | ⟨_, u, _, rfl, hp, hu⟩
      · cases hp
      · cases hp
        exact ⟨u, (convertTy_eq_ok_iff pu u).2 hu, rfl⟩

example : convertTy namedTypes (.pointer .const (.name "i8")) =
    .ok (.pointer .const (.integer .i8)) := rfl

/-- On `convert`'s table, `convert_ty` fails only with the `todo!()` of `Type::name` on `str`:
its `Unknown type` panic is never reached. -/
theorem convertTy_eq_error : ∀ {p : Parse.Ty} {e : Failure},
    convertTy namedTypes p = .error e → e = .todo "Type::name"
  | .name _, _, h => lookup_eq_error (by decide) h
  | .pointer _ pu, _, h => by
    simp only [convertTy] at h
    cases hu : convertTy namedTypes pu with
    | error _ =>
      rw [hu, error_bind] at h
      cases h
      exact convertTy_eq_error hu
    | ok _ =>
      rw [hu, ok_bind] at h
      cases h

/-- `*mut String`: `String` is no primitive, and the lookup stops at `str`. -/
theorem unknown_name_fails_at_str :
    convertTy namedTypes (.pointer .mut (.name "String")) = .error (.todo "Type::name") ∧
      Failure.todo "Type::name" = .todo "Type::name" :=
  have h : convertTy namedTypes (.pointer .mut (.name "String")) = .error (.todo "Type::name") :=
    rfl
  ⟨h, convertTy_eq_error h⟩

end Lccc.Rust
