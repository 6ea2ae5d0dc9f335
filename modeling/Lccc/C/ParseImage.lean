import Lccc.C.RoundTrip
import Lccc.C.ParseLoops
import Mathlib.Tactic.SplitIfs

/-!
# Lccc.C.ParseImage

**Everything the parser returns is well formed.** Each parsing function keeps an invariant of
what it has built so far, and the loops of `parse` and `parse_code_block` put together what the
others return (`parse_wf`). With `parse_render` this says that the declaration lists `parse` can
return are exactly the well-formed ones.

The one invariant that is not read off a single function is that of the parameter loop: after a
parameter without a name, the next token is neither a name (`paramName` would have taken it), nor
a keyword (the qualifier loop would never have ended), nor a `*` (the pointer loop would have
taken it). From there the loop either stops at `)` or at the end of the tokens, or goes round
forever on a punctuator (`paramsLoop_punctuator`), or fails: so no parameter follows an unnamed
one in a list the loop returns.
-/

namespace Lccc.C

/-! ### Types and pointers -/

theorem finishType_isPrimitive {base : Option BaseType} (hb : base.all BaseType.isPrimitive)
    (constant : Bool) : (finishType base constant).isPrimitive = true := by
  cases base with
  | none => rfl
  | some b => exact hb

/-- `parse_type` builds a primitive type and stops at a punctuator, a name or the end. -/
theorem parseTypeLoop_wf {ts : List Token} :
    ∀ {base : Option BaseType} {constant : Bool} {ty : Ty} {ts' : List Token},
      base.all BaseType.isPrimitive → parseTypeLoop base constant ts = .ok (ty, ts') →
        ty.isPrimitive = true ∧ ts'.head?.all Token.endsType = true := by
  induction ts with
  | nil =>
    intro base constant _ _ hb h
    cases h
    exact ⟨finishType_isPrimitive hb constant, rfl⟩
  | cons t ts ih =>
    intro base constant _ _ hb h
    cases t with
    | keyword kw =>
      unfold parseTypeLoop at h
      split_ifs at h <;> first | cases h | exact ih (by rfl) h | exact ih hb h
    | punctuator p =>
      simp only [parseTypeLoop, reduceCtorEq, if_false] at h
      cases h
      exact ⟨finishType_isPrimitive hb constant, rfl⟩
    | identifier id =>
      simp only [parseTypeLoop, reduceCtorEq, if_false] at h
      split_ifs at h
      cases h
      exact ⟨finishType_isPrimitive hb constant, rfl⟩
    | stringLiteral | other => simp [parseTypeLoop] at h

theorem Pointer.plain_mk_false (ptr : Option Pointer) :
    (Pointer.mk false false ptr).plain = ptr.all Pointer.plain := by
  cases ptr <;> rfl

/-- The qualifier loop returns only where it started, and only before a token that is not a
keyword. -/
theorem qualifierLoop_eq_ok {fuel : Nat} {ptr ptr' : Pointer} {ts ts' : List Token}
    (h : qualifierLoop fuel ptr ts = .ok (ptr', ts')) :
    ptr' = ptr ∧ ts' = ts ∧ ts.head?.all (fun t => !t.isKeyword) = true := by
  cases fuel with
  | zero => cases h
  | succ fuel =>
    have hk : ts.head?.all (fun t => !t.isKeyword) = true := by
      rcases ts with _ | ⟨_ | _ | _ | _ | _, rest⟩
      any_goals rfl
      rw [qualifierLoop_keyword] at h
      cases h
    rw [qualifierLoop_stop fuel ptr hk] at h
    cases h
    exact ⟨rfl, rfl, hk⟩

/-- The pointer loop builds plain pointers and stops before a token that is neither a keyword
nor a `*`. -/
theorem pointerLoop_wf : ∀ {fuel : Nat} {ptr ptr' : Option Pointer} {ts ts' : List Token},
    ptr.all Pointer.plain = true → ts.head?.all (fun t => !t.isKeyword) = true →
      pointerLoop fuel ptr ts = .ok (ptr', ts') →
        ptr'.all Pointer.plain = true ∧ ts'.head?.all (fun t => !t.isKeyword) = true ∧
          ts'.head? ≠ some (.punctuator "*")
  | 0, _, _, _, _, _, _, h => by cases h
  | _ + 1, _, _, [], _, hp, _, h | _ + 1, _, _, .identifier _ :: _, _, hp, _, h
  | _ + 1, _, _, .stringLiteral _ _ :: _, _, hp, _, h | _ + 1, _, _, .other _ :: _, _, hp, _, h => by
    cases h
    exact ⟨hp, rfl, nofun⟩
  | fuel + 1, ptr, _, .punctuator p :: ts, _, hp, hk, h => by
    rw [pointerLoop] at h
    split_ifs at h with hs
    · cases h
      exact ⟨hp, rfl, fun h' => hs (by cases h'; rfl)⟩
    · obtain ⟨⟨ptr1, ts1⟩, h1, h2⟩ := bind_eq_ok.1 h
      obtain ⟨rfl, rfl, hk1⟩ := qualifierLoop_eq_ok h1
      exact pointerLoop_wf (by rw [Option.all_some, Pointer.plain_mk_false]; exact hp) hk1 h2
  | _ + 1, _, _, .keyword _ :: _, _, _, hk, _ => nomatch hk

/-! ### Expressions and statements -/

theorem untypedArgs_append_singleton :
    ∀ (args : List Expression) (e : Expression),
      untypedArgs (args ++ [e]) = (untypedArgs args && e.untyped)
  | [], e => by simp [untypedArgs]
  | a :: args, e => by
    rw [List.cons_append, untypedArgs, untypedArgs, untypedArgs_append_singleton args e,
      Bool.and_assoc]

/-- The three functions of `parse_expression` fill in no type: an expression is untyped, and
the loops keep untyped what they were given. -/
theorem expression_untyped : ∀ fuel,
    (∀ {ts e ts'}, parseExpression fuel ts = .ok (e, ts') → e.untyped = true) ∧
    (∀ {lhs ts e ts'}, lhs.untyped = true → exprLoop fuel lhs ts = .ok (e, ts') →
      e.untyped = true) ∧
    ∀ {args commaExpected trailingComma ts args' ts'}, untypedArgs args = true →
      argsLoop fuel args commaExpected trailingComma ts = .ok (args', ts') →
        untypedArgs args' = true
  | 0 => ⟨fun h => (by cases h), fun _ h => (by cases h), fun _ h => (by cases h)⟩
  | fuel + 1 => by
    obtain ⟨hE, hL, hA⟩ := expression_untyped fuel
    refine ⟨fun {ts _ _} h => ?_, fun {lhs ts _ _} hl h => ?_,
      fun {args _ _ ts _ _} ha h => ?_⟩
    · obtain ⟨⟨lhs, ts1⟩, h1, h⟩ := bind_eq_ok.1 h
      refine hL ?_ h
      unfold parsePrimaryExpression at h1
      split at h1 <;> cases h1 <;> rfl
    · match ts, h with
      | [], h =>
        cases h
        exact hl
      | .punctuator p :: ts, h =>
        rw [exprLoop] at h
        split_ifs at h
        · cases h
          exact hl
        · obtain ⟨⟨args, ts1⟩, h1, h⟩ := bind_eq_ok.1 h
          have ha := hA (by rfl) h1
          exact hL (by simp only [Expression.untyped, hl, ha]; rfl) h
        · exact hL hl h
      | .keyword _ :: _, h | .identifier _ :: _, h | .stringLiteral _ _ :: _, h
      | .other _ :: _, h => cases h
    · match ts, h with
      | [], h =>
        cases h
        exact ha
      | t :: ts, h =>
        rw [argsLoop] at h
        split_ifs at h
        · cases h
          exact ha
        · exact hA ha h
        · obtain ⟨⟨e, ts1⟩, h1, h⟩ := bind_eq_ok.1 h
          exact hA (by rw [untypedArgs_append_singleton, ha, hE h1]; rfl) h

theorem parseStatement_untyped {fuel : Nat} {ts ts' : List Token} {s : Statement}
    (h : parseStatement fuel ts = .ok (s, ts')) : s.untyped = true := by
  obtain ⟨⟨e, ts1⟩, h1, h⟩ := bind_eq_ok.1 h
  dsimp only at h
  split at h
  · cases h
    exact (expression_untyped fuel).1 h1
  · cases h

theorem codeBlockLoop_untyped : ∀ {fuel : Nat} {acc body : List Statement} {ts ts' : List Token},
    acc.all Statement.untyped = true → codeBlockLoop fuel acc ts = .ok (body, ts') →
      body.all Statement.untyped = true
  | 0, _, _, _, _, _, h => by cases h
  | _ + 1, _, _, [], _, ha, h => by
    cases h
    exact ha
  | fuel + 1, acc, _, t :: ts, _, ha, h => by
    rw [codeBlockLoop] at h
    split_ifs at h
    · cases h
      exact ha
    · obtain ⟨⟨s, ts1⟩, h1, h⟩ := bind_eq_ok.1 h
      refine codeBlockLoop_untyped ?_ h
      simp only [List.all_append, ha, List.all_cons, List.all_nil, parseStatement_untyped h1,
        Bool.and_self]

theorem parseCodeBlock_untyped {fuel : Nat} {ts ts' : List Token} {body : List Statement}
    (h : parseCodeBlock fuel ts = .ok (body, ts')) : body.all Statement.untyped = true := by
  obtain ⟨⟨body1, ts1⟩, h1, h⟩ := bind_eq_ok.1 h
  dsimp only at h
  split at h
  · cases h
    exact codeBlockLoop_untyped (by rfl) h1
  · cases h

/-! ### Parameters -/

/-- A punctuator other than `)` and `*` where a parameter should start: `parse_type` and the
pointer loop take nothing, and the parameter loop goes round forever. -/
theorem paramsLoop_punctuator {p : String} (hp : p ≠ ")" ∧ p ≠ "*") (rest : List Token) :
    ∀ fuel params, paramsLoop fuel params (.punctuator p :: rest) = .error .outOfFuel
  | 0, _ => rfl
  | 1, _ => by
    rw [paramsLoop, if_neg fun h => hp.1 (Token.punctuator.inj h)]
    rfl
  | fuel + 2, params => by
    have hty : parseType (.punctuator p :: rest) =
        .ok (finishType none false, .punctuator p :: rest) := rfl
    rw [paramsLoop, if_neg fun h => hp.1 (Token.punctuator.inj h), hty, ok_bind]
    dsimp only
    rw [@pointerLoop_stop fuel none (.punctuator p :: rest)
      fun h => hp.2 (Token.punctuator.inj (Option.some.inj h)), ok_bind]
    exact paramsLoop_punctuator hp rest (fuel + 1) _

/-- The tokens that can follow a parameter without a name: neither a name, nor a keyword, nor a
`*`. -/
def Token.followsUnnamed : Token → Bool
  | .identifier _ | .keyword _ => false
  | .punctuator p => p ≠ "*"
  | .stringLiteral _ _ | .other _ => true

/-- The invariant of the parameter loop: the parameters so far are well formed, and the tokens
after an unnamed last one can follow it. -/
def ParamsInv (acc : List (FullType × Option String)) (ts : List Token) : Prop :=
  paramsWf acc = true ∧
    ∀ x, acc.getLast? = some x → x.2 = none → ts.head?.all Token.followsUnnamed = true

theorem paramsWf_append_singleton {acc : List (FullType × Option String)}
    {x : FullType × Option String} (hacc : paramsWf acc = true)
    (hlast : ∀ y, acc.getLast? = some y → y.2.isSome = true) (hx : paramWf x = true) :
    paramsWf (acc ++ [x]) = true := by
  rcases List.eq_nil_or_concat acc with rfl | ⟨init, y, rfl⟩
  · simpa [paramsWf] using hx
  · rw [List.concat_eq_append] at hacc hlast ⊢
    have hy := hlast y (List.getLast?_concat ..)
    simp only [paramsWf, List.all_append, List.dropLast_concat, Bool.and_eq_true, List.all_cons,
      List.all_nil, Bool.and_true] at hacc ⊢
    exact ⟨⟨hacc.1, hx⟩, hacc.2, hy⟩

theorem paramName_eq_none {ts : List Token} (h : (paramName ts).1 = none) :
    (paramName ts).2 = ts ∧ ∀ id rest, ts ≠ .identifier id :: rest := by
  unfold paramName at h ⊢
  split at h
  · cases h
  · rename_i hne
    exact ⟨rfl, fun id rest he => hne id rest he⟩

/-- The parameter loop keeps its invariant, so what it returns is well formed. -/
theorem paramsLoop_wf : ∀ {fuel : Nat} {acc params : List (FullType × Option String)}
    {ts ts' : List Token}, ParamsInv acc ts → paramsLoop fuel acc ts = .ok (params, ts') →
      paramsWf params = true
  | 0, _, _, _, _, _, h => by cases h
  | _ + 1, _, _, [], _, hi, h => by
    cases h
    exact hi.1
  | fuel + 1, acc, _, t :: ts, _, hi, h => by
    by_cases hc : t = .punctuator ")"
    · rw [paramsLoop, if_pos hc] at h
      cases h
      exact hi.1
    by_cases hu : ∃ x, acc.getLast? = some x ∧ x.2 = none
    · -- after an unnamed parameter the loop never returns
      obtain ⟨x, hx, hn⟩ := hu
      have hf := hi.2 x hx hn
      cases t with
      | punctuator p =>
        have hp : p ≠ ")" ∧ p ≠ "*" :=
          ⟨fun h => hc (h ▸ rfl), by simpa [Token.followsUnnamed] using hf⟩
        rw [paramsLoop_punctuator hp ts] at h
        cases h
      | stringLiteral | other =>
        rw [paramsLoop, if_neg hc] at h
        cases h
      | identifier | keyword => cases hf
    · rw [paramsLoop, if_neg hc] at h
      obtain ⟨⟨ty, ts1⟩, h1, h⟩ := bind_eq_ok.1 h
      obtain ⟨hty, hts1⟩ := parseTypeLoop_wf (by rfl) h1
      dsimp only at h
      obtain ⟨⟨ptr, ts2⟩, h2, h⟩ := bind_eq_ok.1 h
      dsimp only at h
      have hk1 : ts1.head?.all (fun t => !t.isKeyword) = true := by
        rcases ts1 with _ | ⟨_ | _ | _ | _ | _, _⟩ <;> first | rfl | cases hts1
      obtain ⟨hptr, hk2, hs2⟩ := pointerLoop_wf (by rfl) hk1 h2
      refine paramsLoop_wf ⟨paramsWf_append_singleton hi.1 ?_ ?_, ?_⟩ h
      · exact fun y hy => Option.isSome_iff_ne_none.2 fun hn => hu ⟨y, hy, hn⟩
      · simp only [paramWf, hty, hptr, Bool.and_self]
      · intro x hx hn
        rw [List.getLast?_concat, Option.some.injEq] at hx
        subst hx
        obtain ⟨h3, hid⟩ := paramName_eq_none hn
        rw [h3]
        rcases ts2 with _ | ⟨_ | _ | _ | _ | _, rest⟩
        · rfl
        · exact absurd rfl (hid _ rest)
        · cases hk2
        · simpa [Token.followsUnnamed] using hs2
        all_goals rfl

/-! ### Declarations -/

theorem functionTail_wf {fuel : Nat} {ret : Ty} {params : List (FullType × Option String)}
    {name : String} {ts ts' : List Token} {d : Declaration} (hret : ret.isPrimitive = true)
    (hparams : paramsWf params = true)
    (h : functionTail fuel (.mk (.function ret params) false) name ts = .ok (d, ts')) :
    d.wf = true := by
  cases ts with
  | nil => cases h
  | cons t ts =>
    cases t with
    | punctuator p =>
      rw [functionTail] at h
      split_ifs at h
      · obtain ⟨⟨body, ts1⟩, h1, h⟩ := bind_eq_ok.1 h
        cases h
        simp only [Declaration.wf, hret, hparams, parseCodeBlock_untyped h1, Bool.and_self]
      · cases h
        simp only [Declaration.wf, hret, hparams, Bool.and_self]
    | _ => cases h

theorem parseDeclaration_wf {fuel : Nat} {ts ts' : List Token} {d : Declaration}
    (h : parseDeclaration fuel ts = .ok (d, ts')) : d.wf = true := by
  obtain ⟨⟨ty, ts1⟩, h1, h⟩ := bind_eq_ok.1 h
  obtain ⟨hty, -⟩ := parseTypeLoop_wf (by rfl) h1
  dsimp only at h
  obtain ⟨⟨name, ts2⟩, -, h⟩ := bind_eq_ok.1 h
  dsimp only at h
  cases ts2 with
  | nil => cases h
  | cons t ts2 =>
    cases t with
    | punctuator p =>
      dsimp only at h
      split_ifs at h
      · cases h
        obtain ⟨_ | _, c⟩ := ty
        · cases hty
        · rfl
      · obtain ⟨⟨params, ts3⟩, h3, h⟩ := bind_eq_ok.1 h
        exact functionTail_wf hty (paramsLoop_wf ⟨by rfl, fun _ hx => by cases hx⟩ h3) h
    | _ => cases h

/-- Every declaration `parse` returns is well formed. -/
theorem parse_wf : ∀ {fuel : Nat} {ts : List Token} {ds : List Declaration},
    parse fuel ts = .ok ds → ∀ d ∈ ds, d.wf = true
  | 0, _, _, h => by cases h
  | _ + 1, [], _, h => by
    cases h
    exact fun _ hd => nomatch hd
  | fuel + 1, t :: ts, _, h => by
    obtain ⟨⟨d, ts1⟩, h1, h⟩ := bind_eq_ok.1 h
    dsimp only at h
    obtain ⟨ds, h2, h⟩ := bind_eq_ok.1 h
    cases h
    exact List.forall_mem_cons.2 ⟨parseDeclaration_wf h1, parse_wf h2⟩

/-- `int const x; char f(**);`: `const` after the base type, and a parameter with no type
written, which `parse_type` makes an `int`. -/
theorem const_after_base_wf :
    parse 20 [.keyword "int", .keyword "const", .identifier "x", .punctuator ";",
        .keyword "char", .identifier "f", .punctuator "(", .punctuator "*", .punctuator "*",
        .punctuator ")", .punctuator ";"] =
      .ok [{ ty := .mk (.primitive .int) true, pointer := none, name := "x", initializer := none },
        { ty := .mk (.function (.mk (.primitive .char) false)
            [(.mk (.mk (.primitive .int) false) (some (.mk false false (some (.mk false false none)))),
              none)]) false,
          pointer := none, name := "f", initializer := none }] ∧
      ∀ d ∈ ([{ ty := .mk (.primitive .int) true, pointer := none, name := "x",
                  initializer := none },
        { ty := .mk (.function (.mk (.primitive .char) false)
            [(.mk (.mk (.primitive .int) false) (some (.mk false false (some (.mk false false none)))),
              none)]) false,
          pointer := none, name := "f", initializer := none }] : List Declaration),
        Declaration.wf d = true :=
  have h : parse 20 [.keyword "int", .keyword "const", .identifier "x", .punctuator ";",
      .keyword "char", .identifier "f", .punctuator "(", .punctuator "*", .punctuator "*",
      .punctuator ")", .punctuator ";"] =
    .ok [{ ty := .mk (.primitive .int) true, pointer := none, name := "x", initializer := none },
      { ty := .mk (.function (.mk (.primitive .char) false)
          [(.mk (.mk (.primitive .int) false) (some (.mk false false (some (.mk false false none)))),
            none)]) false,
        pointer := none, name := "f", initializer := none }] := rfl
  ⟨h, parse_wf h⟩

end Lccc.C
