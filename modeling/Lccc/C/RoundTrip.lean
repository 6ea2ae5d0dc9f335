import Lccc.C.Parse
import Lccc.Except

/-!
# Lccc.C.RoundTrip

**What the parser builds, and the tokens that build it.** `parse` has no inverse in the source;
`renderDecls` is one, written here as the specification of the language the parser reads: the
tokens of a declaration list, one declaration after another. The declarations `parse` can
return are exactly the well-formed ones (`Declaration.wf`):

* every well-formed list is what `parse` returns on its rendering, with more fuel than tokens
  (`parse_render`): each parsing function, given the rendering of what it builds followed by
  any tokens it stops at, returns it and leaves those tokens;
* every list `parse` returns is well formed (`parse_wf`): each parsing function keeps the
  invariant of what it has built so far.

Well formed is read off the parser, not off C: no type annotation is ever filled in, a type has a
primitive base (`int` when none is written), a pointer has no qualifiers (the qualifier loop
never consumes the keyword it looks at), and a parameter without a name is the last one (after
it, only `)` ends the parameter loop). Parameters are not separated by commas: a `,` makes the
parameter loop go round forever, and two parameters written one after the other are read as
two. A string literal's prefix is dropped by the parser, so `render` writes none.
-/

namespace Lccc.C

/-! ### Well-formed syntax -/

/-- The keyword of a primitive type. -/
def PrimitiveType.keyword : PrimitiveType → String
  | .char => "char"
  | .int => "int"

/-- The base types `parse_type` builds. -/
def BaseType.isPrimitive : BaseType → Bool
  | .primitive _ => true
  | .function .. => false

/-- A type `parse_type` builds: a primitive base, with or without `const`. -/
def Ty.isPrimitive : Ty → Bool
  | .mk base _ => base.isPrimitive

/-- A pointer the pointer loop builds: levels of `*` with neither qualifier set. -/
def Pointer.plain : Pointer → Bool
  | .mk constant restrict none => !constant && !restrict
  | .mk constant restrict (some p) => !constant && !restrict && p.plain

mutual
/-- An expression the parser builds: no type is filled in. -/
def Expression.untyped : Expression → Bool
  | .functionCall callee args ty => ty.isNone && callee.untyped && untypedArgs args
  | .identifier _ ty => ty.isNone
  | .string _ ty => ty.isNone
/-- Every argument is `untyped`. -/
def untypedArgs : List Expression → Bool
  | [] => true
  | e :: es => e.untyped && untypedArgs es
end

/-- A statement the parser builds. -/
def Statement.untyped : Statement → Bool
  | .expression e => e.untyped

/-- A parameter the parameter loop builds. -/
def paramWf : FullType × Option String → Bool
  | (.mk ty pointer, _) => ty.isPrimitive && pointer.all Pointer.plain

/-- A parameter list the parameter loop builds: every parameter but the last has a name. -/
def paramsWf (params : List (FullType × Option String)) : Bool :=
  params.all paramWf && params.dropLast.all fun p => p.2.isSome

/-- A declaration `parse_declaration` builds: a variable of a primitive type, or a function
returning one, declared or defined. -/
def Declaration.wf : Declaration → Bool
  | { ty := .mk (.primitive _) _, pointer := none, initializer := none, .. } => true
  | { ty := .mk (.function ret params) false, pointer := none, initializer := none, .. } =>
    ret.isPrimitive && paramsWf params
  | { ty := .mk (.function ret params) false, pointer := none,
      initializer := some (.function body), .. } =>
    ret.isPrimitive && paramsWf params && body.all Statement.untyped
  | _ => false

/-! ### Rendering -/

/-- The tokens of a type with a primitive base: `const` first when it is set. -/
def Ty.render : Ty → List Token
  | .mk (.primitive p) constant =>
    (if constant then [.keyword "const"] else []) ++ [.keyword p.keyword]
  | .mk (.function ..) _ => []

/-- One `*` per level. -/
def Pointer.render : Pointer → List Token
  | .mk _ _ none => [.punctuator "*"]
  | .mk _ _ (some p) => p.render ++ [.punctuator "*"]

mutual
/-- The tokens of an expression: a call is its callee and the arguments in parentheses. -/
def Expression.render : Expression → List Token
  | .functionCall callee args _ =>
    callee.render ++ .punctuator "(" :: (renderArgs args ++ [.punctuator ")"])
  | .identifier id _ => [.identifier id]
  | .string str _ => [.stringLiteral "" str]
/-- Call arguments, separated by commas. -/
def renderArgs : List Expression → List Token
  | [] => []
  | e :: es => e.render ++ renderMoreArgs es
/-- The arguments after the first, each after its comma. -/
def renderMoreArgs : List Expression → List Token
  | [] => []
  | e :: es => .punctuator "," :: (e.render ++ renderMoreArgs es)
end

/-- An expression statement and its `;`. -/
def Statement.render : Statement → List Token
  | .expression e => e.render ++ [.punctuator ";"]

/-- A parameter: its type, its `*`s and its name. -/
def renderParam : FullType × Option String → List Token
  | (.mk ty pointer, name) =>
    ty.render ++ ((pointer.map Pointer.render).getD [] ++ (name.map .identifier).toList)

/-- What follows a function's parameter list: a body in braces, or `;`. -/
def renderFunctionTail : Option Initializer → List Token
  | some (.function body) =>
    .punctuator "\x7b" :: (body.flatMap Statement.render ++ [.punctuator "\x7d"])
  | _ => [.punctuator ";"]

/-- The tokens of a declaration: a variable's type, name and `;`, or a function's return type,
name, parameters and tail. -/
def Declaration.render (d : Declaration) : List Token :=
  match d.ty with
  | .mk (.function ret params) _ =>
    ret.render ++ .identifier d.name :: .punctuator "(" ::
      (params.flatMap renderParam ++ .punctuator ")" :: renderFunctionTail d.initializer)
  | ty => ty.render ++ [.identifier d.name, .punctuator ";"]

/-- The tokens of a declaration list. -/
def renderDecls (ds : List Declaration) : List Token :=
  ds.flatMap Declaration.render

/-! ### Tokens at the edges -/

/-- The tokens an expression starts with. -/
def Token.startsExpression : Token → Bool
  | .identifier _ | .stringLiteral _ _ => true
  | _ => false

/-- The tokens `parse_type` stops at, once it has read a base type. -/
def Token.endsType : Token → Bool
  | .punctuator _ | .identifier _ => true
  | _ => false

/-- Keywords: the qualifier loop looks at them without consuming them. -/
def Token.isKeyword : Token → Bool
  | .keyword _ => true
  | _ => false

theorem Expression.render_cons :
    ∀ e : Expression, ∃ t rest, e.render = t :: rest ∧ t.startsExpression = true
  | .functionCall callee _ _ => by
    obtain ⟨t, rest, h, ht⟩ := callee.render_cons
    exact ⟨t, _, by rw [Expression.render, h, List.cons_append], ht⟩
  | .identifier _ _ => ⟨_, _, rfl, rfl⟩
  | .string _ _ => ⟨_, _, rfl, rfl⟩

theorem Expression.length_render_pos (e : Expression) : 0 < e.render.length := by
  obtain ⟨t, rest, h, -⟩ := e.render_cons
  simp [h]

theorem Statement.render_cons (s : Statement) :
    ∃ t rest, s.render = t :: rest ∧ t.startsExpression = true := by
  obtain ⟨e⟩ := s
  obtain ⟨t, rest, h, ht⟩ := e.render_cons
  exact ⟨t, _, by rw [Statement.render, h, List.cons_append], ht⟩

theorem Ty.render_cons {ty : Ty} (h : ty.isPrimitive = true) :
    ∃ kw rest, ty.render = .keyword kw :: rest := by
  obtain ⟨_ | _, c⟩ := ty
  · cases h
  · cases c <;> exact ⟨_, _, rfl⟩

/-- A well-formed variable declaration has neither pointer nor initializer. -/
theorem Declaration.wf_primitive {p : PrimitiveType} {c : Bool} {pointer : Option Pointer}
    {name : String} {init : Option Initializer}
    (h : Declaration.wf ⟨.mk (.primitive p) c, pointer, name, init⟩ = true) :
    pointer = none ∧ init = none := by
  cases pointer <;> cases init <;> first | exact ⟨rfl, rfl⟩ | cases h

/-- What a well-formed function declaration is made of. -/
theorem Declaration.wf_function {ret : Ty} {params : List (FullType × Option String)} {c : Bool}
    {pointer : Option Pointer} {name : String} {init : Option Initializer}
    (h : Declaration.wf ⟨.mk (.function ret params) c, pointer, name, init⟩ = true) :
    c = false ∧ pointer = none ∧ ret.isPrimitive = true ∧ paramsWf params = true ∧
      (∀ body, init = some (.function body) → body.all Statement.untyped = true) ∧
      ∀ e, init ≠ some (.expression e) := by
  cases c <;> cases pointer <;> rcases init with _ | ⟨_ | _⟩ <;>
    simp_all [Declaration.wf]

theorem Declaration.render_cons {d : Declaration} (h : d.wf = true) :
    ∃ t rest, d.render = t :: rest := by
  obtain ⟨⟨base, c⟩, pointer, name, init⟩ := d
  cases base with
  | primitive p => cases c <;> exact ⟨_, _, rfl⟩
  | function ret params =>
    obtain ⟨kw, rest, hr⟩ := Ty.render_cons (Declaration.wf_function h).2.2.1
    exact ⟨_, _, by rw [Declaration.render]; dsimp only; rw [hr, List.cons_append]⟩

theorem renderDecls_cons (d : Declaration) (ds : List Declaration) :
    renderDecls (d :: ds) = d.render ++ renderDecls ds :=
  List.flatMap_cons _ _ _

theorem Pointer.render_cons : ∀ p : Pointer, ∃ rest, p.render = .punctuator "*" :: rest
  | .mk _ _ none => ⟨_, rfl⟩
  | .mk _ _ (some q) => by
    obtain ⟨rest, h⟩ := q.render_cons
    exact ⟨_, by rw [Pointer.render, h, List.cons_append]⟩

/-! ### Reading a rendering back -/

section Render

theorem exprLoop_stop {p : String} (hp : p = ";" ∨ p = "," ∨ p = ")") (fuel : Nat)
    (lhs : Expression) (ts : List Token) :
    exprLoop (fuel + 1) lhs (.punctuator p :: ts) = .ok (lhs, .punctuator p :: ts) := by
  rw [exprLoop, if_pos hp]

/-- One argument, read up to the `,` or `)` after it. -/
theorem argsLoop_arg {e : Expression} {fuel : Nat} {acc : List Expression} {tc : Bool}
    {p : String} {ts : List Token} (hp : p = "," ∨ p = ")") (hlt : e.render.length < fuel)
    (he : ∃ fuel', fuel - e.render.length ≤ fuel' ∧
      parseExpression fuel (e.render ++ .punctuator p :: ts) =
        exprLoop fuel' e (.punctuator p :: ts)) :
    argsLoop (fuel + 1) acc false tc (e.render ++ .punctuator p :: ts) =
      argsLoop fuel (acc ++ [e]) true false (.punctuator p :: ts) := by
  obtain ⟨fuel', hle, he⟩ := he
  obtain ⟨g, rfl⟩ : ∃ g, fuel' = g + 1 := ⟨fuel' - 1, by omega⟩
  obtain ⟨t, rest, hr, ht⟩ := e.render_cons
  have hne : t ≠ .punctuator ")" := by rintro rfl; cases ht
  rw [hr, List.cons_append, argsLoop, if_neg hne, if_neg Bool.false_ne_true, ← List.cons_append,
    ← hr, he, exprLoop_stop (.inr hp), ok_bind]

/-- The arguments after the first are followed by a `,` or by the closing `)`. -/
theorem renderMoreArgs_append_cons (es : List Expression) (ts : List Token) :
    ∃ p rest, renderMoreArgs es ++ .punctuator ")" :: ts = .punctuator p :: rest ∧
      (p = "," ∨ p = ")") := by
  cases es <;> exact ⟨_, _, rfl, by simp⟩

mutual
/-- An expression's rendering is read back, and the expression loop goes on from it with fuel to
spare. -/
theorem parseExpression_render : ∀ e : Expression, e.untyped = true → ∀ fuel ts,
    e.render.length < fuel → ∃ fuel', fuel - e.render.length ≤ fuel' ∧
      parseExpression fuel (e.render ++ ts) = exprLoop fuel' e ts
  | .functionCall callee args ty, h, fuel, ts, hlt => by
    simp only [Expression.untyped, Bool.and_eq_true, Option.isNone_iff_eq_none] at h
    obtain ⟨⟨rfl, hc⟩, ha⟩ := h
    have hlen : (Expression.functionCall callee args none).render.length =
        callee.render.length + (renderArgs args).length + 2 := by
      simp only [Expression.render, List.length_append, List.length_cons, List.length_nil]
      omega
    obtain ⟨g, hg, hcall⟩ := parseExpression_render callee hc fuel
      (.punctuator "(" :: (renderArgs args ++ .punctuator ")" :: ts)) (by omega)
    obtain ⟨g, rfl⟩ : ∃ g', g = g' + 1 := ⟨g - 1, by omega⟩
    refine ⟨g, by omega, ?_⟩
    rw [Expression.render, List.append_assoc, List.cons_append, List.append_assoc,
      List.singleton_append, hcall, exprLoop, if_neg (by decide), if_pos rfl,
      argsLoop_renderArgs args ha _ [] ts (by omega), ok_bind]
    rfl
  | .identifier _ ty, h, fuel + 1, ts, _ => by
    rw [Expression.untyped, Option.isNone_iff_eq_none] at h
    subst h
    exact ⟨fuel, by simp [Expression.render], rfl⟩
  | .string _ ty, h, fuel + 1, ts, _ => by
    rw [Expression.untyped, Option.isNone_iff_eq_none] at h
    subst h
    exact ⟨fuel, by simp [Expression.render], rfl⟩
/-- A call's arguments are read back up to and with the closing `)`. -/
theorem argsLoop_renderArgs : ∀ args : List Expression, untypedArgs args = true →
    ∀ fuel acc ts, (renderArgs args).length + 2 ≤ fuel →
      argsLoop fuel acc false false (renderArgs args ++ .punctuator ")" :: ts) =
        .ok (acc ++ args, ts)
  | [], _, _ + 1, acc, ts, _ => by
    rw [renderArgs, List.nil_append, argsLoop, if_pos rfl, List.append_nil]
    rfl
  | e :: es, h, fuel + 1, acc, ts, hle => by
    simp only [untypedArgs, Bool.and_eq_true] at h
    have he := e.length_render_pos
    obtain ⟨p, rest, hr, hp⟩ := renderMoreArgs_append_cons es ts
    simp only [renderArgs, List.length_append] at hle
    rw [renderArgs, List.append_assoc, hr,
      argsLoop_arg hp (by omega) (parseExpression_render e h.1 fuel _ (by omega)), ← hr,
      argsLoop_renderMoreArgs es h.2 fuel _ ts (by omega), List.append_assoc,
      List.singleton_append]
/-- The arguments after the first are read back, each after its comma. -/
theorem argsLoop_renderMoreArgs : ∀ args : List Expression, untypedArgs args = true →
    ∀ fuel acc ts, (renderMoreArgs args).length + 2 ≤ fuel →
      argsLoop fuel acc true false (renderMoreArgs args ++ .punctuator ")" :: ts) =
        .ok (acc ++ args, ts)
  | [], _, _ + 1, acc, ts, _ => by
    rw [renderMoreArgs, List.nil_append, argsLoop, if_pos rfl, List.append_nil]
    rfl
  | e :: es, h, fuel + 1, acc, ts, hle => by
    simp only [untypedArgs, Bool.and_eq_true] at h
    have he := e.length_render_pos
    obtain ⟨p, rest, hr, hp⟩ := renderMoreArgs_append_cons es ts
    simp only [renderMoreArgs, List.length_cons, List.length_append] at hle
    obtain ⟨fuel, rfl⟩ : ∃ f, fuel = f + 1 := ⟨fuel - 1, by omega⟩
    rw [renderMoreArgs, List.cons_append, argsLoop, if_neg (by decide), if_pos rfl, if_pos rfl,
      List.append_assoc, hr, argsLoop_arg hp (by omega) (parseExpression_render e h.1 _ _ (by omega)),
      ← hr, argsLoop_renderMoreArgs es h.2 _ _ ts (by omega), List.append_assoc,
      List.singleton_append]
end

theorem parseStatement_render {s : Statement} (h : s.untyped = true) {fuel : Nat}
    (ts : List Token) (hlt : s.render.length ≤ fuel) :
    parseStatement fuel (s.render ++ ts) = .ok (s, ts) := by
  obtain ⟨e⟩ := s
  simp only [Statement.render, List.length_append, List.length_singleton] at hlt
  obtain ⟨g, hg, he⟩ := parseExpression_render e h fuel (.punctuator ";" :: ts) (by omega)
  obtain ⟨g, rfl⟩ : ∃ g', g = g' + 1 := ⟨g - 1, by omega⟩
  rw [Statement.render, List.append_assoc, List.singleton_append, parseStatement, he,
    exprLoop_stop (.inl rfl), ok_bind]
  rfl

theorem codeBlockLoop_render : ∀ body : List Statement, body.all Statement.untyped = true →
    ∀ fuel acc ts, (body.flatMap Statement.render).length < fuel →
      codeBlockLoop fuel acc (body.flatMap Statement.render ++ .punctuator "\x7d" :: ts) =
        .ok (acc ++ body, .punctuator "\x7d" :: ts)
  | [], _, _ + 1, acc, ts, _ => by
    rw [List.flatMap_nil, List.nil_append, codeBlockLoop, if_pos rfl, List.append_nil]
  | s :: body, h, fuel + 1, acc, ts, hlt => by
    rw [List.all_cons, Bool.and_eq_true] at h
    rw [List.flatMap_cons, List.length_append] at hlt
    obtain ⟨t, rest, hr, ht⟩ := s.render_cons
    have hne : t ≠ .punctuator "\x7d" := by rintro rfl; cases ht
    have hpos : 0 < s.render.length := by rw [hr]; exact Nat.succ_pos _
    rw [List.flatMap_cons, List.append_assoc, hr, List.cons_append, codeBlockLoop, if_neg hne,
      ← List.cons_append, ← hr, parseStatement_render h.1 _ (by omega), ok_bind]
    dsimp only
    rw [codeBlockLoop_render body h.2 fuel _ ts (by omega), List.append_assoc,
      List.singleton_append]

theorem parseCodeBlock_render {body : List Statement} (h : body.all Statement.untyped = true)
    {fuel : Nat} (ts : List Token) (hlt : (body.flatMap Statement.render).length < fuel) :
    parseCodeBlock fuel (body.flatMap Statement.render ++ .punctuator "\x7d" :: ts) =
      .ok (body, ts) := by
  rw [parseCodeBlock, codeBlockLoop_render body h fuel [] ts hlt, ok_bind]
  rfl

theorem parseTypeLoop_stop (b : BaseType) (constant : Bool) :
    ∀ {ts : List Token}, ts.head?.all Token.endsType = true →
      parseTypeLoop (some b) constant ts = .ok (finishType (some b) constant, ts)
  | [], _ => rfl
  | .punctuator _ :: _, _ => rfl
  | .identifier _ :: _, _ => rfl
  | .keyword _ :: _, h => nomatch h
  | .stringLiteral _ _ :: _, h => nomatch h
  | .other _ :: _, h => nomatch h

theorem parseType_render {ty : Ty} (h : ty.isPrimitive = true) {ts : List Token}
    (hts : ts.head?.all Token.endsType = true) : parseType (ty.render ++ ts) = .ok (ty, ts) := by
  obtain ⟨_ | p, c⟩ := ty
  · cases h
  · cases p <;> cases c <;> exact parseTypeLoop_stop _ _ hts

theorem qualifierLoop_stop (fuel : Nat) (ptr : Pointer) :
    ∀ {ts : List Token}, ts.head?.all (fun t => !t.isKeyword) = true →
      qualifierLoop (fuel + 1) ptr ts = .ok (ptr, ts)
  | [], _ => by cases ptr; rfl
  | .keyword _ :: _, h => nomatch h
  | .identifier _ :: _, _ => by cases ptr; rfl
  | .punctuator _ :: _, _ => by cases ptr; rfl
  | .stringLiteral _ _ :: _, _ => by cases ptr; rfl
  | .other _ :: _, _ => by cases ptr; rfl

theorem pointerLoop_stop (fuel : Nat) (ptr : Option Pointer) :
    ∀ {ts : List Token}, ts.head? ≠ some (.punctuator "*") →
      pointerLoop (fuel + 1) ptr ts = .ok (ptr, ts)
  | [], _ => rfl
  | .punctuator p :: _, h => by
    rw [pointerLoop, if_pos (fun hp => h (by rw [hp]; rfl))]
  | .keyword _ :: _, _ => rfl
  | .identifier _ :: _, _ => rfl
  | .stringLiteral _ _ :: _, _ => rfl
  | .other _ :: _, _ => rfl

/-- The `*`s of a pointer are read back, and the pointer loop goes on from them. -/
theorem pointerLoop_render : ∀ p : Pointer, p.plain = true → ∀ fuel ts,
    ts.head?.all (fun t => !t.isKeyword) = true → p.render.length < fuel →
      pointerLoop fuel none (p.render ++ ts) = pointerLoop (fuel - p.render.length) (some p) ts
  | .mk constant restrict none, h, fuel + 2, ts, hts, _ => by
    simp only [Pointer.plain, Bool.and_eq_true, Bool.not_eq_true'] at h
    obtain ⟨rfl, rfl⟩ := h
    rw [Pointer.render, List.singleton_append, pointerLoop, if_neg (not_not.2 rfl)]
    rw [qualifierLoop_stop fuel _ hts, ok_bind]
    rfl
  | .mk constant restrict (some q), h, fuel, ts, hts, hlt => by
    simp only [Pointer.plain, Bool.and_eq_true, Bool.not_eq_true'] at h
    obtain ⟨⟨rfl, rfl⟩, hq⟩ := h
    simp only [Pointer.render, List.length_append, List.length_singleton] at hlt
    obtain ⟨g, hg⟩ : ∃ g, fuel - q.render.length = g + 2 := ⟨fuel - q.render.length - 2, by omega⟩
    rw [Pointer.render, List.append_assoc, List.singleton_append,
      pointerLoop_render q hq fuel (.punctuator "*" :: ts) rfl (by omega), hg, pointerLoop,
      if_neg (not_not.2 rfl), qualifierLoop_stop _ _ hts, ok_bind, List.length_append,
      List.length_singleton, show fuel - (q.render.length + 1) = g + 1 by omega]

theorem paramsWf_cons {x : FullType × Option String} {xs : List (FullType × Option String)}
    (h : paramsWf (x :: xs) = true) :
    paramWf x = true ∧ (x.2 = none → xs = []) ∧ paramsWf xs = true := by
  cases xs with
  | nil => simpa [paramsWf] using h
  | cons y ys =>
    simp only [paramsWf, List.all_cons, List.dropLast_cons₂, Bool.and_eq_true] at h ⊢
    exact ⟨h.1.1, fun hx => by simp [hx] at h, h.1.2, h.2.2⟩

/-- What follows a parameter's `*`s: its name, or the `)` after an unnamed last parameter. -/
theorem paramTail_head {name : Option String} {more : List Token}
    (h : name = none → more.head? = some (.punctuator ")")) :
    ∃ t, ((name.map Token.identifier).toList ++ more).head? = some t ∧
      (t = .punctuator ")" ∨ ∃ id, t = .identifier id) := by
  cases name with
  | some id => exact ⟨_, rfl, .inr ⟨id, rfl⟩⟩
  | none => exact ⟨_, h rfl, .inl rfl⟩

theorem paramName_render {name : Option String} {more : List Token}
    (h : name = none → more.head? = some (.punctuator ")")) :
    paramName ((name.map Token.identifier).toList ++ more) = (name, more) := by
  cases name with
  | some id => rfl
  | none =>
    match more, h rfl with
    | .punctuator _ :: _, _ => rfl

/-- One parameter, read by one round of the parameter loop: an unnamed one is followed by `)`. -/
theorem paramsLoop_param {x : FullType × Option String} (hx : paramWf x = true) {fuel : Nat}
    {acc : List (FullType × Option String)} {more : List Token}
    (hmore : x.2 = none → more.head? = some (.punctuator ")"))
    (hlt : (renderParam x).length ≤ fuel) :
    paramsLoop (fuel + 1) acc (renderParam x ++ more) = paramsLoop fuel (acc ++ [x]) more := by
  obtain ⟨⟨ty, ptr⟩, name⟩ := x
  simp only [paramWf, Bool.and_eq_true] at hx
  obtain ⟨kw, rest, hty⟩ := Ty.render_cons hx.1
  obtain ⟨t, hh, ht⟩ := @paramTail_head name more hmore
  have hend : ((name.map Token.identifier).toList ++ more).head?.all Token.endsType := by
    rw [hh]; rcases ht with rfl | ⟨_, rfl⟩ <;> rfl
  have hkw : ((name.map Token.identifier).toList ++ more).head?.all (fun t => !t.isKeyword) :=
    by rw [hh]; rcases ht with rfl | ⟨_, rfl⟩ <;> rfl
  have hstar : ((name.map Token.identifier).toList ++ more).head? ≠ some (.punctuator "*") :=
    by rw [hh]; rcases ht with rfl | ⟨_, rfl⟩ <;> simp
  simp only [renderParam, List.length_append, hty, List.length_cons] at hlt
  rw [renderParam, List.append_assoc, List.append_assoc, hty, List.cons_append, paramsLoop,
    if_neg (by simp), ← List.cons_append, ← hty]
  obtain ⟨fuel, rfl⟩ : ∃ f, fuel = f + 1 := ⟨fuel - 1, by omega⟩
  cases ptr with
  | none =>
    rw [Option.map_none', Option.getD_none, List.nil_append, parseType_render hx.1 hend, ok_bind]
    dsimp only
    rw [pointerLoop_stop _ _ hstar, ok_bind]
    dsimp only
    rw [@paramName_render name more hmore]
  | some p =>
    simp only [Option.all_some] at hx
    simp only [Option.map_some', Option.getD_some, List.length_append] at hlt ⊢
    obtain ⟨rest, hp⟩ := p.render_cons
    rw [parseType_render hx.1 (by rw [hp]; rfl), ok_bind]
    dsimp only
    obtain ⟨g, hg⟩ : ∃ g, fuel + 1 - p.render.length = g + 1 :=
      ⟨fuel - p.render.length, by omega⟩
    rw [pointerLoop_render p hx.2 _ _ hkw (by omega), hg, pointerLoop_stop _ _ hstar, ok_bind]
    dsimp only
    rw [@paramName_render name more hmore]

theorem paramsLoop_render : ∀ params : List (FullType × Option String), paramsWf params = true →
    ∀ fuel acc ts, (params.flatMap renderParam).length < fuel →
      paramsLoop fuel acc (params.flatMap renderParam ++ .punctuator ")" :: ts) =
        .ok (acc ++ params, ts)
  | [], _, _ + 1, acc, ts, _ => by
    rw [List.flatMap_nil, List.nil_append, paramsLoop, if_pos rfl, List.append_nil]
  | x :: xs, h, fuel + 1, acc, ts, hlt => by
    obtain ⟨hx, hlast, hxs⟩ := paramsWf_cons h
    rw [List.flatMap_cons, List.length_append] at hlt
    obtain ⟨kw, rest, hty⟩ : ∃ kw rest, renderParam x = .keyword kw :: rest := by
      obtain ⟨⟨ty, _⟩, _⟩ := x
      obtain ⟨kw, rest, h⟩ := Ty.render_cons (Bool.and_eq_true _ _ ▸ hx).1
      exact ⟨kw, _, by rw [renderParam, h, List.cons_append]⟩
    have hpos : 0 < (renderParam x).length := by rw [hty]; exact Nat.succ_pos _
    rw [List.flatMap_cons, List.append_assoc,
      paramsLoop_param hx (fun h => by rw [hlast h]; rfl) (by omega),
      paramsLoop_render xs hxs fuel _ ts (by omega), List.append_assoc, List.singleton_append]

theorem functionTail_render {init : Option Initializer}
    (h : ∀ body, init = some (.function body) → body.all Statement.untyped = true)
    (hinit : ∀ e, init ≠ some (.expression e)) {fuel : Nat} (ty : Ty) (name : String)
    (ts : List Token) (hlt : (renderFunctionTail init).length ≤ fuel) :
    functionTail fuel ty name (renderFunctionTail init ++ ts) =
      .ok ({ ty, pointer := none, name, initializer := init }, ts) := by
  match init, h, hinit with
  | none, _, _ => rfl
  | some (.expression e), _, hinit => exact absurd rfl (hinit e)
  | some (.function body), h, _ =>
    simp only [renderFunctionTail, List.length_cons, List.length_append,
      List.length_singleton] at hlt
    rw [renderFunctionTail, List.cons_append, functionTail, if_pos rfl, List.append_assoc,
      List.singleton_append, parseCodeBlock_render (h body rfl) ts (by omega), ok_bind]

theorem parseDeclaration_render {d : Declaration} (h : d.wf = true) {fuel : Nat}
    (ts : List Token) (hlt : d.render.length ≤ fuel) :
    parseDeclaration fuel (d.render ++ ts) = .ok (d, ts) := by
  obtain ⟨⟨base, c⟩, pointer, name, init⟩ := d
  cases base with
  | primitive p =>
    obtain ⟨rfl, rfl⟩ := Declaration.wf_primitive h
    rw [Declaration.render]
    dsimp only
    rw [List.append_assoc, parseDeclaration, @parseType_render (.mk (.primitive p) c) rfl
      ([Token.identifier name, Token.punctuator ";"] ++ ts) rfl, ok_bind]
    rfl
  | function ret params =>
    obtain ⟨rfl, rfl, hret, hparams, hbody, hinit⟩ := Declaration.wf_function h
    simp only [Declaration.render, List.length_append, List.length_cons] at hlt
    rw [Declaration.render]
    dsimp only
    rw [List.append_assoc, parseDeclaration, @parseType_render ret hret
      ((Token.identifier name :: Token.punctuator "(" ::
        (params.flatMap renderParam ++ Token.punctuator ")" :: renderFunctionTail init)) ++ ts) rfl,
      ok_bind]
    dsimp only
    rw [List.cons_append, List.cons_append, parseIdentifier, ok_bind]
    dsimp only
    rw [if_neg (by decide), if_neg (by decide), if_pos rfl, List.append_assoc, List.cons_append,
      paramsLoop_render params hparams fuel [] _ (by omega), ok_bind]
    exact functionTail_render hbody hinit _ _ ts (by omega)

end Render

/-! ### The round trip -/

/-- Every well-formed declaration list is what `parse` returns on its rendering, with one more
unit of fuel than there are tokens. -/
theorem parse_render : ∀ (ds : List Declaration), (∀ d ∈ ds, d.wf = true) →
    ∀ fuel, (renderDecls ds).length < fuel → parse fuel (renderDecls ds) = .ok ds
  | [], _, _ + 1, _ => rfl
  | d :: ds, h, fuel + 1, hlt => by
    rw [List.forall_mem_cons] at h
    obtain ⟨t, rest, hr⟩ := Declaration.render_cons h.1
    have hpos : 0 < d.render.length := by rw [hr]; exact Nat.succ_pos _
    rw [renderDecls_cons, List.length_append] at hlt
    rw [renderDecls_cons, hr, List.cons_append, parse, ← List.cons_append, ← hr,
      parseDeclaration_render h.1 _ (by omega), ok_bind]
    dsimp only
    rw [parse_render ds h.2 fuel (by omega), ok_bind]

/-- `int f(const char *s int n);` and `int main() { f("hi")(x, y); }`: the parameters of `f`
follow one another without a comma, as the parameter loop reads them, and the calls nest. -/
def sampleDecls : List Declaration :=
  [{ ty := .mk (.function (.mk (.primitive .int) false)
        [(.mk (.mk (.primitive .char) true) (some (.mk false false none)), some "s"),
          (.mk (.mk (.primitive .int) false) none, some "n")]) false,
      pointer := none, name := "f", initializer := none },
    { ty := .mk (.function (.mk (.primitive .int) false) []) false, pointer := none,
      name := "main",
      initializer := some (.function [.expression (.functionCall
        (.functionCall (.identifier "f" none) [.string "hi" none] none)
        [.identifier "x" none, .identifier "y" none] none)]) }]

theorem sample_parse_render :
    (∀ d ∈ sampleDecls, d.wf = true) ∧ (renderDecls sampleDecls).length < 40 ∧
      parse 40 (renderDecls sampleDecls) = .ok sampleDecls :=
  ⟨by decide, by decide, parse_render sampleDecls (by decide) 40 (by decide)⟩

end Lccc.C
