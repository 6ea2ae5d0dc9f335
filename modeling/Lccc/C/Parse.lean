import Mathlib.Logic.Basic

/-!
# Lccc.C.Parse

**The C front end's parser, `c/src/parse.rs`.** The parser reads a `Peekable` iterator over the
lexer's tokens; here its state is the list of tokens not yet consumed, so `peek` is the head of
the list and `next` drops it. Every function returns what it built and the tokens left, or how it
stopped:

* `diagnostic()` (a panic) and `todo!()` are `Stop.diagnostic` and `Stop.todo`;
* every loop that may run without consuming a token takes a fuel argument, one unit per round,
  and `Stop.outOfFuel` stands for the loop never ending.

The loop of `parse_type` consumes a token in every round it continues, so it is recursion on the
token list and needs no fuel. The lexer (`crate::lex`) is not among the sources: `Token` has the
constructors the parser matches on, and `other` for the rest.
-/

namespace Lccc.C

/-- `crate::lex::Token`, as far as the parser tells them apart. -/
inductive Token where
  | identifier (id : String)
  | keyword (kw : String)
  | punctuator (p : String)
  | stringLiteral (kind : String) (str : String)
  | other (text : String)
  deriving Repr, DecidableEq

/-- `PrimitiveType`. -/
inductive PrimitiveType where
  | char
  | int
  deriving Repr, DecidableEq

/-- `Pointer`: a level of indirection with its qualifiers, over the one it points through. -/
inductive Pointer where
  | mk (constant : Bool) (restrict : Bool) (subPtr : Option Pointer)

mutual
/-- `BaseType`. -/
inductive BaseType where
  | function (ret : Ty) (params : List (FullType × Option String))
  | primitive (p : PrimitiveType)
/-- `Type`: a base type and its `const` flag. -/
inductive Ty where
  | mk (base : BaseType) (constant : Bool)
/-- `FullType`: a type and the pointer declarator applied to it. -/
inductive FullType where
  | mk (inner : Ty) (pointer : Option Pointer)
end

/-- `Expression`. -/
inductive Expression where
  | functionCall (callee : Expression) (args : List Expression) (ty : Option FullType)
  | identifier (id : String) (ty : Option FullType)
  | string (str : String) (ty : Option FullType)

/-- `Statement`. -/
inductive Statement where
  | expression (e : Expression)

/-- `Initializer`. -/
inductive Initializer where
  | expression (e : Expression)
  | function (body : List Statement)

/-- `Declaration`. -/
structure Declaration where
  ty : Ty
  pointer : Option Pointer
  name : String
  initializer : Option Initializer

/-- How the parser stops without a result. -/
inductive Stop where
  /-- `diagnostic()`: the panic "Incorrect program (better messages coming later)". -/
  | diagnostic
  /-- `todo!()`. -/
  | todo
  /-- A loop ran out of fuel: the source loops forever. -/
  | outOfFuel
  deriving Repr, DecidableEq

/-! ### Types -/

/-- `parse_identifier`. -/
def parseIdentifier : List Token → Except Stop (String × List Token)
  | .identifier id :: ts => .ok (id, ts)
  | _ => .error .diagnostic

/-- The end of `parse_type`: the base type read, `int` when none was. -/
def finishType (base : Option BaseType) (constant : Bool) : Ty :=
  .mk (base.getD (.primitive .int)) constant

/-- The loop of `parse_type`, from the base type and `const` flag read so far. -/
def parseTypeLoop (base : Option BaseType) (constant : Bool) :
    List Token → Except Stop (Ty × List Token)
  | [] => .ok (finishType base constant, [])
  | t :: ts =>
    if t = .keyword "char" then
      if base.isSome then .error .diagnostic
      else parseTypeLoop (some (.primitive .char)) constant ts
    else if t = .keyword "const" then parseTypeLoop base true ts
    else if t = .keyword "int" then
      if base.isSome then .error .diagnostic
      else parseTypeLoop (some (.primitive .int)) constant ts
    else match t with
      | .punctuator _ => .ok (finishType base constant, t :: ts)
      | .identifier _ =>
        if base.isSome then .ok (finishType base constant, t :: ts) else .error .todo
      | _ => .error .diagnostic

/-- `parse_type`. -/
def parseType (ts : List Token) : Except Stop (Ty × List Token) :=
  parseTypeLoop none false ts

/-! ### Expressions and statements -/

/-- `parse_primary_expression`. -/
def parsePrimaryExpression : List Token → Except Stop (Expression × List Token)
  | .identifier id :: ts => .ok (.identifier id none, ts)
  | .stringLiteral _ str :: ts => .ok (.string str none, ts)
  | _ => .error .diagnostic

mutual
/-- `parse_expression`. -/
def parseExpression : Nat → List Token → Except Stop (Expression × List Token)
  | 0, _ => .error .outOfFuel
  | fuel + 1, ts => do
    let (lhs, ts) ← parsePrimaryExpression ts
    exprLoop fuel lhs ts

/-- The loop of `parse_expression` after the primary expression: a call for each `(`, until a
`;`, `,` or `)`. Any other punctuator is looked at and left in place. -/
def exprLoop : Nat → Expression → List Token → Except Stop (Expression × List Token)
  | 0, _, _ => .error .outOfFuel
  | _ + 1, lhs, [] => .ok (lhs, [])
  | fuel + 1, lhs, .punctuator p :: ts =>
    if p = ";" ∨ p = "," ∨ p = ")" then .ok (lhs, .punctuator p :: ts)
    else if p = "(" then do
      let (args, ts) ← argsLoop fuel [] false false ts
      exprLoop fuel (.functionCall lhs args none) ts
    else exprLoop fuel lhs (.punctuator p :: ts)
  | _ + 1, _, _ :: _ => .error .diagnostic

/-- The argument loop of a call: arguments separated by commas, up to `)`. -/
def argsLoop : Nat → List Expression → Bool → Bool → List Token →
    Except Stop (List Expression × List Token)
  | 0, _, _, _, _ => .error .outOfFuel
  | _ + 1, args, _, _, [] => .ok (args, [])
  | fuel + 1, args, commaExpected, trailingComma, t :: ts =>
    if t = .punctuator ")" then
      if trailingComma then .error .diagnostic else .ok (args, ts)
    else if commaExpected then
      if t = .punctuator "," then argsLoop fuel args false true ts else .error .diagnostic
    else do
      let (e, ts) ← parseExpression fuel (t :: ts)
      argsLoop fuel (args ++ [e]) true false ts
end

/-- `parse_statement`: an expression and its `;`. -/
def parseStatement (fuel : Nat) (ts : List Token) : Except Stop (Statement × List Token) := do
  let (e, ts) ← parseExpression fuel ts
  match ts with
  | .punctuator ";" :: ts => .ok (.expression e, ts)
  | _ => .error .diagnostic

/-- The loop of `parse_code_block`: statements up to `}`. -/
def codeBlockLoop : Nat → List Statement → List Token → Except Stop (List Statement × List Token)
  | 0, _, _ => .error .outOfFuel
  | _ + 1, result, [] => .ok (result, [])
  | fuel + 1, result, t :: ts =>
    if t = .punctuator "\x7d" then .ok (result, t :: ts)
    else do
      let (s, ts) ← parseStatement fuel (t :: ts)
      codeBlockLoop fuel (result ++ [s]) ts

/-- `parse_code_block`: the statements and the closing `}`. -/
def parseCodeBlock (fuel : Nat) (ts : List Token) : Except Stop (List Statement × List Token) := do
  let (result, ts) ← codeBlockLoop fuel [] ts
  match ts with
  | .punctuator "\x7d" :: ts => .ok (result, ts)
  | _ => .error .diagnostic

/-! ### Declarations -/

/-- The qualifier loop after a `*` of `parse_declaration`: it records `const` and `restrict`
while the next token is a keyword, and never consumes it. -/
def qualifierLoop : Nat → Pointer → List Token → Except Stop (Pointer × List Token)
  | 0, _, _ => .error .outOfFuel
  | fuel + 1, .mk constant restrict subPtr, .keyword kw :: ts =>
    qualifierLoop fuel
      (if kw = "const" then .mk true restrict subPtr
        else if kw = "restrict" then .mk constant true subPtr
        else .mk constant restrict subPtr)
      (.keyword kw :: ts)
  | _ + 1, ptr, ts => .ok (ptr, ts)

/-- The loop over the `*`s of a parameter's declarator. -/
def pointerLoop : Nat → Option Pointer → List Token → Except Stop (Option Pointer × List Token)
  | 0, _, _ => .error .outOfFuel
  | fuel + 1, pointer, .punctuator p :: ts =>
    if p ≠ "*" then .ok (pointer, .punctuator p :: ts)
    else do
      let (ptr, ts) ← qualifierLoop fuel (.mk false false pointer) ts
      pointerLoop fuel (some ptr) ts
  | _ + 1, pointer, ts => .ok (pointer, ts)

/-- A parameter's name, when the next token is an identifier. -/
def paramName : List Token → Option String × List Token
  | .identifier id :: ts => (some id, ts)
  | ts => (none, ts)

/-- The parameter loop of a function declarator, up to `)`: a type, its pointers and an optional
name per round. A `,` between parameters is never consumed. -/
def paramsLoop : Nat → List (FullType × Option String) → List Token →
    Except Stop (List (FullType × Option String) × List Token)
  | 0, _, _ => .error .outOfFuel
  | _ + 1, params, [] => .ok (params, [])
  | fuel + 1, params, t :: ts =>
    if t = .punctuator ")" then .ok (params, ts)
    else do
      let (ty, ts) ← parseType (t :: ts)
      let (pointer, ts) ← pointerLoop fuel none ts
      let (name, ts) := paramName ts
      paramsLoop fuel (params ++ [(.mk ty pointer, name)]) ts

/-- The end of a function declarator: a body, or `;`. -/
def functionTail (fuel : Nat) (ty : Ty) (name : String) :
    List Token → Except Stop (Declaration × List Token)
  | .punctuator p :: ts =>
    if p = "\x7b" then do
      let (body, ts) ← parseCodeBlock fuel ts
      .ok ({ ty, pointer := none, name, initializer := some (.function body) }, ts)
    else if p = ";" then .ok ({ ty, pointer := none, name, initializer := none }, ts)
    else .error .diagnostic
  | _ => .error .diagnostic

/-- `parse_declaration`: a type, a name, and `;`, or a parameter list and a body or `;`. -/
def parseDeclaration (fuel : Nat) (ts : List Token) : Except Stop (Declaration × List Token) := do
  let (ty, ts) ← parseType ts
  let (name, ts) ← parseIdentifier ts
  match ts with
  | .punctuator p :: ts =>
    if p = ";" then .ok ({ ty, pointer := none, name, initializer := none }, ts)
    else if p = "=" then .error .todo
    else if p = "(" then do
      let (params, ts) ← paramsLoop fuel [] ts
      functionTail fuel (.mk (.function ty params) false) name ts
    else .error .diagnostic
  | _ => .error .todo

/-- `parse`: declarations until the tokens run out. -/
def parse : Nat → List Token → Except Stop (List Declaration)
  | 0, _ => .error .outOfFuel
  | _ + 1, [] => .ok []
  | fuel + 1, t :: ts => do
    let (d, ts) ← parseDeclaration fuel (t :: ts)
    let ds ← parse fuel ts
    .ok (d :: ds)

end Lccc.C
