import Lccc.C.Parse

/-!
# Lccc.C.ParseLoops

**Three loops of the parser can go round forever.** On an input, `parse` ends when some fuel is
enough for every loop it enters. Three loops can go round without consuming a token, and on the
inputs that reach them no fuel is enough:

* the parameter loop on a `,` between two parameters: a round reads the type `int` (the `,`
  ends it at once), no pointer and no name, and leaves the `,` where it was;
* the qualifier loop on a keyword after a `*`: it records the keyword and leaves it where it
  was;
* the loop of `parse_expression` on a punctuator other than `(`, `)`, `,` and `;` after a
  primary expression, such as the `+` of `x + y`: it looks at it and leaves it where it was.

Each loop lemma is an induction on the fuel with the tokens fixed; the lemmas above them pass the
endless loop up to `parse`.
-/

namespace Lccc.C

/-! ### Loops that consume nothing -/

/-- A `,` after a parameter: the parameter loop never ends. -/
theorem paramsLoop_comma (rest : List Token) :
    ∀ fuel params, paramsLoop fuel params (.punctuator "," :: rest) = .error .outOfFuel
  | 0, _ => rfl
  | 1, _ => rfl
  | fuel + 2, _ => paramsLoop_comma rest (fuel + 1) _

/-- A keyword after a `*`: the qualifier loop never ends. -/
theorem qualifierLoop_keyword (kw : String) (rest : List Token) :
    ∀ fuel ptr, qualifierLoop fuel ptr (.keyword kw :: rest) = .error .outOfFuel
  | 0, _ => rfl
  | fuel + 1, .mk _ _ _ => qualifierLoop_keyword kw rest fuel _

/-- A punctuator other than `(`, `)`, `,` and `;` after an expression: the loop of
`parse_expression` never ends. -/
theorem exprLoop_punctuator {p : String} (hp : p ≠ ";" ∧ p ≠ "," ∧ p ≠ ")" ∧ p ≠ "(")
    (rest : List Token) :
    ∀ fuel lhs, exprLoop fuel lhs (.punctuator p :: rest) = .error .outOfFuel
  | 0, _ => rfl
  | fuel + 1, lhs => by
    rw [exprLoop, if_neg (by simp [hp]), if_neg hp.2.2.2]
    exact exprLoop_punctuator hp rest fuel lhs

/-! ### The loops that reach them -/

/-- A first parameter `int a` followed by a `,`. -/
theorem paramsLoop_int_comma (a : String) (rest : List Token) :
    ∀ fuel params, paramsLoop fuel params
      (.keyword "int" :: .identifier a :: .punctuator "," :: rest) = .error .outOfFuel
  | 0, _ => rfl
  | 1, _ => rfl
  | fuel + 2, _ => paramsLoop_comma rest (fuel + 1) _

/-- A `*` followed by a keyword ends in the qualifier loop. -/
theorem pointerLoop_star_keyword (kw : String) (rest : List Token) :
    ∀ fuel ptr, pointerLoop fuel ptr (.punctuator "*" :: .keyword kw :: rest) = .error .outOfFuel
  | 0, _ => rfl
  | fuel + 1, _ => by
    show (qualifierLoop fuel _ _ >>= _) = _
    rw [qualifierLoop_keyword]
    rfl

/-- A first parameter `char *` followed by a keyword. -/
theorem paramsLoop_char_star_keyword (kw : String) (rest : List Token) :
    ∀ fuel params, paramsLoop fuel params
      (.keyword "char" :: .punctuator "*" :: .keyword kw :: rest) = .error .outOfFuel
  | 0, _ => rfl
  | fuel + 1, _ => by
    show (pointerLoop fuel none _ >>= _) = _
    rw [pointerLoop_star_keyword]
    rfl

/-- A statement `x p ...` whose expression loop never ends. -/
theorem parseStatement_punctuator {p : String} (hp : p ≠ ";" ∧ p ≠ "," ∧ p ≠ ")" ∧ p ≠ "(")
    (x : String) (rest : List Token) :
    ∀ fuel, parseStatement fuel (.identifier x :: .punctuator p :: rest) = .error .outOfFuel
  | 0 => rfl
  | fuel + 1 => by
    show (exprLoop fuel _ _ >>= _) = _
    rw [exprLoop_punctuator hp]
    rfl

/-- A function body starting with such a statement. -/
theorem parseCodeBlock_punctuator {p : String} (hp : p ≠ ";" ∧ p ≠ "," ∧ p ≠ ")" ∧ p ≠ "(")
    (x : String) (rest : List Token) :
    ∀ fuel, parseCodeBlock fuel (.identifier x :: .punctuator p :: rest) = .error .outOfFuel
  | 0 => rfl
  | fuel + 1 => by
    show ((parseStatement fuel _ >>= _) >>= _) = _
    rw [parseStatement_punctuator hp]
    rfl

/-- A declaration `int f(...` whose parameter loop never ends. -/
theorem parse_of_paramsLoop {f : String} {ts : List Token}
    (h : ∀ fuel, paramsLoop fuel [] ts = .error .outOfFuel) :
    ∀ fuel, parse fuel (.keyword "int" :: .identifier f :: .punctuator "(" :: ts) =
      .error .outOfFuel
  | 0 => rfl
  | fuel + 1 => by
    show ((paramsLoop fuel [] ts >>= _) >>= _) = _
    rw [h]
    rfl

/-- A declaration `int f() { ...` whose body never ends. -/
theorem parse_of_parseCodeBlock {f : String} {ts : List Token}
    (h : ∀ fuel, parseCodeBlock fuel ts = .error .outOfFuel) :
    ∀ fuel, parse fuel (.keyword "int" :: .identifier f :: .punctuator "(" :: .punctuator ")" ::
      .punctuator "\x7b" :: ts) = .error .outOfFuel
  | 0 => rfl
  | 1 => rfl
  | fuel + 2 => by
    show ((parseCodeBlock (fuel + 1) ts >>= _) >>= _) = _
    rw [h]
    rfl

/-! ### `parse` -/

/-- `parse` does not end on every input: a `,` between two parameters (`int f(int a, ...`), a
keyword after a `*` in a parameter (`int f(char * const ...`), and a punctuator other than `(`,
`)`, `,` and `;` after an identifier in a function body (`int f() { x + ...`) each make it run
out of fuel, whatever the fuel, and whatever follows. -/
theorem parse_runs_forever (f a x kw p : String) (hp : p ≠ ";" ∧ p ≠ "," ∧ p ≠ ")" ∧ p ≠ "(") :
    (∀ rest fuel, parse fuel (.keyword "int" :: .identifier f :: .punctuator "(" ::
        .keyword "int" :: .identifier a :: .punctuator "," :: rest) = .error .outOfFuel) ∧
      (∀ rest fuel, parse fuel (.keyword "int" :: .identifier f :: .punctuator "(" ::
        .keyword "char" :: .punctuator "*" :: .keyword kw :: rest) = .error .outOfFuel) ∧
      ∀ rest fuel, parse fuel (.keyword "int" :: .identifier f :: .punctuator "(" ::
        .punctuator ")" :: .punctuator "\x7b" :: .identifier x :: .punctuator p :: rest) =
          .error .outOfFuel :=
  ⟨fun rest => parse_of_paramsLoop fun fuel => paramsLoop_int_comma a rest fuel [],
    fun rest => parse_of_paramsLoop fun fuel => paramsLoop_char_star_keyword kw rest fuel [],
    fun rest => parse_of_parseCodeBlock (parseCodeBlock_punctuator hp x rest)⟩

/-- `int f(int a, int b);`, `int f(char * const s);` and `int f() { x + y; }`. -/
theorem sample_programs_run_forever :
    (∀ rest fuel, parse fuel (.keyword "int" :: .identifier "f" :: .punctuator "(" ::
        .keyword "int" :: .identifier "a" :: .punctuator "," :: rest) = .error .outOfFuel) ∧
      (∀ rest fuel, parse fuel (.keyword "int" :: .identifier "f" :: .punctuator "(" ::
        .keyword "char" :: .punctuator "*" :: .keyword "const" :: rest) = .error .outOfFuel) ∧
      ∀ rest fuel, parse fuel (.keyword "int" :: .identifier "f" :: .punctuator "(" ::
        .punctuator ")" :: .punctuator "\x7b" :: .identifier "x" :: .punctuator "+" :: rest) =
          .error .outOfFuel :=
  parse_runs_forever "f" "a" "x" "const" "+" ⟨by decide, by decide, by decide, by decide⟩

end Lccc.C
