import Lccc.Driver

/-!
# Lccc.Driver.Link

**The link step of `main`.** It runs when the mode is `Mode::Link`, over the objects of the inputs
in order; which paths exist and whether a command can be started are parameters (`pathExists`,
`runs`), since the file system and the processes are outside the model.

* `linkLibdirs` builds the candidate library directories in the order of the nested loops of the
  source, and `findIn` takes the first of them that holds a file, as the loop with `break` does.
* `ldLink` is the arm for an executable (`-pie` for a position-independent one): the dynamic
  linker and the start and end files are looked up, and the objects stand between the start
  files and `--as-needed`. The static arm runs `ar` and then panics with `todo!()`; the shared
  and manifest arms panic.
-/

namespace Lccc.Driver

/-! ### The link step -/

/-- `PathBuf::push` on a Unix path: an absolute component replaces the path; any other is appended,
after a separator unless the path is empty or already ends in one. -/
def pathPush (p q : String) : String :=
  if q.toList.head? = some '/' then q
  else
    match p.toList.getLast? with
    | none | some '/' => p ++ q
    | some _ => p ++ "/" ++ q

/-- The second target name of the link step: the architecture and `-`, then the operating system
and `-`, the environment and the object format, each when the target has one. -/
def targetDirName (arch : String) (os env objFormat : Option String) : String :=
  arch ++ "-" ++ (match os with
    | some os => os ++ "-"
    | none => "") ++ env.getD "" ++ objFormat.getD ""

/-- The candidate library directories, as the nested loops over the base directories and the
library directories push them: `base/lib`, `base/lib/` with each target name, and `base/` with
each target name `/lib`. -/
def linkLibdirs (baseDirs libdirs : List String) (targ1 targ2 : String) : List String :=
  baseDirs.foldl (fun acc basedir =>
    libdirs.foldl (fun acc libdir =>
      (acc ++ ["", targ1, targ2].map fun targ => pathPush (pathPush basedir libdir) targ) ++
        [targ1, targ2].map fun targ => pathPush (pathPush basedir targ) libdir) acc) []

/-- The search loop for one file: the file under the first candidate directory where it exists. -/
def findIn (pathExists : String → Bool) (file : String) : List String → Option String
  | [] => none
  | d :: ds =>
    if pathExists (pathPush d file) then some (pathPush d file) else findIn pathExists file ds

/-- One round of the loop over the start files or the end files: the file found, or the panic
naming it. -/
def findFile (pathExists : String → Bool) (libdirs : List String) (what file : String) :
    Except String String :=
  match findIn pathExists file libdirs with
  | some path => .ok path
  | none => .error ("Could not find " ++ what ++ " " ++ file)

/-- The loop over the start files or the end files. -/
def findFiles (pathExists : String → Bool) (libdirs : List String) (what : String)
    (files : List String) : Except String (List String) :=
  files.mapM (findFile pathExists libdirs what)

/-- The target properties the link step reads. -/
structure LinkProperties where
  baseDirs : List String
  libdirs : List String
  interp : String
  startfiles : List String
  endfiles : List String
  defaultLibs : List String

/-- The arm of the link step for an executable (`pie` for a position-independent one): the `ld`
command it runs. -/
def ldLink (props : LinkProperties) (pathExists : String → Bool) (runs : List String → Bool)
    (targ1 targ2 : String) (pie : Bool) (output : Option String) (objects : List String) :
    Except String (List String) := do
  let libdirs := linkLibdirs props.baseDirs props.libdirs targ1 targ2
  let linkArgs := if pie then ["-pie"] else []
  let interp ← unwrapValue (findIn pathExists props.interp libdirs)
  let startfiles ← findFiles pathExists libdirs "startfile" props.startfiles
  let endfiles ← findFiles pathExists libdirs "endfile" props.endfiles
  let cmd := "ld" :: linkArgs ++ ["-dynamic-linker", interp] ++ libdirs.map ("-L" ++ ·) ++
    ["-o", output.getD "a.out"] ++ startfiles ++ objects ++ ["--as-needed"] ++
    props.defaultLibs.map ("-l" ++ ·) ++ endfiles
  if runs cmd then .ok cmd else .error ("Failed to execute command ld " ++ String.join linkArgs)

/-- The `Mode::Link` step of `main` over the objects of the inputs, in order: the command it runs,
or the panic. `todo!()` panics with `not yet implemented`. -/
def linkStep (props : LinkProperties) (pathExists : String → Bool) (runs : List String → Bool)
    (targ1 targ2 : String) (o : Options) (objects : List String) : Except String (List String) :=
  match o.linkOutput with
  | .shared => .error "not yet implemented"
  | .static => do
    let out ← unwrapValue o.output
    if runs (["ar", "r", "c", "s", out] ++ objects) then .error "not yet implemented"
    else .error ("Could not run command ar rcs " ++ String.join objects)
  | .executable => ldLink props pathExists runs targ1 targ2 false o.output objects
  | .pie => ldLink props pathExists runs targ1 targ2 true o.output objects
  | .manifest => .error "Manifest Handled elsewhere"

end Lccc.Driver
