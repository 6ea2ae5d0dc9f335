import Lccc.Driver

/-!
# Lccc.DriverSound

**What the option loop of `main` leaves, and where objects go.** `finalOptions` says what a
command line sets, field by field, without the loop: a variable that each option of a kind
overwrites ends as the last such option's value (`List.getLastD`), the search path gathers every
`--plugin-dirs` in order, and `--intree` sticks. The loop accepts exactly the command lines whose
options are all `Arg.valid`, and then leaves `finalOptions` (`applyArgs_eq_ok_iff`); it is proved
one option at a time (`applyArg_eq_ok_iff`, `finalOptions_append`) and by induction on the
options. Everything here holds for every `Target::parse` (the section variable `parseTarget`).
-/

namespace Lccc.Driver

section OptionLoop

variable (parseTarget : String → Except String String)

/-- The options the loop has an arm for, with the value the arm unwraps, a target tuple
`Target::parse` takes and a linker output it knows. -/
def Arg.valid (arg : Arg) : Bool :=
  match arg.name with
  | "intree" | "output" | "compile" | "typeck" => true
  | "plugindirs" => arg.value.isSome
  | "target" => (unwrapValue arg.value >>= parseTarget).toBool
  | "ldout" => (linkOutputOf arg.value).toBool
  | _ => false

/-- The mode an option selects. -/
def Arg.mode? (arg : Arg) : Option Mode :=
  if arg.name = "compile" then some .compileOnly
  else if arg.name = "typeck" then some .typeCheck
  else none

/-- What a command line sets, read off its options: the last `--target`, `-o`, mode option and
`--linker-output` win over what was there, the `--plugin-dirs` values are appended in order, and
`--intree` sets the flag for good. -/
def finalOptions (o : Options) (args : List Arg) : Options where
  target := (args.filterMap fun a =>
    if a.name = "target" then (unwrapValue a.value >>= parseTarget).toOption else none).getLastD
      o.target
  output :=
    (args.filterMap fun a => if a.name = "output" then some a.value else none).getLastD o.output
  mode := (args.filterMap Arg.mode?).getLastD o.mode
  linkOutput := (args.filterMap fun a =>
    if a.name = "ldout" then (linkOutputOf a.value).toOption else none).getLastD o.linkOutput
  searchPaths := o.searchPaths ++ args.filterMap fun a => if a.name = "plugindirs" then a.value else none
  intree := o.intree || args.any fun a => a.name = "intree"

/-! ### One option -/

theorem unwrapValue_eq_ok {o : Option String} {v : String} :
    unwrapValue o = .ok v ↔ o = some v := by
  cases o <;> simp [unwrapValue]

theorem finalOptions_nil (o : Options) : finalOptions parseTarget o [] = o := by
  cases o
  simp [finalOptions]

variable {parseTarget} in
theorem applyArg_eq_ok_iff {o o' : Options} {arg : Arg} :
    applyArg parseTarget o arg = .ok o' ↔
      arg.valid parseTarget = true ∧ finalOptions parseTarget o [arg] = o' := by
  obtain ⟨name, value⟩ := arg
  unfold applyArg Arg.valid
  split
  case h_3 =>
    cases value with
    | none => simp_all [unwrapValue, Except.toBool]
    | some v =>
      rcases h : parseTarget v with e | t <;>
        simp_all [finalOptions, unwrapValue, Arg.mode?, Except.toBool, Except.toOption]
  case h_7 =>
    rcases h : linkOutputOf value with e | lo <;>
      simp_all [finalOptions, Arg.mode?, Except.toBool, Except.toOption]
  all_goals cases value <;> simp_all [finalOptions, unwrapValue, Arg.mode?]

/-- A variable overwritten by `l1` and then by `l2` ends as `l2` leaves the value `l1` left. -/
theorem getLastD_append {β : Type} (l1 l2 : List β) (d : β) :
    (l1 ++ l2).getLastD d = l2.getLastD (l1.getLastD d) := by
  induction l1 generalizing d with
  | nil => rfl
  | cons x l1 ih => rw [List.cons_append, List.getLastD_cons, List.getLastD_cons, ih]

/-- Reading a command line in two parts gives what reading it whole does. -/
theorem finalOptions_append (o : Options) (xs ys : List Arg) :
    finalOptions parseTarget (finalOptions parseTarget o xs) ys =
      finalOptions parseTarget o (xs ++ ys) := by
  simp only [finalOptions, List.filterMap_append, getLastD_append, List.append_assoc,
    List.any_append, Bool.or_assoc]

/-! ### The whole loop -/

variable {parseTarget} in
/-- The option loop of `main` accepts a command line exactly when every option is one it has an
arm for, with the value that arm unwraps and a target tuple `Target::parse` takes, and then
leaves `finalOptions`. -/
theorem applyArgs_eq_ok_iff {o o' : Options} {args : List Arg} :
    applyArgs parseTarget o args = .ok o' ↔
      (∀ a ∈ args, a.valid parseTarget = true) ∧ finalOptions parseTarget o args = o' := by
  induction args generalizing o with
  | nil =>
    rw [finalOptions_nil]
    exact ⟨fun h => ⟨nofun, Except.ok.inj h⟩, fun ⟨_, h⟩ => h ▸ rfl⟩
  | cons a as ih =>
    rw [applyArgs, List.foldlM_cons, bind_eq_ok, List.forall_mem_cons, ← List.singleton_append,
      ← finalOptions_append]
    constructor
    · rintro ⟨o1, h1, h2⟩
      obtain ⟨hv, rfl⟩ := applyArg_eq_ok_iff.1 h1
      obtain ⟨hvs, rfl⟩ := ih.1 h2
      exact ⟨⟨hv, hvs⟩, rfl⟩
    · rintro ⟨⟨hv, hvs⟩, rfl⟩
      exact ⟨_, applyArg_eq_ok_iff.2 ⟨hv, rfl⟩, ih.2 ⟨hvs, rfl⟩⟩

/-- `--shared` is among the `ArgSpec`s of `main`, but the loop has no arm for it: every command
line that has it panics, whatever stands around it. -/
theorem shared_option_panics (o : Options) (pre post : List Arg) (v : Option String) :
    ∃ e, applyArgs parseTarget o (pre ++ ⟨"shared", v⟩ :: post) = .error e := by
  rw [applyArgs, List.foldlM_append]
  rcases pre.foldlM (applyArg parseTarget) o with e | o'
  · exact ⟨e, error_bind ..⟩
  · have hpanic : applyArg parseTarget o' ⟨"shared", v⟩ = .error "explicit panic" := rfl
    exact ⟨_, by rw [ok_bind, List.foldlM_cons, hpanic, error_bind]⟩

end OptionLoop

/-! ### Object files -/

theorem rfind_of_not_mem {c : Char} : ∀ {cs : List Char}, c ∉ cs → rfind cs c = none
  | [], _ => rfl
  | x :: xs, h => by
    rw [List.mem_cons, not_or] at h
    rw [rfind, rfind_of_not_mem h.2, if_neg (Ne.symm h.1)]

theorem rfind_append_cons {c : Char} {ext : List Char} (hc : c ∉ ext) :
    ∀ stem : List Char, rfind (stem ++ c :: ext) c = some stem.length
  | [] => by rw [List.nil_append, rfind, rfind_of_not_mem hc, if_pos rfl, List.length_nil]
  | x :: stem => by rw [List.cons_append, rfind, rfind_append_cons hc stem, List.length_cons]

/-- A file's object is named by cutting the whole path at its last `.`, wherever it stands, and
appending the object suffix; a path without `.` keeps its whole name. -/
theorem objectFileName_cuts_last_dot (objSuffix : String) :
    (∀ stem ext : List Char, '.' ∉ ext →
      objectFileName objSuffix (String.mk (stem ++ '.' :: ext)) = String.mk stem ++ objSuffix) ∧
      ∀ file : String, '.' ∉ file.toList → objectFileName objSuffix file = file ++ objSuffix := by
  refine ⟨fun stem ext hext => ?_, fun file hfile => ?_⟩
  · simp only [objectFileName, String.toList, rfind_append_cons hext, List.take_left]
  · rw [objectFileName, rfind_of_not_mem hfile]

/-- `./a` gives `.o`: the cut falls in the directory, and the file name is lost. -/
theorem dot_slash_object_name :
    '.' ∉ "/a".toList ∧ objectFileName ".o" "./a" = ".o" :=
  ⟨by decide, (objectFileName_cuts_last_dot ".o").1 [] "/a".toList (by decide)⟩

end Lccc.Driver
