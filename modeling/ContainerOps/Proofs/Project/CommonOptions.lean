import ContainerOps.Project.Operation

/-!
# What the common arguments tell of a project

The arguments that all commands on a project begin with are a code for some options of it.  The
options have no place of their own in the list, and their values can be any texts, among them the
names of options.  Still the list is read from left to right without any doubt: behind a value there
is always the name of an option or the end.

Main results:

- `valuesOf_eq_iff` and `valueOf?_eq_iff`: what is read off at the front of some arguments.
- `CommonOptions.ofArguments?_arguments` and `CommonOptions.eq_arguments_of_ofArguments?`: the
  lists that are read are the codes of what is read.
- `baseArgs_tell_commonOptions`: projects with the same common arguments have the same options.
-/

namespace ContainerOps.Project

/-! ## Options at the front -/

/-- The arguments begin with an option of the name and a value for it. -/
def Begins (name : String) (args : List String) : Prop :=
  ∃ value rest, args = name :: value :: rest

/-- The values of an option that may be given many times, and the arguments behind them. -/
def valuesOf (name : String) : List String → List String × List String
  | word :: value :: rest =>
    if word = name then
      let more := valuesOf name rest
      (value :: more.1, more.2)
    else ([], word :: value :: rest)
  | args => ([], args)

/-- The value of an option that may be given once, and the arguments behind it. -/
def valueOf? (name : String) : List String → Option String × List String
  | word :: value :: rest =>
    if word = name then (some value, rest) else (none, word :: value :: rest)
  | args => (none, args)

/-- Nothing begins with an option. -/
theorem not_begins_nil (name : String) : ¬Begins name [] := by
  rintro ⟨value, rest, hargs⟩
  cases hargs

/-- Arguments that begin with an option do not begin with another one. -/
theorem not_begins_option {name other : String} (hne : other ≠ name) (value : String)
    (rest : List String) : ¬Begins name (option other value ++ rest) := by
  rintro ⟨_, _, hargs⟩
  exact hne (List.cons.inj hargs).1

/-- Options with another name can be put in front. -/
theorem not_begins_append {name other : String} (hne : other ≠ name) (values : List String)
    {rest : List String} (hrest : ¬Begins name rest) :
    ¬Begins name (values.flatMap (option other) ++ rest) := by
  cases values with
  | nil => exact hrest
  | cons value values =>
    rw [List.flatMap_cons, List.append_assoc]
    exact not_begins_option hne value _

/-- What is read of an option that may be given many times stands in front of the rest, and the
rest does not begin with that option. -/
theorem valuesOf_eq_iff {name : String} {args values rest : List String} :
    valuesOf name args = (values, rest) ↔
      args = values.flatMap (option name) ++ rest ∧ ¬Begins name rest := by
  constructor
  · intro hread
    induction args using valuesOf.induct name generalizing values with
    | case1 value after ih =>
      rw [valuesOf, if_pos rfl] at hread
      obtain ⟨rfl, rfl⟩ := Prod.mk.inj hread
      obtain ⟨hafter, hrest⟩ := ih rfl
      refine ⟨?_, hrest⟩
      conv => lhs; rw [hafter]
      rfl
    | case2 word value after hne =>
      rw [valuesOf, if_neg hne] at hread
      obtain ⟨rfl, rfl⟩ := Prod.mk.inj hread
      refine ⟨rfl, ?_⟩
      rintro ⟨_, _, hargs⟩
      exact hne (List.cons.inj hargs).1
    | case3 args hshort =>
      rw [valuesOf.eq_2 name args hshort] at hread
      obtain ⟨rfl, rfl⟩ := Prod.mk.inj hread
      exact ⟨rfl, fun ⟨value, rest, hargs⟩ => hshort name value rest hargs⟩
  · rintro ⟨rfl, hrest⟩
    induction values with
    | nil =>
      change valuesOf name rest = ([], rest)
      cases rest with
      | nil => rfl
      | cons word after =>
        cases after with
        | nil => rfl
        | cons value after =>
          have hne : word ≠ name := by
            rintro rfl
            exact hrest ⟨value, after, rfl⟩
          rw [valuesOf, if_neg hne]
    | cons value values ih =>
      have hlist : (value :: values).flatMap (option name) ++ rest =
          name :: value :: (values.flatMap (option name) ++ rest) := rfl
      rw [hlist, valuesOf, if_pos rfl, ih]

/-- What is read of an option that may be given once stands in front of the rest; if it is not
given, the rest does not begin with that option. -/
theorem valueOf?_eq_iff {name : String} {args rest : List String} {value : Option String} :
    valueOf? name args = (value, rest) ↔
      args = value.toList.flatMap (option name) ++ rest ∧ (value = none → ¬Begins name rest) := by
  unfold valueOf?
  split
  · next word first after =>
    by_cases hname : word = name
    · subst hname
      rw [if_pos rfl, Prod.mk.injEq]
      cases value with
      | none =>
        simp only [reduceCtorEq, false_and, false_iff, not_and, forall_const, Classical.not_not]
        rintro rfl
        exact ⟨first, after, rfl⟩
      | some value => simp [option]
    · rw [if_neg hname, Prod.mk.injEq]
      cases value with
      | none =>
        simp only [true_and, Option.toList_none, List.flatMap_nil, List.nil_append, forall_const,
          iff_self_and]
        rintro rfl ⟨_, _, hargs⟩
        exact hname (List.cons.inj hargs).1
      | some value => simp [option, hname]
  · next args hshort =>
    rw [Prod.mk.injEq]
    cases value with
    | none =>
      simp only [true_and, Option.toList_none, List.flatMap_nil, List.nil_append, forall_const,
        iff_self_and]
      rintro rfl ⟨first, after, hargs⟩
      exact hshort name first after hargs
    | some value =>
      simp only [reduceCtorEq, false_and, false_iff, not_and, false_implies, not_true]
      intro hargs
      exact absurd hargs (hshort name value rest)

/-- Nothing is lost when the values of an option are read off. -/
theorem flatMap_valuesOf (name : String) (args : List String) :
    (valuesOf name args).1.flatMap (option name) ++ (valuesOf name args).2 = args :=
  (valuesOf_eq_iff.mp rfl).1.symm

/-- Nor is anything when a value is read off that may be given once. -/
theorem flatMap_valueOf? (name : String) (args : List String) :
    (valueOf? name args).1.toList.flatMap (option name) ++ (valueOf? name args).2 = args :=
  (valueOf?_eq_iff.mp rfl).1.symm

/-! ## The common options -/

/-- What the common arguments tell of a project. -/
structure CommonOptions where
  /-- Progress is asked for line by line. -/
  plainProgress : Bool
  /-- The project directory. -/
  directory : String
  /-- The name of the project, where it is not that of the directory. -/
  name : Option String
  /-- The files with variables for the project. -/
  envFiles : List String
  /-- The profiles to enable. -/
  profiles : List String
deriving DecidableEq

/-- The options of a project.  Since version 2.19.0 of the plugin progress is asked for line by
line. -/
def commonOptions (p : Project) : CommonOptions :=
  { plainProgress := p.version.atLeast 2 19 0
    directory := p.directory
    name := p.name
    envFiles := p.envFiles
    profiles := p.profiles }

namespace CommonOptions

/-- The arguments for some options. -/
def arguments (o : CommonOptions) : List String :=
  ["compose", "--ansi", "never"]
    ++ ((if o.plainProgress then some "plain" else none).toList.flatMap (option "--progress")
    ++ (option "--project-directory" o.directory
    ++ (o.name.toList.flatMap (option "--project-name")
    ++ (o.envFiles.flatMap (option "--env-file")
    ++ o.profiles.flatMap (option "--profile")))))

/-- The options that some arguments are for. -/
def ofArguments? : List String → Option CommonOptions
  | "compose" :: "--ansi" :: "never" :: args =>
    let progress := valueOf? "--progress" args
    let directory := valueOf? "--project-directory" progress.2
    let name := valueOf? "--project-name" directory.2
    let envFiles := valuesOf "--env-file" name.2
    let profiles := valuesOf "--profile" envFiles.2
    match directory.1 with
    | none => none
    | some path =>
      if progress.1.all (· = "plain") && profiles.2.isEmpty then
        some
          { plainProgress := progress.1.isSome
            directory := path
            name := name.1
            envFiles := envFiles.1
            profiles := profiles.1 }
      else none
  | _ => none

/-- The options are found again in the arguments for them. -/
theorem ofArguments?_arguments (o : CommonOptions) : ofArguments? o.arguments = some o := by
  -- from right to left: what is behind an option never begins with that option
  have hprofiles : valuesOf "--profile" (o.profiles.flatMap (option "--profile")) =
      (o.profiles, []) :=
    valuesOf_eq_iff.mpr ⟨(List.append_nil _).symm, not_begins_nil _⟩
  have hbehind : ∀ name, "--profile" ≠ name →
      ¬Begins name (o.profiles.flatMap (option "--profile")) := by
    intro name hne
    rw [← List.append_nil (o.profiles.flatMap _)]
    exact not_begins_append hne _ (not_begins_nil name)
  have henvFiles : valuesOf "--env-file" (o.envFiles.flatMap (option "--env-file") ++
      o.profiles.flatMap (option "--profile")) =
        (o.envFiles, o.profiles.flatMap (option "--profile")) :=
    valuesOf_eq_iff.mpr ⟨rfl, hbehind _ (by decide)⟩
  have hname : valueOf? "--project-name" (o.name.toList.flatMap (option "--project-name") ++
      (o.envFiles.flatMap (option "--env-file") ++ o.profiles.flatMap (option "--profile"))) =
        (o.name, o.envFiles.flatMap (option "--env-file") ++
          o.profiles.flatMap (option "--profile")) :=
    valueOf?_eq_iff.mpr ⟨rfl, fun _ => not_begins_append (by decide) _ (hbehind _ (by decide))⟩
  have hdirectory : ∀ rest, valueOf? "--project-directory"
      (option "--project-directory" o.directory ++ rest) = (some o.directory, rest) :=
    fun _ => valueOf?_eq_iff.mpr ⟨rfl, nofun⟩
  have hprogress : ∀ (progress : Option String) rest, valueOf? "--progress"
      (progress.toList.flatMap (option "--progress") ++
        (option "--project-directory" o.directory ++ rest)) =
          (progress, option "--project-directory" o.directory ++ rest) :=
    fun _ rest => valueOf?_eq_iff.mpr ⟨rfl, fun _ => not_begins_option (by decide) _ rest⟩
  simp only [arguments, List.cons_append, List.nil_append, ofArguments?, hprogress, hdirectory,
    hname, henvFiles, hprofiles]
  cases o with
  | mk plainProgress => cases plainProgress <;> rfl

-- values that look like options are still values, and an empty text is one too
example :
    ofArguments? ["compose", "--ansi", "never", "--project-directory", "--project-name",
      "--project-name", "--env-file", "--env-file", "--profile", "--profile", ""] =
      some { plainProgress := false, directory := "--project-name", name := some "--env-file"
             envFiles := ["--profile"], profiles := [""] } := by
  decide

/-- Arguments from which options are read are the arguments for these. -/
theorem eq_arguments_of_ofArguments? {args : List String} {o : CommonOptions}
    (hread : ofArguments? args = some o) : args = o.arguments := by
  unfold ofArguments? at hread
  split at hread
  · next args =>
    dsimp only at hread
    have hprogress := flatMap_valueOf? "--progress" args
    generalize valueOf? "--progress" args = progress at hread hprogress
    have hdirectory := flatMap_valueOf? "--project-directory" progress.2
    generalize valueOf? "--project-directory" progress.2 = directory at hread hdirectory
    have hname := flatMap_valueOf? "--project-name" directory.2
    generalize valueOf? "--project-name" directory.2 = name at hread hname
    have henvFiles := flatMap_valuesOf "--env-file" name.2
    generalize valuesOf "--env-file" name.2 = envFiles at hread henvFiles
    have hprofiles := flatMap_valuesOf "--profile" envFiles.2
    generalize valuesOf "--profile" envFiles.2 = profiles at hread hprofiles
    split at hread
    · cases hread
    · next path hpath =>
      split at hread
      · next hwhole =>
        cases hread
        rw [Bool.and_eq_true, List.isEmpty_iff] at hwhole
        obtain ⟨hplain, hend⟩ := hwhole
        have hstyle : (if progress.1.isSome then some "plain" else none) = progress.1 := by
          cases hvalue : progress.1 with
          | none => rfl
          | some style =>
            rw [hvalue, Option.all_some, decide_eq_true_eq] at hplain
            rw [hplain]
            rfl
        rw [hend, List.append_nil] at hprofiles
        rw [hpath] at hdirectory
        rw [arguments, hstyle, hprofiles, henvFiles, hname, ← hprogress, ← hdirectory]
        rfl
      · cases hread
  · cases hread

end CommonOptions

/-- The common arguments of a project are the arguments for its options. -/
theorem baseArgs_eq_arguments (p : Project) : p.baseArgs = p.commonOptions.arguments := by
  unfold baseArgs CommonOptions.arguments commonOptions
  cases p.version.atLeast 2 19 0 <;> cases p.name <;> simp

/-- The options of a project can be told from its common arguments: these are read as the options,
and no other lists are read.  So two projects have the same common arguments exactly if their
plugins are on the same side of version 2.19.0 and they have the same directory, the same name or
both none, and the same files with variables and profiles in the same order. -/
theorem baseArgs_tell_commonOptions :
    (∀ p : Project, CommonOptions.ofArguments? p.baseArgs = some p.commonOptions) ∧
    (∀ args o, CommonOptions.ofArguments? args = some o ↔ args = o.arguments) ∧
    ∀ p q : Project, p.baseArgs = q.baseArgs ↔
      p.version.atLeast 2 19 0 = q.version.atLeast 2 19 0 ∧ p.directory = q.directory ∧
        p.name = q.name ∧ p.envFiles = q.envFiles ∧ p.profiles = q.profiles := by
  have hread : ∀ p : Project, CommonOptions.ofArguments? p.baseArgs = some p.commonOptions := by
    intro p
    rw [baseArgs_eq_arguments, CommonOptions.ofArguments?_arguments]
  refine ⟨hread, fun args o => ⟨CommonOptions.eq_arguments_of_ofArguments?, ?_⟩, fun p q => ?_⟩
  · rintro rfl
    exact o.ofArguments?_arguments
  · constructor
    · intro hargs
      have hsame : p.commonOptions = q.commonOptions :=
        Option.some.inj ((hread p).symm.trans (hargs ▸ hread q))
      simpa [commonOptions] using hsame
    · rintro ⟨hversion, hdirectory, hname, henvFiles, hprofiles⟩
      rw [baseArgs_eq_arguments, baseArgs_eq_arguments, commonOptions, commonOptions, hversion,
        hdirectory, hname, henvFiles, hprofiles]

end ContainerOps.Project
