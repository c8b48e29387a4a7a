import RowMapping.CommandLine.Run
import RowMapping.Proofs.Fallible
import RowMapping.Proofs.Files.Tree

/-!
# What the command does

The command reads settings, finds a class and generates its unit.  `Produces` says what these steps
give, and `Raises` which failure the first one has that fails.

A command that returns has delivered a unit, or has reported a failure, or has found nothing to
generate, and its status tells which.  In the last two cases there is nothing on the standard output,
and no file or directory has changed: `returns_of_run`.
-/

namespace RowMapping
open RowMapping.Files

variable {texts : PlatformTexts} {modules : Modules} {files : FileTree} {args : Arguments}

/-! ### three steps -/

/-- that the steps to a unit succeed, with a unit if there is one for the class -/
def Produces (texts : PlatformTexts) (modules : Modules) (files : FileTree) (args : Arguments)
    (unit : Option GeneratedUnit) : Prop :=
  ∃ settings cls, settingsFor texts files args.config = .ok settings ∧
    modules.load args.target = .ok cls ∧ modules.classes.generate settings cls = .ok unit

/-- the failure of the first step to a unit that fails -/
inductive Raises (texts : PlatformTexts) (modules : Modules) (files : FileTree)
    (args : Arguments) : CommandFailure → Prop where
  | settings {e : SettingsError} : settingsFor texts files args.config = .error e →
      Raises texts modules files args (.settings e)
  | target {settings : Settings} {f : Failure} : settingsFor texts files args.config = .ok settings →
      modules.load args.target = .error f → Raises texts modules files args (.generation f)
  | unit {settings : Settings} {cls : ClassRef} {f : Failure} :
      settingsFor texts files args.config = .ok settings → modules.load args.target = .ok cls →
      modules.classes.generate settings cls = .error f → Raises texts modules files args (.generation f)

theorem unitFor_eq_ok_iff {unit : Option GeneratedUnit} :
    unitFor texts modules files args = .ok unit ↔ Produces texts modules files args unit := by
  unfold unitFor
  simp only [bind_eq_ok_iff, mapError_eq_ok_iff]
  constructor
  · rintro ⟨settings, hsettings, cls, hcls, hunit⟩
    exact ⟨settings, cls, hsettings, hcls, hunit⟩
  · rintro ⟨settings, cls, hsettings, hcls, hunit⟩
    exact ⟨settings, hsettings, cls, hcls, hunit⟩

theorem unitFor_eq_error_iff {f : CommandFailure} :
    unitFor texts modules files args = .error f ↔ Raises texts modules files args f := by
  unfold unitFor
  simp only [bind_eq_error_iff, mapError_eq_ok_iff, mapError_eq_error_iff]
  constructor
  · rintro (⟨e, he, rfl⟩ | ⟨settings, hsettings, ⟨f, hf, rfl⟩ | ⟨cls, hcls, f, hf, rfl⟩⟩)
    · exact .settings he
    · exact .target hsettings hf
    · exact .unit hsettings hcls hf
  · intro h
    cases h with
    | settings he => exact .inl ⟨_, he, rfl⟩
    | target hsettings hf => exact .inr ⟨_, hsettings, .inl ⟨_, hf, rfl⟩⟩
    | unit hsettings hcls hf => exact .inr ⟨_, hsettings, .inr ⟨_, hcls, _, hf, rfl⟩⟩

/-! ### delivery -/

/-- where the source of a unit is after a command: on the standard output, or in the output file -/
inductive Delivered (files : FileTree) (after : Surroundings) (source : String) :
    Option String → Prop where
  | printed : after.stdout = source → after.files = files → Delivered files after source none
  | written {path : String} : after.stdout = "" →
      files.Written after.files path source.toUTF8.toList → Delivered files after source (some path)

namespace Command
variable {α β : Type} {s after : Surroundings} {path text : String}

theorem run_bind_eq_ok {x : Command α} {next : α → Command β} {b : β}
    (h : (x >>= next).run.run s = (.ok b, after)) :
    ∃ a between, x.run.run s = (.ok a, between) ∧ (next a).run.run between = (.ok b, after) := by
  have hsteps : (x >>= next).run.run s =
      (ExceptT.bindCont next (x.run.run s).1).run (x.run.run s).2 := rfl
  rw [hsteps] at h
  generalize x.run.run s = step at h
  obtain ⟨result, between⟩ := step
  cases result with
  | error e => cases h
  | ok a => exact ⟨a, between, rfl, h⟩

theorem run_makeParents_eq_ok (h : (makeParents path).run.run s = (.ok (), after)) :
    after = { s with files := (s.files.makeParents path).1 } := by
  obtain ⟨_, _, hget, h⟩ := run_bind_eq_ok h
  cases hget
  obtain ⟨_, _, hmodify, h⟩ := run_bind_eq_ok h
  cases hmodify
  split at h
  next =>
    cases h
    rfl
  next => cases h

theorem run_writeFile_eq_ok (h : (writeFile path text).run.run s = (.ok (), after)) :
    ∃ files, s.files.write path text.toUTF8.toList = .ok files ∧ after = { s with files := files } := by
  obtain ⟨_, _, hget, h⟩ := run_bind_eq_ok h
  cases hget
  split at h
  next files hwrite =>
    cases h
    exact ⟨files, hwrite, rfl⟩
  next => cases h

theorem delivered_of_run {output : Option String} {source : String}
    (hempty : s.stdout = "") (h : (deliver output source).run.run s = (.ok (), after)) :
    Delivered s.files after source output := by
  cases output with
  | none =>
    cases h
    refine .printed ?_ rfl
    show s.stdout ++ source = source
    rw [hempty, String.empty_append]
  | some path =>
    obtain ⟨_, between, hmake, h⟩ := run_bind_eq_ok h
    cases run_makeParents_eq_ok hmake
    obtain ⟨files, hwrite, rfl⟩ := run_writeFile_eq_ok h
    obtain ⟨hread, hothers⟩ := FileTree.written_of_write hwrite
    refine .written hempty ⟨hread, fun place hplace => ?_⟩
    rw [hothers place hplace]
    show (s.files.makeParents path).1.files.lookup place = s.files.files.lookup place
    rw [FileTree.files_makeParents]

/-- the status that the command ends in, and what is there after it -/
inductive Ends (texts : PlatformTexts) (modules : Modules) (args : Arguments) (s : Surroundings) :
    Nat → Surroundings → Prop where
  | ok {unit : GeneratedUnit} {after : Surroundings} : Produces texts modules s.files args (some unit) →
      (deliver args.output unit.source).run.run s = (.ok (), after) →
      Ends texts modules args s okStatus after
  | error {f : CommandFailure} : Raises texts modules s.files args f → f.isReported = true →
      Ends texts modules args s errorStatus
        { s with stderr := s.stderr ++ "error: " ++ f.message ++ "\n" }
  | notApplicable : Produces texts modules s.files args none →
      Ends texts modules args s notApplicableStatus
        { s with stderr := s.stderr ++ "error: " ++ notApplicableText args.target ++ "\n" }

theorem ends_of_run {status : Nat}
    (h : (carryOut texts modules args).run.run s = (.ok status, after)) :
    Ends texts modules args s status after := by
  obtain ⟨_, _, hget, h⟩ := run_bind_eq_ok h
  cases hget
  split at h
  next f hunit =>
    split at h
    next hreported =>
      cases h
      exact .error (unitFor_eq_error_iff.mp hunit) hreported
    next => cases h
  next hunit =>
    cases h
    exact .notApplicable (unitFor_eq_ok_iff.mp hunit)
  next unit hunit =>
    obtain ⟨_, _, hdeliver, h⟩ := run_bind_eq_ok h
    cases h
    exact .ok (unitFor_eq_ok_iff.mp hunit) hdeliver

end Command

/-! ### statuses -/

/-- what the status of a command says, and what is there after it -/
structure Returns (texts : PlatformTexts) (modules : Modules) (files : FileTree)
    (args : Arguments) (status : Nat) (after : Surroundings) : Prop where
  ok_iff : status = okStatus ↔ ∃ unit, Produces texts modules files args (some unit)
  error_iff : status = errorStatus ↔ ∃ f, Raises texts modules files args f ∧ f.isReported = true
  notApplicable_iff : status = notApplicableStatus ↔ Produces texts modules files args none
  delivered : ∀ unit, Produces texts modules files args (some unit) →
    Delivered files after unit.source args.output
  complaint : ∀ f, Raises texts modules files args f → after.stderr = "error: " ++ f.message ++ "\n"
  untouched : status ≠ okStatus → after.stdout = "" ∧ after.files = files

theorem Produces.eq {unit unit' : Option GeneratedUnit} (h : Produces texts modules files args unit)
    (h' : Produces texts modules files args unit') : unit = unit' := by
  rw [← unitFor_eq_ok_iff] at h h'
  exact Except.ok.inj (h.symm.trans h')

theorem Raises.eq {f f' : CommandFailure} (h : Raises texts modules files args f)
    (h' : Raises texts modules files args f') : f = f' := by
  rw [← unitFor_eq_error_iff] at h h'
  exact Except.error.inj (h.symm.trans h')

theorem Produces.not_raises {unit : Option GeneratedUnit} {f : CommandFailure}
    (h : Produces texts modules files args unit) : ¬ Raises texts modules files args f := by
  rw [← unitFor_eq_ok_iff] at h
  rw [← unitFor_eq_error_iff, h]
  exact fun hsame => by cases hsame

theorem returns_of_ends {status : Nat} {after : Surroundings}
    (h : Command.Ends texts modules args { files := files } status after) :
    Returns texts modules files args status after := by
  cases h with
  | @ok unit _ hproduces hdeliver =>
    exact {
      ok_iff := iff_of_true rfl ⟨unit, hproduces⟩
      error_iff := iff_of_false (by decide) fun ⟨_, hraises, _⟩ => hproduces.not_raises hraises
      notApplicable_iff := iff_of_false (by decide) fun hnone => by cases hproduces.eq hnone
      delivered := fun other hother => by
        cases hproduces.eq hother
        exact Command.delivered_of_run rfl hdeliver
      complaint := fun f hraises => absurd hraises hproduces.not_raises
      untouched := fun hstatus => absurd rfl hstatus }
  | @error f hraises hreported =>
    exact {
      ok_iff := iff_of_false (by decide) fun ⟨_, hproduces⟩ => hproduces.not_raises hraises
      error_iff := iff_of_true rfl ⟨f, hraises, hreported⟩
      notApplicable_iff := iff_of_false (by decide) fun hproduces => hproduces.not_raises hraises
      delivered := fun unit hproduces => absurd hraises hproduces.not_raises
      complaint := fun other hother => by
        rw [hother.eq hraises]
        exact congrArg (· ++ "\n") (congrArg (· ++ f.message) String.empty_append)
      untouched := fun _ => ⟨rfl, rfl⟩ }
  | notApplicable hproduces =>
    exact {
      ok_iff := iff_of_false (by decide) fun ⟨_, hsome⟩ => by cases hproduces.eq hsome
      error_iff := iff_of_false (by decide) fun ⟨_, hraises, _⟩ => hproduces.not_raises hraises
      notApplicable_iff := iff_of_true rfl hproduces
      delivered := fun unit hsome => by cases hproduces.eq hsome
      complaint := fun f hraises => absurd hraises hproduces.not_raises
      untouched := fun _ => ⟨rfl, rfl⟩ }

/-- The status of a command that returns tells what has come of its steps.  Without a unit, nothing is
printed or written. -/
theorem returns_of_run {argv : List String} {status : Nat} {after : Surroundings}
    (hparse : Arguments.parse argv = .ok args)
    (hrun : run texts modules files argv = .returned status after) :
    Returns texts modules files args status after := by
  rw [run, hparse] at hrun
  change runArguments texts modules files args = .returned status after at hrun
  unfold runArguments at hrun
  split at hrun
  next hcommand =>
    cases hrun
    exact returns_of_ends (Command.ends_of_run hcommand)
  next => cases hrun

def Outcome.status? : Outcome → Option Nat
  | returned status _ => some status
  | _ => none

theorem Outcome.exists_returned {o : Outcome} {status : Nat} (h : o.status? = some status) :
    ∃ after, o = .returned status after := by
  cases o with
  | returned other after =>
    cases h
    exact ⟨after, rfl⟩
  | _ => cases h

/-! ### a song -/

def songRef : ClassRef := { name := "Song", module := "app" }

/-- a class with one field, and a method that reads it from a cursor -/
def songModules : Modules :=
  { classes :=
      [{ ref := songRef, kind := .dataclass, fields := [{ name := "plays", hint := Platform.int }],
         attributes := [⟨"create_from_cursor", .static
          { params := [{ name := "cursor", hint := some (.cls .cursor) }],
            returns := some (.cls songRef) }⟩] }] }

/-- a tree with an output file of an earlier run -/
def songFiles : FileTree := { files := [(["out", "song.py"], [0])] }

/-- a platform that says nothing of its own -/
def songTexts : PlatformTexts := ⟨fun _ _ => "", fun _ => "", fun _ => ""⟩

def songArguments : Arguments := { target := "app:Song", output := some "out/song.py" }

set_option maxRecDepth 10000 in
/-- the unit of a class with a reader takes the place of an older file -/
theorem returns_song :
    Arguments.parse ["app:Song", "-o", "out/song.py"] = .ok songArguments ∧
      ∃ after unit, run songTexts songModules songFiles ["app:Song", "-o", "out/song.py"] =
          .returned okStatus after ∧
        Produces songTexts songModules songFiles songArguments (some unit) ∧ after.stdout = "" ∧
          after.files.read "out/song.py" = .ok unit.source.toUTF8.toList := by
  have hparse : Arguments.parse ["app:Song", "-o", "out/song.py"] = .ok songArguments := rfl
  have hstatus : (run songTexts songModules songFiles ["app:Song", "-o", "out/song.py"]).status? =
      some okStatus := by decide +kernel
  obtain ⟨after, hrun⟩ := Outcome.exists_returned hstatus
  have hreturns := returns_of_run hparse hrun
  obtain ⟨unit, hunit⟩ := hreturns.ok_iff.mp rfl
  refine ⟨hparse, after, unit, hrun, hunit, ?_⟩
  cases hreturns.delivered unit hunit with
  | written hstdout hwritten => exact ⟨hstdout, hwritten.read⟩

end RowMapping
