import Palette.Pipeline.Generate
import Palette.Proofs.ColorLookup
import Palette.Proofs.FileEdits

/-!
What failing runs leave behind. Inputs are read, and nearly everything about them is checked, before
the first file is written. The one check that comes later is whether the theme has a color for each
color of the layout: it is made while the source of the theme class is printed, so a run that fails
it leaves the source cut off there, in place of what the file held before.
-/

namespace Palette.Pipeline

open Files Stateful Printer

/-! ### Jobs -/

def Failure.isFile : Failure → Bool
  | .file _ => true
  | _ => false

def Failure.blamesInput (failure : Failure) : Bool := failure.isExpected && !failure.isFile

variable {ε α β : Type}

def Reads (job : Job α) : Prop := Keeps Workspace.files job

theorem run_lift (failure : ε → Failure) (result : Except ε α) (w : Workspace) :
    (lift failure result).run.run w =
      match result with
      | .ok value => (.ok value, w)
      | .error e => (.error (failure e), w) := by
  cases result <;> rfl

theorem reads_lift (failure : ε → Failure) (result : Except ε α) : Reads (lift failure result) := by
  intro w
  rw [run_lift]
  cases result <;> rfl

theorem reads_report (level : Log.Level) (channel : Log.Channel) (message : String) :
    Reads (report level channel message) := fun _ => rfl

theorem reads_info (message : String) : Reads (info message) := reads_report _ _ message

theorem reads_readText (path : Path) : Reads (readText path) := by
  refine Keeps.get.bind fun w => (reads_lift _ _).bind fun content => ?_
  split
  · exact .pure _
  · exact .throw _

theorem reads_loadLayout (path : String) : Reads (loadLayout path) :=
  (reads_info _).bind fun _ => (reads_readText _).bind fun _ => reads_lift _ _

theorem reads_parseTheme (text : String) : Reads (parseTheme text) := by
  refine (Keeps.forIn (fun issue _ => ?_) _ _).bind fun _ =>
    (Keeps.forIn (fun warning _ => ?_) _ _).bind fun _ => reads_lift _ _
  · exact (reads_report _ _ _).bind fun _ => .pure _
  · exact (reads_report _ _ _).bind fun _ => .pure _

theorem reads_loadTheme (path : String) : Reads (loadTheme path) :=
  (reads_info _).bind fun _ => (reads_readText _).bind fun text =>
    (reads_parseTheme text).bind fun _ => (reads_lift _ _).bind fun _ =>
      (reads_info _).bind fun _ => .pure _

/-! ### Failures after the inputs are read -/

/-- The job fails for no reason that lies in what the inputs say. -/
abbrev NeverBlames (job : Job α) : Prop := FailsAs (fun failure => failure.blamesInput = false) job

theorem run_change (edit : Edit Unit) (w : Workspace) :
    (change edit).run.run w =
      match edit.run.run w.files with
      | (.ok _, files) => (.ok (), { w with files })
      | (.error e, files) => (.error (.file e), { w with files }) := by
  change (lift .file (edit.run.run w.files).1 : Job Unit).run.run
    { w with files := (edit.run.run w.files).2 } = _
  generalize edit.run.run w.files = ran
  rcases ran with ⟨_ | _, files⟩ <;> rfl

theorem failsAs_lift {P : Failure → Prop} {failure : ε → Failure} (holds : ∀ e, P (failure e))
    (result : Except ε α) : FailsAs P (lift failure result) := by
  cases result with
  | ok value => exact .pure value
  | error e => exact .throw (holds e)

section

variable {P : Failure → Prop}

theorem failsAs_change (refused : ∀ e, P (.file e)) (edit : Edit Unit) :
    FailsAs P (change edit) := by
  intro w after failure failed
  rw [run_change] at failed
  generalize edit.run.run w.files = ran at failed
  rcases ran with ⟨_ | _, _⟩
  · cases failed
    exact refused _
  · cases failed

theorem failsAs_withSuffix {path : Path} (nameless : path.name = "" → P (.emptyName path))
    (suffix : String) : FailsAs P (withSuffix path suffix) := by
  unfold withSuffix Path.withSuffix?
  by_cases empty : path.name = ""
  · rw [if_pos (by simp [empty])]
    exact .throw (nameless empty)
  · rw [if_neg (by simpa using empty)]
    exact .pure _

theorem failsAs_markTime (refused : ∀ e, P (.file e)) {base : Path}
    (nameless : base.name = "" → P (.emptyName base)) (settings : Settings) :
    FailsAs P (markTime settings base) := by
  unfold markTime
  split
  · exact (failsAs_withSuffix nameless _).bind fun path =>
      (failsAs_change refused _).bind fun _ => .pure _
  · exact .pure _

theorem failsAs_report (level : Log.Level) (channel : Log.Channel) (message : String) :
    FailsAs P (report level channel message) := by
  intro w after failure failed
  cases failed

theorem failsAs_writeProgram (refused : ∀ e, P (.file e)) {failure : Fault ε → Failure}
    {program : Program ε} (printable : Printable program) (path : Path) :
    FailsAs P (writeProgram failure path program) := by
  obtain ⟨text, prints⟩ := printable
  refine (failsAs_change refused _).bind fun _ => ?_
  rw [prints]
  exact .pure _

end

theorem blamesInput_file (e : Error) : (Failure.file e).blamesInput = false := Bool.and_false _

theorem neverBlames_change (edit : Edit Unit) : NeverBlames (change edit) :=
  failsAs_change blamesInput_file edit

theorem neverBlames_withSuffix (path : Path) (suffix : String) :
    NeverBlames (withSuffix path suffix) := by
  apply failsAs_withSuffix
  intro _
  rfl

theorem neverBlames_markTime (settings : Settings) (base : Path) :
    NeverBlames (markTime settings base) := by
  apply failsAs_markTime
  · exact blamesInput_file
  · intro _
    rfl

theorem neverBlames_writeProgram {failure : Fault ε → Failure} {program : Program ε}
    (printable : Printable program) (path : Path) :
    NeverBlames (writeProgram failure path program) :=
  failsAs_writeProgram blamesInput_file printable path

theorem NeverBlames.not_failed {job : Job α} (never : NeverBlames job) {w after : Workspace}
    {failure : Failure} (blames : failure.blamesInput = true) :
    job.run.run w ≠ (.error failure, after) := by
  intro failed
  rw [never w after failure failed] at blames
  cases blames

theorem generateTheme_fails {P : Failure → Prop} {stylePath : String} {settings : Settings}
    {before after : Workspace} {failure : Failure} (refused : ∀ e, P (.file e))
    (nameless : (settings.base (themeName stylePath)).name = "" →
      P (.emptyName (settings.base (themeName stylePath))))
    (failed : (generateTheme stylePath settings).run.run before = (.error failure, after)) :
    (loadTheme stylePath).run.run before = (.error failure, after) ∨ P failure := by
  rcases bind_error_cases failed with early | ⟨theme, middle, _, late⟩
  · exact .inl early
  · have printable : Printable (Output.themeFile theme : Program Output.Error) :=
      ⟨_, prints_map_line _⟩
    refine .inr ((?_ : FailsAs P _) middle after failure late)
    exact (failsAs_change refused _).bind fun _ => (failsAs_withSuffix nameless _).bind fun path =>
      (failsAs_writeProgram refused printable path).bind fun _ =>
        (failsAs_markTime refused nameless _).bind fun _ => (failsAs_report _ _ _).bind fun _ =>
          FailsAs.get.bind fun _ => .pure _

theorem generateTheme_blames {stylePath : String} {settings : Settings} {before after : Workspace}
    {failure : Failure}
    (failed : (generateTheme stylePath settings).run.run before = (.error failure, after))
    (blames : failure.blamesInput = true) : after.files = before.files := by
  have never := generateTheme_fails (P := fun failure => failure.blamesInput = false)
    blamesInput_file (fun _ => rfl) failed
  rcases never with early | never
  · have kept := reads_loadTheme stylePath before
    rwa [early] at kept
  · rw [never] at blames
    cases blames

/-! ### The source of the theme class -/

/-- Whether a failure is a color of the layout that the theme lacks. -/
def Failure.missesRule : Failure → Bool
  | .output (.raised (.missingRule _)) => true
  | _ => false

abbrev NeverMisses (job : Job α) : Prop := FailsAs (fun failure => failure.missesRule = false) job

theorem neverMisses_readText (path : Path) : NeverMisses (readText path) := by
  refine FailsAs.get.bind fun w => (failsAs_lift (by intro; rfl) _).bind fun content => ?_
  split
  · exact .pure _
  · exact .throw rfl

theorem neverMisses_loadLayout (path : String) : NeverMisses (loadLayout path) :=
  (failsAs_report _ _ _).bind fun _ => (neverMisses_readText _).bind fun _ =>
    failsAs_lift (by intro; rfl) _

theorem neverMisses_parseTheme (text : String) : NeverMisses (parseTheme text) := by
  refine (FailsAs.forIn (fun issue _ => ?_) _ _).bind fun _ =>
    (FailsAs.forIn (fun warning _ => ?_) _ _).bind fun _ => failsAs_lift (by intro; rfl) _
  · exact (failsAs_report _ _ _).bind fun _ => .pure _
  · exact (failsAs_report _ _ _).bind fun _ => .pure _

theorem neverMisses_loadTheme (path : String) : NeverMisses (loadTheme path) :=
  (failsAs_report _ _ _).bind fun _ => (neverMisses_readText _).bind fun text =>
    (neverMisses_parseTheme text).bind fun _ => (failsAs_lift (by intro; rfl) _).bind fun _ =>
      (failsAs_report _ _ _).bind fun _ => .pure _

/-- A run has read its inputs, made its directory and opened the source file, with these results;
what is left to do starts in the workspace `opened`. -/
structure OpensSource (layoutPath stylePath : String) (settings : Settings) (before : Workspace)
    (layout : Layout) (theme : Theme.Flat) (flat : List Layout.FlatStruct) (source : Path)
    (opened : Workspace) : Prop where
  steps : ∃ first second third,
    (loadLayout layoutPath).run.run before = (.ok layout, first) ∧
    (loadTheme stylePath).run.run first = (.ok theme, second) ∧
    (change (.ensureDirectories settings.directory)).run.run second = (.ok (), third) ∧
    (change (.write source [])).run.run third = (.ok (), opened)
  named : (settings.base settings.baseName).withSuffix? ".cpp" = some source
  flattened : layout.flatten = .ok flat

theorem run_withSuffix (path : Path) (suffix : String) (w : Workspace) :
    (withSuffix path suffix).run.run w =
      match path.withSuffix? suffix with
      | some named => (.ok named, w)
      | none => (.error (.emptyName path), w) := by
  rw [withSuffix]
  cases path.withSuffix? suffix <;> rfl

theorem withSuffix?_of_run {path named : Path} {suffix : String} {w after : Workspace}
    (succeeded : (withSuffix path suffix).run.run w = (.ok named, after)) :
    path.withSuffix? suffix = some named ∧ after = w := by
  rw [run_withSuffix] at succeeded
  split at succeeded
  · cases succeeded
    exact ⟨by assumption, rfl⟩
  · cases succeeded

theorem result_of_lift {failure : ε → Failure} {result : Except ε α} {value : α}
    {w after : Workspace} (succeeded : (lift failure result).run.run w = (.ok value, after)) :
    result = .ok value ∧ after = w := by
  rw [run_lift] at succeeded
  cases result <;> cases succeeded
  exact ⟨rfl, rfl⟩

theorem edit_of_change {edit : Edit Unit} {w after : Workspace}
    (changed : (change edit).run.run w = (.ok (), after)) :
    edit.run.run w.files = (.ok (), after.files) := by
  rw [run_change] at changed
  generalize edit.run.run w.files = ran at changed ⊢
  rcases ran with ⟨_ | _, files⟩
  · cases changed
  · cases changed
    rfl

theorem run_writeProgram {path : Path} {content : List UInt8} {before : Tree} {w : Workspace}
    (wrote : Edit.Wrote path content before w.files) (failure : Fault ε → Failure)
    (program : Program ε) :
    ∃ files, Edit.Wrote path (Text.encode (render "\t" program).1) before files ∧
      (writeProgram failure path program).run.run w =
        match (render "\t" program).2 with
        | .ok done => (.ok done, { w with files })
        | .error fault => (.error (failure fault), { w with files }) := by
  obtain ⟨files, written, again⟩ := wrote.run_write (Text.encode (render "\t" program).1)
  refine ⟨files, again, ?_⟩
  rw [writeProgram, run_bind, run_change, written]
  dsimp only
  rw [run_lift]
  cases (render "\t" program).2 <;> rfl

section

variable {layoutPath stylePath : String} {settings : Settings} {before after opened : Workspace}
  {layout : Layout} {theme : Theme.Flat} {flat : List Layout.FlatStruct} {source : Path}
  {failure : Failure}

/-- Opening the source file empties it, and all other files are as they were. -/
theorem OpensSource.wrote
    (opens : OpensSource layoutPath stylePath settings before layout theme flat source opened) :
    Edit.Wrote source [] before.files opened.files := by
  obtain ⟨first, second, third, layoutLoaded, themeLoaded, directories, written⟩ := opens.steps
  have firstKept := reads_loadLayout layoutPath before
  rw [layoutLoaded] at firstKept
  have secondKept := reads_loadTheme stylePath first
  rw [themeLoaded] at secondKept
  have thirdKept := Edit.keeps_ensureDirectories settings.directory second.files
  rw [edit_of_change directories, secondKept, firstKept] at thirdKept
  exact (Edit.wrote_of_run (edit_of_change written)).of_same_files thirdKept

theorem generateCode_blames_cases
    (failed : (generateCode layoutPath stylePath settings).run.run before = (.error failure, after))
    (blames : failure.blamesInput = true) :
    (failure.missesRule = false ∧ after.files = before.files) ∨
      ∃ layout theme flat source opened,
        OpensSource layoutPath stylePath settings before layout theme flat source opened ∧
        (writeProgram .output source
          (Output.classSource flat theme settings.toNames)).run.run opened =
            (.error failure, after) := by
  rcases bind_error_cases failed with early | ⟨layout, first, layoutLoaded, failed⟩
  · have kept := reads_loadLayout layoutPath before
    rw [early] at kept
    exact .inl ⟨neverMisses_loadLayout _ _ _ _ early, kept⟩
  have firstKept := reads_loadLayout layoutPath before
  rw [layoutLoaded] at firstKept
  rcases bind_error_cases failed with early | ⟨theme, second, themeLoaded, failed⟩
  · have kept := reads_loadTheme stylePath first
    rw [early] at kept
    exact .inl ⟨neverMisses_loadTheme _ _ _ _ early, kept.trans firstKept⟩
  rcases bind_error_cases failed with early | ⟨_, third, directories, failed⟩
  · exact absurd early ((neverBlames_change _).not_failed blames)
  rcases bind_error_cases failed with early | ⟨source, fourth, named, failed⟩
  · exact absurd early ((neverBlames_withSuffix _ _).not_failed blames)
  rcases bind_error_cases failed with early | ⟨_, fifth, emptied, failed⟩
  · exact absurd early ((neverBlames_change _).not_failed blames)
  rcases bind_error_cases failed with early | ⟨flat, opened, flattened, failed⟩
  · exact absurd early (NeverBlames.not_failed (failsAs_lift (by intro; rfl) _) blames)
  rcases bind_error_cases failed with printing | ⟨_, _, _, failed⟩
  · obtain ⟨suffixed, rfl⟩ := withSuffix?_of_run named
    obtain ⟨expanded, rfl⟩ := result_of_lift flattened
    exact .inr ⟨layout, theme, flat, source, opened,
      ⟨⟨first, second, fourth, layoutLoaded, themeLoaded, directories, emptied⟩, suffixed,
        expanded⟩, printing⟩
  · refine absurd failed (NeverBlames.not_failed ?_ blames)
    refine (neverBlames_withSuffix _ _).bind fun headerPath =>
      (neverBlames_writeProgram ?_ headerPath).bind fun _ =>
        (neverBlames_markTime _ _).bind fun marks => FailsAs.get.bind fun w =>
          (failsAs_report _ _ _).bind fun _ => .pure _
    obtain ⟨_, _, prints⟩ := Output.header_declares layout settings.toNames
    exact ⟨_, prints⟩

theorem OpensSource.run_generateCode
    (opens : OpensSource layoutPath stylePath settings before layout theme flat source opened)
    (failed : (writeProgram .output source
      (Output.classSource flat theme settings.toNames)).run.run opened = (.error failure, after)) :
    (generateCode layoutPath stylePath settings).run.run before = (.error failure, after) := by
  obtain ⟨first, second, third, layoutLoaded, themeLoaded, directories, written⟩ := opens.steps
  rw [generateCode, run_bind, layoutLoaded]
  dsimp only
  rw [run_bind, themeLoaded]
  dsimp only
  rw [run_bind, directories]
  dsimp only
  rw [run_bind, run_withSuffix, opens.named]
  dsimp only
  rw [run_bind, written]
  dsimp only
  rw [run_bind, run_lift, opens.flattened]
  dsimp only
  rw [run_bind, failed]

/-- The source was printed up to the color at `path`, which the theme lacks, into the file where it
belongs. Every other file is as it was. -/
def CutsOffSource (layoutPath stylePath : String) (settings : Settings) (before after : Workspace)
    (path : String) : Prop :=
  ∃ layout theme flat source opened text,
    OpensSource layoutPath stylePath settings before layout theme flat source opened ∧
    render "\t" (Output.classSource flat theme settings.toNames) =
      (text, .error (.raised (.missingRule path))) ∧
    Edit.Wrote source (Text.encode text) before.files after.files

theorem OpensSource.cutsOff
    (opens : OpensSource layoutPath stylePath settings before layout theme flat source opened)
    (failed : (writeProgram .output source
      (Output.classSource flat theme settings.toNames)).run.run opened = (.error failure, after))
    (blames : failure.blamesInput = true) :
    ∃ path, failure = .output (.raised (.missingRule path)) ∧
      CutsOffSource layoutPath stylePath settings before after path := by
  obtain ⟨files, wrote, ran⟩ := run_writeProgram opens.wrote Failure.output
    (Output.classSource flat theme settings.toNames)
  rw [failed] at ran
  cases printed : (render "\t" (Output.classSource flat theme settings.toNames)).2 with
  | ok _ => rw [printed] at ran; cases ran
  | error fault =>
    rw [printed] at ran
    obtain ⟨rfl, rfl⟩ : failure = .output fault ∧ after = { opened with files } := by
      cases ran
      exact ⟨rfl, rfl⟩
    match fault, blames with
    | .raised (.missingRule path), _ =>
      exact ⟨path, rfl, layout, theme, flat, source, opened, _, opens,
        Prod.ext rfl printed, wrote⟩

end

/-- A run for a theme file that fails because of its input changes no file. A run for the theme
class that fails because of its inputs changes none either, unless the theme lacks a color of the
layout: then the source file holds what was printed up to there, and all other files are as they
were. -/
theorem files_of_failing_run (layoutPath stylePath : String) (settings : Settings)
    (before after : Workspace) (failure : Failure) (blames : failure.blamesInput = true) :
    ((generateTheme stylePath settings).run.run before = (.error failure, after) →
      after.files = before.files) ∧
    ((generateCode layoutPath stylePath settings).run.run before = (.error failure, after) →
      (failure.missesRule = false ∧ after.files = before.files) ∨
        ∃ path, failure = .output (.raised (.missingRule path)) ∧
          CutsOffSource layoutPath stylePath settings before after path) := by
  refine ⟨fun failed => generateTheme_blames failed blames, fun failed => ?_⟩
  rcases generateCode_blames_cases failed blames with early | ⟨_, _, _, _, _, opens, printing⟩
  · exact .inl early
  · exact .inr (opens.cutsOff printing blames)

/-- A layout with one color, a theme without any, and the source of an earlier run. -/
def staleWorkspace : Workspace where
  files :=
    [(⟨"", ["layout.yml"]⟩, .file (Text.encode "layout: {a: {fields: [b]}}")),
      (⟨"", ["Dark.css"]⟩, .file (Text.encode "@chatterino\x7bauthor:\"\";icon-set:\"\"\x7d")),
      (⟨"", ["GeneratedTheme.cpp"]⟩, .file (Text.encode "old"))]

def endsAt (path : String) : Except (Fault Output.Error) Unit → Bool
  | .error (.raised (.missingRule missing)) => missing = path
  | _ => false

theorem eq_of_endsAt {path : String} {outcome : Except (Fault Output.Error) Unit}
    (ends : endsAt path outcome = true) : outcome = .error (.raised (.missingRule path)) := by
  match outcome, ends with
  | .error (.raised (.missingRule missing)), ends =>
    obtain rfl : missing = path := by simpa [endsAt] using ends
    rfl

theorem load_stale : ∃ layout theme flat first second text,
    (loadLayout "layout.yml").run.run staleWorkspace = (.ok layout, first) ∧
    (loadTheme "Dark.css").run.run first = (.ok theme, second) ∧ layout.flatten = .ok flat ∧
    render "\t" (Output.classSource flat theme {}) = (text, .error (.raised (.missingRule "a.b"))) ∧
    text ≠ "old" := by
  let load : Job (Layout × Theme.Flat) :=
    loadLayout "layout.yml" >>= fun layout => loadTheme "Dark.css" >>= fun theme =>
      pure (layout, theme)
  have evaluated : ((load.run.run staleWorkspace).1.toOption.bind fun loaded =>
      loaded.1.flatten.toOption.map fun flat =>
        let (text, outcome) := render "\t" (Output.classSource flat loaded.2 {})
        (endsAt "a.b" outcome, decide (text = "old"))) = some (true, false) := by decide +kernel
  cases ran : load.run.run staleWorkspace with
  | mk result after =>
    rw [ran] at evaluated
    simp only [Option.bind_eq_some_iff, Option.map_eq_some_iff, toOption_eq_some_iff] at evaluated
    obtain ⟨⟨layout, theme⟩, rfl, flat, flattened, both⟩ := evaluated
    obtain ⟨_, first, layoutLoaded, ran⟩ := bind_ok_cases ran
    obtain ⟨_, _, themeLoaded, ran⟩ := bind_ok_cases ran
    cases ran
    obtain ⟨ends, differs⟩ := Prod.mk.inj both
    exact ⟨layout, theme, flat, first, after, _, layoutLoaded, themeLoaded, flattened,
      Prod.ext rfl (eq_of_endsAt ends), by simpa using differs⟩

theorem opens_stale : ∃ layout theme flat opened text,
    OpensSource "layout.yml" "Dark.css" {} staleWorkspace layout theme flat
      ⟨"", ["GeneratedTheme.cpp"]⟩ opened ∧
    render "\t" (Output.classSource flat theme {}) = (text, .error (.raised (.missingRule "a.b"))) ∧
    text ≠ "old" := by
  obtain ⟨layout, theme, flat, first, second, text, layoutLoaded, themeLoaded, flattened, printed,
    other⟩ := load_stale
  have firstKept := reads_loadLayout "layout.yml" staleWorkspace
  rw [layoutLoaded] at firstKept
  have secondKept := reads_loadTheme "Dark.css" first
  rw [themeLoaded, firstKept] at secondKept
  obtain ⟨files, written⟩ : ∃ files, (Edit.write ⟨"", ["GeneratedTheme.cpp"]⟩ []).run.run
      staleWorkspace.files = (.ok (), files) := ⟨_, rfl⟩
  have directories : (Edit.ensureDirectories {}).run.run staleWorkspace.files =
      (.ok (), staleWorkspace.files) := rfl
  refine ⟨layout, theme, flat, { second with files }, text, ⟨⟨first, second,
    { second with files := staleWorkspace.files }, layoutLoaded, themeLoaded, ?_, ?_⟩, rfl,
    flattened⟩, printed, other⟩
  · rw [run_change, secondKept, directories]
  · rw [run_change, written]

theorem generateCode_spoils_source : ∃ (after : Workspace) (failure : Failure),
    (generateCode "layout.yml" "Dark.css" {}).run.run staleWorkspace = (.error failure, after) ∧
    failure.blamesInput = true ∧
    staleWorkspace.files.content? ⟨"", ["GeneratedTheme.cpp"]⟩ = some (Text.encode "old") ∧
    after.files.content? ⟨"", ["GeneratedTheme.cpp"]⟩ ≠ some (Text.encode "old") := by
  obtain ⟨layout, theme, flat, opened, text, opens, printed, other⟩ := opens_stale
  obtain ⟨files, ⟨place, located, written, _⟩, ran⟩ := run_writeProgram opens.wrote Failure.output
    (Output.classSource flat theme {})
  rw [printed] at written ran
  refine ⟨_, _, opens.run_generateCode ran, rfl, rfl, ?_⟩
  have here : files.placeOf ⟨"", ["GeneratedTheme.cpp"]⟩ = .ok ⟨"", ["GeneratedTheme.cpp"]⟩ := rfl
  obtain rfl : place = ⟨"", ["GeneratedTheme.cpp"]⟩ := Except.ok.inj (located.symm.trans here)
  rw [written]
  exact fun same => other (Text.encode_injective (Option.some.inj same))

theorem files_of_failing_run_stale : ∃ (after : Workspace) (failure : Failure),
    (generateCode "layout.yml" "Dark.css" {}).run.run staleWorkspace = (.error failure, after) ∧
    ∃ path, failure = .output (.raised (.missingRule path)) ∧
      CutsOffSource "layout.yml" "Dark.css" {} staleWorkspace after path := by
  obtain ⟨layout, theme, flat, opened, text, opens, printed, _⟩ := opens_stale
  obtain ⟨files, _, ran⟩ := run_writeProgram opens.wrote Failure.output
    (Output.classSource flat theme {})
  rw [printed] at ran
  have failed := opens.run_generateCode ran
  obtain ⟨_, onCode⟩ := files_of_failing_run "layout.yml" "Dark.css" {} staleWorkspace
    { opened with files } (.output (.raised (.missingRule "a.b"))) rfl
  rcases onCode failed with ⟨other, _⟩ | cut
  · cases other
  · exact ⟨_, _, failed, cut⟩

end Palette.Pipeline
