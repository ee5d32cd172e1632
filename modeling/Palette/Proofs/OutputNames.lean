import Palette.Proofs.FailingRuns
import Palette.Proofs.SuffixNames

/-!
The names of the files that runs write. A theme file is named after its style sheet and the sources
of the theme class after the base name, but both names lose what they have behind an inner dot. So
two style sheets may be for the same theme file, and the source may include a header that is not the
one written.
-/

namespace Palette.Pipeline

open Files Stateful Printer

/-! ### What is written and stays -/

theorem leads_of_markTime {settings : Settings} {base path place : Path} {content : List UInt8}
    {w after : Workspace} {marks : List Path} (leads : w.files.Leads path place content)
    (marked : (markTime settings base).run.run w = (.ok marks, after)) :
    after.files.Leads path place content := by
  unfold markTime at marked
  split at marked
  · obtain ⟨stamp, _, named, marked⟩ := bind_ok_cases marked
    obtain ⟨_, _, touched, marked⟩ := bind_ok_cases marked
    cases marked
    obtain ⟨_, rfl⟩ := withSuffix?_of_run named
    have kept := Edit.leads_of_touch leads stamp
    rwa [edit_of_change touched] at kept
  · cases marked
    exact leads

theorem files_of_reads {α : Type} {job : Job α} (reads : Reads job) {w after : Workspace}
    {value : α} (ran : job.run.run w = (.ok value, after)) : after.files = w.files := by
  have kept := reads w
  rwa [ran] at kept

theorem write_of_writeProgram {ε : Type} {failure : Fault ε → Failure} {path : Path}
    {program : Program ε} {w after : Workspace}
    (written : (writeProgram failure path program).run.run w = (.ok (), after)) :
    ∃ text, render "\t" program = (text, .ok ()) ∧
      (Edit.write path (Text.encode text)).run.run w.files = (.ok (), after.files) := by
  obtain ⟨_, _, changed, ended⟩ := bind_ok_cases written
  obtain ⟨outcome, rfl⟩ := result_of_lift ended
  exact ⟨_, Prod.ext rfl outcome, edit_of_change changed⟩

/-! ### Theme files -/

def themeText (theme : Theme.Flat) : String :=
  (render "\t" (Output.themeFile theme : Program Output.Error)).1

/-- A run has read a style sheet and written its theme file, by this path and to this place. -/
structure WritesTheme (stylePath : String) (settings : Settings) (before after : Workspace)
    (report : Report) (path place : Path) : Prop where
  ran : (generateTheme stylePath settings).run.run before = (.ok report, after)
  listed : report.written.head? = some path
  filled : ∃ theme loaded, (loadTheme stylePath).run.run before = (.ok theme, loaded) ∧
    after.files.Leads path place (Text.encode (themeText theme))

section

variable {stylePath : String} {settings : Settings} {before after : Workspace} {report : Report}
  {failure : Failure}

theorem generateTheme_writes
    (ran : (generateTheme stylePath settings).run.run before = (.ok report, after)) :
    ∃ path place, WritesTheme stylePath settings before after report path place ∧
      (settings.base (themeName stylePath)).withSuffix? ".c2theme" = some path := by
  obtain ⟨theme, loaded, themeLoaded, succeeded⟩ := bind_ok_cases ran
  obtain ⟨_, second, _, succeeded⟩ := bind_ok_cases succeeded
  obtain ⟨path, third, named, succeeded⟩ := bind_ok_cases succeeded
  obtain ⟨_, fourth, printed, succeeded⟩ := bind_ok_cases succeeded
  obtain ⟨marks, fifth, marked, succeeded⟩ := bind_ok_cases succeeded
  obtain ⟨_, sixth, logged, succeeded⟩ := bind_ok_cases succeeded
  obtain ⟨_, _, got, succeeded⟩ := bind_ok_cases succeeded
  cases succeeded
  cases got
  obtain ⟨suffixed, rfl⟩ := withSuffix?_of_run named
  obtain ⟨text, rendered, written⟩ := write_of_writeProgram printed
  obtain ⟨place, leads⟩ := (Edit.wrote_of_run written).leads
  have same : themeText theme = text := congrArg Prod.fst rendered
  have stays := leads_of_markTime leads marked
  rw [← files_of_reads (reads_info _) logged, ← same] at stays
  exact ⟨path, place, ⟨ran, rfl, theme, loaded, themeLoaded, stays⟩, suffixed⟩

end

theorem place_ne_of_names {base other path otherPath place otherPlace : Path}
    {suffix otherSuffix : String} {files otherFiles : Tree}
    (suffixed : base.withSuffix? suffix = some path)
    (otherSuffixed : other.withSuffix? otherSuffix = some otherPath) (long : 3 ≤ suffix.length)
    (otherLong : 3 ≤ otherSuffix.length) (located : files.placeOf path = .ok place)
    (otherLocated : otherFiles.placeOf otherPath = .ok otherPlace)
    (different : base.stem ++ suffix ≠ other.stem ++ otherSuffix) : place ≠ otherPlace := by
  have notUpward : ∀ stem suffix : String, 3 ≤ suffix.length → stem ++ suffix ≠ ".." := by
    intro stem suffix long same
    have size := congrArg String.length same
    rw [String.length_append] at size
    change stem.length + suffix.length = 2 at size
    omega
  have last := Tree.getLast?_of_placeOf located (Path.getLast?_withSuffix? suffixed).1
    (notUpward _ _ long)
  have otherLast := Tree.getLast?_of_placeOf otherLocated
    (Path.getLast?_withSuffix? otherSuffixed).1 (notUpward _ _ otherLong)
  rintro rfl
  exact different (Option.some.inj (last.symm.trans otherLast))

/-! ### The sources of the theme class -/

theorem classSource_includes {flat : List Layout.FlatStruct} {theme : Theme.Flat}
    {names : Output.Names} {unit text : String} {outcome : Except (Fault Output.Error) Unit}
    (rendered : render unit (Output.classSource flat theme names) = (text, outcome)) :
    ∃ rest, text = "#include \"" ++ names.baseName ++ ".hpp\"" ++ "\n" ++ rest := by
  obtain ⟨others, more, begins⟩ : ∃ others more, Output.classSource flat theme names =
      .lines (("#include \"" ++ names.baseName ++ ".hpp\"") :: others) :: more := ⟨_, _, rfl⟩
  have started : Extends (({ unit } : Printer).line ("#include \"" ++ names.baseName ++ ".hpp\""))
      (runAll (Output.classSource flat theme names) { unit }).1 := by
    rw [begins, runAll, Step.run, List.foldl_cons]
    exact (extends_lines others _).trans (extends_runAll more _)
  have same : (runAll (Output.classSource flat theme names) { unit }).1.text = text :=
    congrArg Prod.fst rendered
  obtain ⟨rest, longer⟩ := started
  refine ⟨rest, ?_⟩
  rw [← same, longer, line_eq_write]
  simp [write, lineText, String.append_assoc]

/-- A run has written the source of the theme class and its header, by these paths. -/
structure WritesClass (layoutPath stylePath : String) (settings : Settings)
    (before after : Workspace) (report : Report) (source header : Path) (sourceText : String) :
    Prop where
  ran : (generateCode layoutPath stylePath settings).run.run before = (.ok report, after)
  listed : ∃ marks, report.written = source :: header :: marks
  filled : ∃ layout theme flat opened sourcePlace headerPlace,
    OpensSource layoutPath stylePath settings before layout theme flat source opened ∧
    render "\t" (Output.classSource flat theme settings.toNames) = (sourceText, .ok ()) ∧
    after.files.Leads source sourcePlace (Text.encode sourceText) ∧
    after.files.Leads header headerPlace (Text.encode
      (render "\t" (Output.header layout settings.toNames : Program Output.Error)).1)

theorem generateCode_writes {layoutPath stylePath : String} {settings : Settings}
    {before after : Workspace} {report : Report}
    (ran : (generateCode layoutPath stylePath settings).run.run before = (.ok report, after)) :
    ∃ source header sourceText,
      WritesClass layoutPath stylePath settings before after report source header sourceText ∧
      (settings.base settings.baseName).withSuffix? ".cpp" = some source ∧
      (settings.base settings.baseName).withSuffix? ".hpp" = some header := by
  obtain ⟨layout, first, layoutLoaded, succeeded⟩ := bind_ok_cases ran
  obtain ⟨theme, second, themeLoaded, succeeded⟩ := bind_ok_cases succeeded
  obtain ⟨_, _, directories, succeeded⟩ := bind_ok_cases succeeded
  obtain ⟨source, third, named, succeeded⟩ := bind_ok_cases succeeded
  obtain ⟨_, _, emptied, succeeded⟩ := bind_ok_cases succeeded
  obtain ⟨flat, opened, flattened, succeeded⟩ := bind_ok_cases succeeded
  obtain ⟨_, _, printed, succeeded⟩ := bind_ok_cases succeeded
  obtain ⟨header, fourth, headerNamed, succeeded⟩ := bind_ok_cases succeeded
  obtain ⟨_, fifth, headerPrinted, succeeded⟩ := bind_ok_cases succeeded
  obtain ⟨marks, sixth, marked, succeeded⟩ := bind_ok_cases succeeded
  obtain ⟨_, _, got, succeeded⟩ := bind_ok_cases succeeded
  obtain ⟨_, seventh, logged, succeeded⟩ := bind_ok_cases succeeded
  cases succeeded
  cases got
  obtain ⟨suffixed, rfl⟩ := withSuffix?_of_run named
  obtain ⟨expanded, rfl⟩ := result_of_lift flattened
  obtain ⟨headerSuffixed, rfl⟩ := withSuffix?_of_run headerNamed
  obtain ⟨sourceText, rendered, written⟩ := write_of_writeProgram printed
  obtain ⟨headerText, headerRendered, headerWritten⟩ := write_of_writeProgram headerPrinted
  obtain ⟨sourcePlace, sourceLeads⟩ := (Edit.wrote_of_run written).leads
  obtain ⟨headerPlace, headerLeads⟩ := (Edit.wrote_of_run headerWritten).leads
  -- The header is written after the source, but to another place.
  have sourceStays := Edit.leads_of_write sourceLeads headerWritten fun located =>
    place_ne_of_names suffixed headerSuffixed (by decide) (by decide) sourceLeads.located located
      (by simp) rfl
  have sourceLast := leads_of_markTime sourceStays marked
  have headerLast := leads_of_markTime headerLeads marked
  have logged := files_of_reads (reads_info _) logged
  rw [← logged] at sourceLast headerLast
  have same : (render "\t" (Output.header layout settings.toNames : Program Output.Error)).1 =
      headerText := congrArg Prod.fst headerRendered
  rw [← same] at headerLast
  exact ⟨source, header, sourceText, ⟨ran, ⟨marks, rfl⟩, layout, theme, flat, opened, sourcePlace,
    headerPlace, ⟨⟨first, second, third, layoutLoaded, themeLoaded, directories, emptied⟩, suffixed,
      expanded⟩, rendered, sourceLast, headerLast⟩, suffixed, headerSuffixed⟩

/-! ### Names kept and lost -/

theorem named_whole_iff {settings : Settings} {name suffix : String} {path : Path}
    (suffixed : (settings.base name).withSuffix? suffix = some path)
    (slashless : '/' ∉ suffix.toList) (long : 3 ≤ suffix.length) :
    path = settings.base (name ++ suffix) ↔ Path.Whole (Path.lastPiece name) := by
  rw [← Path.withSuffix?_join_eq_iff settings.directory name slashless long]
  change _ ↔ (settings.base name).withSuffix? suffix = some (settings.base (name ++ suffix))
  rw [suffixed, Option.some.injEq]

theorem base_dot (settings : Settings) : settings.base "." = settings.directory := by
  have silent : Path.ofString "." = {} := by decide
  simp [Settings.base, silent, Path.join]

section

variable {stylePath otherStyle : String} {settings : Settings}
  {before after otherBefore otherAfter : Workspace} {report otherReport : Report}
  {path place otherPath otherPlace : Path}

theorem themeName_of_stem (named : (Path.ofString stylePath).stem ≠ "") :
    themeName stylePath = (Path.ofString stylePath).stem := by
  unfold themeName
  dsimp only
  rw [if_neg (by simpa using named)]

theorem WritesTheme.suffixed
    (writes : WritesTheme stylePath settings before after report path place) :
    (settings.base (themeName stylePath)).withSuffix? ".c2theme" = some path := by
  obtain ⟨found, _, also, suffixed⟩ := generateTheme_writes writes.ran
  rw [suffixed, ← also.listed, writes.listed]

theorem themeName_ne_empty (style : String) : themeName style ≠ "" := by
  unfold themeName
  dsimp only
  split
  · decide
  · next named => simpa using named

theorem slashless_themeName (style : String) : '/' ∉ (themeName style).toList := by
  unfold themeName
  dsimp only
  split
  · decide
  · exact Path.slashless_stem style

theorem base_themeName (shows : themeName stylePath ≠ ".") :
    settings.base (themeName stylePath) = settings.directory.below (themeName stylePath) := by
  apply Path.join_ofString (slashless_themeName stylePath)
  simp [Path.isSilent, themeName_ne_empty stylePath, shows]

theorem dot_of_nameless (named : (Path.ofString stylePath).stem ≠ "")
    (nameless : (settings.base (Path.ofString stylePath).stem).name = "") :
    (Path.ofString stylePath).stem = "." ∧ settings.directory.name = "" ∧
      Failure.emptyName (settings.base (Path.ofString stylePath).stem) =
        .emptyName settings.directory := by
  have isStem := themeName_of_stem named
  by_cases dot : (Path.ofString stylePath).stem = "."
  · rw [dot, base_dot] at nameless
    rw [dot, base_dot]
    exact ⟨rfl, nameless, rfl⟩
  · rw [← isStem] at dot nameless
    rw [base_themeName dot] at nameless
    refine absurd ?_ (themeName_ne_empty stylePath)
    simpa [Path.name, Path.below] using nameless

theorem stem_below (p : Path) (part : String) : (p.below part).stem = (Path.splitName part).1 := by
  simp [Path.stem, Path.name, Path.below]

theorem WritesTheme.path_eq
    (writes : WritesTheme stylePath settings before after report path place)
    (shows : themeName stylePath ≠ ".") :
    path = settings.directory.below ((Path.splitName (themeName stylePath)).1 ++ ".c2theme") := by
  have suffixed := writes.suffixed
  rw [base_themeName shows, Path.withSuffix?_below _ (themeName_ne_empty stylePath)] at suffixed
  exact (Option.some.inj suffixed).symm

theorem WritesTheme.place_ne
    (writes : WritesTheme stylePath settings before after report path place)
    (also : WritesTheme otherStyle settings otherBefore otherAfter otherReport otherPath otherPlace)
    (shows : themeName stylePath ≠ ".") (otherShows : themeName otherStyle ≠ ".")
    (different : (Path.splitName (themeName stylePath)).1 ≠
      (Path.splitName (themeName otherStyle)).1) : place ≠ otherPlace := by
  obtain ⟨_, _, _, leads⟩ := writes.filled
  obtain ⟨_, _, _, otherLeads⟩ := also.filled
  apply place_ne_of_names writes.suffixed also.suffixed (by decide) (by decide) leads.located
    otherLeads.located
  rw [base_themeName shows, base_themeName otherShows, stem_below, stem_below]
  simpa using different

end

/-- A run for a theme file whose style sheet can be read fails only if a file is refused, or if the
stem is a dot and the output directory has no name. If it succeeds, the file is named by the whole
stem exactly if the stem is whole. Different whole stems give different files; of all stems but the
dot, two give one file exactly if they are the same up to an inner last dot. The source of the theme
class includes a header by the whole base name, which is the header written exactly if the last
piece of the base name is whole. -/
theorem outputs_named (layoutPath stylePath : String) (settings : Settings)
    (before after : Workspace) :
    let stem := (Path.ofString stylePath).stem
    (stem ≠ "" →
      (∀ failure, (generateTheme stylePath settings).run.run before = (.error failure, after) →
        (loadTheme stylePath).run.run before = (.error failure, after) ∨ failure.isFile = true ∨
          stem = "." ∧ settings.directory.name = "" ∧ failure = .emptyName settings.directory) ∧
      (∀ report, (generateTheme stylePath settings).run.run before = (.ok report, after) →
        ∃ path place, WritesTheme stylePath settings before after report path place ∧
          (path = settings.base (stem ++ ".c2theme") ↔ Path.Whole stem)) ∧
      (∀ report path place otherStyle otherBefore otherAfter otherReport otherPath otherPlace,
        WritesTheme stylePath settings before after report path place →
        WritesTheme otherStyle settings otherBefore otherAfter otherReport otherPath otherPlace →
        let other := (Path.ofString otherStyle).stem
        other ≠ "" →
        (Path.Whole stem → Path.Whole other → stem ≠ other → place ≠ otherPlace) ∧
        (stem ≠ "." → other ≠ "." →
          ((Path.splitName stem).1 = (Path.splitName other).1 → path = otherPath) ∧
          ((Path.splitName stem).1 ≠ (Path.splitName other).1 → place ≠ otherPlace)))) ∧
    (∀ report, (generateCode layoutPath stylePath settings).run.run before = (.ok report, after) →
      ∃ source header text,
        WritesClass layoutPath stylePath settings before after report source header text ∧
        (∃ rest, text = "#include \"" ++ settings.baseName ++ ".hpp\"" ++ "\n" ++ rest) ∧
        (header = settings.base (settings.baseName ++ ".hpp") ↔
          Path.Whole (Path.lastPiece settings.baseName))) := by
  intro stem
  refine ⟨fun named => ?_, fun report ran => ?_⟩
  · have isStem : themeName stylePath = stem := themeName_of_stem named
    refine ⟨fun failure failed => ?_, fun report ran => ?_, ?_⟩
    · apply generateTheme_fails (P := fun failure => failure.isFile = true ∨ stem = "." ∧
        settings.directory.name = "" ∧ failure = .emptyName settings.directory) _ _ failed
      · exact fun e => .inl rfl
      · rw [isStem]
        exact fun nameless => .inr (dot_of_nameless named nameless)
    · obtain ⟨path, place, writes, suffixed⟩ := generateTheme_writes ran
      refine ⟨path, place, writes, ?_⟩
      rw [isStem] at suffixed
      rw [named_whole_iff suffixed (by decide) (by decide),
        Path.lastPiece_of_slashless (Path.slashless_stem stylePath)]
    · intro report path place otherStyle otherBefore otherAfter otherReport otherPath otherPlace
        writes also other otherNamed
      have isOther : themeName otherStyle = other := themeName_of_stem otherNamed
      have apart := writes.place_ne also
      rw [isStem, isOther] at apart
      refine ⟨fun whole otherWhole different => ?_, fun shows otherShows => ⟨fun same => ?_, ?_⟩⟩
      · apply apart whole.2.1 otherWhole.2.1
        rwa [(Path.splitName_eq_self_iff stem).mpr whole.2.2,
          (Path.splitName_eq_self_iff other).mpr otherWhole.2.2]
      · have dotless : themeName stylePath ≠ "." := isStem ▸ shows
        have otherDotless : themeName otherStyle ≠ "." := isOther ▸ otherShows
        rw [writes.path_eq dotless, also.path_eq otherDotless, isStem, isOther, same]
      · exact apart shows otherShows
  · obtain ⟨source, header, text, writes, _, suffixed⟩ := generateCode_writes ran
    obtain ⟨_, _, _, _, _, _, _, rendered, _⟩ := writes.filled
    exact ⟨source, header, text, writes, classSource_includes rendered,
      named_whole_iff suffixed (by decide) (by decide)⟩

def smallSheet : Entry :=
  .file (Text.encode "@chatterino\x7bauthor:\"\";icon-set:\"\"\x7da\x7bb:#fff\x7d")

def dottedWorkspace : Workspace where
  files :=
    [(⟨"", ["layout.yml"]⟩, .file (Text.encode "layout: {a: {fields: [b]}}")),
      (⟨"", ["Dark.css"]⟩, smallSheet), (⟨"", ["a.b.css"]⟩, smallSheet),
      (⟨"", ["a.c.css"]⟩, smallSheet)]

theorem run_of_written {job : Job Report} {w : Workspace} {paths : List Path}
    (evaluated : (job.run.run w).1.toOption.map Report.written = some paths) :
    ∃ report after, job.run.run w = (.ok report, after) ∧ report.written = paths := by
  obtain ⟨report, finished, same⟩ := Option.map_eq_some_iff.mp evaluated
  exact ⟨report, _, Prod.ext (toOption_eq_some_iff.mp finished) rfl, same⟩

theorem outputs_named_dark : ∃ report after path place codeReport codeAfter source header text,
    WritesTheme "Dark.css" {} dottedWorkspace after report path place ∧
    path = ⟨"", ["Dark.c2theme"]⟩ ∧
    WritesClass "layout.yml" "Dark.css" {} dottedWorkspace codeAfter codeReport source header text ∧
    header = ⟨"", ["GeneratedTheme.hpp"]⟩ := by
  obtain ⟨report, after, ran, _⟩ : ∃ report after,
      (generateTheme "Dark.css" {}).run.run dottedWorkspace = (.ok report, after) ∧
      report.written = [⟨"", ["Dark.c2theme"]⟩] := run_of_written (by decide +kernel)
  obtain ⟨codeReport, codeAfter, codeRan, _⟩ : ∃ report after,
      (generateCode "layout.yml" "Dark.css" {}).run.run dottedWorkspace = (.ok report, after) ∧
      report.written = [⟨"", ["GeneratedTheme.cpp"]⟩, ⟨"", ["GeneratedTheme.hpp"]⟩] :=
    run_of_written (by decide +kernel)
  have onTheme := (outputs_named "layout.yml" "Dark.css" {} dottedWorkspace after).1 (by decide)
  have onCode := (outputs_named "layout.yml" "Dark.css" {} dottedWorkspace codeAfter).2
  obtain ⟨path, place, writes, whole⟩ := onTheme.2.1 report ran
  obtain ⟨source, header, text, writesClass, _, headerWhole⟩ := onCode codeReport codeRan
  exact ⟨report, after, path, place, codeReport, codeAfter, source, header, text, writes,
    whole.mpr (by decide), writesClass, headerWhole.mpr (by decide)⟩

/-- Names with inner dots are not: two style sheets are for one theme file, and the header that is
written is not the one that the source includes. -/
theorem outputs_lose_names :
    (∀ style ∈ ["a.b.css", "a.c.css"], ∃ report after,
      (generateTheme style {}).run.run dottedWorkspace = (.ok report, after) ∧
      report.written = [⟨"", ["a.c2theme"]⟩]) ∧
    ∃ report after, (generateCode "layout.yml" "a.b.css" { baseName := "a.b" }).run.run
        dottedWorkspace = (.ok report, after) ∧
      report.written = [⟨"", ["a.cpp"]⟩, ⟨"", ["a.hpp"]⟩] := by
  refine ⟨fun style member => ?_, run_of_written (by decide +kernel)⟩
  rcases List.mem_pair.mp member with rfl | rfl
  · exact run_of_written (by decide +kernel)
  · exact run_of_written (by decide +kernel)

end Palette.Pipeline
