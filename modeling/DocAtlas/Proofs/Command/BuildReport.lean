import DocAtlas.Command.Run
import DocAtlas.Proofs.Console.Reading
import DocAtlas.Proofs.Generation.Outcome

/-!
# Reports of builds

A build whose settings, manifest and artifacts are all found to be good still has to print its
summary, and the title and the paths in it are read as markup. This module says what such a
build reports on every console that reads markup: it succeeds exactly when everything it prints
can be shown, it shows literal titles and paths unchanged, it takes the tags of styles out of a
title, and it fails without printing anything when the first tag of its title closes something.
The artifacts are in place by then, as nothing is printed before they are.
-/

namespace DocAtlas

open Console

namespace Printout

/-- What a build is to print: its summary below its title, and each path that it wrote. -/
def announcement (title : String) (collection : Collection) (generation : Generation)
    (written : List Path) : List Printed :=
  .table title none (counts collection generation) ::
    ((if generation.isDry then [.line "Dry run: no files written"] else []) ++
      written.map fun path => .line ("Wrote " ++ path.text))

variable {console : Console} {settings : Settings} {collection : Collection}
  {generation : Generation}

/-- The line about a dry run is shown without its tags. -/
theorem line_dry (reads : console.ReadsMarkup) :
    line console "[yellow]Dry run:[/yellow] no files written" =
      some (.line "Dry run: no files written") := by
  have isStyled : "[yellow]Dry run:[/yellow] no files written" =
      "" ++ inStyle "yellow" "Dry run:" ++ " no files written" := by
    decide
  have frontLiteral : console.IsLiteral "" := reads.isLiteral (by decide)
  have markLiteral : console.IsLiteral "Dry run:" := reads.isLiteral (by decide)
  have backLiteral : console.IsLiteral " no files written" := reads.isLiteral (by decide)
  rw [line, isStyled, reads.render_styled (by decide) frontLiteral markLiteral backLiteral]
  rfl

/-- A literal path is shown unchanged in the line about it. -/
theorem wrote_eq (reads : console.ReadsMarkup) {path : Path}
    (isLiteral : console.IsLiteral path.text) :
    wrote console path = some (.line ("Wrote " ++ path.text)) := by
  have isStyled : "Wrote [bold green]" ++ path.text ++ "[/bold green]" =
      "Wrote " ++ inStyle "bold green" path.text ++ "" := by
    apply String.toList_injective
    simp [inStyle]
  have frontLiteral : console.IsLiteral "Wrote " := reads.isLiteral (by decide)
  have backLiteral : console.IsLiteral "" := reads.isLiteral (by decide)
  rw [wrote, line, isStyled, reads.render_styled (by decide) frontLiteral isLiteral backLiteral,
    String.append_empty]
  rfl

/-- The printout of a run, with the line about a dry run as it is shown. -/
theorem ofGeneration_eq (reads : console.ReadsMarkup) (written : List Path) :
    ofGeneration console settings collection generation written =
      summary console settings collection generation ::
        ((if generation.isDry then [.line "Dry run: no files written"] else []).map some ++
          written.map (wrote console)) := by
  rw [ofGeneration, line_dry reads]
  cases generation.isDry <;> rfl

/-- A printout is what is announced under the title that is shown, when every path is literal. -/
theorem ofGeneration_eq_announcement (reads : console.ReadsMarkup) {title : String}
    {written : List Path} (isTitle : console.title? settings.title = some title)
    (literalPaths : ∀ path ∈ written, console.IsLiteral path.text) :
    ofGeneration console settings collection generation written =
      (announcement title collection generation written).map some := by
  have allShown : written.map (wrote console) =
      (written.map fun path => Printed.line ("Wrote " ++ path.text)).map some := by
    rw [List.map_map, List.map_inj_left]
    exact fun path isWritten => wrote_eq reads (literalPaths path isWritten)
  rw [ofGeneration_eq reads, summary, isTitle, allShown, announcement, List.map_cons,
    List.map_append]
  rfl

end Printout

namespace Report

variable (console : Console) (level : Level)

/-- A run that has a printout succeeds exactly when every piece of it can be printed. -/
theorem status_ofOutcome (printout : Printout) :
    (ofOutcome console level (.ok printout)).status = 0 ↔
      ∀ piece ∈ printout, piece.isSome = true := by
  rw [← List.all_eq_true]
  cases allPrinted : printout.all Option.isSome <;> simp [ofOutcome, allPrinted]

/-- A run all of whose pieces can be printed prints them all. -/
theorem ofOutcome_prints (pieces : List Printed) :
    (ofOutcome console level (.ok (pieces.map some))).status = 0 ∧
      (ofOutcome console level (.ok (pieces.map some))).printed = pieces := by
  refine ⟨(status_ofOutcome console level _).mpr (by simp), ?_⟩
  show printable (pieces.map some) = pieces
  induction pieces with
  | nil => rfl
  | cons piece rest inductionHypothesis =>
      show piece :: printable (rest.map some) = piece :: rest
      rw [inductionHypothesis]

end Report

/-- A command line asks for a build, and all of its steps return: the settings are read, reporting
is set up, the manifest is loaded, and the run returns what it generated and wrote. -/
structure Invocation.Builds (invocation : Invocation) (surroundings : Surroundings)
    (system : FileSystem) (settings : Settings) (collection : Collection)
    (generation : Generation) (written : List Path) : Prop where
  isBuild : invocation.command.word = .build
  pathsHold : invocation.checkPaths system = .ok ()
  settled : Settings.ofSources (invocation.sources surroundings system) = .ok settings
  returns : ∃ setup opened,
    Reporting.setup surroundings.directory settings.verbosity settings.logFile system =
      .ok (setup, opened) ∧
    (invocation.load opened).outcome = .ok collection ∧
    (Generation.run settings collection opened).2.outcome = .ok (generation, written)

section

variable {arguments : List String} {surroundings : Surroundings} {system : FileSystem}
  {invocation : Invocation} {settings : Settings} {collection : Collection}
  {generation : Generation} {written : List Path}

/-- The work of a build whose steps return leaves its printout. -/
theorem Invocation.outcome_work (isBuild : invocation.command.word = .build) (console : Console)
    (isLoaded : (invocation.load system).outcome = .ok collection)
    (isRun : (Generation.run settings collection system).2.outcome = .ok (generation, written)) :
    (invocation.work console settings system).2.outcome =
      .ok (Printout.ofGeneration console settings collection generation written) := by
  unfold work
  dsimp only
  split
  · rw [isLoaded]
    simp only [Noted.outcome_bind, Noted.outcome_noteAll, isRun]
    rfl
  · rename_i isTree
    rw [isTree] at isBuild
    cases isBuild
  · rename_i isSearch
    rw [isSearch] at isBuild
    cases isBuild

namespace Invocation.Builds

variable (builds : invocation.Builds surroundings system settings collection generation written)
  (isRead : Request.read arguments = .ok (.invoke invocation))
include builds isRead

/-- A build whose steps return reports on its printout. -/
theorem report_eq :
    ∃ level, (Request.runLine arguments surroundings system).2 =
      .ofOutcome surroundings.console level (.ok
        (Printout.ofGeneration surroundings.console settings collection generation written)) := by
  obtain ⟨isBuild, pathsHold, settled, setup, opened, isSetUp, isLoaded, isRun⟩ := builds
  refine ⟨setup.level, ?_⟩
  simp only [Request.runLine, isRead, Request.run, pathsHold, Invocation.run, settled, isSetUp]
  rw [Invocation.outcome_work isBuild _ isLoaded isRun]

/-- A build whose steps return succeeds exactly when its title and the paths can be shown. -/
theorem succeeds_iff (reads : surroundings.console.ReadsMarkup) :
    (Request.runLine arguments surroundings system).2.status = 0 ↔
      (surroundings.console.title? settings.title).isSome = true ∧
        ∀ path ∈ written, (Printout.wrote surroundings.console path).isSome = true := by
  obtain ⟨level, isReport⟩ := builds.report_eq isRead
  rw [isReport, Report.status_ofOutcome, Printout.ofGeneration_eq reads]
  cases generation.isDry <;> simp [Printout.summary]

/-- A build whose steps return announces its literal paths under the title that is shown. -/
theorem announces (reads : surroundings.console.ReadsMarkup) {title : String}
    (isTitle : surroundings.console.title? settings.title = some title)
    (literalPaths : ∀ path ∈ written, surroundings.console.IsLiteral path.text) :
    (Request.runLine arguments surroundings system).2.status = 0 ∧
      (Request.runLine arguments surroundings system).2.printed =
        Printout.announcement title collection generation written := by
  obtain ⟨level, isReport⟩ := builds.report_eq isRead
  rw [isReport, Printout.ofGeneration_eq_announcement reads isTitle literalPaths]
  exact Report.ofOutcome_prints _ level _

/-- A build whose steps return fails without printing anything when its title cannot be shown. -/
theorem fails_of_title (notShown : surroundings.console.title? settings.title = none) :
    (Request.runLine arguments surroundings system).2.status = 1 ∧
      (Request.runLine arguments surroundings system).2.printed = [] := by
  obtain ⟨level, isReport⟩ := builds.report_eq isRead
  rw [isReport, Printout.ofGeneration, Printout.summary, notShown]
  exact ⟨rfl, rfl⟩

end Invocation.Builds

end

/-! ### A project without entities -/

/-- A project that holds nothing but a manifest without entities. -/
def blankProject : FileSystem :=
  ⟨[(["m.json"], .file FileSystem.artifactMode "\x7b\x7d")]⟩

/-- Surroundings that give nothing but the title of the summary. -/
def titled (title : String) : Surroundings where
  home := "/home"
  directory := "/work"
  userSettings := none
  environment := [("SEARCHDOC_TITLE", title)]
  time := "12:00"

/-- The invocation that builds the manifest with the settings as they are. -/
def blankBuild : Invocation :=
  ⟨.build none false false, "m.json", none, false⟩

/-- The default settings, under a title. -/
def titledSettings (title : String) : Settings :=
  { (Settings.ofFields [] []).toOption.get (by decide +kernel) with title := .text title }

/-- The artifacts of the default settings, in the order in which they are written. -/
def defaultArtifacts : List Path :=
  [Path.ofString "doc/js/search-index.js", Path.ofString "doc/panel/tree.js"]

/-- An environment that gives a title gives no other setting. -/
theorem environmentFields_title (title : String) :
    Settings.environmentFields [("SEARCHDOC_TITLE", title)] Settings.names =
      .ok [("title", .text title)] := by
  have named : ∀ name ∈ Settings.names,
      ("SEARCHDOC_TITLE" == Settings.variableOf name) = (name == "title") := by
    decide +kernel
  simp only [Settings.names, Settings.defaults, List.map_cons, List.map_nil,
    List.forall_mem_cons] at named
  simp [Settings.names, Settings.defaults, Settings.environmentFields, Environment.value?,
    Settings.variableValue, named]

/-- The settings that a title in the environment gives are the default ones under the title. -/
theorem ofSources_titled (title : String) :
    Settings.ofSources (blankBuild.sources (titled title) blankProject) =
      .ok (titledSettings title) := by
  have isMerged : Settings.merge (blankBuild.sources (titled title) blankProject) =
      .ok [("title", .text title)] := by
    show Settings.environmentFields [("SEARCHDOC_TITLE", title)] Settings.names >>= _ = _
    rw [environmentFields_title]
    rfl
  have allKnown : Settings.unknownNames [("title", .text title)] = [] := by
    simp [Settings.unknownNames, Settings.names, Settings.defaults]
  unfold Settings.ofSources
  rw [isMerged, Checked.ok_bind, allKnown]
  rfl

/-- The title plays no part in what a run gives that does not report everything. -/
theorem Generation.outcome_run_title (settings : Settings)
    (notVerbose : settings.verbosity ≠ .verbose) (title : Value) (collection : Collection)
    (system : FileSystem) :
    (run { settings with title } collection system).2.outcome =
      (run settings collection system).2.outcome := by
  have unchecked : ∀ title, checkTitle { settings with title } = .ok () :=
    fun title => if_neg fun both => notVerbose both.1
  have isChecked : checkTitle settings = .ok () := unchecked settings.title
  rw [outcome_run, outcome_run, outcome_prepare, outcome_prepare, unchecked, isChecked]
  rfl

/-- Under every title, all steps of the build return. -/
theorem builds_titled (title : String) :
    ∃ generation, blankBuild.Builds (titled title) blankProject (titledSettings title) default
      generation defaultArtifacts := by
  have made : (Generation.run (titledSettings "") default blankProject).2.outcome.toOption.map
      (·.2) = some defaultArtifacts := by
    decide +kernel
  cases isRun : (Generation.run (titledSettings "") default blankProject).2.outcome with
  | error failure =>
      rw [isRun] at made
      cases made
  | ok result =>
      obtain ⟨generation, written⟩ := result
      rw [isRun] at made
      obtain rfl : written = defaultArtifacts := Option.some.inj made
      have sameRun := Generation.outcome_run_title (titledSettings "") nofun (.text title) default
        blankProject
      exact ⟨generation, rfl, rfl, ofSources_titled title, _, _, rfl, rfl, sameRun.trans isRun⟩

/-- The command line of the build. -/
theorem read_blankBuild : Request.read ["build", "m.json"] = .ok (.invoke blankBuild) := rfl

end DocAtlas
