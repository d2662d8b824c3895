import DocAtlas.Console
import DocAtlas.Generation
import DocAtlas.Search.Query

/-!
# Printouts

This module says what each command prints on a console. Names, addresses and queries
are protected from being read as markup; the title of a summary and the paths written
are not. A printout is nothing when its markup does not hold or when a value that
is no text stands in it.
-/

namespace DocAtlas

/-- What a command prints, piece by piece; nothing stands for a piece that cannot be
printed. -/
abbrev Printout := List (Option Printed)

namespace Printout

variable (console : Console)

/-- A line of marked-up text. -/
def line (text : String) : Option Printed :=
  (console.render text).map .line

/-- A value as text that is shown as it is. -/
def protected? : Value → Option String
  | .text content => some (console.escape content)
  | _ => none

/-- The rows of a summary. -/
def counts (collection : Collection) (generation : Generation) : List (List String) :=
  [["Classes/modules", toString collection.classes.length],
    ["Files", toString collection.files.length],
    ["Tree nodes", toString (Node.count generation.tree)],
    ["Search records", toString generation.index.records.length]]

/-- The summary of a run. -/
def summary (settings : Settings) (collection : Collection) (generation : Generation) :
    Option Printed :=
  (console.title? settings.title).map fun title =>
    .table title none (counts collection generation)

/-- The line about a path that was written. -/
def wrote (path : Path) : Option Printed :=
  line console ("Wrote [bold green]" ++ path.text ++ "[/bold green]")

/-- What a run prints: its summary, and what it wrote. -/
def ofGeneration (settings : Settings) (collection : Collection) (generation : Generation)
    (written : List Path) : Printout :=
  summary console settings collection generation ::
    (if generation.isDry then [line console "[yellow]Dry run:[/yellow] no files written"]
      else []) ++
    written.map (wrote console)

mutual

/-- The outline of a node. -/
def outline : Node → Option Outline
  | .entity name path suffix children => do
    let place ←
      if path.isGiven then
        (protected? console path).map fun path => " [dim]" ++ path ++ "[/dim]"
      else some ""
    let label ← console.render
      ("[bold]" ++ (← protected? console name) ++ "[/bold]" ++ console.escape suffix ++ place)
    pure (.mk label (← outlines children))
  | .group label children => do
    let label ← console.render ("[cyan]" ++ (← protected? console label) ++ "/[/cyan]")
    pure (.mk label (← outlines children))
  | .page name url => do
    let label ← console.render
      ((← protected? console name) ++ " [dim]" ++ console.escape url ++ "[/dim]")
    pure (.mk label [])

/-- The outlines of nodes, in order. -/
def outlines : List Node → Option (List Outline)
  | [] => some []
  | node :: rest => do
    let first ← outline node
    pure (first :: (← outlines rest))

end

/-- What is printed of a tree: an outline below the title. -/
def ofTree (title : Value) (nodes : List Node) : Printout :=
  [do
    let label ← console.render
      ("[bold cyan]" ++ (← protected? console title) ++ "[/bold cyan]")
    pure (.outline (.mk label (← outlines console nodes)))]

/-- The name that a hit shows: that of an entity, or the qualified one of a method. -/
def nameOf : SearchRecord → String
  | .entity _ fullName _ => fullName
  | .method owner name _ _ => SearchRecord.qualified owner name

/-- The summary that a hit shows. -/
def summaryOf : SearchRecord → Value
  | .entity .. => .text ""
  | .method _ _ summary _ => summary

/-- The row of a hit. -/
def row (hit : Hit) : Option (List String) := do
  let url ← protected? console hit.record.url
  let summary ← protected? console (summaryOf hit.record)
  [console.escape (nameOf hit.record), hit.record.type, hit.tier.word, url, summary].mapM
    console.render

/-- What is printed of the hits of a query: a table, or a line when there are none. -/
def ofHits (query : String) : List Hit → Printout
  | [] => [line console ("[yellow]No results for[/yellow] " ++ console.escape query)]
  | hits =>
    [do
      let title ← console.title? (.text ("Results for " ++ console.escape query))
      let rows ← hits.mapM (row console)
      pure (.table title (some ["Name", "Type", "Match", "URL", "Summary"]) rows)]

end Printout

end DocAtlas
