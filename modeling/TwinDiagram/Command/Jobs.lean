import TwinDiagram.Command.Arguments
import TwinDiagram.Command.Report
import TwinDiagram.Command.Session
import TwinDiagram.Graph.OfModel
import TwinDiagram.Layout.Cache
import TwinDiagram.Model.Json
import TwinDiagram.Parser.Document

namespace TwinDiagram.Command

open Run

def statementLogger : String := "dartwin.core.dsl_parser_impl.base"
def documentLogger : String := "dartwin.core.dsl_parser_impl"
def graphLogger : String := "dartwin.core.graph_builder"
def layoutLogger : String := "dartwin.ui.layout_engine.plan"
def cacheLogger : String := "dartwin.ui.layout_engine.cache"

def requireFile (file : String) : Run (Path × Address × ByteArray) := do
  let s ← get
  let path := Path.ofText file
  match s.files.fileAt? s.here path with
  | .ok (some (a, bytes)) => return (path, a, bytes)
  | .ok none => failWith s!"File not found: {file}"
  | .error f => crash (.access f)

def loadSettings (verbose : Bool) (document : Address) : Run Project.Settings := do
  match Project.load (← get).files document with
  | .ok settings =>
    let threshold := if verbose then .debug else settings.manifest.level
    modify fun s ↦ { s with threshold }
    return settings
  | .error (a, f) =>
    match f.message? a.text with
    | some message => failWith s!"Config error: {message}"
    | none => crash (.manifest f)

def logEvent : Parser.Event → Run Unit
  | .found f => log .debug statementLogger f.diagnostic.format
  | .skipped t =>
    log .debug statementLogger s!"Skipping {Text.quoted t.value} at {t.line}:{t.column}"
  | .parsed name systems goals allocations findings =>
    log .debug documentLogger <|
      s!"Parsed {name}: {systems} systems, {goals} goals, {allocations} allocations, " ++
        s!"{findings} diagnostics"

def readDocument (path : Path) (bytes : ByteArray) : Run (Model × List Diagnostic) := do
  match Text.readBytes bytes with
  | .error f =>
    failWith <| s!"Cannot read {path.text}: not valid UTF-8 " ++
      s!"({f.reason.message} at byte {f.offset})"
  | .ok text =>
    let (result, state) := Parser.readText text
    state.events.reverse.forM logEvent
    match result with
    | .ok m => return (m, state.diagnostics)
    | .error _ => throw .failed

def buildGraph (m : Model) : Run (Graph × List Diagnostic) := do
  let (result, draft) := Graph.ofModel m
  draft.findings.forM fun f ↦ log .warning graphLogger f.message
  match result with
  | .error f => crash (.build f)
  | .ok g =>
    log .debug graphLogger <| s!"Built graph for {Graph.Build.rootName m}: " ++
      s!"{g.nodes.length} nodes, {g.edges.length} edges, {draft.findings.length} diagnostics"
    return (g, draft.findings.map Graph.Finding.diagnostic)

def emit (text : String) (output : Option String) : Run Unit := do
  let file := output.getD ""
  if file.isEmpty then say text
  else
    let s ← get
    match s.files.find s.here (.ofText file) with
    | .error f => crash (.access f)
    | .ok a => do
      access (·.write a (text ++ "\n").toUTF8)
      complain s!"Wrote {file}"

def drawGraph (g : Graph) (m : Layout.Metrics Float) : Run (Layout.Drawing Float) := do
  let d := Layout.draw m g
  log .debug layoutLogger (Layout.summary d)
  return d

def lookUp (directory : Address) (g : Graph) (m : Layout.Metrics Float) :
    Run (Option (Layout.Drawing Float)) := do
  match Layout.Cache.get (← get).files directory g m with
  | .error f => crash (.undecodable f)
  | .ok found => do
    if let .unreadable := found then
      let entry := Layout.Cache.entry directory g m
      log .debug cacheLogger s!"Ignoring unreadable cache entry {entry.text}"
    return found.drawing?

def drawCached (directory : Address) (g : Graph) (m : Layout.Metrics Float) :
    Run (Layout.Drawing Float) := do
  access (Layout.Cache.make · directory)
  match ← lookUp directory g m with
  | some d => return d
  | none => do
    let d ← drawGraph g m
    access (Layout.Cache.set · directory g d m)
    return d

def metricsOf (c : Layout.Config) : Run (Layout.Metrics Float) := do
  match Layout.Metrics.ofConfig c with
  | .ok m => return m
  | .error (.unknownMetrics names) =>
    failWith s!"Config error: {(Layout.ConfigFault.unknownMetrics names).message}"
  | .error f => crash (.metrics f)

def parse (verbose : Bool) (file : String) (output : Option String) : Run Unit := do
  let (path, a, bytes) ← requireFile file
  let _ ← loadSettings verbose a
  let (m, _) ← readDocument path bytes
  emit (m.toJson.render (.indented 2)) output

def graph (verbose : Bool) (file : String) (output : Option String) : Run Unit := do
  let (path, a, bytes) ← requireFile file
  let _ ← loadSettings verbose a
  let (m, _) ← readDocument path bytes
  let (g, _) ← buildGraph m
  emit (g.toJson.render (.indented 2)) output

def layout (verbose : Bool) (file : String) (output : Option String) (afresh : Bool) :
    Run Unit := do
  let (path, a, bytes) ← requireFile file
  let settings ← loadSettings verbose a
  let metrics ← metricsOf settings.manifest.layout
  let (m, _) ← readDocument path bytes
  let (g, _) ← buildGraph m
  let root := settings.root.getD a.dropLast
  let d ←
    if settings.manifest.layout.cache && !afresh then
      drawCached (Layout.Cache.directoryOf root) g metrics
    else drawGraph g metrics
  emit (d.toJson.render (.indented 2)) output

def check (verbose : Bool) (file format : String) : Run Unit := do
  let (path, a, bytes) ← requireFile file
  let _ ← loadSettings verbose a
  let (m, read) ← readDocument path bytes
  let (g, built) ← buildGraph m
  let found := read ++ built
  let format := ReportFormat.ofName format
  match format.lines path.text found with
  | .ok lines => lines.forM (if format = .table then draw else say)
  | .error f => crash (.markup f)
  let warnings := (found.filter Diagnostic.isWarning).length
  if 0 < warnings then
    if format != .editor then complain s!"{warnings} warning(s)"
    throw .failed
  if format != .editor then say s!"OK: {g.nodes.length} nodes, {g.edges.length} edges"

/-- Holds data against the shape of a model or a graph. -/
def rejection? (kind : String) (source : Interchange.Source) : Option Interchange.Rejection :=
  let checked := if kind == "model" then (Interchange.loadModel source).map fun _ ↦ ()
    else (Interchange.loadGraph source).map fun _ ↦ ()
  match checked with
  | .ok _ => none
  | .error r => some r

def validate (file kind : String) : Run Unit := do
  if kind != "model" && kind != "graph" then
    failWith s!"Unknown kind: {kind} (expected 'model' or 'graph')"
  let (_, _, bytes) ← requireFile file
  match rejection? kind (.encoded bytes) with
  | none => say s!"OK: valid {kind}"
  | some r =>
    let place := (r.field?.map fun f ↦ s!" at {f}").getD ""
    failWith s!"Invalid {kind}{place}: {r.message}"

def perform (verbose : Bool) : Job → Run Unit
  | .parse file output => parse verbose file output
  | .graph file output => graph verbose file output
  | .layout file output afresh => layout verbose file output afresh
  | .check file format => check verbose file format
  | .validate file kind => validate file kind

end TwinDiagram.Command
