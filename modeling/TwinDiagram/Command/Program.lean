import TwinDiagram.Command.Jobs

namespace TwinDiagram.Command

/-- How a run ends. -/
inductive Exit where
  | success
  | failure
  /-- The arguments make no sense. -/
  | usage
  | crash (c : Crash)
deriving DecidableEq, Repr

def Exit.code : Exit → Nat
  | success => 0
  | failure => 1
  | usage => 2
  | crash _ => 1

def versionText : String := "DarTwin 0.3.0"

def helpLines : List String :=
  ["Usage: dartwin [--version] [--verbose] COMMAND FILE [OPTIONS]", "",
    "  parse     print the model of a document (-o FILE)",
    "  graph     print its graph (-o FILE)",
    "  layout    print its drawing (-o FILE, --no-cache)",
    "  check     report what is wrong with it (-f human|vscode|table)",
    "  validate  check the JSON of a model or a graph (-k model|graph)"]

/-- Runs a request; `environment` tells what the program runs on. -/
def Request.run (environment : String) : Request → Run Unit
  | help => Run.sayAll helpLines
  | version => Run.sayAll [versionText, environment]
  | job verbose j => perform verbose j

/-- The end of a run, and the session it leaves. -/
def run (environment : String) (args : List String) (s : Session) : Exit × Session :=
  match Request.ofArguments args with
  | none => (.usage, s)
  | some r =>
    match (r.run environment).run.run s with
    | (.ok _, s) => (.success, s)
    | (.error .failed, s) => (.failure, s)
    | (.error (.crashed c), s) => (.crash c, s)

def runIn (environment : String) (args : List String) (files : Files) (here : Address) :
    Exit × Session :=
  run environment args (.start files here)

end TwinDiagram.Command
