namespace TwinDiagram.Command

inductive Job where
  | parse (file : String) (output : Option String)
  | graph (file : String) (output : Option String)
  /-- A drawing that is made `afresh` does not come from the cache. -/
  | layout (file : String) (output : Option String) (afresh : Bool)
  | check (file format : String)
  | validate (file kind : String)
deriving DecidableEq, Repr

inductive Request where
  | help
  | version
  | job (verbose : Bool) (j : Job)
deriving DecidableEq, Repr

inductive Flag where
  | help
  | version
  | verbose
  | noCache
deriving DecidableEq, Repr

inductive Setting where
  | output
  | format
  | kind
deriving DecidableEq, Repr

structure Grammar where
  flags : List (String × Flag)
  settings : List (String × Setting)
  shortFlags : List (Char × Flag)
  shortSettings : List (Char × Setting)
  /-- Options may stand behind other arguments. -/
  anywhere : Bool

inductive Reading where
  | operand
  | unknown
  | flags (fs : List Flag)
  | setting (fs : List Flag) (s : Setting) (value : Option String)
deriving DecidableEq, Repr

namespace Grammar

def readLong (g : Grammar) (name : String) (value : Option String) : Reading :=
  match g.settings.lookup name, g.flags.lookup name, value with
  | some s, _, _ => .setting [] s value
  | none, some f, none => .flags [f]
  | none, _, _ => .unknown

def readShort (g : Grammar) (done : List Flag) : List Char → Reading
  | [] => .flags done
  | c :: rest =>
    match g.shortSettings.lookup c, g.shortFlags.lookup c with
    | some s, _ => .setting done s (if rest.isEmpty then none else some (.ofList rest))
    | none, some f => g.readShort (done ++ [f]) rest
    | none, none => .unknown

def read (g : Grammar) (arg : String) : Reading :=
  match arg.toList with
  | '-' :: '-' :: name =>
    let value := match name.dropWhile (· != '=') with
      | [] => none
      | _ :: value => some (String.ofList value)
    g.readLong (.ofList (name.takeWhile (· != '='))) value
  | '-' :: c :: rest => g.readShort [] (c :: rest)
  | _ => .operand

end Grammar

structure Scan where
  /-- In the order of the command line. -/
  flags : List Flag
  /-- The latest first. -/
  settings : List (Setting × String)
  operands : List String
deriving DecidableEq, Repr

def Scan.empty : Scan := ⟨[], [], []⟩

namespace Grammar

def scan (g : Grammar) (s : Scan) : List String → Option Scan
  | [] => some s
  | arg :: rest =>
    if arg = "--" then some { s with operands := s.operands ++ rest }
    else match g.read arg with
      | .unknown => none
      | .operand =>
        if g.anywhere then g.scan { s with operands := s.operands ++ [arg] } rest
        else some { s with operands := s.operands ++ arg :: rest }
      | .flags fs => g.scan { s with flags := s.flags ++ fs } rest
      | .setting fs name (some value) =>
        g.scan ⟨s.flags ++ fs, (name, value) :: s.settings, s.operands⟩ rest
      | .setting fs name none =>
        match rest with
        | [] => none
        | value :: rest => g.scan ⟨s.flags ++ fs, (name, value) :: s.settings, s.operands⟩ rest

end Grammar

def program : Grammar where
  flags := [("help", .help), ("version", .version), ("verbose", .verbose)]
  settings := []
  shortFlags := [('v', .version)]
  shortSettings := []
  anywhere := false

def grammarOf (name : String) (letter : Char) (s : Setting) (flags : List (String × Flag)) :
    Grammar where
  flags := ("help", .help) :: flags
  settings := [(name, s)]
  shortFlags := []
  shortSettings := [(letter, s)]
  anywhere := true

/-- A command: its options, and what it does with a file. -/
structure Entry where
  grammar : Grammar
  job : Scan → String → Job

def commands : List (String × Entry) :=
  [("parse", ⟨grammarOf "output" 'o' .output [],
      fun s file ↦ .parse file (s.settings.lookup .output)⟩),
    ("graph", ⟨grammarOf "output" 'o' .output [],
      fun s file ↦ .graph file (s.settings.lookup .output)⟩),
    ("layout", ⟨grammarOf "output" 'o' .output [("no-cache", .noCache)],
      fun s file ↦ .layout file (s.settings.lookup .output) (s.flags.contains .noCache)⟩),
    ("check", ⟨grammarOf "format" 'f' .format [],
      fun s file ↦ .check file ((s.settings.lookup .format).getD "human")⟩),
    ("validate", ⟨grammarOf "kind" 'k' .kind [],
      fun s file ↦ .validate file ((s.settings.lookup .kind).getD "model")⟩)]

def Entry.request (e : Entry) (verbose : Bool) (args : List String) : Option Request := do
  let s ← e.grammar.scan .empty args
  if s.flags.contains .help then some .help
  else match s.operands with
    | [file] => some (.job verbose (e.job s file))
    | _ => none

def Request.ofArguments (args : List String) : Option Request := do
  let s ← program.scan .empty args
  match s.flags.find? fun f ↦ f == .help || f == .version with
  | some .help => some .help
  | some _ => some .version
  | none =>
    match s.operands with
    | [] => none
    | name :: args => (← commands.lookup name).request (s.flags.contains .verbose) args

end TwinDiagram.Command
