import TwinDiagram.Model.Basic
import TwinDiagram.Parser.Basic
import TwinDiagram.Text.Blank

namespace TwinDiagram.Parser

/-- Reads `port <name>;`. -/
def port : Parse String := do
  let _ ← expect .port
  let name ← expectName
  let _ ← expect .semicolon
  return name

def portHandler : Handler (List String)
  | .port => some fun ports ↦ return ports ++ [← port]
  | _ => none

def portBlock (owner : String) : Parse (List String) := block owner portHandler []

/-- Reads `#digitaltwin <name> { … }` or `part <name> { … }`. -/
def twin (keyword : TokenKind) : Parse Twin := do
  let _ ← expect keyword
  let name ← expectName
  return ⟨name, ← portBlock s!"{keyword.label} {name}"⟩

def referenceTail : (steps : Nat) → Parse (List String)
  | 0 => return []
  | steps + 1 => do
    if (← accept .dot).isNone then return []
    let name ← expectName
    return name :: (← referenceTail steps)

/-- Names joined by dots. -/
def reference : Parse String := do
  let first ← expectName
  let rest ← referenceTail (← get).rest.length
  return ".".intercalate (first :: rest)

def dropWord : (word : List Char) → List Char → Option (List Char)
  | [], cs => some cs
  | _ :: _, [] => none
  | w :: ws, c :: cs => if c.toLower = w then dropWord ws cs else none

def skipBlanks (cs : List Char) : List Char := cs.dropWhile Text.isBlank

/-- Reads `// name: <id>` at the start of the text. -/
def nameNote (cs : List Char) : Option (List Char) := do
  let cs ← dropWord "//".toList cs
  let cs ← dropWord "name".toList (skipBlanks cs)
  let cs ← dropWord ":".toList (skipBlanks cs)
  match (skipBlanks cs).takeWhile fun c ↦ Text.isWordChar c || c == '-' with
  | [] => none
  | name => some name

def nameInComment : List Char → Option (List Char)
  | [] => none
  | c :: rest => nameNote (c :: rest) <|> nameInComment rest

/-- The name that the comment of a line gives to the statement ended by `semicolon`; `following`
comes next. The comment belongs to the last statement of its line. -/
def trailingName (comments : List Token) (semicolon following : Token) : Option String := do
  let comment ← Token.commentOn semicolon.line comments
  if following.line = semicolon.line && following.column < comment.column then none
  return .ofList (← nameInComment comment.value.toList)

def inlineName : Parse (Option String) := do
  if (← accept .name).isSome then return some (← expectName) else return none

def connectionEnd (source target : String) (name : Option String) : Parse Connection := do
  let semicolon ← expect .semicolon
  let trailing := trailingName (← get).comments semicolon (← current)
  return ⟨source, target, name <|> trailing⟩

/-- Reads `connect <ref> to <ref> [name <id>];`. -/
def connection : Parse Connection := do
  let _ ← expect .connect
  let source ← reference
  let _ ← expect .towards
  let target ← reference
  let name ← inlineName
  connectionEnd source target name

def systemHandler : Handler System
  | .twin => some fun s ↦ return { s with digitalTwins := s.digitalTwins ++ [← twin .twin] }
  | .part => some fun s ↦ return { s with parts := s.parts ++ [← twin .part] }
  | .connect => some fun s ↦ return { s with connections := s.connections ++ [← connection] }
  | _ => none

/-- Reads `#twinsystem <name> { … }`. -/
def system : Parse System := do
  let _ ← expect .system
  let name ← expectName
  block s!"#twinsystem {name}" systemHandler ⟨name, [], [], []⟩

/-- A documentation on one line; blank text is none. -/
def normalizeDoc (s : String) : Option String :=
  match Text.words s.toList with
  | [] => none
  | ws => some (.ofList (Text.joinWith [' '] ws))

/-- One step through the body of a goal. The first comment behind `doc` that says something is
kept; a nested block is passed whole. -/
def goalStep (doc : Option String) (s : State) : Option String × State :=
  if s.current.kind = .openBrace then (doc, s.skipBlock)
  else
    match s.rest with
    | ⟨.doc, _, _⟩ :: ⟨.blockComment, value, _⟩ :: _ => (doc <|> normalizeDoc value, s.forward 2)
    | _ => (doc, s.forward 1)

theorem length_goalStep {doc : Option String} {s : State}
    (h : ¬ s.current.kind.closesBlock) : (goalStep doc s).2.rest.length < s.rest.length := by
  obtain ⟨xs, hxs⟩ := State.rest_eq_cons fun he ↦ h (he ▸ rfl)
  have hskip := s.rest_skipBlock_le
  rw [hxs, List.length_cons] at hskip ⊢
  unfold goalStep
  split
  · exact Nat.lt_succ_of_le hskip
  · split <;> simp only [State.rest_forward, hxs, List.length_drop, List.length_cons] <;> omega

def goalBody (doc : Option String) (s : State) : Option String × State :=
  if s.current.kind.closesBlock then (doc, s)
  else goalBody (goalStep doc s).1 (goalStep doc s).2
termination_by s.rest.length
decreasing_by
  exact length_goalStep (by assumption)

def goalBlock (name : String) : Parse (Option String) := do
  let opened ← expect .openBrace
  let doc ← modifyGet (goalBody none)
  closeBlock s!"#goal {name}" opened
  return doc

def goalRest (name : String) : Parse Goal := do
  if ← isAt .openBrace then return ⟨name, ← goalBlock name⟩
  else
    let _ ← accept .semicolon
    return ⟨name, none⟩

/-- Reads `#goal <name> { … }`, or without a body, with or without a semicolon. -/
def goal : Parse Goal := do
  let _ ← expect .goal
  let name ← expectName
  goalRest name

/-- Reads `allocate <goal> to <ref>;`. -/
def allocation : Parse Allocation := do
  let _ ← expect .allocate
  let goal ← expectName
  let _ ← expect .towards
  let target ← reference
  let _ ← expect .semicolon
  return ⟨goal, target⟩

end TwinDiagram.Parser
