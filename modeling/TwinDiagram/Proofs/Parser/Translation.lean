import TwinDiagram.Proofs.Block
import TwinDiagram.Proofs.Parser.Run
import TwinDiagram.Proofs.Parser.Stream
import TwinDiagram.Proofs.Text.Join
import TwinDiagram.Proofs.Token.Comments

namespace TwinDiagram

/-- What a diagnostic is about, and where. -/
def Diagnostic.mark (d : Diagnostic) : Severity × DiagnosticCode × Option Int × Option Int :=
  (d.severity, d.code, d.line, d.column)

namespace Parser

open State

variable {α β : Type}

/-- Another spelling of tokens. Kinds stay, names are spelled letter by letter, and a block comment
documents the same. The parser's own words are spelled as before, and so is an end token that it
supplies. -/
structure Translation where
  letter : Char → Char
  value : TokenKind → String → String
  position : Position → Position
  name : ∀ {k}, k.isName → ∀ v, value k v = v.map letter
  doc : ∀ v, normalizeDoc (value .blockComment v) = (normalizeDoc v).map (·.map letter)
  keyword : ∀ k ∈ TokenKind.keywords, k.label.map letter = k.label
  space : letter ' ' = ' '
  dot : letter '.' = '.'
  nothing : value .endOfInput "" = ""
  column : ∀ p, position ⟨p.line, 1⟩ = ⟨(position p).line, 1⟩
  start : position .start = .start

namespace Translation

theorem column_id (p : Position) : id (⟨p.line, 1⟩ : Position) = ⟨(id p).line, 1⟩ := rfl

theorem start_id : id Position.start = .start := rfl

def keepLetters (value : TokenKind → String → String) (position : Position → Position)
    (name : ∀ {k : TokenKind}, k.isName → ∀ v, value k v = v)
    (doc : ∀ v, normalizeDoc (value .blockComment v) = normalizeDoc v)
    (nothing : value .endOfInput "" = "")
    (column : ∀ p, position ⟨p.line, 1⟩ = ⟨(position p).line, 1⟩)
    (start : position .start = .start) : Translation where
  letter := id
  value := value
  position := position
  name hk v := (name hk v).trans String.map_id.symm
  doc v := by
    rw [doc]
    cases normalizeDoc v with
    | none => rfl
    | some d => exact congrArg some String.map_id.symm
  keyword _ _ := String.map_id
  space := rfl
  dot := rfl
  nothing := nothing
  column := column
  start := start

variable (T : Translation) {s : State}

def text (v : String) : String := v.map T.letter

def token (t : Token) : Token := ⟨t.kind, T.value t.kind t.value, T.position t.position⟩

def mismatch (m : Mismatch) : Mismatch := ⟨m.wanted, T.token m.found⟩

def finding : Finding → Finding
  | .missingRoot => .missingRoot
  | .mismatch m => .mismatch (T.mismatch m)
  | .unclosed t => .unclosed (T.token t)
  | .neverClosed owner t => .neverClosed (T.text owner) (T.token t)
  | .repeatedSection t k => .repeatedSection (T.token t) k

def event : Event → Event
  | .found f => .found (T.finding f)
  | .skipped t => .skipped (T.token t)
  | .parsed name systems goals allocations findings =>
    .parsed (T.text name) systems goals allocations findings

def state (s : State) : State where
  passed := s.passed.map T.token
  rest := s.rest.map T.token
  last := T.token s.last
  comments := s.comments.map T.token
  events := s.events.map T.event
  last_kind := s.last_kind

def outcome (h : α → β) : Except Mismatch α × State → Except Mismatch β × State
  | (.ok a, s) => (.ok (h a), T.state s)
  | (.error m, s) => (.error (T.mismatch m), T.state s)

def Fits (comments : List Token) : Prop :=
  ∀ x y, trailingName (comments.map T.token) (T.token x) (T.token y) =
    (trailingName comments x y).map T.text

@[simp] theorem kind_token (t : Token) : (T.token t).kind = t.kind := rfl

theorem value_token {t : Token} (ht : t.kind.isName) : (T.token t).value = T.text t.value :=
  T.name ht t.value

theorem token_endAt (p : Position) : T.token (.endAt p) = .endAt (T.position p) := by
  simp only [token, Token.endAt, T.nothing]

theorem text_of_letter (hletter : T.letter = id) : T.text = id :=
  funext fun v ↦ by rw [text, hletter, String.map_id, id]

theorem text_append (u v : String) : T.text (u ++ v) = T.text u ++ T.text v := by
  rw [← String.toList_inj]
  simp [text]

theorem text_intercalate (names : List String) :
    T.text (".".intercalate names) = ".".intercalate (names.map T.text) := by
  rw [← String.toList_inj]
  simp only [text, String.toList_map, String.toList_intercalate, Text.map_intercalate, List.map_map]
  have hdot : ".".toList.map T.letter = ".".toList := congrArg ([·]) T.dot
  rw [hdot]
  congr 1
  exact List.map_congr_left fun name _ ↦ (String.toList_map).symm

theorem text_owner {k : TokenKind} (hk : k ∈ TokenKind.keywords) (name : String) :
    T.text s!"{k.label} {name}" = s!"{k.label} {T.text name}" := by
  have hspace : T.text " " = " " := by
    rw [← String.toList_inj, text, String.toList_map]
    exact congrArg ([·]) T.space
  show T.text (k.label ++ " " ++ name) = k.label ++ " " ++ T.text name
  rw [text_append, text_append, hspace]
  exact congrArg (· ++ " " ++ T.text name) (T.keyword k hk)

section State

theorem current_state (s : State) : (T.state s).current = T.token s.current := by
  unfold State.current state
  cases s.rest <;> rfl

theorem forward_state (n : Nat) (s : State) : (T.state s).forward n = T.state (s.forward n) := by
  simp [State.forward, state, List.map_take, List.map_drop]

theorem advance_state (s : State) : (T.state s).advance = T.state s.advance := by
  unfold State.advance
  rw [current_state, kind_token, forward_state]
  split <;> rfl

theorem rewind_state (s : State) : (T.state s).rewind = T.state s.rewind := by
  simp [State.rewind, state]

theorem report_state (f : Finding) (s : State) :
    (T.state s).report (T.finding f) = T.state (s.report f) := rfl

theorem findings_state (s : State) : (T.state s).findings = s.findings.map T.finding := by
  have hevent (e : Event) : (T.event e).finding? = e.finding?.map T.finding := by
    cases e <;> rfl
  simp only [State.findings, state, ← List.map_reverse, List.filterMap_map, List.map_filterMap]
  exact List.filterMap_congr fun e _ ↦ hevent e

theorem closing?_rest_state (s : State) :
    Block.closing? (·.kind == .openBrace) (·.kind == .closeBrace) 0 (T.state s).rest =
      Block.closing? (·.kind == .openBrace) (·.kind == .closeBrace) 0 s.rest := by
  apply Block.closing?_congr
  rw [state, List.forall₂_map_left_iff]
  exact List.forall₂_same.mpr fun _ _ ↦ ⟨rfl, rfl⟩

theorem skipBlock_state (s : State) : (T.state s).skipBlock = T.state s.skipBlock := by
  unfold State.skipBlock
  rw [closing?_rest_state]
  split
  · exact T.forward_state _ s
  · rw [current_state, ← forward_state, ← report_state]
    simp [state, finding]

theorem skipUnknown_state (s : State) : (T.state s).skipUnknown = T.state s.skipUnknown := by
  unfold State.skipUnknown
  rw [current_state, kind_token]
  split
  · exact T.skipBlock_state s
  · exact T.advance_state (s.log (.skipped s.current))

theorem position_state (s : State) : (T.state s).position = s.position := by
  simp [State.position, state]

theorem recover_state (start : Nat) (s : State) :
    (T.state s).recover start = T.state (s.recover start) := by
  have htake (s : State) : ((T.state s).rest.takeWhile (! State.stopsRecovery ·.kind)).length =
      (s.rest.takeWhile (! State.stopsRecovery ·.kind)).length := by
    rw [state, List.takeWhile_map, List.length_map]
    rfl
  unfold State.recover
  simp only [current_state, kind_token, position_state, advance_state, ← apply_ite T.state, htake,
    forward_state, skipBlock_state]

theorem close_state (owner : String) (opened : Token) (s : State) :
    (T.state s).close (T.text owner) (T.token opened) = T.state (s.close owner opened) := by
  unfold State.close
  rw [current_state, kind_token]
  split
  · exact T.advance_state s
  · rfl

end State

theorem ofTokens_map (ts : List Token) :
    State.ofTokens (ts.map T.token) = T.state (.ofTokens ts) := by
  have hstream : Token.statements (ts.map T.token) = (Token.statements ts).map T.token :=
    Token.dropComments_map T.kind_token none ts
  have hcomments := Token.lineComments_map T.kind_token ts
  have hlast := List.getLast?_map (f := T.token) (l := Token.statements ts)
  simp only [State.ofTokens, hstream, hcomments, hlast]
  cases hts : (Token.statements ts).getLast? with
  | none => simp [state, token_endAt, T.start]
  | some t =>
    by_cases hend : t.kind = .endOfInput
    · simp [state, hend]
    · have hsupplied : T.token (.endAt ⟨t.line, 1⟩) = .endAt ⟨(T.token t).line, 1⟩ := by
        rw [token_endAt]
        exact congrArg Token.endAt (T.column t.position)
      simp [state, hend, hsupplied]

section Unmoved

variable (hposition : ∀ p, T.position p = p)
include hposition

theorem line_token (t : Token) : (T.token t).line = t.line :=
  congrArg Position.line (hposition t.position)

theorem column_token (t : Token) : (T.token t).column = t.column :=
  congrArg Position.column (hposition t.position)

theorem mark_finding (f : Finding) : (T.finding f).diagnostic.mark = f.diagnostic.mark := by
  cases f <;> simp only [finding, mismatch, Finding.diagnostic, Diagnostic.mark,
    T.line_token hposition, T.column_token hposition]

/-- A comment belongs to its line. Where no token is moved it is enough that the notes in comments
are spelled letter by letter. -/
theorem fits_lineComments
    (hnote : ∀ v : String, nameInComment (T.value .lineComment v).toList =
      (nameInComment v.toList).map (·.map T.letter))
    (ts : List Token) : T.Fits (Token.lineComments ts) := by
  intro x y
  have hline := T.line_token hposition
  have hcolumn := T.column_token hposition
  have hcomment : Token.commentOn x.line ((Token.lineComments ts).map T.token) =
      (Token.commentOn x.line (Token.lineComments ts)).map T.token := by
    rw [Token.commentOn, ← List.map_reverse, List.find?_map, Token.commentOn]
    simp only [Function.comp_def, hline]
  rw [trailingName, trailingName, hline, hcomment]
  cases hfound : Token.commentOn x.line (Token.lineComments ts) with
  | none => rfl
  | some comment =>
    have hmem : comment ∈ Token.lineComments ts := by
      simpa using List.mem_of_find?_eq_some hfound
    have hkind : comment.kind = .lineComment := by simpa using (List.mem_filter.mp hmem).2
    have hvalue : (T.token comment).value = T.value .lineComment comment.value :=
      congrArg (T.value · comment.value) hkind
    simp only [Option.map_some, Option.bind_eq_bind, Option.bind_some, hline, hcolumn,
      hvalue, hnote]
    split
    · rfl
    · cases nameInComment comment.value.toList with
      | none => rfl
      | some note =>
        have hspelled : String.ofList (note.map T.letter) = T.text (.ofList note) := by
          rw [← String.toList_inj]
          simp [text]
        exact congrArg some hspelled

end Unmoved

theorem map_diagnostics {g : Diagnostic → β}
    (hg : ∀ f : Finding, g (T.finding f).diagnostic = g f.diagnostic) (s : State) :
    s.diagnostics.map g = (s.findings.map T.finding).map (g ·.diagnostic) := by
  simp [State.diagnostics, hg]

end Translation

end Parser

end TwinDiagram
