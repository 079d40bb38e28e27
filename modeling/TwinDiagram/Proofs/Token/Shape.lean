import TwinDiagram.Proofs.Token.Insertion

namespace TwinDiagram

namespace Lexeme

variable {x : Char} {rest : List Char}

/-- A lexeme that is no comment: identifier characters follow its first one, as far as they go. -/
theorem plain_cases (hslashes : ¬ (x = '/' ∧ rest.head? = some '/'))
    (hstar : ¬ (x = '/' ∧ rest.head? = some '*')) :
    ∃ ws ds, rest = ws ++ ds ∧ (first x rest).length = (x :: ws).length ∧
      (∀ c ∈ ws, isIdentifierChar c) ∧ ∀ c ∈ ds.head?, EndsBefore x ws c := by
  have hrun : ∀ c ∈ rest.takeWhile isIdentifierChar, isIdentifierChar c :=
    fun c hc ↦ List.all_eq_true.mp List.all_takeWhile c hc
  have hstop : ∀ c ∈ (rest.dropWhile isIdentifierChar).head?, ¬ isIdentifierChar c := by
    intro c hc
    have hnot := List.head?_dropWhile_not isIdentifierChar rest
    rw [Option.mem_def.mp hc] at hnot
    simpa using hnot
  have hfirst := isFirst x rest
  generalize first x rest = l at hfirst ⊢
  cases hfirst with
  | line _ => exact absurd ⟨rfl, rfl⟩ hslashes
  | block _ => exact absurd ⟨rfl, rfl⟩ hstar
  | declaration _ =>
    refine ⟨_, _, List.takeWhile_append_dropWhile.symm, rfl, hrun, fun c hc ↦ ⟨?_, nofun⟩⟩
    exact fun hchar ↦ absurd hchar (hstop c hc)
  | word _ hstart =>
    have hx : isIdentifierChar x := by simp [isIdentifierChar, hstart]
    refine ⟨_, _, List.takeWhile_append_dropWhile.symm, ?_, hrun, fun c hc ↦ ⟨?_, ?_⟩⟩
    · simp [word, hx]
    · exact fun hchar ↦ absurd hchar (hstop c hc)
    · rintro rfl
      exact absurd hstart (by decide)
  | single _ _ hsign hstart =>
    refine ⟨[], rest, rfl, rfl, List.forall_mem_nil _, fun c hc ↦ ⟨fun _ ↦ ⟨hsign, hstart⟩, ?_⟩⟩
    exact fun hslash _ ↦ ⟨fun h ↦ hslashes ⟨hslash, h ▸ hc⟩, fun h ↦ hstar ⟨hslash, h ▸ hc⟩⟩

end Lexeme

/-- Induction along the lexemes of a text, one case for each shape. -/
theorem shape_induction {P : List Char → Prop} (cs : List Char)
    (blank : ∀ bs : List Char, (∀ c ∈ bs, Text.isBlank c) → P bs)
    (line : ∀ bs note ds : List Char, (∀ c ∈ bs, Text.isBlank c) → '\n' ∉ note →
      (∀ c ∈ ds.head?, c = '\n') → P ds → P (bs ++ '/' :: ('/' :: note ++ ds)))
    (block : ∀ bs body ds : List Char, (∀ c ∈ bs, Text.isBlank c) → ¬ ['*', '/'] <:+: body →
      P ds → P (bs ++ '/' :: ('*' :: (body ++ ['*', '/']) ++ ds)))
    (unclosed : ∀ bs body : List Char, (∀ c ∈ bs, Text.isBlank c) → ¬ ['*', '/'] <:+: body →
      P (bs ++ '/' :: '*' :: body))
    (plain : ∀ (bs : List Char) (x : Char) (ws ds : List Char), (∀ c ∈ bs, Text.isBlank c) →
      Text.isBlank x = false → (Lexeme.first x (ws ++ ds)).length = (x :: ws).length →
      (Lexeme.first x (ws ++ ds)).kind ≠ .lineComment → (∀ c ∈ ws, isIdentifierChar c) →
      (∀ c ∈ ds.head?, Lexeme.EndsBefore x ws c) → P ds → P (bs ++ x :: (ws ++ ds))) : P cs := by
  induction cs using text_induction with
  | blank bs hbs => exact blank bs hbs
  | lexeme bs x rest hbs hx ih =>
    obtain ⟨ds, rfl, rfl, hfirst⟩ | ⟨ds, rfl, rfl, hfirst⟩ | ⟨hslashes, hstar, hline, -⟩ :=
      Lexeme.first_cases x rest
    · have hbreak : '\n' ∉ ds.takeWhile (· != '\n') := fun h ↦ by
        simpa using List.all_eq_true.mp List.all_takeWhile _ h
      have hstop : ∀ c ∈ (ds.dropWhile (· != '\n')).head?, c = '\n' := by
        intro c hc
        have hnot := List.head?_dropWhile_not (· != '\n') ds
        rw [Option.mem_def.mp hc] at hnot
        simpa using hnot
      rw [hfirst, Lexeme.lineComment, drop_takeWhile] at ih
      rw [← List.takeWhile_append_dropWhile (p := (· != '\n')) (l := ds)]
      exact line bs _ _ hbs hbreak hstop ih
    · rw [hfirst] at ih
      obtain ⟨hopen, -⟩ | ⟨body, rest, hbody, rfl, -, hrest⟩ := Lexeme.split_blockComment ds
      · exact unclosed bs ds hbs hopen
      · rw [hrest] at ih
        have happend : '*' :: (body ++ '*' :: '/' :: rest) = '*' :: (body ++ ['*', '/']) ++
          rest := by simp
        rw [happend]
        exact block bs body rest hbs hbody ih
    · obtain ⟨ws, ds, rfl, hlength, hws, hds⟩ := Lexeme.plain_cases hslashes hstar
      have hdrop : (x :: (ws ++ ds)).drop (Lexeme.first x (ws ++ ds)).length = ds := by
        rw [hlength, ← List.cons_append, List.drop_left]
      rw [hdrop] at ih
      exact plain bs x ws ds hbs hx hlength hline hws hds ih

/-- A token without its place. -/
def Token.spelling (t : Token) : TokenKind × String := (t.kind, t.value)

/-- The second text has the lexemes of the first in the same order. Blanks of any number and kind
stand in front of them, between them and behind them; where none stands behind a lexeme in the
second text, what follows must not continue it. That is not enough behind the comment of a line,
which ends at a line break alone. A block comment without an end is the last lexeme. -/
inductive Respaced : List Char → List Char → Prop
  | blank {bs bs' : List Char} (hbs : ∀ c ∈ bs, Text.isBlank c) (hbs' : ∀ c ∈ bs', Text.isBlank c) :
      Respaced bs bs'
  | lexeme {bs bs' cs cs' ws : List Char} {x : Char} (hbs : ∀ c ∈ bs, Text.isBlank c)
      (hbs' : ∀ c ∈ bs', Text.isBlank c) (hx : Text.isBlank x = false)
      (hlength : (Lexeme.first x (ws ++ cs)).length = (x :: ws).length)
      (hnext : ∀ c ∈ cs'.head?, Text.isBlank c ∨ Lexeme.EndsBefore x ws c) (h : Respaced cs cs') :
      Respaced (bs ++ x :: (ws ++ cs)) (bs' ++ x :: (ws ++ cs'))
  | unclosed {bs bs' body : List Char} (hbs : ∀ c ∈ bs, Text.isBlank c)
      (hbs' : ∀ c ∈ bs', Text.isBlank c) (hbody : ¬ ['*', '/'] <:+: body) :
      Respaced (bs ++ '/' :: '*' :: body) (bs' ++ '/' :: '*' :: body)

theorem Respaced.spelling_tokensAt {cs cs' : List Char} (h : Respaced cs cs') {p : Position}
    (hline : ∀ t ∈ tokensAt p cs, t.kind ≠ .lineComment) (q : Position) :
    (tokensAt q cs').map Token.spelling = (tokensAt p cs).map Token.spelling := by
  induction h generalizing p q with
  | blank hbs hbs' => rw [tokensAt_of_blank p hbs, tokensAt_of_blank q hbs']; rfl
  | @lexeme bs bs' cs cs' ws x hbs hbs' hx hlength hnext _ ih =>
    rw [tokensAt_lexeme p hbs hx hlength] at hline ⊢
    obtain ⟨hkind, hline⟩ := List.forall_mem_cons.mp hline
    have hfirst : Lexeme.first x (ws ++ cs') = Lexeme.first x (ws ++ cs) := by
      refine Lexeme.first_append_congr (Nat.le_of_eq hlength) (fun h ↦ absurd h hkind) fun c hc ↦ ?_
      exact (hnext c hc).elim (Lexeme.endsBefore_of_isBlank · x ws) id
    rw [tokensAt_lexeme q hbs' hx (hfirst ▸ hlength), hfirst, List.map_cons,
      List.map_cons, ih hline]
    rfl
  | unclosed hbs hbs' hbody =>
    rw [tokensAt_openComment p hbs hbody, tokensAt_openComment q hbs' hbody]
    rfl

end TwinDiagram
