import TwinDiagram.Proofs.Token.Tiling

namespace TwinDiagram

/-- What is left of a line is a comment behind blanks and block comments that are closed. -/
inductive EndsInNote : List Char → List Char → Prop
  | note {cs : List Char} : EndsInNote ('/' :: '/' :: cs) ('/' :: '/' :: cs)
  | blank {c : Char} {cs note : List Char} : Text.isBlank c → EndsInNote cs note →
      EndsInNote (c :: cs) note
  | comment {body cs note : List Char} : ¬ ['*', '/'] <:+: body → EndsInNote cs note →
      EndsInNote ('/' :: '*' :: (body ++ '*' :: '/' :: cs)) note

namespace EndsInNote

variable {bs body cs note : List Char} {c : Char}

theorem inv (h : EndsInNote cs note) : (cs = note ∧ ∃ ds, cs = '/' :: '/' :: ds) ∨
    (∃ c ds, cs = c :: ds ∧ Text.isBlank c ∧ EndsInNote ds note) ∨
    ∃ body ds, cs = '/' :: '*' :: (body ++ '*' :: '/' :: ds) ∧ ¬ ['*', '/'] <:+: body ∧
      EndsInNote ds note := by
  cases h with
  | note => exact .inl ⟨rfl, _, rfl⟩
  | blank hc h => exact .inr (.inl ⟨_, _, rfl, hc, h⟩)
  | comment hbody h => exact .inr (.inr ⟨_, _, rfl, hbody, h⟩)

theorem slashes_iff : EndsInNote ('/' :: '/' :: cs) note ↔ note = '/' :: '/' :: cs := by
  constructor
  · intro h
    obtain ⟨h, -⟩ | ⟨c, ds, h, hc, -⟩ | ⟨body, ds, h, -⟩ := h.inv
    · exact h.symm
    · obtain ⟨rfl, -⟩ := List.cons.inj h
      cases hc
    · cases h
  · rintro rfl
    exact .note

theorem blank_iff (hbs : ∀ c ∈ bs, Text.isBlank c) : EndsInNote (bs ++ cs) note ↔
    EndsInNote cs note := by
  induction bs with
  | nil => rfl
  | cons b bs ih =>
    obtain ⟨hb, hbs⟩ := List.forall_mem_cons.mp hbs
    rw [← ih hbs]
    constructor
    · intro h
      obtain ⟨-, ds, h⟩ | ⟨c, ds, h, -, hds⟩ | ⟨body, ds, h, -⟩ := h.inv
      · obtain ⟨rfl, -⟩ := List.cons.inj h
        cases hb
      · obtain ⟨-, rfl⟩ := List.cons.inj h
        exact hds
      · obtain ⟨rfl, -⟩ := List.cons.inj h
        cases hb
    · exact .blank hb

theorem not_of_blank (hbs : ∀ c ∈ bs, Text.isBlank c) : ¬ EndsInNote bs note := by
  rw [← List.append_nil bs, blank_iff hbs]
  exact nofun

theorem comment_iff (hbody : ¬ ['*', '/'] <:+: body) :
    EndsInNote ('/' :: '*' :: (body ++ '*' :: '/' :: cs)) note ↔ EndsInNote cs note := by
  constructor
  · intro h
    obtain ⟨-, ds, h⟩ | ⟨c, ds, h, hc, -⟩ | ⟨body', ds, h, hbody', hds⟩ := h.inv
    · cases h
    · obtain ⟨rfl, -⟩ := List.cons.inj h
      cases hc
    · -- The first mark that closes a comment ends it.
      have h : body ++ '*' :: '/' :: cs = body' ++ '*' :: '/' :: ds := by simpa using h
      obtain rfl : body = body' := by
        rw [← commentBody_append hbody cs, h, commentBody_append hbody']
      obtain rfl : cs = ds := by simpa using h
      exact hds
  · exact .comment hbody

theorem not_of_open (h : ¬ ['*', '/'] <:+: cs) : ¬ EndsInNote ('/' :: '*' :: cs) note := by
  intro hnote
  obtain ⟨-, ds, h'⟩ | ⟨c, ds, h', hc, -⟩ | ⟨body, ds, h', -⟩ := hnote.inv
  · cases h'
  · obtain ⟨rfl, -⟩ := List.cons.inj h'
    cases hc
  · obtain rfl : cs = body ++ '*' :: '/' :: ds := by simpa using h'
    exact h ⟨body, ds, by simp⟩

theorem not_of_start {x : Char} (hx : Text.isBlank x = false)
    (hline : ¬ (x = '/' ∧ cs.head? = some '/'))
    (hblock : ¬ (x = '/' ∧ cs.head? = some '*')) : ¬ EndsInNote (x :: cs) note := by
  intro hnote
  obtain ⟨-, ds, h⟩ | ⟨c, ds, h, hc, -⟩ | ⟨body, ds, h, -⟩ := hnote.inv
  · obtain ⟨rfl, rfl⟩ := List.cons.inj h
    exact hline ⟨rfl, rfl⟩
  · obtain ⟨rfl, -⟩ := List.cons.inj h
    rw [hx] at hc
    cases hc
  · obtain ⟨rfl, rfl⟩ := List.cons.inj h
    exact hblock ⟨rfl, rfl⟩

end EndsInNote

namespace Token

def noteOn (line : Int) : List Token → Option (List Char)
  | [] => none
  | t :: ts =>
    if t.kind = .blockComment then noteOn line ts
    else if t.kind = .lineComment ∧ t.line = line then some t.value.toList
    else none

section

variable {line : Int} {t : Token} (ts : List Token)

theorem noteOn_blockComment (h : t.kind = .blockComment) : noteOn line (t :: ts) = noteOn line ts :=
  if_pos h

theorem noteOn_lineComment (h : t.kind = .lineComment) (hline : t.line = line) :
    noteOn line (t :: ts) = some t.value.toList := by
  rw [noteOn, if_neg (by rw [h]; decide), if_pos ⟨h, hline⟩]

theorem noteOn_other (hline : t.kind ≠ .lineComment) (hblock : t.kind ≠ .blockComment) :
    noteOn line (t :: ts) = none := by
  rw [noteOn, if_neg hblock, if_neg fun h ↦ hline h.1]

end

theorem noteOn_of_line_lt {line : Int} {ts : List Token} (h : ∀ t ∈ ts, line < t.line) :
    noteOn line ts = none := by
  induction ts with
  | nil => rfl
  | cons t ts ih =>
    obtain ⟨ht, hts⟩ := List.forall_mem_cons.mp h
    rw [noteOn, ih hts, if_neg (c := _ ∧ _) (by omega)]
    simp

end Token

/-- A comment to the end of the line, a block comment, or another token. -/
theorem Lexeme.first_cases (x : Char) (cs : List Char) :
    (∃ ds, x = '/' ∧ cs = '/' :: ds ∧ first x cs = lineComment (x :: cs)) ∨
    (∃ ds, x = '/' ∧ cs = '*' :: ds ∧ first x cs = blockComment ds) ∨
    ¬ (x = '/' ∧ cs.head? = some '/') ∧ ¬ (x = '/' ∧ cs.head? = some '*') ∧
      (first x cs).kind ≠ .lineComment ∧ (first x cs).kind ≠ .blockComment := by
  have hfirst := isFirst x cs
  generalize first x cs = l at hfirst ⊢
  cases hfirst with
  | line ds => exact .inl ⟨ds, rfl, rfl, rfl⟩
  | block ds => exact .inr (.inl ⟨ds, rfl, rfl, rfl⟩)
  | declaration _ =>
    exact .inr (.inr ⟨nofun, nofun, declaration_kind_ne nofun (by decide),
      declaration_kind_ne nofun (by decide)⟩)
  | word _ hstart =>
    have hslash : x ≠ '/' := fun h ↦ absurd (h ▸ hstart) (by decide)
    exact .inr (.inr ⟨fun h ↦ hslash h.1, fun h ↦ hslash h.1, word_kind_ne nofun (by decide),
      word_kind_ne nofun (by decide)⟩)
  | single hslashes hstar _ _ =>
    exact .inr (.inr ⟨hslashes, hstar, TokenKind.getD_punctuation?_ne (by decide),
      TokenKind.getD_punctuation?_ne (by decide)⟩)

theorem line_le_of_mem_tokensAt {p : Position} {cs : List Char} {t : Token}
    (h : t ∈ tokensAt p cs) :
    p.line ≤ t.line :=
  ((Cursor.position_skipBlanks_atMost _).trans (Cursor.atMost_of_mem_tokens h)).line_le

/-- A text up to its first line break. -/
def firstLine (cs : List Char) : List Char := cs.takeWhile (· != '\n')

section

variable {bs cs : List Char} {p : Position}

theorem prefix_firstLine (cs : List Char) : firstLine cs <+: cs := List.takeWhile_prefix _

theorem firstLine_append_of_mem (h : '\n' ∈ bs) (cs : List Char) :
    firstLine (bs ++ cs) = firstLine bs := by
  obtain ⟨before, behind, rfl⟩ := List.append_of_mem h
  rw [List.append_assoc, List.cons_append, firstLine, firstLine,
    Lexeme.takeWhile_append_stop rfl, Lexeme.takeWhile_append_stop rfl]

theorem firstLine_append_of_notMem (h : '\n' ∉ bs) (cs : List Char) :
    firstLine (bs ++ cs) = bs ++ firstLine cs :=
  List.takeWhile_append_of_pos fun _ hc ↦ bne_iff_ne.mpr fun heq ↦ h (heq ▸ hc)

theorem line_through_of_notMem (h : '\n' ∉ bs) : (p.through bs).line = p.line := by
  rw [Position.line_through, List.count_eq_zero.mpr h]
  exact Int.add_zero _

theorem noteOn_of_break (h : '\n' ∈ bs) (cs : List Char) :
    Token.noteOn p.line (tokensAt (p.through bs) cs) = none := by
  refine Token.noteOn_of_line_lt fun t ht ↦ ?_
  have hcount : 0 < bs.count '\n' := List.count_pos_iff.mpr h
  have hle := line_le_of_mem_tokensAt ht
  rw [Position.line_through] at hle
  omega

end

/-- A block comment runs to the end of the text, or to the first mark that closes it. -/
theorem Lexeme.split_blockComment (cs : List Char) :
    (¬ ['*', '/'] <:+: cs ∧ ('/' :: '*' :: cs).drop (blockComment cs).length = []) ∨
    ∃ body rest, ¬ ['*', '/'] <:+: body ∧ cs = body ++ '*' :: '/' :: rest ∧
      ('/' :: '*' :: cs).take (blockComment cs).length = '/' :: '*' :: (body ++ ['*', '/']) ∧
      ('/' :: '*' :: cs).drop (blockComment cs).length = rest := by
  obtain ⟨hfree, hrest⟩ := commentBody_cases cs
  have hlength : (blockComment cs).length = (commentBody cs).length + 2 + 2 := by
    simp only [blockComment]
    omega
  rw [hlength]
  obtain hrest | ⟨rest, hrest⟩ := hrest
  · rw [hrest] at hfree ⊢
    exact .inl ⟨hfree, List.drop_eq_nil_of_le (by simp)⟩
  · refine .inr ⟨commentBody cs, rest, hfree, hrest, ?_, ?_⟩
    all_goals
      generalize commentBody cs = body at hrest
      subst hrest
      have happend : '/' :: '*' :: (body ++ '*' :: '/' :: rest) =
          '/' :: '*' :: (body ++ ['*', '/']) ++ rest := by simp
      rw [happend]
    · exact List.take_left' (by simp)
    · exact List.drop_left' (by simp)

open Token

variable {bs body cs note : List Char}

theorem EndsInNote.not_of_blank_line (hbs : ∀ c ∈ bs, Text.isBlank c) :
    ¬ EndsInNote (firstLine bs) note :=
  not_of_blank fun c hc ↦ hbs c ((prefix_firstLine bs).subset hc)

/-- Only behind a block comment that ends on its line, there may be a note on that line. -/
theorem EndsInNote.blockComment_iff (hbody : ¬ ['*', '/'] <:+: body) :
    EndsInNote (firstLine ('/' :: '*' :: (body ++ '*' :: '/' :: cs))) note ↔
      '\n' ∉ body ∧ EndsInNote (firstLine cs) note := by
  by_cases hbreak : '\n' ∈ body
  · have hmem : '\n' ∈ '/' :: '*' :: body := .tail _ (.tail _ hbreak)
    have hline : firstLine ('/' :: '*' :: (body ++ '*' :: '/' :: cs)) =
        '/' :: '*' :: firstLine body := firstLine_append_of_mem hmem _
    rw [hline]
    refine iff_of_false ?_ fun h ↦ h.1 hbreak
    exact not_of_open fun h ↦ hbody (h.trans (prefix_firstLine body).isInfix)
  · have hcomment : '\n' ∉ '/' :: '*' :: (body ++ ['*', '/']) := by simp [hbreak]
    have hline : firstLine ('/' :: '*' :: (body ++ '*' :: '/' :: cs)) =
        '/' :: '*' :: (body ++ '*' :: '/' :: firstLine cs) := by
      simpa using firstLine_append_of_notMem hcomment cs
    rw [hline, comment_iff hbody]
    exact (and_iff_right hbreak).symm

theorem EndsInNote.not_of_plain {x : Char} (hx : Text.isBlank x = false)
    (hline : ¬ (x = '/' ∧ cs.head? = some '/')) (hblock : ¬ (x = '/' ∧ cs.head? = some '*')) :
    ¬ EndsInNote (firstLine (x :: cs)) note := by
  have hstart : firstLine (x :: cs) = x :: firstLine cs := by
    refine List.takeWhile_cons_of_pos ?_
    rw [bne_iff_ne]
    rintro rfl
    cases hx
  have hhead {c : Char} (hc : (firstLine cs).head? = some c) : cs.head? = some c := by
    obtain ⟨ds, hds⟩ := List.head?_eq_some_iff.mp hc
    obtain ⟨later, hlater⟩ := prefix_firstLine cs
    rw [← hlater, hds]
    rfl
  rw [hstart]
  exact not_of_start hx (fun h ↦ hline ⟨h.1, hhead h.2⟩) fun h ↦ hblock ⟨h.1, hhead h.2⟩

/-- A note is read off the tokens of a line, or off its text. -/
theorem noteOn_tokensAt (p : Position) (cs : List Char) :
    noteOn p.line (tokensAt p cs) = some note ↔ EndsInNote (firstLine cs) note := by
  induction cs using text_induction generalizing p with
  | blank bs hbs =>
    rw [tokensAt_of_blank p hbs]
    exact iff_of_false (Option.some_ne_none _).symm (EndsInNote.not_of_blank_line hbs)
  | lexeme bs x rest hbs hx ih =>
    rw [tokensAt_append_blank p hbs]
    by_cases hbreak : '\n' ∈ bs
    · rw [noteOn_of_break hbreak, firstLine_append_of_mem hbreak]
      exact iff_of_false (Option.some_ne_none _).symm (EndsInNote.not_of_blank_line hbs)
    rw [firstLine_append_of_notMem hbreak, EndsInNote.blank_iff hbs,
      ← line_through_of_notMem hbreak, tokensAt_cons _ hx]
    generalize p.through bs = q
    obtain ⟨ds, rfl, rfl, hfirst⟩ | ⟨ds, rfl, rfl, hfirst⟩ | ⟨hslashes, hstar, hkind, hkind'⟩ :=
      Lexeme.first_cases x rest
    · -- The comment is the rest of the line.
      rw [hfirst]
      refine Iff.trans (iff_of_eq (congrArg (· = some note) (noteOn_lineComment _ rfl rfl))) ?_
      refine Iff.trans ?_ EndsInNote.slashes_iff.symm
      simp only [Lexeme.lineComment, String.toList_ofList, Option.some_inj]
      exact eq_comm
    · rw [hfirst] at ih ⊢
      rw [noteOn_blockComment _ rfl]
      obtain ⟨hopen, hdrop⟩ | ⟨body, after, hbody, rfl, htake, hdrop⟩ :=
        Lexeme.split_blockComment ds
      · rw [hdrop, tokensAt_of_blank _ (List.forall_mem_nil _)]
        refine iff_of_false (Option.some_ne_none _).symm (EndsInNote.not_of_open fun h ↦ hopen ?_)
        exact h.trans (prefix_firstLine ds).isInfix
      · rw [hdrop] at ih
        rw [htake, hdrop, EndsInNote.blockComment_iff hbody]
        by_cases hbreak : '\n' ∈ body
        · rw [noteOn_of_break (by simp [hbreak])]
          exact iff_of_false (Option.some_ne_none _).symm fun h ↦ h.1 hbreak
        · have hcomment : '\n' ∉ '/' :: '*' :: (body ++ ['*', '/']) := by simp [hbreak]
          rw [and_iff_right hbreak, ← ih, line_through_of_notMem hcomment]
    · rw [noteOn_other _ hkind hkind']
      exact iff_of_false (Option.some_ne_none _).symm (EndsInNote.not_of_plain hx hslashes hstar)

theorem Lexeme.first_of_semicolon {x : Char} {cs : List Char} (h : (first x cs).kind = .semicolon) :
    x = ';' ∧ (first x cs).length = 1 := by
  have hfirst := isFirst x cs
  generalize first x cs = l at h hfirst ⊢
  cases hfirst with
  | line _ => cases h
  | block _ => cases h
  | declaration _ => exact absurd h (declaration_kind_ne nofun (by decide))
  | word _ _ => exact absurd h (word_kind_ne nofun (by decide))
  | single _ _ _ _ =>
    refine ⟨?_, rfl⟩
    by_contra hx
    simp only [punctuation?, if_neg hx] at h
    repeat' split at h
    all_goals cases h

end TwinDiagram
