import TwinDiagram.Proofs.Token.Order
import TwinDiagram.Proofs.Token.Region

namespace TwinDiagram

namespace Position

def through (p : Position) (cs : List Char) : Position := cs.foldl after p

def down (n : Int) (p : Position) : Position := ⟨p.line + n, p.column⟩

theorem down_zero (p : Position) : p.down 0 = p := by
  rw [down, Int.add_zero]

theorem through_append (p : Position) (cs ds : List Char) :
    p.through (cs ++ ds) = (p.through cs).through ds := List.foldl_append

theorem after_down (n : Int) (p : Position) (c : Char) :
    (p.down n).after c = (p.after c).down n := by
  simp only [after, down]
  split
  · rw [Int.add_right_comm]
  · rfl

theorem before_through (p : Position) {cs : List Char} (hcs : cs ≠ []) :
    p.Before (p.through cs) := by
  cases cs with
  | nil => exact absurd rfl hcs
  | cons c cs =>
    induction cs generalizing p c with
    | nil => exact before_after p c
    | cons d cs ih => exact (before_after p c).trans (ih (p.after c) d (List.cons_ne_nil d cs))

/-- A place in a text is behind one part of it only. -/
theorem eq_of_through {p : Position} {cs ds es fs : List Char} (h : cs ++ es = ds ++ fs)
    (hp : p.through cs = p.through ds) : cs = ds := by
  have hnil {q : Position} {as : List Char} (hq : q = q.through as) : as = [] := by
    by_contra has
    have hbefore := q.before_through has
    rw [← hq] at hbefore
    unfold Before at hbefore
    omega
  rcases List.append_eq_append_iff.mp h with ⟨as, rfl, -⟩ | ⟨as, rfl, -⟩
  · rw [through_append] at hp
    rw [hnil hp, List.append_nil]
  · rw [through_append] at hp
    rw [hnil hp.symm, List.append_nil]

theorem through_down (n : Int) (p : Position) (cs : List Char) :
    (p.down n).through cs = (p.through cs).down n := by
  induction cs generalizing p with
  | nil => rfl
  | cons c cs ih =>
    show ((p.down n).after c).through cs = _
    rw [after_down, ih]
    rfl

end Position

def Token.down (n : Int) (t : Token) : Token := { t with position := t.position.down n }

theorem Token.down_down (m n : Int) (t : Token) : (t.down m).down n = t.down (m + n) := by
  simp only [down, Position.down, Int.add_assoc]

namespace Cursor

theorem position_forward (n : Nat) (c : Cursor) :
    (c.forward n).position = c.position.through (c.rest.take n) := by
  induction n generalizing c with
  | zero => rfl
  | succ n ih =>
    rw [forward, ih, rest_advance]
    cases hr : c.rest with
    | nil =>
      rw [advance_of_nil hr]
      simp
    | cons x xs =>
      rw [position_advance hr]
      rfl

theorem position_forward_down {c d : Cursor} {m : Int} (hrest : d.rest = c.rest)
    (hposition : d.position = c.position.down m) (n : Nat) :
    (d.forward n).rest = (c.forward n).rest ∧
      (d.forward n).position = (c.forward n).position.down m := by
  rw [rest_forward, rest_forward, position_forward, position_forward, hrest, hposition,
    Position.through_down]
  exact ⟨rfl, rfl⟩

theorem skipBlanks_down {c d : Cursor} {m : Int} (hrest : d.rest = c.rest)
    (hposition : d.position = c.position.down m) : d.skipBlanks.rest = c.skipBlanks.rest ∧
      d.skipBlanks.position = c.skipBlanks.position.down m := by
  simp only [skipBlanks, take, hrest]
  exact position_forward_down hrest hposition _

/-- The same text some lines below has the same tokens there. What was passed does not count. -/
theorem tokens_down {c : Cursor} {m : Int} : ∀ {d : Cursor}, d.rest = c.rest →
    d.position = c.position.down m → d.tokens.1 = c.tokens.1.map (Token.down m) := by
  fun_induction tokens c
  case case1 c hnil =>
    intro d hrest hposition
    obtain ⟨hskip, hplace⟩ := skipBlanks_down hrest hposition
    rw [tokens_of_nil (hskip.trans hnil), hplace]
    rfl
  case case2 c x rest hcons found later ih =>
    intro d hrest hposition
    obtain ⟨hskip, hplace⟩ := skipBlanks_down hrest hposition
    obtain ⟨hbehind, hbelow⟩ := position_forward_down hskip hplace found.length
    rw [tokens_of_cons (hskip.trans hcons), hplace, ih hbehind hbelow]
    rfl

end Cursor

def tokensAt (p : Position) (cs : List Char) : List Token := (Cursor.mk [] cs p).tokens.1

theorem Cursor.tokens_eq_tokensAt (c : Cursor) : c.tokens.1 = tokensAt c.position c.rest := by
  have hid : (Token.down 0) = id := by
    funext t
    rw [Token.down, Position.down_zero]
    rfl
  have htokens := tokens_down (c := c) (d := ⟨[], c.rest, c.position⟩) (m := 0) rfl
    (Position.down_zero _).symm
  rw [tokensAt, htokens, hid, List.map_id]

theorem exists_append_cons (cs : List Char) :
    (∀ c ∈ cs, Text.isBlank c) ∨ ∃ bs x rest, cs = bs ++ x :: rest ∧ (∀ c ∈ bs, Text.isBlank c) ∧
      Text.isBlank x = false := by
  have hbs : ∀ c ∈ cs.takeWhile Text.isBlank, Text.isBlank c :=
    fun c hc ↦ List.all_eq_true.mp List.all_takeWhile c hc
  have happend := List.takeWhile_append_dropWhile (p := Text.isBlank) (l := cs)
  have hstop := List.head?_dropWhile_not Text.isBlank cs
  cases hrest : cs.dropWhile Text.isBlank with
  | nil =>
    rw [hrest, List.append_nil] at happend
    exact .inl (happend ▸ hbs)
  | cons x rest =>
    rw [hrest] at happend hstop
    exact .inr ⟨_, x, rest, happend.symm, hbs, by simpa using hstop⟩

/-- A text is made of blanks only, or of a lexeme behind blanks and a shorter text. -/
theorem text_induction {P : List Char → Prop} (cs : List Char)
    (blank : ∀ bs : List Char, (∀ c ∈ bs, Text.isBlank c) → P bs)
    (lexeme : ∀ (bs : List Char) (x : Char) (rest : List Char), (∀ c ∈ bs, Text.isBlank c) →
      Text.isBlank x = false → P ((x :: rest).drop (Lexeme.first x rest).length) →
      P (bs ++ x :: rest)) : P cs := by
  induction hn : cs.length using Nat.strongRecOn generalizing cs with
  | _ n ih =>
    rcases exists_append_cons cs with hcs | ⟨bs, x, rest, rfl, hbs, hx⟩
    · exact blank cs hcs
    · have hpos := Lexeme.first_length_pos x rest
      refine lexeme bs x rest hbs hx (ih _ ?_ _ rfl)
      rw [← hn, List.length_drop, List.length_append, List.length_cons]
      omega

section

variable {bs cs : List Char} {x : Char} (p : Position)

theorem skipBlanks_mk (cs : List Char) (hbs : ∀ c ∈ bs, Text.isBlank c)
    (hcs : ∀ c ∈ cs.head?, Text.isBlank c = false) :
    (Cursor.mk [] (bs ++ cs) p).skipBlanks.rest = cs ∧
      (Cursor.mk [] (bs ++ cs) p).skipBlanks.position = p.through bs := by
  have htake : (bs ++ cs).takeWhile Text.isBlank = bs := by
    rw [List.takeWhile_append_of_pos hbs]
    cases cs with
    | nil => rw [List.takeWhile_nil, List.append_nil]
    | cons c cs => rw [List.takeWhile_cons_of_neg (by simp [hcs c rfl]), List.append_nil]
  simp only [Cursor.skipBlanks, Cursor.take, htake, Cursor.rest_forward, Cursor.position_forward,
    List.drop_left, List.take_left, and_self]

theorem tokensAt_of_blank (hbs : ∀ c ∈ bs, Text.isBlank c) :
    tokensAt p bs = [.endAt (p.through bs)] := by
  obtain ⟨hrest, hplace⟩ := skipBlanks_mk p [] hbs nofun
  rw [List.append_nil] at hrest hplace
  rw [tokensAt, Cursor.tokens_of_nil hrest, hplace]

theorem tokensAt_append_cons (hbs : ∀ c ∈ bs, Text.isBlank c) (hx : Text.isBlank x = false) :
    tokensAt p (bs ++ x :: cs) =
      ⟨(Lexeme.first x cs).kind, .ofList (Lexeme.first x cs).value, p.through bs⟩ ::
        tokensAt ((p.through bs).through ((x :: cs).take (Lexeme.first x cs).length))
          ((x :: cs).drop (Lexeme.first x cs).length) := by
  obtain ⟨hrest, hplace⟩ := skipBlanks_mk p (x :: cs) hbs (by
    rintro c hc
    cases hc
    exact hx)
  rw [tokensAt, Cursor.tokens_of_cons hrest, hplace, Cursor.tokens_eq_tokensAt,
    Cursor.rest_forward, Cursor.position_forward, hrest, hplace]

theorem tokensAt_cons (hx : Text.isBlank x = false) : tokensAt p (x :: cs) =
    ⟨(Lexeme.first x cs).kind, .ofList (Lexeme.first x cs).value, p⟩ ::
      tokensAt (p.through ((x :: cs).take (Lexeme.first x cs).length))
        ((x :: cs).drop (Lexeme.first x cs).length) :=
  tokensAt_append_cons p (List.forall_mem_nil _) hx

theorem tokensAt_append_blank (hbs : ∀ c ∈ bs, Text.isBlank c) (cs : List Char) :
    tokensAt p (bs ++ cs) = tokensAt (p.through bs) cs := by
  have hblank {ds : List Char} (hds : ∀ c ∈ ds, Text.isBlank c) :
      ∀ c ∈ bs ++ ds, Text.isBlank c := by
    intro c hc
    exact (List.mem_append.mp hc).elim (hbs c) (hds c)
  rcases exists_append_cons cs with hcs | ⟨ds, x, rest, rfl, hds, hx⟩
  · rw [tokensAt_of_blank p (hblank hcs), tokensAt_of_blank _ hcs, Position.through_append]
  · rw [← List.append_assoc, tokensAt_append_cons p (hblank hds) hx, tokensAt_append_cons _ hds hx,
      Position.through_append]

theorem slash_notMem_of_blank (hbs : ∀ c ∈ bs, Text.isBlank c) : '/' ∉ bs := by
  intro hslash
  exact absurd (hbs '/' hslash) (by decide)

/-- The text before a line break outside of block comments and what follows are read apart. -/
theorem tokensAt_line (h : ¬ (Region.code.after cs).IsOpen) :
    ∃ ts, tokensAt p cs = ts ++ [.endAt (p.through cs)] ∧
      ∀ ds, tokensAt p (cs ++ '\n' :: ds) = ts ++ tokensAt (p.through (cs ++ ['\n'])) ds := by
  induction cs using text_induction generalizing p with
  | blank cs hcs =>
    refine ⟨[], tokensAt_of_blank p hcs, fun ds ↦ ?_⟩
    have hblank : ∀ c ∈ cs ++ ['\n'], Text.isBlank c := by
      intro c hc
      rcases List.mem_append.mp hc with hc | hc
      · exact hcs c hc
      · rw [List.mem_singleton.mp hc]
        decide
    rw [List.append_cons, tokensAt_append_blank p hblank]
    rfl
  | lexeme bs x rest hbs hx ih =>
    rw [Region.after_code_append (slash_notMem_of_blank hbs)] at h
    obtain ⟨-, hle, hrest⟩ := Lexeme.first_line h []
    obtain ⟨ts, hts, hline⟩ :=
      ih ((p.through bs).through ((x :: rest).take (Lexeme.first x rest).length)) hrest
    refine ⟨⟨(Lexeme.first x rest).kind, .ofList (Lexeme.first x rest).value, p.through bs⟩ :: ts,
      ?_, fun ds ↦ ?_⟩
    · rw [tokensAt_append_cons p hbs hx, hts, ← Position.through_append,
        List.take_append_drop, ← Position.through_append]
      rfl
    · obtain ⟨hfirst, -, -⟩ := Lexeme.first_line h ds
      rw [List.append_assoc, List.cons_append, tokensAt_append_cons p hbs hx, hfirst,
        ← List.cons_append, List.take_append_of_le_length hle, List.drop_append_of_le_length hle,
        hline, ← Position.through_append, ← List.append_assoc, List.take_append_drop,
        ← Position.through_append, List.append_assoc]
      rfl

theorem not_isOpen_of_tokens
    (h : ∀ t ∈ tokensAt p cs, t.kind ≠ .lineComment ∧ t.kind ≠ .blockComment) :
    ¬ (Region.code.after cs).IsOpen := by
  induction cs using text_induction generalizing p with
  | blank cs hcs =>
    rw [← List.append_nil cs, Region.after_code_append (slash_notMem_of_blank hcs)]
    decide
  | lexeme bs x rest hbs hx ih =>
    rw [tokensAt_append_cons p hbs hx, List.forall_mem_cons] at h
    obtain ⟨⟨hline, hblock⟩, h⟩ := h
    rw [Region.after_code_append (slash_notMem_of_blank hbs), ← Lexeme.isOpen_drop_iff hline hblock]
    exact ih _ h

end

/-- The number of lines that a text ends. -/
def lineBreaks (text : String) : Int := text.toList.count '\n'

/-- The last line is ended, outside of comments. -/
structure EndsLine (text : String) : Prop where
  newline : text.toList.getLast? = some '\n'
  outside : Region.code.after text.toList = .code

/-- One statement without braces, comments and other statements in it, its semicolon last. -/
structure StatementLine (line : String) (keyword : Token) : Prop where
  oneLine : '\n' ∉ line.toList
  starts : keyword.kind.startsStatement
  tokens : ∃ ws z e, tokenize line = keyword :: (ws ++ [z, e]) ∧ z.kind = .semicolon ∧
    ∀ x ∈ ws, x.kind.startsStatement = false ∧ x.kind ∉ [.openBrace, .closeBrace, .semicolon,
      .lineComment, .blockComment]

theorem EndsLine.exists_append {text : String} (h : EndsLine text) :
    ∃ cs, text.toList = cs ++ ['\n'] ∧ ¬ (Region.code.after cs).IsOpen := by
  obtain ⟨cs, hcs⟩ := List.getLast?_eq_some_iff.mp h.newline
  refine ⟨cs, hcs, ?_⟩
  have houtside := h.outside
  rw [hcs, Region.after, List.foldl_append] at houtside
  change (Region.code.after cs).step '\n' = .code at houtside
  rintro (hblock | hstar)
  · rw [hblock] at houtside
    cases houtside
  · rw [hstar] at houtside
    cases houtside

namespace Position

theorem line_through (p : Position) (cs : List Char) :
    (p.through cs).line = p.line + cs.count '\n' := by
  induction cs generalizing p with
  | nil => exact (Int.add_zero _).symm
  | cons c cs ih =>
    show ((p.after c).through cs).line = _
    rw [ih, List.count_cons, after]
    by_cases hc : c = '\n'
    · subst hc
      simp only [if_true, beq_self_eq_true]
      omega
    · simp [hc]

theorem through_newline {p : Position} (hp : p.column = 1) (cs : List Char) :
    p.through (cs ++ ['\n']) = p.down ((cs ++ ['\n']).count '\n') := by
  rw [through_append]
  show (p.through cs).after '\n' = _
  rw [after, if_pos rfl, line_through, List.count_append, down, hp]
  simp [Int.add_assoc]

end Position

theorem tokensAt_down (n : Int) (p : Position) (cs : List Char) :
    tokensAt (p.down n) cs = (tokensAt p cs).map (Token.down n) := Cursor.tokens_down rfl rfl

theorem line_le_of_tokensAt {p q : Position} {cs : List Char} {ts : List Token}
    (h : tokensAt p cs = ts ++ [.endAt q]) {t : Token} (ht : t ∈ ts) :
    p.line ≤ t.line ∧ t.line ≤ q.line := by
  constructor
  · have hmem : t ∈ (Cursor.mk [] cs p).tokens.1 := by
      rw [tokensAt] at h
      rw [h]
      exact List.mem_append_left _ ht
    exact ((Cursor.position_skipBlanks_atMost _).trans (Cursor.atMost_of_mem_tokens hmem)).line_le
  · have hpairwise := Cursor.pairwise_tokens (Cursor.mk [] cs p)
    rw [tokensAt] at h
    rw [h] at hpairwise
    have hprecedes := (List.pairwise_append.mp hpairwise).2.2 t ht (.endAt q) (.head _)
    exact Position.AtMost.line_le (.inr hprecedes.1)

namespace StatementLine

variable {line : String} {keyword : Token}

/-- The last token of the line is the end of the text. -/
theorem tokens_eq (h : StatementLine line keyword) : ∃ ws z p,
    tokenize line = keyword :: (ws ++ [z]) ++ [.endAt p] ∧ z.kind = .semicolon ∧
      ∀ x ∈ ws, x.kind.startsStatement = false ∧ x.kind ∉ [.openBrace, .closeBrace, .semicolon,
        .lineComment, .blockComment] ∧ x.kind ≠ .endOfInput := by
  obtain ⟨ws, z, e, hline, hz, hws⟩ := h.tokens
  obtain ⟨ts, p, hts, hend⟩ := tokenize_eq line
  have heq : keyword :: (ws ++ [z]) ++ [e] = ts ++ [.endAt p] := by
    rw [← hts, hline]
    simp
  obtain ⟨rfl, he⟩ := List.append_inj' heq rfl
  refine ⟨ws, z, p, hts, hz, fun x hx ↦ ?_⟩
  exact ⟨(hws x hx).1, (hws x hx).2,
    hend x (List.mem_cons_of_mem _ (List.mem_append_left _ hx))⟩

theorem ne_comment (h : StatementLine line keyword) :
    ∀ t ∈ tokenize line, t.kind ≠ .lineComment ∧ t.kind ≠ .blockComment := by
  obtain ⟨ws, z, p, hline, hz, hws⟩ := h.tokens_eq
  rw [hline]
  intro t ht
  simp only [List.cons_append, List.append_assoc, List.mem_cons, List.mem_append,
    List.not_mem_nil, or_false] at ht
  rcases ht with rfl | ht | rfl | hfalse | rfl
  · have hstarts := h.starts
    constructor <;> intro hkind <;> rw [hkind] at hstarts <;> cases hstarts
  · have hmem := (hws t ht).2.1
    simp only [List.mem_cons, not_or] at hmem
    exact ⟨hmem.2.2.2.1, hmem.2.2.2.2.1⟩
  · rw [hz]
    exact ⟨nofun, nofun⟩
  · exact hfalse.elim
  · exact ⟨nofun, nofun⟩

end StatementLine

/-- A text that ends its last line, and what follows it are read apart. -/
theorem EndsLine.tokenize_append {text : String} (h : EndsLine text) : ∃ ts,
    tokenize text = ts ++ [.endAt (Position.start.down (lineBreaks text))] ∧
      (∀ t ∈ ts, t.line ≤ lineBreaks text) ∧ ∀ behind, tokenize (text ++ behind) =
        ts ++ (tokenize behind).map (Token.down (lineBreaks text)) := by
  obtain ⟨cs, hcs, hclosed⟩ := h.exists_append
  obtain ⟨ts, hts, hsplit⟩ := tokensAt_line .start hclosed
  have hend : Position.start.through (cs ++ ['\n']) = Position.start.down (lineBreaks text) := by
    rw [Position.through_newline rfl, lineBreaks, hcs]
  have happend (behind : String) : tokenize (text ++ behind) =
      ts ++ (tokenize behind).map (Token.down (lineBreaks text)) := by
    show tokensAt .start (text ++ behind).toList = _
    rw [String.toList_append, hcs, List.append_assoc, List.singleton_append, hsplit, hend,
      tokensAt_down]
    rfl
  refine ⟨ts, ?_, fun t ht ↦ ?_, happend⟩
  · have hempty : tokenize "" = [.endAt .start] := tokensAt_of_blank .start (List.forall_mem_nil _)
    have happend := happend ""
    rw [String.append_empty, hempty] at happend
    exact happend
  · have hle := (line_le_of_tokensAt hts ht).2
    rw [Position.line_through] at hle
    rw [lineBreaks, hcs, List.count_append]
    have hone : Position.start.line = 1 := rfl
    simp only [List.count_singleton_self]
    omega

/-- A line with a statement, and what follows it are read apart. -/
theorem StatementLine.tokenize_append {line : String} {keyword : Token} {ts : List Token}
    {p : Position} (h : StatementLine line keyword) (hts : tokenize line = ts ++ [.endAt p]) :
    (∀ t ∈ ts, t.line = 1) ∧ ∀ behind, tokenize (line ++ "\n" ++ behind) =
      ts ++ (tokenize behind).map (Token.down 1) := by
  obtain ⟨us, hus, hsplit⟩ := tokensAt_line .start
    (not_isOpen_of_tokens (p := .start) h.ne_comment)
  obtain ⟨rfl, -⟩ := List.append_inj' (hts.symm.trans hus) rfl
  have hnone : line.toList.count '\n' = 0 := List.count_eq_zero.mpr h.oneLine
  have hend : Position.start.through (line.toList ++ ['\n']) = Position.start.down 1 := by
    rw [Position.through_newline rfl, List.count_append, hnone]
    rfl
  refine ⟨fun t ht ↦ ?_, fun behind ↦ ?_⟩
  · obtain ⟨hge, hle⟩ := line_le_of_tokensAt hus ht
    rw [Position.line_through, hnone] at hle
    exact Int.le_antisymm hle hge
  · show tokensAt .start (line ++ "\n" ++ behind).toList = _
    rw [String.toList_append, String.toList_append]
    show tokensAt .start (line.toList ++ ['\n'] ++ behind.toList) = _
    rw [List.append_assoc, List.singleton_append, hsplit, hend, tokensAt_down]
    rfl

theorem one_le_line_of_mem_tokenize {text : String} {t : Token} (ht : t ∈ tokenize text) :
    1 ≤ t.line :=
  ((Cursor.position_skipBlanks_atMost _).trans (Cursor.atMost_of_mem_tokens ht)).line_le

end TwinDiagram
