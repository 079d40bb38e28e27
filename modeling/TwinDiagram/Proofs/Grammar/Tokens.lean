import TwinDiagram.Proofs.Grammar.Words
import TwinDiagram.Proofs.Parser.Stream

namespace TwinDiagram

namespace Grammar

/-- Words that can be written, a comment only where it documents a goal. -/
inductive Legible : List Word → Prop
  | nil : Legible []
  | fixed {k : TokenKind} {ws : List Word} :
    k ∈ TokenKind.keywords ++ marks → Legible ws → Legible (.fixed k :: ws)
  | name {n : String} {ws : List Word} : IsIdentifier n → Legible ws → Legible (.name n :: ws)
  | doc {d : String} {ws : List Word} : IsDoc d → Legible ws →
    Legible (.fixed .doc :: .comment d :: ws)

variable {ws us : List Word} {ts : List Token}

theorem Legible.append (h : Legible ws) (h' : Legible us) : Legible (ws ++ us) := by
  induction h with
  | nil => exact h'
  | fixed hk _ ih => exact .fixed hk ih
  | name hn _ ih => exact .name hn ih
  | doc hd _ ih => exact .doc hd ih

theorem Legible.proper (h : Legible ws) : ∀ w ∈ ws, w.Proper := by
  induction h with
  | nil => exact nofun
  | fixed hk _ ih => exact List.forall_mem_cons.mpr ⟨hk, ih⟩
  | name hn _ ih => exact List.forall_mem_cons.mpr ⟨hn, ih⟩
  | doc hd _ ih =>
    have hdoc : TokenKind.doc ∈ TokenKind.keywords ++ marks := by decide
    exact List.forall_mem_cons.mpr ⟨hdoc, List.forall_mem_cons.mpr ⟨hd, ih⟩⟩

def Stays (previous : Option TokenKind) (k : TokenKind) : Prop :=
  k ≠ .lineComment ∧ (k = .blockComment → previous = some .doc)

theorem Stays.cons {previous : Option TokenKind} {t : Token} (ht : Stays previous t.kind)
    (h : Token.dropComments (some t.kind) ts = ts ∧ Token.lineComments ts = []) :
    Token.dropComments previous (t :: ts) = t :: ts ∧ Token.lineComments (t :: ts) = [] := by
  obtain ⟨hline, hblock⟩ := ht
  constructor
  · rw [Token.dropComments, h.1, if_neg]
    simpa [hline] using hblock
  · rw [Token.lineComments, List.filter_cons_of_neg (by simpa using hline)]
    exact h.2

theorem stays_of_mem {previous : Option TokenKind} {k : TokenKind} :
    k ∈ TokenKind.keywords ++ marks → Stays previous k := by
  cases k <;>
    simp [Stays, TokenKind.keywords, TokenKind.declarations, TokenKind.softKeywords, marks]

theorem stays_of_isName {previous : Option TokenKind} {k : TokenKind} (h : k.isName) :
    Stays previous k := by
  constructor <;> rintro rfl <;> cases h

theorem Written.tokens {cs : List Char} (h : Written ws cs) (hws : ∀ w ∈ ws, w.Proper)
    {c : Cursor} (hc : c.rest = cs) :
    ∃ ts p, c.tokens.1 = ts ++ [.endAt p] ∧ ts.length = ws.length ∧ Show ws ts := by
  -- The cursor stands in front of the words that are left.
  induction h generalizing c with
  | @done gap hgap =>
    have hnil : c.skipBlanks.rest = [] := by
      rw [Cursor.rest_skipBlanks, hc, ← List.append_nil gap, List.dropWhile_append_of_pos hgap]
      rfl
    exact ⟨[], _, Cursor.tokens_of_nil hnil, rfl, trivial⟩
  | @next gap cs rest w ws hgap hspelled hends _ ih =>
    obtain ⟨hw, hws⟩ := List.forall_mem_cons.mp hws
    obtain ⟨x, xs, rfl, hblank, hlength, hshown⟩ := hspelled.first hw hends
    have hskip : c.skipBlanks.rest = x :: (xs ++ rest) := by
      rw [Cursor.rest_skipBlanks, hc, List.append_assoc, List.dropWhile_append_of_pos hgap,
        List.cons_append, List.dropWhile_cons_of_neg (by simp [hblank])]
    have hbehind : (c.skipBlanks.forward (Lexeme.first x (xs ++ rest)).length).rest = rest := by
      rw [Cursor.rest_forward, hskip, hlength, ← List.cons_append, List.drop_left]
    obtain ⟨ts, p, hts, hcount, hshow⟩ := ih hws hbehind
    refine ⟨_ :: ts, p, ?_, congrArg Nat.succ hcount, hshown c.skipBlanks.position, hshow⟩
    rw [Cursor.tokens_of_cons hskip, hts, List.cons_append]

/-- No comment is dropped, and there is none but those of goals. -/
theorem Legible.dropComments_eq (h : Legible ws) (hshow : Show ws ts)
    (hlength : ts.length = ws.length) (previous : Option TokenKind) :
    Token.dropComments previous ts = ts ∧ Token.lineComments ts = [] := by
  induction h generalizing ts previous with
  | nil =>
    rw [List.length_eq_zero_iff.mp hlength]
    exact ⟨rfl, rfl⟩
  | @fixed k ws hk _ ih =>
    cases ts with
    | nil => cases hshow
    | cons t ts =>
      obtain ⟨rfl, hshow⟩ := hshow
      exact (stays_of_mem hk).cons (ih hshow (Nat.succ.inj hlength) _)
  | name hn _ ih =>
    cases ts with
    | nil => cases hshow
    | cons t ts =>
      obtain ⟨⟨hname, -⟩, hshow⟩ := hshow
      exact (stays_of_isName hname).cons (ih hshow (Nat.succ.inj hlength) _)
  | doc hd _ ih =>
    match ts, hshow with
    | t :: u :: ts, ⟨ht, ⟨hu, _⟩, hshow⟩ =>
      have hrest := ih hshow (Nat.succ.inj (Nat.succ.inj hlength)) (some u.kind)
      have hkind : t.kind = .doc := ht
      have hdoc : Stays previous t.kind := by
        rw [hkind]
        exact stays_of_mem (by decide)
      have hcomment : Stays (some t.kind) u.kind := by
        rw [hkind, hu]
        exact ⟨nofun, fun _ ↦ rfl⟩
      exact hdoc.cons (hcomment.cons hrest)

end Grammar

/-- The parser starts in front of the words of a text. -/
theorem Parser.State.ofTokens_written {ws : List Grammar.Word} {text : String}
    (h : Grammar.Written ws text.toList) (hws : Grammar.Legible ws) :
    Grammar.Show ws (ofTokens (tokenize text)).rest ∧
      (ofTokens (tokenize text)).comments = [] := by
  obtain ⟨ts, p, hts, hlength, hshow⟩ := h.tokens hws.proper (c := .ofText text) rfl
  obtain ⟨hdrop, hcomments⟩ := hws.dropComments_eq hshow hlength none
  have hrest : (ofTokens (tokenize text)).rest = ts := by
    obtain ⟨hall, -⟩ := ofTokens_tokenize text
    rw [tokenize, hts, Token.statements, Token.dropComments_concat, hdrop] at hall
    rw [tokenize, hts]
    exact (List.append_inj' hall rfl).1
  rw [comments_ofTokens, hrest, tokenize, hts, Token.lineComments, List.filter_append]
  refine ⟨hshow, ?_⟩
  rw [← Token.lineComments, hcomments]
  rfl

end TwinDiagram
