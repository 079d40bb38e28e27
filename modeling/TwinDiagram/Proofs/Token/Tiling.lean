import Mathlib.Data.List.Infix
import TwinDiagram.Proofs.Token.Lines

namespace TwinDiagram

namespace Position

/-- The place behind a text: one more than the line breaks in it, and one more than the characters
since the last of them. -/
def behind (cs : List Char) : Position :=
  ⟨1 + cs.count '\n', 1 + (cs.reverse.takeWhile (· != '\n')).length⟩

theorem behind_concat (cs : List Char) (c : Char) : behind (cs ++ [c]) = (behind cs).after c := by
  rw [behind, after, List.reverse_append, List.reverse_singleton, List.singleton_append,
    List.takeWhile_cons, List.count_append]
  by_cases hc : c = '\n'
  · subst hc
    simp [behind, Int.add_assoc]
  · simp [behind, hc, Int.add_assoc]

theorem start_through (cs : List Char) : start.through cs = behind cs := by
  induction cs using List.reverseRecOn with
  | nil => rfl
  | append_singleton cs c ih => rw [through_append, ih, behind_concat]; rfl

theorem behind_through (cs : List Char) (m n : Nat) :
    (behind (cs.take m)).through ((cs.drop m).take n) = behind (cs.take (m + n)) := by
  rw [← start_through, ← start_through, ← through_append, ← List.take_add]

end Position

open Position

theorem commentBody_cases (cs : List Char) :
    ¬ ['*', '/'] <:+: commentBody cs ∧
      (commentBody cs = cs ∨ ∃ rest, cs = commentBody cs ++ '*' :: '/' :: rest) := by
  fun_induction commentBody cs with
  | case1 => exact ⟨by simp, .inl rfl⟩
  | case2 rest => exact ⟨by simp, .inr ⟨rest, rfl⟩⟩
  | case3 c rest hmark ih =>
    obtain ⟨hfree, hrest⟩ := ih
    constructor
    · rw [List.infix_cons_iff, not_or]
      refine ⟨fun hprefix ↦ ?_, hfree⟩
      -- The body starts with what the text starts with.
      obtain ⟨rfl, hbody⟩ := List.cons_prefix_cons.mp hprefix
      have hstart : ['/'] <+: rest := by
        rcases hrest with hrest | ⟨after, hrest⟩
        · rwa [hrest] at hbody
        · rw [hrest]
          exact hbody.trans (List.prefix_append _ _)
      obtain ⟨after, rfl⟩ := hstart
      exact hmark after rfl rfl
    · rcases hrest with hrest | ⟨after, hrest⟩
      · left
        rw [hrest]
      · right
        exact ⟨after, congrArg (c :: ·) hrest⟩

/-- What a token stands for, in front of the rest of a text. The mark that closes a block comment is
missing only at the end of the text. -/
inductive Token.Stands (t : Token) (lexeme rest : List Char) : Prop
  | plain : t.kind ≠ .blockComment → lexeme = t.value.toList → Stands t lexeme rest
  | closed : t.kind = .blockComment → ¬ ['*', '/'] <:+: t.value.toList →
      lexeme = '/' :: '*' :: t.value.toList ++ ['*', '/'] → Stands t lexeme rest
  | unclosed : t.kind = .blockComment → ¬ ['*', '/'] <:+: t.value.toList →
      lexeme = '/' :: '*' :: t.value.toList → rest = [] → Stands t lexeme rest

section Lexeme

variable {lexeme rest : List Char}

theorem Lexeme.stands_of_ne {l : Lexeme} {p : Position} (hkind : l.kind ≠ .blockComment)
    (h : lexeme = l.value) : Token.Stands ⟨l.kind, .ofList l.value, p⟩ lexeme rest := by
  apply Token.Stands.plain hkind
  rw [h, String.toList_ofList]

theorem take_takeWhile {α : Type} (p : α → Bool) (xs : List α) :
    xs.take (xs.takeWhile p).length = xs.takeWhile p :=
  (List.prefix_iff_eq_take.mp (List.takeWhile_prefix p)).symm

theorem Lexeme.stands_blockComment (p : Position) (cs : List Char) :
    Token.Stands ⟨.blockComment, .ofList (commentBody cs), p⟩
      (('/' :: '*' :: cs).take (blockComment cs).length)
      (('/' :: '*' :: cs).drop (blockComment cs).length) := by
  obtain ⟨hfree, hrest⟩ := commentBody_cases cs
  have hlength : (blockComment cs).length = (commentBody cs).length + 2 + 2 := by
    simp only [blockComment]
    omega
  rw [hlength, List.take_succ_cons, List.take_succ_cons, List.drop_succ_cons, List.drop_succ_cons]
  rw [← String.toList_ofList (l := commentBody cs)] at hfree
  rcases hrest with hrest | ⟨rest, hrest⟩
  · refine .unclosed rfl hfree ?_ ?_
    · rw [String.toList_ofList, hrest, List.take_of_length_le (by omega)]
    · rw [hrest, List.drop_eq_nil_of_le (by omega)]
  · refine .closed rfl hfree ?_
    rw [String.toList_ofList]
    generalize commentBody cs = body at hrest
    rw [hrest, List.take_append, List.take_of_length_le (by omega), Nat.add_sub_cancel_left]
    rfl

/-- The characters that belong to the first lexeme are those that its token stands for. -/
theorem Lexeme.stands_first (p : Position) (x : Char) (cs : List Char) :
    Token.Stands ⟨(first x cs).kind, .ofList (first x cs).value, p⟩
      ((x :: cs).take (first x cs).length) ((x :: cs).drop (first x cs).length) := by
  have hfirst := isFirst x cs
  generalize first x cs = l at hfirst ⊢
  cases hfirst with
  | line _ =>
    apply stands_of_ne
    · exact TokenKind.noConfusion
    · rw [lineComment, take_takeWhile]
  | block cs => exact stands_blockComment p cs
  | declaration _ =>
    apply stands_of_ne
    · exact declaration_kind_ne (by decide) (by decide)
    · simp only [declaration, List.length_cons, List.take_succ_cons, take_takeWhile]
  | word _ _ =>
    apply stands_of_ne
    · exact word_kind_ne (by decide) (by decide)
    · rw [word, take_takeWhile]
  | single _ _ _ _ =>
    apply stands_of_ne
    · exact TokenKind.getD_punctuation?_ne (by decide)
    · rfl

end Lexeme

/-- A token with the place of its lexeme in a text, counted in characters. -/
structure Span where
  offset : Nat
  lexeme : List Char
  token : Token

namespace Span

def Covers (s : Span) (n : Nat) : Prop := s.offset ≤ n ∧ n < s.offset + s.lexeme.length

/-- The spans lie in the text apart from each other, and start at the offset `start` at the
earliest. All behind that which is in none of them is blank. -/
structure Tile (cs : List Char) (start : Nat) (spans : List Span) : Prop where
  starts : ∀ s ∈ spans, start ≤ s.offset
  stands : ∀ s ∈ spans, ∃ rest, cs.drop s.offset = s.lexeme ++ rest ∧ s.token.Stands s.lexeme rest
  place : ∀ s ∈ spans, s.token.position = behind (cs.take s.offset)
  apart : spans.Pairwise fun s t ↦ s.offset < t.offset ∧ s.offset + s.lexeme.length ≤ t.offset
  blank : ∀ n c, start ≤ n → cs[n]? = some c → (∃ s ∈ spans, s.Covers n) ∨ Text.isBlank c

variable {cs bs : List Char} {start : Nat} {spans : List Span} {s : Span}

theorem tile_nil (h : ∀ c ∈ cs.drop start, Text.isBlank c) : Tile cs start [] where
  starts := List.forall_mem_nil _
  stands := List.forall_mem_nil _
  place := List.forall_mem_nil _
  apart := .nil
  blank n c hn hc := by
    right
    apply h
    rw [List.mem_iff_getElem?]
    refine ⟨n - start, ?_⟩
    rwa [List.getElem?_drop, Nat.add_sub_cancel' hn]

/-- A lexeme of `n` characters behind blanks, and what tiles the text behind it. -/
theorem Tile.cons {rest : List Char} {n : Nat} {t : Token} (hbs : ∀ c ∈ bs, Text.isBlank c)
    (hdrop : cs.drop start = bs ++ rest) (hn : 0 < n)
    (hstands : t.Stands (rest.take n) (rest.drop n))
    (hplace : t.position = behind (cs.take (start + bs.length)))
    (h : Tile cs (start + bs.length + n) spans) :
    Tile cs start (⟨start + bs.length, rest.take n, t⟩ :: spans) where
  starts := by
    refine List.forall_mem_cons.mpr ⟨Nat.le_add_right _ _, fun s hs ↦ ?_⟩
    have := h.starts s hs
    omega
  stands := by
    refine List.forall_mem_cons.mpr ⟨⟨rest.drop n, ?_, hstands⟩, h.stands⟩
    rw [List.take_append_drop, ← List.drop_drop, hdrop, List.drop_left]
  place := List.forall_mem_cons.mpr ⟨hplace, h.place⟩
  apart := by
    refine List.pairwise_cons.mpr ⟨fun s hs ↦ ?_, h.apart⟩
    have hstart := h.starts s hs
    have hlength : (rest.take n).length ≤ n := List.length_take_le n rest
    constructor
    · exact Nat.lt_of_lt_of_le (Nat.lt_add_of_pos_right hn) hstart
    · exact (Nat.add_le_add_left hlength _).trans hstart
  blank k c hk hc := by
    have hget : (bs ++ rest)[k - start]? = some c := by
      rw [← hdrop, List.getElem?_drop, Nat.add_sub_cancel' hk, hc]
    rcases Nat.lt_or_ge (k - start) bs.length with hbefore | hafter
    · right
      rw [List.getElem?_append_left hbefore] at hget
      exact hbs c (List.mem_of_getElem? hget)
    · rw [List.getElem?_append_right hafter] at hget
      obtain ⟨hlt, -⟩ := List.getElem?_eq_some_iff.mp hget
      rcases Nat.lt_or_ge (k - start - bs.length) n with hinside | hbehind
      · refine .inl ⟨_, .head _, by dsimp only; omega, ?_⟩
        dsimp only
        rw [List.length_take]
        omega
      · rcases h.blank k c (by omega) hc with ⟨s, hs, hcovers⟩ | hblank
        · exact .inl ⟨s, .tail _ hs, hcovers⟩
        · exact .inr hblank

/-- The tokens behind an offset tile the text from there on. -/
theorem tokensAt_tile (cs rest : List Char) : ∀ start, cs.drop start = rest →
    ∃ spans, Tile cs start spans ∧ (∀ s ∈ spans, s.token.kind ≠ .endOfInput) ∧
      tokensAt (behind (cs.take start)) rest = spans.map Span.token ++ [.endAt (behind cs)] := by
  induction rest using text_induction with
  | blank bs hbs =>
    rintro start rfl
    refine ⟨[], tile_nil hbs, List.forall_mem_nil _, ?_⟩
    rw [tokensAt_of_blank _ hbs, ← start_through, ← start_through, ← through_append,
      List.take_append_drop]
    rfl
  | lexeme bs x rest hbs hx ih =>
    intro start hdrop
    have hrest : cs.drop (start + bs.length) = x :: rest := by
      rw [← List.drop_drop, hdrop, List.drop_left]
    have hplace : (behind (cs.take start)).through bs = behind (cs.take (start + bs.length)) := by
      rw [← behind_through, hdrop, List.take_left]
    have hnext := behind_through cs (start + bs.length) (Lexeme.first x rest).length
    rw [hrest] at hnext
    obtain ⟨spans, htile, hkind, htokens⟩ :=
      ih (start + bs.length + (Lexeme.first x rest).length) (by rw [← List.drop_drop, hrest])
    refine ⟨_, .cons hbs hdrop (Lexeme.first_length_pos x rest)
      (Lexeme.stands_first ((behind (cs.take start)).through bs) x rest) hplace htile, ?_, ?_⟩
    · exact List.forall_mem_cons.mpr ⟨Lexeme.first_ne_endOfInput x rest, hkind⟩
    · rw [tokensAt_append_cons _ hbs hx, hplace, hnext, htokens]
      rfl

end Span

/-- Every text is tiled by its tokens, and the end token stands behind it. -/
theorem tokens_tile (text : String) :
    ∃ spans, Span.Tile text.toList 0 spans ∧ (∀ s ∈ spans, s.token.kind ≠ .endOfInput) ∧
      tokenize text = spans.map Span.token ++ [.endAt (behind text.toList)] :=
  Span.tokensAt_tile text.toList text.toList 0 rfl

end TwinDiagram
