import Mathlib.Data.List.Infix
import TwinDiagram.Parser.Statement
import TwinDiagram.Proofs.Text.Case
import TwinDiagram.Proofs.Token.Identifier

namespace TwinDiagram

namespace Grammar

/-- A keyword or mark, a name, or the comment that documents a goal. -/
inductive Word where
  | fixed (kind : TokenKind)
  | name (name : String)
  | comment (doc : String)

def marks : List TokenKind := [.openBrace, .closeBrace, .semicolon, .dot]

def isMark (c : Char) : Bool := c == '\x7b' || c == '\x7d' || c == ';' || c == '.'

/-- Text on one line: one or more words, single spaces between them. It cannot hold the mark that
ends a comment. -/
structure IsDoc (d : String) : Prop where
  words : ∀ w ∈ d.toList.splitOn ' ', w ≠ [] ∧ ∀ c ∈ w, Text.isBlank c = false
  closed : ¬ ['*', '/'] <:+: d.toList

instance (d : String) : Decidable (IsDoc d) :=
  decidable_of_iff ((∀ w ∈ d.toList.splitOn ' ', w ≠ [] ∧ w.all (! Text.isBlank ·)) ∧
    ¬ ['*', '/'] <:+: d.toList)
    ⟨fun h ↦ ⟨by simpa using h.1, h.2⟩, fun h ↦ ⟨by simpa using h.words, h.closed⟩⟩

namespace Word

def Spelled (w : Word) (cs : List Char) : Prop :=
  match w with
  | fixed k => cs.map Char.toLower = k.label.toList
  | name n => cs = n.toList
  | comment d => ∃ before behind, (∀ c ∈ before, Text.isBlank c) ∧
      (∀ c ∈ behind, Text.isBlank c) ∧
      cs = '/' :: '*' :: (before ++ d.toList ++ behind ++ ['*', '/'])

def Proper : Word → Prop
  | fixed k => k ∈ TokenKind.keywords ++ marks
  | name n => IsIdentifier n
  | comment d => IsDoc d

def Ends (w : Word) (rest : List Char) : Prop :=
  (∃ k ∈ marks, w = fixed k) ∨ ∀ c ∈ rest.head?, Text.isBlank c ∨ isMark c

def Shown (w : Word) (t : Token) : Prop :=
  match w with
  | fixed k => t.kind = k
  | name n => t.kind.isName ∧ t.value = n
  | comment d => t.kind = .blockComment ∧ Parser.normalizeDoc t.value = some d

/-- The word in small letters, with a space at both ends of a comment. -/
def text : Word → List Char
  | fixed k => k.label.toList
  | name n => n.toList
  | comment d => '/' :: '*' :: ([' '] ++ d.toList ++ [' '] ++ ['*', '/'])

end Word

/-- The text is that of the words in their order. Blanks stand between them and may stand at both
ends; beside a mark they may be left out. -/
inductive Written : List Word → List Char → Prop
  | done {gap : List Char} : (∀ c ∈ gap, Text.isBlank c) → Written [] gap
  | next {gap cs rest : List Char} {w : Word} {ws : List Word} : (∀ c ∈ gap, Text.isBlank c) →
    w.Spelled cs → w.Ends rest → Written ws rest → Written (w :: ws) (gap ++ cs ++ rest)

def spaced (ws : List Word) : List Char := ws.flatMap fun w ↦ ' ' :: w.text

def Show : List Word → List Token → Prop
  | [], _ => True
  | w :: ws, t :: ts => w.Shown t ∧ Show ws ts
  | _ :: _, [] => False

end Grammar

open Grammar

variable {k : TokenKind} {x : Char} {xs rest : List Char}

namespace TokenKind

theorem ascii_label (k : TokenKind) : ∀ c ∈ k.label.toList, c.toNat < 0x80 := by
  have h : k.label.toList.all (·.toNat < 0x80) := by cases k <;> decide
  simpa using h

theorem isIdentifierChar_tail_label (hk : k ∈ keywords) :
    ∀ c ∈ k.label.toList.tail, isIdentifierChar c := by
  refine List.all_eq_true.mp ?_
  revert hk
  cases k <;> decide

theorem isIdentifierStart_head_label (hk : k ∈ keywords) (hdecl : k ∉ declarations) :
    k.label.toList.head?.all isIdentifierStart := by
  revert hk hdecl
  cases k <;> decide

theorem find?_label : k ∈ keywords → keywords.find? (·.label == k.label) = some k := by
  cases k <;> decide

theorem isName_of_keyword : k ∈ keywords → k ∉ declarations → k.isName := by
  cases k <;> decide

theorem keyword?_of_spelled (hk : k ∈ keywords) (h : xs.map Char.toLower = k.label.toList) :
    keyword? (.ofList xs) = some k := by
  have hascii : ∀ c ∈ xs, c.toNat < 0x80 := fun c hc ↦
    Text.toNat_lt_of_toLower (ascii_label k c.toLower (h ▸ List.mem_map_of_mem hc))
  have hlower : Text.lower (.ofList xs) = k.label := by
    rw [Text.lower, Text.lowerChars, String.toList_ofList, Text.lowerFrom_of_ascii hascii, h,
      String.ofList_toList]
  simp only [keyword?, hlower, find?_label hk]

theorem isName_keyword? (hx : isIdentifierStart x) (xs : List Char) :
    ((keyword? (.ofList (x :: xs))).getD .identifier).isName := by
  have hsign : x ≠ '#' := by
    rintro rfl
    cases hx
  cases h : keyword? (.ofList (x :: xs)) with
  | none => rfl
  | some k =>
    obtain ⟨hk, hlabel⟩ := label_of_keyword? h
    refine isName_of_keyword hk fun hdecl ↦ Text.head?_lower_ne hsign xs ?_
    rw [← hlabel]
    exact (head?_label hk).mpr hdecl

end TokenKind

theorem takeWhile_isIdentifierChar (hxs : ∀ c ∈ xs, isIdentifierChar c)
    (hrest : ∀ c ∈ rest.head?, isIdentifierChar c = false) :
    (xs ++ rest).takeWhile isIdentifierChar = xs := by
  rw [List.takeWhile_append_of_pos hxs]
  cases rest with
  | nil => rw [List.takeWhile_nil, List.append_nil]
  | cons c rest =>
    rw [List.takeWhile_cons_of_neg (by simp [hrest c rfl]), List.append_nil]

namespace Lexeme

theorem first_word (hx : isIdentifierStart x) (hxs : ∀ c ∈ xs, isIdentifierChar c)
    (hrest : ∀ c ∈ rest.head?, isIdentifierChar c = false) : first x (xs ++ rest) =
      ⟨(TokenKind.keyword? (.ofList (x :: xs))).getD .identifier, x :: xs, (x :: xs).length⟩ := by
  have hslash : x ≠ '/' := by
    rintro rfl
    cases hx
  have hsign : x ≠ '#' := by
    rintro rfl
    cases hx
  have hall : ∀ c ∈ x :: xs, isIdentifierChar c :=
    List.forall_mem_cons.mpr ⟨by simp [isIdentifierChar, hx], hxs⟩
  have htake := takeWhile_isIdentifierChar hall hrest
  rw [List.cons_append] at htake
  simp only [first, hslash, hsign, hx, decide_false, Bool.false_and, if_true, if_false,
    Bool.false_eq_true, word, htake]

theorem first_declaration (hxs : ∀ c ∈ xs, isIdentifierChar c)
    (hrest : ∀ c ∈ rest.head?, isIdentifierChar c = false) : first '#' (xs ++ rest) =
      ⟨(TokenKind.keyword? (.ofList ('#' :: xs))).getD .unknown, '#' :: xs,
        ('#' :: xs).length⟩ := by
  have htake := takeWhile_isIdentifierChar hxs hrest
  simp [first, declaration, htake]

theorem first_keyword (hk : k ∈ TokenKind.keywords)
    (h : (x :: xs).map Char.toLower = k.label.toList)
    (hrest : ∀ c ∈ rest.head?, isIdentifierChar c = false) :
    first x (xs ++ rest) = ⟨k, x :: xs, (x :: xs).length⟩ := by
  have hkeyword := TokenKind.keyword?_of_spelled hk h
  rw [List.map_cons] at h
  have hxs : ∀ c ∈ xs, isIdentifierChar c := fun c hc ↦ by
    rw [← isIdentifierChar_toLower]
    refine TokenKind.isIdentifierChar_tail_label hk _ ?_
    rw [← h]
    exact List.mem_map_of_mem hc
  by_cases hdecl : k ∈ TokenKind.declarations
  · have hhead := (TokenKind.head?_label hk).mpr hdecl
    rw [← h, List.head?_cons, Option.some_inj] at hhead
    obtain rfl := Text.eq_of_toLower_eq hhead (by decide)
    rw [first_declaration hxs hrest, hkeyword, Option.getD_some]
  · have hx := TokenKind.isIdentifierStart_head_label hk hdecl
    rw [← h, List.head?_cons, Option.all_some, isIdentifierStart_toLower] at hx
    rw [first_word hx hxs hrest, hkeyword, Option.getD_some]

theorem first_mark (hk : k ∈ marks) (h : (x :: xs).map Char.toLower = k.label.toList)
    (rest : List Char) : xs = [] ∧ first x rest = ⟨k, [x], 1⟩ := by
  have hlabel : ∃ m, k.label.toList = [m] ∧ ¬ (97 ≤ m.toNat ∧ m.toNat ≤ 122) ∧
      first m rest = ⟨k, [m], 1⟩ := by
    simp only [marks, List.mem_cons, List.not_mem_nil, or_false] at hk
    rcases hk with rfl | rfl | rfl | rfl
    · exact ⟨'\x7b', rfl, by decide, rfl⟩
    · exact ⟨'\x7d', rfl, by decide, rfl⟩
    · exact ⟨';', rfl, by decide, rfl⟩
    · exact ⟨'.', rfl, by decide, rfl⟩
  obtain ⟨m, hm, hletter, hfirst⟩ := hlabel
  rw [hm, List.map_cons, List.cons_eq_cons, List.map_eq_nil_iff] at h
  obtain rfl := Text.eq_of_toLower_eq h.1 hletter
  exact ⟨h.2, hfirst⟩

end Lexeme

theorem not_isBlank_of_spelled (h : (x :: xs).map Char.toLower = k.label.toList) :
    Text.isBlank x = false := by
  cases hx : Text.isBlank x with
  | false => rfl
  | true =>
    have hlabel : k.label.toList.head?.all (! Text.isBlank ·) := by cases k <;> decide
    rw [← h, List.map_cons, Text.toLower_of_isBlank hx, List.head?_cons, Option.all_some, hx]
      at hlabel
    cases hlabel

theorem isIdentifierChar_of_isMark (h : isMark x) : isIdentifierChar x = false := by
  simp only [isMark, Bool.or_eq_true, beq_iff_eq] at h
  rcases h with ((rfl | rfl) | rfl) | rfl <;> rfl

namespace Grammar

theorem IsDoc.not_infix {d : String} {before behind : List Char} (hd : IsDoc d)
    (hbefore : ∀ c ∈ before, Text.isBlank c) (hbehind : ∀ c ∈ behind, Text.isBlank c) :
    ¬ ['*', '/'] <:+: before ++ d.toList ++ behind := by
  intro h
  have hstar : '*' ∉ before := fun hmem ↦ absurd (hbefore _ hmem) (by decide)
  have hslash : '/' ∉ behind := fun hmem ↦ absurd (hbehind _ hmem) (by decide)
  rcases pair_infix_append h with h | h | ⟨-, h⟩
  · rcases pair_infix_append h with h | h | ⟨h, -⟩
    · exact hstar (h.subset (.head _))
    · exact hd.closed h
    · exact hstar h
  · exact hslash (h.subset (.tail _ (.head _)))
  · exact hslash (List.mem_of_head? h)

theorem IsDoc.normalizeDoc_eq {d : String} {before behind : List Char} (hd : IsDoc d)
    (hbefore : ∀ c ∈ before, Text.isBlank c) (hbehind : ∀ c ∈ behind, Text.isBlank c) :
    Parser.normalizeDoc (.ofList (before ++ d.toList ++ behind)) = some d := by
  have hsplit : [' '].intercalate (d.toList.splitOn ' ') = d.toList := List.intercalate_splitOn ' '
  have hwords : Text.words (before ++ d.toList ++ behind) = d.toList.splitOn ' ' := by
    rw [List.append_assoc, Text.words_append_of_blank hbefore]
    conv => lhs; rw [← hsplit]
    exact Text.words_intercalate hd.words hbehind
  rw [Parser.normalizeDoc, String.toList_ofList, hwords]
  split
  · next hnil => exact absurd hnil (List.splitOn_ne_nil ' ' d.toList)
  · rw [Text.joinWith_eq_intercalate, hsplit, String.ofList_toList]

namespace Word

theorem Ends.head_eq {w : Word} (hw : w.Ends rest) (hmark : ∀ k ∈ marks, w ≠ fixed k) :
    ∀ c ∈ rest.head?, isIdentifierChar c = false := by
  intro c hc
  rcases hw with ⟨k, hk, rfl⟩ | hw
  · exact absurd rfl (hmark k hk)
  · rcases hw c hc with hblank | hmark
    · exact Text.not_isIdentifierChar_of_isBlank hblank
    · exact isIdentifierChar_of_isMark hmark

/-- The first lexeme of a text that starts with a word. -/
theorem Spelled.first {w : Word} {cs : List Char} (h : w.Spelled cs) (hw : w.Proper)
    (hends : w.Ends rest) : ∃ x xs, cs = x :: xs ∧ Text.isBlank x = false ∧
      (Lexeme.first x (xs ++ rest)).length = cs.length ∧ ∀ p, w.Shown
        ⟨(Lexeme.first x (xs ++ rest)).kind, .ofList (Lexeme.first x (xs ++ rest)).value, p⟩ := by
  cases w with
  | fixed k =>
    cases cs with
    | nil => cases k <;> cases h
    | cons x xs =>
      rcases List.mem_append.mp hw with hk | hk
      · have hmark : ∀ l ∈ marks, fixed k ≠ fixed l := by
          rintro l hl heq
          cases heq
          revert hk hl
          cases k <;> decide
        have hfirst := Lexeme.first_keyword hk h (hends.head_eq hmark)
        exact ⟨x, xs, rfl, not_isBlank_of_spelled h, by rw [hfirst], fun p ↦ by rw [hfirst]; rfl⟩
      · obtain ⟨rfl, hfirst⟩ := Lexeme.first_mark hk h rest
        exact ⟨x, [], rfl, not_isBlank_of_spelled h, by rw [List.nil_append, hfirst]; rfl,
          fun p ↦ by rw [List.nil_append, hfirst]; rfl⟩
  | name n =>
    obtain ⟨x, xs, hn, hx, hall⟩ := hw
    obtain rfl : cs = x :: xs := h.trans hn
    have hfirst := Lexeme.first_word hx (fun c hc ↦ hall c (.tail _ hc))
      (hends.head_eq fun k _ ↦ nofun)
    refine ⟨x, xs, rfl, Text.not_isBlank_of_isIdentifierChar (hall x (.head _)), by rw [hfirst],
      fun p ↦ ?_⟩
    rw [hfirst]
    have hkind := TokenKind.isName_keyword? hx xs
    have hvalue : String.ofList (x :: xs) = n := by rw [← hn, String.ofList_toList]
    simp only [Shown]
    exact ⟨hkind, hvalue⟩
  | comment d =>
    obtain ⟨before, behind, hbefore, hbehind, rfl⟩ := h
    have hfirst := Lexeme.first_comment (hw.not_infix hbefore hbehind) rest
    have hsplit : '*' :: (before ++ d.toList ++ behind ++ ['*', '/']) ++ rest =
        '*' :: (before ++ d.toList ++ behind ++ '*' :: '/' :: rest) := by simp
    refine ⟨'/', _, rfl, by decide, ?_, fun p ↦ ?_⟩
    · rw [hsplit, hfirst]
      simp only [List.length_cons, List.length_append, List.length_nil]
      omega
    · rw [hsplit, hfirst]
      exact ⟨rfl, hw.normalizeDoc_eq hbefore hbehind⟩

theorem spelled_text {w : Word} (hw : w.Proper) : w.Spelled w.text := by
  cases w with
  | fixed k =>
    have hsmall : ∀ k ∈ TokenKind.keywords ++ marks,
        k.label.toList.map Char.toLower = k.label.toList := by decide
    exact hsmall k hw
  | name n => rfl
  | comment d => exact ⟨[' '], [' '], Text.isBlank_space, Text.isBlank_space, rfl⟩

end Word

theorem written_spaced {ws : List Word} (hws : ∀ w ∈ ws, w.Proper) : Written ws (spaced ws) := by
  induction ws with
  | nil => exact .done nofun
  | cons w ws ih =>
    obtain ⟨hw, hws⟩ := List.forall_mem_cons.mp hws
    have hends : w.Ends (spaced ws) := by
      refine .inr fun c hc ↦ .inl ?_
      cases ws with
      | nil => cases hc
      | cons v ws =>
        cases hc
        decide
    exact .next Text.isBlank_space (Word.spelled_text hw) hends (ih hws)

end Grammar

end TwinDiagram
