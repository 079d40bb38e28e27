import TwinDiagram.Proofs.Token.Lexer

namespace TwinDiagram

/-- A name as it can be written: identifier characters, a letter, digit or underscore first. -/
def IsIdentifier (s : String) : Prop :=
  ∃ c cs, s.toList = c :: cs ∧ isIdentifierStart c ∧ ∀ x ∈ c :: cs, isIdentifierChar x

instance (s : String) : Decidable (IsIdentifier s) :=
  decidable_of_iff (s.toList.head?.any isIdentifierStart ∧ s.toList.all isIdentifierChar) <| by
    unfold IsIdentifier
    cases s.toList with
    | nil => simp
    | cons c cs => simp [and_assoc]

theorem IsIdentifier.not_mem {s : String} (h : IsIdentifier s) {c : Char}
    (hc : isIdentifierChar c = false) : c ∉ s.toList := by
  obtain ⟨x, xs, hs, -, hall⟩ := h
  intro hmem
  have := hall c (hs ▸ hmem)
  simp [hc] at this

namespace TokenKind

theorem head?_label {k : TokenKind} : k ∈ keywords →
    (k.label.toList.head? = some '#' ↔ k ∈ declarations) := by
  cases k <;> decide

theorem lower_numberSign (cs : List Char) :
    (Text.lower (.ofList ('#' :: cs))).toList.head? = some '#' := by
  simp [Text.lower, Text.lowerChars, Text.lowerFrom, Text.lowerChar]

theorem not_isName_of_declaration {k : TokenKind} : k ∈ declarations → k.isName = false := by
  cases k <;> decide

end TokenKind

open TokenKind

namespace Lexeme

theorem not_isName_declaration (cs : List Char) : (declaration cs).kind.isName = false := by
  simp only [declaration]
  cases hk : keyword? (.ofList ('#' :: cs.takeWhile isIdentifierChar)) with
  | none => rfl
  | some k =>
    obtain ⟨hmem, hlabel⟩ := label_of_keyword? hk
    refine not_isName_of_declaration ((head?_label hmem).mp ?_)
    rw [hlabel, lower_numberSign]

theorem not_isName_punctuation (c : Char) : ((punctuation? c).getD .unknown).isName = false := by
  unfold punctuation?
  repeat' split
  all_goals rfl

theorem isIdentifier_word {c : Char} {rest : List Char} (hc : isIdentifierStart c) :
    IsIdentifier (.ofList (word (c :: rest)).value) := by
  have hc' : isIdentifierChar c := by simp [isIdentifierChar, hc]
  refine ⟨c, rest.takeWhile isIdentifierChar, ?_, hc, fun x hx ↦ ?_⟩
  · simp [word, hc']
  · rcases List.mem_cons.mp hx with rfl | hx
    · exact hc'
    · exact List.all_eq_true.mp List.all_takeWhile x hx

theorem isIdentifier_of_isName {c : Char} {rest : List Char}
    (h : (first c rest).kind.isName) : IsIdentifier (.ofList (first c rest).value) := by
  have hfirst := isFirst c rest
  generalize first c rest = l at h hfirst ⊢
  cases hfirst with
  | line _ => cases h
  | block _ => cases h
  | declaration _ =>
    rw [not_isName_declaration] at h
    cases h
  | word _ hstart => exact isIdentifier_word hstart
  | single _ _ _ _ =>
    rw [not_isName_punctuation] at h
    cases h

end Lexeme

theorem isIdentifier_of_mem_tokenize {text : String} {t : Token} (h : t ∈ tokenize text)
    (hk : t.kind.isName) : IsIdentifier t.value := by
  obtain ⟨ts, p, hts, hlexeme⟩ := Cursor.tokens_eq (.ofText text)
  rw [tokenize, hts] at h
  rcases List.mem_append.mp h with ht | hend
  · obtain ⟨x, rest, hkind, hvalue⟩ := hlexeme t ht
    rw [hvalue]
    exact Lexeme.isIdentifier_of_isName (hkind ▸ hk)
  · rw [List.mem_singleton.mp hend] at hk
    cases hk

end TwinDiagram
