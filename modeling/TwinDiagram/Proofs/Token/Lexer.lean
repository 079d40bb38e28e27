import Mathlib.Data.List.Infix
import TwinDiagram.Token.Comments
import TwinDiagram.Token.Lexer

namespace TwinDiagram

namespace TokenKind

theorem label_of_keyword? {word : String} {k : TokenKind} (h : keyword? word = some k) :
    k ∈ keywords ∧ k.label = Text.lower word := by
  unfold keyword? at h
  exact ⟨List.mem_of_find?_eq_some h, by simpa using List.find?_some h⟩

theorem getD_keyword?_ne {word : String} {k l : TokenKind} (hk : k ≠ l) (hl : l ∉ keywords) :
    (keyword? word).getD k ≠ l := by
  cases h : keyword? word with
  | none => exact hk
  | some j => exact fun hj ↦ hl (hj ▸ (label_of_keyword? h).1)

theorem getD_punctuation?_ne {c : Char} {l : TokenKind}
    (hl : l ∉ [unknown, openBrace, closeBrace, semicolon, dot, colon]) :
    (punctuation? c).getD unknown ≠ l := by
  simp only [List.mem_cons, List.not_mem_nil, or_false, not_or] at hl
  unfold punctuation?
  repeat' split
  all_goals simp only [Option.getD_some, Option.getD_none, ne_eq, eq_comm (b := l), hl,
    not_false_eq_true]

end TokenKind

namespace Lexeme

open TokenKind

theorem declaration_kind_ne {cs : List Char} {l : TokenKind} (hl : l ≠ .unknown)
    (hl' : l ∉ keywords) : (declaration cs).kind ≠ l := by
  simp only [declaration]
  exact getD_keyword?_ne hl.symm hl'

theorem word_kind_ne {cs : List Char} {l : TokenKind} (hl : l ≠ .identifier)
    (hl' : l ∉ keywords) : (word cs).kind ≠ l := by
  simp only [word]
  exact getD_keyword?_ne hl.symm hl'

/-- What the text `x :: cs` may start with; `x` is no blank. -/
inductive IsFirst : Char → List Char → Lexeme → Prop
  | line (ds : List Char) : IsFirst '/' ('/' :: ds) (lineComment ('/' :: '/' :: ds))
  | block (ds : List Char) : IsFirst '/' ('*' :: ds) (blockComment ds)
  | declaration (cs : List Char) : IsFirst '#' cs (declaration cs)
  | word {x : Char} (cs : List Char) (hstart : isIdentifierStart x) : IsFirst x cs (word (x :: cs))
  | single {x : Char} {cs : List Char} (hslashes : ¬ (x = '/' ∧ cs.head? = some '/'))
      (hstar : ¬ (x = '/' ∧ cs.head? = some '*')) (hsign : x ≠ '#')
      (hstart : isIdentifierStart x = false) :
      IsFirst x cs ⟨(punctuation? x).getD .unknown, [x], 1⟩

theorem isFirst (x : Char) (cs : List Char) : IsFirst x cs (first x cs) := by
  unfold first
  split
  · next hslashes =>
    obtain ⟨rfl, hcs⟩ : x = '/' ∧ cs.head? = some '/' := by simpa using hslashes
    obtain ⟨ds, rfl⟩ := List.head?_eq_some_iff.mp hcs
    exact .line ds
  next hslashes =>
  split
  · next hstar =>
    obtain ⟨rfl, hcs⟩ : x = '/' ∧ cs.head? = some '*' := by simpa using hstar
    obtain ⟨ds, rfl⟩ := List.head?_eq_some_iff.mp hcs
    exact .block ds
  next hstar =>
  split
  · next hsign => exact hsign ▸ .declaration cs
  next hsign =>
  split
  · next hstart => exact .word cs hstart
  · next hstart =>
    exact .single (by simpa using hslashes) (by simpa using hstar) hsign (by simpa using hstart)

theorem IsFirst.first_eq {x : Char} {cs : List Char} {l : Lexeme} (h : IsFirst x cs l) :
    first x cs = l := by
  cases h with
  | line ds => simp [first]
  | block ds => simp [first]
  | declaration cs => simp [first]
  | word cs hstart =>
    have hslash : x ≠ '/' := fun h ↦ absurd (h ▸ hstart) (by decide)
    have hsign : x ≠ '#' := fun h ↦ absurd (h ▸ hstart) (by decide)
    simp [first, hslash, hsign, hstart]
  | single hslashes hstar hsign hstart =>
    simp only [first, Bool.and_eq_true, decide_eq_true_eq, if_neg hslashes, if_neg hstar,
      if_neg hsign, hstart, Bool.false_eq_true, if_false]

theorem first_ne_endOfInput (c : Char) (rest : List Char) :
    (first c rest).kind ≠ .endOfInput := by
  have hfirst := isFirst c rest
  generalize first c rest = l at hfirst ⊢
  cases hfirst with
  | line _ => exact nofun
  | block _ => exact nofun
  | declaration _ => exact declaration_kind_ne nofun (by decide)
  | word _ _ => exact word_kind_ne nofun (by decide)
  | single _ _ _ _ => exact getD_punctuation?_ne (by decide)

theorem first_of_lineComment {c : Char} {rest : List Char}
    (h : (first c rest).kind = .lineComment) : first c rest = lineComment (c :: rest) := by
  have hfirst := isFirst c rest
  generalize first c rest = l at h hfirst ⊢
  cases hfirst with
  | line _ => rfl
  | block _ => cases h
  | declaration _ => exact absurd h (declaration_kind_ne nofun (by decide))
  | word _ _ => exact absurd h (word_kind_ne nofun (by decide))
  | single _ _ _ _ => exact absurd h (getD_punctuation?_ne (by decide))

end Lexeme

theorem commentBody_append {xs : List Char} (h : ¬ ['*', '/'] <:+: xs) (rest : List Char) :
    commentBody (xs ++ '*' :: '/' :: rest) = xs := by
  induction xs with
  | nil => rfl
  | cons x xs ih =>
    obtain ⟨hhead, htail⟩ := not_or.mp (mt List.infix_cons_iff.mpr h)
    rw [List.cons_append, commentBody, ih htail]
    rintro ys rfl hys
    cases xs with
    | nil => cases hys
    | cons y xs =>
      cases hys
      exact hhead ⟨xs, rfl⟩

theorem Lexeme.first_comment {xs : List Char} (h : ¬ ['*', '/'] <:+: xs) (rest : List Char) :
    first '/' ('*' :: (xs ++ '*' :: '/' :: rest)) = ⟨.blockComment, xs, 2 + xs.length + 2⟩ := by
  simp [first, blockComment, commentBody_append h]

/-- Two neighbours in a list stand in a part of it, or the second part starts with the second. -/
theorem pair_infix_append {α : Type} {x y : α} {xs ys : List α} (h : [x, y] <:+: xs ++ ys) :
    [x, y] <:+: xs ∨ [x, y] <:+: ys ∨ x ∈ xs ∧ ys.head? = some y := by
  rcases List.infix_append_iff_ne_nil.mp h with h | h | ⟨l, l', hne, hne', hl, hsuffix, hprefix⟩
  · exact .inl h
  · exact .inr (.inl h)
  · match l, hne with
    | [_], _ =>
      obtain ⟨rfl, rfl⟩ := List.cons.inj hl
      obtain ⟨later, rfl⟩ := hprefix
      exact .inr (.inr ⟨hsuffix.subset (.head _), rfl⟩)
    | _ :: _ :: l, _ =>
      have hnil : l ++ l' = [] := (List.cons.inj (List.cons.inj hl).2).2.symm
      exact absurd (List.append_eq_nil_iff.mp hnil).2 hne'

theorem drop_takeWhile {α : Type} (p : α → Bool) (xs : List α) :
    xs.drop (xs.takeWhile p).length = xs.dropWhile p := by
  conv => lhs; arg 2; rw [← List.takeWhile_append_dropWhile (p := p) (l := xs)]
  exact List.drop_left' rfl

theorem Cursor.rest_skipBlanks (c : Cursor) :
    c.skipBlanks.rest = c.rest.dropWhile Text.isBlank := by
  rw [skipBlanks, take, rest_forward, drop_takeWhile]

theorem Cursor.tokens_of_nil {c : Cursor} (h : c.skipBlanks.rest = []) :
    c.tokens.1 = [.endAt c.skipBlanks.position] := by
  rw [tokens]
  split
  · rfl
  · next hcons => rw [h] at hcons; cases hcons

theorem Cursor.tokens_of_cons {c : Cursor} {x : Char} {rest : List Char}
    (h : c.skipBlanks.rest = x :: rest) : c.tokens.1 =
      ⟨(Lexeme.first x rest).kind, .ofList (Lexeme.first x rest).value, c.skipBlanks.position⟩ ::
        (c.skipBlanks.forward (Lexeme.first x rest).length).tokens.1 := by
  rw [tokens]
  split
  · next hnil => rw [h] at hnil; cases hnil
  · next hcons => rw [h] at hcons; cases hcons; rfl

theorem Cursor.tokens_eq (c : Cursor) : ∃ ts p, c.tokens.1 = ts ++ [.endAt p] ∧
    ∀ t ∈ ts, ∃ x rest, t.kind = (Lexeme.first x rest).kind ∧
      t.value = .ofList (Lexeme.first x rest).value := by
  fun_induction Cursor.tokens c with
  | case1 c hrest => exact ⟨[], _, rfl, nofun⟩
  | case2 c x rest hrest found later ih =>
    obtain ⟨ts, p, hts, hlexeme⟩ := ih
    refine ⟨_ :: ts, p, congrArg _ hts, ?_⟩
    rintro t (_ | ⟨_, ht⟩)
    · exact ⟨x, rest, rfl, rfl⟩
    · exact hlexeme t ht

theorem tokenize_eq (text : String) : ∃ ts p, tokenize text = ts ++ [.endAt p] ∧
    ∀ t ∈ ts, t.kind ≠ .endOfInput := by
  obtain ⟨ts, p, hts, hlexeme⟩ := Cursor.tokens_eq (.ofText text)
  refine ⟨ts, p, hts, fun t ht ↦ ?_⟩
  obtain ⟨x, rest, hkind, -⟩ := hlexeme t ht
  exact hkind ▸ Lexeme.first_ne_endOfInput x rest

namespace Token

theorem dropComments_concat (previous : Option TokenKind) (ts : List Token) (p : Position) :
    dropComments previous (ts ++ [.endAt p]) = dropComments previous ts ++ [.endAt p] := by
  induction ts generalizing previous with
  | nil => rfl
  | cons t ts ih =>
    simp only [List.cons_append, dropComments, ih]
    split <;> rfl

theorem dropComments_sublist (previous : Option TokenKind) (ts : List Token) :
    (dropComments previous ts).Sublist ts := by
  induction ts generalizing previous with
  | nil => exact List.Sublist.refl _
  | cons t ts ih =>
    unfold dropComments
    split
    · exact (ih previous).cons t
    · exact (ih _).cons_cons t

theorem dropComments_prefix (previous : Option TokenKind) {ts us : List Token} (h : ts <+: us) :
    dropComments previous ts <+: dropComments previous us := by
  induction ts generalizing previous us with
  | nil => exact List.nil_prefix
  | cons t ts ih =>
    obtain ⟨vs, rfl⟩ := h
    have hrest : ts <+: ts ++ vs := List.prefix_append _ _
    rw [List.cons_append]
    unfold dropComments
    split
    · exact ih previous hrest
    · exact (List.cons_prefix_cons).mpr ⟨rfl, ih _ hrest⟩

theorem kind_ne_lineComment {previous : Option TokenKind} {ts : List Token} {t : Token}
    (h : t ∈ dropComments previous ts) : t.kind ≠ .lineComment := by
  induction ts generalizing previous with
  | nil => cases h
  | cons u ts ih =>
    unfold dropComments at h
    split at h
    · exact ih h
    · next hu =>
      rcases List.mem_cons.mp h with rfl | h
      · exact fun ht ↦ hu (by simp [ht])
      · exact ih h

end Token

end TwinDiagram
