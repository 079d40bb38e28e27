import TwinDiagram.Proofs.Grammar.Words
import TwinDiagram.Proofs.Token.Shape

namespace TwinDiagram

open TokenKind

namespace TokenKind

variable {k : TokenKind} {v : String}

def punctuation : List TokenKind := [openBrace, closeBrace, semicolon, dot, colon]

theorem map_toLower_of_lower (hk : k ∈ keywords) (h : Text.lower v = k.label) :
    v.toList.map Char.toLower = k.label.toList := by
  have hlower : Text.lowerFrom [] v.toList = k.label.toList := by
    rw [← h, Text.lower, Text.lowerChars, String.toList_ofList]
  have hlabel : ∀ d ∈ k.label.toList, d.toNat < 0x80 ∧ d.toNat ≠ 0x6b ∧ d.toNat ≠ 0 := by
    have hall : k.label.toList.all fun d ↦ d.toNat < 0x80 && d.toNat != 0x6b && d.toNat != 0 := by
      revert hk
      cases k <;> decide
    simpa [and_assoc] using hall
  rw [← hlower, Text.lowerFrom_of_ascii (Text.ascii_of_lowerFrom (hlower ▸ hlabel))]

end TokenKind

/-- What tokens of a kind may hold; the end of a text holds nothing. -/
inductive IsLexeme : TokenKind → String → Prop
  | identifier {v : String} : IsIdentifier v → keyword? v = none → IsLexeme .identifier v
  | keyword {k : TokenKind} {v : String} : k ∈ keywords → Text.lower v = k.label → IsLexeme k v
  | punctuation {k : TokenKind} : k ∈ punctuation → IsLexeme k k.label
  | lineComment {v : String} : ['/', '/'] <+: v.toList → '\n' ∉ v.toList → IsLexeme .lineComment v
  | blockComment {v : String} : ¬ ['*', '/'] <:+: v.toList → IsLexeme .blockComment v
  | sign {cs : List Char} : (∀ c ∈ cs, isIdentifierChar c) → keyword? (.ofList ('#' :: cs)) = none →
      IsLexeme .unknown (.ofList ('#' :: cs))
  | stray {c : Char} : Text.isBlank c = false → isIdentifierStart c = false → c ≠ '#' →
      punctuation? c = none → IsLexeme .unknown (.ofList [c])

def IsLexeme.print (k : TokenKind) (v : String) : List Char :=
  if k = .blockComment then '/' :: '*' :: (v.toList ++ ['*', '/']) else v.toList

namespace IsLexeme

variable {k : TokenKind} {v : String}

/-- In front of a line break a printed lexeme ends. -/
theorem first_print (h : IsLexeme k v) : ∃ x xs, print k v = x :: xs ∧ Text.isBlank x = false ∧
    ∀ rest, Lexeme.first x (xs ++ '\n' :: rest) = ⟨k, v.toList, (x :: xs).length⟩ := by
  have hbreak (rest : List Char) : ∀ c ∈ ('\n' :: rest).head?, isIdentifierChar c = false := by
    rintro c ⟨⟩
    rfl
  cases h with
  | identifier hv hkeyword =>
    obtain ⟨x, xs, hlist, hx, hall⟩ := hv
    refine ⟨x, xs, hlist, Text.not_isBlank_of_isIdentifierChar (hall x (.head _)), fun rest ↦ ?_⟩
    rw [Lexeme.first_word hx (fun c hc ↦ hall c (.tail _ hc)) (hbreak rest), ← hlist,
      String.ofList_toList, hkeyword]
    rfl
  | keyword hk hlower =>
    have hspelled := map_toLower_of_lower hk hlower
    have hprint : print k v = v.toList := by
      refine if_neg ?_
      rintro rfl
      exact absurd hk (by decide)
    cases hlist : v.toList with
    | nil =>
      rw [hlist] at hspelled
      cases k <;> cases hspelled
    | cons x xs =>
      rw [hlist] at hspelled hprint
      exact ⟨x, xs, hprint, not_isBlank_of_spelled hspelled,
        fun rest ↦ Lexeme.first_keyword hk hspelled (hbreak rest)⟩
  | punctuation hk =>
    simp only [TokenKind.punctuation, List.mem_cons, List.not_mem_nil, or_false] at hk
    rcases hk with rfl | rfl | rfl | rfl | rfl <;>
      exact ⟨_, [], rfl, by decide, fun rest ↦ rfl⟩
  | lineComment hslashes hnote =>
    obtain ⟨note, hlist⟩ := hslashes
    refine ⟨'/', '/' :: note, hlist.symm, by decide, fun rest ↦ ?_⟩
    have hfree : '\n' ∉ note := fun hmem ↦ hnote (hlist ▸ List.mem_append_right _ hmem)
    rw [Lexeme.first_lineComment hfree (by rintro c ⟨⟩; rfl), ← hlist]
    rfl
  | blockComment hbody =>
    refine ⟨'/', '*' :: (v.toList ++ ['*', '/']), rfl, by decide, fun rest ↦ ?_⟩
    rw [Lexeme.first_blockComment hbody]
    simp
    omega
  | @sign cs hcs hkeyword =>
    refine ⟨'#', cs, String.toList_ofList, by decide, fun rest ↦ ?_⟩
    rw [Lexeme.first_declaration hcs (hbreak rest), hkeyword, String.toList_ofList]
    rfl
  | @stray c hblank hstart hsign hmark =>
    refine ⟨c, [], String.toList_ofList, hblank, fun rest ↦ ?_⟩
    simp [Lexeme.first, hstart, hsign, hmark]

end IsLexeme

namespace Token

def printAll (ts : List Token) : String :=
  .ofList (ts.flatMap fun t ↦ IsLexeme.print t.kind t.value ++ ['\n'])

variable {ts : List Token}

theorem spelling_tokensAt_printAll (h : ∀ t ∈ ts, IsLexeme t.kind t.value) (p : Position) :
    (tokensAt p (printAll ts).toList).map spelling = ts.map spelling ++ [(.endOfInput, "")] := by
  rw [printAll, String.toList_ofList]
  induction ts generalizing p with
  | nil =>
    rw [List.flatMap_nil, tokensAt_of_blank p (List.forall_mem_nil _)]
    rfl
  | cons t ts ih =>
    obtain ⟨ht, hts⟩ := List.forall_mem_cons.mp h
    obtain ⟨x, xs, hprint, hx, hfirst⟩ := ht.first_print
    generalize hrest : (ts.flatMap fun t ↦ IsLexeme.print t.kind t.value ++ ['\n']) = rest at ih
    have hlength : (Lexeme.first x (xs ++ '\n' :: rest)).length = (x :: xs).length := by rw [hfirst]
    have htokens := tokensAt_lexeme p (List.forall_mem_nil _) hx hlength
    rw [List.nil_append] at htokens
    rw [List.flatMap_cons, hrest, hprint, List.append_assoc, List.cons_append,
      List.singleton_append, htokens, hfirst, ← List.singleton_append (l := rest),
      tokensAt_append_blank _ Text.isBlank_newline, List.map_cons, ih hts, String.ofList_toList]
    rfl

/-- The tokens of a printed list are those of the list and the end of the text. -/
theorem tokenize_printAll (h : ∀ t ∈ ts, IsLexeme t.kind t.value) :
    (tokenize (printAll ts)).map (fun t ↦ (t.kind, t.value)) =
      ts.map (fun t ↦ (t.kind, t.value)) ++ [(.endOfInput, "")] :=
  spelling_tokensAt_printAll h .start

/-- Comments that start with a slash or end with a star, and signs that start neither comment nor
keyword. -/
theorem tokenize_printAll_of_slashes :
    let ts : List Token := [⟨.unknown, "/", .start⟩, ⟨.blockComment, "/ //*", .start⟩,
      ⟨.unknown, "*", .start⟩, ⟨.lineComment, "// */ /*", .start⟩, ⟨.blockComment, "", .start⟩,
      ⟨.root, "#DarTwin", .start⟩, ⟨.unknown, "#dartwin-", .start⟩, ⟨.unknown, "#", .start⟩,
      ⟨.identifier, "goal", .start⟩, ⟨.dot, ".", .start⟩, ⟨.towards, "tO", .start⟩,
      ⟨.unknown, "-", .start⟩]
    (∀ t ∈ ts, IsLexeme t.kind t.value) ∧
      (tokenize (printAll ts)).map (fun t ↦ (t.kind, t.value)) =
        ts.map (fun t ↦ (t.kind, t.value)) ++ [(.endOfInput, "")] := by
  intro ts
  have hts : ∀ t ∈ ts, IsLexeme t.kind t.value := by
    simp only [ts, List.forall_mem_cons]
    exact ⟨.stray (by decide) (by decide) (by decide) rfl, .blockComment (by decide),
      .stray (by decide) (by decide) (by decide) rfl, .lineComment (by decide) (by decide),
      .blockComment (by decide), .keyword (by decide) rfl,
      @IsLexeme.sign "dartwin-".toList (List.all_eq_true.mp rfl) (by decide),
      @IsLexeme.sign [] (List.forall_mem_nil _) (by decide),
      .identifier (by decide) (by decide), .punctuation (by decide), .keyword (by decide) rfl,
      .stray (by decide) (by decide) (by decide) rfl, List.forall_mem_nil _⟩
  exact ⟨hts, tokenize_printAll hts⟩

end Token

end TwinDiagram
