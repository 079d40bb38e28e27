import TwinDiagram.Proofs.Text.Case
import TwinDiagram.Proofs.Token.Tiling

namespace TwinDiagram

namespace Text

theorem toList_toLower (v : String) : v.toLower.toList = v.toList.map Char.toLower :=
    String.toList_map

theorem toLower_toLower (c : Char) : c.toLower.toLower = c.toLower :=
  toLower_invariant Char.toLower (by decide) c

theorem isBlank_toLower (c : Char) : isBlank c.toLower = isBlank c :=
  toLower_invariant isBlank (by decide) c

theorem toLower_eq_iff {c d : Char} (hd : ¬ (97 ≤ d.toNat ∧ d.toNat ≤ 122)) (hd' : d.toLower = d) :
    c.toLower = d ↔ c = d :=
  ⟨fun h ↦ eq_of_toLower_eq h hd, fun h ↦ h ▸ hd'⟩

theorem casedBeside_toLower (cs : List Char) :
    casedBeside (cs.map Char.toLower) = casedBeside cs := by
  have hignored (c : Char) :
      inRanges caseIgnorableRanges c.toLower = inRanges caseIgnorableRanges c :=
    toLower_invariant _ (by decide +kernel) c
  have hcased (c : Char) : inRanges casedRanges c.toLower = inRanges casedRanges c :=
    toLower_invariant _ (by decide +kernel) c
  rw [casedBeside, casedBeside, List.dropWhile_map]
  simp only [Function.comp_def, hignored]
  cases cs.dropWhile (inRanges caseIgnorableRanges) with
  | nil => rfl
  | cons c cs => exact hcased c

theorem lowerChar_toLower (before : List Char) (c : Char) (rest : List Char) :
    lowerChar (before.map Char.toLower) c.toLower (rest.map Char.toLower) =
      lowerChar before c rest := by
  unfold lowerChar lowerSigma
  rw [casedBeside_toLower, casedBeside_toLower]
  rcases toLower_eq_or c with hc | ⟨-, hhigh, hc⟩
  · simp only [hc]
  · rw [if_pos (by omega), if_pos (by omega), toLower_toLower]

theorem lowerFrom_toLower (before cs : List Char) :
    lowerFrom (before.map Char.toLower) (cs.map Char.toLower) = lowerFrom before cs := by
  induction cs generalizing before with
  | nil => rfl
  | cons c cs ih =>
    rw [List.map_cons, lowerFrom, lowerFrom, lowerChar_toLower, ← List.map_cons, ih]

end Text

open Text

theorem punctuation?_toLower (c : Char) : punctuation? c.toLower = punctuation? c :=
  toLower_invariant punctuation? (by decide) c

theorem keyword?_toLower (cs : List Char) :
    TokenKind.keyword? (.ofList (cs.map Char.toLower)) = TokenKind.keyword? (.ofList cs) := by
  have hlower : Text.lower (.ofList (cs.map Char.toLower)) = Text.lower (.ofList cs) := by
    rw [lower, lower, String.toList_ofList, String.toList_ofList, lowerChars, lowerChars]
    exact congrArg String.ofList (lowerFrom_toLower [] cs)
  rw [TokenKind.keyword?, TokenKind.keyword?, hlower]

theorem Position.through_toLower (p : Position) (cs : List Char) :
    p.through (cs.map Char.toLower) = p.through cs := by
  induction cs generalizing p with
  | nil => rfl
  | cons c cs ih =>
    have hbreak : c.toLower = '\n' ↔ c = '\n' := toLower_eq_iff (by decide) rfl
    have hafter : p.after c.toLower = p.after c := by simp only [after, hbreak]
    show (p.after c.toLower).through (cs.map Char.toLower) = (p.after c).through cs
    rw [hafter, ih]

theorem commentBody_toLower (cs : List Char) :
    commentBody (cs.map Char.toLower) = (commentBody cs).map Char.toLower := by
  fun_induction commentBody cs with
  | case1 => rfl
  | case2 rest => rfl
  | case3 c rest hmark ih =>
    rw [List.map_cons, List.map_cons, commentBody, ih]
    intro later hc hrest
    obtain rfl := eq_of_toLower_eq hc (by decide)
    cases rest with
    | nil => cases hrest
    | cons d rest =>
      obtain rfl := eq_of_toLower_eq (List.cons.inj hrest).1 (by decide)
      exact hmark rest rfl rfl

def Lexeme.lowered (l : Lexeme) : Lexeme := ⟨l.kind, l.value.map Char.toLower, l.length⟩

theorem takeWhile_toLower {p : Char → Bool} (hp : ∀ c, p c.toLower = p c) (cs : List Char) :
    (cs.map Char.toLower).takeWhile p = (cs.takeWhile p).map Char.toLower := by
  rw [List.takeWhile_map]
  exact congrArg (fun p ↦ (cs.takeWhile p).map Char.toLower) (funext hp)

theorem Lexeme.first_toLower (x : Char) (rest : List Char) :
    first x.toLower (rest.map Char.toLower) = (first x rest).lowered := by
  have hbreak (c : Char) : (c.toLower != '\n') = (c != '\n') :=
    toLower_invariant (· != '\n') (by decide) c
  have hslash : x.toLower = '/' ↔ x = '/' := toLower_eq_iff (by decide) rfl
  have hsign : x.toLower = '#' ↔ x = '#' := toLower_eq_iff (by decide) rfl
  have hhead {d : Char} (hd : ¬ (97 ≤ d.toNat ∧ d.toNat ≤ 122)) (hd' : d.toLower = d) :
      (rest.map Char.toLower).head? = some d ↔ rest.head? = some d := by
    cases rest with
    | nil => rfl
    | cons c rest => simpa using toLower_eq_iff hd hd'
  have hfirst := isFirst x rest
  generalize first x rest = l at hfirst ⊢
  cases hfirst with
  | line ds =>
    have htake : ('/' :: '/' :: ds.map Char.toLower).takeWhile (· != '\n') =
        (('/' :: '/' :: ds).takeWhile (· != '\n')).map Char.toLower :=
      takeWhile_toLower hbreak ('/' :: '/' :: ds)
    refine (IsFirst.line (ds.map Char.toLower)).first_eq.trans ?_
    simp only [lineComment, htake, lowered, List.length_map]
  | block ds =>
    refine (IsFirst.block (ds.map Char.toLower)).first_eq.trans ?_
    simp only [blockComment, commentBody_toLower, lowered, List.length_map]
  | declaration _ =>
    have htake := takeWhile_toLower isIdentifierChar_toLower rest
    have hvalue : '#' :: (rest.takeWhile isIdentifierChar).map Char.toLower =
        ('#' :: rest.takeWhile isIdentifierChar).map Char.toLower := rfl
    refine (IsFirst.declaration _).first_eq.trans ?_
    simp only [declaration, htake, hvalue, keyword?_toLower, lowered, List.length_map]
  | word _ hstart =>
    have htake := takeWhile_toLower isIdentifierChar_toLower (x :: rest)
    rw [List.map_cons] at htake
    refine (IsFirst.word _ ((isIdentifierStart_toLower x).trans hstart)).first_eq.trans ?_
    simp only [word, htake, keyword?_toLower, lowered, List.length_map]
  | single hslashes hstar hsign' hstart =>
    refine (IsFirst.single ?_ ?_ ?_ ?_).first_eq.trans ?_
    · rwa [hslash, hhead (by decide) rfl]
    · rwa [hslash, hhead (by decide) rfl]
    · exact mt hsign.mp hsign'
    · rwa [isIdentifierStart_toLower]
    · rw [punctuation?_toLower]
      rfl

def Token.lowered (t : Token) : Token := ⟨t.kind, t.value.toLower, t.position⟩

theorem Token.lowered_endAt (p : Position) : (endAt p).lowered = endAt p :=
  congrArg (Token.mk .endOfInput · p) (String.map_eq_empty.mpr rfl)

theorem tokensAt_toLower (p : Position) (cs : List Char) :
    tokensAt p (cs.map Char.toLower) = (tokensAt p cs).map Token.lowered := by
  induction cs using text_induction generalizing p with
  | blank bs hbs =>
    have hbs' : ∀ c ∈ bs.map Char.toLower, isBlank c := by
      simpa [isBlank_toLower] using hbs
    rw [tokensAt_of_blank p hbs, tokensAt_of_blank p hbs', Position.through_toLower,
      List.map_singleton, Token.lowered_endAt]
  | lexeme bs x rest hbs hx ih =>
    have hbs' : ∀ c ∈ bs.map Char.toLower, isBlank c := by
      simpa [isBlank_toLower] using hbs
    have hvalue (v : List Char) :
        String.ofList (v.map Char.toLower) = (String.ofList v).toLower := by
      rw [← String.toList_inj, toList_toLower, String.toList_ofList, String.toList_ofList]
    rw [List.map_append, List.map_cons, tokensAt_append_cons p hbs' (isBlank_toLower x ▸ hx),
      tokensAt_append_cons p hbs hx, Lexeme.first_toLower, ← List.map_cons, ← List.map_take,
      ← List.map_drop, Position.through_toLower, Position.through_toLower, List.map_cons]
    simp only [Lexeme.lowered, ih, hvalue]
    rfl

end TwinDiagram
