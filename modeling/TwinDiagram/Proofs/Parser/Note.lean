import TwinDiagram.Parser.Statement
import TwinDiagram.Proofs.Text.Case
import TwinDiagram.Proofs.Token.Region

namespace TwinDiagram.Parser

section

variable {b : Char} {ds : List Char}

/-- A word goes on across no blank. -/
theorem dropWord_append_blank (hb : Text.isBlank b) {word : List Char}
    (hword : word.all (! Text.isBlank ·)) (cs ds : List Char) :
    dropWord word (cs ++ b :: ds) = (dropWord word cs).map (· ++ b :: ds) := by
  induction word generalizing cs with
  | nil => simp [dropWord]
  | cons w word ih =>
    rw [List.all_cons, Bool.and_eq_true] at hword
    obtain ⟨hw, hword⟩ := hword
    cases cs with
    | nil =>
      have hne : b.toLower ≠ w := by
        rw [Text.toLower_of_isBlank hb]
        rintro rfl
        rw [hb] at hw
        cases hw
      simp [dropWord, hne]
    | cons c cs =>
      simp only [List.cons_append, dropWord, ih hword]
      split <;> rfl

theorem skipBlanks_append_blank (hb : Text.isBlank b) (cs ds : List Char) :
    skipBlanks (cs ++ b :: ds) = skipBlanks cs ++ b :: ds ∨
      skipBlanks cs = [] ∧ skipBlanks (cs ++ b :: ds) = skipBlanks ds := by
  have hskip : skipBlanks (b :: ds) = skipBlanks ds := List.dropWhile_cons_of_pos hb
  rw [skipBlanks, skipBlanks, List.dropWhile_append]
  split
  · next hnil => exact .inr ⟨by simpa using hnil, hskip⟩
  · exact .inl rfl

/-- Blanks at the end go on to a slash or to nothing, and no word of a note starts there. -/
theorem dropWord_skipBlanks_append (hb : Text.isBlank b)
    (hds : ∀ c ∈ (skipBlanks ds).head?, c = '/')
    {w : Char} {word : List Char} (hword : (w :: word).all (! Text.isBlank ·)) (hw : w ≠ '/')
    (cs : List Char) : dropWord (w :: word) (skipBlanks (cs ++ b :: ds)) =
      (dropWord (w :: word) (skipBlanks cs)).map (· ++ b :: ds) := by
  rcases skipBlanks_append_blank hb cs ds with h | ⟨hnil, h⟩
  · rw [h, dropWord_append_blank hb hword]
  · rw [h, hnil]
    cases hrest : skipBlanks ds with
    | nil => rfl
    | cons c rest =>
      obtain rfl : c = '/' := hds c (hrest ▸ rfl)
      have hslash : '/'.toLower = '/' := rfl
      simp [dropWord, hslash, hw.symm]

/-- A note goes on across no blank at the end, nor across one with a slash behind it. -/
theorem nameNote_append (hb : Text.isBlank b) (hds : ∀ c ∈ (skipBlanks ds).head?, c = '/')
    (cs : List Char) : nameNote (cs ++ b :: ds) = nameNote cs := by
  have hslashes : dropWord "//".toList (cs ++ b :: ds) =
      (dropWord "//".toList cs).map (· ++ b :: ds) :=
    dropWord_append_blank hb rfl cs ds
  unfold nameNote
  rw [hslashes]
  cases dropWord "//".toList cs with
  | none => rfl
  | some cs₁ =>
    have hname : dropWord "name".toList (skipBlanks (cs₁ ++ b :: ds)) =
        (dropWord "name".toList (skipBlanks cs₁)).map (· ++ b :: ds) :=
      dropWord_skipBlanks_append hb hds rfl (by decide) cs₁
    simp only [Option.map_some, Option.bind_eq_bind, Option.bind_some, hname]
    cases dropWord "name".toList (skipBlanks cs₁) with
    | none => rfl
    | some cs₂ =>
      have hcolon : dropWord ":".toList (skipBlanks (cs₂ ++ b :: ds)) =
          (dropWord ":".toList (skipBlanks cs₂)).map (· ++ b :: ds) :=
        dropWord_skipBlanks_append hb hds rfl (by decide) cs₂
      simp only [Option.map_some, Option.bind_some, hcolon]
      cases dropWord ":".toList (skipBlanks cs₂) with
      | none => rfl
      | some cs₃ =>
        have hstop : (Text.isWordChar b || b == '-') = false :=
          Text.not_isIdentifierChar_of_isBlank hb
        simp only [Option.map_some, Option.bind_some]
        rcases skipBlanks_append_blank hb cs₃ ds with h | ⟨hnil, h⟩
        · rw [h, Lexeme.takeWhile_append_stop hstop]
        · rw [h, hnil]
          cases hrest : skipBlanks ds with
          | nil => rfl
          | cons c rest =>
            obtain rfl : c = '/' := hds c (hrest ▸ rfl)
            rfl

theorem nameInComment_append (hb : Text.isBlank b) (hds : ∀ c ∈ (skipBlanks ds).head?, c = '/')
    (cs : List Char) :
    nameInComment (cs ++ b :: ds) = (nameInComment cs <|> nameInComment (b :: ds)) := by
  induction cs with
  | nil => rfl
  | cons c cs ih =>
    have hnote : nameNote (c :: (cs ++ b :: ds)) = nameNote (c :: cs) :=
      nameNote_append hb hds (c :: cs)
    rw [List.cons_append, nameInComment, nameInComment, hnote, ih]
    cases nameNote (c :: cs) <;> rfl

end

end TwinDiagram.Parser
