import TwinDiagram.Proofs.Parser.Carries
import TwinDiagram.Proofs.Token.LetterCase

namespace TwinDiagram.Parser

open Program State Text

theorem dropWord_toLower (word cs : List Char) :
    dropWord word (cs.map Char.toLower) = (dropWord word cs).map (·.map Char.toLower) := by
  induction word generalizing cs with
  | nil => simp [dropWord]
  | cons w word ih =>
    cases cs with
    | nil => rfl
    | cons c cs =>
      rw [List.map_cons, dropWord, dropWord, toLower_toLower, ih]
      split <;> rfl

theorem skipBlanks_toLower (cs : List Char) :
    skipBlanks (cs.map Char.toLower) = (skipBlanks cs).map Char.toLower := by
  rw [skipBlanks, List.dropWhile_map]
  exact congrArg (fun p ↦ (cs.dropWhile p).map Char.toLower) (funext isBlank_toLower)

/-- The words of a note are read in any case. -/
theorem nameNote_toLower (cs : List Char) :
    nameNote (cs.map Char.toLower) = (nameNote cs).map (·.map Char.toLower) := by
  unfold nameNote
  rw [dropWord_toLower]
  cases dropWord "//".toList cs with
  | none => rfl
  | some cs₁ =>
    simp only [Option.map_some, Option.bind_eq_bind, Option.bind_some, skipBlanks_toLower,
      dropWord_toLower]
    cases dropWord "name".toList (skipBlanks cs₁) with
    | none => rfl
    | some cs₂ =>
      simp only [Option.map_some, Option.bind_some, skipBlanks_toLower, dropWord_toLower]
      cases dropWord ":".toList (skipBlanks cs₂) with
      | none => rfl
      | some cs₃ =>
        have htake : ((skipBlanks cs₃).map Char.toLower).takeWhile (fun c ↦
          isWordChar c || c == '-') =
            ((skipBlanks cs₃).takeWhile fun c ↦ isWordChar c || c == '-').map Char.toLower :=
          takeWhile_toLower isIdentifierChar_toLower _
        simp only [Option.map_some, Option.bind_some, skipBlanks_toLower, htake]
        cases (skipBlanks cs₃).takeWhile fun c ↦ isWordChar c || c == '-' <;> rfl

theorem nameInComment_toLower (cs : List Char) :
    nameInComment (cs.map Char.toLower) = (nameInComment cs).map (·.map Char.toLower) := by
  induction cs with
  | nil => rfl
  | cons c cs ih =>
    rw [List.map_cons, nameInComment, ih, ← List.map_cons, nameNote_toLower, nameInComment]
    cases nameNote (c :: cs) <;> rfl

theorem normalizeDoc_toLower (v : String) :
    normalizeDoc v.toLower = (normalizeDoc v).map String.toLower := by
  have hwords : words v.toLower.toList = (words v.toList).map (·.map Char.toLower) := by
    rw [toList_toLower, words_map isBlank_toLower]
  have hjoin (ws : List (List Char)) :
    String.ofList (joinWith [' '] (ws.map (·.map Char.toLower))) =
      (String.ofList (joinWith [' '] ws)).toLower := by
    rw [← String.toList_inj, toList_toLower, String.toList_ofList, String.toList_ofList,
      joinWith_eq_intercalate, joinWith_eq_intercalate, map_intercalate]
    rfl
  rw [normalizeDoc, hwords, normalizeDoc]
  cases words v.toList with
  | nil => rfl
  | cons w ws => exact congrArg some (hjoin (w :: ws))

def lowered : Translation where
  letter := Char.toLower
  value _ v := v.toLower
  position := id
  name _ _ := rfl
  doc := normalizeDoc_toLower
  keyword k hk := by
    have hlabel : ∀ k ∈ TokenKind.keywords, k.label.toList.map Char.toLower = k.label.toList := by
      decide
    rw [← String.toList_inj, String.toList_map, hlabel k hk]
  space := rfl
  dot := rfl
  nothing := String.map_eq_empty.mpr rfl
  column := Translation.column_id
  start := Translation.start_id

theorem lowered_fits (ts : List Token) : lowered.Fits (Token.lineComments ts) := by
  refine lowered.fits_lineComments (fun _ ↦ rfl) (fun v ↦ ?_) ts
  have hvalue : (lowered.value .lineComment v).toList = v.toList.map Char.toLower :=
    toList_toLower v
  rw [hvalue]
  exact nameInComment_toLower v.toList

theorem tokenize_toLower (text : String) :
    tokenize text.toLower = (tokenize text).map lowered.token := by
  rw [tokenize, Cursor.ofText, toList_toLower]
  exact tokensAt_toLower .start text.toList

/-- In lower case a text is read as its model in lower case, and the diagnostics are about the same
and stand at the same places. -/
theorem readText_toLower (text : String) : ∃ m s s', readText text = (.ok m, s) ∧
    readText text.toLower = (.ok (m.respell String.toLower), s') ∧
    s'.diagnostics.map Diagnostic.mark = s.diagnostics.map Diagnostic.mark := by
  obtain ⟨m, s, hrun⟩ := document_ok (.ofTokens (tokenize text))
  have hlower := Translation.run_document_map (lowered_fits (tokenize text))
  rw [← tokenize_toLower, hrun] at hlower
  refine ⟨m, s, lowered.state s, hrun, hlower, ?_⟩
  rw [lowered.map_diagnostics (lowered.mark_finding fun _ ↦ rfl) s, ← Translation.findings_state,
    State.diagnostics, List.map_map]
  rfl

end TwinDiagram.Parser
