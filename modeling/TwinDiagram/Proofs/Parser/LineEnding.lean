import Mathlib.Data.List.DropRight
import TwinDiagram.Proofs.Parser.Note
import TwinDiagram.Proofs.Parser.Carries
import TwinDiagram.Proofs.Token.LineEnding

namespace TwinDiagram

namespace Text

/-- A carriage return at the end of a line parts no words that the line feed does not part. -/
theorem pieces_returned (cs : List Char) : ∃ w ws ws', pieces cs = w :: ws ∧
    pieces (returned cs) = w :: ws' ∧ ws'.filter (! ·.isEmpty) = ws.filter (! ·.isEmpty) := by
  induction cs with
  | nil => exact ⟨[], [], [], rfl, rfl, rfl⟩
  | cons c cs ih =>
    obtain ⟨w, ws, ws', hcs, hcs', hws⟩ := ih
    by_cases hbreak : c = '\n'
    · subst hbreak
      refine ⟨[], w :: ws, [] :: w :: ws', congrArg _ hcs, ?_, ?_⟩
      · exact congrArg (fun ws ↦ [] :: [] :: ws) hcs'
      · simp [List.filter_cons, hws]
    · rw [pieces] at hcs hcs'
      simp only [returned_cons hbreak, pieces, splitBy, hcs, hcs']
      split
      · exact ⟨[], w :: ws, w :: ws', rfl, rfl, by simp [List.filter_cons, hws]⟩
      · exact ⟨c :: w, ws, ws', rfl, rfl, hws⟩

theorem words_returned (cs : List Char) : words (returned cs) = words cs := by
  obtain ⟨w, ws, ws', hcs, hcs', hws⟩ := pieces_returned cs
  rw [words, words, hcs, hcs', List.filter_cons, List.filter_cons, hws]

end Text

namespace Parser

open Program State

theorem normalizeDoc_of_words {u v : String} (h : Text.words u.toList = Text.words v.toList) :
    normalizeDoc u = normalizeDoc v := by
  rw [normalizeDoc, h, normalizeDoc]

theorem normalizeDoc_getD (v : String) :
    normalizeDoc ((normalizeDoc v).getD "") = normalizeDoc v := by
  apply normalizeDoc_of_words
  have hwords := Text.words_joinWith_words v.toList
  unfold normalizeDoc
  split
  · next hnil => rw [hnil]; rfl
  · rwa [Option.getD_some, String.toList_ofList]

theorem nameInComment_rdropWhile (v : List Char) :
    nameInComment (v.rdropWhile (· == '\r')) = nameInComment v := by
  induction v using List.reverseRecOn with
  | nil => rfl
  | append_singleton v c ih =>
    by_cases hc : c = '\r'
    · subst hc
      have hnote : nameInComment (v ++ ['\r']) = (nameInComment v <|> nameInComment ['\r']) :=
        nameInComment_append rfl (by simp [skipBlanks]) v
      rw [List.rdropWhile_concat_pos _ _ _ rfl, ih, hnote]
      cases nameInComment v <;> rfl
    · rw [List.rdropWhile_concat_neg _ _ _ (by simpa using hc)]

def tidy : TokenKind → String → String
  | .blockComment, v => (normalizeDoc v).getD ""
  | .lineComment, v => .ofList (v.toList.rdropWhile (· == '\r'))
  | _, v => v

theorem tidy_of_isName {k : TokenKind} (hk : k.isName) (v : String) : tidy k v = v := by
  cases k <;> first | rfl | cases hk

def tidied : Translation :=
  .keepLetters tidy id tidy_of_isName normalizeDoc_getD rfl Translation.column_id
    Translation.start_id

theorem tidied_fits (ts : List Token) : tidied.Fits (Token.lineComments ts) := by
  refine tidied.fits_lineComments (fun _ ↦ rfl) (fun v ↦ ?_) ts
  have hvalue : tidied.value .lineComment v = tidy .lineComment v := rfl
  have hletter : tidied.letter = id := rfl
  rw [hvalue, tidy, String.toList_ofList, nameInComment_rdropWhile, hletter]
  simp

theorem tidied_lineComment (v : List Char) (p : Position) :
    tidied.token ⟨.lineComment, .ofList (v ++ ['\r']), p⟩ = tidied.token ⟨.lineComment,
      .ofList v, p⟩ := by
  have hvalue : tidy .lineComment (.ofList (v ++ ['\r'])) = tidy .lineComment (.ofList v) := by
    rw [tidy, tidy, String.toList_ofList, String.toList_ofList,
      List.rdropWhile_concat_pos _ _ _ rfl]
  exact congrArg (Token.mk .lineComment · p) hvalue

theorem tidied_blockComment (v : List Char) (p : Position) :
    tidied.token ⟨.blockComment, .ofList (Text.returned v), p⟩ =
      tidied.token ⟨.blockComment, .ofList v, p⟩ := by
  have hvalue : tidy .blockComment (.ofList (Text.returned v)) =
      tidy .blockComment (.ofList v) := by
    rw [tidy, tidy, normalizeDoc_of_words (v := .ofList v)]
    rw [String.toList_ofList, String.toList_ofList, Text.words_returned]
  exact congrArg (Token.mk .blockComment · p) hvalue

theorem map_tidied_tokenize (text : String) :
    (tokenize (.ofList (Text.returned text.toList))).map tidied.token =
      (tokenize text).map tidied.token := by
  rw [tokenize, Cursor.ofText, String.toList_ofList]
  exact map_tokensAt_returned tidied_lineComment tidied_blockComment .start text.toList

/-- With a carriage return in front of every line feed a text is read as the same model, and the
diagnostics are about the same and stand at the same places. -/
theorem lineEnding_inert (text : String) : ∃ m s s', readText text = (.ok m, s) ∧
    readText (.ofList (Text.returned text.toList)) = (.ok m, s') ∧
    s'.diagnostics.map Diagnostic.mark = s.diagnostics.map Diagnostic.mark := by
  obtain ⟨m, s, s', hrun, hrun', hfindings⟩ :=
    Translation.exists_run_document rfl (map_tidied_tokenize text).symm (tidied_fits _)
      (tidied_fits _)
  refine ⟨m, s, s', hrun, hrun', ?_⟩
  have hmark := tidied.mark_finding fun _ ↦ rfl
  rw [tidied.map_diagnostics hmark, tidied.map_diagnostics hmark, hfindings]

end Parser

end TwinDiagram
