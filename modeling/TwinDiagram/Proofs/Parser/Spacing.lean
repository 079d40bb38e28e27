import TwinDiagram.Proofs.Parser.Carries
import TwinDiagram.Proofs.Token.Shape

namespace TwinDiagram

/-- What a diagnostic says, wherever that is. -/
def Diagnostic.content (d : Diagnostic) : Severity × DiagnosticCode × String × Option String :=
  (d.severity, d.code, d.message, d.reference)

namespace Parser

open Program State

def gathered : Translation :=
  .keepLetters (fun _ v ↦ v) (fun _ ↦ .start) (fun _ _ ↦ rfl) (fun _ ↦ rfl) rfl (fun _ ↦ rfl) rfl

theorem map_gathered {ts us : List Token} (h : ts.map Token.spelling = us.map Token.spelling) :
    ts.map gathered.token = us.map gathered.token := by
  have hspelling : gathered.token = (fun x ↦ ⟨x.1, x.2, .start⟩) ∘ Token.spelling := rfl
  rw [hspelling, ← List.map_map, h, List.map_map]

theorem content_gathered (f : Finding) :
    (gathered.finding f).diagnostic.content = f.diagnostic.content := by
  have htext := gathered.text_of_letter rfl
  cases f <;> simp [Translation.finding, Finding.diagnostic, Diagnostic.content, htext]
  all_goals rfl

theorem gathered_fits {ts : List Token} (h : ∀ t ∈ ts, t.kind ≠ .lineComment) :
    gathered.Fits (Token.lineComments ts) := by
  have hnone : Token.lineComments ts = [] :=
    List.filter_eq_nil_iff.mpr fun t ht ↦ by simpa using h t ht
  rw [hnone]
  exact fun _ _ ↦ rfl

theorem run_document_of_spelling {ts us : List Token} (hline : ∀ t ∈ ts, t.kind ≠ .lineComment)
    (h : ts.map Token.spelling = us.map Token.spelling) :
    ∃ m s s', document.run.run (.ofTokens ts) = (.ok m, s) ∧
      document.run.run (.ofTokens us) = (.ok m, s') ∧
      s.diagnostics.map Diagnostic.content = s'.diagnostics.map Diagnostic.content := by
  have hline' : ∀ t ∈ us, t.kind ≠ .lineComment := by
    intro t ht
    obtain ⟨u, hu, hspelling⟩ := List.mem_map.mp (h ▸ List.mem_map_of_mem ht)
    have hkind : u.kind = t.kind := congrArg Prod.fst hspelling
    exact hkind ▸ hline u hu
  obtain ⟨m, s, s', hrun, hrun', hfindings⟩ :=
    Translation.exists_run_document rfl (map_gathered h) (gathered_fits hline)
      (gathered_fits hline')
  refine ⟨m, s, s', hrun, hrun', ?_⟩
  rw [gathered.map_diagnostics content_gathered,
    gathered.map_diagnostics content_gathered, hfindings]

/-- Tokens that differ in their places alone make the same model and the same diagnostics but for
their places, if no comment of a line is among them. So a text without such comments may be spaced
and broken in another way between its tokens. -/
theorem places_inert :
    (∀ ts us : List Token, (∀ t ∈ ts, t.kind ≠ .lineComment) →
      ts.map Token.spelling = us.map Token.spelling →
      ∃ m s s', document.run.run (.ofTokens ts) = (.ok m, s) ∧
        document.run.run (.ofTokens us) = (.ok m, s') ∧
        s.diagnostics.map Diagnostic.content = s'.diagnostics.map Diagnostic.content) ∧
    (∀ text text' : String, (∀ t ∈ tokenize text, t.kind ≠ .lineComment) →
      Respaced text.toList text'.toList →
      ∃ m s s', readText text = (.ok m, s) ∧ readText text' = (.ok m, s') ∧
        s.diagnostics.map Diagnostic.content = s'.diagnostics.map Diagnostic.content) := by
  refine ⟨fun ts us hline h ↦ run_document_of_spelling hline h, fun text text' hline h ↦ ?_⟩
  exact run_document_of_spelling hline (h.spelling_tokensAt hline .start).symm

/-- A root on one line, and broken behind its keyword and within its braces. -/
theorem places_inert_root :
    let text := "#dartwin A\x7b\x7d"
    let text' := "#dartwin\n  A \x7b\n\x7d\n"
    Respaced text.toList text'.toList ∧
      (∃ m s s', document.run.run (.ofTokens (tokenize text)) = (.ok m, s) ∧
        document.run.run (.ofTokens (tokenize text')) = (.ok m, s') ∧
        s.diagnostics.map Diagnostic.content = s'.diagnostics.map Diagnostic.content) ∧
      ∃ m s s', readText text = (.ok m, s) ∧ readText text' = (.ok m, s') ∧
        s.diagnostics.map Diagnostic.content = s'.diagnostics.map Diagnostic.content := by
  intro text text'
  have hspaced : Respaced text.toList text'.toList := by
    have hblank {bs : List Char} (h : bs.all Text.isBlank) : ∀ c ∈ bs, Text.isBlank c :=
      List.all_eq_true.mp h
    have hnext {c : Char} (hc : Text.isBlank c) (x : Char) (ws cs : List Char) :
        ∀ d ∈ (c :: cs).head?, Text.isBlank d ∨ Lexeme.EndsBefore x ws d :=
      fun d hd ↦ .inl (Option.some.inj hd ▸ hc)
    have htext : text.toList = [] ++ '#' :: ("dartwin".toList ++ ([' '] ++ 'A' :: ([] ++
        ([] ++ '\x7b' :: ([] ++ ([] ++ '\x7d' :: ([] ++ []))))))) := by decide +kernel
    have htext' : text'.toList = [] ++
      '#' :: ("dartwin".toList ++ (['\n', ' ', ' '] ++ 'A' :: ([] ++
        ([' '] ++ '\x7b' :: ([] ++ (['\n'] ++ '\x7d' :: ([] ++ ['\n']))))))) := by decide +kernel
    rw [htext, htext']
    refine .lexeme (hblank rfl) (hblank rfl) rfl (by decide) (hnext rfl _ _ _) ?_
    refine .lexeme (hblank rfl) (hblank rfl) rfl (by decide) (hnext rfl _ _ _) ?_
    refine .lexeme (hblank rfl) (hblank rfl) rfl (by decide) (hnext rfl _ _ _) ?_
    refine .lexeme (hblank rfl) (hblank rfl) rfl (by decide) (hnext rfl _ _ _) ?_
    exact .blank (hblank rfl) (hblank rfl)
  have hline : ∀ t ∈ tokenize text, t.kind ≠ .lineComment := by decide +kernel
  exact ⟨hspaced, places_inert.1 _ _ hline (by decide +kernel), places_inert.2 _ _ hline hspaced⟩

end Parser

end TwinDiagram
