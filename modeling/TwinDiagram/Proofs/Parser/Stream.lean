import TwinDiagram.Parser.State
import TwinDiagram.Proofs.Token.Lexer

namespace TwinDiagram

namespace Parser.State

theorem rest_ofTokens_subset (ts : List Token) : (ofTokens ts).rest ⊆ Token.statements ts := by
  simp only [ofTokens]
  split
  · exact List.nil_subset _
  · split
    · exact List.dropLast_subset _
    · exact List.Subset.refl _

/-- An end token at the end is not passed. -/
theorem ofTokens_concat (ts : List Token) (p : Position) :
    (ofTokens (ts ++ [.endAt p])).rest = Token.statements ts ∧
      (ofTokens (ts ++ [.endAt p])).last = .endAt p := by
  have hstream : Token.statements (ts ++ [.endAt p]) = Token.statements ts ++ [.endAt p] :=
    Token.dropComments_concat none ts p
  have hlast : (Token.statements (ts ++ [.endAt p])).getLast? = some (.endAt p) := by simp [hstream]
  simp only [ofTokens]
  split
  · next hnone => rw [hlast] at hnone; cases hnone
  · next t hsome =>
    rw [hlast, Option.some_inj] at hsome
    subst hsome
    have hkind : (Token.endAt p).kind = .endOfInput := rfl
    simp only [hkind, hstream, List.dropLast_concat, dif_pos, and_self]

theorem ofTokens_tokenize (text : String) :
    (ofTokens (tokenize text)).rest ++ [(ofTokens (tokenize text)).last] =
        Token.statements (tokenize text) ∧
      ∀ t ∈ (ofTokens (tokenize text)).rest, t.kind ≠ .endOfInput := by
  obtain ⟨ts, p, hts, hend⟩ := tokenize_eq text
  obtain ⟨hrest, hlast⟩ := ofTokens_concat ts p
  rw [hts, hrest, hlast]
  exact ⟨(Token.dropComments_concat none ts p).symm,
    fun t ht ↦ hend t ((Token.dropComments_sublist _ ts).subset ht)⟩

theorem ofTokens_of_statements {text : String} {ts : List Token} {t : Token}
    (h : Token.statements (tokenize text) = ts ++ [t]) :
    (ofTokens (tokenize text)).rest = ts ∧ (ofTokens (tokenize text)).last = t := by
  obtain ⟨hstream, -⟩ := ofTokens_tokenize text
  obtain ⟨hrest, hlast⟩ := List.append_inj' (hstream.trans h) rfl
  exact ⟨hrest, List.singleton_inj.mp hlast⟩

theorem comments_ofTokens (ts : List Token) : (ofTokens ts).comments = Token.lineComments ts := by
  simp only [ofTokens]
  split
  · rfl
  · split <;> rfl

/-- Without an end token all tokens lie ahead, and one is supplied on the line of the last. -/
theorem ofTokens_endFree {ts : List Token} (h : ∀ t ∈ ts, t.kind ≠ .endOfInput) :
    (ofTokens ts).rest = Token.statements ts ∧
      ∀ t, (Token.statements ts).getLast? = some t → (ofTokens ts).last = .endAt ⟨t.line, 1⟩ := by
  simp only [ofTokens]
  split
  · next hnone =>
    refine ⟨(List.getLast?_eq_none_iff.mp hnone).symm, fun t ht ↦ ?_⟩
    rw [hnone] at ht
    cases ht
  · next t ht =>
    have hend := h t ((Token.dropComments_sublist _ ts).subset (List.mem_of_getLast? ht))
    rw [dif_neg hend]
    refine ⟨rfl, fun u hu ↦ ?_⟩
    rw [ht, Option.some_inj] at hu
    exact hu ▸ rfl

theorem passed_ofTokens (ts : List Token) : (ofTokens ts).passed = [] := by
  simp only [ofTokens]
  split
  · rfl
  · split <;> rfl

theorem events_ofTokens (ts : List Token) : (ofTokens ts).events = [] := by
  simp only [ofTokens]
  split
  · rfl
  · split <;> rfl

theorem rewind_of_passed {s : State} (hs : s.passed = []) : s.rewind = s := by
  cases s
  simp_all [rewind]

end Parser.State

end TwinDiagram
