import TwinDiagram.Proofs.Parser.Cut
import TwinDiagram.Proofs.Parser.Stream
import TwinDiagram.Proofs.Token.Order

namespace TwinDiagram

namespace Token

theorem Precedes.line_le {s t : Token} (h : s.Precedes t) : s.line ≤ t.line :=
  Position.AtMost.line_le (.inr h.1)

theorem Precedes.column_lt {s t : Token} (h : s.Precedes t) (hline : s.line = t.line) :
    s.column < t.column := by
  rcases h.1 with hlt | ⟨-, hlt⟩
  · exact absurd hline (Int.ne_of_lt hlt)
  · exact hlt

theorem commentOn_append (line : Int) (cs ds : List Token) :
    commentOn line (cs ++ ds) = (commentOn line ds).or (commentOn line cs) := by
  rw [commentOn, List.reverse_append, List.find?_append]
  rfl

theorem mem_of_commentOn {line : Int} {ts : List Token} {c : Token}
    (h : commentOn line (lineComments ts) = some c) :
    c ∈ ts ∧ c.kind = .lineComment ∧ c.line = line := by
  have hmem := List.mem_of_find?_eq_some h
  have hline := List.find?_some h
  rw [List.mem_reverse, lineComments, List.mem_filter] at hmem
  exact ⟨hmem.1, by simpa using hmem.2, by simpa using hline⟩

end Token

theorem rel_or_rel_of_pairwise {α : Type} {R : α → α → Prop} {xs : List α} (h : xs.Pairwise R)
    {x y : α} (hx : x ∈ xs) (hy : y ∈ xs) (hne : x ≠ y) : R x y ∨ R y x := by
  induction h with
  | nil => cases hx
  | cons hz _ ih =>
    rcases List.mem_cons.mp hx with rfl | hx'
    · rcases List.mem_cons.mp hy with rfl | hy'
      · exact absurd rfl hne
      · exact .inl (hz y hy')
    · rcases List.mem_cons.mp hy with rfl | hy'
      · exact .inr (hz x hx')
      · exact ih hx' hy'

namespace Parser

open Token State

theorem trailingName_of_none {comments : List Token} {x y : Token}
    (h : commentOn x.line comments = none) : trailingName comments x y = none := by
  simp [trailingName, h]

theorem trailingName_of_between {comments : List Token} {x y c : Token}
    (h : commentOn x.line comments = some c) (hline : y.line = x.line)
    (hcolumn : y.column < c.column) : trailingName comments x y = none := by
  simp [trailingName, h, hline, hcolumn]

variable {ts us : List Token} {x y : Token}

/-- Behind the next token, a comment of the line does not count. -/
theorem trailingName_append (h : (ts ++ us).Pairwise Precedes) (hxy : [x, y].Sublist ts) :
    trailingName (lineComments ts) x y = trailingName (lineComments (ts ++ us)) x y := by
  obtain ⟨hts, -, hcross⟩ := List.pairwise_append.mp h
  have hy : y ∈ ts := hxy.subset (by simp)
  have hprecedes : x.Precedes y := by simpa using hts.sublist hxy
  rw [lineComments, lineComments, List.filter_append]
  change trailingName (lineComments ts) x y = trailingName (lineComments ts ++ lineComments us) x y
  cases hus : commentOn x.line (lineComments us) with
  | none =>
    have heq := commentOn_append x.line (lineComments ts) (lineComments us)
    rw [hus, Option.none_or] at heq
    simp [trailingName, heq]
  | some c =>
    obtain ⟨hc, hkind, hline⟩ := mem_of_commentOn hus
    have hyc := hcross y hy c hc
    have hle := hprecedes.line_le
    have hle' := hyc.line_le
    have hyline : y.line = x.line := by omega
    have hnone : trailingName (lineComments ts ++ lineComments us) x y = none :=
      trailingName_of_between (by rw [commentOn_append, hus]; rfl) hyline (hyc.column_lt (by omega))
    rw [hnone]
    refine trailingName_of_none (Option.eq_none_iff_forall_ne_some.mpr fun d hd ↦ ?_)
    obtain ⟨hd, hdkind, hdline⟩ := mem_of_commentOn hd
    have hlt := (hcross d hd c hc).2 hdkind (by rw [hkind]; exact nofun)
    omega

theorem trailingName_behind (h : (ts ++ us).Pairwise Precedes) (hx : x ∈ us)
    (hend : x.kind ≠ .endOfInput) (y : Token) :
    trailingName (lineComments (ts ++ us)) x y = trailingName (lineComments us) x y := by
  have hnone : commentOn x.line (lineComments ts) = none := by
    refine Option.eq_none_iff_forall_ne_some.mpr fun c hc ↦ ?_
    obtain ⟨hc, hkind, hline⟩ := mem_of_commentOn hc
    have hlt := ((List.pairwise_append.mp h).2.2 c hc x hx).2 hkind hend
    omega
  have happend : lineComments (ts ++ us) = lineComments ts ++ lineComments us :=
    List.filter_append _ _
  unfold trailingName
  rw [happend, commentOn_append, hnone, Option.or_none]

/-- The end token that is supplied stands in front of any comment of its line. -/
theorem trailingName_endAt (h : ts.Pairwise Precedes) (hx : x ∈ ts) (hkind : x.kind ≠ .lineComment)
    (hend : x.kind ≠ .endOfInput) (hcolumn : 1 ≤ x.column) :
    trailingName (lineComments ts) x (.endAt ⟨x.line, 1⟩) = none := by
  cases hc : commentOn x.line (lineComments ts) with
  | none => exact trailingName_of_none hc
  | some c =>
    obtain ⟨hmem, hckind, hline⟩ := mem_of_commentOn hc
    have hne : x ≠ c := fun he ↦ hkind (he ▸ hckind)
    refine trailingName_of_between hc rfl ?_
    rcases rel_or_rel_of_pairwise h hx hmem hne with hlt | hlt
    · have := hlt.column_lt hline.symm
      show 1 < c.column
      omega
    · have := hlt.2 hckind hend
      omega

/-- The first tokens of a text, beside all of them. -/
theorem cut_ofTokens {text : String} {k : Nat} (hk : k < (tokenize text).length) :
    State.Cut (.ofTokens ((tokenize text).take k)) (.ofTokens (tokenize text)) := by
  obtain ⟨us, p, hts, hend⟩ := tokenize_eq text
  have hpairwise : (tokenize text).Pairwise Precedes := Cursor.pairwise_tokens _
  have hcolumn : ∀ t ∈ tokenize text, 1 ≤ t.column := fun t ht ↦
    Cursor.one_le_column_of_mem_tokens (Int.le_refl 1) ht
  have htake : (tokenize text).take k = us.take k := by
    rw [hts, List.length_append, List.length_singleton] at hk
    rw [hts, List.take_append_of_le_length (Nat.le_of_lt_succ hk)]
  have hfree : ∀ t ∈ (tokenize text).take k, t.kind ≠ .endOfInput :=
    fun t ht ↦ hend t (List.take_subset k us (htake ▸ ht))
  obtain ⟨hrest, hlast⟩ := ofTokens_endFree hfree
  obtain ⟨hall, -⟩ := ofTokens_tokenize text
  refine ⟨by rw [passed_ofTokens, passed_ofTokens], ?_, fun {x y} hxy ↦ ?_,
    fun {x} hx ↦ ?_⟩
  · have hstream : (ofTokens (tokenize text)).rest = Token.statements us := by
      rw [hts, Token.statements, dropComments_concat] at hall
      rw [hts]
      exact (List.append_inj' hall rfl).1
    rw [hrest, hstream, htake]
    exact dropComments_prefix none (List.take_prefix k us)
  · have hsub := (hrest ▸ hxy).sublist.trans (dropComments_sublist none _)
    have happend := List.take_append_drop k (tokenize text)
    rw [← happend] at hpairwise
    have heq := trailingName_append hpairwise hsub
    rwa [happend, ← comments_ofTokens, ← comments_ofTokens] at heq
  · obtain ⟨w, hw⟩ := hx
    rw [hrest] at hw
    have hmem : x ∈ Token.statements ((tokenize text).take k) :=
      hw ▸ List.mem_append_right w (.head _)
    have htoken := (dropComments_sublist none _).subset hmem
    rw [comments_ofTokens, hlast x (by simp [← hw])]
    exact trailingName_endAt (hpairwise.sublist (List.take_sublist k _)) htoken
      (kind_ne_lineComment hmem) (hfree x htoken) (hcolumn x (List.take_subset k _ htoken))

end Parser

end TwinDiagram
