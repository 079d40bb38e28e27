import TwinDiagram.Proofs.Token.Lexer

namespace TwinDiagram.Token

variable {k l : Option TokenKind} {ts : List Token} {t : Token}

/-- The kind of the last token that stays; `k` is that of the one in front of all these. -/
def lastKind (k : Option TokenKind) (ts : List Token) : Option TokenKind :=
  ((dropComments k ts).getLast?.map kind).or k

theorem lastKind_cons
    (hdrop : ¬ (t.kind = .lineComment || (t.kind = .blockComment && k != some .doc)))
    (ts : List Token) : lastKind k (t :: ts) = lastKind (some t.kind) ts := by
  rw [lastKind, dropComments, if_neg hdrop, lastKind, List.getLast?_cons]
  cases (dropComments (some t.kind) ts).getLast? <;> rfl

theorem dropComments_append (k : Option TokenKind) (ts us : List Token) :
    dropComments k (ts ++ us) = dropComments k ts ++ dropComments (lastKind k ts) us := by
  induction ts generalizing k with
  | nil => rfl
  | cons t ts ih =>
    by_cases hdrop : t.kind = .lineComment || (t.kind = .blockComment && k != some .doc)
    · have hlast : lastKind k (t :: ts) = lastKind k ts := by
        rw [lastKind, dropComments, if_pos hdrop, lastKind]
      rw [List.cons_append, dropComments, if_pos hdrop, ih, hlast, dropComments, if_pos hdrop]
    · rw [List.cons_append, dropComments, if_neg hdrop, ih, lastKind_cons hdrop, dropComments,
        if_neg hdrop, List.cons_append]

theorem dropComments_cons (hline : t.kind ≠ .lineComment) (hblock : t.kind ≠ .blockComment)
    (k : Option TokenKind) (ts : List Token) :
    dropComments k (t :: ts) = t :: dropComments (some t.kind) ts := by
  rw [dropComments, if_neg (by simp [hline, hblock])]

theorem dropComments_append_cons (hline : t.kind ≠ .lineComment) (hblock : t.kind ≠ .blockComment)
    (k : Option TokenKind) (ts us : List Token) :
    dropComments k (ts ++ t :: us) = dropComments k ts ++ t :: dropComments (some t.kind) us := by
  rw [dropComments_append, dropComments_cons hline hblock]

/-- A token that stays is one of the text, and what stays behind it depends on it alone. -/
theorem exists_append_of_dropComments {xs ys : List Token} (h : dropComments k ts = xs ++ t :: ys) :
    ∃ before behind, ts = before ++ t :: behind ∧ dropComments (some t.kind) behind = ys := by
  induction ts generalizing k xs with
  | nil => simp [dropComments] at h
  | cons u ts ih =>
    unfold dropComments at h
    split at h
    · obtain ⟨before, behind, rfl, hys⟩ := ih h
      exact ⟨u :: before, behind, rfl, hys⟩
    · cases xs with
      | nil =>
        obtain ⟨rfl, hys⟩ := List.cons.inj h
        exact ⟨[], ts, rfl, hys⟩
      | cons x xs =>
        obtain ⟨before, behind, rfl, hys⟩ := ih (List.cons.inj h).2
        exact ⟨u :: before, behind, rfl, hys⟩

theorem mem_dropComments (ht : t ∈ ts) (hline : t.kind ≠ .lineComment)
    (hblock : t.kind ≠ .blockComment) :
    t ∈ dropComments k ts := by
  induction ts generalizing k with
  | nil => cases ht
  | cons u ts ih =>
    unfold dropComments
    rcases List.mem_cons.mp ht with rfl | ht
    · rw [if_neg (by simp [hline, hblock])]
      exact .head _
    · split
      · exact ih ht
      · exact .tail _ (ih ht)

theorem dropComments_append_of_blockComment {us : List Token} (hk : k ≠ some .doc)
    (hts : ∀ t ∈ ts, t.kind = .blockComment) : dropComments k (ts ++ us) = dropComments k us := by
  induction ts with
  | nil => rfl
  | cons t ts ih =>
    obtain ⟨ht, hts⟩ := List.forall_mem_cons.mp hts
    rw [List.cons_append, dropComments, if_pos (by simp [ht, hk]), ih hts]

theorem dropComments_map {f : Token → Token} (hf : ∀ t, (f t).kind = t.kind)
    (k : Option TokenKind) (ts : List Token) :
    dropComments k (ts.map f) = (dropComments k ts).map f := by
  induction ts generalizing k with
  | nil => rfl
  | cons t ts ih =>
    simp only [List.map_cons, dropComments, hf, ih]
    split
    · rfl
    · rw [List.map_cons]

theorem lineComments_map {f : Token → Token} (hf : ∀ t, (f t).kind = t.kind) (ts : List Token) :
    lineComments (ts.map f) = (lineComments ts).map f := by
  rw [lineComments, List.filter_map, lineComments]
  congr 2
  funext t
  exact congrArg (· == _) (hf t)

theorem dropComments_congr (hk : k ≠ some .doc) (hl : l ≠ some .doc) (ts : List Token) :
    dropComments k ts = dropComments l ts := by
  have hk : (k != some .doc) = true := bne_iff_ne.mpr hk
  have hl : (l != some .doc) = true := bne_iff_ne.mpr hl
  induction ts with
  | nil => rfl
  | cons t ts ih => simp only [dropComments, ih, hk, hl]

/-- Behind the keyword of a documentation one more comment may stay. -/
theorem exists_dropComments (k : Option TokenKind) (ts : List Token) : ∃ ds,
    dropComments k ts = ds ++ dropComments none ts ∧ ∀ d ∈ ds, d.kind = .blockComment := by
  by_cases hk : k = some .doc
  · induction ts with
    | nil => exact ⟨[], rfl, List.forall_mem_nil _⟩
    | cons t ts ih =>
      by_cases hline : t.kind = .lineComment
      · simpa only [dropComments, hline, decide_true, Bool.true_or, if_true] using ih
      by_cases hblock : t.kind = .blockComment
      · refine ⟨[t], ?_, List.forall_mem_singleton.mpr hblock⟩
        rw [dropComments, if_neg (by simp [hline, hk]), dropComments, if_pos (by simp [hblock]),
          dropComments_congr (l := none) (by rw [hblock]; decide) (by decide)]
        rfl
      · refine ⟨[], ?_, List.forall_mem_nil _⟩
        rw [dropComments, if_neg (by simp [hline, hblock]), dropComments,
          if_neg (by simp [hline, hblock])]
        rfl
  · exact ⟨[], dropComments_congr hk (by decide) ts, List.forall_mem_nil _⟩

/-- A statement without comments stays as it is, and starts anew behind its semicolon. -/
theorem dropComments_append_of_ne_comment
    (hts : ∀ t ∈ ts, t.kind ≠ .lineComment ∧ t.kind ≠ .blockComment) {z : Token}
    (hz : z.kind = .semicolon) (k : Option TokenKind) (us : List Token) :
    dropComments k (ts ++ [z] ++ us) = ts ++ [z] ++ dropComments none us := by
  induction ts generalizing k with
  | nil =>
    rw [List.nil_append, List.singleton_append, dropComments, if_neg (by simp [hz]),
      dropComments_congr (l := none) (by rw [hz]; decide) (by decide)]
    rfl
  | cons t ts ih =>
    obtain ⟨ht, hts⟩ := List.forall_mem_cons.mp hts
    rw [List.cons_append, List.cons_append, dropComments, if_neg (by simp [ht]), ih hts]
    rfl

theorem lineComments_of_ne_comment
    (hts : ∀ t ∈ ts, t.kind ≠ .lineComment ∧ t.kind ≠ .blockComment) : lineComments ts = [] := by
  rw [lineComments, List.filter_eq_nil_iff]
  intro t ht
  simpa using (hts t ht).1

end TwinDiagram.Token
