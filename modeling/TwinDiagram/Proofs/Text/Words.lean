import TwinDiagram.Text.Blank
import TwinDiagram.Proofs.Token.Lexer

namespace TwinDiagram.Text

variable {c : Char} {cs w gap : List Char} {ws : List (List Char)}

def blankCodes : List Nat :=
  List.range' 0x09 5 ++ List.range' 0x1c 5 ++ [0x85, 0xa0, 0x1680] ++ List.range' 0x2000 11 ++
    [0x2028, 0x2029, 0x202f, 0x205f, 0x3000]

theorem mem_blankCodes (h : isBlank c) : c.toNat ∈ blankCodes := by
  simp only [isBlank, isWhiteSpace, Bool.or_eq_true, Bool.and_eq_true, decide_eq_true_eq,
    beq_iff_eq] at h
  simp only [blankCodes, List.mem_append, List.mem_range'_1, List.mem_cons, List.not_mem_nil,
    or_false]
  omega

theorem isBlank_space : ∀ x ∈ [' '], isBlank x := List.forall_mem_singleton.mpr rfl

theorem isBlank_newline : ∀ x ∈ ['\n'], isBlank x := List.forall_mem_singleton.mpr rfl

theorem of_codes {P : Char → Prop} {codes : List Nat} (hP : ∀ n ∈ codes, P (Char.ofNat n))
    (hc : c.toNat ∈ codes) : P c := by
  have h := hP c.toNat hc
  rwa [Char.ofNat_toNat] at h

theorem not_isIdentifierChar_of_isBlank (h : isBlank c) : isIdentifierChar c = false :=
  of_codes (P := fun c ↦ isIdentifierChar c = false) (by decide +kernel) (mem_blankCodes h)

theorem not_isBlank_of_isIdentifierChar (h : isIdentifierChar c) : isBlank c = false := by
  cases hb : isBlank c with
  | false => rfl
  | true => rw [not_isIdentifierChar_of_isBlank hb] at h; cases h

theorem splitBy_of_none {p : Char → Bool} (hw : ∀ x ∈ w, p x = false) : splitBy p w = [w] := by
  induction w with
  | nil => rfl
  | cons x w ih =>
    obtain ⟨hx, hw⟩ := List.forall_mem_cons.mp hw
    simp [splitBy, hx, ih hw]

theorem splitBy_append_cons {p : Char → Bool} (hw : ∀ x ∈ w, p x = false) (hc : p c) :
    splitBy p (w ++ c :: cs) = w :: splitBy p cs := by
  induction w with
  | nil => simp [splitBy, hc]
  | cons x w ih =>
    obtain ⟨hx, hw⟩ := List.forall_mem_cons.mp hw
    rw [List.cons_append, splitBy, hx, if_neg Bool.false_ne_true, ih hw]

theorem not_of_mem_splitBy {p : Char → Bool} : ∀ w ∈ splitBy p cs, ∀ x ∈ w, p x = false := by
  induction cs with
  | nil => simp [splitBy]
  | cons c cs ih =>
    unfold splitBy
    split
    · exact List.forall_mem_cons.mpr ⟨List.forall_mem_nil _, ih⟩
    · next hc =>
      have hc : p c = false := by simpa using hc
      cases hsplit : splitBy p cs with
      | nil => simpa using hc
      | cons w ws =>
        rw [hsplit] at ih
        obtain ⟨hw, hws⟩ := List.forall_mem_cons.mp ih
        exact List.forall_mem_cons.mpr ⟨List.forall_mem_cons.mpr ⟨hc, hw⟩, hws⟩

/-- Each piece stands in the text, the first at its start. -/
theorem isInfix_of_mem_splitBy {p : Char → Bool} :
    (∀ w ∈ (splitBy p cs).head?, w <+: cs) ∧ ∀ w ∈ splitBy p cs, w <:+: cs := by
  induction cs with
  | nil => simp [splitBy]
  | cons c cs ih =>
    obtain ⟨hfirst, hall⟩ := ih
    unfold splitBy
    split
    · refine ⟨fun w hw ↦ ?_, List.forall_mem_cons.mpr ⟨List.nil_infix, fun w hw ↦ ?_⟩⟩
      · exact Option.some.inj hw ▸ List.nil_prefix
      · exact (hall w hw).trans (List.suffix_cons c cs).isInfix
    · cases hsplit : splitBy p cs with
      | nil =>
        have hc : [c] <+: c :: cs := ⟨cs, rfl⟩
        exact ⟨fun w hw ↦ Option.some.inj hw ▸ hc, List.forall_mem_singleton.mpr hc.isInfix⟩
      | cons w ws =>
        rw [hsplit] at hfirst hall
        have hw : c :: w <+: c :: cs := List.cons_prefix_cons.mpr ⟨rfl, hfirst w rfl⟩
        refine ⟨fun v hv ↦ Option.some.inj hv ▸ hw,
          List.forall_mem_cons.mpr ⟨hw.isInfix, fun v hv ↦ ?_⟩⟩
        exact (hall v (.tail w hv)).trans (List.suffix_cons c cs).isInfix

theorem splitBy_map {p : Char → Bool} {f : Char → Char} (hf : ∀ c, p (f c) = p c) (cs : List Char) :
    splitBy p (cs.map f) = (splitBy p cs).map (·.map f) := by
  induction cs with
  | nil => rfl
  | cons c cs ih =>
    rw [List.map_cons, splitBy, splitBy, hf, ih]
    split
    · rfl
    · cases splitBy p cs <;> rfl

theorem mem_words (h : w ∈ words cs) : w ≠ [] ∧ ∀ x ∈ w, isBlank x = false := by
  obtain ⟨hw, hne⟩ := List.mem_filter.mp h
  exact ⟨by simpa using hne, not_of_mem_splitBy w hw⟩

theorem isInfix_of_mem_words (h : w ∈ words cs) : w <:+: cs :=
  isInfix_of_mem_splitBy.2 w (List.mem_filter.mp h).1

theorem words_map {f : Char → Char} (hf : ∀ c, isBlank (f c) = isBlank c) (cs : List Char) :
    words (cs.map f) = (words cs).map (·.map f) := by
  rw [words, pieces, splitBy_map hf, List.filter_map, words, pieces]
  congr 2
  funext w
  cases w <;> rfl

theorem words_of_none (hne : w ≠ []) (hw : ∀ x ∈ w, isBlank x = false) : words w = [w] := by
  simp [words, pieces, splitBy_of_none hw, hne]

theorem words_append_cons (hne : w ≠ []) (hw : ∀ x ∈ w, isBlank x = false) (hc : isBlank c) :
    words (w ++ c :: cs) = w :: words cs := by
  simp [words, pieces, splitBy_append_cons hw hc, hne]

theorem words_append_of_blank (hgap : ∀ x ∈ gap, isBlank x) : words (gap ++ cs) = words cs := by
  induction gap with
  | nil => rfl
  | cons x gap ih =>
    obtain ⟨hx, hgap⟩ := List.forall_mem_cons.mp hgap
    rw [← ih hgap]
    simp [words, pieces, splitBy, hx]

theorem words_of_blank (hgap : ∀ x ∈ gap, isBlank x) : words gap = [] := by
  rw [← List.append_nil gap, words_append_of_blank hgap]
  rfl

theorem words_append_blank (hne : w ≠ []) (hw : ∀ x ∈ w, isBlank x = false)
    (hgap : ∀ x ∈ gap, isBlank x) : words (w ++ gap) = [w] := by
  cases gap with
  | nil => rw [List.append_nil, words_of_none hne hw]
  | cons x gap =>
    obtain ⟨hx, hgap⟩ := List.forall_mem_cons.mp hgap
    rw [words_append_cons hne hw hx, words_of_blank hgap]

theorem words_intercalate (hws : ∀ w ∈ ws, w ≠ [] ∧ ∀ x ∈ w, isBlank x = false)
    (hgap : ∀ x ∈ gap, isBlank x) : words ([' '].intercalate ws ++ gap) = ws := by
  induction ws with
  | nil => exact words_of_blank hgap
  | cons w ws ih =>
    obtain ⟨⟨hne, hw⟩, hws⟩ := List.forall_mem_cons.mp hws
    cases ws with
    | nil => rw [List.intercalate_singleton, words_append_blank hne hw hgap]
    | cons v ws =>
      have hsplit : [' '].intercalate (w :: v :: ws) ++ gap =
          w ++ ' ' :: ([' '].intercalate (v :: ws) ++ gap) := by simp [List.intercalate_cons_cons]
      rw [hsplit, words_append_cons hne hw (by decide), ih hws]

theorem joinWith_eq_intercalate (separator : List Char) (ws : List (List Char)) :
    joinWith separator ws = separator.intercalate ws := by
  induction ws with
  | nil => rfl
  | cons w ws ih =>
    cases ws with
    | nil => rw [List.intercalate_singleton, joinWith]
    | cons v ws => rw [joinWith, ih, List.intercalate_cons_cons]

/-- What holds no separator stands within one of the parts. -/
theorem exists_mem_of_pair_infix {x y : Char} (hx : x ≠ c) (hy : y ≠ c)
    (h : [x, y] <:+: [c].intercalate ws) : ∃ w ∈ ws, [x, y] <:+: w := by
  induction ws with
  | nil => cases List.infix_nil.mp h
  | cons w ws ih =>
    cases ws with
    | nil => exact ⟨w, .head _, by rwa [List.intercalate_singleton] at h⟩
    | cons v ws =>
      rw [List.intercalate_cons_cons, List.append_assoc] at h
      rcases pair_infix_append h with h | h | ⟨-, h⟩
      · exact ⟨w, .head _, h⟩
      · rcases List.infix_cons_iff.mp h with h | h
        · exact absurd (List.cons_prefix_cons.mp h).1 hx
        · obtain ⟨u, hu, h⟩ := ih h
          exact ⟨u, .tail _ hu, h⟩
      · exact absurd (Option.some.inj h).symm hy

theorem words_joinWith_words (cs : List Char) : words (joinWith [' '] (words cs)) = words cs := by
  have hwords : words ([' '].intercalate (words cs) ++ []) = words cs :=
    words_intercalate (fun _ hw ↦ mem_words hw) (List.forall_mem_nil _)
  rwa [List.append_nil, ← joinWith_eq_intercalate] at hwords

end TwinDiagram.Text
