import Mathlib.Data.List.Basic

namespace TwinDiagram.Text

variable {α : Type} {c : α} {cs xs sep : List α}

def Tight (sep v : List α) : Prop := ¬ sep <:+: v ++ sep.dropLast

theorem tight_singleton {v : List α} (h : c ∉ v) : Tight [c] v := by
  rintro ⟨ys, zs, hv⟩
  obtain rfl : v = ys ++ c :: zs := by simpa using hv.symm
  simp at h

theorem Tight.append_inj {v w ys zs : List α} (hv : Tight sep v) (hw : Tight sep w)
    (h : v ++ (sep ++ ys) = w ++ (sep ++ zs)) : v = w ∧ ys = zs := by
  -- A shorter part would have the separator behind it begin in the longer one.
  have hshorter {v w ys zs : List α} (hw : Tight sep w) (h : v ++ (sep ++ ys) = w ++ (sep ++ zs)) :
      ¬ v.length < w.length := by
    intro hlt
    have hlong : v ++ sep <+: w ++ sep.dropLast := by
      have hshort : v ++ sep <+: w ++ (sep ++ zs) := ⟨ys, by simpa using h⟩
      refine List.prefix_of_prefix_length_le hshort ?_ ?_
      · exact (List.prefix_append_right_inj w).mpr
          ((List.dropLast_prefix sep).trans (List.prefix_append sep zs))
      · simp only [List.length_append, List.length_dropLast]
        omega
    exact hw ((List.suffix_append v sep).isInfix.trans hlong.isInfix)
  have hlength : v.length = w.length :=
    Nat.le_antisymm (Nat.le_of_not_lt (hshorter hv h.symm)) (Nat.le_of_not_lt (hshorter hw h))
  obtain ⟨rfl, hrest⟩ := List.append_inj h hlength
  exact ⟨rfl, List.append_cancel_left hrest⟩

/-- As many parts, all but the last of them tight, are told by what is put together of them. -/
theorem intercalate_inj_of_tight {vs ws : List (List α)} (hlength : vs.length = ws.length)
    (hvs : ∀ v ∈ vs.dropLast, Tight sep v) (hws : ∀ w ∈ ws.dropLast, Tight sep w)
    (h : sep.intercalate vs = sep.intercalate ws) : vs = ws := by
  induction vs generalizing ws with
  | nil => exact (List.length_eq_zero_iff.mp hlength.symm).symm
  | cons v vs ih =>
    obtain ⟨w, ws, rfl⟩ := List.exists_cons_of_length_eq_add_one hlength.symm
    have hlength' : vs.length = ws.length := Nat.succ.inj hlength
    cases vs with
    | nil =>
      obtain rfl := List.length_eq_zero_iff.mp hlength'.symm
      rw [List.intercalate_singleton, List.intercalate_singleton] at h
      rw [h]
    | cons v' vs =>
      obtain ⟨w', ws, rfl⟩ := List.exists_cons_of_length_eq_add_one hlength'.symm
      rw [List.dropLast_cons_cons, List.forall_mem_cons] at hvs hws
      rw [List.intercalate_cons_cons, List.intercalate_cons_cons, List.append_assoc,
        List.append_assoc] at h
      obtain ⟨rfl, hrest⟩ := hvs.1.append_inj hws.1 h
      rw [ih hlength' hvs.2 hws.2 hrest]

theorem append_cons_inj {v w ys zs : List α} (hv : c ∉ v) (hw : c ∉ w)
    (h : v ++ c :: ys = w ++ c :: zs) : v = w ∧ ys = zs :=
  (tight_singleton hv).append_inj (tight_singleton hw) h

/-- A separator whose first character is in no part shows where each part ends. -/
theorem intercalate_inj {vs ws : List (List α)} (hvs : ∀ v ∈ vs, c ∉ v) (hws : ∀ w ∈ ws, c ∉ w)
    (hv : vs ≠ []) (hw : ws ≠ []) (h : (c :: cs).intercalate vs = (c :: cs).intercalate ws) :
    vs = ws := by
  induction vs generalizing ws with
  | nil => exact absurd rfl hv
  | cons v vs ih =>
    obtain ⟨hcv, hvs⟩ := List.forall_mem_cons.mp hvs
    cases ws with
    | nil => exact absurd rfl hw
    | cons w ws =>
      obtain ⟨hcw, hws'⟩ := List.forall_mem_cons.mp hws
      -- A part of its own has no separator behind it, any other part has.
      cases vs with
      | nil =>
        cases ws with
        | nil =>
          rw [List.intercalate_singleton, List.intercalate_singleton] at h
          rw [h]
        | cons w' ws =>
          rw [List.intercalate_singleton, List.intercalate_cons_cons] at h
          exact absurd (by simp [h]) hcv
      | cons v' vs =>
        cases ws with
        | nil =>
          rw [List.intercalate_singleton, List.intercalate_cons_cons] at h
          exact absurd (by simp [← h]) hcw
        | cons w' ws =>
          rw [List.intercalate_cons_cons, List.intercalate_cons_cons, List.append_assoc,
            List.append_assoc, List.cons_append, List.cons_append] at h
          obtain ⟨rfl, hrest⟩ := append_cons_inj hcv hcw h
          have htail := ih hvs hws' (List.cons_ne_nil _ _) (List.cons_ne_nil _ _)
            (List.append_cancel_left hrest)
          rw [htail]

theorem string_intercalate_inj {separator : String} {c : Char} {cs : List Char}
    (hc : separator.toList = c :: cs) {vs ws : List String} (hvs : ∀ v ∈ vs, c ∉ v.toList)
    (hws : ∀ w ∈ ws, c ∉ w.toList) (hv : vs ≠ []) (hw : ws ≠ [])
    (h : separator.intercalate vs = separator.intercalate ws) : vs = ws := by
  have hlists := congrArg String.toList h
  rw [String.toList_intercalate, String.toList_intercalate, hc] at hlists
  have hmap : vs.map String.toList = ws.map String.toList :=
    intercalate_inj (by simpa using hvs) (by simpa using hws) (by simpa using hv)
      (by simpa using hw) hlists
  exact List.map_injective_iff.mpr (fun _ _ ↦ String.toList_injective) hmap

theorem not_mem_of_mem_splitOn [BEq α] [LawfulBEq α] : ∀ w ∈ xs.splitOn c, c ∉ w := by
  induction xs with
  | nil => simp [List.splitOn_nil]
  | cons x xs ih =>
    rw [List.splitOn_cons_eq_if_modifyHead]
    split
    · exact List.forall_mem_cons.mpr ⟨List.not_mem_nil, ih⟩
    · next hx =>
      have hne : c ≠ x := fun he ↦ hx (by simp [he])
      cases hsplit : xs.splitOn c with
      | nil => exact absurd hsplit (List.splitOn_ne_nil c xs)
      | cons w ws =>
        rw [hsplit] at ih
        obtain ⟨hw, hws⟩ := List.forall_mem_cons.mp ih
        exact List.forall_mem_cons.mpr ⟨by simp [hne, hw], hws⟩

theorem map_intercalate {β : Type} (f : α → β) (sep : List α) (vs : List (List α)) :
    (sep.intercalate vs).map f = (sep.map f).intercalate (vs.map (·.map f)) := by
  induction vs with
  | nil => rfl
  | cons v vs ih =>
    cases vs with
    | nil => simp
    | cons w vs =>
      rw [List.intercalate_cons_cons, List.map_append, List.map_append, ih]
      simp only [List.map_cons, List.intercalate_cons_cons]

end TwinDiagram.Text
