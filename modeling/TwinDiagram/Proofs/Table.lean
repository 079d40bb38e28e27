import TwinDiagram.Table

namespace TwinDiagram.Table

variable {β γ : Type}

/-- Under distinct keys, what is looked up is what stands there. -/
theorem lookup_eq_some_iff {es : List (String × β)} (h : (es.map Prod.fst).Nodup) {k : String}
    {v : β} : es.lookup k = some v ↔ (k, v) ∈ es := by
  induction es with
  | nil => simp
  | cons e es ih =>
    obtain ⟨x, w⟩ := e
    obtain ⟨hx, hes⟩ := List.nodup_cons.mp h
    rw [List.lookup_cons, List.mem_cons, Prod.mk.injEq]
    by_cases hk : k = x
    · subst hk
      have hnot : (k, v) ∉ es := fun hmem ↦ hx (List.mem_map.mpr ⟨(k, v), hmem, rfl⟩)
      simp [hnot, eq_comm]
    · simpa [beq_eq_false_iff_ne.mpr hk, hk] using ih hes

theorem lookup_congr {es es' : List (String × β)} (h : (es.map Prod.fst).Nodup)
    (hperm : es.Perm es')
    (k : String) : es.lookup k = es'.lookup k := by
  have h' : (es'.map Prod.fst).Nodup := (hperm.map Prod.fst).nodup_iff.mp h
  ext v
  rw [lookup_eq_some_iff h, lookup_eq_some_iff h', hperm.mem_iff]

theorem lookup_isSome_iff {κ : Type} [BEq κ] [LawfulBEq κ] {es : List (κ × β)} {k : κ} :
    (es.lookup k).isSome ↔ k ∈ es.map Prod.fst := by
  rw [List.lookup_isSome_iff, List.mem_map]
  exact exists_congr fun e ↦ and_congr_right' (beq_iff_eq.trans eq_comm)

theorem lookup_map (f : String → β → γ) (es : List (String × β)) (k : String) :
    (es.map fun e ↦ (e.1, f e.1 e.2)).lookup k = (es.lookup k).map (f k) := by
  induction es with
  | nil => rfl
  | cons e es ih =>
    rw [List.map_cons, List.lookup_cons, List.lookup_cons, ih]
    by_cases hk : k = e.1
    · simp [hk]
    · simp [beq_eq_false_iff_ne.mpr hk]

theorem contains_eq (t : Table β) (k : String) : t.contains k = (t.get? k).isSome := rfl

theorem get?_append (t : Table β) (k k' : String) (v : β) :
    (⟨t.entries ++ [(k, v)]⟩ : Table β).get? k' =
      (t.get? k').or (if k' = k then some v else none) := by
  simp only [get?, List.lookup_append, List.lookup_cons, List.lookup_nil]
  by_cases h : k' = k
  · simp [h]
  · simp [beq_eq_false_iff_ne.mpr h, h]

theorem get?_insertNew (t : Table β) (k k' : String) (v : β) :
    (t.insertNew k v).get? k' = (t.get? k').or (if k' = k then some v else none) := by
  unfold insertNew
  split
  · next h =>
    by_cases hk : k' = k
    · obtain ⟨w, hw⟩ := Option.isSome_iff_exists.mp h
      simp [hk, hw]
    · simp [hk]
  · exact get?_append t k k' v

theorem mem_keys_insertNew {t : Table β} {k k' : String} {v : β} :
    k' ∈ (t.insertNew k v).entries.map Prod.fst ↔ k' = k ∨ k' ∈ t.entries.map Prod.fst := by
  rw [← lookup_isSome_iff, ← lookup_isSome_iff]
  change ((t.insertNew k v).get? k').isSome ↔ _
  rw [get?_insertNew, Option.isSome_or, Bool.or_eq_true, or_comm]
  by_cases hk : k' = k <;> simp [hk, get?]

theorem nodup_keys_append {t : Table β} {k : String} {v : β} (h : (t.entries.map Prod.fst).Nodup)
    (hk : ¬ t.contains k = true) : ((t.entries ++ [(k, v)]).map Prod.fst).Nodup := by
  rw [contains_eq, get?, lookup_isSome_iff] at hk
  rw [List.map_append, List.nodup_append]
  refine ⟨h, by simp, fun x hx y hy heq ↦ hk ?_⟩
  rwa [heq, List.mem_singleton.mp hy] at hx

theorem nodup_insertNew {t : Table β} {k : String} {v : β} (h : (t.entries.map Prod.fst).Nodup) :
    ((t.insertNew k v).entries.map Prod.fst).Nodup := by
  unfold insertNew
  split
  · exact h
  · next hk => exact nodup_keys_append h hk

theorem lookup_replace {κ : Type} [BEq κ] [LawfulBEq κ] [DecidableEq κ] (es : List (κ × β))
    (k k' : κ) (v : β) :
    (es.map fun e ↦ if e.1 == k then (k, v) else e).lookup k' =
      (es.lookup k').map fun w ↦ if k' = k then v else w := by
  induction es with
  | nil => rfl
  | cons e es ih =>
    obtain ⟨x, w⟩ := e
    rw [List.map_cons]
    by_cases hx : x = k
    · subst hx
      rw [if_pos (beq_self_eq_true x)]
      by_cases hk : k' = x
      · simp [hk]
      · rw [List.lookup_cons, List.lookup_cons, beq_eq_false_iff_ne.mpr hk]
        simpa using ih
    · rw [if_neg (by simpa using hx)]
      by_cases hk : k' = x
      · simp [hk, hx]
      · rw [List.lookup_cons, List.lookup_cons, beq_eq_false_iff_ne.mpr hk]
        simpa using ih

theorem get?_insert (t : Table β) (k k' : String) (v : β) :
    (t.insert k v).get? k' = if k' = k then some v else t.get? k' := by
  unfold insert
  split
  · next h =>
    obtain ⟨w, hw⟩ := Option.isSome_iff_exists.mp h
    simp only [get?, lookup_replace]
    by_cases hk : k' = k
    · rw [hk, show t.entries.lookup k = some w from hw]
      simp
    · simp [hk]
  · next h =>
    rw [get?_append]
    have hnone : t.get? k = none := by simpa [contains_eq] using h
    by_cases hk : k' = k <;> simp [hk, hnone]

theorem get?_erase (t : Table β) (k k' : String) :
    (t.erase k).get? k' = if k' = k then none else t.get? k' := by
  simp only [get?, erase]
  induction t.entries with
  | nil => simp
  | cons e es ih =>
    obtain ⟨x, w⟩ := e
    by_cases hx : x = k
    · subst hx
      simp only [List.filter_cons, bne_self_eq_false, Bool.false_eq_true, if_false, ih,
        List.lookup_cons]
      by_cases hk : k' = x
      · simp [hk]
      · simp [hk, beq_eq_false_iff_ne.mpr hk]
    · simp only [List.filter_cons, bne_iff_ne, ne_eq, hx, not_false_eq_true, if_true,
        List.lookup_cons, ih]
      by_cases hk : k' = x
      · simp [hk, hx]
      · simp [beq_eq_false_iff_ne.mpr hk]

/-- No key stands in the table twice. -/
def Distinct (t : Table β) : Prop := (t.entries.map Prod.fst).Nodup

theorem distinct_empty : (empty : Table β).Distinct := List.nodup_nil

theorem Distinct.insert {t : Table β} (h : t.Distinct) (k : String) (v : β) :
    (t.insert k v).Distinct := by
  unfold Table.insert
  split
  · have hkeys : (t.entries.map fun e ↦ if e.1 == k then (k, v) else e).map Prod.fst =
        t.entries.map Prod.fst := by
      rw [List.map_map]
      refine List.map_congr_left fun e _ ↦ ?_
      by_cases he : e.1 = k <;> simp [he]
    rw [Distinct, hkeys]
    exact h
  · next hk => exact nodup_keys_append h hk

theorem Distinct.mem_values_iff {t : Table β} (h : t.Distinct) {v : β} :
    v ∈ t.values ↔ ∃ k, t.get? k = some v := by
  rw [values, List.mem_map]
  constructor
  · rintro ⟨e, he, rfl⟩
    exact ⟨e.1, (lookup_eq_some_iff h).mpr he⟩
  · rintro ⟨k, hk⟩
    exact ⟨(k, v), (lookup_eq_some_iff h).mp hk, rfl⟩

end TwinDiagram.Table
