import TwinDiagram.Port.Order
import TwinDiagram.Proofs.Sorting
import Mathlib.Data.String.Basic

namespace TwinDiagram.Port

variable {canonical : List String} {key : String} {p : Nat}

def LastPlace (canonical : List String) (key : String) (p : Nat) : Prop :=
  canonical[p]? = some key ∧ ∀ j, p < j → canonical[j]? ≠ some key

/-- Where a key puts its ports. -/
def Place (canonical : List String) (key : String) (p : Nat) : Prop :=
  LastPlace canonical key p ∨ key ∉ canonical ∧ p = canonical.eraseDups.length

theorem rank_place (canonical : List String) (key : String) :
    Place canonical key (rank canonical key) := by
  rw [rank]
  split
  · next i h =>
    obtain ⟨hi, hkey, hfirst⟩ := List.idxOf?_eq_some_iff.mp h
    have hlength : i < canonical.length := by simpa using hi
    refine .inl ⟨?_, fun j hj hlast ↦ ?_⟩
    · rw [← List.getElem?_reverse hlength, List.getElem?_eq_getElem hi, hkey]
    · obtain ⟨hj', hlast⟩ := List.getElem?_eq_some_iff.mp hlast
      refine hfirst (canonical.length - 1 - j) (by omega) ?_
      simpa [List.getElem_reverse,
        show canonical.length - 1 - (canonical.length - 1 - j) = j by omega]
        using hlast
  · next h => exact .inr ⟨by simpa using List.idxOf?_eq_none_iff.mp h, rfl⟩

theorem LastPlace.mem (h : LastPlace canonical key p) : key ∈ canonical := List.mem_of_getElem? h.1

theorem Place.unique {q : Nat} (h : Place canonical key p) (h' : Place canonical key q) :
    p = q := by
  obtain h | ⟨h, rfl⟩ := h <;> obtain h' | ⟨h', rfl⟩ := h'
  · obtain hlt | heq | hgt := Nat.lt_trichotomy p q
    · exact absurd h'.1 (h.2 q hlt)
    · exact heq
    · exact absurd h.1 (h'.2 p hgt)
  · exact absurd h.mem h'
  · exact absurd h'.mem h
  · rfl

theorem byValues_precedes {α : Type} (order : List String) (name : α → String) :
    Sorting.ByValues (fun x ↦ rank order (PortRole.key (name x))) name
      fun a b ↦ precedes order (name a) (name b) := fun a b ↦ by simp [precedes]

theorem eraseDups_of_nodup (h : canonical.Nodup) : canonical.eraseDups = canonical := by
  induction canonical with
  | nil => rfl
  | cons k rest ih =>
    obtain ⟨hk, hrest⟩ := List.nodup_cons.mp h
    have hfilter : rest.filter (fun k' ↦ ! k' == k) = rest :=
      List.filter_eq_self.mpr fun k' hk' ↦ by
        simpa using fun heq : k' = k ↦ hk (heq ▸ hk')
    rw [List.eraseDups_cons, hfilter, ih hrest]

theorem Place.mem_iff (hnodup : canonical.Nodup) (h : Place canonical key p) :
    key ∈ canonical ↔ p < canonical.length := by
  obtain h | ⟨hkey, rfl⟩ := h
  · exact iff_of_true h.mem (List.getElem?_eq_some_iff.mp h.1).1
  · rw [eraseDups_of_nodup hnodup]
    exact iff_of_false hkey (Nat.lt_irrefl _)

variable (names canonical : List String)

theorem order_perm : (order names canonical).Perm (List.range names.length) := by
  rw [order, sortBy, List.range_eq_range', ← List.zipIdx_map_snd 0]
  exact (List.mergeSort_perm _ _).map Prod.snd

theorem pairwise_order : (order names canonical).Pairwise fun i j ↦
    ∀ a b, names[i]? = some a → names[j]? = some b →
      ∀ p q, Place canonical (PortRole.key a) p → Place canonical (PortRole.key b) q →
        p < q ∨ p = q ∧ (a < b ∨ a = b ∧ i < j) := by
  have hdeclared : names.zipIdx.Pairwise fun m n ↦ m.2 < n.2 := by
    rw [← List.pairwise_map, List.zipIdx_map_snd]
    exact List.pairwise_lt_range'
  rw [order, List.pairwise_map]
  refine (Sorting.pairwise_mergeSort (byValues_precedes canonical Prod.fst) hdeclared).imp_of_mem
    fun {m n} hm hn hmn a b ha hb p q hp hq ↦ ?_
  rw [sortBy, List.mem_mergeSort, List.mem_zipIdx_iff_getElem?] at hm hn
  cases hm.symm.trans ha
  cases hn.symm.trans hb
  rw [hp.unique (rank_place _ _), hq.unique (rank_place _ _)]
  exact hmn

/-- Drawing order is by place, then by name, then as declared. So names with a key in the list come
first if the list names no key twice. If it does, the last places of its keys need not come before
the number of different ones. -/
theorem order_by_place :
    (order names canonical).Perm (List.range names.length) ∧
    (order names canonical).Pairwise fun i j ↦
      ∀ a b, names[i]? = some a → names[j]? = some b →
        (∀ p q, Place canonical (PortRole.key a) p → Place canonical (PortRole.key b) q →
          p < q ∨ p = q ∧ (a < b ∨ a = b ∧ i < j)) ∧
        (canonical.Nodup → PortRole.key b ∈ canonical → PortRole.key a ∈ canonical) := by
  refine ⟨order_perm names canonical, (pairwise_order names canonical).imp ?_⟩
  refine fun {i j} h a b ha hb ↦ ⟨h a b ha hb, fun hnodup hknown ↦ ?_⟩
  have hp := rank_place canonical (PortRole.key a)
  have hq := rank_place canonical (PortRole.key b)
  rw [hq.mem_iff hnodup] at hknown
  rw [hp.mem_iff hnodup]
  obtain h | ⟨h, -⟩ := h a b ha hb _ _ hp hq <;> omega

/-- Two of these spellings have the same key, so that only two places are counted, and the third is
not before the place of a name without key. -/
theorem order_repeated_key : ¬ ∀ names canonical : List String,
    (order names canonical).Pairwise fun i j ↦ ∀ a b, names[i]? = some a → names[j]? = some b →
      PortRole.key b ∈ canonical → PortRole.key a ∈ canonical := by
  intro h
  have hkeys : ["irrigation", "IrrigationActuator", "human"].map PortRole.key =
      ["irrigation", "irrigation", "human"] := by decide +kernel
  have hsorted : ["a_extra", "human_output"].zipIdx.Pairwise fun m n ↦
      precedes ["irrigation", "irrigation", "human"] m.1 n.1 := by decide +kernel
  have horder :
      order ["a_extra", "human_output"] ["irrigation", "irrigation", "human"] = [0, 1] := by
    rw [order, sortBy, List.mergeSort_of_pairwise hsorted]
    rfl
  have hpair := h ["a_extra", "human_output"]
    (["irrigation", "IrrigationActuator", "human"].map PortRole.key)
  rw [hkeys, horder, List.pairwise_pair] at hpair
  exact absurd (hpair "a_extra" "human_output" rfl rfl (by decide +kernel)) (by decide +kernel)

end TwinDiagram.Port
