import Mathlib.Data.List.Basic
import Mathlib.Data.List.Nodup
import Mathlib.Order.Lattice

namespace TwinDiagram.Sorting

variable {β γ δ : Type} [LinearOrder β] [LinearOrder γ] (first : δ → β) (second : δ → γ)

def ByValues (le : δ → δ → Bool) : Prop :=
  ∀ a b, le a b ↔ first a < first b ∨ first a = first b ∧ second a ≤ second b

variable {first second} {le : δ → δ → Bool} (hle : ByValues first second le)
include hle

theorem ByValues.trans (a b c : δ) (hab : le a b) (hbc : le b c) : le a c := by
  rw [hle] at hab hbc ⊢
  obtain hab | ⟨hab, hab'⟩ := hab <;> obtain hbc | ⟨hbc, hbc'⟩ := hbc
  · exact .inl (hab.trans hbc)
  · exact .inl (hbc ▸ hab)
  · exact .inl (hab ▸ hbc)
  · exact .inr ⟨hab.trans hbc, hab'.trans hbc'⟩

theorem ByValues.total (a b : δ) : le a b || le b a := by
  rw [Bool.or_eq_true, hle, hle]
  obtain h | h | h := lt_trichotomy (first a) (first b)
  · exact .inl (.inl h)
  · exact (le_total (second a) (second b)).imp (.inr ⟨h, ·⟩) (.inr ⟨h.symm, ·⟩)
  · exact .inr (.inl h)

theorem ByValues.antisymm {a b : δ} (hab : le a b) (hba : le b a) :
    first a = first b ∧ second a = second b := by
  rw [hle] at hab hba
  obtain hab | ⟨hab, hab'⟩ := hab <;> obtain hba | ⟨hba, hba'⟩ := hba
  · exact absurd hba (lt_asymm hab)
  · exact absurd hba.symm hab.ne
  · exact absurd hab.symm hba.ne
  · exact ⟨hab, le_antisymm hab' hba'⟩

theorem mergeSort_congr {xs ys : List δ} (hperm : xs.Perm ys)
    (hinj : ∀ a ∈ xs, ∀ b ∈ xs, first a = first b → second a = second b → a = b) :
    xs.mergeSort le = ys.mergeSort le := by
  refine List.Perm.eq_of_pairwise (fun a b ha hb hab hba ↦ ?_)
    (List.pairwise_mergeSort hle.trans hle.total xs)
    (List.pairwise_mergeSort hle.trans hle.total ys)
    ((List.mergeSort_perm _ _).trans (hperm.trans (List.mergeSort_perm _ _).symm))
  rw [List.mem_mergeSort] at ha hb
  obtain ⟨hfirst, hsecond⟩ := hle.antisymm hab hba
  exact hinj a ha b (hperm.mem_iff.mpr hb) hfirst hsecond

/-- Items with the same values stay in the order that they had. -/
theorem pairwise_mergeSort {R : δ → δ → Prop} {xs : List δ} (h : xs.Pairwise R) :
    (xs.mergeSort le).Pairwise fun a b ↦ first a < first b ∨
      first a = first b ∧ (second a < second b ∨ second a = second b ∧ R a b) := by
  rw [← List.mergeSort_zipIdx, List.pairwise_map]
  have hsorted := List.pairwise_mergeSort (List.zipIdxLE_trans hle.trans)
    (List.zipIdxLE_total hle.total) xs.zipIdx
  have hdistinct : (xs.zipIdx.mergeSort (List.zipIdxLE le)).Pairwise fun p q ↦ p.2 ≠ q.2 := by
    refine List.pairwise_map.mp (((List.mergeSort_perm _ _).map Prod.snd).nodup_iff.mpr ?_)
    rw [List.zipIdx_map_snd]
    exact List.nodup_range'
  refine (hsorted.and hdistinct).imp_of_mem fun {p q} hp hq ⟨hpq, hne⟩ ↦ ?_
  rw [List.mem_mergeSort, List.mem_zipIdx_iff_getElem?] at hp hq
  have hpq' : le p.1 q.1 = true ∧ (le q.1 p.1 = true → p.2 ≤ q.2) := by
    simpa [List.zipIdxLE, imp_iff_not_or] using hpq
  obtain ⟨hforth, hback⟩ := hpq'
  obtain hlt | ⟨heq, hsecond⟩ := (hle p.1 q.1).mp hforth
  · exact .inl hlt
  obtain hlt | hsame := hsecond.lt_or_eq
  · exact .inr ⟨heq, .inl hlt⟩
  have hindex : p.2 < q.2 :=
    Nat.lt_of_le_of_ne (hback ((hle q.1 p.1).mpr (.inr ⟨heq.symm, hsame.ge⟩))) hne
  obtain ⟨hplen, hp⟩ := List.getElem?_eq_some_iff.mp hp
  obtain ⟨hqlen, hq⟩ := List.getElem?_eq_some_iff.mp hq
  refine .inr ⟨heq, .inr ⟨hsame, ?_⟩⟩
  rw [← hp, ← hq]
  exact List.pairwise_iff_getElem.mp h _ _ hplen hqlen hindex

end TwinDiagram.Sorting
