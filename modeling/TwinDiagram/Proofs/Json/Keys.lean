import TwinDiagram.Json.Basic
import TwinDiagram.Proofs.Table
import Mathlib.Data.List.Nodup

namespace TwinDiagram.Json

/-- No object has a key twice, at any depth. -/
inductive Distinct : Json → Prop
  | null : Distinct null
  | bool (b : Bool) : Distinct (bool b)
  | int (n : Int) : Distinct (int n)
  | decimal (x : Float) : Distinct (decimal x)
  | text (s : String) : Distinct (text s)
  | list {js : List Json} : (∀ j ∈ js, Distinct j) → Distinct (list js)
  | object {fields : List (String × Json)} : (fields.map Prod.fst).Nodup →
      (∀ f ∈ fields, Distinct f.2) → Distinct (object fields)

theorem Distinct.of_mem {js : List Json} {j : Json} (h : Distinct (.list js)) (hj : j ∈ js) :
    j.Distinct := by
  cases h with
  | list hjs => exact hjs j hj

theorem Distinct.keys {fields : List (String × Json)} (h : Distinct (.object fields)) :
    (fields.map Prod.fst).Nodup := by
  cases h with
  | object hkeys _ => exact hkeys

theorem Distinct.of_lookup {fields : List (String × Json)} {key : String} {j : Json}
    (h : Distinct (.object fields)) (hj : fields.lookup key = some j) : j.Distinct := by
  cases h with
  | object hkeys hfields => exact hfields _ ((Table.lookup_eq_some_iff hkeys).mp hj)

mutual

/-- Without the fields that are null, at every depth. -/
def withoutNulls : Json → Json
  | list items => list (withoutNullItems items)
  | object fields => object (withoutNullFields fields)
  | j => j

def withoutNullItems : List Json → List Json
  | [] => []
  | j :: rest => withoutNulls j :: withoutNullItems rest

def withoutNullFields : List (String × Json) → List (String × Json)
  | [] => []
  | (k, j) :: rest =>
    if j.isNull then withoutNullFields rest else (k, withoutNulls j) :: withoutNullFields rest

end

theorem withoutNullItems_eq (js : List Json) : withoutNullItems js = js.map withoutNulls := by
  induction js with
  | nil => rfl
  | cons j js ih => rw [withoutNullItems, ih, List.map_cons]

theorem withoutNullFields_eq (fields : List (String × Json)) :
    withoutNullFields fields =
      (fields.filter (! ·.2.isNull)).map fun f ↦ (f.1, f.2.withoutNulls) := by
  induction fields with
  | nil => rfl
  | cons f fields ih =>
    rw [withoutNullFields, ih, List.filter_cons]
    cases f.2.isNull <;> rfl

theorem sortItems_eq (js : List Json) : sortItems js = js.map sortKeys := by
  induction js with
  | nil => rfl
  | cons j js ih => rw [sortItems, ih, List.map_cons]

theorem sortFields_eq (fields : List (String × Json)) :
    sortFields fields = fields.map fun f ↦ (f.1, f.2.sortKeys) := by
  induction fields with
  | nil => rfl
  | cons f fields ih => rw [sortFields, ih, List.map_cons]

theorem isNull_sortKeys (j : Json) : j.sortKeys.isNull = j.isNull := by
  cases j <;> simp [sortKeys, isNull]

theorem isNull_withoutNulls (j : Json) : j.withoutNulls.isNull = j.isNull := by
  cases j <;> simp [withoutNulls, isNull]

section Keys

variable {fields : List (String × Json)}

theorem nodup_withoutNullFields (h : (fields.map Prod.fst).Nodup) :
    ((withoutNullFields fields).map Prod.fst).Nodup := by
  rw [withoutNullFields_eq, List.map_map]
  exact h.sublist (List.filter_sublist.map Prod.fst)

theorem lookup_withoutNullFields (h : (fields.map Prod.fst).Nodup) (key : String) :
    (withoutNullFields fields).lookup key =
      ((fields.lookup key).filter (! ·.isNull)).map withoutNulls := by
  have hfilter : ((fields.filter (! ·.2.isNull)).map Prod.fst).Nodup :=
    h.sublist (List.filter_sublist.map Prod.fst)
  rw [withoutNullFields_eq, Table.lookup_map fun _ ↦ withoutNulls]
  congr 1
  apply Option.ext
  intro j
  rw [Table.lookup_eq_some_iff hfilter, List.mem_filter, Option.filter_eq_some_iff,
    Table.lookup_eq_some_iff h]

/-- Objects with the same values under the same keys differ in the order of their keys only. -/
theorem sortKeys_object_eq {others : List (String × Json)} (hfields : (fields.map Prod.fst).Nodup)
    (hothers : (others.map Prod.fst).Nodup)
    (h : ∀ key, (fields.lookup key).map sortKeys = (others.lookup key).map sortKeys) :
    (object fields).sortKeys = (object others).sortKeys := by
  have hkeys (xs : List (String × Json)) : (sortFields xs).map Prod.fst = xs.map Prod.fst := by
    rw [sortFields_eq, List.map_map]
    rfl
  have hxs : ((sortFields fields).map Prod.fst).Nodup := by rwa [hkeys]
  have hys : ((sortFields others).map Prod.fst).Nodup := by rwa [hkeys]
  have hperm : (sortFields fields).Perm (sortFields others) := by
    refine (List.perm_ext_iff_of_nodup hxs.of_map hys.of_map).mpr fun f ↦ ?_
    rw [← Table.lookup_eq_some_iff hxs, ← Table.lookup_eq_some_iff hys, sortFields_eq,
      sortFields_eq, Table.lookup_map fun _ ↦ sortKeys, Table.lookup_map fun _ ↦ sortKeys, h f.1]
  have hsorted (xs : List (String × Json)) :
      (xs.mergeSort fun a b ↦ decide (a.1 ≤ b.1)).Pairwise fun a b ↦ a.1 ≤ b.1 := by
    have htrans (a b c : String × Json) (hab : decide (a.1 ≤ b.1)) (hbc : decide (b.1 ≤ c.1)) :
        decide (a.1 ≤ c.1) :=
      decide_eq_true (String.le_trans (of_decide_eq_true hab) (of_decide_eq_true hbc))
    have htotal (a b : String × Json) : decide (a.1 ≤ b.1) || decide (b.1 ≤ a.1) := by
      simp only [Bool.or_eq_true, decide_eq_true_eq]
      exact String.le_total a.1 b.1
    simpa only [decide_eq_true_eq] using List.pairwise_mergeSort htrans htotal xs
  rw [sortKeys, sortKeys]
  congr 1
  refine List.Perm.eq_of_pairwise (fun a b ha hb hab hba ↦ ?_) (hsorted _) (hsorted _)
    ((List.mergeSort_perm _ _).trans (hperm.trans (List.mergeSort_perm _ _).symm))
  -- No two fields have the same key, so there is one way to sort them.
  rw [List.mem_mergeSort] at ha hb
  exact List.inj_on_of_nodup_map hxs ha (hperm.mem_iff.mpr hb) (String.le_antisymm hab hba)

end Keys

end TwinDiagram.Json
