import TwinDiagram.Proofs.Interchange.Values
import TwinDiagram.Proofs.Json.Spelling

namespace TwinDiagram.Json

open Interchange (keys_sublist lookup_filterMap)

def outline (j : Json) : Json := j.sortKeys.spelled

theorem render_sortKeys_eq_iff {j k : Json} :
    j.sortKeys.render .line = k.sortKeys.render .line ↔ j.outline = k.outline := render_line_eq_iff

theorem outline_leaf {j : Json} (hj : j.isLeaf) : j.outline = text (.ofList (print .line 0 j)) := by
  have hsort : j.sortKeys = j := by
    cases j with
    | list js => cases hj
    | object fields => cases hj
    | _ => rw [sortKeys] <;> simp
  rw [outline, hsort, spelled_leaf hj]

theorem outline_text_inj {s t : String} : (text s).outline = (text t).outline ↔ s = t := by
  refine ⟨fun h ↦ ?_, fun h ↦ h ▸ rfl⟩
  rw [outline_leaf rfl, outline_leaf rfl, print, print, text.injEq, String.ofList_inj] at h
  have happend : printText s ++ [] = printText t ++ [] := by rw [h]
  exact (printText_append_inj happend).1

theorem outline_decimal (x : Float) : (decimal x).outline = text (Decimal.write decimals x) := by
  rw [outline_leaf rfl, print, String.ofList_toList]

theorem outline_nat_inj {n k : Nat} : (int n).outline = (int k).outline ↔ n = k := by
  refine ⟨fun h ↦ ?_, fun h ↦ h ▸ rfl⟩
  have hdigits (n : Nat) : (int n).outline = text (.ofList (Nat.toDigits 10 n)) := by
    rw [outline_leaf rfl, print, String.ofList_toList]
    exact congrArg text Nat.repr_eq_ofList_toDigits
  rw [hdigits, hdigits, text.injEq, String.ofList_inj] at h
  have hread := congrArg (Nat.ofDigitChars 10 · 0) h
  simpa only [Nat.ofDigitChars_toDigits (show 1 < 10 by decide) (Nat.le_refl 10)] using hread

theorem outline_list (js : List Json) : (list js).outline = list (js.map outline) := by
  rw [outline, sortKeys, sortItems_eq, spelled_list, List.map_map]
  rfl

theorem outline_object (fields : List (String × Json)) :
    (object fields).outline = object ((fields.map fun f ↦ (f.1, f.2.outline)).mergeSort fun a b ↦
      decide (a.1 ≤ b.1)) := by
  rw [outline, sortKeys, sortFields_eq, spelled_object, List.map_mergeSort, List.map_map]
  · rfl
  · exact fun _ _ _ _ ↦ rfl

theorem lookup_of_outline {fields fields' : List (String × Json)}
    (hfields : (fields.map Prod.fst).Nodup) (hfields' : (fields'.map Prod.fst).Nodup)
    (h : (object fields).outline = (object fields').outline) (key : String) :
    (fields.lookup key).map outline = (fields'.lookup key).map outline := by
  rw [outline_object, outline_object, object.injEq] at h
  have hlookup {fields : List (String × Json)} (hkeys : (fields.map Prod.fst).Nodup) :
      ((fields.map fun f ↦ (f.1, f.2.outline)).mergeSort fun a b ↦ decide (a.1 ≤ b.1)).lookup key =
        (fields.lookup key).map outline := by
    rw [← Table.lookup_map fun _ ↦ outline]
    refine (Table.lookup_congr ?_ (List.mergeSort_perm _ _).symm key).symm
    rwa [List.map_map]
  rw [← hlookup hfields, ← hlookup hfields', h]

/-- Records with the same keys have the same outline exactly if their fields have. -/
theorem outline_ofFields_eq_iff (cells cells' : List (String × Option Json))
    (hkeys : cells.map Prod.fst = cells'.map Prod.fst) (hnodup : (cells.map Prod.fst).Nodup) :
    (ofFields cells).outline = (ofFields cells').outline ↔
      cells.map (fun c ↦ (c.1, c.2.map outline)) = cells'.map fun c ↦ (c.1, c.2.map outline) := by
  have hnodup' : (cells'.map Prod.fst).Nodup := hkeys ▸ hnodup
  have hcells {cells : List (String × Option Json)} (hnodup : (cells.map Prod.fst).Nodup) :
      cells.map (fun c ↦ (c.1, c.2.map outline)) = (cells.map Prod.fst).map fun key ↦
        (key, ((cells.filterMap fun c ↦ c.2.map (c.1, ·)).lookup key).map outline) := by
    rw [List.map_map]
    exact List.map_congr_left fun c hc ↦ by rw [Function.comp_apply, lookup_filterMap hnodup hc]
  constructor
  · intro h
    have hlookup := lookup_of_outline (hnodup.sublist (keys_sublist cells))
      (hnodup'.sublist (keys_sublist cells')) h
    rw [hcells hnodup, hcells hnodup', hkeys]
    simp only [hlookup]
  · intro h
    have hfields (cells : List (String × Option Json)) :
        (cells.filterMap fun c ↦ c.2.map (c.1, ·)).map (fun f ↦ (f.1, f.2.outline)) =
          (cells.map fun c ↦ (c.1, c.2.map outline)).filterMap fun c ↦ c.2.map (c.1, ·) := by
      rw [List.map_filterMap, List.filterMap_map]
      congr 1
      funext c
      simp [Function.comp_def]
    rw [ofFields, ofFields, outline_object, outline_object, hfields, hfields, h]

end TwinDiagram.Json
