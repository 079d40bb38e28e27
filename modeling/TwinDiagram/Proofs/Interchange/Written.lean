import TwinDiagram.Proofs.Interchange.Values

namespace TwinDiagram.Interchange

open Json (ReadsBack Textual ofFields)

namespace Shape

variable {ofText : Bool}

mutual

/-- Interchange reads nothing that is not read without its rules, and reads it alike. -/
theorem read_of_interchange : ∀ {s : Shape} {j r : Json},
    s.read ⟨ofText, true⟩ j = .ok r → s.read ⟨ofText, false⟩ j = .ok r
  | text, _, _, h => by
    rw [read] at h ⊢
    exact h
  | number, _, _, h => by
    rw [read] at h ⊢
    exact h
  | integer, _, _, h => by
    rw [read] at h ⊢
    exact h
  | constant _, _, _, h => by
    rw [read] at h ⊢
    exact h
  | choice _, _, _, h => by
    rw [read] at h ⊢
    exact h
  | optional s, j, r, h => by
    rw [read_optional_eq_ok_iff] at h ⊢
    exact h.imp_right fun ⟨hnull, h⟩ ↦ ⟨hnull, read_of_interchange h⟩
  | list item, j, r, h => by
    rw [read_list_eq_ok_iff] at h ⊢
    obtain ⟨js, rs, hj, hr, h⟩ := h
    exact ⟨js, rs, hj, hr, h.imp fun _ _ ↦ read_of_interchange⟩
  | record info fields, j, r, h => by
    cases j with
    | object given =>
      simp only [read, if_true, Bool.false_eq_true, if_false, bind_eq_ok_iff] at h ⊢
      obtain ⟨-, -, found, hfound, h⟩ := h
      exact ⟨found, readFields_of_interchange hfound, h⟩
    | _ => simp [read, fail] at h
  | tagged cases, j, r, h => by
    cases j with
    | object given =>
      simp only [read] at h ⊢
      split at h
      · cases h
      · exact readCase_of_interchange h
    | _ => simp [read, fail] at h

theorem readFields_of_interchange : ∀ {fields : List (Field × Shape)}
    {given found : List (String × Json)}, readFields ⟨ofText, true⟩ given fields = .ok found →
    readFields ⟨ofText, false⟩ given fields = .ok found
  | [], _, _, h => by
    rw [readFields] at h ⊢
    exact h
  | (f, s) :: fields, given, found, h => by
    rw [readFields_cons, bind_eq_ok_iff] at h ⊢
    obtain ⟨r, hr, h⟩ := h
    obtain ⟨rest, hrest, h⟩ := bind_eq_ok_iff.mp h
    refine ⟨r, ?_, bind_eq_ok_iff.mpr ⟨rest, readFields_of_interchange hrest, h⟩⟩
    unfold settle at hr ⊢
    cases hgiven : given? f given with
    | none =>
      rw [hgiven] at hr
      exact hr
    | some p =>
      rw [hgiven] at hr
      exact within_eq_ok_iff.mpr (read_of_interchange (within_eq_ok_iff.mp hr))

theorem readCase_of_interchange {tags : List String} {tag : Json} :
    ∀ {cases : List (String × Shape)} {j r : Json},
    readCase ⟨ofText, true⟩ tags tag j cases = .ok r →
    readCase ⟨ofText, false⟩ tags tag j cases = .ok r
  | [], _, _, h => by
    rw [readCase] at h ⊢
    exact h
  | (name, s) :: cases, j, r, h => by
    rw [readCase] at h ⊢
    split at h
    · rw [if_pos ‹_›]
      exact within_eq_ok_iff.mpr (read_of_interchange (within_eq_ok_iff.mp h))
    · rw [if_neg ‹_›]
      exact readCase_of_interchange h

end

end Shape

structure Survives (depth : Nat) (s : Shape) (j : Json) : Prop where
  reads : ∀ ofText, s.read ⟨ofText, true⟩ j = .ok j
  textual : Textual depth j

structure SurvivesField (depth : Nat) (f : Field × Shape) (c : String × Option Json) : Prop where
  key : c.1 = f.1.key
  survives : ∀ j, c.2 = some j → Survives depth f.2 j
  missing : c.2 = none → f.1.default? = some .null

variable {α : Type} {depth : Nat} {s : Shape} {j : Json}

theorem Carries.survives {write : α → Json} (h : Carries depth s write) (a : α) :
    Survives depth s (write a) := ⟨fun ofText ↦ h.reads ofText a, h.textual a⟩

namespace SurvivesField

theorem given {f : Field} (h : Survives depth s j) :
    SurvivesField depth (f, s) (f.key, some j) where
  key := rfl
  survives _ hj := Option.some.inj hj ▸ h
  missing h := nomatch h

theorem absent {key : String} {write : α → Json} {o : Option α}
    (h : ∀ a, o = some a → Survives depth s (write a)) :
    SurvivesField depth (Shape.absent key s) (key, o.map write) where
  key := rfl
  survives j hj := by
    obtain ⟨a, ha, rfl⟩ := Option.map_eq_some_iff.mp hj
    have hpresent := isNull_of_textual (h a ha).textual
    refine ⟨fun ofText ↦ Shape.read_optional_eq_ok_iff.mpr (.inr ⟨fun hnull ↦ ?_, ?_⟩),
      (h a ha).textual⟩
    · rw [hnull] at hpresent
      cases hpresent
    · exact (h a ha).reads ofText
  missing _ := rfl

end SurvivesField

namespace Survives

theorem number {x : Float} (h : ReadsBack x) : Survives depth .number (.decimal x) where
  reads _ := by rw [Shape.read, readNumber]
  textual := .decimal depth h

theorem choice {vs : List String} {v : String} (h : v ∈ vs) : Survives depth (.choice vs) (.text v)
    where
  reads _ := Shape.read_choice_eq_ok_iff.mpr ⟨rfl, v, h, rfl⟩
  textual := .text depth v

theorem labels {label : α → String} {all : List α} (h : ∀ a, a ∈ all) {o : Option α} (t : String)
    (ht : o.map label = some t) : Survives depth (.choice (all.map label)) (.text t) := by
  obtain ⟨a, -, rfl⟩ := Option.map_eq_some_iff.mp ht
  exact choice (List.mem_map_of_mem (h a))

theorem list {write : α → Json} {as : List α} (h : ∀ a ∈ as, Survives depth s (write a)) :
    Survives (depth + 1) (.list s) (.list (as.map write)) where
  reads ofText := by
    refine Shape.read_list_eq_ok_iff.mpr ⟨_, _, rfl, rfl, ?_⟩
    rw [List.forall₂_map_left_iff, List.forall₂_map_right_iff, List.forall₂_same]
    exact fun a ha ↦ (h a ha).reads ofText
  textual := .list (List.forall_mem_map.mpr fun a ha ↦ (h a ha).textual)

/-- A record without keys that interchange asks for, field by field. -/
theorem record {info : RecordInfo} {fields : List (Field × Shape)}
    {cells : List (String × Option Json)} (h : List.Forall₂ (SurvivesField depth) fields cells)
    (hrequired : info.required = []) (hdistinct : ((fields.map Prod.fst).map (·.key)).Nodup)
    (hspelled : ∀ f ∈ fields.map Prod.fst, f.spelling = none) :
    Survives (depth + 1) (.record info fields) (ofFields cells) := by
  have hnone (key : String) : key ∉ info.required := by
    rw [hrequired]
    exact List.not_mem_nil
  have hfits (ofText : Bool) : List.Forall₂ (Fits ofText info.required) fields cells :=
    h.imp fun f c hc ↦ ⟨hc.key, fun j hj ↦ ⟨(hc.survives j hj).reads ofText,
      isNull_of_textual (hc.survives j hj).textual⟩, fun hc' ↦ ⟨hnone _, hc.missing hc'⟩⟩
  refine ⟨fun ofText ↦ read_ofFields hdistinct (fun key hkey ↦ absurd hkey (hnone key))
    (fun f hf _ _ ↦ ?_) (hfits ofText),
    .object ((nodup_cells hdistinct (hfits true)).sublist (keys_sublist _)) fun f hf ↦ ?_⟩
  · rw [hspelled f hf]
    exact nofun
  · obtain ⟨c, hc, hsome⟩ := List.mem_filterMap.mp hf
    obtain ⟨j, hj, rfl⟩ := Option.map_eq_some_iff.mp hsome
    obtain ⟨g, -, hg⟩ := exists_mem_of_forall₂ h.flip hc
    exact (hg.survives j hj).textual

end Survives

end TwinDiagram.Interchange
