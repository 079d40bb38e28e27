import TwinDiagram.Interchange.Records
import TwinDiagram.Proofs.Table
import Mathlib.Data.List.Forall2

namespace TwinDiagram.Interchange

variable {α : Type} {mode : Mode} {j r : Json}

theorem within_eq_ok_iff {key : String} {x : Except Fault α} {a : α} :
    within key x = .ok a ↔ x = .ok a := by
  cases x <;> simp [within, Except.mapError]

theorem exists_mem_of_forall₂ {α β : Type} {R : α → β → Prop} {as : List α} {bs : List β}
    (h : List.Forall₂ R as bs) {a : α} (ha : a ∈ as) : ∃ b ∈ bs, R a b := by
  induction h with
  | nil => cases ha
  | cons hab _ ih =>
    rcases List.mem_cons.mp ha with rfl | ha
    · exact ⟨_, .head _, hab⟩
    · obtain ⟨b, hb, h⟩ := ih ha
      exact ⟨b, .tail _ hb, h⟩

theorem exists_forall₂_iff {α β : Type} {R : α → β → Prop} {as : List α} :
    (∃ bs, List.Forall₂ R as bs) ↔ ∀ a ∈ as, ∃ b, R a b := by
  induction as with
  | nil => simp
  | cons a as ih =>
    rw [List.forall_mem_cons, ← ih]
    simp only [List.forall₂_cons_left_iff]
    grind

theorem bind_eq_ok_iff {β : Type} {x : Except Fault α} {f : α → Except Fault β} {b : β} :
    x >>= f = .ok b ↔ ∃ a, x = .ok a ∧ f a = .ok b := by
  cases x <;> simp [bind, Except.bind]

theorem readAll_eq_ok_iff {item : Json → Except Fault Json} {index : Nat} {js rs : List Json} :
    readAll item index js = .ok rs ↔ List.Forall₂ (fun j r ↦ item j = .ok r) js rs := by
  induction js generalizing index rs with
  | nil => simp [readAll, eq_comm]
  | cons j js ih =>
    simp only [readAll, bind_eq_ok_iff, within_eq_ok_iff, ih, List.forall₂_cons_left_iff]
    constructor
    · rintro ⟨r, hr, rs, hrs, ⟨⟩⟩
      exact ⟨r, rs, hr, hrs, rfl⟩
    · rintro ⟨r, rs, hr, hrs, rfl⟩
      exact ⟨r, hr, rs, hrs, rfl⟩

namespace Shape

theorem read_text_eq_ok_iff : text.read mode j = .ok r ↔ r = j ∧ ∃ t, j = .text t := by
  cases j <;> simp [read, Json.text?, fail, eq_comm]

theorem read_constant_eq_ok_iff {v : String} :
    (constant v).read mode j = .ok r ↔ r = j ∧ j = .text v := by
  simp only [read]
  cases j <;> simp [Json.text?, fail]
  split <;> simp_all [eq_comm]

theorem read_choice_eq_ok_iff {vs : List String} :
    (choice vs).read mode j = .ok r ↔ r = j ∧ ∃ v ∈ vs, j = .text v := by
  simp only [read]
  cases j <;> simp [Json.text?, fail]
  split <;> simp_all [eq_comm]

theorem read_optional_eq_ok_iff {s : Shape} :
    (optional s).read mode j = .ok r ↔
      r = .null ∧ j = .null ∨ j ≠ .null ∧ s.read mode j = .ok r := by
  cases j <;> simp [read, Json.isNull, eq_comm]

theorem read_list_eq_ok_iff {item : Shape} :
    (list item).read mode j = .ok r ↔ ∃ js rs, j = .list js ∧ r = .list rs ∧
      List.Forall₂ (fun j r ↦ item.read mode j = .ok r) js rs := by
  cases j with
  | list js =>
    simp only [read, Json.list.injEq, exists_and_left, exists_eq_left']
    cases h : readAll (item.read mode) 0 js with
    | ok rs =>
      have hrs := readAll_eq_ok_iff.mp h
      constructor
      · rintro ⟨⟩
        exact ⟨rs, rfl, hrs⟩
      · rintro ⟨rs', rfl, hrs'⟩
        rw [← h, readAll_eq_ok_iff.mpr hrs']
        rfl
    | error f =>
      constructor
      · rintro ⟨⟩
      · rintro ⟨rs', rfl, hrs'⟩
        rw [readAll_eq_ok_iff.mpr hrs'] at h
        cases h
  | _ => simp [read, fail]

end Shape

inductive Settles (mode : Mode) (given : List (String × Json)) : Field × Shape → Json → Prop
  | given {f : Field} {s : Shape} {j r : Json} :
      given.lookup f.key = some j → s.read mode j = .ok r → Settles mode given (f, s) r
  | default {f : Field} {s : Shape} {r : Json} :
      given.lookup f.key = none → f.default? = some r → Settles mode given (f, s) r

/-- The fields after reading, in the order of the shape and without those that are null. -/
inductive Found (mode : Mode) (given : List (String × Json)) :
    List (Field × Shape) → List (String × Json) → Prop
  | nil : Found mode given [] []
  | kept {f : Field × Shape} {r : Json} {fields : List (Field × Shape)}
      {found : List (String × Json)} : Settles mode given f r → r.isNull = false →
      Found mode given fields found → Found mode given (f :: fields) ((f.1.key, r) :: found)
  | dropped {f : Field × Shape} {fields : List (Field × Shape)} {found : List (String × Json)} :
      Settles mode given f .null → Found mode given fields found →
      Found mode given (f :: fields) found

structure Keyed (info : RecordInfo) (fields : List (Field × Shape)) (given : List (String × Json)) :
    Prop where
  required : ∀ key ∈ info.required, key ∈ given.map Prod.fst
  unspelled : ∀ f ∈ fields, ∀ key, f.1.spelling = some key → key ∉ given.map Prod.fst
  known : ∀ key ∈ given.map Prod.fst, ∃ f ∈ fields, f.1.key = key

structure Complete (required : List String) (fields : List Field) : Prop where
  distinct : (fields.map (·.key)).Nodup
  known : ∀ key ∈ required, key ∈ fields.map (·.key)
  settled : ∀ f ∈ fields, f.key ∈ required ∨ f.default?.isSome
  spelled : ∀ f ∈ fields, ∀ g ∈ fields, f.spelling ≠ some g.key

section Record

variable {info : RecordInfo} {fields : List (Field × Shape)} {given found : List (String × Json)}

theorem checkKeys_eq_ok_iff : checkKeys info (fields.map Prod.fst) given = .ok () ↔
    (∀ key ∈ info.required, key ∈ given.map Prod.fst) ∧
      ∀ f ∈ fields, ∀ key, f.1.spelling = some key → key ∉ given.map Prod.fst := by
  have hrequired : info.required.find? (fun key ↦ ! (given.lookup key).isSome) = none ↔
      ∀ key ∈ info.required, key ∈ given.map Prod.fst := by
    simp only [List.find?_eq_none, Bool.not_eq_true, Bool.not_eq_false', Table.lookup_isSome_iff]
  have hspelling : ((fields.map Prod.fst).filterMap (·.spelling)).find?
      (fun key ↦ (given.lookup key).isSome) = none ↔
      ∀ f ∈ fields, ∀ key, f.1.spelling = some key → key ∉ given.map Prod.fst := by
    simp only [List.find?_eq_none, Table.lookup_isSome_iff, List.mem_filterMap, List.mem_map]
    grind
  rw [← hrequired, ← hspelling, checkKeys]
  cases info.required.find? fun key ↦ ! (given.lookup key).isSome with
  | some key => simp
  | none =>
    cases ((fields.map Prod.fst).filterMap (·.spelling)).find? fun key ↦
      (given.lookup key).isSome <;> simp

theorem given?_eq {f : Field} (h : ∀ key, f.spelling = some key → key ∉ given.map Prod.fst) :
    given? f given = (given.lookup f.key).map (f.key, ·) := by
  unfold given?
  cases given.lookup f.key with
  | some j => rfl
  | none =>
    cases hs : f.spelling with
    | none => rfl
    | some key =>
      have hnone : given.lookup key = none := by
        rw [← Option.not_isSome_iff_eq_none, Table.lookup_isSome_iff]
        exact h key hs
      rw [Option.bind_some, hnone]
      rfl

theorem checkUnknown_eq_ok_iff
    (h : ∀ f ∈ fields, ∀ key, f.1.spelling = some key → key ∉ given.map Prod.fst) :
    checkUnknown (fields.map Prod.fst) given = .ok () ↔
      ∀ key ∈ given.map Prod.fst, ∃ f ∈ fields, f.1.key = key := by
  have hused (key : String) (hkey : key ∈ given.map Prod.fst) :
      key ∈ (fields.map Prod.fst).filterMap (fun f ↦ (given? f given).map Prod.fst) ↔
        ∃ f ∈ fields, f.1.key = key := by
    obtain ⟨j, hj⟩ := Option.isSome_iff_exists.mp (Table.lookup_isSome_iff.mpr hkey)
    rw [List.filterMap_map, List.mem_filterMap]
    constructor
    · rintro ⟨f, hf, hsome⟩
      rw [Function.comp_apply, given?_eq (h f hf), Option.map_map] at hsome
      obtain ⟨_, -, heq⟩ := Option.map_eq_some_iff.mp hsome
      exact ⟨f, hf, heq⟩
    · rintro ⟨f, hf, rfl⟩
      refine ⟨f, hf, ?_⟩
      rw [Function.comp_apply, given?_eq (h f hf), hj]
      rfl
  have hfind : given.find? (fun p ↦ ! ((fields.map Prod.fst).filterMap fun f ↦
      (given? f given).map Prod.fst).contains p.1) = none ↔
      ∀ key ∈ given.map Prod.fst, ∃ f ∈ fields, f.1.key = key := by
    rw [List.find?_eq_none, List.forall_mem_map]
    refine forall₂_congr fun p hp ↦ ?_
    rw [← hused p.1 (List.mem_map_of_mem hp)]
    simp only [Bool.not_eq_true, Bool.not_eq_false', List.contains_iff_mem]
  rw [← hfind, checkUnknown]
  cases given.find? fun p ↦ ! ((fields.map Prod.fst).filterMap fun f ↦
    (given? f given).map Prod.fst).contains p.1 <;> simp

def settle (mode : Mode) (given : List (String × Json)) (f : Field × Shape) : Except Fault Json :=
  match given? f.1 given with
  | some (key, j) => within key (f.2.read mode j)
  | none =>
    match f.1.default? with
    | some j => .ok j
    | none => .error ⟨[f.1.key], .missing⟩

theorem readFields_cons (mode : Mode) (given : List (String × Json)) (f : Field × Shape)
    (fields : List (Field × Shape)) :
    Shape.readFields mode given (f :: fields) = settle mode given f >>= fun r ↦
      Shape.readFields mode given fields >>= fun found ↦
        .ok (if r.isNull then found else (f.1.key, r) :: found) := by
  obtain ⟨f, s⟩ := f
  rw [Shape.readFields, settle]
  cases given? f given with
  | some p => rfl
  | none => cases f.default? <;> rfl

theorem settle_eq_ok_iff {f : Field × Shape}
    (h : ∀ key, f.1.spelling = some key → key ∉ given.map Prod.fst) :
    settle mode given f = .ok r ↔ Settles mode given f r := by
  rw [settle, given?_eq h]
  cases hlookup : given.lookup f.1.key with
  | some j =>
    simp only [Option.map_some, within_eq_ok_iff]
    constructor
    · exact .given hlookup
    · intro hr
      cases hr with
      | given hj hr => exact Option.some.inj (hlookup.symm.trans hj) ▸ hr
      | default hnone _ => cases hlookup.symm.trans hnone
  | none =>
    simp only [Option.map_none]
    constructor
    · intro hr
      split at hr
      · next v hdefault =>
        cases hr
        exact .default hlookup hdefault
      · cases hr
    · intro hr
      cases hr with
      | given hj _ => cases hlookup.symm.trans hj
      | default _ hdefault => rw [hdefault]

theorem readFields_eq_ok_iff
    (h : ∀ f ∈ fields, ∀ key, f.1.spelling = some key → key ∉ given.map Prod.fst) :
    Shape.readFields mode given fields = .ok found ↔ Found mode given fields found := by
  induction fields generalizing found with
  | nil =>
    rw [Shape.readFields]
    constructor
    · rintro ⟨⟩
      exact .nil
    · rintro ⟨⟩
      rfl
  | cons f fields ih =>
    obtain ⟨hf, hfields⟩ := List.forall_mem_cons.mp h
    simp only [readFields_cons, bind_eq_ok_iff, settle_eq_ok_iff hf, ih hfields]
    constructor
    · rintro ⟨r, hr, rest, hrest, hfound⟩
      cases hfound
      cases hnull : r.isNull with
      | true =>
        cases r with
        | null => exact .dropped hr hrest
        | _ => cases hnull
      | false => exact .kept hr hnull hrest
    · intro hfound
      cases hfound with
      | kept hr hnull hrest => exact ⟨_, hr, _, hrest, by rw [hnull]; rfl⟩
      | dropped hr hrest => exact ⟨_, hr, _, hrest, rfl⟩

/-- A record is read exactly from an object of its keys, field by field. -/
theorem read_record_eq_ok_iff {ofText : Bool} :
    (Shape.record info fields).read ⟨ofText, true⟩ j = .ok r ↔
      ∃ given found, j = .object given ∧ r = .object found ∧ Keyed info fields given ∧
        Found ⟨ofText, true⟩ given fields found := by
  cases j with
  | object given =>
    simp only [Shape.read, if_true, bind_eq_ok_iff, Json.object.injEq]
    constructor
    · rintro ⟨⟨⟩, hkeys, found, hfound, ⟨⟩, hknown, hr⟩
      cases hr
      obtain ⟨hrequired, hunspelled⟩ := checkKeys_eq_ok_iff.mp hkeys
      exact ⟨given, found, rfl, rfl,
        ⟨hrequired, hunspelled, (checkUnknown_eq_ok_iff hunspelled).mp hknown⟩,
        (readFields_eq_ok_iff hunspelled).mp hfound⟩
    · rintro ⟨_, found, rfl, rfl, hkeyed, hfound⟩
      exact ⟨(), checkKeys_eq_ok_iff.mpr ⟨hkeyed.required, hkeyed.unspelled⟩, found,
        (readFields_eq_ok_iff hkeyed.unspelled).mpr hfound, (),
        (checkUnknown_eq_ok_iff hkeyed.unspelled).mpr hkeyed.known, rfl⟩
  | _ => simp [Shape.read, fail]

theorem Settles.unique {f : Field × Shape} {r' : Json} (h : Settles mode given f r)
    (h' : Settles mode given f r') : r = r' := by
  cases h with
  | given hj hr =>
    cases h' with
    | given hj' hr' =>
      cases hj.symm.trans hj'
      exact Except.ok.inj (hr.symm.trans hr')
    | default hnone _ => cases hj.symm.trans hnone
  | default hnone hr =>
    cases h' with
    | given hj _ => cases hj.symm.trans hnone
    | default _ hr' => exact Option.some.inj (hr.symm.trans hr')

theorem Found.settles (h : Found mode given fields found) {f : Field × Shape} (hf : f ∈ fields) :
    ∃ r, Settles mode given f r := by
  induction h with
  | nil => cases hf
  | kept hr _ _ ih =>
    rcases List.mem_cons.mp hf with rfl | hf
    · exact ⟨_, hr⟩
    · exact ih hf
  | dropped hr _ ih =>
    rcases List.mem_cons.mp hf with rfl | hf
    · exact ⟨_, hr⟩
    · exact ih hf

theorem exists_found (h : ∀ f ∈ fields, ∃ r, Settles mode given f r) :
    ∃ found, Found mode given fields found := by
  induction fields with
  | nil => exact ⟨[], .nil⟩
  | cons f fields ih =>
    obtain ⟨hf, hfields⟩ := List.forall_mem_cons.mp h
    obtain ⟨r, hr⟩ := hf
    obtain ⟨found, hfound⟩ := ih hfields
    cases hnull : r.isNull with
    | true =>
      cases r with
      | null => exact ⟨found, .dropped hr hfound⟩
      | _ => cases hnull
    | false => exact ⟨_, .kept hr hnull hfound⟩

theorem Found.keys_sublist (h : Found mode given fields found) :
    (found.map Prod.fst).Sublist (fields.map (·.1.key)) := by
  induction h with
  | nil => exact .slnil
  | kept _ _ _ ih => exact ih.cons_cons _
  | dropped _ _ ih => exact ih.cons _

theorem Found.lookup_eq (h : Found mode given fields found) (hkeys : (fields.map (·.1.key)).Nodup)
    {f : Field × Shape} (hf : f ∈ fields) (hr : Settles mode given f r) :
    found.lookup f.1.key = if r.isNull then none else some r := by
  induction h with
  | nil => cases hf
  | @kept g r' fields found hr' hnull hfound ih =>
    obtain ⟨hg, hfields⟩ := List.nodup_cons.mp hkeys
    rcases List.mem_cons.mp hf with rfl | hf
    · rw [List.lookup_cons_self, hr.unique hr', hnull]
      rfl
    · have hne : f.1.key ≠ g.1.key := fun heq ↦ hg (List.mem_map.mpr ⟨f, hf, heq⟩)
      rw [List.lookup_cons, beq_eq_false_iff_ne.mpr hne]
      exact ih hfields hf
  | @dropped g fields found hr' hfound ih =>
    obtain ⟨hg, hfields⟩ := List.nodup_cons.mp hkeys
    rcases List.mem_cons.mp hf with rfl | hf
    · rw [hr.unique hr']
      refine Option.not_isSome_iff_eq_none.mp fun hsome ↦ hg ?_
      exact hfound.keys_sublist.subset (Table.lookup_isSome_iff.mp hsome)
    · exact ih hfields hf

theorem field?_of_read_record {ofText : Bool} {f : Field}
    (h : (Shape.record info fields).read ⟨ofText, true⟩ j = .ok r)
    (hkeys : (fields.map (·.1.key)).Nodup) (hf : (f, .text) ∈ fields)
    (hdefault : f.default? = none) :
    r.field? f.key = j.field? f.key := by
  obtain ⟨given, found, rfl, rfl, -, hfound⟩ := read_record_eq_ok_iff.mp h
  obtain ⟨r, hr⟩ := hfound.settles hf
  have hlookup := hfound.lookup_eq hkeys hf hr
  cases hr with
  | given hj hr =>
    obtain ⟨rfl, t, rfl⟩ := Shape.read_text_eq_ok_iff.mp hr
    exact hlookup.trans hj.symm
  | default _ hr => cases hdefault.symm.trans hr

/-- The items of a required list are read one by one. -/
theorem itemsAt_of_read_record {ofText : Bool} {f : Field} {s : Shape}
    (h : (Shape.record info fields).read ⟨ofText, true⟩ j = .ok r)
    (hkeys : (fields.map (·.1.key)).Nodup) (hf : (f, .list s) ∈ fields)
    (hrequired : f.key ∈ info.required) :
    List.Forall₂ (fun k r ↦ s.read ⟨ofText, true⟩ k = .ok r) (j.itemsAt f.key)
      (r.itemsAt f.key) := by
  obtain ⟨given, found, rfl, rfl, hkeyed, hfound⟩ := read_record_eq_ok_iff.mp h
  obtain ⟨r, hr⟩ := hfound.settles hf
  have hlookup := hfound.lookup_eq hkeys hf hr
  cases hr with
  | given hj hr =>
    obtain ⟨js, rs, rfl, rfl, hrs⟩ := Shape.read_list_eq_ok_iff.mp hr
    have hfield : (Json.object found).field? f.key = some (.list rs) := hlookup
    have hgiven : (Json.object given).field? f.key = some (.list js) := hj
    rw [Json.itemsAt, Json.itemsAt, hfield, hgiven]
    exact hrs
  | default hnone _ =>
    rw [← Option.not_isSome_iff_eq_none, Table.lookup_isSome_iff] at hnone
    exact absurd (hkeyed.required _ hrequired) hnone

end Record

namespace Shape

theorem readCase_eq_ok_iff {tags : List String} {tag : Json} {cases : List (String × Shape)} :
    readCase mode tags tag j cases = .ok r ↔
      ∃ name s, tag = .text name ∧ cases.lookup name = some s ∧ s.read mode j = .ok r := by
  induction cases with
  | nil => simp [readCase, fail]
  | cons c cases ih =>
    obtain ⟨name, s⟩ := c
    rw [readCase]
    by_cases htag : tag.text? = some name
    · obtain ⟨t, rfl⟩ : ∃ t, tag = .text t := by
        cases tag with
        | text t => exact ⟨t, rfl⟩
        | _ => cases htag
      cases htag
      simp [Json.text?, within_eq_ok_iff]
    · rw [if_neg htag, ih]
      refine exists_congr fun t ↦ exists_congr fun s' ↦ and_congr_right fun ht ↦ ?_
      have hne : t ≠ name := by
        rintro rfl
        exact htag (ht ▸ rfl)
      rw [List.lookup_cons, beq_eq_false_iff_ne.mpr hne]

theorem read_tagged_eq_ok_iff {cases : List (String × Shape)} :
    (tagged cases).read mode j = .ok r ↔ ∃ name s, j.field? "type" = some (.text name) ∧
      cases.lookup name = some s ∧ s.read mode j = .ok r := by
  cases j with
  | object given =>
    simp only [read, Json.field?]
    cases hlookup : given.lookup "type" with
    | none => simp [fail]
    | some tag => simp [readCase_eq_ok_iff]
  | _ => simp [read, fail, Json.field?]

end Shape

theorem lookup_nodes {name : String} {s : Shape} :
    (NodeKind.all.map fun k ↦ (k.tag, Shape.nodeOfKind k)).lookup name = some s ↔
      ∃ k : NodeKind, name = k.tag ∧ s = .nodeOfKind k := by
  rw [Table.lookup_eq_some_iff (by decide), List.mem_map]
  constructor
  · intro ⟨k, _, hk⟩
    cases hk
    exact ⟨k, rfl, rfl⟩
  · intro ⟨k, hname, hs⟩
    subst hname hs
    exact ⟨k, by cases k <;> decide, rfl⟩

theorem read_node_eq_ok_iff : Shape.node.read mode j = .ok r ↔
    ∃ k : NodeKind, j.field? "type" = some (.text k.tag) ∧
      (Shape.nodeOfKind k).read mode j = .ok r := by
  simp only [Shape.node, Shape.read_tagged_eq_ok_iff, lookup_nodes]
  constructor
  · intro ⟨_, _, htype, ⟨k, hname, hs⟩, hr⟩
    subst hname hs
    exact ⟨k, htype, hr⟩
  · intro ⟨k, htype, hr⟩
    exact ⟨k.tag, _, htype, ⟨k, rfl, rfl⟩, hr⟩

end TwinDiagram.Interchange
