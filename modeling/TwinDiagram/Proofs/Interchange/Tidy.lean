import TwinDiagram.Proofs.Interchange.Published
import TwinDiagram.Proofs.Interchange.RoundTrip

namespace TwinDiagram.Interchange

open Json (sortKeys withoutNulls withoutNullFields Distinct)

/-- What is read from a value is that value in tidy form, up to the order of keys. -/
def Tidies (s : Shape) (tidy : Json → Json) : Prop :=
  ∀ ofText j r, j.Distinct → s.read ⟨ofText, true⟩ j = .ok r → r.sortKeys = (tidy j).sortKeys

namespace Shape

mutual

def plain : Shape → Bool
  | text => true
  | number => false
  | integer => false
  | constant _ => true
  | choice _ => true
  | optional s => s.plain
  | list item => item.plain
  | record info fields => decide (fields.map (·.1.key)).Nodup && plainFields info.required fields
  | tagged cases => plainCases cases

def plainFields (required : List String) : List (Field × Shape) → Bool
  | [] => true
  | (f, s) :: rest =>
    (required.contains f.key || f.default?.any Json.isNull) && s.plain && plainFields required rest

def plainCases : List (String × Shape) → Bool
  | [] => true
  | (_, s) :: rest => s.plain && plainCases rest

end

end Shape

section Record

variable {mode : Mode} {fields : List (Field × Shape)} {given given' found : List (String × Json)}

/-- `given'` is what is given, with what the record fills in. -/
theorem sortKeys_found (h : Found mode given fields found) (hkeys : (fields.map (·.1.key)).Nodup)
    (hgiven' : (given'.map Prod.fst).Nodup)
    (hknown : ∀ key ∈ given'.map Prod.fst, ∃ f ∈ fields, f.1.key = key)
    (hvalue : ∀ f ∈ fields, ∀ r, Settles mode given f r →
      (∃ j, given'.lookup f.1.key = some j ∧ r.sortKeys = j.withoutNulls.sortKeys) ∨
        given'.lookup f.1.key = none ∧ r = .null) :
    (Json.object found).sortKeys = (Json.object given').withoutNulls.sortKeys := by
  rw [withoutNulls]
  apply Json.sortKeys_object_eq (hkeys.sublist h.keys_sublist)
    (Json.nodup_withoutNullFields hgiven')
  intro key
  rw [Json.lookup_withoutNullFields hgiven']
  by_cases hkey : ∃ f ∈ fields, f.1.key = key
  · obtain ⟨f, hf, rfl⟩ := hkey
    obtain ⟨r, hr⟩ := h.settles hf
    rw [h.lookup_eq hkeys hf hr]
    rcases hvalue f hf r hr with ⟨j, hj, hsort⟩ | ⟨hnone, rfl⟩
    · have hnull : r.isNull = j.isNull := by
        rw [← Json.isNull_sortKeys, hsort, Json.isNull_sortKeys, Json.isNull_withoutNulls]
      rw [hj, hnull]
      cases h : j.isNull with
      | true => simp [Option.filter, h]
      | false => simp [Option.filter, h, hsort]
    · rw [hnone]
      rfl
  · have hfound : found.lookup key = none := by
      refine Option.not_isSome_iff_eq_none.mp fun hsome ↦ hkey ?_
      exact List.mem_map.mp (h.keys_sublist.subset (Table.lookup_isSome_iff.mp hsome))
    have hgiven : given'.lookup key = none := by
      refine Option.not_isSome_iff_eq_none.mp fun hsome ↦ hkey ?_
      exact hknown key (Table.lookup_isSome_iff.mp hsome)
    rw [hfound, hgiven]
    rfl

end Record

namespace Tidies

theorem list {s : Shape} {tidy : Json → Json} (h : Tidies s tidy) {ofText : Bool}
    {js rs : List Json} (hjs : (Json.list js).Distinct)
    (hrs : List.Forall₂ (fun j r ↦ s.read ⟨ofText, true⟩ j = .ok r) js rs) :
    (Json.list rs).sortKeys = (Json.list (js.map tidy)).sortKeys := by
  rw [sortKeys, sortKeys, Json.sortItems_eq, Json.sortItems_eq, List.map_map]
  congr 1
  induction hrs with
  | nil => rfl
  | @cons j r js rs hr _ ih =>
    obtain ⟨hj, hjs⟩ := List.forall_mem_cons.mp fun k hk ↦ hjs.of_mem hk
    rw [List.map_cons, List.map_cons, h ofText j r hj hr, ih (.list hjs)]
    rfl

theorem record {info : RecordInfo} {fields : List (Field × Shape)}
    (hkeys : (fields.map (·.1.key)).Nodup)
    (h : ∀ f ∈ fields, (f.1.key ∈ info.required ∨ f.1.default? = some .null) ∧
      Tidies f.2 withoutNulls) : Tidies (.record info fields) withoutNulls := by
  intro ofText j r hj hr
  obtain ⟨given, found, rfl, rfl, hkeyed, hfound⟩ := read_record_eq_ok_iff.mp hr
  apply sortKeys_found hfound hkeys hj.keys hkeyed.known
  intro f hf r hr
  obtain ⟨hdefault, htidies⟩ := h f hf
  cases hr with
  | given hlookup hr => exact .inl ⟨_, hlookup, htidies ofText _ r (hj.of_lookup hlookup) hr⟩
  | default hnone hr =>
    rcases hdefault with hrequired | hdefault
    · rw [← Option.not_isSome_iff_eq_none, Table.lookup_isSome_iff] at hnone
      exact absurd (hkeyed.required _ hrequired) hnone
    · exact .inr ⟨hnone, Option.some.inj (hr.symm.trans hdefault)⟩

end Tidies

namespace Shape

mutual

theorem tidies : ∀ {s : Shape}, s.plain → Tidies s withoutNulls
  | text, _, ofText, j, r, _, hr => by
    obtain ⟨rfl, t, rfl⟩ := read_text_eq_ok_iff.mp hr
    rfl
  | number, h, _, _, _, _, _ => nomatch h
  | integer, h, _, _, _, _, _ => nomatch h
  | constant v, _, ofText, j, r, _, hr => by
    obtain ⟨rfl, rfl⟩ := read_constant_eq_ok_iff.mp hr
    rfl
  | choice vs, _, ofText, j, r, _, hr => by
    obtain ⟨rfl, v, _, rfl⟩ := read_choice_eq_ok_iff.mp hr
    rfl
  | optional s, h, ofText, j, r, hj, hr => by
    rcases read_optional_eq_ok_iff.mp hr with ⟨rfl, rfl⟩ | ⟨_, hr⟩
    · rfl
    · exact tidies (s := s) (by simpa [plain] using h) ofText j r hj hr
  | list item, h, ofText, j, r, hj, hr => by
    obtain ⟨js, rs, rfl, rfl, hrs⟩ := read_list_eq_ok_iff.mp hr
    rw [withoutNulls, Json.withoutNullItems_eq]
    exact Tidies.list (tidies (s := item) (by simpa [plain] using h)) hj hrs
  | record info fields, h, ofText, j, r, hj, hr => by
    rw [plain, Bool.and_eq_true, decide_eq_true_eq] at h
    exact Tidies.record h.1 (tidiesFields h.2) ofText j r hj hr
  | tagged cases, h, ofText, j, r, hj, hr => by
    obtain ⟨name, s, _, hs, hr⟩ := read_tagged_eq_ok_iff.mp hr
    exact tidiesCases h hs ofText j r hj hr

theorem tidiesFields {required : List String} : ∀ {fields : List (Field × Shape)},
    plainFields required fields → ∀ f ∈ fields,
      (f.1.key ∈ required ∨ f.1.default? = some .null) ∧ Tidies f.2 withoutNulls
  | [], _, _, hf => nomatch hf
  | (f, s) :: fields, h, g, hg => by
    simp only [plainFields, Bool.and_eq_true, Bool.or_eq_true, List.contains_iff_mem] at h
    obtain ⟨⟨hdefault, hs⟩, hfields⟩ := h
    rcases List.mem_cons.mp hg with rfl | hg
    · refine ⟨hdefault.imp_right fun hnull ↦ ?_, tidies hs⟩
      obtain ⟨v, hv, hnull⟩ := (Option.any_eq_true _ _).mp hnull
      cases v with
      | null => exact hv
      | _ => cases hnull
    · exact tidiesFields hfields g hg

theorem tidiesCases {name : String} {s : Shape} : ∀ {cases : List (String × Shape)},
    plainCases cases → cases.lookup name = some s → Tidies s withoutNulls
  | [], _, hs => nomatch hs
  | (name', s') :: cases, h, hs => by
    rw [plainCases, Bool.and_eq_true] at h
    rw [List.lookup_cons] at hs
    split at hs
    · exact Option.some.inj hs ▸ tidies h.1
    · exact tidiesCases h.2 hs

end

end Shape

def withKind : Json → Json
  | .object fields =>
    .object ((⟨fields⟩ : Table Json).insertNew "kind" (.text "connection")).entries
  | j => j

def withKindAt (key : String) (j : Json) : Json :=
  if key = "edges" then .list (j.items.map withKind) else j

/-- A graph with the kind of each of its edges. -/
def withKinds : Json → Json
  | .object fields => .object (fields.map fun f ↦ (f.1, withKindAt f.1 f.2))
  | j => j

theorem Tidies.edge : Tidies .edge fun j ↦ (withKind j).withoutNulls := by
  intro ofText j r hj hr
  obtain ⟨given, found, rfl, rfl, hkeyed, hfound⟩ := read_record_eq_ok_iff.mp hr
  apply sortKeys_found hfound (by decide) (Table.nodup_insertNew hj.keys)
  · intro key hkey
    rcases Table.mem_keys_insertNew.mp hkey with rfl | hkey
    · exact ⟨_, .tail _ (.head _), rfl⟩
    · exact hkeyed.known key hkey
  intro (f, s) hf r hr
  have hlookup :
      ((⟨given⟩ : Table Json).insertNew "kind" (.text "connection")).entries.lookup f.key =
      (given.lookup f.key).or (if f.key = "kind" then some (.text "connection") else none) :=
    Table.get?_insertNew ⟨given⟩ "kind" f.key (.text "connection")
  rw [hlookup]
  simp only [List.mem_cons, List.not_mem_nil, or_false] at hf
  cases hr with
  | given hj' hr =>
    refine .inl ⟨_, by rw [hj']; rfl, ?_⟩
    have hplain : s.plain := by rcases hf with hf | hf | hf | hf | hf <;> cases hf <;> decide
    exact Shape.tidies hplain ofText _ r (hj.of_lookup hj') hr
  | default hnone hr =>
    rw [hnone]
    rcases hf with hf | hf | hf | hf | hf <;> cases hf <;> cases hr
    · exact .inl ⟨_, rfl, rfl⟩
    · exact .inr ⟨rfl, rfl⟩

theorem Tidies.graph : Tidies .graph fun j ↦ (withKinds j).withoutNulls := by
  intro ofText j r hj hr
  obtain ⟨given, found, rfl, rfl, hkeyed, hfound⟩ := read_record_eq_ok_iff.mp hr
  have hkeys : (given.map fun f ↦ (f.1, withKindAt f.1 f.2)).map Prod.fst = given.map Prod.fst := by
    rw [List.map_map]
    rfl
  apply sortKeys_found hfound (by decide) (hkeys ▸ hj.keys) (hkeys ▸ hkeyed.known)
  intro f hf r hr
  rw [Table.lookup_map]
  cases hr with
  | given hj' hr =>
    refine .inl ⟨_, by rw [hj']; rfl, ?_⟩
    simp only [List.mem_cons, List.not_mem_nil, or_false] at hf
    rcases hf with hf | hf <;> cases hf
    · exact Shape.tidies (s := .list .node) (by decide) ofText _ r (hj.of_lookup hj') hr
    · obtain ⟨js, rs, rfl, rfl, hrs⟩ := Shape.read_list_eq_ok_iff.mp hr
      have hitems : (withKindAt "edges" (.list js)).withoutNulls =
          .list (js.map fun j ↦ (withKind j).withoutNulls) := by
        rw [withKindAt, if_pos rfl, withoutNulls, Json.withoutNullItems_eq, List.map_map]
        rfl
      rw [hitems]
      exact Tidies.edge.list (hj.of_lookup hj') hrs
  | default hnone hr =>
    rw [← Option.not_isSome_iff_eq_none, Table.lookup_isSome_iff] at hnone
    simp only [List.mem_cons, List.not_mem_nil, or_false] at hf
    rcases hf with hf | hf <;> cases hf <;> exact absurd (hkeyed.required _ (by decide)) hnone

theorem Tidies.model : Tidies .model withoutNulls := Shape.tidies (by decide)

theorem loadModel_eq_ok_iff {j : Json} {m : Model} :
    loadModel (.decoded j) = .ok m ↔ Shape.model.read ⟨false, true⟩ j = .ok m.toJson := by
  rw [loadModel, readAs]
  cases h : Shape.model.read ⟨false, true⟩ j with
  | error f => simp [Except.map, Except.mapError]
  | ok r =>
    obtain ⟨m', rfl⟩ := (@Carries.model 0).written false j r h
    simp only [Except.map, Except.mapError, Except.ok.injEq, Model.ofJson_toJson m']
    exact ⟨congrArg Model.toJson, fun heq ↦ Model.ofJson_toJson.injective heq⟩

theorem loadGraph_eq_ok_iff {j : Json} {g : Graph} :
    loadGraph (.decoded j) = .ok g ↔ Shape.graph.read ⟨false, true⟩ j = .ok g.toJson ∧
      Graph.fault? g.nodes g.edges = none := by
  rw [loadGraph, readAs]
  cases h : Shape.graph.read ⟨false, true⟩ j with
  | error f => simp [bind, Except.bind, Except.mapError]
  | ok r =>
    obtain ⟨g', rfl⟩ := (@Carries.graph 0).written false j r h
    simp only [bind, Except.bind, Except.mapError, Except.ok.injEq, Graph.ofJson_toJson g']
    rw [Graph.ofJson_toJson.injective.eq_iff]
    constructor
    · intro hload
      cases hfault : Graph.fault? g'.nodes g'.edges with
      | none =>
        rw [hfault] at hload
        cases hload
        exact ⟨rfl, hfault⟩
      | some f =>
        rw [hfault] at hload
        cases hload
    · rintro ⟨rfl, hfault⟩
      rw [hfault]
      rfl

theorem textAt_of_read_node {ofText : Bool} {j r : Json}
    (h : Shape.node.read ⟨ofText, true⟩ j = .ok r) : r.textAt "id" = j.textAt "id" := by
  obtain ⟨k, -, hr⟩ := read_node_eq_ok_iff.mp h
  have hfield : r.field? "id" = j.field? "id" := by
    cases k <;> exact field?_of_read_record hr (by decide) (.head _) rfl
  rw [Json.textAt, Json.textAt?, hfield]
  rfl

theorem textAt_of_read_edge {ofText : Bool} {j r : Json}
    (h : Shape.edge.read ⟨ofText, true⟩ j = .ok r) :
    r.textAt "source" = j.textAt "source" ∧ r.textAt "target" = j.textAt "target" := by
  have hsource : r.field? "source" = j.field? "source" :=
    field?_of_read_record h (by decide) (.tail _ (.tail _ (.head _))) rfl
  have htarget : r.field? "target" = j.field? "target" :=
    field?_of_read_record h (by decide) (.tail _ (.tail _ (.tail _ (.head _)))) rfl
  simp only [Json.textAt, Json.textAt?, hsource, htarget, and_self]

/-- The checks on a whole graph see what was given. -/
theorem fault?_eq_none_iff_of_read {j : Json} {g : Graph}
    (h : Shape.graph.read ⟨false, true⟩ j = .ok g.toJson) :
    Graph.fault? g.nodes g.edges = none ↔
      ((j.itemsAt "nodes").map (·.textAt "id")).Nodup ∧
      ∀ e ∈ j.itemsAt "edges", e.textAt "source" ∈ (j.itemsAt "nodes").map (·.textAt "id") ∧
        e.textAt "target" ∈ (j.itemsAt "nodes").map (·.textAt "id") := by
  have hnodes : List.Forall₂ _ (j.itemsAt "nodes") (g.nodes.map Node.toJson) :=
    itemsAt_of_read_record h (by decide) (.head _) (by decide)
  have hedges : List.Forall₂ _ (j.itemsAt "edges") (g.edges.map Edge.toJson) :=
    itemsAt_of_read_record h (by decide) (.tail _ (.head _)) (by decide)
  rw [List.forall₂_map_right_iff] at hnodes hedges
  have hids : (j.itemsAt "nodes").map (·.textAt "id") = g.nodes.map (·.id) := by
    rw [← List.forall₂_eq_eq_eq, List.forall₂_map_left_iff, List.forall₂_map_right_iff]
    refine hnodes.imp ?_
    intro k n hn
    have hid : (Node.ofJson n.toJson).id = n.id := by rw [Node.ofJson_toJson n]
    rw [← textAt_of_read_node hn]
    exact hid
  rw [Graph.fault?_eq_none_iff, hids]
  refine and_congr_right' ?_
  constructor
  · intro hends k hk
    obtain ⟨e, he, hread⟩ := exists_mem_of_forall₂ hedges hk
    obtain ⟨hsource, htarget⟩ := textAt_of_read_edge hread
    rw [← hsource, ← htarget]
    exact hends e he
  · intro hends e he
    obtain ⟨k, hk, hread⟩ := exists_mem_of_forall₂ hedges.flip he
    obtain ⟨hsource, htarget⟩ := textAt_of_read_edge hread
    have hk := hends k hk
    rw [← hsource, ← htarget] at hk
    exact hk

/-- Of all decoded values, exactly the published ones are loaded, and what is loaded says what was
given: without nulls, with the kind of each edge, and up to the order of keys. -/
theorem loads_published {d : Json} (hd : d.Distinct) (htext : ∀ t, d ≠ .text t) :
    ((∃ m, loadModel (.ofJson d) = .ok m) ↔ IsModel d) ∧
    ((∃ g, loadGraph (.ofJson d) = .ok g) ↔ IsGraph d) ∧
    (∀ m, loadModel (.ofJson d) = .ok m → m.toJson.sortKeys = d.withoutNulls.sortKeys) ∧
    ∀ g, loadGraph (.ofJson d) = .ok g →
      g.toJson.sortKeys = (withKinds d).withoutNulls.sortKeys := by
  rw [Source.ofJson_eq_decoded htext]
  simp only [loadModel_eq_ok_iff, loadGraph_eq_ok_iff]
  refine ⟨?_, ?_, fun m hm ↦ Tidies.model false d _ hd hm,
    fun g hg ↦ Tidies.graph false d _ hd hg.1⟩
  · rw [← Accepts.model false d hd]
    constructor
    · intro ⟨m, hm⟩
      exact ⟨_, hm⟩
    · intro ⟨r, hr⟩
      obtain ⟨m, rfl⟩ := (@Carries.model 0).written false d r hr
      exact ⟨m, hr⟩
  · rw [IsGraph, ← Accepts.graph false d hd]
    constructor
    · intro ⟨g, hg, hfault⟩
      exact ⟨⟨_, hg⟩, (fault?_eq_none_iff_of_read hg).mp hfault⟩
    · intro ⟨⟨r, hr⟩, hends⟩
      obtain ⟨g, rfl⟩ := (@Carries.graph 0).written false d r hr
      exact ⟨g, hr, (fault?_eq_none_iff_of_read hr).mpr hends⟩

theorem loads_published_of_unlabelled :
    let d : Json := .object [("edges", .list [.object [("source", .text "a"), ("id", .text "e"),
      ("target", .text "a"), ("label", .null)]]),
        ("nodes", .list [.object [("type", .text "dartwin"),
      ("id", .text "a"), ("label", .text "")]])]
    ∃ g, loadGraph (.ofJson d) = .ok g ∧
      g.toJson.sortKeys = (withKinds d).withoutNulls.sortKeys := by
  intro d
  have hload : loadGraph (.ofJson d) =
      .ok ⟨[⟨"a", "", .root⟩], [⟨"e", .connection, "a", "a", none⟩]⟩ := rfl
  have hd : d.Distinct := by
    refine .object (by decide) ?_
    simp only [List.forall_mem_cons, List.not_mem_nil, false_implies, implies_true, and_true]
    constructor
    · apply Distinct.list
      simp only [List.forall_mem_cons, List.not_mem_nil, false_implies, implies_true, and_true]
      refine .object (by decide) ?_
      simp [Distinct.text, Distinct.null]
    · apply Distinct.list
      simp only [List.forall_mem_cons, List.not_mem_nil, false_implies, implies_true, and_true]
      refine .object (by decide) ?_
      simp [Distinct.text]
  exact ⟨_, hload, (loads_published hd (by simp [d])).2.2.2 _ hload⟩

end TwinDiagram.Interchange
