import TwinDiagram.Proofs.Interchange.Reading
import TwinDiagram.Proofs.Json.Keys

namespace TwinDiagram.Interchange

def IsText (j : Json) : Prop := ∃ t, j = .text t

def IsOneOf (vs : List String) (j : Json) : Prop := ∃ v ∈ vs, j = .text v

def IsNullOr (P : Json → Prop) (j : Json) : Prop := j = .null ∨ P j

def IsListOf (P : Json → Prop) (j : Json) : Prop := ∃ js, j = .list js ∧ ∀ k ∈ js, P k

def IsRecord (required : List String) (published : List (String × (Json → Prop)))
    (j : Json) : Prop :=
  ∃ fields, j = .object fields ∧ (∀ key ∈ required, key ∈ fields.map Prod.fst) ∧
    ∀ f ∈ fields, ∃ P, (f.1, P) ∈ published ∧ P f.2

def IsTwin : Json → Prop :=
  IsRecord ["name", "ports"] [("name", IsText), ("ports", IsListOf IsText)]

def IsConnection : Json → Prop :=
  IsRecord ["from", "to"] [("from", IsText), ("to", IsText), ("name", IsNullOr IsText)]

def IsGoal : Json → Prop := IsRecord ["name"] [("name", IsText), ("doc", IsNullOr IsText)]

def IsAllocation : Json → Prop :=
  IsRecord ["goal", "target"] [("goal", IsText), ("target", IsText)]

def IsSystem : Json → Prop :=
  IsRecord ["name", "digital_twins", "original_twins", "connections"]
    [("name", IsText), ("digital_twins", IsListOf IsTwin), ("original_twins", IsListOf IsTwin),
      ("connections", IsListOf IsConnection)]

def IsSlice : Json → Prop :=
  IsRecord [] [("systems", IsNullOr (IsListOf IsSystem)), ("goals", IsNullOr (IsListOf IsGoal)),
    ("allocations", IsNullOr (IsListOf IsAllocation))]

def IsTransform : Json → Prop :=
  IsRecord [] [("before", IsNullOr IsSlice), ("core", IsNullOr IsSlice),
    ("after", IsNullOr IsSlice)]

def IsModel : Json → Prop :=
  IsRecord ["type", "name", "systems", "goals", "allocations"]
    [("type", IsOneOf ["DarTwin"]), ("name", IsText), ("systems", IsListOf IsSystem),
      ("goals", IsListOf IsGoal), ("allocations", IsListOf IsAllocation),
      ("dartrans", IsNullOr IsTransform)]

def IsRootNode : Json → Prop :=
  IsRecord ["id", "type", "label"]
    [("id", IsText), ("label", IsText), ("type", IsOneOf ["dartwin"])]

def IsChildNode (tag : String) (more : List (String × (Json → Prop))) : Json → Prop :=
  IsRecord ["id", "type", "label", "parentId"]
    ([("id", IsText), ("label", IsText), ("parentId", IsText), ("type", IsOneOf [tag])] ++ more)

def IsNodeOf : NodeKind → Json → Prop
  | .root => IsRootNode
  | .system => IsChildNode "twinsystem" []
  | .digitalTwin => IsChildNode "dt" []
  | .part => IsChildNode "at" []
  | .port => IsChildNode "port" []
  | .goal => IsChildNode "goal" [("doc", IsNullOr IsText)]

def IsNode (j : Json) : Prop := ∃ k, IsNodeOf k j

def IsEdge : Json → Prop :=
  IsRecord ["id", "source", "target"]
    [("id", IsText), ("kind", IsOneOf ["connection", "allocation"]), ("source", IsText),
      ("target", IsText), ("label", IsNullOr IsText)]

/-- Identifiers of nodes are distinct, and edges end at nodes. -/
def IsGraph (j : Json) : Prop :=
  IsRecord ["nodes", "edges"] [("nodes", IsListOf IsNode), ("edges", IsListOf IsEdge)] j ∧
    ((j.itemsAt "nodes").map (·.textAt "id")).Nodup ∧
    ∀ e ∈ j.itemsAt "edges", e.textAt "source" ∈ (j.itemsAt "nodes").map (·.textAt "id") ∧
      e.textAt "target" ∈ (j.itemsAt "nodes").map (·.textAt "id")

def Accepts (s : Shape) (P : Json → Prop) : Prop :=
  ∀ ofText j, j.Distinct → ((∃ r, s.read ⟨ofText, true⟩ j = .ok r) ↔ P j)

namespace Accepts

variable {s : Shape} {P : Json → Prop}

theorem text : Accepts .text IsText := by
  intro ofText j _
  simp [Shape.read_text_eq_ok_iff, IsText]

theorem constant (v : String) : Accepts (.constant v) (IsOneOf [v]) := by
  intro ofText j _
  simp [Shape.read_constant_eq_ok_iff, IsOneOf]

theorem choice (vs : List String) : Accepts (.choice vs) (IsOneOf vs) := by
  intro ofText j _
  simp [Shape.read_choice_eq_ok_iff, IsOneOf]

theorem optional (h : Accepts s P) : Accepts (.optional s) (IsNullOr P) := by
  intro ofText j hj
  rw [IsNullOr, ← h ofText j hj]
  by_cases hnull : j = .null <;> simp [Shape.read_optional_eq_ok_iff, hnull]

theorem list (h : Accepts s P) : Accepts (.list s) (IsListOf P) := by
  intro ofText j hj
  constructor
  · intro ⟨r, hr⟩
    obtain ⟨js, rs, rfl, -, hrs⟩ := Shape.read_list_eq_ok_iff.mp hr
    have hread := exists_forall₂_iff.mp ⟨rs, hrs⟩
    exact ⟨js, rfl, fun k hk ↦ (h ofText k (hj.of_mem hk)).mp (hread k hk)⟩
  · intro ⟨js, hlist, hjs⟩
    subst hlist
    obtain ⟨rs, hrs⟩ := exists_forall₂_iff.mpr fun k hk ↦
      (h ofText k (hj.of_mem hk)).mpr (hjs k hk)
    exact ⟨.list rs, Shape.read_list_eq_ok_iff.mpr ⟨js, rs, rfl, rfl, hrs⟩⟩

section Record

variable {info : RecordInfo} {fields : List (Field × Shape)}
  {published : List (String × (Json → Prop))} (ofText : Bool) {j : Json}
  (h : List.Forall₂ (fun f p ↦ f.1.key = p.1 ∧ Accepts f.2 p.2) fields published)
include h

/-- What is read has the published fields. -/
theorem isRecord_of_read (hj : j.Distinct) {r : Json}
    (hr : (Shape.record info fields).read ⟨ofText, true⟩ j = .ok r) :
    IsRecord info.required published j := by
  obtain ⟨given, found, rfl, rfl, hkeyed, hfound⟩ := read_record_eq_ok_iff.mp hr
  refine ⟨given, rfl, hkeyed.required, fun g hg ↦ ?_⟩
  obtain ⟨f, hf, hkey⟩ := hkeyed.known g.1 (List.mem_map_of_mem hg)
  obtain ⟨p, hp, hfp, haccepts⟩ := exists_mem_of_forall₂ h hf
  have hlookup : given.lookup f.1.key = some g.2 :=
    (Table.lookup_eq_some_iff hj.keys).mpr (hkey ▸ hg)
  refine ⟨p.2, by rwa [← hkey, hfp], ?_⟩
  obtain ⟨r, hr⟩ := hfound.settles hf
  cases hr with
  | given hj' hr =>
    cases hlookup.symm.trans hj'
    exact (haccepts ofText _ (hj.of_lookup hlookup)).mp ⟨_, hr⟩
  | default hnone _ => cases hlookup.symm.trans hnone

variable (hinfo : Complete info.required (fields.map Prod.fst))
  {given : List (String × Json)} (hj : (Json.object given).Distinct)
  (hfields : ∀ f ∈ given, ∃ P, (f.1, P) ∈ published ∧ P f.2)
include hj hfields

theorem exists_read_of_given {g : String × Json} (hg : g ∈ given) :
    ∃ f ∈ fields, f.1.key = g.1 ∧ ∃ r, f.2.read ⟨ofText, true⟩ g.2 = .ok r := by
  obtain ⟨P, hP, hg'⟩ := hfields g hg
  obtain ⟨f, hf, hkey, haccepts⟩ := exists_mem_of_forall₂ h.flip hP
  have hlookup := (Table.lookup_eq_some_iff hj.keys).mpr hg
  exact ⟨f, hf, hkey, (haccepts ofText g.2 (hj.of_lookup hlookup)).mpr hg'⟩

variable (hrequired : ∀ key ∈ info.required, key ∈ given.map Prod.fst)
include hinfo hrequired

/-- A field that is not given has a default, for it is not required. -/
theorem exists_settles {f : Field × Shape} (hf : f ∈ fields) :
    ∃ r, Settles ⟨ofText, true⟩ given f r := by
  have hkeys : (fields.map (·.1.key)).Nodup := by simpa [Function.comp_def] using hinfo.distinct
  cases hlookup : given.lookup f.1.key with
  | some j =>
    obtain ⟨f', hf', hkey, r, hr⟩ := exists_read_of_given ofText h hj hfields
      ((Table.lookup_eq_some_iff hj.keys).mp hlookup)
    rw [List.inj_on_of_nodup_map hkeys hf' hf hkey] at hr
    exact ⟨r, .given hlookup hr⟩
  | none =>
    have hmissing : f.1.key ∉ info.required := by
      intro hmem
      rw [← Option.not_isSome_iff_eq_none, Table.lookup_isSome_iff] at hlookup
      exact hlookup (hrequired _ hmem)
    have hdefault := (hinfo.settled f.1 (List.mem_map_of_mem hf)).resolve_left hmissing
    obtain ⟨r, hr⟩ := Option.isSome_iff_exists.mp hdefault
    exact ⟨r, .default hlookup hr⟩

theorem exists_read_of_isRecord :
    ∃ r, (Shape.record info fields).read ⟨ofText, true⟩ (.object given) = .ok r := by
  obtain ⟨found, hfound⟩ := exists_found fun f (hf : f ∈ fields) ↦
    exists_settles ofText h hinfo hj hfields hrequired hf
  refine ⟨.object found, read_record_eq_ok_iff.mpr ⟨given, found, rfl, rfl, ?_, hfound⟩⟩
  refine ⟨hrequired, fun f hf key hkey hmem ↦ ?_, ?_⟩
  · obtain ⟨g, hg, rfl⟩ := List.mem_map.mp hmem
    obtain ⟨f', hf', hkey', -⟩ := exists_read_of_given ofText h hj hfields hg
    exact hinfo.spelled f.1 (List.mem_map_of_mem hf) f'.1 (List.mem_map_of_mem hf')
      (hkey.trans (congrArg some hkey'.symm))
  · rw [List.forall_mem_map]
    intro g hg
    obtain ⟨f, hf, hkey, -⟩ := exists_read_of_given ofText h hj hfields hg
    exact ⟨f, hf, hkey⟩

end Record

theorem record {info : RecordInfo} {fields : List (Field × Shape)}
    {published : List (String × (Json → Prop))}
    (hinfo : Complete info.required (fields.map Prod.fst))
    (h : List.Forall₂ (fun f p ↦ f.1.key = p.1 ∧ Accepts f.2 p.2) fields published) :
    Accepts (.record info fields) (IsRecord info.required published) := by
  intro ofText j hj
  constructor
  · intro ⟨r, hr⟩
    exact isRecord_of_read ofText h hj hr
  · intro ⟨given, hobject, hrequired, hfields⟩
    subst hobject
    exact exists_read_of_isRecord ofText h hinfo hj hfields hrequired

theorem twin (name : String) : Accepts (.twin name) IsTwin := by
  have hcomplete : Complete ["name", "ports"]
      [(Shape.required "name" .text).1, (Shape.items "ports" .text).1] :=
    ⟨by decide, by decide, by decide, by decide⟩
  apply record hcomplete
  exact .cons ⟨rfl, text⟩ (.cons ⟨rfl, text.list⟩ .nil)

theorem connection : Accepts .connection IsConnection := by
  apply record ⟨by decide, by decide, by decide, by decide⟩
  exact .cons ⟨rfl, text⟩ (.cons ⟨rfl, text⟩ (.cons ⟨rfl, text.optional⟩ .nil))

theorem goal : Accepts .goal IsGoal := by
  apply record ⟨by decide, by decide, by decide, by decide⟩
  exact .cons ⟨rfl, text⟩ (.cons ⟨rfl, text.optional⟩ .nil)

theorem allocation : Accepts .allocation IsAllocation := by
  apply record ⟨by decide, by decide, by decide, by decide⟩
  exact .cons ⟨rfl, text⟩ (.cons ⟨rfl, text⟩ .nil)

theorem system : Accepts .system IsSystem := by
  apply record ⟨by decide, by decide, by decide, by decide⟩
  exact .cons ⟨rfl, text⟩ (.cons ⟨rfl, (twin _).list⟩ (.cons ⟨rfl, (twin _).list⟩
    (.cons ⟨rfl, connection.list⟩ .nil)))

theorem slice : Accepts .slice IsSlice := by
  apply record ⟨by decide, by decide, by decide, by decide⟩
  exact .cons ⟨rfl, system.list.optional⟩ (.cons ⟨rfl, goal.list.optional⟩
    (.cons ⟨rfl, allocation.list.optional⟩ .nil))

theorem transform : Accepts .transform IsTransform := by
  apply record ⟨by decide, by decide, by decide, by decide⟩
  exact .cons ⟨rfl, slice.optional⟩ (.cons ⟨rfl, slice.optional⟩
    (.cons ⟨rfl, slice.optional⟩ .nil))

theorem model : Accepts .model IsModel := by
  apply record ⟨by decide, by decide, by decide, by decide⟩
  exact .cons ⟨rfl, constant _⟩ (.cons ⟨rfl, text⟩ (.cons ⟨rfl, system.list⟩
    (.cons ⟨rfl, goal.list⟩ (.cons ⟨rfl, allocation.list⟩
      (.cons ⟨rfl, transform.optional⟩ .nil)))))

theorem nodeOfKind (k : NodeKind) : Accepts (.nodeOfKind k) (IsNodeOf k) := by
  cases k with
  | root =>
    apply record ⟨by decide, by decide, by decide, by decide⟩
    exact .cons ⟨rfl, text⟩ (.cons ⟨rfl, text⟩ (.cons ⟨rfl, constant _⟩ .nil))
  | goal =>
    apply record ⟨by decide, by decide, by decide, by decide⟩
    exact .cons ⟨rfl, text⟩ (.cons ⟨rfl, text⟩ (.cons ⟨rfl, text⟩ (.cons ⟨rfl, constant _⟩
      (.cons ⟨rfl, text.optional⟩ .nil))))
  | _ =>
    apply record ⟨by decide, by decide, by decide, by decide⟩
    exact .cons ⟨rfl, text⟩ (.cons ⟨rfl, text⟩ (.cons ⟨rfl, text⟩ (.cons ⟨rfl, constant _⟩ .nil)))

theorem edge : Accepts .edge IsEdge := by
  apply record ⟨by decide, by decide, by decide, by decide⟩
  exact .cons ⟨rfl, text⟩ (.cons ⟨rfl, choice _⟩ (.cons ⟨rfl, text⟩ (.cons ⟨rfl, text⟩
    (.cons ⟨rfl, text.optional⟩ .nil))))

end Accepts

theorem IsRecord.exists_field {required : List String} {published : List (String × (Json → Prop))}
    {j : Json} (h : IsRecord required published j) (hj : j.Distinct) (key : String)
    (hkey : key ∈ required) : ∃ P v, (key, P) ∈ published ∧ j.field? key = some v ∧ P v := by
  obtain ⟨fields, rfl, hrequired, hfields⟩ := h
  obtain ⟨f, hf, rfl⟩ := List.mem_map.mp (hrequired key hkey)
  obtain ⟨P, hP, hvalue⟩ := hfields f hf
  exact ⟨P, f.2, hP, (Table.lookup_eq_some_iff hj.keys).mpr hf, hvalue⟩

theorem IsNodeOf.type {k : NodeKind} {j : Json} (h : IsNodeOf k j) (hj : j.Distinct) :
    j.field? "type" = some (.text k.tag) := by
  cases k <;>
  · obtain ⟨P, v, hP, hfield, hv⟩ := IsRecord.exists_field h hj "type" (by decide)
    simp at hP
    subst hP
    obtain ⟨_, ht, rfl⟩ := hv
    rw [hfield, List.mem_singleton.mp ht]
    rfl

theorem Accepts.node : Accepts .node IsNode := by
  intro ofText j hj
  simp only [read_node_eq_ok_iff]
  constructor
  · intro ⟨r, k, _, hr⟩
    exact ⟨k, (Accepts.nodeOfKind k ofText j hj).mp ⟨r, hr⟩⟩
  · intro ⟨k, hk⟩
    obtain ⟨r, hr⟩ := (Accepts.nodeOfKind k ofText j hj).mpr hk
    exact ⟨r, k, hk.type hj, hr⟩

theorem Accepts.graph : Accepts .graph
    (IsRecord ["nodes", "edges"] [("nodes", IsListOf IsNode), ("edges", IsListOf IsEdge)]) := by
  apply record ⟨by decide, by decide, by decide, by decide⟩
  exact .cons ⟨rfl, node.list⟩ (.cons ⟨rfl, edge.list⟩ .nil)

end TwinDiagram.Interchange
