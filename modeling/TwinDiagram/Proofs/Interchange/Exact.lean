import TwinDiagram.Proofs.Interchange.Tidy
import TwinDiagram.Proofs.Interchange.Written

namespace TwinDiagram.Interchange

/-- The records in a value that is held against a shape: what they are, their fields and what they
are given. -/
inductive RecordIn :
    Shape → Json → RecordInfo → List (Field × Shape) → List (String × Json) → Prop
  | here {info : RecordInfo} {fields : List (Field × Shape)} {given : List (String × Json)} :
      RecordIn (.record info fields) (.object given) info fields given
  | field {info info' : RecordInfo} {fields fields' : List (Field × Shape)}
      {given given' : List (String × Json)} {f : Field × Shape} {key : String} {j : Json} :
      f ∈ fields → given? f.1 given = some (key, j) → RecordIn f.2 j info' fields' given' →
      RecordIn (.record info fields) (.object given) info' fields' given'
  | optional {s : Shape} {j : Json} {info : RecordInfo} {fields : List (Field × Shape)}
      {given : List (String × Json)} :
      j ≠ .null → RecordIn s j info fields given → RecordIn (.optional s) j info fields given
  | item {s : Shape} {j : Json} {js : List Json} {info : RecordInfo}
      {fields : List (Field × Shape)} {given : List (String × Json)} :
      j ∈ js → RecordIn s j info fields given → RecordIn (.list s) (.list js) info fields given
  | case {s : Shape} {j : Json} {cases : List (String × Shape)} {tag : String} {info : RecordInfo}
      {fields : List (Field × Shape)} {given : List (String × Json)} :
      j.field? "type" = some (.text tag) → cases.lookup tag = some s →
      RecordIn s j info fields given → RecordIn (.tagged cases) j info fields given

/-- All records in the value have the keys required of them, and none in another spelling. -/
structure Exact (s : Shape) (j : Json) : Prop where
  required : ∀ {info fields given}, RecordIn s j info fields given →
    ∀ key ∈ info.required, key ∈ given.map Prod.fst
  published : ∀ {info fields given}, RecordIn s j info fields given →
    ∀ f ∈ fields, ∀ key, f.1.spelling = some key → key ∉ given.map Prod.fst

variable {mode mode' : Mode} {info : RecordInfo} {fields : List (Field × Shape)}
  {given found : List (String × Json)} {j r : Json}

theorem forall₂_imp_of_mem {α β : Type} {R S : α → β → Prop} {as : List α} {bs : List β}
    (h : ∀ a ∈ as, ∀ b, R a b → S a b) (hR : List.Forall₂ R as bs) : List.Forall₂ S as bs := by
  induction hR with
  | nil => exact .nil
  | cons hab _ ih =>
    obtain ⟨ha, has⟩ := List.forall_mem_cons.mp h
    exact .cons (ha _ hab) (ih has)

theorem sizeOf_snd_lt {κ : Type} [SizeOf κ] {es : List (κ × Shape)} {e : κ × Shape} (h : e ∈ es) :
    sizeOf e.2 < sizeOf es := by
  have hlt := List.sizeOf_lt_of_mem h
  obtain ⟨k, s⟩ := e
  simp only [Prod.mk.sizeOf_spec] at hlt ⊢
  omega

namespace Exact

theorem mono {s s' : Shape} {j' : Json} (h : Exact s j)
    (hsub : ∀ {info fields given}, RecordIn s' j' info fields given →
      RecordIn s j info fields given) :
    Exact s' j' := ⟨fun h' ↦ h.required (hsub h'), fun h' ↦ h.published (hsub h')⟩

theorem checkKeys (h : Exact (.record info fields) (.object given)) :
    checkKeys info (fields.map Prod.fst) given = .ok () :=
  checkKeys_eq_ok_iff.mpr ⟨h.required .here, h.published .here⟩

end Exact

namespace Shape

theorem read_object_eq_ok_iff : (record info fields).read mode (.object given) = .ok r ↔
    (mode.interchange → checkKeys info (fields.map Prod.fst) given = .ok ()) ∧
      ∃ found, readFields mode given fields = .ok found ∧
        checkUnknown (fields.map Prod.fst) given = .ok () ∧ r = .object found := by
  have hfields : (do
        let found ← readFields mode given fields
        checkUnknown (fields.map Prod.fst) given
        return Json.object found) = .ok r ↔
      ∃ found, readFields mode given fields = .ok found ∧
        checkUnknown (fields.map Prod.fst) given = .ok () ∧ r = .object found := by
    simp only [bind_eq_ok_iff, pure, Except.pure, Except.ok.injEq]
    refine exists_congr fun found ↦ and_congr_right' ⟨?_, ?_⟩
    · rintro ⟨⟨⟩, h, hr⟩
      exact ⟨h, hr.symm⟩
    · rintro ⟨h, hr⟩
      exact ⟨(), h, hr.symm⟩
  rw [read]
  cases mode.interchange with
  | true =>
    simp only [if_true, bind_eq_ok_iff (x := checkKeys _ _ _), hfields, forall_const]
    constructor
    · rintro ⟨⟨⟩, h⟩
      exact h
    · exact fun h ↦ ⟨(), h⟩
  | false =>
    simp only [Bool.false_eq_true, if_false, false_implies, true_and]
    exact hfields

theorem exists_object_of_read (h : (record info fields).read mode j = .ok r) :
    ∃ given, j = .object given := by
  cases j with
  | object given => exact ⟨given, rfl⟩
  | _ => simp [read, fail] at h

theorem exists_settle_of_readFields (h : readFields mode given fields = .ok found)
    {f : Field × Shape} (hf : f ∈ fields) : ∃ r, settle mode given f = .ok r := by
  induction fields generalizing found with
  | nil => cases hf
  | cons f' fields ih =>
    rw [readFields_cons, bind_eq_ok_iff] at h
    obtain ⟨r, hr, h⟩ := h
    obtain ⟨rest, hrest, -⟩ := bind_eq_ok_iff.mp h
    obtain rfl | hf := List.mem_cons.mp hf
    · exact ⟨r, hr⟩
    · exact ih hrest hf

theorem readFields_congr
    (hfields : ∀ f ∈ fields, ∀ r, settle mode given f = .ok r → settle mode' given f = .ok r)
    (h : readFields mode given fields = .ok found) : readFields mode' given fields = .ok found := by
  induction fields generalizing found with
  | nil =>
    rw [readFields] at h ⊢
    exact h
  | cons f fields ih =>
    obtain ⟨hf, hfields⟩ := List.forall_mem_cons.mp hfields
    rw [readFields_cons, bind_eq_ok_iff] at h ⊢
    obtain ⟨r, hr, h⟩ := h
    obtain ⟨rest, hrest, h⟩ := bind_eq_ok_iff.mp h
    exact ⟨r, hf r hr, bind_eq_ok_iff.mpr ⟨rest, ih hfields hrest, h⟩⟩

end Shape

/-- What interchange reads is exact. -/
theorem Exact.of_read {ofText : Bool} {s : Shape} (h : s.read ⟨ofText, true⟩ j = .ok r) :
    Exact s j := by
  suffices hkeys : ∀ {info fields given}, RecordIn s j info fields given →
      Interchange.checkKeys info (fields.map Prod.fst) given = .ok () from
    ⟨fun h' ↦ (checkKeys_eq_ok_iff.mp (hkeys h')).1, fun h' ↦ (checkKeys_eq_ok_iff.mp (hkeys h')).2⟩
  intro info fields given hrecord
  induction hrecord generalizing r with
  | here => exact (Shape.read_object_eq_ok_iff.mp h).1 rfl
  | field hf hgiven _ ih =>
    obtain ⟨-, found, hfound, -⟩ := Shape.read_object_eq_ok_iff.mp h
    obtain ⟨r, hr⟩ := Shape.exists_settle_of_readFields hfound hf
    rw [settle, hgiven] at hr
    exact ih (within_eq_ok_iff.mp hr)
  | optional hnull _ ih =>
    rw [Shape.read_optional_eq_ok_iff] at h
    exact ih (h.resolve_left fun h ↦ hnull h.2).2
  | item hj _ ih =>
    obtain ⟨_, rs, ⟨⟩, -, hitems⟩ := Shape.read_list_eq_ok_iff.mp h
    obtain ⟨r, -, hr⟩ := exists_mem_of_forall₂ hitems hj
    exact ih hr
  | case htype hcase _ ih =>
    obtain ⟨tag, s, htype', hcase', hr⟩ := Shape.read_tagged_eq_ok_iff.mp h
    cases htype.symm.trans htype'
    cases hcase.symm.trans hcase'
    exact ih hr

/-- What is exact is read by interchange, if it is read at all. -/
theorem Exact.read {ofText : Bool} : ∀ {s : Shape} {j r : Json}, Exact s j →
    s.read ⟨ofText, false⟩ j = .ok r → s.read ⟨ofText, true⟩ j = .ok r
  | .text, _, _, _, h | .number, _, _, _, h | .integer, _, _, _, h | .constant _, _, _, _, h
  | .choice _, _, _, _, h => by
    rw [Shape.read] at h ⊢
    exact h
  | .optional s, j, r, hexact, h => by
    rw [Shape.read_optional_eq_ok_iff] at h ⊢
    exact h.imp_right fun ⟨hnull, h⟩ ↦ ⟨hnull, (hexact.mono (.optional hnull)).read h⟩
  | .list item, j, r, hexact, h => by
    rw [Shape.read_list_eq_ok_iff] at h ⊢
    obtain ⟨js, rs, rfl, hr, h⟩ := h
    refine ⟨js, rs, rfl, hr, forall₂_imp_of_mem (fun j hj r hr ↦ ?_) h⟩
    exact (hexact.mono (.item hj)).read hr
  | .record info fields, j, r, hexact, h => by
    obtain ⟨given, rfl⟩ := Shape.exists_object_of_read h
    obtain ⟨-, found, hfound, h⟩ := Shape.read_object_eq_ok_iff.mp h
    refine Shape.read_object_eq_ok_iff.mpr ⟨fun _ ↦ hexact.checkKeys, found, ?_, h⟩
    refine Shape.readFields_congr (fun f hf r hr ↦ ?_) hfound
    unfold settle at hr ⊢
    cases hgiven : given? f.1 given with
    | none =>
      rw [hgiven] at hr
      exact hr
    | some p =>
      rw [hgiven] at hr
      have hfield : Exact f.2 p.2 := hexact.mono (.field hf hgiven)
      exact within_eq_ok_iff.mpr (hfield.read (within_eq_ok_iff.mp hr))
  | .tagged cases, j, r, hexact, h => by
    obtain ⟨tag, s, htype, hcase, hr⟩ := Shape.read_tagged_eq_ok_iff.mp h
    have hs : Exact s j := hexact.mono (.case htype hcase)
    have hmem : (tag, s) ∈ cases := by
      obtain ⟨before, behind, rfl, -⟩ := List.lookup_eq_some_iff.mp hcase
      simp
    exact Shape.read_tagged_eq_ok_iff.mpr ⟨tag, s, htype, hcase, hs.read hr⟩
termination_by s => sizeOf s
decreasing_by
  · decreasing_tactic
  · decreasing_tactic
  · have hlt := sizeOf_snd_lt hf
    simp only [Shape.record.sizeOf_spec]
    omega
  · have hlt : sizeOf s < sizeOf cases := sizeOf_snd_lt hmem
    simp only [Shape.tagged.sizeOf_spec]
    omega

theorem read_interchange_iff {ofText : Bool} {s : Shape} : s.read ⟨ofText, true⟩ j = .ok r ↔
    s.read ⟨ofText, false⟩ j = .ok r ∧ Exact s j :=
  ⟨fun h ↦ ⟨Shape.read_of_interchange h, .of_read h⟩, fun ⟨h, hexact⟩ ↦ hexact.read h⟩

theorem loadRecord_model_eq_ok_iff :
    loadRecord "DarTwinModel" j = .ok r ↔ Shape.model.read ⟨false, false⟩ j = .ok r := by
  have hlookup : records.lookup "DarTwinModel" = some .model := rfl
  rw [loadRecord, hlookup]
  simp only [readAs]
  cases Shape.model.read ⟨false, false⟩ j
    <;> simp [bind, Except.bind, Except.mapError, pure, Except.pure]

theorem loadRecord_graph_eq_ok_iff :
    loadRecord "Graph" j = .ok r ↔ Shape.graph.read ⟨false, false⟩ j = .ok r ∧
      Graph.fault? (Graph.ofJson r).nodes (Graph.ofJson r).edges = none := by
  have hlookup : records.lookup "Graph" = some .graph := rfl
  rw [loadRecord, hlookup]
  simp only [readAs]
  cases Shape.graph.read ⟨false, false⟩ j with
  | error f => simp [bind, Except.bind, Except.mapError]
  | ok r' =>
    simp only [bind, Except.bind, Except.mapError, Except.ok.injEq]
    rw [if_neg (by decide)]
    cases hfault : Graph.fault? (Graph.ofJson r').nodes (Graph.ofJson r').edges with
    | none =>
      constructor
      · intro h
        cases h
        exact ⟨rfl, hfault⟩
      · rintro ⟨rfl, -⟩
        rfl
    | some f =>
      constructor
      · intro h
        cases h
      · rintro ⟨rfl, hnone⟩
        cases hfault.symm.trans hnone

/-- Interchange reads what is read as a record and exact, and reads it alike. -/
theorem load_iff_loadRecord_and_exact (d : Json) :
    (∀ m, loadModel (.decoded d) = .ok m ↔
      loadRecord "DarTwinModel" d = .ok m.toJson ∧ Exact .model d) ∧
    ((∃ m, loadModel (.decoded d) = .ok m) ↔
      (∃ r, loadRecord "DarTwinModel" d = .ok r) ∧ Exact .model d) ∧
    (∀ g, loadGraph (.decoded d) = .ok g ↔
      loadRecord "Graph" d = .ok g.toJson ∧ Exact .graph d) ∧
    ((∃ g, loadGraph (.decoded d) = .ok g) ↔
      (∃ r, loadRecord "Graph" d = .ok r) ∧ Exact .graph d) := by
  have hmodel (m : Model) : loadModel (.decoded d) = .ok m ↔
      loadRecord "DarTwinModel" d = .ok m.toJson ∧ Exact .model d := by
    rw [loadModel_eq_ok_iff, read_interchange_iff, loadRecord_model_eq_ok_iff]
  have hgraph (g : Graph) : loadGraph (.decoded d) = .ok g ↔
      loadRecord "Graph" d = .ok g.toJson ∧ Exact .graph d := by
    rw [loadGraph_eq_ok_iff, read_interchange_iff, loadRecord_graph_eq_ok_iff,
      Graph.ofJson_toJson g, and_right_comm]
  refine ⟨hmodel, ⟨?_, ?_⟩, hgraph, ⟨?_, ?_⟩⟩
  · rintro ⟨m, hm⟩
    obtain ⟨hr, hexact⟩ := (hmodel m).mp hm
    exact ⟨⟨_, hr⟩, hexact⟩
  · rintro ⟨⟨r, hr⟩, hexact⟩
    have hread := hexact.read (loadRecord_model_eq_ok_iff.mp hr)
    obtain ⟨m, rfl⟩ := (@Carries.model 0).written false d r hread
    exact ⟨m, (hmodel m).mpr ⟨hr, hexact⟩⟩
  · rintro ⟨g, hg⟩
    obtain ⟨hr, hexact⟩ := (hgraph g).mp hg
    exact ⟨⟨_, hr⟩, hexact⟩
  · rintro ⟨⟨r, hr⟩, hexact⟩
    have hread := hexact.read (loadRecord_graph_eq_ok_iff.mp hr).1
    obtain ⟨g, rfl⟩ := (@Carries.graph 0).written false d r hread
    exact ⟨g, (hgraph g).mpr ⟨hr, hexact⟩⟩

end TwinDiagram.Interchange
