import TwinDiagram.Layout.Cache
import TwinDiagram.Proofs.Interchange.RoundTrip
import TwinDiagram.Proofs.Json.Outline

namespace TwinDiagram

open Function (Injective)
open Json (ofFields ofText?)

namespace Json

def ofTexts (texts : List (String × Option String)) : Json :=
  ofFields (texts.map fun t ↦ (t.1, ofText? t.2))

theorem outline_text_injective : Injective fun s ↦ (text s).outline := fun _ _ ↦ outline_text_inj.mp

theorem outline_texts_inj {ss ts : List String}
    (h : (list (ss.map text)).outline = (list (ts.map text)).outline) : ss = ts := by
  rw [outline_list, outline_list, list.injEq, List.map_map, List.map_map] at h
  exact outline_text_injective.list_map h

theorem outline_ofTexts_inj {texts texts' : List (String × Option String)}
    (h : (ofTexts texts).outline = (ofTexts texts').outline)
    (hkeys : texts.map Prod.fst = texts'.map Prod.fst) (hnodup : (texts.map Prod.fst).Nodup) :
    texts = texts' := by
  have hfields (texts : List (String × Option String)) :
      (texts.map fun t ↦ (t.1, ofText? t.2)).map Prod.fst = texts.map Prod.fst := List.map_map
  have hcells := (outline_ofFields_eq_iff _ _ (by rwa [hfields, hfields]) (by rwa [hfields])).mp h
  rw [List.map_map, List.map_map] at hcells
  have hcell : Injective fun t : String × Option String ↦
      (t.1, (ofText? t.2).map outline) := by
    intro (key, s) (key', s') h
    obtain ⟨hkey, htext⟩ := Prod.mk.inj h
    rw [ofText?, ofText?, Option.map_map, Option.map_map] at htext
    exact Prod.ext hkey (Option.map_injective outline_text_injective htext)
  exact hcell.list_map hcells

end Json

open Json (outline ofTexts outline_ofTexts_inj outline_ofFields_eq_iff outline_list)

theorem Node.outline_toJson_injective : Injective fun n : Node ↦ n.toJson.outline := by
  intro n n' h
  have htexts (n : Node) : n.toJson = ofTexts [("id", some n.id), ("label", some n.label),
    ("parentId", n.parent?), ("type", some n.kind.tag), ("doc", n.doc?)] := rfl
  have hkeys : ["id", "label", "parentId", "type", "doc"].Nodup := by decide
  apply Node.ofJson_toJson.injective
  simp only [htexts] at h ⊢
  rw [outline_ofTexts_inj h rfl hkeys]

theorem Edge.outline_toJson_injective : Injective fun e : Edge ↦ e.toJson.outline := by
  intro e e' h
  have htexts (e : Edge) : e.toJson = ofTexts [("id", some e.id), ("kind", some e.kind.tag),
    ("source", some e.source), ("target", some e.target), ("label", e.label)] := rfl
  have hkeys : ["id", "kind", "source", "target", "label"].Nodup := by decide
  apply Edge.ofJson_toJson.injective
  simp only [htexts] at h ⊢
  rw [outline_ofTexts_inj h rfl hkeys]

theorem Graph.outline_toJson_eq_iff {g g' : Graph} :
    g.toJson.outline = g'.toJson.outline ↔ g = g' := by
  have hjson (g : Graph) : g.toJson = ofFields [("nodes", some (.list (g.nodes.map Node.toJson))),
    ("edges", some (.list (g.edges.map Edge.toJson)))] := rfl
  have hkeys : ["nodes", "edges"].Nodup := by decide
  have hparts : g.nodes = g'.nodes ∧ g.edges = g'.edges ↔ g = g' := by
    cases g
    cases g'
    rw [Graph.mk.injEq]
  rw [hjson, hjson]
  refine Iff.trans (outline_ofFields_eq_iff _ _ rfl hkeys) ?_
  simp only [List.map_cons, List.map_nil, Option.map_some, outline_list, List.map_map,
    List.cons.injEq, Prod.mk.injEq, Option.some.injEq, Json.list.injEq, true_and, and_true]
  exact Iff.trans (and_congr Node.outline_toJson_injective.list_map.eq_iff
    Edge.outline_toJson_injective.list_map.eq_iff) hparts

namespace Layout

variable {α β : Type}

def Metrics.map (f : α → β) (m : Metrics α) : Metrics β where
  margin := f m.margin
  goalRowX := f m.goalRowX
  goalRowY := f m.goalRowY
  goalPitch := f m.goalPitch
  goalWidth := f m.goalWidth
  goalHeight := f m.goalHeight
  systemRowX := f m.systemRowX
  systemRowY := f m.systemRowY
  systemWidth := f m.systemWidth
  systemHeight := f m.systemHeight
  systemGap := f m.systemGap
  systemPadding := f m.systemPadding
  twinOffsetY := f m.twinOffsetY
  twinWidth := f m.twinWidth
  twinHeight := f m.twinHeight
  twinGap := f m.twinGap
  portSize := f m.portSize
  boundaryOffset := f m.boundaryOffset
  fallbackX := f m.fallbackX
  fallbackY := f m.fallbackY
  fallbackPitch := f m.fallbackPitch
  fallbackColumns := m.fallbackColumns
  actuatorOrder := m.actuatorOrder

namespace Metrics

/-- The metrics with their numbers as they are written. -/
def written (m : Metrics Float) : Metrics String := m.map (Decimal.write Json.decimals)

def outlines (w : Metrics String) : List (String × Option Json) :=
  lengths.map (fun f ↦ (f.1, some (.text (f.2.1 w)))) ++
    [(columnsName, some (Json.int w.fallbackColumns).outline),
      ("actuator_order", some (Json.list (w.actuatorOrder.map .text)).outline)]

theorem outlines_injective : Injective outlines := by
  intro w w' h
  obtain ⟨hlengths, hrest⟩ := List.append_inj h rfl
  simp only [List.cons.injEq, Prod.mk.injEq, Option.some.injEq, true_and, and_true,
    Json.outline_nat_inj] at hrest
  obtain ⟨hcolumns, horder⟩ := hrest
  have horder := Json.outline_texts_inj horder
  cases w
  cases w'
  simp only [lengths, List.map_cons, List.map_nil, List.cons.injEq, Prod.mk.injEq,
    Option.some.injEq, Json.text.injEq, true_and, and_true] at hlengths
  simp_all only

theorem outline_toJson_eq_iff {m m' : Metrics Float} :
    m.toJson.outline = m'.toJson.outline ↔ m.written = m'.written := by
  have hjson (m : Metrics Float) :
      m.toJson = ofFields (lengths.map (fun f ↦ (f.1, some (.decimal (f.2.1 m)))) ++
        [(columnsName, some (.int m.fallbackColumns)),
          ("actuator_order", some (.list (m.actuatorOrder.map .text)))]) := rfl
  have hkeys : ((lengths (α := Float)).map Prod.fst ++ [columnsName, "actuator_order"]).Nodup := by
    decide
  rw [hjson, hjson, ← outlines_injective.eq_iff]
  refine Iff.trans (outline_ofFields_eq_iff _ _ rfl hkeys) ?_
  simp only [List.map_append, List.map_map, Function.comp_def, Option.map_some,
    Json.outline_decimal]
  rfl

end Metrics

namespace Cache

/-- What a drawing is kept under. -/
def subject (g : Graph) (m : Metrics Float) : Graph × Metrics String := (g, m.written)

theorem keyText_eq_iff {version version' : String} {g g' : Graph} {m m' : Metrics Float} :
    keyText version g m = keyText version' g' m' ↔
      version = version' ∧ subject g m = subject g' m' := by
  have htext (version : String) (g : Graph) (m : Metrics Float) :
      keyText version g m = (ofFields [("graph", some g.toJson), ("metrics", some m.toJson),
        ("engine_version", some (.text version))]).sortKeys.render .line := rfl
  have hkeys : ["graph", "metrics", "engine_version"].Nodup := by decide
  rw [htext, htext, Json.render_sortKeys_eq_iff]
  refine Iff.trans (outline_ofFields_eq_iff _ _ rfl hkeys) ?_
  simp only [List.map_cons, List.map_nil, Option.map_some, List.cons.injEq, Prod.mk.injEq,
    Option.some.injEq, true_and, and_true, Json.outline_text_inj, Metrics.outline_toJson_eq_iff,
    Graph.outline_toJson_eq_iff, subject]
  tauto

end Cache

end Layout

end TwinDiagram
