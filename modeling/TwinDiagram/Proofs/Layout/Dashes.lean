import TwinDiagram.Proofs.Graph.Collapse
import TwinDiagram.Proofs.Graph.WellFormed
import TwinDiagram.Layout.Drawing

namespace TwinDiagram

namespace Graph.Link

def kind : Link → EdgeKind
  | connection _ _ => .connection
  | allocation _ => .allocation

/-- What is written at the edge of the link. -/
def label : Link → Option String
  | connection _ c => c.name
  | allocation _ => some Build.allocationLabel

variable {root : String} {s : Symbols} {l : Link} {e : Edge}

theorem Meets.kind_eq (h : l.Meets root s e) : e.kind = l.kind := by
  cases h <;> rfl

theorem Meets.label_eq (h : l.Meets root s e) : e.label = l.label := by
  cases h <;> rfl

end Graph.Link

namespace Layout

open TwinDiagram.Graph (Link)

variable {α : Type} [Scalar α] {m : Metrics α} {g : Graph} {e : StyledEdge α} {edge : Edge}

/-- The dashes of an allocation. -/
def allocationDashes : String := "6 4"

theorem mem_edges_draw : e ∈ (draw m g).edges ↔ e.edge ∈ g.edges ∧ e.style = styleOf e.edge := by
  have hedges : (draw m g).edges = g.edges.map fun edge ↦ ⟨edge, styleOf edge⟩ := rfl
  rw [hedges, List.mem_map]
  constructor
  · intro ⟨edge, hedge, heq⟩
    rw [← heq]
    exact ⟨hedge, rfl⟩
  · intro ⟨hedge, hstyle⟩
    refine ⟨e.edge, hedge, ?_⟩
    rw [← hstyle]

theorem isAllocation_iff :
    isAllocation edge = true ↔ edge.kind = .allocation ∨
      edge.label = some Graph.Build.allocationLabel := by
  rw [isAllocation, Bool.or_eq_true, beq_iff_eq, beq_iff_eq]

theorem dashes_styleOf_eq_some_iff :
    (styleOf edge : EdgeStyle α).dashes = some allocationDashes ↔ isAllocation edge = true := by
  cases h : isAllocation edge <;> simp [styleOf, allocationDashes, h]

theorem dashes_styleOf_eq_none_iff :
    (styleOf edge : EdgeStyle α).dashes = none ↔ isAllocation edge = false := by
  cases h : isAllocation edge <;> simp [styleOf, h]

/-- Whatever the text, its links have their edges in the drawing, and there are no others. The edge
of an allocation is dashed, and that of a connection is if and only if the connection is named
`allocate`; the edges that are not dashed are solid. -/
theorem dashed_iff_allocation_or_named (text : String) :
    ∃ m s g d vs os, Parser.readText text = (.ok m, s) ∧ Graph.ofModel m = (.ok g, d) ∧
      Graph.Accounts m vs os g d ∧ ∀ (α : Type) [Scalar α] (metrics : Metrics α),
        (∀ l ∈ Graph.links m vs, l.Resolved d.symbols → ∃ e ∈ (draw metrics g).edges,
          l.Meets (Graph.Build.rootName m) d.symbols e.edge) ∧
        ∀ e ∈ (draw metrics g).edges,
          (∃ l ∈ Graph.links m vs, l.Meets (Graph.Build.rootName m) d.symbols e.edge) ∧
          ∀ l : Link, l.Meets (Graph.Build.rootName m) d.symbols e.edge → e.edge.kind = l.kind ∧
            (e.style.dashes = some allocationDashes ↔
              l.kind = .allocation ∨ l.label = some Graph.Build.allocationLabel) ∧
            (e.style.dashes = none ↔
              l.kind = .connection ∧ l.label ≠ some Graph.Build.allocationLabel) := by
  obtain ⟨m, s, hread, hm⟩ := Parser.readText_ok text
  obtain ⟨g, d, hgraph, -⟩ := Graph.ofModel_ok hm
  obtain ⟨vs, os, h⟩ := Graph.ofModel_accounts hgraph
  refine ⟨m, s, g, d, vs, os, hread, hgraph, h,
    fun α _ metrics ↦ ⟨fun l hl hresolved ↦ ?_, fun e he ↦ ?_⟩⟩
  · obtain ⟨edge, hedge, hmeets⟩ := h.exists_edge hm (Parser.readText_labelled hread) hl hresolved
    exact ⟨⟨edge, styleOf edge⟩, mem_edges_draw.mpr ⟨hedge, rfl⟩, hmeets⟩
  · obtain ⟨hedge, hstyle⟩ := mem_edges_draw.mp he
    constructor
    · exact h.become.meets _ (h.edges ▸ hedge)
    · intro l hmeets
      have hdashed : isAllocation e.edge = true ↔
          l.kind = .allocation ∨ l.label = some Graph.Build.allocationLabel := by
        rw [isAllocation_iff, hmeets.kind_eq, hmeets.label_eq]
      refine ⟨hmeets.kind_eq, ?_, ?_⟩
      · rw [hstyle, dashes_styleOf_eq_some_iff, hdashed]
      · rw [hstyle, dashes_styleOf_eq_none_iff, ← Bool.not_eq_true, hdashed, not_or]
        cases l <;> simp [Link.kind]

/-- A connection is dashed because of its name. -/
theorem connection_named_allocate_dashed :
    let text := "#dartwin F \x7b #twinsystem S \x7b part P \x7b port p; port q; \x7d " ++
      "connect P.p to P.q name allocate; \x7d \x7d"
    ∃ m s g d, Parser.readText text = (.ok m, s) ∧ Graph.ofModel m = (.ok g, d) ∧
      m.allocations = [] ∧
      ∀ (α : Type) [Scalar α] (metrics : Metrics α),
        (draw metrics g).edges.map (fun e ↦ (e.edge.kind, e.style.dashes)) =
          [(.connection, some allocationDashes)] := by
  intro text
  have hvalues : ((Parser.readText text).1.toOption.bind fun m ↦
    (Graph.ofModel m).1.toOption.map fun g ↦
      (m.allocations, g.edges.map fun e ↦ (e.kind, isAllocation e))) =
      some ([], [(.connection, true)]) := by decide +kernel
  obtain ⟨m, s, hread, hm⟩ := Parser.readText_ok text
  obtain ⟨g, d, hgraph, -⟩ := Graph.ofModel_ok hm
  rw [hread] at hvalues
  simp only [Except.toOption, Option.bind_some, hgraph, Option.map_some, Option.some.injEq,
    Prod.mk.injEq] at hvalues
  obtain ⟨hallocations, hedges⟩ := hvalues
  refine ⟨m, s, g, d, hread, hgraph, hallocations, fun α _ metrics ↦ ?_⟩
  obtain ⟨edge, hedge, heq⟩ := List.map_eq_singleton_iff.mp hedges
  obtain ⟨hkind, hdashed⟩ := Prod.mk.inj heq
  have hdashes : (styleOf edge : EdgeStyle α).dashes = some allocationDashes :=
    dashes_styleOf_eq_some_iff.mpr hdashed
  rw [draw, drawBoxes, List.map_map, hedge, List.map_singleton, Function.comp_apply, hkind, hdashes]

end Layout

end TwinDiagram
