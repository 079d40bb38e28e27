import TwinDiagram.Layout.Cache
import TwinDiagram.Proofs.Interchange.RoundTrip
import TwinDiagram.Proofs.Interchange.Written

namespace TwinDiagram.Layout

open Function (LeftInverse)
open Interchange (Shape Survives SurvivesField Carries)
open Json (ReadsBack ofText?)

theorem Point.ofJson_toJson : LeftInverse Point.ofJson Point.toJson := fun _ ↦ rfl

theorem Size.ofJson_toJson : LeftInverse Size.ofJson Size.toJson := fun _ ↦ rfl

theorem bind_ofText? {β : Type} {label : β → String} {read : String → Option β}
    (h : ∀ b, read (label b) = some b) (o : Option β) :
    ((ofText? (o.map label)).bind Json.text?).bind read = o := by
  cases o with
  | none => rfl
  | some b => exact h b

theorem PlacedNode.ofJson_toJson : LeftInverse PlacedNode.ofJson PlacedNode.toJson := by
  intro ⟨node, position, absolute, frame, size, label, role, side⟩
  generalize hj : PlacedNode.toJson ⟨node, position, absolute, frame, size, label, role, side⟩ = j
  have hfields : j.field? "node" = some node.toJson ∧ j.field? "position" = some position.toJson ∧
      j.field? "absolute" = some absolute.toJson ∧ j.field? "frame" = some (.text frame.label) ∧
      j.field? "size" = size.map Size.toJson ∧ j.field? "display_label" = some (.text label) ∧
      j.field? "port_role" = ofText? (role.map (·.label)) ∧
      j.field? "port_side" = ofText? (side.map (·.label)) := by
    subst hj
    cases size <;> cases role <;> cases side <;> exact ⟨rfl, rfl, rfl, rfl, rfl, rfl, rfl, rfl⟩
  have hframe :
      (if frame.label == Frame.relative.label then Frame.relative else .absolute) = frame := by
    cases frame <;> rfl
  have hrole : ((ofText? (role.map (·.label))).bind Json.text?).bind
      (fun s ↦ PortRole.all.find? (·.label == s)) = role :=
    bind_ofText? (by intro r; cases r <;> rfl) role
  have hside : ((ofText? (side.map (·.label))).bind Json.text?).bind
      (fun s ↦ PortSide.all.find? (·.label == s)) = side :=
    bind_ofText? (by intro s; cases s <;> rfl) side
  have hsize : (size.map Size.toJson).map Size.ofJson = size := by
    rw [Option.map_map, Size.ofJson_toJson.comp_eq_id, Option.map_id, id]
  have hnode := Node.ofJson_toJson node
  have hposition := Point.ofJson_toJson position
  have habsolute := Point.ofJson_toJson absolute
  rw [PlacedNode.ofJson]
  simp only [fieldAt, Json.textAt, Json.textAt?, hfields, Option.getD_some, Option.bind_some,
    Json.text?, hnode, hposition, habsolute, hframe, hsize, hrole, hside]

theorem EdgeStyle.ofJson_toJson : LeftInverse EdgeStyle.ofJson EdgeStyle.toJson := by
  intro ⟨stroke, strokeWidth, dashes, marker⟩
  cases dashes <;> rfl

theorem StyledEdge.ofJson_toJson : LeftInverse StyledEdge.ofJson StyledEdge.toJson := fun e ↦
  congr (congrArg StyledEdge.mk (Edge.ofJson_toJson e.edge)) (EdgeStyle.ofJson_toJson e.style)

theorem Drawing.ofJson_toJson : LeftInverse Drawing.ofJson Drawing.toJson := by
  intro d
  have hnodes := PlacedNode.ofJson_toJson.list_map d.nodes
  have hedges := StyledEdge.ofJson_toJson.list_map d.edges
  exact congr (congr (congr (congrArg Drawing.mk hnodes) hedges) rfl) rfl

section Numbers

variable {α : Type}

def Point.numbers (p : Point α) : List α := [p.x, p.y]

def Size.numbers (s : Size α) : List α := [s.width, s.height]

def PlacedNode.numbers (n : PlacedNode α) : List α :=
  n.position.numbers ++ n.absolute.numbers ++ (n.size.map Size.numbers).getD []

/-- Every number of a drawing. -/
def Drawing.numbers (d : Drawing α) : List α :=
  d.nodes.flatMap PlacedNode.numbers ++ d.edges.map (·.style.strokeWidth) ++ [d.width, d.height]

end Numbers

variable {depth : Nat}

theorem Point.survives {p : Point Float} (h : ∀ x ∈ p.numbers, ReadsBack x) :
    Survives (depth + 1) .position p.toJson := by
  obtain ⟨hx, hy⟩ : ReadsBack p.x ∧ ReadsBack p.y := by simpa [numbers] using h
  exact .record (.cons (.given (.number hx)) (.cons (.given (.number hy)) .nil)) rfl (by decide)
    (by decide)

theorem Size.survives {s : Size Float} (h : ∀ x ∈ s.numbers, ReadsBack x) :
    Survives (depth + 1) .size s.toJson := by
  obtain ⟨hwidth, hheight⟩ : ReadsBack s.width ∧ ReadsBack s.height := by simpa [numbers] using h
  exact .record (.cons (.given (.number hwidth)) (.cons (.given (.number hheight)) .nil)) rfl
    (by decide) (by decide)

theorem EdgeStyle.survives {s : EdgeStyle Float} (h : ReadsBack s.strokeWidth) :
    Survives (depth + 1) .edgeStyle s.toJson := by
  have htext (t : String) : Survives depth .text (.text t) := Carries.text.survives t
  exact .record (.cons (.given (htext s.stroke)) (.cons (.given (.number h))
    (.cons (.absent fun t _ ↦ htext t) (.cons (.given (htext s.marker)) .nil)))) rfl (by decide)
    (by decide)

theorem StyledEdge.survives {e : StyledEdge Float} (h : ReadsBack e.style.strokeWidth) :
    Survives (depth + 2) .positionedEdge e.toJson :=
  .record (.cons (.given (Carries.edge.survives e.edge))
    (.cons (.given (EdgeStyle.survives h)) .nil))
    rfl (by decide) (by decide)

theorem PlacedNode.survives {n : PlacedNode Float} (h : ∀ x ∈ n.numbers, ReadsBack x) :
    Survives (depth + 2) .positionedNode n.toJson := by
  rw [numbers, List.forall_mem_append, List.forall_mem_append] at h
  obtain ⟨⟨hposition, habsolute⟩, hsize⟩ := h
  have hlabel : Survives (depth + 1) .text (.text n.label) := Carries.text.survives n.label
  have hframe : Survives (depth + 1) (.choice ["absolute", "relative"]) (.text n.frame.label) :=
    .choice (by cases n.frame <;> decide)
  have hrole : ∀ t, n.role.map (·.label) = some t →
      Survives (depth + 1) (.choice (PortRole.all.map (·.label))) (.text t) :=
    .labels (by intro r; cases r <;> decide)
  have hside : ∀ t, n.side.map (·.label) = some t →
      Survives (depth + 1) (.choice (PortSide.all.map (·.label))) (.text t) :=
    .labels (by intro s; cases s <;> decide)
  have hsizes : ∀ s, n.size = some s → Survives (depth + 1) .size s.toJson := by
    intro s hs
    rw [hs] at hsize
    exact Size.survives hsize
  exact .record (.cons (.given (Carries.node.survives n.node))
    (.cons (.given (Point.survives hposition))
    (.cons (.given (Point.survives habsolute)) (.cons (.given hframe) (.cons (.absent hsizes)
      (.cons (.given hlabel) (.cons (.absent hrole) (.cons (.absent hside) .nil))))))))
    rfl (by decide) (by decide)

theorem Drawing.survives {d : Drawing Float} (h : ∀ x ∈ d.numbers, ReadsBack x) :
    Survives (depth + 4) .drawing d.toJson := by
  rw [numbers, List.forall_mem_append, List.forall_mem_append, List.forall_mem_map] at h
  obtain ⟨⟨hnodes, hedges⟩, hcanvas⟩ := h
  obtain ⟨hwidth, hheight⟩ : ReadsBack d.width ∧ ReadsBack d.height := by simpa using hcanvas
  have hnode : ∀ n ∈ d.nodes, Survives (depth + 2) .positionedNode n.toJson := fun n hn ↦
    PlacedNode.survives fun x hx ↦ hnodes x (List.mem_flatMap.mpr ⟨n, hn, hx⟩)
  have hedge : ∀ e ∈ d.edges, Survives (depth + 2) .positionedEdge e.toJson := fun e he ↦
    StyledEdge.survives (hedges e he)
  exact .record (.cons (.given (.list hnode)) (.cons (.given (.list hedge))
    (.cons (.given (.number hwidth)) (.cons (.given (.number hheight)) .nil)))) rfl (by decide)
    (by decide)

theorem Cache.readEntry_entryText {d : Drawing Float} (h : ∀ x ∈ d.numbers, ReadsBack x) :
    readEntry (entryText d).toUTF8 = .ok (some d) := by
  have hsurvives : Survives Json.maxDepth .drawing d.toJson := Drawing.survives h
  have hdecode : Interchange.decode (entryText d).toUTF8 = some d.toJson :=
    Interchange.decode_render hsurvives.textual (some 2)
  have hread : Interchange.readAs false .drawing (.encoded (entryText d).toUTF8) =
      .ok d.toJson := by
    simp only [Interchange.readAs, hdecode, Shape.read_of_interchange (hsurvives.reads true)]
    rfl
  rw [readEntry, Text.decodeUtf8_toUTF8, hread]
  exact congrArg (Except.ok <| some ·) (Drawing.ofJson_toJson d)

end TwinDiagram.Layout
