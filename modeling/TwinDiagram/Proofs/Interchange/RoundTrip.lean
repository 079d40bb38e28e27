import TwinDiagram.Proofs.Graph.Build
import TwinDiagram.Proofs.Interchange.Values
import TwinDiagram.Proofs.Text.Utf8

namespace TwinDiagram

open Function (LeftInverse)

theorem Twin.ofJson_toJson : LeftInverse Twin.ofJson Twin.toJson := by
  intro t
  have hports : (t.ports.map Json.text).filterMap Json.text? = t.ports := by
    rw [List.filterMap_map]
    exact List.filterMap_some
  exact congrArg (Twin.mk t.name) hports

theorem Connection.ofJson_toJson : LeftInverse Connection.ofJson Connection.toJson := by
  intro ⟨source, target, name⟩
  cases name <;> rfl

theorem Goal.ofJson_toJson : LeftInverse Goal.ofJson Goal.toJson := by
  intro ⟨name, doc⟩
  cases doc <;> rfl

theorem Allocation.ofJson_toJson : LeftInverse Allocation.ofJson Allocation.toJson :=
  fun _ ↦ rfl

theorem System.ofJson_toJson : LeftInverse System.ofJson System.toJson := by
  intro s
  have hdigitalTwins := Twin.ofJson_toJson.list_map s.digitalTwins
  have hparts := Twin.ofJson_toJson.list_map s.parts
  have hconnections := Connection.ofJson_toJson.list_map s.connections
  exact congr (congr (congrArg (System.mk s.name) hdigitalTwins) hparts) hconnections

theorem Slice.ofJson_toJson : LeftInverse Slice.ofJson Slice.toJson := by
  intro ⟨systems, goals, allocations⟩
  have hfields : (Slice.toJson ⟨systems, goals, allocations⟩).field? "systems" =
        systems.map (fun xs ↦ .list (xs.map System.toJson)) ∧
      (Slice.toJson ⟨systems, goals, allocations⟩).field? "goals" =
        goals.map (fun xs ↦ .list (xs.map Goal.toJson)) ∧
      (Slice.toJson ⟨systems, goals, allocations⟩).field? "allocations" =
        allocations.map (fun xs ↦ .list (xs.map Allocation.toJson)) := by
    cases systems <;> cases goals <;> cases allocations <;> exact ⟨rfl, rfl, rfl⟩
  obtain ⟨hsystems, hgoals, hallocations⟩ := hfields
  rw [Slice.ofJson, hsystems, hgoals, hallocations]
  simp only [Option.map_map, Function.comp_def, Json.items, System.ofJson_toJson.list_map _,
    Goal.ofJson_toJson.list_map _, Allocation.ofJson_toJson.list_map _, Option.map_id']

theorem Transform.ofJson_toJson : LeftInverse Transform.ofJson Transform.toJson := by
  intro ⟨before, core, after⟩
  have hfields :
      (Transform.toJson ⟨before, core, after⟩).field? "before" = before.map Slice.toJson ∧
      (Transform.toJson ⟨before, core, after⟩).field? "core" = core.map Slice.toJson ∧
      (Transform.toJson ⟨before, core, after⟩).field? "after" = after.map Slice.toJson := by
    cases before <;> cases core <;> cases after <;> exact ⟨rfl, rfl, rfl⟩
  obtain ⟨hbefore, hcore, hafter⟩ := hfields
  rw [Transform.ofJson, hbefore, hcore, hafter]
  simp only [Option.map_map, Slice.ofJson_toJson.comp_eq_id, Option.map_id, id]

theorem Model.ofJson_toJson : LeftInverse Model.ofJson Model.toJson := by
  intro m
  have hsystems := System.ofJson_toJson.list_map m.systems
  have hgoals := Goal.ofJson_toJson.list_map m.goals
  have hallocations := Allocation.ofJson_toJson.list_map m.allocations
  obtain ⟨name, systems, goals, allocations, transform⟩ := m
  cases transform with
  | none => exact congr (congr (congr (congrArg (Model.mk name) hsystems) hgoals) hallocations) rfl
  | some t =>
    exact congr (congr (congr (congrArg (Model.mk name) hsystems) hgoals) hallocations)
      (congrArg some (Transform.ofJson_toJson t))

theorem Node.ofJson_toJson : LeftInverse Node.ofJson Node.toJson := by
  intro ⟨id, label, place⟩
  cases place with
  | goal parent doc => cases doc <;> rfl
  | _ => rfl

theorem Edge.ofJson_toJson : LeftInverse Edge.ofJson Edge.toJson := by
  intro ⟨id, kind, source, target, label⟩
  cases kind <;> cases label <;> rfl

theorem Graph.ofJson_toJson : LeftInverse Graph.ofJson Graph.toJson := by
  intro g
  have hnodes := Node.ofJson_toJson.list_map g.nodes
  have hedges := Edge.ofJson_toJson.list_map g.edges
  exact congr (congrArg Graph.mk hnodes) hedges

namespace Interchange

open Json (Spacing Textual)

/-- Blanks per level, or a single line. -/
def spacing : Option Nat → Spacing
  | none => .line
  | some n => .indented n

theorem proper_spacing (indent : Option Nat) : (spacing indent).Proper := by
  cases indent with
  | none => exact Spacing.proper_line
  | some n => exact Spacing.proper_indented n

theorem Source.ofJson_eq_decoded {d : Json} (h : ∀ t, d ≠ .text t) :
    Source.ofJson d = .decoded d := by
  cases d with
  | text t => exact absurd rfl (h t)
  | _ => rfl

theorem decode_render {j : Json} (h : Textual Json.maxDepth j) (indent : Option Nat) :
    decode (j.render (spacing indent)).toUTF8 = some j := by
  rw [decode, Text.decodeUtf8_toUTF8]
  show Json.readChars (String.ofList (Json.print (spacing indent) 0 j)).toList = some j
  rw [String.toList_ofList]
  exact Json.readChars_print (proper_spacing indent) h

theorem readAs_render {α : Type} {s : Shape} {write : α → Json}
    (h : Carries Json.maxDepth s write) (a : α) (indent : Option Nat) :
    readAs true s (.ofJson (.text ((write a).render (spacing indent)))) = .ok (write a) := by
  rw [Source.ofJson, readAs, decode_render (h.textual a)]
  simp only [h.reads true a]
  rfl

theorem loadModel_render (m : Model) (indent : Option Nat) :
    loadModel (.ofJson (.text (m.toJson.render (spacing indent)))) = .ok m := by
  rw [loadModel, readAs_render (@Carries.model 192) m indent]
  exact congrArg Except.ok (Model.ofJson_toJson m)

theorem loadGraph_render {g : Graph} (hnodes : (g.nodes.map (·.id)).Nodup)
    (hedges : ∀ e ∈ g.edges, e.source ∈ g.nodes.map (·.id) ∧ e.target ∈ g.nodes.map (·.id))
    (indent : Option Nat) :
    loadGraph (.ofJson (.text (g.toJson.render (spacing indent)))) = .ok g := by
  have hfault := Graph.fault?_eq_none_iff.mpr ⟨hnodes, hedges⟩
  rw [loadGraph, readAs_render Carries.graph g indent]
  simp only [bind, Except.bind, Graph.ofJson_toJson g, hfault]
  rfl

/-- Written as text, every model and every graph comes back whole, with any indent. -/
theorem load_render (indent : Option Nat) :
    (∀ m : Model, loadModel (.ofJson (.text (m.toJson.render (spacing indent)))) = .ok m) ∧
      ∀ g : Graph, (g.nodes.map (·.id)).Nodup →
        (∀ e ∈ g.edges, e.source ∈ g.nodes.map (·.id) ∧ e.target ∈ g.nodes.map (·.id)) →
        loadGraph (.ofJson (.text (g.toJson.render (spacing indent)))) = .ok g :=
  ⟨fun m ↦ loadModel_render m indent, fun _ hnodes hedges ↦ loadGraph_render hnodes hedges indent⟩

theorem load_render_of_goal :
    let g : Graph := ⟨[⟨"dw::f", "f", .root⟩, ⟨"goal::f::g", "g", .goal "dw::f" (some "\u00e9")⟩],
      [⟨"e", .allocation, "goal::f::g", "dw::f", none⟩]⟩
    loadGraph (.ofJson (.text (g.toJson.render (spacing (some 2))))) = .ok g :=
  (load_render (some 2)).2 _ (by decide) (by decide)

end Interchange

end TwinDiagram
