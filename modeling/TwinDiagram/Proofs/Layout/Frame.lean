import TwinDiagram.Proofs.Interchange.RoundTrip
import TwinDiagram.Proofs.Layout.Reorder

namespace TwinDiagram.Layout

open Checked (ids)
open Interchange (Source loadGraph)

variable {α : Type} [Scalar α] {m : Metrics α} {g : Graph} {others : List Node} {node : Node}
  {f : Filling α} {id : String}

section Placed

theorem get?_takeSlot_self (node : Node) (origin : Point α) (f : Filling α) :
    (takeSlot m node origin f).2.boxes.get? node.id = some (takeSlot m node origin f).1 := by
  rw [takeSlot, Table.get?_insert, if_pos rfl]

theorem get?_placeRemaining_self :
    (placeRemaining m others node f).2.boxes.get? node.id =
      some (placeRemaining m others node f).1 := by
  rw [placeRemaining_eq]
  split
  · next hbox => exact hbox
  · split
    · exact get?_takeSlot_self ..
    · exact get?_takeSlot_self ..

/-- No box is made but for the node and those that its parents may be. -/
theorem get?_placeRemaining_of_notMem (hid : id ∉ (node :: others).map (·.id)) :
    (placeRemaining m others node f).2.boxes.get? id = f.boxes.get? id := by
  induction hlength : others.length using Nat.strongRecOn generalizing node others with
  | ind n ih =>
    subst hlength
    obtain ⟨hnode, hothers⟩ := not_or.mp (mt List.mem_cons.mpr hid)
    rw [placeRemaining_eq]
    cases f.boxes.get? node.id with
    | some box => rfl
    | none =>
      cases hparent : others.find? (·.id == node.parent?.getD "") with
      | none => exact get?_takeSlot hnode _ f
      | some parent =>
        have hmem : parent ∈ others := List.mem_of_find?_eq_some hparent
        have hwithin : parent :: without parent.id others ⊆ others :=
          List.cons_subset.mpr ⟨hmem, List.filter_subset_self _⟩
        have hparents : id ∉ (parent :: without parent.id others).map (·.id) :=
          fun h ↦ hothers (List.map_subset _ hwithin h)
        exact (get?_takeSlot hnode _ _).trans (ih _ (length_without_lt hmem) hparents rfl)

theorem isSome_get?_fill {boxes : Boxes α} {n : Node} (hn : n ∈ g.nodes) :
    ((fill m g boxes).get? n.id).isSome := by
  obtain ⟨before, behind, hsplit⟩ := List.append_of_mem hn
  have hkept (nodes : List Node) {f : Filling α} (hf : (f.boxes.get? n.id).isSome) :
      ((nodes.foldl (fun f n ↦ (placeRemaining m (without n.id g.nodes) n f).2) f).boxes.get?
        n.id).isSome := by
    induction nodes generalizing f with
    | nil => exact hf
    | cons n' nodes ih =>
      apply ih
      rw [get?_placeRemaining hf]
      exact hf
  rw [fill, hsplit, List.foldl_append, List.foldl_cons]
  simp only [← hsplit]
  apply hkept behind
  rw [get?_placeRemaining_self]
  rfl

theorem get?_fill_of_notMem {boxes : Boxes α} (hid : id ∉ g.nodes.map (·.id)) :
    (fill m g boxes).get? id = boxes.get? id := by
  have hfold {nodes : List Node} (hnodes : nodes ⊆ g.nodes) {f : Filling α} :
      (nodes.foldl (fun f n ↦ (placeRemaining m (without n.id g.nodes) n f).2) f).boxes.get? id =
        f.boxes.get? id := by
    induction nodes generalizing f with
    | nil => rfl
    | cons n nodes ih =>
      obtain ⟨hn, hrest⟩ := List.cons_subset.mp hnodes
      have hwithin : n :: without n.id g.nodes ⊆ g.nodes :=
        List.cons_subset.mpr ⟨hn, List.filter_subset_self _⟩
      rw [List.foldl_cons, ih hrest]
      exact get?_placeRemaining_of_notMem fun h ↦ hid (List.map_subset _ hwithin h)
  exact hfold (List.Subset.refl _)

/-- The nodes of the graph have boxes, and nothing else has. -/
theorem isSome_get?_place_iff (hnodes : (g.nodes.map (·.id)).Nodup) :
    ((place m g).get? id).isSome ↔ id ∈ g.nodes.map (·.id) := by
  constructor
  · intro hsome
    by_contra hid
    have hrules : id ∉ ids (ruleEntries m g) := by
      intro hmem
      obtain ⟨e, he, rfl⟩ := List.mem_map.mp hmem
      exact hid (List.mem_map_of_mem (mem_nodes_of_mem_ruleEntries he))
    rw [place, get?_fill_of_notMem hid, (does_rules hnodes).kept _ id hrules] at hsome
    cases hsome
  · intro hid
    obtain ⟨n, hn, rfl⟩ := List.mem_map.mp hid
    exact isSome_get?_fill hn

end Placed

section Drawn

omit [Scalar α] in
theorem map_origin_get?_stretchRoots (size : Size α) (boxes : Boxes α) (id : String) :
    ((stretchRoots g size boxes).get? id).map Box.origin = (boxes.get? id).map Box.origin := by
  rw [get?_stretchRoots]
  split
  · rw [Option.map_map]
    rfl
  · rfl

theorem absolute_of_mem_draw {p : PlacedNode α} (hp : p ∈ (draw m g).nodes) :
    p.node ∈ g.nodes ∧ ((place m g).get? p.node.id).map Box.origin = some p.absolute := by
  obtain ⟨n, hn, hp⟩ := List.mem_filterMap.mp hp
  obtain ⟨b, hb, rfl⟩ := Option.map_eq_some_iff.mp hp
  refine ⟨hn, ?_⟩
  rw [← map_origin_get?_stretchRoots (g := g) (canvasSize m (place m g))]
  exact congrArg (Option.map Box.origin) hb

theorem isSome_get?_drawn {n : Node} (hn : n ∈ g.nodes) :
    ((stretchRoots g (canvasSize m (place m g)) (place m g)).get? n.id).isSome := by
  rw [isSome_get?_stretchRoots]
  exact isSome_get?_fill hn

theorem map_node_draw : (draw m g).nodes.map (·.node) = g.nodes := by
  rw [draw, drawBoxes, List.map_filterMap]
  refine (List.filterMap_congr fun n hn ↦ ?_).trans List.filterMap_some
  obtain ⟨b, hb⟩ := Option.isSome_iff_exists.mp (isSome_get?_drawn (m := m) hn)
  rw [hb]
  rfl

theorem exists_mem_draw {n : Node} (hn : n ∈ g.nodes) : ∃ p ∈ (draw m g).nodes, p.node = n := by
  rw [← map_node_draw (m := m)] at hn
  exact List.mem_map.mp hn

/-- The position counts from what stands under the identifier of the parent, if anything does. -/
theorem frame_of_mem_draw {p : PlacedNode α} (hp : p ∈ (draw m g).nodes) :
    match (place m g).get? (p.node.parent?.getD "") with
    | none => p.frame = .absolute ∧ p.position = p.absolute
    | some b => p.frame = .relative ∧
        p.position = ⟨p.absolute.x - b.origin.x, p.absolute.y - b.origin.y⟩ := by
  obtain ⟨n, hn, hp⟩ := List.mem_filterMap.mp hp
  obtain ⟨b, hb, rfl⟩ := Option.map_eq_some_iff.mp hp
  have horigin := map_origin_get?_stretchRoots (g := g) (canvasSize m (place m g)) (place m g)
    (n.parent?.getD "")
  simp only [placedNode]
  cases hstretched :
    (stretchRoots g (canvasSize m (place m g)) (place m g)).get? (n.parent?.getD "") with
  | none =>
    rw [hstretched] at horigin
    rw [Option.map_eq_none_iff.mp horigin.symm]
    exact ⟨rfl, rfl⟩
  | some b' =>
    rw [hstretched] at horigin
    obtain ⟨b'', hplaced, heq⟩ := Option.map_eq_some_iff.mp horigin.symm
    rw [hplaced]
    refine ⟨rfl, ?_⟩
    rw [heq]
    rfl

end Drawn

/-- What a node is drawn relative to: its parent, and for a root the node whose identifier is
empty. -/
def Anchors (q n : Node) : Prop := n.parent? = some q.id ∨ n.parent? = none ∧ q.id = ""

omit [Scalar α] in
theorem anchors_iff {q n : Node} : Anchors q n ↔ n.parent?.getD "" = q.id := by
  unfold Anchors
  cases n.parent? with
  | none =>
    simp only [reduceCtorEq, false_or, true_and, Option.getD_none]
    exact eq_comm
  | some parent => simp

section Anchored

variable {p : PlacedNode α} (hp : p ∈ (draw m g).nodes)
include hp

theorem frame_eq_relative_iff (hnodes : (g.nodes.map (·.id)).Nodup) :
    p.frame = .relative ↔ ∃ q ∈ g.nodes, Anchors q p.node := by
  have hanchor : (∃ q ∈ g.nodes, Anchors q p.node) ↔
      ((place m g).get? (p.node.parent?.getD "")).isSome := by
    rw [isSome_get?_place_iff hnodes, List.mem_map]
    exact exists_congr fun q ↦ and_congr_right' (anchors_iff.trans eq_comm)
  rw [hanchor]
  have hframe := frame_of_mem_draw hp
  split at hframe
  · next hnone => simp [hframe.1, hnone]
  · next hsome => simp [hframe.1, hsome]

theorem position_of_anchors {q : PlacedNode α} (hq : q ∈ (draw m g).nodes)
    (hanchors : Anchors q.node p.node) :
    p.position = ⟨p.absolute.x - q.absolute.x, p.absolute.y - q.absolute.y⟩ := by
  obtain ⟨b, hb, horigin⟩ := Option.map_eq_some_iff.mp (absolute_of_mem_draw hq).2
  have hframe := frame_of_mem_draw hp
  rw [anchors_iff.mp hanchors, hb] at hframe
  rw [hframe.2, horigin]

theorem position_of_absolute (habsolute : p.frame = .absolute) : p.position = p.absolute := by
  have hframe := frame_of_mem_draw hp
  split at hframe
  · exact hframe.2
  · rw [hframe.1] at habsolute
    cases habsolute

end Anchored

theorem nodup_ids_of_loadGraph {source : Source} (h : loadGraph source = .ok g) :
    (g.nodes.map (·.id)).Nodup := by
  rw [loadGraph] at h
  cases hread : Interchange.readAs true .graph source with
  | error r =>
    rw [hread] at h
    cases h
  | ok j =>
    rw [hread] at h
    simp only [bind, Except.bind] at h
    split at h
    · next hfault =>
      cases h
      exact (Graph.fault?_eq_none_iff.mp hfault).1
    · cases h

/-- All nodes of a graph that is loaded are drawn. Those that have an anchor are so in the relative
frame, and count from it; the others count from the corner of the canvas. -/
theorem relative_iff_anchored {source : Source} (h : loadGraph source = .ok g) (m : Metrics α) :
    (draw m g).nodes.map (·.node) = g.nodes ∧
      ∀ p ∈ (draw m g).nodes,
        (p.frame = .relative ↔ ∃ q ∈ g.nodes, Anchors q p.node) ∧
        (∀ q ∈ (draw m g).nodes, Anchors q.node p.node →
          p.position = ⟨p.absolute.x - q.absolute.x, p.absolute.y - q.absolute.y⟩) ∧
        (p.frame = .absolute → p.position = p.absolute) :=
  ⟨map_node_draw, fun _ hp ↦ ⟨frame_eq_relative_iff hp (nodup_ids_of_loadGraph h),
    fun _ hq ↦ position_of_anchors hp hq, position_of_absolute hp⟩⟩

/-- Parents listed late, in a circle or not at all. -/
theorem relative_iff_anchored_of_circle :
    let g : Graph := ⟨[⟨"port", "p", .port "left"⟩, ⟨"left", "L", .part "right"⟩,
      ⟨"right", "R", .part "left"⟩, ⟨"", "S", .system "nowhere"⟩, ⟨"root", "F", .root⟩], []⟩
    let source : Source := .ofJson (.text (g.toJson.render (Interchange.spacing none)))
    let m : Metrics Rat := .standard
    loadGraph source = .ok g ∧ (draw m g).nodes.map (·.node) = g.nodes ∧
      ∀ p ∈ (draw m g).nodes,
        (p.frame = .relative ↔ ∃ q ∈ g.nodes, Anchors q p.node) ∧
        (∀ q ∈ (draw m g).nodes, Anchors q.node p.node →
          p.position = ⟨p.absolute.x - q.absolute.x, p.absolute.y - q.absolute.y⟩) ∧
        (p.frame = .absolute → p.position = p.absolute) := by
  intro g source m
  have hload : loadGraph source = .ok g := Interchange.loadGraph_render (by decide) (by decide) none
  exact ⟨hload, relative_iff_anchored hload m⟩

/-- A root has no parent, and is drawn relative to the goal without a name. -/
theorem root_relative_to_nameless :
    let g : Graph := ⟨[⟨"r", "R", .root⟩, ⟨"", "G", .goal "r" none⟩], []⟩
    (∃ source, loadGraph source = .ok g) ∧ ∀ (α : Type) [Scalar α] (m : Metrics α),
      ∃ p ∈ (draw m g).nodes, p.node.parent? = none ∧ p.frame = .relative := by
  intro g
  have hnodes : (g.nodes.map (·.id)).Nodup := by decide
  refine ⟨⟨_, Interchange.loadGraph_render hnodes (by decide) none⟩, fun α _ m ↦ ?_⟩
  obtain ⟨p, hp, hroot⟩ := exists_mem_draw (m := m) (show ⟨"r", "R", .root⟩ ∈ g.nodes by decide)
  refine ⟨p, hp, by rw [hroot]; rfl, (frame_eq_relative_iff hp hnodes).mpr ?_⟩
  rw [hroot]
  exact ⟨⟨"", "G", .goal "r" none⟩, by decide, .inr ⟨rfl, rfl⟩⟩

end TwinDiagram.Layout
