import TwinDiagram.Proofs.Layout.Frame
import TwinDiagram.Proofs.Layout.TwinRow

namespace TwinDiagram.Layout

open Checked (Rule ids)

section Distinct

variable {α β : Type} {boxes : Boxes α}

theorem distinct_foldl {step : Boxes α → β → Boxes α}
    (hstep : ∀ boxes x, boxes.Distinct → (step boxes x).Distinct) (xs : List β)
    (h : boxes.Distinct) :
    (xs.foldl step boxes).Distinct :=
  List.foldlRecOn xs step h fun boxes hboxes x _ ↦ hstep boxes x hboxes

variable [Scalar α] {m : Metrics α} {g : Graph}

theorem distinct_placeGoals (h : boxes.Distinct) : (placeGoals m g boxes).Distinct :=
  distinct_foldl (fun _ _ h ↦ h.insert _ _) _ h

theorem distinct_placeTwinPorts (twin : Box α) (ports : List Node) (h : boxes.Distinct) :
    (placeTwinPorts m twin ports boxes).Distinct :=
  distinct_foldl (fun _ _ h ↦ distinct_foldl (fun _ _ h ↦ h.insert _ _) _ h) _ h

theorem distinct_placeDigitalTwins (system : Box α) (twins : List Node) (h : boxes.Distinct) :
    (placeDigitalTwins m g system twins boxes).Distinct :=
  distinct_foldl (fun _ _ h ↦ distinct_placeTwinPorts _ _ (h.insert _ _)) _ h

theorem distinct_placeBoundaryPorts (system : Box α) (reference : Option (Box α)) (role : PortRole)
    (count slot : Nat) (ports : List (Node × Option (Box α))) (h : boxes.Distinct) :
    (placeBoundaryPorts m system reference role count slot ports boxes).Distinct := by
  induction ports generalizing slot boxes with
  | nil => exact h
  | cons port ports ih => exact ih _ (h.insert _ _)

theorem distinct_placePart (system : Box α) (twins : List Node) (part : Node) (h : boxes.Distinct) :
    (placePart m g system twins boxes part).Distinct :=
  distinct_foldl (fun _ _ h ↦ distinct_placeBoundaryPorts _ _ _ _ _ _ h) _ (h.insert _ _)

theorem distinct_placeSystems (h : boxes.Distinct) : (placeSystems m g boxes).Distinct := by
  refine distinct_foldl (fun boxes n h ↦ ?_) _ h
  exact distinct_foldl (fun _ part h ↦ distinct_placePart _ _ part h) _
    (distinct_placeDigitalTwins _ _ (h.insert _ _))

theorem distinct_placeRoots (h : boxes.Distinct) : (placeRoots g boxes).Distinct := by
  refine distinct_foldl (fun boxes n h ↦ ?_) _ h
  split
  · exact h
  · exact h.insert _ _

theorem distinct_placeRemaining {others : List Node} {node : Node} {f : Filling α}
    (h : f.boxes.Distinct) :
    (placeRemaining m others node f).2.boxes.Distinct := by
  induction hlength : others.length using Nat.strongRecOn generalizing node others with
  | ind n ih =>
    subst hlength
    rw [placeRemaining_eq]
    split
    · exact h
    · split
      · exact h.insert _ _
      · next hparent =>
        exact (ih _ (length_without_lt (List.mem_of_find?_eq_some hparent)) rfl).insert _ _

theorem distinct_place (m : Metrics α) (g : Graph) : (place m g).Distinct := by
  have hrules : (placeByRules m g .empty).Distinct :=
    distinct_placeRoots (distinct_placeSystems (distinct_placeGoals Table.distinct_empty))
  exact List.foldlRecOn (motive := fun f : Filling α ↦ f.boxes.Distinct) g.nodes _ hrules
    fun _ h _ _ ↦ distinct_placeRemaining h

end Distinct

namespace Scalar

theorem maximum_spec {xs : List Rat} (h : xs ≠ []) :
    maximum xs ∈ xs ∧ ∀ x ∈ xs, x ≤ maximum xs := by
  cases xs with
  | nil => exact absurd rfl h
  | cons x rest =>
    have hgreatest : (greatest : Rat → Rat → Rat) = max := by
      funext x y
      exact greatest_eq_max x y
    have hmax : (x :: rest).max? = some (maximum (x :: rest)) := by
      rw [maximum, hgreatest, List.max?_cons']
    exact List.max?_eq_some_iff.mp hmax

end Scalar

namespace PlacedNode

def extent (p : PlacedNode Rat) : Size Rat := p.size.getD ⟨0, 0⟩

def right (p : PlacedNode Rat) : Rat := p.absolute.x + p.extent.width

def bottom (p : PlacedNode Rat) : Rat := p.absolute.y + p.extent.height

/-- The lower right corner of what is drawn; of a root, which frames it, this is the point it
stands at. -/
def corner (p : PlacedNode Rat) : Point Rat :=
  if p.node.kind = .root then p.absolute else ⟨p.right, p.bottom⟩

end PlacedNode

theorem sizeOf?_eq (s : Size Rat) :
    sizeOf? s = if s.width = 0 ∧ s.height = 0 then none else some s := by
  have hzero : (Scalar.isZero s.width && Scalar.isZero s.height) = true ↔
      s.width = 0 ∧ s.height = 0 := by
    rw [Bool.and_eq_true]
    exact and_congr beq_iff_eq beq_iff_eq
  rw [sizeOf?]
  exact if_congr hzero rfl rfl

theorem getD_sizeOf? (s : Size Rat) : (sizeOf? s).getD ⟨0, 0⟩ = s := by
  rw [sizeOf?_eq]
  split
  · next hzero =>
    cases s
    exact (Size.mk.injEq ..).mpr ⟨hzero.1.symm, hzero.2.symm⟩
  · rfl

section Drawn

variable {α : Type} [Scalar α] {m : Metrics α} {g : Graph}

def pointBox : Box α := .plain (Scalar.ofNat 0) (Scalar.ofNat 0) (Scalar.ofNat 0) (Scalar.ofNat 0)

theorem right_pointBox : (pointBox : Box Rat).right = 0 := add_zero 0

theorem bottom_pointBox : (pointBox : Box Rat).bottom = 0 := add_zero 0

theorem get?_placeRoots (boxes : Boxes α) (id : String) : (placeRoots g boxes).get? id =
    (boxes.get? id).or (if id ∈ (g.nodesOfKind .root).map (·.id) then some pointBox else none) := by
  rw [placeRoots]
  induction g.nodesOfKind .root generalizing boxes with
  | nil => simp
  | cons n roots ih =>
    have hstep : (if boxes.contains n.id then boxes else boxes.insert n.id pointBox) =
        boxes.insertNew n.id pointBox := by
      unfold Table.insertNew Table.insert
      split <;> rfl
    rw [List.foldl_cons, ih, ← pointBox, hstep, Table.get?_insertNew, Option.or_assoc]
    by_cases hid : id = n.id <;> simp [hid]

variable (hnodes : (g.nodes.map (·.id)).Nodup)
include hnodes

theorem get?_place_root {n : Node} (hn : n ∈ g.nodesOfKind .root) :
    (place m g).get? n.id = some pointBox := by
  have hids := nodup_ids_ruleEntries (m := m) hnodes
  rw [ruleEntries, ← List.append_assoc, Checked.ids_append, List.nodup_append'] at hids
  obtain ⟨-, -, hapart⟩ := hids
  have hroot : n.id ∈ (g.nodesOfKind .root).map (·.id) := List.mem_map_of_mem hn
  have hentry : n.id ∈ ids ((g.nodesOfKind .root).flatMap fun n ↦ [(n, Rule.origin)]) :=
    List.mem_map.mpr ⟨(n, .origin), List.mem_flatMap.mpr ⟨n, hn, .head _⟩, rfl⟩
  have hnew : (placeSystems m g (placeGoals m g .empty)).get? n.id = none :=
    (does_placeGoals.bind (does_placeSystems hnodes)).kept .empty n.id fun h ↦ hapart h hentry
  have hbox : (placeByRules m g .empty).get? n.id = some pointBox := by
    rw [placeByRules, get?_placeRoots, hnew, if_pos hroot]
    rfl
  rw [place, get?_fill (by rw [hbox]; rfl), hbox]

/-- A node is drawn as its box, but for the size of a root. -/
theorem exists_box_of_mem_draw {p : PlacedNode α} (hp : p ∈ (draw m g).nodes) :
    ∃ b, (place m g).get? p.node.id = some b ∧ p.absolute = b.origin ∧
      p.size = sizeOf? (if p.node.kind = .root then canvasSize m (place m g) else b.size) := by
  obtain ⟨n, hn, hp⟩ := List.mem_filterMap.mp hp
  obtain ⟨b, hb, rfl⟩ := Option.map_eq_some_iff.mp hp
  change ∃ b', (place m g).get? n.id = some b' ∧ b.origin = b'.origin ∧
    sizeOf? b.size = sizeOf? (if n.kind = .root then canvasSize m (place m g) else b'.size)
  rw [get?_stretchRoots] at hb
  split at hb
  · next hroot =>
    obtain ⟨r, hr, hid⟩ := List.mem_map.mp hroot
    obtain ⟨hr, hkind⟩ := mem_nodesOfKind.mp hr
    obtain rfl := List.inj_on_of_nodup_map hnodes hr hn hid
    obtain ⟨b', hb', rfl⟩ := Option.map_eq_some_iff.mp hb
    exact ⟨b', hb', rfl, by rw [if_pos hkind]⟩
  · next hroot =>
    have hkind : n.kind ≠ .root := fun hkind ↦
      hroot (List.mem_map_of_mem (mem_nodesOfKind.mpr ⟨hn, hkind⟩))
    exact ⟨b, hb, rfl, by rw [if_neg hkind]⟩

end Drawn

section Bounds

variable {m : Metrics Rat} {g : Graph} (hnodes : (g.nodes.map (·.id)).Nodup)
include hnodes

/-- A node ends where its box does. -/
theorem corner_of_mem_draw {p : PlacedNode Rat} (hp : p ∈ (draw m g).nodes) :
    ∃ b, (place m g).get? p.node.id = some b ∧ p.corner = ⟨b.right, b.bottom⟩ := by
  obtain ⟨b, hb, horigin, hsize⟩ := exists_box_of_mem_draw hnodes hp
  refine ⟨b, hb, ?_⟩
  rw [PlacedNode.corner, PlacedNode.right, PlacedNode.bottom, PlacedNode.extent, hsize,
    getD_sizeOf?, horigin]
  split
  · next hkind =>
    have hn : p.node ∈ g.nodesOfKind .root :=
      mem_nodesOfKind.mpr ⟨(absolute_of_mem_draw hp).1, hkind⟩
    rw [get?_place_root hnodes hn, Option.some_inj] at hb
    rw [← hb, right_pointBox, bottom_pointBox]
    rfl
  · rfl

/-- The greatest of what can be measured of the boxes is that of the node with the last box. -/
theorem maximum_place (measure : Box Rat → Rat) (hne : g.nodes ≠ []) :
    (∃ n ∈ g.nodes, ∃ b, (place m g).get? n.id = some b ∧
      measure b = Scalar.maximum ((place m g).values.map measure)) ∧
    ∀ id b, (place m g).get? id = some b →
      measure b ≤ Scalar.maximum ((place m g).values.map measure) := by
  have hvalue : ∀ b, b ∈ (place m g).values ↔ ∃ id, (place m g).get? id = some b := fun b ↦
    (distinct_place m g).mem_values_iff
  have hnode : ∀ id b, (place m g).get? id = some b → id ∈ g.nodes.map (·.id) := fun id b hb ↦
    (isSome_get?_place_iff hnodes).mp (Option.isSome_iff_exists.mpr ⟨b, hb⟩)
  obtain ⟨n, hn⟩ := List.exists_mem_of_ne_nil _ hne
  obtain ⟨b, hb⟩ := Option.isSome_iff_exists.mp
    ((isSome_get?_place_iff (m := m) hnodes).mpr (List.mem_map_of_mem hn))
  obtain ⟨hmem, hle⟩ := Scalar.maximum_spec
    (List.ne_nil_of_mem (List.mem_map_of_mem (f := measure) ((hvalue b).mpr ⟨n.id, hb⟩)))
  refine ⟨?_, fun id b hb ↦ hle _ (List.mem_map_of_mem ((hvalue b).mpr ⟨id, hb⟩))⟩
  obtain ⟨b', hb', hmax⟩ := List.mem_map.mp hmem
  obtain ⟨id, hid⟩ := (hvalue b').mp hb'
  obtain ⟨n', hn', rfl⟩ := List.mem_map.mp (hnode id b' hid)
  exact ⟨n', hn', b', hid, hmax⟩

/-- No node reaches beyond the last box, and one reaches it. -/
theorem corner_le_maximum (coordinate : Point Rat → Rat) (hne : g.nodes ≠ []) :
    let last := Scalar.maximum ((place m g).values.map fun b ↦ coordinate ⟨b.right, b.bottom⟩)
    (∃ p ∈ (draw m g).nodes, coordinate p.corner = last) ∧
      ∀ p ∈ (draw m g).nodes, coordinate p.corner ≤ last := by
  obtain ⟨⟨n, hn, b, hb, hlast⟩, hle⟩ :=
    maximum_place (m := m) hnodes (fun b ↦ coordinate ⟨b.right, b.bottom⟩) hne
  refine ⟨?_, fun p hp ↦ ?_⟩
  · obtain ⟨p, hp, rfl⟩ := exists_mem_draw (m := m) hn
    obtain ⟨b', hb', hcorner⟩ := corner_of_mem_draw hnodes hp
    obtain rfl := Option.some_inj.mp (hb.symm.trans hb')
    exact ⟨p, hp, by rw [hcorner, hlast]⟩
  · obtain ⟨b, hb, hcorner⟩ := corner_of_mem_draw hnodes hp
    rw [hcorner]
    exact hle _ b hb

/-- The canvas is the least that holds what is drawn and a margin, and roots fill it. -/
theorem canvas_bounds_drawing (m : Metrics Rat) :
    let d := draw m g
    d.nodes.map (·.node) = g.nodes ∧
    (∀ p ∈ d.nodes, p.node.kind ≠ .root →
      p.right ≤ d.width - m.margin ∧ p.bottom ≤ d.height - m.margin) ∧
    (g.nodes ≠ [] → (∃ p ∈ d.nodes, p.corner.x = d.width - m.margin) ∧
      ∃ p ∈ d.nodes, p.corner.y = d.height - m.margin) ∧
    ∀ p ∈ d.nodes, p.node.kind = .root → p.absolute = ⟨0, 0⟩ ∧
      p.size = if d.width = 0 ∧ d.height = 0 then none else some ⟨d.width, d.height⟩ := by
  intro d
  have hwidth : d.width - m.margin = Scalar.maximum ((place m g).values.map Box.right) :=
    add_sub_cancel_right _ _
  have hheight : d.height - m.margin = Scalar.maximum ((place m g).values.map Box.bottom) :=
    add_sub_cancel_right _ _
  rw [hwidth, hheight]
  refine ⟨map_node_draw, fun p hp hkind ↦ ?_, fun hne ↦ ?_, fun p hp hkind ↦ ?_⟩
  · have hne : g.nodes ≠ [] := List.ne_nil_of_mem (absolute_of_mem_draw hp).1
    have hcorner : p.corner = ⟨p.right, p.bottom⟩ := if_neg hkind
    have hx := (corner_le_maximum (m := m) hnodes Point.x hne).2 p hp
    have hy := (corner_le_maximum (m := m) hnodes Point.y hne).2 p hp
    rw [hcorner] at hx hy
    exact ⟨hx, hy⟩
  · exact ⟨(corner_le_maximum hnodes Point.x hne).1, (corner_le_maximum hnodes Point.y hne).1⟩
  · obtain ⟨b, hb, horigin, hsize⟩ := exists_box_of_mem_draw hnodes hp
    have hn : p.node ∈ g.nodesOfKind .root :=
      mem_nodesOfKind.mpr ⟨(absolute_of_mem_draw hp).1, hkind⟩
    rw [get?_place_root hnodes hn, Option.some_inj] at hb
    rw [if_pos hkind, sizeOf?_eq] at hsize
    exact ⟨by rw [horigin, ← hb]; rfl, hsize⟩

end Bounds

/-- Things that follow no rule reach further than those that do. -/
theorem canvas_bounds_drawing_of_stray :
    let g : Graph := ⟨[⟨"q", "clock", .port "p"⟩, ⟨"r", "R", .root⟩, ⟨"g", "G", .goal "r" none⟩,
      ⟨"s", "S", .system "r"⟩, ⟨"t", "T", .digitalTwin "s"⟩, ⟨"a", "heat_sensor", .port "t"⟩,
      ⟨"p", "P", .part "s"⟩, ⟨"u", "U", .digitalTwin "u"⟩, ⟨"b", "B", .port "a"⟩], []⟩
    let m : Metrics Rat := .standard
    let d := draw m g
    (g.nodes.map (·.id)).Nodup ∧
    d.nodes.map (·.node) = g.nodes ∧
    (∀ p ∈ d.nodes, p.node.kind ≠ .root →
      p.right ≤ d.width - m.margin ∧ p.bottom ≤ d.height - m.margin) ∧
    ((∃ p ∈ d.nodes, p.corner.x = d.width - m.margin) ∧
      ∃ p ∈ d.nodes, p.corner.y = d.height - m.margin) ∧
    ∀ p ∈ d.nodes, p.node.kind = .root → p.absolute = ⟨0, 0⟩ ∧
      p.size = if d.width = 0 ∧ d.height = 0 then none else some ⟨d.width, d.height⟩ := by
  intro g m d
  have hnodes : (g.nodes.map (·.id)).Nodup := by decide
  obtain ⟨hall, hbounds, hreached, hroots⟩ := canvas_bounds_drawing hnodes m
  exact ⟨hnodes, hall, hbounds, hreached (List.cons_ne_nil _ _), hroots⟩

/-- A root alone has no size on a canvas without a margin. -/
theorem lone_root_without_size :
    let g : Graph := ⟨[⟨"r", "R", .root⟩], []⟩
    let m : Metrics Rat := { Metrics.standard with margin := 0 }
    let d := draw m g
    (g.nodes.map (·.id)).Nodup ∧
      ∃ p ∈ d.nodes, p.node.kind = .root ∧ p.size ≠ some ⟨d.width, d.height⟩ := by
  intro g m d
  obtain ⟨p, hp, hroot⟩ := exists_mem_draw (m := m) (show ⟨"r", "R", .root⟩ ∈ g.nodes by decide)
  have hkind : p.node.kind = .root := hroot ▸ rfl
  obtain ⟨b, -, -, hsize⟩ := exists_box_of_mem_draw (by decide) hp
  have hwidth : (canvasSize m (place m g)).width = 0 := by decide +kernel
  have hheight : (canvasSize m (place m g)).height = 0 := by decide +kernel
  rw [if_pos hkind, sizeOf?_eq, if_pos ⟨hwidth, hheight⟩] at hsize
  exact ⟨by decide, p, hp, hkind, fun h ↦ nomatch hsize.symm.trans h⟩

end TwinDiagram.Layout
