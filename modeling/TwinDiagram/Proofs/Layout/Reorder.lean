import TwinDiagram.Proofs.Layout.Once
import TwinDiagram.Proofs.Port.Order

namespace TwinDiagram.Layout

section Sorting

theorem sortGoals_congr {goals goals' : List Node} (hperm : goals.Perm goals')
    (hids : ∀ n ∈ goals, ∀ n' ∈ goals, n.id = n'.id → n = n') :
    sortGoals goals = sortGoals goals' := by
  have hle : Sorting.ByValues Node.label Node.id fun a b ↦
      a.label < b.label || (a.label == b.label && decide (a.id ≤ b.id)) := fun a b ↦ by simp
  exact Sorting.mergeSort_congr hle hperm fun n hn n' hn' _ ↦ hids n hn n' hn'

theorem sortBy_congr (order : List String) {ports ports' : List Node} (hperm : ports.Perm ports')
    (hlabels : ∀ p ∈ ports, ∀ p' ∈ ports, p.label = p'.label → p = p') :
    Port.sortBy order Node.label ports = Port.sortBy order Node.label ports' :=
  Sorting.mergeSort_congr (Port.byValues_precedes order Node.label) hperm fun p hp p' hp' _ ↦
    hlabels p hp p' hp'

theorem roleGroups_congr {α : Type} (m : Metrics α) {ports ports' : List Node}
    (hperm : ports.Perm ports') (hlabels : ∀ p ∈ ports, ∀ p' ∈ ports, p.label = p'.label → p = p') :
    roleGroups m ports = roleGroups m ports' := by
  have hrow (role : PortRole) :
      Port.sortBy m.actuatorOrder Node.label
          (ports.filter fun p ↦ PortRole.ofName p.label == role) =
        Port.sortBy m.actuatorOrder Node.label
          (ports'.filter fun p ↦ PortRole.ofName p.label == role) :=
    sortBy_congr _ (hperm.filter _) fun p hp p' hp' ↦
      hlabels p (List.mem_of_mem_filter hp) p' (List.mem_of_mem_filter hp')
  simp only [roleGroups, hrow]

end Sorting

/-- The same graph with its goals, parts, ports and roots declared in another order. -/
structure Reorders (g g' : Graph) : Prop where
  nodes : g.nodes.Perm g'.nodes
  edges : g'.edges = g.edges
  systems : g'.nodesOfKind .system = g.nodesOfKind .system
  twins : g'.nodesOfKind .digitalTwin = g.nodesOfKind .digitalTwin

/-- No two ports with the same parent have the same label. -/
def PortsDistinct (g : Graph) : Prop :=
  ∀ p ∈ g.nodesOfKind .port, ∀ p' ∈ g.nodesOfKind .port, p.parent? = p'.parent? →
    p.label = p'.label →
    p = p'

namespace Reorders

variable {α : Type} {g g' : Graph} (h : Reorders g g')
include h

theorem childrenOfKind_perm (id : String) (k : NodeKind) :
    (g.childrenOfKind id k).Perm (g'.childrenOfKind id k) :=
  (h.nodes.filter _).filter _

theorem childrenOfKind_digitalTwin (id : String) :
    g'.childrenOfKind id .digitalTwin = g.childrenOfKind id .digitalTwin := by
  have hfilter (g : Graph) : g.childrenOfKind id .digitalTwin =
      (g.nodesOfKind .digitalTwin).filter (·.parent? == some id) :=
    List.filter_comm _ _ _
  rw [hfilter, hfilter, h.twins]

theorem roleGroups_eq (hlabels : PortsDistinct g) (m : Metrics α) (owner : String) :
    roleGroups m (g'.childrenOfKind owner .port) = roleGroups m (g.childrenOfKind owner .port) := by
  refine (roleGroups_congr m (h.childrenOfKind_perm owner .port) fun p hp p' hp' ↦ ?_).symm
  obtain ⟨hp, hparent, hkind⟩ := mem_childrenOfKind.mp hp
  obtain ⟨hp', hparent', hkind'⟩ := mem_childrenOfKind.mp hp'
  exact hlabels p (mem_nodesOfKind.mpr ⟨hp, hkind⟩) p' (mem_nodesOfKind.mpr ⟨hp', hkind'⟩)
    (hparent.trans hparent'.symm)

section Partner

variable (hnodes : (g.nodes.map (·.id)).Nodup)
include hnodes

theorem node?_eq (id : String) : g'.node? id = g.node? id := by
  have hnodes' : (g'.nodes.map (·.id)).Nodup := (h.nodes.map _).nodup_iff.mp hnodes
  ext n
  rw [node?_eq_some_iff hnodes, node?_eq_some_iff hnodes', h.nodes.mem_iff]

theorem isOnDigitalTwin_eq (id : String) : isOnDigitalTwin g' id = isOnDigitalTwin g id := by
  simp only [isOnDigitalTwin, h.node?_eq hnodes]

theorem partner?_eq (boxes : Boxes α) (port : String) :
    partner? g' boxes port = partner? g boxes port := by
  simp only [partner?, Graph.edgesOfKind, h.edges, h.isOnDigitalTwin_eq hnodes]

end Partner

end Reorders

namespace Does

open Checked (Canvas Rule ids)

variable {α β : Type} {reads : String → Prop} {step : Canvas α → β → Option (Canvas α)}
  {place : Boxes α → β → Boxes α} {es : β → List (Node × Rule)} {xs ys : List β}
  (h : ∀ x ∈ xs, Does reads (step · x) (place · x) (es x))
  (hfixed : ∀ x ∈ xs, ∀ id ∈ ids (es x), ¬ reads id)
include h hfixed

/-- Where no item changes what another one looks at, each does what it would do alone. -/
theorem get?_foldl (honce : (ids (xs.flatMap es)).Nodup) {x : β} (hx : x ∈ xs) {id : String}
    (hid : id ∈ ids (es x)) (boxes : Boxes α) :
    (xs.foldl place boxes).get? id = (place boxes x).get? id := by
  induction xs generalizing boxes with
  | nil => cases hx
  | cons y xs ih =>
    obtain ⟨hy, hxs⟩ := List.forall_mem_cons.mp h
    obtain ⟨hyfixed, hxsfixed⟩ := List.forall_mem_cons.mp hfixed
    rw [List.flatMap_cons, Checked.ids_append, List.nodup_append'] at honce
    rw [List.foldl_cons]
    obtain rfl | hx := List.mem_cons.mp hx
    · exact (Does.foldlM hxs).kept _ id (honce.2.2 hid)
    · rw [ih hxs hxsfixed honce.2.1 hx]
      refine (hxs x hx).determined _ _ (fun id hreads ↦ hy.kept boxes id fun hmem ↦ ?_) id hid
      exact hyfixed id hmem hreads

theorem get?_foldl_perm (honce : (ids (xs.flatMap es)).Nodup) (hperm : xs.Perm ys)
    {boxes boxes' : Boxes α} (hagree : ∀ id, boxes.get? id = boxes'.get? id) (id : String) :
    (xs.foldl place boxes).get? id = (ys.foldl place boxes').get? id := by
  have h' : ∀ y ∈ ys, Does reads (step · y) (place · y) (es y) := fun y hy ↦
    h y (hperm.mem_iff.mpr hy)
  have hids := (hperm.flatMap_right es).map fun e : Node × Rule ↦ e.1.id
  have honce' : (ids (ys.flatMap es)).Nodup := hids.nodup_iff.mp honce
  by_cases hid : id ∈ ids (xs.flatMap es)
  · obtain ⟨e, he, rfl⟩ := List.mem_map.mp hid
    obtain ⟨x, hx, he⟩ := List.mem_flatMap.mp he
    have hmem : e.1.id ∈ ids (es x) := List.mem_map_of_mem he
    rw [get?_foldl h hfixed honce hx hmem,
      get?_foldl h' (fun y hy ↦ hfixed y (hperm.mem_iff.mpr hy)) honce' (hperm.mem_iff.mp hx) hmem]
    exact (h x hx).determined _ _ (fun id _ ↦ hagree id) _ hmem
  · rw [(Does.foldlM h).kept boxes id hid,
      (Does.foldlM h').kept boxes' id (mt hids.mem_iff.mpr hid)]
    exact hagree id

end Does

open Checked (Canvas Rule ids)

section Places

variable {α : Type} {g g' : Graph} {m : Metrics α} {system : Node}
  (hnodes : (g.nodes.map (·.id)).Nodup)
include hnodes

/-- What is drawn along the frame of a system guides no port. -/
theorem not_guides {part n : Node} (hsystem : system ∈ g.nodesOfKind .system)
    (hpart : part ∈ g.childrenOfKind system.id .part) (hn : n ∈ withPorts g part) :
    ¬ Guides g (g.childrenOfKind system.id .digitalTwin) n.id := by
  obtain ⟨hsystem, hkind⟩ := mem_nodesOfKind.mp hsystem
  obtain ⟨hpart, hparent, hkind'⟩ := mem_childrenOfKind.mp hpart
  have hn' : n ∈ g.nodes ∧ n.kind ≠ .digitalTwin ∧ isOnDigitalTwin g n.id = false := by
    obtain rfl | ⟨hn, hparent', hkind''⟩ := mem_withPorts.mp hn
    · exact ⟨hpart, by rw [hkind']; decide,
        isOnDigitalTwin_eq_false hnodes hsystem (by rw [hkind]; decide) hpart hparent⟩
    · exact ⟨hn, by rw [hkind'']; decide,
        isOnDigitalTwin_eq_false hnodes hpart (by rw [hkind']; decide) hn hparent'⟩
  rintro (hon | ⟨twin, htwin, hid⟩)
  · rw [hn'.2.2] at hon
    cases hon
  · obtain ⟨htwin, -, hkind''⟩ := mem_childrenOfKind.mp htwin
    obtain rfl := List.inj_on_of_nodup_map hnodes htwin hn'.1 hid
    exact hn'.2.1 hkind''

theorem nodup_ids_partEntries (system : Node) :
    (ids ((g.childrenOfKind system.id .part).flatMap (partEntries m g))).Nodup := by
  have hnodup := nodup_flatMap_owners hnodes system
  rw [owners, List.flatMap_append, List.nodup_append] at hnodup
  refine nodup_ids_of_perm hnodes (map_flatMap_partEntries_perm _) hnodup.2.1 fun n hn ↦ ?_
  obtain ⟨part, hpart, hn⟩ := List.mem_flatMap.mp hn
  exact mem_nodes_of_mem_withPorts (mem_childrenOfKind.mp hpart).1 hn

variable [Scalar α]

theorem Reorders.placeGoals_eq (h : Reorders g g') (boxes : Boxes α) :
    placeGoals m g' boxes = placeGoals m g boxes := by
  have hgoals : sortGoals (g.nodesOfKind .goal) = sortGoals (g'.nodesOfKind .goal) :=
    sortGoals_congr (h.nodes.filter _) fun n hn n' hn' ↦ List.inj_on_of_nodup_map hnodes
      (mem_nodesOfKind.mp hn).1 (mem_nodesOfKind.mp hn').1
  rw [placeGoals, placeGoals, hgoals]

variable (h : Reorders g g') (hlabels : PortsDistinct g)
include h hlabels

theorem Reorders.get?_placeSystem (hsystem : system ∈ g.nodesOfKind .system) (index : Nat)
    {boxes boxes' : Boxes α} (hagree : ∀ id, boxes.get? id = boxes'.get? id) (id : String) :
    (placeSystem m g boxes system index).get? id =
      (placeSystem m g' boxes' system index).get? id := by
  have htwins : placeDigitalTwins m g' (systemBox m index) =
      placeDigitalTwins m g (systemBox m index) := by
    funext twins boxes
    simp only [placeDigitalTwins, placeTwinPorts, h.roleGroups_eq hlabels]
  have hparts (twins : List Node) :
      placePart m g' (systemBox m index) twins = placePart m g (systemBox m index) twins := by
    funext boxes part
    simp only [placePart, h.roleGroups_eq hlabels, h.partner?_eq hnodes]
  simp only [placeSystem, htwins, hparts, h.childrenOfKind_digitalTwin]
  refine Does.get?_foldl_perm (fun part hpart ↦ does_placePart_of_mem hnodes hpart)
    (fun part hpart id hid ↦ ?_) (nodup_ids_partEntries hnodes system)
    (h.childrenOfKind_perm system.id .part) (fun id ↦ ?_) id
  · obtain ⟨e, he, rfl⟩ := List.mem_map.mp hid
    exact not_guides hnodes hsystem hpart
      ((map_partEntries_perm part).mem_iff.mp (List.mem_map_of_mem he))
  · have hinsert (id : String) : (boxes.insert system.id (systemBox m index)).get? id =
        (boxes'.insert system.id (systemBox m index)).get? id := by
      rw [Table.get?_insert, Table.get?_insert, hagree]
    exact Does.congr does_placeDigitalTwins (fun id (_ : True) ↦ hinsert id) (hinsert id)

theorem Reorders.get?_placeSystems (boxes : Boxes α) (id : String) :
    (placeSystems m g boxes).get? id = (placeSystems m g' boxes).get? id := by
  have hfold {systems : List (Node × Nat)} (hsystems : ∀ n ∈ systems, n.1 ∈ g.nodesOfKind .system)
      {boxes boxes' : Boxes α} (hagree : ∀ id, boxes.get? id = boxes'.get? id) :
      (systems.foldl (fun boxes n ↦ placeSystem m g boxes n.1 n.2) boxes).get? id =
        (systems.foldl (fun boxes n ↦ placeSystem m g' boxes n.1 n.2) boxes').get? id := by
    induction systems generalizing boxes boxes' with
    | nil => exact hagree id
    | cons n systems ih =>
      obtain ⟨hn, hrest⟩ := List.forall_mem_cons.mp hsystems
      exact ih hrest (h.get?_placeSystem hnodes hlabels hn n.2 hagree)
  rw [placeSystems, placeSystems, h.systems]
  exact hfold (fun n hn ↦ List.fst_mem_of_mem_zipIdx hn) fun _ ↦ rfl

end Places

section Kept

variable {α : Type} [Scalar α] {g : Graph} {m : Metrics α} {id : String}

theorem get?_takeSlot {node : Node} (hnode : id ≠ node.id) (origin : Point α) (f : Filling α) :
    (takeSlot m node origin f).2.boxes.get? id = f.boxes.get? id := by
  rw [takeSlot, Table.get?_insert, if_neg hnode]

/-- The grid is for nodes without a box. -/
theorem get?_placeRemaining {others : List Node} {node : Node} {f : Filling α}
    (hid : (f.boxes.get? id).isSome) :
    (placeRemaining m others node f).2.boxes.get? id = f.boxes.get? id := by
  induction hlength : others.length using Nat.strongRecOn generalizing node others with
  | ind n ih =>
    subst hlength
    rw [placeRemaining_eq]
    cases hbox : f.boxes.get? node.id with
    | some box => rfl
    | none =>
      have hnode : id ≠ node.id := by
        rintro rfl
        rw [hbox] at hid
        cases hid
      cases hparent : others.find? (·.id == node.parent?.getD "") with
      | none => exact get?_takeSlot hnode _ f
      | some parent =>
        exact (get?_takeSlot hnode _ _).trans
          (ih _ (length_without_lt (List.mem_of_find?_eq_some hparent)) rfl)

theorem get?_fill {boxes : Boxes α} (hid : (boxes.get? id).isSome) :
    (fill m g boxes).get? id = boxes.get? id := by
  have hfold (nodes : List Node) {f : Filling α} (hid : (f.boxes.get? id).isSome) :
      (nodes.foldl (fun f n ↦ (placeRemaining m (without n.id g.nodes) n f).2) f).boxes.get? id =
        f.boxes.get? id := by
    induction nodes generalizing f with
    | nil => rfl
    | cons n nodes ih =>
      have hkept : (placeRemaining m (without n.id g.nodes) n f).2.boxes.get? id =
          f.boxes.get? id :=
        get?_placeRemaining hid
      rw [List.foldl_cons, ih (hkept ▸ hid), hkept]
  exact hfold g.nodes hid

end Kept

/-- The nodes whose place does not depend on the order of declarations: goals, and systems with all
that is drawn in them. -/
def Settled (g : Graph) (n : Node) : Prop :=
  n ∈ g.nodesOfKind .goal ∨ ∃ system ∈ g.nodesOfKind .system, n ∈ family g system

section Settled

variable {g g' : Graph} {n : Node}

theorem Settled.mem_ruledNodes (hn : Settled g n) : n ∈ ruledNodes g := by
  obtain hn | ⟨system, hsystem, hn⟩ := hn
  · exact List.mem_append_left _ hn
  · exact List.mem_append_right _
      (List.mem_append_left _ (List.mem_flatMap.mpr ⟨system, hsystem, hn⟩))

theorem Settled.kind_ne_root (hn : Settled g n) : n.kind ≠ .root := by
  obtain hn | ⟨system, hsystem, hn⟩ := hn
  · rw [(mem_nodesOfKind.mp hn).2]
    decide
  · exact (kind_of_mem_family hsystem hn).2

theorem Reorders.settled (h : Reorders g g') (hn : Settled g n) : Settled g' n := by
  refine hn.imp ((h.nodes.filter _).mem_iff.mp ·) fun ⟨system, hsystem, hn⟩ ↦
    ⟨system, h.systems ▸ hsystem, mem_family.mpr ((mem_family.mp hn).imp_right ?_)⟩
  rintro ⟨owner, howner, hn⟩
  simp only [mem_owners, mem_withPorts, h.nodes.mem_iff] at howner hn
  exact ⟨owner, mem_owners.mpr howner, mem_withPorts.mpr hn⟩

end Settled

section Drawing

variable {α : Type} [Scalar α] {g g' : Graph} {m : Metrics α} {n : Node}
  (hnodes : (g.nodes.map (·.id)).Nodup)
include hnodes

/-- Roots and the grid leave the other rules' boxes as they are. -/
theorem Settled.get?_place (hn : Settled g n) :
    ((place m g).get? n.id).isSome ∧
      (place m g).get? n.id = (placeSystems m g (placeGoals m g .empty)).get? n.id := by
  have hnode := mem_nodes_of_mem_ruledNodes hn.mem_ruledNodes
  have hplaced := (does_rules hnodes).placed .empty n.id
    (mem_ids_of_mem_ruledNodes m hn.mem_ruledNodes)
  have hfill : (place m g).get? n.id = _ := get?_fill hplaced
  refine ⟨hfill ▸ hplaced, hfill.trans (does_placeRoots.kept _ n.id fun hid ↦ ?_)⟩
  obtain ⟨e, he, hid⟩ := List.mem_map.mp hid
  obtain ⟨root, hroot, he⟩ := List.mem_flatMap.mp he
  obtain rfl := List.mem_singleton.mp he
  obtain ⟨hroot, hkind⟩ := mem_nodesOfKind.mp hroot
  obtain rfl := List.inj_on_of_nodup_map hnodes hroot hnode hid
  exact hn.kind_ne_root hkind

theorem Reorders.get?_place (h : Reorders g g') (hlabels : PortsDistinct g) (hn : Settled g n) :
    (place m g).get? n.id = (place m g').get? n.id := by
  have hnodes' : (g'.nodes.map (·.id)).Nodup := (h.nodes.map _).nodup_iff.mp hnodes
  rw [(hn.get?_place hnodes).2, ((h.settled hn).get?_place hnodes').2, h.placeGoals_eq hnodes]
  exact h.get?_placeSystems hnodes hlabels _ n.id

/-- Where a settled node is drawn. -/
theorem Settled.drawn (hn : Settled g n) :
    ∃ b, (place m g).get? n.id = some b ∧ (∃ p ∈ (draw m g).nodes, p.node = n) ∧
      ∀ p ∈ (draw m g).nodes, p.node = n →
        p.absolute = b.origin ∧ p.size = sizeOf? b.size ∧ p.role = b.role ∧ p.side = b.side := by
  have hnode := mem_nodes_of_mem_ruledNodes hn.mem_ruledNodes
  obtain ⟨b, hb⟩ := Option.isSome_iff_exists.mp (hn.get?_place (m := m) hnodes).1
  have hstretched : (stretchRoots g (canvasSize m (place m g)) (place m g)).get? n.id = some b := by
    rw [get?_stretchRoots, if_neg, hb]
    intro hid
    obtain ⟨root, hroot, hid⟩ := List.mem_map.mp hid
    obtain ⟨hroot, hkind⟩ := mem_nodesOfKind.mp hroot
    obtain rfl := List.inj_on_of_nodup_map hnodes hroot hnode hid
    exact hn.kind_ne_root hkind
  refine ⟨b, hb, ⟨_, List.mem_filterMap.mpr ⟨n, hnode, by rw [hstretched]; rfl⟩, rfl⟩, ?_⟩
  rintro p hp rfl
  obtain ⟨n, -, hp⟩ := List.mem_filterMap.mp hp
  obtain ⟨b', hb', rfl⟩ := Option.map_eq_some_iff.mp hp
  obtain rfl : b' = b := Option.some_inj.mp (hb'.symm.trans hstretched)
  exact ⟨rfl, rfl, rfl, rfl⟩

end Drawing

end TwinDiagram.Layout
