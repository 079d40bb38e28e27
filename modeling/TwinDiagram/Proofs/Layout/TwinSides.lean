import TwinDiagram.Proofs.Layout.Frame
import TwinDiagram.Proofs.Layout.TwinRow

namespace TwinDiagram

namespace Port

/-- The places in drawing order are those of the sorted items. -/
theorem map_getElem?_order {α : Type} (canonical : List String) (name : α → String) (xs : List α) :
    (order (xs.map name) canonical).map (fun i ↦ xs[i]?) = (sortBy canonical name xs).map some := by
  let sorted := xs.zipIdx.mergeSort fun a b ↦ precedes canonical (name a.1) (name b.1)
  have horder : order (xs.map name) canonical = sorted.map Prod.snd := by
    have hnames : (xs.map name).zipIdx = xs.zipIdx.map (Prod.map name id) := List.zipIdx_map
    rw [order, sortBy, hnames,
      ← List.map_mergeSort (r := fun a b ↦ precedes canonical (name a.1) (name b.1))
      (fun _ _ _ _ ↦ rfl), List.map_map]
    rfl
  have hsort : sortBy canonical name xs = sorted.map Prod.fst := by
    rw [List.map_mergeSort (s := fun a b ↦ precedes canonical (name a) (name b))
      (fun _ _ _ _ ↦ rfl), List.zipIdx_map_fst]
    rfl
  rw [horder, hsort, List.map_map, List.map_map]
  refine List.map_congr_left fun e he ↦ ?_
  exact List.mem_zipIdx_iff_getElem?.mp (List.mem_mergeSort.mp he)

end Port

namespace Layout

open Checked (Rule ids)

variable {α : Type} [Scalar α] {m : Metrics α} {g : Graph} {system twin port : Node}
  {role : PortRole}
  {k : Nat}

/-- The ports of an owner in one role, as they are listed. -/
def portsIn (g : Graph) (owner : Node) (role : PortRole) : List Node :=
  (g.childrenOfKind owner.id .port).filter fun p ↦ PortRole.ofName p.label == role

def sideBox (m : Metrics α) (twin : Box α) (role : PortRole) (count k : Nat) : Box α :=
  m.portBox ((twin.slotOn role.side k count).corner m.portSize) role

section Placed

variable (hnodes : (g.nodes.map (·.id)).Nodup)
include hnodes

/-- Each port is drawn as if it were alone. -/
theorem get?_placeTwinPorts (hk : (frameRow m g twin role)[k]? = some port) (box : Box α)
    (boxes : Boxes α) :
    (placeTwinPorts m box (g.childrenOfKind twin.id .port) boxes).get? port.id =
      some (sideBox m box role (frameRow m g twin role).length k) := by
  obtain ⟨hport, rfl⟩ := mem_frameRow.mp (List.mem_of_getElem? hk)
  have hrow (row : PortRole × List Node) : Does (fun _ ↦ False) _
      (fun boxes ↦ row.2.zipIdx.foldl (fun boxes e ↦
        boxes.insert e.1.id (sideBox m box row.1 row.2.length e.2)) boxes)
      (row.2.zipIdx.flatMap fun e ↦ [(e.1, Rule.twinSide)]) :=
        .foldlM fun e _ ↦ .put .twinSide e.1 _
  have honce : (ids (twinPortEntries m (g.childrenOfKind twin.id .port))).Nodup :=
    nodup_ids_of_perm hnodes (map_twinPortEntries_perm _) (nodup_childrenOfKind hnodes _ _)
      fun _ hp ↦ (mem_childrenOfKind.mp hp).1
  have hids (row : List Node) :
      ids (row.zipIdx.flatMap fun e ↦ [(e.1, Rule.twinSide)]) = row.map (·.id) := by
    conv_rhs => rw [← map_zipIdx_entries .twinSide row, List.map_map]
    rfl
  have hid : port.id ∈ (frameRow m g twin (PortRole.ofName port.label)).map (·.id) :=
    List.mem_map_of_mem (List.mem_of_getElem? hk)
  refine (Does.get?_foldl (fun row _ ↦ hrow row) (fun _ _ _ _ h ↦ h) honce
    (frameRow_mem_roleGroups hport) (hids _ ▸ hid) boxes).trans ?_
  refine (Does.get?_foldl (x := (port, k)) (fun e _ ↦ .put .twinSide e.1 _) (fun _ _ _ _ h ↦ h)
    (hids _ ▸ nodup_frameRow hnodes m twin _) (List.mem_zipIdx_iff_getElem?.mpr hk)
    (.head _) boxes).trans ?_
  rw [Table.get?_insert, if_pos rfl]

theorem drawnAs_sideBox {before behind : List Node}
    (hsystems : g.nodesOfKind .system = before ++ system :: behind) {i : Nat}
    (hi : (g.childrenOfKind system.id .digitalTwin)[i]? = some twin)
    (hk : (frameRow m g twin role)[k]? = some port) :
    DrawnAs m g port (sideBox m (twinBox m (systemBox m before.length)
      (g.childrenOfKind system.id .digitalTwin).length i) role
        (frameRow m g twin role).length k) := by
  have hchild := (mem_frameRow.mp (List.mem_of_getElem? hk)).1
  have hsettled : Settled g port :=
    settled_of_twin (by simp [hsystems]) (List.mem_of_getElem? hi) (List.mem_cons_of_mem _ hchild)
  have hid : port.id ∈ twin.id :: ids (twinPortEntries m (g.childrenOfKind twin.id .port)) := by
    obtain ⟨e, he, rfl⟩ :=
      List.mem_map.mp ((map_twinPortEntries_perm (m := m) _).mem_iff.mpr hchild)
    exact List.mem_cons_of_mem _ (List.mem_map_of_mem he)
  refine drawnAs_of_stage hnodes hsystems hsettled ?_
  rw [stage, get?_placeDigitalTwins hnodes (nodup_childrenOfKind hnodes _ _)
    (fun _ ↦ mem_nodesOfKind_of_mem_childrenOfKind) hi hid, get?_placeTwinPorts hnodes hk]

theorem existsUnique_mem_draw {n : Node} (hn : n ∈ g.nodes) (m : Metrics α) :
    ∃! p, p ∈ (draw m g).nodes ∧ p.node = n := by
  obtain ⟨p, hp, rfl⟩ := exists_mem_draw (m := m) hn
  have hnodup : ((draw m g).nodes.map (·.node)).Nodup := map_node_draw (m := m) ▸ hnodes.of_map
  exact ⟨p, ⟨hp, rfl⟩, fun q ⟨hq, hqp⟩ ↦ List.inj_on_of_nodup_map hnodup hq hp hqp⟩

end Placed

section Sides

variable {m : Metrics Rat} {twin : Box Rat} {count : Nat} {f f' : Rat}

def Box.centre (b : Box Rat) : Point Rat := ⟨b.x + b.width / 2, b.y + b.height / 2⟩

def Box.along (b : Box Rat) (role : PortRole) (fraction : Rat) : Point Rat :=
  match role with
  | .sensor => ⟨b.x + fraction * b.width, b.y⟩
  | .actuator => ⟨b.x + fraction * b.width, b.bottom⟩
  | .unclassified => ⟨b.x, b.y + fraction * b.height⟩

def Point.Before (role : PortRole) (p q : Point Rat) : Prop :=
  match role with
  | .sensor | .actuator => p.x < q.x
  | .unclassified => p.y < q.y

theorem centre_sideBox :
    (sideBox m twin role count k).centre = twin.along role ((k + 1) / (count + 1)) := by
  have hcentre (p : Point Rat) : (m.portBox (p.corner m.portSize) role).centre = p := by
    have hback (x : Rat) : x - m.portSize / (2 : Nat) + m.portSize / 2 = x := by
      push_cast
      ring
    exact congrArg₂ Point.mk (hback p.x) (hback p.y)
  have hplace (start length : Rat) : start + length * (k + 1 : Nat) / (count + 1 : Nat) =
      start + (k + 1) / (count + 1) * length := by
    push_cast
    ring
  rw [sideBox, hcentre]
  cases role
  · exact congrArg (Point.mk · _) (hplace _ _)
  · exact congrArg (Point.mk · _) (hplace _ _)
  · exact congrArg (Point.mk _) (hplace _ _)

section Before

variable (hwidth : 0 < twin.width) (hheight : 0 < twin.height)
include hwidth hheight

theorem before_along (hf : f < f') : (twin.along role f).Before role (twin.along role f') := by
  cases role
  · exact add_lt_add_right (mul_lt_mul_of_pos_right hf hwidth) _
  · exact add_lt_add_right (mul_lt_mul_of_pos_right hf hwidth) _
  · exact add_lt_add_right (mul_lt_mul_of_pos_right hf hheight) _

theorem between_corners (hk : k < count) :
    (twin.along role 0).Before role (sideBox m twin role count k).centre ∧
      (sideBox m twin role count k).centre.Before role (twin.along role 1) := by
  have hcount : (0 : Rat) < count + 1 := by positivity
  have hlt : (k : Rat) < count := Nat.cast_lt.mpr hk
  rw [centre_sideBox]
  exact ⟨before_along hwidth hheight (div_pos (by positivity) hcount),
    before_along hwidth hheight ((div_lt_one₀ hcount).mpr (by linarith))⟩

theorem pairwise_sideBox : ((List.range count).map (sideBox m twin role count)).Pairwise fun b c ↦
    b.centre.Before role c.centre := by
  refine List.pairwise_map.mpr (List.pairwise_lt_range.imp fun {j k} hjk ↦ ?_)
  have hlt : (j : Rat) < k := Nat.cast_lt.mpr hjk
  have hcount : (0 : Rat) < count + 1 := by positivity
  rw [centre_sideBox, centre_sideBox]
  exact before_along hwidth hheight (div_lt_div_of_pos_right (by linarith) hcount)

end Before

end Sides

/-- Ports are drawn along the side of their role, in which they have equal distances to each other
and to the corners. -/
structure AlongSide (m : Metrics Rat) (g : Graph) (twin : Box Rat) (role : PortRole)
    (row : List Node)
    (boxes : List (Box Rat)) : Prop where
  drawn : List.Forall₂ (DrawnAs m g) row boxes
  shape : ∀ b ∈ boxes, b.role = some role ∧ b.side = some role.side ∧
    b.size = ⟨m.portSize, m.portSize⟩
  centre : ∀ (k : Nat) (b : Box Rat), boxes[k]? = some b →
    b.centre = twin.along role ((k + 1) / (row.length + 1))
  between : 0 < twin.width → 0 < twin.height → ∀ b ∈ boxes,
    (twin.along role 0).Before role b.centre ∧ b.centre.Before role (twin.along role 1)
  apart : 0 < twin.width → 0 < twin.height → boxes.Pairwise fun b c ↦ b.centre.Before role c.centre

theorem alongSide_of_drawn {m : Metrics Rat} {twin : Box Rat} {row : List Node}
    (hdrawn : ∀ k port, row[k]? = some port → DrawnAs m g port (sideBox m twin role row.length k)) :
    AlongSide m g twin role row ((List.range row.length).map (sideBox m twin role row.length)) where
  drawn := by
    refine List.forall₂_iff_get.mpr ⟨by simp, fun k hk hk' ↦ ?_⟩
    simpa using hdrawn k _ (List.getElem?_eq_getElem hk)
  shape := List.forall_mem_map.mpr fun _ _ ↦ ⟨rfl, rfl, rfl⟩
  centre k b hk := by
    obtain ⟨i, hi, rfl⟩ := Option.map_eq_some_iff.mp (List.getElem?_map ▸ hk)
    obtain ⟨-, rfl⟩ := List.getElem?_eq_some_iff.mp hi
    rw [List.getElem_range]
    exact centre_sideBox
  between hwidth hheight :=
    List.forall_mem_map.mpr fun _ hk ↦ between_corners hwidth hheight (List.mem_range.mp hk)
  apart := pairwise_sideBox

/-- Every port of a digital twin in a system has one role and is drawn once. The ports of a role are
drawn along its side, one after the other in drawing order: sensors on top, actuators at the bottom,
others on the left. -/
theorem ports_on_sides_of_twin {g : Graph} (hnodes : (g.nodes.map (·.id)).Nodup)
    {system twin : Node}
    (hsystem : system ∈ g.nodesOfKind .system)
    (htwin : twin ∈ g.childrenOfKind system.id .digitalTwin)
    (m : Metrics Rat) :
    ∃ t, DrawnAs m g twin t ∧
      (PortRole.all.flatMap (portsIn g twin)).Perm (g.childrenOfKind twin.id .port) ∧
      (∀ port ∈ g.childrenOfKind twin.id .port, ∃! p, p ∈ (draw m g).nodes ∧ p.node = port) ∧
      ∀ role,
        let ports := portsIn g twin role
        let order := Port.order (ports.map Node.label) m.actuatorOrder
        order.Perm (List.range ports.length) ∧
        ∃ row boxes, order.map (fun i ↦ ports[i]?) = row.map some ∧
          AlongSide m g t role row boxes := by
  obtain ⟨before, behind, hsystems⟩ := List.append_of_mem hsystem
  obtain ⟨i, hi⟩ := List.getElem?_of_mem htwin
  refine ⟨_, drawnAs_twinBox hnodes hsystems hi, flatMap_filter_role_perm _, fun port hport ↦
    existsUnique_mem_draw hnodes (mem_childrenOfKind.mp hport).1 m, fun role ↦ ?_⟩
  intro ports order
  refine ⟨?_, frameRow m g twin role, _, Port.map_getElem?_order ..,
      alongSide_of_drawn fun k port hk ↦
    drawnAs_sideBox hnodes hsystems hi hk⟩
  simpa using Port.order_perm (ports.map Node.label) m.actuatorOrder

/-- Ports of all roles, told by both kinds of words, in a system that has other twins and parts. -/
theorem ports_on_sides_of_twin_of_five :
    let system : Node := ⟨"s", "S", .system "r"⟩
    let twin : Node := ⟨"t", "T", .digitalTwin "s"⟩
    let g : Graph := ⟨[⟨"a", "heat_sensor", .port "t"⟩, ⟨"u", "U", .digitalTwin "s"⟩, system, twin,
      ⟨"b", "irrigation_actuator", .port "t"⟩, ⟨"c", "InputOfOutput", .port "t"⟩,
        ⟨"p", "P", .part "s"⟩,
      ⟨"d", "clock", .port "t"⟩, ⟨"e", "human_output", .port "t"⟩, ⟨"f", "clock", .port "p"⟩], []⟩
    let m : Metrics Rat := .standard
    (g.nodes.map (·.id)).Nodup ∧ system ∈ g.nodesOfKind .system ∧
      twin ∈ g.childrenOfKind system.id .digitalTwin ∧
      ∃ t, DrawnAs m g twin t ∧
        (PortRole.all.flatMap (portsIn g twin)).Perm (g.childrenOfKind twin.id .port) ∧
        (∀ port ∈ g.childrenOfKind twin.id .port, ∃! p, p ∈ (draw m g).nodes ∧ p.node = port) ∧
        ∀ role,
          let ports := portsIn g twin role
          let order := Port.order (ports.map Node.label) m.actuatorOrder
          order.Perm (List.range ports.length) ∧
          ∃ row boxes, order.map (fun i ↦ ports[i]?) = row.map some ∧
            AlongSide m g t role row boxes := by
  intro system twin g m
  have hnodes : (g.nodes.map (·.id)).Nodup := by decide
  have hsystem : system ∈ g.nodesOfKind .system := by decide
  have htwin : twin ∈ g.childrenOfKind system.id .digitalTwin := by decide
  exact ⟨hnodes, hsystem, htwin, ports_on_sides_of_twin hnodes hsystem htwin m⟩

end Layout

end TwinDiagram
