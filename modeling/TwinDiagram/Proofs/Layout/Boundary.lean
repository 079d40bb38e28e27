import TwinDiagram.Proofs.Layout.Partner

namespace TwinDiagram.Layout

open Checked (Rule ids)

variable {α : Type} [Scalar α] {m : Metrics α} {g : Graph}

theorem roleGroups_singleton {α : Type} (m : Metrics α) (p : Node) :
    roleGroups m [p] = [(PortRole.ofName p.label, [p])] := by
  cases h : PortRole.ofName p.label <;> simp [roleGroups, PortRole.all, Port.sortBy, h]

section Row

variable {system : Box α} {reference : Option (Box α)} {port part : Node} {boxes : Boxes α}

/-- The places are counted among the ports without a partner. -/
theorem get?_placeBoundaryPorts {role : PortRole} {count slot : Nat} {partner : Option (Box α)}
    {before behind : List (Node × Option (Box α))} (hbehind : port.id ∉ behind.map (·.1.id)) :
    (placeBoundaryPorts m system reference role count slot (before ++ (port, partner) :: behind)
        boxes).get? port.id =
      some (m.portBox (boundaryPoint m system reference role.side partner
        (slot + (before.filter (·.2.isNone)).length) count) role) := by
  induction before generalizing slot boxes with
  | nil =>
    rw [List.nil_append, placeBoundaryPorts, kept_placeBoundaryPorts hbehind, Table.get?_insert,
      if_pos rfl]
    rfl
  | cons p before ih =>
    rw [List.cons_append, placeBoundaryPorts, ih]
    cases hp : p.2 with
    | none => simp [hp, Nat.add_comm 1, Nat.add_assoc]
    | some c => simp [hp]

theorem get?_placeFrameRow (role : PortRole) {ports : List Node} (hports : (ports.map (·.id)).Nodup)
    (hport : port ∈ ports) (system : Box α) (reference : Option (Box α)) (boxes : Boxes α) :
    ∃ slot, (placeFrameRow m g system reference boxes (role, ports)).get? port.id =
        some (m.portBox (boundaryPoint m system reference role.side (partner? g boxes port.id) slot
          (ports.filter fun p ↦ (partner? g boxes p.id).isNone).length) role) ∧
      (partner? g boxes port.id = none →
        (ports.filter fun p ↦ (partner? g boxes p.id).isNone)[slot]? = some port) := by
  obtain ⟨before, behind, rfl⟩ := List.append_of_mem hport
  refine ⟨(before.filter fun p ↦ (partner? g boxes p.id).isNone).length, ?_, fun hnone ↦ ?_⟩
  · have hbehind : port.id ∉ (behind.map fun p ↦ (p, partner? g boxes p.id)).map (·.1.id) := by
      rw [List.map_append, List.nodup_append', List.map_cons, List.nodup_cons] at hports
      simpa using hports.2.1.1
    have hcount (ps : List Node) :
      ((ps.map fun p ↦ (p, partner? g boxes p.id)).filter (·.2.isNone)).length =
        (ps.filter fun p ↦ (partner? g boxes p.id).isNone).length := by
      rw [List.filter_map, List.length_map]
      rfl
    simp only [placeFrameRow, hcount]
    rw [List.map_append, List.map_cons, get?_placeBoundaryPorts hbehind, hcount, Nat.zero_add]
  · simp [hnone]

end Row

def frameRow (m : Metrics α) (g : Graph) (part : Node) (role : PortRole) : List Node :=
  Port.sortBy m.actuatorOrder Node.label
    ((g.childrenOfKind part.id .port).filter fun p ↦ PortRole.ofName p.label == role)

section Part

variable {part port : Node} {system : Box α}

omit [Scalar α] in
theorem mem_frameRow {role : PortRole} : port ∈ frameRow m g part role ↔
    port ∈ g.childrenOfKind part.id .port ∧ PortRole.ofName port.label = role := by
  rw [frameRow, Port.sortBy, List.mem_mergeSort, List.mem_filter, beq_iff_eq]

omit [Scalar α] in
theorem frameRow_mem_roleGroups (hport : port ∈ g.childrenOfKind part.id .port) :
    (PortRole.ofName port.label, frameRow m g part (PortRole.ofName port.label)) ∈
      roleGroups m (g.childrenOfKind part.id .port) := by
  refine List.mem_filter.mpr ⟨List.mem_map.mpr ⟨PortRole.ofName port.label, ?_, rfl⟩, ?_⟩
  · cases PortRole.ofName port.label <;> decide
  · have hmem : port ∈ frameRow m g part (PortRole.ofName port.label) :=
      mem_frameRow.mpr ⟨hport, rfl⟩
    simpa using List.ne_nil_of_mem hmem

variable (hnodes : (g.nodes.map (·.id)).Nodup)
include hnodes

omit [Scalar α] in
theorem nodup_frameRow (m : Metrics α) (part : Node) (role : PortRole) :
    ((frameRow m g part role).map (·.id)).Nodup := by
  have hperm : (frameRow m g part role).Perm _ := List.mergeSort_perm _ _
  rw [(hperm.map (·.id)).nodup_iff]
  have hsub : ((g.childrenOfKind part.id .port).filter fun p ↦
    PortRole.ofName p.label == role).Sublist
      g.nodes :=
    List.filter_sublist.trans (List.filter_sublist.trans List.filter_sublist)
  exact hnodes.sublist (hsub.map _)

/-- The rows of a part do not touch what partners are looked up among, so each is drawn as if it
were alone. -/
theorem get?_frameRows (hpart : part ∈ g.nodes) (hkind : part.kind = .part)
    (hport : port ∈ g.childrenOfKind part.id .port) (reference : Option (Box α)) (boxes : Boxes α) :
    ((roleGroups m (g.childrenOfKind part.id .port)).foldl (placeFrameRow m g system reference)
        boxes).get? port.id =
      (placeFrameRow m g system reference boxes (PortRole.ofName port.label,
        frameRow m g part (PortRole.ofName port.label))).get? port.id := by
  have hoff : ∀ row ∈ roleGroups m (g.childrenOfKind part.id .port),
      ∀ p ∈ row.2, isOnDigitalTwin g p.id = false := by
    intro row hrow p hp
    obtain ⟨hp, hparent, -⟩ := mem_childrenOfKind.mp (mem_of_mem_roleGroups hrow hp)
    exact isOnDigitalTwin_eq_false hnodes hpart (by rw [hkind]; decide) hp hparent
  have honce : (ids (framePortEntries m (g.childrenOfKind part.id .port))).Nodup :=
    nodup_ids_of_perm hnodes (map_framePortEntries_perm _) (nodup_childrenOfKind hnodes _ _)
      fun _ hp ↦ (mem_childrenOfKind.mp hp).1
  have hmem : port ∈ frameRow m g part (PortRole.ofName port.label) := mem_frameRow.mpr ⟨hport, rfl⟩
  refine Does.get?_foldl (fun row hrow ↦ does_placeFrameRow (hoff row hrow))
    (fun row hrow id hid ↦ ?_)
    honce (frameRow_mem_roleGroups hport) ?_ boxes
  · obtain ⟨e, he, rfl⟩ := List.mem_map.mp hid
    obtain ⟨p, hp, rfl⟩ := List.mem_map.mp he
    simp [hoff row hrow p hp]
  · exact List.mem_map_of_mem (List.mem_map_of_mem hmem)

theorem get?_placePart (hpart : part ∈ g.nodes) (hkind : part.kind = .part)
    (hoff : isOnDigitalTwin g part.id = false) (hport : port ∈ g.childrenOfKind part.id .port)
    (system : Box α) (twins : List Node) (boxes : Boxes α) :
    let free := (frameRow m g part (PortRole.ofName port.label)).filter fun p ↦
      (partner? g boxes p.id).isNone
    let reference := twins.head?.bind fun t ↦
      (boxes.insert part.id (.plain system.x system.y system.width system.height)).get? t.id
    ∃ slot, (placePart m g system twins boxes part).get? port.id =
        some (m.portBox (boundaryPoint m system reference (PortRole.ofName port.label).side
          (partner? g boxes port.id) slot free.length) (PortRole.ofName port.label)) ∧
      (partner? g boxes port.id = none → free[slot]? = some port) := by
  have hpartner (b : Box α) : partner? g (boxes.insert part.id b) = partner? g boxes :=
    funext (partner?_insert hoff boxes b)
  have hmem : port ∈ frameRow m g part (PortRole.ofName port.label) := mem_frameRow.mpr ⟨hport, rfl⟩
  intro free reference
  obtain ⟨slot, hbox, hslot⟩ := get?_placeFrameRow (PortRole.ofName port.label)
    (nodup_frameRow hnodes m part _) hmem system reference
    (boxes.insert part.id (.plain system.x system.y system.width system.height))
  rw [hpartner] at hbox hslot
  exact ⟨slot, (get?_frameRows hnodes hpart hkind hport _ _).trans hbox, hslot⟩

end Part

section Drawn

/-- A node is drawn as its box says. -/
structure DrawnAs (m : Metrics α) (g : Graph) (n : Node) (b : Box α) : Prop where
  box : (place m g).get? n.id = some b
  listed : ∃ p ∈ (draw m g).nodes, p.node = n
  placed : ∀ p ∈ (draw m g).nodes, p.node = n →
    p.absolute = b.origin ∧ p.size = sizeOf? b.size ∧ p.role = b.role ∧ p.side = b.side

/-- The ports of a row that have no partner, in their order. -/
structure Free (g : Graph) (home : Node) (row free : List Node) : Prop where
  sublist : free.Sublist row
  mem_iff : ∀ n, n ∈ free ↔ n ∈ row ∧ ¬ ∃ other, FirstPartner g home n other

/-- A place of several along the first digital twin of a system, moved outward, or along the edge of
a system without one. -/
def SpreadAt (m : Metrics α) (g : Graph) (home : Node) (side : PortSide) (slot count : Nat)
    (p : Point α) : Prop :=
  match g.childrenOfKind home.id .digitalTwin with
  | [] => ∃ c, DrawnAs m g home c ∧ p = (c.slotOn side slot count).corner m.portSize
  | twin :: _ => ∃ c, DrawnAs m g twin c ∧
      p = ((c.slotOn side slot count).corner m.portSize).outward side m.boundaryOffset

/-- How a port of a part is drawn. -/
structure OnFrame (m : Metrics α) (g : Graph) (home part port : Node) (b : Box α) : Prop where
  drawn : DrawnAs m g port b
  box : b = m.portBox b.origin (PortRole.ofName port.label)
  aligned : ∀ other, FirstPartner g home port other → ∃ c, DrawnAs m g other c ∧
    b.origin = c.origin.outward (PortRole.ofName port.label).side m.boundaryOffset
  spread : (¬ ∃ other, FirstPartner g home port other) →
    ∃ free slot, Free g home (frameRow m g part (PortRole.ofName port.label)) free ∧
      free[slot]? = some port ∧
      SpreadAt m g home (PortRole.ofName port.label).side slot free.length b.origin

variable {home part port twin n : Node} {before behind : List Node} {b : Box α}

theorem settled_of_system (hhome : home ∈ g.nodesOfKind .system) : Settled g home :=
  .inr ⟨home, hhome, mem_family.mpr (.inl rfl)⟩

theorem settled_of_twin (hhome : home ∈ g.nodesOfKind .system)
    (htwin : twin ∈ g.childrenOfKind home.id .digitalTwin) (hn : n ∈ withPorts g twin) :
    Settled g n :=
  .inr ⟨home, hhome, mem_family_of_twin htwin hn⟩

section Stage

variable (hnodes : (g.nodes.map (·.id)).Nodup)
include hnodes

theorem Settled.drawnAs_of_box (hn : Settled g n) (hb : (place m g).get? n.id = some b) :
    DrawnAs m g n b := by
  obtain ⟨c, hbox, hlisted, hplaced⟩ := hn.drawn hnodes (m := m)
  obtain rfl : c = b := Option.some.inj (hbox.symm.trans hb)
  exact ⟨hbox, hlisted, hplaced⟩

variable (hsystems : g.nodesOfKind .system = before ++ home :: behind)
include hsystems

theorem get?_stage_home :
    (stage m g before home .empty).get? home.id = some (systemBox m before.length) := by
  have hnodup := nodup_stageEntries (m := m) hsystems hnodes
  have hnew : home.id ∉ ids (twinEntries m g (systemBox m before.length)
      (g.childrenOfKind home.id .digitalTwin)) := by
    rw [Checked.ids_append, List.nodup_append', stageEntries, Checked.ids_append,
      List.nodup_append', Checked.ids_append, List.nodup_append', Checked.ids_cons,
      List.nodup_cons] at hnodup
    exact hnodup.1.2.1.2.1.1
  have htwins : Does (fun _ ↦ True) _ (placeDigitalTwins m g (systemBox m before.length)
      (g.childrenOfKind home.id .digitalTwin)) (twinEntries m g (systemBox m before.length)
        (g.childrenOfKind home.id .digitalTwin)) := does_placeDigitalTwins
  rw [stage, htwins.kept _ _ hnew, Table.get?_insert, if_pos rfl]

theorem drawnAs_of_stage (hn : Settled g n)
    (hb : (stage m g before home .empty).get? n.id = some b) :
    DrawnAs m g n b := by
  have hid : n.id ∈ ids (stageEntries m g before home) := by
    by_contra hid
    rw [get?_stage_of_not_mem hnodes hid] at hb
    cases hb
  apply hn.drawnAs_of_box hnodes
  rw [(hn.get?_place hnodes).2, (get?_stage_of_mem hsystems hnodes hid).2, hb]

theorem drawnAs_systemBox : DrawnAs m g home (systemBox m before.length) :=
  drawnAs_of_stage hnodes hsystems (settled_of_system (by simp [hsystems]))
    (get?_stage_home hnodes hsystems)

theorem exists_box_of_twin (htwin : twin ∈ g.childrenOfKind home.id .digitalTwin) :
    ∃ c, (stage m g before home .empty).get? twin.id = some c := by
  have hhome : home ∈ g.nodesOfKind .system := by simp [hsystems]
  have hid := (mem_ids_stageEntries (m := m) hsystems hnodes hhome htwin (.head _)).mpr (.inr rfl)
  exact Option.isSome_iff_exists.mp (get?_stage_of_mem hsystems hnodes hid).1

end Stage

variable (hg : g.WellFormed)
include hg

theorem Settled.drawnAs (hn : Settled g n) (m : Metrics α) : ∃ b, DrawnAs m g n b := by
  obtain ⟨b, hbox, hlisted, hplaced⟩ := hn.drawn hg.nodeIds (m := m)
  exact ⟨b, hbox, hlisted, hplaced⟩

variable (hsystems : g.nodesOfKind .system = before ++ home :: behind)
include hsystems

/-- Without a partner, a port has its place on what stands there for the whole part. -/
theorem spreadAt_stage (hpart : part.kind = .part) (hmem : part ∈ g.nodes) (frame : Box α)
    (side : PortSide) (slot count : Nat) :
    SpreadAt m g home side slot count (boundaryPoint m (systemBox m before.length)
      ((g.childrenOfKind home.id .digitalTwin).head?.bind fun t ↦
        ((stage m g before home .empty).insert part.id frame).get? t.id) side none slot count) := by
  unfold SpreadAt
  cases htwins : g.childrenOfKind home.id .digitalTwin with
  | nil => exact ⟨_, drawnAs_systemBox hg.nodeIds hsystems, rfl⟩
  | cons twin rest =>
    have htwin : twin ∈ g.childrenOfKind home.id .digitalTwin := htwins ▸ .head _
    obtain ⟨c, hc⟩ := exists_box_of_twin (m := m) hg.nodeIds hsystems htwin
    have hne : twin.id ≠ part.id := by
      intro hid
      obtain ⟨htwin, -, hkind⟩ := mem_childrenOfKind.mp htwin
      rw [hg.eq_of_id htwin hmem hid, hpart] at hkind
      cases hkind
    have hsettled : Settled g twin := settled_of_twin (by simp [hsystems]) htwin (.head _)
    refine ⟨c, drawnAs_of_stage hg.nodeIds hsystems hsettled hc, ?_⟩
    rw [List.head?_cons, Option.bind_some, Table.get?_insert, if_neg hne, hc]
    rfl

theorem onFrame_of_portOf (hport : g.PortOf home part port) (hpart : part.kind = .part) :
    ∃ b, OnFrame m g home part port b := by
  have hnodes := hg.nodeIds
  have hhome := hport.mem_systems hg
  obtain ⟨hmem, hchild⟩ := hport.mem_children
  rw [hpart] at hmem
  have hoff : isOnDigitalTwin g part.id = false :=
    isOnDigitalTwin_eq_false hnodes hport.grandparent.1
      (by rw [(mem_nodesOfKind.mp hhome).2]; decide)
      hport.grandparent.2.1 hport.grandparent.2.2
  have hid : port.id ∈ ids (partEntries m g part) := by
    have hlisted : port ∈ (partEntries m g part).map Prod.fst :=
      (map_partEntries_perm part).mem_iff.mpr (List.mem_cons_of_mem _ hchild)
    obtain ⟨e, he, rfl⟩ := List.mem_map.mp hlisted
    exact List.mem_map_of_mem he
  obtain ⟨slot, hbox, hslot⟩ := get?_placePart hnodes hport.parent.1 hpart hoff hchild
    (systemBox m before.length) (g.childrenOfKind home.id .digitalTwin)
    (stage m g before home .empty)
  rw [← get?_placePart_stage hsystems hnodes hmem hid,
    ← ((settled_of_portOf hg hport).get?_place hnodes).2] at hbox
  refine ⟨_, (settled_of_portOf hg hport).drawnAs_of_box hnodes hbox, rfl, fun other hfirst ↦ ?_,
    fun hnone ↦ ?_⟩
  · obtain ⟨c, hc⟩ := (hfirst.settled hg).drawnAs hg m
    refine ⟨c, hc, ?_⟩
    rw [(partner?_stage hg hsystems).mpr ⟨other, hfirst, hc.box⟩]
    rfl
  · rw [← partner?_stage_eq_none_iff (m := m) hg hsystems] at hnone
    refine ⟨_, slot, ⟨List.filter_sublist, fun n ↦ ?_⟩, hslot hnone, ?_⟩
    · rw [List.mem_filter, Option.isNone_iff_eq_none, partner?_stage_eq_none_iff hg hsystems]
    · rw [hnone]
      exact spreadAt_stage hg hsystems hpart hport.parent.1 _ _ _ _

end Drawn

/-- Whatever the text and the metrics, a port of a part is drawn beyond the first port of a digital
twin that a connection joins it to, among the twins of systems that do not come later. The ports
without such a partner share their side evenly. -/
theorem ports_of_parts_drawn (text : String) (metrics : Metrics α) :
    ∃ m s g d, Parser.readText text = (.ok m, s) ∧ Graph.ofModel m = (.ok g, d) ∧
      ∀ home part port, g.PortOf home part port → part.kind = .part →
        ∃ b, OnFrame metrics g home part port b := by
  obtain ⟨m, s, g, d, hread, hgraph, hg⟩ := Graph.exists_wellFormed_of_text text
  refine ⟨m, s, g, d, hread, hgraph, fun home part port hport hpart ↦ ?_⟩
  obtain ⟨before, behind, hsystems⟩ := List.append_of_mem (hport.mem_systems hg)
  exact onFrame_of_portOf hg hsystems hport hpart

/-- The port `q` of the digital twin `T` has no box yet when the port `p`, which is connected to it,
is drawn. -/
theorem port_of_part_drawn_apart_from_later_twin :
    let text :=
      "#dartwin F \x7b #twinsystem A \x7b part P \x7b port p; \x7d connect P.p to B.T.q; \x7d " ++
      "#twinsystem B \x7b #digitaltwin T \x7b port q; \x7d \x7d \x7d"
    let p : Node := ⟨"port::F::A::at::P::p", "p", .port "at::F::A::P"⟩
    let q : Node := ⟨"port::F::B::dt::T::q", "q", .port "dt::F::B::T"⟩
    let metrics : Metrics Rat := .standard
    ∃ m s g d, Parser.readText text = (.ok m, s) ∧ Graph.ofModel m = (.ok g, d) ∧
      (g.edgesOfKind .connection).map (fun e ↦ (e.source, e.target)) = [(p.id, q.id)] ∧
      (∃ home twin, g.PortOf home twin q ∧ twin.kind = .digitalTwin) ∧
      ∃ b c, DrawnAs metrics g p b ∧ DrawnAs metrics g q c ∧ b.side = some .left ∧
        b.origin ≠ c.origin.outward .left metrics.boundaryOffset := by
  intro text p q metrics
  let A : Node := ⟨"ts::F::A", "A", .system "dw::F"⟩
  let P : Node := ⟨"at::F::A::P", "P", .part A.id⟩
  let B : Node := ⟨"ts::F::B", "B", .system "dw::F"⟩
  let T : Node := ⟨"dt::F::B::T", "T", .digitalTwin B.id⟩
  let g : Graph := ⟨[⟨"dw::F", "F", .root⟩, A, P, p, B, T, q],
    [⟨"connect::F::A::A.P.p->B.T.q", .connection, p.id, q.id, none⟩]⟩
  have hvalue :
      ((Parser.readText text).1.toOption.bind fun m ↦ (Graph.ofModel m).1.toOption) = some g := by
    decide +kernel
  obtain ⟨m, s, d, hread, hgraph, hg⟩ := Graph.wellFormed_of_text_eq hvalue
  have hp : g.PortOf A P p := ⟨rfl, ⟨by decide, by decide, rfl⟩, by decide, by decide, rfl⟩
  have hq : g.PortOf B T q := ⟨rfl, ⟨by decide, by decide, rfl⟩, by decide, by decide, rfl⟩
  refine ⟨m, s, g, d, hread, hgraph, rfl, ⟨B, T, hq, rfl⟩, ?_⟩
  obtain ⟨b, hb⟩ := (settled_of_portOf hg hp).drawnAs hg metrics
  obtain ⟨c, hc⟩ := (settled_of_portOf hg hq).drawnAs hg metrics
  have hboxes : ((placeSystems metrics g (placeGoals metrics g .empty)).get? p.id).map
        (fun b ↦ (b.origin.x, b.side)) = some (91, some .left) ∧
      ((placeSystems metrics g (placeGoals metrics g .empty)).get? q.id).map (·.origin.x) =
        some 761 := by
    have hgoals : g.nodesOfKind .goal = [] := rfl
    have hsystems : g.nodesOfKind .system = [A, B] := rfl
    have htwins : g.childrenOfKind A.id .digitalTwin = [] ∧
        g.childrenOfKind B.id .digitalTwin = [T] :=
      ⟨rfl, rfl⟩
    have hparts : g.childrenOfKind A.id .part = [P] ∧ g.childrenOfKind B.id .part = [] := ⟨rfl, rfl⟩
    have hports : g.childrenOfKind P.id .port = [p] ∧
      g.childrenOfKind T.id .port = [q] := ⟨rfl, rfl⟩
    have hroles : PortRole.ofName p.label = .unclassified ∧
        PortRole.ofName q.label = .unclassified := by
      decide +kernel
    have hrange : List.range (0 + 1) = [0] := rfl
    simp only [placeSystems, placeGoals, sortGoals, hgoals, hsystems, List.mergeSort_nil,
      List.zipIdx_nil, List.zipIdx_cons, List.foldl_nil, List.foldl_cons, placeSystem, htwins,
      hparts, placeDigitalTwins, twinBoxes, placeTwinPorts, placePart, hports, roleGroups_singleton,
      hroles, List.length_cons, List.length_nil, hrange, List.map_cons, List.map_nil,
      List.zip_nil_left, List.zip_cons_cons]
    decide +kernel
  rw [← ((settled_of_portOf hg hp).get?_place hg.nodeIds).2,
    ← ((settled_of_portOf hg hq).get?_place hg.nodeIds).2, hb.box, hc.box] at hboxes
  obtain ⟨hb', hc'⟩ := hboxes
  obtain ⟨hx, hside⟩ := Prod.mk.inj (Option.some.inj hb')
  have hx' : c.origin.x = 761 := Option.some.inj hc'
  refine ⟨b, c, hb, hc, hside, fun h ↦ ?_⟩
  have hapart : b.origin.x = c.origin.x - metrics.boundaryOffset := congrArg Point.x h
  rw [hx, hx'] at hapart
  exact absurd hapart (by decide +kernel)

end TwinDiagram.Layout
