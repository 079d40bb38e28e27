import TwinDiagram.Proofs.Layout.Checked
import Mathlib.Data.List.Nodup

namespace TwinDiagram.Layout

open Checked (Canvas Rule)

variable {α : Type}

def Checked.ids (journal : List (Node × Rule)) : List String := journal.map (·.1.id)

open Checked (ids)

@[simp] theorem Checked.ids_nil : ids [] = [] := rfl

@[simp] theorem Checked.ids_cons (e : Node × Rule) (es : List (Node × Rule)) :
    ids (e :: es) = e.1.id :: ids es := rfl

@[simp] theorem Checked.ids_append (es es' : List (Node × Rule)) :
    ids (es ++ es') = ids es ++ ids es' := List.map_append

/-- The nodes with a box are those of the journal. -/
def Checked.Canvas.Sound (c : Canvas α) : Prop :=
  ∀ id, (c.boxes.get? id).isSome ↔ id ∈ ids c.journal

/-- `place` sets the boxes of the nodes of `journal`, and no others; it looks at boxes of nodes that
`reads` tells. Where those of the journal have none yet, `step` does the same with all checks
passed, and writes the journal. -/
structure Does (reads : String → Prop) (step : Canvas α → Option (Canvas α))
    (place : Boxes α → Boxes α) (journal : List (Node × Rule)) : Prop where
  kept : ∀ boxes id, id ∉ ids journal → (place boxes).get? id = boxes.get? id
  placed : ∀ boxes id, id ∈ ids journal → ((place boxes).get? id).isSome
  determined : ∀ boxes boxes', (∀ id, reads id → boxes.get? id = boxes'.get? id) →
    ∀ id ∈ ids journal, (place boxes).get? id = (place boxes').get? id
  run : ∀ c : Canvas α, c.Sound → (ids (c.journal ++ journal)).Nodup →
    step c = some { c with boxes := place c.boxes, journal := c.journal ++ journal }

namespace Does

variable {reads reads' : String → Prop} {step step' : Canvas α → Option (Canvas α)}
  {place place' : Boxes α → Boxes α} {es es' : List (Node × Rule)}

theorem mono (h : Does reads step place es) (hreads : ∀ id, reads id → reads' id) :
    Does reads' step place es where
  kept := h.kept
  placed := h.placed
  determined boxes boxes' hagree := h.determined boxes boxes' fun id hid ↦ hagree id (hreads id hid)
  run := h.run

theorem congr (h : Does reads step place es) {boxes boxes' : Boxes α}
    (hagree : ∀ id, reads id → boxes.get? id = boxes'.get? id) {id : String}
    (hid : boxes.get? id = boxes'.get? id) : (place boxes).get? id = (place boxes').get? id := by
  by_cases hmem : id ∈ ids es
  · exact h.determined boxes boxes' hagree id hmem
  · rw [h.kept boxes id hmem, h.kept boxes' id hmem, hid]

theorem sound (h : Does reads step place es) {c : Canvas α} (hc : c.Sound) :
    Canvas.Sound { c with boxes := place c.boxes, journal := c.journal ++ es } := by
  intro id
  rw [Checked.ids_append, List.mem_append]
  by_cases hid : id ∈ ids es
  · exact iff_of_true (h.placed _ id hid) (.inr hid)
  · rw [or_iff_left hid, ← hc id]
    exact iff_of_eq (congrArg (·.isSome = true) (h.kept c.boxes id hid))

theorem pure : Does (α := α) reads some id [] where
  kept _ _ _ := rfl
  placed _ _ h := nomatch h
  determined _ _ _ _ h := nomatch h
  run c _ _ := by rw [List.append_nil]; rfl

theorem put (rule : Rule) (n : Node) (b : Box α) :
    Does reads (·.put rule n b) (·.insert n.id b) [(n, rule)] where
  kept boxes id hid := by
    rw [Table.get?_insert, if_neg (by simpa using hid)]
  placed boxes id hid := by
    rw [Table.get?_insert, if_pos (by simpa using hid)]
    rfl
  determined boxes boxes' _ id hid := by
    have hn : id = n.id := by simpa using hid
    rw [Table.get?_insert, Table.get?_insert, if_pos hn, if_pos hn]
  run c hc hfresh := by
    have hnew : n.id ∉ ids c.journal := by
      rw [Checked.ids_append, List.nodup_append] at hfresh
      exact fun hmem ↦ hfresh.2.2 _ hmem _ (.head _) rfl
    rw [Canvas.put, if_neg]
    rw [Table.contains_eq, hc]
    exact hnew

/-- A node with a box keeps it. -/
theorem putNew (rule : Rule) (n : Node) (b : Box α) :
    Does (· = n.id) (fun c ↦ if c.boxes.contains n.id then some c else c.put rule n b)
      (fun boxes ↦ if boxes.contains n.id then boxes else boxes.insert n.id b) [(n, rule)] := by
  have hput : Does (· = n.id) (·.put rule n b) (·.insert n.id b) [(n, rule)] := put rule n b
  refine ⟨fun boxes id hid ↦ ?_, fun boxes id hid ↦ ?_, fun boxes boxes' hagree id hid ↦ ?_,
    fun c hc hfresh ↦ ?_⟩
  · split
    · rfl
    · exact hput.kept boxes id hid
  · split
    · next hcontains =>
      obtain rfl : id = n.id := by simpa using hid
      exact hcontains
    · exact hput.placed boxes id hid
  · have hn : id = n.id := by simpa using hid
    rw [Table.contains_eq, Table.contains_eq, hagree n.id rfl]
    split
    · exact hagree id hn
    · exact hput.determined boxes boxes' hagree id hid
  · have hrun := hput.run c hc hfresh
    by_cases hcontains : c.boxes.contains n.id
    · rw [Canvas.put, if_pos hcontains] at hrun
      cases hrun
    · simpa only [if_neg hcontains] using hrun

theorem bind (h : Does reads step place es) (h' : Does reads step' place' es') :
    Does reads (fun c ↦ step c >>= step') (fun boxes ↦ place' (place boxes)) (es ++ es') where
  kept boxes id hid := by
    rw [Checked.ids_append, List.mem_append, not_or] at hid
    rw [h'.kept _ id hid.2, h.kept _ id hid.1]
  placed boxes id hid := by
    by_cases hid' : id ∈ ids es'
    · exact h'.placed _ id hid'
    · rw [h'.kept _ id hid']
      exact h.placed _ id
        ((List.mem_append.mp (Checked.ids_append es es' ▸ hid)).resolve_right hid')
  determined boxes boxes' hagree id hid := by
    have hagree' : ∀ id, reads id → (place boxes).get? id = (place boxes').get? id := fun id hid ↦
      h.congr hagree (hagree id hid)
    by_cases hid' : id ∈ ids es'
    · exact h'.determined _ _ hagree' id hid'
    · rw [h'.kept _ id hid', h'.kept _ id hid']
      exact h.determined _ _ hagree id
        ((List.mem_append.mp (Checked.ids_append es es' ▸ hid)).resolve_right hid')
  run c hc hfresh := by
    rw [← List.append_assoc] at hfresh
    have hfirst : (ids (c.journal ++ es)).Nodup := by
      rw [Checked.ids_append] at hfresh
      exact (List.nodup_append.mp hfresh).1
    rw [h.run c hc hfirst]
    exact (h'.run _ (h.sound hc) hfresh).trans (by rw [List.append_assoc])

theorem reading {step : Boxes α → Canvas α → Option (Canvas α)}
    {place : Boxes α → Boxes α → Boxes α}
    (h : ∀ boxes, Does reads (step boxes) (place boxes) es)
    (hplace : ∀ boxes boxes' : Boxes α, (∀ id, reads id → boxes.get? id = boxes'.get? id) →
      place boxes = place boxes') :
    Does reads (fun c ↦ step c.boxes c) (fun boxes ↦ place boxes boxes) es where
  kept boxes := (h boxes).kept boxes
  placed boxes := (h boxes).placed boxes
  determined boxes boxes' hagree := by
    rw [hplace boxes boxes' hagree]
    exact (h boxes').determined boxes boxes' hagree
  run c := (h c.boxes).run c

theorem foldlM {β : Type} {step : Canvas α → β → Option (Canvas α)} {place : Boxes α → β → Boxes α}
    {es : β → List (Node × Rule)} {xs : List β}
    (h : ∀ x ∈ xs, Does reads (step · x) (place · x) (es x)) :
    Does reads (xs.foldlM step ·) (xs.foldl place ·) (xs.flatMap es) := by
  induction xs with
  | nil => exact pure
  | cons x xs ih =>
    obtain ⟨hx, hxs⟩ := List.forall_mem_cons.mp h
    exact hx.bind (ih hxs)

end Does

section Nodes

variable {g : Graph} {n part port : Node} {id : String}

theorem node?_eq_some_iff (hnodes : (g.nodes.map (·.id)).Nodup) :
    g.node? id = some n ↔ n ∈ g.nodes ∧ n.id = id := by
  constructor
  · intro h
    exact ⟨List.mem_of_find?_eq_some h, by simpa using List.find?_some h⟩
  · rintro ⟨hn, rfl⟩
    obtain ⟨n', hn'⟩ : ∃ n', g.node? n.id = some n' := by
      rw [← Option.isSome_iff_exists, Graph.node?, List.find?_isSome]
      exact ⟨n, hn, by simp⟩
    have hid : n'.id = n.id := by simpa using List.find?_some hn'
    rw [hn', List.inj_on_of_nodup_map hnodes (List.mem_of_find?_eq_some hn') hn hid]

theorem isOnDigitalTwin_eq_false (hnodes : (g.nodes.map (·.id)).Nodup) (hpart : part ∈ g.nodes)
    (hkind : part.kind ≠ .digitalTwin) (hport : port ∈ g.nodes)
    (hparent : port.parent? = some part.id) : isOnDigitalTwin g port.id = false := by
  have hfound := (node?_eq_some_iff hnodes).mpr ⟨hport, rfl⟩
  have howner := (node?_eq_some_iff hnodes).mpr ⟨hpart, rfl⟩
  simp only [isOnDigitalTwin, hfound, hparent, Option.getD_some, howner, Option.any_some]
  exact beq_eq_false_iff_ne.mpr hkind

theorem mem_childrenOfKind {parent : String} {k : NodeKind} :
    n ∈ g.childrenOfKind parent k ↔ n ∈ g.nodes ∧ n.parent? = some parent ∧ n.kind = k := by
  simp only [Graph.childrenOfKind, Graph.children, List.mem_filter, beq_iff_eq, and_assoc]

/-- Partners are looked up among the nodes on digital twins. -/
theorem partner?_congr {boxes boxes' : Boxes α}
    (h : ∀ id, isOnDigitalTwin g id → boxes.get? id = boxes'.get? id) (port : String) :
    partner? g boxes port = partner? g boxes' port := by
  unfold partner?
  congr 1
  funext e
  cases otherEnd port e with
  | none => rfl
  | some other =>
    dsimp only
    split
    · next hother => exact h other hother
    · rfl

theorem partner?_insert (hid : isOnDigitalTwin g id = false) (boxes : Boxes α) (b : Box α)
    (port : String) : partner? g (boxes.insert id b) port = partner? g boxes port := by
  apply partner?_congr
  intro other hother
  rw [Table.get?_insert, if_neg]
  rintro rfl
  rw [hid] at hother
  cases hother

theorem mem_of_mem_roleGroups {m : Metrics α} {ports : List Node} {group : PortRole × List Node}
    (hgroup : group ∈ roleGroups m ports)
    {port : Node} (hport : port ∈ group.2) : port ∈ ports := by
  obtain ⟨role, -, rfl⟩ := List.mem_map.mp (List.mem_of_mem_filter hgroup)
  rw [Port.sortBy, List.mem_mergeSort] at hport
  exact List.mem_of_mem_filter hport

end Nodes

variable [Scalar α] {m : Metrics α} {g : Graph} {system twin : Box α} {twins ports : List Node}
  {reads : String → Prop}

theorem does_placeGoals : Does reads (Checked.placeGoals m g) (placeGoals m g)
    ((sortGoals (g.nodesOfKind .goal)).zipIdx.flatMap fun n ↦ [(n.1, .goalRow)]) :=
  .foldlM fun n _ ↦ .put .goalRow n.1 _

def twinPortEntries (m : Metrics α) (ports : List Node) : List (Node × Rule) :=
  (roleGroups m ports).flatMap fun group ↦ group.2.zipIdx.flatMap fun p ↦ [(p.1, .twinSide)]

theorem does_placeTwinPorts :
    Does reads (Checked.placeTwinPorts m twin ports) (placeTwinPorts m twin ports)
      (twinPortEntries m ports) :=
  .foldlM fun _ _ ↦ .foldlM fun p _ ↦ .put .twinSide p.1 _

def twinEntries (m : Metrics α) (g : Graph) (system : Box α) (twins : List Node) :
    List (Node × Rule) :=
  (twins.zip (twinBoxes m system twins.length)).flatMap fun twin ↦
    (twin.1, .twinRow) :: twinPortEntries m (g.childrenOfKind twin.1.id .port)

theorem does_placeDigitalTwins :
    Does reads (Checked.placeDigitalTwins m g system twins) (placeDigitalTwins m g system twins)
      (twinEntries m g system twins) := by
  have h : Does reads ((twins.zip (twinBoxes m system twins.length)).foldlM (fun c twin ↦ do
      let c ← c.put .twinRow twin.1 twin.2
      Checked.placeTwinPorts m twin.2 (g.childrenOfKind twin.1.id .port) c) ·)
      (placeDigitalTwins m g system twins) (twinEntries m g system twins) :=
    .foldlM fun twin _ ↦ .bind (.put .twinRow twin.1 twin.2) does_placeTwinPorts
  cases twins with
  | nil => exact h
  | cons t ts => exact h

section Frame

variable {system : Box α} {reference : Option (Box α)} {role : PortRole}

theorem kept_placeBoundaryPorts {count slot : Nat} {ports : List (Node × Option (Box α))}
    {boxes : Boxes α} {id : String} (h : id ∉ ports.map (·.1.id)) :
    (placeBoundaryPorts m system reference role count slot ports boxes).get? id =
      boxes.get? id := by
  induction ports generalizing slot boxes with
  | nil => rfl
  | cons p ports ih =>
    obtain ⟨hp, hports⟩ := not_or.mp (mt List.mem_cons.mpr h)
    rw [placeBoundaryPorts, ih hports, Table.get?_insert, if_neg hp]

theorem placed_placeBoundaryPorts {count slot : Nat} {ports : List (Node × Option (Box α))}
    {boxes : Boxes α} {id : String} (h : id ∈ ports.map (·.1.id)) :
    ((placeBoundaryPorts m system reference role count slot ports boxes).get? id).isSome := by
  induction ports generalizing slot boxes with
  | nil => cases h
  | cons p ports ih =>
    rw [placeBoundaryPorts]
    by_cases hports : id ∈ ports.map (·.1.id)
    · exact ih hports
    · have hp : id = p.1.id := (List.mem_cons.mp h).resolve_right hports
      rw [kept_placeBoundaryPorts hports, Table.get?_insert, if_pos hp]
      rfl

theorem determined_placeBoundaryPorts {count slot : Nat} {ports : List (Node × Option (Box α))}
    {boxes boxes' : Boxes α} {id : String} (h : id ∈ ports.map (·.1.id)) :
    (placeBoundaryPorts m system reference role count slot ports boxes).get? id =
      (placeBoundaryPorts m system reference role count slot ports boxes').get? id := by
  induction ports generalizing slot boxes boxes' with
  | nil => cases h
  | cons p ports ih =>
    rw [placeBoundaryPorts, placeBoundaryPorts]
    by_cases hports : id ∈ ports.map (·.1.id)
    · exact ih hports
    · have hp : id = p.1.id := (List.mem_cons.mp h).resolve_right hports
      rw [kept_placeBoundaryPorts hports, kept_placeBoundaryPorts hports, Table.get?_insert,
        Table.get?_insert, if_pos hp, if_pos hp]

theorem idxOf?_append_cons {β : Type} [BEq β] [LawfulBEq β] {before behind : List β} {a : β}
    (h : a ∉ before) : (before ++ a :: behind).idxOf? a = some before.length := by
  rw [List.idxOf?_eq_some_iff]
  refine ⟨by simp, by simp, fun j hj heq ↦ h ?_⟩
  rw [List.getElem_append_left hj] at heq
  exact heq ▸ List.getElem_mem hj

/-- A port goes towards its partner, or to the next place among those without one. -/
theorem placeFramePort_eq_put {boxes : Boxes α} {done rest : List Node} {p : Node}
    (hgroup : ((done ++ p :: rest).map (·.id)).Nodup) {c : Canvas α}
    (hpartner : partner? g c.boxes p.id = partner? g boxes p.id) :
    let unconnected := (done ++ p :: rest).filter fun p ↦ (partner? g boxes p.id).isNone
    let slot := (done.filter fun p ↦ (partner? g boxes p.id).isNone).length
    Checked.placeFramePort m g system reference role unconnected c p =
      c.put .frameSide p (m.portBox (boundaryPoint m system reference role.side
        (partner? g boxes p.id) slot unconnected.length) role) := by
  intro unconnected slot
  rw [Checked.placeFramePort, hpartner]
  cases hnone : partner? g boxes p.id with
  | some b => rfl
  | none =>
    have hnew : p ∉ done.filter fun p ↦ (partner? g boxes p.id).isNone := by
      intro hmem
      have hnodup := hgroup.of_map
      rw [List.nodup_append] at hnodup
      exact hnodup.2.2 p (List.mem_of_mem_filter hmem) p (.head _) rfl
    have hsplit : unconnected = (done.filter fun p ↦ (partner? g boxes p.id).isNone) ++
        p :: rest.filter fun p ↦ (partner? g boxes p.id).isNone := by
      simp [unconnected, hnone]
    have hslot : unconnected.idxOf? p = some slot := hsplit ▸ idxOf?_append_cons hnew
    rw [hslot]
    rfl

/-- The ports that are placed have no part in the search for partners, so that a port without a
partner now is one of those without a partner when the row was begun. -/
theorem foldlM_placeFramePort {boxes : Boxes α} {done rest : List Node}
    (hoff : ∀ p ∈ rest, isOnDigitalTwin g p.id = false)
    (hgroup : ((done ++ rest).map (·.id)).Nodup)
    {c : Canvas α} (hc : c.Sound)
    (hpartner : ∀ port, partner? g c.boxes port = partner? g boxes port)
    (hfresh : (ids (c.journal ++ rest.map fun p ↦ (p, .frameSide))).Nodup) :
    let unconnected := (done ++ rest).filter fun p ↦ (partner? g boxes p.id).isNone
    let slot := (done.filter fun p ↦ (partner? g boxes p.id).isNone).length
    rest.foldlM (Checked.placeFramePort m g system reference role unconnected) c =
      some { c with
        boxes := placeBoundaryPorts m system reference role unconnected.length slot
          (rest.map fun p ↦ (p, partner? g boxes p.id)) c.boxes
        journal := c.journal ++ rest.map fun p ↦ (p, .frameSide) } := by
  intro unconnected slot
  induction rest generalizing done c with
  | nil => simp [placeBoundaryPorts]
  | cons p rest ih =>
    obtain ⟨hp, hrest⟩ := List.forall_mem_cons.mp hoff
    have hdone : done ++ p :: rest = (done ++ [p]) ++ rest := by simp
    have hstep : Checked.placeFramePort m g system reference role unconnected c p =
        c.put .frameSide p (m.portBox (boundaryPoint m system reference role.side
          (partner? g boxes p.id) slot unconnected.length) role) :=
      placeFramePort_eq_put hgroup (hpartner p.id)
    rw [hdone] at hgroup
    rw [List.map_cons, ← List.singleton_append, ← List.append_assoc] at hfresh
    have hput (b : Box α) : Does (isOnDigitalTwin g ·) (·.put .frameSide p b) (·.insert p.id b)
        [(p, .frameSide)] := .put .frameSide p b
    have hnew : (ids (c.journal ++ [(p, Rule.frameSide)])).Nodup := by
      rw [Checked.ids_append] at hfresh
      exact (List.nodup_append.mp hfresh).1
    have hnext (b : Box α) := ih hrest hgroup ((hput b).sound hc)
      (fun port ↦ (partner?_insert hp _ b port).trans (hpartner port)) hfresh
    rw [List.foldlM_cons, hstep, (hput _).run c hc hnew]
    simp only [← hdone] at hnext
    refine (hnext _).trans ?_
    have hcount : ((done ++ [p]).filter fun p ↦ (partner? g boxes p.id).isNone).length =
        if (partner? g boxes p.id).isSome then slot else slot + 1 := by
      cases hnone : partner? g boxes p.id <;> simp [slot, hnone]
    rw [hcount]
    simp [placeBoundaryPorts, unconnected]

def framePortEntries (m : Metrics α) (ports : List Node) : List (Node × Rule) :=
  (roleGroups m ports).flatMap fun group ↦ group.2.map fun p ↦ (p, .frameSide)

def placeFrameRow (m : Metrics α) (g : Graph) (system : Box α) (reference : Option (Box α))
    (boxes : Boxes α) (row : PortRole × List Node) : Boxes α :=
  let ports := row.2.map fun p ↦ (p, partner? g boxes p.id)
  let count := (ports.filter (·.2.isNone)).length
  placeBoundaryPorts m system reference row.1 count 0 ports boxes

theorem does_placeFrameRow {row : PortRole × List Node}
    (hoff : ∀ p ∈ row.2, isOnDigitalTwin g p.id = false) :
    Does (isOnDigitalTwin g ·) (Checked.placeFrameRow m g system reference · row)
      (placeFrameRow m g system reference · row) (row.2.map fun p ↦ (p, .frameSide)) where
  kept boxes id hid := by
    apply kept_placeBoundaryPorts
    simpa [ids] using hid
  placed boxes id hid := by
    apply placed_placeBoundaryPorts
    simpa [ids] using hid
  determined boxes boxes' hagree id hid := by
    have hpartner : partner? g boxes = partner? g boxes' := funext (partner?_congr hagree)
    rw [placeFrameRow, placeFrameRow, hpartner]
    apply determined_placeBoundaryPorts
    simpa [ids] using hid
  run c hc hfresh := by
    have hgroup : (([] ++ row.2 : List Node).map (·.id)).Nodup := by
      rw [Checked.ids_append, List.nodup_append] at hfresh
      simpa [ids, Function.comp_def] using hfresh.2.1
    refine (foldlM_placeFramePort hoff hgroup hc (fun _ ↦ rfl) hfresh).trans ?_
    simp [placeFrameRow, List.filter_map, Function.comp_def]

def partEntries (m : Metrics α) (g : Graph) (part : Node) : List (Node × Rule) :=
  (part, .frame) :: framePortEntries m (g.childrenOfKind part.id .port)

end Frame

variable (hnodes : (g.nodes.map (·.id)).Nodup)
include hnodes

/-- The nodes whose boxes tell where the parts of a system and their ports go. -/
def Guides (g : Graph) (twins : List Node) (id : String) : Prop :=
  isOnDigitalTwin g id ∨ ∃ twin ∈ twins, twin.id = id

theorem does_placePart {part : Node} (hpart : part ∈ g.nodes) (hkind : part.kind = .part) :
    Does (Guides g twins) (Checked.placePart m g system twins · part)
      (placePart m g system twins · part) (partEntries m g part) := by
  have hrows (reference : Option (Box α)) :
      Does (Guides g twins)
        ((roleGroups m (g.childrenOfKind part.id .port)).foldlM
          (Checked.placeFrameRow m g system reference) ·)
        ((roleGroups m (g.childrenOfKind part.id .port)).foldl
          (placeFrameRow m g system reference) ·)
        (framePortEntries m (g.childrenOfKind part.id .port)) := by
    refine .foldlM fun row hrow ↦ .mono (does_placeFrameRow fun port hport ↦ ?_) fun _ ↦ .inl
    obtain ⟨hport, hparent, -⟩ := mem_childrenOfKind.mp (mem_of_mem_roleGroups hrow hport)
    exact isOnDigitalTwin_eq_false hnodes hpart (by rw [hkind]; decide) hport hparent
  refine .bind (.put .frame part _) (.reading (fun boxes ↦
    hrows (twins.head?.bind fun t ↦ boxes.get? t.id)) fun boxes boxes' hagree ↦ ?_)
  have hreference : (twins.head?.bind fun t ↦ boxes.get? t.id) =
      twins.head?.bind fun t ↦ boxes'.get? t.id := by
    cases twins with
    | nil => rfl
    | cons twin twins => exact hagree twin.id (.inr ⟨twin, .head _, rfl⟩)
  rw [hreference]

theorem does_placePart_of_mem {parent : String} {part : Node}
    (hpart : part ∈ g.childrenOfKind parent .part) :
    Does (Guides g twins) (Checked.placePart m g system twins · part)
      (placePart m g system twins · part) (partEntries m g part) := by
  obtain ⟨hpart, -, hkind⟩ := mem_childrenOfKind.mp hpart
  exact does_placePart hnodes hpart hkind

def systemEntries (m : Metrics α) (g : Graph) (system : Node) (index : Nat) :
    List (Node × Rule) :=
  (system, .systemRow) ::
    (twinEntries m g (systemBox m index) (g.childrenOfKind system.id .digitalTwin) ++
      (g.childrenOfKind system.id .part).flatMap (partEntries m g))

theorem does_placeSystem (system : Node) (index : Nat) :
    Does (fun _ ↦ True) (Checked.placeSystem m g · system index) (placeSystem m g · system index)
      (systemEntries m g system index) := by
  refine .bind (.put .systemRow system _)
    (.bind does_placeDigitalTwins (.foldlM fun part hpart ↦ ?_))
  exact (does_placePart_of_mem hnodes hpart).mono fun _ _ ↦ trivial

theorem does_placeSystems : Does (fun _ ↦ True) (Checked.placeSystems m g) (placeSystems m g)
    ((g.nodesOfKind .system).zipIdx.flatMap fun n ↦ systemEntries m g n.1 n.2) :=
  .foldlM fun n _ ↦ does_placeSystem hnodes n.1 n.2

end TwinDiagram.Layout
