import TwinDiagram.Proofs.Layout.Ruled

namespace TwinDiagram

theorem Node.parent?_isSome {n : Node} (h : n.kind ≠ .root) : n.parent?.isSome := by
  obtain ⟨id, label, place⟩ := n
  cases place with
  | root => exact absurd rfl h
  | _ => rfl

namespace Layout

open Checked (Canvas Rule ids)

variable {α : Type}

/-- The places given away inside a parent, in order. -/
def slotsIn (parent : String) (journal : List (Node × Rule)) : List Nat :=
  journal.filterMap fun e ↦
    match e.2 with
    | .grid slot => if e.1.parent? = some parent then some slot else none
    | _ => none

def Checked.Canvas.filling (c : Canvas α) : Filling α := ⟨c.boxes, c.slots⟩

/-- Between the steps, the nodes with a box are those of the journal, each of them once. Inside each
parent the places are given away from zero on, and all roots have been placed. -/
structure Orderly (g : Graph) (c : Canvas α) : Prop where
  sound : c.Sound
  once : (ids c.journal).Nodup
  listed : ∀ e ∈ c.journal, e.1 ∈ g.nodes
  counted : ∀ parent, slotsIn parent c.journal = List.range ((c.slots.get? parent).getD 0)
  rooted : ∀ n ∈ g.nodes, n.kind = .root → n.id ∈ ids c.journal

/-- From `c` to `c'` no node loses its box; `node` has one in the end, and others at most
are new. -/
structure Grows (g : Graph) (node : Node) (others : List Node) (c c' : Canvas α) : Prop where
  orderly : Orderly g c'
  kept : ids c.journal ⊆ ids c'.journal
  placed : node.id ∈ ids c'.journal
  only : ∀ id ∈ ids c'.journal, id ∈ ids c.journal ∨ id ∈ (node :: others).map (·.id)

variable {g : Graph} {node : Node} {others : List Node} {c : Canvas α}

theorem slotsIn_append_grid {parent parent' : String} (hparent : node.parent? = some parent)
    (journal : List (Node × Rule)) (slot : Nat) :
    slotsIn parent' (journal ++ [(node, .grid slot)]) =
      slotsIn parent' journal ++ if parent' = parent then [slot] else [] := by
  by_cases h : parent' = parent
  · simp [slotsIn, hparent, h]
  · simp [slotsIn, hparent, h, Ne.symm h]

/-- The nodes that get a box when `node` is placed are those of `way`: it and those above it, up to
one that has a box, is under way already or is not there. -/
inductive Climb (boxes : Boxes α) : (others : List Node) → (node : Node) → (way : List Node) → Prop
  | boxed {others : List Node} {node : Node} {box : Box α} (hbox : boxes.get? node.id = some box) :
    Climb boxes others node []
  | orphan {others : List Node} {node : Node} (hbox : boxes.get? node.id = none)
      (hparent : others.find? (·.id == node.parent?.getD "") = none) :
    Climb boxes others node [node]
  | child {others : List Node} {node parent : Node} {way : List Node}
      (hbox : boxes.get? node.id = none)
      (hparent : others.find? (·.id == node.parent?.getD "") = some parent)
      (hclimb : Climb boxes (without parent.id others) parent way) :
    Climb boxes others node (node :: way)

theorem exists_climb (boxes : Boxes α) (others : List Node) (node : Node) :
    ∃ way, Climb boxes others node way := by
  induction hlength : others.length using Nat.strongRecOn generalizing node others with
  | ind n ih =>
    subst hlength
    cases hbox : boxes.get? node.id with
    | some box => exact ⟨_, .boxed hbox⟩
    | none =>
      cases hparent : others.find? (·.id == node.parent?.getD "") with
      | none => exact ⟨_, .orphan hbox hparent⟩
      | some parent =>
        obtain ⟨way, hclimb⟩ :=
          ih _ (length_without_lt (List.mem_of_find?_eq_some hparent)) _ parent rfl
        exact ⟨_, .child hbox hparent hclimb⟩

namespace Grows

variable {node' : Node} {others' : List Node} {c' c'' : Canvas α}

theorem mono (h : Grows g node others c c') (hsub : others ⊆ others') :
    Grows g node others' c c' where
  orderly := h.orderly
  kept := h.kept
  placed := h.placed
  only id hid := (h.only id hid).imp_right fun h ↦
    List.map_subset _ (List.cons_subset_cons _ hsub) h

theorem trans (h : Grows g node others c c') (h' : Grows g node' [] c' c'')
    (hsub : node :: others ⊆ others') : Grows g node' others' c c'' where
  orderly := h'.orderly
  kept := List.Subset.trans h.kept h'.kept
  placed := h'.placed
  only id hid := by
    obtain hid | hid := h'.only id hid
    · exact (h.only id hid).imp_right fun h ↦
        List.map_subset _ (List.Subset.trans hsub (List.subset_cons_self _ _)) h
    · exact .inr (List.map_subset _ (List.cons_subset_cons _ (List.nil_subset _)) hid)

end Grows

variable [Scalar α] {m : Metrics α}

theorem placeRemaining_eq (f : Filling α) :
    placeRemaining m others node f =
      match f.boxes.get? node.id with
      | some box => (box, f)
      | none =>
        match others.find? (·.id == node.parent?.getD "") with
        | none => takeSlot m node ⟨Scalar.ofNat 0, Scalar.ofNat 0⟩ f
        | some parent =>
          let (box, f) := placeRemaining m (without parent.id others) parent f
          takeSlot m node box.origin f := by
  rw [placeRemaining]
  repeat' split
  all_goals simp_all

theorem Checked.placeRemaining_of_box {room : Nat} {box : Box α}
    (hbox : c.boxes.get? node.id = some box) :
    Checked.placeRemaining m room others node c = .ok (box, c) := by
  cases room <;> simp only [Checked.placeRemaining, hbox]

/-- There is no room for the way up. -/
theorem Climb.tooDeep {way : List Node} (h : Climb c.boxes others node way) {room : Nat}
    (hroom : room < way.length) :
    Checked.placeRemaining m room others node c = .error .tooDeep := by
  induction h generalizing room with
  | boxed hbox => exact absurd hroom (Nat.not_lt_zero _)
  | orphan hbox hparent =>
    obtain rfl : room = 0 := Nat.lt_one_iff.mp hroom
    simp only [Checked.placeRemaining, hbox]
  | child hbox hparent hclimb ih =>
    cases room with
    | zero => simp only [Checked.placeRemaining, hbox]
    | succ room =>
      have hparents := ih (Nat.lt_of_succ_lt_succ hroom)
      simp only [Checked.placeRemaining, hbox, hparent, hparents]
      rfl

variable (hcolumns : 0 < m.fallbackColumns)
include hcolumns

theorem takeSlot_run (hc : Orderly g c) (hnode : node ∈ g.nodes) (hnew : node.id ∉ ids c.journal)
    (origin : Point α) :
    ∃ box c', Checked.takeSlot m node origin c = some (box, c') ∧
      takeSlot m node origin c.filling = (box, c'.filling) ∧ Grows g node [] c c' := by
  have hroot : node.kind ≠ .root := fun h ↦ hnew (hc.rooted node hnode h)
  obtain ⟨parent, hparent⟩ := Option.isSome_iff_exists.mp (Node.parent?_isSome hroot)
  obtain ⟨boxes, slots, journal⟩ := c
  let slot := (slots.get? parent).getD 0
  let box := gridBox m origin slot
  have hput : Does (fun _ ↦ True) (·.put (.grid slot) node box) (·.insert node.id box)
      [(node, .grid slot)] := .put (.grid slot) node box
  have hfresh : (ids (journal ++ [(node, .grid slot)])).Nodup := by
    rw [Checked.ids_append]
    exact List.nodup_append'.mpr ⟨hc.once, List.nodup_singleton _, by simpa using hnew⟩
  refine ⟨box, ⟨boxes.insert node.id box, slots.insert parent (slot + 1),
    journal ++ [(node, .grid slot)]⟩, ?_, ?_, ?_⟩
  · have hdivisor : Checked.divisor m.fallbackColumns = some () := if_pos (Nat.ne_of_gt hcolumns)
    rw [Checked.takeSlot, hparent, hdivisor]
    exact congrArg (Option.bind · _) (hput.run _ hc.sound hfresh)
  · rw [takeSlot, hparent]
    rfl
  · refine ⟨⟨hput.sound hc.sound, hfresh, fun e he ↦ ?_, fun parent' ↦ ?_, fun n hn hkind ↦ ?_⟩,
      ?_, ?_, fun id hid ↦ ?_⟩
    · obtain he | he := List.mem_append.mp he
      · exact hc.listed e he
      · rw [List.mem_singleton.mp he]
        exact hnode
    · rw [slotsIn_append_grid hparent, hc.counted parent', Table.get?_insert]
      by_cases h : parent' = parent
      · rw [if_pos h, if_pos h, h]
        exact List.range_succ.symm
      · rw [if_neg h, if_neg h, List.append_nil]
    · rw [Checked.ids_append]
      exact List.mem_append_left _ (hc.rooted n hn hkind)
    · rw [Checked.ids_append]
      exact List.subset_append_left _ _
    · rw [Checked.ids_append]
      exact List.mem_append_right _ (.head _)
    · rwa [Checked.ids_append, List.mem_append] at hid

/-- A node that the grid places is not among those that its parents need. -/
theorem placeRemaining_run {way : List Node} (h : Climb c.boxes others node way)
    (hnode : node ∈ g.nodes) (hothers : ∀ o ∈ others, o ∈ g.nodes ∧ o.id ≠ node.id)
    (hc : Orderly g c) {room : Nat} (hroom : way.length ≤ room) :
    ∃ box c', Checked.placeRemaining m room others node c = .ok (box, c') ∧
      placeRemaining m others node c.filling = (box, c'.filling) ∧ Grows g node others c c' := by
  have hnew {n : Node} (hbox : c.boxes.get? n.id = none) : n.id ∉ ids c.journal := fun h ↦ by
    have hsome := (hc.sound n.id).mpr h
    rw [hbox] at hsome
    cases hsome
  induction h generalizing room with
  | @boxed others node box hbox =>
    have hplaced : node.id ∈ ids c.journal := (hc.sound node.id).mp (by rw [hbox]; rfl)
    refine ⟨box, c, Checked.placeRemaining_of_box hbox, ?_, hc, .refl _, hplaced, fun _ ↦ .inl⟩
    simp only [placeRemaining_eq, Checked.Canvas.filling, hbox]
  | orphan hbox hparent =>
    obtain ⟨room, rfl⟩ := Nat.exists_eq_add_one.mpr hroom
    obtain ⟨box, c', hchecked, hunchecked, hgrows⟩ :=
      takeSlot_run hcolumns hc hnode (hnew hbox) ⟨Scalar.ofNat 0, Scalar.ofNat 0⟩
    refine ⟨box, c', ?_, ?_, hgrows.mono (List.nil_subset _)⟩
    · simp only [Checked.placeRemaining, hbox, hparent, hchecked]
      rfl
    · simp only [Checked.Canvas.filling] at hunchecked ⊢
      simp only [placeRemaining_eq, hbox, hparent, hunchecked]
  | @child others node parent way hbox hparent hclimb ih =>
    obtain ⟨room, rfl⟩ := Nat.exists_eq_add_one.mpr (Nat.zero_lt_of_lt hroom)
    have hmem : parent ∈ others := List.mem_of_find?_eq_some hparent
    have hfewer : ∀ o ∈ without parent.id others, o ∈ g.nodes ∧ o.id ≠ parent.id := fun o ho ↦
      ⟨(hothers o (List.mem_of_mem_filter ho)).1, by simpa using List.of_mem_filter ho⟩
    obtain ⟨box, c', hchecked, hunchecked, hgrows⟩ :=
      ih (hothers parent hmem).1 hfewer (Nat.le_of_succ_le_succ hroom)
    have hwithin : parent :: without parent.id others ⊆ others :=
      List.cons_subset.mpr ⟨hmem, List.filter_subset_self _⟩
    have hnew' : node.id ∉ ids c'.journal := fun h ↦ by
      obtain ⟨o, ho, hid⟩ := List.mem_map.mp ((hgrows.only _ h).resolve_left (hnew hbox))
      exact (hothers o (hwithin ho)).2 hid
    obtain ⟨box', c'', hchecked', hunchecked', hgrows'⟩ :=
      takeSlot_run hcolumns hgrows.orderly hnode hnew' box.origin
    refine ⟨box', c'', ?_, ?_, hgrows.trans hgrows' hwithin⟩
    · simp only [Checked.placeRemaining, hbox, hparent, hchecked]
      exact congrArg Checked.orUndefined hchecked'
    · simp only [Checked.Canvas.filling] at hunchecked hunchecked' ⊢
      rw [placeRemaining_eq]
      simp only [hbox, hparent, hunchecked, hunchecked']

end Layout

end TwinDiagram
