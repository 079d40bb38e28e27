import TwinDiagram.Proofs.Layout.Grid

namespace TwinDiagram.Layout

open Checked (Canvas Rule ids)

section Columns

theorem columns_pos_of_columnsOf {x : Float} {n : Nat} (h : columnsOf x = .ok n) : 0 < n := by
  unfold columnsOf at h
  split at h
  · cases h
    exact Nat.le_max_left 1 _
  · cases h

theorem fallbackColumns_set {α : Type} (m : Metrics α) (x : α) :
    ∀ f ∈ Metrics.lengths (α := α), (f.2.2 x m).fallbackColumns = m.fallbackColumns := by
  simp [Metrics.lengths]

theorem columns_pos_of_override {m m' : Metrics Float} {name : String} {x : Float}
    (hm : 0 < m.fallbackColumns) (h : m.override name x = .ok m') : 0 < m'.fallbackColumns := by
  unfold Metrics.override at h
  split at h
  · cases hn : columnsOf x with
    | error fault => rw [hn] at h; cases h
    | ok n =>
      rw [hn] at h
      cases h
      exact columns_pos_of_columnsOf hn
  · split at h
    · next f hf =>
      cases h
      rw [fallbackColumns_set m x _ (List.mem_of_find?_eq_some hf)]
      exact hm
    · cases h

/-- A project cannot do without columns. -/
theorem columns_pos_of_ofConfig {config : Config} {m : Metrics Float}
    (h : Metrics.ofConfig config = .ok m) : 0 < m.fallbackColumns := by
  have hfold {overrides : List (String × Float)} {m₀ : Metrics Float}
      (hm₀ : 0 < m₀.fallbackColumns)
      (h : overrides.foldlM (fun m e ↦ m.override e.1 e.2) m₀ = .ok m) : 0 < m.fallbackColumns := by
    induction overrides generalizing m₀ with
    | nil => cases h; exact hm₀
    | cons e overrides ih =>
      rw [List.foldlM_cons] at h
      cases hm₁ : m₀.override e.1 e.2 with
      | error fault => rw [hm₁] at h; cases h
      | ok m₁ =>
        rw [hm₁] at h
        exact ih (columns_pos_of_override hm₀ hm₁) h
  unfold Metrics.ofConfig at h
  split at h
  · exact hfold (Nat.succ_pos 3) h
  · cases h

end Columns

variable {α : Type} {g : Graph}

theorem slotsIn_eq_nil {journal : List (Node × Rule)} (h : ∀ e ∈ journal, ∀ slot, e.2 ≠ .grid slot)
    (parent : String) : slotsIn parent journal = [] := by
  rw [slotsIn, List.filterMap_eq_nil_iff]
  intro e he
  cases hrule : e.2 with
  | grid slot => exact absurd hrule (h e he slot)
  | _ => rfl

theorem mapM_eq_some_filterMap {β γ : Type} {f : β → Option γ} {xs : List β}
    (h : ∀ x ∈ xs, (f x).isSome) : xs.mapM f = some (xs.filterMap f) := by
  induction xs with
  | nil => rfl
  | cons x xs ih =>
    obtain ⟨hx, hxs⟩ := List.forall_mem_cons.mp h
    obtain ⟨y, hy⟩ := Option.isSome_iff_exists.mp hx
    rw [List.mapM_cons, hy, ih hxs, List.filterMap_cons_some hy]
    rfl

theorem Orderly.perm {c : Canvas α} (hc : Orderly g c)
    (hplaced : ∀ n ∈ g.nodes, n.id ∈ ids c.journal) (hnodes : (g.nodes.map (·.id)).Nodup) :
    (c.journal.map Prod.fst).Perm g.nodes := by
  have honce : ((c.journal.map Prod.fst).map (·.id)).Nodup := by
    rw [List.map_map]
    exact hc.once
  refine (List.perm_ext_iff_of_nodup honce.of_map hnodes.of_map).mpr fun n ↦
    ⟨fun hn ↦ ?_, fun hn ↦ ?_⟩
  · obtain ⟨e, he, rfl⟩ := List.mem_map.mp hn
    exact hc.listed e he
  · obtain ⟨e, he, hid⟩ := List.mem_map.mp (hplaced n hn)
    rw [← List.inj_on_of_nodup_map hnodes (hc.listed e he) hn hid]
    exact List.mem_map_of_mem he

section Stretch

def stretch (size : Size α) (boxes : Boxes α) (n : Node) : Boxes α :=
  match boxes.get? n.id with
  | some b => boxes.insert n.id { b with size }
  | none => boxes

theorem get?_stretch (size : Size α) (boxes : Boxes α) (n : Node) (id : String) :
    (stretch size boxes n).get? id =
      if id = n.id then (boxes.get? id).map ({ · with size }) else boxes.get? id := by
  unfold stretch
  cases hbox : boxes.get? n.id with
  | some b =>
    rw [Table.get?_insert]
    by_cases hid : id = n.id
    · rw [if_pos hid, if_pos hid, hid, hbox]
      rfl
    · rw [if_neg hid, if_neg hid]
  | none =>
    by_cases hid : id = n.id
    · rw [if_pos hid, hid, hbox]
      rfl
    · rw [if_neg hid]

theorem get?_stretchRoots (size : Size α) (boxes : Boxes α) (id : String) :
    (stretchRoots g size boxes).get? id =
      if id ∈ (g.nodesOfKind .root).map (·.id) then (boxes.get? id).map ({ · with size })
      else boxes.get? id := by
  change ((g.nodesOfKind .root).foldl (stretch size) boxes).get? id = _
  induction g.nodesOfKind .root generalizing boxes with
  | nil => rfl
  | cons n roots ih =>
    rw [List.foldl_cons, ih, get?_stretch]
    by_cases hid : id = n.id <;> by_cases hrest : id ∈ roots.map (·.id) <;>
      simp [hid, hrest, Function.comp_def]

theorem isSome_get?_stretchRoots (size : Size α) (boxes : Boxes α) (id : String) :
    ((stretchRoots g size boxes).get? id).isSome = (boxes.get? id).isSome := by
  rw [get?_stretchRoots]
  split
  · exact Option.isSome_map ..
  · rfl

theorem stretchRoots_run {size : Size α} {boxes : Boxes α}
    (hroots : ∀ n ∈ g.nodesOfKind .root, (boxes.get? n.id).isSome) :
    Checked.stretchRoots g size boxes = some (stretchRoots g size boxes) := by
  change _ = some ((g.nodesOfKind .root).foldl (stretch size) boxes)
  rw [Checked.stretchRoots]
  generalize g.nodesOfKind .root = roots at hroots ⊢
  induction roots generalizing boxes with
  | nil => rfl
  | cons n roots ih =>
    obtain ⟨hn, hrest⟩ := List.forall_mem_cons.mp hroots
    obtain ⟨b, hb⟩ := Option.isSome_iff_exists.mp hn
    have hstretch : stretch size boxes n = boxes.insert n.id { b with size } := by
      rw [stretch, hb]
    rw [List.foldlM_cons, List.foldl_cons, hb, hstretch]
    refine ih fun n' hn' ↦ ?_
    rw [Table.get?_insert]
    split
    · rfl
    · exact hrest n' hn'

end Stretch

variable [Scalar α] {m : Metrics α}

theorem ne_grid_of_mem_ruleEntries {e : Node × Rule} (he : e ∈ ruleEntries m g) (slot : Nat) :
    e.2 ≠ .grid slot := by
  rintro hrule
  obtain ⟨n, rule⟩ := e
  obtain rfl : rule = .grid slot := hrule
  simp [ruleEntries, systemEntries, twinEntries, twinPortEntries, partEntries,
    framePortEntries] at he

theorem orderly_rules (hnodes : (g.nodes.map (·.id)).Nodup) :
    ∃ c, Checked.placeByRules m g .empty = some c ∧
      c.filling = ⟨placeByRules m g .empty, .empty⟩ ∧ Orderly g c := by
  have hempty : (Canvas.empty : Canvas α).Sound := fun _ ↦ iff_of_false nofun nofun
  have hrules := does_rules (m := m) hnodes
  have honce : (ids (ruleEntries m g)).Nodup := nodup_ids_ruleEntries hnodes
  have hrooted : ∀ n ∈ g.nodes, n.kind = .root → n.id ∈ ids (ruleEntries m g) := fun n hn hkind ↦
    mem_ids_of_mem_ruledNodes m <| List.mem_append_right _ <| List.mem_append_right _ <|
      mem_nodesOfKind.mpr ⟨hn, hkind⟩
  refine ⟨_, hrules.run .empty hempty honce, rfl, hrules.sound hempty, honce,
    fun _ ↦ mem_nodes_of_mem_ruleEntries, ?_, hrooted⟩
  exact slotsIn_eq_nil fun e he slot ↦ ne_grid_of_mem_ruleEntries he slot

theorem drawBoxes_run {boxes : Boxes α} (hboxes : ∀ n ∈ g.nodes, (boxes.get? n.id).isSome) :
    Checked.drawBoxes m g boxes = some (drawBoxes m g boxes) := by
  have hroots : Checked.stretchRoots g (canvasSize m boxes) boxes =
      some (stretchRoots g (canvasSize m boxes) boxes) :=
    stretchRoots_run fun n hn ↦ hboxes n (mem_nodesOfKind.mp hn).1
  have hnodes : g.nodes.mapM (fun n ↦ ((stretchRoots g (canvasSize m boxes) boxes).get? n.id).map
        (placedNode (stretchRoots g (canvasSize m boxes) boxes) n)) =
      some (drawBoxes m g boxes).nodes := by
    refine mapM_eq_some_filterMap fun n hn ↦ ?_
    rw [Option.isSome_map, isSome_get?_stretchRoots]
    exact hboxes n hn
  simp only [Checked.drawBoxes, hroots, hnodes, Option.bind_eq_bind, Option.bind_some]
  rfl

end TwinDiagram.Layout
