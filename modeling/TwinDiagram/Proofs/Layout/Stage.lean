import TwinDiagram.Proofs.Layout.Reorder

namespace TwinDiagram.Layout

open Checked (Rule ids)

variable {α : Type} [Scalar α] {m : Metrics α} {g : Graph} {before behind : List Node}
  {system : Node}
  {id : String}

section Definitions

variable (m : Metrics α) (g : Graph) (before : List Node) (system : Node)

def stage (boxes : Boxes α) : Boxes α :=
  placeDigitalTwins m g (systemBox m before.length) (g.childrenOfKind system.id .digitalTwin)
    ((before.zipIdx.foldl (fun boxes n ↦ placeSystem m g boxes n.1 n.2)
      (placeGoals m g boxes)).insert system.id (systemBox m before.length))

def stageEntries : List (Node × Rule) :=
  ((sortGoals (g.nodesOfKind .goal)).zipIdx.flatMap fun n ↦ [(n.1, .goalRow)]) ++
    (before.zipIdx.flatMap (fun n ↦ systemEntries m g n.1 n.2) ++
      (system, .systemRow) ::
        twinEntries m g (systemBox m before.length) (g.childrenOfKind system.id .digitalTwin))

def remainingEntries (behind : List Node) : List (Node × Rule) :=
  (g.childrenOfKind system.id .part).flatMap (partEntries m g) ++
    (behind.zipIdx (before.length + 1)).flatMap fun n ↦ systemEntries m g n.1 n.2

def placeParts (boxes : Boxes α) : Boxes α :=
  (g.childrenOfKind system.id .part).foldl
    (placePart m g (systemBox m before.length) (g.childrenOfKind system.id .digitalTwin)) boxes

end Definitions

theorem mem_stageEntries {n : Node} : n ∈ (stageEntries m g before system).map Prod.fst ↔
    n ∈ g.nodesOfKind .goal ∨ (∃ s ∈ before, n ∈ family g s) ∨ n = system ∨
      ∃ twin ∈ g.childrenOfKind system.id .digitalTwin, n ∈ withPorts g twin := by
  rw [stageEntries, List.map_append, List.map_append, List.map_cons, List.mem_append,
    List.mem_append, List.mem_cons, (map_goalEntries_perm g).mem_iff,
    (map_flatMap_systemEntries_perm before 0).mem_iff, (map_twinEntries_perm _ _).mem_iff,
    List.mem_flatMap, List.mem_flatMap]

variable (hsystems : g.nodesOfKind .system = before ++ system :: behind)

include hsystems in
theorem placeSystems_eq_stage (boxes : Boxes α) :
    placeSystems m g (placeGoals m g boxes) =
      (behind.zipIdx (before.length + 1)).foldl (fun boxes n ↦ placeSystem m g boxes n.1 n.2)
        (placeParts m g before system (stage m g before system boxes)) := by
  rw [placeSystems, hsystems, List.zipIdx_append, List.zipIdx_cons, List.foldl_append, Nat.zero_add]
  rfl

include hsystems in
theorem systemEntries_eq_stage :
    (sortGoals (g.nodesOfKind .goal)).zipIdx.flatMap (fun n ↦ [(n.1, Rule.goalRow)]) ++
        (g.nodesOfKind .system).zipIdx.flatMap (fun n ↦ systemEntries m g n.1 n.2) =
      stageEntries m g before system ++ remainingEntries m g before system behind := by
  rw [hsystems, List.zipIdx_append, List.zipIdx_cons, List.flatMap_append, List.flatMap_cons,
    stageEntries, remainingEntries, systemEntries]
  simp

variable (hnodes : (g.nodes.map (·.id)).Nodup)
include hnodes

theorem does_stage (m : Metrics α) (before : List Node) (system : Node) :
    ∃ step, Does (fun _ ↦ True) step (stage m g before system) (stageEntries m g before system) :=
  ⟨_, does_placeGoals.bind ((Does.foldlM fun n _ ↦ does_placeSystem hnodes n.1 n.2).bind
    (.bind (.put .systemRow system _) does_placeDigitalTwins))⟩

theorem does_placeParts (m : Metrics α) (before : List Node) (system : Node) :
    Does (Guides g (g.childrenOfKind system.id .digitalTwin))
      ((g.childrenOfKind system.id .part).foldlM (Checked.placePart m g (systemBox m before.length)
        (g.childrenOfKind system.id .digitalTwin)) ·)
      (placeParts m g before system)
      ((g.childrenOfKind system.id .part).flatMap (partEntries m g)) :=
  .foldlM fun _ hpart ↦ does_placePart_of_mem hnodes hpart

theorem does_remaining (m : Metrics α) (before : List Node) (system : Node) (behind : List Node) :
    ∃ step, Does (fun _ ↦ True) step
      (fun boxes ↦ (behind.zipIdx (before.length + 1)).foldl
        (fun boxes n ↦ placeSystem m g boxes n.1 n.2) (placeParts m g before system boxes))
      (remainingEntries m g before system behind) :=
  ⟨_, ((does_placeParts hnodes m before system).mono fun _ _ ↦ trivial).bind
    (.foldlM fun n _ ↦ does_placeSystem hnodes n.1 n.2)⟩

include hsystems

theorem nodup_stageEntries :
    (ids (stageEntries m g before system ++ remainingEntries m g before system behind)).Nodup := by
  have hnodup := nodup_ids_ruleEntries (m := m) hnodes
  rw [ruleEntries, ← List.append_assoc, systemEntries_eq_stage hsystems, Checked.ids_append]
    at hnodup
  exact (List.nodup_append.mp hnodup).1

theorem get?_stage_of_mem (hid : id ∈ ids (stageEntries m g before system)) :
    ((stage m g before system .empty).get? id).isSome ∧
      (placeSystems m g (placeGoals m g .empty)).get? id =
        (stage m g before system .empty).get? id := by
  obtain ⟨_, hstage⟩ := does_stage hnodes m before system
  obtain ⟨_, hremaining⟩ := does_remaining hnodes m before system behind
  have hnodup := nodup_stageEntries (m := m) hsystems hnodes
  rw [Checked.ids_append, List.nodup_append'] at hnodup
  rw [placeSystems_eq_stage hsystems]
  exact ⟨hstage.placed _ id hid, hremaining.kept _ id (hnodup.2.2 hid)⟩

omit hsystems in
theorem get?_stage_of_not_mem (hid : id ∉ ids (stageEntries m g before system)) :
    (stage m g before system .empty).get? id = none := by
  obtain ⟨_, hstage⟩ := does_stage hnodes m before system
  rw [hstage.kept _ id hid]
  rfl

/-- Each part is drawn from what was there then, whatever its neighbours are. -/
theorem get?_placePart_stage {part : Node} (hpart : part ∈ g.childrenOfKind system.id .part)
    (hid : id ∈ ids (partEntries m g part)) :
    (placeSystems m g (placeGoals m g .empty)).get? id =
      (placePart m g (systemBox m before.length) (g.childrenOfKind system.id .digitalTwin)
        (stage m g before system .empty) part).get? id := by
  have hmem : id ∈ ids ((g.childrenOfKind system.id .part).flatMap (partEntries m g)) := by
    obtain ⟨e, he, rfl⟩ := List.mem_map.mp hid
    exact List.mem_map_of_mem (List.mem_flatMap.mpr ⟨part, hpart, he⟩)
  have hbehind : id ∉ ids ((behind.zipIdx (before.length + 1)).flatMap fun n ↦
      systemEntries m g n.1 n.2) := by
    have hnodup := nodup_stageEntries (m := m) hsystems hnodes
    rw [Checked.ids_append, List.nodup_append', remainingEntries, Checked.ids_append,
      List.nodup_append'] at hnodup
    exact hnodup.2.1.2.2 hmem
  have hsystem : system ∈ g.nodesOfKind .system := by simp [hsystems]
  rw [placeSystems_eq_stage hsystems]
  refine ((Does.foldlM fun n _ ↦ does_placeSystem hnodes n.1 n.2).kept _ id hbehind).trans ?_
  refine Does.get?_foldl (fun part hpart ↦ does_placePart_of_mem hnodes hpart)
    (fun part hpart id hid ↦ ?_) (nodup_ids_partEntries hnodes system) hpart hid _
  obtain ⟨e, he, rfl⟩ := List.mem_map.mp hid
  exact not_guides hnodes hsystem hpart
    ((map_partEntries_perm part).mem_iff.mp (List.mem_map_of_mem he))

/-- By then, what is drawn in an earlier system is there, and the digital twins of this one with
their ports are. -/
theorem mem_ids_stageEntries {home twin n : Node} (hhome : home ∈ g.nodesOfKind .system)
    (htwin : twin ∈ g.childrenOfKind home.id .digitalTwin) (hn : n ∈ withPorts g twin) :
    n.id ∈ ids (stageEntries m g before system) ↔ home ∈ before ∨ home = system := by
  have howner : twin ∈ owners g home := mem_owners_of_twin htwin
  have hfamily : n ∈ family g home := mem_family_of_twin htwin hn
  have hlisted : ∀ e ∈ stageEntries m g before system, e.1 ∈ g.nodes := by
    intro e he
    refine mem_nodes_of_mem_ruleEntries (m := m) ?_
    rw [ruleEntries, ← List.append_assoc, systemEntries_eq_stage hsystems]
    exact List.mem_append_left _ (List.mem_append_left _ he)
  have hsystem : ∀ s ∈ before ++ [system], s ∈ g.nodesOfKind .system := by
    intro s hs
    rw [hsystems, List.append_cons]
    exact List.mem_append_left _ hs
  rw [List.forall_mem_append, List.forall_mem_singleton] at hsystem
  rw [mem_ids_iff hnodes hlisted (mem_nodes_of_mem_withPorts (mem_owners.mp howner).1 hn),
    mem_stageEntries]
  constructor
  · rintro (hgoal | ⟨s, hs, hn'⟩ | rfl | ⟨twin', htwin', hn'⟩)
    · have h := kind_of_mem_withPorts howner hn
      simp [(mem_nodesOfKind.mp hgoal).2] at h
    · exact .inl (eq_of_mem_family hnodes hhome (hsystem.1 s hs) hfamily hn' ▸ hs)
    · have h := kind_of_mem_withPorts howner hn
      simp [(mem_nodesOfKind.mp hsystem.2).2] at h
    · exact .inr (eq_of_mem_family hnodes hhome hsystem.2 hfamily (mem_family_of_twin htwin' hn'))
  · rintro (hbefore | rfl)
    · exact .inr (.inl ⟨home, hbefore, hfamily⟩)
    · exact .inr (.inr (.inr ⟨twin, htwin, hn⟩))

end TwinDiagram.Layout
