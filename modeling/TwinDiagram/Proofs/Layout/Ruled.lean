import TwinDiagram.Proofs.Layout.Rules
import Mathlib.Data.List.Perm.Basic

namespace TwinDiagram.Layout

open Checked (Canvas Rule ids)

def withPorts (g : Graph) (owner : Node) : List Node :=
  owner :: g.childrenOfKind owner.id .port

def owners (g : Graph) (system : Node) : List Node :=
  g.childrenOfKind system.id .digitalTwin ++ g.childrenOfKind system.id .part

def family (g : Graph) (system : Node) : List Node :=
  system :: (owners g system).flatMap (withPorts g)

def ruledNodes (g : Graph) : List Node :=
  g.nodesOfKind .goal ++ ((g.nodesOfKind .system).flatMap (family g) ++ g.nodesOfKind .root)

section Nodes

variable {g : Graph} {n owner owner' system system' : Node}

theorem mem_nodesOfKind {k : NodeKind} : n ∈ g.nodesOfKind k ↔ n ∈ g.nodes ∧ n.kind = k := by
  simp only [Graph.nodesOfKind, List.mem_filter, beq_iff_eq]

theorem mem_withPorts :
    n ∈ withPorts g owner ↔
      n = owner ∨ n ∈ g.nodes ∧ n.parent? = some owner.id ∧ n.kind = .port := by
  rw [withPorts, List.mem_cons, mem_childrenOfKind]

theorem mem_owners :
    owner ∈ owners g system ↔ owner ∈ g.nodes ∧ owner.parent? = some system.id ∧
      (owner.kind = .digitalTwin ∨ owner.kind = .part) := by
  rw [owners, List.mem_append, mem_childrenOfKind, mem_childrenOfKind, ← and_or_left, ← and_or_left]

theorem mem_family :
    n ∈ family g system ↔ n = system ∨ ∃ owner ∈ owners g system, n ∈ withPorts g owner := by
  rw [family, List.mem_cons, List.mem_flatMap]

theorem mem_owners_of_twin (htwin : owner ∈ g.childrenOfKind system.id .digitalTwin) :
    owner ∈ owners g system := List.mem_append_left _ htwin

theorem mem_family_of_twin (htwin : owner ∈ g.childrenOfKind system.id .digitalTwin)
    (hn : n ∈ withPorts g owner) : n ∈ family g system :=
  mem_family.mpr (.inr ⟨owner, mem_owners_of_twin htwin, hn⟩)

theorem mem_nodes_of_mem_owners (howner : owner ∈ owners g system) :
    owner ∈ g.nodes ∧ owner.kind ≠ .port := by
  obtain ⟨hmem, -, hkind | hkind⟩ := mem_owners.mp howner <;> exact ⟨hmem, by rw [hkind]; decide⟩

theorem kind_of_mem_withPorts (howner : owner ∈ owners g system) (hn : n ∈ withPorts g owner) :
    n.kind = .digitalTwin ∨ n.kind = .part ∨ n.kind = .port := by
  obtain rfl | ⟨-, -, hkind⟩ := mem_withPorts.mp hn
  · obtain ⟨-, -, hkind | hkind⟩ := mem_owners.mp howner
    · exact .inl hkind
    · exact .inr (.inl hkind)
  · exact .inr (.inr hkind)

theorem kind_of_mem_family (hsystem : system ∈ g.nodesOfKind .system) (hn : n ∈ family g system) :
    n.kind ≠ .goal ∧ n.kind ≠ .root := by
  obtain rfl | ⟨owner, howner, hn⟩ := mem_family.mp hn
  · simp [(mem_nodesOfKind.mp hsystem).2]
  · obtain h | h | h := kind_of_mem_withPorts howner hn <;> simp [h]

theorem mem_nodes_of_mem_withPorts (howner : owner ∈ g.nodes) (hn : n ∈ withPorts g owner) :
    n ∈ g.nodes := by
  obtain rfl | ⟨hn, -⟩ := mem_withPorts.mp hn
  · exact howner
  · exact hn

theorem mem_nodes_of_mem_ruledNodes (hn : n ∈ ruledNodes g) : n ∈ g.nodes := by
  simp only [ruledNodes, List.mem_append, List.mem_flatMap, mem_nodesOfKind] at hn
  obtain ⟨hn, -⟩ | ⟨system, ⟨hsystem, -⟩, hn⟩ | ⟨hn, -⟩ := hn
  · exact hn
  · obtain rfl | ⟨owner, howner, hn⟩ := mem_family.mp hn
    · exact hsystem
    · exact mem_nodes_of_mem_withPorts (mem_owners.mp howner).1 hn
  · exact hn

variable (hnodes : (g.nodes.map (·.id)).Nodup)
include hnodes

theorem eq_of_mem_withPorts (howner : owner ∈ g.nodes ∧ owner.kind ≠ .port)
    (howner' : owner' ∈ g.nodes ∧ owner'.kind ≠ .port) (hn : n ∈ withPorts g owner)
    (hn' : n ∈ withPorts g owner') : owner = owner' := by
  obtain rfl | ⟨-, hparent, hport⟩ := mem_withPorts.mp hn
  · obtain h | ⟨-, -, hport⟩ := mem_withPorts.mp hn'
    · exact h
    · exact absurd hport howner.2
  · obtain rfl | ⟨-, hparent', -⟩ := mem_withPorts.mp hn'
    · exact absurd hport howner'.2
    · rw [hparent, Option.some_inj] at hparent'
      exact List.inj_on_of_nodup_map hnodes howner.1 howner'.1 hparent'

/-- What is drawn in a system is drawn in no other. -/
theorem eq_of_mem_family (hsystem : system ∈ g.nodesOfKind .system)
    (hsystem' : system' ∈ g.nodesOfKind .system) (hn : n ∈ family g system)
    (hn' : n ∈ family g system') : system = system' := by
  obtain ⟨hsystem, hkind⟩ := mem_nodesOfKind.mp hsystem
  obtain ⟨hsystem', hkind'⟩ := mem_nodesOfKind.mp hsystem'
  obtain rfl | ⟨owner, howner, hn⟩ := mem_family.mp hn
  · obtain h | ⟨owner', howner', hn'⟩ := mem_family.mp hn'
    · exact h
    · have h := kind_of_mem_withPorts howner' hn'
      simp [hkind] at h
  · obtain rfl | ⟨owner', howner', hn'⟩ := mem_family.mp hn'
    · have h := kind_of_mem_withPorts howner hn
      simp [hkind'] at h
    · obtain rfl := eq_of_mem_withPorts hnodes (mem_nodes_of_mem_owners howner)
        (mem_nodes_of_mem_owners howner') hn hn'
      have hparent := (mem_owners.mp howner').2.1
      rw [(mem_owners.mp howner).2.1, Option.some_inj] at hparent
      exact List.inj_on_of_nodup_map hnodes hsystem hsystem' hparent

theorem nodup_nodesOfKind (k : NodeKind) : (g.nodesOfKind k).Nodup := hnodes.of_map.filter _

theorem nodup_childrenOfKind (id : String) (k : NodeKind) : (g.childrenOfKind id k).Nodup :=
  (hnodes.of_map.filter _).filter _

theorem nodup_withPorts (hkind : owner.kind ≠ .port) : (withPorts g owner).Nodup :=
  List.nodup_cons.mpr ⟨fun h ↦ hkind (mem_childrenOfKind.mp h).2.2, nodup_childrenOfKind hnodes _ _⟩

theorem nodup_owners (system : Node) : (owners g system).Nodup := by
  refine List.nodup_append'.mpr ⟨nodup_childrenOfKind hnodes _ _, nodup_childrenOfKind hnodes _ _,
    fun n htwin hpart ↦ ?_⟩
  have hkind := (mem_childrenOfKind.mp htwin).2.2
  rw [(mem_childrenOfKind.mp hpart).2.2] at hkind
  cases hkind

theorem nodup_flatMap_withPorts {nodes : List Node} (hnodup : nodes.Nodup)
    (howners : ∀ owner ∈ nodes, owner ∈ g.nodes ∧ owner.kind ≠ .port) :
    (nodes.flatMap (withPorts g)).Nodup := by
  refine List.nodup_flatMap.mpr
    ⟨fun owner howner ↦ nodup_withPorts hnodes (howners owner howner).2, ?_⟩
  refine hnodup.imp_of_mem fun {owner owner'} howner howner' hne n hn hn' ↦ hne ?_
  exact eq_of_mem_withPorts hnodes (howners owner howner) (howners owner' howner') hn hn'

theorem nodup_flatMap_owners (system : Node) : ((owners g system).flatMap (withPorts g)).Nodup :=
  nodup_flatMap_withPorts hnodes (nodup_owners hnodes system) fun _ ↦ mem_nodes_of_mem_owners

theorem nodup_family (hsystem : system ∈ g.nodesOfKind .system) : (family g system).Nodup := by
  refine List.nodup_cons.mpr ⟨fun h ↦ ?_, nodup_flatMap_owners hnodes system⟩
  obtain ⟨owner, howner, hmem⟩ := List.mem_flatMap.mp h
  have hkind := kind_of_mem_withPorts howner hmem
  simp [(mem_nodesOfKind.mp hsystem).2] at hkind

theorem nodup_ruledNodes : (ruledNodes g).Nodup := by
  have hfamilies : ((g.nodesOfKind .system).flatMap (family g)).Nodup := by
    refine List.nodup_flatMap.mpr ⟨fun system ↦ nodup_family hnodes, ?_⟩
    refine (nodup_nodesOfKind hnodes .system).imp_of_mem fun hsystem hsystem' hne n hn hn' ↦ hne ?_
    exact eq_of_mem_family hnodes hsystem hsystem' hn hn'
  have hinside {n : Node} (hn : n ∈ (g.nodesOfKind .system).flatMap (family g)) :
      n.kind ≠ .goal ∧ n.kind ≠ .root := by
    obtain ⟨system, hsystem, hn⟩ := List.mem_flatMap.mp hn
    exact kind_of_mem_family hsystem hn
  refine List.nodup_append'.mpr ⟨nodup_nodesOfKind hnodes .goal, List.nodup_append'.mpr
    ⟨hfamilies, nodup_nodesOfKind hnodes .root, fun n hn hroot ↦ ?_⟩, fun n hgoal hn ↦ ?_⟩
  · exact (hinside hn).2 (mem_nodesOfKind.mp hroot).2
  · have hkind := (mem_nodesOfKind.mp hgoal).2
    obtain hn | hroot := List.mem_append.mp hn
    · exact (hinside hn).1 hkind
    · rw [(mem_nodesOfKind.mp hroot).2] at hkind
      cases hkind

end Nodes

variable {α : Type} {m : Metrics α} {g : Graph}

/-- Every port has one role. -/
theorem flatMap_filter_role_perm (ports : List Node) :
    (PortRole.all.flatMap fun role ↦
      ports.filter fun p ↦ PortRole.ofName p.label == role).Perm ports := by
  simp only [PortRole.all, List.flatMap_cons, List.flatMap_nil, List.append_nil]
  induction ports with
  | nil => exact .refl _
  | cons p ports ih =>
    cases hrole : PortRole.ofName p.label with
    | sensor => simpa [hrole] using ih
    | actuator => simpa [hrole] using List.perm_middle.trans (ih.cons p)
    | unclassified =>
      simp only [List.filter_cons, hrole, ← List.append_assoc] at ih ⊢
      exact List.perm_middle.trans (ih.cons p)

theorem flatMap_roleGroups_perm (m : Metrics α) (ports : List Node) :
    ((roleGroups m ports).flatMap (·.2)).Perm ports := by
  have hempty (rows : List (PortRole × List Node)) :
      (rows.filter (! ·.2.isEmpty)).flatMap (·.2) = rows.flatMap (·.2) := by
    induction rows with
    | nil => rfl
    | cons row rows ih => cases hrow : row.2 <;> simp [hrow, ih]
  rw [roleGroups, hempty, List.flatMap_map]
  refine .trans (.flatMap_left _ fun role _ ↦ ?_) (flatMap_filter_role_perm ports)
  exact List.mergeSort_perm _ _

theorem map_framePortEntries_perm (ports : List Node) :
    ((framePortEntries m ports).map Prod.fst).Perm ports := by
  refine .trans (.of_eq ?_) (flatMap_roleGroups_perm m ports)
  simp [framePortEntries, List.map_flatMap, Function.comp_def]

theorem map_zipIdx_entries (rule : Rule) (nodes : List Node) :
    (nodes.zipIdx.flatMap fun n ↦ [(n.1, rule)]).map Prod.fst = nodes := by
  rw [List.map_flatMap]
  exact (List.flatMap_pure_eq_map _ _).trans (List.zipIdx_map_fst _ _)

theorem map_twinPortEntries_perm (ports : List Node) :
    ((twinPortEntries m ports).map Prod.fst).Perm ports := by
  refine .trans (.of_eq ?_) (flatMap_roleGroups_perm m ports)
  rw [twinPortEntries, List.map_flatMap]
  exact List.flatMap_congr fun row _ ↦ map_zipIdx_entries .twinSide row.2

theorem map_partEntries_perm (part : Node) :
    ((partEntries m g part).map Prod.fst).Perm (withPorts g part) :=
  (map_framePortEntries_perm _).cons part

theorem map_flatMap_partEntries_perm (parts : List Node) :
    ((parts.flatMap (partEntries m g)).map Prod.fst).Perm (parts.flatMap (withPorts g)) := by
  rw [List.map_flatMap]
  exact .flatMap_left _ fun part _ ↦ map_partEntries_perm part

variable [Scalar α]

theorem map_twinEntries_perm (system : Box α) (twins : List Node) :
    ((twinEntries m g system twins).map Prod.fst).Perm (twins.flatMap (withPorts g)) := by
  have htwins : (twins.zip (twinBoxes m system twins.length)).map Prod.fst = twins :=
    List.map_fst_zip (by simp [twinBoxes])
  rw [twinEntries, List.map_flatMap]
  refine .trans (.flatMap_left _ fun twin _ ↦ (map_twinPortEntries_perm _).cons twin.1) (.of_eq ?_)
  conv_rhs => rw [← htwins]
  rw [List.flatMap_map]
  rfl

theorem map_systemEntries_perm (system : Node) (index : Nat) :
    ((systemEntries m g system index).map Prod.fst).Perm (family g system) := by
  rw [systemEntries, List.map_cons, List.map_append, family, owners, List.flatMap_append]
  exact ((map_twinEntries_perm _ _).append (map_flatMap_partEntries_perm _)).cons system

theorem map_goalEntries_perm (g : Graph) :
    (((sortGoals (g.nodesOfKind .goal)).zipIdx.flatMap fun n ↦
      [(n.1, Rule.goalRow)]).map Prod.fst).Perm
      (g.nodesOfKind .goal) := by
  rw [map_zipIdx_entries]
  exact List.mergeSort_perm _ _

theorem map_flatMap_systemEntries_perm (systems : List Node) (index : Nat) :
    (((systems.zipIdx index).flatMap fun n ↦ systemEntries m g n.1 n.2).map Prod.fst).Perm
      (systems.flatMap (family g)) := by
  rw [List.map_flatMap]
  refine .trans (.flatMap_left _ fun n _ ↦ map_systemEntries_perm n.1 n.2) (.of_eq ?_)
  conv_rhs => rw [← List.zipIdx_map_fst index systems, List.flatMap_map]

def ruleEntries (m : Metrics α) (g : Graph) : List (Node × Rule) :=
  ((sortGoals (g.nodesOfKind .goal)).zipIdx.flatMap fun n ↦ [(n.1, .goalRow)]) ++
    (((g.nodesOfKind .system).zipIdx.flatMap fun n ↦ systemEntries m g n.1 n.2) ++
      (g.nodesOfKind .root).flatMap fun n ↦ [(n, .origin)])

theorem map_ruleEntries_perm (m : Metrics α) (g : Graph) :
    ((ruleEntries m g).map Prod.fst).Perm (ruledNodes g) := by
  have hroots : ((g.nodesOfKind .root).flatMap fun n ↦ [(n, Rule.origin)]).map Prod.fst =
      g.nodesOfKind .root := by
    rw [List.map_flatMap]
    exact (List.flatMap_pure_eq_map _ _).trans (List.map_id _)
  rw [ruleEntries, List.map_append, List.map_append, hroots]
  exact (map_goalEntries_perm g).append ((map_flatMap_systemEntries_perm _ _).append_right _)

theorem mem_ids_of_mem_ruledNodes (m : Metrics α) {n : Node} (hn : n ∈ ruledNodes g) :
    n.id ∈ ids (ruleEntries m g) := by
  obtain ⟨e, he, rfl⟩ := List.mem_map.mp ((map_ruleEntries_perm m g).mem_iff.mpr hn)
  exact List.mem_map_of_mem he

theorem mem_nodes_of_mem_ruleEntries {e : Node × Rule} (he : e ∈ ruleEntries m g) :
    e.1 ∈ g.nodes :=
  mem_nodes_of_mem_ruledNodes ((map_ruleEntries_perm m g).mem_iff.mp (List.mem_map_of_mem he))

theorem mem_ids_iff (hnodes : (g.nodes.map (·.id)).Nodup) {es : List (Node × Rule)} {n : Node}
    (hes : ∀ e ∈ es, e.1 ∈ g.nodes) (hn : n ∈ g.nodes) : n.id ∈ ids es ↔ n ∈ es.map Prod.fst := by
  constructor
  · intro hid
    obtain ⟨e, he, hid⟩ := List.mem_map.mp hid
    rw [← List.inj_on_of_nodup_map hnodes (hes e he) hn hid]
    exact List.mem_map_of_mem he
  · intro hn
    obtain ⟨e, he, rfl⟩ := List.mem_map.mp hn
    exact List.mem_map_of_mem he

theorem nodup_ids_of_perm (hnodes : (g.nodes.map (·.id)).Nodup) {es : List (Node × Rule)}
    {nodes : List Node} (hperm : (es.map Prod.fst).Perm nodes) (hnodup : nodes.Nodup)
    (hsub : nodes ⊆ g.nodes) : (ids es).Nodup := by
  have hids := hperm.map (·.id)
  rw [List.map_map] at hids
  exact hids.nodup_iff.mpr (hnodup.map_on fun n hn n' hn' ↦
    List.inj_on_of_nodup_map hnodes (hsub hn) (hsub hn'))

theorem nodup_ids_ruleEntries (hnodes : (g.nodes.map (·.id)).Nodup) :
    (ids (ruleEntries m g)).Nodup :=
  nodup_ids_of_perm hnodes (map_ruleEntries_perm m g) (nodup_ruledNodes hnodes)
    fun _ ↦ mem_nodes_of_mem_ruledNodes

theorem does_placeRoots : Does (α := α) (fun _ ↦ True) (Checked.placeRoots g) (placeRoots g)
    ((g.nodesOfKind .root).flatMap fun n ↦ [(n, .origin)]) :=
  .foldlM fun n _ ↦ .mono (.putNew .origin n _) fun _ _ ↦ trivial

theorem does_rules (hnodes : (g.nodes.map (·.id)).Nodup) :
    Does (fun _ ↦ True) (Checked.placeByRules m g) (placeByRules m g) (ruleEntries m g) :=
  does_placeGoals.bind ((does_placeSystems hnodes).bind does_placeRoots)

end TwinDiagram.Layout
