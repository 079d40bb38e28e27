import Mathlib.Data.List.Flatten
import TwinDiagram.Proofs.Graph.Account
import TwinDiagram.Proofs.Model

namespace TwinDiagram

def NodeKind.height : NodeKind → Nat
  | .root => 3
  | .system => 2
  | .digitalTwin => 1
  | .part => 1
  | .port => 0
  | .goal => 0

namespace Graph

theorem height_lt_of_within {k l : NodeKind} (h : Within k l) : k.height < l.height := by
  cases k with
  | root => cases h
  | system | digitalTwin | part | goal =>
    cases h
    decide
  | port => rcases h with rfl | rfl <;> decide

namespace Item

def listing (i : Item) : List Item := i :: i.children.attach.flatMap fun j ↦ listing j.1
termination_by i.kind.height
decreasing_by exact height_lt_of_within (within_children j.2)

theorem listing_eq (i : Item) : i.listing = i :: i.children.flatMap listing := by
  have hattach := i.children.attach.flatMap_map Subtype.val listing
  rw [List.attach_map_subtype_val] at hattach
  rw [listing, hattach]

theorem forall_mem_listing {P : Item → Prop} (hP : ∀ {i j}, P i → j ∈ i.children → P j) {i : Item}
    (hi : P i) : ∀ j ∈ i.listing, P j := by
  rw [listing_eq]
  refine List.forall_mem_cons.mpr ⟨hi, fun j hj ↦ ?_⟩
  obtain ⟨k, hk, hj⟩ := List.mem_flatMap.mp hj
  exact forall_mem_listing hP (hP hi hk) j hj
termination_by i.kind.height
decreasing_by exact height_lt_of_within (within_children hk)

end Item

variable {is : List Item} {vs : List Visit}

theorem Walks.sublist (h : Walks is vs) :
    (vs.map Visit.item).Sublist (is.flatMap Item.listing) := by
  induction h with
  | nil => exact .slnil
  | @kept i is vs _ ih =>
    rw [List.flatMap_cons, Item.listing_eq, List.cons_append, ← List.flatMap_append]
    exact ih.cons_cons i
  | @dropped i is vs _ ih =>
    rw [List.flatMap_cons, Item.listing_eq, List.cons_append]
    exact (ih.trans (List.sublist_append_right _ _)).cons_cons i

theorem Walks.eq_of_kept (h : Walks is vs) (hvs : ∀ v ∈ vs, v.kept) :
    vs.map Visit.item = is.flatMap Item.listing := by
  induction h with
  | nil => rfl
  | kept _ ih =>
    rw [List.flatMap_cons, Item.listing_eq, List.cons_append, ← List.flatMap_append, List.map_cons,
      ih (List.forall_mem_cons.mp hvs).2]
  | dropped => cases hvs _ (.head _)

/-- What is kept is held by what is kept of the declarations to start with. -/
theorem Walks.exists_roots (h : Walks is vs) :
    ∃ js : List Item, js.Sublist is ∧ js.Sublist (Graph.kept vs) ∧
      (Graph.kept vs).Sublist (js.flatMap Item.listing) := by
  induction h with
  | nil => exact ⟨[], .slnil, .slnil, .slnil⟩
  | @kept i is vs _ ih =>
    obtain ⟨js', hjs, hkept, hall⟩ := ih
    obtain ⟨cs, js, rfl, hcs, hjs⟩ := List.sublist_append_iff.mp hjs
    rw [List.flatMap_append] at hall
    refine ⟨i :: js, hjs.cons_cons i, ?_, ?_⟩
    · exact ((List.sublist_append_right cs js).trans hkept).cons_cons i
    · rw [List.flatMap_cons, Item.listing_eq, List.cons_append]
      exact (hall.trans ((hcs.flatMap _).append_right _)).cons_cons i
  | @dropped i is vs _ ih =>
    obtain ⟨js, hjs, hkept, hall⟩ := ih
    exact ⟨js, hjs.cons i, hkept, hall⟩

theorem kept_eq_of_forall (hvs : ∀ v ∈ vs, v.kept) : kept vs = vs.map Visit.item := by
  rw [kept, List.filter_eq_self.mpr hvs]

theorem Decided.kept_of_pairwise {same : Item → Item → Prop} (h : Decided same vs)
    (hvs : (vs.map Visit.item).Pairwise fun i j ↦ ¬ same i j) : ∀ v ∈ vs, v.kept := by
  intro v hv
  obtain ⟨before, behind, rfl⟩ := List.append_of_mem hv
  apply (h before v behind rfl).mpr
  intro u hu _
  rw [List.map_append, List.pairwise_append] at hvs
  exact hvs.2.2 _ (List.mem_map_of_mem hu) _ (.head _)

section Order

namespace Item

def home? : Item → Option String
  | system s => some s.name
  | digitalTwin home _ => some home
  | part home _ => some home
  | port home _ _ _ => some home
  | root _ => none
  | goal _ => none

def side? : Item → Option NodeKind
  | digitalTwin _ _ => some .digitalTwin
  | part _ _ => some .part
  | port _ ownerKind _ _ => some ownerKind
  | root _ => none
  | system _ => none
  | goal _ => none

/-- What belongs to digital twins of a system comes before what belongs to parts of it. -/
def Precedes (i j : Item) : Prop :=
  i.home? = j.home? → i.side? = j.side? ∨ i.side? = none ∨ i.side? = some .digitalTwin

theorem home?_of_mem_children {i j : Item} {home : String} (hi : i.home? = some home)
    (hj : j ∈ i.children) : j.home? = some home := by
  cases i with
  | system s =>
    rcases List.mem_append.mp hj with hj | hj <;>
      obtain ⟨t, -, rfl⟩ := List.mem_map.mp hj <;> exact hi
  | digitalTwin _ t | part _ t =>
    obtain ⟨p, -, rfl⟩ := List.mem_map.mp hj
    exact hi
  | port => cases hj
  | root | goal => cases hi

theorem side?_of_mem_children {i j : Item} {k : NodeKind} (hi : i.side? = some k)
    (hj : j ∈ i.children) : j.side? = some k := by
  cases i with
  | digitalTwin _ t | part _ t =>
    obtain ⟨p, -, rfl⟩ := List.mem_map.mp hj
    exact hi
  | port => cases hj
  | root | system | goal => cases hi

theorem side?_of_mem_flatMap {is : List Item} {k : NodeKind} (his : ∀ i ∈ is, i.side? = some k) :
    ∀ j ∈ is.flatMap listing, j.side? = some k := by
  intro j hj
  obtain ⟨i, hi, hj⟩ := List.mem_flatMap.mp hj
  exact forall_mem_listing (P := fun j ↦ j.side? = some k) side?_of_mem_children (his i hi) j hj

theorem pairwise_of_side? {is : List Item} {k : NodeKind} (his : ∀ i ∈ is, i.side? = some k) :
    is.Pairwise Precedes :=
  List.pairwise_of_forall_mem_list fun i hi j hj _ ↦ .inl ((his i hi).trans (his j hj).symm)

theorem precedes_system (s : System) : (listing (.system s)).Pairwise Precedes := by
  rw [listing_eq, List.pairwise_cons]
  refine ⟨fun _ _ _ ↦ .inr (.inl rfl), ?_⟩
  have htwins : ∀ i ∈ (s.digitalTwins.map (digitalTwin s.name)).flatMap listing,
      i.side? = some .digitalTwin := side?_of_mem_flatMap (by simp [side?])
  have hparts : ∀ i ∈ (s.parts.map (part s.name)).flatMap listing, i.side? = some .part :=
    side?_of_mem_flatMap (by simp [side?])
  rw [children, List.flatMap_append, List.pairwise_append]
  exact ⟨pairwise_of_side? htwins, pairwise_of_side? hparts,
    fun i hi _ _ _ ↦ .inr (.inr (htwins i hi))⟩

theorem precedes_forest {systems : List System} (goals : List Goal)
    (hsystems : (systems.map System.name).Nodup) :
    ((systems.map system ++ goals.map goal).flatMap listing).Pairwise Precedes := by
  have hhome {s : System} : ∀ j ∈ listing (.system s), j.home? = some s.name :=
    forall_mem_listing (P := fun j ↦ j.home? = some s.name) home?_of_mem_children rfl
  have hgoals : ∀ i ∈ (goals.map goal).flatMap listing, ∃ g, i = goal g := by
    intro i hi
    obtain ⟨_, hg, hi⟩ := List.mem_flatMap.mp hi
    obtain ⟨g, -, rfl⟩ := List.mem_map.mp hg
    rw [listing_eq] at hi
    exact ⟨g, List.mem_singleton.mp hi⟩
  rw [List.flatMap_append, List.pairwise_append]
  refine ⟨?_, ?_, ?_⟩
  · rw [List.flatMap_map, List.pairwise_flatMap]
    refine ⟨fun s _ ↦ precedes_system s,
      (List.pairwise_map.mp hsystems).imp fun {s t} hst i hi j hj hij ↦ ?_⟩
    rw [hhome i hi, hhome j hj] at hij
    exact absurd (Option.some.inj hij) hst
  · apply List.pairwise_of_forall_mem_list
    intro i hi j _ _
    obtain ⟨g, rfl⟩ := hgoals i hi
    exact .inr (.inl rfl)
  · intro i hi j hj hij
    obtain ⟨_, hs, hi⟩ := List.mem_flatMap.mp hi
    obtain ⟨s, -, rfl⟩ := List.mem_map.mp hs
    obtain ⟨g, rfl⟩ := hgoals j hj
    cases (hhome i hi).symm.trans hij

theorem precedes_listing {m : Model} (hm : (m.systems.map System.name).Nodup) :
    (listing (.root m)).Pairwise Precedes := by
  rw [listing_eq, List.pairwise_cons]
  exact ⟨fun _ _ _ ↦ .inr (.inl rfl), precedes_forest m.goals hm⟩

end Item

end Order

section Shuffled

namespace Item

/-- What a kept declaration leaves in the graph and the symbols. -/
def trace (root : String) (i : Item) : Node × Option Entry := (i.node root, i.entry? root)

def Alike (root : String) (i j : Item) : Prop :=
  (i.listing.map (trace root)).Perm (j.listing.map (trace root))

variable {root home : String} {i j : Item}

theorem Alike.of_children (htrace : i.trace root = j.trace root)
    (h : Reordered (Alike root) i.children j.children) : Alike root i j := by
  rw [Alike, listing_eq, listing_eq j, List.map_cons, List.map_cons, htrace, List.map_flatMap,
    List.map_flatMap]
  apply List.Perm.cons
  exact h.flatMap fun h ↦ h

theorem Alike.refl (i : Item) : Alike root i i := List.Perm.refl _

theorem Alike.nodes (h : Alike root i j) :
    (i.listing.map (node root)).Perm (j.listing.map (node root)) := by
  have hnodes := List.Perm.map Prod.fst h
  rwa [List.map_map, List.map_map] at hnodes

theorem Alike.ids (h : Alike root i j) :
    (i.listing.map (id root)).Perm (j.listing.map (id root)) := by
  have hids := h.nodes.map Node.id
  rwa [List.map_map, List.map_map] at hids

theorem Alike.entries (h : Alike root i j) :
    (i.listing.filterMap (Item.entry? root)).Perm (j.listing.filterMap (Item.entry? root)) := by
  have hentries := List.Perm.filterMap Prod.snd h
  rwa [List.filterMap_map, List.filterMap_map] at hentries

theorem alike_map {α : Type} {xs ys : List α} (f : α → Item) (h : xs.Perm ys) :
    Reordered (Alike root) (xs.map f) (ys.map f) := .of_perm Alike.refl (h.map f)

theorem alike_digitalTwin {t u : Twin} (h : t.Shuffled u) :
    Alike root (.digitalTwin home t) (.digitalTwin home u) := by
  obtain ⟨name, ports⟩ := t
  obtain ⟨rfl, hports⟩ := h
  apply Alike.of_children
  · rfl
  · exact alike_map _ hports

theorem alike_part {t u : Twin} (h : t.Shuffled u) : Alike root (.part home t) (.part home u) := by
  obtain ⟨name, ports⟩ := t
  obtain ⟨rfl, hports⟩ := h
  apply Alike.of_children
  · rfl
  · exact alike_map _ hports

theorem alike_system {s t : System} (h : s.Shuffled t) : Alike root (.system s) (.system t) := by
  obtain ⟨name, digitalTwins, parts, connections⟩ := s
  obtain ⟨rfl, htwins, hparts, -⟩ := h
  apply Alike.of_children
  · rfl
  · exact (htwins.map alike_digitalTwin).append (hparts.map alike_part)

theorem alike_root {m n : Model} (h : m.Shuffled n) : Alike root (.root m) (.root n) := by
  obtain ⟨name, systems, goals, allocations, transform⟩ := m
  obtain ⟨rfl, hsystems, hgoals, -, -⟩ := h
  apply Alike.of_children
  · rfl
  · exact (hsystems.map alike_system).append (alike_map _ hgoals)

end Item

end Shuffled

end Graph

end TwinDiagram
