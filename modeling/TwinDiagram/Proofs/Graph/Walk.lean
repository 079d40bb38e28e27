import Mathlib.Data.List.Induction
import TwinDiagram.Graph.Basic
import TwinDiagram.Model.Basic

namespace TwinDiagram.Graph

def Within : NodeKind → NodeKind → Prop
  | .root, _ => False
  | .system, k => k = .root
  | .digitalTwin, k => k = .system
  | .part, k => k = .system
  | .port, k => k = .digitalTwin ∨ k = .part
  | .goal, k => k = .root

/-- A declaration, with the names of what it is in. -/
inductive Item where
  | root (m : Model)
  | system (s : System)
  | digitalTwin (home : String) (t : Twin)
  | part (home : String) (t : Twin)
  | port (home : String) (ownerKind : NodeKind) (owner name : String)
  | goal (g : Goal)
deriving DecidableEq, Repr

namespace Item

def kind : Item → NodeKind
  | root _ => .root
  | system _ => .system
  | digitalTwin _ _ => .digitalTwin
  | part _ _ => .part
  | port _ _ _ _ => .port
  | goal _ => .goal

def label : Item → String
  | root m => m.name
  | system s => s.name
  | digitalTwin _ t => t.name
  | part _ t => t.name
  | port _ _ _ name => name
  | goal g => g.name

/-- The names that tell a declaration from others of its kind, outermost first. -/
def names : Item → List String
  | root _ => []
  | system s => [s.name]
  | digitalTwin home t => [home, t.name]
  | part home t => [home, t.name]
  | port home ownerKind owner name => [home, ownerKind.tag, owner, name]
  | goal g => [g.name]

def children : Item → List Item
  | root m => m.systems.map system ++ m.goals.map goal
  | system s => s.digitalTwins.map (digitalTwin s.name) ++ s.parts.map (part s.name)
  | digitalTwin home t => t.ports.map (port home .digitalTwin t.name)
  | part home t => t.ports.map (port home .part t.name)
  | port _ _ _ _ => []
  | goal _ => []

def system? : Item → Option System
  | system s => some s
  | _ => none

/-- Two declarations of one kind under the same names. -/
def Same (i j : Item) : Prop := i.kind = j.kind ∧ i.names = j.names

def Inner (i : Item) : Prop := i.kind ≠ .root ∧ i.kind ≠ .system

theorem inner_children {i j : Item} (hi : i.Inner) (hj : j ∈ i.children) : j.Inner := by
  cases i with
  | root m => exact absurd rfl hi.1
  | system s => exact absurd rfl hi.2
  | digitalTwin home t | part home t =>
    obtain ⟨p, -, rfl⟩ := List.mem_map.mp hj
    exact ⟨by simp [kind], by simp [kind]⟩
  | port | goal => cases hj

theorem system?_of_inner {i : Item} (h : i.Inner) : i.system? = none := by
  cases i with
  | system s => exact absurd rfl h.2
  | _ => rfl

theorem within_children {i j : Item} (h : j ∈ i.children) : Within j.kind i.kind := by
  cases i with
  | root m | system s =>
    rcases List.mem_append.mp h with h | h <;> obtain ⟨x, -, rfl⟩ := List.mem_map.mp h <;> rfl
  | digitalTwin home t =>
    obtain ⟨p, -, rfl⟩ := List.mem_map.mp h
    exact .inl rfl
  | part home t =>
    obtain ⟨p, -, rfl⟩ := List.mem_map.mp h
    exact .inr rfl
  | port | goal => cases h

theorem kind_ne_root_of_mem_children {i j : Item} (h : j ∈ i.children) : j.kind ≠ .root := by
  intro hj
  have hwithin := within_children h
  rw [hj] at hwithin
  exact hwithin

end Item

structure Visit where
  item : Item
  kept : Bool
deriving DecidableEq, Repr

def kept (vs : List Visit) : List Item := (vs.filter (·.kept)).map Visit.item

def dropped (vs : List Visit) : List Item := (vs.filter (! ·.kept)).map Visit.item

/-- The visits that are made when these declarations are to be visited. -/
inductive Walks : List Item → List Visit → Prop
  | nil : Walks [] []
  | kept {i : Item} {is : List Item} {vs : List Visit} :
      Walks (i.children ++ is) vs → Walks (i :: is) (⟨i, true⟩ :: vs)
  | dropped {i : Item} {is : List Item} {vs : List Visit} :
      Walks is vs → Walks (i :: is) (⟨i, false⟩ :: vs)

/-- A visit is kept unless an earlier kept one is the same. -/
def Decided (same : Item → Item → Prop) (vs : List Visit) : Prop :=
  ∀ before v behind, vs = before ++ v :: behind →
    (v.kept ↔ ∀ u ∈ before, u.kept → ¬ same u.item v.item)

variable {i : Item} {is js : List Item} {u v : Visit} {vs ws before behind : List Visit}
  {same same' : Item → Item → Prop}

theorem mem_kept : i ∈ kept vs ↔ ⟨i, true⟩ ∈ vs := by
  simp only [kept, List.mem_map, List.mem_filter]
  constructor
  · rintro ⟨⟨j, k⟩, ⟨hmem, rfl⟩, rfl⟩
    exact hmem
  · intro hmem
    exact ⟨_, ⟨hmem, rfl⟩, rfl⟩

theorem exists_of_kept_eq_append (h : kept vs = is ++ i :: js) :
    ∃ before behind, vs = before ++ ⟨i, true⟩ :: behind ∧ kept before = is := by
  obtain ⟨us, ws, hvs, rfl, hws⟩ := List.map_eq_append_iff.mp h
  obtain ⟨v, ws', rfl, rfl, -⟩ := List.map_eq_cons_iff.mp hws
  obtain ⟨before, rest, rfl, rfl, hrest⟩ := List.filter_eq_append_iff.mp hvs
  obtain ⟨skipped, behind, rfl, hskipped, hv, -⟩ := List.filter_eq_cons_iff.mp hrest
  have hnone : skipped.filter (·.kept) = [] := List.filter_eq_nil_iff.mpr hskipped
  refine ⟨before ++ skipped, behind, ?_, ?_⟩
  · rw [List.append_assoc]
    cases v
    cases hv
    rfl
  · rw [kept, List.filter_append, hnone, List.append_nil]

theorem kept_append (vs ws : List Visit) : kept (vs ++ ws) = kept vs ++ kept ws := by
  simp [kept]

theorem dropped_append (vs ws : List Visit) : dropped (vs ++ ws) = dropped vs ++ dropped ws := by
  simp [dropped]

namespace Walks

theorem append (h : Walks is vs) (h' : Walks js ws) : Walks (is ++ js) (vs ++ ws) := by
  induction h with
  | nil => exact h'
  | kept _ ih => exact .kept (by rwa [List.append_assoc] at ih)
  | dropped _ ih => exact .dropped ih

theorem forall_mem {P : Item → Prop} (h : Walks is vs) (his : ∀ i ∈ is, P i)
    (hP : ∀ {i j}, P i → j ∈ i.children → P j) : ∀ v ∈ vs, P v.item := by
  induction h with
  | nil => exact List.forall_mem_nil _
  | kept _ ih =>
    obtain ⟨hi, his⟩ := List.forall_mem_cons.mp his
    refine List.forall_mem_cons.mpr ⟨hi, ih fun j hj ↦ ?_⟩
    exact (List.mem_append.mp hj).elim (hP hi) (his j)
  | dropped _ ih =>
    obtain ⟨hi, his⟩ := List.forall_mem_cons.mp his
    exact List.forall_mem_cons.mpr ⟨hi, ih his⟩

theorem tail (h : Walks is (v :: vs)) :
    ∃ js, is = v.item :: js ∧ Walks ((if v.kept then v.item.children else []) ++ js) vs := by
  cases h with
  | kept h => exact ⟨_, rfl, h⟩
  | dropped h => exact ⟨_, rfl, h⟩

/-- A declaration is visited because it is one to start with, or in one that was kept before. -/
theorem mem_or_mem_children (h : Walks is (before ++ v :: behind)) :
    v.item ∈ is ∨ ∃ i ∈ Graph.kept before, v.item ∈ i.children := by
  induction before generalizing is with
  | nil =>
    obtain ⟨js, rfl, -⟩ := h.tail
    exact .inl (.head _)
  | cons u before ih =>
    obtain ⟨js, rfl, htail⟩ := h.tail
    rcases ih htail with hmem | ⟨i, hi, hmem⟩
    · rcases List.mem_append.mp hmem with hmem | hmem
      · split at hmem
        · next hu => exact .inr ⟨u.item, mem_kept.mpr (hu ▸ .head _), hmem⟩
        · cases hmem
      · exact .inl (.tail _ hmem)
    · exact .inr ⟨i, mem_kept.mpr (.tail _ (mem_kept.mp hi)), hmem⟩

end Walks

namespace Decided

theorem nil : Decided same [] := by
  intro before v behind h
  simp at h

theorem concat (h : Decided same vs) (hv : v.kept ↔ ∀ i ∈ kept vs, ¬ same i v.item) :
    Decided same (vs ++ [v]) := by
  intro before w behind heq
  rcases List.eq_nil_or_concat behind with rfl | ⟨behind, x, rfl⟩
  · obtain ⟨rfl, hw⟩ := List.append_inj' heq rfl
    obtain ⟨rfl, -⟩ := List.cons.inj hw
    rw [hv]
    constructor
    · rintro hall ⟨i, k⟩ hu rfl
      exact hall i (mem_kept.mpr hu)
    · intro hall i hi
      exact hall _ (mem_kept.mp hi) rfl
  · rw [List.concat_eq_append, ← List.cons_append, ← List.append_assoc] at heq
    obtain ⟨rfl, -⟩ := List.append_inj' heq rfl
    exact h before w behind rfl

theorem dropped_iff (h : Decided same vs) (hvs : vs = before ++ v :: behind) :
    v.kept = false ↔ ∃ i ∈ kept before, same i v.item := by
  rw [← Bool.not_eq_true, h before v behind hvs]
  simp only [not_forall, not_not, mem_kept]
  constructor
  · rintro ⟨⟨i, _⟩, hmem, rfl, hsame⟩
    exact ⟨i, hmem, hsame⟩
  · rintro ⟨i, hmem, hsame⟩
    exact ⟨_, hmem, rfl, hsame⟩

theorem congr (h : Decided same vs)
    (heq : ∀ u ∈ vs, ∀ v ∈ vs, (same u.item v.item ↔ same' u.item v.item)) : Decided same' vs := by
  rintro before v behind rfl
  rw [h before v behind rfl]
  refine forall₂_congr fun u hu ↦ ?_
  rw [heq u (List.mem_append_left _ hu) v (by simp)]

theorem of_concat (h : Decided same (vs ++ [v])) : Decided same vs := by
  rintro before w behind rfl
  exact h before w (behind ++ [v]) (by simp)

theorem pairwise (h : Decided same vs) : (kept vs).Pairwise fun i j ↦ ¬ same i j := by
  induction vs using List.reverseRecOn with
  | nil => exact .nil
  | append_singleton vs v ih =>
    rw [kept_append, List.pairwise_append]
    refine ⟨ih h.of_concat, by cases v with | mk i k => cases k <;> simp [kept], fun i hi j hj ↦ ?_⟩
    obtain rfl : v = ⟨j, true⟩ := (List.mem_singleton.mp (mem_kept.mp hj)).symm
    exact (h vs _ [] rfl).mp rfl _ (mem_kept.mp hi) rfl

theorem kept_of_cons (h : Decided same (v :: vs)) : v.kept :=
  (h [] v vs rfl).mpr (List.forall_mem_nil _)

end Decided

end TwinDiagram.Graph
