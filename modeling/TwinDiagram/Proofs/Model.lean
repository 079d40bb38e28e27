import Mathlib.Data.List.Forall2
import TwinDiagram.Model.Basic

namespace TwinDiagram

section Start

variable {α : Type} {R : α → α → Prop}

inductive Begins (R : α → α → Prop) : List α → List α → Prop
  | nil (ys : List α) : Begins R [] ys
  | last {x y : α} (h : R x y) (ys : List α) : Begins R [x] (y :: ys)
  | cons (x : α) {xs ys : List α} (h : Begins R xs ys) : Begins R (x :: xs) (x :: ys)

namespace Begins

theorem refl : (xs : List α) → Begins R xs xs
  | [] => .nil []
  | x :: xs => .cons x (refl xs)

theorem trans (hR : ∀ {a b c}, R a b → R b c → R a c) {xs ys zs : List α} (h : Begins R xs ys)
    (h' : Begins R ys zs) : Begins R xs zs := by
  induction h generalizing zs with
  | nil => exact .nil zs
  | last h =>
    cases h' with
    | last h' => exact .last (hR h h') _
    | cons => exact .last h _
  | cons x h ih =>
    cases h' with
    | last h' => cases h; exact .last h' _
    | cons _ h' => exact .cons x (ih h')

theorem eq_nil {xs : List α} (h : Begins R xs []) : xs = [] := by
  cases h
  rfl

theorem concat (xs : List α) {x y : α} (h : R x y) : Begins R (xs ++ [x]) (xs ++ [y]) := by
  induction xs with
  | nil => exact .last h []
  | cons z xs ih => exact .cons z ih

theorem append (xs ys : List α) : Begins R xs (xs ++ ys) := by
  induction xs with
  | nil => exact .nil ys
  | cons x xs ih => exact .cons x ih

end Begins

inductive Lacks (R : α → α → Prop) : Option α → Option α → Prop
  | none (y : Option α) : Lacks R none y
  | some {x y : α} (h : R x y) : Lacks R (some x) (some y)

namespace Lacks

theorem refl (hR : ∀ a, R a a) : (x : Option α) → Lacks R x x
  | .none => .none _
  | .some a => .some (hR a)

theorem trans (hR : ∀ {a b c}, R a b → R b c → R a c) {x y z : Option α} (h : Lacks R x y)
    (h' : Lacks R y z) : Lacks R x z := by
  cases h with
  | none => exact .none z
  | some h =>
    cases h' with
    | some h' => exact .some (hR h h')

theorem eq_none {x : Option α} (h : Lacks R x .none) : x = .none := by
  cases h
  rfl

theorem join {x y : Option (Option α)} (h : Lacks (Lacks R) x y) : Lacks R x.join y.join := by
  cases h with
  | none => exact .none _
  | some h => exact h

end Lacks

structure Twin.IsStart (t u : Twin) : Prop where
  name : t.name = u.name
  ports : t.ports <+: u.ports

structure Connection.IsStart (c d : Connection) : Prop where
  source : c.source = d.source
  target : c.target = d.target
  name : Lacks Eq c.name d.name

structure Goal.IsStart (g h : Goal) : Prop where
  name : g.name = h.name
  doc : Lacks Eq g.doc h.doc

structure System.IsStart (s t : System) : Prop where
  name : s.name = t.name
  digitalTwins : Begins Twin.IsStart s.digitalTwins t.digitalTwins
  parts : Begins Twin.IsStart s.parts t.parts
  connections : Begins Connection.IsStart s.connections t.connections

structure Slice.IsStart (s t : Slice) : Prop where
  systems : Lacks (Begins System.IsStart) s.systems t.systems
  goals : Lacks (Begins Goal.IsStart) s.goals t.goals
  allocations : Lacks List.IsPrefix s.allocations t.allocations

structure Transform.IsStart (t u : Transform) : Prop where
  before : Lacks Slice.IsStart t.before u.before
  core : Lacks Slice.IsStart t.core u.core
  after : Lacks Slice.IsStart t.after u.after

structure Model.IsStart (m n : Model) : Prop where
  name : m.name = n.name
  systems : Begins System.IsStart m.systems n.systems
  goals : Begins Goal.IsStart m.goals n.goals
  allocations : m.allocations <+: n.allocations
  transform : Lacks Transform.IsStart m.transform n.transform

theorem Twin.IsStart.trans {t u v : Twin} (h : t.IsStart u) (h' : u.IsStart v) : t.IsStart v :=
  ⟨h.name.trans h'.name, h.ports.trans h'.ports⟩

theorem Connection.IsStart.trans {c d e : Connection} (h : c.IsStart d) (h' : d.IsStart e) :
    c.IsStart e :=
  ⟨h.source.trans h'.source, h.target.trans h'.target,
    Lacks.trans (R := Eq) Eq.trans h.name h'.name⟩

theorem Goal.IsStart.trans {g h i : Goal} (hg : g.IsStart h) (hh : h.IsStart i) : g.IsStart i :=
  ⟨hg.name.trans hh.name, Lacks.trans (R := Eq) Eq.trans hg.doc hh.doc⟩

namespace System.IsStart

theorem refl (s : System) : s.IsStart s := ⟨rfl, .refl _, .refl _, .refl _⟩

theorem trans {s t u : System} (h : s.IsStart t) (h' : t.IsStart u) : s.IsStart u :=
  ⟨h.name.trans h'.name, h.digitalTwins.trans .trans h'.digitalTwins,
    h.parts.trans .trans h'.parts, h.connections.trans .trans h'.connections⟩

end System.IsStart

namespace Slice.IsStart

theorem refl (s : Slice) : s.IsStart s :=
  ⟨.refl .refl _, .refl .refl _, .refl List.prefix_refl _⟩

theorem trans {s t u : Slice} (h : s.IsStart t) (h' : t.IsStart u) : s.IsStart u :=
  ⟨h.systems.trans (.trans .trans) h'.systems, h.goals.trans (.trans .trans) h'.goals,
    Lacks.trans (R := List.IsPrefix) List.IsPrefix.trans h.allocations h'.allocations⟩

end Slice.IsStart

namespace Transform.IsStart

theorem refl (t : Transform) : t.IsStart t := ⟨.refl .refl _, .refl .refl _, .refl .refl _⟩

theorem trans {t u v : Transform} (h : t.IsStart u) (h' : u.IsStart v) : t.IsStart v :=
  ⟨h.before.trans .trans h'.before, h.core.trans .trans h'.core, h.after.trans .trans h'.after⟩

theorem slices_isEmpty {t u : Transform} (h : t.IsStart u) (hu : u.slices.isEmpty) :
    t.slices.isEmpty := by
  obtain ⟨hbefore, hcore, hafter⟩ := h
  cases t
  cases u
  simp only [Transform.slices, List.isEmpty_iff, List.filterMap_eq_nil_iff, List.forall_mem_cons,
    Option.map_eq_none_iff] at hu ⊢
  obtain ⟨hb, hc, ha, -⟩ := hu
  exact ⟨(hb ▸ hbefore).eq_none, (hc ▸ hcore).eq_none, (ha ▸ hafter).eq_none, nofun⟩

end Transform.IsStart

theorem Model.IsStart.refl (m : Model) : m.IsStart m :=
  ⟨rfl, .refl _, .refl _, List.prefix_refl _, .refl .refl _⟩

end Start

section Spelling

variable (f : String → String)

def Twin.respell (t : Twin) : Twin := ⟨f t.name, t.ports.map f⟩

def Connection.respell (c : Connection) : Connection := ⟨f c.source, f c.target, c.name.map f⟩

def Goal.respell (g : Goal) : Goal := ⟨f g.name, g.doc.map f⟩

def Allocation.respell (a : Allocation) : Allocation := ⟨f a.goal, f a.target⟩

def System.respell (s : System) : System :=
  ⟨f s.name, s.digitalTwins.map (·.respell f), s.parts.map (·.respell f),
    s.connections.map (·.respell f)⟩

def Slice.respell (s : Slice) : Slice :=
  ⟨s.systems.map (·.map (·.respell f)), s.goals.map (·.map (·.respell f)),
    s.allocations.map (·.map (·.respell f))⟩

def Transform.respell (t : Transform) : Transform :=
  ⟨t.before.map (·.respell f), t.core.map (·.respell f), t.after.map (·.respell f)⟩

def Model.respell (m : Model) : Model :=
  ⟨f m.name, m.systems.map (·.respell f), m.goals.map (·.respell f),
    m.allocations.map (·.respell f), m.transform.map (·.respell f)⟩

theorem Twin.respell_id : Twin.respell id = id := by
  funext t
  simp [respell]

theorem Connection.respell_id : Connection.respell id = id := by
  funext c
  simp [respell]

theorem Goal.respell_id : Goal.respell id = id := by
  funext g
  simp [respell]

theorem Allocation.respell_id : Allocation.respell id = id := rfl

theorem System.respell_id : System.respell id = id := by
  funext s
  simp [respell, Twin.respell_id, Connection.respell_id]

theorem Slice.respell_id : Slice.respell id = id := by
  funext s
  simp [respell, System.respell_id, Goal.respell_id, Allocation.respell_id]

theorem Transform.respell_id : Transform.respell id = id := by
  funext t
  simp [respell, Slice.respell_id]

theorem Model.respell_id (m : Model) : m.respell id = m := by
  simp [respell, System.respell_id, Goal.respell_id, Allocation.respell_id, Transform.respell_id]

theorem Transform.isEmpty_slices_respell (t : Transform) :
    (t.respell f).slices.isEmpty = t.slices.isEmpty := by
  obtain ⟨b, c, a⟩ := t
  cases b <;> cases c <;> cases a <;> rfl

end Spelling

section Reordered

variable {α β γ : Type} {R : α → β → Prop} {xs xs' : List α} {ys ys' : List β}

/-- The members are related one by one, but they may come in another order. -/
def Reordered (R : α → β → Prop) (xs : List α) (ys : List β) : Prop :=
  ∃ zs, List.Forall₂ R xs zs ∧ zs.Perm ys

namespace Reordered

theorem of_perm {R : α → α → Prop} (hR : ∀ x, R x x) (h : xs.Perm xs') : Reordered R xs xs' :=
  ⟨xs, List.forall₂_same.mpr fun x _ ↦ hR x, h⟩

theorem append (h : Reordered R xs ys) (h' : Reordered R xs' ys') :
    Reordered R (xs ++ xs') (ys ++ ys') := by
  obtain ⟨zs, hzs, hperm⟩ := h
  obtain ⟨zs', hzs', hperm'⟩ := h'
  exact ⟨zs ++ zs', List.rel_append hzs hzs', hperm.append hperm'⟩

theorem map {α' β' : Type} {S : α' → β' → Prop} {f : α → α'} {g : β → β'} (h : Reordered R xs ys)
    (hfg : ∀ {x y}, R x y → S (f x) (g y)) : Reordered S (xs.map f) (ys.map g) := by
  obtain ⟨zs, hzs, hperm⟩ := h
  refine ⟨zs.map g, ?_, hperm.map g⟩
  rw [List.forall₂_map_left_iff, List.forall₂_map_right_iff]
  exact hzs.imp fun _ _ ↦ hfg

theorem flatMap {f : α → List γ} {g : β → List γ} (h : Reordered R xs ys)
    (hfg : ∀ {x y}, R x y → (f x).Perm (g y)) : (xs.flatMap f).Perm (ys.flatMap g) := by
  obtain ⟨zs, hzs, hperm⟩ := h
  refine .trans ?_ (hperm.flatMap_right g)
  clear hperm
  induction hzs with
  | nil => exact .nil
  | cons hxy _ ih => exact (hfg hxy).append ih

theorem forall_mem {P : α → Prop} {Q : β → Prop} (h : Reordered R xs ys) (hxs : ∀ x ∈ xs, P x)
    (hR : ∀ {x y}, R x y → P x → Q y) : ∀ y ∈ ys, Q y := by
  obtain ⟨zs, hzs, hperm⟩ := h
  intro y hy
  replace hy := hperm.mem_iff.mpr hy
  clear hperm
  induction hzs with
  | nil => cases hy
  | cons hxy _ ih =>
    obtain ⟨hx, hxs⟩ := List.forall_mem_cons.mp hxs
    rcases List.mem_cons.mp hy with rfl | hy
    · exact hR hxy hx
    · exact ih hxs hy

end Reordered

end Reordered

structure Twin.Shuffled (t u : Twin) : Prop where
  name : t.name = u.name
  ports : t.ports.Perm u.ports

structure System.Shuffled (s t : System) : Prop where
  name : s.name = t.name
  digitalTwins : Reordered Twin.Shuffled s.digitalTwins t.digitalTwins
  parts : Reordered Twin.Shuffled s.parts t.parts
  connections : s.connections.Perm t.connections

/-- The order is another one at any level. -/
structure Model.Shuffled (m n : Model) : Prop where
  name : m.name = n.name
  systems : Reordered System.Shuffled m.systems n.systems
  goals : m.goals.Perm n.goals
  allocations : m.allocations.Perm n.allocations
  transform : m.transform = n.transform

end TwinDiagram
