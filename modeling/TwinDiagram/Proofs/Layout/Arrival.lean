import TwinDiagram.Proofs.Graph.WellFormed
import TwinDiagram.Proofs.Layout.Frame

namespace TwinDiagram.Layout

open Checked (ids)

variable {g : Graph} {n s d p : Node}

/-- No rule places the node. -/
def Loose (g : Graph) (n : Node) : Prop := n ∈ g.nodes ∧ n ∉ ruledNodes g

instance (g : Graph) (n : Node) : Decidable (Loose g n) := inferInstanceAs (Decidable (_ ∧ _))

/-- No node is above itself. -/
def Acyclic (g : Graph) : Prop := ∀ n, ¬ Relation.TransGen g.Parent n n

def LooseParent (g : Graph) (p n : Node) : Prop := Loose g p ∧ Loose g n ∧ n.parent? = some p.id

/-- When `d` has its place, so has `n`, which is `d` or above it. -/
def Brings (g : Graph) (d n : Node) : Prop := Loose g n ∧ Relation.ReflTransGen (LooseParent g) n d

/-- What brings `s` is listed before all that brings `n`. -/
def ComesFirst (g : Graph) (s n : Node) : Prop :=
  ∃ d, Brings g d s ∧ ∀ e, Brings g e n → g.nodes.idxOf d < g.nodes.idxOf e

/-- The loose siblings that are listed before a node. -/
def listedBefore (g : Graph) (n : Node) : List Node :=
  g.nodes.filter fun s ↦ Loose g s ∧ s.parent? = n.parent? ∧ g.nodes.idxOf s < g.nodes.idxOf n

open scoped Classical in
/-- The loose siblings that come before a node, wherever they are listed. -/
noncomputable def comeBefore (g : Graph) (n : Node) : List Node :=
  g.nodes.filter fun s ↦ Loose g s ∧ s.parent? = n.parent? ∧ ComesFirst g s n

theorem mem_comeBefore :
    s ∈ comeBefore g n ↔ Loose g s ∧ s.parent? = n.parent? ∧ ComesFirst g s n := by
  simp only [comeBefore, List.mem_filter, decide_eq_true_iff]
  exact and_iff_right_of_imp fun h ↦ h.1.1

theorem append_eq_append_cons {arrived late before behind : List Node}
    (h : arrived ++ late = before ++ n :: behind) :
    (∃ behind', arrived = before ++ n :: behind') ∨
      ∃ late', before = arrived ++ late' ∧ late = late' ++ n :: behind := by
  obtain h | ⟨behind', harrived, hbehind⟩ := List.append_eq_append_iff.mp h
  · exact .inr h
  · cases behind' with
    | nil => exact .inr ⟨[], by simpa using harrived.symm, hbehind.symm⟩
    | cons n' behind' =>
      obtain ⟨rfl, -⟩ := List.cons.inj hbehind
      exact .inl ⟨behind', harrived⟩

section Brings

theorem Loose.exists_parent (h : Loose g n) : ∃ parent, n.parent? = some parent := by
  refine Option.isSome_iff_exists.mp (Node.parent?_isSome fun hroot ↦ h.2 ?_)
  exact List.mem_append_right _ (List.mem_append_right _ (mem_nodesOfKind.mpr ⟨h.1, hroot⟩))

theorem Loose.parent?_of_find? {others : List Node} (h : Loose g n)
    (hfind : others.find? (·.id == n.parent?.getD "") = some p) : n.parent? = some p.id := by
  obtain ⟨parent, hparent⟩ := h.exists_parent
  have hid := List.find?_some hfind
  rw [hparent, Option.getD_some, beq_iff_eq] at hid
  rw [hparent, hid]

theorem brings_self (h : Loose g n) : Brings g n n := ⟨h, .refl⟩

theorem Brings.loose (h : Brings g d n) : Loose g d := by
  obtain rfl | ⟨c, -, hstep⟩ := h.2.cases_tail
  · exact h.1
  · exact hstep.2.1

theorem brings_iff_of_orphan (hn : Loose g n) (horphan : ∀ p ∈ g.nodes, n.parent? ≠ some p.id) :
    Brings g n s ↔ s = n := by
  constructor
  · intro h
    obtain heq | ⟨c, -, hstep⟩ := h.2.cases_tail
    · exact heq.symm
    · exact absurd hstep.2.2 (horphan c hstep.1.1)
  · rintro rfl
    exact brings_self hn

theorem transGen_parent (h : Relation.TransGen (LooseParent g) p n) :
    Relation.TransGen g.Parent p n := by
  refine Relation.TransGen.mono (fun _ _ hstep ↦ ?_) p n h
  exact ⟨hstep.1.1, hstep.2.1.1, hstep.2.2⟩

theorem not_brings_of_parent (hacyclic : Acyclic g) (hn : Loose g n)
    (hparent : n.parent? = some p.id) : ¬ Brings g p n := by
  intro h
  exact hacyclic n (transGen_parent (.tail' h.2 ⟨h.loose, hn, hparent⟩))

theorem eq_of_reaches_sibling (hacyclic : Acyclic g) (hs : Loose g s)
    (hsame : s.parent? = n.parent?)
    (h : Relation.ReflTransGen (LooseParent g) s n) : n = s := by
  obtain heq | ⟨c, hreach, hstep⟩ := h.cases_tail
  · exact heq
  · have hloop : Relation.TransGen (LooseParent g) s s :=
      .tail' hreach ⟨hstep.1, hs, hsame.trans hstep.2.2⟩
    exact absurd (transGen_parent hloop) (hacyclic s)

variable (hnodes : (g.nodes.map (·.id)).Nodup)
include hnodes

theorem brings_iff_of_parent (hn : Loose g n) (hp : p ∈ g.nodes) (hparent : n.parent? = some p.id) :
    Brings g n s ↔ s = n ∨ Brings g p s := by
  constructor
  · intro h
    obtain heq | ⟨c, hreach, hstep⟩ := h.2.cases_tail
    · exact .inl heq.symm
    · have hid : c.id = p.id := Option.some.inj (hstep.2.2.symm.trans hparent)
      obtain rfl := List.inj_on_of_nodup_map hnodes hstep.1.1 hp hid
      exact .inr ⟨h.1, hreach⟩
  · rintro (rfl | h)
    · exact brings_self hn
    · exact ⟨h.1, h.2.tail ⟨h.loose, hn, hparent⟩⟩

theorem mem_without_of_above (hacyclic : Acyclic g) {others : List Node}
    (hothers : others ⊆ g.nodes)
    (hp : p ∈ others) (hn : n ∈ g.nodes) (habove : Relation.TransGen g.Parent p n) :
    p ∈ without n.id others := by
  refine List.mem_filter.mpr ⟨hp, bne_iff_ne.mpr fun hsame ↦ ?_⟩
  rw [List.inj_on_of_nodup_map hnodes (hothers hp) hn hsame] at habove
  exact hacyclic n habove

theorem Brings.eq_of_sibling (hacyclic : Acyclic g) (hs : Brings g d s) (hn : Brings g d n)
    (hsame : s.parent? = n.parent?) : s = n := by
  have hunique : Relator.RightUnique (Function.swap (LooseParent g)) := fun a b c hb hc ↦
    List.inj_on_of_nodup_map hnodes hb.1.1 hc.1.1 (Option.some.inj (hb.2.2.symm.trans hc.2.2))
  have htotal := Relation.ReflTransGen.total_of_right_unique hunique
    (Relation.reflTransGen_swap.mpr hs.2) (Relation.reflTransGen_swap.mpr hn.2)
  obtain h | h := htotal
  · exact eq_of_reaches_sibling hacyclic hn.1 hsame.symm (Relation.reflTransGen_swap.mp h)
  · exact (eq_of_reaches_sibling hacyclic hs.1 hsame (Relation.reflTransGen_swap.mp h)).symm

end Brings

variable {α : Type} [Scalar α] {m : Metrics α} {f : Filling α} {arrived late others : List Node}

def gridOrigin (boxes : Boxes α) (n : Node) : Point α :=
  ((boxes.get? (n.parent?.getD "")).map Box.origin).getD ⟨Scalar.ofNat 0, Scalar.ofNat 0⟩

/-- The loose nodes with a box are those of `arrived`, each of them after its parents. The places
inside a parent have been given away in this order. -/
structure Arrived (m : Metrics α) (g : Graph) (arrived : List Node) (f : Filling α) : Prop where
  once : arrived.Nodup
  loose : ∀ n ∈ arrived, Loose g n
  boxed : ∀ id, (f.boxes.get? id).isSome ↔ id ∈ (ruledNodes g ++ arrived).map (·.id)
  parents : ∀ n ∈ arrived, ∀ p, LooseParent g p n → p ∈ arrived
  counted : ∀ parent, (f.slots.get? parent).getD 0 =
    (arrived.filter (·.parent? == some parent)).length
  placed : ∀ before n behind, arrived = before ++ n :: behind →
    f.boxes.get? n.id = some (gridBox m (gridOrigin f.boxes n)
      (before.filter (·.parent? == n.parent?)).length)

theorem gridOrigin_takeSlot (hs : Loose g s) (hother : s.parent? ≠ some n.id) (origin : Point α) :
    gridOrigin (takeSlot m n origin f).2.boxes s = gridOrigin f.boxes s := by
  obtain ⟨parent, hparent⟩ := hs.exists_parent
  have hid : parent ≠ n.id := fun h ↦ hother (h ▸ hparent)
  simp only [gridOrigin, hparent, Option.getD_some, get?_takeSlot hid]

theorem placeRemaining_of_orphan (hbox : f.boxes.get? n.id = none)
    (hfind : others.find? (·.id == n.parent?.getD "") = none)
    (hparent : f.boxes.get? (n.parent?.getD "") = none) :
    placeRemaining m others n f = takeSlot m n (gridOrigin f.boxes n) f := by
  rw [placeRemaining_eq, hbox, hfind, gridOrigin, hparent]
  rfl

theorem placeRemaining_of_parent (hbox : f.boxes.get? n.id = none)
    (hfind : others.find? (·.id == n.parent?.getD "") = some p) (hid : n.parent? = some p.id) :
    let f' := (placeRemaining m (without p.id others) p f).2
    placeRemaining m others n f = takeSlot m n (gridOrigin f'.boxes n) f' := by
  intro f'
  rw [placeRemaining_eq, hbox, hfind, gridOrigin, hid, Option.getD_some, get?_placeRemaining_self]
  rfl

namespace Arrived

variable (h : Arrived m g arrived f)
include h

theorem mem_of_brings (hd : d ∈ arrived) (hbrings : Brings g d s) : s ∈ arrived := by
  obtain ⟨-, hreach⟩ := hbrings
  induction hreach using Relation.ReflTransGen.head_induction_on with
  | refl => exact hd
  | head hstep _ ih => exact h.parents _ ih _ hstep

theorem mem_nodes (hn : n ∈ ruledNodes g ++ arrived) : n ∈ g.nodes := by
  obtain hn | hn := List.mem_append.mp hn
  · exact mem_nodes_of_mem_ruledNodes hn
  · exact (h.loose n hn).1

theorem get?_parent_of_orphan (hn : Loose g n) (horphan : ∀ p ∈ g.nodes, n.parent? ≠ some p.id) :
    f.boxes.get? (n.parent?.getD "") = none := by
  obtain ⟨parent, hparent⟩ := hn.exists_parent
  rw [← Option.not_isSome_iff_eq_none, h.boxed, List.mem_map, hparent, Option.getD_some]
  rintro ⟨p, hp, rfl⟩
  exact horphan p (h.mem_nodes hp) hparent

variable (hnodes : (g.nodes.map (·.id)).Nodup)
include hnodes

theorem isSome_get?_iff (hn : n ∈ g.nodes) :
    (f.boxes.get? n.id).isSome ↔ n ∈ ruledNodes g ∨ n ∈ arrived := by
  rw [h.boxed, List.mem_map, ← List.mem_append]
  constructor
  · rintro ⟨n', hn', hid⟩
    rwa [← List.inj_on_of_nodup_map hnodes (h.mem_nodes hn') hn hid]
  · exact fun hn ↦ ⟨n, hn, rfl⟩

/-- One more node takes the next place inside its parent. -/
theorem takeSlot (hn : Loose g n) (hnew : n ∉ arrived)
    (hparents : ∀ p, LooseParent g p n → p ∈ arrived) :
    Arrived m g (arrived ++ [n]) (Layout.takeSlot m n (gridOrigin f.boxes n) f).2 := by
  obtain ⟨parent, hparent⟩ := hn.exists_parent
  have hself : n.parent? ≠ some n.id := fun hself ↦ hnew (hparents n ⟨hn, hn, hself⟩)
  refine ⟨?_, ?_, fun id ↦ ?_, ?_, fun parent' ↦ ?_, ?_⟩
  · exact List.nodup_append'.mpr ⟨h.once, List.nodup_singleton _, by simpa using hnew⟩
  · exact List.forall_mem_append.mpr ⟨h.loose, by simpa using hn⟩
  · rw [← List.append_assoc, List.map_append, List.mem_append, ← h.boxed, Layout.takeSlot,
      Table.get?_insert]
    by_cases hid : id = n.id
    · simp [hid]
    · simp [hid]
  · intro s hs p hp
    apply List.mem_append_left
    obtain hs | hs := List.mem_append.mp hs
    · exact h.parents s hs p hp
    · rw [List.mem_singleton.mp hs] at hp
      exact hparents p hp
  · rw [Layout.takeSlot, hparent, Table.get?_insert, List.filter_append, List.length_append,
      ← h.counted]
    by_cases hsame : parent' = parent
    · simp [hsame, hparent, h.counted]
    · simp [hsame, hparent, Ne.symm hsame]
  · intro before s behind hsplit
    obtain ⟨behind', hold⟩ | ⟨late', rfl, hlate⟩ := append_eq_append_cons hsplit
    · have hs : s ∈ arrived := by
        rw [hold]
        simp
      have hid : s.id ≠ n.id := fun hid ↦
        hnew (List.inj_on_of_nodup_map hnodes (h.loose s hs).1 hn.1 hid ▸ hs)
      have hother : s.parent? ≠ some n.id := fun hchild ↦
        hnew (h.parents s hs n ⟨hn, h.loose s hs, hchild⟩)
      rw [gridOrigin_takeSlot (h.loose s hs) hother, get?_takeSlot hid]
      exact h.placed before s behind' hold
    · obtain rfl : late' = [] := by
        cases late' with
        | nil => rfl
        | cons _ late' => simp at hlate
      obtain ⟨rfl, rfl⟩ := List.cons.inj hlate
      rw [gridOrigin_takeSlot hn hself, get?_takeSlot_self, Layout.takeSlot, hparent,
        Option.getD_some, h.counted, List.append_nil]

theorem placeRemaining_boxed {box : Box α} (hn : n ∈ g.nodes)
    (hbox : f.boxes.get? n.id = some box) :
    ∃ late, Arrived m g (arrived ++ late) (Layout.placeRemaining m others n f).2 ∧
      ∀ s, s ∈ arrived ++ late ↔ s ∈ arrived ∨ Brings g n s := by
  have hplaced := (h.isSome_get?_iff hnodes hn).mp (by rw [hbox]; rfl)
  refine ⟨[], ?_, fun s ↦ ?_⟩
  · rw [placeRemaining_eq, hbox, List.append_nil]
    exact h
  · rw [List.append_nil]
    refine ⟨.inl, (·.elim id fun hbrings ↦ ?_)⟩
    exact h.mem_of_brings (hplaced.resolve_left hbrings.loose.2) hbrings

theorem loose_of_get?_eq_none (hn : n ∈ g.nodes) (hbox : f.boxes.get? n.id = none) :
    Loose g n ∧ n ∉ arrived := by
  have hunplaced : ¬ (n ∈ ruledNodes g ∨ n ∈ arrived) := by
    rw [← h.isSome_get?_iff hnodes hn, hbox]
    exact Bool.false_ne_true
  obtain ⟨hrule, hnew⟩ := not_or.mp hunplaced
  exact ⟨⟨hn, hrule⟩, hnew⟩

theorem placeRemaining_orphan (hn : Loose g n) (hnew : n ∉ arrived)
    (horphan : ∀ p ∈ g.nodes, n.parent? ≠ some p.id) (hbox : f.boxes.get? n.id = none)
    (hfind : others.find? (·.id == n.parent?.getD "") = none) :
    Arrived m g (arrived ++ [n]) (Layout.placeRemaining m others n f).2 := by
  rw [placeRemaining_of_orphan hbox hfind (h.get?_parent_of_orphan hn horphan)]
  exact h.takeSlot hnodes hn hnew fun p hp ↦ absurd hp.2.2 (horphan p hp.1.1)

theorem takeSlot_child (hacyclic : Acyclic g) (hn : Loose g n) (hp : p ∈ g.nodes)
    (hid : n.parent? = some p.id) {before : List Node} (hnew : n ∉ before)
    (harrived : ∀ s, s ∈ arrived ↔ s ∈ before ∨ Brings g p s) :
    Arrived m g (arrived ++ [n]) (Layout.takeSlot m n (gridOrigin f.boxes n) f).2 := by
  have hnew' : n ∉ arrived := by
    rw [harrived]
    exact not_or.mpr ⟨hnew, not_brings_of_parent hacyclic hn hid⟩
  refine h.takeSlot hnodes hn hnew' fun p' hp' ↦ ?_
  have hsame : p'.id = p.id := Option.some.inj (hp'.2.2.symm.trans hid)
  obtain rfl := List.inj_on_of_nodup_map hnodes hp'.1.1 hp hsame
  exact (harrived p').mpr (.inr (brings_self hp'.1))

/-- The parents of a node are placed on the way to it, unless they have their place. -/
theorem placeRemaining (hacyclic : Acyclic g) (hn : n ∈ g.nodes)
    (hothers : others ⊆ g.nodes) (habove : ∀ p, Relation.TransGen g.Parent p n → p ∈ others) :
    ∃ late, Arrived m g (arrived ++ late) (Layout.placeRemaining m others n f).2 ∧
      ∀ s, s ∈ arrived ++ late ↔ s ∈ arrived ∨ Brings g n s := by
  induction hlength : others.length using Nat.strongRecOn generalizing n others with
  | ind k ih =>
    subst hlength
    cases hbox : f.boxes.get? n.id with
    | some box => exact h.placeRemaining_boxed hnodes hn hbox
    | none =>
      obtain ⟨hloose, hnew⟩ := h.loose_of_get?_eq_none hnodes hn hbox
      cases hfind : others.find? (·.id == n.parent?.getD "") with
      | none =>
        have horphan : ∀ p ∈ g.nodes, n.parent? ≠ some p.id := fun p hp hchild ↦ by
          have hmem := habove p (.single ⟨hp, hn, hchild⟩)
          simpa [hchild] using List.find?_eq_none.mp hfind p hmem
        refine ⟨[n], h.placeRemaining_orphan hnodes hloose hnew horphan hbox hfind, fun s ↦ ?_⟩
        rw [List.mem_append, List.mem_singleton, brings_iff_of_orphan hloose horphan]
      | some p =>
        have hmem : p ∈ others := List.mem_of_find?_eq_some hfind
        have hp : p ∈ g.nodes := hothers hmem
        have hid : n.parent? = some p.id := hloose.parent?_of_find? hfind
        have hfewer : ∀ p', Relation.TransGen g.Parent p' p → p' ∈ without p.id others := by
          intro p' hreach
          have hp' : p' ∈ others := habove p' (hreach.tail ⟨hp, hn, hid⟩)
          exact mem_without_of_above hnodes hacyclic hothers hp' hp hreach
        obtain ⟨late, h', hlate⟩ := ih _ (length_without_lt hmem) hp
          (List.Subset.trans (List.filter_subset_self _) hothers) hfewer rfl
        refine ⟨late ++ [n], ?_, fun s ↦ ?_⟩
        · rw [placeRemaining_of_parent hbox hfind hid, ← List.append_assoc]
          exact h'.takeSlot_child hnodes hacyclic hloose hp hid hnew hlate
        · rw [← List.append_assoc, List.mem_append, hlate, List.mem_singleton,
            brings_iff_of_parent hnodes hloose hp hid, or_assoc, or_comm (a := s = n)]

end Arrived

/-- The nodes of `done` have had their turn: what they bring has come, siblings as `ComesFirst`
tells. -/
structure Served (g : Graph) (done arrived : List Node) : Prop where
  brought : ∀ s, s ∈ arrived ↔ ∃ d ∈ done, Brings g d s
  ordered : ∀ before n behind, arrived = before ++ n :: behind →
    ∀ s, Loose g s → s.parent? = n.parent? → (s ∈ before ↔ ComesFirst g s n)

theorem idxOf_lt_length_iff {done rest : List Node} (hsplit : g.nodes = done ++ rest) :
    g.nodes.idxOf n < done.length ↔ n ∈ done := by
  rw [hsplit]
  by_cases hn : n ∈ done
  · rw [List.idxOf_append_of_mem hn]
    exact iff_of_true (List.idxOf_lt_length_iff.mpr hn) hn
  · rw [List.idxOf_append_of_notMem hn]
    exact iff_of_false (by omega) hn

/-- Of what a node brings, and its siblings, those with a turn before it have come. -/
theorem Served.mem_iff_comesFirst {done rest : List Node} (hserved : Served g done arrived)
    (hsplit : g.nodes = done ++ rest) (hturn : g.nodes.idxOf d = done.length) (hnew : n ∉ arrived)
    (hbrings : Brings g d n) : s ∈ arrived ↔ ComesFirst g s n := by
  constructor
  · intro hs
    obtain ⟨d', hd', hbrings'⟩ := (hserved.brought s).mp hs
    refine ⟨d', hbrings', fun e he ↦ ?_⟩
    have hlt := (idxOf_lt_length_iff hsplit).mpr hd'
    have hle := mt (idxOf_lt_length_iff hsplit).mp fun he' ↦
      hnew ((hserved.brought n).mpr ⟨e, he', he⟩)
    omega
  · rintro ⟨d', hbrings', hfirst⟩
    have hlt := hfirst d hbrings
    rw [hturn, idxOf_lt_length_iff hsplit] at hlt
    exact (hserved.brought s).mpr ⟨d', hlt, hbrings'⟩

theorem Served.step {done rest : List Node} (hserved : Served g done arrived)
    (hnodes : (g.nodes.map (·.id)).Nodup) (hacyclic : Acyclic g)
    (hsplit : g.nodes = done ++ d :: rest) (honce : (arrived ++ late).Nodup)
    (hlate : ∀ s, s ∈ arrived ++ late ↔ s ∈ arrived ∨ Brings g d s) :
    Served g (done ++ [d]) (arrived ++ late) := by
  have hfresh : done.Disjoint (d :: rest) :=
    (List.nodup_append'.mp (hsplit ▸ hnodes.of_map)).2.2
  have hturn : g.nodes.idxOf d = done.length := by
    rw [hsplit, List.idxOf_append_of_notMem fun hd ↦ hfresh hd (.head _), List.idxOf_cons_self]
    rfl
  obtain ⟨-, hlateOnce, hapart⟩ := List.nodup_append'.mp honce
  have hbrings {n : Node} (hn : n ∈ late) : Brings g d n :=
    ((hlate n).mp (List.mem_append_right _ hn)).resolve_left fun hold ↦ hapart hold hn
  refine ⟨fun s ↦ ?_, fun before n behind hn s hs hsame ↦ ?_⟩
  · rw [hlate, hserved.brought]
    simp only [List.mem_append, List.mem_singleton, or_and_right, exists_or, exists_eq_left]
  · obtain ⟨behind', hold⟩ | ⟨late', rfl, rfl⟩ := append_eq_append_cons hn
    · exact hserved.ordered before n behind' hold s hs hsame
    · have hmem : n ∈ late' ++ n :: behind := List.mem_append_right _ (.head _)
      -- of siblings, `d` brings one, and that is `n`
      have hother : s ∉ late' := by
        intro hs'
        have heq := (hbrings (List.mem_append_left _ hs')).eq_of_sibling hnodes hacyclic
          (hbrings hmem) hsame
        exact (List.nodup_append'.mp hlateOnce).2.2 hs' (heq ▸ .head _)
      rw [List.mem_append, or_iff_left hother]
      exact hserved.mem_iff_comesFirst hsplit hturn (fun hold ↦ hapart hold hmem) (hbrings hmem)

/-- All nodes have their turn. -/
theorem exists_served (hnodes : (g.nodes.map (·.id)).Nodup) (hacyclic : Acyclic g)
    {done rest : List Node} (hsplit : g.nodes = done ++ rest) (h : Arrived m g arrived f)
    (hserved : Served g done arrived) :
    ∃ arrived', Served g g.nodes arrived' ∧ Arrived m g arrived'
      (rest.foldl (fun f n ↦ (placeRemaining m (without n.id g.nodes) n f).2) f) := by
  induction rest generalizing done arrived f with
  | nil =>
    rw [List.append_nil] at hsplit
    exact ⟨arrived, hsplit ▸ hserved, h⟩
  | cons d rest ih =>
    have hd : d ∈ g.nodes := by
      rw [hsplit]
      simp
    have habove : ∀ p, Relation.TransGen g.Parent p d → p ∈ without d.id g.nodes := by
      intro p hreach
      obtain ⟨c, hparent, -⟩ := Relation.TransGen.head'_iff.mp hreach
      exact mem_without_of_above hnodes hacyclic (List.Subset.refl _) hparent.1 hd hreach
    obtain ⟨late, h', hlate⟩ :=
      h.placeRemaining hnodes hacyclic hd (List.filter_subset_self _) habove
    exact ih (by rw [hsplit, List.append_assoc]; rfl) h'
      (hserved.step hnodes hacyclic hsplit h'.once hlate)

theorem arrived_rules (hnodes : (g.nodes.map (·.id)).Nodup) :
    Arrived m g [] ⟨placeByRules m g .empty, .empty⟩ := by
  have hrules := does_rules (m := m) hnodes
  refine ⟨.nil, nofun, fun id ↦ ?_, nofun, fun _ ↦ rfl, fun before n behind h ↦ ?_⟩
  · have hids : id ∈ (ruledNodes g).map (·.id) ↔ id ∈ ids (ruleEntries m g) := by
      rw [ids, ← ((map_ruleEntries_perm m g).map (·.id)).mem_iff, List.map_map]
      rfl
    rw [List.append_nil, hids]
    refine ⟨fun hsome ↦ ?_, hrules.placed _ id⟩
    by_contra hid
    rw [hrules.kept _ id hid] at hsome
    cases hsome
  · cases before <;> cases h

theorem Served.perm_comeBefore (hserved : Served g g.nodes arrived) (honce : arrived.Nodup)
    (hnodes : (g.nodes.map (·.id)).Nodup) {before behind : List Node}
    (hsplit : arrived = before ++ n :: behind) :
    (before.filter (·.parent? == n.parent?)).Perm (comeBefore g n) := by
  have hbefore : before.Nodup := (List.nodup_append'.mp (hsplit ▸ honce)).1
  have hcome : (comeBefore g n).Nodup := hnodes.of_map.filter _
  refine (List.perm_ext_iff_of_nodup (hbefore.filter _) hcome).mpr fun s ↦ ?_
  have hloose : s ∈ before → Loose g s := fun hs ↦ by
    obtain ⟨d, -, hbrings⟩ := (hserved.brought s).mp (by rw [hsplit]; simp [hs])
    exact hbrings.1
  rw [List.mem_filter, mem_comeBefore, beq_iff_eq]
  constructor
  · rintro ⟨hs, hsame⟩
    exact ⟨hloose hs, hsame, (hserved.ordered before n behind hsplit s (hloose hs) hsame).mp hs⟩
  · rintro ⟨hs, hsame, hfirst⟩
    exact ⟨(hserved.ordered before n behind hsplit s hs hsame).mpr hfirst, hsame⟩

theorem get?_place_of_loose (hnodes : (g.nodes.map (·.id)).Nodup) (hacyclic : Acyclic g)
    (hn : Loose g n) :
    (place m g).get? n.id =
      some (gridBox m (gridOrigin (place m g) n) (comeBefore g n).length) := by
  have hnone : Served g [] [] := ⟨by simp, fun before _ _ h ↦ by cases before <;> cases h⟩
  obtain ⟨arrived, hserved, h⟩ :=
    exists_served hnodes hacyclic rfl (arrived_rules (m := m) hnodes) hnone
  obtain ⟨before, behind, hsplit⟩ :=
    List.append_of_mem ((hserved.brought n).mpr ⟨n, hn.1, brings_self hn⟩)
  rw [← (hserved.perm_comeBefore h.once hnodes hsplit).length_eq]
  exact h.placed before n behind hsplit

theorem comeBefore_eq_listedBefore
    (hlisted : ∀ s d, s.parent? = n.parent? → Brings g d s → g.nodes.idxOf s ≤ g.nodes.idxOf d)
    (hn : Loose g n) : comeBefore g n = listedBefore g n := by
  refine List.filter_congr fun s _ ↦ decide_eq_decide.mpr ?_
  refine and_congr_right fun hs ↦ and_congr_right fun hsame ↦ ⟨?_, fun hlt ↦ ?_⟩
  · rintro ⟨d, hbrings, hfirst⟩
    exact Nat.lt_of_le_of_lt (hlisted s d hsame hbrings) (hfirst n (brings_self hn))
  · exact ⟨s, brings_self hs, fun e he ↦ Nat.lt_of_lt_of_le hlt (hlisted n e rfl he)⟩

/-- A loose node is on the grid of its parent, or of the canvas if the graph does not have its
parent. It gets the place after the siblings that come before it. These are those listed before it,
if no sibling is listed after something that brings it. -/
theorem on_grid_after_comeBefore (hnodes : (g.nodes.map (·.id)).Nodup) (hacyclic : Acyclic g)
    (m : Metrics α) (hn : Loose g n) :
    ∃ p ∈ (draw m g).nodes, p.node = n ∧
      (∀ q ∈ (draw m g).nodes, n.parent? = some q.node.id →
        p.absolute = (gridBox m q.absolute (comeBefore g n).length).origin) ∧
      ((∀ q ∈ g.nodes, n.parent? ≠ some q.id) →
        p.absolute =
          (gridBox m ⟨Scalar.ofNat 0, Scalar.ofNat 0⟩ (comeBefore g n).length).origin) ∧
      ((∀ s d, s.parent? = n.parent? → Brings g d s → g.nodes.idxOf s ≤ g.nodes.idxOf d) →
        comeBefore g n = listedBefore g n) := by
  obtain ⟨p, hp, rfl⟩ := exists_mem_draw (m := m) hn.1
  have habsolute := (absolute_of_mem_draw hp).2
  rw [get?_place_of_loose hnodes hacyclic hn, Option.map_some, Option.some_inj] at habsolute
  refine ⟨p, hp, rfl, fun q hq hparent ↦ ?_, fun horphan ↦ ?_, (comeBefore_eq_listedBefore · hn)⟩
  · rw [← habsolute, gridOrigin, hparent, Option.getD_some, (absolute_of_mem_draw hq).2]
    rfl
  · obtain ⟨parent, hparent⟩ := hn.exists_parent
    have hnone : (place m g).get? parent = none := by
      rw [← Option.not_isSome_iff_eq_none, isSome_get?_place_iff hnodes, List.mem_map]
      rintro ⟨q, hq, rfl⟩
      exact horphan q hq hparent
    rw [← habsolute, gridOrigin, hparent, Option.getD_some, hnone]
    rfl

theorem acyclic_of_rank (rank : String → Nat)
    (hrank : ∀ p ∈ g.nodes, ∀ n ∈ g.nodes, n.parent? = some p.id → rank p.id < rank n.id) :
    Acyclic g := by
  intro n h
  have hlt {a b : Node} (h : Relation.TransGen g.Parent a b) : rank a.id < rank b.id := by
    induction h with
    | single hstep => exact hrank _ hstep.1 _ hstep.2.1 hstep.2.2
    | tail _ hstep ih => exact ih.trans (hrank _ hstep.1 _ hstep.2.1 hstep.2.2)
  exact Nat.lt_irrefl _ (hlt h)

/-- Two siblings, the second of which comes first since its port does. -/
theorem on_grid_after_comeBefore_of_port :
    let a : Node := ⟨"a", "A", .part "r"⟩
    let g : Graph := ⟨[⟨"r", "R", .root⟩, ⟨"p", "P", .port "b"⟩, a, ⟨"b", "B", .part "r"⟩], []⟩
    let m : Metrics Rat := .standard
    (g.nodes.map (·.id)).Nodup ∧ Acyclic g ∧ Loose g a ∧
    ∃ p ∈ (draw m g).nodes, p.node = a ∧
      (∀ q ∈ (draw m g).nodes, a.parent? = some q.node.id →
        p.absolute = (gridBox m q.absolute (comeBefore g a).length).origin) ∧
      ((∀ q ∈ g.nodes, a.parent? ≠ some q.id) →
        p.absolute =
          (gridBox m ⟨Scalar.ofNat 0, Scalar.ofNat 0⟩ (comeBefore g a).length).origin) ∧
      ((∀ s d, s.parent? = a.parent? → Brings g d s → g.nodes.idxOf s ≤ g.nodes.idxOf d) →
        comeBefore g a = listedBefore g a) := by
  intro a g m
  have hacyclic : Acyclic g :=
    acyclic_of_rank (fun id ↦ if id = "r" then 0 else if id = "p" then 2 else 1) (by decide)
  exact ⟨by decide, hacyclic, by decide,
    on_grid_after_comeBefore (by decide) hacyclic m (by decide)⟩

/-- The port comes before its part, which therefore comes before its sibling. -/
theorem place_ne_listedBefore :
    let b : Node := ⟨"b", "B", .part "r"⟩
    let g : Graph := ⟨[⟨"r", "R", .root⟩, ⟨"p", "P", .port "b"⟩, ⟨"a", "A", .part "r"⟩, b], []⟩
    let m : Metrics Rat := .standard
    (g.nodes.map (·.id)).Nodup ∧ Acyclic g ∧ Loose g b ∧
    ∃ p ∈ (draw m g).nodes, p.node = b ∧ ∃ q ∈ (draw m g).nodes, b.parent? = some q.node.id ∧
      p.absolute ≠ (gridBox m q.absolute (listedBefore g b).length).origin := by
  intro b g m
  let port : Node := ⟨"p", "P", .port "b"⟩
  have hnodes : (g.nodes.map (·.id)).Nodup := by decide
  have hacyclic : Acyclic g :=
    acyclic_of_rank (fun id ↦ if id = "r" then 0 else if id = "p" then 2 else 1) (by decide)
  have hb : Loose g b := by decide
  have hfirst : comeBefore g b = [] := by
    refine List.eq_nil_iff_forall_not_mem.mpr fun s hs ↦ ?_
    obtain ⟨-, -, d, hbrings, hd⟩ := mem_comeBefore.mp hs
    have hlt := hd port ⟨hb, .single ⟨hb, by decide, rfl⟩⟩
    have hnone : ∀ d ∈ g.nodes, Loose g d → ¬ g.nodes.idxOf d < g.nodes.idxOf port := by decide
    exact hnone d hbrings.loose.1 hbrings.loose hlt
  have hlisted : (listedBefore g b).length = 1 := by decide
  obtain ⟨p, hp, hpb⟩ := exists_mem_draw (m := m) hb.1
  obtain ⟨q, hq, hqr⟩ := exists_mem_draw (m := m) (show ⟨"r", "R", .root⟩ ∈ g.nodes by decide)
  have hplace := (absolute_of_mem_draw hp).2
  rw [hpb, get?_place_of_loose hnodes hacyclic hb, hfirst, Option.map_some, Option.some_inj]
    at hplace
  have horigin : gridOrigin (place m g) b = q.absolute := by
    have hbox := (absolute_of_mem_draw hq).2
    rw [hqr] at hbox
    rw [gridOrigin]
    exact congrArg (Option.getD · _) hbox
  refine ⟨hnodes, hacyclic, hb, p, hp, hpb, q, hq, by rw [hqr]; rfl, fun h ↦ ?_⟩
  rw [hlisted, ← hplace, horigin] at h
  have hx : q.absolute.x + 120 + 0 * 140 = q.absolute.x + 120 + 1 * 140 := congrArg Point.x h
  grind

end TwinDiagram.Layout
