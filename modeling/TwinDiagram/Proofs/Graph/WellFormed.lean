import Mathlib.Logic.Relation
import TwinDiagram.Proofs.Graph.Complete

namespace TwinDiagram.Graph

def Joins (g : Graph) (e : Edge) (k l : NodeKind) : Prop :=
  (∃ n ∈ g.nodes, n.id = e.source ∧ n.kind = k) ∧ ∃ n ∈ g.nodes, n.id = e.target ∧ n.kind = l

structure WellFormed (g : Graph) : Prop where
  nodeIds : (g.nodes.map Node.id).Nodup
  edgeIds : (g.edges.map Edge.id).Nodup
  root : ∃ r rest, g.nodes = r :: rest ∧ r.kind = .root ∧ ∀ n ∈ rest, n.kind ≠ .root
  parents : ∀ before n behind, g.nodes = before ++ n :: behind → n.kind ≠ .root →
    ∃ p ∈ before, n.parent? = some p.id ∧ Within n.kind p.kind
  connections : ∀ e ∈ g.edges, e.kind = .connection → g.Joins e .port .port
  allocations : ∀ e ∈ g.edges, e.kind = .allocation → g.Joins e .digitalTwin .goal

/-- One node is the parent of the other. -/
def Parent (g : Graph) (p n : Node) : Prop := p ∈ g.nodes ∧ n ∈ g.nodes ∧ n.parent? = some p.id

/-- From the first node all others are reached. -/
theorem WellFormed.rooted {g : Graph} (h : g.WellFormed) {r : Node} {rest : List Node}
    (hg : g.nodes = r :: rest) : ∀ n ∈ g.nodes, Relation.ReflTransGen g.Parent r n := by
  have hreach (k : Nat) : ∀ before n behind, before.length = k → g.nodes = before ++ n :: behind →
      Relation.ReflTransGen g.Parent r n := by
    induction k using Nat.strongRecOn with
    | _ k ih =>
      rintro before n behind rfl hn
      by_cases hkind : n.kind = .root
      · obtain ⟨r', rest', hg', -, hrest⟩ := h.root
        obtain ⟨rfl, rfl⟩ := List.cons.inj (hg'.symm.trans hg)
        have hmem : n ∈ r' :: rest' := by rw [← hg, hn]; simp
        rcases List.mem_cons.mp hmem with rfl | hmem
        · exact .refl
        · exact absurd hkind (hrest n hmem)
      · obtain ⟨p, hp, hparent, -⟩ := h.parents before n behind hn hkind
        obtain ⟨before', between, rfl⟩ := List.append_of_mem hp
        have hp' : g.nodes = before' ++ p :: (between ++ n :: behind) := by simp [hn]
        refine .tail (ih before'.length (by simp) before' p _ rfl hp') ⟨?_, ?_, hparent⟩
        · simp [hp']
        · simp [hn]
  intro n hn
  obtain ⟨before, behind, hsplit⟩ := List.append_of_mem hn
  exact hreach before.length before n behind rfl hsplit

variable {m : Model} {vs : List Visit} {os : List Outcome} {g : Graph} {d : Draft}

theorem Accounts.exists_node (h : Accounts m vs os g d) {k : NodeKind} {id : String}
    (hid : ∃ e ∈ (kept vs).filterMap (Item.entry? (Build.rootName m)), e.kind = k ∧ e.id = id) :
    ∃ n ∈ g.nodes, n.id = id ∧ n.kind = k := by
  obtain ⟨e, he, rfl, rfl⟩ := hid
  obtain ⟨i, hi, he⟩ := List.mem_filterMap.mp he
  obtain ⟨hkind, hid⟩ := Item.entry?_eq_some _ he
  exact ⟨i.node (Build.rootName m), h.nodes ▸ List.mem_map_of_mem hi, hid,
    hkind ▸ Item.kind_node _ i⟩

theorem Accounts.joins (h : Accounts m vs os g d) {e : Edge} (he : e ∈ g.edges) :
    e.kind = .connection ∧ g.Joins e .port .port ∨
      e.kind = .allocation ∧ g.Joins e .digitalTwin .goal := by
  have hadded := Symbols.ofEntries_added h.symbols
  obtain ⟨l, -, hmeets⟩ := h.become.meets e (h.edges ▸ he)
  cases hmeets with
  | connection hsource htarget =>
    exact .inl ⟨rfl, h.exists_node (Symbols.points_port? hadded.ports hsource),
      h.exists_node (Symbols.points_port? hadded.ports htarget)⟩
  | allocation hgoal htwin =>
    exact .inr ⟨rfl, h.exists_node (Symbols.points_twin? hadded.twins htwin),
      h.exists_node (hadded.goals hgoal)⟩

theorem Accounts.parent (h : Accounts m vs os g d) {before : List Node} {n : Node}
    {behind : List Node} (hn : g.nodes = before ++ n :: behind) (hkind : n.kind ≠ .root) :
    ∃ p ∈ before, n.parent? = some p.id ∧ Within n.kind p.kind := by
  obtain ⟨is, rest, hkept, rfl, hrest⟩ := List.map_eq_append_iff.mp (h.nodes.symm.trans hn)
  obtain ⟨i, js, rfl, rfl, -⟩ := List.map_eq_cons_iff.mp hrest
  obtain ⟨us, ws, rfl, rfl⟩ := exists_of_kept_eq_append hkept
  rcases h.walks.mem_or_mem_children with hroot | ⟨j, hj, hi⟩
  · obtain rfl : i = .root m := List.mem_singleton.mp hroot
    exact absurd rfl hkind
  · refine ⟨j.node (Build.rootName m), List.mem_map_of_mem hj, Item.parent?_node_children _ hi, ?_⟩
    rw [Item.kind_node, Item.kind_node]
    exact Item.within_children hi

theorem Accounts.root (h : Accounts m vs os g d) :
    ∃ r rest, g.nodes = r :: rest ∧ r.kind = .root ∧ ∀ n ∈ rest, n.kind ≠ .root := by
  have hwalks := h.walks
  have hdecided := h.decided
  have hnodes := h.nodes
  cases vs with
  | nil => cases hwalks
  | cons v vs =>
    obtain ⟨i, k⟩ := v
    obtain rfl : k = true := hdecided.kept_of_cons
    obtain ⟨js, hroot, htail⟩ := hwalks.tail
    obtain ⟨rfl, rfl⟩ := List.cons.inj hroot
    have hinside : ∀ v ∈ vs, v.item.kind ≠ .root :=
      htail.forall_mem (by simpa using fun j hj ↦ Item.kind_ne_root_of_mem_children hj)
        fun _ hj ↦ Item.kind_ne_root_of_mem_children hj
    refine ⟨_, _, hnodes, Item.kind_node _ _, fun n hn ↦ ?_⟩
    obtain ⟨j, hj, rfl⟩ := List.mem_map.mp hn
    rw [Item.kind_node]
    exact hinside _ (mem_kept.mp hj)

theorem Accounts.wellFormed (h : Accounts m vs os g d) : g.WellFormed where
  nodeIds := by
    rw [h.nodes, List.map_map]
    exact List.pairwise_map.mpr h.decided.pairwise
  edgeIds := by
    rw [h.edges]
    exact h.become.nodup .nil
  root := h.root
  parents _ _ _ hn hkind := h.parent hn hkind
  connections _ he hkind := (h.joins he).elim And.right fun ⟨hk, _⟩ ↦ by cases hkind.symm.trans hk
  allocations _ he hkind := (h.joins he).elim (fun ⟨hk, _⟩ ↦ by cases hkind.symm.trans hk) And.right

theorem wellFormed_of_ofModel (h : ofModel m = (.ok g, d)) : g.WellFormed := by
  obtain ⟨vs, os, h⟩ := ofModel_accounts h
  exact h.wellFormed

theorem exists_wellFormed_of_text (text : String) :
    ∃ m s g d, Parser.readText text = (.ok m, s) ∧ ofModel m = (.ok g, d) ∧ g.WellFormed := by
  obtain ⟨m, s, hread, hm⟩ := Parser.readText_ok text
  obtain ⟨g, d, hgraph, -⟩ := ofModel_ok hm
  exact ⟨m, s, g, d, hread, hgraph, wellFormed_of_ofModel hgraph⟩

theorem wellFormed_of_text_eq {text : String}
    (h : ((Parser.readText text).1.toOption.bind fun m ↦ (ofModel m).1.toOption) = some g) :
    ∃ m s d, Parser.readText text = (.ok m, s) ∧ ofModel m = (.ok g, d) ∧ g.WellFormed := by
  obtain ⟨m, s, g', d, hread, hgraph, hg⟩ := exists_wellFormed_of_text text
  simp only [hread, Except.toOption, Option.bind_some, hgraph, Option.some_inj] at h
  subst h
  exact ⟨m, s, d, hread, hgraph, hg⟩

/-- Whatever a model declares, and however often, its graph is well formed and a tree. -/
theorem ofModel_wellFormed (h : ofModel m = (.ok g, d)) :
    g.WellFormed ∧ ∃ r ∈ g.nodes, r.kind = .root ∧
      ∀ n ∈ g.nodes, Relation.ReflTransGen g.Parent r n := by
  have hg := wellFormed_of_ofModel h
  obtain ⟨r, rest, hnodes, hkind, -⟩ := hg.root
  exact ⟨hg, r, by rw [hnodes]; exact .head _, hkind, hg.rooted hnodes⟩

/-- The twin `b` of the system `s::a` has the identifier of the twin `a::b` of the system `s`. -/
theorem ofModel_wellFormed_of_colons :
    let m : Model := ⟨"r", [⟨"s", [⟨"a::b", ["p", "p"]⟩], [⟨"a::b", ["p"]⟩],
      [⟨"a::b.p", "s.a::b.p", some "n"⟩, ⟨"a::b.p", "a::b.p", some "n"⟩, ⟨"a::b.p", "q", none⟩]⟩,
      ⟨"s::a", [⟨"b", ["q"]⟩], [], []⟩, ⟨" s ", [⟨"t", []⟩], [], []⟩],
      [⟨"g", some "d"⟩, ⟨"g", none⟩], [⟨"g", "a::b"⟩], none⟩
    ∃ g d, ofModel m = (.ok g, d) ∧ g.nodes.length = 8 ∧ g.edges.length = 2 ∧
      d.findings.length = 6 ∧ g.WellFormed ∧ ∃ r ∈ g.nodes, r.kind = .root ∧
        ∀ n ∈ g.nodes, Relation.ReflTransGen g.Parent r n := by
  intro m
  have hlengths : ((ofModel m).1.toOption.map fun g ↦ (g.nodes.length, g.edges.length),
      (ofModel m).2.findings.length) = (some (8, 2), 6) := by decide +kernel
  rcases hm : ofModel m with ⟨_ | g, d⟩ <;> rw [hm, Prod.mk.injEq] at hlengths
  · cases hlengths.1
  · obtain ⟨hn, he⟩ := Prod.mk.inj (Option.some.inj hlengths.1)
    exact ⟨g, d, rfl, hn, he, hlengths.2, ofModel_wellFormed hm⟩

end TwinDiagram.Graph
