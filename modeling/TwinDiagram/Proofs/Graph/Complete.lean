import TwinDiagram.Proofs.Graph.Build
import TwinDiagram.Proofs.Graph.Identifier
import TwinDiagram.Proofs.Graph.Link

namespace TwinDiagram.Graph

open Program

/-- The connections of the kept systems, then the allocations. -/
def links (m : Model) (vs : List Visit) : List Link :=
  ((kept vs).filterMap Item.system?).flatMap (fun s ↦ s.connections.map (.connection s.name)) ++
    m.allocations.map .allocation

/-- The graph and the findings are what visits and links leave. -/
structure Accounts (m : Model) (vs : List Visit) (os : List Outcome) (g : Graph) (d : Draft) :
    Prop where
  walks : Walks [.root m] vs
  decided : Decided (fun i j ↦ i.id (Build.rootName m) = j.id (Build.rootName m)) vs
  symbols : Symbols.ofEntries ((kept vs).filterMap (Item.entry? (Build.rootName m))) =
    (.ok (), d.symbols)
  become : Become (Build.rootName m) d.symbols [] (links m vs) os
  nodes : g.nodes = (kept vs).map (Item.node (Build.rootName m))
  edges : g.edges = os.filterMap Outcome.edge?
  findings : d.findings = (dropped vs).map Item.duplicate ++ os.filterMap Outcome.finding?

variable {m : Model} {vs : List Visit} {os : List Outcome} {g : Graph} {d : Draft}

namespace Build

theorem forM_connections (root : String) (systems : List System) :
    forM (systems.flatMap fun s ↦ s.connections.map (.connection s.name)) (Link.add root) =
      systems.forM fun s ↦ s.connections.forM (addConnection root s.name) := by
  induction systems with
  | nil => rfl
  | cons s systems ih =>
    rw [List.flatMap_cons, List.forM_append, List.forM_map, ih]
    rfl

theorem forM_links (root : String) (m : Model) (vs : List Visit) :
    forM (links m vs) (Link.add root) =
      (((kept vs).filterMap Item.system?).forM fun s ↦
        s.connections.forM (addConnection root s.name)) >>=
        fun _ ↦ m.allocations.forM (addAllocation root) := by
  rw [links, List.forM_append, forM_connections, List.forM_map]
  rfl

end Build

/-- Every graph of a model accounts for the model. -/
theorem ofModel_accounts (h : ofModel m = (.ok g, d)) : ∃ vs os, Accounts m vs os g d := by
  have hempty := Account.empty (Build.rootName m)
  rcases Build.visit hempty (.root m) h with ⟨d₁, hroot, -⟩ | ⟨d₁, hroot, htail⟩
  · -- Nothing comes before the root.
    exact absurd hroot.decided.kept_of_cons Bool.false_ne_true
  have hroot := Build.visit_plain hroot rfl
  obtain ⟨systems, d₂, hsystems, htail⟩ := bind_ok htail
  obtain ⟨vs, hvs, haccount, rfl⟩ := Build.addSystems_ok hroot hsystems
  obtain ⟨⟨⟩, d₃, hgoals, htail⟩ := bind_ok htail
  obtain ⟨ws, hws, haccount⟩ := Build.addGoals_ok haccount hgoals
  obtain ⟨⟨⟩, d₄, hconnections, htail⟩ := bind_ok htail
  obtain ⟨⟨⟩, d₅, hallocations, htail⟩ := bind_ok htail
  have hwalks : Walks [.root m] (⟨.root m, true⟩ :: (vs ++ ws)) :=
    .kept (by simpa [Item.children] using hvs.append hws)
  have hinner := Build.systems_of_inner hws (by simp [Item.Inner, Item.kind])
  have hkept : (kept (⟨.root m, true⟩ :: (vs ++ ws))).filterMap Item.system? =
      (kept vs).filterMap Item.system? := by
    rw [← List.cons_append, kept_append, List.filterMap_append, hinner, List.append_nil]
    rfl
  have hlinks : (forM (links m (⟨.root m, true⟩ :: (vs ++ ws)))
      (Link.add (Build.rootName m))).run.run d₃ = (.ok (), d₅) := by
    rw [Build.forM_links, hkept, run_bind, hconnections]
    exact hallocations
  obtain ⟨os, hos, rfl⟩ := Build.forM_add_ok hlinks
  rw [List.append_assoc] at haccount
  rw [run_bind, run_get] at htail
  simp only at htail
  split at htail
  case h_2 => cases htail
  next hg =>
  cases htail
  obtain ⟨rfl, -⟩ := ofParts_eq_ok_iff.mp hg
  refine ⟨_, os, hwalks, haccount.decided, haccount.symbols, ?_, haccount.nodes, ?_, ?_⟩
  · rwa [haccount.edges] at hos
  · rw [Build.noted, haccount.edges, List.nil_append]
  · rw [Build.noted, haccount.findings]
    rfl

namespace Item

variable (Q : String → Prop)

def Named : Item → Prop
  | root m => m.Named Q
  | system s => s.Named Q
  | digitalTwin home t => Q home ∧ t.Named Q
  | part home t => Q home ∧ t.Named Q
  | port home _ owner name => Q home ∧ Q owner ∧ Q name
  | goal g => Q g.name

variable {Q} {i j : Item}

theorem Named.children (h : i.Named Q) (hj : j ∈ i.children) : j.Named Q := by
  cases i with
  | root m =>
    rcases List.mem_append.mp hj with hj | hj <;> obtain ⟨x, hx, rfl⟩ := List.mem_map.mp hj
    · exact h.systems x hx
    · exact h.goals x hx
  | system s =>
    rcases List.mem_append.mp hj with hj | hj <;> obtain ⟨x, hx, rfl⟩ := List.mem_map.mp hj
    · exact ⟨h.name, h.digitalTwins x hx⟩
    · exact ⟨h.name, h.parts x hx⟩
  | digitalTwin home t | part home t =>
    obtain ⟨p, hp, rfl⟩ := List.mem_map.mp hj
    exact ⟨h.1, h.2.1, h.2.2 p hp⟩
  | port | goal => cases hj

theorem isIdentifier_tag (k : NodeKind) : IsIdentifier k.tag := by
  cases k <;> decide

theorem isIdentifier_idTag (k : NodeKind) : IsIdentifier (idTag k) := by
  cases k <;> decide

theorem idTag_inj {k l : NodeKind} : idTag k = idTag l ↔ k = l := by
  cases k <;> cases l <;> decide

theorem Named.names (h : i.Named IsIdentifier) : ∀ n ∈ i.names, IsIdentifier n := by
  cases i with
  | root m => exact List.forall_mem_nil _
  | system s => simpa [Item.names] using h.name
  | digitalTwin home t | part home t => simpa [Item.names] using ⟨h.1, h.2.1⟩
  | port home ownerKind owner name =>
    simpa [Item.names] using ⟨h.1, isIdentifier_tag ownerKind, h.2⟩
  | goal g => exact List.forall_mem_singleton.mpr h

theorem id_eq_iff {root : String} (hroot : IsIdentifier root) (hi : i.Named IsIdentifier)
    (hj : j.Named IsIdentifier) : i.id root = j.id root ↔ i.Same j := by
  have hnames {i : Item} (hi : i.Named IsIdentifier) : ∀ n ∈ root :: i.names, IsIdentifier n :=
    List.forall_mem_cons.mpr ⟨hroot, hi.names⟩
  rw [id, id, identifier_inj (isIdentifier_idTag _) (isIdentifier_idTag _) (hnames hi) (hnames hj),
    idTag_inj, List.cons_inj_right, Same]

end Item

theorem isIdentifier_rootName (h : m.Named IsIdentifier) : IsIdentifier (Build.rootName m) := by
  unfold Build.rootName
  split
  · decide
  · next hne => exact h.name.resolve_left hne

/-- Whatever a text declares is in the graph or told of. -/
theorem nothing_lost (text : String) :
    ∃ m s g d vs os, Parser.readText text = (.ok m, s) ∧ ofModel m = (.ok g, d) ∧
      Accounts m vs os g d ∧ Decided Item.Same vs := by
  obtain ⟨m, s, hread, hnamed⟩ := Parser.readText_ok text
  obtain ⟨g, d, hgraph, -⟩ := ofModel_ok hnamed
  obtain ⟨vs, os, h⟩ := ofModel_accounts hgraph
  have hitems : ∀ v ∈ vs, v.item.Named IsIdentifier :=
    h.walks.forall_mem (by simpa [Item.Named] using hnamed) fun hi hj ↦ hi.children hj
  have hroot := isIdentifier_rootName hnamed
  refine ⟨m, s, g, d, vs, os, hread, hgraph, h, h.decided.congr fun u hu v hv ↦ ?_⟩
  exact Item.id_eq_iff hroot (hitems u hu) (hitems v hv)

end TwinDiagram.Graph
