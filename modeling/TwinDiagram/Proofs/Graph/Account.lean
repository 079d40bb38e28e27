import TwinDiagram.Graph.OfModel
import TwinDiagram.Proofs.Graph.Entry
import TwinDiagram.Proofs.Graph.Walk

namespace TwinDiagram.Graph

open Program

namespace Item

def idTag : NodeKind → String
  | .root => "dw"
  | .system => "ts"
  | .digitalTwin => "dt"
  | .part => "at"
  | .port => "port"
  | .goal => "goal"

variable (root : String)

def id (i : Item) : String := identifier (idTag i.kind) (root :: i.names)

def place : Item → Place
  | .root _ => .root
  | .system _ => .system (identifier "dw" [root])
  | .digitalTwin home _ => .digitalTwin (identifier "ts" [root, home])
  | .part home _ => .part (identifier "ts" [root, home])
  | .port home ownerKind owner _ => .port (identifier (idTag ownerKind) [root, home, owner])
  | .goal g => .goal (identifier "dw" [root]) g.doc

def node (i : Item) : Node := ⟨i.id root, i.label, i.place root⟩

def duplicate (i : Item) : Finding := .duplicateNode i.kind i.label

def entry? (i : Item) : Option Entry :=
  match i with
  | .digitalTwin home t => some (.twin home t.name (i.id root))
  | .port home _ owner name => some (.port home owner name (i.id root))
  | .goal g => some (.goal g.name (i.id root))
  | _ => none

theorem entry?_eq_some {i : Item} {e : Entry} (h : i.entry? root = some e) :
    i.kind = e.kind ∧ i.id root = e.id := by
  cases i with
  | digitalTwin | port | goal =>
    cases h
    exact ⟨rfl, rfl⟩
  | _ => cases h

theorem kind_node (i : Item) : (i.node root).kind = i.kind := by
  cases i <;> rfl

theorem parent?_node_children {i j : Item} (h : j ∈ i.children) :
    (j.node root).parent? = some (i.node root).id := by
  cases i with
  | root m | system s =>
    rcases List.mem_append.mp h with h | h <;> obtain ⟨x, -, rfl⟩ := List.mem_map.mp h <;> rfl
  | digitalTwin home t | part home t =>
    obtain ⟨p, -, rfl⟩ := List.mem_map.mp h
    rfl
  | port | goal => cases h

end Item

/-- How the symbols change when a declaration is kept. -/
def Enters (root : String) (i : Item) (s t : Symbols) : Prop :=
  match i.entry? root with
  | none => t = s
  | some e => e.add.run.run s = (.ok (), t)

structure Account (root : String) (vs : List Visit) (d : Draft) : Prop where
  nodes : d.nodes = (kept vs).map (Item.node root)
  findings : d.findings = (dropped vs).map Item.duplicate
  edges : d.edges = []
  symbols : Symbols.ofEntries ((kept vs).filterMap (Item.entry? root)) = (.ok (), d.symbols)
  decided : Decided (fun i j ↦ i.id root = j.id root) vs

theorem Account.empty (root : String) : Account root [] .empty := ⟨rfl, rfl, rfl, rfl, .nil⟩

variable {root : String} {vs : List Visit} {d e : Draft} {i : Item} {α : Type}

theorem Account.kept (h : Account root vs d) (hnew : ∀ n ∈ d.nodes, n.id ≠ i.id root)
    {s : Symbols} (hs : Enters root i d.symbols s) :
    Account root (vs ++ [⟨i, true⟩])
      { d with nodes := d.nodes ++ [i.node root], symbols := s } where
  nodes := by rw [h.nodes, kept_append, List.map_append]; rfl
  findings := by rw [h.findings, dropped_append, List.map_append]; simp [dropped]
  edges := h.edges
  symbols := by
    rw [kept_append, List.filterMap_append]
    unfold Enters at hs
    cases he : i.entry? root with
    | none =>
      rw [he] at hs
      simpa [Graph.kept, he, hs] using h.symbols
    | some e =>
      rw [he] at hs
      have hone : (Graph.kept [⟨i, true⟩]).filterMap (Item.entry? root) = [e] := by
        simp [Graph.kept, he]
      rw [hone]
      exact Symbols.ofEntries_concat h.symbols hs
  decided := h.decided.concat <| iff_of_true rfl fun j hj ↦
    hnew (j.node root) (h.nodes ▸ List.mem_map_of_mem hj)

theorem Account.dropped (h : Account root vs d) (hold : ∃ n ∈ d.nodes, n.id = i.id root) :
    Account root (vs ++ [⟨i, false⟩]) { d with findings := d.findings ++ [i.duplicate] } where
  nodes := by rw [h.nodes, kept_append, List.map_append]; simp [Graph.kept]
  findings := by rw [h.findings, dropped_append, List.map_append]; rfl
  edges := h.edges
  symbols := by
    rw [kept_append]
    simpa [Graph.kept] using h.symbols
  decided := by
    obtain ⟨n, hn, hid⟩ := hold
    rw [h.nodes] at hn
    obtain ⟨j, hj, rfl⟩ := List.mem_map.mp hn
    exact h.decided.concat (iff_of_false Bool.false_ne_true fun hall ↦ hall j hj hid)

namespace Build

theorem run_addNode (n : Node) (d : Draft) : (addNode n).run.run d =
    if d.nodes.any (·.id == n.id) then
      (.ok false, { d with findings := d.findings ++ [.duplicateNode n.kind n.label] })
    else (.ok true, { d with nodes := d.nodes ++ [n] }) := by
  rw [addNode, run_bind, run_get]
  simp only
  split <;> rfl

theorem run_addSymbol (add : Symbols.Adding Unit) (d : Draft) : (addSymbol add).run.run d =
    ((add.run.run d.symbols).1.mapError .clash,
      { d with symbols := (add.run.run d.symbols).2 }) := by
  rw [addSymbol, run_bind, run_get]
  rcases h : add.run.run d.symbols with ⟨_ | _, t⟩ <;> simp only [h] <;> rfl

theorem addSymbol_ok {add : Symbols.Adding Unit} (h : (addSymbol add).run.run d = (.ok (), e)) :
    ∃ s, add.run.run d.symbols = (.ok (), s) ∧ e = { d with symbols := s } := by
  rw [run_addSymbol] at h
  rcases hadd : add.run.run d.symbols with ⟨_ | _, t⟩ <;> rw [hadd] at h <;> cases h
  exact ⟨t, rfl, rfl⟩

/-- A declaration is dropped, or it is kept and its names are yet to be entered. -/
theorem visit (h : Account root vs d) (i : Item) {f : Bool → Build α} {a : α}
    (hrun : (addNode (i.node root) >>= f).run.run d = (.ok a, e)) :
    (∃ d', Account root (vs ++ [⟨i, false⟩]) d' ∧ (f false).run.run d' = (.ok a, e)) ∨
    ∃ d', (∀ s, Enters root i d'.symbols s →
      Account root (vs ++ [⟨i, true⟩]) { d' with symbols := s }) ∧
      (f true).run.run d' = (.ok a, e) := by
  rw [run_bind, run_addNode] at hrun
  by_cases hany : d.nodes.any (·.id == (i.node root).id)
  · rw [if_pos hany, Item.kind_node] at hrun
    have hold : ∃ n ∈ d.nodes, n.id = i.id root := by simpa [Item.node] using hany
    exact .inl ⟨_, h.dropped hold, hrun⟩
  · rw [if_neg hany] at hrun
    have hnew : ∀ n ∈ d.nodes, n.id ≠ i.id root := by simpa [Item.node] using hany
    exact .inr ⟨{ d with nodes := d.nodes ++ [i.node root] }, fun s hs ↦ h.kept hnew hs, hrun⟩

theorem visit_plain (h : ∀ s, Enters root i d.symbols s →
    Account root vs { d with symbols := s }) (hi : i.entry? root = none) : Account root vs d :=
  h d.symbols (by rw [Enters, hi])

theorem addPorts_ok {home owner : String} {ownerKind : NodeKind} {ports : List String}
    (h : Account root vs d)
    (hrun : (addPorts root home ownerKind owner
      (identifier (Item.idTag ownerKind) [root, home, owner]) ports).run.run d = (.ok (), e)) :
    ∃ ws, Walks (ports.map (.port home ownerKind owner)) ws ∧ Account root (vs ++ ws) e := by
  induction ports generalizing vs d with
  | nil =>
    cases hrun
    exact ⟨[], .nil, by rwa [List.append_nil]⟩
  | cons port ports ih =>
    rcases visit h (.port home ownerKind owner port) hrun with ⟨d', h', hrest⟩ | ⟨d', h', hrest⟩
    · obtain ⟨ws, hws, hall⟩ := ih h' hrest
      exact ⟨_, .dropped hws, by rwa [List.append_assoc] at hall⟩
    · obtain ⟨⟨⟩, d₁, hadd, hrest⟩ := bind_ok hrest
      obtain ⟨s, hs, rfl⟩ := addSymbol_ok hadd
      obtain ⟨ws, hws, hall⟩ := ih (h' s hs) hrest
      exact ⟨_, .kept hws, by rwa [List.append_assoc] at hall⟩

theorem addDigitalTwins_ok {home : String} {twins : List Twin} (h : Account root vs d)
    (hrun : (addDigitalTwins root home (identifier "ts" [root, home]) twins).run.run d =
      (.ok (), e)) :
    ∃ ws, Walks (twins.map (.digitalTwin home)) ws ∧ Account root (vs ++ ws) e := by
  induction twins generalizing vs d with
  | nil =>
    cases hrun
    exact ⟨[], .nil, by rwa [List.append_nil]⟩
  | cons t twins ih =>
    rcases visit h (.digitalTwin home t) hrun with ⟨d', h', hrest⟩ | ⟨d', h', hrest⟩
    · obtain ⟨ws, hws, hall⟩ := ih h' hrest
      exact ⟨_, .dropped hws, by rwa [List.append_assoc] at hall⟩
    · obtain ⟨⟨⟩, d₁, hadd, hrest⟩ := bind_ok hrest
      obtain ⟨s, hs, rfl⟩ := addSymbol_ok hadd
      obtain ⟨⟨⟩, d₂, hports, hrest⟩ := bind_ok hrest
      obtain ⟨us, hus, h₂⟩ := addPorts_ok (h' s hs) hports
      obtain ⟨ws, hws, hall⟩ := ih h₂ hrest
      exact ⟨_, .kept (hus.append hws), by simpa using hall⟩

theorem addParts_ok {home : String} {twins : List Twin} (h : Account root vs d)
    (hrun : (addParts root home (identifier "ts" [root, home]) twins).run.run d = (.ok (), e)) :
    ∃ ws, Walks (twins.map (.part home)) ws ∧ Account root (vs ++ ws) e := by
  induction twins generalizing vs d with
  | nil =>
    cases hrun
    exact ⟨[], .nil, by rwa [List.append_nil]⟩
  | cons t twins ih =>
    rcases visit h (.part home t) hrun with ⟨d', h', hrest⟩ | ⟨d', h', hrest⟩
    · obtain ⟨ws, hws, hall⟩ := ih h' hrest
      exact ⟨_, .dropped hws, by rwa [List.append_assoc] at hall⟩
    · obtain ⟨⟨⟩, d₂, hports, hrest⟩ := bind_ok hrest
      obtain ⟨us, hus, h₂⟩ := addPorts_ok (visit_plain h' rfl) hports
      obtain ⟨ws, hws, hall⟩ := ih h₂ hrest
      exact ⟨_, .kept (hus.append hws), by simpa using hall⟩

theorem systems_of_inner {is : List Item} {ws : List Visit} (hws : Walks is ws)
    (his : ∀ i ∈ is, i.Inner) : (kept ws).filterMap Item.system? = [] := by
  rw [List.filterMap_eq_nil_iff]
  intro i hi
  exact Item.system?_of_inner
    (hws.forall_mem his (fun hi hj ↦ Item.inner_children hi hj) _ (mem_kept.mp hi))

theorem addSystems_ok {systems added : List System} (h : Account root vs d)
    (hrun : (addSystems root (identifier "dw" [root]) systems).run.run d = (.ok added, e)) :
    ∃ ws, Walks (systems.map .system) ws ∧ Account root (vs ++ ws) e ∧
      added = (kept ws).filterMap Item.system? := by
  induction systems generalizing vs d added with
  | nil =>
    cases hrun
    exact ⟨[], .nil, by rwa [List.append_nil], rfl⟩
  | cons s systems ih =>
    rcases visit h (.system s) hrun with ⟨d', h', hrest⟩ | ⟨d', h', hrest⟩
    · obtain ⟨ws, hws, hall, hadded⟩ := ih h' hrest
      exact ⟨_, .dropped hws, by rwa [List.append_assoc] at hall, hadded⟩
    · obtain ⟨⟨⟩, d₁, htwins, hrest⟩ := bind_ok hrest
      obtain ⟨us, hus, h₁⟩ := addDigitalTwins_ok (visit_plain h' rfl) htwins
      obtain ⟨⟨⟩, d₂, hparts, hrest⟩ := bind_ok hrest
      obtain ⟨us', hus', h₂⟩ := addParts_ok h₁ hparts
      obtain ⟨added', d₃, hrest, hpure⟩ := bind_ok hrest
      cases hpure
      obtain ⟨ws, hws, hall, rfl⟩ := ih h₂ hrest
      have hinner : Walks (Item.system s).children (us ++ us') := hus.append hus'
      refine ⟨_, .kept (hinner.append hws), by simpa using hall, ?_⟩
      have hnone := systems_of_inner hinner (by simp [Item.children, Item.Inner, Item.kind, or_imp,
        forall_and])
      rw [← List.cons_append, kept_append, List.filterMap_append]
      show _ = s :: (kept (us ++ us')).filterMap Item.system? ++ _
      rw [hnone]
      rfl

theorem addGoals_ok {goals : List Goal} (h : Account root vs d)
    (hrun : (addGoals root (identifier "dw" [root]) goals).run.run d = (.ok (), e)) :
    ∃ ws, Walks (goals.map .goal) ws ∧ Account root (vs ++ ws) e := by
  induction goals generalizing vs d with
  | nil =>
    cases hrun
    exact ⟨[], .nil, by rwa [List.append_nil]⟩
  | cons g goals ih =>
    rcases visit h (.goal g) hrun with ⟨d', h', hrest⟩ | ⟨d', h', hrest⟩
    · obtain ⟨ws, hws, hall⟩ := ih h' hrest
      exact ⟨_, .dropped hws, by rwa [List.append_assoc] at hall⟩
    · obtain ⟨ws, hws, hall⟩ := ih (h' _ rfl) hrest
      exact ⟨_, .kept hws, by rwa [List.append_assoc] at hall⟩

end Build

end TwinDiagram.Graph
