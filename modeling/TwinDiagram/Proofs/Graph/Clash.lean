import TwinDiagram.Interchange.Load
import TwinDiagram.Proofs.Graph.Confusion
import TwinDiagram.Proofs.Graph.Listing
import TwinDiagram.Proofs.Graph.WellFormed

namespace TwinDiagram.Graph

open Program

variable {root : String} {i : Item} {is js : List Item} {vs : List Visit} {d : Draft} {α β : Type}

/-- Declarations can always be visited, whatever was visited before. -/
theorem exists_walk {same : Item → Item → Prop} (h : Decided same vs) (is : List Item) :
    ∃ ws, Walks is ws ∧ Decided same (vs ++ ws) := by
  -- By the number of declarations that are left: a dropped one takes all that it holds with it.
  generalize hn : (is.flatMap Item.listing).length = n
  induction n using Nat.strongRecOn generalizing is vs with
  | _ n ih =>
    subst hn
    cases is with
    | nil => exact ⟨[], .nil, by rwa [List.append_nil]⟩
    | cons i is =>
      rw [List.flatMap_cons, Item.listing_eq, List.cons_append, ← List.flatMap_append] at ih
      by_cases hnew : ∀ j ∈ kept vs, ¬ same j i
      · obtain ⟨ws, hws, hdecided⟩ := ih _ (Nat.lt_succ_self _)
          (h.concat (v := ⟨i, true⟩) (iff_of_true rfl hnew)) _ rfl
        exact ⟨_, .kept hws, by rwa [List.append_assoc] at hdecided⟩
      · have hshorter : (is.flatMap Item.listing).length <
            (i :: (i.children ++ is).flatMap Item.listing).length := by
          rw [List.flatMap_append, List.length_cons, List.length_append]
          omega
        obtain ⟨ws, hws, hdecided⟩ := ih _ hshorter
          (h.concat (v := ⟨i, false⟩) (iff_of_false Bool.false_ne_true hnew)) is rfl
        exact ⟨_, .dropped hws, by rwa [List.append_assoc] at hdecided⟩

def SameId (root : String) (i j : Item) : Prop := i.id root = j.id root

/-- What kept declarations enter into the symbols. -/
def entered (root : String) (vs : List Visit) : List Entry := (kept vs).filterMap (Item.entry? root)

theorem entered_append (vs ws : List Visit) :
    entered root (vs ++ ws) = entered root vs ++ entered root ws := by
  rw [entered, kept_append, List.filterMap_append]
  rfl

/-- The program visits these declarations, so long as their names do not clash. -/
def Visits (root : String) (is : List Item) (p : Build α) : Prop :=
  ∀ vs d, Account root vs d → ∃ ws, Walks is ws ∧ Decided (SameId root) (vs ++ ws) ∧
    ((∃ a e, p.run.run d = (.ok a, e) ∧ Account root (vs ++ ws) e) ∨
      ∃ c, (p.run.run d).1 = .error (.clash c) ∧
        (Symbols.ofEntries (entered root (vs ++ ws))).1 = .error c)

namespace Visits

theorem pure (a : α) : Visits root [] (pure a : Build α) := by
  intro vs d h
  refine ⟨[], .nil, ?_, .inl ⟨a, d, rfl, ?_⟩⟩ <;> rw [List.append_nil]
  · exact h.decided
  · exact h

theorem bind {p : Build α} {f : α → Build β} (hp : Visits root is p)
    (hf : ∀ a, Visits root js (f a)) : Visits root (is ++ js) (p >>= f) := by
  intro vs d h
  obtain ⟨ws, hws, hdecided, ⟨a, e, hrun, haccount⟩ | ⟨c, hrun, hclash⟩⟩ := hp vs d h
  · obtain ⟨us, hus, hdecided', hresult⟩ := hf a _ e haccount
    refine ⟨ws ++ us, hws.append hus, ?_, ?_⟩
    · rwa [List.append_assoc] at hdecided'
    · rw [run_bind, hrun]
      rwa [List.append_assoc] at hresult
  · -- The rest is not visited any more, but it could have been.
    obtain ⟨us, hus, hdecided'⟩ := exists_walk hdecided js
    rw [List.append_assoc] at hdecided'
    refine ⟨ws ++ us, hws.append hus, hdecided', .inr ⟨c, ?_, ?_⟩⟩
    · rw [run_bind_error hrun]
    · rw [← List.append_assoc, entered_append]
      exact Symbols.ofEntries_append_error hclash _

/-- What a node enters is entered, or clashes, before what it holds is visited. -/
theorem node {f : Bool → Build α} {q : Build α}
    (hsymbol : ∀ d : Draft,
      (∃ t, Enters root i d.symbols t ∧ (f true).run.run d = q.run.run { d with symbols := t }) ∨
      ∃ e c, i.entry? root = some e ∧ (e.add.run.run d.symbols).1 = .error c ∧
        ((f true).run.run d).1 = .error (.clash c))
    (hkept : Visits root (i.children ++ is) q) (hdropped : Visits root is (f false)) :
    Visits root (i :: is) (Build.addNode (i.node root) >>= f) := by
  intro vs d h
  rw [run_bind, Build.run_addNode]
  by_cases hany : d.nodes.any (·.id == (i.node root).id)
  · rw [if_pos hany, Item.kind_node]
    have hold : ∃ n ∈ d.nodes, n.id = i.id root := by simpa [Item.node] using hany
    obtain ⟨ws, hws, hdecided, hresult⟩ := hdropped _ _ (h.dropped hold)
    rw [List.append_assoc] at hdecided hresult
    exact ⟨_, .dropped hws, hdecided, hresult⟩
  · rw [if_neg hany]
    have hnew : ∀ n ∈ d.nodes, n.id ≠ i.id root := by simpa [Item.node] using hany
    rcases hsymbol { d with nodes := d.nodes ++ [i.node root] }
      with ⟨t, ht, hrun⟩ | ⟨e, c, he, hc, hrun⟩
    · obtain ⟨ws, hws, hdecided, hresult⟩ := hkept _ _ (h.kept hnew ht)
      rw [List.append_assoc] at hdecided hresult
      refine ⟨_, .kept hws, hdecided, ?_⟩
      simp only [hrun]
      exact hresult
    · have hkeep : Decided (SameId root) (vs ++ [⟨i, true⟩]) := by
        apply h.decided.concat
        refine iff_of_true rfl fun j hj ↦ ?_
        exact hnew (j.node root) (h.nodes ▸ List.mem_map_of_mem hj)
      obtain ⟨ws, hws, hdecided⟩ := exists_walk hkeep (i.children ++ is)
      rw [List.append_assoc] at hdecided
      have hentered : entered root (vs ++ ⟨i, true⟩ :: ws) = entered root vs ++ [e] ++
          entered root ws := by
        have hone : entered root [⟨i, true⟩] = [e] := by simp [entered, kept, he]
        rw [List.append_cons, entered_append, entered_append, hone]
      refine ⟨_, .kept hws, hdecided, .inr ⟨c, hrun, ?_⟩⟩
      rw [hentered]
      exact Symbols.ofEntries_append_error (Symbols.ofEntries_concat_error h.symbols hc) _

theorem plain {f : Bool → Build α} (hi : i.entry? root = none)
    (hkept : Visits root (i.children ++ is) (f true)) (hdropped : Visits root is (f false)) :
    Visits root (i :: is) (Build.addNode (i.node root) >>= f) :=
  node (fun d ↦ .inl ⟨d.symbols, by rw [Enters, hi], rfl⟩) hkept hdropped

theorem symbol {f : Bool → Build α} {e : Entry} {q : Build α} (hi : i.entry? root = some e)
    (hf : f true = Build.addSymbol e.add >>= fun _ ↦ q) (hkept : Visits root (i.children ++ is) q)
    (hdropped : Visits root is (f false)) :
    Visits root (i :: is) (Build.addNode (i.node root) >>= f) := by
  refine node (fun d ↦ ?_) hkept hdropped
  rw [hf, run_bind, Build.run_addSymbol]
  rcases hadd : e.add.run.run d.symbols with ⟨c | _, t⟩
  · exact .inr ⟨e, c, hi, by rw [hadd], rfl⟩
  · exact .inl ⟨t, by rw [Enters, hi]; exact hadd, rfl⟩

end Visits

namespace Build

theorem addPorts_visits (home owner : String) (ownerKind : NodeKind) (ports : List String) :
    Visits root (ports.map (.port home ownerKind owner)) (addPorts root home ownerKind owner
      (identifier (Item.idTag ownerKind) [root, home, owner]) ports) := by
  induction ports with
  | nil => exact .pure ()
  | cons port ports ih => exact Visits.symbol (i := .port home ownerKind owner port) rfl rfl ih ih

theorem addDigitalTwins_visits (home : String) (twins : List Twin) :
    Visits root (twins.map (.digitalTwin home))
      (addDigitalTwins root home (identifier "ts" [root, home]) twins) := by
  induction twins with
  | nil => exact .pure ()
  | cons t twins ih =>
    apply Visits.symbol (i := .digitalTwin home t) rfl rfl _ ih
    exact (addPorts_visits home t.name .digitalTwin t.ports).bind fun _ ↦ ih

theorem addParts_visits (home : String) (twins : List Twin) :
    Visits root (twins.map (.part home))
      (addParts root home (identifier "ts" [root, home]) twins) := by
  induction twins with
  | nil => exact .pure ()
  | cons t twins ih =>
    apply Visits.plain (i := .part home t) rfl _ ih
    exact (addPorts_visits home t.name .part t.ports).bind fun _ ↦ ih

theorem addSystems_visits (systems : List System) : Visits root (systems.map .system)
    (addSystems root (identifier "dw" [root]) systems) := by
  induction systems with
  | nil => exact .pure []
  | cons s systems ih =>
    apply Visits.plain (i := .system s) rfl _ ih
    have hinside := (@addDigitalTwins_visits root s.name s.digitalTwins).bind fun _ ↦
      (addParts_visits s.name s.parts).bind fun _ ↦ ih.bind fun added ↦ .pure (s :: added)
    simpa [Item.children] using hinside

theorem addGoals_visits (goals : List Goal) :
    Visits root (goals.map .goal) (addGoals root (identifier "dw" [root]) goals) := by
  induction goals with
  | nil => exact .pure ()
  | cons g goals ih =>
    refine Visits.node (i := .goal g) (fun d ↦ .inl ⟨_, rfl, ?_⟩) ih ih
    rfl

end Build

namespace Account

variable {e : Edge} {l : Link} {id : String}

theorem mem_nodes (h : Account root vs d) {k : NodeKind}
    (hid : ∃ e ∈ entered root vs, e.kind = k ∧ e.id = id) : id ∈ d.nodes.map Node.id := by
  obtain ⟨e, he, -, rfl⟩ := hid
  obtain ⟨i, hi, he⟩ := List.mem_filterMap.mp he
  rw [h.nodes, ← (Item.entry?_eq_some root he).2, List.map_map]
  exact List.mem_map_of_mem hi

theorem isSome_paths (h : Account root vs d) {k : NodeKind} (hk : k ≠ .goal)
    (hid : ∃ e ∈ entered root vs, e.kind = k ∧ e.id = id) : (d.symbols.paths.get? id).isSome := by
  obtain ⟨e, he, rfl, rfl⟩ := hid
  rw [(Symbols.ofEntries_listed h.symbols).paths, Table.lookup_isSome_iff]
  cases e with
  | port | twin => exact List.mem_map.mpr ⟨_, List.mem_filterMap.mpr ⟨_, he, rfl⟩, rfl⟩
  | goal => exact absurd rfl hk

theorem port (h : Account root vs d) {home reference : String}
    (hid : d.symbols.port? home reference = some id) :
    id ∈ d.nodes.map Node.id ∧ (d.symbols.paths.get? id).isSome := by
  have hentry := Symbols.points_port? (Symbols.ofEntries_added h.symbols).ports hid
  exact ⟨h.mem_nodes hentry, h.isSome_paths (by decide) hentry⟩

theorem twin (h : Account root vs d) {reference : String}
    (hid : d.symbols.twin? reference = some id) :
    id ∈ d.nodes.map Node.id ∧ (d.symbols.paths.get? id).isSome := by
  have hentry := Symbols.points_twin? (Symbols.ofEntries_added h.symbols).twins hid
  exact ⟨h.mem_nodes hentry, h.isSome_paths (by decide) hentry⟩

theorem ends (h : Account root vs d) (hmeets : l.Meets root d.symbols e) :
    e.source ∈ d.nodes.map Node.id ∧ e.target ∈ d.nodes.map Node.id := by
  cases hmeets with
  | connection hsource htarget => exact ⟨(h.port hsource).1, (h.port htarget).1⟩
  | allocation hgoal htwin =>
    exact ⟨(h.twin htwin).1, h.mem_nodes ((Symbols.ofEntries_added h.symbols).goals hgoal)⟩

theorem exists_addEdge (e : Edge) (d : Draft) :
    ∃ d', (Build.addEdge e).run.run d = (.ok (), d') := by
  rw [Build.run_addEdge]
  split <;> exact ⟨_, rfl⟩

/-- What is connected or allocated never fails, whatever edges there are. -/
theorem add_ok (h : Account root vs d) (l : Link) {e : Draft} (he : e.symbols = d.symbols) :
    ∃ e', (l.add root).run.run e = (.ok (), e') := by
  cases l with
  | connection home c =>
    rw [Link.add, Build.addConnection, run_bind, run_get]
    simp only
    split
    · exact ⟨_, rfl⟩
    · exact ⟨_, rfl⟩
    · next source target hsource htarget =>
      rw [he] at hsource htarget
      obtain ⟨p, hp⟩ := Build.run_pathOf (d := e) (he ▸ (h.port hsource).2)
      obtain ⟨q, hq⟩ := Build.run_pathOf (d := e) (he ▸ (h.port htarget).2)
      simp only [run_bind, hp, hq]
      exact exists_addEdge _ e
  | allocation a =>
    rw [Link.add, Build.addAllocation, run_bind, run_get]
    simp only
    split
    · exact ⟨_, rfl⟩
    · exact ⟨_, rfl⟩
    · next goal twin hgoal htwin =>
      rw [he] at htwin
      obtain ⟨p, hp⟩ := Build.run_pathOf (d := e) (he ▸ (h.twin htwin).2)
      simp only [run_bind, hp]
      exact exists_addEdge _ e

theorem forM_add_ok (h : Account root vs d) (ls : List Link) {e : Draft}
    (he : e.symbols = d.symbols) :
    ∃ e', (forM ls (Link.add root)).run.run e = (.ok (), e') := by
  induction ls generalizing e with
  | nil => exact ⟨e, rfl⟩
  | cons l ls ih =>
    obtain ⟨e', hl⟩ := h.add_ok l he
    obtain ⟨o, -, rfl⟩ := Build.add_ok hl
    obtain ⟨e'', hls⟩ := ih (e := Build.noted e [o]) he
    refine ⟨e'', ?_⟩
    show (l.add root >>= fun _ ↦ forM ls (Link.add root)).run.run e = _
    rw [run_bind, hl]
    exact hls

end Account

namespace Build

def declare (m : Model) : Build (List System) := do
  let root := rootName m
  let systems ← addSystems root (identifier "dw" [root]) m.systems
  addGoals root (identifier "dw" [root]) m.goals
  return systems

def finish : Build Graph := do
  let d ← get
  match Graph.ofParts d.nodes d.edges with
  | .ok g => return g
  | .error f => throw (.malformed f)

/-- The part that draws edges and puts the graph together. -/
def draw (m : Model) (systems : List System) : Build Graph := do
  forM (systems.flatMap (fun s ↦ s.connections.map (.connection s.name)) ++
    m.allocations.map .allocation) (Link.add (rootName m))
  finish

theorem graph_eq (m : Model) :
    graph m = addNode (Item.node (rootName m) (.root m)) >>= fun _ ↦ declare m >>= draw m := by
  have hdraw (systems : List System) : draw m systems =
      (systems.forM fun s ↦ s.connections.forM (addConnection (rootName m) s.name)) >>= fun _ ↦
        m.allocations.forM (addAllocation (rootName m)) >>= fun _ ↦ finish := by
    rw [draw, List.forM_append, forM_connections, List.forM_map, bind_assoc]
    rfl
  simp only [declare, bind_assoc, pure_bind, hdraw]
  rfl

theorem declare_visits (m : Model) :
    Visits (rootName m) (Item.children (.root m)) (declare m) := by
  have hvisits := (@addSystems_visits (rootName m) m.systems).bind fun systems ↦
    (addGoals_visits m.goals).bind fun _ ↦ .pure systems
  rwa [List.append_nil] at hvisits

theorem finish_ok (h : (d.nodes.map Node.id).Nodup)
    (hends : ∀ e ∈ d.edges, e.source ∈ d.nodes.map Node.id ∧ e.target ∈ d.nodes.map Node.id) :
    finish.run.run d = (.ok ⟨d.nodes, d.edges⟩, d) := by
  rw [finish, run_bind, run_get]
  simp only [ofParts_eq_ok_iff.mpr ⟨rfl, h, hends⟩]
  rfl

theorem draw_ok (m : Model) (systems : List System) (h : Account (rootName m) vs d) :
    ∃ g e, (draw m systems).run.run d = (.ok g, e) := by
  rw [draw, run_bind]
  generalize systems.flatMap _ ++ _ = ls
  obtain ⟨e, hrun⟩ := h.forM_add_ok ls rfl
  obtain ⟨os, hos, rfl⟩ := Build.forM_add_ok hrun
  rw [hrun]
  refine ⟨_, _, finish_ok ?_ ?_⟩
  · show (d.nodes.map Node.id).Nodup
    rw [h.nodes, List.map_map]
    exact List.pairwise_map.mpr h.decided.pairwise
  · intro e he
    rw [noted, h.edges, List.nil_append] at he
    obtain ⟨l, -, hmeets⟩ := hos.meets e he
    exact h.ends hmeets

end Build

/-- A model has a graph unless a name without its system reads like a name with one that is known
already. Nothing else keeps it from having one. -/
theorem ofModel_ok_or_clash (m : Model) : ∃ vs, Walks [.root m] vs ∧
    Decided (SameId (Build.rootName m)) vs ∧
    ((¬ Symbols.Confused (entered (Build.rootName m) vs) ∧ ∃ g d, ofModel m = (.ok g, d)) ∨
      (Symbols.Confused (entered (Build.rootName m) vs) ∧
        ∃ c d, ofModel m = (.error (.clash c), d))) := by
  have hroot : Account (Build.rootName m) [⟨.root m, true⟩]
      ⟨[Item.node (Build.rootName m) (.root m)], [], .empty, []⟩ :=
    (Account.empty (Build.rootName m)).kept (List.forall_mem_nil _) rfl
  obtain ⟨ws, hws, hdecided, hresult⟩ := Build.declare_visits m _ _ hroot
  refine ⟨[⟨.root m, true⟩] ++ ws, .kept (by rwa [List.append_nil]), hdecided, ?_⟩
  have hrun : ofModel m = (Build.declare m >>= Build.draw m).run.run
      ⟨[Item.node (Build.rootName m) (.root m)], [], .empty, []⟩ := by
    rw [ofModel, Build.graph_eq, run_bind, Build.run_addNode]
    rfl
  rw [hrun]
  rcases hresult with ⟨systems, d, hd, haccount⟩ | ⟨c, hc, hclash⟩
  · have hsymbols : Symbols.ofEntries (entered (Build.rootName m) _) = (.ok (), d.symbols) :=
      haccount.symbols
    refine .inl ⟨?_, ?_⟩
    · rw [Symbols.confused_iff, hsymbols]
      exact fun ⟨_, h⟩ ↦ nomatch h
    · rw [run_bind, hd]
      exact Build.draw_ok m systems haccount
  · exact .inr ⟨Symbols.confused_iff.mpr ⟨c, hclash⟩, c, _, run_bind_error hc⟩

/-- The digital twin `s.t` of the system `s` is named like its twin `t` with the system in front. -/
theorem ofModel_clash_of_dotted_twin :
    let d : Json := .object [("type", .text "DarTwin"), ("name", .text "d"),
      ("systems", .list [.object [("name", .text "s"), ("digital_twins", .list
        [.object [("name", .text "t"), ("ports", .list [])],
          .object [("name", .text "s.t"), ("ports", .list [])]]),
        ("original_twins", .list []), ("connections", .list [])]]),
      ("goals", .list []), ("allocations", .list [])]
    ∃ m e, Interchange.loadModel (.ofJson d) = .ok m ∧
      ofModel m = (.error (.clash ⟨"s.t"⟩), e) := by
  intro d
  exact ⟨_, _, rfl, rfl⟩

end TwinDiagram.Graph
