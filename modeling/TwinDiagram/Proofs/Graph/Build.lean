import TwinDiagram.Graph.OfModel
import TwinDiagram.Proofs.Graph.Symbols
import TwinDiagram.Proofs.Parser.Names

namespace TwinDiagram.Graph

open Program

variable {α : Type}

theorem findDuplicate_eq_none_iff {seen : List String} {index : Nat} {nodes : List Node} :
    findDuplicate seen index nodes = none ↔
      (nodes.map (·.id)).Nodup ∧ ∀ n ∈ nodes, n.id ∉ seen := by
  induction nodes generalizing seen index with
  | nil => simp [findDuplicate]
  | cons n nodes ih =>
    unfold findDuplicate
    by_cases h : n.id ∈ seen
    · simp [h]
    · simp only [List.contains_iff_mem, h, if_false, ih, List.map_cons, List.nodup_cons]
      grind

theorem findUnknown_eq_none_iff {ids : List String} {index : Nat} {edges : List Edge} :
    findUnknown ids index edges = none ↔ ∀ e ∈ edges, e.source ∈ ids ∧ e.target ∈ ids := by
  induction edges generalizing index with
  | nil => simp [findUnknown]
  | cons e edges ih =>
    unfold findUnknown
    by_cases hs : e.source ∈ ids
    · by_cases ht : e.target ∈ ids <;> simp [hs, ht, ih]
    · simp [hs]

theorem fault?_eq_none_iff {nodes : List Node} {edges : List Edge} :
    fault? nodes edges = none ↔ (nodes.map (·.id)).Nodup ∧
      ∀ e ∈ edges, e.source ∈ nodes.map (·.id) ∧ e.target ∈ nodes.map (·.id) := by
  have hnodes : findDuplicate [] 0 nodes = none ↔ (nodes.map (·.id)).Nodup := by
    simp [findDuplicate_eq_none_iff]
  have hedges := @findUnknown_eq_none_iff (nodes.map (·.id)) 0 edges
  rw [← hnodes, ← hedges, fault?]
  cases findDuplicate [] 0 nodes <;> simp

theorem ofParts_eq_ok_iff {nodes : List Node} {edges : List Edge} {g : Graph} :
    ofParts nodes edges = .ok g ↔ g = ⟨nodes, edges⟩ ∧ (nodes.map (·.id)).Nodup ∧
      ∀ e ∈ edges, e.source ∈ nodes.map (·.id) ∧ e.target ∈ nodes.map (·.id) := by
  rw [← fault?_eq_none_iff, ofParts]
  cases fault? nodes edges <;> simp [eq_comm]

namespace Draft

def Has (d : Draft) (id : String) : Prop := id ∈ d.nodes.map (·.id)

structure Sound (d : Draft) : Prop where
  distinct : (d.nodes.map (·.id)).Nodup
  symbols : d.symbols.Sound d.Has
  edges : ∀ e ∈ d.edges, d.Has e.source ∧ d.Has e.target

theorem Sound.empty : Sound empty := ⟨.nil, .empty, fun _ h ↦ nomatch h⟩

theorem Sound.ofParts {d : Draft} (h : d.Sound) :
    ofParts d.nodes d.edges = .ok ⟨d.nodes, d.edges⟩ :=
  ofParts_eq_ok_iff.mpr ⟨rfl, h.distinct, h.edges⟩

end Draft

namespace Build

open Draft

theorem report_achieves (f : Finding) : Achieves Sound (report f) fun _ ↦ Sound :=
  fun d hd ↦ ⟨(), { d with findings := d.findings ++ [f] }, rfl, { hd with }⟩

theorem addNode_achieves (n : Node) :
    Achieves Sound (addNode n) fun added d ↦ d.Sound ∧ (added → d.Has n.id) := by
  intro d hd
  rw [addNode, run_bind, run_get]
  by_cases h : d.nodes.any (·.id == n.id)
  · simp only [h, if_true]
    refine (Achieves.bind (report_achieves _) fun _ ↦ .pure fun e he ↦ ?_) d hd
    exact ⟨he, fun h ↦ nomatch h⟩
  · simp only [h]
    refine ⟨true, { d with nodes := d.nodes ++ [n] }, rfl, ?_, ?_⟩
    · have hnew : n.id ∉ d.nodes.map (·.id) := by simpa using h
      have hold : ∀ {id}, d.Has id → Has { d with nodes := d.nodes ++ [n] } id := by
        intro id hid
        simp only [Has, List.map_append]
        exact List.mem_append_left _ hid
      refine ⟨?_, hd.symbols.mono hold, fun e he ↦ ⟨hold (hd.edges e he).1, hold (hd.edges e he).2⟩⟩
      rw [List.map_append, List.nodup_append]
      refine ⟨hd.distinct, by simp, fun a ha b hb he ↦ hnew ?_⟩
      have hb : b = n.id := List.mem_singleton.mp hb
      exact hb ▸ he ▸ ha
    · simp [Has]

theorem addSymbol_achieves {id : String} {add : Symbols.Adding Unit}
    (hadd : ∀ {s : Symbols} {P : String → Prop}, s.Sound P → P id →
      ∃ t, add.run.run s = (.ok (), t) ∧ t.Sound P) :
    Achieves (fun d ↦ d.Sound ∧ d.Has id) (addSymbol add) fun _ ↦ Sound := by
  intro d ⟨hd, hid⟩
  obtain ⟨t, hrun, ht⟩ := hadd hd.symbols hid
  refine ⟨(), { d with symbols := t }, ?_, { hd with symbols := ht }⟩
  rw [addSymbol, run_bind, run_get]
  simp only [hrun]
  rfl

theorem addPort_achieves {system owner port id : String} (hsystem : IsIdentifier system)
    (howner : IsIdentifier owner) (hport : IsIdentifier port) :
    Achieves (fun d ↦ d.Sound ∧ d.Has id) (addSymbol (Symbols.addPort system owner port id))
      fun _ ↦ Sound :=
  addSymbol_achieves fun hs hid ↦ Symbols.addPort_ok hs hsystem howner hport hid

theorem addTwin_achieves {system twin id : String} (hsystem : IsIdentifier system)
    (htwin : IsIdentifier twin) :
    Achieves (fun d ↦ d.Sound ∧ d.Has id) (addSymbol (Symbols.addTwin system twin id))
      fun _ ↦ Sound :=
  addSymbol_achieves fun hs hid ↦ Symbols.addTwin_ok hs hsystem htwin hid

theorem addGoal_achieves (goal id : String) :
    Achieves (fun d ↦ d.Sound ∧ d.Has id)
      (modify fun d ↦ { d with symbols := d.symbols.addGoal goal id } : Build Unit)
      fun _ ↦ Sound :=
  fun _ h ↦ ⟨(), _, rfl, { h.1 with symbols := h.1.symbols.addGoal h.2 }⟩

theorem addNode_bind_achieves {n : Node} {f : Bool → Build α} {post : α → Draft → Prop}
    (hnew : Achieves (fun d ↦ d.Sound ∧ d.Has n.id) (f true) post)
    (hold : Achieves Sound (f false) post) : Achieves Sound (addNode n >>= f) post := by
  refine (addNode_achieves n).bind fun added ↦ ?_
  cases added with
  | false => exact hold.weaken fun _ h ↦ h.1
  | true => exact hnew.weaken fun _ h ↦ ⟨h.1, h.2 rfl⟩

theorem addPorts_achieves (root : String) {system owner : String} (kind : NodeKind)
    (ownerId : String) {ports : List String} (hsystem : IsIdentifier system)
    (howner : IsIdentifier owner) (hports : ∀ p ∈ ports, IsIdentifier p) :
    Achieves Sound (addPorts root system kind owner ownerId ports) fun _ ↦ Sound := by
  induction ports with
  | nil => exact .pure fun _ h ↦ h
  | cons port ports ih =>
    have hrest := ih fun p hp ↦ hports p (.tail _ hp)
    have hport := hports port (.head _)
    exact addNode_bind_achieves ((addPort_achieves hsystem howner hport).bind fun _ ↦ hrest)
      hrest

theorem addDigitalTwins_achieves (root systemId : String) {system : String} {twins : List Twin}
    (hsystem : IsIdentifier system) (htwins : ∀ t ∈ twins, t.Named IsIdentifier) :
    Achieves Sound (addDigitalTwins root system systemId twins) fun _ ↦ Sound := by
  induction twins with
  | nil => exact .pure fun _ h ↦ h
  | cons t twins ih =>
    have hrest := ih fun t ht ↦ htwins t (.tail _ ht)
    have ht := htwins t (.head _)
    exact addNode_bind_achieves ((addTwin_achieves hsystem ht.1).bind fun _ ↦
      (addPorts_achieves _ _ _ hsystem ht.1 ht.2).bind fun _ ↦ hrest) hrest

theorem addParts_achieves (root systemId : String) {system : String} {twins : List Twin}
    (hsystem : IsIdentifier system) (htwins : ∀ t ∈ twins, t.Named IsIdentifier) :
    Achieves Sound (addParts root system systemId twins) fun _ ↦ Sound := by
  induction twins with
  | nil => exact .pure fun _ h ↦ h
  | cons t twins ih =>
    have hrest := ih fun t ht ↦ htwins t (.tail _ ht)
    have ht := htwins t (.head _)
    have hports := addPorts_achieves root .part (identifier "at" [root, system, t.name]) hsystem
      ht.1 ht.2
    exact addNode_bind_achieves ((hports.weaken fun _ h ↦ h.1).bind fun _ ↦ hrest) hrest

theorem addSystems_achieves (root rootId : String) {systems : List System}
    (hsystems : ∀ s ∈ systems, s.Named IsIdentifier) :
    Achieves Sound (addSystems root rootId systems) fun _ ↦ Sound := by
  induction systems with
  | nil => exact .pure fun _ h ↦ h
  | cons s systems ih =>
    have hrest := ih fun s hs ↦ hsystems s (.tail _ hs)
    have hs := hsystems s (.head _)
    have htwins := addDigitalTwins_achieves root (identifier "ts" [root, s.name]) hs.name
      hs.digitalTwins
    exact addNode_bind_achieves ((htwins.weaken fun _ h ↦ h.1).bind fun _ ↦
      (addParts_achieves _ _ hs.name hs.parts).bind fun _ ↦ hrest.bind fun _ ↦
        .pure fun _ h ↦ h) hrest

theorem addGoals_achieves (root rootId : String) (goals : List Goal) :
    Achieves Sound (addGoals root rootId goals) fun _ ↦ Sound := by
  induction goals with
  | nil => exact .pure fun _ h ↦ h
  | cons g goals ih => exact addNode_bind_achieves ((addGoal_achieves g.name _).bind fun _ ↦ ih) ih

theorem run_pathOf {d : Draft} {id : String} (h : (d.symbols.paths.get? id).isSome) :
    ∃ p, (pathOf id).run.run d = (.ok p, d) := by
  obtain ⟨p, hp⟩ := Option.isSome_iff_exists.mp h
  refine ⟨p, ?_⟩
  rw [pathOf, run_bind, run_get]
  simp only [hp]
  rfl

theorem addEdge_achieves (e : Edge) :
    Achieves (fun d ↦ d.Sound ∧ d.Has e.source ∧ d.Has e.target) (addEdge e) fun _ ↦ Sound := by
  intro d ⟨hd, hends⟩
  rw [addEdge, run_bind, run_get]
  by_cases h : d.edges.any (·.id == e.id)
  · simp only [h, if_true]
    exact report_achieves _ d hd
  · simp only [h]
    refine ⟨(), { d with edges := d.edges ++ [e] }, rfl, { hd with edges := fun e' he' ↦ ?_ }⟩
    rcases List.mem_append.mp he' with he' | he'
    · exact hd.edges e' he'
    · exact List.mem_singleton.mp he' ▸ hends

theorem addConnection_achieves (root system : String) (c : Connection) :
    Achieves Sound (addConnection root system c) fun _ ↦ Sound := by
  intro d hd
  rw [addConnection, run_bind, run_get]
  simp only
  split
  · exact report_achieves _ d hd
  · exact report_achieves _ d hd
  · next source target hsource htarget =>
    have hs := hd.symbols.of_port? hsource
    have ht := hd.symbols.of_port? htarget
    obtain ⟨p, hp⟩ := run_pathOf hs.2
    obtain ⟨q, hq⟩ := run_pathOf ht.2
    simp only [run_bind, hp, hq]
    exact addEdge_achieves _ d ⟨hd, hs.1, ht.1⟩

theorem addAllocation_achieves (root : String) (a : Allocation) :
    Achieves Sound (addAllocation root a) fun _ ↦ Sound := by
  intro d hd
  rw [addAllocation, run_bind, run_get]
  simp only
  split
  · exact report_achieves _ d hd
  · exact report_achieves _ d hd
  · next goal twin hgoal htwin =>
    have ht := hd.symbols.of_twin? htwin
    obtain ⟨p, hp⟩ := run_pathOf ht.2
    simp only [run_bind, hp]
    exact addEdge_achieves _ d ⟨hd, ht.1, hd.symbols.goals hgoal⟩

theorem forM_achieves {f : α → Build Unit} {xs : List α}
    (hf : ∀ x, Achieves Sound (f x) fun _ ↦ Sound) :
    Achieves Sound (xs.forM f) fun _ ↦ Sound := by
  induction xs with
  | nil => exact .pure fun _ h ↦ h
  | cons x xs ih => exact (hf x).bind fun _ ↦ ih

theorem graph_achieves {m : Model} (hm : m.Named IsIdentifier) :
    Achieves Sound (graph m) fun _ ↦ Sound := by
  have hconnections (systems : List System) :
      Achieves Sound (systems.forM fun s ↦ s.connections.forM (addConnection (rootName m) s.name))
        fun _ ↦ Sound := forM_achieves fun s ↦ forM_achieves (addConnection_achieves _ s.name)
  have hallocations :
      Achieves Sound (m.allocations.forM (addAllocation (rootName m))) fun _ ↦ Sound :=
    forM_achieves (addAllocation_achieves _)
  unfold graph
  refine (addNode_achieves _).bind fun _ ↦ .weaken ?_ fun _ h ↦ h.1
  refine (addSystems_achieves _ _ hm.systems).bind fun systems ↦
    (addGoals_achieves _ _ _).bind fun _ ↦ ?_
  refine (hconnections systems).bind fun _ ↦ hallocations.bind fun _ ↦ ?_
  intro d hd
  refine ⟨⟨d.nodes, d.edges⟩, d, ?_, hd⟩
  rw [run_bind, run_get]
  simp only [hd.ofParts]
  rfl

end Build

theorem ofModel_ok {m : Model} (hm : m.Named IsIdentifier) :
    ∃ g d, ofModel m = (.ok g, d) ∧ d.Sound :=
  Build.graph_achieves hm .empty .empty

/-- Whatever a text has wrong, it has a model, and the model has a graph. -/
theorem text_has_graph (text : String) :
    ∃ m s g d, Parser.readText text = (.ok m, s) ∧ ofModel m = (.ok g, d) := by
  obtain ⟨m, s, hread, hm⟩ := Parser.readText_ok text
  obtain ⟨g, d, hgraph, -⟩ := ofModel_ok hm
  exact ⟨m, s, g, d, hread, hgraph⟩

end TwinDiagram.Graph
