import TwinDiagram.Proofs.Graph.Collapse
import TwinDiagram.Proofs.Graph.WellFormed

namespace TwinDiagram.Graph

/-- The port of an owner in a system. -/
structure PortOf (g : Graph) (home owner port : Node) : Prop where
  kind : port.kind = .port
  parent : g.Parent owner port
  grandparent : g.Parent home owner

def fullName (home owner port : Node) : String := s!"{home.label}.{owner.label}.{port.label}"

/-- A digital twin of the system has the name of the part, and a port of the same name. -/
def Overshadowed (g : Graph) (home owner port : Node) : Prop :=
  owner.kind = .part ∧ ∃ owner' port', g.PortOf home owner' port' ∧ owner'.kind = .digitalTwin ∧
    owner'.label = owner.label ∧ port'.label = port.label

section Names

variable {names : List String} {ds : List Declared} {d : Declared}

theorem parts_dotted (h : ∀ n ∈ names, IsIdentifier n) (hne : names ≠ []) :
    parts (dotted names) = names := by
  have hblank : ∀ c ∈ (dotted names).toList, Text.isBlank c = false := by
    intro c hc
    by_contra hb
    rw [Bool.not_eq_false] at hb
    have hdot : c ≠ '.' := by
      rintro rfl
      exact absurd hb (by decide)
    exact not_mem_dotted hdot
      (fun n hn ↦ (h n hn).not_mem (Text.not_isIdentifierChar_of_isBlank hb)) hc
  have htrim : Symbols.trim (dotted names) = dotted names := by
    rw [Symbols.trim, Text.trim_of_none hblank, String.ofList_toList]
  apply (dotted_inj (dotless_parts _) (dotless_of_isIdentifier h) (parts_ne_nil _) hne).mp
  rw [dotted_parts, htrim]

/-- What is found is declared by rule, or nothing else has its names. -/
theorem within_eq_of_leads {rule : String → List String → String} (hds : ds.Pairwise (Leads rule))
    (hd : d ∈ ds) (hid : d.id = rule d.system d.names ∨
      ∀ e ∈ ds, e.system = d.system → e.names = d.names → e.id = d.id) :
    within ds d.system d.names = some d.id := by
  obtain ⟨before, behind, rfl⟩ := List.append_of_mem hd
  obtain ⟨-, -, hbefore⟩ := List.pairwise_append.mp hds
  rw [within, List.find?_append]
  cases hfind : before.find? fun e ↦ e.system = d.system ∧ e.names = d.names with
  | none => simp
  | some e =>
    have hmem := List.mem_of_find?_eq_some hfind
    obtain ⟨hsystem, hnames⟩ : e.system = d.system ∧ e.names = d.names := by
      simpa using List.find?_some hfind
    rw [Option.some_or, Option.map_some]
    rcases hid with hid | hid
    · rw [hid, hbefore e hmem d (.head _) hsystem hnames, hsystem, hnames]
    · rw [hid e (List.mem_append_left _ hmem) hsystem hnames]

end Names

theorem WellFormed.eq_of_id {g : Graph} (h : g.WellFormed) {n n' : Node} (hn : n ∈ g.nodes)
    (hn' : n' ∈ g.nodes) (hid : n.id = n'.id) : n = n' :=
  List.inj_on_of_nodup_map h.nodeIds hn hn' hid

theorem PortOf.unique {g : Graph} (hg : g.WellFormed) {home home' owner owner' port : Node}
    (h : g.PortOf home owner port) (h' : g.PortOf home' owner' port) :
    home = home' ∧ owner = owner' := by
  have hparent {p p' n : Node} (hp : g.Parent p n) (hp' : g.Parent p' n) : p = p' :=
    hg.eq_of_id hp.1 hp'.1 (Option.some.inj (hp.2.2.symm.trans hp'.2.2))
  obtain rfl := hparent h.parent h'.parent
  exact ⟨hparent h.grandparent h'.grandparent, rfl⟩

namespace Item

variable {i : Item} {home owner name : String} {k : NodeKind}

theorem of_port_mem_children (h : .port home k owner name ∈ i.children) :
    ∃ t, t.name = owner ∧
      (k = .digitalTwin ∧ i = .digitalTwin home t ∨ k = .part ∧ i = .part home t) := by
  cases i with
  | root _ | system _ =>
    rcases List.mem_append.mp h with h | h <;> obtain ⟨_, -, hx⟩ := List.mem_map.mp h <;> cases hx
  | digitalTwin _ t =>
    obtain ⟨_, -, hx⟩ := List.mem_map.mp h
    cases hx
    exact ⟨t, rfl, .inl ⟨rfl, rfl⟩⟩
  | part _ t =>
    obtain ⟨_, -, hx⟩ := List.mem_map.mp h
    cases hx
    exact ⟨t, rfl, .inr ⟨rfl, rfl⟩⟩
  | port | goal => cases h

theorem of_twin_mem_children {t : Twin}
    (h : .digitalTwin home t ∈ i.children ∨ .part home t ∈ i.children) :
    ∃ s, s.name = home ∧ i = .system s := by
  cases i with
  | system s =>
    refine ⟨s, ?_, rfl⟩
    rcases h with h | h <;> rcases List.mem_append.mp h with h | h <;>
      obtain ⟨_, -, hx⟩ := List.mem_map.mp h <;> cases hx <;> rfl
  | root _ =>
    rcases h with h | h <;> rcases List.mem_append.mp h with h | h <;>
      obtain ⟨_, -, hx⟩ := List.mem_map.mp h <;> cases hx
  | digitalTwin | part =>
    rcases h with h | h <;> obtain ⟨_, -, hx⟩ := List.mem_map.mp h <;> cases hx
  | port | goal => rcases h with h | h <;> cases h

end Item

namespace Accounts

variable {m : Model} {vs : List Visit} {os : List Outcome} {g : Graph} {d : Draft}
  {home owner port : Node}

section Holders

variable (h : Accounts m vs os g d)

include h

theorem exists_holder {i : Item} (hi : i ∈ kept vs) (hkind : i.kind ≠ .root) :
    ∃ j ∈ kept vs, i ∈ j.children := by
  have hwalks := h.walks
  obtain ⟨before, behind, rfl⟩ := List.append_of_mem (mem_kept.mp hi)
  rcases hwalks.mem_or_mem_children with hroot | ⟨j, hj, hmem⟩
  · obtain rfl : i = .root m := List.mem_singleton.mp hroot
    exact absurd rfl hkind
  · rw [kept_append]
    exact ⟨j, List.mem_append_left _ hj, hmem⟩

theorem parent_node {i j : Item} (hi : i ∈ kept vs) (hj : j ∈ kept vs) (hmem : i ∈ j.children) :
    g.Parent (j.node (Build.rootName m)) (i.node (Build.rootName m)) := by
  rw [Parent, h.nodes]
  exact ⟨List.mem_map_of_mem hj, List.mem_map_of_mem hi, Item.parent?_node_children _ hmem⟩

/-- A port that is kept is one of an owner that is kept, in a system that is kept. -/
theorem portOf_of_kept {home : String} {k : NodeKind} {owner name : String}
    (hport : .port home k owner name ∈ kept vs) : (k = .digitalTwin ∨ k = .part) ∧
      ∃ s i, s.name = home ∧ Item.kind i = k ∧ i.label = owner ∧
        g.PortOf (Item.node (Build.rootName m) (.system s)) (i.node (Build.rootName m))
          (Item.node (Build.rootName m) (.port home k owner name)) := by
  obtain ⟨i, hi, hmem⟩ := h.exists_holder hport (by simp [Item.kind])
  have hparent := h.parent_node hport hi hmem
  obtain ⟨t, rfl, ⟨rfl, rfl⟩ | ⟨rfl, rfl⟩⟩ := Item.of_port_mem_children hmem
  · obtain ⟨j, hj, hmem⟩ := h.exists_holder hi (by simp [Item.kind])
    have hgrandparent := h.parent_node hi hj hmem
    obtain ⟨s, rfl, rfl⟩ := Item.of_twin_mem_children (.inl hmem)
    exact ⟨.inl rfl, s, _, rfl, rfl, rfl, rfl, hparent, hgrandparent⟩
  · obtain ⟨j, hj, hmem⟩ := h.exists_holder hi (by simp [Item.kind])
    have hgrandparent := h.parent_node hi hj hmem
    obtain ⟨s, rfl, rfl⟩ := Item.of_twin_mem_children (.inr hmem)
    exact ⟨.inr rfl, s, _, rfl, rfl, rfl, rfl, hparent, hgrandparent⟩

theorem precedes : (kept vs).Pairwise Item.Precedes := by
  have hwalks := h.walks
  have hids := h.decided.pairwise
  cases vs with
  | nil => cases hwalks
  | cons v vs =>
    obtain ⟨i, k⟩ := v
    obtain rfl : k = true := h.decided.kept_of_cons
    obtain ⟨js, hroot, htail⟩ := hwalks.tail
    obtain ⟨rfl, rfl⟩ := List.cons.inj hroot
    obtain ⟨js, hjs, hkept, hall⟩ := htail.exists_roots
    rw [List.append_nil] at hjs
    obtain ⟨_, _, rfl, hsystems, hgoals⟩ := List.sublist_append_iff.mp hjs
    obtain ⟨systems, -, rfl⟩ := List.sublist_map_iff.mp hsystems
    obtain ⟨goals, -, rfl⟩ := List.sublist_map_iff.mp hgoals
    have hnames : (systems.map System.name).Nodup := by
      have hsub := (List.sublist_append_left _ _).trans hkept
      have hpairs := List.pairwise_map.mp ((hids.sublist (List.sublist_cons_self _ _)).sublist hsub)
      apply List.pairwise_map.mpr
      refine hpairs.imp ?_
      intro s t hne heq
      apply hne
      rw [Item.id, Item.id, Item.names, Item.names, heq]
      rfl
    show (_ :: kept vs).Pairwise Item.Precedes
    rw [List.pairwise_cons]
    exact ⟨fun _ _ _ ↦ .inr (.inl rfl), (Item.precedes_forest goals hnames).sublist hall⟩

/-- What a system has under the names of a port is the port if this is one of a digital twin, or if
it is the only one. -/
theorem within_of_kept {home : String} {k : NodeKind} {owner name : String}
    (hport : .port home k owner name ∈ kept vs)
    (hfirst : k = .digitalTwin ∨ ∀ l, .port home l owner name ∈ kept vs → l = k) :
    within (((kept vs).filterMap (Item.entry? (Build.rootName m))).filterMap Entry.port?) home
      [owner, name] = some ((Item.port home k owner name).id (Build.rootName m)) := by
  have hids : ((kept vs).map (Item.id (Build.rootName m))).Nodup :=
    List.pairwise_map.mpr h.decided.pairwise
  have hmem : ⟨home, [owner, name], (Item.port home k owner name).id (Build.rootName m)⟩ ∈
      ((kept vs).filterMap (Item.entry? (Build.rootName m))).filterMap Entry.port? :=
    List.mem_filterMap.mpr ⟨_, List.mem_filterMap.mpr ⟨_, hport, rfl⟩, rfl⟩
  apply within_eq_of_leads (Item.leads_ports_of_precedes h.precedes hids) hmem
  rcases hfirst with rfl | honly
  · exact .inl rfl
  · refine .inr fun e he hsystem hnames ↦ ?_
    rw [List.filterMap_filterMap] at he
    obtain ⟨i, hi, he⟩ := List.mem_filterMap.mp he
    obtain ⟨home', l, owner', name', rfl, rfl⟩ := Item.exists_port he
    cases hsystem
    cases hnames
    rw [honly l hi]

end Holders

section Answers

variable (h : Accounts m vs os g d) (hg : g.WellFormed)

include h hg

theorem exists_item (hp : g.PortOf home owner port) :
    .port home.label owner.kind owner.label port.label ∈ kept vs ∧
      Item.node (Build.rootName m) (.port home.label owner.kind owner.label port.label) = port ∧
      home.id = identifier "ts" [Build.rootName m, home.label] := by
  have hmem := hp.parent.2.1
  have hkind := hp.kind
  rw [h.nodes] at hmem
  obtain ⟨i, hi, rfl⟩ := List.mem_map.mp hmem
  rw [Item.kind_node] at hkind
  cases i with
  | port home' k owner' name =>
    obtain ⟨-, s, i, rfl, rfl, rfl, hp'⟩ := h.portOf_of_kept hi
    obtain ⟨rfl, rfl⟩ := hp.unique hg hp'
    rw [Item.kind_node]
    exact ⟨hi, rfl, rfl⟩
  | _ => cases hkind

variable (hm : m.Named IsIdentifier) {current : String} (hcurrent : '.' ∉ current.toList)

include hm hcurrent

theorem port?_fullName (hp : g.PortOf home owner port) (hclear : ¬ g.Overshadowed home owner port) :
    d.symbols.port? current (fullName home owner port) = some port.id := by
  obtain ⟨hitem, hnode, hhome⟩ := h.exists_item hg hp
  obtain ⟨hhomeName, hownerName, hportName⟩ := h.named hm _ hitem
  have hnames : ∀ n ∈ [home.label, owner.label, port.label], IsIdentifier n := by
    simp [hhomeName, hownerName, hportName]
  have hfirst : owner.kind = .digitalTwin ∨
      ∀ l, .port home.label l owner.label port.label ∈ kept vs → l = owner.kind := by
    rcases (h.portOf_of_kept hitem).1 with hkind | hkind
    · exact .inl hkind
    · refine .inr fun l hl ↦ ?_
      obtain ⟨rfl | rfl, s, i, hs, hi, hlabel, hp'⟩ := h.portOf_of_kept hl
      · have hsystem : Item.node (Build.rootName m) (.system s) = home := by
          apply hg.eq_of_id hp'.grandparent.1 hp.grandparent.1
          rw [hhome, ← hs]
          rfl
        rw [hsystem] at hp'
        exact absurd ⟨hkind, _, _, hp', (Item.kind_node _ i).trans hi, hlabel, rfl⟩ hclear
      · exact hkind.symm
  rw [fullName, ← dotted_triple, (h.entered hm).recorded.port?_eq hcurrent,
    parts_dotted hnames (List.cons_ne_nil _ _), portMeaning, h.within_of_kept hitem hfirst,
    Option.some_or]
  exact congrArg (fun n ↦ some (Node.id n)) hnode

theorem port?_fullName_iff (hp : g.PortOf home owner port) :
    d.symbols.port? current (fullName home owner port) = some port.id ↔
      ¬ g.Overshadowed home owner port := by
  constructor
  · rintro hport ⟨hkind, owner', port', hp', hkind', howner, hname⟩
    have hclear : ¬ g.Overshadowed home owner' port' := by
      rintro ⟨hpart, -⟩
      cases hkind'.symm.trans hpart
    have hport' := h.port?_fullName hg hm hcurrent hp' hclear
    have hfull : fullName home owner' port' = fullName home owner port := by
      rw [fullName, fullName, howner, hname]
    rw [hfull, hport] at hport'
    obtain rfl := hg.eq_of_id hp.parent.2.1 hp'.parent.2.1 (Option.some.inj hport')
    obtain ⟨-, rfl⟩ := hp.unique hg hp'
    cases hkind.symm.trans hkind'
  · exact h.port?_fullName hg hm hcurrent hp

end Answers

end Accounts

/-- Whatever the text, in whatever system: the full name of a port leads to it, unless the port of a
twin overshadows it. A connection that spells out the full name then has its edge there. -/
theorem full_name_leads_to_port (text : String) :
    ∃ m s g d vs os, Parser.readText text = (.ok m, s) ∧ ofModel m = (.ok g, d) ∧
      Accounts m vs os g d ∧ ∀ home owner port, g.PortOf home owner port →
        (∀ inside ∈ g.nodes, inside.kind = .system →
          (d.symbols.port? inside.label (fullName home owner port) = some port.id ↔
            ¬ g.Overshadowed home owner port)) ∧
        ∀ inside c, .connection inside c ∈ links m vs → ¬ g.Overshadowed home owner port →
          (c.source = fullName home owner port → (d.symbols.port? inside c.target).isSome →
            ∃ e ∈ g.edges, (Link.connection inside c).Meets (Build.rootName m) d.symbols e ∧
              e.source = port.id) ∧
          (c.target = fullName home owner port → (d.symbols.port? inside c.source).isSome →
            ∃ e ∈ g.edges, (Link.connection inside c).Meets (Build.rootName m) d.symbols e ∧
              e.target = port.id) := by
  obtain ⟨m, s, hread, hm⟩ := Parser.readText_ok text
  obtain ⟨g, d, hgraph, -⟩ := ofModel_ok hm
  obtain ⟨vs, os, h⟩ := ofModel_accounts hgraph
  have hg := h.wellFormed
  have hlabels := Parser.readText_labelled hread
  refine ⟨m, s, g, d, vs, os, hread, hgraph, h, fun home owner port hp ↦ ⟨?_, ?_⟩⟩
  · intro inside hinside hkind
    rw [h.nodes] at hinside
    obtain ⟨i, hi, rfl⟩ := List.mem_map.mp hinside
    rw [Item.kind_node] at hkind
    cases i with
    | system s =>
      have hname : IsIdentifier s.name := (h.named hm _ hi).name
      exact h.port?_fullName_iff hg hm (hname.not_mem rfl) hp
    | _ => cases hkind
  · intro inside c hc hclear
    have hinside : '.' ∉ inside.toList := (h.links_labelled hm hlabels _ hc).homed
    have hport := h.port?_fullName hg hm hinside hp hclear
    constructor
    · intro hsource htarget
      rw [← hsource] at hport
      obtain ⟨e, he, hmeets⟩ := h.exists_edge hm hlabels hc ⟨by rw [hport]; rfl, htarget⟩
      refine ⟨e, he, hmeets, ?_⟩
      cases hmeets with
      | connection hs => exact Option.some.inj (hs.symm.trans hport)
    · intro htarget hsource
      rw [← htarget] at hport
      obtain ⟨e, he, hmeets⟩ := h.exists_edge hm hlabels hc ⟨hsource, by rw [hport]; rfl⟩
      refine ⟨e, he, hmeets, ?_⟩
      cases hmeets with
      | connection _ ht => exact Option.some.inj (ht.symm.trans hport)

/-- The digital twin `X` and the part `X` both have a port `p`. The full name of that of the part
leads to that of the twin, and so does the connection. -/
theorem full_name_of_part_leads_to_twin :
    let text := "#dartwin F \x7b #twinsystem S \x7b #digitaltwin X \x7b port p; \x7d " ++
      "part X \x7b port p; \x7d part Y \x7b port q; \x7d connect S.X.p to S.Y.q; \x7d \x7d"
    let home : Node := ⟨"ts::F::S", "S", .system "dw::F"⟩
    let owner : Node := ⟨"at::F::S::X", "X", .part "ts::F::S"⟩
    let port : Node := ⟨"port::F::S::at::X::p", "p", .port "at::F::S::X"⟩
    ∃ m s g d, Parser.readText text = (.ok m, s) ∧ ofModel m = (.ok g, d) ∧
      g.PortOf home owner port ∧
      d.symbols.port? home.label (fullName home owner port) = some "port::F::S::dt::X::p" ∧
      d.symbols.port? home.label (fullName home owner port) ≠ some port.id ∧
      g.edges.map Edge.source = ["port::F::S::dt::X::p"] := by
  intro text home owner port
  have hvalues : ((Parser.readText text).1.toOption.bind fun m ↦ (ofModel m).1.toOption.map fun g ↦
      (decide (home ∈ g.nodes ∧ owner ∈ g.nodes ∧ port ∈ g.nodes),
        (ofModel m).2.symbols.port? home.label (fullName home owner port),
        g.edges.map Edge.source)) =
      some (true, some "port::F::S::dt::X::p", ["port::F::S::dt::X::p"]) := by decide +kernel
  obtain ⟨m, s, hread, hm⟩ := Parser.readText_ok text
  obtain ⟨g, d, hgraph, -⟩ := ofModel_ok hm
  rw [hread] at hvalues
  simp only [Except.toOption, Option.bind_some, hgraph, Option.map_some, Option.some.injEq,
    Prod.mk.injEq, decide_eq_true_eq] at hvalues
  obtain ⟨⟨hhome, howner, hport⟩, hanswer, hsources⟩ := hvalues
  refine ⟨m, s, g, d, hread, hgraph, ⟨rfl, ⟨howner, hport, rfl⟩, hhome, howner, rfl⟩, hanswer, ?_,
    hsources⟩
  rw [hanswer]
  decide

end TwinDiagram.Graph
