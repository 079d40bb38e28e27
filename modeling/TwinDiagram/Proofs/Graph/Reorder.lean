import TwinDiagram.Proofs.Graph.Complete
import TwinDiagram.Proofs.Graph.EdgeIdentifier
import TwinDiagram.Proofs.Graph.Listing

namespace TwinDiagram

section Named

variable {Q : String → Prop}

theorem Twin.Shuffled.named {t u : Twin} (h : t.Shuffled u) (ht : t.Named Q) : u.Named Q :=
  ⟨h.name ▸ ht.1, fun p hp ↦ ht.2 p (h.ports.mem_iff.mpr hp)⟩

theorem System.Shuffled.named {s t : System} (h : s.Shuffled t) (hs : s.Named Q) : t.Named Q where
  name := h.name ▸ hs.name
  digitalTwins := h.digitalTwins.forall_mem hs.digitalTwins Twin.Shuffled.named
  parts := h.parts.forall_mem hs.parts Twin.Shuffled.named

theorem Model.Shuffled.named {m n : Model} (h : m.Shuffled n) (hm : m.Named Q) : n.Named Q where
  name := h.name ▸ hm.name
  systems := h.systems.forall_mem hm.systems System.Shuffled.named
  goals := fun g hg ↦ hm.goals g (h.goals.mem_iff.mpr hg)

end Named

namespace Graph

namespace Item

variable {root : String} {m : Model}

def entries (root : String) (m : Model) : List Entry :=
  (listing (.root m)).filterMap (Item.entry? root)

theorem names_entry {i : Item} {e : Entry} (hi : i.Named IsIdentifier)
    (he : i.entry? root = some e) :
    ∀ n ∈ e.names, IsIdentifier n := by
  cases i with
  | digitalTwin home t =>
    cases he
    simpa [Entry.names] using ⟨hi.1, hi.2.1⟩
  | port home ownerKind owner name =>
    cases he
    simpa [Entry.names] using ⟨hi.1, hi.2.1, hi.2.2⟩
  | goal g =>
    cases he
    exact List.forall_mem_singleton.mpr hi
  | root | system | part => cases he

theorem exists_port {i : Item} {d : Declared} (hd : (i.entry? root).bind Entry.port? = some d) :
    ∃ home k owner name, i = .port home k owner name ∧ d = ⟨home, [owner, name], i.id root⟩ := by
  cases i <;> cases hd
  exact ⟨_, _, _, _, rfl, rfl⟩

theorem filterMap_system?_of_inner {is : List Item} (his : ∀ i ∈ is, i.Inner) :
    (is.flatMap listing).filterMap system? = [] := by
  rw [List.filterMap_eq_nil_iff]
  intro j hj
  obtain ⟨i, hi, hj⟩ := List.mem_flatMap.mp hj
  exact system?_of_inner (forall_mem_listing inner_children (his i hi) j hj)

theorem filterMap_system?_listing (s : System) : (listing (.system s)).filterMap system? = [s] := by
  have hinner : ∀ i ∈ children (.system s), i.Inner := by
    intro i hi
    rcases List.mem_append.mp hi with hi | hi <;> obtain ⟨t, -, rfl⟩ := List.mem_map.mp hi <;>
      exact ⟨nofun, nofun⟩
  rw [listing_eq, List.filterMap_cons, filterMap_system?_of_inner hinner]
  rfl

theorem filterMap_system? (m : Model) : (listing (.root m)).filterMap system? = m.systems := by
  have hgoals : ((m.goals.map goal).flatMap listing).filterMap system? = [] := by
    apply filterMap_system?_of_inner
    intro i hi
    obtain ⟨g, -, rfl⟩ := List.mem_map.mp hi
    exact ⟨nofun, nofun⟩
  rw [listing_eq, List.filterMap_cons, children, List.flatMap_append, List.filterMap_append,
    hgoals, List.append_nil, List.filterMap_flatMap, List.flatMap_map]
  simp only [filterMap_system?_listing, List.flatMap_singleton']
  rfl

/-- A port of a digital twin comes before one of a part that has the same names. -/
theorem leads_ports_of_precedes {is : List Item} (hprecedes : is.Pairwise Precedes)
    (hids : (is.map (id root)).Nodup) :
    ((is.filterMap (Item.entry? root)).filterMap Entry.port?).Pairwise
      (Leads fun system names ↦
        identifier "port" (root :: system :: NodeKind.digitalTwin.tag :: names)) := by
  rw [List.filterMap_filterMap, List.pairwise_filterMap]
  refine (hprecedes.and (List.pairwise_map.mp hids)).imp ?_
  intro i j ⟨hprecedes, hne⟩ d hd e he hsystem hnames
  obtain ⟨home, k, owner, name, rfl, rfl⟩ := exists_port hd
  obtain ⟨home', k', owner', name', rfl, rfl⟩ := exists_port he
  cases hsystem
  cases hnames
  rcases hprecedes rfl with hside | hside | hside
  · cases hside
    exact absurd rfl hne
  · cases hside
  · cases hside
    rfl

variable (hids : ((listing (.root m)).map (id root)).Nodup)

include hids

theorem nodup_entries : ((entries root m).map Entry.id).Nodup := by
  refine List.Nodup.sublist (sublist_filterMap_map ?_ _) hids
  intro i e he
  exact (Item.entry?_eq_some root he).2.symm

theorem nodup_systems : (m.systems.map System.name).Nodup := by
  have hsub : (((listing (.root m)).filterMap system?).map fun s ↦ id root (.system s)).Sublist
      ((listing (.root m)).map (id root)) := by
    apply sublist_filterMap_map
    intro i s hs
    cases i <;> cases hs
    rfl
  have hnodup := hsub.nodup hids
  rw [filterMap_system?] at hnodup
  apply List.Nodup.of_map fun name ↦ identifier "ts" [root, name]
  rwa [List.map_map]

theorem nodup_goals : (((entries root m).filterMap Entry.goal?).map Prod.fst).Nodup := by
  apply List.Nodup.of_map fun name ↦ identifier "goal" [root, name]
  rw [List.map_map, entries, List.filterMap_filterMap]
  refine List.Nodup.sublist (sublist_filterMap_map ?_ _) hids
  intro i kv hkv
  cases i <;> cases hkv
  rfl

theorem leads_ports : ((entries root m).filterMap Entry.port?).Pairwise
    (Leads fun system names ↦
      identifier "port" (root :: system :: NodeKind.digitalTwin.tag :: names)) :=
  leads_ports_of_precedes (precedes_listing (nodup_systems hids)) hids

omit hids in
theorem leads_twins : ((entries root m).filterMap Entry.twin?).Pairwise
    (Leads fun system names ↦ identifier "dt" (root :: system :: names)) := by
  apply List.pairwise_of_forall_mem_list
  intro d hd _ _ _ _
  obtain ⟨e, he, hd⟩ := List.mem_filterMap.mp hd
  obtain ⟨i, -, he⟩ := List.mem_filterMap.mp he
  cases i <;> cases he <;> cases hd
  rfl

end Item

variable {m m' : Model} {vs : List Visit} {os : List Outcome} {g : Graph} {d : Draft}

theorem Accounts.kept_of_findings (h : Accounts m vs os g d)
    (hd : ∀ f ∈ d.findings, f.code ≠ .duplicateNode) : ∀ v ∈ vs, v.kept := by
  intro v hv
  by_contra hdropped
  have hmem : v.item ∈ dropped vs :=
    List.mem_map_of_mem (List.mem_filter.mpr ⟨hv, by simpa using hdropped⟩)
  have hfinding : v.item.duplicate ∈ d.findings := by
    rw [h.findings]
    exact List.mem_append_left _ (List.mem_map_of_mem hmem)
  exact hd _ hfinding rfl

theorem Accounts.kept_of_nodup (h : Accounts m vs os g d)
    (hids : ((Item.listing (.root m)).map (Item.id (Build.rootName m))).Nodup) :
    ∀ v ∈ vs, v.kept := by
  apply h.decided.kept_of_pairwise
  have hsub := h.walks.sublist
  rw [List.flatMap_singleton] at hsub
  exact (List.pairwise_map.mp hids).sublist hsub

def allLinks (m : Model) : List Link :=
  m.systems.flatMap (fun s ↦ s.connections.map (.connection s.name)) ++
    m.allocations.map .allocation

theorem allLinks_labelled (hm : m.Named IsIdentifier) (hlabels : ∀ s ∈ m.systems, s.Labelled) :
    ∀ l ∈ allLinks m, l.Labelled := by
  intro l hl
  rcases List.mem_append.mp hl with hl | hl
  · obtain ⟨s, hs, hl⟩ := List.mem_flatMap.mp hl
    obtain ⟨c, hc, rfl⟩ := List.mem_map.mp hl
    exact ⟨(hm.systems s hs).name, hlabels s hs c hc⟩
  · obtain ⟨a, -, rfl⟩ := List.mem_map.mp hl
    trivial

theorem allLinks_perm (h : m.Shuffled m') : (allLinks m).Perm (allLinks m') := by
  apply List.Perm.append _ (h.allocations.map _)
  apply h.systems.flatMap
  intro s t hst
  rw [hst.name]
  exact hst.connections.map _

structure Whole (root : String) (m : Model) (os : List Outcome) (g : Graph) (d : Draft) : Prop where
  ids : ((Item.listing (.root m)).map (Item.id root)).Nodup
  symbols : Symbols.ofEntries (Item.entries root m) = (.ok (), d.symbols)
  become : Become root d.symbols [] (allLinks m) os
  nodes : g.nodes = (Item.listing (.root m)).map (Item.node root)
  edges : g.edges = os.filterMap Outcome.edge?
  findings : d.findings = os.filterMap Outcome.finding?

theorem Accounts.whole (h : Accounts m vs os g d) (hvs : ∀ v ∈ vs, v.kept) :
    Whole (Build.rootName m) m os g d := by
  have hkept : kept vs = Item.listing (.root m) := by
    rw [kept_eq_of_forall hvs, h.walks.eq_of_kept hvs, List.flatMap_singleton]
  have hdropped : dropped vs = [] := by
    rw [dropped, List.map_eq_nil_iff, List.filter_eq_nil_iff]
    intro v hv
    simp [hvs v hv]
  have hids := h.decided.pairwise
  have hsymbols := h.symbols
  have hbecome := h.become
  have hnodes := h.nodes
  have hfindings := h.findings
  rw [hkept] at hids hsymbols hnodes
  rw [links, hkept, Item.filterMap_system?] at hbecome
  rw [hdropped] at hfindings
  exact ⟨List.pairwise_map.mpr hids, hsymbols, hbecome, hnodes, h.edges, hfindings⟩

namespace Whole

variable {root : String} {os' : List Outcome} {g' : Graph} {d' : Draft}

theorem entered (h : Whole root m os g d) (hm : m.Named IsIdentifier) :
    Entered (Item.entries root m) d.symbols where
  names := by
    intro e he
    obtain ⟨i, hi, he⟩ := List.mem_filterMap.mp he
    have hnamed : (Item.root m).Named IsIdentifier := hm
    exact Item.names_entry (Item.forall_mem_listing Item.Named.children hnamed i hi) he
  ids := Item.nodup_entries h.ids
  run := h.symbols

theorem nodes_perm (h : Whole root m os g d) (h' : Whole root m' os' g' d')
    (hshuffled : m.Shuffled m') : g.nodes.Perm g'.nodes := by
  rw [h.nodes, h'.nodes]
  exact (Item.alike_root hshuffled).nodes

theorem agree (hm : m.Named IsIdentifier) (h : Whole root m os g d) (h' : Whole root m' os' g' d')
    (hshuffled : m.Shuffled m') : d.symbols.Agree d'.symbols := by
  have hentries : (Item.entries root m).Perm (Item.entries root m') :=
    (Item.alike_root hshuffled).entries
  have hentered := h.entered hm
  apply Symbols.agree_of_perm hentries h.symbols h'.symbols hentered.dotless
  · exact Item.nodup_goals h.ids
  · exact hentered.nodup_paths
  · exact within_congr (hentries.filterMap _) (Item.leads_ports h.ids) (Item.leads_ports h'.ids)
  · exact within_congr (hentries.filterMap _) Item.leads_twins Item.leads_twins

theorem edges_perm (hroot : IsIdentifier root) (hm : m.Named IsIdentifier)
    (hlabels : ∀ s ∈ m.systems, s.Labelled) (h : Whole root m os g d)
    (h' : Whole root m' os' g' d') (hshuffled : m.Shuffled m') :
    g.edges.Perm g'.edges ∧ d.findings.Perm d'.findings := by
  have hlinks := allLinks_labelled hm hlabels
  have hdemands := h.become.demands_perm h'.become (agree hm h h' hshuffled)
    (fun l hl ↦ (hlinks l hl).homed) (allLinks_perm hshuffled)
  rw [h.edges, h'.edges, h.findings, h'.findings]
  apply h.become.perm h'.become hdemands
  intro e e' he he' hid
  obtain ⟨l, hl, hmeets⟩ := h.become.exists_meets he
  obtain ⟨l', hl', hmeets'⟩ := h.become.exists_meets he'
  exact hmeets.eq_of_id (h.entered hm) hroot (hlinks l hl) (hlinks l' hl') hmeets' hid

end Whole

/-- Where nothing is declared twice, the order of what is declared does not matter. -/
theorem ofModel_shuffled (hm : m.Named IsIdentifier) (hlabels : ∀ s ∈ m.systems, s.Labelled)
    (hgraph : ofModel m = (.ok g, d)) (hd : ∀ f ∈ d.findings, f.code ≠ .duplicateNode)
    (hshuffled : m.Shuffled m') :
    ∃ g' d', ofModel m' = (.ok g', d') ∧ g.nodes.Perm g'.nodes ∧ g.edges.Perm g'.edges ∧
      d.findings.Perm d'.findings := by
  obtain ⟨vs, os, haccounts⟩ := ofModel_accounts hgraph
  have hwhole := haccounts.whole (haccounts.kept_of_findings hd)
  obtain ⟨g', d', hgraph', -⟩ := ofModel_ok (hshuffled.named hm)
  obtain ⟨vs', os', haccounts'⟩ := ofModel_accounts hgraph'
  have hname : Build.rootName m' = Build.rootName m := by
    rw [Build.rootName, Build.rootName, hshuffled.name]
  -- What is declared has the same identifiers, so nothing is dropped from the other model either.
  have hids : ((Item.listing (.root m')).map (Item.id (Build.rootName m'))).Nodup := by
    rw [hname]
    exact (Item.alike_root hshuffled).ids.nodup_iff.mp hwhole.ids
  have hwhole' := haccounts'.whole (haccounts'.kept_of_nodup hids)
  rw [hname] at hwhole'
  have hroot := isIdentifier_rootName hm
  exact ⟨g', d', hgraph', hwhole.nodes_perm hwhole' hshuffled,
    Whole.edges_perm hroot hm hlabels hwhole hwhole' hshuffled⟩

/-- If nothing in a text is declared twice, then systems, goals, allocations, twins, ports and
connections may come in any order: the graph and what is told of it stay the same. -/
theorem declaration_order_irrelevant {text : String} {s : Parser.State}
    (hread : Parser.readText text = (.ok m, s)) (hgraph : ofModel m = (.ok g, d))
    (hd : ∀ f ∈ d.findings, f.code ≠ .duplicateNode) (hshuffled : m.Shuffled m') :
    ∃ g' d', ofModel m' = (.ok g', d') ∧ g.nodes.Perm g'.nodes ∧ g.edges.Perm g'.edges ∧
      d.findings.Perm d'.findings := by
  obtain ⟨_, _, hread', hm⟩ := Parser.readText_ok text
  cases hread'.symm.trans hread
  exact ofModel_shuffled hm (Parser.readText_labelled hread) hgraph hd hshuffled

/-- In the system `a` a digital twin and a part share a name, two connections are one edge, and the
twin `t` is in two systems. -/
theorem declaration_order_irrelevant_of_shared_names :
    let text := "#dartwin d \x7b #twinsystem a \x7b #digitaltwin t \x7b port p; port q; \x7d " ++
      "part t \x7b port p; \x7d connect t.p to t.q; connect a.t.p to t.q; " ++
      "connect t.q to t.p name n; \x7d #twinsystem b \x7b #digitaltwin t \x7b port p; \x7d \x7d " ++
      "#goal g; #goal h; allocate g to a.t; allocate h to t; \x7d"
    let a : System := ⟨"a", [⟨"t", ["p", "q"]⟩], [⟨"t", ["p"]⟩],
      [⟨"t.p", "t.q", none⟩, ⟨"a.t.p", "t.q", none⟩, ⟨"t.q", "t.p", some "n"⟩]⟩
    let a' : System := ⟨"a", [⟨"t", ["q", "p"]⟩], [⟨"t", ["p"]⟩],
      [⟨"t.q", "t.p", some "n"⟩, ⟨"a.t.p", "t.q", none⟩, ⟨"t.p", "t.q", none⟩]⟩
    let b : System := ⟨"b", [⟨"t", ["p"]⟩], [], []⟩
    let m : Model := ⟨"d", [a, b], [⟨"g", none⟩, ⟨"h", none⟩], [⟨"g", "a.t"⟩, ⟨"h", "t"⟩], none⟩
    let m' : Model := ⟨"d", [b, a'], [⟨"h", none⟩, ⟨"g", none⟩], [⟨"h", "t"⟩, ⟨"g", "a.t"⟩], none⟩
    m.Shuffled m' ∧ ∃ s g d, Parser.readText text = (.ok m, s) ∧ ofModel m = (.ok g, d) ∧
      d.findings.map Finding.code = [.duplicateEdge, .ambiguousReference] ∧
      (∀ f ∈ d.findings, f.code ≠ .duplicateNode) ∧
      ∃ g' d', ofModel m' = (.ok g', d') ∧ g.nodes.Perm g'.nodes ∧ g.edges.Perm g'.edges ∧
        d.findings.Perm d'.findings := by
  intro text a a' b m m'
  have htwin (t : Twin) : t.Shuffled t := ⟨rfl, .refl _⟩
  have ha : a.Shuffled a' :=
    ⟨rfl, ⟨a'.digitalTwins, .cons ⟨rfl, .swap _ _ _⟩ .nil, .refl _⟩,
      .of_perm htwin (.refl _), by decide⟩
  have hb : b.Shuffled b := ⟨rfl, .of_perm htwin (.refl _), .of_perm htwin (.refl _), .refl _⟩
  have hshuffled : m.Shuffled m' :=
    ⟨rfl, ⟨[a', b], .cons ha (.cons hb .nil), .swap _ _ _⟩, .swap _ _ _, .swap _ _ _, rfl⟩
  have htext : (Parser.readText text).1.toOption = some m := by decide +kernel
  have hmodel : (ofModel m).1.toOption.isSome := by decide +kernel
  have hcodes : (ofModel m).2.findings.map Finding.code =
      [.duplicateEdge, .ambiguousReference] := by
    decide +kernel
  clear_value text m m'
  rcases hread : Parser.readText text with ⟨_ | n, s⟩ <;> rw [hread] at htext <;> cases htext
  rcases hgraph : ofModel m with ⟨_ | g, d⟩ <;> rw [hgraph] at hmodel hcodes
  · cases hmodel
  · have hd : ∀ f ∈ d.findings, f.code ≠ .duplicateNode := by
      intro f hf heq
      have hmem : f.code ∈ d.findings.map Finding.code := List.mem_map_of_mem hf
      rw [hcodes, heq] at hmem
      exact absurd hmem (by decide)
    exact ⟨hshuffled, s, g, d, rfl, rfl, hcodes, hd,
      declaration_order_irrelevant hread hgraph hd hshuffled⟩

end Graph

end TwinDiagram
