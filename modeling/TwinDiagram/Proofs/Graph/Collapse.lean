import TwinDiagram.Proofs.Graph.Reorder

namespace TwinDiagram.Graph

section Meets

variable {root home home' : String} {es : List Entry} {s : Symbols} {c c' : Connection}
  {a a' : Allocation} {e e' : Edge} (h : Entered es s) (hroot : IsIdentifier root)

include h hroot

theorem connection_id_eq_iff (hl : (Link.connection home c).Labelled)
    (hl' : (Link.connection home' c').Labelled) (hmeets : (Link.connection home c).Meets root s e)
    (hmeets' : (Link.connection home' c').Meets root s e') : e.id = e'.id ↔
      home = home' ∧ e.source = e'.source ∧ e.target = e'.target ∧ c.name = c'.name := by
  obtain ⟨p, q, hp, hq, hsegments⟩ := hmeets.connection_segmented h hroot hl
  obtain ⟨p', q', hp', hq', hsegments'⟩ := hmeets'.connection_segmented h hroot hl'
  rw [hsegments.id_eq_iff hroot hsegments']
  constructor
  · intro heq
    have hedge : e = e' := hsegments.inj hsegments' heq
    simp only [List.cons_append, List.nil_append, List.cons.injEq, true_and] at heq
    obtain ⟨rfl, -, hname⟩ := heq
    have hhead := congrArg List.head? hname
    rw [Option.head?_toList, Option.head?_toList] at hhead
    exact ⟨rfl, congrArg Edge.source hedge, congrArg Edge.target hedge, hhead⟩
  · rintro ⟨rfl, hsource, htarget, hname⟩
    -- A node has one path.
    rw [hsource] at hp
    rw [htarget] at hq
    cases hp.symm.trans hp'
    cases hq.symm.trans hq'
    rw [hname]

theorem allocation_id_eq_iff (hmeets : (Link.allocation a).Meets root s e)
    (hmeets' : (Link.allocation a').Meets root s e') :
    e.id = e'.id ↔ a.goal = a'.goal ∧ e.source = e'.source := by
  obtain ⟨p, hp, hsegments⟩ := hmeets.allocation_segmented h hroot
  obtain ⟨p', hp', hsegments'⟩ := hmeets'.allocation_segmented h hroot
  rw [hsegments.id_eq_iff hroot hsegments']
  constructor
  · intro heq
    have hedge : e = e' := hsegments.inj hsegments' heq
    simp only [List.cons.injEq, true_and, and_true] at heq
    exact ⟨heq.2, congrArg Edge.source hedge⟩
  · rintro ⟨hgoal, hsource⟩
    rw [hsource] at hp
    cases hp.symm.trans hp'
    rw [hgoal]

theorem connection_id_ne_allocation_id (hl : (Link.connection home c).Labelled)
    (hmeets : (Link.connection home c).Meets root s e)
    (hmeets' : (Link.allocation a).Meets root s e') : e.id ≠ e'.id := by
  obtain ⟨p, q, -, -, hsegments⟩ := hmeets.connection_segmented h hroot hl
  obtain ⟨p', -, hsegments'⟩ := hmeets'.allocation_segmented h hroot
  rw [Ne, hsegments.id_eq_iff hroot hsegments']
  intro heq
  exact absurd (List.cons.inj heq).1 (by decide)

end Meets

namespace Accounts

variable {m : Model} {vs : List Visit} {os : List Outcome} {g : Graph} {d : Draft}
  (h : Accounts m vs os g d)

include h

theorem systems_sublist : ((kept vs).filterMap Item.system?).Sublist m.systems := by
  have hkept : (kept vs).Sublist (Item.listing (.root m)) := by
    have hwalk := h.walks.sublist
    rw [List.flatMap_singleton] at hwalk
    exact (List.filter_sublist.map _).trans hwalk
  rw [← Item.filterMap_system? m]
  exact hkept.filterMap _

theorem links_labelled (hm : m.Named IsIdentifier) (hlabels : ∀ s ∈ m.systems, s.Labelled) :
    ∀ l ∈ links m vs, l.Labelled := by
  intro l hl
  apply allLinks_labelled hm hlabels
  rcases List.mem_append.mp hl with hl | hl
  · obtain ⟨s, hs, hl⟩ := List.mem_flatMap.mp hl
    have hs := h.systems_sublist.subset hs
    exact List.mem_append_left _ (List.mem_flatMap.mpr ⟨s, hs, hl⟩)
  · exact List.mem_append_right _ hl

theorem named (hm : m.Named IsIdentifier) : ∀ i ∈ kept vs, i.Named IsIdentifier := by
  intro i hi
  have hroot : ∀ j ∈ [Item.root m], j.Named IsIdentifier := List.forall_mem_singleton.mpr hm
  exact h.walks.forall_mem hroot (fun hi hj ↦ hi.children hj) _ (mem_kept.mp hi)

theorem entered (hm : m.Named IsIdentifier) :
    Entered ((kept vs).filterMap (Item.entry? (Build.rootName m))) d.symbols where
  names := by
    intro e he
    obtain ⟨i, hi, he⟩ := List.mem_filterMap.mp he
    exact Item.names_entry (h.named hm i hi) he
  ids := by
    have hids : ((kept vs).map (Item.id (Build.rootName m))).Nodup :=
      List.pairwise_map.mpr h.decided.pairwise
    refine List.Nodup.sublist (sublist_filterMap_map ?_ _) hids
    intro i e he
    exact (Item.entry?_eq_some _ he).2.symm
  run := h.symbols

/-- A link of which both ends are known has its edge in the graph. -/
theorem exists_edge (hm : m.Named IsIdentifier) (hlabels : ∀ s ∈ m.systems, s.Labelled) {l : Link}
    (hl : l ∈ links m vs) (hresolved : l.Resolved d.symbols) :
    ∃ e ∈ g.edges, l.Meets (Build.rootName m) d.symbols e := by
  have hlinks := h.links_labelled hm hlabels
  obtain ⟨c, hc, hdemands⟩ := h.become.exists_demand hl
  cases hdemands with
  | finding hmisses => exact absurd hmisses hresolved.not_misses
  | edge hmeets =>
    obtain ⟨e', he', hid⟩ := h.become.exists_edge hc
    rw [List.nil_append] at he'
    obtain ⟨l', hl', hmeets'⟩ := h.become.exists_meets (mem_demands_of_mem_edges he')
    have heq := hmeets'.eq_of_id (h.entered hm) (isIdentifier_rootName hm) (hlinks l' hl')
      (hlinks l hl) hmeets hid
    exact ⟨_, h.edges ▸ heq ▸ he', hmeets⟩

end Accounts

/-- Whatever the text: a link of which both ends are known has its edge in the graph. Connections
have the same one if and only if they agree in their system, their ends and their name;
allocations, if and only if they agree in their goal and their twin. No connection has the edge of
an allocation. -/
theorem edges_collapse_iff (text : String) :
    ∃ m s g d vs os, Parser.readText text = (.ok m, s) ∧ ofModel m = (.ok g, d) ∧
      Accounts m vs os g d ∧
      (∀ l ∈ links m vs, l.Resolved d.symbols →
        ∃ e ∈ g.edges, l.Meets (Build.rootName m) d.symbols e) ∧
      (∀ home c e home' c' e', .connection home c ∈ links m vs → .connection home' c' ∈ links m vs →
        (Link.connection home c).Meets (Build.rootName m) d.symbols e →
        (Link.connection home' c').Meets (Build.rootName m) d.symbols e' →
        (e.id = e'.id ↔
          home = home' ∧ e.source = e'.source ∧ e.target = e'.target ∧ c.name = c'.name)) ∧
      (∀ a e a' e', (Link.allocation a).Meets (Build.rootName m) d.symbols e →
        (Link.allocation a').Meets (Build.rootName m) d.symbols e' →
        (e.id = e'.id ↔ a.goal = a'.goal ∧ e.source = e'.source)) ∧
      ∀ home c e a e', .connection home c ∈ links m vs →
        (Link.connection home c).Meets (Build.rootName m) d.symbols e →
        (Link.allocation a).Meets (Build.rootName m) d.symbols e' → e.id ≠ e'.id := by
  obtain ⟨m, s, hread, hm⟩ := Parser.readText_ok text
  obtain ⟨g, d, hgraph, -⟩ := ofModel_ok hm
  obtain ⟨vs, os, h⟩ := ofModel_accounts hgraph
  have hlabels := Parser.readText_labelled hread
  have hentered := h.entered hm
  have hroot := isIdentifier_rootName hm
  have hlinks := h.links_labelled hm hlabels
  refine ⟨m, s, g, d, vs, os, hread, hgraph, h, ?_, ?_, ?_, ?_⟩
  · intro l hl hresolved
    exact h.exists_edge hm hlabels hl hresolved
  · intro home c e home' c' e' hl hl' hmeets hmeets'
    exact connection_id_eq_iff hentered hroot (hlinks _ hl) (hlinks _ hl') hmeets hmeets'
  · intro a e a' e' hmeets hmeets'
    exact allocation_id_eq_iff hentered hroot hmeets hmeets'
  · intro home c e a e' hl hmeets hmeets'
    exact connection_id_ne_allocation_id hentered hroot (hlinks _ hl) hmeets hmeets'

end TwinDiagram.Graph
