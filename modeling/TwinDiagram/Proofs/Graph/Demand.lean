import Mathlib.Data.List.Nodup
import Mathlib.Data.List.Perm.Basic
import TwinDiagram.Proofs.Graph.Agreement
import TwinDiagram.Proofs.Graph.Link

namespace TwinDiagram.Graph

def Outcome.demand : Outcome → Edge ⊕ Finding
  | drawn e => .inl e
  | repeated e => .inl e
  | lost f => .inr f

def told : Edge ⊕ Finding → Finding := Sum.elim (fun e ↦ .duplicateEdge e.kind e.id) fun f ↦ f

namespace Link

inductive Demands (root : String) (s : Symbols) (l : Link) : Edge ⊕ Finding → Prop
  | edge {e : Edge} : l.Meets root s e → Demands root s l (.inl e)
  | finding {f : Finding} : l.Misses s f → Demands root s l (.inr f)

/-- Both ends of the link are known. -/
def Resolved (s : Symbols) : Link → Prop
  | connection home c => (s.port? home c.source).isSome ∧ (s.port? home c.target).isSome
  | allocation a => (s.goals.get? a.goal).isSome ∧ (s.twin? a.target).isSome

/-- The system that a reference is written in has no dot in its name. -/
def Homed : Link → Prop
  | connection home _ => '.' ∉ home.toList
  | allocation _ => True

variable {root : String} {s t : Symbols} {l : Link} {e e' : Edge} {f f' : Finding}
  {c c' : Edge ⊕ Finding}

theorem Meets.unique (h : l.Meets root s e) (h' : l.Meets root s e') : e = e' := by
  cases h with
  | connection hsource htarget hp hq =>
    cases h' with
    | connection hsource' htarget' hp' hq' =>
      cases hsource.symm.trans hsource'
      cases htarget.symm.trans htarget'
      cases hp.symm.trans hp'
      cases hq.symm.trans hq'
      rfl
  | allocation hgoal htwin hp =>
    cases h' with
    | allocation hgoal' htwin' hp' =>
      cases hgoal.symm.trans hgoal'
      cases htwin.symm.trans htwin'
      cases hp.symm.trans hp'
      rfl

theorem Misses.unique (h : l.Misses s f) (h' : l.Misses s f') : f = f' := by
  cases h <;> cases h' <;> simp_all

theorem Meets.not_misses (h : l.Meets root s e) : ¬ l.Misses s f := by
  intro h'
  cases h <;> cases h' <;> simp_all

theorem Resolved.not_misses (h : l.Resolved s) : ¬ l.Misses s f := by
  intro hmisses
  cases hmisses with
  | source hnone | goal hnone => exact absurd h.1 (by simp [hnone])
  | target _ hnone | twin _ hnone => exact absurd h.2 (by simp [hnone])

theorem Demands.unique (h : l.Demands root s c) (h' : l.Demands root s c') : c = c' := by
  cases h with
  | edge h =>
    cases h' with
    | edge h' => rw [h.unique h']
    | finding h' => exact absurd h' h.not_misses
  | finding h =>
    cases h' with
    | edge h' => exact absurd h h'.not_misses
    | finding h' => rw [h.unique h']

theorem Meets.congr (hst : s.Agree t) (hl : l.Homed) (h : l.Meets root s e) : l.Meets root t e := by
  cases h with
  | connection hsource htarget hp hq =>
    rw [hst.port? _ _ hl] at hsource htarget
    rw [hst.paths] at hp hq
    exact .connection hsource htarget hp hq
  | allocation hgoal htwin hp =>
    rw [hst.goals] at hgoal
    rw [hst.twin?] at htwin
    rw [hst.paths] at hp
    exact .allocation hgoal htwin hp

theorem Misses.congr (hst : s.Agree t) (hl : l.Homed) (h : l.Misses s f) : l.Misses t f := by
  cases h with
  | source hsource =>
    rw [hst.port? _ _ hl] at hsource
    rw [hst.isAmbiguousPort]
    exact .source hsource
  | target hsource htarget =>
    rw [hst.port? _ _ hl] at hsource htarget
    rw [hst.isAmbiguousPort]
    exact .target hsource htarget
  | goal hgoal =>
    rw [hst.goals] at hgoal
    exact .goal hgoal
  | twin hgoal htwin =>
    rw [hst.goals] at hgoal
    rw [hst.twin?] at htwin
    rw [hst.isAmbiguousTwin]
    exact .twin hgoal htwin

theorem Demands.congr (hst : s.Agree t) (hl : l.Homed) (h : l.Demands root s c) :
    l.Demands root t c := by
  cases h with
  | edge h => exact .edge (h.congr hst hl)
  | finding h => exact .finding (h.congr hst hl)

theorem Becomes.demands {drawn : List Edge} {o : Outcome} (h : l.Becomes root s drawn o) :
    l.Demands root s o.demand := by
  cases h with
  | drawn h | repeated h => exact .edge h
  | lost h => exact .finding h

end Link

section Become

variable {root : String} {s t : Symbols} {drawn drawn' : List Edge} {ls ls' : List Link}
  {os os' : List Outcome} {e : Edge}

theorem Become.demands (h : Become root s drawn ls os) (hst : s.Agree t) (hls : ∀ l ∈ ls, l.Homed) :
    List.Forall₂ (Link.Demands root t) ls (os.map Outcome.demand) := by
  induction h with
  | nil => exact .nil
  | cons hl _ ih =>
    obtain ⟨hhome, hls⟩ := List.forall_mem_cons.mp hls
    exact .cons (hl.demands.congr hst hhome) (ih hls)

theorem Become.demands_perm (h : Become root s drawn ls os) (h' : Become root t drawn' ls' os')
    (hst : s.Agree t) (hls : ∀ l ∈ ls, l.Homed) (hperm : ls.Perm ls') :
    (os.map Outcome.demand).Perm (os'.map Outcome.demand) := by
  have hls' : ∀ l ∈ ls', l.Homed := fun l hl ↦ hls l (hperm.mem_iff.mpr hl)
  have hunique : Relator.RightUnique (Link.Demands root t) := fun _ _ _ hc hc' ↦ hc.unique hc'
  exact List.rel_perm_imp hunique (h.demands hst hls) (h'.demands .refl hls') hperm

theorem perm_told (os : List Outcome) :
    ((os.filterMap Outcome.edge?).map (fun e ↦ told (.inl e)) ++ os.filterMap Outcome.finding?).Perm
      ((os.map Outcome.demand).map told) := by
  induction os with
  | nil => exact .nil
  | cons o os ih =>
    cases o with
    | drawn e => exact ih.cons _
    | repeated e => exact List.perm_middle.trans (ih.cons _)
    | lost f => exact List.perm_middle.trans (ih.cons _)

theorem mem_demands_of_mem_edges (he : e ∈ os.filterMap Outcome.edge?) :
    .inl e ∈ os.map Outcome.demand := by
  obtain ⟨o, ho, heq⟩ := List.mem_filterMap.mp he
  refine List.mem_map.mpr ⟨o, ho, ?_⟩
  cases o <;> cases heq
  rfl

theorem Become.exists_meets (h : Become root s drawn ls os) (he : .inl e ∈ os.map Outcome.demand) :
    ∃ l ∈ ls, l.Meets root s e := by
  induction h with
  | nil => cases he
  | @cons drawn l ls o os hl _ ih =>
    rcases List.mem_cons.mp he with heq | he
    · cases heq ▸ hl.demands with
      | edge hmeets => exact ⟨l, .head _, hmeets⟩
    · obtain ⟨l', hl', hmeets⟩ := ih he
      exact ⟨l', .tail _ hl', hmeets⟩

theorem Become.exists_demand (h : Become root s drawn ls os) {l : Link} (hl : l ∈ ls) :
    ∃ c ∈ os.map Outcome.demand, l.Demands root s c := by
  induction h with
  | nil => cases hl
  | cons hbecomes _ ih =>
    rcases List.mem_cons.mp hl with rfl | hl
    · exact ⟨_, .head _, hbecomes.demands⟩
    · obtain ⟨c, hc, hdemands⟩ := ih hl
      exact ⟨c, .tail _ hc, hdemands⟩

theorem Become.exists_edge (h : Become root s drawn ls os) (he : .inl e ∈ os.map Outcome.demand) :
    ∃ e' ∈ drawn ++ os.filterMap Outcome.edge?, e'.id = e.id := by
  induction h with
  | nil => cases he
  | @cons drawn l ls o os hl _ ih =>
    rw [filterMap_cons_toList, ← List.append_assoc]
    rcases List.mem_cons.mp he with heq | he
    · cases hl with
      | drawn =>
        cases heq
        exact ⟨e, by simp [Outcome.edge?], rfl⟩
      | repeated _ hold =>
        cases heq
        obtain ⟨e', he', hid⟩ := hold
        exact ⟨e', by simp [he'], hid⟩
      | lost => cases heq
    · exact ih he

/-- Edges and findings follow from the demands, whatever their order, if no two edges that are asked
for share an identifier. -/
theorem Become.perm (h : Become root s [] ls os) (h' : Become root t [] ls' os')
    (hdemands : (os.map Outcome.demand).Perm (os'.map Outcome.demand))
    (hids : ∀ e e', .inl e ∈ os.map Outcome.demand → .inl e' ∈ os.map Outcome.demand →
      e.id = e'.id → e = e') :
    (os.filterMap Outcome.edge?).Perm (os'.filterMap Outcome.edge?) ∧
      (os.filterMap Outcome.finding?).Perm (os'.filterMap Outcome.finding?) := by
  have hmem {s ls os} (h : Become root s [] ls os) (hids : ∀ e e', .inl e ∈ os.map Outcome.demand →
      .inl e' ∈ os.map Outcome.demand → e.id = e'.id → e = e') (e : Edge) :
      e ∈ os.filterMap Outcome.edge? ↔ .inl e ∈ os.map Outcome.demand := by
    refine ⟨mem_demands_of_mem_edges, fun he ↦ ?_⟩
    obtain ⟨e', he', hid⟩ := h.exists_edge he
    exact hids e' e (mem_demands_of_mem_edges he') he hid ▸ he'
  have hids' : ∀ e e', .inl e ∈ os'.map Outcome.demand → .inl e' ∈ os'.map Outcome.demand →
      e.id = e'.id → e = e' :=
    fun e e' he he' ↦ hids e e' (hdemands.mem_iff.mpr he) (hdemands.mem_iff.mpr he')
  have hnodup : (os.filterMap Outcome.edge?).Nodup := List.Nodup.of_map _ (h.nodup .nil)
  have hnodup' : (os'.filterMap Outcome.edge?).Nodup := List.Nodup.of_map _ (h'.nodup .nil)
  have hedges : (os.filterMap Outcome.edge?).Perm (os'.filterMap Outcome.edge?) := by
    rw [List.perm_ext_iff_of_nodup hnodup hnodup']
    intro e
    rw [hmem h hids, hmem h' hids', hdemands.mem_iff]
  -- What is told of all demands is the findings and, once more, the edges that are drawn.
  refine ⟨hedges, ?_⟩
  have htold := (perm_told os).trans ((hdemands.map told).trans (perm_told os').symm)
  have hrepeats := hedges.map fun e ↦ told (.inl e)
  exact (List.perm_append_left_iff _).mp ((hrepeats.append_right _).symm.trans htold)

end Become

end TwinDiagram.Graph
