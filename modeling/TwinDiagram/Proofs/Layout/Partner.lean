import TwinDiagram.Proofs.Graph.FullName
import TwinDiagram.Proofs.Layout.Stage

namespace TwinDiagram

namespace Graph

variable {g : Graph} {home owner port p n : Node}

theorem WellFormed.exists_parent (hg : g.WellFormed) (hn : n ∈ g.nodes) (hkind : n.kind ≠ .root) :
    ∃ p, g.Parent p n ∧ Within n.kind p.kind := by
  obtain ⟨before, behind, hsplit⟩ := List.append_of_mem hn
  obtain ⟨p, hp, hparent, hwithin⟩ := hg.parents before n behind hsplit hkind
  exact ⟨p, ⟨hsplit ▸ List.mem_append_left _ hp, hn, hparent⟩, hwithin⟩

theorem WellFormed.within (hg : g.WellFormed) (h : g.Parent p n) (hkind : n.kind ≠ .root) :
    Within n.kind p.kind := by
  obtain ⟨p', hp', hwithin⟩ := hg.exists_parent h.2.1 hkind
  rwa [hg.eq_of_id h.1 hp'.1 (Option.some.inj (h.2.2.symm.trans hp'.2.2))]

theorem PortOf.owner_kind (hg : g.WellFormed) (h : g.PortOf home owner port) :
    owner.kind = .digitalTwin ∨ owner.kind = .part := by
  have hwithin := hg.within h.parent (by rw [h.kind]; decide)
  rwa [h.kind] at hwithin

theorem PortOf.mem_systems (hg : g.WellFormed) (h : g.PortOf home owner port) :
    home ∈ g.nodesOfKind .system := by
  refine Layout.mem_nodesOfKind.mpr ⟨h.grandparent.1, ?_⟩
  obtain hkind | hkind := h.owner_kind hg
  all_goals
    have hwithin := hg.within h.grandparent (by rw [hkind]; decide)
    rwa [hkind] at hwithin

theorem PortOf.mem_children (h : g.PortOf home owner port) :
    owner ∈ g.childrenOfKind home.id owner.kind ∧ port ∈ g.childrenOfKind owner.id .port :=
  ⟨Layout.mem_childrenOfKind.mpr ⟨h.grandparent.2.1, h.grandparent.2.2, rfl⟩,
    Layout.mem_childrenOfKind.mpr ⟨h.parent.2.1, h.parent.2.2, h.kind⟩⟩

theorem PortOf.mem_family (hg : g.WellFormed) (h : g.PortOf home owner port) :
    port ∈ Layout.family g home :=
  Layout.mem_family.mpr (.inr ⟨owner,
    Layout.mem_owners.mpr ⟨h.grandparent.2.1, h.grandparent.2.2, h.owner_kind hg⟩,
    List.mem_cons_of_mem _ h.mem_children.2⟩)

end Graph

namespace Layout

open Checked (Rule ids)

variable {α : Type} {g : Graph} {before behind : List Node} {home home' twin port other n : Node}

def NotAfter (g : Graph) (home' home : Node) : Prop :=
  ∃ before behind, g.nodesOfKind .system = before ++ home :: behind ∧
    (home' ∈ before ∨ home' = home)

/-- The edge leads from the port of a part, at whichever end this is, to that of a digital twin
which is drawn by then. -/
structure Reaches (g : Graph) (home port : Node) (e : Edge) (other : Node) : Prop where
  joins : e.source = port.id ∧ e.target = other.id ∨ e.target = port.id ∧ e.source = other.id
  onTwin : ∃ home' twin, g.PortOf home' twin other ∧ twin.kind = .digitalTwin ∧
    NotAfter g home' home

def FirstPartner (g : Graph) (home port other : Node) : Prop :=
  ∃ before e behind, g.edgesOfKind .connection = before ++ e :: behind ∧
    Reaches g home port e other ∧
    ∀ e' ∈ before, ∀ other', ¬ Reaches g home port e' other'

theorem otherEnd_eq_some_iff {id id' : String} {e : Edge} : otherEnd id e = some id' ↔
    e.source = id ∧ e.target = id' ∨ e.target = id ∧ e.source = id' := by
  unfold otherEnd
  split
  · next hsource => simp only [Option.some_inj]; grind
  · next hsource => split <;> grind

def partnerOn? (g : Graph) (boxes : Boxes α) (port : String) (e : Edge) : Option (Box α) :=
  match otherEnd port e with
  | none => none
  | some other => if isOnDigitalTwin g other then boxes.get? other else none

theorem partner?_eq (boxes : Boxes α) (port : String) :
    partner? g boxes port = (g.edgesOfKind .connection).findSome? (partnerOn? g boxes port) := rfl

theorem isOnDigitalTwin_iff (hg : g.WellFormed) (hother : other ∈ g.nodes)
    (hkind : other.kind = .port) :
    isOnDigitalTwin g other.id ↔ ∃ home twin, g.PortOf home twin other ∧
      twin.kind = .digitalTwin := by
  have hfound := (node?_eq_some_iff hg.nodeIds).mpr ⟨hother, rfl⟩
  constructor
  · intro h
    obtain ⟨twin, htwin, -⟩ := hg.exists_parent hother (by rw [hkind]; decide)
    have howner := (node?_eq_some_iff hg.nodeIds).mpr ⟨htwin.1, rfl⟩
    simp only [isOnDigitalTwin, hfound, htwin.2.2, Option.getD_some, howner, Option.any_some,
      beq_iff_eq] at h
    obtain ⟨home, hhome, -⟩ := hg.exists_parent htwin.1 (by rw [h]; decide)
    exact ⟨home, twin, ⟨hkind, htwin, hhome⟩, h⟩
  · rintro ⟨home, twin, hport, htwin⟩
    have howner := (node?_eq_some_iff hg.nodeIds).mpr ⟨hport.parent.1, rfl⟩
    simp only [isOnDigitalTwin, hfound, hport.parent.2.2, Option.getD_some, howner,
      Option.any_some, htwin, beq_self_eq_true]

theorem notAfter_iff (hnodes : (g.nodes.map (·.id)).Nodup)
    (hsystems : g.nodesOfKind .system = before ++ home :: behind) :
    NotAfter g home' home ↔ home' ∈ before ∨ home' = home := by
  have hnew {xs ys : List Node} (h : g.nodesOfKind .system = xs ++ home :: ys) : home ∉ xs := by
    have hnodup := nodup_nodesOfKind hnodes .system
    rw [h, List.nodup_append'] at hnodup
    exact fun hmem ↦ hnodup.2.2 hmem (.head _)
  constructor
  · rintro ⟨before', behind', hsystems', h⟩
    obtain ⟨rfl, -⟩ := Text.append_cons_inj (hnew hsystems') (hnew hsystems)
      (hsystems'.symm.trans hsystems)
    exact h
  · exact fun h ↦ ⟨before, behind, hsystems, h⟩

theorem settled_of_portOf (hg : g.WellFormed) (h : g.PortOf home twin port) : Settled g port :=
  .inr ⟨home, h.mem_systems hg, h.mem_family hg⟩

theorem Reaches.settled {e : Edge} (h : Reaches g home port e other) (hg : g.WellFormed) :
    Settled g other := by
  obtain ⟨_, _, hp, -, -⟩ := h.onTwin
  exact settled_of_portOf hg hp

theorem FirstPartner.settled (h : FirstPartner g home port other) (hg : g.WellFormed) :
    Settled g other := by
  obtain ⟨_, _, _, -, hreaches, -⟩ := h
  exact hreaches.settled hg

section Search

variable [Scalar α] {m : Metrics α} {c : Box α} {e : Edge} (hg : g.WellFormed)
  (hsystems : g.nodesOfKind .system = before ++ home :: behind)
include hg hsystems

/-- A port of a digital twin is found when its system does not come later, and where it stays. -/
theorem get?_stage_onTwin (hport : g.PortOf home' twin other) (htwin : twin.kind = .digitalTwin) :
    (stage m g before home .empty).get? other.id = some c ↔
      NotAfter g home' home ∧ (place m g).get? other.id = some c := by
  have hmem : other.id ∈ ids (stageEntries m g before home) ↔ NotAfter g home' home := by
    rw [notAfter_iff hg.nodeIds hsystems]
    exact mem_ids_stageEntries hsystems hg.nodeIds (hport.mem_systems hg)
      (htwin ▸ hport.mem_children.1) (List.mem_cons_of_mem _ hport.mem_children.2)
  by_cases hnot : NotAfter g home' home
  · rw [((settled_of_portOf hg hport).get?_place hg.nodeIds).2,
      (get?_stage_of_mem hsystems hg.nodeIds (hmem.mpr hnot)).2]
    simp [hnot]
  · rw [get?_stage_of_not_mem hg.nodeIds (mt hmem.mp hnot)]
    simp [hnot]

theorem partnerOn?_stage (he : e ∈ g.edgesOfKind .connection) :
    partnerOn? g (stage m g before home .empty) port.id e = some c ↔
      ∃ other, Reaches g home port e other ∧ (place m g).get? other.id = some c := by
  obtain ⟨he, hkind⟩ : e ∈ g.edges ∧ e.kind = .connection := by simpa [Graph.edgesOfKind] using he
  obtain ⟨⟨n, hn, hsource, hnport⟩, n', hn', htarget, hnport'⟩ := hg.connections e he hkind
  constructor
  · intro h
    cases hother : otherEnd port.id e with
    | none => simp [partnerOn?, hother] at h
    | some id =>
      obtain ⟨other, hmem, rfl, hport⟩ : ∃ other ∈ g.nodes, other.id = id ∧ other.kind = .port := by
        rcases otherEnd_eq_some_iff.mp hother with ⟨-, rfl⟩ | ⟨-, rfl⟩
        · exact ⟨n', hn', htarget, hnport'⟩
        · exact ⟨n, hn, hsource, hnport⟩
      by_cases hon : isOnDigitalTwin g other.id
      · obtain ⟨home', twin, hp, htwin⟩ := (isOnDigitalTwin_iff hg hmem hport).mp hon
        simp only [partnerOn?, hother, hon, if_true] at h
        obtain ⟨hnot, hbox⟩ := (get?_stage_onTwin hg hsystems hp htwin).mp h
        exact ⟨other, ⟨otherEnd_eq_some_iff.mp hother, home', twin, hp, htwin, hnot⟩, hbox⟩
      · simp [partnerOn?, hother, hon] at h
  · rintro ⟨other, ⟨hjoins, home', twin, hp, htwin, hnot⟩, hbox⟩
    have hon : isOnDigitalTwin g other.id :=
      (isOnDigitalTwin_iff hg hp.parent.2.1 hp.kind).mpr ⟨home', twin, hp, htwin⟩
    simp only [partnerOn?, otherEnd_eq_some_iff.mpr hjoins, hon, if_true]
    exact (get?_stage_onTwin hg hsystems hp htwin).mpr ⟨hnot, hbox⟩

theorem partnerOn?_stage_eq_none_iff (he : e ∈ g.edgesOfKind .connection) :
    partnerOn? g (stage m g before home .empty) port.id e = none ↔
      ∀ other, ¬ Reaches g home port e other := by
  rw [Option.eq_none_iff_forall_ne_some]
  constructor
  · intro h other hreaches
    obtain ⟨c, hc⟩ :=
      Option.isSome_iff_exists.mp ((hreaches.settled hg).get?_place (m := m) hg.nodeIds).1
    exact h c ((partnerOn?_stage hg hsystems he).mpr ⟨other, hreaches, hc⟩)
  · intro h c hc
    obtain ⟨other, hreaches, -⟩ := (partnerOn?_stage hg hsystems he).mp hc
    exact h other hreaches

/-- The search finds the first partner. -/
theorem partner?_stage : partner? g (stage m g before home .empty) port.id = some c ↔
    ∃ other, FirstPartner g home port other ∧ (place m g).get? other.id = some c := by
  rw [partner?_eq, List.findSome?_eq_some_iff]
  have hmem {xs : List Edge} {e : Edge} {ys : List Edge}
    (h : g.edgesOfKind .connection = xs ++ e :: ys) :
      (∀ e' ∈ xs, e' ∈ g.edgesOfKind .connection) ∧ e ∈ g.edgesOfKind .connection := by
    rw [h]
    exact ⟨fun _ ↦ List.mem_append_left _, by simp⟩
  constructor
  · rintro ⟨xs, e, ys, hedges, he, hxs⟩
    obtain ⟨other, hreaches, hbox⟩ := (partnerOn?_stage hg hsystems (hmem hedges).2).mp he
    exact ⟨other, ⟨xs, e, ys, hedges, hreaches, fun e' he' ↦
      (partnerOn?_stage_eq_none_iff hg hsystems ((hmem hedges).1 e' he')).mp (hxs e' he')⟩, hbox⟩
  · rintro ⟨other, ⟨xs, e, ys, hedges, hreaches, hxs⟩, hbox⟩
    exact ⟨xs, e, ys, hedges,
      (partnerOn?_stage hg hsystems (hmem hedges).2).mpr ⟨other, hreaches, hbox⟩,
      fun e' he' ↦
        (partnerOn?_stage_eq_none_iff hg hsystems ((hmem hedges).1 e' he')).mpr (hxs e' he')⟩

theorem partner?_stage_eq_none_iff : partner? g (stage m g before home .empty) port.id = none ↔
    ¬ ∃ other, FirstPartner g home port other := by
  rw [Option.eq_none_iff_forall_ne_some]
  constructor
  · rintro h ⟨other, hfirst⟩
    obtain ⟨c, hc⟩ :=
      Option.isSome_iff_exists.mp ((hfirst.settled hg).get?_place (m := m) hg.nodeIds).1
    exact h c ((partner?_stage hg hsystems).mpr ⟨other, hfirst, hc⟩)
  · intro h c hc
    obtain ⟨other, hfirst, -⟩ := (partner?_stage hg hsystems).mp hc
    exact h ⟨other, hfirst⟩

end Search

end Layout

end TwinDiagram
