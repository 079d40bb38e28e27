import TwinDiagram.Proofs.Graph.Account

namespace TwinDiagram.Graph

open Program

/-- What asks for an edge. -/
inductive Link where
  | connection (home : String) (c : Connection)
  | allocation (a : Allocation)
deriving DecidableEq, Repr

inductive Outcome where
  | drawn (e : Edge)
  | repeated (e : Edge)
  | lost (f : Finding)
deriving DecidableEq, Repr

namespace Outcome

def edge? : Outcome → Option Edge
  | drawn e => some e
  | repeated _ => none
  | lost _ => none

def finding? : Outcome → Option Finding
  | drawn _ => none
  | repeated e => some (.duplicateEdge e.kind e.id)
  | lost f => some f

end Outcome

def nameSegments : Option String → List String
  | none => []
  | some n => if n.isEmpty then [] else [segment n]

def connectionId (root home sourcePath targetPath : String) (name : Option String) : String :=
  separator.intercalate
    ([identifier "connect" [root, home], s!"{sourcePath}->{targetPath}"] ++ nameSegments name)

def allocationId (root targetPath goal : String) : String :=
  separator.intercalate [Build.allocationLabel, segment root, targetPath, segment goal]

namespace Link

/-- Both ends of the link are known, and it asks for this edge. -/
inductive Meets (root : String) (s : Symbols) : Link → Edge → Prop
  | connection {home : String} {c : Connection} {source target p q : String} :
      s.port? home c.source = some source → s.port? home c.target = some target →
      s.paths.get? source = some p → s.paths.get? target = some q →
      Meets root s (.connection home c)
        ⟨connectionId root home p q c.name, .connection, source, target, c.name⟩
  | allocation {a : Allocation} {goal twin p : String} :
      s.goals.get? a.goal = some goal → s.twin? a.target = some twin →
      s.paths.get? twin = some p →
      Meets root s (.allocation a)
        ⟨allocationId root p a.goal, .allocation, twin, goal, some Build.allocationLabel⟩

/-- An end of the link is unknown, and the first such end is told. -/
inductive Misses (s : Symbols) : Link → Finding → Prop
  | source {home : String} {c : Connection} : s.port? home c.source = none →
      Misses s (.connection home c)
        (.lostConnection c c.source (s.isAmbiguousPort home c.source))
  | target {home : String} {c : Connection} : (s.port? home c.source).isSome →
      s.port? home c.target = none →
      Misses s (.connection home c)
        (.lostConnection c c.target (s.isAmbiguousPort home c.target))
  | goal {a : Allocation} : s.goals.get? a.goal = none →
      Misses s (.allocation a) (.lostAllocation a a.goal false)
  | twin {a : Allocation} : (s.goals.get? a.goal).isSome → s.twin? a.target = none →
      Misses s (.allocation a) (.lostAllocation a a.target (s.isAmbiguousTwin a.target))

inductive Becomes (root : String) (s : Symbols) (drawn : List Edge) (l : Link) : Outcome → Prop
  | drawn {e : Edge} : l.Meets root s e → (∀ e' ∈ drawn, e'.id ≠ e.id) →
    Becomes root s drawn l (.drawn e)
  | repeated {e : Edge} : l.Meets root s e → (∃ e' ∈ drawn, e'.id = e.id) →
      Becomes root s drawn l (.repeated e)
  | lost {f : Finding} : l.Misses s f → Becomes root s drawn l (.lost f)

def add (root : String) : Link → Build Unit
  | connection home c => Build.addConnection root home c
  | allocation a => Build.addAllocation root a

end Link

inductive Become (root : String) (s : Symbols) : List Edge → List Link → List Outcome → Prop
  | nil {drawn : List Edge} : Become root s drawn [] []
  | cons {drawn : List Edge} {l : Link} {ls : List Link} {o : Outcome} {os : List Outcome} :
      l.Becomes root s drawn o → Become root s (drawn ++ o.edge?.toList) ls os →
      Become root s drawn (l :: ls) (o :: os)

variable {root : String} {s : Symbols} {drawn : List Edge} {l : Link} {ls : List Link} {o : Outcome}
  {os : List Outcome} {d d' : Draft} {e : Edge}

theorem filterMap_cons_toList {α β : Type} (f : α → Option β) (x : α) (xs : List α) :
    (x :: xs).filterMap f = (f x).toList ++ xs.filterMap f := by
  cases h : f x <;> simp [h]

/-- An edge that is drawn is what one of the links asks for. -/
theorem Become.meets (h : Become root s drawn ls os) :
    ∀ e ∈ os.filterMap Outcome.edge?, ∃ l ∈ ls, l.Meets root s e := by
  induction h with
  | nil => exact List.forall_mem_nil _
  | @cons drawn l ls o os hl _ ih =>
    intro e he
    rw [filterMap_cons_toList, List.mem_append, Option.mem_toList] at he
    rcases he with he | he
    · cases hl with
      | drawn hmeets hnew =>
        cases he
        exact ⟨l, .head _, hmeets⟩
      | repeated | lost => cases he
    · obtain ⟨l', hl', hmeets⟩ := ih e he
      exact ⟨l', .tail _ hl', hmeets⟩

theorem Become.nodup (h : Become root s drawn ls os) (hdrawn : (drawn.map Edge.id).Nodup) :
    ((drawn ++ os.filterMap Outcome.edge?).map Edge.id).Nodup := by
  induction h with
  | nil => simpa using hdrawn
  | @cons drawn l ls o os hl _ ih =>
    rw [filterMap_cons_toList, ← List.append_assoc]
    apply ih
    cases hl with
    | @drawn e hmeets hnew =>
      rw [Outcome.edge?, Option.toList_some, List.map_append, List.nodup_append]
      refine ⟨hdrawn, by simp, fun x hx y hy ↦ ?_⟩
      obtain ⟨e', he', rfl⟩ := List.mem_map.mp hx
      rw [List.mem_singleton.mp hy]
      exact hnew e' he'
    | repeated | lost =>
      rw [Outcome.edge?, Option.toList_none, List.append_nil]
      exact hdrawn

namespace Build

theorem pathOf_ok {id p : String} (h : (pathOf id).run.run d = (.ok p, d')) :
    d' = d ∧ d.symbols.paths.get? id = some p := by
  rw [pathOf, run_bind, run_get] at h
  simp only at h
  split at h <;> cases h
  next hp => exact ⟨rfl, hp⟩

theorem run_addEdge (e : Edge) (d : Draft) : (addEdge e).run.run d =
    if d.edges.any (·.id == e.id) then
      (.ok (), { d with findings := d.findings ++ [.duplicateEdge e.kind e.id] })
    else (.ok (), { d with edges := d.edges ++ [e] }) := by
  rw [addEdge, run_bind, run_get]
  simp only
  split <;> rfl

def noted (d : Draft) (os : List Outcome) : Draft :=
  { d with
    edges := d.edges ++ os.filterMap Outcome.edge?
    findings := d.findings ++ os.filterMap Outcome.finding? }

theorem noted_nil (d : Draft) : noted d [] = d := by
  simp [noted]

theorem edges_noted (d : Draft) (o : Outcome) :
    (noted d [o]).edges = d.edges ++ o.edge?.toList := by
  simp [noted, filterMap_cons_toList]

theorem noted_noted (d : Draft) (o : Outcome) (os : List Outcome) :
    noted (noted d [o]) os = noted d (o :: os) := by
  simp [noted, filterMap_cons_toList]

theorem addEdge_ok (hmeets : l.Meets root d.symbols e)
    (hrun : (addEdge e).run.run d = (.ok (), d')) :
    ∃ o, l.Becomes root d.symbols d.edges o ∧ d' = noted d [o] := by
  rw [run_addEdge] at hrun
  by_cases hany : d.edges.any (·.id == e.id)
  · rw [if_pos hany] at hrun
    cases hrun
    exact ⟨.repeated e, .repeated hmeets (by simpa using hany),
      by simp [noted, Outcome.edge?, Outcome.finding?]⟩
  · rw [if_neg hany] at hrun
    cases hrun
    exact ⟨.drawn e, .drawn hmeets (by simpa using hany),
      by simp [noted, Outcome.edge?, Outcome.finding?]⟩

theorem report_ok {f : Finding} (hmisses : l.Misses d.symbols f)
    (hrun : (report f).run.run d = (.ok (), d')) :
    ∃ o, l.Becomes root d.symbols d.edges o ∧ d' = noted d [o] := by
  cases hrun
  exact ⟨.lost f, .lost hmisses, by simp [noted, Outcome.edge?, Outcome.finding?]⟩

theorem add_ok (hrun : (l.add root).run.run d = (.ok (), d')) :
    ∃ o, l.Becomes root d.symbols d.edges o ∧ d' = noted d [o] := by
  cases l with
  | connection home c =>
    rw [Link.add, addConnection, run_bind, run_get] at hrun
    simp only at hrun
    split at hrun
    · next hsource => exact report_ok (.source hsource) hrun
    · next hsource htarget =>
      exact report_ok (.target (by rw [hsource]; rfl) htarget) hrun
    · next source target hsource htarget =>
      obtain ⟨p, d₁, hp, htail⟩ := bind_ok hrun
      obtain ⟨rfl, hp⟩ := pathOf_ok hp
      obtain ⟨q, d₂, hq, hedge⟩ := bind_ok htail
      obtain ⟨rfl, hq⟩ := pathOf_ok hq
      exact addEdge_ok (.connection hsource htarget hp hq) hedge
  | allocation a =>
    rw [Link.add, addAllocation, run_bind, run_get] at hrun
    simp only at hrun
    split at hrun
    · next hgoal => exact report_ok (.goal hgoal) hrun
    · next hgoal htwin => exact report_ok (.twin (by rw [hgoal]; rfl) htwin) hrun
    · next goal twin hgoal htwin =>
      obtain ⟨p, d₁, hp, hedge⟩ := bind_ok hrun
      obtain ⟨rfl, hp⟩ := pathOf_ok hp
      exact addEdge_ok (.allocation hgoal htwin hp) hedge

theorem forM_add_ok (hrun : (forM ls (Link.add root)).run.run d = (.ok (), d')) :
    ∃ os, Become root d.symbols d.edges ls os ∧ d' = noted d os := by
  induction ls generalizing d with
  | nil =>
    cases hrun
    exact ⟨[], .nil, (noted_nil _).symm⟩
  | cons l ls ih =>
    obtain ⟨⟨⟩, d₁, hl, hrest⟩ := bind_ok hrun
    obtain ⟨o, ho, rfl⟩ := add_ok hl
    obtain ⟨os, hos, rfl⟩ := ih hrest
    rw [edges_noted] at hos
    exact ⟨o :: os, .cons ho hos, noted_noted _ o os⟩

end Build

end TwinDiagram.Graph
