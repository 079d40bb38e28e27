import TwinDiagram.Graph.Symbols
import TwinDiagram.Proofs.Program
import TwinDiagram.Proofs.Table
import TwinDiagram.Proofs.Token.Identifier

namespace TwinDiagram.Graph

def dots (name : String) : Nat := name.toList.count '.'

theorem dots_append (a b : String) : dots (a ++ b) = dots a + dots b := by
  simp [dots, String.toList_append, List.count_append]

theorem dots_eq_zero {name : String} (h : IsIdentifier name) : dots name = 0 :=
  List.count_eq_zero.mpr (h.not_mem rfl)

theorem dots_dot : dots "." = 1 := rfl

namespace Aliases

/-- Every name of so many dots has the system that declared it. -/
def Settled (n : Nat) (a : Aliases) : Prop :=
  ∀ k id, a.ids.get? k = some id → dots k = n → (a.systems.get? k).isSome

def Points (P : String → Prop) (a : Aliases) : Prop := ∀ k id, a.ids.get? k = some id → P id

variable {n : Nat} {P : String → Prop} {a b : Aliases} {name system id : String}

theorem settled_empty : Settled n empty := fun _ _ h _ ↦ by cases h

theorem points_empty : Points P empty := fun _ _ h ↦ by cases h

theorem Points.mono {Q : String → Prop} (h : a.Points P) (hPQ : ∀ {id}, P id → Q id) :
    a.Points Q := fun k id hk ↦ hPQ (h k id hk)

theorem get?_addQualified (a : Aliases) (name id k : String) :
    (a.addQualified name id).ids.get? k = (a.ids.get? k).or (if k = name then some id else none) :=
  Table.get?_insertNew _ _ _ _

/-- What comes of an unqualified name that a system adds. -/
inductive Addition (a : Aliases) (name system id : String) : Except AliasClash Aliases → Prop
  | shared (hshared : name ∈ a.ambiguous) : Addition a name system id (.ok a)
  | new (hshared : name ∉ a.ambiguous) (hid : a.ids.get? name = none) :
      Addition a name system id
        (.ok { a with ids := a.ids.insert name id, systems := a.systems.insert name system })
  | clash (hshared : name ∉ a.ambiguous) (hid : (a.ids.get? name).isSome)
      (hsystem : a.systems.get? name = none) : Addition a name system id (.error ⟨name⟩)
  | again (hshared : name ∉ a.ambiguous) (hid : (a.ids.get? name).isSome)
      (hsystem : a.systems.get? name = some system) : Addition a name system id (.ok a)
  | second {first : String} (hshared : name ∉ a.ambiguous) (hid : (a.ids.get? name).isSome)
      (hsystem : a.systems.get? name = some first) (hne : first ≠ system) :
      Addition a name system id
        (.ok { a with ids := a.ids.erase name, ambiguous := name :: a.ambiguous })

theorem addition_addUnqualified (a : Aliases) (name system id : String) :
    a.Addition name system id (a.addUnqualified name system id) := by
  unfold Aliases.addUnqualified
  split
  · next hshared => exact .shared (by simpa using hshared)
  next hshared =>
  have hshared' : name ∉ a.ambiguous := by simpa using hshared
  split
  · next hid => exact .new hshared' (by simpa [Table.contains_eq] using hid)
  next hid =>
  have hid' : (a.ids.get? name).isSome := by
    simpa [Table.contains_eq, Option.isSome_iff_ne_none] using hid
  split
  · next hsystem => exact .clash hshared' hid' hsystem
  next first hsystem =>
  split
  · next hfirst => exact .again hshared' hid' (hfirst ▸ hsystem)
  · next hfirst => exact .second hshared' hid' hsystem hfirst

theorem addition_of_ok (hb : a.addUnqualified name system id = .ok b) :
    a.Addition name system id (.ok b) := hb ▸ addition_addUnqualified a name system id

theorem Points.addQualified (h : a.Points P) (hid : P id) :
    (a.addQualified name id).Points P := by
  intro k i hk
  rw [get?_addQualified, Option.or_eq_some_iff] at hk
  rcases hk with hk | ⟨-, hk⟩
  · exact h k _ hk
  · split at hk
    · exact Option.some.inj hk ▸ hid
    · cases hk

theorem Settled.addQualified (h : a.Settled n) (hname : dots name ≠ n) :
    (a.addQualified name id).Settled n := by
  intro k i hk hn
  rw [get?_addQualified, Option.or_eq_some_iff] at hk
  rcases hk with hk | ⟨-, hk⟩
  · exact h k _ hk hn
  · split at hk
    · next hkey => exact absurd (hkey ▸ hn) hname
    · cases hk

theorem Points.addUnqualified (h : a.Points P) (hid : P id)
    (hb : a.addUnqualified name system id = .ok b) : b.Points P := by
  intro k i hk
  cases addition_of_ok hb with
  | shared _ => exact h k _ hk
  | new _ _ =>
    rw [Table.get?_insert] at hk
    split at hk
    · exact Option.some.inj hk ▸ hid
    · exact h k _ hk
  | again _ _ _ => exact h k _ hk
  | second _ _ _ _ =>
    rw [Table.get?_erase] at hk
    split at hk
    · cases hk
    · exact h k _ hk

/-- An unqualified name does not clash. -/
theorem Settled.addUnqualified (h : a.Settled n) (hname : dots name = n) (system id : String) :
    ∃ b, a.addUnqualified name system id = .ok b ∧ b.Settled n := by
  have hadd := addition_addUnqualified a name system id
  generalize a.addUnqualified name system id = r at hadd
  cases hadd with
  | shared _ => exact ⟨_, rfl, h⟩
  | new _ _ =>
    refine ⟨_, rfl, fun k i hk hn ↦ ?_⟩
    rw [Table.get?_insert] at hk ⊢
    split
    · rfl
    · next hne =>
      rw [if_neg hne] at hk
      exact h k _ hk hn
  | clash _ hid hsystem =>
    obtain ⟨i, hi⟩ := Option.isSome_iff_exists.mp hid
    have hknown := h _ _ hi hname
    rw [hsystem] at hknown
    cases hknown
  | again _ _ _ => exact ⟨_, rfl, h⟩
  | second _ _ _ _ =>
    refine ⟨_, rfl, fun k j hk hn ↦ ?_⟩
    rw [Table.get?_erase] at hk
    split at hk
    · cases hk
    · exact h k _ hk hn

end Aliases

namespace Symbols

open Program

variable {s : Symbols} {P : String → Prop} {system owner port twin goal id : String}

/-- All names stand for identifiers of `P`, and those of ports and twins have their paths. -/
structure Sound (P : String → Prop) (s : Symbols) : Prop where
  ports : s.ports.Points fun id ↦ P id ∧ (s.paths.get? id).isSome
  twins : s.twins.Points fun id ↦ P id ∧ (s.paths.get? id).isSome
  goals : ∀ {k id}, s.goals.get? k = some id → P id
  portNames : s.ports.Settled 1
  twinNames : s.twins.Settled 0

theorem Sound.empty : Sound P empty where
  ports := Aliases.points_empty
  twins := Aliases.points_empty
  goals h := by cases h
  portNames := Aliases.settled_empty
  twinNames := Aliases.settled_empty

theorem Sound.mono {Q : String → Prop} (h : s.Sound P) (hPQ : ∀ {id}, P id → Q id) :
    s.Sound Q :=
  { h with
    ports := h.ports.mono fun hid ↦ ⟨hPQ hid.1, hid.2⟩
    twins := h.twins.mono fun hid ↦ ⟨hPQ hid.1, hid.2⟩
    goals := fun hk ↦ hPQ (h.goals hk) }

theorem isSome_paths {p i : String} (h : i = id ∨ (s.paths.get? i).isSome) :
    ((s.paths.insertNew id p).get? i).isSome := by
  rw [Table.get?_insertNew, Option.isSome_or]
  rcases h with rfl | h <;> simp [*]

theorem Sound.addAlias {a b : Aliases} {qualified unqualified p : String}
    (hpoints : a.Points fun i ↦ P i ∧ (s.paths.get? i).isSome) (hid : P id)
    (hb : (a.addQualified qualified id).addUnqualified unqualified system id = .ok b) :
    b.Points fun i ↦ P i ∧ ((s.paths.insertNew id p).get? i).isSome :=
  have hmono := hpoints.mono (Q := fun i ↦ P i ∧ ((s.paths.insertNew id p).get? i).isSome)
    fun hi ↦ ⟨hi.1, isSome_paths (.inr hi.2)⟩
  have hnew := ⟨hid, isSome_paths (.inl rfl)⟩
  (hmono.addQualified hnew).addUnqualified hnew hb

theorem run_addPort (system owner port id : String) (s : Symbols) :
    (addPort system owner port id).run.run s =
      match (s.ports.addQualified s!"{system}.{owner}.{port}" id).addUnqualified
        s!"{owner}.{port}" system id with
      | .ok ports =>
        (.ok (), { s with ports, paths := s.paths.insertNew id (path [system, owner, port]) })
      | .error c =>
        (.error c, { s with ports := s.ports.addQualified s!"{system}.{owner}.{port}" id }) := by
  simp only [addPort, addPort.liftExcept, run_bind, run_modify, run_get]
  cases (s.ports.addQualified s!"{system}.{owner}.{port}" id).addUnqualified
    s!"{owner}.{port}" system id <;> rfl

theorem run_addTwin (system twin id : String) (s : Symbols) :
    (addTwin system twin id).run.run s =
      match (s.twins.addQualified s!"{system}.{twin}" id).addUnqualified twin system id with
      | .ok twins =>
        (.ok (), { s with twins, paths := s.paths.insertNew id (path [system, twin]) })
      | .error c =>
        (.error c, { s with twins := s.twins.addQualified s!"{system}.{twin}" id }) := by
  simp only [addTwin, addTwin.liftExcept, run_bind, run_modify, run_get]
  cases (s.twins.addQualified s!"{system}.{twin}" id).addUnqualified twin system id <;> rfl

theorem addPort_ok (h : s.Sound P) (hsystem : IsIdentifier system) (howner : IsIdentifier owner)
    (hport : IsIdentifier port) (hid : P id) :
    ∃ t, (addPort system owner port id).run.run s = (.ok (), t) ∧ t.Sound P := by
  have hqualified : dots s!"{system}.{owner}.{port}" = 2 := by
    simp [dots_append, dots_eq_zero, *, dots_dot, toString]
  have hunqualified : dots s!"{owner}.{port}" = 1 := by
    simp [dots_append, dots_eq_zero, *, dots_dot, toString]
  obtain ⟨ports, hports, hsettled⟩ := Aliases.Settled.addUnqualified
    (h.portNames.addQualified (by rw [hqualified]; decide)) hunqualified system id
  refine ⟨_, by rw [run_addPort, hports], ?_⟩
  exact
    { h with
      ports := Sound.addAlias h.ports hid hports
      twins := h.twins.mono fun hi ↦ ⟨hi.1, isSome_paths (.inr hi.2)⟩
      portNames := hsettled }

theorem addTwin_ok (h : s.Sound P) (hsystem : IsIdentifier system) (htwin : IsIdentifier twin)
    (hid : P id) : ∃ t, (addTwin system twin id).run.run s = (.ok (), t) ∧ t.Sound P := by
  have hqualified : dots s!"{system}.{twin}" = 1 := by
    simp [dots_append, dots_eq_zero, *, dots_dot, toString]
  obtain ⟨twins, htwins, hsettled⟩ := Aliases.Settled.addUnqualified
    (h.twinNames.addQualified (by rw [hqualified]; decide)) (dots_eq_zero htwin) system id
  refine ⟨_, by rw [run_addTwin, htwins], ?_⟩
  exact
    { h with
      ports := h.ports.mono fun hi ↦ ⟨hi.1, isSome_paths (.inr hi.2)⟩
      twins := Sound.addAlias h.twins hid htwins
      twinNames := hsettled }

theorem Sound.addGoal (h : s.Sound P) (hid : P id) : (s.addGoal goal id).Sound P := by
  refine { h with goals := fun {k i} hk ↦ ?_ }
  rw [Symbols.addGoal, Table.get?_insertNew, Option.or_eq_some_iff] at hk
  rcases hk with hk | ⟨-, hk⟩
  · exact h.goals hk
  · split at hk
    · exact Option.some.inj hk ▸ hid
    · cases hk

theorem points_port? (h : s.ports.Points P) {reference : String}
    (hr : s.port? system reference = some id) : P id := by
  unfold port? at hr
  simp only at hr
  split at hr
  · next hk => exact h _ _ (hr ▸ hk)
  split at hr
  · next hk => exact h _ _ (hr ▸ hk)
  · obtain ⟨k, -, hk⟩ := Option.bind_eq_some_iff.mp hr
    exact h _ _ hk

theorem points_twin? (h : s.twins.Points P) {reference : String}
    (hr : s.twin? reference = some id) : P id := by
  unfold twin? at hr
  simp only at hr
  split at hr
  · next hk => exact h _ _ (hr ▸ hk)
  · obtain ⟨k, -, hk⟩ := Option.bind_eq_some_iff.mp hr
    exact h _ _ hk

theorem Sound.of_port? (h : s.Sound P) {reference : String}
    (hr : s.port? system reference = some id) :
    P id ∧ (s.paths.get? id).isSome := points_port? h.ports hr

theorem Sound.of_twin? (h : s.Sound P) {reference : String} (hr : s.twin? reference = some id) :
    P id ∧ (s.paths.get? id).isSome := points_twin? h.twins hr

end Symbols

end TwinDiagram.Graph
