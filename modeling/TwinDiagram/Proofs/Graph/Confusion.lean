import Mathlib.Data.List.Induction
import TwinDiagram.Proofs.Graph.Agreement

namespace TwinDiagram.Graph

/-- The names of `d` are new without their system, but known as names with one. -/
def Clashes (ds : List Declared) (d : Declared) : Prop :=
  (∃ e ∈ ds, dotted (e.system :: e.names) = dotted d.names) ∧
    ∀ e ∈ ds, dotted e.names ≠ dotted d.names

/-- One of the declarations clashes with those before it. -/
def Confused (ds : List Declared) : Prop :=
  ∃ before d behind, ds = before ++ d :: behind ∧ Clashes before d

variable {ds : List Declared} {d : Declared}

theorem Confused.append (h : Confused ds) (es : List Declared) : Confused (ds ++ es) := by
  obtain ⟨before, d, behind, rfl, h⟩ := h
  exact ⟨before, d, behind ++ es, by simp, h⟩

theorem not_confused_nil : ¬ Confused [] := by
  intro ⟨before, d, behind, h, _⟩
  simp at h

theorem confused_concat : Confused (ds ++ [d]) ↔ Confused ds ∨ Clashes ds d := by
  constructor
  · intro ⟨before, e, behind, h, hclash⟩
    rcases List.eq_nil_or_concat behind with rfl | ⟨behind, x, rfl⟩
    · obtain ⟨rfl, he⟩ := List.append_inj' h rfl
      cases he
      exact .inr hclash
    · rw [List.concat_eq_append, ← List.cons_append, ← List.append_assoc] at h
      obtain ⟨rfl, -⟩ := List.append_inj' h rfl
      exact .inl ⟨before, e, behind, rfl, hclash⟩
  · intro h
    rcases h with h | h
    · exact h.append [d]
    · exact ⟨ds, d, [], rfl, h⟩

namespace Aliases

structure Known (ds : List Declared) (a : Aliases) : Prop where
  systems : ∀ k, (a.systems.get? k).isSome ↔ ∃ d ∈ ds, dotted d.names = k
  ambiguous : ∀ k ∈ a.ambiguous, ∃ d ∈ ds, dotted d.names = k
  ids : ∀ k, (∀ d ∈ ds, dotted d.names ≠ k) →
    ((a.ids.get? k).isSome ↔ ∃ d ∈ ds, dotted (d.system :: d.names) = k)

theorem known_empty : Known [] empty where
  systems := by simp [empty, Table.empty, Table.get?]
  ambiguous := List.forall_mem_nil _
  ids := by simp [empty, Table.empty, Table.get?]

variable {a b : Aliases}

theorem Known.concat (h : a.Known ds)
    (hsystems : ∀ k, (b.systems.get? k).isSome ↔ (a.systems.get? k).isSome ∨ dotted d.names = k)
    (hambiguous : ∀ k ∈ b.ambiguous, k ∈ a.ambiguous ∨ k = dotted d.names)
    (hids : ∀ k, k ≠ dotted d.names → b.ids.get? k =
      (a.ids.get? k).or (if k = dotted (d.system :: d.names) then some d.id else none)) :
    b.Known (ds ++ [d]) where
  systems k := by
    rw [hsystems, h.systems]
    simp [or_and_right, exists_or]
  ambiguous := by
    intro k hk
    rcases hambiguous k hk with hk | rfl
    · obtain ⟨e, he, hek⟩ := h.ambiguous k hk
      exact ⟨e, List.mem_append_left _ he, hek⟩
    · exact ⟨d, by simp, rfl⟩
  ids k hk := by
    have hold : ∀ e ∈ ds, dotted e.names ≠ k := fun e he ↦ hk e (List.mem_append_left _ he)
    rw [hids k (hk d (by simp)).symm, Option.isSome_or, Bool.or_eq_true, h.ids k hold]
    by_cases hq : k = dotted (d.system :: d.names) <;>
      simp [hq, or_and_right, exists_or, eq_comm]

variable {name system id : String}

theorem addUnqualified_eq_error_iff {c : AliasClash} :
    a.addUnqualified name system id = .error c ↔ c = ⟨name⟩ ∧ name ∉ a.ambiguous ∧
      (a.ids.get? name).isSome ∧ a.systems.get? name = none := by
  have hadd := addition_addUnqualified a name system id
  generalize a.addUnqualified name system id = r at hadd
  cases hadd with
  | shared hshared => simp [hshared]
  | new _ hid => simp [hid]
  | clash hshared hid hsystem => simp [hshared, hid, hsystem, eq_comm]
  | again _ _ hsystem => simp [hsystem]
  | second _ _ hsystem _ => simp [hsystem]

/-- The system of the name is known from then on, and no other name is touched. -/
theorem addUnqualified_ok (h : name ∈ a.ambiguous → (a.systems.get? name).isSome)
    (hb : a.addUnqualified name system id = .ok b) :
    (∀ k, (b.systems.get? k).isSome ↔ (a.systems.get? k).isSome ∨ name = k) ∧
      ∀ k, k ≠ name → b.ids.get? k = a.ids.get? k := by
  have hsame (hname : (a.systems.get? name).isSome) (k : String) :
      (a.systems.get? k).isSome ↔ (a.systems.get? k).isSome ∨ name = k :=
    ⟨.inl, fun hk ↦ hk.elim (fun hk ↦ hk) fun he ↦ he ▸ hname⟩
  cases addition_of_ok hb with
  | shared hshared => exact ⟨hsame (h hshared), fun _ _ ↦ rfl⟩
  | new _ _ =>
    refine ⟨fun k ↦ ?_, fun k hk ↦ ?_⟩
    · rw [Table.get?_insert]
      split
      · next hk => simp [hk]
      · next hk => simp [Ne.symm hk]
    · rw [Table.get?_insert, if_neg hk]
  | again _ _ hsystem => exact ⟨hsame (Option.isSome_of_eq_some hsystem), fun _ _ ↦ rfl⟩
  | second _ _ hsystem _ =>
    refine ⟨hsame (Option.isSome_of_eq_some hsystem), fun k hk ↦ ?_⟩
    rw [Table.get?_erase, if_neg hk]

theorem Known.addUnqualified_eq_error_iff (h : a.Known ds) (hne : d.names ≠ []) {c : AliasClash} :
    (a.addQualified (dotted (d.system :: d.names)) d.id).addUnqualified (dotted d.names) d.system
      d.id = .error c ↔ c = ⟨dotted d.names⟩ ∧ Clashes ds d := by
  have hnew : a.systems.get? (dotted d.names) = none ↔
      ∀ e ∈ ds, dotted e.names ≠ dotted d.names := by
    rw [← Option.not_isSome_iff_eq_none, h.systems]
    simp
  rw [Aliases.addUnqualified_eq_error_iff, get?_addQualified_dotted a hne]
  refine and_congr_right fun _ ↦ ⟨fun ⟨_, hid, hsystem⟩ ↦ ?_, fun ⟨hqualified, hnames⟩ ↦ ?_⟩
  · exact ⟨(h.ids _ (hnew.mp hsystem)).mp hid, hnew.mp hsystem⟩
  · have hshared : dotted d.names ∉ a.ambiguous := by
      intro hmem
      obtain ⟨e, he, heq⟩ := h.ambiguous _ hmem
      exact hnames e he heq
    exact ⟨hshared, (h.ids _ hnames).mpr hqualified, hnew.mpr hnames⟩

theorem Known.add_ok (h : a.Known ds)
    (hb : (a.addQualified (dotted (d.system :: d.names)) d.id).addUnqualified (dotted d.names)
      d.system d.id = .ok b) : b.Known (ds ++ [d]) := by
  have hshared (hk : dotted d.names ∈ a.ambiguous) : (a.systems.get? (dotted d.names)).isSome :=
    (h.systems _).mpr (h.ambiguous _ hk)
  obtain ⟨hsystems, hother⟩ :=
    addUnqualified_ok (a := a.addQualified (dotted (d.system :: d.names)) d.id) hshared hb
  refine h.concat hsystems (mem_ambiguous_of_add hb) fun k hk ↦ ?_
  rw [hother k hk, get?_addQualified]

/-- Adding a declaration fails exactly if it clashes. -/
theorem Known.add (h : a.Known ds) (hne : d.names ≠ []) :
    (Clashes ds d ∧ (a.addQualified (dotted (d.system :: d.names)) d.id).addUnqualified
      (dotted d.names) d.system d.id = .error ⟨dotted d.names⟩) ∨
    (¬ Clashes ds d ∧ ∃ b, (a.addQualified (dotted (d.system :: d.names)) d.id).addUnqualified
      (dotted d.names) d.system d.id = .ok b ∧ b.Known (ds ++ [d])) := by
  have herror {c : AliasClash} := h.addUnqualified_eq_error_iff hne (c := c)
  rcases hr : (a.addQualified (dotted (d.system :: d.names)) d.id).addUnqualified (dotted d.names)
      d.system d.id with c | b
  · obtain ⟨rfl, hclash⟩ := herror.mp hr
    exact .inl ⟨hclash, rfl⟩
  · refine .inr ⟨fun hclash ↦ ?_, b, rfl, h.add_ok hr⟩
    have hr' := herror.mpr ⟨rfl, hclash⟩
    rw [hr] at hr'
    cases hr'

end Aliases

namespace Symbols

open Program

/-- One sort of declarations, ports or twins, clashes. -/
def Confused (es : List Entry) : Prop :=
  Graph.Confused (es.filterMap Entry.port?) ∨ Graph.Confused (es.filterMap Entry.twin?)

structure Known (es : List Entry) (s : Symbols) : Prop where
  ports : s.ports.Known (es.filterMap Entry.port?)
  twins : s.twins.Known (es.filterMap Entry.twin?)

variable {es : List Entry} {e : Entry} {s : Symbols}

theorem Confused.append (h : Confused es) (fs : List Entry) : Confused (es ++ fs) := by
  rw [Confused, List.filterMap_append, List.filterMap_append]
  exact h.imp (·.append _) (·.append _)

theorem not_confused_nil : ¬ Confused [] := by
  intro h
  rcases h with h | h <;> exact Graph.not_confused_nil h

/-- A further entry is added, or it clashes with those before it. -/
theorem Known.add (h : s.Known es) (hes : ¬ Confused es) :
    (¬ Confused (es ++ [e]) ∧ ∃ t, e.add.run.run s = (.ok (), t) ∧ t.Known (es ++ [e])) ∨
    (Confused (es ++ [e]) ∧ ∃ c, (e.add.run.run s).1 = .error c) := by
  have hes' := not_or.mp hes
  cases e with
  | port system owner name id =>
    have hports : (es ++ [Entry.port system owner name id]).filterMap Entry.port? =
      es.filterMap Entry.port? ++ [⟨system, [owner, name], id⟩] := filterMap_concat _ _ _
    have htwins : (es ++ [Entry.port system owner name id]).filterMap Entry.twin? =
      es.filterMap Entry.twin? := filterMap_concat_none rfl es
    have hadd := h.ports.add (d := ⟨system, [owner, name], id⟩) (List.cons_ne_nil _ _)
    rw [dotted_triple, dotted_pair] at hadd
    rw [Confused, hports, htwins, confused_concat, Entry.add, run_addPort]
    rcases hadd with ⟨hclash, herror⟩ | ⟨hclash, b, hb, hknown⟩
    · exact .inr ⟨.inl (.inr hclash), ⟨s!"{owner}.{name}"⟩, by rw [herror]⟩
    · refine .inl ⟨by simp [hes', hclash], _, by rw [hb], ?_, ?_⟩
      · rw [hports]
        exact hknown
      · rw [htwins]
        exact h.twins
  | twin system name id =>
    have hports : (es ++ [Entry.twin system name id]).filterMap Entry.port? =
      es.filterMap Entry.port? := filterMap_concat_none rfl es
    have htwins : (es ++ [Entry.twin system name id]).filterMap Entry.twin? =
      es.filterMap Entry.twin? ++ [⟨system, [name], id⟩] := filterMap_concat _ _ _
    have hadd := h.twins.add (d := ⟨system, [name], id⟩) (List.cons_ne_nil _ _)
    rw [dotted_pair, dotted_singleton] at hadd
    rw [Confused, hports, htwins, confused_concat, Entry.add, run_addTwin]
    rcases hadd with ⟨hclash, herror⟩ | ⟨hclash, b, hb, hknown⟩
    · exact .inr ⟨.inr (.inr hclash), ⟨name⟩, by rw [herror]⟩
    · refine .inl ⟨by simp [hes', hclash], _, by rw [hb], ?_, ?_⟩
      · rw [hports]
        exact h.ports
      · rw [htwins]
        exact hknown
  | goal name id =>
    have hports : (es ++ [Entry.goal name id]).filterMap Entry.port? = es.filterMap Entry.port? :=
      filterMap_concat_none rfl es
    have htwins : (es ++ [Entry.goal name id]).filterMap Entry.twin? = es.filterMap Entry.twin? :=
      filterMap_concat_none rfl es
    refine .inl ⟨?_, _, rfl, ?_, ?_⟩
    · rwa [Confused, hports, htwins]
    · rw [hports]
      exact h.ports
    · rw [htwins]
      exact h.twins

theorem ofEntries_append (es fs : List Entry) : ofEntries (es ++ fs) =
    match ofEntries es with
    | (.ok _, s) => (forM fs Entry.add).run.run s
    | (.error c, s) => (.error c, s) := by
  simp only [ofEntries, List.forM_eq_forM]
  rw [List.forM_append, run_bind]
  rcases (forM es Entry.add).run.run empty with ⟨_ | _, s⟩ <;> rfl

theorem ofEntries_append_error {c : AliasClash} (h : (ofEntries es).1 = .error c)
    (fs : List Entry) :
    (ofEntries (es ++ fs)).1 = .error c := by
  rw [ofEntries_append]
  rcases hes : ofEntries es with ⟨_ | _, s⟩ <;> rw [hes] at h <;> cases h
  rfl

theorem ofEntries_concat_error {c : AliasClash} (h : ofEntries es = (.ok (), s))
    (he : (e.add.run.run s).1 = .error c) : (ofEntries (es ++ [e])).1 = .error c := by
  rw [ofEntries_append, h]
  show ((e.add >>= fun _ ↦ pure ()).run.run s).1 = _
  rw [run_bind_error he]

theorem ofEntries_ok_or_confused (es : List Entry) :
    (¬ Confused es ∧ ∃ s, ofEntries es = (.ok (), s) ∧ s.Known es) ∨
    (Confused es ∧ ∃ c, (ofEntries es).1 = .error c) := by
  induction es using List.reverseRecOn with
  | nil => exact .inl ⟨not_confused_nil, _, rfl, Aliases.known_empty, Aliases.known_empty⟩
  | append_singleton es e ih =>
    rcases ih with ⟨hes, s, hs, hknown⟩ | ⟨hes, c, hc⟩
    · rcases hknown.add hes with ⟨hconcat, t, ht, hknown'⟩ | ⟨hconcat, c, hc⟩
      · exact .inl ⟨hconcat, t, ofEntries_concat hs ht, hknown'⟩
      · exact .inr ⟨hconcat, c, ofEntries_concat_error hs hc⟩
    · exact .inr ⟨hes.append [e], c, ofEntries_append_error hc [e]⟩

theorem confused_iff : Confused es ↔ ∃ c, (ofEntries es).1 = .error c := by
  rcases ofEntries_ok_or_confused es with ⟨hes, s, hs, -⟩ | ⟨hes, hc⟩
  · simp [hes, hs]
  · exact iff_of_true hes hc

end Symbols

end TwinDiagram.Graph
