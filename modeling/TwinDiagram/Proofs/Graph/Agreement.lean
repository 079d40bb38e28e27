import TwinDiagram.Proofs.Graph.Resolution

namespace TwinDiagram.Graph

section Declared

variable {ds es : List Declared} {d : Declared} {names : List String} {system id : String}

theorem find?_congr_of_pairwise {α : Type} {R : α → α → Prop} {p : α → Bool} {xs ys : List α}
    (h : xs.Perm ys) (hxs : xs.Pairwise R) (hys : ys.Pairwise R)
    (hR : ∀ x y, p x → p y → R x y → R y x → x = y) : xs.find? p = ys.find? p := by
  have hfilter : xs.filter p = ys.filter p := by
    apply List.Perm.eq_of_pairwise _ (hxs.filter p) (hys.filter p) (h.filter p)
    intro x y hx hy
    exact hR x y (List.mem_filter.mp hx).2 (List.mem_filter.mp hy).2
  rw [← List.head?_filter, hfilter, List.head?_filter]

def Leads (rule : String → List String → String) (d e : Declared) : Prop :=
  d.system = e.system → d.names = e.names → d.id = rule d.system d.names

theorem within_congr {rule : String → List String → String} (h : ds.Perm es)
    (hds : ds.Pairwise (Leads rule)) (hes : es.Pairwise (Leads rule)) : within ds = within es := by
  funext system names
  rw [within, within, find?_congr_of_pairwise h hds hes]
  intro d e hd he hde hed
  obtain ⟨rfl, rfl⟩ := of_decide_eq_true hd
  obtain ⟨hsystem, hnames⟩ := of_decide_eq_true he
  have hids := (hed hsystem hnames).trans (hsystem ▸ hnames ▸ (hde hsystem.symm hnames.symm).symm)
  cases d
  cases e
  cases hsystem
  cases hnames
  cases hids
  rfl

theorem isSome_within :
    (within ds system names).isSome ↔ ∃ d ∈ ds, d.system = system ∧ d.names = names := by
  simp [within]

theorem shared_iff : Shared ds names ↔
    ∃ a b, a ≠ b ∧ (within ds a names).isSome ∧ (within ds b names).isSome := by
  constructor
  · intro ⟨d, hd, e, he, hdn, hen, hne⟩
    exact ⟨_, _, hne, isSome_within.mpr ⟨d, hd, rfl, hdn⟩, isSome_within.mpr ⟨e, he, rfl, hen⟩⟩
  · intro ⟨a, b, hne, ha, hb⟩
    obtain ⟨d, hd, rfl, hdn⟩ := isSome_within.mp ha
    obtain ⟨e, he, rfl, hen⟩ := isSome_within.mp hb
    exact ⟨d, hd, e, he, hdn, hen, hne⟩

theorem alone_eq_within (h : ¬ Shared ds names) (hd : (within ds system names).isSome) :
    alone ds names = within ds system names := by
  obtain ⟨d, hmem, rfl, hnames⟩ := isSome_within.mp hd
  have hfilter : ds.filter (·.names = names) =
      ds.filter fun e ↦ e.system = d.system ∧ e.names = names := by
    apply List.filter_congr
    intro e he
    rw [decide_eq_decide, iff_and_self]
    intro hen
    by_contra hne
    exact h ⟨e, he, d, hmem, hen, hnames, hne⟩
  rw [alone_of_not_shared h, within, ← List.head?_filter, ← List.head?_filter, hfilter]

theorem alone_eq_some_iff : alone ds names = some id ↔
    ¬ Shared ds names ∧ ∃ system, within ds system names = some id := by
  constructor
  · intro h
    have hshared : ¬ Shared ds names := fun hs ↦ by cases (alone_eq_none_of_shared hs).symm.trans h
    have hfirst := alone_of_not_shared hshared
    rw [h, eq_comm, Option.map_eq_some_iff] at hfirst
    obtain ⟨d, hfind, -⟩ := hfirst
    have hd : (within ds d.system names).isSome :=
      isSome_within.mpr ⟨d, List.mem_of_find?_eq_some hfind, rfl,
        by simpa using List.find?_some hfind⟩
    exact ⟨hshared, d.system, by rw [← alone_eq_within hshared hd, h]⟩
  · intro ⟨hshared, system, hid⟩
    rw [alone_eq_within hshared (by rw [hid]; rfl), hid]

theorem exists_within_of_alone (h : alone ds names = some id) :
    ∃ system names, within ds system names = some id := by
  obtain ⟨-, system, h⟩ := alone_eq_some_iff.mp h
  exact ⟨system, names, h⟩

theorem shared_congr (h : within ds = within es) : Shared ds names ↔ Shared es names := by
  rw [shared_iff, shared_iff, h]

theorem alone_congr (h : within ds = within es) : alone ds = alone es := by
  funext names
  ext id
  rw [alone_eq_some_iff, alone_eq_some_iff, shared_congr h, h]

end Declared

namespace Entry

def goal? : Entry → Option (String × String)
  | goal name id => some (name, id)
  | _ => none

def path? : Entry → Option (String × String)
  | port system owner name id => some (id, Graph.path [system, owner, name])
  | twin system name id => some (id, Graph.path [system, name])
  | goal _ _ => none

end Entry

theorem Aliases.mem_ambiguous_of_add {a b : Aliases} {qualified name system id : String}
    (h : (a.addQualified qualified id).addUnqualified name system id = .ok b) :
    ∀ k ∈ b.ambiguous, k ∈ a.ambiguous ∨ k = name := by
  intro k hk
  cases addition_of_ok h with
  | shared _ => exact .inl hk
  | new _ _ => exact .inl hk
  | again _ _ _ => exact .inl hk
  | second _ _ _ _ => exact (List.mem_cons.mp hk).symm

/-- What is ambiguous is told by the declarations alone. -/
theorem Aliases.Recorded.mem_ambiguous_iff {n : Nat} {ds : List Declared} {a : Aliases}
    (h : a.Recorded n ds) (hds : ∀ d ∈ ds, Dotless d.names ∧ d.names ≠ [])
    (ha : ∀ k ∈ a.ambiguous, ∃ d ∈ ds, dotted d.names = k) {k : String} :
    k ∈ a.ambiguous ↔ ∃ names, dotted names = k ∧ Shared ds names := by
  have hown (d : Declared) (hd : d ∈ ds) : dotted d.names ∈ a.ambiguous ↔ Shared ds d.names :=
    h.ambiguous (hds d hd).1 (hds d hd).2 (h.length d hd)
  constructor
  · intro hk
    obtain ⟨d, hd, rfl⟩ := ha k hk
    exact ⟨d.names, rfl, (hown d hd).mp hk⟩
  · intro ⟨names, hk, hshared⟩
    obtain ⟨d, hd, -, -, rfl, -⟩ := id hshared
    exact hk ▸ (hown d hd).mpr hshared

namespace Symbols

structure Listed (es : List Entry) (s : Symbols) : Prop where
  goals : ∀ k, s.goals.get? k = (es.filterMap Entry.goal?).lookup k
  paths : ∀ k, s.paths.get? k = (es.filterMap Entry.path?).lookup k
  ports : ∀ k ∈ s.ports.ambiguous, ∃ d ∈ es.filterMap Entry.port?, dotted d.names = k
  twins : ∀ k ∈ s.twins.ambiguous, ∃ d ∈ es.filterMap Entry.twin?, dotted d.names = k

theorem get?_insertNew_concat {t : Table String} {kvs : List (String × String)}
    (h : ∀ k, t.get? k = kvs.lookup k) (key value k : String) :
    (t.insertNew key value).get? k = (kvs ++ [(key, value)]).lookup k := by
  rw [Table.get?_insertNew, h]
  exact (Table.get?_append ⟨kvs⟩ key k value).symm

variable {es : List Entry} {s : Symbols}

theorem exists_mem_concat {α : Type} {f : Entry → Option α} {P : α → Prop} (e : Entry)
    (h : ∃ d ∈ es.filterMap f, P d) : ∃ d ∈ (es ++ [e]).filterMap f, P d := by
  obtain ⟨d, hd, hP⟩ := h
  rw [List.filterMap_append]
  exact ⟨d, List.mem_append_left _ hd, hP⟩

theorem ofEntries_listed (h : ofEntries es = (.ok (), s)) : s.Listed es := by
  refine ofEntries_induction ?_ ?_ h
  · exact ⟨fun _ ↦ rfl, fun _ ↦ rfl, List.forall_mem_nil _, List.forall_mem_nil _⟩
  intro es s e t hs he
  have hports : ∀ k ∈ s.ports.ambiguous, ∃ d ∈ (es ++ [e]).filterMap Entry.port?,
      dotted d.names = k :=
    fun k hk ↦ exists_mem_concat e (hs.ports k hk)
  have htwins : ∀ k ∈ s.twins.ambiguous, ∃ d ∈ (es ++ [e]).filterMap Entry.twin?,
      dotted d.names = k :=
    fun k hk ↦ exists_mem_concat e (hs.twins k hk)
  cases e with
  | port system owner name id =>
    rw [Entry.add, run_addPort] at he
    split at he <;> cases he
    next ports hadd =>
    refine ⟨?_, ?_, ?_, htwins⟩
    · rw [filterMap_concat_none rfl]
      exact hs.goals
    · rw [filterMap_concat]
      exact get?_insertNew_concat hs.paths _ _
    · intro k hk
      rcases Aliases.mem_ambiguous_of_add hadd k hk with hk | rfl
      · exact hports k hk
      · exact ⟨⟨system, [owner, name], id⟩, by simp [Entry.port?], dotted_pair owner name⟩
  | twin system name id =>
    rw [Entry.add, run_addTwin] at he
    split at he <;> cases he
    next twins hadd =>
    refine ⟨?_, ?_, hports, ?_⟩
    · rw [filterMap_concat_none rfl]
      exact hs.goals
    · rw [filterMap_concat]
      exact get?_insertNew_concat hs.paths _ _
    · intro k hk
      rcases Aliases.mem_ambiguous_of_add hadd k hk with hk | rfl
      · exact htwins k hk
      · exact ⟨⟨system, [k], id⟩, by simp [Entry.twin?], dotted_singleton k⟩
  | goal name id =>
    cases he
    refine ⟨?_, ?_, hports, htwins⟩
    · rw [filterMap_concat]
      exact get?_insertNew_concat hs.goals _ _
    · rw [filterMap_concat_none rfl]
      exact hs.paths

theorem dotless_ports (hes : ∀ e ∈ es, e.Dotless) :
    ∀ d ∈ es.filterMap Entry.port?, Dotless d.names ∧ d.names ≠ [] := by
  intro d hd
  obtain ⟨e, he, hd⟩ := List.mem_filterMap.mp hd
  have hdotless := hes e he
  cases e <;> cases hd
  exact ⟨(dotless_cons.mp hdotless).2, List.cons_ne_nil _ _⟩

theorem dotless_twins (hes : ∀ e ∈ es, e.Dotless) :
    ∀ d ∈ es.filterMap Entry.twin?, Dotless d.names ∧ d.names ≠ [] := by
  intro d hd
  obtain ⟨e, he, hd⟩ := List.mem_filterMap.mp hd
  have hdotless := hes e he
  cases e <;> cases hd
  exact ⟨(dotless_cons.mp hdotless).2, List.cons_ne_nil _ _⟩

/-- No reference and no identifier tells the two apart. -/
structure Agree (s t : Symbols) : Prop where
  port? : ∀ current reference, '.' ∉ current.toList →
    s.port? current reference = t.port? current reference
  twin? : ∀ reference, s.twin? reference = t.twin? reference
  goals : ∀ k, s.goals.get? k = t.goals.get? k
  paths : ∀ k, s.paths.get? k = t.paths.get? k
  isAmbiguousPort : ∀ current reference,
    s.isAmbiguousPort current reference = t.isAmbiguousPort current reference
  isAmbiguousTwin : ∀ reference, s.isAmbiguousTwin reference = t.isAmbiguousTwin reference

theorem Agree.refl {s : Symbols} : s.Agree s :=
  ⟨fun _ _ _ ↦ rfl, fun _ ↦ rfl, fun _ ↦ rfl, fun _ ↦ rfl, fun _ _ ↦ rfl, fun _ ↦ rfl⟩

/-- The order of the entries matters only where the same names are entered twice. -/
theorem agree_of_perm {es es' : List Entry} {s s' : Symbols} (hperm : es.Perm es')
    (hs : ofEntries es = (.ok (), s)) (hs' : ofEntries es' = (.ok (), s'))
    (hes : ∀ e ∈ es, e.Dotless) (hgoals : ((es.filterMap Entry.goal?).map Prod.fst).Nodup)
    (hpaths : ((es.filterMap Entry.path?).map Prod.fst).Nodup)
    (hports : within (es.filterMap Entry.port?) = within (es'.filterMap Entry.port?))
    (htwins : within (es.filterMap Entry.twin?) = within (es'.filterMap Entry.twin?)) :
    s.Agree s' := by
  have hes' : ∀ e ∈ es', e.Dotless := fun e he ↦ hes e (hperm.mem_iff.mpr he)
  obtain ⟨_, hrun, h⟩ := ofEntries_ok hes
  cases hrun.symm.trans hs
  obtain ⟨_, hrun, h'⟩ := ofEntries_ok hes'
  cases hrun.symm.trans hs'
  have hl := ofEntries_listed hs
  have hl' := ofEntries_listed hs'
  refine ⟨?_, ?_, ?_, ?_, ?_, ?_⟩
  · intro current reference hcurrent
    rw [h.port?_eq hcurrent, h'.port?_eq hcurrent]
    simp only [portMeaning, hports, alone_congr hports]
  · intro reference
    rw [h.twin?_eq, h'.twin?_eq]
    simp only [twinMeaning, htwins, alone_congr htwins]
  · intro k
    rw [hl.goals, hl'.goals]
    exact Table.lookup_congr hgoals (hperm.filterMap _) k
  · intro k
    rw [hl.paths, hl'.paths]
    exact Table.lookup_congr hpaths (hperm.filterMap _) k
  · intro current reference
    rw [isAmbiguousPort, isAmbiguousPort, Bool.eq_iff_iff, List.contains_iff_mem,
      List.contains_iff_mem, h.ports.mem_ambiguous_iff (dotless_ports hes) hl.ports,
      h'.ports.mem_ambiguous_iff (dotless_ports hes') hl'.ports]
    simp only [shared_congr hports]
  · intro reference
    rw [isAmbiguousTwin, isAmbiguousTwin, Bool.eq_iff_iff, List.contains_iff_mem,
      List.contains_iff_mem, h.twins.mem_ambiguous_iff (dotless_twins hes) hl.twins,
      h'.twins.mem_ambiguous_iff (dotless_twins hes') hl'.twins]
    simp only [shared_congr htwins]

end Symbols

end TwinDiagram.Graph
