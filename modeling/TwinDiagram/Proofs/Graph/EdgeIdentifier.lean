import TwinDiagram.Proofs.Graph.Demand
import TwinDiagram.Proofs.Graph.Identifier
import TwinDiagram.Proofs.Parser.Names

namespace TwinDiagram.Graph

section Dotted

variable {names names' : List String} {c : Char}

theorem dotless_of_isIdentifier (h : ∀ n ∈ names, IsIdentifier n) : Dotless names :=
  fun n hn ↦ (h n hn).not_mem rfl

theorem not_mem_dotted (hc : c ≠ '.') (h : ∀ n ∈ names, c ∉ n.toList) :
    c ∉ (dotted names).toList := by
  induction names with
  | nil => exact List.not_mem_nil
  | cons name names ih =>
    obtain ⟨hname, hnames⟩ := List.forall_mem_cons.mp h
    by_cases hne : names = []
    · rwa [hne, dotted_singleton]
    · rw [toList_dotted_cons hne, List.mem_append, List.mem_cons]
      rintro (hmem | hmem | hmem)
      · exact hname hmem
      · exact hc hmem
      · exact ih hnames hmem

theorem path_eq_dotted (h : ∀ n ∈ names, IsIdentifier n) : path names = dotted names := by
  rw [path, dotted, List.map_congr_left fun n hn ↦ segment_of_isIdentifier (h n hn), List.map_id']

theorem arrow_inj {p q r v : String} (hp : '>' ∉ p.toList) (hr : '>' ∉ r.toList)
    (h : s!"{p}->{q}" = s!"{r}->{v}") : p = r ∧ q = v := by
  have hsplit (p q : String) : (s!"{p}->{q}").toList = (p.toList ++ ['-']) ++ '>' :: q.toList := by
    simp [toString]
  have hhyphen {p : String} (hp : '>' ∉ p.toList) : '>' ∉ p.toList ++ ['-'] := by simpa using hp
  have hlists := congrArg String.toList h
  rw [hsplit, hsplit] at hlists
  obtain ⟨hsource, htarget⟩ := Text.append_cons_inj (hhyphen hp) (hhyphen hr) hlists
  exact ⟨String.toList_injective (List.append_cancel_right hsource),
    String.toList_injective htarget⟩

end Dotted

section Segments

variable {root home p q p' q' : String} {name name' : Option String}

theorem nameSegments_eq (h : ∀ n, name = some n → IsLabel n) : nameSegments name = name.toList := by
  cases name with
  | none => rfl
  | some n =>
    have hn := h n rfl
    have hempty : ¬ n.isEmpty := fun he ↦ hn.nonempty (by simpa using he)
    rw [nameSegments, if_neg hempty, segment, Text.trim_of_none hn.blank,
      Text.replaceBlanks_of_none _ hn.blank, String.ofList_toList]
    rfl

theorem connectionId_eq (hroot : IsIdentifier root) (hhome : IsIdentifier home)
    (hname : ∀ n, name = some n → IsLabel n) : connectionId root home p q name =
      separator.intercalate (["connect", root, home, s!"{p}->{q}"] ++ name.toList) := by
  rw [connectionId, nameSegments_eq hname, identifier, List.map_cons, List.map_cons,
    segment_of_isIdentifier hroot, segment_of_isIdentifier hhome]
  apply String.toList_injective
  cases name <;> simp

end Segments

section Meaning

variable {es : List Entry} {current id : String} {names : List String}

theorem exists_within_of_portMeaning (h : portMeaning es current names = some id) :
    ∃ system names, within (es.filterMap Entry.port?) system names = some id := by
  unfold portMeaning at h
  split at h
  · exact exists_within_of_alone h
  · rcases Option.or_eq_some_iff.mp h with h | ⟨-, h⟩
    · exact exists_within_of_alone h
    · exact ⟨_, _, h⟩
  · rcases Option.or_eq_some_iff.mp h with h | ⟨-, h⟩
    · exact ⟨_, _, h⟩
    · split at h
      · exact exists_within_of_alone h
      · cases h
  · split at h
    · exact ⟨_, _, h⟩
    · cases h
  · cases h

theorem exists_within_of_twinMeaning (h : twinMeaning es names = some id) :
    ∃ system names, within (es.filterMap Entry.twin?) system names = some id := by
  unfold twinMeaning at h
  split at h
  · exact exists_within_of_alone h
  · rcases Option.or_eq_some_iff.mp h with h | ⟨-, h⟩
    · exact ⟨_, _, h⟩
    · exact exists_within_of_alone h
  · exact ⟨_, _, h⟩
  · cases h

end Meaning

def Entry.names : Entry → List String
  | port system owner name _ => [system, owner, name]
  | twin system name _ => [system, name]
  | goal name _ => [name]

structure Entered (es : List Entry) (s : Symbols) : Prop where
  names : ∀ e ∈ es, ∀ n ∈ e.names, IsIdentifier n
  ids : (es.map Entry.id).Nodup
  run : Symbols.ofEntries es = (.ok (), s)

def LeadsTo (ds : List Declared) (p id : String) : Prop :=
  ∃ system names, (∀ n ∈ system :: names, IsIdentifier n) ∧ p = dotted (system :: names) ∧
    within ds system names = some id

theorem LeadsTo.inj {ds : List Declared} {p id id' : String} (h : LeadsTo ds p id)
    (h' : LeadsTo ds p id') : id = id' := by
  obtain ⟨system, names, hnames, rfl, hid⟩ := h
  obtain ⟨system', names', hnames', hp, hid'⟩ := h'
  rw [dotted_inj (dotless_of_isIdentifier hnames) (dotless_of_isIdentifier hnames')
    (List.cons_ne_nil _ _) (List.cons_ne_nil _ _)] at hp
  cases hp
  exact Option.some.inj (hid.symm.trans hid')

theorem LeadsTo.not_mem {ds : List Declared} {p id : String} (h : LeadsTo ds p id) {c : Char}
    (hc : isIdentifierChar c = false) (hdot : c ≠ '.') : c ∉ p.toList := by
  obtain ⟨system, names, hnames, rfl, -⟩ := h
  exact not_mem_dotted hdot fun n hn ↦ (hnames n hn).not_mem hc

theorem sublist_filterMap_map {α β γ : Type} {f : α → Option β} {g : β → γ} {h : α → γ}
    (hf : ∀ {x y}, f x = some y → g y = h x) (xs : List α) :
    ((xs.filterMap f).map g).Sublist (xs.map h) := by
  induction xs with
  | nil => exact .slnil
  | cons x xs ih =>
    cases hx : f x with
    | none =>
      rw [List.filterMap_cons_none hx]
      exact ih.cons _
    | some y =>
      rw [List.filterMap_cons_some hx, List.map_cons, List.map_cons, hf hx]
      exact ih.cons_cons _

namespace Entered

variable {es : List Entry} {s : Symbols} {home reference id p : String}

theorem dotless (h : Entered es s) : ∀ e ∈ es, e.Dotless := by
  intro e he
  have hnames := dotless_of_isIdentifier (h.names e he)
  cases e with
  | port | twin => exact hnames
  | goal => trivial

theorem recorded (h : Entered es s) : s.Recorded es := by
  obtain ⟨_, hrun, hrecorded⟩ := Symbols.ofEntries_ok h.dotless
  cases hrun.symm.trans h.run
  exact hrecorded

theorem nodup_paths (h : Entered es s) : ((es.filterMap Entry.path?).map Prod.fst).Nodup := by
  refine List.Nodup.sublist (sublist_filterMap_map ?_ es) h.ids
  intro e x hx
  cases e <;> cases hx <;> rfl

theorem leadsTo (h : Entered es s) {f : Entry → Option Declared}
    (hf : ∀ {e d}, f e = some d → e.names = d.system :: d.names ∧
      e.path? = some (d.id, path e.names))
    {system : String} {names : List String} (hid : within (es.filterMap f) system names = some id)
    (hp : s.paths.get? id = some p) : LeadsTo (es.filterMap f) p id := by
  obtain ⟨d, hfind, hdid⟩ := Option.map_eq_some_iff.mp hid
  obtain ⟨rfl, rfl⟩ : d.system = system ∧ d.names = names := by simpa using List.find?_some hfind
  obtain ⟨e, he, hd⟩ := List.mem_filterMap.mp (List.mem_of_find?_eq_some hfind)
  obtain ⟨hnames, hpath⟩ := hf hd
  have hmem : (id, path e.names) ∈ es.filterMap Entry.path? :=
    List.mem_filterMap.mpr ⟨e, he, hdid ▸ hpath⟩
  rw [(Symbols.ofEntries_listed h.run).paths, (Table.lookup_eq_some_iff h.nodup_paths).mpr hmem,
    path_eq_dotted (h.names e he)] at hp
  cases hp
  exact ⟨d.system, d.names, hnames ▸ h.names e he, by rw [hnames], hid⟩

theorem port_leadsTo (h : Entered es s) (hhome : IsIdentifier home)
    (hid : s.port? home reference = some id) (hp : s.paths.get? id = some p) :
    LeadsTo (es.filterMap Entry.port?) p id := by
  rw [h.recorded.port?_eq (hhome.not_mem rfl)] at hid
  obtain ⟨system, names, hid⟩ := exists_within_of_portMeaning hid
  refine h.leadsTo ?_ hid hp
  intro e d hd
  cases e <;> cases hd
  exact ⟨rfl, rfl⟩

theorem twin_leadsTo (h : Entered es s) (hid : s.twin? reference = some id)
    (hp : s.paths.get? id = some p) : LeadsTo (es.filterMap Entry.twin?) p id := by
  rw [h.recorded.twin?_eq] at hid
  obtain ⟨system, names, hid⟩ := exists_within_of_twinMeaning hid
  refine h.leadsTo ?_ hid hp
  intro e d hd
  cases e <;> cases hd
  exact ⟨rfl, rfl⟩

theorem goal_isIdentifier (h : Entered es s) {goal : String} (hid : s.goals.get? goal = some id) :
    IsIdentifier goal := by
  rw [(Symbols.ofEntries_listed h.run).goals] at hid
  have hkey := Table.lookup_isSome_iff.mp (Option.isSome_of_eq_some hid)
  obtain ⟨kv, hkv, rfl⟩ := List.mem_map.mp hkey
  obtain ⟨e, he, hgoal⟩ := List.mem_filterMap.mp hkv
  cases e with
  | goal name id =>
    cases hgoal
    exact h.names _ he _ (.head _)
  | port | twin => cases hgoal

end Entered

def Link.Labelled : Link → Prop
  | connection home c => IsIdentifier home ∧ c.Labelled
  | allocation _ => True

theorem Link.Labelled.homed {l : Link} (h : l.Labelled) : l.Homed := by
  cases l with
  | connection => exact h.1.not_mem rfl
  | allocation => trivial

section Edges

variable {root : String} {es : List Entry} {s : Symbols} {l l' : Link} {e e' : Edge}

inductive Segmented (root : String) (es : List Entry) : List String → Edge → Prop
  | connection {home p q source target : String} {name : Option String} : IsIdentifier home →
      LeadsTo (es.filterMap Entry.port?) p source → LeadsTo (es.filterMap Entry.port?) q target →
      (∀ n, name = some n → IsLabel n) →
      Segmented root es (["connect", root, home, s!"{p}->{q}"] ++ name.toList)
        ⟨separator.intercalate (["connect", root, home, s!"{p}->{q}"] ++ name.toList), .connection,
          source, target, name⟩
  | allocation {p goal goalId twin : String} : IsIdentifier goal →
      LeadsTo (es.filterMap Entry.twin?) p twin →
      (es.filterMap Entry.goal?).lookup goal = some goalId →
      Segmented root es [Build.allocationLabel, root, p, goal]
        ⟨separator.intercalate [Build.allocationLabel, root, p, goal], .allocation, twin, goalId,
          some Build.allocationLabel⟩

theorem Link.Meets.connection_segmented {home : String} {c : Connection} (h : Entered es s)
    (hroot : IsIdentifier root) (hl : (Link.connection home c).Labelled)
    (hmeets : (Link.connection home c).Meets root s e) :
    ∃ p q, s.paths.get? e.source = some p ∧ s.paths.get? e.target = some q ∧
      Segmented root es (["connect", root, home, s!"{p}->{q}"] ++ c.name.toList) e := by
  obtain ⟨hhome, hname⟩ := hl
  cases hmeets with
  | connection hsource htarget hp hq =>
    rw [connectionId_eq hroot hhome hname]
    exact ⟨_, _, hp, hq, .connection hhome (h.port_leadsTo hhome hsource hp)
      (h.port_leadsTo hhome htarget hq) hname⟩

theorem Link.Meets.allocation_segmented {a : Allocation} (h : Entered es s)
    (hroot : IsIdentifier root)
    (hmeets : (Link.allocation a).Meets root s e) :
    ∃ p, s.paths.get? e.source = some p ∧
      Segmented root es [Build.allocationLabel, root, p, a.goal] e := by
  cases hmeets with
  | allocation hgoal htwin hp =>
    have hident := h.goal_isIdentifier hgoal
    rw [(Symbols.ofEntries_listed h.run).goals] at hgoal
    rw [allocationId, segment_of_isIdentifier hroot, segment_of_isIdentifier hident]
    exact ⟨_, hp, .allocation hident (h.twin_leadsTo htwin hp) hgoal⟩

theorem Link.Meets.segmented (h : Entered es s) (hroot : IsIdentifier root) (hl : l.Labelled)
    (hmeets : l.Meets root s e) : ∃ segments, Segmented root es segments e := by
  cases l with
  | connection home c =>
    obtain ⟨_, _, -, -, hsegments⟩ := hmeets.connection_segmented h hroot hl
    exact ⟨_, hsegments⟩
  | allocation a =>
    obtain ⟨_, -, hsegments⟩ := hmeets.allocation_segmented h hroot
    exact ⟨_, hsegments⟩

namespace Segmented

variable {segments segments' : List String}

theorem id_eq (h : Segmented root es segments e) : e.id = separator.intercalate segments := by
  cases h <;> rfl

theorem ne_nil (h : Segmented root es segments e) : segments ≠ [] := by
  cases h <;> exact List.cons_ne_nil _ _

/-- No segment holds what separates them. -/
theorem colon (h : Segmented root es segments e) (hroot : IsIdentifier root) :
    ∀ n ∈ segments, ':' ∉ n.toList := by
  have hcolon : ':' ∉ root.toList := hroot.not_mem rfl
  cases h with
  | connection hhome hp hq hname =>
    have hhome : ':' ∉ _ := hhome.not_mem rfl
    have hp : ':' ∉ _ := hp.not_mem rfl (by decide)
    have hq : ':' ∉ _ := hq.not_mem rfl (by decide)
    simpa [toString, hcolon, hhome, hp, hq, or_imp, forall_and] using fun n hn ↦ (hname n hn).colon
  | allocation hgoal hp =>
    have hgoal : ':' ∉ _ := hgoal.not_mem rfl
    have hp : ':' ∉ _ := hp.not_mem rfl (by decide)
    simp [Build.allocationLabel, hcolon, hgoal, hp]

theorem inj (h : Segmented root es segments e) (h' : Segmented root es segments' e')
    (heq : segments = segments') : e = e' := by
  cases h with
  | connection _ hp hq _ =>
    cases h' with
    | connection _ hp' hq' _ =>
      simp only [List.cons_append, List.nil_append, List.cons.injEq, true_and] at heq
      obtain ⟨rfl, harrow, hname⟩ := heq
      obtain ⟨rfl, rfl⟩ :=
        arrow_inj (hp.not_mem rfl (by decide)) (hp'.not_mem rfl (by decide)) harrow
      cases hp.inj hp'
      cases hq.inj hq'
      have hlabel := congrArg List.head? hname
      rw [Option.head?_toList, Option.head?_toList] at hlabel
      cases hlabel
      rfl
    | allocation => exact absurd (List.cons.inj heq).1 (by decide)
  | allocation _ hp hgoal =>
    cases h' with
    | connection => exact absurd (List.cons.inj heq).1 (by decide)
    | allocation _ hp' hgoal' =>
      cases heq
      cases hp.inj hp'
      cases hgoal.symm.trans hgoal'
      rfl

theorem id_eq_iff (hroot : IsIdentifier root) (h : Segmented root es segments e)
    (h' : Segmented root es segments' e') : e.id = e'.id ↔ segments = segments' := by
  rw [h.id_eq, h'.id_eq]
  constructor
  · exact Text.string_intercalate_inj (c := ':') rfl (h.colon hroot)
      (h'.colon hroot) h.ne_nil h'.ne_nil
  · exact congrArg _

end Segmented

theorem Link.Meets.eq_of_id (h : Entered es s) (hroot : IsIdentifier root) (hl : l.Labelled)
    (hl' : l'.Labelled) (hmeets : l.Meets root s e) (hmeets' : l'.Meets root s e')
    (hid : e.id = e'.id) : e = e' := by
  obtain ⟨_, hsegments⟩ := hmeets.segmented h hroot hl
  obtain ⟨_, hsegments'⟩ := hmeets'.segmented h hroot hl'
  exact hsegments.inj hsegments' ((hsegments.id_eq_iff hroot hsegments').mp hid)

end Edges

end TwinDiagram.Graph
