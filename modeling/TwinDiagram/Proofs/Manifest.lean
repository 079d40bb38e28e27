import TwinDiagram.Proofs.Text.Utf8
import TwinDiagram.Manifest

namespace TwinDiagram

def ManifestFault.Told (f : ManifestFault) : Prop := (f.message? Manifest.fileName).isSome

def Layout.ConfigFault.Told (f : Layout.ConfigFault) : Prop := ∃ names, f = .unknownMetrics names

namespace Manifest

open Layout (Metrics)

inductive Fault where
  | manifest (f : ManifestFault)
  | metrics (f : Layout.ConfigFault)

def Fault.Told : Fault → Prop
  | manifest f => f.Told
  | metrics f => f.Told

/-- The metrics that a manifest gives. -/
def metricsIn (bytes : ByteArray) : Except Fault (Metrics Float) := do
  let m ← (read bytes).mapError .manifest
  (Metrics.ofConfig m.layout).mapError .metrics

section Untold

variable {ε ε' α β : Type} {told : ε → Prop} {told' : ε' → Prop}

def Untold (told : ε → Prop) (x : Except ε α) : Prop := ∃ f, x = .error f ∧ ¬ told f

theorem not_untold_ok (a : α) : ¬ Untold told (.ok a : Except ε α) := by
  rintro ⟨f, hf, -⟩
  cases hf

theorem not_untold_pure (a : α) : ¬ Untold told (pure a : Except ε α) := not_untold_ok a

theorem untold_error (f : ε) : Untold told (.error f : Except ε α) ↔ ¬ told f := by
  constructor
  · rintro ⟨f, ⟨⟩, hf⟩
    exact hf
  · exact fun hf ↦ ⟨f, rfl, hf⟩

theorem not_untold_error {f : ε} (hf : told f) : ¬ Untold told (.error f : Except ε α) :=
  fun h ↦ (untold_error f).mp h hf

theorem untold_bind {x : Except ε α} {k : α → Except ε β} :
    Untold told (x >>= k) ↔ Untold told x ∨ ∃ a, x = .ok a ∧ Untold told (k a) := by
  cases x with
  | ok a =>
    rw [or_iff_right (not_untold_ok a)]
    exact ⟨fun h ↦ ⟨a, rfl, h⟩, by rintro ⟨_, ⟨⟩, h⟩; exact h⟩
  | error f =>
    refine ⟨fun h ↦ .inl ((untold_error f).mpr ((untold_error f).mp h)), ?_⟩
    rintro (h | ⟨a, ha, -⟩)
    · exact (untold_error f).mpr ((untold_error f).mp h)
    · cases ha

theorem untold_mapError {x : Except ε α} {g : ε → ε'} (hg : ∀ f, told' (g f) ↔ told f) :
    Untold told' (x.mapError g) ↔ Untold told x := by
  cases x with
  | ok a => exact iff_of_false (not_untold_ok a) (not_untold_ok a)
  | error f => exact (untold_error (g f)).trans ((not_congr (hg f)).trans (untold_error f).symm)

theorem mapError_eq_ok {x : Except ε α} {g : ε → ε'} {a : α} :
    x.mapError g = .ok a ↔ x = .ok a := by
  cases x <;> simp [Except.mapError]

theorem ok_or_told_iff {x : Except ε α} :
    ((∃ a, x = .ok a) ∨ ∃ f, x = .error f ∧ told f) ↔ ¬ Untold told x := by
  cases x with
  | ok a => exact iff_of_true (.inl ⟨a, rfl⟩) (not_untold_ok a)
  | error f => simp [untold_error]

/-- Where items are read in order, the first fault counts. -/
theorem untold_mapM {f : α → Except ε β} {xs : List α} :
    Untold told (xs.mapM f) ↔ ∃ before x behind, xs = before ++ x :: behind ∧
      (∀ b ∈ before, ∃ y, f b = .ok y) ∧ Untold told (f x) := by
  induction xs with
  | nil =>
    refine iff_of_false (not_untold_ok _) ?_
    rintro ⟨before, x, behind, h, -⟩
    cases before <;> cases h
  | cons x xs ih =>
    rw [List.mapM_cons, untold_bind]
    constructor
    · rintro (h | ⟨y, hy, h⟩)
      · exact ⟨[], x, xs, rfl, nofun, h⟩
      · have hrest := (untold_bind.mp h).resolve_right fun ⟨_, _, h⟩ ↦ not_untold_ok _ h
        obtain ⟨before, x', behind, rfl, hbefore, hx'⟩ := ih.mp hrest
        exact ⟨x :: before, x', behind, rfl, List.forall_mem_cons.mpr ⟨⟨y, hy⟩, hbefore⟩, hx'⟩
    · rintro ⟨before, x', behind, hsplit, hbefore, hx'⟩
      cases before with
      | nil =>
        obtain ⟨rfl, rfl⟩ := List.cons.inj hsplit
        exact .inl hx'
      | cons b before =>
        obtain ⟨rfl, rfl⟩ := List.cons.inj hsplit
        obtain ⟨⟨y, hy⟩, hbefore⟩ := List.forall_mem_cons.mp hbefore
        exact .inr ⟨y, hy, untold_bind.mpr (.inl (ih.mpr ⟨before, x', behind, rfl, hbefore, hx'⟩))⟩

end Untold

section Settings

variable {settings fields : Toml.Fields} {name : String} {v : Toml}

def NotTable (settings : Toml.Fields) (name : String) : Prop :=
  ∃ v, settings.lookup name = some v ∧ ∀ fields, v ≠ .table fields

/-- Of the metrics that a section sets, the first that does not count is an integer beyond the range
of numbers. -/
def BeyondRange (fields : Toml.Fields) : Prop :=
  ∃ entries before name n behind, fields.lookup "metrics" = some (.table entries) ∧
    entries = before ++ (name, .int n) :: behind ∧
    (∀ e ∈ before, ∃ x, metric e.1 e.2 = .ok x) ∧ Decimal.ofInt? n = none

theorem untold_section : Untold ManifestFault.Told (section? settings name) ↔
    NotTable settings name := by
  unfold section? NotTable
  cases settings.lookup name with
  | none => simpa using not_untold_ok _
  | some v =>
    cases v with
    | table fields => simpa using not_untold_ok _
    | _ => simpa [untold_error] using nofun

theorem not_untold_texts : ¬ Untold ManifestFault.Told (texts v) := by
  unfold texts
  split
  · split
    · exact not_untold_ok _
    · exact not_untold_error rfl
  · exact not_untold_error rfl

theorem untold_metric :
    Untold ManifestFault.Told (metric name v) ↔ ∃ n, v = .int n ∧ Decimal.ofInt? n = none := by
  cases v with
  | decimal x => simpa [metric] using not_untold_ok _
  | int n =>
    rw [metric]
    cases hn : Decimal.ofInt? n with
    | some x => simpa [hn] using not_untold_ok _
    | none => simpa [untold_error, hn] using nofun
  | _ => exact iff_of_false (not_untold_error rfl) (by rintro ⟨n, ⟨⟩, -⟩)

theorem untold_setting {α : Type} {default : α} {read : Toml → Except ManifestFault α} :
    Untold ManifestFault.Told (setting fields name default read) ↔
      ∃ v, fields.lookup name = some v ∧ Untold ManifestFault.Told (read v) := by
  unfold setting
  cases fields.lookup name with
  | none => simpa using not_untold_ok _
  | some v => simp

theorem untold_metrics :
    Untold ManifestFault.Told (setting fields "metrics" [] metrics) ↔ BeyondRange fields := by
  have hentries (entries : Toml.Fields) : Untold ManifestFault.Told (metrics (.table entries)) ↔
      ∃ before e behind, entries = before ++ e :: behind ∧
        (∀ b ∈ before, ∃ x, metric b.1 b.2 = .ok x) ∧
          Untold ManifestFault.Told (metric e.1 e.2) := by
    rw [metrics, untold_mapM]
    refine exists_congr fun before ↦ exists_congr fun e ↦ exists_congr fun behind ↦
      and_congr_right' (and_congr ?_ ?_)
    · refine forall₂_congr fun b _ ↦ ?_
      cases metric b.1 b.2 <;> simp [bind, Except.bind, pure, Except.pure]
    · rw [untold_bind]
      exact or_iff_left fun ⟨_, _, h⟩ ↦ not_untold_ok _ h
  rw [untold_setting]
  constructor
  · rintro ⟨v, hv, h⟩
    cases v with
    | table entries =>
      obtain ⟨before, ⟨name, v⟩, behind, hsplit, hbefore, h⟩ := (hentries entries).mp h
      obtain ⟨n, rfl, hn⟩ := untold_metric.mp h
      exact ⟨entries, before, name, n, behind, hv, hsplit, hbefore, hn⟩
    | _ => exact absurd h (not_untold_error rfl)
  · rintro ⟨entries, before, name, n, behind, hv, hsplit, hbefore, hn⟩
    exact ⟨_, hv, (hentries entries).mpr
      ⟨before, (name, .int n), behind, hsplit, hbefore, untold_metric.mpr ⟨n, rfl, hn⟩⟩⟩

theorem untold_levelOf : Untold ManifestFault.Told (levelOf v) ↔ v.unwritable?.isSome := by
  unfold levelOf
  cases v.unwritable? with
  | some o => cases o <;> simpa [untold_error] using nofun
  | none =>
    refine iff_of_false ?_ Bool.false_ne_true
    dsimp only
    split
    · exact not_untold_ok _
    · exact not_untold_error rfl

def layoutIn (settings : Toml.Fields) : Except ManifestFault Layout.Config :=
  do layoutOf (← section? settings "layout")

def levelIn (settings : Toml.Fields) : Except ManifestFault LogLevel :=
  do setting (← section? settings "logging") "level" .warning levelOf

theorem ofSettings_eq (settings : Toml.Fields) :
    ofSettings settings = (do
      let layout ← layoutIn settings
      let level ← levelIn settings
      let project ← section? settings "project"
      return ⟨(project.lookup "name").getD standard.name, layout, level⟩) := by
  simp only [ofSettings, layoutIn, levelIn, bind_assoc]

theorem untold_layoutIn : Untold ManifestFault.Told (layoutIn settings) ↔
    NotTable settings "layout" ∨ ∃ fields names, section? settings "layout" = .ok fields ∧
      setting fields "actuator_order" Layout.defaultActuatorOrder texts = .ok names ∧
      BeyondRange fields := by
  have horder (fields : Toml.Fields) : ¬ Untold ManifestFault.Told
      (setting fields "actuator_order" Layout.defaultActuatorOrder texts) := by
    rw [untold_setting]
    exact fun ⟨_, _, h⟩ ↦ not_untold_texts h
  have hcache (fields : Toml.Fields) : ¬ Untold ManifestFault.Told
      (setting fields "cache" true fun v ↦ .ok v.isTrue) := by
    rw [untold_setting]
    exact fun ⟨_, _, h⟩ ↦ not_untold_ok _ h
  simp only [layoutIn, layoutOf, untold_bind, untold_section, untold_metrics, horder, hcache,
    not_untold_pure, and_false, exists_false, or_false, false_or, exists_and_left]

theorem untold_levelIn : Untold ManifestFault.Told (levelIn settings) ↔
    NotTable settings "logging" ∨ ∃ fields v, section? settings "logging" = .ok fields ∧
      fields.lookup "level" = some v ∧ v.unwritable?.isSome := by
  simp only [levelIn, untold_bind, untold_section, untold_setting, untold_levelOf, exists_and_left]

theorem untold_ofSettings : Untold ManifestFault.Told (ofSettings settings) ↔
    Untold ManifestFault.Told (layoutIn settings) ∨ ∃ layout, layoutIn settings = .ok layout ∧
      (Untold ManifestFault.Told (levelIn settings) ∨ ∃ level, levelIn settings = .ok level ∧
        NotTable settings "project") := by
  simp only [ofSettings_eq, untold_bind, untold_section, not_untold_pure, and_false, exists_false,
    or_false]

end Settings

section Columns

variable {config : Layout.Config} {m : Metrics Float} {name : String} {x : Float}

theorem exists_columnsOf (hx : Decimal.truncate x ≠ none) : ∃ n, Layout.columnsOf x = .ok n := by
  obtain ⟨n, hn⟩ := Option.ne_none_iff_exists'.mp hx
  exact ⟨_, by rw [Layout.columnsOf, hn]⟩

theorem untold_columnsOf :
    Untold Layout.ConfigFault.Told (Layout.columnsOf x) ↔ Decimal.truncate x = none := by
  by_cases hx : Decimal.truncate x = none
  · rw [Layout.columnsOf, hx, untold_error]
    refine iff_of_true ?_ rfl
    rintro ⟨names, h⟩
    split at h <;> cases h
  · obtain ⟨n, hn⟩ := exists_columnsOf hx
    rw [hn]
    exact iff_of_false (not_untold_ok n) hx

variable (hname : Metrics.isName name)
include hname

theorem exists_override_of_ne (hlength : name ≠ Metrics.columnsName) :
    ∃ m', m.override name x = .ok m' := by
  rw [Metrics.isName, beq_eq_false_iff_ne.mpr hlength, Bool.false_or] at hname
  rw [Metrics.override, beq_eq_false_iff_ne.mpr hlength]
  obtain ⟨f, hf⟩ := Option.isSome_iff_exists.mp (List.find?_isSome.mpr (List.any_eq_true.mp hname))
  exact ⟨f.2.2 x m, by rw [hf]; rfl⟩

theorem untold_override : Untold Layout.ConfigFault.Told (m.override name x) ↔
    name = Metrics.columnsName ∧ Decimal.truncate x = none := by
  by_cases hlength : name = Metrics.columnsName
  · rw [Metrics.override, if_pos (beq_iff_eq.mpr hlength), untold_bind, untold_columnsOf,
      and_iff_right hlength]
    exact or_iff_left fun ⟨_, _, h⟩ ↦ not_untold_ok _ h
  · obtain ⟨m', hm'⟩ := exists_override_of_ne (m := m) (x := x) hname hlength
    rw [hm']
    exact iff_of_false (not_untold_ok m') fun h ↦ hlength h.1

theorem exists_override (hx : ¬ (name = Metrics.columnsName ∧ Decimal.truncate x = none)) :
    ∃ m', m.override name x = .ok m' := by
  by_cases hlength : name = Metrics.columnsName
  · rw [Metrics.override, if_pos (beq_iff_eq.mpr hlength)]
    obtain ⟨n, hn⟩ := exists_columnsOf fun hnone ↦ hx ⟨hlength, hnone⟩
    exact ⟨_, by rw [hn]; rfl⟩
  · exact exists_override_of_ne hname hlength

omit hname in
theorem untold_foldlM_override {overrides : List (String × Float)}
    (hnames : ∀ e ∈ overrides, Metrics.isName e.1) :
    Untold Layout.ConfigFault.Told (overrides.foldlM (fun m e ↦ m.override e.1 e.2) m) ↔
      ∃ x, (Metrics.columnsName, x) ∈ overrides ∧ Decimal.truncate x = none := by
  induction overrides generalizing m with
  | nil => exact iff_of_false (not_untold_ok m) fun ⟨_, hx, _⟩ ↦ nomatch hx
  | cons e overrides ih =>
    obtain ⟨hname, hnames⟩ := List.forall_mem_cons.mp hnames
    rw [List.foldlM_cons, untold_bind, untold_override hname]
    constructor
    · rintro (⟨hcolumns, hx⟩ | ⟨m', -, h⟩)
      · exact ⟨e.2, hcolumns ▸ .head _, hx⟩
      · obtain ⟨x, hmem, hx⟩ := (ih hnames).mp h
        exact ⟨x, .tail _ hmem, hx⟩
    · rintro ⟨x, hmem, hx⟩
      by_cases hhead : e.1 = Metrics.columnsName ∧ Decimal.truncate e.2 = none
      · exact .inl hhead
      · obtain ⟨m', hm'⟩ := exists_override (m := m) hname hhead
        obtain rfl | hmem := List.mem_cons.mp hmem
        · exact absurd ⟨rfl, hx⟩ hhead
        · exact .inr ⟨m', hm', (ih hnames).mpr ⟨x, hmem, hx⟩⟩

omit hname in
theorem untold_ofConfig : Untold Layout.ConfigFault.Told (Metrics.ofConfig config) ↔
    (∀ e ∈ config.metrics, Metrics.isName e.1) ∧
      ∃ x, (Metrics.columnsName, x) ∈ config.metrics ∧ Decimal.truncate x = none := by
  have hknown : (config.metrics.map Prod.fst).filter (! Metrics.isName ·) = [] ↔
      ∀ e ∈ config.metrics, Metrics.isName e.1 := by
    simp [List.filter_eq_nil_iff]
  unfold Metrics.ofConfig
  split
  · next h =>
    rw [untold_foldlM_override (hknown.mp h), and_iff_right (hknown.mp h)]
  · next h =>
    exact iff_of_false (not_untold_error ⟨_, rfl⟩) fun hnames ↦ h (hknown.mpr hnames.1)

end Columns

inductive Surprise (settings : Toml.Fields) : Prop where
  | layout (h : NotTable settings "layout")
  | metric {fields : Toml.Fields} {names : List String}
      (hsection : section? settings "layout" = .ok fields)
      (horder : setting fields "actuator_order" Layout.defaultActuatorOrder texts = .ok names)
      (h : BeyondRange fields)
  | logging {config : Layout.Config} (hlayout : layoutIn settings = .ok config)
      (h : NotTable settings "logging")
  | level {config : Layout.Config} {fields : Toml.Fields} {v : Toml}
      (hlayout : layoutIn settings = .ok config)
      (hsection : section? settings "logging" = .ok fields)
      (hlevel : fields.lookup "level" = some v) (h : v.unwritable?.isSome)
  | project {config : Layout.Config} {level : LogLevel} (hlayout : layoutIn settings = .ok config)
      (hlevel : levelIn settings = .ok level) (h : NotTable settings "project")
  | columns {m : Manifest} {x : Float} (hm : ofSettings settings = .ok m)
      (hnames : ∀ e ∈ m.layout.metrics, Metrics.isName e.1)
      (hx : (Metrics.columnsName, x) ∈ m.layout.metrics) (h : Decimal.truncate x = none)

/-- A file that is no text, or whose form is past what is read, or that holds a surprise. -/
inductive Unforeseen (bytes : ByteArray) : Prop where
  | undecodable {f : Text.Utf8Fault} (h : Text.readBytes bytes = .error f)
  | unreadable {text : String} {f : Toml.Fault} (htext : Text.readBytes bytes = .ok text)
      (h : Toml.read text = .error f) (hf : f ≠ .malformed)
  | surprise {text : String} {settings : Toml.Fields} (htext : Text.readBytes bytes = .ok text)
      (hread : Toml.read text = .ok settings) (h : Surprise settings)

theorem untold_or_iff_surprise {settings : Toml.Fields} :
    (Untold ManifestFault.Told (ofSettings settings) ∨ ∃ m, ofSettings settings = .ok m ∧
      Untold Layout.ConfigFault.Told (Metrics.ofConfig m.layout)) ↔ Surprise settings := by
  rw [untold_ofSettings, untold_layoutIn, untold_levelIn]
  constructor
  · rintro (((h | ⟨fields, names, hsection, horder, h⟩) | ⟨config, hlayout, (h |
      ⟨fields, v, hsection, hlevel, h⟩) | ⟨level, hlevel, h⟩⟩) | ⟨m, hm, h⟩)
    · exact .layout h
    · exact .metric hsection horder h
    · exact .logging hlayout h
    · exact .level hlayout hsection hlevel h
    · exact .project hlayout hlevel h
    · obtain ⟨hnames, x, hx, h⟩ := untold_ofConfig.mp h
      exact .columns hm hnames hx h
  · intro h
    cases h with
    | layout h => exact .inl (.inl (.inl h))
    | metric hsection horder h => exact .inl (.inl (.inr ⟨_, _, hsection, horder, h⟩))
    | logging hlayout h => exact .inl (.inr ⟨_, hlayout, .inl (.inl h)⟩)
    | level hlayout hsection hlevel h =>
      exact .inl (.inr ⟨_, hlayout, .inl (.inr ⟨_, _, hsection, hlevel, h⟩)⟩)
    | project hlayout hlevel h => exact .inl (.inr ⟨_, hlayout, .inr ⟨_, hlevel, h⟩⟩)
    | columns hm hnames hx h => exact .inr ⟨_, hm, untold_ofConfig.mpr ⟨hnames, _, hx, h⟩⟩

theorem untold_read {bytes : ByteArray} : Untold ManifestFault.Told (read bytes) ↔
    (∃ f, Text.readBytes bytes = .error f) ∨ ∃ text, Text.readBytes bytes = .ok text ∧
      ((∃ f, Toml.read text = .error f ∧ f ≠ .malformed) ∨
        ∃ settings, Toml.read text = .ok settings ∧
          Untold ManifestFault.Told (ofSettings settings)) := by
  have hbytes (f : Text.Utf8Fault) : (ManifestFault.undecodable f).Told ↔ False :=
    iff_of_false nofun id
  rw [read, untold_bind, untold_mapError hbytes]
  refine or_congr (exists_congr fun f ↦ and_iff_left id) (exists_congr fun text ↦ ?_)
  rw [mapError_eq_ok, untold_bind]
  refine and_congr_right' (or_congr (untold_mapError fun f ↦ ?_) (exists_congr fun settings ↦ ?_))
  · cases f with
    | malformed => exact iff_of_true rfl rfl
    | _ => exact iff_of_false nofun nofun
  · rw [mapError_eq_ok]

theorem read_eq_ok_iff {bytes : ByteArray} {m : Manifest} : read bytes = .ok m ↔
    ∃ text settings, Text.readBytes bytes = .ok text ∧ Toml.read text = .ok settings ∧
      ofSettings settings = .ok m := by
  unfold read
  cases Text.readBytes bytes with
  | error f => simp [Except.mapError, bind, Except.bind]
  | ok text => cases hread : Toml.read text <;> simp [Except.mapError, bind, Except.bind, hread]

theorem untold_metricsIn {bytes : ByteArray} :
    Untold Fault.Told (metricsIn bytes) ↔ Unforeseen bytes := by
  have hmanifest (f : ManifestFault) : (Fault.manifest f).Told ↔ f.Told := .rfl
  have hmetrics (f : Layout.ConfigFault) : (Fault.metrics f).Told ↔ f.Told := .rfl
  simp only [metricsIn, untold_bind, untold_mapError hmanifest, mapError_eq_ok,
    untold_mapError hmetrics, untold_read]
  constructor
  · rintro ((⟨f, h⟩ | ⟨text, htext, ⟨f, h, hf⟩ | ⟨settings, hread, h⟩⟩) | ⟨m, hm, h⟩)
    · exact .undecodable h
    · exact .unreadable htext h hf
    · exact .surprise htext hread (untold_or_iff_surprise.mp (.inl h))
    · obtain ⟨text, settings, htext, hread, hm⟩ := read_eq_ok_iff.mp hm
      exact .surprise htext hread (untold_or_iff_surprise.mp (.inr ⟨m, hm, h⟩))
  · intro h
    cases h with
    | undecodable h => exact .inl (.inl ⟨_, h⟩)
    | unreadable htext h hf => exact .inl (.inr ⟨_, htext, .inl ⟨_, h, hf⟩⟩)
    | surprise htext hread h =>
      obtain h | ⟨m, hm, h⟩ := untold_or_iff_surprise.mpr h
      · exact .inl (.inr ⟨_, htext, .inr ⟨_, hread, h⟩⟩)
      · exact .inr ⟨m, read_eq_ok_iff.mpr ⟨_, _, htext, hread, hm⟩, h⟩

/-- A manifest gives metrics, or a fault that a user is told of, but for what is not foreseen. -/
theorem metrics_or_told_iff (bytes : ByteArray) :
    ((∃ m, metricsIn bytes = .ok m) ∨ ∃ f, metricsIn bytes = .error f ∧ f.Told) ↔
      ¬ Unforeseen bytes :=
  ok_or_told_iff.trans (not_congr untold_metricsIn)

/-- A number where a section should be. -/
theorem layout_number_untold :
    let text := "layout = 3\n"
    Text.readBytes text.toUTF8 = .ok text ∧ (∃ settings, Toml.read text = .ok settings) ∧
      metricsIn text.toUTF8 = .error (.manifest .notSection) ∧
      ¬ (Fault.manifest .notSection).Told := by
  intro text
  have htext : Text.readBytes text.toUTF8 = .ok text := by
    rw [Text.readBytes, Text.decodeUtf8_toUTF8]
    simp [text, Text.unifyNewlines, Except.map]
  -- Values of a file are not compared by evaluation, what `ofSettings` fails with is.
  have hfault :
      (Toml.read text).toOption.map (fun settings ↦ (ofSettings settings).map fun _ ↦ ()) =
        some (.error .notSection) := by
    decide +kernel
  obtain ⟨settings, hread, hsettings⟩ := Option.map_eq_some_iff.mp hfault
  have hread : Toml.read text = .ok settings := by
    cases h : Toml.read text with
    | error f => rw [h] at hread; cases hread
    | ok s => rw [h] at hread; cases hread; rfl
  have hsettings : ofSettings settings = .error .notSection := by
    cases h : ofSettings settings with
    | ok m => rw [h] at hsettings; cases hsettings
    | error f => rw [h] at hsettings; cases hsettings; rfl
  refine ⟨htext, ⟨settings, hread⟩, ?_, ?_⟩
  · rw [metricsIn, read, htext]
    simp only [Except.mapError, bind, Except.bind, hread, hsettings]
  · intro h
    cases h

end Manifest

end TwinDiagram
