import TwinDiagram.Command.Program
import TwinDiagram.Proofs.Json.Printable
import TwinDiagram.Proofs.Layout.Genuine
import TwinDiagram.Proofs.Program

namespace TwinDiagram.Command

open Program Run

structure Quiet (s t : Session) : Prop where
  files : t.files = s.files
  here : t.here = s.here
  output : t.output = s.output

variable {s₀ s t u : Session} {α : Type} {I : Session → Prop}

theorem Quiet.refl (s : Session) : Quiet s s := ⟨rfl, rfl, rfl⟩

theorem Quiet.trans (h : Quiet s t) (h' : Quiet t u) : Quiet s u :=
  ⟨h'.files.trans h.files, h'.here.trans h.here, h'.output.trans h.output⟩

/-- The program only logs, and does not fail. -/
def Logs (p : Run Unit) : Prop := ∀ s, (p.run.run s).1 = .ok () ∧ Quiet s (p.run.run s).2

section Log

theorem logs_note (line : String) : Logs (note line) := fun _ ↦ ⟨rfl, rfl, rfl, rfl⟩

theorem logs_threshold (level : LogLevel) :
    Logs (modify fun s : Session ↦ { s with threshold := level }) := fun _ ↦ ⟨rfl, rfl, rfl, rfl⟩

theorem logs_log (level : LogLevel) (logger message : String) :
    Logs (log level logger message) := by
  intro s
  rw [log, run_bind, run_get]
  simp only
  split
  · exact logs_note _ s
  · exact ⟨rfl, .refl s⟩

theorem Logs.bind {p q : Run Unit} (hp : Logs p) (hq : Logs q) : Logs (p >>= fun _ ↦ q) := by
  intro s
  obtain ⟨hok, hquiet⟩ := hp s
  rw [run_bind]
  rcases hrun : p.run.run s with ⟨_ | _, t⟩ <;> rw [hrun] at hok hquiet
  · cases hok
  · exact ⟨(hq t).1, hquiet.trans (hq t).2⟩

theorem logs_forM {β : Type} {f : β → Run Unit} (hf : ∀ b, Logs (f b)) (bs : List β) :
    Logs (bs.forM f) := by
  induction bs with
  | nil => exact fun s ↦ ⟨rfl, .refl s⟩
  | cons b bs ih => exact (hf b).bind ih

theorem logs_logEvent (e : Parser.Event) : Logs (logEvent e) := by
  cases e <;> exact logs_log _ _ _

theorem Logs.yields {p : Run Unit} (hp : Logs p) (hI : ∀ {s t}, Quiet s t → I s → I t) :
    Yields I p (some ()) := by
  intro s hs
  obtain ⟨hok, hquiet⟩ := hp s
  exact ⟨hI hquiet hs, by rw [hok]; rfl⟩

theorem Logs.before {p : Run Unit} {q : Run α} {o : Option α} (hp : Logs p)
    (hq : Yields (Quiet s₀) q o) : Yields (Quiet s₀) (p >>= fun _ ↦ q) o :=
  (hp.yields fun h h' ↦ h'.trans h).bind_some hq

theorem yields_failWith (line : String) : Yields (Quiet s₀) (failWith line : Run α) none :=
  (logs_note _).before (.throw _)

end Log

theorem run_access (change : Files → Except AccessFault Files) (s : Session) :
    (access change).run.run s = match change s.files with
      | .ok files => (.ok (), { s with files })
      | .error f => (.error (.crashed (.access f)), s) := by
  rw [access, run_bind, run_get]
  simp only
  cases change s.files <;> rfl

/-- What a document and its manifest ask for: the root of the project, whether it has a cache, and
what is to be drawn. -/
structure Subject where
  root : Address
  cached : Bool
  graph : Graph
  metrics : Layout.Metrics Float
deriving DecidableEq

namespace Subject

def drawing (u : Subject) : Layout.Drawing Float := Layout.draw u.metrics u.graph

def text (u : Subject) : String := u.drawing.toJson.render (.indented 2)

def directory (u : Subject) : Address := Layout.Cache.directoryOf u.root

end Subject

/-- The subject of the document that a path leads to, by itself and its manifest. -/
def subject? (fs : Files) (here : Address) (file : String) : Option Subject := do
  let (a, bytes) ← (← (fs.fileAt? here (.ofText file)).toOption)
  let settings ← (Project.load fs a).toOption
  let metrics ← (Layout.Metrics.ofConfig settings.manifest.layout).toOption
  let text ← (Text.readBytes bytes).toOption
  let model ← (Parser.readText text).1.toOption
  let graph ← (Graph.ofModel model).1.toOption
  return ⟨settings.root.getD a.dropLast, settings.manifest.layout.cache, graph, metrics⟩

def readSubject (verbose : Bool) (file : String) : Run Subject := do
  let (path, a, bytes) ← requireFile file
  let settings ← loadSettings verbose a
  let metrics ← metricsOf settings.manifest.layout
  let (m, _) ← readDocument path bytes
  let (g, _) ← buildGraph m
  return ⟨settings.root.getD a.dropLast, settings.manifest.layout.cache, g, metrics⟩

def drawSubject (afresh : Bool) (u : Subject) : Run (Layout.Drawing Float) :=
  if u.cached && !afresh then drawCached u.directory u.graph u.metrics
  else drawGraph u.graph u.metrics

theorem layout_eq (verbose : Bool) (file : String) (output : Option String) (afresh : Bool) :
    layout verbose file output afresh = (do
      let u ← readSubject verbose file
      let d ← drawSubject afresh u
      emit (d.toJson.render (.indented 2)) output) := by
  simp only [layout, readSubject, bind_assoc, pure_bind]
  refine bind_congr fun _ ↦ bind_congr fun _ ↦ bind_congr fun _ ↦ bind_congr fun _ ↦
    bind_congr fun _ ↦ ?_
  rw [drawSubject]
  split <;> rfl

section Read

theorem yields_requireFile (file : String) : Yields (Quiet s₀) (requireFile file)
    ((s₀.files.fileAt? s₀.here (.ofText file)).toOption.bind
      (·.map fun f ↦ (.ofText file, f.1, f.2))) := by
  refine .get_bind fun s hs ↦ ?_
  dsimp only
  rw [hs.files, hs.here]
  rcases s₀.files.fileAt? s₀.here (.ofText file) with _ | _ | _
  · exact .throw _
  · exact yields_failWith _
  · exact .pure _

theorem yields_loadSettings (verbose : Bool) (a : Address) :
    Yields (Quiet s₀) (loadSettings verbose a) (Project.load s₀.files a).toOption := by
  refine .get_bind fun s hs ↦ ?_
  rw [hs.files]
  cases Project.load s₀.files a with
  | ok settings => exact (logs_threshold _).before (.pure _)
  | error e =>
    dsimp only
    split
    · exact yields_failWith _
    · exact .throw _

theorem yields_metricsOf (c : Layout.Config) :
    Yields (Quiet s₀) (metricsOf c) (Layout.Metrics.ofConfig c).toOption := by
  rw [metricsOf]
  rcases Layout.Metrics.ofConfig c with f | m
  · cases f <;> first | exact yields_failWith _ | exact .throw _
  · exact .pure _

theorem yields_readDocument (path : Path) (bytes : ByteArray) :
    Yields (Quiet s₀) (readDocument path bytes)
      ((Text.readBytes bytes).toOption.bind fun text ↦
        (Parser.readText text).1.toOption.map fun m ↦
          (m, (Parser.readText text).2.diagnostics)) := by
  rw [readDocument]
  cases Text.readBytes bytes with
  | error => exact yields_failWith _
  | ok text =>
    dsimp only [Except.toOption, Option.bind_some]
    generalize Parser.readText text = r
    obtain ⟨result, state⟩ := r
    refine (logs_forM logs_logEvent _).before ?_
    cases result with
    | error => exact .throw _
    | ok m => exact .pure _

theorem yields_buildGraph (m : Model) : Yields (Quiet s₀) (buildGraph m)
    ((Graph.ofModel m).1.toOption.map fun g ↦
      (g, (Graph.ofModel m).2.findings.map Graph.Finding.diagnostic)) := by
  rw [buildGraph]
  generalize Graph.ofModel m = r
  obtain ⟨result, draft⟩ := r
  refine (logs_forM (fun _ ↦ logs_log _ _ _) _).before ?_
  cases result with
  | error => exact .throw _
  | ok g => exact (logs_log _ _ _).before (.pure _)

theorem yields_readSubject (verbose : Bool) (file : String) :
    Yields (Quiet s₀) (readSubject verbose file) (subject? s₀.files s₀.here file) := by
  have hfile : Yields (Quiet s₀) (requireFile file) _ := yields_requireFile file
  have h := hfile.bind fun f ↦
    (yields_loadSettings verbose f.2.1).bind fun settings ↦
    (yields_metricsOf settings.manifest.layout).bind fun metrics ↦
    (yields_readDocument f.1 f.2.2).bind fun m ↦
    (yields_buildGraph m.1).bind fun g ↦
    .pure (Subject.mk (settings.root.getD f.2.1.dropLast) settings.manifest.layout.cache
      g.1 metrics)
  simp only [Option.bind_assoc, Option.bind_map, Function.comp_def] at h
  exact h

end Read

section Drawing

open Json (ReadsBack)
open Layout.Cache (Alike Distinct Genuine Holds)

variable {directories : Address → Prop} {drawn : Graph → Layout.Metrics Float → Prop}

structure Sound (directories : Address → Prop) (drawn : Graph → Layout.Metrics Float → Prop)
    (s t : Session) : Prop where
  here : t.here = s.here
  output : t.output = s.output
  genuine : Genuine directories drawn t.files

theorem Sound.quiet (h : Sound directories drawn s₀ s) (h' : Quiet s t) :
    Sound directories drawn s₀ t :=
  ⟨h'.here.trans h.here, h'.output.trans h.output, h'.files ▸ h.genuine⟩

/-- A change of the files, with what holds of the new ones. -/
theorem leads_access {change : Files → Except AccessFault Files} {P : Files → Prop}
    (hchange : ∀ {fs fs'}, Genuine directories drawn fs → change fs = .ok fs' →
      Genuine directories drawn fs' ∧ P fs') :
    Leads (Sound directories drawn s₀) (access change)
      (fun _ t ↦ Sound directories drawn s₀ t ∧ P t.files) (Sound directories drawn s₀) := by
  intro s hs
  rw [run_access]
  split
  · next files hfiles =>
    obtain ⟨hgenuine, hP⟩ := hchange hs.genuine hfiles
    refine ⟨fun _ t ht ↦ ?_, nofun⟩
    cases ht
    exact ⟨⟨hs.here, hs.output, hgenuine⟩, hP⟩
  · refine ⟨nofun, fun _ t ht ↦ ?_⟩
    cases ht
    exact hs

theorem yields_drawGraph (g : Graph) (m : Layout.Metrics Float)
    (hI : ∀ {s t}, Quiet s t → I s → I t) : Yields I (drawGraph g m) (some (Layout.draw m g)) :=
  ((logs_log _ _ _).yields hI).bind fun _ ↦ .pure _

variable {directory : Address} {g : Graph} {m : Layout.Metrics Float}

theorem yields_lookUp {found : Layout.Cache.Lookup}
    (hfound : Layout.Cache.get s.files directory g m = .ok found) :
    Yields (Quiet s) (lookUp directory g m) (some found.drawing?) := by
  refine .get_bind fun t ht ↦ ?_
  rw [ht.files, hfound]
  cases found with
  | unreadable => exact (logs_log _ _ _).before (.pure _)
  | _ => exact .pure _

/-- What is found in the cache is what the layout would make. -/
theorem leads_lookUp (hdistinct : Distinct drawn) (hdirectory : directories directory)
    (hdrawn : drawn g m) : Leads (Sound directories drawn s₀) (lookUp directory g m)
      (fun o t ↦ Sound directories drawn s₀ t ∧
        ∀ d, o = some d → d = Layout.draw m g ∧ Holds t.files directory g m (some d))
      (Sound directories drawn s₀) := by
  intro s hs
  obtain ⟨found, hfound, hkept⟩ := hs.genuine.get hdistinct hdirectory hdrawn
  obtain ⟨hok, herror⟩ := (yields_lookUp hfound).leads s (.refl s)
  refine ⟨fun o t h ↦ ?_, fun e t h ↦ hs.quiet (herror e t h)⟩
  obtain ⟨ho, hquiet⟩ := hok o t h
  cases ho
  refine ⟨hs.quiet hquiet, fun d hd ↦ ?_⟩
  rw [hquiet.files]
  exact hkept d hd

/-- The drawing is the one that the layout makes, and it is kept. -/
theorem leads_drawCached (hdistinct : Distinct drawn) (hdirectory : directories directory)
    (hdrawn : drawn g m) : Leads (Sound directories drawn s₀) (drawCached directory g m)
      (fun d t ↦ Sound directories drawn s₀ t ∧ d = Layout.draw m g ∧
        Holds t.files directory g m (some d))
      (Sound directories drawn s₀) := by
  have hmake : Leads (Sound directories drawn s₀) (access (Layout.Cache.make · directory))
      (fun _ t ↦ Sound directories drawn s₀ t ∧ True) (Sound directories drawn s₀) :=
    leads_access fun hfs h ↦ ⟨hfs.make h, trivial⟩
  have hlook : Leads (Sound directories drawn s₀) (lookUp directory g m) _ _ :=
    leads_lookUp hdistinct hdirectory hdrawn
  rw [drawCached]
  refine hmake.bind fun _ ↦ (hlook.weaken fun _ hs ↦ hs.1).bind fun o ↦ ?_
  cases o with
  | some d => exact .pure fun s hs ↦ ⟨hs.1, hs.2 d rfl⟩
  | none =>
    refine .weaken ?_ fun _ hs ↦ hs.1
    refine (yields_drawGraph g m fun h h' ↦ h'.quiet h).leads_bind (fun _ hs ↦ hs) fun d hd ↦ ?_
    cases hd
    have hset : Leads (Sound directories drawn s₀)
        (access (Layout.Cache.set · directory g (Layout.draw m g) m))
        (fun _ t ↦ Sound directories drawn s₀ t ∧
          Holds t.files directory g m (some (Layout.draw m g)))
        (Sound directories drawn s₀) :=
      leads_access fun hfs h ↦ ⟨hfs.set hdrawn h, Layout.Cache.holds_of_set h⟩
    exact hset.bind fun _ ↦ .pure fun s hs ↦ ⟨hs.1, rfl, hs.2⟩

end Drawing

section Emit

open Layout.Cache (Alike)

def target? (here : Address) (output : Option String) : Option Address :=
  if (output.getD "").isEmpty then none else some (.ofPath here (.ofText (output.getD "")))

/-- The text went to the file that takes it, or else to the output, and nothing more to the
output. -/
def Emitted (s : Session) (output : Option String) (text : String) (t : Session) : Prop :=
  match target? s.here output with
  | none => t.output = s.output ++ [text]
  | some a => t.output = s.output ∧ t.files.content? a = some (text ++ "\n").toUTF8

variable {directories : Address → Prop}

/-- A text that is shown as it is goes where it is to go, and no entry is touched. -/
theorem leads_emit {text : String} {output : Option String} (htext : spoken text = text)
    (htarget : ∀ a, target? s.here output = some a →
      ∀ directory, directories directory → ∀ name, a ≠ directory ++ [name]) :
    Leads (· = s) (emit text output)
      (fun _ t ↦ Alike directories s.files t.files ∧ Emitted s output text t)
      fun t ↦ Alike directories s.files t.files := by
  rintro s rfl
  have halike : Alike directories s.files s.files := fun _ _ _ ↦ rfl
  unfold emit Emitted
  by_cases hempty : (output.getD "").isEmpty
  · rw [target?, if_pos hempty, if_pos hempty]
    refine ⟨fun _ t h ↦ ?_, nofun⟩
    cases h
    exact ⟨halike, by rw [htext]⟩
  · have hsome : target? s.here output = some (.ofPath s.here (.ofText (output.getD ""))) :=
      if_neg hempty
    rw [if_neg hempty, hsome, run_bind, run_get]
    dsimp only
    split
    · refine ⟨nofun, fun _ t h ↦ ?_⟩
      cases h
      exact halike
    · next a ha =>
      obtain rfl := Files.find_ok ha
      rw [run_bind, run_access]
      cases hfiles : s.files.write (.ofPath s.here (.ofText (output.getD "")))
        (text ++ "\n").toUTF8 with
      | error =>
        refine ⟨nofun, fun _ t h ↦ ?_⟩
        cases h
        exact halike
      | ok files =>
        obtain rfl := Files.write_ok hfiles
        refine ⟨fun _ t h ↦ ?_, nofun⟩
        cases h
        refine ⟨fun directory hdirectory name ↦ ?_, rfl, ?_⟩
        · have hne := htarget _ hsome directory hdirectory name
          exact (Files.content?_put ..).trans (if_neg hne.symm)
        · exact (Files.content?_put ..).trans (if_pos rfl)

theorem spoken_render (j : Json) (n : Nat) :
    spoken (j.render (.indented n)) = j.render (.indented n) := by
  rw [spoken, Json.dropSequences_render (Json.Spacing.printable_indented n), String.ofList_toList]

end Emit

section Subject

open Json (ReadsBack)
open Layout.Cache (Distinct Genuine Holds)

def Subject.Kept (u : Subject) (fs : Files) : Prop :=
  Holds fs u.directory u.graph u.metrics (some u.drawing)

variable {directories : Address → Prop} {drawn : Graph → Layout.Metrics Float → Prop}
  {verbose afresh : Bool} {file : String} {output : Option String} {v : Subject}

theorem leads_drawSubject (hdistinct : Distinct drawn) (hdirectory : directories v.directory)
    (hdrawn : drawn v.graph v.metrics) : Leads (Sound directories drawn s₀) (drawSubject afresh v)
      (fun d t ↦ Sound directories drawn s₀ t ∧ d = v.drawing ∧
        (v.cached → afresh = false → v.Kept t.files))
      fun t ↦ Genuine directories drawn t.files := by
  rw [drawSubject]
  split
  · refine (leads_drawCached hdistinct hdirectory hdrawn).mono ?_ fun _ ht ↦ ht.genuine
    rintro _ t ⟨hsound, rfl, hholds⟩
    exact ⟨hsound, rfl, fun _ _ ↦ hholds⟩
  · next hfresh =>
    have hdraw : Yields (Sound directories drawn s₀) (drawGraph v.graph v.metrics) _ :=
      yields_drawGraph v.graph v.metrics fun h h' ↦ h'.quiet h
    refine hdraw.leads.mono ?_ fun _ ht ↦ ht.genuine
    rintro _ t ⟨⟨⟩, hsound⟩
    exact ⟨hsound, rfl, fun hcached hafresh ↦ absurd (by rw [hcached, hafresh]; rfl) hfresh⟩

/-- Where all entries are genuine, the command writes the text of the drawing that the layout makes
of the document, and all entries stay genuine, whatever happens. -/
theorem leads_layout (hdistinct : Distinct drawn) (hgenuine : Genuine directories drawn s₀.files)
    (hsubject : ∀ u, subject? s₀.files s₀.here file = some u →
      directories u.directory ∧ drawn u.graph u.metrics)
    (htarget : ∀ a, target? s₀.here output = some a →
      ∀ directory, directories directory → ∀ name, a ≠ directory ++ [name]) :
    Leads (Quiet s₀) (layout verbose file output afresh)
      (fun _ t ↦ Genuine directories drawn t.files ∧
        ∃ u, subject? s₀.files s₀.here file = some u ∧ Emitted s₀ output u.text t ∧
          (u.cached → afresh = false → u.Kept t.files))
      fun t ↦ Genuine directories drawn t.files := by
  have hquiet (t : Session) (ht : Quiet s₀ t) : Sound directories drawn s₀ t :=
    ⟨ht.here, ht.output, ht.files ▸ hgenuine⟩
  rw [layout_eq]
  refine (yields_readSubject verbose file).leads_bind (fun t ht ↦ (hquiet t ht).genuine)
    fun v hv ↦ ?_
  obtain ⟨hdirectory, hdrawn⟩ := hsubject v hv
  have hdraw : Leads (Sound directories drawn s₀) (drawSubject afresh v) _ _ :=
    leads_drawSubject hdistinct hdirectory hdrawn
  refine (hdraw.bind fun d s hs ↦ ?_).weaken hquiet
  obtain ⟨hsound, rfl, hkept⟩ := hs
  rw [← hsound.here] at htarget
  obtain ⟨hok, herror⟩ := leads_emit (spoken_render v.drawing.toJson 2) htarget s rfl
  refine ⟨fun _ t h ↦ ?_, fun e t h ↦ hsound.genuine.alike (herror e t h)⟩
  obtain ⟨halike, hemitted⟩ := hok _ t h
  rw [Emitted, hsound.here, hsound.output] at hemitted
  exact ⟨hsound.genuine.alike halike, v, hv, hemitted,
    fun hcached hafresh ↦ (halike _ hdirectory _).trans (hkept hcached hafresh)⟩

theorem yields_drawSubject (hkept : v.Kept s.files)
    (hnumbers : ∀ x ∈ v.drawing.numbers, ReadsBack x) :
    Yields (Quiet s) (drawSubject afresh v) (some v.drawing) := by
  rw [drawSubject]
  split
  · rw [drawCached]
    have hmake : Yields (Quiet s) (access (Layout.Cache.make · v.directory)) (some ()) := by
      intro t ht
      rw [run_access, ht.files, hkept.make]
      exact ⟨⟨rfl, ht.here, ht.output⟩, rfl⟩
    exact hmake.bind_some ((yields_lookUp (hkept.get hnumbers)).bind_some (.pure _))
  · exact yields_drawGraph _ _ fun h h' ↦ h'.trans h

theorem achieves_layout (hv : subject? s.files s.here file = some v) (hkept : v.Kept s.files)
    (hnumbers : ∀ x ∈ v.drawing.numbers, ReadsBack x) (houtput : target? s.here output = none) :
    Achieves (Quiet s) (layout verbose file output afresh) fun _ _ ↦ True := by
  rw [layout_eq]
  refine Yields.achieves_bind (hv ▸ yields_readSubject verbose file) ?_
  refine (yields_drawSubject hkept hnumbers).achieves_bind fun t _ ↦ ?_
  unfold target? at houtput
  unfold emit
  split at houtput
  · next hempty => rw [if_pos hempty]; exact ⟨_, _, rfl, trivial⟩
  · cases houtput

end Subject

end TwinDiagram.Command
