import TwinDiagram.Proofs.Command.Layout

namespace TwinDiagram.Command

open Program (Achieves Leads)
open Json (ReadsBack)
open Layout.Cache (Collide Distinct Genuine engineVersion keyText)

/-- A run of the layout command: its arguments, and what they ask for. -/
structure LayoutCall where
  environment : String
  here : Address
  args : List String
  verbose : Bool
  file : String
  output : Option String
  afresh : Bool
  asked : Request.ofArguments args = some (.job verbose (.layout file output afresh))

namespace LayoutCall

def run (c : LayoutCall) (fs : Files) : Exit × Session := runIn c.environment c.args fs c.here

def subject? (c : LayoutCall) (fs : Files) : Option Subject := Command.subject? fs c.here c.file

def target? (c : LayoutCall) : Option Address := Command.target? c.here c.output

/-- All that the run wrote is this text, to its output or to the file that it names. -/
def Emits (c : LayoutCall) (text : String) (s : Session) : Prop :=
  match c.target? with
  | none => s.output = [text]
  | some a => s.output = [] ∧ s.files.content? a = some (text ++ "\n").toUTF8

end LayoutCall

inductive Step where
  | edit (change : Files → Files)
  | call (c : LayoutCall)

namespace Step

def files (fs : Files) : Step → Files
  | edit change => change fs
  | call c => (c.run fs).2.files

def subject? (fs : Files) : Step → Option Subject
  | edit _ => none
  | call c => c.subject? fs

def Spares (directory : Address) (fs : Files) : Step → Prop
  | edit change => ∀ name bytes, (change fs).content? (directory ++ [name]) = some bytes →
      fs.content? (directory ++ [name]) = some bytes
  | call c => ∀ a, c.target? = some a → ∀ name, a ≠ directory ++ [name]

end Step

/-- The steps of a history, each with the files that it finds. -/
def trace (fs : Files) : List Step → List (Files × Step)
  | [] => []
  | e :: steps => (fs, e) :: trace (e.files fs) steps

/-- The subjects of all runs of a history. -/
def subjects (fs : Files) (steps : List Step) : List Subject :=
  (trace fs steps).filterMap fun e ↦ e.2.subject? e.1

/-- The caches of the projects are empty at first, and only the runs write there. -/
structure Unspoilt (fs : Files) (steps : List Step) : Prop where
  vacant : ∀ u ∈ subjects fs steps, ∀ name, fs.content? (u.directory ++ [name]) = none
  spared : ∀ e ∈ trace fs steps, ∀ u ∈ subjects fs steps, e.2.Spares u.directory e.1

/-- The digests of the subjects are told apart, and their numbers are read back. -/
structure Legible (us : List Subject) : Prop where
  digests : ∀ u ∈ us, ∀ v ∈ us,
    ¬ Collide (keyText engineVersion u.graph u.metrics) (keyText engineVersion v.graph v.metrics)
  metrics : ∀ u ∈ us, ∀ x ∈ u.metrics.numbers, ReadsBack x
  drawings : ∀ u ∈ us, ∀ x ∈ u.drawing.numbers, ReadsBack x

variable {fs before : Files} {steps : List Step} {e : Step} {c : LayoutCall} {s : Session}
  {u : Subject} {us : List Subject}

def Homes (us : List Subject) (directory : Address) : Prop := ∃ u ∈ us, directory = u.directory

def Draws (us : List Subject) (g : Graph) (m : Layout.Metrics Float) : Prop :=
  ∃ u ∈ us, u.graph = g ∧ u.metrics = m

theorem Legible.distinct (h : Legible us) : Distinct (Draws us) where
  digests := by
    rintro _ _ _ _ ⟨u, hu, rfl, rfl⟩ ⟨v, hv, rfl, rfl⟩
    exact h.digests u hu v hv
  metrics := by
    rintro _ _ ⟨u, hu, rfl, rfl⟩
    exact h.metrics u hu
  drawings := by
    rintro _ _ ⟨u, hu, rfl, rfl⟩
    exact h.drawings u hu

namespace LayoutCall

theorem run_eq (c : LayoutCall) (fs : Files) :
    c.run fs = match (layout c.verbose c.file c.output c.afresh).run.run (.start fs c.here) with
      | (.ok _, s) => (.success, s)
      | (.error .failed, s) => (.failure, s)
      | (.error (.crashed k), s) => (.crash k, s) := by
  rw [run, runIn, Command.run, c.asked]
  rfl

/-- Where all entries are genuine, a run leaves them so. If it succeeds, it writes its own text, and
it keeps the drawing unless told not to. -/
theorem run_genuine (hus : Legible us) (hgenuine : Genuine (Homes us) (Draws us) fs)
    (hsubject : ∀ u, c.subject? fs = some u → u ∈ us)
    (hspares : ∀ u ∈ us, Step.Spares u.directory fs (.call c)) :
    Genuine (Homes us) (Draws us) (c.run fs).2.files ∧
      ∀ s, c.run fs = (.success, s) → ∃ u, c.subject? fs = some u ∧ c.Emits u.text s ∧
        (u.cached → c.afresh = false → u.Kept s.files) := by
  have hhome : ∀ u, Command.subject? fs c.here c.file = some u →
      Homes us u.directory ∧ Draws us u.graph u.metrics := by
    intro u hu
    have hmem := hsubject u hu
    exact ⟨⟨u, hmem, rfl⟩, u, hmem, rfl, rfl⟩
  have htarget : ∀ a, Command.target? c.here c.output = some a →
      ∀ directory, Homes us directory → ∀ name, a ≠ directory ++ [name] := by
    rintro a ha _ ⟨u, hu, rfl⟩
    exact hspares u hu a ha
  have hleads : Leads (Quiet (.start fs c.here)) (layout c.verbose c.file c.output c.afresh) _ _ :=
    leads_layout hus.distinct hgenuine hhome htarget
  obtain ⟨hok, herror⟩ := hleads _ (.refl _)
  rw [run_eq]
  rcases hrun : (layout c.verbose c.file c.output c.afresh).run.run (.start fs c.here)
    with ⟨h | a, t⟩
  · cases h <;> exact ⟨herror _ t hrun, nofun⟩
  · obtain ⟨hgenuine, hend⟩ := hok a t hrun
    refine ⟨hgenuine, fun s hs ↦ ?_⟩
    cases hs
    exact hend

theorem run_kept (hu : c.subject? fs = some u) (hkept : u.Kept fs)
    (hnumbers : ∀ x ∈ u.drawing.numbers, ReadsBack x) (houtput : c.target? = none) :
    ∃ s, c.run fs = (.success, s) := by
  have hachieves : Achieves (Quiet (.start fs c.here))
      (layout c.verbose c.file c.output c.afresh) _ := achieves_layout hu hkept hnumbers houtput
  obtain ⟨a, t, hrun, -⟩ := hachieves _ (.refl _)
  rw [run_eq, hrun]
  exact ⟨t, rfl⟩

end LayoutCall

theorem Step.files_genuine (hus : Legible us) (hgenuine : Genuine (Homes us) (Draws us) fs)
    (hsubject : ∀ u, e.subject? fs = some u → u ∈ us)
    (hspares : ∀ u ∈ us, e.Spares u.directory fs) :
    Genuine (Homes us) (Draws us) (e.files fs) := by
  cases e with
  | edit change =>
    apply hgenuine.mono
    rintro _ ⟨u, hu, rfl⟩ name bytes hbytes
    exact hspares u hu name bytes hbytes
  | call c => exact (c.run_genuine hus hgenuine hsubject hspares).1

/-- Every step of a history finds genuine entries if the first one does. -/
theorem trace_genuine (hus : Legible us) (hgenuine : Genuine (Homes us) (Draws us) fs)
    (hsubject : ∀ u ∈ subjects fs steps, u ∈ us)
    (hspares : ∀ p ∈ trace fs steps, ∀ u ∈ us, p.2.Spares u.directory p.1)
    (he : (before, e) ∈ trace fs steps) : Genuine (Homes us) (Draws us) before := by
  induction steps generalizing fs with
  | nil => cases he
  | cons e' steps ih =>
    rw [trace, List.forall_mem_cons] at hspares
    rw [subjects, trace] at hsubject
    rcases List.mem_cons.mp he with hfirst | hlater
    · cases hfirst
      exact hgenuine
    · refine ih (e'.files_genuine hus hgenuine ?_ hspares.1) ?_ hspares.2 hlater
      · intro u hu
        apply hsubject u
        rw [List.filterMap_cons, hu]
        exact .head _
      · intro u hu
        apply hsubject u
        rw [List.filterMap_cons]
        split
        · exact hu
        · exact .tail _ hu

theorem Unspoilt.success (h : Unspoilt fs steps) (hlegible : Legible (subjects fs steps))
    (hc : (before, .call c) ∈ trace fs steps) (hrun : c.run before = (.success, s)) :
    ∃ u, c.subject? before = some u ∧ c.Emits u.text s ∧
      (u.cached → c.afresh = false → u.Kept s.files) := by
  have hvacant : Genuine (Homes (subjects fs steps)) (Draws (subjects fs steps)) fs := by
    rintro _ ⟨u, hu, rfl⟩ name bytes hbytes
    rw [h.vacant u hu name] at hbytes
    cases hbytes
  have hgenuine := trace_genuine hlegible hvacant (fun _ hu ↦ hu) h.spared hc
  refine (c.run_genuine hlegible hgenuine (fun u hu ↦ ?_) (h.spared _ hc)).2 s hrun
  exact List.mem_filterMap.mpr ⟨_, hc, hu⟩

/-- The caches do not show. In a history of edits and runs in which only the runs write to the
caches of their projects, which were empty, every run that succeeds writes the text of the drawing
that the layout makes of its own document and manifest. -/
theorem success_emits_drawing (h : Unspoilt fs steps) (hlegible : Legible (subjects fs steps))
    (hc : (before, .call c) ∈ trace fs steps) (hrun : c.run before = (.success, s)) :
    ∃ u, c.subject? before = some u ∧ c.Emits u.text s := by
  obtain ⟨u, hu, hemits, -⟩ := h.success hlegible hc hrun
  exact ⟨u, hu, hemits⟩

/-- A document is drawn into a file, given a comment and drawn again. The second run finds the
drawing of the first. -/
theorem success_emits_drawing_of_kept :
    let fs : Files := .put .empty ["p", "a"] "#dartwin f \x7b #goal g; \x7d".toUTF8
    let first : LayoutCall :=
      ⟨"", ["p"], ["layout", "a", "-o", "b"], false, "a", some "b", false, by decide⟩
    let edit : Step := .edit (·.put ["p", "a"] "#dartwin f \x7b #goal g; \x7d // drawn".toUTF8)
    let second : LayoutCall := ⟨"", ["p"], ["layout", "a"], false, "a", none, false, by decide⟩
    let steps : List Step := [.call first, edit, .call second]
    let before := edit.files (first.run fs).2.files
    Unspoilt fs steps ∧ Legible (subjects fs steps) ∧ (before, .call second) ∈ trace fs steps ∧
      ∃ u s, second.subject? before = some u ∧
        Layout.Cache.get before u.directory u.graph u.metrics = .ok (.found u.drawing) ∧
        second.run before = (.success, s) ∧ s.output = [u.text] := by
  intro fs first edit second steps before
  have hroot : ∀ u ∈ subjects fs steps, u.root = ["p"] := by decide +kernel
  have hsame : ∀ u ∈ subjects fs steps, ∀ v ∈ subjects fs steps, u = v := by decide +kernel
  have htarget : first.target? = some ["p", "b"] := by decide +kernel
  have hunspoilt : Unspoilt fs steps := by
    constructor
    · intro u hu name
      rw [Subject.directory, hroot u hu, Files.content?_put,
        if_neg (by simp [Layout.Cache.directoryOf])]
      rfl
    · simp only [trace, steps, List.forall_mem_cons]
      refine ⟨fun u hu a ha name ↦ ?_, fun u hu name bytes hbytes ↦ ?_, fun _ _ _ ↦ nofun, nofun⟩
      · cases htarget.symm.trans ha
        simp [Subject.directory, hroot u hu, Layout.Cache.directoryOf]
      · rw [Subject.directory, hroot u hu] at hbytes ⊢
        rwa [Files.content?_put, if_neg (by simp [Layout.Cache.directoryOf])] at hbytes
  have hlegible : Legible (subjects fs steps) := by
    refine ⟨fun u hu v hv hcollide ↦ ?_, by decide +kernel, by decide +kernel⟩
    cases hsame u hu v hv
    exact hcollide.1 rfl
  have hmem : (before, .call second) ∈ trace fs steps := .tail _ (.tail _ (.head _))
  have hsuccess : (first.run fs).1 = .success := by decide +kernel
  obtain ⟨u, hu, -, hkeeps⟩ := hunspoilt.success hlegible (.head _) (Prod.ext hsuccess rfl)
  have hcached : ∀ u ∈ first.subject? fs, u.cached := by decide +kernel
  have hsubject : second.subject? before = first.subject? fs := by decide +kernel
  have huv : u ∈ subjects fs steps := List.mem_filterMap.mpr ⟨(fs, .call first), .head _, hu⟩
  have hkept : u.Kept before := by
    refine (Files.content?_put ..).trans ((if_neg ?_).trans (hkeeps (hcached u hu) rfl))
    simp [Layout.Cache.entry, Subject.directory, hroot u huv, Layout.Cache.directoryOf]
  have hnumbers := hlegible.drawings u huv
  obtain ⟨s, hrun⟩ := LayoutCall.run_kept (hsubject.trans hu) hkept hnumbers (by decide)
  obtain ⟨v, hv, hemits⟩ := success_emits_drawing hunspoilt hlegible hmem hrun
  cases (hsubject.trans hu).symm.trans hv
  exact ⟨hunspoilt, hlegible, hmem, u, s, hv, hkept.get hnumbers, hrun, hemits⟩

end TwinDiagram.Command
