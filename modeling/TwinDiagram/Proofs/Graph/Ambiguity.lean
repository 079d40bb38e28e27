import TwinDiagram.Proofs.Graph.Collapse

namespace TwinDiagram.Graph

variable {es : List Entry} {s : Symbols} {home reference : String}

namespace Symbols

/-- The forms in which a reference to a port is looked up inside a system. -/
def portForms (system reference : String) : List String :=
  let reference := trim reference
  reference :: s!"{system}.{reference}" :: (withoutSystem? system reference).toList

/-- The forms in which a reference to a twin is looked up. -/
def twinForms (reference : String) : List String :=
  let reference := trim reference
  reference :: (withoutSystem? (.ofList (reference.toList.takeWhile (· != '.'))) reference).toList

theorem findSome?_toList {α β : Type} (f : α → Option β) (o : Option α) :
    o.toList.findSome? f = o.bind f := by
  cases o <;> simp

theorem port?_eq_findSome? (s : Symbols) (system reference : String) :
    s.port? system reference = (portForms system reference).findSome? s.ports.ids.get? := by
  rw [port?, portForms, List.findSome?_cons, List.findSome?_cons, findSome?_toList]
  cases s.ports.ids.get? (trim reference) with
  | some => rfl
  | none => cases s.ports.ids.get? s!"{system}.{trim reference}" <;> rfl

theorem twin?_eq_findSome? (s : Symbols) (reference : String) :
    s.twin? reference = (twinForms reference).findSome? s.twins.ids.get? := by
  rw [twin?, twinForms, List.findSome?_cons, findSome?_toList]
  cases s.twins.ids.get? (trim reference) <;> rfl

/-- One of the forms that are looked up is ambiguous. -/
def HasAmbiguousPort (s : Symbols) (system reference : String) : Prop :=
  ∃ form ∈ portForms system reference, form ∈ s.ports.ambiguous

def HasAmbiguousTwin (s : Symbols) (reference : String) : Prop :=
  ∃ form ∈ twinForms reference, form ∈ s.twins.ambiguous

end Symbols

open Symbols

/-- A port of a twin that is named like the system itself. -/
def NamesOwnPort (system reference : String) : Prop :=
  ∃ port, parts reference = [port] ∨ parts reference = [system, port]

def behindSystem? (system : String) : List String → Option (List String)
  | first :: name :: names => if first = system then some (name :: names) else none
  | _ => none

theorem withoutSystem?_trim (hhome : '.' ∉ home.toList) (reference : String) :
    withoutSystem? home (trim reference) = (behindSystem? home (parts reference)).map dotted := by
  have hdot := dotless_parts reference
  have hne := parts_ne_nil reference
  rw [← dotted_parts]
  generalize parts reference = names at hdot hne
  match names, hdot, hne with
  | [name], hdot, _ => exact withoutSystem?_single (hdot name (.head _)) home
  | first :: name :: names, hdot, _ =>
    rw [withoutSystem?_dotted hdot (List.cons_ne_nil _ _) hhome, behindSystem?]
    split <;> rfl

theorem mem_of_behindSystem? {names rest : List String} (h : behindSystem? home names = some rest) :
    names = home :: rest ∧ rest ≠ [] := by
  match names with
  | [] | [_] => cases h
  | first :: name :: names =>
    rw [behindSystem?] at h
    split at h <;> cases h
    next hfirst => exact ⟨hfirst ▸ rfl, List.cons_ne_nil _ _⟩

section Ambiguous

variable {n : Nat} {ds : List Declared} {a : Aliases} {names : List String}

theorem Aliases.Recorded.length_of_shared (h : a.Recorded n ds) (hs : Shared ds names) :
    names.length = n := by
  obtain ⟨d, hd, -, -, rfl, -⟩ := hs
  exact h.length d hd

theorem Aliases.Recorded.dotted_mem_ambiguous_iff (h : a.Recorded n ds)
    (hds : ∀ d ∈ ds, Dotless d.names ∧ d.names ≠ [])
    (ha : ∀ k ∈ a.ambiguous, ∃ d ∈ ds, dotted d.names = k) (hdot : Dotless names)
    (hne : names ≠ []) :
    dotted names ∈ a.ambiguous ↔ Shared ds names := by
  rw [h.mem_ambiguous_iff hds ha]
  constructor
  · intro ⟨names', hsame, hshared⟩
    obtain ⟨d, hd, -, -, rfl, -⟩ := id hshared
    rwa [(dotted_inj (hds d hd).1 hdot (hds d hd).2 hne).mp hsame] at hshared
  · exact fun hshared ↦ ⟨names, rfl, hshared⟩

end Ambiguous

namespace Entered

variable (h : Entered es s) {names : List String}

include h

theorem mem_ambiguous_ports_iff (hdot : Dotless names) (hne : names ≠ []) :
    dotted names ∈ s.ports.ambiguous ↔ Shared (es.filterMap Entry.port?) names :=
  h.recorded.ports.dotted_mem_ambiguous_iff (dotless_ports h.dotless) (ofEntries_listed h.run).ports
    hdot hne

theorem mem_ambiguous_twins_iff (hdot : Dotless names) (hne : names ≠ []) :
    dotted names ∈ s.twins.ambiguous ↔ Shared (es.filterMap Entry.twin?) names :=
  h.recorded.twins.dotted_mem_ambiguous_iff (dotless_twins h.dotless) (ofEntries_listed h.run).twins
    hdot hne

theorem isAmbiguousPort_iff_shared (hhome : '.' ∉ home.toList) :
    s.isAmbiguousPort home reference = true ↔ Shared (es.filterMap Entry.port?)
      ((behindSystem? home (parts reference)).getD (parts reference)) := by
  have hdot := dotless_parts reference
  have hne := parts_ne_nil reference
  rw [isAmbiguousPort, List.contains_iff_mem, withoutSystem?_trim hhome, ← dotted_parts]
  cases hrest : behindSystem? home (parts reference) with
  | none =>
    rw [Option.map_none, Option.getD_none, Option.getD_none]
    exact h.mem_ambiguous_ports_iff hdot hne
  | some rest =>
    obtain ⟨hparts, hrest⟩ := mem_of_behindSystem? hrest
    rw [hparts] at hdot
    rw [Option.map_some, Option.getD_some, Option.getD_some]
    exact h.mem_ambiguous_ports_iff (dotless_cons.mp hdot).2 hrest

theorem hasAmbiguousPort_iff_shared (hhome : '.' ∉ home.toList) :
    s.HasAmbiguousPort home reference ↔ Shared (es.filterMap Entry.port?) (parts reference) ∨
      Shared (es.filterMap Entry.port?) (home :: parts reference) ∨
      ∃ rest ∈ behindSystem? home (parts reference), Shared (es.filterMap Entry.port?) rest := by
  have hdot := dotless_parts reference
  have hne := parts_ne_nil reference
  have hqualified : s!"{home}.{trim reference}" = dotted (home :: parts reference) := by
    rw [dotted_cons hne, dotted_parts]
    rfl
  have hplain := h.mem_ambiguous_ports_iff hdot hne
  have hlong := h.mem_ambiguous_ports_iff (dotless_cons.mpr ⟨hhome, hdot⟩) (List.cons_ne_nil _ _)
  rw [HasAmbiguousPort, portForms, hqualified, withoutSystem?_trim hhome, ← dotted_parts,
    List.exists_mem_cons_iff, List.exists_mem_cons_iff, hplain, hlong]
  apply or_congr_right
  apply or_congr_right
  cases hrest : behindSystem? home (parts reference) with
  | none => simp
  | some rest =>
    obtain ⟨hparts, hrest⟩ := mem_of_behindSystem? hrest
    rw [hparts] at hdot
    simp [h.mem_ambiguous_ports_iff (dotless_cons.mp hdot).2 hrest]

/-- A reference to a port is reported as ambiguous if one of its forms is, except where that form
has the name of the system in front of the port, for a twin of the same name. -/
theorem isAmbiguousPort_iff (hhome : '.' ∉ home.toList) : s.isAmbiguousPort home reference = true ↔
    s.HasAmbiguousPort home reference ∧ ¬ NamesOwnPort home reference := by
  -- Ports have two names within a system.
  have htwo {names : List String} (hs : Shared (es.filterMap Entry.port?) names) :
      names.length = 2 :=
    h.recorded.ports.length_of_shared hs
  rw [h.isAmbiguousPort_iff_shared hhome, h.hasAmbiguousPort_iff_shared hhome, NamesOwnPort]
  have hne := parts_ne_nil reference
  generalize parts reference = names at hne
  match names, hne with
  | [port], _ =>
    show Shared _ [port] ↔ _
    exact iff_of_false (fun hs ↦ absurd (htwo hs) (by simp)) fun hboth ↦ hboth.2 ⟨port, .inl rfl⟩
  | first :: name :: names, _ =>
    have hlong : ¬ Shared (es.filterMap Entry.port?) (home :: first :: name :: names) :=
      fun hs ↦ absurd (htwo hs) (by simp)
    rw [behindSystem?]
    by_cases hfirst : first = home
    · rw [if_pos hfirst, Option.getD_some]
      constructor
      · intro hs
        refine ⟨.inr (.inr ⟨_, rfl, hs⟩), ?_⟩
        rintro ⟨port, hport | hport⟩
        · cases hport
        · cases hport
          exact absurd (htwo hs) (by simp)
      · rintro ⟨hs | hs | ⟨_, ⟨⟩, hs⟩, hother⟩
        · have hlength := htwo hs
          simp only [List.length_cons, Nat.reduceEqDiff, List.length_eq_zero_iff] at hlength
          exact absurd ⟨name, .inr (by rw [hfirst, hlength])⟩ hother
        · exact absurd hs hlong
        · exact hs
    · rw [if_neg hfirst, Option.getD_none]
      constructor
      · intro hs
        refine ⟨.inl hs, ?_⟩
        rintro ⟨port, hport | hport⟩ <;> cases hport
        exact hfirst rfl
      · rintro ⟨hs | hs | ⟨_, ⟨⟩, _⟩, _⟩
        · exact hs
        · exact absurd hs hlong

/-- A reference to a twin is reported as ambiguous if it is so as written, without a dot. -/
theorem isAmbiguousTwin_iff : s.isAmbiguousTwin reference = true ↔
    s.HasAmbiguousTwin reference ∧ ∃ twin, parts reference = [twin] := by
  have hdot := dotless_parts reference
  have hne := parts_ne_nil reference
  have hplain := h.mem_ambiguous_twins_iff hdot hne
  rw [isAmbiguousTwin, HasAmbiguousTwin, twinForms, ← dotted_parts, List.contains_iff_mem,
    List.exists_mem_cons_iff]
  constructor
  · intro hmem
    obtain ⟨twin, htwin⟩ :=
      List.length_eq_one_iff.mp (h.recorded.twins.length_of_shared (hplain.mp hmem))
    exact ⟨.inl hmem, twin, htwin⟩
  · rintro ⟨hmem | ⟨form, hform, hmem⟩, twin, htwin⟩
    · exact hmem
    · rw [Option.mem_toList, htwin, dotted_singleton, withoutSystem?_single] at hform
      · cases hform
      · exact hdot twin (htwin ▸ .head _)

end Entered

namespace Link

variable {l : Link} {f : Finding}

/-- What is not resolved has a finding. -/
theorem exists_misses (h : ¬ l.Resolved s) : ∃ f, l.Misses s f := by
  cases l with
  | connection home c =>
    cases hsource : s.port? home c.source with
    | none => exact ⟨_, .source hsource⟩
    | some =>
      cases htarget : s.port? home c.target with
      | none => exact ⟨_, .target (by rw [hsource]; rfl) htarget⟩
      | some => exact absurd ⟨by rw [hsource]; rfl, by rw [htarget]; rfl⟩ h
  | allocation a =>
    cases hgoal : s.goals.get? a.goal with
    | none => exact ⟨_, .goal hgoal⟩
    | some =>
      cases htwin : s.twin? a.target with
      | none => exact ⟨_, .twin (by rw [hgoal]; rfl) htwin⟩
      | some => exact absurd ⟨by rw [hgoal]; rfl, by rw [htwin]; rfl⟩ h

end Link

theorem Accounts.mem_findings {m : Model} {vs : List Visit} {os : List Outcome}
    {g : Graph} {d : Draft} (h : Accounts m vs os g d) {l : Link} (hl : l ∈ links m vs)
    {f : Finding} (hf : l.Misses d.symbols f) :
    f ∈ d.findings := by
  obtain ⟨c, hc, hdemands⟩ := h.become.exists_demand hl
  cases hdemands with
  | edge hmeets => exact absurd hf hmeets.not_misses
  | finding hmisses =>
    obtain ⟨o, ho, heq⟩ := List.mem_map.mp hc
    rw [h.findings, hf.unique hmisses]
    apply List.mem_append_right
    cases o <;> cases heq
    exact List.mem_filterMap.mpr ⟨_, ho, rfl⟩

section Codes

variable (h : Entered es s)

include h

theorem code_lostConnection (c : Connection) (reference : String) (hhome : '.' ∉ home.toList) :
    let f := Finding.lostConnection c reference (s.isAmbiguousPort home reference)
    (s.HasAmbiguousPort home reference ∧ ¬ NamesOwnPort home reference →
      f.code = .ambiguousReference) ∧
      (¬ (s.HasAmbiguousPort home reference ∧ ¬ NamesOwnPort home reference) →
        f.code = .unresolvedConnection) := by
  rw [← h.isAmbiguousPort_iff hhome]
  constructor <;> intro hambiguous <;> simp [Finding.code, hambiguous]

theorem code_lostAllocation (a : Allocation) (reference : String) :
    let f := Finding.lostAllocation a reference (s.isAmbiguousTwin reference)
    (s.HasAmbiguousTwin reference ∧ (∃ twin, parts reference = [twin]) →
      f.code = .ambiguousReference) ∧
      (¬ (s.HasAmbiguousTwin reference ∧ ∃ twin, parts reference = [twin]) →
        f.code = .unresolvedAllocation) := by
  rw [← h.isAmbiguousTwin_iff]
  constructor <;> intro hambiguous <;> simp [Finding.code, hambiguous]

end Codes

/-- Whatever the text, a connection or an allocation that is lost is told of, with the reference
that none of its forms leads anywhere. The report says ambiguous if one of these forms is: for a
port, unless the form names a port of a twin that is named like the system; for a twin, if the
reference has no dot. It says unresolved in all other cases. -/
theorem lost_told_ambiguous_iff (text : String) :
    ∃ m s g d vs os, Parser.readText text = (.ok m, s) ∧ ofModel m = (.ok g, d) ∧
      Accounts m vs os g d ∧
      (∀ home c, .connection home c ∈ links m vs → ¬ (Link.connection home c).Resolved d.symbols →
        ∃ f ∈ d.findings, (Link.connection home c).Misses d.symbols f ∧
          (∀ form ∈ portForms home f.reference, d.symbols.ports.ids.get? form = none) ∧
          (d.symbols.HasAmbiguousPort home f.reference ∧ ¬ NamesOwnPort home f.reference →
            f.code = .ambiguousReference) ∧
          (¬ (d.symbols.HasAmbiguousPort home f.reference ∧ ¬ NamesOwnPort home f.reference) →
            f.code = .unresolvedConnection)) ∧
      ∀ a, .allocation a ∈ links m vs → ¬ (Link.allocation a).Resolved d.symbols →
        ∃ f ∈ d.findings, (Link.allocation a).Misses d.symbols f ∧
          (d.symbols.goals.get? a.goal = none → f.code = .unresolvedAllocation) ∧
          ((d.symbols.goals.get? a.goal).isSome → f.reference = a.target ∧
            (∀ form ∈ twinForms a.target, d.symbols.twins.ids.get? form = none) ∧
            (d.symbols.HasAmbiguousTwin a.target ∧ (∃ twin, parts a.target = [twin]) →
              f.code = .ambiguousReference) ∧
            (¬ (d.symbols.HasAmbiguousTwin a.target ∧ ∃ twin, parts a.target = [twin]) →
              f.code = .unresolvedAllocation)) := by
  obtain ⟨m, s, hread, hm⟩ := Parser.readText_ok text
  obtain ⟨g, d, hgraph, -⟩ := ofModel_ok hm
  obtain ⟨vs, os, h⟩ := ofModel_accounts hgraph
  have hentered := h.entered hm
  have hlinks := h.links_labelled hm (Parser.readText_labelled hread)
  refine ⟨m, s, g, d, vs, os, hread, hgraph, h, fun home c hc hlost ↦ ?_, fun a ha hlost ↦ ?_⟩
  · obtain ⟨f, hf⟩ := Link.exists_misses hlost
    refine ⟨f, h.mem_findings hc hf, hf, ?_⟩
    have hhome : '.' ∉ home.toList := (hlinks _ hc).homed
    cases hf with
    | source hnone | target _ hnone =>
      rw [port?_eq_findSome?, List.findSome?_eq_none_iff] at hnone
      exact ⟨hnone, code_lostConnection hentered c _ hhome⟩
  · obtain ⟨f, hf⟩ := Link.exists_misses hlost
    refine ⟨f, h.mem_findings ha hf, hf, ?_⟩
    cases hf with
    | goal hgoal =>
      refine ⟨fun _ ↦ rfl, fun hsome ↦ ?_⟩
      rw [hgoal] at hsome
      cases hsome
    | twin hgoal hnone =>
      rw [twin?_eq_findSome?, List.findSome?_eq_none_iff] at hnone
      refine ⟨fun hunknown ↦ ?_, fun _ ↦ ⟨rfl, hnone, code_lostAllocation hentered a _⟩⟩
      rw [hunknown] at hgoal
      cases hgoal

/-- Two systems have the twin `T` with the port `b`. Inside a third system that is named `T` too,
neither the port nor the twin is reported as ambiguous. -/
theorem ambiguous_references_told_unresolved :
    let text := "#dartwin F \x7b #twinsystem A \x7b #digitaltwin T \x7b port b; \x7d \x7d " ++
      "#twinsystem B \x7b #digitaltwin T \x7b port b; \x7d \x7d " ++
      "#twinsystem T \x7b connect b to T.b; \x7d #goal g; allocate g to T.T; \x7d"
    ∃ m s g d, Parser.readText text = (.ok m, s) ∧ ofModel m = (.ok g, d) ∧
      d.findings.map (fun f ↦ (f.code, f.reference)) =
        [(.unresolvedConnection, "b"), (.unresolvedAllocation, "T.T")] ∧
      d.symbols.HasAmbiguousPort "T" "b" ∧ d.symbols.HasAmbiguousTwin "T.T" := by
  intro text
  have hvalues : ((Parser.readText text).1.toOption.map fun m ↦
      ((ofModel m).2.findings.map (fun f ↦ (f.code, f.reference)),
        (ofModel m).2.symbols.ports.ambiguous, (ofModel m).2.symbols.twins.ambiguous)) =
      some ([(.unresolvedConnection, "b"), (.unresolvedAllocation, "T.T")], ["T.b"], ["T"]) := by
    decide +kernel
  obtain ⟨m, s, hread, hm⟩ := Parser.readText_ok text
  obtain ⟨g, d, hgraph, -⟩ := ofModel_ok hm
  rw [hread] at hvalues
  simp only [Except.toOption, Option.map_some, hgraph, Option.some.injEq, Prod.mk.injEq] at hvalues
  obtain ⟨hfindings, hports, htwins⟩ := hvalues
  refine ⟨m, s, g, d, hread, hgraph, hfindings, ⟨"T.b", by decide +kernel, ?_⟩,
    ⟨"T", by decide +kernel, ?_⟩⟩
  · rw [hports]
    exact .head _
  · rw [htwins]
    exact .head _

end TwinDiagram.Graph
