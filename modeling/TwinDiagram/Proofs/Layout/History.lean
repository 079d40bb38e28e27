import TwinDiagram.Proofs.File.Store
import TwinDiagram.Proofs.Layout.Entry
import TwinDiagram.Proofs.Layout.Key
import Mathlib.Data.List.Induction

namespace TwinDiagram.Layout.Cache

open Json (ReadsBack)

/-- What is asked of the kept drawings. -/
inductive Call where
  | set (g : Graph) (d : Drawing Float) (m : Metrics Float)
  | get (g : Graph) (m : Metrics Float)
  | invalidate (g : Graph) (m : Metrics Float)
  | clear

namespace Call

/-- The files after a call. -/
def run (directory : Address) (fs : Files) : Call → Except AccessFault Files
  | set g d m => Cache.set fs directory g d m
  | get _ _ => .ok fs
  | invalidate g m => .ok (Cache.invalidate fs directory g m)
  | clear => .ok (Cache.clear fs directory)

def keyText? : Call → Option String
  | set g _ m => some (keyText engineVersion g m)
  | get g m => some (keyText engineVersion g m)
  | invalidate g m => some (keyText engineVersion g m)
  | clear => none

/-- The drawing that is stored. -/
def drawing? : Call → Option (Drawing Float)
  | set _ d _ => some d
  | _ => none

/-- What is kept for `k` after the call does not depend on what was kept before. -/
def touches (k : Graph × Metrics String) : Call → Bool
  | set g _ m => decide (subject g m = k)
  | get _ _ => false
  | invalidate g m => decide (subject g m = k)
  | clear => true

end Call

/-- What was stored by the last call that touches `k`. -/
def kept (calls : List Call) (k : Graph × Metrics String) : Option (Drawing Float) :=
  (calls.reverse.find? (·.touches k)).bind Call.drawing?

/-- A call stored `d` for `k`, and no later one stored something else, or dropped it. -/
def Stored (calls : List Call) (k : Graph × Metrics String) (d : Drawing Float) : Prop :=
  ∃ before g m later, calls = before ++ .set g d m :: later ∧ subject g m = k ∧
    ∀ c ∈ later, c.touches k = false

/-- Different texts with the same digest. -/
def Collide (s t : String) : Prop :=
  s ≠ t ∧ Sha256.hexDigest s.toUTF8.toList = Sha256.hexDigest t.toUTF8.toList

section Kept

variable {calls : List Call} {k : Graph × Metrics String} {d : Drawing Float}

theorem kept_append (calls : List Call) (c : Call) (k : Graph × Metrics String) :
    kept (calls ++ [c]) k = if c.touches k then c.drawing? else kept calls k := by
  rw [kept, List.reverse_append, List.reverse_singleton, List.singleton_append, List.find?_cons]
  split
  · next h => rw [h, if_pos rfl, Option.bind_some]
  · next h => rw [h, if_neg Bool.false_ne_true, kept]

theorem kept_eq_some_iff : kept calls k = some d ↔ Stored calls k d := by
  simp only [kept, Option.bind_eq_some_iff, List.find?_eq_some_iff_append]
  constructor
  · rintro ⟨c, ⟨hc, later, before, hcalls, hlater⟩, hd⟩
    cases c with
    | set g d' m =>
      cases hd
      refine ⟨before.reverse, g, m, later.reverse, ?_, of_decide_eq_true hc, fun c hc ↦ ?_⟩
      · rw [← List.reverse_reverse calls, hcalls]
        simp
      · simpa using hlater c (List.mem_reverse.mp hc)
    | _ => cases hd
  · rintro ⟨before, g, m, later, rfl, hk, hlater⟩
    refine ⟨.set g d m, ⟨decide_eq_true hk, later.reverse, before.reverse, by simp, fun c hc ↦ ?_⟩,
      rfl⟩
    simpa using hlater c (List.mem_reverse.mp hc)

theorem mem_of_kept (h : kept calls k = some d) : d ∈ calls.filterMap Call.drawing? := by
  obtain ⟨before, g, m, later, rfl, -, -⟩ := kept_eq_some_iff.mp h
  simp [Call.drawing?]

end Kept

structure Ready (fs : Files) (directory : Address) : Prop where
  present : fs.isDirectory directory
  flat : ∀ name, fs.isDirectory (directory ++ [name]) = false

/-- Nothing is in the directory, whether that itself is there or not. -/
def Vacant (fs : Files) (directory : Address) : Prop :=
  ∀ name, fs.content? (directory ++ [name]) = none ∧ fs.isDirectory (directory ++ [name]) = false

def Holds (fs : Files) (directory : Address) (g : Graph) (m : Metrics Float)
    (o : Option (Drawing Float)) : Prop :=
  fs.content? (entry directory g m) = o.map fun d ↦ (entryText d).toUTF8

variable {fs fs' : Files} {directory : Address} {g g' : Graph} {m m' : Metrics Float}

theorem not_prefix (directory : Address) (name : String) : ¬ directory ++ [name] <+: directory := by
  intro h
  have hle := h.length_le
  rw [List.length_append, List.length_singleton] at hle
  omega

namespace Ready

theorem put (h : Ready fs directory) (name : String) (bytes : ByteArray) :
    Ready (fs.put (directory ++ [name]) bytes) directory where
  present := (Files.isDirectory_put ..).mpr (.inl h.present)
  flat other := by
    rw [Bool.eq_false_iff, ne_eq, Files.isDirectory_put, h.flat other, List.dropLast_concat]
    simpa using not_prefix directory other

theorem remove (h : Ready fs directory) (gone : Address → Bool) :
    Ready (fs.remove gone) directory where
  present := (Files.isDirectory_remove ..).mpr h.present
  flat other := by
    rw [Bool.eq_false_iff, ne_eq, Files.isDirectory_remove, h.flat other]
    exact Bool.false_ne_true

/-- The directory of the entries is there once it is made. -/
theorem of_make (hmake : make fs directory = .ok fs') (h : Vacant fs directory) :
    Ready fs' directory ∧ ∀ name, fs'.content? (directory ++ [name]) = none := by
  rw [make, Files.makeDirectory] at hmake
  split at hmake
  · next hpresent =>
    cases hmake
    exact ⟨⟨hpresent, fun name ↦ (h name).2⟩, fun name ↦ (h name).1⟩
  · split at hmake
    · cases hmake
    · split at hmake
      · cases hmake
      · cases hmake
        refine ⟨⟨?_, fun name ↦ ?_⟩, fun name ↦ (h name).1⟩
        · exact Files.isDirectory_iff.mpr (.inr (.inl ⟨directory, by simp, List.prefix_rfl⟩))
        · have hflat := (h name).2
          rw [Bool.eq_false_iff, ne_eq, Files.isDirectory_iff] at hflat ⊢
          rintro (hnil | ⟨d, hd, hle⟩ | hfile)
          · exact hflat (.inl hnil)
          · rcases List.mem_append.mp hd with hd | hd
            · exact hflat (.inr (.inl ⟨d, hd, hle⟩))
            · rw [List.mem_singleton.mp hd] at hle
              exact not_prefix directory name hle
          · exact hflat (.inr (.inr hfile))

end Ready

theorem entry_eq_iff (directory : Address)
    (hcollide : ¬ Collide (keyText engineVersion g' m') (keyText engineVersion g m)) :
    entry directory g m = entry directory g' m' ↔ subject g' m' = subject g m := by
  have hkey : key g m = key g' m' ↔ keyText engineVersion g' m' = keyText engineVersion g m := by
    constructor
    · intro h
      by_contra hne
      exact hcollide ⟨hne, h.symm⟩
    · intro h
      rw [key, key, h]
  have htext : keyText engineVersion g' m' = keyText engineVersion g m ↔
      subject g' m' = subject g m :=
    keyText_eq_iff.trans (and_iff_right rfl)
  rw [← htext, ← hkey, entry, entry, List.append_cancel_left_eq, List.singleton_inj,
    String.append_left_inj]

theorem isEntry_entry (directory : Address) (g : Graph) (m : Metrics Float) :
    isEntry directory (entry directory g m) = true := by
  have hsuffix : suffix.toList.isSuffixOf (key g m ++ suffix).toList := by
    rw [String.toList_append, List.isSuffixOf_iff_suffix]
    exact List.suffix_append _ _
  rw [isEntry, entry, List.getLast?_concat, List.dropLast_concat]
  dsimp only
  rw [hsuffix, beq_self_eq_true, Bool.and_true]

/-- What a call does to one entry. -/
theorem Call.run_eq (h : Ready fs directory) (c : Call) :
    ∃ fs', c.run directory fs = .ok fs' ∧ Ready fs' directory ∧ ∀ g m o,
      (∀ t ∈ c.keyText?, ¬ Collide t (keyText engineVersion g m)) → Holds fs directory g m o →
        Holds fs' directory g m (if c.touches (subject g m) then c.drawing? else o) := by
  cases c with
  | set g' d m' =>
    refine ⟨fs.put (entry directory g' m') (entryText d).toUTF8, ?_, h.put _ _, ?_⟩
    · have hflat : fs.isDirectory (entry directory g' m') = false := h.flat _
      rw [run, Cache.set, Files.write, hflat, if_neg Bool.false_ne_true, entry,
        List.dropLast_concat, if_pos h.present]
    · intro g m o hcollide ho
      have heq := entry_eq_iff directory (hcollide _ rfl)
      rw [Holds, Files.content?_put, touches]
      simp only [heq, decide_eq_true_eq]
      split
      · rfl
      · exact ho
  | get g' m' => exact ⟨fs, rfl, h, fun g m o _ ho ↦ ho⟩
  | invalidate g' m' =>
    refine ⟨_, rfl, h.remove _, ?_⟩
    intro g m o hcollide ho
    have heq := entry_eq_iff directory (hcollide _ rfl)
    rw [Holds, Cache.invalidate, Files.content?_remove, touches]
    simp only [beq_iff_eq, heq, decide_eq_true_eq]
    split
    · rfl
    · exact ho
  | clear =>
    refine ⟨_, rfl, h.remove _, ?_⟩
    intro g m o _ ho
    rw [Holds, Cache.clear, Files.content?_remove, isEntry_entry]
    rfl

/-- After any calls, every entry holds what is kept. -/
theorem run_eq (h : Ready fs directory) (hempty : ∀ name, fs.content? (directory ++ [name]) = none)
    (calls : List Call) : ∃ fs', calls.foldlM (Call.run directory) fs = .ok fs' ∧
      Ready fs' directory ∧ ∀ g m,
        (∀ t ∈ calls.filterMap Call.keyText?, ¬ Collide t (keyText engineVersion g m)) →
          Holds fs' directory g m (kept calls (subject g m)) := by
  induction calls using List.reverseRecOn with
  | nil => exact ⟨fs, rfl, h, fun g m _ ↦ hempty _⟩
  | append_singleton calls c ih =>
    obtain ⟨fs₁, hrun, hready, hholds⟩ := ih
    obtain ⟨fs₂, hstep, hready, hentry⟩ := c.run_eq hready
    refine ⟨fs₂, ?_, hready, fun g m hcollide ↦ ?_⟩
    · rw [List.foldlM_append, hrun]
      exact congrArg (· >>= pure) hstep
    · rw [List.filterMap_append, List.forall_mem_append] at hcollide
      rw [kept_append]
      have hlast : ∀ t ∈ c.keyText?, ¬ Collide t (keyText engineVersion g m) := fun t ht ↦
        hcollide.2 t (List.mem_filterMap.mpr ⟨c, List.mem_singleton_self c, ht⟩)
      exact hentry g m _ hlast (hholds g m hcollide.1)

theorem Holds.get {d : Drawing Float} (h : Holds fs directory g m (some d))
    (hd : ∀ x ∈ d.numbers, ReadsBack x) : Cache.get fs directory g m = .ok (.found d) := by
  rw [Holds] at h
  rw [Cache.get]
  simp only [h, Option.map_some, readEntry_entryText hd]
  rfl

def Lookup.ofKept : Option (Drawing Float) → Lookup
  | some d => .found d
  | none => .absent

theorem get_eq (h : Ready fs directory) {o : Option (Drawing Float)} (ho : Holds fs directory g m o)
    (hnumbers : ∀ d ∈ o, ∀ x ∈ d.numbers, ReadsBack x) :
    get fs directory g m = .ok (.ofKept o) := by
  cases o with
  | none =>
    rw [Holds] at ho
    have hflat : fs.isDirectory (entry directory g m) = false := h.flat _
    rw [get]
    simp only [ho, Option.map_none, hflat]
    rfl
  | some d => exact ho.get (hnumbers d rfl)

/-- The kept drawings are a map. The key text tells the version, the graph and the metrics; an entry
is read back as the drawing that was stored; and after any calls on a directory that was empty, the
drawing found for a graph and metrics is the one that was last stored for them, if it is still kept.
Digests of different texts are taken to differ, and numbers to be read back from their text. -/
theorem faithful_map :
    (∀ version version' g g' m m', keyText version g m = keyText version' g' m' ↔
      version = version' ∧ g = g' ∧ m.written = m'.written) ∧
    (∀ d : Drawing Float, (∀ x ∈ d.numbers, ReadsBack x) →
      readEntry (entryText d).toUTF8 = .ok (some d)) ∧
    ∀ fs₀ fs directory calls, Vacant fs₀ directory → make fs₀ directory = .ok fs →
      (∀ d ∈ calls.filterMap Call.drawing?, ∀ x ∈ d.numbers, ReadsBack x) →
      ∃ fs', calls.foldlM (Call.run directory) fs = .ok fs' ∧ ∀ g m,
        (∀ t ∈ calls.filterMap Call.keyText?, ¬ Collide t (keyText engineVersion g m)) →
          (∀ d, get fs' directory g m = .ok (.found d) ↔ Stored calls (subject g m) d) ∧
          ((∀ d, ¬ Stored calls (subject g m) d) → get fs' directory g m = .ok .absent) := by
  refine ⟨fun version version' g g' m m' ↦ ?_, fun d hd ↦ readEntry_entryText hd, ?_⟩
  · rw [keyText_eq_iff, subject, subject, Prod.mk.injEq]
  · intro fs₀ fs directory calls hvacant hmake hnumbers
    obtain ⟨hready, hempty⟩ := Ready.of_make hmake hvacant
    obtain ⟨fs', hrun, hready', hholds⟩ := run_eq hready hempty calls
    refine ⟨fs', hrun, fun g m hcollide ↦ ?_⟩
    have hget := get_eq hready' (hholds g m hcollide) fun d hd ↦ hnumbers d (mem_of_kept hd)
    simp only [← kept_eq_some_iff]
    rw [hget]
    cases kept calls (subject g m) with
    | none => simp [Lookup.ofKept]
    | some d => simp [Lookup.ofKept]

/-- A drawing that was dropped with all others and stored again is found. -/
theorem faithful_map_of_stored_again :
    let g : Graph := ⟨[⟨"dw::f", "f", .root⟩], []⟩
    let d : Drawing Float := ⟨[⟨g.nodes[0], ⟨0.0, 0.0⟩, ⟨0.0, 0.0⟩, .absolute, some ⟨1.5, 0.0⟩, "f",
      none, none⟩], [], 1.5, 0.0⟩
    let calls : List Call := [.set g d .standard, .clear, .set g d .standard, .get g .standard]
    ∃ fs fs', make .empty ["layouts"] = .ok fs ∧ calls.foldlM (Call.run ["layouts"]) fs = .ok fs' ∧
      get fs' ["layouts"] g .standard = .ok (.found d) ∧
      readEntry (entryText d).toUTF8 = .ok (some d) := by
  intro g d calls
  have hzero : ReadsBack 0.0 := by
    have hwrite : Decimal.write Json.decimals 0.0 = "0.0" := by decide +kernel
    rw [ReadsBack, hwrite]
    rfl
  have hhalf : ReadsBack 1.5 := by
    have hwrite : Decimal.write Json.decimals 1.5 = "1.5" := by decide +kernel
    rw [ReadsBack, hwrite]
    rfl
  have hnumbers : ∀ x ∈ d.numbers, ReadsBack x := by
    simp [d, Drawing.numbers, PlacedNode.numbers, Point.numbers, Size.numbers, hzero, hhalf]
  have hdrawings : ∀ d' ∈ calls.filterMap Call.drawing?, ∀ x ∈ d'.numbers, ReadsBack x := by
    simpa [calls, Call.drawing?] using hnumbers
  have hcollide : ∀ t ∈ calls.filterMap Call.keyText?,
      ¬ Collide t (keyText engineVersion g .standard) := by
    simp [calls, Call.keyText?, Collide]
  have hvacant : Vacant .empty ["layouts"] := fun name ↦ ⟨rfl, rfl⟩
  obtain ⟨-, hread, hmap⟩ := faithful_map
  obtain ⟨fs', hrun, hget⟩ := hmap .empty _ ["layouts"] calls hvacant rfl hdrawings
  obtain ⟨hfound, -⟩ := hget g .standard hcollide
  have hstored : Stored calls (subject g .standard) d :=
    ⟨[.set g d .standard, .clear], g, .standard, [.get g .standard], rfl, rfl,
      by simp [Call.touches]⟩
  exact ⟨_, fs', rfl, hrun, (hfound d).mpr hstored, hread d hnumbers⟩

end TwinDiagram.Layout.Cache
