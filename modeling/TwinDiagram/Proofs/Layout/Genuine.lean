import TwinDiagram.Layout.Drawing
import TwinDiagram.Proofs.Layout.History

namespace TwinDiagram.Layout

open Json (ReadsBack)

namespace Metrics

def numbers {α : Type} (m : Metrics α) : List α := lengths.map fun f ↦ f.2.1 m

theorem written_inj {m m' : Metrics Float} (hm : ∀ x ∈ m.numbers, ReadsBack x)
    (hm' : ∀ x ∈ m'.numbers, ReadsBack x) (h : m.written = m'.written) : m = m' := by
  have hnumber {x y : Float} (hx : ReadsBack x) (hy : ReadsBack y)
      (hxy : Decimal.write Json.decimals x = Decimal.write Json.decimals y) : x = y := by
    rw [ReadsBack, hxy, hy] at hx
    simpa using hx.symm
  cases m
  cases m'
  simp only [numbers, lengths, List.map_cons, List.map_nil, List.forall_mem_cons] at hm hm'
  simp only [written, map, mk.injEq] at h ⊢
  grind

end Metrics

namespace Cache

def Genuine (directories : Address → Prop) (drawn : Graph → Metrics Float → Prop)
    (fs : Files) : Prop :=
  ∀ directory, directories directory → ∀ name bytes,
    fs.content? (directory ++ [name]) = some bytes →
      ∃ g m, drawn g m ∧ name = key g m ++ suffix ∧ bytes = (entryText (draw m g)).toUTF8

def Alike (directories : Address → Prop) (fs fs' : Files) : Prop :=
  ∀ directory, directories directory → ∀ name,
    fs'.content? (directory ++ [name]) = fs.content? (directory ++ [name])

/-- What is drawn has key texts of different digests, and numbers that are read back. -/
structure Distinct (drawn : Graph → Metrics Float → Prop) : Prop where
  digests : ∀ {g m g' m'}, drawn g m → drawn g' m' →
    ¬ Collide (keyText engineVersion g m) (keyText engineVersion g' m')
  metrics : ∀ {g m}, drawn g m → ∀ x ∈ m.numbers, ReadsBack x
  drawings : ∀ {g m}, drawn g m → ∀ x ∈ (draw m g).numbers, ReadsBack x

variable {directories : Address → Prop} {drawn : Graph → Metrics Float → Prop} {fs fs' : Files}
  {directory a : Address} {g g' : Graph} {m m' : Metrics Float}

theorem Distinct.eq_of_key (h : Distinct drawn) (hd : drawn g m) (hd' : drawn g' m')
    (hkey : key g m = key g' m') : g = g' ∧ m = m' := by
  have htext : keyText engineVersion g m = keyText engineVersion g' m' :=
    Classical.byContradiction fun hne ↦ h.digests hd hd' ⟨hne, hkey⟩
  obtain ⟨-, hsubject⟩ := keyText_eq_iff.mp htext
  obtain ⟨rfl, hwritten⟩ := Prod.mk.inj hsubject
  exact ⟨rfl, Metrics.written_inj (h.metrics hd) (h.metrics hd') hwritten⟩

theorem holds_of_set {d : Drawing Float} (h : Cache.set fs directory g d m = .ok fs') :
    Holds fs' directory g m (some d) := by
  rw [Cache.set] at h
  rw [Holds, Files.write_ok h, Files.content?_put, if_pos rfl]
  rfl

theorem Holds.make {d : Drawing Float} (h : Holds fs directory g m (some d)) :
    Cache.make fs directory = .ok fs := by
  have hpresent := Files.isDirectory_dropLast h
  rw [entry, List.dropLast_concat] at hpresent
  rw [Cache.make, Files.makeDirectory, if_pos hpresent]

namespace Genuine

theorem mono (h : Genuine directories drawn fs)
    (hfs : ∀ directory, directories directory → ∀ name bytes,
      fs'.content? (directory ++ [name]) = some bytes →
        fs.content? (directory ++ [name]) = some bytes) :
    Genuine directories drawn fs' :=
  fun directory hdirectory name bytes hbytes ↦
    h directory hdirectory name bytes (hfs directory hdirectory name bytes hbytes)

theorem alike (h : Genuine directories drawn fs) (hfs : Alike directories fs fs') :
    Genuine directories drawn fs' :=
  h.mono fun directory hdirectory name _ hbytes ↦ (hfs directory hdirectory name).symm.trans hbytes

theorem make (h : Genuine directories drawn fs) (hmake : Cache.make fs directory = .ok fs') :
    Genuine directories drawn fs' :=
  h.alike fun _ _ _ ↦ Files.content?_makeDirectory hmake _

theorem set (h : Genuine directories drawn fs) (hd : drawn g m)
    (hset : Cache.set fs directory g (draw m g) m = .ok fs') : Genuine directories drawn fs' := by
  intro directory' hdirectory' name bytes hbytes
  rw [Cache.set] at hset
  rw [Files.write_ok hset, Files.content?_put] at hbytes
  split at hbytes
  · next heq =>
    rw [entry] at heq
    have hlength : [name].length = [key g m ++ suffix].length := by
      rw [List.length_singleton, List.length_singleton]
    obtain ⟨-, hname⟩ := List.append_inj' heq hlength
    exact ⟨g, m, hd, List.singleton_inj.mp hname, (Option.some.inj hbytes).symm⟩
  · exact h directory' hdirectory' name bytes hbytes

/-- Where a drawing is found, it is the one that the layout would make, and it is kept there. -/
theorem get (h : Genuine directories drawn fs) (hdistinct : Distinct drawn)
    (hdirectory : directories directory) (hd : drawn g m) :
    ∃ found, Cache.get fs directory g m = .ok found ∧
      ∀ d, found.drawing? = some d → d = draw m g ∧ Holds fs directory g m (some d) := by
  cases hentry : fs.content? (entry directory g m) with
  | none =>
    rw [Cache.get]
    simp only [hentry]
    refine ⟨_, rfl, fun d hd ↦ ?_⟩
    split at hd <;> cases hd
  | some bytes =>
    obtain ⟨g', m', hd', hname, rfl⟩ := h directory hdirectory (key g m ++ suffix) bytes hentry
    have hkey : key g m = key g' m' := (String.append_left_inj suffix).mp hname
    obtain ⟨rfl, rfl⟩ := hdistinct.eq_of_key hd hd' hkey
    have hholds : Holds fs directory g m (some (draw m g)) := hentry
    refine ⟨_, hholds.get (hdistinct.drawings hd), fun d hd ↦ ?_⟩
    cases hd
    exact ⟨rfl, hholds⟩

end Genuine

end Cache

end TwinDiagram.Layout
