import TwinDiagram.File.Store
import TwinDiagram.Proofs.Table
import Mathlib.Data.List.Basic

namespace TwinDiagram.Files

variable {fs : Files} {a b : Address}

theorem isFile_iff : fs.isFile a ↔ a ∈ fs.files.map Prod.fst := by
  rw [isFile, content?]
  exact Table.lookup_isSome_iff

theorem content?_put (fs : Files) (a b : Address) (bytes : ByteArray) :
    (fs.put a bytes).content? b = if b = a then some bytes else fs.content? b := by
  unfold put
  split
  · next h =>
    obtain ⟨old, hold⟩ := Option.isSome_iff_exists.mp h
    simp only [content?, Table.lookup_replace]
    by_cases hb : b = a
    · rw [hb, show fs.files.lookup a = some old from hold]
      simp
    · simp [hb]
  · next h =>
    have hnone : fs.files.lookup a = none := Option.not_isSome_iff_eq_none.mp h
    simp only [content?, List.lookup_append]
    by_cases hb : b = a
    · rw [hb, hnone]
      simp
    · rw [List.lookup_cons, beq_eq_false_iff_ne.mpr hb]
      simp [hb]

theorem content?_remove (fs : Files) (gone : Address → Bool) (a : Address) :
    (fs.remove gone).content? a = if gone a then none else fs.content? a := by
  simp only [remove, content?, List.partition_eq_filter_filter]
  induction fs.files with
  | nil => simp
  | cons f files ih =>
    obtain ⟨b, bytes⟩ := f
    rw [List.filter_cons]
    by_cases hb : a = b
    · subst hb
      cases hgone : gone a with
      | true => simpa [hgone] using ih
      | false => simp [hgone]
    · have hne := beq_eq_false_iff_ne.mpr hb
      rw [List.lookup_cons, hne, ← ih]
      cases hgone : gone b with
      | true => simp [hgone]
      | false => simp [hgone, List.lookup_cons, hne]

theorem isDirectory_iff : fs.isDirectory a ↔
    a = [] ∨ (∃ d ∈ fs.directories, a <+: d) ∨ ∃ f ∈ fs.files, a <+: f.1.dropLast := by
  simp [isDirectory, List.any_eq_true, or_assoc]

theorem isDirectory_put (fs : Files) (a b : Address) (bytes : ByteArray) :
    (fs.put a bytes).isDirectory b ↔ fs.isDirectory b ∨ b <+: a.dropLast := by
  rw [isDirectory_iff, isDirectory_iff, or_assoc, or_assoc]
  refine or_congr_right ?_
  unfold put
  split
  · next h =>
    -- The file was there, and with it the directories above it.
    have hfiles : (∃ f ∈ fs.files, b <+: f.1.dropLast) ↔
        (∃ f ∈ fs.files, b <+: f.1.dropLast) ∨ b <+: a.dropLast := by
      obtain ⟨f, hf, rfl⟩ := List.mem_map.mp (isFile_iff.mp h)
      exact ⟨.inl, fun h ↦ h.elim id fun h ↦ ⟨f, hf, h⟩⟩
    refine or_congr_right (Iff.trans ?_ hfiles)
    simp only [List.mem_map, exists_exists_and_eq_and]
    refine exists_congr fun f ↦ and_congr_right' ?_
    split
    · next hf => rw [eq_of_beq hf]
    · rfl
  · simp [or_and_right, exists_or]

theorem isDirectory_dropLast {bytes : ByteArray} (h : fs.content? a = some bytes) :
    fs.isDirectory a.dropLast := by
  have hfile : fs.isFile a := by rw [isFile, h, Option.isSome_some]
  obtain ⟨f, hf, rfl⟩ := List.mem_map.mp (isFile_iff.mp hfile)
  exact isDirectory_iff.mpr (.inr (.inr ⟨f, hf, List.prefix_rfl⟩))

/-- Directories stay when their files go. -/
theorem isDirectory_remove (fs : Files) (gone : Address → Bool) (a : Address) :
    (fs.remove gone).isDirectory a ↔ fs.isDirectory a := by
  rw [isDirectory_iff, isDirectory_iff]
  refine or_congr_right ?_
  simp only [remove, List.partition_eq_filter_filter, List.mem_append, List.mem_map,
    List.mem_filter]
  constructor
  · rintro (⟨d, hd | ⟨f, ⟨hf, -⟩, rfl⟩, hle⟩ | ⟨f, ⟨hf, -⟩, hle⟩)
    · exact .inl ⟨d, hd, hle⟩
    · exact .inr ⟨f, hf, hle⟩
    · exact .inr ⟨f, hf, hle⟩
  · rintro (⟨d, hd, hle⟩ | ⟨f, hf, hle⟩)
    · exact .inl ⟨d, .inl hd, hle⟩
    · cases hgone : gone f.1 with
      | true => exact .inl ⟨_, .inr ⟨f, ⟨hf, hgone⟩, rfl⟩, hle⟩
      | false => exact .inr ⟨f, ⟨hf, by simp [hgone]⟩, hle⟩

theorem content?_makeDirectory {fs' : Files} (h : fs.makeDirectory a = .ok fs') (b : Address) :
    fs'.content? b = fs.content? b := by
  unfold makeDirectory at h
  split at h
  · cases h
    rfl
  split at h
  · cases h
  split at h <;> cases h
  rfl

theorem write_ok {fs' : Files} {bytes : ByteArray} (h : fs.write a bytes = .ok fs') :
    fs' = fs.put a bytes := by
  unfold write at h
  split at h
  · cases h
  split at h <;> cases h
  rfl

theorem walk_ok {parts : List String} (h : fs.walk a parts = .ok b) : b = a.follow parts := by
  induction parts generalizing a with
  | nil =>
    cases h
    rfl
  | cons part rest ih =>
    rw [walk] at h
    split at h
    · cases h
    split at h
    · cases h
    · exact ih h

theorem find_ok {here : Address} {p : Path} (h : fs.find here p = .ok a) : a = .ofPath here p := by
  unfold find at h
  split at h
  · cases h
  split at h
  · cases h
  · exact walk_ok h

end TwinDiagram.Files
