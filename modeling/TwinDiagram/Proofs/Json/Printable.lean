import TwinDiagram.Proofs.Json.RoundTrip
import TwinDiagram.Proofs.Json.Spelling
import TwinDiagram.Text.Control

namespace TwinDiagram

theorem Text.dropSequences_of_notMem {cs : List Char} (h : '\u001b' ∉ cs) :
    dropSequences cs = cs := by
  induction cs with
  | nil => rw [dropSequences]
  | cons c cs ih =>
    rw [List.mem_cons, not_or] at h
    obtain ⟨hc, hcs⟩ := h
    rw [dropSequences, if_neg (Ne.symm hc)]
    simp only
    rw [ih hcs]

namespace Json

def isPrintable (c : Char) : Bool := c == '\n' || 0x20 ≤ c.toNat && c.toNat < 0x7f

theorem isPrintable_of_isVocal {c : Char} (h : isVocal c) : isPrintable c := by
  rcases Bool.or_eq_true_iff.mp h with hdigit | hmark
  · rw [Char.isDigit, Bool.and_eq_true, decide_eq_true_eq, decide_eq_true_eq] at hdigit
    have hlow : 48 ≤ c.toNat := hdigit.1
    have hhigh : c.toNat ≤ 57 := hdigit.2
    simp only [isPrintable, Bool.or_eq_true, Bool.and_eq_true, decide_eq_true_eq]
    omega
  · have hmarks : "nulltruefalseNaNInfinity.e-+".toList.all isPrintable := by decide +kernel
    exact List.all_eq_true.mp hmarks c (List.contains_iff_mem.mp hmark)

theorem ascii_of_isPrintable {c : Char} (h : isPrintable c) : c.toNat < 0x80 := by
  simp only [isPrintable, Bool.or_eq_true, Bool.and_eq_true, beq_iff_eq, decide_eq_true_eq] at h
  obtain rfl | ⟨-, hlow⟩ := h
  · decide
  · omega

theorem isPrintable_hex (n : Nat) : ∀ c ∈ Text.hex 4 n, isPrintable c := by
  have hdigit : ∀ d, d < 16 → isPrintable (Text.hexDigit d) := by decide
  have hmod (m : Nat) : isPrintable (Text.hexDigit (m % 16)) := hdigit _ (Nat.mod_lt _ (by decide))
  rw [Text.hex_four]
  simp [hmod]

theorem isPrintable_unicodeEscape (n : Nat) : ∀ c ∈ unicodeEscape n, isPrintable c := by
  rw [unicodeEscape]
  exact List.forall_mem_cons.mpr
    ⟨by decide, List.forall_mem_cons.mpr ⟨by decide, isPrintable_hex n⟩⟩

theorem isPrintable_escapeChar (c : Char) : ∀ d ∈ escapeChar c, isPrintable d := by
  have hescaped := escaped_escapeChar c
  generalize escapeChar c = cs at hescaped
  cases hescaped with
  | @mark m hm _ =>
    have hmarks : ['\u0022', '\\', 'n', 'r', 't', 'b', 'f'].all isPrintable := by decide
    rw [List.forall_mem_cons, List.forall_mem_singleton]
    exact ⟨rfl, List.all_eq_true.mp hmarks m hm⟩
  | plain _ _ hlow hhigh =>
    rw [List.forall_mem_singleton, isPrintable, decide_eq_true hlow, decide_eq_true hhigh,
      Bool.and_true, Bool.or_true]
  | unit _ => exact isPrintable_unicodeEscape _
  | pair _ =>
    exact List.forall_mem_append.mpr ⟨isPrintable_unicodeEscape _, isPrintable_unicodeEscape _⟩

theorem isPrintable_printText (t : String) : ∀ c ∈ printText t, isPrintable c := by
  rw [printText, List.forall_mem_append, List.forall_mem_cons]
  refine ⟨⟨by decide, fun c hc ↦ ?_⟩, List.all_eq_true.mp rfl⟩
  obtain ⟨d, -, hc⟩ := List.mem_flatMap.mp hc
  exact isPrintable_escapeChar d c hc

structure Spacing.Printable (s : Spacing) : Prop where
  comma : ∀ c ∈ s.comma, isPrintable c
  colon : ∀ c ∈ s.colon, isPrintable c

theorem Spacing.printable_indented (n : Nat) : (indented n).Printable := by
  exact ⟨List.all_eq_true.mp rfl, List.all_eq_true.mp rfl⟩

theorem Spacing.isPrintable_newline (s : Spacing) (level : Nat) :
    ∀ c ∈ s.newline level, isPrintable c := by
  intro c hc
  unfold newline at hc
  split at hc
  · cases hc
  · rcases List.mem_cons.mp hc with rfl | hc
    · decide
    · rw [List.eq_of_mem_replicate hc]
      decide

variable {s : Spacing}

theorem isPrintable_print_leaf {j : Json} (hj : j.isLeaf) (level : Nat) :
    ∀ c ∈ print s level j, isPrintable c := by
  rw [print_leaf hj]
  cases htext : j.text? with
  | none => exact fun c hc ↦ isPrintable_of_isVocal ((vocal_print hj htext).2 c hc)
  | some t =>
    cases j with
    | text t => exact isPrintable_printText t
    | _ => cases htext

theorem isPrintable_print_list (hs : s.Printable) {js : List Json}
    (hjs : ∀ j ∈ js, ∀ level, ∀ c ∈ print s level j, isPrintable c) (level : Nat) :
    ∀ c ∈ print s level (list js), isPrintable c := by
  cases js with
  | nil =>
    rw [print]
    exact List.all_eq_true.mp rfl
  | cons j js =>
    obtain ⟨hj, hjs⟩ := List.forall_mem_cons.mp hjs
    have hitems : ∀ c ∈ printItems s (level + 1) js, isPrintable c := by
      rw [printItems_eq, List.forall_mem_flatMap]
      intro k hk
      simp only [List.forall_mem_append]
      exact ⟨hs.comma, s.isPrintable_newline _, hjs k hk _⟩
    rw [print_list_cons]
    simp only [List.forall_mem_cons, List.forall_mem_append]
    exact ⟨by decide, s.isPrintable_newline _, hj _, hitems, s.isPrintable_newline _, rfl,
      List.forall_mem_nil _⟩

theorem isPrintable_print_object (hs : s.Printable) {fields : List (String × Json)}
    (hfields : ∀ f ∈ fields, ∀ level, ∀ c ∈ print s level f.2, isPrintable c) (level : Nat) :
    ∀ c ∈ print s level (object fields), isPrintable c := by
  have hfield (level : Nat) {f : String × Json} (hf : f ∈ fields) :
      ∀ c ∈ printField s level f, isPrintable c := by
    rw [printField]
    simp only [List.forall_mem_append]
    exact ⟨isPrintable_printText _, hs.colon, hfields f hf _⟩
  cases fields with
  | nil =>
    rw [print]
    exact List.all_eq_true.mp rfl
  | cons f fields =>
    have hrest : ∀ c ∈ printFields s (level + 1) fields, isPrintable c := by
      rw [printFields_eq, List.forall_mem_flatMap]
      intro k hk
      simp only [List.forall_mem_append]
      exact ⟨hs.comma, s.isPrintable_newline _, hfield _ (.tail _ hk)⟩
    rw [print_object_cons]
    simp only [List.forall_mem_cons, List.forall_mem_append]
    exact ⟨by decide, s.isPrintable_newline _, hfield _ (.head _), hrest, s.isPrintable_newline _,
      rfl, List.forall_mem_nil _⟩

theorem isPrintable_print (hs : s.Printable) (j : Json) :
    ∀ level, ∀ c ∈ print s level j, isPrintable c := by
  induction j using Json.induction with
  | leaf j hj => exact isPrintable_print_leaf hj
  | list js ih => exact isPrintable_print_list hs ih
  | object fields ih => exact isPrintable_print_object hs ih

theorem dropSequences_render (hs : s.Printable) (j : Json) :
    Text.dropSequences (j.render s).toList = (j.render s).toList := by
  apply Text.dropSequences_of_notMem
  rw [render, String.toList_ofList]
  intro hmem
  exact absurd (isPrintable_print hs j 0 _ hmem) (by decide)

end Json

end TwinDiagram
