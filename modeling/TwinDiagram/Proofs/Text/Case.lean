import TwinDiagram.Proofs.Text.Words

namespace TwinDiagram

namespace Text

/-- Only a capital letter has another lower case. -/
theorem toLower_eq_or (c : Char) :
    c.toLower = c ∨ 65 ≤ c.toNat ∧ c.toNat ≤ 90 ∧ c.toLower.toNat = c.toNat + 32 := by
  by_cases h : c.val ≥ 'A'.val ∧ c.val ≤ 'Z'.val
  · right
    obtain ⟨hle, hle'⟩ := h
    have hlow : 65 ≤ c.toNat := UInt32.le_iff_toNat_le.mp hle
    have hhigh : c.toNat ≤ 90 := UInt32.le_iff_toNat_le.mp hle'
    refine ⟨hlow, hhigh, ?_⟩
    have hlower : c.toLower.val = c.val + 32 := congrArg Char.val (dif_pos ⟨hle, hle'⟩)
    show c.toLower.val.toNat = c.val.toNat + 32
    have hval : c.val.toNat ≤ 90 := hhigh
    rw [hlower, UInt32.toNat_add]
    simp only [UInt32.reduceToNat]
    omega
  · left
    exact dif_neg h

theorem toLower_invariant {β : Type} (f : Char → β)
    (hf : ∀ n ∈ List.range' 65 26, f (Char.ofNat n).toLower = f (Char.ofNat n)) (c : Char) :
    f c.toLower = f c := by
  rcases toLower_eq_or c with hc | ⟨hlow, hhigh, -⟩
  · rw [hc]
  · exact of_codes (P := fun c ↦ f c.toLower = f c) hf (List.mem_range'_1.mpr ⟨hlow, by omega⟩)

theorem eq_of_toLower_eq {c d : Char} (h : c.toLower = d) (hd : ¬ (97 ≤ d.toNat ∧ d.toNat ≤ 122)) :
    c = d := by
  rcases toLower_eq_or c with hc | ⟨hlow, hhigh, hc⟩
  · exact hc.symm.trans h
  · rw [h] at hc
    exact absurd ⟨by omega, by omega⟩ hd

theorem toNat_lt_of_toLower {c : Char} (h : c.toLower.toNat < 0x80) : c.toNat < 0x80 := by
  rcases toLower_eq_or c with hc | ⟨-, hhigh, -⟩
  · rwa [hc] at h
  · omega

theorem toLower_of_isBlank {c : Char} (h : isBlank c) : c.toLower = c := by
  rcases toLower_eq_or c with hc | ⟨hlow, hhigh, -⟩
  · exact hc
  · have hcodes : ∀ n ∈ blankCodes, ¬ (65 ≤ n ∧ n ≤ 90) := by decide
    exact absurd ⟨hlow, hhigh⟩ (hcodes _ (mem_blankCodes h))

theorem lowerFrom_of_ascii {before cs : List Char} (h : ∀ c ∈ cs, c.toNat < 0x80) :
    lowerFrom before cs = cs.map Char.toLower := by
  induction cs generalizing before with
  | nil => rfl
  | cons c cs ih =>
    obtain ⟨hc, hcs⟩ := List.forall_mem_cons.mp h
    rw [lowerFrom, lowerChar, if_pos hc, ih hcs]
    rfl

theorem toNat_ofNat_eq_or (n : Nat) : (Char.ofNat n).toNat = n ∨ (Char.ofNat n).toNat = 0 := by
  by_cases h : n.isValidChar
  · exact .inl (congrArg Char.toNat (dif_pos h))
  · exact .inr (congrArg Char.toNat (dif_neg h))

/-- Above ASCII only the sign for Kelvin has its lower case, a k, in ASCII. -/
theorem toNat_shiftBy_lowerRuns {c : Char} (hc : 0x80 ≤ c.toNat) :
    0x80 ≤ (shiftBy lowerRuns c).toNat ∨ (shiftBy lowerRuns c).toNat = 0x6b ∨
      (shiftBy lowerRuns c).toNat = 0 := by
  unfold shiftBy
  split
  · next r hr =>
    have hbound : ∀ r ∈ lowerRuns, 0x80 ≤ r.first + r.offset ∨
        r.first + r.offset = 0x6b ∧ r.last = r.first := by decide +kernel
    have hfirst := hbound r (List.mem_of_find?_eq_some hr)
    have hhas := List.find?_some hr
    simp only [CaseRun.has, Bool.and_eq_true, decide_eq_true_eq] at hhas
    rcases toNat_ofNat_eq_or (c.toNat + r.offset).toNat with hn | hn <;> omega
  · exact .inl hc

/-- No character but the number sign becomes one. -/
theorem head?_lower_ne {c : Char} (hc : c ≠ '#') (cs : List Char) :
    (lower (.ofList (c :: cs))).toList.head? ≠ some '#' := by
  simp only [lower, lowerChars, String.toList_ofList, lowerFrom, lowerChar]
  split
  · exact fun h ↦ hc (eq_of_toLower_eq (Option.some_inj.mp h) (by decide))
  · next hascii =>
    split
    · unfold lowerSigma
      split <;> exact nofun
    · split
      · exact nofun
      · intro h
        have hcode : (shiftBy lowerRuns c).toNat = 0x23 :=
          congrArg Char.toNat (Option.some_inj.mp h)
        have hshift := toNat_shiftBy_lowerRuns (Nat.le_of_not_lt hascii)
        omega

/-- A text whose lower case is in ASCII, without a k, is in ASCII itself. -/
theorem ascii_of_lowerFrom {before cs : List Char}
    (h : ∀ d ∈ lowerFrom before cs, d.toNat < 0x80 ∧ d.toNat ≠ 0x6b ∧ d.toNat ≠ 0) :
    ∀ c ∈ cs, c.toNat < 0x80 := by
  induction cs generalizing before with
  | nil => exact nofun
  | cons c cs ih =>
    rw [lowerFrom, List.forall_mem_append] at h
    obtain ⟨hc, hcs⟩ := h
    refine List.forall_mem_cons.mpr ⟨?_, ih hcs⟩
    by_contra hascii
    unfold lowerChar at hc
    rw [if_neg hascii] at hc
    split at hc
    · have hsigma := (hc _ (.head _)).1
      unfold lowerSigma at hsigma
      split at hsigma
      · exact absurd hsigma (by decide)
      · exact absurd hsigma (by decide)
    · split at hc
      · exact absurd (hc '\u0307' (.tail _ (.head _))).1 (by decide)
      · obtain ⟨hlow, hkelvin, hnone⟩ := hc _ (.head _)
        have hshift := toNat_shiftBy_lowerRuns (Nat.le_of_not_lt hascii)
        omega

end Text

theorem isIdentifierStart_toLower (c : Char) : isIdentifierStart c.toLower = isIdentifierStart c :=
  Text.toLower_invariant isIdentifierStart (by decide) c

theorem isIdentifierChar_toLower (c : Char) : isIdentifierChar c.toLower = isIdentifierChar c :=
  Text.toLower_invariant isIdentifierChar (by decide) c

end TwinDiagram
