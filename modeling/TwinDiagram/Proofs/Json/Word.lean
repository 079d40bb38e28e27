import TwinDiagram.Json.Printer
import TwinDiagram.Json.Reader
import Mathlib.Data.List.Infix
import Mathlib.Tactic.ByContra
import Mathlib.Tactic.Tauto

namespace TwinDiagram.Json

def delimiters : List Char := ['\u0022', ',', '[', ']', '\x7b', '\x7d', ' ', '\n', '\r', '\t']

def isPlain (c : Char) : Bool := ! delimiters.contains c

theorem isPlain_of_isDigit {c : Char} (h : c.isDigit) : isPlain c := by
  have hmarks : (delimiters.all fun d ↦ !d.isDigit) = true := rfl
  rw [isPlain, Bool.not_eq_true', Bool.eq_false_iff, ne_eq, List.contains_iff_mem]
  intro hc
  have hmark := List.all_eq_true.mp hmarks c hc
  rw [h] at hmark
  cases hmark

def isVocal (c : Char) : Bool := c.isDigit || "nulltruefalseNaNInfinity.e-+".toList.contains c

theorem isPlain_of_isVocal {c : Char} (h : isVocal c) : isPlain c := by
  rcases Bool.or_eq_true_iff.mp h with hdigit | hmark
  · exact isPlain_of_isDigit hdigit
  · have hmarks : ("nulltruefalseNaNInfinity.e-+".toList.all isPlain) = true := by decide +kernel
    exact List.all_eq_true.mp hmarks c (List.contains_iff_mem.mp hmark)

theorem isVocal_toDigits (n : Nat) : ∀ c ∈ Nat.toDigits 10 n, isVocal c := by
  intro c hc
  rw [isVocal, Nat.isDigit_of_mem_toDigits (by decide) (by decide) hc]
  rfl

theorem isVocal_zeros (n : Nat) : ∀ c ∈ List.replicate n '0', isVocal c := by
  intro c hc
  rw [List.eq_of_mem_replicate hc]
  rfl

theorem isVocal_writeScaled (style : Decimal.Style) (x : Decimal.Scaled) :
    ∀ c ∈ Decimal.writeScaled style x, isVocal c := by
  have hdigits := isVocal_toDigits x.digits
  have htake (n : Nat) : ∀ c ∈ (Nat.toDigits 10 x.digits).take n, isVocal c := fun c hc ↦
    hdigits c (List.mem_of_mem_take hc)
  have hdrop (n : Nat) : ∀ c ∈ (Nat.toDigits 10 x.digits).drop n, isVocal c := fun c hc ↦
    hdigits c (List.mem_of_mem_drop hc)
  have hzeros := isVocal_zeros
  have hpoint : isVocal '.' ∧ isVocal '0' ∧ isVocal 'e' ∧ isVocal '-' ∧ isVocal '+' := by
    decide +kernel
  have hexponent := isVocal_toDigits
  unfold Decimal.writeScaled
  dsimp only
  repeat' split
  all_goals
    simp only [Decimal.padded, List.forall_mem_append, List.forall_mem_cons, List.not_mem_nil,
      false_implies, implies_true, and_true]
    grind

theorem writeScaled_ne_nil (style : Decimal.Style) (x : Decimal.Scaled) :
    Decimal.writeScaled style x ≠ [] := by
  unfold Decimal.writeScaled
  dsimp only
  repeat' split
  all_goals simp

def Plain (cs : List Char) : Prop := cs ≠ [] ∧ ∀ c ∈ cs, isPlain c

def Vocal (cs : List Char) : Prop := cs ≠ [] ∧ ∀ c ∈ cs, isVocal c

theorem Vocal.plain {cs : List Char} (h : Vocal cs) : Plain cs :=
  ⟨h.1, fun c hc ↦ isPlain_of_isVocal (h.2 c hc)⟩

theorem vocal_cons {c : Char} {cs : List Char} (h : (c :: cs).all isVocal) : Vocal (c :: cs) :=
  ⟨List.cons_ne_nil c cs, List.all_eq_true.mp h⟩

theorem vocal_write (x : Float) : Vocal (Decimal.write decimals x).toList := by
  have hsigned {cs : List Char} (hcs : Vocal cs) :
      Vocal (String.ofList (if Decimal.isNegative x then '-' :: cs else cs)).toList := by
    rw [String.toList_ofList]
    split
    · exact ⟨List.cons_ne_nil _ _, List.forall_mem_cons.mpr ⟨by decide +kernel, hcs.2⟩⟩
    · exact hcs
  unfold Decimal.write
  dsimp only
  split
  · exact vocal_cons rfl
  · exact hsigned (vocal_cons rfl)
  · exact hsigned (vocal_cons rfl)
  · exact hsigned ⟨writeScaled_ne_nil _ _, isVocal_writeScaled _ _⟩

theorem vocal_repr (n : Nat) : Vocal n.repr.toList := by
  rw [Nat.repr_eq_ofList_toDigits, String.toList_ofList]
  exact ⟨Nat.toDigits_ne_nil, isVocal_toDigits n⟩

theorem vocal_int (n : Int) : Vocal (toString n).toList := by
  cases n with
  | ofNat n => exact vocal_repr n
  | negSucc n =>
    have htext : (toString (Int.negSucc n)).toList = '-' :: (n.succ.repr).toList :=
      String.toList_append ..
    rw [htext]
    exact ⟨List.cons_ne_nil _ _, List.forall_mem_cons.mpr ⟨by decide +kernel, (vocal_repr _).2⟩⟩

def isLeaf : Json → Bool
  | list _ => false
  | object _ => false
  | _ => true

theorem print_leaf {j : Json} (hj : j.isLeaf) (s : Spacing) (level : Nat) :
    print s level j = print .line 0 j := by
  cases j with
  | list js => cases hj
  | object fields => cases hj
  | bool b => cases b <;> rw [print, print]
  | _ => rw [print, print]

theorem vocal_print {j : Json} (hj : j.isLeaf) (htext : j.text? = none) :
    Vocal (print .line 0 j) := by
  cases j with
  | null =>
    rw [print]
    exact vocal_cons rfl
  | bool b =>
    cases b
    all_goals
      rw [print]
      exact vocal_cons rfl
  | int n => rw [print]; exact vocal_int n
  | decimal x => rw [print]; exact vocal_write x
  | text t => cases htext
  | list js => cases hj
  | object fields => cases hj

theorem plain_print {j : Json} (hj : j.isLeaf) (htext : j.text? = none) :
    Plain (print .line 0 j) := (vocal_print hj htext).plain

def Ends (cs : List Char) : Prop := ∀ c ∈ cs.head?, isPlain c = false

variable {α β : Type} {cs rest : List Char}

structure Stops (read : List Char → Option (α × List Char)) : Prop where
  append : ∀ cs {rest}, Ends rest → read (cs ++ rest) = (read cs).map fun r ↦ (r.1, r.2 ++ rest)
  suffix : ∀ {cs a rest}, read cs = some (a, rest) → rest <:+ cs

namespace Stops

variable {read : List Char → Option (α × List Char)}

theorem pure (a : α) : Stops fun cs ↦ some (a, cs) where
  append _ _ _ := rfl
  suffix h := by
    cases h
    exact List.suffix_rfl

theorem fail : Stops fun _ ↦ (none : Option (α × List Char)) where
  append _ _ _ := rfl
  suffix h := nomatch h

theorem bind (h : Stops read) {next : α → List Char → Option (β × List Char)}
    (hnext : ∀ a, Stops (next a)) : Stops fun cs ↦ (read cs).bind fun r ↦ next r.1 r.2 where
  append cs rest hrest := by
    rw [h.append cs hrest]
    cases read cs with
    | none => rfl
    | some r => exact (hnext r.1).append r.2 hrest
  suffix hread := by
    obtain ⟨r, hr, hnext'⟩ := Option.bind_eq_some_iff.mp hread
    exact ((hnext r.1).suffix hnext').trans (h.suffix hr)

theorem map (h : Stops read) (f : α → β) : Stops fun cs ↦ (read cs).map fun r ↦ (f r.1, r.2) := by
  simp only [Option.map_eq_bind]
  exact h.bind fun a ↦ pure (f a)

theorem digits : Stops readDigits where
  append cs rest hrest := by
    have hdigit : ∀ c ∈ rest.head?, isDigit c = false := by
      intro c hc
      by_contra h
      have hplain := isPlain_of_isDigit (Bool.not_eq_false _ |>.mp h : c.isDigit)
      rw [hrest c hc] at hplain
      cases hplain
    have hspan : (cs ++ rest).takeWhile isDigit = cs.takeWhile isDigit ∧
        (cs ++ rest).dropWhile isDigit = cs.dropWhile isDigit ++ rest := by
      induction cs with
      | nil =>
        cases rest with
        | nil => exact ⟨rfl, rfl⟩
        | cons c rest => simp [hdigit c rfl]
      | cons c cs ih =>
        rw [List.cons_append, List.takeWhile_cons, List.takeWhile_cons, List.dropWhile_cons,
          List.dropWhile_cons, ih.1, ih.2]
        split <;> exact ⟨rfl, rfl⟩
    rw [readDigits, readDigits, hspan.1, hspan.2]
    cases cs.takeWhile isDigit <;> rfl
  suffix h := by
    unfold readDigits at h
    split at h
    · cases h
    · cases h
      exact List.dropWhile_suffix _

end Stops

theorem dropWord_append {w : List Char} (hw : w.all isPlain) (cs : List Char)
    (hrest : Ends rest) : dropWord w (cs ++ rest) = (dropWord w cs).map (· ++ rest) := by
  induction w generalizing cs with
  | nil => rfl
  | cons c w ih =>
    rw [List.all_cons, Bool.and_eq_true] at hw
    obtain ⟨hc, hw⟩ := hw
    cases cs with
    | nil =>
      cases rest with
      | nil => rfl
      | cons d rest =>
        have hne : c ≠ d := by
          rintro rfl
          rw [hrest c rfl] at hc
          cases hc
        exact if_neg hne
    | cons d cs =>
      rw [List.cons_append, dropWord, dropWord]
      split
      · exact ih hw cs
      · rfl

theorem suffix_of_dropWord {w : List Char} (h : dropWord w cs = some rest) : rest <:+ cs := by
  induction w generalizing cs with
  | nil =>
    cases h
    exact List.suffix_rfl
  | cons c w ih =>
    cases cs with
    | nil => cases h
    | cons d cs =>
      rw [dropWord] at h
      split at h
      · exact (ih h).trans (List.suffix_cons d cs)
      · cases h

/-- Reads by `f` behind a mark, and by `g` if the mark is not there. -/
def behind (mark : Char) (f g : List Char → Option (α × List Char)) :
    List Char → Option (α × List Char)
  | [] => g []
  | c :: cs => if c = mark then f cs else g (c :: cs)

def readSigned (sign : Int) (cs : List Char) : Option (Option Int × List Char) :=
  (readDigits cs).map fun r ↦ (some (sign * natOfDigits r.1), r.2)

def readOrder : List Char → Option (Option Int × List Char) :=
  behind '+' (readSigned 1) (behind '-' (readSigned (-1)) (readSigned 1))

theorem readFraction_eq : readFraction =
    behind '.' (fun cs ↦ (readDigits cs).map fun r ↦ (some r.1, r.2)) fun cs ↦ some (none, cs) := by
  funext cs
  unfold readFraction
  split
  · rfl
  · cases cs with
    | nil => rfl
    | cons c cs => simp_all [behind]

theorem readExponent_eq : readExponent =
    behind 'e' readOrder (behind 'E' readOrder fun cs ↦ some (none, cs)) := by
  funext cs
  unfold readExponent
  dsimp only
  split
  case h_3 =>
    cases cs with
    | nil => rfl
    | cons c cs => simp_all [behind]
  all_goals
    rename_i cs
    change _ = readOrder cs
    split
    · rfl
    · rfl
    · cases cs with
      | nil => rfl
      | cons c cs => simp_all [readOrder, readSigned, behind]

def numberOf (negative : Bool) (whole : List Char) : Option (List Char) → Option Int → Json
  | none, none => int (if negative then -natOfDigits whole else natOfDigits whole)
  | fraction, exponent =>
    decimal (Decimal.toFloat negative (natOfDigits (whole ++ fraction.getD []))
      (exponent.getD 0 - (fraction.getD []).length))

def readParts (negative : Bool) (whole : List Char) : List Char → Option (Json × List Char) :=
  if whole.head? = some '0' && 1 < whole.length then fun _ ↦ none
  else if maxWholeLength < (if negative then 1 else 0) + whole.length then fun _ ↦ none
  else fun cs ↦ (readFraction cs).bind fun r ↦
    (readExponent r.2).map fun e ↦ (numberOf negative whole r.1 e.1, e.2)

theorem readMagnitude_eq (negative : Bool) : readMagnitude negative =
    fun cs ↦ (readDigits cs).bind fun r ↦ readParts negative r.1 r.2 := by
  funext cs
  unfold readMagnitude readParts
  cases readDigits cs with
  | none => rfl
  | some r =>
    obtain ⟨whole, cs⟩ := r
    simp only [Option.bind_eq_bind, Option.bind_some, Option.bind_none]
    by_cases hzero : (whole.head? = some '0' && 1 < whole.length) = true
    · rw [if_pos hzero, if_pos hzero]
    · rw [if_neg hzero, if_neg hzero]
      by_cases hlong : maxWholeLength < (if negative then 1 else 0) + whole.length
      · rw [if_pos hlong, if_pos hlong]
      · rw [if_neg hlong, if_neg hlong]
        congr 1
        funext (fraction, cs)
        cases readExponent cs with
        | none => rfl
        | some e =>
          obtain ⟨exponent, cs⟩ := e
          cases fraction <;> cases exponent <;> rfl

theorem readAtom_eq : readAtom =
    let word (w : String) (j : Json) (cs : List Char) :=
      (dropWord w.toList cs).map fun rest ↦ (j, rest)
    behind 'n' (word "ull" null) <| behind 't' (word "rue" (bool true)) <|
      behind 'f' (word "alse" (bool false)) <| behind 'N' (word "aN" (decimal (0.0 / 0.0))) <|
      behind 'I' (word "nfinity" (decimal (1.0 / 0.0))) <|
      behind '-' (behind 'I' (word "nfinity" (decimal (-1.0 / 0.0))) (readMagnitude true))
        (readMagnitude false) := by
  funext cs
  unfold readAtom
  split
  case h_7 cs h =>
    cases cs with
    | nil => rfl
    | cons c cs => simp_all [behind]
  case h_8 =>
    cases cs with
    | nil => rfl
    | cons c cs => simp_all [behind]
  all_goals rfl

namespace Stops

variable {read : List Char → Option (α × List Char)}

theorem word {w : List Char} (hw : w.all isPlain) (a : α) :
    Stops fun cs ↦ (dropWord w cs).map fun rest ↦ (a, rest) where
  append cs rest hrest := by
    rw [dropWord_append hw cs hrest, Option.map_map, Option.map_map]
    rfl
  suffix hread := by
    obtain ⟨cs, hcs, hrest⟩ := Option.map_eq_some_iff.mp hread
    cases hrest
    exact suffix_of_dropWord hcs

theorem behind {mark : Char} (hmark : isPlain mark) {f g : List Char → Option (α × List Char)}
    (hf : Stops f) (hg : Stops g) : Stops (behind mark f g) where
  append cs rest hrest := by
    cases cs with
    | nil =>
      have hnone : Json.behind mark f g rest = g rest := by
        cases rest with
        | nil => rfl
        | cons c rest =>
          have hne : c ≠ mark := by
            rintro rfl
            rw [hrest c rfl] at hmark
            cases hmark
          exact if_neg hne
      exact hnone.trans (hg.append [] hrest)
    | cons c cs =>
      rw [List.cons_append, Json.behind, Json.behind]
      split
      · exact hf.append cs hrest
      · exact hg.append (c :: cs) hrest
  suffix {cs a rest} hread := by
    cases cs with
    | nil => exact hg.suffix hread
    | cons c cs =>
      rw [Json.behind] at hread
      split at hread
      · exact (hf.suffix hread).trans (List.suffix_cons c cs)
      · exact hg.suffix hread

theorem ite {c : Prop} [Decidable c] {f g : List Char → Option (α × List Char)} (hf : Stops f)
    (hg : Stops g) : Stops (if c then f else g) := by
  split
  · exact hf
  · exact hg

theorem fraction : Stops readFraction := by
  rw [readFraction_eq]
  exact behind rfl (digits.map some) (pure none)

theorem exponent : Stops readExponent := by
  have hsigned (sign : Int) : Stops (readSigned sign) :=
    digits.map fun ds ↦ some (sign * natOfDigits ds)
  have horder : Stops readOrder := behind rfl (hsigned 1) (behind rfl (hsigned (-1)) (hsigned 1))
  rw [readExponent_eq]
  exact behind rfl horder (behind rfl horder (pure none))

theorem magnitude (negative : Bool) : Stops (readMagnitude negative) := by
  have hparts (whole : List Char) : Stops (readParts negative whole) := by
    unfold readParts
    exact ite fail (ite fail
      (fraction.bind fun fraction ↦ exponent.map (numberOf negative whole fraction)))
  rw [readMagnitude_eq]
  exact digits.bind hparts

theorem atom : Stops readAtom := by
  rw [readAtom_eq]
  exact behind rfl (word rfl _) <| behind rfl (word rfl _) <|
    behind rfl (word rfl _) <| behind rfl (word rfl _) <|
    behind rfl (word rfl _) <|
    behind rfl (behind rfl (word rfl _) (magnitude true)) (magnitude false)

end Stops

theorem isSpace_of_isPlain {c : Char} (h : isPlain c) : isSpace c = false := by
  simp only [isPlain, delimiters, List.contains_cons, List.contains_nil, Bool.not_eq_true',
    Bool.or_eq_false_iff]
    at h
  simp only [isSpace, Bool.or_eq_false_iff]
  tauto

theorem skipSpace_of_plain (h : ∀ c ∈ cs, isPlain c) : skipSpace cs = cs := by
  cases cs with
  | nil => rfl
  | cons c cs =>
    have hspace := isSpace_of_isPlain (h c (.head _))
    exact List.dropWhile_cons_of_neg (by rw [hspace]; decide)

theorem readValue_word {c : Char} (hc : isPlain c) (steps depth : Nat) (cs : List Char) :
    readValue steps depth (c :: cs) = readAtom (c :: cs) := by
  rw [readValue]
  · intro cs h
    cases h
    cases hc
  · intro cs h
    cases h
    cases hc
  · intro cs h
    cases h
    cases hc

/-- The text of a number stands for the number. -/
def ReadsBack (x : Float) : Prop :=
  readChars (Decimal.write decimals x).toList = some (.decimal x)

instance (x : Float) : Decidable (ReadsBack x) :=
  decidable_of_iff ((readChars (Decimal.write decimals x).toList).bind decimal? = some x) <| by
    rw [ReadsBack, Option.bind_eq_some_iff]
    constructor
    · rintro ⟨j, hj, hx⟩
      cases j <;> cases hx
      exact hj
    · exact fun h ↦ ⟨_, h, rfl⟩

theorem ReadsBack.readAtom {x : Float} (h : ReadsBack x) :
    readAtom (Decimal.write decimals x).toList = some (.decimal x, []) := by
  obtain ⟨hne, hplain⟩ := (vocal_write x).plain
  obtain ⟨c, cs, hcs⟩ := List.exists_cons_of_ne_nil hne
  rw [ReadsBack, readChars, readWithin, skipSpace_of_plain hplain] at h
  rw [hcs] at h hplain ⊢
  rw [readValue_word (hplain c (.head _))] at h
  cases hread : Json.readAtom (c :: cs) with
  | none =>
    rw [hread] at h
    cases h
  | some r =>
    obtain ⟨j, rest⟩ := r
    have hrest := skipSpace_of_plain fun d hd ↦ hplain d ((Stops.atom.suffix hread).subset hd)
    rw [hread] at h
    simp only [hrest] at h
    split at h
    case isTrue hempty =>
      rw [List.isEmpty_iff.mp hempty, Option.some.inj h]
    case isFalse => cases h

theorem ReadsBack.readValue {x : Float} (h : ReadsBack x) (steps depth : Nat) (hrest : Ends rest) :
    readValue steps depth ((Decimal.write decimals x).toList ++ rest) =
      some (.decimal x, rest) := by
  obtain ⟨hne, hplain⟩ := (vocal_write x).plain
  obtain ⟨c, cs, hcs⟩ := List.exists_cons_of_ne_nil hne
  have hatom := Stops.atom.append (Decimal.write decimals x).toList hrest
  rw [h.readAtom, Option.map_some, List.nil_append] at hatom
  rw [hcs] at hplain hatom ⊢
  exact (readValue_word (hplain c (.head _)) steps depth _).trans hatom

end TwinDiagram.Json
