import Mathlib.Data.List.Infix
import TwinDiagram.Label
import TwinDiagram.Proofs.Text.Case

namespace TwinDiagram.Label

section Letters

open Text (of_codes)

variable {c : Char}

theorem mem_codes {low high : Char} (h : (low ≤ c && c ≤ high) = true) :
    c.toNat ∈ List.range' low.toNat (high.toNat + 1 - low.toNat) := by
  obtain ⟨hlow, hhigh⟩ := Bool.and_eq_true_iff.mp h
  have hlow : low.toNat ≤ c.toNat := UInt32.le_iff_toNat_le.mp (of_decide_eq_true hlow)
  have hhigh : c.toNat ≤ high.toNat := UInt32.le_iff_toNat_le.mp (of_decide_eq_true hhigh)
  exact List.mem_range'_1.mpr ⟨hlow, by omega⟩

theorem mem_codes_of_isUpper (h : isUpper c) : c.toNat ∈ List.range' 65 26 := mem_codes h

theorem mem_codes_of_isLower (h : isLower c) : c.toNat ∈ List.range' 97 26 := mem_codes h

theorem not_isLowerOrDigit_of_isUpper (h : isUpper c) : isLowerOrDigit c = false :=
  of_codes (P := (isLowerOrDigit · = false)) (by decide) (mem_codes_of_isUpper h)

theorem not_isLower_of_isUpper (h : isUpper c) : isLower c = false :=
  (Bool.or_eq_false_iff.mp (not_isLowerOrDigit_of_isUpper h)).1

theorem not_isUpper_of_isLower (h : isLower c) : isUpper c = false :=
  of_codes (P := (isUpper · = false)) (by decide) (mem_codes_of_isLower h)

theorem isLowerOrDigit_of_isLower (h : isLower c) : isLowerOrDigit c := by
  rw [isLowerOrDigit, h, Bool.true_or]

theorem of_letter {P : Char → Prop}
    (hP : ∀ n ∈ List.range' 65 26 ++ List.range' 97 26, P (Char.ofNat n))
    (h : isUpper c ∨ isLower c) : P c :=
  of_codes hP (List.mem_append.mpr (h.imp mem_codes_of_isUpper mem_codes_of_isLower))

theorem isWordChar_of_letter (h : isUpper c ∨ isLower c) : Text.isWordChar c :=
  of_letter (P := (Text.isWordChar ·)) (by decide) h

theorem not_isBlank_of_letter (h : isUpper c ∨ isLower c) : Text.isBlank c = false :=
  of_letter (P := (Text.isBlank · = false)) (by decide) h

theorem toNat_lt_of_letter (h : isUpper c ∨ isLower c) : c.toNat < 0x80 :=
  of_letter (P := (·.toNat < 0x80)) (by decide) h

theorem ne_underscore_of_letter (h : isUpper c ∨ isLower c) : c ≠ '_' := by
  rintro rfl
  exact absurd h (by decide)

theorem toUpper_of_isUpper (h : isUpper c) : c.toUpper = c :=
  of_codes (P := fun c ↦ c.toUpper = c) (by decide) (mem_codes_of_isUpper h)

theorem toLower_of_isLower (h : isLower c) : c.toLower = c :=
  of_codes (P := fun c ↦ c.toLower = c) (by decide) (mem_codes_of_isLower h)

end Letters

/-- How a word of a name is written: `Word`, `WORD` or `word`. -/
inductive Style where
  | capitalized
  | acronym
  | small

def Style.Fits : Style → List Char → Prop
  | capitalized, w => ∃ c cs, w = c :: cs ∧ isUpper c ∧ cs ≠ [] ∧ ∀ x ∈ cs, isLower x
  | acronym, w => 2 ≤ w.length ∧ ∀ x ∈ w, isUpper x
  | small, w => w ≠ [] ∧ ∀ x ∈ w, isLower x

structure Word where
  style : Style
  chars : List Char
  fits : style.Fits chars

/-- The words may follow each other with nothing in between. -/
def Style.MayTouch : Style → Style → Prop
  | _, small => False
  | acronym, acronym => False
  | _, _ => True

/-- The words in their order; the gap stands between those that do not touch. -/
inductive Joined (gap : Char) (Touch : Style → Style → Prop) : List Word → List Char → Prop
  | last (w : Word) : Joined gap Touch [w] w.chars
  | apart {w v : Word} {ws : List Word} {cs : List Char} : Joined gap Touch (v :: ws) cs →
      Joined gap Touch (w :: v :: ws) (w.chars ++ gap :: cs)
  | touching {w v : Word} {ws : List Word} {cs : List Char} : Touch w.style v.style →
      Joined gap Touch (v :: ws) cs → Joined gap Touch (w :: v :: ws) (w.chars ++ cs)

namespace Word

/-- Words in small letters are shown with a capital. -/
def title (w : Word) : List Char :=
  match w.style, w.chars with
  | .small, c :: cs => c.toUpper :: cs
  | _, cs => cs

variable (w : Word)

theorem ne_nil : w.chars ≠ [] := by
  obtain ⟨style, chars, fits⟩ := w
  cases style with
  | capitalized =>
    obtain ⟨c, cs, rfl, -⟩ := fits
    exact List.cons_ne_nil c cs
  | acronym =>
    rintro rfl
    exact absurd fits.1 (by decide)
  | small => exact fits.1

theorem letters : ∀ c ∈ w.chars, isUpper c ∨ isLower c := by
  obtain ⟨style, chars, fits⟩ := w
  cases style with
  | capitalized =>
    obtain ⟨c, cs, rfl, hc, -, hcs⟩ := fits
    exact List.forall_mem_cons.mpr ⟨.inl hc, fun x hx ↦ .inr (hcs x hx)⟩
  | acronym => exact fun x hx ↦ .inl (fits.2 x hx)
  | small => exact fun x hx ↦ .inr (fits.2 x hx)

/-- A capital behind another letter stands in an acronym. -/
theorem cases_pair {x y : Char} {ys : List Char} (h : x :: y :: ys <:+ w.chars) :
    isLower y ∨ ∀ z ∈ x :: y :: ys, isUpper z := by
  obtain ⟨style, chars, fits⟩ := w
  change x :: y :: ys <:+ chars at h
  cases style with
  | capitalized =>
    obtain ⟨c, cs, rfl, -, -, hcs⟩ := fits
    rcases List.suffix_cons_iff.mp h with heq | hsuffix
    · obtain ⟨-, rfl⟩ := List.cons.inj heq
      exact .inl (hcs y (.head _))
    · exact .inl (hcs y (hsuffix.subset (.tail _ (.head _))))
  | acronym => exact .inr fun z hz ↦ fits.2 z (h.subset hz)
  | small => exact .inl (fits.2 y (h.subset (.tail _ (.head _))))

end Word

def spaceBehind (breaks : Char → List Char → Bool) : List Char → List Char
  | [] => []
  | a :: rest =>
    if breaks a rest then a :: ' ' :: spaceBehind breaks rest else a :: spaceBehind breaks rest

def beforeCapital (a : Char) (rest : List Char) : Bool := isLowerOrDigit a && rest.head?.any isUpper

def beforeLastCapital (a : Char) (rest : List Char) : Bool :=
  isUpper a && rest.head?.any isUpper && rest.tail.head?.any isLower

theorem splitCapitals_eq (cs : List Char) : splitCapitals cs = spaceBehind beforeCapital cs := by
  fun_induction splitCapitals cs with
  | case1 => rfl
  | case2 a => simp [spaceBehind, beforeCapital]
  | case3 a b rest h ih =>
    rw [spaceBehind, ← ih]
    exact (if_pos h).symm
  | case4 a b rest h ih =>
    rw [spaceBehind, ← ih]
    exact (if_neg h).symm

theorem splitAcronyms_eq (cs : List Char) :
    splitAcronyms cs = spaceBehind beforeLastCapital cs := by
  fun_induction splitAcronyms cs with
  | case1 => rfl
  | case2 a => simp [spaceBehind, beforeLastCapital]
  | case3 a b => simp [spaceBehind, beforeLastCapital]
  | case4 a b c rest h ih =>
    rw [spaceBehind, ← ih]
    exact (if_pos h).symm
  | case5 a b c rest h ih =>
    rw [spaceBehind, ← ih]
    exact (if_neg h).symm

theorem spaceBehind_append {breaks : Char → List Char → Bool} {w rest : List Char} (hw : w ≠ [])
    (hinside : ∀ x y ys, x :: y :: ys <:+ w → breaks x (y :: ys ++ rest) = false) :
    spaceBehind breaks (w ++ rest) =
      w ++ if breaks (w.getLast hw) rest then ' ' :: spaceBehind breaks rest
        else spaceBehind breaks rest := by
  induction w with
  | nil => exact absurd rfl hw
  | cons x w ih =>
    cases w with
    | nil =>
      rw [List.singleton_append, spaceBehind, List.getLast_singleton]
      split <;> rfl
    | cons y ys =>
      have hfirst := hinside x y ys List.suffix_rfl
      rw [List.cons_append, spaceBehind, hfirst, if_neg Bool.false_ne_true,
        ih (List.cons_ne_nil y ys) fun _ _ _ h ↦ hinside _ _ _ (h.trans (List.suffix_cons _ _))]
      rfl

namespace Joined

variable {gap : Char} {Touch Touch' : Style → Style → Prop} {v : Word} {ws : List Word}
  {cs : List Char}

theorem exists_append (h : Joined gap Touch (v :: ws) cs) : ∃ rest, cs = v.chars ++ rest := by
  cases h with
  | last => exact ⟨[], (List.append_nil _).symm⟩
  | apart => exact ⟨_, rfl⟩
  | touching => exact ⟨_, rfl⟩

/-- Spaces that part some words that touch, and no word. -/
theorem spaced {breaks : Char → List Char → Bool}
    (hinside : ∀ (w : Word) (rest : List Char), (∀ c ∈ rest.head?, isLower c = false) →
      ∀ x y ys, x :: y :: ys <:+ w.chars → breaks x (y :: ys ++ rest) = false)
    (hgap : ∀ a rest, a = ' ' ∨ (∀ c ∈ rest.head?, c = ' ') → breaks a rest = false)
    (htouch : ∀ (w v : Word) (rest : List Char), Touch w.style v.style →
      (∀ c ∈ (v.chars ++ rest).head?, isLower c = false) ∧
        (breaks (w.chars.getLast w.ne_nil) (v.chars ++ rest) = true ∨
          breaks (w.chars.getLast w.ne_nil) (v.chars ++ rest) = false ∧ Touch' w.style v.style))
    (h : Joined ' ' Touch ws cs) : Joined ' ' Touch' ws (spaceBehind breaks cs) := by
  induction h with
  | last w =>
    have happend := spaceBehind_append w.ne_nil (hinside w [] nofun)
    rw [hgap _ [] (.inr nofun), if_neg Bool.false_ne_true, List.append_nil] at happend
    rw [happend, spaceBehind, List.append_nil]
    exact .last w
  | @apart w v ws cs _ ih =>
    have hspace : ∀ c ∈ (' ' :: cs).head?, c = ' ' := fun c hc ↦ (Option.some_inj.mp hc).symm
    rw [spaceBehind_append w.ne_nil (hinside w _ fun c hc ↦ by rw [hspace c hc]; rfl),
      hgap _ _ (.inr hspace), if_neg Bool.false_ne_true, spaceBehind, hgap _ _ (.inl rfl),
      if_neg Bool.false_ne_true]
    exact .apart ih
  | @touching w v ws cs htouches hrest ih =>
    obtain ⟨rest, rfl⟩ := hrest.exists_append
    obtain ⟨hhead, hbreaks⟩ := htouch w v rest htouches
    rw [spaceBehind_append w.ne_nil (hinside w _ hhead)]
    rcases hbreaks with hbreaks | ⟨hbreaks, htouches'⟩
    · rw [hbreaks, if_pos rfl]
      exact .apart ih
    · rw [hbreaks, if_neg Bool.false_ne_true]
      exact .touching htouches' ih

end Joined

section Boundaries

variable {w v : Word} {a x y : Char} {ys rest : List Char}

theorem Word.beforeCapital_eq_false (h : x :: y :: ys <:+ w.chars) (rest : List Char) :
    beforeCapital x (y :: ys ++ rest) = false := by
  rw [List.cons_append, beforeCapital, List.head?_cons, Option.any_some]
  rcases w.cases_pair h with hy | hall
  · rw [not_isUpper_of_isLower hy, Bool.and_false]
  · rw [not_isLowerOrDigit_of_isUpper (hall x (.head _)), Bool.false_and]

theorem Word.beforeLastCapital_eq_false (h : x :: y :: ys <:+ w.chars)
    (hrest : ∀ c ∈ rest.head?, isLower c = false) :
    beforeLastCapital x (y :: ys ++ rest) = false := by
  rw [List.cons_append, beforeLastCapital, List.head?_cons, Option.any_some, List.tail_cons]
  rcases w.cases_pair h with hy | hall
  · rw [not_isUpper_of_isLower hy, Bool.and_false, Bool.false_and]
  · have hthird : (ys ++ rest).head?.any isLower = false := by
      cases ys with
      | nil =>
        cases rest with
        | nil => rfl
        | cons c rest => exact hrest c rfl
      | cons z ys => exact not_isLower_of_isUpper (hall z (.tail _ (.tail _ (.head _))))
    rw [hthird, Bool.and_false]

theorem any_isUpper_of_gap (h : ∀ c ∈ rest.head?, c = ' ') : rest.head?.any isUpper = false := by
  cases rest with
  | nil => rfl
  | cons c rest =>
    rw [h c rfl]
    rfl

theorem beforeCapital_gap (h : a = ' ' ∨ ∀ c ∈ rest.head?, c = ' ') :
    beforeCapital a rest = false := by
  rcases h with rfl | h
  · rfl
  · rw [beforeCapital, any_isUpper_of_gap h, Bool.and_false]

theorem beforeLastCapital_gap (h : a = ' ' ∨ ∀ c ∈ rest.head?, c = ' ') :
    beforeLastCapital a rest = false := by
  rcases h with rfl | h
  · rfl
  · rw [beforeLastCapital, any_isUpper_of_gap h, Bool.and_false, Bool.false_and]

/-- Words end in a small letter, but for acronyms. -/
theorem Word.getLast_cases (w : Word) : isLower (w.chars.getLast w.ne_nil) ∨
    w.style = .acronym ∧ isUpper (w.chars.getLast w.ne_nil) := by
  have hlast := List.getLast_mem w.ne_nil
  obtain ⟨style, chars, fits⟩ := w
  cases style with
  | capitalized =>
    obtain ⟨c, cs, rfl, -, hne, hcs⟩ := id fits
    refine .inl (hcs _ ?_)
    change List.getLast (c :: cs) _ ∈ cs
    rw [List.getLast_cons hne]
    exact List.getLast_mem hne
  | acronym => exact .inr ⟨rfl, fits.2 _ hlast⟩
  | small => exact .inl (fits.2 _ hlast)

theorem Word.exists_cons_cons (hv : v.style ≠ .small) :
    ∃ c d cs, v.chars = c :: d :: cs ∧ isUpper c ∧ (v.style = .capitalized → isLower d) := by
  obtain ⟨style, chars, fits⟩ := v
  cases style with
  | capitalized =>
    obtain ⟨c, cs, rfl, hc, hne, hcs⟩ := id fits
    cases cs with
    | nil => exact absurd rfl hne
    | cons d cs => exact ⟨c, d, cs, rfl, hc, fun _ ↦ hcs d (.head _)⟩
  | acronym =>
    obtain ⟨hlength, hall⟩ := id fits
    match chars, hlength with
    | c :: d :: cs, _ => exact ⟨c, d, cs, rfl, hall c (.head _), nofun⟩
  | small => exact absurd rfl hv

theorem Style.MayTouch.ne_small {s t : Style} (h : s.MayTouch t) : t ≠ .small := by
  rintro rfl
  cases s <;> exact h

theorem Style.MayTouch.eq_capitalized {t : Style} (h : acronym.MayTouch t) : t = .capitalized := by
  cases t with
  | capitalized => rfl
  | acronym => exact h.elim
  | small => exact h.elim

end Boundaries

namespace Joined

variable {ws : List Word} {cs : List Char}

theorem map_underscore {Touch : Style → Style → Prop} (h : Joined '_' Touch ws cs) :
    Joined ' ' Touch ws (cs.map fun c ↦ if c = '_' then ' ' else c) := by
  have hword (w : Word) : (w.chars.map fun c ↦ if c = '_' then ' ' else c) = w.chars := by
    refine (List.map_congr_left fun c hc ↦ ?_).trans (List.map_id _)
    exact if_neg (ne_underscore_of_letter (w.letters c hc))
  induction h with
  | last w =>
    rw [hword]
    exact .last w
  | apart _ ih =>
    rw [List.map_append, hword, List.map_cons, if_pos rfl]
    exact .apart ih
  | touching htouches _ ih =>
    rw [List.map_append, hword]
    exact .touching htouches ih

theorem splitCapitals (h : Joined ' ' Style.MayTouch ws cs) :
    Joined ' ' (fun s t ↦ s = .acronym ∧ t = .capitalized) ws (splitCapitals cs) := by
  rw [splitCapitals_eq]
  refine h.spaced (fun w rest _ x y ys hxy ↦ w.beforeCapital_eq_false hxy rest)
    (fun _ _ ↦ beforeCapital_gap) fun w v rest htouches ↦ ?_
  obtain ⟨c, d, cs, hv, hc, -⟩ := v.exists_cons_cons htouches.ne_small
  rw [hv, List.cons_append, beforeCapital, List.head?_cons, Option.any_some, hc, Bool.and_true]
  refine ⟨fun e he ↦ Option.some_inj.mp he ▸ not_isLower_of_isUpper hc, ?_⟩
  rcases w.getLast_cases with hlower | ⟨hstyle, hupper⟩
  · exact .inl (isLowerOrDigit_of_isLower hlower)
  · rw [hstyle] at htouches ⊢
    exact .inr ⟨not_isLowerOrDigit_of_isUpper hupper, rfl, htouches.eq_capitalized⟩

theorem splitAcronyms (h : Joined ' ' (fun s t ↦ s = .acronym ∧ t = .capitalized) ws cs) :
    Joined ' ' (fun _ _ ↦ False) ws (splitAcronyms cs) := by
  rw [splitAcronyms_eq]
  refine h.spaced (fun w rest hrest x y ys hxy ↦ w.beforeLastCapital_eq_false hxy hrest)
    (fun _ _ ↦ beforeLastCapital_gap) fun w v rest ⟨hacronym, hcapitalized⟩ ↦ ?_
  obtain ⟨c, d, cs, hv, hc, hd⟩ := v.exists_cons_cons (by rw [hcapitalized]; exact nofun)
  have hlast : isUpper (w.chars.getLast w.ne_nil) := by
    obtain ⟨style, chars, fits⟩ := w
    cases hacronym
    exact fits.2 _ (List.getLast_mem _)
  rw [hv, List.cons_append, List.cons_append, beforeLastCapital, List.tail_cons, List.head?_cons,
    List.head?_cons, Option.any_some, Option.any_some, hlast, hc, hd hcapitalized]
  exact ⟨fun e he ↦ Option.some_inj.mp he ▸ not_isLower_of_isUpper hc, .inl rfl⟩

theorem eq_intercalate (h : Joined ' ' (fun _ _ ↦ False) ws cs) :
    cs = [' '].intercalate (ws.map Word.chars) := by
  induction h with
  | last w => rw [List.map_singleton, List.intercalate_singleton]
  | apart _ ih =>
    rw [ih, List.map_cons, List.map_cons, List.map_cons, List.intercalate_cons_cons,
      List.append_assoc, List.singleton_append]
  | touching htouches => exact htouches.elim

end Joined

namespace Word

variable (w : Word)

theorem isLower_of_singleton {a : Char} (h : w.chars = [a]) : isLower a := by
  by_cases hstyle : w.style = .small
  · obtain ⟨style, chars, fits⟩ := w
    cases hstyle
    cases h
    exact fits.2 a (.head _)
  · obtain ⟨c, d, cs, hcons, -⟩ := exists_cons_cons hstyle
    rw [h] at hcons
    cases hcons

/-- No word is a capital that stands alone. -/
theorem endsInLetter_chars : endsInLetter w.chars = false := by
  unfold endsInLetter
  split
  · rfl
  · next a before hreverse =>
    cases before with
    | nil =>
      have ha := w.isLower_of_singleton (List.reverse_eq_iff.mp hreverse)
      rw [not_isUpper_of_isLower ha, Bool.false_and]
    | cons b before =>
      have hmem : b ∈ w.chars := by
        rw [← List.mem_reverse, hreverse]
        exact .tail _ (.head _)
      rw [List.head?_cons, Option.any_some, isWordChar_of_letter (w.letters b hmem), Bool.not_true,
        Bool.and_false]

theorem capitalize_cons {c : Char} {cs : List Char} (hc : isUpper c ∨ isLower c)
    (hcs : ∀ x ∈ cs, isLower x) (hne : isAcronym (c :: cs) = false) :
    capitalize (c :: cs) = c.toUpper :: cs := by
  have hascii : ∀ x ∈ cs, x.toNat < 0x80 := fun x hx ↦ toNat_lt_of_letter (.inr (hcs x hx))
  have hlower : Text.lowerChars cs = cs := by
    rw [Text.lowerChars, Text.lowerFrom_of_ascii hascii]
    exact (List.map_congr_left fun x hx ↦ toLower_of_isLower (hcs x hx)).trans (List.map_id _)
  rw [capitalize, hne, if_neg Bool.false_ne_true, hlower, Text.upperChar,
    if_pos (toNat_lt_of_letter hc), List.singleton_append]

theorem isAcronym_eq_false {cs : List Char} {c : Char} (hc : c ∈ cs) (hlower : isLower c) :
    isAcronym cs = false := by
  rw [isAcronym, Bool.and_eq_false_iff]
  refine .inr (List.all_eq_false.mpr ⟨c, hc, ?_⟩)
  rw [not_isUpper_of_isLower hlower]
  exact Bool.false_ne_true

theorem capitalize_chars : capitalize w.chars = w.title := by
  obtain ⟨style, chars, fits⟩ := w
  cases style with
  | capitalized =>
    obtain ⟨c, cs, rfl, hc, hne, hcs⟩ := id fits
    obtain ⟨d, hd⟩ := List.exists_mem_of_ne_nil cs hne
    change capitalize (c :: cs) = c :: cs
    rw [capitalize_cons (.inl hc) hcs (isAcronym_eq_false (.tail _ hd) (hcs d hd)),
      toUpper_of_isUpper hc]
  | acronym =>
    have hacronym : isAcronym chars = true := by
      rw [isAcronym, List.all_eq_true.mpr fits.2, Bool.and_true, Bool.not_eq_true',
        List.isEmpty_eq_false_iff]
      exact (⟨.acronym, chars, fits⟩ : Word).ne_nil
    exact if_pos hacronym
  | small =>
    obtain ⟨hne, hcs⟩ := id fits
    cases chars with
    | nil => exact absurd rfl hne
    | cons c cs =>
      exact capitalize_cons (.inr (hcs c (.head _))) (fun x hx ↦ hcs x (.tail _ hx))
        (isAcronym_eq_false (.head _) (hcs c (.head _)))

end Word

theorem joinLetters_chars (ws : List Word) :
    joinLetters false (ws.map Word.chars) = ws.map Word.chars := by
  induction ws with
  | nil => rfl
  | cons w ws ih =>
    cases ws with
    | nil => rfl
    | cons v ws =>
      rw [List.map_cons] at ih
      rw [List.map_cons, List.map_cons, joinLetters, w.endsInLetter_chars, Bool.and_false,
        Bool.false_and, if_neg Bool.false_ne_true, ih]

/-- Names in camel case and in snake case, and in both, are shown in the same words. -/
theorem format_of_joined {ws : List Word} {name : String}
    (h : Joined '_' Style.MayTouch ws name.toList) :
    format name = .ofList ([' '].intercalate (ws.map Word.title)) := by
  have hjoined := h.map_underscore.splitCapitals.splitAcronyms.eq_intercalate
  have hletters : ∀ w ∈ ws.map Word.chars, w ≠ [] ∧ ∀ x ∈ w, Text.isBlank x = false := by
    refine List.forall_mem_map.mpr fun w _ ↦ ⟨w.ne_nil, fun x hx ↦ ?_⟩
    exact not_isBlank_of_letter (w.letters x hx)
  have hwords := Text.words_intercalate hletters (List.forall_mem_nil _)
  rw [List.append_nil] at hwords
  have htitles : (ws.map Word.chars).map capitalize = ws.map Word.title := by
    rw [List.map_map]
    exact List.map_congr_left fun w _ ↦ w.capitalize_chars
  rw [format, formatChars, wordsOf, hjoined, hwords, joinLetters_chars,
    Text.joinWith_eq_intercalate, htitles]

/-- Capitals that belong to one word and to the next, and words of one letter. -/
theorem format_of_joined_mixed :
    let http : Word := ⟨.acronym, ['H', 'T', 'T', 'P'], by decide, List.all_eq_true.mp rfl⟩
    let server : Word :=
      ⟨.capitalized, ['S', 'e', 'r'], 'S', ['e', 'r'], rfl, rfl, by decide, List.all_eq_true.mp rfl⟩
    let x : Word := ⟨.small, ['x'], by decide, List.all_eq_true.mp rfl⟩
    let dt : Word := ⟨.acronym, ['D', 'T'], by decide, List.all_eq_true.mp rfl⟩
    Joined '_' Style.MayTouch [http, server, x, dt, server, server, x, x, dt, http]
      "HTTPSer_xDTSerSer_x_x_DT_HTTP".toList ∧
    format "HTTPSer_xDTSerSer_x_x_DT_HTTP" = "HTTP Ser X DT Ser Ser X X DT HTTP" := by
  intro http server x dt
  have h : Joined '_' Style.MayTouch [http, server, x, dt, server, server, x, x, dt, http]
      "HTTPSer_xDTSerSer_x_x_DT_HTTP".toList :=
    .touching trivial <| .apart <| .touching trivial <| .touching trivial <|
      .touching trivial <| .apart <|
      .apart <| .apart <| .apart <| .last http
  exact ⟨h, (format_of_joined h).trans rfl⟩

end TwinDiagram.Label
