import TwinDiagram.Proofs.Json.RoundTrip
import TwinDiagram.Proofs.Json.Spelling
import Mathlib.Data.List.TakeWhile

namespace TwinDiagram.Json

/-- A place in JSON text: that many lists and objects are open, and perhaps a text. -/
inductive Nesting where
  | between (depth : Nat)
  | inText (depth : Nat)
  | inEscape (depth : Nat)

namespace Nesting

def next : Nesting → Char → Nesting
  | between d, c =>
    if c = '\u0022' then inText d
    else if c = '[' ∨ c = '\x7b' then between (d + 1)
    else if c = ']' ∨ c = '\x7d' then between (d - 1)
    else between d
  | inText d, c => if c = '\u0022' then between d else if c = '\\' then inEscape d else inText d
  | inEscape d, _ => inText d

def after (n : Nesting) (cs : List Char) : Nesting := cs.foldl next n

/-- How much is open. -/
def height : Nesting → Nat
  | between d => d
  | inText d => d + 1
  | inEscape d => d + 1

variable {n : Nesting} {d : Nat}

@[simp]
theorem after_nil : n.after [] = n := rfl

@[simp]
theorem after_cons {c : Char} {cs : List Char} : n.after (c :: cs) = (n.next c).after cs := rfl

theorem after_append {cs ds : List Char} : n.after (cs ++ ds) = (n.after cs).after ds :=
  List.foldl_append

theorem next_of_isPlain {c : Char} (h : isPlain c) : (between d).next c = between d := by
  have hmark {mark : Char} (hmark : isPlain mark = false) : c ≠ mark := by
    rintro rfl
    rw [h] at hmark
    cases hmark
  have hopen : ¬ (c = '[' ∨ c = '\x7b') := not_or.mpr ⟨hmark rfl, hmark rfl⟩
  have hclose : ¬ (c = ']' ∨ c = '\x7d') := not_or.mpr ⟨hmark rfl, hmark rfl⟩
  rw [next, if_neg (hmark rfl), if_neg hopen, if_neg hclose]

theorem next_of_isSpace {c : Char} (h : isSpace c) : (between d).next c = between d := by
  simp only [isSpace, Bool.or_eq_true, beq_iff_eq] at h
  obtain ((rfl | rfl) | rfl) | rfl := h <;> rfl

theorem next_inText {c : Char} (hquote : c ≠ '\u0022') (hslash : c ≠ '\\') :
    (inText d).next c = inText d := by rw [next, if_neg hquote, if_neg hslash]

theorem after_of_forall {cs : List Char} (h : ∀ c ∈ cs, n.next c = n) : n.after cs = n := by
  induction cs with
  | nil => rfl
  | cons c cs ih =>
    obtain ⟨hc, hcs⟩ := List.forall_mem_cons.mp h
    rw [after_cons, hc, ih hcs]

def Moves (start finish : Nat → Nesting) (cs : List Char) : Prop :=
  ∀ d, (start d).after cs = finish d

namespace Moves

variable {start middle finish : Nat → Nesting} {cs ds : List Char}

theorem nil : Moves start start [] := fun _ ↦ rfl

theorem cons {c : Char} (hc : ∀ d, (start d).next c = middle d) (h : Moves middle finish cs) :
    Moves start finish (c :: cs) := fun d ↦ by rw [after_cons, hc, h d]

theorem append (h : Moves start middle cs) (h' : Moves middle finish ds) :
    Moves start finish (cs ++ ds) := fun d ↦ by rw [after_append, h d, h' d]

theorem of_forall (h : ∀ c ∈ cs, ∀ d, (start d).next c = start d) : Moves start start cs :=
  fun d ↦ after_of_forall fun c hc ↦ h c hc d

theorem down (h : Moves start finish cs) :
    Moves (fun d ↦ start (d + 1)) (fun d ↦ finish (d + 1)) cs :=
  fun d ↦ h (d + 1)

end Moves

end Nesting

open Nesting

section Reader

def Leads {α : Type} (read : List Char → Option (α × List Char))
    (start finish : Nat → Nesting) : Prop :=
  ∀ {cs a rest}, read cs = some (a, rest) → ∃ taken, cs = taken ++ rest ∧ Moves start finish taken

variable {α : Type} {rest : List Char} {depth steps : Nat}

theorem Stops.isPlain_of_mem {read : List Char → Option (α × List Char)} (h : Stops read) {a : α}
    {taken : List Char} (hread : read (taken ++ rest) = some (a, rest)) :
    ∀ c ∈ taken, isPlain c := by
  intro c hc
  by_contra hmark
  obtain ⟨before, behind, rfl⟩ := List.append_of_mem hc
  have hends : Ends (c :: (behind ++ rest)) := ends_cons (Bool.eq_false_iff.mpr hmark) _
  rw [List.append_assoc, List.cons_append, h.append _ hends, Option.map_eq_some_iff] at hread
  obtain ⟨r, -, hr⟩ := hread
  have hlength := congrArg (fun r ↦ r.2.length) hr
  simp only [List.length_append, List.length_cons] at hlength
  omega

theorem Stops.leads {read : List Char → Option (α × List Char)} (h : Stops read) :
    Leads read between between := by
  intro cs a rest hread
  obtain ⟨taken, rfl⟩ := h.suffix hread
  exact ⟨taken, rfl, .of_forall fun c hc _ ↦ next_of_isPlain (h.isPlain_of_mem hread c hc)⟩

theorem exists_gap (cs : List Char) : ∃ gap, cs = gap ++ skipSpace cs ∧ Moves between between gap :=
  ⟨cs.takeWhile isSpace, List.takeWhile_append_dropWhile.symm,
    .of_forall fun _ hc _ ↦ next_of_isSpace (List.mem_takeWhile_imp hc)⟩

theorem next_of_hexValue {c : Char} {n d : Nat} (h : Text.hexValue c = some n) :
    (inText d).next c = inText d := by
  apply next_inText <;> rintro rfl <;> cases h

theorem leads_readUnit : Leads readUnit inText inText := by
  intro cs u rest h
  unfold readUnit at h
  split at h
  · next a b c e rest =>
    simp only [Option.bind_eq_bind, Option.bind_eq_some_iff, Option.pure_def, Option.some_inj,
      Prod.mk.injEq] at h
    obtain ⟨_, ha, _, hb, _, hc, _, he, -, rfl⟩ := h
    have hdigits : Moves inText inText [a, b, c, e] := .of_forall <| by
      simp only [List.forall_mem_cons]
      exact ⟨fun _ ↦ next_of_hexValue ha, fun _ ↦ next_of_hexValue hb, fun _ ↦ next_of_hexValue hc,
        fun _ ↦ next_of_hexValue he, nofun⟩
    exact ⟨[a, b, c, e], rfl, hdigits⟩
  · cases h

theorem leads_readUnicode : Leads readUnicode inText inText := by
  intro cs c rest h
  unfold readUnicode at h
  split at h
  · cases h
  next u rest' hu =>
  obtain ⟨taken, rfl, hunit⟩ := leads_readUnit hu
  split at h
  · cases h
    exact ⟨taken, rfl, hunit⟩
  split at h
  · cases h
  split at h
  · next second =>
    split at h
    · cases h
    next v rest' hv =>
    obtain ⟨taken', rfl, hunit'⟩ := leads_readUnit hv
    split at h
    case isFalse => cases h
    obtain ⟨-, rfl⟩ := Prod.mk.inj (Option.some.inj h)
    have hmark : Moves inText inText ['\\', 'u'] := fun _ ↦ rfl
    exact ⟨taken ++ (['\\', 'u'] ++ taken'), by simp, hunit.append (hmark.append hunit')⟩
  · cases h

theorem leads_readEscape : Leads readEscape inEscape inText := by
  intro cs c rest h
  unfold readEscape at h
  split at h
  · obtain ⟨taken, rfl, hunicode⟩ := leads_readUnicode h
    exact ⟨'u' :: taken, rfl, .cons (fun _ ↦ rfl) hunicode⟩
  case h_10 => cases h
  all_goals
    cases h
    exact ⟨[_], rfl, fun _ ↦ rfl⟩

theorem leads_readText (done : List Char) (steps : Nat) :
    Leads (readText done steps) inText between := by
  induction steps generalizing done with
  | zero => exact fun h ↦ nomatch h
  | succ steps ih =>
    intro cs t rest h
    unfold readText at h
    split at h
    · cases h
    · cases h
      exact ⟨['\u0022'], rfl, fun _ ↦ rfl⟩
    · split at h
      · cases h
      next c rest' hescape =>
      obtain ⟨taken, rfl, hcharacter⟩ := leads_readEscape hescape
      obtain ⟨taken', rfl, htext⟩ := ih _ h
      exact ⟨'\\' :: (taken ++ taken'), by simp, .cons (fun _ ↦ rfl) (hcharacter.append htext)⟩
    · next c rest' hquote hslash =>
      split at h
      · cases h
      obtain ⟨taken, rfl, htext⟩ := ih _ h
      exact ⟨c :: taken, rfl, .cons (fun _ ↦ next_inText hquote hslash) htext⟩

/-- Items lead on to the mark that closes them. -/
theorem leads_readItems {item : List Char → Option (α × List Char)} {close : Char}
    (hitem : Leads item between between) (hclose : ∀ d, (between (d + 1)).next close = between d)
    (steps : Nat) : Leads (readItems item close steps) (fun d ↦ between (d + 1)) between := by
  induction steps with
  | zero => exact fun h ↦ nomatch h
  | succ steps ih =>
    intro cs as rest h
    obtain ⟨gap, hgap, hspace⟩ := exists_gap cs
    rw [readItems] at h
    split at h
    · cases h
    next a rest' hread =>
    obtain ⟨taken, htaken, hvalue⟩ := hitem hread
    obtain ⟨gap', hgap', hspace'⟩ := exists_gap rest'
    split at h
    · cases h
    next c rest'' hskip =>
    have hcs : cs = (gap ++ (taken ++ gap')) ++ c :: rest'' := by
      rw [hgap, htaken, hgap', hskip]
      simp
    have hitem : Moves between between (gap ++ (taken ++ gap')) :=
      hspace.append (hvalue.append hspace')
    split at h
    · next hc =>
      cases h
      refine ⟨(gap ++ (taken ++ gap')) ++ [c], by rw [hcs]; simp, hitem.down.append ?_⟩
      exact .cons (by rwa [hc]) .nil
    split at h
    · next hc =>
      obtain ⟨r, hr, hrest⟩ := Option.map_eq_some_iff.mp h
      cases hrest
      obtain ⟨taken', htaken', hitems⟩ := ih hr
      refine ⟨(gap ++ (taken ++ gap')) ++ c :: taken', by rw [hcs, htaken']; simp,
        hitem.down.append (.cons ?_ hitems)⟩
      rw [hc]
      exact fun _ ↦ rfl
    · cases h

theorem leads_readField {value : List Char → Option (Json × List Char)}
    (hvalue : Leads value between between) : Leads (readField value steps) between between := by
  intro cs f rest h
  unfold readField at h
  split at h
  · split at h
    · cases h
    next key rest' hkey =>
    obtain ⟨taken, rfl, htext⟩ := leads_readText [] steps hkey
    obtain ⟨gap, hgap, hspace⟩ := exists_gap rest'
    split at h
    · next rest'' hcolon =>
      obtain ⟨r, hr, hrest⟩ := Option.map_eq_some_iff.mp h
      cases hrest
      obtain ⟨taken', htaken', hmoves⟩ := hvalue hr
      obtain ⟨gap', hgap', hspace'⟩ := exists_gap rest''
      refine ⟨'\u0022' :: (taken ++ (gap ++ ':' :: (gap' ++ taken'))), ?_, ?_⟩
      · rw [hgap, hcolon, hgap', htaken']
        simp
      · exact .cons (fun _ ↦ rfl)
          (htext.append (hspace.append (.cons (fun _ ↦ rfl) (hspace'.append hmoves))))
    · cases h
  · cases h

theorem exists_taken_cons {mark : Char} (hmark : ∀ d, (between d).next mark = between (d + 1))
    {cs : List Char}
    (h : ∃ taken, skipSpace cs = taken ++ rest ∧ Moves (fun d ↦ between (d + 1)) between taken) :
    ∃ taken, mark :: cs = taken ++ rest ∧ Moves between between taken := by
  obtain ⟨taken, htaken, hmoves⟩ := h
  obtain ⟨gap, hgap, hspace⟩ := exists_gap cs
  refine ⟨mark :: (gap ++ taken), ?_, .cons hmark (hspace.down.append hmoves)⟩
  rw [List.cons_append, List.append_assoc, ← htaken, ← hgap]

theorem leads_readValue (steps depth : Nat) : Leads (readValue steps depth) between between := by
  induction depth using Nat.strong_induction_on with
  | _ depth ih =>
    intro cs j rest h
    unfold readValue at h
    split at h
    · obtain ⟨r, hr, hrest⟩ := Option.map_eq_some_iff.mp h
      cases hrest
      obtain ⟨taken, rfl, htext⟩ := leads_readText [] steps hr
      exact ⟨'\u0022' :: taken, rfl, .cons (fun _ ↦ rfl) htext⟩
    · refine exists_taken_cons (fun _ ↦ rfl) ?_
      split at h
      · next rest' hskip =>
        cases h
        exact ⟨[']'], hskip, fun _ ↦ rfl⟩
      · split at h
        · cases h
        · next depth' =>
          obtain ⟨r, hr, hrest⟩ := Option.map_eq_some_iff.mp h
          cases hrest
          exact leads_readItems (ih depth' (Nat.lt_succ_self _)) (fun _ ↦ rfl) steps hr
    · refine exists_taken_cons (fun _ ↦ rfl) ?_
      split at h
      · next rest' hskip =>
        cases h
        exact ⟨['\x7d'], hskip, fun _ ↦ rfl⟩
      · split at h
        · cases h
        · next depth' =>
          obtain ⟨r, hr, hrest⟩ := Option.map_eq_some_iff.mp h
          cases hrest
          exact leads_readItems (leads_readField (ih depth' (Nat.lt_succ_self _)))
            (fun _ ↦ rfl) steps hr
    · exact Stops.atom.leads h

/-- Text that is read as a whole closes all that it opens. -/
theorem after_of_readWithin {depth : Nat} {cs : List Char} {j : Json}
    (h : readWithin depth cs = some j) : cs ≠ [] ∧ (between 0).after cs = between 0 := by
  unfold readWithin at h
  split at h
  · next j' rest hread =>
    obtain ⟨gap, hgap, hspace⟩ := exists_gap cs
    obtain ⟨taken, htaken, hmoves⟩ := leads_readValue _ _ hread
    obtain ⟨gap', hgap', hspace'⟩ := exists_gap rest
    split at h
    · next hempty =>
      rw [List.isEmpty_iff.mp hempty] at hgap'
      refine ⟨?_, ?_⟩
      · rintro rfl
        simp only [skipSpace, List.dropWhile_nil, readValue] at hread
        cases hread
      · rw [hgap, htaken, hgap', List.append_nil]
        exact hspace.append (hmoves.append hspace') 0
    · cases h
  · cases h

end Reader

section Printer

/-- The way from the one place to the other, with at least so much open all along. -/
inductive Above (floor : Nat) : Nesting → List Char → Nesting → Prop
  | nil {n : Nesting} : floor ≤ n.height → Above floor n [] n
  | cons {n m : Nesting} {c : Char} {cs : List Char} : floor ≤ n.height →
    Above floor (n.next c) cs m →
      Above floor n (c :: cs) m

namespace Above

variable {floor : Nat} {n m k : Nesting} {cs ds : List Char}

theorem append (h : Above floor n cs m) (h' : Above floor m ds k) : Above floor n (cs ++ ds) k := by
  induction h with
  | nil => exact h'
  | cons hfloor _ ih => exact .cons hfloor (ih h')

theorem mono {low : Nat} (h : Above floor n cs m) (hlow : low ≤ floor) : Above low n cs m := by
  induction h with
  | nil hfloor => exact .nil (hlow.trans hfloor)
  | cons hfloor _ ih => exact .cons (hlow.trans hfloor) ih

theorem floor_le (h : Above floor n (cs ++ ds) m) : floor ≤ (n.after cs).height := by
  induction cs generalizing n with
  | nil => cases h <;> assumption
  | cons c cs ih =>
    cases h with
    | cons _ h => exact ih h

theorem of_forall (hn : floor ≤ n.height) (h : ∀ c ∈ cs, n.next c = n) : Above floor n cs n := by
  induction cs with
  | nil => exact .nil hn
  | cons c cs ih =>
    obtain ⟨hc, hcs⟩ := List.forall_mem_cons.mp h
    exact .cons hn (by rw [hc]; exact ih hcs)

end Above

variable {s : Spacing}

theorem next_hexDigit (n d : Nat) : (inText d).next (Text.hexDigit (n % 16)) = inText d :=
  next_of_hexValue (Text.hexValue_hexDigit (Nat.mod_lt _ (by decide)))

theorem above_unicodeEscape (n d : Nat) :
    Above (d + 1) (inText d) (unicodeEscape n) (inText d) := by
  have hdigits : Above (d + 1) (inText d) (Text.hex 4 n) (inText d) := by
    refine .of_forall (Nat.le_refl _) ?_
    simp only [Text.hex_four, List.forall_mem_cons]
    exact ⟨next_hexDigit _ _, next_hexDigit _ _, next_hexDigit _ _, next_hexDigit _ _, nofun⟩
  exact .cons (Nat.le_refl _) (.cons (Nat.le_refl _) hdigits)

theorem above_escapeChar (c : Char) (d : Nat) :
    Above (d + 1) (inText d) (escapeChar c) (inText d) := by
  have hescaped := escaped_escapeChar c
  generalize escapeChar c = cs at hescaped
  cases hescaped with
  | mark _ _ => exact .cons (Nat.le_refl _) (.cons (Nat.le_refl _) (.nil (Nat.le_refl _)))
  | plain hquote hslash _ _ =>
    exact .of_forall (Nat.le_refl _) (List.forall_mem_singleton.mpr (next_inText hquote hslash))
  | unit _ => exact above_unicodeEscape _ d
  | pair _ => exact (above_unicodeEscape _ d).append (above_unicodeEscape _ d)

theorem above_printText (t : String) (d : Nat) : Above d (between d) (printText t) (between d) := by
  have hescaped (cs : List Char) : Above (d + 1) (inText d) (cs.flatMap escapeChar) (inText d) := by
    induction cs with
    | nil => exact .nil (Nat.le_refl _)
    | cons c cs ih => exact (above_escapeChar c d).append ih
  have hclose : Above d (inText d) ['\u0022'] (between d) :=
    .cons (Nat.le_succ d) (.nil (Nat.le_refl d))
  exact (Above.cons (Nat.le_refl d) ((hescaped t.toList).mono (Nat.le_succ d))).append hclose

theorem above_newline (s : Spacing) (level d : Nat) :
    Above d (between d) (s.newline level) (between d) :=
  .of_forall (Nat.le_refl d) fun c hc ↦ next_of_isSpace (s.isSpace_newline level c hc)

theorem Spacing.Proper.above_comma (hs : s.Proper) (d : Nat) :
    Above d (between d) s.comma (between d) := by
  obtain ⟨gap, hgap, hspace⟩ := hs.comma
  rw [hgap]
  exact .cons (Nat.le_refl d) (.of_forall (Nat.le_refl d) fun c hc ↦ next_of_isSpace (hspace c hc))

theorem Spacing.Proper.above_colon (hs : s.Proper) (d : Nat) :
    Above d (between d) s.colon (between d) := by
  obtain ⟨gap, hgap, hspace⟩ := hs.colon
  rw [hgap]
  exact .cons (Nat.le_refl d) (.of_forall (Nat.le_refl d) fun c hc ↦ next_of_isSpace (hspace c hc))

theorem above_flatMap {α : Type} {piece : α → List Char} {as : List α} {d : Nat}
    (h : ∀ a ∈ as, Above d (between d) (piece a) (between d)) :
    Above d (between d) (as.flatMap piece) (between d) := by
  induction as with
  | nil => exact .nil (Nat.le_refl d)
  | cons a as ih =>
    obtain ⟨ha, has⟩ := List.forall_mem_cons.mp h
    exact ha.append (ih has)

/-- Text that stays above `d` between a mark that opens a level and one that closes it. -/
def Enclosed (start finish : Char) (cs : List Char) : Prop :=
  ∃ middle, cs = start :: (middle ++ [finish]) ∧ ∀ d, Above d (between d) middle (between d)

theorem Enclosed.above {start finish : Char} {cs : List Char} (h : Enclosed start finish cs)
    (hstart : ∀ d, (between d).next start = between (d + 1))
    (hfinish : ∀ d, (between (d + 1)).next finish = between d) (d : Nat) :
    Above d (between d) cs (between d) := by
  obtain ⟨middle, rfl, hmiddle⟩ := h
  have hclose : Above d (between (d + 1)) [finish] (between d) := by
    refine .cons (Nat.le_succ d) ?_
    rw [hfinish]
    exact .nil (Nat.le_refl d)
  refine .cons (Nat.le_refl d) ?_
  rw [hstart]
  exact ((hmiddle (d + 1)).mono (Nat.le_succ d)).append hclose

/-- One or more items between the marks of a list or an object. -/
theorem Spacing.Proper.enclosed {α : Type} (hs : s.Proper) {piece : α → List Char} {a : α}
    {as : List α}
    (h : ∀ b ∈ a :: as, ∀ d, Above d (between d) (piece b) (between d)) (level : Nat)
    (start finish : Char) :
    Enclosed start finish (start :: (s.newline (level + 1) ++ (piece a ++
      (as.flatMap (fun b ↦ s.comma ++ (s.newline (level + 1) ++ piece b)) ++
        (s.newline level ++ [finish]))))) := by
  obtain ⟨ha, has⟩ := List.forall_mem_cons.mp h
  refine ⟨s.newline (level + 1) ++ (piece a ++
    (as.flatMap (fun b ↦ s.comma ++ (s.newline (level + 1) ++ piece b)) ++ s.newline level)),
    by simp, fun d ↦ ?_⟩
  have hitems : Above d (between d)
      (as.flatMap fun b ↦ s.comma ++ (s.newline (level + 1) ++ piece b)) (between d) :=
    above_flatMap fun b hb ↦ (hs.above_comma d).append ((above_newline s _ d).append (has b hb d))
  exact (above_newline s _ d).append ((ha d).append (hitems.append (above_newline s _ d)))

theorem enclosed_print_list (hs : s.Proper) {js : List Json}
    (h : ∀ j ∈ js, ∀ level d, Above d (between d) (print s level j) (between d)) (level : Nat) :
    Enclosed '[' ']' (print s level (.list js)) := by
  cases js with
  | nil =>
    rw [print]
    exact ⟨[], rfl, fun d ↦ .nil (Nat.le_refl d)⟩
  | cons j js =>
    rw [print_list_cons, printItems_eq]
    exact hs.enclosed (fun k hk ↦ h k hk _) level _ _

theorem enclosed_print_fields (hs : s.Proper) {fields : List (String × Json)}
    (h : ∀ f ∈ fields, ∀ level d, Above d (between d) (print s level f.2) (between d))
    (level : Nat) :
    Enclosed '\x7b' '\x7d' (print s level (.object fields)) := by
  cases fields with
  | nil =>
    rw [print]
    exact ⟨[], rfl, fun d ↦ .nil (Nat.le_refl d)⟩
  | cons f fields =>
    have hfield : ∀ f' ∈ f :: fields, ∀ d,
        Above d (between d) (printField s (level + 1) f') (between d) :=
      fun f' hf' d ↦ (above_printText f'.1 d).append ((hs.above_colon d).append (h f' hf' _ d))
    rw [print_object_cons, printFields_eq]
    exact hs.enclosed hfield level _ _

theorem above_print (hs : s.Proper) (j : Json) :
    ∀ level d, Above d (between d) (print s level j) (between d) := by
  induction j using Json.induction with
  | leaf j hj =>
    intro level d
    rw [print_leaf hj]
    cases htext : j.text? with
    | none =>
      exact .of_forall (Nat.le_refl d) fun c hc ↦ next_of_isPlain ((plain_print hj htext).2 c hc)
    | some t =>
      cases j with
      | text t =>
        rw [print]
        exact above_printText t d
      | _ => cases htext
  | list js ih =>
    exact fun level ↦ (enclosed_print_list hs ih level).above (fun _ ↦ rfl) fun _ ↦ rfl
  | object fields ih =>
    exact fun level ↦ (enclosed_print_fields hs ih level).above (fun _ ↦ rfl) fun _ ↦ rfl

/-- A printed object that is cut short is no JSON. -/
theorem readWithin_eq_none_of_print_object (hs : s.Proper) (fields : List (String × Json))
    (level depth : Nat) {part rest : List Char} (h : part ++ rest = print s level (.object fields))
    (hrest : rest ≠ []) : readWithin depth part = none := by
  have habove : ∀ f ∈ fields, ∀ level d, Above d (between d) (print s level f.2) (between d) :=
    fun f _ ↦ above_print hs f.2
  obtain ⟨middle, hprint, hmiddle⟩ := enclosed_print_fields hs habove level
  rw [hprint, ← List.dropLast_append_getLast hrest, ← List.append_assoc] at h
  by_contra hread
  obtain ⟨j, hj⟩ := Option.ne_none_iff_exists'.mp hread
  obtain ⟨hne, hclosed⟩ := after_of_readWithin hj
  obtain ⟨c, part, rfl⟩ := List.exists_cons_of_ne_nil hne
  rw [List.cons_append, List.cons_append, List.cons.injEq] at h
  obtain ⟨rfl, h⟩ := h
  -- All that follows the first brace and is not the last one stays above it.
  have habove := hmiddle 1
  rw [← (List.append_inj' h rfl).1] at habove
  have hopen : 1 ≤ ((between 1).after part).height := habove.floor_le
  rw [show (between 1).after part = between 0 from hclosed] at hopen
  cases hopen

end Printer

end TwinDiagram.Json
