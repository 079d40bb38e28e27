import TwinDiagram.Proofs.Json.Escape
import TwinDiagram.Proofs.Json.Word

namespace TwinDiagram.Json

/-- Texts and numbers that are read back, and lists and objects of such, at most so deep; no key is
there twice. -/
inductive Textual : Nat → Json → Prop
  | text (n : Nat) (t : String) : Textual n (.text t)
  | decimal (n : Nat) {x : Float} : ReadsBack x → Textual n (.decimal x)
  | list {n : Nat} {js : List Json} : (∀ j ∈ js, Textual n j) → Textual (n + 1) (.list js)
  | object {n : Nat} {fields : List (String × Json)} : (fields.map Prod.fst).Nodup →
      (∀ f ∈ fields, Textual n f.2) → Textual (n + 1) (.object fields)

structure Spacing.Proper (s : Spacing) : Prop where
  comma : ∃ gap, s.comma = ',' :: gap ∧ ∀ c ∈ gap, isSpace c
  colon : ∃ gap, s.colon = ':' :: gap ∧ ∀ c ∈ gap, isSpace c

theorem Spacing.proper_line : line.Proper :=
  ⟨⟨[' '], rfl, by simp [isSpace]⟩, ⟨[' '], rfl, by simp [isSpace]⟩⟩

theorem Spacing.proper_indented (n : Nat) : (indented n).Proper :=
  ⟨⟨[], rfl, by simp⟩, ⟨[' '], rfl, by simp [isSpace]⟩⟩

theorem Spacing.isSpace_newline (s : Spacing) (level : Nat) : ∀ c ∈ s.newline level, isSpace c := by
  intro c hc
  unfold newline at hc
  split at hc
  · cases hc
  · rcases List.mem_cons.mp hc with rfl | hc
    · rfl
    · rw [List.eq_of_mem_replicate hc]
      rfl

variable {s : Spacing} {level steps depth : Nat} {j : Json} {rest : List Char}

theorem length_le_flatMap {α β : Type} {f : α → List β} {as : List α}
    (h : ∀ a ∈ as, 0 < (f a).length) :
    as.length ≤ (as.flatMap f).length := by
  induction as with
  | nil => simp
  | cons a as ih =>
    obtain ⟨ha, has⟩ := List.forall_mem_cons.mp h
    have hrest := ih has
    simp only [List.flatMap_cons, List.length_cons, List.length_append]
    omega

theorem length_le_flatMap_of_mem {α β : Type} (f : α → List β) {a : α} {as : List α} (h : a ∈ as) :
    (f a).length ≤ (as.flatMap f).length := by
  obtain ⟨before, behind, rfl⟩ := List.append_of_mem h
  simp only [List.flatMap_append, List.flatMap_cons, List.length_append]
  omega

section Space

theorem skipSpace_append {gap : List Char} (h : ∀ c ∈ gap, isSpace c) (cs : List Char) :
    skipSpace (gap ++ cs) = skipSpace cs := List.dropWhile_append_of_pos h

theorem skipSpace_cons {c : Char} (h : isSpace c = false) (cs : List Char) :
    skipSpace (c :: cs) = c :: cs := List.dropWhile_cons_of_neg (by simp [h])

theorem skipSpace_printText (t : String) (rest : List Char) :
    skipSpace (printText t ++ rest) = printText t ++ rest := skipSpace_cons rfl _

end Space

section Print

def printField (s : Spacing) (level : Nat) (f : String × Json) : List Char :=
  printText f.1 ++ (s.colon ++ print s level f.2)

theorem printItems_eq (s : Spacing) (level : Nat) (js : List Json) :
    printItems s level js = js.flatMap fun j ↦ s.comma ++ (s.newline level ++ print s level j) := by
  induction js with
  | nil => rw [printItems, List.flatMap_nil]
  | cons j js ih => rw [printItems, ih, List.flatMap_cons]; simp

theorem printFields_eq (s : Spacing) (level : Nat) (fields : List (String × Json)) :
    printFields s level fields =
      fields.flatMap fun f ↦ s.comma ++ (s.newline level ++ printField s level f) := by
  induction fields with
  | nil => rw [printFields, List.flatMap_nil]
  | cons f fields ih => rw [printFields, ih, List.flatMap_cons, printField]; simp

theorem print_list_cons (s : Spacing) (level : Nat) (j : Json) (js : List Json) :
    print s level (.list (j :: js)) = '[' :: (s.newline (level + 1) ++ (print s (level + 1) j ++
      (printItems s (level + 1) js ++ (s.newline level ++ [']'])))) := by
  rw [print]
  simp

theorem print_object_cons (s : Spacing) (level : Nat) (f : String × Json)
    (fields : List (String × Json)) :
    print s level (.object (f :: fields)) = '\x7b' :: (s.newline (level + 1) ++
      (printField s (level + 1) f ++ (printFields s (level + 1) fields ++
        (s.newline level ++ ['\x7d'])))) := by
  rw [print, printField]
  simp

end Print

def opening : Json → Option Char
  | text _ => some '\u0022'
  | list _ => some '['
  | object _ => some '\x7b'
  | _ => none

/-- A value shows by its first character. -/
theorem print_eq_cons (j : Json) (s : Spacing) (level : Nat) :
    ∃ c cs, print s level j = c :: cs ∧ (j.opening = some c ∨ j.opening = none ∧ isPlain c) := by
  have hleaf {j : Json} (hj : j.isLeaf) (htext : j.text? = none) (hopening : j.opening = none) :
      ∃ c cs, print s level j = c :: cs ∧
        (j.opening = some c ∨ j.opening = none ∧ isPlain c) := by
    obtain ⟨hne, hplain⟩ := plain_print hj htext
    obtain ⟨c, cs, hcs⟩ := List.exists_cons_of_ne_nil hne
    refine ⟨c, cs, (print_leaf hj _ _).trans hcs, .inr ⟨hopening, hplain c ?_⟩⟩
    rw [hcs]
    exact .head _
  cases j with
  | text t => exact ⟨'\u0022', _, by rw [print]; rfl, .inl rfl⟩
  | list js =>
    cases js with
    | nil => exact ⟨'[', _, by rw [print], .inl rfl⟩
    | cons j js => exact ⟨'[', _, print_list_cons s level j js, .inl rfl⟩
  | object fields =>
    cases fields with
    | nil => exact ⟨'\x7b', _, by rw [print], .inl rfl⟩
    | cons f fields => exact ⟨'\x7b', _, print_object_cons s level f fields, .inl rfl⟩
  | _ => exact hleaf rfl rfl rfl

theorem print_eq_cons_of_start (j : Json) (s : Spacing) (level : Nat) :
    ∃ c cs, print s level j = c :: cs ∧ isSpace c = false ∧ c ≠ ']' := by
  obtain ⟨c, cs, hprint, hc⟩ := print_eq_cons j s level
  refine ⟨c, cs, hprint, ?_⟩
  obtain hopening | ⟨-, hplain⟩ := hc
  · cases j <;> cases hopening <;> exact ⟨rfl, by decide⟩
  · refine ⟨isSpace_of_isPlain hplain, ?_⟩
    rintro rfl
    cases hplain

theorem skipSpace_print (j : Json) (s : Spacing) (level : Nat) (rest : List Char) :
    skipSpace (print s level j ++ rest) = print s level j ++ rest := by
  obtain ⟨c, cs, hprint, hc, -⟩ := print_eq_cons_of_start j s level
  rw [hprint]
  exact skipSpace_cons hc _

theorem ends_cons {c : Char} (h : isPlain c = false) (cs : List Char) : Ends (c :: cs) := by
  intro d hd
  cases hd
  exact h

theorem Spacing.ends_newline (s : Spacing) (level : Nat) {close : Char} (h : isPlain close = false)
    (rest : List Char) : Ends (s.newline level ++ close :: rest) := by
  unfold newline
  split
  · exact ends_cons h rest
  · exact ends_cons rfl _

theorem Spacing.Proper.ends_comma (hs : s.Proper) (cs : List Char) : Ends (s.comma ++ cs) := by
  obtain ⟨gap, hgap, -⟩ := hs.comma
  rw [hgap]
  exact ends_cons rfl _

section Items

variable {α : Type} {piece : α → List Char} {item : List Char → Option (α × List Char)}
  {close : Char}

/-- Items that are read one by one are read in a row, whatever blanks stand between them. -/
theorem readItems_pieces (hs : s.Proper) (hclose : isSpace close = false)
    (hend : isPlain close = false) (hcomma : close ≠ ',') (rest : List Char) {a : α} {as : List α}
    {gap : List Char} (hgap : ∀ c ∈ gap, isSpace c)
    (hitem : ∀ b ∈ a :: as, ∀ rest, Ends rest → skipSpace (piece b ++ rest) = piece b ++ rest ∧
      item (piece b ++ rest) = some (b, rest)) (hsteps : as.length < steps) :
    readItems item close steps (gap ++ (piece a ++ (as.flatMap (fun b ↦
      s.comma ++ (s.newline level ++ piece b)) ++ (s.newline depth ++ close :: rest)))) =
      some (a :: as, rest) := by
  induction as generalizing a gap steps with
  | nil =>
    obtain ⟨steps, rfl⟩ := Nat.exists_eq_add_one_of_ne_zero (Nat.ne_of_gt hsteps)
    obtain ⟨hskip, hread⟩ := hitem a (.head _) (s.newline depth ++ close :: rest)
      (s.ends_newline depth hend rest)
    rw [List.flatMap_nil, List.nil_append, readItems, skipSpace_append hgap, hskip, hread]
    simp only [skipSpace_append (s.isSpace_newline depth), skipSpace_cons hclose, if_true]
  | cons b as ih =>
    obtain ⟨steps, rfl⟩ :=
      Nat.exists_eq_add_one_of_ne_zero (Nat.ne_of_gt (Nat.zero_lt_of_lt hsteps))
    obtain ⟨blanks, hblanks, hspace⟩ := hs.comma
    have hgap' : ∀ c ∈ blanks ++ s.newline level, isSpace c := by
      intro c hc
      exact (List.mem_append.mp hc).elim (hspace c) (s.isSpace_newline level c)
    have hrest := ih hgap' (fun b hb ↦ hitem b (.tail _ hb)) (Nat.lt_of_succ_lt_succ hsteps)
    obtain ⟨hskip, hread⟩ := hitem a (.head _) ((b :: as).flatMap (fun b ↦
      s.comma ++ (s.newline level ++ piece b)) ++ (s.newline depth ++ close :: rest))
      (by
        rw [List.flatMap_cons, List.append_assoc, List.append_assoc]
        exact hs.ends_comma _)
    rw [readItems, skipSpace_append hgap, hskip, hread, List.flatMap_cons, hblanks]
    simp only [List.cons_append, List.append_assoc] at hrest ⊢
    rw [skipSpace_cons rfl]
    simp only [hcomma.symm, if_false, if_true]
    rw [hblanks] at hrest
    simp only [List.cons_append] at hrest
    rw [hrest]
    rfl

/-- The items of a printed list or object; what is within its length can be read. -/
theorem readItems_print (hs : s.Proper) (close : Char) (hclose : isSpace close = false)
    (hend : isPlain close = false) (hcomma : close ≠ ',') {a : α} {as : List α}
    (hsteps : (s.newline (level + 1) ++ (piece a ++ (as.flatMap (fun b ↦
      s.comma ++ (s.newline (level + 1) ++ piece b)) ++
        (s.newline level ++ [close])))).length < steps)
    (hitem : ∀ b ∈ a :: as, (piece b).length ≤ steps → ∀ rest, Ends rest →
      skipSpace (piece b ++ rest) = piece b ++ rest ∧ item (piece b ++ rest) = some (b, rest))
    (rest : List Char) :
    readItems item close steps (piece a ++ (as.flatMap (fun b ↦
      s.comma ++ (s.newline (level + 1) ++ piece b)) ++ (s.newline level ++ close :: rest))) =
      some (a :: as, rest) := by
  have hcount : as.length ≤ (as.flatMap fun b ↦
      s.comma ++ (s.newline (level + 1) ++ piece b)).length := by
    obtain ⟨gap, hgap, -⟩ := hs.comma
    exact length_le_flatMap fun b _ ↦ by simp [hgap]
  simp only [List.length_append] at hsteps
  have hlength : ∀ b ∈ a :: as, (piece b).length ≤ steps := by
    intro b hb
    rcases List.mem_cons.mp hb with rfl | hb
    · omega
    · have hle := length_le_flatMap_of_mem (fun b ↦
        s.comma ++ (s.newline (level + 1) ++ piece b)) hb
      simp only [List.length_append] at hle
      omega
  have hnone : ∀ c ∈ ([] : List Char), isSpace c := nofun
  exact readItems_pieces hs hclose hend hcomma rest hnone (fun b hb ↦ hitem b hb (hlength b hb))
    (by omega)

end Items

theorem put_of_notMem {key : String} {fields : List (String × Json)} (h : key ∉ fields.map Prod.fst)
    (value : Json) : put key value fields = fields ++ [(key, value)] := by
  induction fields with
  | nil => rfl
  | cons f fields ih =>
    obtain ⟨hne, hrest⟩ := not_or.mp (mt List.mem_cons.mpr h)
    rw [put, if_neg (Ne.symm hne), ih hrest, List.cons_append]

theorem foldl_put (done : List (String × Json)) {fields : List (String × Json)}
    (h : ((done ++ fields).map Prod.fst).Nodup) :
    fields.foldl (fun fields f ↦ put f.1 f.2 fields) done = done ++ fields := by
  induction fields generalizing done with
  | nil => rw [List.foldl_nil, List.append_nil]
  | cons f fields ih =>
    have hf : f.1 ∉ done.map Prod.fst := by
      rw [List.map_append, List.nodup_append] at h
      intro hmem
      exact h.2.2 _ hmem _ (.head _) rfl
    rw [List.foldl_cons, put_of_notMem hf, ih _ (by simpa using h), List.append_assoc]
    rfl

theorem readText_printText {t : String} (h : (printText t).length ≤ steps) (rest : List Char) :
    ∃ cs, printText t ++ rest = '\u0022' :: cs ∧ readText [] steps cs = some (t, rest) := by
  have hlength : t.toList.length < steps := by
    have hle : t.toList.length ≤ (t.toList.flatMap escapeChar).length :=
      length_le_flatMap fun c _ ↦ length_escapeChar_pos c
    simp only [printText, List.length_append, List.length_cons] at h
    omega
  refine ⟨t.toList.flatMap escapeChar ++ '\u0022' :: rest, by simp [printText], ?_⟩
  rw [readText_escaped _ _ _ _ hlength]
  simp

theorem readField_printField (hs : s.Proper) {f : String × Json}
    (hvalue : ∀ rest, Ends rest →
      readValue steps depth (print s level f.2 ++ rest) = some (f.2, rest))
    (hsteps : (printText f.1).length ≤ steps) (hrest : Ends rest) :
    readField (readValue steps depth) steps (printField s level f ++ rest) = some (f, rest) := by
  obtain ⟨gap, hgap, hspace⟩ := hs.colon
  obtain ⟨cs, hcs, hkey⟩ := readText_printText hsteps (s.colon ++ (print s level f.2 ++ rest))
  simp only [printField, List.append_assoc, hcs]
  rw [readField, hkey, hgap]
  simp only [List.cons_append, skipSpace_cons (show isSpace ':' = false from rfl),
    skipSpace_append hspace, skipSpace_print, hvalue rest hrest, Option.map_some]

theorem readValue_list {cs ds : List Char} {js : List Json} (hskip : skipSpace cs = ds)
    (hhead : ds.head? ≠ some ']')
    (hread : readItems (readValue steps depth) ']' steps ds = some (js, rest)) :
    readValue steps (depth + 1) ('[' :: cs) = some (.list js, rest) := by
  rw [readValue, hskip]
  split
  · exact absurd rfl hhead
  · simp only [hread, Option.map_some]

theorem readValue_object {cs ds : List Char} {fields : List (String × Json)}
    (hskip : skipSpace cs = ds) (hhead : ds.head? ≠ some '\x7d')
    (hread : readItems (readField (readValue steps depth) steps) '\x7d' steps ds =
      some (fields, rest))
    (hkeys : (fields.map Prod.fst).Nodup) :
    readValue steps (depth + 1) ('\x7b' :: cs) = some (.object fields, rest) := by
  rw [readValue, hskip]
  split
  · exact absurd rfl hhead
  · simp only [hread, Option.map_some, foldl_put [] hkeys, List.nil_append]

/-- What is printed is read back, whatever follows behind its end. -/
theorem readValue_print (hs : s.Proper) (h : Textual depth j) (level : Nat)
    (hsteps : (print s level j).length ≤ steps) (rest : List Char) (hrest : Ends rest) :
    readValue steps depth (print s level j ++ rest) = some (j, rest) := by
  induction h generalizing level rest with
  | text n t =>
    rw [print] at hsteps ⊢
    obtain ⟨cs, hcs, hread⟩ := readText_printText hsteps rest
    rw [hcs, readValue, hread, Option.map_some]
  | decimal n hx =>
    rw [print]
    exact hx.readValue steps n hrest
  | @list n js hjs ih =>
    cases js with
    | nil =>
      rw [print]
      rfl
    | cons j js =>
      obtain ⟨c, cs, hprint, -, hne⟩ := print_eq_cons_of_start j s (level + 1)
      rw [print_list_cons, printItems_eq] at hsteps ⊢
      have hread := readItems_print hs ']' rfl rfl (by decide) hsteps (fun k hk hle rest hrest ↦
        ⟨skipSpace_print k s _ rest, ih k hk _ hle rest hrest⟩) rest
      simp only [List.cons_append, List.append_assoc, List.nil_append]
      refine readValue_list ?_ ?_ hread
      · rw [skipSpace_append (s.isSpace_newline _), skipSpace_print]
      · rw [hprint]
        simpa using hne
  | @object n fields hkeys hfields ih =>
    cases fields with
    | nil =>
      rw [print]
      rfl
    | cons f fields =>
      rw [print_object_cons, printFields_eq] at hsteps ⊢
      have hfield : ∀ g ∈ f :: fields, (printField s (level + 1) g).length ≤ steps → ∀ rest,
          Ends rest →
          skipSpace (printField s (level + 1) g ++ rest) = printField s (level + 1) g ++ rest ∧
            readField (readValue steps n) steps (printField s (level + 1) g ++ rest) =
              some (g, rest) := by
        intro g hg hle rest hrest
        simp only [printField, List.length_append] at hle
        refine ⟨?_, readField_printField hs
          (fun rest hrest ↦ ih g hg _ (by omega) rest hrest) (by omega) hrest⟩
        rw [printField, List.append_assoc, skipSpace_printText]
      have hread := readItems_print hs '\x7d' rfl rfl (by decide) hsteps hfield rest
      simp only [List.cons_append, List.append_assoc, List.nil_append]
      refine readValue_object ?_ ?_ hread hkeys
      · rw [skipSpace_append (s.isSpace_newline _), printField, List.append_assoc,
          skipSpace_printText]
      · simp [printField, printText]

theorem readChars_print (hs : s.Proper) (h : Textual maxDepth j) :
    readChars (print s 0 j) = some j := by
  have hskip := skipSpace_print j s 0 []
  have hread := readValue_print hs h 0 (Nat.le_refl _) [] nofun
  rw [List.append_nil] at hskip hread
  rw [readChars, readWithin, hskip, hread]
  rfl

end TwinDiagram.Json
