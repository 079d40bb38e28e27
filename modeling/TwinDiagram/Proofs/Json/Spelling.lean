import TwinDiagram.Proofs.Json.Keys
import TwinDiagram.Proofs.Json.RoundTrip
import Mathlib.Data.List.Basic

namespace TwinDiagram.Json

theorem induction {P : Json → Prop} (leaf : ∀ j, j.isLeaf → P j)
    (list : ∀ js, (∀ j ∈ js, P j) → P (.list js))
    (object : ∀ fields, (∀ f ∈ fields, P f.2) → P (.object fields)) (j : Json) : P j :=
  @Json.rec P (fun js ↦ ∀ j ∈ js, P j) (fun fields ↦ ∀ f ∈ fields, P f.2) (fun f ↦ P f.2)
    (leaf .null rfl) (fun b ↦ leaf (.bool b) rfl) (fun n ↦ leaf (.int n) rfl)
    (fun x ↦ leaf (.decimal x) rfl) (fun t ↦ leaf (.text t) rfl) list object nofun
    (fun _ _ hj hjs ↦ List.forall_mem_cons.mpr ⟨hj, hjs⟩) nofun
    (fun _ _ hf hfields ↦ List.forall_mem_cons.mpr ⟨hf, hfields⟩) (fun _ _ hj ↦ hj) j

mutual

def spelled : Json → Json
  | list items => list (spelledItems items)
  | object fields => object (spelledFields fields)
  | j => text (.ofList (print .line 0 j))

def spelledItems : List Json → List Json
  | [] => []
  | j :: rest => spelled j :: spelledItems rest

def spelledFields : List (String × Json) → List (String × Json)
  | [] => []
  | (k, j) :: rest => (k, spelled j) :: spelledFields rest

end

theorem spelledItems_eq (js : List Json) : spelledItems js = js.map spelled := by
  induction js with
  | nil => rfl
  | cons j js ih => rw [spelledItems, ih, List.map_cons]

theorem spelledFields_eq (fields : List (String × Json)) :
    spelledFields fields = fields.map fun f ↦ (f.1, f.2.spelled) := by
  induction fields with
  | nil => rfl
  | cons f fields ih => rw [spelledFields, ih, List.map_cons]

theorem spelled_list (js : List Json) : (list js).spelled = .list (js.map spelled) := by
  rw [spelled, spelledItems_eq]

theorem spelled_object (fields : List (String × Json)) :
    (object fields).spelled = .object (fields.map fun f ↦ (f.1, f.2.spelled)) := by
  rw [spelled, spelledFields_eq]

theorem spelled_leaf {j : Json} (hj : j.isLeaf) : j.spelled = text (.ofList (print .line 0 j)) := by
  cases j with
  | list js => cases hj
  | object fields => cases hj
  | _ => rw [spelled] <;> simp

theorem plain_append_inj {cs cs' rest rest' : List Char} (hcs : Plain cs) (hcs' : Plain cs')
    (hrest : Ends rest) (hrest' : Ends rest') (h : cs ++ rest = cs' ++ rest') :
    cs = cs' ∧ rest = rest' := by
  have htake {cs rest : List Char} (hcs : Plain cs) (hrest : Ends rest) :
      (cs ++ rest).takeWhile isPlain = cs := by
    have hnone : rest.takeWhile isPlain = [] := by
      cases rest with
      | nil => rfl
      | cons c rest => exact List.takeWhile_cons_of_neg (by simp [hrest c rfl])
    rw [List.takeWhile_append_of_pos hcs.2, hnone, List.append_nil]
  have hword : cs = cs' := by rw [← htake hcs hrest, h, htake hcs' hrest']
  subst hword
  exact ⟨rfl, List.append_cancel_left h⟩

theorem printText_append_inj {t t' : String} {rest rest' : List Char}
    (h : printText t ++ rest = printText t' ++ rest') : t = t' ∧ rest = rest' := by
  obtain ⟨cs, hcs, hread⟩ := readText_printText
    (Nat.le_add_right (printText t).length (printText t').length) rest
  obtain ⟨cs', hcs', hread'⟩ := readText_printText
    (Nat.le_add_left (printText t').length (printText t).length) rest'
  have htail : cs = cs' := (List.cons.inj (hcs.symm.trans (h.trans hcs'))).2
  rw [htail, hread'] at hread
  simpa [eq_comm] using hread

variable {rest rest' : List Char}

theorem opening_eq {j k : Json} {level level' : Nat}
    (h : print .line level j ++ rest = print .line level' k ++ rest') : j.opening = k.opening := by
  have hmarks {j : Json} {c : Char} (hj : j.opening = some c) : isPlain c = false := by
    cases j <;> cases hj <;> rfl
  obtain ⟨c, cs, hj, hc⟩ := print_eq_cons j .line level
  obtain ⟨c', cs', hk, hc'⟩ := print_eq_cons k .line level'
  rw [hj, hk] at h
  obtain rfl : c = c' := (List.cons.inj h).1
  obtain hc | ⟨hc, hplain⟩ := hc <;> obtain hc' | ⟨hc', hplain'⟩ := hc'
  · rw [hc, hc']
  · rw [hmarks hc] at hplain'
    cases hplain'
  · rw [hmarks hc'] at hplain
    cases hplain
  · rw [hc, hc']

section Items

variable {β γ : Type} {piece piece' : β → List Char} {spell : β → γ} {close : Char}

theorem ends_items (hclose : isPlain close = false) (bs : List β) (rest : List Char) :
    Ends (bs.flatMap (fun b ↦ ',' :: ' ' :: piece b) ++ close :: rest) := by
  cases bs with
  | nil => exact ends_cons hclose rest
  | cons b bs => exact ends_cons rfl _

/-- Items behind commas are told one by one, and where they end. -/
theorem items_append_inj (hclose : isPlain close = false) (hcomma : close ≠ ',') {as bs : List β}
    (hpiece : ∀ a ∈ as, ∀ b rest rest', Ends rest → Ends rest' →
      piece a ++ rest = piece' b ++ rest' → spell a = spell b ∧ rest = rest')
    (h : as.flatMap (fun a ↦ ',' :: ' ' :: piece a) ++ close :: rest =
      bs.flatMap (fun b ↦ ',' :: ' ' :: piece' b) ++ close :: rest') :
    as.map spell = bs.map spell ∧ rest = rest' := by
  induction as generalizing bs with
  | nil =>
    cases bs with
    | nil => exact ⟨rfl, (List.cons.inj h).2⟩
    | cons b bs => exact absurd (List.cons.inj h).1 hcomma
  | cons a as ih =>
    cases bs with
    | nil => exact absurd (List.cons.inj h).1.symm hcomma
    | cons b bs =>
      obtain ⟨ha, has⟩ := List.forall_mem_cons.mp hpiece
      simp only [List.flatMap_cons, List.cons_append, List.append_assoc, List.cons.injEq,
        true_and] at h
      obtain ⟨hspell, htail⟩ := ha b _ _ (ends_items hclose as rest) (ends_items hclose bs rest') h
      obtain ⟨hspells, hrest⟩ := ih has htail
      exact ⟨by rw [List.map_cons, List.map_cons, hspell, hspells], hrest⟩

end Items

theorem print_ne_close (j : Json) (level : Nat) (rest cs : List Char) :
    print .line level j ++ rest ≠ ']' :: cs := by
  obtain ⟨c, ds, hprint, -, hne⟩ := print_eq_cons_of_start j .line level
  rw [hprint]
  exact fun h ↦ hne (List.cons.inj h).1

/-- What is printed tells the spelling, and where it ends. -/
def Tells (j : Json) : Prop :=
  ∀ {k : Json} {level level' : Nat} {rest rest' : List Char}, Ends rest → Ends rest' →
    print .line level j ++ rest = print .line level' k ++ rest' →
      j.spelled = k.spelled ∧ rest = rest'

theorem tells_leaf {j : Json} (hj : j.isLeaf) : Tells j := by
  intro k level level' rest rest' hrest hrest' h
  have hopening := opening_eq h
  have hword (htext : j.text? = none) (hk : k.isLeaf) (htext' : k.text? = none) :
      j.spelled = k.spelled ∧ rest = rest' := by
    rw [print_leaf hj, print_leaf hk] at h
    rw [spelled_leaf hj, spelled_leaf hk]
    obtain ⟨hprint, hrest⟩ :=
      plain_append_inj (plain_print hj htext) (plain_print hk htext') hrest hrest' h
    exact ⟨by rw [hprint], hrest⟩
  cases j with
  | text t =>
    cases k with
    | text t' =>
      rw [print, print] at h
      obtain ⟨rfl, hrest⟩ := printText_append_inj h
      exact ⟨rfl, hrest⟩
    | _ => cases hopening
  | list js => cases hj
  | object fields => cases hj
  | _ =>
    cases k with
    | text t' => cases hopening
    | list ks => cases hopening
    | object fields => cases hopening
    | _ => exact hword rfl rfl rfl

theorem print_line_list (level : Nat) (j : Json) (js : List Json) (rest : List Char) :
    print .line level (list (j :: js)) ++ rest = '[' :: (print .line (level + 1) j ++
      (js.flatMap (fun j ↦ ',' :: ' ' :: print .line (level + 1) j) ++ ']' :: rest)) := by
  rw [print_list_cons, printItems_eq]
  simp [Spacing.newline, Spacing.line]

theorem print_line_object (level : Nat) (f : String × Json) (fields : List (String × Json))
    (rest : List Char) :
    print .line level (object (f :: fields)) ++ rest =
      '\x7b' :: (printField .line (level + 1) f ++
        (fields.flatMap (fun f ↦ ',' :: ' ' :: printField .line (level + 1) f) ++
          '\x7d' :: rest)) := by
  rw [print_object_cons, printFields_eq]
  simp [Spacing.newline, Spacing.line]

theorem tells_list {js : List Json} (hjs : ∀ j ∈ js, Tells j) : Tells (list js) := by
  intro k level level' rest rest' hrest hrest' h
  have hopening := opening_eq h
  cases k with
  | list ks =>
    rw [spelled_list, spelled_list]
    cases js with
    | nil =>
      cases ks with
      | nil =>
        rw [print, print] at h
        exact ⟨rfl, (List.cons.inj (List.cons.inj h).2).2⟩
      | cons k ks =>
        rw [print, print_line_list] at h
        exact absurd (List.cons.inj h).2.symm (print_ne_close k _ _ _)
    | cons j js =>
      cases ks with
      | nil =>
        rw [print, print_line_list] at h
        exact absurd (List.cons.inj h).2 (print_ne_close j _ _ _)
      | cons k ks =>
        rw [print_line_list, print_line_list] at h
        obtain ⟨hj, hjs⟩ := List.forall_mem_cons.mp hjs
        obtain ⟨hspelled, htail⟩ := hj (ends_items rfl js rest) (ends_items rfl ks rest')
          (List.cons.inj h).2
        obtain ⟨hspelleds, hrest⟩ := items_append_inj rfl (by decide)
          (fun j hj k rest rest' hrest hrest' h ↦ hjs j hj hrest hrest' h) htail
        exact ⟨by rw [List.map_cons, List.map_cons, hspelled, hspelleds], hrest⟩
  | _ => cases hopening

theorem printField_append_inj {f f' : String × Json} {level level' : Nat}
    {rest rest' : List Char} (hf : Tells f.2) (hrest : Ends rest) (hrest' : Ends rest')
    (h : printField .line level f ++ rest = printField .line level' f' ++ rest') :
    (f.1, f.2.spelled) = (f'.1, f'.2.spelled) ∧ rest = rest' := by
  simp only [printField, List.append_assoc] at h
  obtain ⟨hkey, htail⟩ := printText_append_inj h
  obtain ⟨hspelled, hrest⟩ := hf hrest hrest' (List.append_cancel_left htail)
  exact ⟨Prod.ext hkey hspelled, hrest⟩

theorem tells_object {fields : List (String × Json)} (hfields : ∀ f ∈ fields, Tells f.2) :
    Tells (object fields) := by
  intro k level level' rest rest' hrest hrest' h
  have hopening := opening_eq h
  have hkey (f : String × Json) (level : Nat) (rest cs : List Char) :
      printField .line level f ++ rest ≠ '\x7d' :: cs := by
    rw [printField, printText]
    exact fun h ↦ absurd (List.cons.inj h).1 (by decide)
  cases k with
  | object fields' =>
    rw [spelled_object, spelled_object]
    cases fields with
    | nil =>
      cases fields' with
      | nil =>
        rw [print, print] at h
        exact ⟨rfl, (List.cons.inj (List.cons.inj h).2).2⟩
      | cons f' fields' =>
        rw [print, print_line_object] at h
        exact absurd (List.cons.inj h).2.symm (hkey f' _ _ _)
    | cons f fields =>
      cases fields' with
      | nil =>
        rw [print, print_line_object] at h
        exact absurd (List.cons.inj h).2 (hkey f _ _ _)
      | cons f' fields' =>
        rw [print_line_object, print_line_object] at h
        obtain ⟨hf, hfields⟩ := List.forall_mem_cons.mp hfields
        obtain ⟨hspelled, htail⟩ := printField_append_inj hf (ends_items rfl fields rest)
          (ends_items rfl fields' rest') (List.cons.inj h).2
        obtain ⟨hspelleds, hrest⟩ := items_append_inj rfl (by decide)
          (fun f hf f' rest rest' hrest hrest' h ↦
            printField_append_inj (hfields f hf) hrest hrest' h) htail
        exact ⟨by rw [List.map_cons, List.map_cons, hspelled, hspelleds], hrest⟩
  | _ => cases hopening

theorem tells (j : Json) : Tells j := by
  induction j using induction with
  | leaf j hj => exact tells_leaf hj
  | list js ih => exact tells_list ih
  | object fields ih => exact tells_object ih

theorem flatMap_congr_of_map {α β γ : Type} {f : α → β} {g : α → List γ} {as bs : List α}
    (h : as.map f = bs.map f) (hg : ∀ a ∈ as, ∀ b, f a = f b → g a = g b) :
    as.flatMap g = bs.flatMap g := by
  induction as generalizing bs with
  | nil => rw [List.map_eq_nil_iff.mp h.symm]
  | cons a as ih =>
    obtain ⟨b, bs, rfl, hb, hbs⟩ := List.map_eq_cons_iff.mp h.symm
    obtain ⟨ha, has⟩ := List.forall_mem_cons.mp hg
    rw [List.flatMap_cons, List.flatMap_cons, ha b hb.symm, ih hbs.symm has]

def PrintedAlike (j : Json) : Prop :=
  ∀ {k : Json}, j.spelled = k.spelled → ∀ (s : Spacing) (level : Nat),
    print s level j = print s level k

theorem printedAlike_leaf {j : Json} (hj : j.isLeaf) : PrintedAlike j := by
  intro k h s level
  rw [spelled_leaf hj] at h
  have hk : k.isLeaf := by
    cases k with
    | list ks => rw [spelled_list] at h; cases h
    | object fields => rw [spelled_object] at h; cases h
    | _ => rfl
  rw [spelled_leaf hk, text.injEq, String.ofList_inj] at h
  rw [print_leaf hj, print_leaf hk, h]

theorem printedAlike_list {js : List Json} (hjs : ∀ j ∈ js, PrintedAlike j) :
    PrintedAlike (list js) := by
  intro k h s level
  rw [spelled_list] at h
  cases k with
  | list ks =>
    rw [spelled_list, list.injEq] at h
    cases js with
    | nil => rw [List.map_eq_nil_iff.mp h.symm]
    | cons j js =>
      obtain ⟨k, ks, rfl, hk, hks⟩ := List.map_eq_cons_iff.mp h.symm
      obtain ⟨hj, hjs⟩ := List.forall_mem_cons.mp hjs
      have hitems : printItems s (level + 1) js = printItems s (level + 1) ks := by
        rw [printItems_eq, printItems_eq]
        exact flatMap_congr_of_map hks.symm fun j hj' k h ↦ by rw [hjs j hj' h]
      rw [print_list_cons, print_list_cons, hj hk.symm, hitems]
  | object fields => rw [spelled_object] at h; cases h
  | _ => rw [spelled_leaf rfl] at h; cases h

theorem printField_congr {f f' : String × Json} (hf : PrintedAlike f.2)
    (h : (f.1, f.2.spelled) = (f'.1, f'.2.spelled)) (s : Spacing) (level : Nat) :
    printField s level f = printField s level f' := by
  obtain ⟨hkey, hvalue⟩ := Prod.mk.inj h
  rw [printField, printField, hkey, hf hvalue]

theorem printedAlike_object {fields : List (String × Json)}
    (hfields : ∀ f ∈ fields, PrintedAlike f.2) : PrintedAlike (object fields) := by
  intro k h s level
  rw [spelled_object] at h
  cases k with
  | object fields' =>
    rw [spelled_object, object.injEq] at h
    cases fields with
    | nil => rw [List.map_eq_nil_iff.mp h.symm]
    | cons f fields =>
      obtain ⟨f', fields', rfl, hf', hfields'⟩ := List.map_eq_cons_iff.mp h.symm
      obtain ⟨hf, hfields⟩ := List.forall_mem_cons.mp hfields
      have hitems : printFields s (level + 1) fields = printFields s (level + 1) fields' := by
        rw [printFields_eq, printFields_eq]
        exact flatMap_congr_of_map hfields'.symm fun f hmem f' h ↦ by
          rw [printField_congr (hfields f hmem) h]
      rw [print_object_cons, print_object_cons, printField_congr hf hf'.symm, hitems]
  | list ks => rw [spelled_list] at h; cases h
  | _ => rw [spelled_leaf rfl] at h; cases h

theorem print_congr (j : Json) : PrintedAlike j := by
  induction j using induction with
  | leaf j hj => exact printedAlike_leaf hj
  | list js ih => exact printedAlike_list ih
  | object fields ih => exact printedAlike_object ih

theorem render_line_eq_iff {j k : Json} : j.render .line = k.render .line ↔
    j.spelled = k.spelled := by
  constructor
  · intro h
    have hends : Ends [] := fun c hc ↦ nomatch c, hc
    have hprint : print .line 0 j ++ [] = print .line 0 k ++ [] := by
      rw [String.ofList_injective h]
    exact (tells j hends hends hprint).1
  · intro h
    rw [render, render, print_congr j h]

end TwinDiagram.Json
