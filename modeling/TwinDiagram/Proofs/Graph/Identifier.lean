import TwinDiagram.Graph.Identifier
import TwinDiagram.Proofs.Text.Join
import TwinDiagram.Proofs.Text.Words
import TwinDiagram.Proofs.Token.Identifier

namespace TwinDiagram

namespace Text

variable {cs : List Char}

theorem trim_of_none (h : ∀ c ∈ cs, isBlank c = false) : trim cs = cs := by
  have hdrop {w : List Char} (hw : ∀ c ∈ w, isBlank c = false) : w.dropWhile isBlank = w := by
    cases w with
    | nil => rfl
    | cons c w => rw [List.dropWhile_cons_of_neg (by simp [hw])]
  rw [trim, strip, hdrop h, hdrop (by simpa using h), List.reverse_reverse]

theorem replaceBlanks_of_none (mark : Char) (h : ∀ c ∈ cs, isBlank c = false) :
    replaceBlanks mark cs = cs := by
  fun_induction replaceBlanks mark cs with
  | case1 => rfl
  | case2 c => simp [h]
  | case3 c d rest hc | case4 c d rest hc => rw [h c (.head _)] at hc; cases hc
  | case5 c d rest _ ih => rw [ih fun x hx ↦ h x (.tail _ hx)]

end Text

namespace Graph

variable {tag tag' name : String} {names names' : List String}

theorem segment_of_isIdentifier (h : IsIdentifier name) : segment name = name := by
  obtain ⟨c, cs, hname, -, hall⟩ := h
  have hblank : ∀ x ∈ name.toList, Text.isBlank x = false :=
    fun x hx ↦ Text.not_isBlank_of_isIdentifierChar (hall x (hname ▸ hx))
  rw [segment, Text.trim_of_none hblank, Text.replaceBlanks_of_none _ hblank, String.ofList_toList]

/-- No name holds a colon, so the separators show where each ends. -/
theorem identifier_inj (htag : IsIdentifier tag) (htag' : IsIdentifier tag')
    (hnames : ∀ n ∈ names, IsIdentifier n) (hnames' : ∀ n ∈ names', IsIdentifier n) :
    identifier tag names = identifier tag' names' ↔ tag = tag' ∧ names = names' := by
  have hsegments {ns : List String} (hns : ∀ n ∈ ns, IsIdentifier n) : ns.map segment = ns := by
    have hmap : ns.map segment = ns.map fun n ↦ n :=
      List.map_congr_left fun n hn ↦ segment_of_isIdentifier (hns n hn)
    rwa [List.map_id'] at hmap
  have hcolon {t : String} {ns : List String} (ht : IsIdentifier t)
    (hns : ∀ n ∈ ns, IsIdentifier n) :
      ∀ n ∈ t :: ns, ':' ∉ n.toList :=
    List.forall_mem_cons.mpr ⟨ht.not_mem rfl, fun n hn ↦ (hns n hn).not_mem rfl⟩
  rw [identifier, identifier, hsegments hnames, hsegments hnames', ← List.cons_eq_cons]
  constructor
  · exact Text.string_intercalate_inj (c := ':') rfl (hcolon htag hnames)
      (hcolon htag' hnames') (List.cons_ne_nil _ _) (List.cons_ne_nil _ _)
  · exact congrArg _

end Graph

end TwinDiagram
