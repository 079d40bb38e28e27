import TwinDiagram.Interchange.Load
import TwinDiagram.Proofs.Graph.Listing
import TwinDiagram.Proofs.Graph.Complete

namespace TwinDiagram.Graph

/-- The separator behind the name is found where it stands. -/
def Separable (name : String) : Prop := Text.Tight separator.toList (segment name).toList

namespace Item

def joined (i : Item) : String := separator.intercalate (i.names.map segment)

/-- The same names, one by one, but for their blanks. -/
def SameSegments (i j : Item) : Prop := i.names.map segment = j.names.map segment

instance (i j : Item) : Decidable (i.SameSegments j) :=
  inferInstanceAs (Decidable (_ = _))

variable {root : String} {i j : Item}

theorem length_names (h : i.kind = j.kind) : i.names.length = j.names.length := by
  cases i <;> cases j <;> first | rfl | cases h

theorem id_eq (root : String) (i : Item) : i.id root =
    idTag i.kind ++ separator ++ separator.intercalate (segment root :: i.names.map segment) := by
  rw [id, identifier, List.map_cons, String.intercalate_cons_cons]

theorem kind_eq_of_id (h : i.id root = j.id root) : i.kind = j.kind := by
  have hlist := congrArg String.toList h
  rw [id_eq, id_eq, String.append_assoc, String.append_assoc, String.toList_append,
    String.toList_append, String.toList_append, String.toList_append] at hlist
  have hcolon (k : NodeKind) : ':' ∉ (idTag k).toList := (isIdentifier_idTag k).not_mem rfl
  exact idTag_inj.mp (String.toList_injective (Text.append_cons_inj (hcolon _) (hcolon _) hlist).1)

theorem id_eq_iff_joined : i.id root = j.id root ↔ i.kind = j.kind ∧ i.joined = j.joined := by
  have hkinds : i.id root = j.id root → i.kind = j.kind := kind_eq_of_id
  rw [← and_iff_right_of_imp hkinds]
  refine and_congr_right fun hkind ↦ ?_
  have hlength := length_names hkind
  rw [id_eq, id_eq, hkind, String.append_right_inj, joined, joined]
  cases hi : i.names with
  | nil =>
    rw [hi] at hlength
    rw [List.length_eq_zero_iff.mp hlength.symm]
    simp
  | cons n names =>
    rw [hi] at hlength
    obtain ⟨n', names', hj⟩ := List.exists_cons_of_length_eq_add_one hlength.symm
    rw [hj, List.map_cons, List.map_cons, String.intercalate_cons_cons,
      String.intercalate_cons_cons, String.append_right_inj]

theorem sameSegments_of_joined (hkind : i.kind = j.kind) (h : i.joined = j.joined)
    (hnames : ∀ n ∈ i.names.dropLast ++ j.names.dropLast, Separable n) : i.SameSegments j := by
  have hlists := congrArg String.toList h
  rw [joined, joined, String.toList_intercalate, String.toList_intercalate, List.map_map,
    List.map_map] at hlists
  rw [List.forall_mem_append] at hnames
  have htight {ns : List String} (hns : ∀ n ∈ ns.dropLast, Separable n) :
      ∀ v ∈ (ns.map (String.toList ∘ segment)).dropLast, Text.Tight separator.toList v := by
    rw [← List.map_dropLast, List.forall_mem_map]
    exact hns
  have hsegments := Text.intercalate_inj_of_tight (by simpa using length_names hkind)
    (htight hnames.1) (htight hnames.2) hlists
  rw [← List.map_map, ← List.map_map] at hsegments
  exact List.map_injective_iff.mpr (fun _ _ ↦ String.toList_injective) hsegments

end Item

/-- A declaration is dropped when an earlier one of its kind was kept whose names, put together, are
its own. Unless the name of a system or an owner holds a separator or ends like one, the two have
the same names one by one. -/
theorem dropped_iff_joined {m : Model} {g : Graph} {d : Draft} (h : ofModel m = (.ok g, d)) :
    ∃ vs os, Accounts m vs os g d ∧ ∀ before v behind, vs = before ++ v :: behind →
      (v.kept = false ↔ ∃ i ∈ kept before, i.kind = v.item.kind ∧ i.joined = v.item.joined) ∧
      ∀ i ∈ kept before, i.kind = v.item.kind → i.joined = v.item.joined →
        i.SameSegments v.item ∨
          ∃ n ∈ i.names.dropLast ++ v.item.names.dropLast, ¬ Separable n := by
  obtain ⟨vs, os, haccounts⟩ := ofModel_accounts h
  refine ⟨vs, os, haccounts, fun before v behind hvs ↦ ⟨?_, fun i _ hkind hjoined ↦ ?_⟩⟩
  · have hdropped := haccounts.decided.dropped_iff hvs
    simpa only [Item.id_eq_iff_joined] using hdropped
  · by_cases hnames : ∀ n ∈ i.names.dropLast ++ v.item.names.dropLast, Separable n
    · exact .inl (Item.sameSegments_of_joined hkind hjoined hnames)
    · simp only [not_forall] at hnames
      obtain ⟨n, hn, hseparable⟩ := hnames
      exact .inr ⟨n, hn, hseparable⟩

/-- The digital twin `b` of the system `s::a` is taken for the digital twin `a::b` of the
system `s`. -/
theorem dropped_iff_joined_of_twins :
    let m : Model := ⟨"d", [⟨"s", [⟨"a::b", []⟩], [], []⟩, ⟨"s::a", [⟨"b", []⟩], [], []⟩],
      [], [], none⟩
    ∃ g d, ofModel m = (.ok g, d) ∧ ∃ vs os, Accounts m vs os g d ∧
      ∀ before v behind, vs = before ++ v :: behind →
        (v.kept = false ↔ ∃ i ∈ kept before, i.kind = v.item.kind ∧ i.joined = v.item.joined) ∧
        ∀ i ∈ kept before, i.kind = v.item.kind → i.joined = v.item.joined →
          i.SameSegments v.item ∨
            ∃ n ∈ i.names.dropLast ++ v.item.names.dropLast, ¬ Separable n :=
  ⟨_, _, rfl, dropped_iff_joined rfl⟩

/-- No two declarations have the same names one by one, and still a digital twin is dropped. -/
theorem ofModel_drops_twin_of_other_system :
    let twin (name : String) : Json := .object [("name", .text name), ("ports", .list [])]
    let system (name : String) (t : Json) : Json := .object [("name", .text name),
      ("digital_twins", .list [t]), ("original_twins", .list []), ("connections", .list [])]
    let d : Json := .object [("type", .text "DarTwin"), ("name", .text "d"),
      ("systems", .list [system "s" (twin "a::b"), system "s::a" (twin "b")]),
      ("goals", .list []), ("allocations", .list [])]
    ∃ m g e, Interchange.loadModel (.ofJson d) = .ok m ∧ ofModel m = (.ok g, e) ∧
      e.findings = [.duplicateNode .digitalTwin "b"] ∧
      (Item.listing (.root m)).Pairwise fun i j ↦ ¬ (i.kind = j.kind ∧ i.SameSegments j) := by
  refine ⟨_, _, _, rfl, rfl, rfl, ?_⟩
  show (Item.listing (.root ⟨"d", [⟨"s", [⟨"a::b", []⟩], [], []⟩, ⟨"s::a", [⟨"b", []⟩], [], []⟩],
    [], [], none⟩)).Pairwise fun i j ↦ ¬ (i.kind = j.kind ∧ i.SameSegments j)
  simp only [Item.listing_eq, Item.children, List.map_cons, List.map_nil, List.append_nil,
    List.flatMap_cons, List.flatMap_nil, List.cons_append, List.nil_append]
  decide +kernel

end TwinDiagram.Graph
