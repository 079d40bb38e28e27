import Mathlib.Algebra.Order.Field.Rat
import Mathlib.Tactic.Linarith
import Mathlib.Tactic.Ring
import TwinDiagram.Proofs.Layout.Boundary

namespace TwinDiagram.Layout

open Checked (Rule ids)

section Placed

variable {α : Type} [Scalar α] {m : Metrics α} {g : Graph} {twins : List Node}
  {twin : Node} {k : Nat}

def twinBox (m : Metrics α) (system : Box α) (count k : Nat) : Box α :=
  let width := twinWidthIn m system count
  let group := Scalar.ofNat count * width + Scalar.ofNat (count - 1) * m.twinGap
  .plain (system.x + (system.width - group) / Scalar.ofNat 2 + Scalar.ofNat k * (width + m.twinGap))
    (system.y + m.twinOffsetY) width m.twinHeight

theorem mem_zip_twinBoxes (hk : twins[k]? = some twin) (m : Metrics α) (system : Box α) :
    (twin, twinBox m system twins.length k) ∈ twins.zip (twinBoxes m system twins.length) := by
  have hbox : (twinBoxes m system twins.length)[k]? = some (twinBox m system twins.length k) := by
    obtain ⟨hlt, -⟩ := List.getElem?_eq_some_iff.mp hk
    change ((List.range twins.length).map (twinBox m system twins.length))[k]? = _
    rw [List.getElem?_map, List.getElem?_range hlt, Option.map_some]
  exact List.mem_of_getElem? (List.getElem?_zip_eq_some.mpr ⟨hk, hbox⟩)

variable (hnodes : (g.nodes.map (·.id)).Nodup) (hdistinct : twins.Nodup)
  (htwins : ∀ twin ∈ twins, twin ∈ g.nodesOfKind .digitalTwin)
include hnodes hdistinct htwins

theorem nodup_ids_twinEntries (m : Metrics α) (system : Box α) :
    (ids (twinEntries m g system twins)).Nodup := by
  have howners : ∀ twin ∈ twins, twin ∈ g.nodes ∧ twin.kind ≠ .port := by
    intro twin htwin
    obtain ⟨hmem, hkind⟩ := mem_nodesOfKind.mp (htwins twin htwin)
    exact ⟨hmem, by rw [hkind]; decide⟩
  refine nodup_ids_of_perm hnodes (map_twinEntries_perm system twins)
    (nodup_flatMap_withPorts hnodes hdistinct howners) fun n hn ↦ ?_
  obtain ⟨twin, htwin, hn⟩ := List.mem_flatMap.mp hn
  exact mem_nodes_of_mem_withPorts (howners twin htwin).1 hn

theorem get?_placeDigitalTwins (hk : twins[k]? = some twin) {id : String}
    (hid : id ∈ twin.id :: ids (twinPortEntries m (g.childrenOfKind twin.id .port)))
    (system : Box α) (boxes : Boxes α) :
    (placeDigitalTwins m g system twins boxes).get? id =
      (placeTwinPorts m (twinBox m system twins.length k) (g.childrenOfKind twin.id .port)
        (boxes.insert twin.id (twinBox m system twins.length k))).get? id := by
  have hstep (t : Node × Box α) : Does (fun _ ↦ False) _
      (fun boxes ↦ placeTwinPorts m t.2 (g.childrenOfKind t.1.id .port) (boxes.insert t.1.id t.2))
      ((t.1, .twinRow) :: twinPortEntries m (g.childrenOfKind t.1.id .port)) :=
    .bind (.put .twinRow t.1 t.2) does_placeTwinPorts
  exact Does.get?_foldl (fun t _ ↦ hstep t) (fun _ _ _ _ h ↦ h)
    (nodup_ids_twinEntries hnodes hdistinct htwins m system)
    (mem_zip_twinBoxes hk m system) hid boxes

theorem get?_placeDigitalTwins_self (hk : twins[k]? = some twin) (system : Box α)
    (boxes : Boxes α) :
    (placeDigitalTwins m g system twins boxes).get? twin.id =
      some (twinBox m system twins.length k) := by
  obtain ⟨htwin, hkind⟩ := mem_nodesOfKind.mp (htwins twin (List.mem_of_getElem? hk))
  have hports : twin.id ∉ ids (twinPortEntries m (g.childrenOfKind twin.id .port)) := by
    intro hid
    obtain ⟨e, he, hid⟩ := List.mem_map.mp hid
    obtain ⟨hport, -, hkind'⟩ := mem_childrenOfKind.mp
      ((map_twinPortEntries_perm _).mem_iff.mp (List.mem_map_of_mem he))
    rw [List.inj_on_of_nodup_map hnodes hport htwin hid, hkind] at hkind'
    cases hkind'
  have hplace : Does (fun _ ↦ False) _ (placeTwinPorts m (twinBox m system twins.length k)
      (g.childrenOfKind twin.id .port)) _ := does_placeTwinPorts
  rw [get?_placeDigitalTwins hnodes hdistinct htwins hk (.head _), hplace.kept _ _ hports,
    Table.get?_insert, if_pos rfl]

end Placed

section Row

variable {m : Metrics Rat} {system : Box Rat} {count k : Nat}

/-- What padding and gaps leave for the digital twins of a system. -/
def available (m : Metrics Rat) (system : Box Rat) (count : Nat) : Rat :=
  system.width - 2 * m.systemPadding - (count - 1) * m.twinGap

def commonWidth (m : Metrics Rat) (system : Box Rat) (count : Nat) : Rat :=
  max (min m.twinWidth (available m system count / count)) m.portSize

def sideSpace (m : Metrics Rat) (system : Box Rat) (count : Nat) : Rat :=
  (system.width - (count * commonWidth m system count + (count - 1) * m.twinGap)) / 2

theorem Scalar.least_eq_min (x y : Rat) : Scalar.least x y = min x y := by
  unfold Scalar.least
  split
  · next h => exact (min_eq_right (of_decide_eq_true h).le).symm
  · next h => exact (min_eq_left (not_lt.mp (mt decide_eq_true h))).symm

theorem Scalar.greatest_eq_max (x y : Rat) : Scalar.greatest x y = max x y := by
  unfold Scalar.greatest
  split
  · next h => exact (max_eq_right (of_decide_eq_true h).le).symm
  · next h => exact (max_eq_left (not_lt.mp (mt decide_eq_true h))).symm

theorem twinWidthIn_eq (hcount : 0 < count) :
    twinWidthIn m system count = commonWidth m system count := by
  unfold twinWidthIn
  rw [Scalar.greatest_eq_max, Scalar.least_eq_min]
  change max (min m.twinWidth ((system.width - (2 : Nat) * m.systemPadding
    - (count - 1 : Nat) * m.twinGap) / count)) m.portSize = _
  rw [Nat.cast_pred hcount]
  rfl

theorem twinBox_eq (hcount : 0 < count) : twinBox m system count k =
    .plain (system.x + sideSpace m system count + k * (commonWidth m system count + m.twinGap))
      (system.y + m.twinOffsetY) (commonWidth m system count) m.twinHeight := by
  unfold twinBox
  rw [twinWidthIn_eq hcount]
  change Box.plain (system.x + (system.width - (count * commonWidth m system count
    + (count - 1 : Nat) * m.twinGap)) / (2 : Nat) +
      k * (commonWidth m system count + m.twinGap)) _ _ _ = _
  rw [Nat.cast_pred hcount]
  rfl

theorem x_twinBox (hcount : 0 < count) : (twinBox m system count k).x =
    system.x + sideSpace m system count + k * (commonWidth m system count + m.twinGap) := by
  rw [twinBox_eq hcount]
  rfl

theorem right_twinBox (hcount : 0 < count) : (twinBox m system count k).right =
    system.right - sideSpace m system count
      - (count - 1 - k) * (commonWidth m system count + m.twinGap) := by
  rw [twinBox_eq hcount, sideSpace]
  simp only [Box.right, Box.plain, Box.x, Box.width]
  ring

theorem systemPadding_le_sideSpace (hcount : 0 < count)
    (hport : m.portSize ≤ available m system count / count) :
    m.systemPadding ≤ sideSpace m system count := by
  have hshare : commonWidth m system count ≤ available m system count / count :=
    max_le (min_le_right _ _) hport
  rw [le_div_iff₀ (Nat.cast_pos.mpr hcount), available] at hshare
  rw [sideSpace]
  linarith

theorem within_sideSpace (hk : k < count) (hpitch : 0 ≤ commonWidth m system count + m.twinGap) :
    system.x + sideSpace m system count ≤ (twinBox m system count k).x ∧
      (twinBox m system count k).right ≤ system.right - sideSpace m system count := by
  have hcount : 0 < count := Nat.zero_lt_of_lt hk
  have hbehind : (0 : Rat) ≤ count - 1 - k := by
    have hle : ((k + 1 : Nat) : Rat) ≤ count := Nat.cast_le.mpr hk
    push_cast at hle
    linarith
  have hleft := mul_nonneg (Nat.cast_nonneg k) hpitch
  have hright := mul_nonneg hbehind hpitch
  rw [x_twinBox hcount, right_twinBox hcount]
  exact ⟨by linarith, by linarith⟩

end Row

/-- A rectangle lies in another one. -/
structure Box.Inside (b c : Box Rat) : Prop where
  left : c.x ≤ b.x
  right : b.right ≤ c.right
  top : c.y ≤ b.y
  bottom : b.bottom ≤ c.bottom

section Standard

variable {index count k : Nat}

theorem available_standard :
    available .standard (systemBox .standard index) count = 480 - 40 * count := by
  have havailable : available .standard (systemBox .standard index) count =
      520 - 2 * 40 - (count - 1) * 40 := rfl
  rw [havailable]
  ring

theorem portSize_le_share_standard (hcount : 0 < count) (hfew : count ≤ 8) :
    (Metrics.standard : Metrics Rat).portSize ≤
      available .standard (systemBox .standard index) count / count := by
  have hle : (count : Rat) ≤ 8 := Nat.cast_le_ofNat.mpr hfew
  have hport : (Metrics.standard : Metrics Rat).portSize = 18 := rfl
  rw [le_div_iff₀ (Nat.cast_pos.mpr hcount), available_standard, hport]
  linarith

theorem commonWidth_standard (hmany : 9 ≤ count) :
    commonWidth .standard (systemBox .standard index) count = 18 := by
  have hle : (9 : Rat) ≤ count := Nat.ofNat_le_cast.mpr hmany
  have hshare : available .standard (systemBox .standard index) count / count ≤ 18 := by
    rw [div_le_iff₀ (by linarith), available_standard]
    linarith
  exact max_eq_right ((min_le_right _ _).trans hshare)

theorem inside_twinBox_standard_iff_x (hcount : 0 < count) :
    (twinBox .standard (systemBox .standard index) count k).Inside (systemBox .standard index) ↔
      (systemBox .standard index : Box Rat).x ≤
        (twinBox .standard (systemBox .standard index) count k).x ∧
      (twinBox .standard (systemBox .standard index) count k).right ≤
        (systemBox .standard index : Box Rat).right := by
  refine ⟨fun h ↦ ⟨h.left, h.right⟩, fun ⟨hleft, hright⟩ ↦ ⟨hleft, hright, ?_, ?_⟩⟩
  · rw [twinBox_eq hcount]
    exact le_add_of_nonneg_right (show (0 : Rat) ≤ 90 by norm_num)
  · have hbottom : (systemBox .standard index : Box Rat).y + 90 + 160 ≤
        (systemBox .standard index : Box Rat).y + 360 := by linarith
    rw [twinBox_eq hcount]
    exact hbottom

/-- With the standard measures, all of up to nine twins stay inside their system. Of more, only
those in the middle do. -/
theorem inside_twinBox_standard_iff (hk : k < count) :
    (twinBox .standard (systemBox .standard index) count k).Inside (systemBox .standard index) ↔
      count ≤ 2 * k + 9 ∧ 2 * k + 2 ≤ count + 9 := by
  have hcount : 0 < count := Nat.zero_lt_of_lt hk
  have hgap : (Metrics.standard : Metrics Rat).twinGap = 40 := rfl
  rw [inside_twinBox_standard_iff_x hcount]
  by_cases hfew : count ≤ 8
  · have hport : (18 : Rat) ≤ commonWidth .standard (systemBox .standard index) count :=
      le_max_right _ _
    have hpadding : (40 : Rat) ≤ sideSpace .standard (systemBox .standard index) count :=
      systemPadding_le_sideSpace hcount (portSize_le_share_standard hcount hfew)
    have hpitch : 0 ≤ commonWidth .standard (systemBox .standard index) count +
        (Metrics.standard : Metrics Rat).twinGap := by
      rw [hgap]
      linarith
    obtain ⟨hleft, hright⟩ := within_sideSpace hk hpitch
    exact iff_of_true ⟨by linarith, by linarith⟩ (by omega)
  · have hwidth : (systemBox .standard index : Box Rat).width = 520 := rfl
    have hcommon : commonWidth .standard (systemBox .standard index) count = 18 :=
      commonWidth_standard (by omega)
    have hspace : sideSpace .standard (systemBox .standard index) count = 280 - 29 * count := by
      rw [sideSpace, hcommon, hwidth, hgap]
      ring
    rw [x_twinBox hcount, right_twinBox hcount, hspace, hcommon, hgap]
    have hleft : (29 * count : Rat) ≤ 280 + 58 * k ↔ count ≤ 2 * k + 9 := by
      norm_cast
      omega
    have hright : (58 * k : Rat) ≤ 29 * count + 222 ↔ 2 * k + 2 ≤ count + 9 := by
      norm_cast
      omega
    rw [← hleft, ← hright]
    constructor <;> rintro ⟨h, h'⟩ <;> constructor <;> linarith

end Standard

section Drawn

variable {α : Type} [Scalar α] {m : Metrics α} {g : Graph} {home twin : Node}
  {before behind : List Node} {k : Nat}

theorem mem_nodesOfKind_of_mem_childrenOfKind {id : String} {kind : NodeKind} {n : Node}
    (hn : n ∈ g.childrenOfKind id kind) : n ∈ g.nodesOfKind kind := by
  obtain ⟨hmem, -, hkind⟩ := mem_childrenOfKind.mp hn
  exact mem_nodesOfKind.mpr ⟨hmem, hkind⟩

theorem drawnAs_twinBox (hnodes : (g.nodes.map (·.id)).Nodup)
    (hsystems : g.nodesOfKind .system = before ++ home :: behind)
    (hk : (g.childrenOfKind home.id .digitalTwin)[k]? = some twin) :
    DrawnAs m g twin (twinBox m (systemBox m before.length)
      (g.childrenOfKind home.id .digitalTwin).length k) := by
  have hsettled : Settled g twin :=
    settled_of_twin (by simp [hsystems]) (List.mem_of_getElem? hk) (.head _)
  exact drawnAs_of_stage hnodes hsystems hsettled (get?_placeDigitalTwins_self hnodes
    (nodup_childrenOfKind hnodes _ _) (fun _ ↦ mem_nodesOfKind_of_mem_childrenOfKind) hk _ _)

theorem exists_system_of_twin (hg : g.WellFormed) (htwin : twin ∈ g.nodesOfKind .digitalTwin) :
    ∃ home ∈ g.nodesOfKind .system, twin ∈ g.childrenOfKind home.id .digitalTwin := by
  obtain ⟨hmem, hkind⟩ := mem_nodesOfKind.mp htwin
  obtain ⟨home, hparent, hwithin⟩ := hg.exists_parent hmem (by rw [hkind]; decide)
  rw [hkind] at hwithin
  exact ⟨home, mem_nodesOfKind.mpr ⟨hparent.1, hwithin⟩,
    mem_childrenOfKind.mpr ⟨hmem, hparent.2.2, hkind⟩⟩

end Drawn

/-- With the standard measures, the digital twins of a system are drawn inside it if there are at
most nine. Of more, those too far from the middle stick out. -/
theorem twins_inside_system_iff (text : String) :
    ∃ m s g d, Parser.readText text = (.ok m, s) ∧ Graph.ofModel m = (.ok g, d) ∧
      (∀ twin ∈ g.nodesOfKind .digitalTwin,
        ∃ system ∈ g.nodesOfKind .system, twin ∈ g.childrenOfKind system.id .digitalTwin) ∧
      ∀ system ∈ g.nodesOfKind .system, ∃ b, DrawnAs (.standard : Metrics Rat) g system b ∧
        let twins := g.childrenOfKind system.id .digitalTwin
        ((∀ twin ∈ twins, ∃ c, DrawnAs (.standard : Metrics Rat) g twin c ∧ c.Inside b) ↔
          twins.length ≤ 9) ∧
        ∀ k twin, twins[k]? = some twin → ∃ c, DrawnAs (.standard : Metrics Rat) g twin c ∧
          (c.Inside b ↔ twins.length ≤ 2 * k + 9 ∧ 2 * k + 2 ≤ twins.length + 9) := by
  obtain ⟨m, s, g, d, hread, hgraph, hg⟩ := Graph.exists_wellFormed_of_text text
  refine ⟨m, s, g, d, hread, hgraph, fun twin htwin ↦ exists_system_of_twin hg htwin,
    fun system hsystem ↦ ?_⟩
  obtain ⟨before, behind, hsystems⟩ := List.append_of_mem hsystem
  refine ⟨systemBox (.standard : Metrics Rat) before.length,
    drawnAs_systemBox hg.nodeIds hsystems, ?_⟩
  intro twins
  have hdrawn {k : Nat} {twin : Node} (hk : twins[k]? = some twin) :
      DrawnAs (.standard : Metrics Rat) g twin
        (twinBox .standard (systemBox .standard before.length) twins.length k) :=
    drawnAs_twinBox hg.nodeIds hsystems hk
  have hinside {k : Nat} {twin : Node} (hk : twins[k]? = some twin) :
      (twinBox .standard (systemBox .standard before.length) twins.length k).Inside
        (systemBox (.standard : Metrics Rat) before.length) ↔
          twins.length ≤ 2 * k + 9 ∧ 2 * k + 2 ≤ twins.length + 9 :=
    inside_twinBox_standard_iff (List.getElem?_eq_some_iff.mp hk).1
  refine ⟨⟨fun hall ↦ ?_, fun hfew twin htwin ↦ ?_⟩, fun k twin hk ↦ ⟨_, hdrawn hk, hinside hk⟩⟩
  · by_contra hmany
    -- Of ten or more, the first one is outside.
    have hfirst : twins[0]? = some twins[0] := List.getElem?_eq_getElem (by omega)
    obtain ⟨c, hc, hcb⟩ := hall _ (List.mem_of_getElem? hfirst)
    rw [Option.some.inj (hc.box.symm.trans (hdrawn hfirst).box), hinside hfirst] at hcb
    omega
  · obtain ⟨k, hk⟩ := List.getElem?_of_mem htwin
    obtain ⟨hlt, -⟩ := List.getElem?_eq_some_iff.mp hk
    exact ⟨_, hdrawn hk, (hinside hk).mpr (by omega)⟩

/-- The first of ten digital twins sticks out of their system. -/
theorem first_of_ten_twins_outside_system :
    let text :=
      "#dartwin F \x7b #twinsystem S \x7b #digitaltwin A \x7b \x7d #digitaltwin B \x7b \x7d " ++
      "#digitaltwin C \x7b \x7d #digitaltwin D \x7b \x7d #digitaltwin E \x7b \x7d " ++
      "#digitaltwin G \x7b \x7d #digitaltwin H \x7b \x7d #digitaltwin I \x7b \x7d " ++
      "#digitaltwin J \x7b \x7d #digitaltwin K \x7b \x7d \x7d \x7d"
    ∃ m s g d, Parser.readText text = (.ok m, s) ∧ Graph.ofModel m = (.ok g, d) ∧
      ∃ system twin, system.kind = .system ∧ twin.kind = .digitalTwin ∧ g.Parent system twin ∧
        ∃ b c, DrawnAs (.standard : Metrics Rat) g system b ∧ DrawnAs .standard g twin c ∧
          ¬ c.Inside b := by
  intro text
  let S : Node := ⟨"ts::F::S", "S", .system "dw::F"⟩
  let A : Node := ⟨"dt::F::S::A", "A", .digitalTwin S.id⟩
  let g : Graph := ⟨⟨"dw::F", "F", .root⟩ :: S :: A ::
    ["B", "C", "D", "E", "G", "H", "I", "J", "K"].map fun name ↦
      ⟨"dt::F::S::" ++ name, name, .digitalTwin S.id⟩, []⟩
  have hvalue :
      ((Parser.readText text).1.toOption.bind fun m ↦ (Graph.ofModel m).1.toOption) = some g := by
    decide +kernel
  obtain ⟨m, s, d, hread, hgraph, hg⟩ := Graph.wellFormed_of_text_eq hvalue
  have hsystems : g.nodesOfKind .system = [] ++ S :: [] := by decide
  have hcount : (g.childrenOfKind S.id .digitalTwin).length = 10 := by decide
  have hfirst : (g.childrenOfKind S.id .digitalTwin)[0]? = some A := by decide
  refine ⟨m, s, g, d, hread, hgraph, S, A, rfl, rfl, ⟨by decide, by decide, rfl⟩, _, _,
    drawnAs_systemBox hg.nodeIds hsystems, drawnAs_twinBox hg.nodeIds hsystems hfirst, ?_⟩
  rw [hcount, inside_twinBox_standard_iff (by decide)]
  decide

end TwinDiagram.Layout
