import TwinDiagram.Interchange.Load
import TwinDiagram.Proofs.Interchange.Reading
import TwinDiagram.Proofs.Json.RoundTrip
import Mathlib.Data.List.Nodup

namespace TwinDiagram.Interchange

open Json (ofFields Textual)

/-- What a shape reads is what is written for some value, and that is read as it is. -/
structure Carries {α : Type} (depth : Nat) (s : Shape) (write : α → Json) : Prop where
  reads : ∀ ofText a, s.read ⟨ofText, true⟩ (write a) = .ok (write a)
  written : ∀ ofText j r, s.read ⟨ofText, true⟩ j = .ok r → ∃ a, r = write a
  textual : ∀ a, Textual depth (write a)

structure CarriesField {α : Type} (depth : Nat) (required : List String) (f : Field × Shape)
    (write : α → Option Json) : Prop where
  reads : ∀ ofText a j, write a = some j → f.2.read ⟨ofText, true⟩ j = .ok j
  textual : ∀ a j, write a = some j → Textual depth j
  missing : ∀ a, write a = none → f.1.key ∉ required ∧ f.1.default? = some .null
  written : ∀ ofText given r, Settles ⟨ofText, true⟩ given f r →
    ∃ a, write a = if r.isNull then none else some r

theorem isNull_of_textual {depth : Nat} {j : Json} (h : Textual depth j) : j.isNull = false := by
  cases h <;> rfl

variable {α β : Type} {depth : Nat} {s : Shape} {write : α → Json} {keys : List String}

namespace Carries

theorem text : Carries depth .text Json.text where
  reads _ t := Shape.read_text_eq_ok_iff.mpr ⟨rfl, t, rfl⟩
  written ofText j r h := by
    obtain ⟨rfl, t, rfl⟩ := Shape.read_text_eq_ok_iff.mp h
    exact ⟨t, rfl⟩
  textual t := .text depth t

theorem constant (v : String) : Carries depth (.constant v) fun _ : Unit ↦ .text v where
  reads _ _ := Shape.read_constant_eq_ok_iff.mpr ⟨rfl, rfl⟩
  written ofText j r h := by
    obtain ⟨rfl, rfl⟩ := Shape.read_constant_eq_ok_iff.mp h
    exact ⟨(), rfl⟩
  textual _ := .text depth v

theorem choice {vs : List String} {label : α → String} (h : ∀ v, v ∈ vs ↔ ∃ a, v = label a) :
    Carries depth (.choice vs) fun a ↦ .text (label a) where
  reads _ a := Shape.read_choice_eq_ok_iff.mpr ⟨rfl, label a, (h _).mpr ⟨a, rfl⟩, rfl⟩
  written ofText j r hread := by
    obtain ⟨rfl, v, hv, rfl⟩ := Shape.read_choice_eq_ok_iff.mp hread
    obtain ⟨a, rfl⟩ := (h v).mp hv
    exact ⟨a, rfl⟩
  textual a := .text depth (label a)

theorem list (h : Carries depth s write) :
    Carries (depth + 1) (.list s) fun xs : List α ↦ .list (xs.map write) where
  reads ofText xs := by
    refine Shape.read_list_eq_ok_iff.mpr ⟨_, _, rfl, rfl, ?_⟩
    rw [List.forall₂_map_left_iff, List.forall₂_map_right_iff, List.forall₂_same]
    intro a _
    exact h.reads ofText a
  written ofText j r hread := by
    obtain ⟨js, rs, rfl, rfl, hrs⟩ := Shape.read_list_eq_ok_iff.mp hread
    have hwritten : ∃ xs, List.Forall₂ (fun r a ↦ r = write a) rs xs := by
      rw [exists_forall₂_iff]
      intro r hr
      obtain ⟨k, -, hk⟩ := exists_mem_of_forall₂ hrs.flip hr
      exact h.written ofText k r hk
    obtain ⟨xs, hxs⟩ := hwritten
    rw [← List.forall₂_map_right_iff (R := Eq), List.forall₂_eq_eq_eq] at hxs
    exact ⟨xs, hxs ▸ rfl⟩
  textual xs := by
    apply Textual.list
    rw [List.forall_mem_map]
    intro a _
    exact h.textual a

end Carries

namespace CarriesField

theorem required {key : String} {spelling : Option String} (h : Carries depth s write) :
    CarriesField depth keys (⟨key, spelling, none⟩, s) fun a ↦ some (write a) where
  reads ofText a j hj := Option.some.inj hj ▸ h.reads ofText a
  textual a j hj := Option.some.inj hj ▸ h.textual a
  missing a ha := nomatch ha
  written ofText given r hr := by
    cases hr with
    | given hj hr =>
      obtain ⟨a, rfl⟩ := h.written ofText _ r hr
      exact ⟨a, by rw [isNull_of_textual (h.textual a)]; rfl⟩
    | default _ hdefault => cases hdefault

theorem default {key : String} (h : Carries depth s write) (a : α) :
    CarriesField depth keys (Shape.default key (write a) s) fun a ↦ some (write a) where
  reads ofText a j hj := Option.some.inj hj ▸ h.reads ofText a
  textual a j hj := Option.some.inj hj ▸ h.textual a
  missing a ha := nomatch ha
  written ofText given r hr := by
    have hwritten : ∃ a, r = write a := by
      cases hr with
      | given hj hr => exact h.written ofText _ r hr
      | default _ hdefault => exact ⟨a, (Option.some.inj hdefault).symm⟩
    obtain ⟨a, rfl⟩ := hwritten
    exact ⟨a, by rw [isNull_of_textual (h.textual a)]; rfl⟩

theorem absent {key : String} (hkey : key ∉ keys) (h : Carries depth s write) :
    CarriesField depth keys (Shape.absent key s) fun a : Option α ↦ a.map write where
  reads ofText a j hj := by
    obtain ⟨b, -, rfl⟩ := Option.map_eq_some_iff.mp hj
    have hpresent := isNull_of_textual (h.textual b)
    refine Shape.read_optional_eq_ok_iff.mpr (.inr ⟨fun hnull ↦ ?_, h.reads ofText b⟩)
    rw [hnull] at hpresent
    cases hpresent
  textual a j hj := by
    obtain ⟨b, -, rfl⟩ := Option.map_eq_some_iff.mp hj
    exact h.textual b
  missing a _ := ⟨hkey, rfl⟩
  written ofText given r hr := by
    cases hr with
    | given hj hr =>
      rcases Shape.read_optional_eq_ok_iff.mp hr with ⟨rfl, -⟩ | ⟨-, hr⟩
      · exact ⟨none, rfl⟩
      · obtain ⟨a, rfl⟩ := h.written ofText _ r hr
        exact ⟨some a, by rw [isNull_of_textual (h.textual a)]; rfl⟩
    | default _ hdefault =>
      cases hdefault
      exact ⟨none, rfl⟩

end CarriesField

structure Fits (ofText : Bool) (required : List String) (f : Field × Shape)
    (c : String × Option Json) : Prop where
  key : c.1 = f.1.key
  reads : ∀ j, c.2 = some j → f.2.read ⟨ofText, true⟩ j = .ok j ∧ j.isNull = false
  missing : c.2 = none → f.1.key ∉ required ∧ f.1.default? = some .null

def Kept (mode : Mode) (given : List (String × Json)) (f : Field × Shape)
    (c : String × Option Json) : Prop :=
  c.1 = f.1.key ∧ ∃ r, Settles mode given f r ∧ c.2 = if r.isNull then none else some r

structure CarriesFields {α : Type} (depth : Nat) (required : List String)
    (fields : List (Field × Shape)) (cells : α → List (String × Option Json)) : Prop where
  fits : ∀ ofText a, List.Forall₂ (Fits ofText required) fields (cells a)
  kept : ∀ ofText given cs, List.Forall₂ (Kept ⟨ofText, true⟩ given) fields cs → ∃ a, cs = cells a
  textual : ∀ a, ∀ c ∈ cells a, ∀ j, c.2 = some j → Textual depth j

namespace CarriesFields

theorem nil : CarriesFields depth keys [] fun _ : Unit ↦ [] where
  fits _ _ := .nil
  kept ofText given cs h := ⟨(), by cases h; rfl⟩
  textual a c hc := nomatch hc

theorem cons {f : Field × Shape} {fields : List (Field × Shape)} {write : α → Option Json}
    {cells : β → List (String × Option Json)} (h : CarriesField depth keys f write)
    (hs : CarriesFields depth keys fields cells) :
    CarriesFields depth keys (f :: fields) fun p : α × β ↦ (f.1.key, write p.1) :: cells p.2 where
  fits ofText p := by
    refine .cons ⟨rfl, fun j hj ↦ ?_, h.missing p.1⟩ (hs.fits ofText p.2)
    exact ⟨h.reads ofText p.1 j hj, isNull_of_textual (h.textual p.1 j hj)⟩
  kept ofText given cs hcs := by
    obtain ⟨c, cs, ⟨hkey, r, hr, hvalue⟩, hrest, rfl⟩ := List.forall₂_cons_left_iff.mp hcs
    obtain ⟨a, ha⟩ := h.written ofText given r hr
    obtain ⟨b, rfl⟩ := hs.kept ofText given cs hrest
    have hc : c = (f.1.key, write a) := Prod.ext hkey (hvalue.trans ha.symm)
    exact ⟨(a, b), hc ▸ rfl⟩
  textual p := by
    rw [List.forall_mem_cons]
    exact ⟨h.textual p.1, hs.textual p.2⟩

end CarriesFields

section Record

variable {info : RecordInfo} {fields : List (Field × Shape)} {cells : List (String × Option Json)}
  {mode : Mode} {given found : List (String × Json)}

theorem keys_sublist (cells : List (String × Option Json)) :
    ((cells.filterMap fun c ↦ c.2.map (c.1, ·)).map Prod.fst).Sublist (cells.map Prod.fst) := by
  induction cells with
  | nil => exact .slnil
  | cons c cells ih =>
    obtain ⟨key, j⟩ := c
    cases j with
    | some j => exact ih.cons_cons key
    | none => exact ih.cons key

theorem lookup_filterMap (h : (cells.map Prod.fst).Nodup) {c : String × Option Json}
    (hc : c ∈ cells) : (cells.filterMap fun c ↦ c.2.map (c.1, ·)).lookup c.1 = c.2 := by
  apply Option.ext
  intro v
  rw [Table.lookup_eq_some_iff (h.sublist (keys_sublist cells)), List.mem_filterMap]
  constructor
  · intro ⟨d, hd, hv⟩
    obtain ⟨w, hw, heq⟩ := Option.map_eq_some_iff.mp hv
    obtain ⟨hkey, rfl⟩ := Prod.ext_iff.mp heq
    exact List.inj_on_of_nodup_map h hd hc hkey ▸ hw
  · intro hv
    exact ⟨c, hc, by rw [hv]; rfl⟩

theorem Found.exists_kept (h : Found mode given fields found) :
    ∃ cells, ofFields cells = .object found ∧ List.Forall₂ (Kept mode given) fields cells := by
  induction h with
  | nil => exact ⟨[], rfl, .nil⟩
  | @kept f r fields found hr hnull _ ih =>
    obtain ⟨cells, hcells, hkept⟩ := ih
    cases hcells
    exact ⟨(f.1.key, some r) :: cells, rfl, .cons ⟨rfl, r, hr, by rw [hnull]; rfl⟩ hkept⟩
  | @dropped f fields found hr _ ih =>
    obtain ⟨cells, hcells, hkept⟩ := ih
    cases hcells
    exact ⟨(f.1.key, none) :: cells, rfl, .cons ⟨rfl, .null, hr, rfl⟩ hkept⟩

theorem found_of_fits {ofText : Bool} (h : List.Forall₂ (Fits ofText info.required) fields cells)
    (hlookup : ∀ c ∈ cells, given.lookup c.1 = c.2) :
    Found ⟨ofText, true⟩ given fields (cells.filterMap fun c ↦ c.2.map (c.1, ·)) := by
  induction h with
  | nil => exact .nil
  | @cons f c fields cells hc _ ih =>
    obtain ⟨hvalue, hrest⟩ := List.forall_mem_cons.mp hlookup
    obtain ⟨key, j⟩ := c
    cases hc.key
    cases j with
    | some j =>
      obtain ⟨hread, hnull⟩ := hc.reads j rfl
      exact .kept (.given hvalue hread) hnull (ih hrest)
    | none => exact .dropped (.default hvalue (hc.missing rfl).2) (ih hrest)

theorem nodup_cells {ofText : Bool} (hdistinct : ((fields.map Prod.fst).map (·.key)).Nodup)
    (h : List.Forall₂ (Fits ofText info.required) fields cells) : (cells.map Prod.fst).Nodup := by
  have hkeys : cells.map Prod.fst = (fields.map Prod.fst).map (·.key) := by
    rw [← List.forall₂_eq_eq_eq, List.map_map, List.forall₂_map_left_iff,
      List.forall₂_map_right_iff]
    exact h.flip.imp fun c f hc ↦ hc.key
  exact hkeys ▸ hdistinct

theorem read_ofFields {ofText : Bool} (hdistinct : ((fields.map Prod.fst).map (·.key)).Nodup)
    (hknown : ∀ key ∈ info.required, key ∈ (fields.map Prod.fst).map (·.key))
    (hspelled : ∀ f ∈ fields.map Prod.fst, ∀ g ∈ fields.map Prod.fst, f.spelling ≠ some g.key)
    (h : List.Forall₂ (Fits ofText info.required) fields cells) :
    (Shape.record info fields).read ⟨ofText, true⟩ (ofFields cells) = .ok (ofFields cells) := by
  have hlookup (c : String × Option Json) (hc : c ∈ cells) :
      (cells.filterMap fun c ↦ c.2.map (c.1, ·)).lookup c.1 = c.2 :=
    lookup_filterMap (nodup_cells hdistinct h) hc
  have hgiven (key : String)
    (hkey : key ∈ (cells.filterMap fun c ↦ c.2.map (c.1, ·)).map Prod.fst) :
      ∃ f ∈ fields, f.1.key = key := by
    obtain ⟨c, hc, rfl⟩ := List.mem_map.mp ((keys_sublist cells).subset hkey)
    obtain ⟨f, hf, hfits⟩ := exists_mem_of_forall₂ h.flip hc
    exact ⟨f, hf, hfits.key.symm⟩
  refine read_record_eq_ok_iff.mpr ⟨_, _, rfl, rfl, ⟨?_, ?_, hgiven⟩, found_of_fits h hlookup⟩
  · intro key hkey
    obtain ⟨_, hmem, rfl⟩ := List.mem_map.mp (hknown key hkey)
    obtain ⟨f, hf, rfl⟩ := List.mem_map.mp hmem
    obtain ⟨c, hc, hfits⟩ := exists_mem_of_forall₂ h hf
    rw [← Table.lookup_isSome_iff, ← hfits.key, hlookup c hc]
    cases hvalue : c.2 with
    | some j => rfl
    | none => exact absurd hkey (hfits.missing hvalue).1
  · intro f hf key hspelling hkey
    obtain ⟨g, hg, rfl⟩ := hgiven key hkey
    exact hspelled f.1 (List.mem_map_of_mem hf) g.1 (List.mem_map_of_mem hg) hspelling

end Record

namespace Carries

/-- A record is written field by field; `parts` are its values, in the order of its fields. -/
theorem record {info : RecordInfo} {fields : List (Field × Shape)}
    {cells : β → List (String × Option Json)} (parts : α → β)
    (h : CarriesFields depth info.required fields cells)
    (hinfo : Complete info.required (fields.map Prod.fst))
    (hwrite : ∀ a, write a = ofFields (cells (parts a))) (hparts : ∀ b, ∃ a, parts a = b) :
    Carries (depth + 1) (.record info fields) write where
  reads ofText a := by
    rw [hwrite]
    exact read_ofFields hinfo.distinct hinfo.known hinfo.spelled (h.fits ofText (parts a))
  written ofText j r hread := by
    obtain ⟨given, found, -, rfl, -, hfound⟩ := read_record_eq_ok_iff.mp hread
    obtain ⟨cs, hcs, hkept⟩ := hfound.exists_kept
    obtain ⟨b, rfl⟩ := h.kept ofText given cs hkept
    obtain ⟨a, rfl⟩ := hparts b
    exact ⟨a, by rw [hwrite, hcs]⟩
  textual a := by
    rw [hwrite]
    have hnodup := nodup_cells hinfo.distinct (h.fits true (parts a))
    refine Textual.object (hnodup.sublist (keys_sublist _)) fun f hf ↦ ?_
    obtain ⟨c, hc, hsome⟩ := List.mem_filterMap.mp hf
    obtain ⟨j, hj, rfl⟩ := Option.map_eq_some_iff.mp hsome
    exact h.textual (parts a) c hc j hj

open CarriesField CarriesFields

theorem twin (name : String) : Carries (depth + 2) (.twin name) Twin.toJson := by
  have hcomplete : Complete ["name", "ports"]
      [(Shape.required "name" .text).1, (Shape.items "ports" .text).1] :=
    ⟨by decide, by decide, by decide, by decide⟩
  exact record (fun t ↦ (t.name, t.ports, ()))
    (cons (required text) (cons (default text.list []) nil)) hcomplete (fun _ ↦ rfl)
    fun (name, ports, ()) ↦ ⟨⟨name, ports⟩, rfl⟩

theorem connection : Carries (depth + 1) .connection Connection.toJson :=
  record (fun c ↦ (c.source, c.target, c.name, ()))
    (cons (required text) (cons (required text) (cons (absent (by decide) text) nil)))
    ⟨by decide, by decide, by decide, by decide⟩ (fun _ ↦ rfl)
    fun (source, target, name, ()) ↦ ⟨⟨source, target, name⟩, rfl⟩

theorem goal : Carries (depth + 1) .goal Goal.toJson :=
  record (fun g ↦ (g.name, g.doc, ())) (cons (required text) (cons (absent (by decide) text) nil))
    ⟨by decide, by decide, by decide, by decide⟩ (fun _ ↦ rfl)
    fun (name, doc, ()) ↦ ⟨⟨name, doc⟩, rfl⟩

theorem allocation : Carries (depth + 1) .allocation Allocation.toJson :=
  record (fun a ↦ (a.goal, a.target, ())) (cons (required text) (cons (required text) nil))
    ⟨by decide, by decide, by decide, by decide⟩ (fun _ ↦ rfl)
    fun (goal, target, ()) ↦ ⟨⟨goal, target⟩, rfl⟩

theorem system : Carries (depth + 4) .system System.toJson :=
  record (fun s ↦ (s.name, s.digitalTwins, s.parts, s.connections, ()))
    (cons (required text) (cons (default (twin _).list []) (cons (default (twin _).list [])
      (cons (default connection.list []) nil))))
    ⟨by decide, by decide, by decide, by decide⟩ (fun _ ↦ rfl)
    fun (name, digitalTwins, parts, connections, ()) ↦
      ⟨⟨name, digitalTwins, parts, connections⟩, rfl⟩

theorem slice : Carries (depth + 6) .slice Slice.toJson :=
  record (fun s ↦ (s.systems, s.goals, s.allocations, ()))
    (cons (absent (by decide) system.list) (cons (absent (by decide) goal.list)
      (cons (absent (by decide) allocation.list) nil)))
    ⟨by decide, by decide, by decide, by decide⟩ (fun _ ↦ rfl)
    fun (systems, goals, allocations, ()) ↦ ⟨⟨systems, goals, allocations⟩, rfl⟩

theorem transform : Carries (depth + 7) .transform Transform.toJson :=
  record (fun t ↦ (t.before, t.core, t.after, ()))
    (cons (absent (by decide) slice) (cons (absent (by decide) slice)
      (cons (absent (by decide) slice) nil)))
    ⟨by decide, by decide, by decide, by decide⟩ (fun _ ↦ rfl)
    fun (before, core, after, ()) ↦ ⟨⟨before, core, after⟩, rfl⟩

theorem model : Carries (depth + 8) .model Model.toJson :=
  record (fun m ↦ ((), m.name, m.systems, m.goals, m.allocations, m.transform, ()))
    (cons (default (constant _) ()) (cons (default text "") (cons (default system.list [])
      (cons (default goal.list []) (cons (default allocation.list [])
        (cons (absent (by decide) transform) nil))))))
    ⟨by decide, by decide, by decide, by decide⟩ (fun _ ↦ rfl)
    fun ((), name, systems, goals, allocations, transform, ()) ↦
      ⟨⟨name, systems, goals, allocations, transform⟩, rfl⟩

theorem rootNode : Carries (depth + 1) .rootNode
    fun n : { n : Node // n.kind = .root } ↦ n.1.toJson := by
  refine record (fun n ↦ (n.1.id, n.1.label, (), ()))
    (cons (required text) (cons (required text) (cons (default (constant _) ()) nil)))
    ⟨by decide, by decide, by decide, by decide⟩ ?_
    fun (id, label, (), ()) ↦ ⟨⟨⟨id, label, .root⟩, rfl⟩, rfl⟩
  intro ⟨⟨id, label, place⟩, hkind⟩
  cases place with
  | root => rfl
  | _ => cases hkind

/-- The nodes that hold nothing but their parent. -/
theorem childNode {k : NodeKind} (name : String) (place : String → Place)
    (hplace : ∀ p, (place p).kind = k ∧ (place p).parent? = some p ∧ (place p).doc? = none)
    (hkind : ∀ q : Place, q.kind = k → ∃ p, q = place p) :
    Carries (depth + 1) (.childNode name k [])
      fun n : { n : Node // n.kind = k } ↦ n.1.toJson := by
  have hcomplete : Complete ["id", "type", "label", "parentId"]
      [(Shape.required "id" .text).1, (Shape.required "label" .text).1,
        ⟨"parentId", some "parent_id", none⟩, (Shape.tag k).1] := by
    cases k <;> exact ⟨by decide, by decide, by decide, by decide⟩
  refine record (fun n ↦ (n.1.id, n.1.label, n.1.parent?.getD "", (), ()))
    (cons (required text) (cons (required text) (cons (required text)
      (cons (default (constant _) ()) nil)))) hcomplete ?_ ?_
  · intro ⟨⟨id, label, q⟩, hq⟩
    obtain ⟨p, rfl⟩ := hkind q hq
    obtain ⟨hkind, hparent, hdoc⟩ := hplace p
    simp only [Node.toJson, Node.kind, Node.parent?, Node.doc?, hkind, hparent, hdoc]
    rfl
  · intro (id, label, p, (), ())
    obtain ⟨hkind, hparent, -⟩ := hplace p
    exact ⟨⟨⟨id, label, place p⟩, hkind⟩, by simp [Node.parent?, hparent]⟩

theorem goalNode : Carries (depth + 1) (.nodeOfKind .goal)
    fun n : { n : Node // n.kind = .goal } ↦ n.1.toJson := by
  refine record (fun n ↦ (n.1.id, n.1.label, n.1.parent?.getD "", (), n.1.doc?, ()))
    (cons (required text) (cons (required text) (cons (required text)
      (cons (default (constant _) ()) (cons (absent (by decide) text) nil)))))
    ⟨by decide, by decide, by decide, by decide⟩ ?_
    fun (id, label, parent, (), doc, ()) ↦ ⟨⟨⟨id, label, .goal parent doc⟩, rfl⟩, rfl⟩
  intro ⟨⟨id, label, place⟩, hkind⟩
  cases place with
  | goal parent doc => rfl
  | _ => cases hkind

theorem nodeOfKind (k : NodeKind) : Carries (depth + 1) (.nodeOfKind k)
    fun n : { n : Node // n.kind = k } ↦ n.1.toJson := by
  cases k with
  | root => exact rootNode
  | system =>
    refine childNode _ .system (fun _ ↦ ⟨rfl, rfl, rfl⟩) fun q hq ↦ ?_
    cases q with
    | system p => exact ⟨p, rfl⟩
    | _ => cases hq
  | digitalTwin =>
    refine childNode _ .digitalTwin (fun _ ↦ ⟨rfl, rfl, rfl⟩) fun q hq ↦ ?_
    cases q with
    | digitalTwin p => exact ⟨p, rfl⟩
    | _ => cases hq
  | part =>
    refine childNode _ .part (fun _ ↦ ⟨rfl, rfl, rfl⟩) fun q hq ↦ ?_
    cases q with
    | part p => exact ⟨p, rfl⟩
    | _ => cases hq
  | port =>
    refine childNode _ .port (fun _ ↦ ⟨rfl, rfl, rfl⟩) fun q hq ↦ ?_
    cases q with
    | port p => exact ⟨p, rfl⟩
    | _ => cases hq
  | goal => exact goalNode

theorem node : Carries (depth + 1) .node Node.toJson where
  reads ofText n := by
    refine read_node_eq_ok_iff.mpr ⟨n.kind, ?_, (@nodeOfKind 0 n.kind).reads ofText ⟨n, rfl⟩⟩
    obtain ⟨id, label, place⟩ := n
    cases place <;> rfl
  written ofText j r h := by
    obtain ⟨k, -, hr⟩ := read_node_eq_ok_iff.mp h
    obtain ⟨n, hn⟩ := (@nodeOfKind 0 k).written ofText j r hr
    exact ⟨n.1, hn⟩
  textual n := (nodeOfKind n.kind).textual ⟨n, rfl⟩

theorem edge : Carries (depth + 1) .edge Edge.toJson := by
  have hkind (v : String) : v ∈ [EdgeKind.connection.tag, EdgeKind.allocation.tag] ↔
      ∃ k : EdgeKind, v = k.tag := by
    simp only [List.mem_cons, List.not_mem_nil, or_false]
    constructor
    · rintro (rfl | rfl)
      · exact ⟨.connection, rfl⟩
      · exact ⟨.allocation, rfl⟩
    · intro ⟨k, hk⟩
      cases k with
      | connection => exact .inl hk
      | allocation => exact .inr hk
  exact record (fun e ↦ (e.id, e.kind, e.source, e.target, e.label, ()))
    (cons (required text) (cons (default (choice hkind) .connection) (cons (required text)
      (cons (required text) (cons (absent (by decide) text) nil)))))
    ⟨by decide, by decide, by decide, by decide⟩ (fun _ ↦ rfl)
    fun (id, kind, source, target, label, ()) ↦ ⟨⟨id, kind, source, target, label⟩, rfl⟩

theorem graph : Carries (depth + 3) .graph Graph.toJson :=
  record (fun g ↦ (g.nodes, g.edges, ()))
    (cons (default node.list []) (cons (default edge.list []) nil))
    ⟨by decide, by decide, by decide, by decide⟩ (fun _ ↦ rfl)
    fun (nodes, edges, ()) ↦ ⟨⟨nodes, edges⟩, rfl⟩

end Carries

end TwinDiagram.Interchange
