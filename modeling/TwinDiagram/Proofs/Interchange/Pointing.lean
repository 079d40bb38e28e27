import TwinDiagram.Proofs.Interchange.Tidy

namespace TwinDiagram.Interchange

inductive Leads : Json → List String → Json → Prop
  | here {j : Json} : Leads j [] j
  | field {fields : List (String × Json)} {key : String} {v w : Json} {path : List String} :
      fields.lookup key = some v → Leads v path w → Leads (.object fields) (key :: path) w
  | item {items : List Json} {i : Nat} {v w : Json} {path : List String} :
      items[i]? = some v → Leads v path w → Leads (.list items) (toString i :: path) w

inductive Locates (missing : Prop) (j : Json) : List String → Prop
  | value {path : List String} {v : Json} : ¬ missing → Leads j path v → Locates missing j path
  | key {before : List String} {key : String} {fields : List (String × Json)} :
      missing → Leads j before (.object fields) → fields.lookup key = none →
      Locates missing j (before ++ [key])

/-- All of the path but its end is there in the value, and the end is there unless the message says
that it is required. -/
structure PointsInto (j : Json) (path : List String) (message : String) : Prop where
  before : ∀ before, before <+: path → before ≠ path → ∃ v, Leads j before v
  present : ¬ "Field required".toList <+: message.toList → ∃ v, Leads j path v
  absent : "Field required".toList <+: message.toList → ∃ before key fields,
    path = before ++ [key] ∧ Leads j before (.object fields) ∧ fields.lookup key = none

section Paths

variable {missing : Prop} {j v : Json} {path before : List String} {message key : String}
  {fields : List (String × Json)} {items : List Json} {i : Nat}

theorem Leads.of_prefix (h : Leads j path v) (hbefore : before <+: path) :
    ∃ w, Leads j before w := by
  induction h generalizing before with
  | here =>
    obtain rfl := List.prefix_nil.mp hbefore
    exact ⟨_, .here⟩
  | field hv _ ih =>
    cases before with
    | nil => exact ⟨_, .here⟩
    | cons key before =>
      obtain ⟨rfl, hrest⟩ := List.cons_prefix_cons.mp hbefore
      obtain ⟨w, hw⟩ := ih hrest
      exact ⟨w, .field hv hw⟩
  | item hv _ ih =>
    cases before with
    | nil => exact ⟨_, .here⟩
    | cons index before =>
      obtain ⟨rfl, hrest⟩ := List.cons_prefix_cons.mp hbefore
      obtain ⟨w, hw⟩ := ih hrest
      exact ⟨w, .item hv hw⟩

namespace Locates

theorem own_key (hmissing : missing) (hkey : fields.lookup key = none) :
    Locates missing (.object fields) [key] :=
  @Locates.key _ _ [] _ _ hmissing .here hkey

theorem field (hv : fields.lookup key = some v) (h : Locates missing v path) :
    Locates missing (.object fields) (key :: path) := by
  cases h with
  | value hmissing hpath => exact .value hmissing (.field hv hpath)
  | key hmissing hbefore hkey =>
    exact @Locates.key _ _ (_ :: _) _ _ hmissing (.field hv hbefore) hkey

theorem item (hv : items[i]? = some v) (h : Locates missing v path) :
    Locates missing (.list items) (toString i :: path) := by
  cases h with
  | value hmissing hpath => exact .value hmissing (.item hv hpath)
  | key hmissing hbefore hkey =>
    exact @Locates.key _ _ (_ :: _) _ _ hmissing (.item hv hbefore) hkey

theorem pointsInto (h : Locates missing j path)
    (hmissing : missing ↔ "Field required".toList <+: message.toList) :
    PointsInto j path message := by
  cases h with
  | value hpresent hpath =>
    exact ⟨fun _ hbefore _ ↦ hpath.of_prefix hbefore, fun _ ↦ ⟨_, hpath⟩,
      fun hmessage ↦ absurd (hmissing.mpr hmessage) hpresent⟩
  | @key before key fields habsent hpath hkey =>
    refine ⟨fun path hprefix hne ↦ ?_, fun hmessage ↦ absurd (hmissing.mp habsent) hmessage,
      fun _ ↦ ⟨before, key, fields, rfl, hpath, hkey⟩⟩
    obtain rfl | hprefix := List.prefix_concat_iff.mp hprefix
    · exact absurd rfl hne
    · exact hpath.of_prefix hprefix

end Locates

end Paths

def Cause.IsMissing : Cause → Prop
  | missing | missingKey _ => True
  | other message => "Field required".toList <+: message.toList
  | _ => False

section Message

variable {s t : String} {c : Char}

theorem head?_append (h : s.toList.head? = some c) : (s ++ t).toList.head? = some c := by
  rw [String.toList_append, List.head?_append, h]
  rfl

theorem not_required_of_head (h : s.toList.head? = some c) (hc : c ≠ 'F') :
    ¬ "Field required".toList <+: s.toList := by
  rintro ⟨rest, hrest⟩
  rw [← hrest] at h
  exact hc (Option.some.inj h).symm

/-- No other message begins with the words for what is missing. -/
theorem Cause.isMissing_iff (ofText : Bool) (cause : Cause) :
    cause.IsMissing ↔ "Field required".toList <+: (cause.message ofText).toList := by
  have hvalue : "Input should be '".toList.head? = some 'I' := by decide +kernel
  have hchoice : "Input should be ".toList.head? = some 'I' := by decide +kernel
  have hrecord : "Input should be a valid dictionary or instance of ".toList.head? = some 'I' := by
    decide +kernel
  have hobject : "Input should be an object".toList.head? = some 'I' := by decide +kernel
  have htag : "Input tag '".toList.head? = some 'I' := by decide +kernel
  have hkey : "Unexpected key: ".toList.head? = some 'U' := by decide +kernel
  cases cause with
  | missing => exact iff_of_true trivial (by cases ofText <;> decide +kernel)
  | missingKey key =>
    have hmessage : message ofText (.missingKey key) = "Field required" ++ (": " ++ key) := by
      rw [← String.append_assoc]
      rfl
    rw [hmessage, String.toList_append]
    exact iff_of_true trivial (List.prefix_append _ _)
  | other message => rfl
  | notConstant v =>
    exact iff_of_false id (not_required_of_head (head?_append (head?_append hvalue)) (by decide))
  | notChoice vs => exact iff_of_false id (not_required_of_head (head?_append hchoice) (by decide))
  | notRecord name =>
    cases ofText with
    | true => exact iff_of_false id (not_required_of_head hobject (by decide))
    | false => exact iff_of_false id (not_required_of_head (head?_append hrecord) (by decide))
  | otherSpelling key =>
    exact iff_of_false id (not_required_of_head (head?_append hkey) (by decide))
  | unknownTag tag tags =>
    exact iff_of_false id
      (not_required_of_head (head?_append (head?_append (head?_append htag))) (by decide))
  | _ => exact iff_of_false id (by cases ofText <;> decide +kernel)

end Message

section Reading

variable {α β : Type} {mode : Mode} {j r : Json} {f : Fault} {info : RecordInfo}
  {fields : List (Field × Shape)} {given : List (String × Json)} {key : String}

theorem within_eq_error_iff {x : Except Fault α} :
    within key x = .error f ↔ ∃ f', x = .error f' ∧ f = f'.within key := by
  cases x <;> simp [within, Except.mapError, eq_comm]

theorem bind_eq_error_iff {x : Except Fault α} {next : α → Except Fault β} :
    x >>= next = .error f ↔ x = .error f ∨ ∃ a, x = .ok a ∧ next a = .error f := by
  cases x <;> simp [bind, Except.bind]

/-- What is wrong with a list is wrong with an item. -/
theorem exists_item_of_readAll {item : Json → Except Fault Json} {index : Nat} {js : List Json}
    (h : readAll item index js = .error f) :
    ∃ i j f', js[i]? = some j ∧ item j = .error f' ∧ f = f'.within (toString (index + i)) := by
  induction js generalizing index with
  | nil => cases h
  | cons j js ih =>
    rw [readAll, bind_eq_error_iff] at h
    obtain h | ⟨r, -, h⟩ := h
    · obtain ⟨f', hf', rfl⟩ := within_eq_error_iff.mp h
      exact ⟨0, j, f', rfl, hf', rfl⟩
    · obtain h | ⟨_, -, h⟩ := bind_eq_error_iff.mp h
      · obtain ⟨i, k, f', hk, hf', rfl⟩ := ih h
        exact ⟨i + 1, k, f', hk, hf', by rw [Nat.add_assoc, Nat.add_comm 1]⟩
      · cases h

/-- What may be wrong with an object that is to be a record: a key that it lacks, a key that it has,
or the value of a field. -/
inductive RecordFault (mode : Mode) (fields : List (Field × Shape)) (given : List (String × Json)) :
    Fault → Prop
  | absent {key : String} {cause : Cause} : given.lookup key = none → cause.IsMissing →
      RecordFault mode fields given ⟨[key], cause⟩
  | present {key : String} {cause : Cause} {j : Json} : given.lookup key = some j →
    ¬ cause.IsMissing →
      RecordFault mode fields given ⟨[key], cause⟩
  | value {g : Field × Shape} {key : String} {j : Json} {f : Fault} : g ∈ fields →
      (key = g.1.key ∨ g.1.spelling = some key) → given.lookup key = some j →
      g.2.read mode j = .error f → RecordFault mode fields given (f.within key)

theorem given?_eq_some {f : Field} {p : String × Json} (h : given? f given = some p) :
    (p.1 = f.key ∨ f.spelling = some p.1) ∧ given.lookup p.1 = some p.2 := by
  unfold given? at h
  split at h
  · next j hj =>
    cases h
    exact ⟨.inl rfl, hj⟩
  · obtain ⟨key, hkey, hp⟩ := Option.bind_eq_some_iff.mp h
    obtain ⟨j, hj, rfl⟩ := Option.map_eq_some_iff.mp hp
    exact ⟨.inr hkey, hj⟩

theorem lookup_eq_none_of_given? {f : Field} (h : given? f given = none) :
    given.lookup f.key = none := by
  unfold given? at h
  split at h
  · cases h
  · next hnone => exact hnone

namespace RecordFault

theorem of_checkKeys (h : checkKeys info (fields.map Prod.fst) given = .error f) :
    RecordFault mode fields given f := by
  dsimp only [checkKeys] at h
  split at h
  · next key hkey =>
    cases h
    exact .absent (by simpa using List.find?_some hkey) trivial
  · split at h
    · next key hkey =>
      cases h
      have hsome := List.find?_some (p := fun key ↦ (given.lookup key).isSome) hkey
      obtain ⟨j, hj⟩ := Option.isSome_iff_exists.mp hsome
      exact .present hj id
    · cases h

theorem of_checkUnknown (h : checkUnknown (fields.map Prod.fst) given = .error f) :
    RecordFault mode fields given f := by
  dsimp only [checkUnknown] at h
  split at h
  · next key v hkey =>
    cases h
    have hmem : key ∈ given.map Prod.fst := List.mem_map_of_mem (List.mem_of_find?_eq_some hkey)
    obtain ⟨j, hj⟩ := Option.isSome_iff_exists.mp (Table.lookup_isSome_iff.mpr hmem)
    exact .present hj id
  · cases h

theorem of_settle {g : Field × Shape} (hg : g ∈ fields) (h : settle mode given g = .error f) :
    RecordFault mode fields given f := by
  rw [settle] at h
  cases hgiven : given? g.1 given with
  | some p =>
    rw [hgiven] at h
    obtain ⟨f', hf', rfl⟩ := within_eq_error_iff.mp h
    obtain ⟨hkey, hlookup⟩ := given?_eq_some hgiven
    exact .value hg hkey hlookup hf'
  | none =>
    rw [hgiven] at h
    dsimp only at h
    split at h
    · cases h
    · cases h
      exact .absent (lookup_eq_none_of_given? hgiven) trivial

theorem of_readFields (h : Shape.readFields mode given fields = .error f) :
    RecordFault mode fields given f := by
  suffices hsettle : ∃ g ∈ fields, settle mode given g = .error f by
    obtain ⟨g, hg, h⟩ := hsettle
    exact of_settle hg h
  induction fields with
  | nil => cases h
  | cons g fields ih =>
    rw [readFields_cons] at h
    obtain h | ⟨r, -, h⟩ := bind_eq_error_iff.mp h
    · exact ⟨g, .head _, h⟩
    · obtain h | ⟨_, -, h⟩ := bind_eq_error_iff.mp h
      · obtain ⟨g', hg', h⟩ := ih h
        exact ⟨g', .tail _ hg', h⟩
      · cases h

theorem of_read (h : (Shape.record info fields).read mode (.object given) = .error f) :
    RecordFault mode fields given f := by
  have hfields (h : (do
      let found ← Shape.readFields mode given fields
      checkUnknown (fields.map Prod.fst) given
      return Json.object found) = .error f) : RecordFault mode fields given f := by
    obtain h | ⟨found, -, h⟩ := bind_eq_error_iff.mp h
    · exact of_readFields h
    · obtain h | ⟨_, -, h⟩ := bind_eq_error_iff.mp h
      · exact of_checkUnknown h
      · cases h
  rw [Shape.read] at h
  cases hmode : mode.interchange with
  | true =>
    rw [hmode, if_pos rfl] at h
    obtain h | ⟨_, -, h⟩ := bind_eq_error_iff.mp h
    · exact of_checkKeys h
    · exact hfields h
  | false =>
    rw [hmode] at h
    exact hfields h

end RecordFault

structure Fault.IsHere (f : Fault) : Prop where
  path : f.path = []
  cause : ¬ f.cause.IsMissing

theorem Fault.isHere_of_fail {cause : Cause} (h : (fail cause : Except Fault α) = .error f)
    (hcause : ¬ cause.IsMissing) : f.IsHere := by
  cases h
  exact ⟨rfl, hcause⟩

theorem Fault.IsHere.locates (h : f.IsHere) : Locates f.cause.IsMissing j f.path := by
  rw [h.path]
  exact .value h.cause .here

theorem read_list_eq_error {item : Shape} (h : (Shape.list item).read mode j = .error f) :
    f.IsHere ∨ ∃ (js : List Json) (i : Nat) (k : Json) (f' : Fault), j = .list js ∧
      js[i]? = some k ∧ item.read mode k = .error f' ∧ f = f'.within (toString i) := by
  cases j with
  | list js =>
    rw [Shape.read] at h
    cases hitems : readAll (item.read mode) 0 js with
    | ok rs =>
      rw [hitems] at h
      cases h
    | error f' =>
      rw [hitems] at h
      cases h
      obtain ⟨i, k, f', hk, hf', rfl⟩ := exists_item_of_readAll hitems
      exact .inr ⟨js, i, k, f', rfl, hk, hf', by rw [Nat.zero_add]⟩
  | _ =>
    simp only [Shape.read] at h
    exact .inl (Fault.isHere_of_fail h id)

theorem isHere_of_readNumber {ofText : Bool} (h : readNumber ofText j = .error f) : f.IsHere := by
  unfold readNumber at h
  repeat' split at h
  all_goals first | cases h; done | exact Fault.isHere_of_fail h id

theorem isHere_of_readWhole (h : readWhole j = .error f) : f.IsHere := by
  unfold readWhole at h
  repeat' split at h
  all_goals first | cases h; done | exact Fault.isHere_of_fail h id

theorem readCase_eq_error {tags : List String} {tag : Json} {cases : List (String × Shape)}
    (h : Shape.readCase mode tags tag j cases = .error f) :
    f.IsHere ∨ ∃ name s f', tag.text? = some name ∧
      cases.lookup name = some s ∧ s.read mode j = .error f' ∧ f = f'.within name := by
  induction cases with
  | nil =>
    rw [Shape.readCase] at h
    exact .inl (Fault.isHere_of_fail h id)
  | cons c cases ih =>
    obtain ⟨name, s⟩ := c
    rw [Shape.readCase] at h
    by_cases htag : tag.text? = some name
    · rw [if_pos htag] at h
      obtain ⟨f', hf', rfl⟩ := within_eq_error_iff.mp h
      exact .inr ⟨name, s, f', htag, List.lookup_cons_self, hf', rfl⟩
    · rw [if_neg htag] at h
      obtain hhere | ⟨name', s', f', htag', hs', hf'⟩ := ih h
      · exact .inl hhere
      · have hne : name' ≠ name := by
          rintro rfl
          exact htag htag'
        refine .inr ⟨name', s', f', htag', ?_, hf'⟩
        rw [List.lookup_cons, beq_eq_false_iff_ne.mpr hne]
        exact hs'

theorem read_tagged_eq_error {cases : List (String × Shape)}
    (h : (Shape.tagged cases).read mode j = .error f) :
    f.IsHere ∨ ∃ name s f', cases.lookup name = some s ∧
      s.read mode j = .error f' ∧ f = f'.within name := by
  cases j with
  | object given =>
    rw [Shape.read] at h
    split at h
    · exact .inl (Fault.isHere_of_fail h id)
    · obtain hhere | ⟨name, s, f', -, hs⟩ := readCase_eq_error h
      · exact .inl hhere
      · exact .inr ⟨name, s, f', hs⟩
  | _ =>
    simp only [Shape.read] at h
    exact .inl (Fault.isHere_of_fail h id)

theorem Locates.record (h : (Shape.record info fields).read mode j = .error f)
    (hfields : ∀ g ∈ fields, ∀ j f, g.2.read mode j = .error f →
      Locates f.cause.IsMissing j f.path) :
    Locates f.cause.IsMissing j f.path := by
  cases j with
  | object given =>
    cases RecordFault.of_read h with
    | absent hkey hmissing => exact .own_key hmissing hkey
    | present hkey hmissing => exact .value hmissing (.field hkey .here)
    | value hg _ hkey hf => exact .field hkey (hfields _ hg _ _ hf)
  | _ =>
    simp only [Shape.read] at h
    exact (Fault.isHere_of_fail h id).locates

end Reading

namespace Shape

mutual

def untagged : Shape → Bool
  | optional s => s.untagged
  | list item => item.untagged
  | record _ fields => untaggedFields fields
  | tagged _ => false
  | _ => true

def untaggedFields : List (Field × Shape) → Bool
  | [] => true
  | (_, s) :: rest => s.untagged && untaggedFields rest

end

mutual

theorem locates {mode : Mode} : ∀ {s : Shape} {j : Json} {f : Fault}, s.untagged →
    s.read mode j = .error f → Locates f.cause.IsMissing j f.path
  | text, j, f, _, h | constant v, j, f, _, h | choice vs, j, f, _, h => by
    rw [read] at h
    split at h
    · cases h
    · exact (Fault.isHere_of_fail h id).locates
  | number, j, f, _, h => by
    rw [read] at h
    exact (isHere_of_readNumber h).locates
  | integer, j, f, _, h => by
    rw [read] at h
    exact (isHere_of_readWhole h).locates
  | optional s, j, f, hs, h => by
    rw [read] at h
    split at h
    · cases h
    · exact locates (s := s) (by simpa [untagged] using hs) h
  | list item, j, f, hs, h => by
    obtain hhere | ⟨js, i, k, f', rfl, hk, hf', rfl⟩ := read_list_eq_error h
    · exact hhere.locates
    · exact .item hk (locates (s := item) (by simpa [untagged] using hs) hf')
  | record info fields, j, f, hs, h => .record h (locatesFields (by simpa [untagged] using hs))
  | tagged _, _, _, hs, _ => nomatch hs

theorem locatesFields {mode : Mode} : ∀ {fields : List (Field × Shape)}, untaggedFields fields →
    ∀ g ∈ fields, ∀ j f, g.2.read mode j = .error f → Locates f.cause.IsMissing j f.path
  | [], _, _, hg => nomatch hg
  | (_, s) :: fields, hs, g, hg => by
    rw [untaggedFields, Bool.and_eq_true] at hs
    obtain rfl | hg := List.mem_cons.mp hg
    · exact fun j f ↦ locates hs.1
    · exact locatesFields hs.2 g hg

end

end Shape

/-- The path without the type of a node, which comes behind the index of the node. -/
def withoutNodeTag : List String → List String
  | list :: index :: tag :: rest =>
    if list = "nodes" ∧ tag ∈ NodeKind.all.map (·.tag) then list :: index :: rest
    else list :: index :: tag :: rest
  | path => path

section Graph

variable {mode : Mode} {j r : Json} {f : Fault}

theorem withoutNodeTag_nodes (k : NodeKind) (index : String) (path : List String) :
    withoutNodeTag ("nodes" :: index :: k.tag :: path) = "nodes" :: index :: path :=
  if_pos ⟨rfl, by cases k <;> decide⟩

theorem withoutNodeTag_edges (path : List String) :
    withoutNodeTag ("edges" :: path) = "edges" :: path := by
  match path with
  | [] | [_] => rfl
  | index :: tag :: rest => simp [withoutNodeTag]

theorem read_node_eq_error (h : Shape.node.read mode j = .error f) :
    f.IsHere ∨
      ∃ (k : NodeKind) (f' : Fault), (Shape.nodeOfKind k).read mode j = .error f' ∧
        f = f'.within k.tag := by
  obtain hself | ⟨name, s, f', hs, hf', rfl⟩ := read_tagged_eq_error h
  · exact .inl hself
  · obtain ⟨k, rfl, rfl⟩ := lookup_nodes.mp hs
    exact .inr ⟨k, f', hf', rfl⟩

theorem untagged_nodeOfKind (k : NodeKind) : (Shape.nodeOfKind k).untagged := by cases k <;> rfl

theorem Fault.IsHere.locates_node (h : f.IsHere) (before : List String) {v : Json}
    (hv : Leads j before v)
    (hbefore : withoutNodeTag before = before) :
    Locates f.cause.IsMissing j (withoutNodeTag (before ++ f.path)) := by
  rw [h.path, List.append_nil, hbefore]
  exact .value h.cause hv

theorem locates_of_read_graph (h : Shape.graph.read mode j = .error f) :
    Locates f.cause.IsMissing j (withoutNodeTag f.path) := by
  cases j with
  | object given =>
    cases RecordFault.of_read h with
    | absent hkey hmissing => exact .own_key hmissing hkey
    | present hkey hmissing => exact .value hmissing (.field hkey .here)
    | @value g key v f hg hspelled hkey hf =>
      obtain rfl | hg := List.mem_cons.mp hg
      · obtain rfl | ⟨⟨⟩⟩ := hspelled
        obtain hhere | ⟨js, i, k, f', rfl, hk, hf', rfl⟩ := read_list_eq_error hf
        · exact hhere.locates_node ["nodes"] (.field hkey .here) rfl
        obtain hhere | ⟨kind, f'', hf'', rfl⟩ := read_node_eq_error hf'
        · exact hhere.locates_node ["nodes", toString i] (.field hkey (.item hk .here)) rfl
        · have hnode := Shape.locates (untagged_nodeOfKind kind) hf''
          exact withoutNodeTag_nodes kind _ _ ▸ .field hkey (.item hk hnode)
      · obtain rfl := List.mem_singleton.mp hg
        obtain rfl | ⟨⟨⟩⟩ := hspelled
        exact withoutNodeTag_edges _ ▸ .field hkey (Shape.locates rfl hf)
  | _ =>
    simp only [Shape.graph, Shape.read] at h
    exact (Fault.isHere_of_fail h id).locates_node [] .here rfl

end Graph

section Whole

variable {mode : Mode} {j r v w : Json} {i : Nat} {key : String} {path : List String}

theorem exists_node_of_findDuplicate {seen : List String} {index : Nat} {nodes : List Node}
    {f : Graph.Fault}
    (h : Graph.findDuplicate seen index nodes = some f) :
    ∃ (i : Nat) (n : Node), nodes[i]? = some n ∧ f = .duplicateNode (index + i) n.id := by
  induction nodes generalizing seen index with
  | nil => cases h
  | cons n nodes ih =>
    rw [Graph.findDuplicate] at h
    split at h
    · cases h
      exact ⟨0, n, rfl, rfl⟩
    · obtain ⟨i, n', hn', rfl⟩ := ih h
      exact ⟨i + 1, n', hn', by rw [Nat.add_assoc, Nat.add_comm 1]⟩

theorem exists_edge_of_findUnknown {ids : List String} {index : Nat} {edges : List Edge}
    {f : Graph.Fault}
    (h : Graph.findUnknown ids index edges = some f) :
    ∃ (i : Nat) (e : Edge) (edgeEnd : EdgeEnd) (id : String), edges[i]? = some e ∧
      f = .unknownNode (index + i) edgeEnd id := by
  induction edges generalizing index with
  | nil => cases h
  | cons e edges ih =>
    rw [Graph.findUnknown] at h
    split at h
    · cases h
      exact ⟨0, e, _, _, rfl, rfl⟩
    · split at h
      · cases h
        exact ⟨0, e, _, _, rfl, rfl⟩
      · obtain ⟨i, e', edgeEnd, id, he', rfl⟩ := ih h
        exact ⟨i + 1, e', edgeEnd, id, he', by rw [Nat.add_assoc, Nat.add_comm 1]⟩

theorem exists_getElem?_of_forall₂ {α β : Type} {R : α → β → Prop} {as : List α} {bs : List β}
    (h : List.Forall₂ R as bs) {b : β} (hb : bs[i]? = some b) : ∃ a, as[i]? = some a ∧ R a b := by
  induction h generalizing i with
  | nil => cases hb
  | cons hab _ ih =>
    cases i with
    | zero =>
      cases hb
      exact ⟨_, rfl, hab⟩
    | succ i => exact ih hb

theorem Leads.of_itemsAt (hv : (j.itemsAt key)[i]? = some v) (h : Leads v path w) :
    Leads j (key :: toString i :: path) w := by
  unfold Json.itemsAt at hv
  cases hfield : j.field? key with
  | none =>
    rw [hfield] at hv
    cases hv
  | some k =>
    rw [hfield] at hv
    cases j with
    | object given =>
      cases k with
      | list items => exact .field hfield (.item hv h)
      | _ => cases hv
    | _ => cases hfield

theorem leads_of_read_record {info : RecordInfo} {fields : List (Field × Shape)} {ofText : Bool}
    (h : (Shape.record info fields).read ⟨ofText, true⟩ j = .ok r) (hkey : key ∈ info.required) :
    ∃ v, Leads j [key] v := by
  obtain ⟨given, found, rfl, -, hkeyed, -⟩ := read_record_eq_ok_iff.mp h
  obtain ⟨v, hv⟩ :=
    Option.isSome_iff_exists.mp (Table.lookup_isSome_iff.mpr (hkeyed.required key hkey))
  exact ⟨v, .field hv .here⟩

theorem leads_of_fault? {ofText : Bool} {f : Graph.Fault}
    (h : Shape.graph.read ⟨ofText, true⟩ j = .ok r)
    (hf : Graph.fault? (Graph.ofJson r).nodes (Graph.ofJson r).edges = some f) :
    ∃ v, Leads j (withoutNodeTag f.path) v := by
  rw [Graph.fault?] at hf
  cases hnode : Graph.findDuplicate [] 0 (Graph.ofJson r).nodes with
  | some f' =>
    rw [hnode] at hf
    cases hf
    obtain ⟨i, n, hn, rfl⟩ := exists_node_of_findDuplicate hnode
    obtain ⟨k, hk, rfl⟩ := Option.map_eq_some_iff.mp (List.getElem?_map ▸ hn)
    obtain ⟨v, hv, hread⟩ := exists_getElem?_of_forall₂
      (itemsAt_of_read_record h (by decide) (.head _) (by decide)) hk
    obtain ⟨kind, -, hread⟩ := read_node_eq_ok_iff.mp hread
    obtain ⟨w, hw⟩ : ∃ w, Leads v ["id"] w := by
      cases kind <;> exact leads_of_read_record hread (by decide)
    rw [Nat.zero_add]
    exact ⟨w, .of_itemsAt hv hw⟩
  | none =>
    rw [hnode] at hf
    obtain ⟨i, e, edgeEnd, id, he, rfl⟩ := exists_edge_of_findUnknown hf
    obtain ⟨k, hk, rfl⟩ := Option.map_eq_some_iff.mp (List.getElem?_map ▸ he)
    obtain ⟨v, hv, hread⟩ := exists_getElem?_of_forall₂
      (itemsAt_of_read_record h (by decide) (.tail _ (.head _)) (by decide)) hk
    obtain ⟨w, hw⟩ : ∃ w, Leads v [edgeEnd.label] w := by
      cases edgeEnd <;> exact leads_of_read_record hread (by decide)
    rw [Nat.zero_add, Graph.Fault.path, withoutNodeTag_edges]
    exact ⟨w, .of_itemsAt hv hw⟩

end Whole

namespace Rejection

/-- The components of the failing field. A key may have dots itself. -/
def path : Rejection → List String
  | notJson => []
  | fault _ f => f.path

theorem field?_getD (r : Rejection) : r.field?.getD "" = ".".intercalate r.path := by
  cases r with
  | notJson => rfl
  | fault ofText f =>
    dsimp only [field?, path]
    split
    · next hempty => exact (String.isEmpty_iff.mp hempty).symm
    · rfl

end Rejection

section Load

variable {d : Json} {r : Rejection}

theorem Locates.pointsInto_of_fault {f : Fault} {path : List String}
    (h : Locates f.cause.IsMissing d path)
    (ofText : Bool) : PointsInto d path (Rejection.fault ofText f).message :=
  h.pointsInto (f.cause.isMissing_iff ofText)

theorem pointsInto_of_loadModel (h : loadModel (.decoded d) = .error r) :
    PointsInto d r.path r.message := by
  rw [loadModel, readAs] at h
  cases hread : Shape.model.read ⟨false, true⟩ d with
  | ok j =>
    rw [hread] at h
    cases h
  | error f =>
    rw [hread] at h
    cases h
    exact (Shape.locates rfl hread).pointsInto_of_fault false

theorem not_isMissing_of_fault (f : Graph.Fault) : ¬ (Cause.other f.message).IsMissing := by
  have hnode : "Duplicate node id '".toList.head? = some 'D' := by decide +kernel
  have hedge : "Edge ".toList.head? = some 'E' := by decide +kernel
  cases f with
  | duplicateNode i id => exact not_required_of_head (head?_append (head?_append hnode)) (by decide)
  | unknownNode i e id =>
    exact not_required_of_head (head?_append (head?_append (head?_append (head?_append hedge))))
      (by decide)

theorem pointsInto_of_loadGraph (h : loadGraph (.decoded d) = .error r) :
    PointsInto d (withoutNodeTag r.path) r.message := by
  rw [loadGraph, readAs] at h
  cases hread : Shape.graph.read ⟨false, true⟩ d with
  | error f =>
    rw [hread] at h
    cases h
    exact (locates_of_read_graph hread).pointsInto_of_fault false
  | ok j =>
    rw [hread] at h
    dsimp only [bind, Except.bind, Except.mapError] at h
    split at h
    · cases h
    · next f hf =>
      cases h
      obtain ⟨v, hv⟩ := leads_of_fault? hread hf
      have hlocates : Locates (Cause.other f.message).IsMissing d (withoutNodeTag f.path) :=
        .value (not_isMissing_of_fault f) hv
      exact hlocates.pointsInto_of_fault (f := ⟨f.path, .other f.message⟩) false

end Load

/-- The failing field of a refused value names the way to it. -/
theorem failing_field_points_into_value {d : Json} (hd : ∀ t, d ≠ .text t) :
    (∀ r, loadModel (.ofJson d) = .error r →
      r.field?.getD "" = ".".intercalate r.path ∧ PointsInto d r.path r.message) ∧
    ∀ r, loadGraph (.ofJson d) = .error r →
      r.field?.getD "" = ".".intercalate r.path ∧
        PointsInto d (withoutNodeTag r.path) r.message := by
  rw [Source.ofJson_eq_decoded hd]
  exact ⟨fun r hr ↦ ⟨r.field?_getD, pointsInto_of_loadModel hr⟩,
    fun r hr ↦ ⟨r.field?_getD, pointsInto_of_loadGraph hr⟩⟩

/-- In a node without its parent the missing key is told behind the type, and a graph is no
model. -/
theorem failing_field_points_into_value_of_parentless :
    let d : Json := .object [("edges", .list []), ("nodes", .list [.object [("type", .text "dt"),
      ("id", .text "t"), ("label", .text "T")]])]
    (∀ t, d ≠ .text t) ∧
    (∃ r, loadModel (.ofJson d) = .error r ∧ r.field? = some "type" ∧
      PointsInto d ["type"] r.message) ∧
    ∃ r, loadGraph (.ofJson d) = .error r ∧ r.field? = some "nodes.0.dt.parentId" ∧
      PointsInto d ["nodes", "0", "parentId"] r.message := by
  intro d
  have hd : ∀ t, d ≠ .text t := nofun
  have hmodel : loadModel (.ofJson d) = .error (.fault false ⟨["type"], .missingKey "type"⟩) := rfl
  have hgraph : loadGraph (.ofJson d) =
      .error (.fault false ⟨["nodes", "0", "dt", "parentId"], .missingKey "parentId"⟩) := rfl
  obtain ⟨hinmodel, hingraph⟩ := failing_field_points_into_value hd
  exact ⟨hd, ⟨_, hmodel, by decide +kernel, (hinmodel _ hmodel).2⟩,
    ⟨_, hgraph, by decide +kernel, (hingraph _ hgraph).2⟩⟩

end TwinDiagram.Interchange
