import TwinDiagram.Proofs.Graph.Entry
import TwinDiagram.Proofs.Text.Join

namespace TwinDiagram.Graph

/-- No name holds a dot. -/
def Dotless (names : List String) : Prop := ∀ name ∈ names, '.' ∉ name.toList

def Entry.Dotless : Entry → Prop
  | port system owner name _ => Graph.Dotless [system, owner, name]
  | twin system name _ => Graph.Dotless [system, name]
  | goal _ _ => True

def within (ds : List Declared) (system : String) (names : List String) : Option String :=
  (ds.find? fun d ↦ d.system = system ∧ d.names = names).map Declared.id

def alone (ds : List Declared) (names : List String) : Option String :=
  (ds.find? (·.names = names)).bind fun d ↦
    if ∀ e ∈ ds, e.names = names → e.system = d.system then some d.id else none

/-- What a reference to a port means inside a system, by its names between dots. -/
def portMeaning (es : List Entry) (current : String) (names : List String) : Option String :=
  let ports := es.filterMap Entry.port?
  match names with
  | [port] => alone ports [current, port]
  | [owner, port] => (alone ports [owner, port]).or (within ports current [owner, port])
  | [system, owner, port] =>
    (within ports system [owner, port]).or
      (if system = current then alone ports [owner, port] else none)
  | [first, system, owner, port] =>
    if first = current then within ports system [owner, port] else none
  | _ => none

/-- What a reference to a twin means. -/
def twinMeaning (es : List Entry) (names : List String) : Option String :=
  let twins := es.filterMap Entry.twin?
  match names with
  | [twin] => alone twins [twin]
  | [system, twin] => (within twins system [twin]).or (alone twins [twin])
  | [_, system, twin] => within twins system [twin]
  | _ => none

/-- The names between the dots of a reference; blanks around it do not count. -/
def parts (reference : String) : List String :=
  ((Symbols.trim reference).toList.splitOn '.').map String.ofList

def dotted (names : List String) : String := ".".intercalate names

variable {names names' : List String} {system : String}

theorem dotted_inj (h : Dotless names) (h' : Dotless names') (hne : names ≠ [])
    (hne' : names' ≠ []) :
    dotted names = dotted names' ↔ names = names' :=
  ⟨Text.string_intercalate_inj (c := '.') rfl h h' hne hne', congrArg dotted⟩

theorem dotless_cons : Dotless (system :: names) ↔ '.' ∉ system.toList ∧ Dotless names :=
  List.forall_mem_cons

theorem toList_dotted_cons (hne : names ≠ []) :
    (dotted (system :: names)).toList = system.toList ++ '.' :: (dotted names).toList := by
  obtain ⟨name, names, rfl⟩ := List.exists_cons_of_ne_nil hne
  simp [dotted, String.toList_intercalate]

theorem dotted_cons (hne : names ≠ []) :
    dotted (system :: names) = system ++ "." ++ dotted names := by
  apply String.toList_injective
  simp [toList_dotted_cons hne]

theorem dotted_singleton (name : String) : dotted [name] = name := rfl

theorem dotted_pair (owner name : String) : dotted [owner, name] = s!"{owner}.{name}" := by
  simp [dotted_cons, dotted_singleton, toString]

theorem dotted_triple (system owner name : String) :
    dotted [system, owner, name] = s!"{system}.{owner}.{name}" := by
  simp [dotted_cons, dotted_singleton, toString, String.append_assoc]

theorem dotted_ne_dotted_cons (hne : names ≠ []) : dotted names ≠ dotted (system :: names) := by
  intro h
  have hlength := congrArg (fun s ↦ s.toList.length) h
  rw [toList_dotted_cons hne, List.length_append, List.length_cons] at hlength
  omega

theorem dotted_parts (reference : String) : dotted (parts reference) = Symbols.trim reference := by
  apply String.toList_injective
  have hmap : (parts reference).map String.toList =
      (Symbols.trim reference).toList.splitOn '.' := by
    simp [parts, Function.comp_def]
  rw [dotted, String.toList_intercalate, hmap]
  exact List.intercalate_splitOn '.'

theorem dotless_parts (reference : String) : Dotless (parts reference) := by
  intro name hname
  obtain ⟨w, hw, rfl⟩ := List.mem_map.mp hname
  rw [String.toList_ofList]
  exact Text.not_mem_of_mem_splitOn w hw

theorem parts_ne_nil (reference : String) : parts reference ≠ [] := by
  simp [parts]

namespace Symbols

/-- Only the first name, with others behind it, can be taken for that of a system. -/
theorem withoutSystem?_dotted (h : Dotless (system :: names)) (hne : names ≠ []) {first : String}
    (hfirst : '.' ∉ first.toList) :
    withoutSystem? first (dotted (system :: names)) =
      if system = first then some (dotted names) else none := by
  rw [withoutSystem?, toList_dotted_cons hne]
  split
  · next heq =>
    have hstart : (first.toList ++ ['.']).isPrefixOf?
        (system.toList ++ '.' :: (dotted names).toList) = some (dotted names).toList := by
      rw [List.isPrefixOf?_eq_some_iff_append_eq, heq]
      simp
    rw [hstart, Option.map_some, String.ofList_toList]
  · next hne' =>
    rw [Option.map_eq_none_iff, Option.eq_none_iff_forall_ne_some]
    intro rest hrest
    rw [List.isPrefixOf?_eq_some_iff_append_eq, List.append_assoc, List.singleton_append] at hrest
    have hsame := (Text.append_cons_inj hfirst (dotless_cons.mp h).1 hrest).1
    exact hne' (String.toList_injective hsame).symm

theorem bind_withoutSystem? {β : Type} (f : String → Option β) (h : Dotless (system :: names))
    (hne : names ≠ []) {first : String} (hfirst : '.' ∉ first.toList) :
    (withoutSystem? first (dotted (system :: names))).bind f =
      if system = first then f (dotted names) else none := by
  rw [withoutSystem?_dotted h hne hfirst]
  split <;> rfl

theorem withoutSystem?_single {name : String} (h : '.' ∉ name.toList) (first : String) :
    withoutSystem? first name = none := by
  rw [withoutSystem?, Option.map_eq_none_iff, Option.eq_none_iff_forall_ne_some]
  intro rest hrest
  rw [List.isPrefixOf?_eq_some_iff_append_eq] at hrest
  exact h (by simp [← hrest])

end Symbols

section Declared

variable {ds : List Declared} {d : Declared}

def Shared (ds : List Declared) (names : List String) : Prop :=
  ∃ d ∈ ds, ∃ e ∈ ds, d.names = names ∧ e.names = names ∧ d.system ≠ e.system

theorem alone_eq_none_of_shared (h : Shared ds names) : alone ds names = none := by
  obtain ⟨d, hd, e, he, hdn, hen, hne⟩ := h
  rw [alone, Option.bind_eq_none_iff]
  intro x _
  rw [if_neg]
  intro hall
  exact hne ((hall d hd hdn).trans (hall e he hen).symm)

/-- Where no two systems declare the names, the first that declares them counts. -/
theorem alone_of_not_shared (h : ¬ Shared ds names) :
    alone ds names = (ds.find? (·.names = names)).map Declared.id := by
  rw [alone]
  cases hfind : ds.find? (·.names = names) with
  | none => rfl
  | some d =>
    have hmem := List.mem_of_find?_eq_some hfind
    have hname : d.names = names := by simpa using List.find?_some hfind
    have hall : ∀ e ∈ ds, e.names = names → e.system = d.system := by
      intro e he hen
      by_contra hne
      exact h ⟨e, he, d, hmem, hen, hname, hne⟩
    rw [Option.bind_some, if_pos hall, Option.map_some]

theorem shared_concat : Shared (ds ++ [d]) names ↔
    Shared ds names ∨ d.names = names ∧ ∃ e ∈ ds, e.names = names ∧ e.system ≠ d.system := by
  constructor
  · rintro ⟨x, hx, y, hy, hxn, hyn, hne⟩
    rcases List.mem_append.mp hx with hx' | hx' <;> rcases List.mem_append.mp hy with hy' | hy'
    · exact .inl ⟨x, hx', y, hy', hxn, hyn, hne⟩
    · obtain rfl := List.mem_singleton.mp hy'
      exact .inr ⟨hyn, x, hx', hxn, hne⟩
    · obtain rfl := List.mem_singleton.mp hx'
      exact .inr ⟨hxn, y, hy', hyn, hne.symm⟩
    · obtain rfl := List.mem_singleton.mp hx'
      obtain rfl := List.mem_singleton.mp hy'
      exact absurd rfl hne
  · rintro (⟨x, hx, y, hy, h⟩ | ⟨hdn, e, he, hen, hne⟩)
    · exact ⟨x, List.mem_append_left _ hx, y, List.mem_append_left _ hy, h⟩
    · exact ⟨e, List.mem_append_left _ he, d, by simp, hen, hdn, hne⟩

theorem not_shared_concat (hs : ¬ Shared ds d.names)
    (hsame : ∀ e ∈ ds, e.names = d.names → e.system = d.system) : ¬ Shared (ds ++ [d]) d.names := by
  rw [shared_concat]
  rintro (hold | ⟨-, e, he, hen, hne⟩)
  · exact hs hold
  · exact hne (hsame e he hen)

end Declared

namespace Aliases

structure Recorded (n : Nat) (ds : List Declared) (a : Aliases) : Prop where
  length : ∀ d ∈ ds, d.names.length = n
  unqualified : ∀ {names}, Dotless names → names ≠ [] → names.length = n →
    a.ids.get? (dotted names) = alone ds names
  qualified : ∀ {names}, Dotless names → names ≠ [] → names.length ≠ n →
    a.ids.get? (dotted names) = (ds.find? fun d ↦ d.system :: d.names = names).map Declared.id
  systems : ∀ {names}, Dotless names → names ≠ [] → names.length = n → ¬ Shared ds names →
    a.systems.get? (dotted names) = (ds.find? (·.names = names)).map Declared.system
  ambiguous : ∀ {names}, Dotless names → names ≠ [] → names.length = n →
    (dotted names ∈ a.ambiguous ↔ Shared ds names)

theorem recorded_empty (n : Nat) : Recorded n [] empty where
  length := List.forall_mem_nil _
  unqualified _ _ _ := rfl
  qualified _ _ _ := rfl
  systems _ _ _ _ := rfl
  ambiguous _ _ _ := by simp [Shared, empty]

variable {n : Nat} {ds : List Declared} {d : Declared} {a b : Aliases}

theorem Recorded.get?_qualified (h : a.Recorded n ds) (hdot : Dotless (system :: names))
    (hlength : names.length = n) :
    a.ids.get? (dotted (system :: names)) = within ds system names := by
  rw [h.qualified hdot (List.cons_ne_nil _ _) (by simp [hlength]), within]
  simp only [List.cons.injEq]

theorem Recorded.get?_other (h : a.Recorded n ds) (hdot : Dotless names) (hne : names ≠ [])
    (hlength : names.length ≠ n) (hlength' : names.length ≠ n + 1) :
    a.ids.get? (dotted names) = none := by
  rw [h.qualified hdot hne hlength, Option.map_eq_none_iff, List.find?_eq_none]
  intro d hd heq
  have hcount := congrArg List.length (of_decide_eq_true heq)
  rw [List.length_cons, h.length d hd] at hcount
  exact hlength' hcount.symm

/-- A further declaration changes what its own names stand for, and nothing else. -/
theorem Recorded.concat (h : a.Recorded n ds) (hlength : d.names.length = n)
    (hdot : Dotless (d.system :: d.names)) (hne : d.names ≠ [])
    (hids : ∀ k, b.ids.get? k = if k = dotted d.names then alone (ds ++ [d]) d.names
      else (a.ids.get? k).or (if k = dotted (d.system :: d.names) then some d.id else none))
    (hsystems : ∀ k, k ≠ dotted d.names → b.systems.get? k = a.systems.get? k)
    (hsystem : ¬ Shared (ds ++ [d]) d.names → b.systems.get? (dotted d.names) =
      ((ds ++ [d]).find? (·.names = d.names)).map Declared.system)
    (hambiguous : ∀ k, k ≠ dotted d.names → (k ∈ b.ambiguous ↔ k ∈ a.ambiguous))
    (hshared : dotted d.names ∈ b.ambiguous ↔ Shared (ds ++ [d]) d.names) :
    b.Recorded n (ds ++ [d]) := by
  obtain ⟨-, hdnames⟩ := dotless_cons.mp hdot
  have hkey {names} (hn : Dotless names) (hnn : names ≠ []) :
      dotted names = dotted d.names ↔ names = d.names := dotted_inj hn hdnames hnn hne
  have hlong {names} (hn : Dotless names) (hnn : names ≠ []) :
      dotted names = dotted (d.system :: d.names) ↔ names = d.system :: d.names :=
    dotted_inj hn hdot hnn (List.cons_ne_nil _ _)
  have hold {names} (hx : names ≠ d.names) : Shared (ds ++ [d]) names ↔ Shared ds names := by
    rw [shared_concat, or_iff_left fun ⟨he, _⟩ ↦ hx he.symm]
  have hfind {names} (hx : names ≠ d.names) :
      (ds ++ [d]).find? (·.names = names) = ds.find? (·.names = names) := by
    rw [List.find?_append, List.find?_singleton, if_neg (by simpa using hx.symm), Option.or_none]
  refine ⟨?_, fun {names} hn hnn hl ↦ ?_, fun {names} hn hnn hl ↦ ?_, fun {names} hn hnn hl hs ↦ ?_,
    fun {names} hn hnn hl ↦ ?_⟩
  · intro e he
    rcases List.mem_append.mp he with he | he
    · exact h.length e he
    · exact List.mem_singleton.mp he ▸ hlength
  · by_cases hx : names = d.names
    · rw [hids, if_pos ((hkey hn hnn).mpr hx), hx]
    · have hshort : names ≠ d.system :: d.names := by
        rintro rfl
        simp [hlength] at hl
      rw [hids, if_neg (mt (hkey hn hnn).mp hx), if_neg (mt (hlong hn hnn).mp hshort),
        Option.or_none, h.unqualified hn hnn hl]
      by_cases hs : Shared ds names
      · rw [alone_eq_none_of_shared hs, alone_eq_none_of_shared ((hold hx).mpr hs)]
      · rw [alone_of_not_shared hs, alone_of_not_shared (mt (hold hx).mp hs), hfind hx]
  · have hx : names ≠ d.names := fun he ↦ hl (he ▸ hlength)
    rw [hids, if_neg (mt (hkey hn hnn).mp hx), h.qualified hn hnn hl, List.find?_append,
      List.find?_singleton]
    simp only [hlong hn hnn, decide_eq_true_eq, eq_comm (a := names)]
    cases ds.find? fun e ↦ e.system :: e.names = names with
    | some e => rfl
    | none =>
      by_cases he : d.system :: d.names = names <;> simp [he]
  · by_cases hx : names = d.names
    · subst hx
      exact hsystem hs
    · rw [hsystems _ (mt (hkey hn hnn).mp hx), h.systems hn hnn hl (mt (hold hx).mpr hs), hfind hx]
  · by_cases hx : names = d.names
    · subst hx
      exact hshared
    · rw [hambiguous _ (mt (hkey hn hnn).mp hx), h.ambiguous hn hnn hl, hold hx]

theorem get?_addQualified_dotted (a : Aliases) (hne : d.names ≠ []) :
    (a.addQualified (dotted (d.system :: d.names)) d.id).ids.get? (dotted d.names) =
      a.ids.get? (dotted d.names) := by
  rw [get?_addQualified, if_neg (dotted_ne_dotted_cons hne), Option.or_none]

section Add

variable (h : a.Recorded n ds) (hlength : d.names.length = n) (hdot : Dotless (d.system :: d.names))
  (hne : d.names ≠ [])
include h hlength hdot hne

theorem Recorded.add_shared (hs : Shared ds d.names) :
    (a.addQualified (dotted (d.system :: d.names)) d.id).Recorded n (ds ++ [d]) := by
  obtain ⟨-, hdnames⟩ := dotless_cons.mp hdot
  have hs' : Shared (ds ++ [d]) d.names := shared_concat.mpr (.inl hs)
  refine h.concat hlength hdot hne (fun k ↦ ?_) (fun _ _ ↦ rfl) (fun hn ↦ absurd hs' hn)
    (fun _ _ ↦ Iff.rfl) (iff_of_true ((h.ambiguous hdnames hne hlength).mpr hs) hs')
  split
  · next hk =>
    rw [hk, get?_addQualified_dotted a hne, h.unqualified hdnames hne hlength,
      alone_eq_none_of_shared hs, alone_eq_none_of_shared hs']
  · exact get?_addQualified _ _ _ k

theorem Recorded.add_new (hs : ¬ Shared ds d.names)
    (hfind : ds.find? (·.names = d.names) = none) :
    Recorded n (ds ++ [d]) { a.addQualified (dotted (d.system :: d.names)) d.id with
      ids := (a.addQualified (dotted (d.system :: d.names)) d.id).ids.insert (dotted d.names) d.id
      systems := a.systems.insert (dotted d.names) d.system } := by
  have hnew : (ds ++ [d]).find? (·.names = d.names) = some d := by
    rw [List.find?_append, hfind]
    simp
  have hs' : ¬ Shared (ds ++ [d]) d.names := not_shared_concat hs fun e he hen ↦
    absurd hen (by simpa using List.find?_eq_none.mp hfind e he)
  refine h.concat hlength hdot hne (fun k ↦ ?_) (fun k hk ↦ ?_) (fun _ ↦ ?_) (fun _ _ ↦ Iff.rfl)
    (iff_of_false (mt (h.ambiguous (dotless_cons.mp hdot).2 hne hlength).mp hs) hs')
  · rw [Table.get?_insert, alone_of_not_shared hs', hnew]
    split
    · rfl
    · exact get?_addQualified _ _ _ k
  · rw [Table.get?_insert, if_neg hk]
  · rw [Table.get?_insert, if_pos rfl, hnew, Option.map_some]

variable {e : Declared} (hfind : ds.find? (·.names = d.names) = some e)
include hfind

/-- The system that declared the names declares them again. -/
theorem Recorded.add_again (hs : ¬ Shared ds d.names) (hsame : e.system = d.system) :
    (a.addQualified (dotted (d.system :: d.names)) d.id).Recorded n (ds ++ [d]) := by
  obtain ⟨-, hdnames⟩ := dotless_cons.mp hdot
  have hfirst : (ds ++ [d]).find? (·.names = d.names) = some e := by
    rw [List.find?_append, hfind, Option.some_or]
  have hs' : ¬ Shared (ds ++ [d]) d.names := by
    refine not_shared_concat hs fun x hx hxn ↦ ?_
    by_contra hxs
    refine hs ⟨x, hx, e, List.mem_of_find?_eq_some hfind, hxn, ?_, hsame ▸ hxs⟩
    simpa using List.find?_some hfind
  refine h.concat hlength hdot hne (fun k ↦ ?_) (fun _ _ ↦ rfl) (fun _ ↦ ?_) (fun _ _ ↦ Iff.rfl)
    (iff_of_false (mt (h.ambiguous hdnames hne hlength).mp hs) hs')
  · split
    · next hk =>
      rw [hk, get?_addQualified_dotted a hne, h.unqualified hdnames hne hlength,
        alone_of_not_shared hs, alone_of_not_shared hs', hfind, hfirst]
    · exact get?_addQualified _ _ _ k
  · rw [hfirst, ← hfind]
    exact h.systems hdnames hne hlength hs

theorem Recorded.add_second (hsecond : e.system ≠ d.system) :
    Recorded n (ds ++ [d]) { a.addQualified (dotted (d.system :: d.names)) d.id with
      ids := (a.addQualified (dotted (d.system :: d.names)) d.id).ids.erase (dotted d.names)
      ambiguous := dotted d.names :: a.ambiguous } := by
  have hs' : Shared (ds ++ [d]) d.names := by
    refine shared_concat.mpr (.inr ⟨rfl, e, List.mem_of_find?_eq_some hfind, ?_, hsecond⟩)
    simpa using List.find?_some hfind
  refine h.concat hlength hdot hne (fun k ↦ ?_) (fun _ _ ↦ rfl) (fun hn ↦ absurd hs' hn)
    (fun k hk ↦ ?_) (iff_of_true (.head _) hs')
  · rw [Table.get?_erase, alone_eq_none_of_shared hs']
    split
    · rfl
    · exact get?_addQualified _ _ _ k
  · rw [List.mem_cons, or_iff_right hk]

end Add

/-- Adding a declaration succeeds, and the table tells of it from then on. -/
theorem Recorded.add (h : a.Recorded n ds) (hlength : d.names.length = n)
    (hdot : Dotless (d.system :: d.names)) (hne : d.names ≠ []) :
    ∃ b, (a.addQualified (dotted (d.system :: d.names)) d.id).addUnqualified (dotted d.names)
      d.system d.id = .ok b ∧ b.Recorded n (ds ++ [d]) := by
  obtain ⟨-, hdnames⟩ := dotless_cons.mp hdot
  have hshared : dotted d.names ∈ a.ambiguous ↔ Shared ds d.names :=
    h.ambiguous hdnames hne hlength
  have hids (hs : dotted d.names ∉ a.ambiguous) :
      (a.addQualified (dotted (d.system :: d.names)) d.id).ids.get? (dotted d.names) =
        (ds.find? (·.names = d.names)).map Declared.id := by
    rw [get?_addQualified_dotted a hne, h.unqualified hdnames hne hlength,
      alone_of_not_shared (mt hshared.mpr hs)]
  have hsystems (hs : dotted d.names ∉ a.ambiguous) : a.systems.get? (dotted d.names) =
      (ds.find? (·.names = d.names)).map Declared.system :=
    h.systems hdnames hne hlength (mt hshared.mpr hs)
  have hadd := addition_addUnqualified (a.addQualified (dotted (d.system :: d.names)) d.id)
    (dotted d.names) d.system d.id
  generalize addUnqualified _ _ _ _ = r at hadd
  cases hadd with
  | shared hs => exact ⟨_, rfl, h.add_shared hlength hdot hne (hshared.mp hs)⟩
  | new hs hid =>
    rw [hids hs, Option.map_eq_none_iff] at hid
    exact ⟨_, rfl, h.add_new hlength hdot hne (mt hshared.mpr hs) hid⟩
  | clash hs hid hsystem =>
    -- Names that stand for something were declared by a system.
    have hnone := (hsystems hs).symm.trans hsystem
    rw [Option.map_eq_none_iff] at hnone
    rw [hids hs, hnone] at hid
    cases hid
  | again hs _ hsystem =>
    obtain ⟨e, hfind, he⟩ := Option.map_eq_some_iff.mp ((hsystems hs).symm.trans hsystem)
    exact ⟨_, rfl, h.add_again hlength hdot hne hfind (mt hshared.mpr hs) he⟩
  | second hs _ hsystem hsecond =>
    obtain ⟨e, hfind, rfl⟩ := Option.map_eq_some_iff.mp ((hsystems hs).symm.trans hsystem)
    exact ⟨_, rfl, h.add_second hlength hdot hne hfind hsecond⟩

end Aliases

theorem filterMap_concat {α β : Type} (f : α → Option β) (xs : List α) (x : α) :
    (xs ++ [x]).filterMap f = xs.filterMap f ++ (f x).toList := by
  rw [List.filterMap_append]
  cases hx : f x <;> simp [hx]

theorem filterMap_concat_none {α β : Type} {f : α → Option β} {x : α} (h : f x = none)
    (xs : List α) : (xs ++ [x]).filterMap f = xs.filterMap f := by
  rw [filterMap_concat, h, Option.toList_none, List.append_nil]

namespace Symbols

open Program

structure Recorded (es : List Entry) (s : Symbols) : Prop where
  ports : s.ports.Recorded 2 (es.filterMap Entry.port?)
  twins : s.twins.Recorded 1 (es.filterMap Entry.twin?)

variable {es : List Entry} {s : Symbols}

theorem Recorded.add (h : s.Recorded es) {e : Entry} (he : e.Dotless) :
    ∃ t, e.add.run.run s = (.ok (), t) ∧ t.Recorded (es ++ [e]) := by
  cases e with
  | port system owner name id =>
    obtain ⟨b, hb, hrecorded⟩ :=
      h.ports.add (d := ⟨system, [owner, name], id⟩) rfl he (List.cons_ne_nil _ _)
    simp only [dotted_triple, dotted_pair] at hb
    refine ⟨_, by rw [Entry.add, run_addPort, hb], ?_, ?_⟩
    · rwa [filterMap_concat]
    · rw [filterMap_concat_none rfl]
      exact h.twins
  | twin system name id =>
    obtain ⟨b, hb, hrecorded⟩ :=
      h.twins.add (d := ⟨system, [name], id⟩) rfl he (List.cons_ne_nil _ _)
    simp only [dotted_pair, dotted_singleton] at hb
    refine ⟨_, by rw [Entry.add, run_addTwin, hb], ?_, ?_⟩
    · rw [filterMap_concat_none rfl]
      exact h.ports
    · rwa [filterMap_concat]
  | goal name id =>
    refine ⟨_, rfl, ?_, ?_⟩
    · rw [filterMap_concat_none rfl]
      exact h.ports
    · rw [filterMap_concat_none rfl]
      exact h.twins

/-- Entries without dots never clash. -/
theorem ofEntries_ok (hes : ∀ e ∈ es, e.Dotless) :
    ∃ s, ofEntries es = (.ok (), s) ∧ s.Recorded es := by
  have hrun (before : List Entry) (s : Symbols) (h : s.Recorded before) :
      ∃ t, (es.forM Entry.add).run.run s = (.ok (), t) ∧ t.Recorded (before ++ es) := by
    induction es generalizing before s with
    | nil => exact ⟨s, rfl, by rwa [List.append_nil]⟩
    | cons e es ih =>
      obtain ⟨he, hes⟩ := List.forall_mem_cons.mp hes
      obtain ⟨t, ht, hrecorded⟩ := h.add he
      obtain ⟨u, hu, hall⟩ := ih hes _ t hrecorded
      refine ⟨u, ?_, by rwa [List.append_assoc] at hall⟩
      show (e.add >>= fun _ ↦ es.forM Entry.add).run.run s = _
      rw [run_bind, ht]
      exact hu
  have hempty : Recorded [] empty := ⟨Aliases.recorded_empty 2, Aliases.recorded_empty 1⟩
  exact hrun [] empty hempty

theorem Recorded.port?_eq (h : s.Recorded es) {current : String} (hcurrent : '.' ∉ current.toList)
    (reference : String) :
    s.port? current reference = portMeaning es current (parts reference) := by
  have hkey := dotted_parts reference
  have hdot := dotless_parts reference
  have hne := parts_ne_nil reference
  have hcons {names : List String} (hn : Dotless names) : Dotless (current :: names) :=
    dotless_cons.mpr ⟨hcurrent, hn⟩
  have hqualified : s!"{current}.{dotted (parts reference)}" =
      dotted (current :: parts reference) := by
    simp [dotted_cons hne, toString]
  rw [port?]
  simp only [← hkey, hqualified]
  generalize parts reference = names at hdot hne
  match names, hdot, hne with
  | [port], hdot, _ =>
    rw [h.ports.get?_other hdot (by simp) (by simp) (by simp),
      h.ports.unqualified (hcons hdot) (by simp) rfl, dotted_singleton,
      withoutSystem?_single (hdot port (.head _))]
    simp only [portMeaning, Option.bind_none]
    cases alone (es.filterMap Entry.port?) [current, port] <;> rfl
  | [owner, port], hdot, _ =>
    rw [h.ports.unqualified hdot (by simp) rfl, h.ports.get?_qualified (hcons hdot) rfl,
      bind_withoutSystem? _ hdot (by simp) hcurrent,
      h.ports.get?_other (dotless_cons.mp hdot).2 (by simp) (by simp) (by simp), ite_self,
      portMeaning]
    cases alone (es.filterMap Entry.port?) [owner, port] <;>
      cases within (es.filterMap Entry.port?) current [owner, port] <;> rfl
  | [system, owner, port], hdot, _ =>
    rw [h.ports.get?_qualified hdot rfl,
      h.ports.get?_other (hcons hdot) (by simp) (by simp) (by simp),
      bind_withoutSystem? _ hdot (by simp) hcurrent,
      h.ports.unqualified (dotless_cons.mp hdot).2 (by simp) rfl, portMeaning]
    cases within (es.filterMap Entry.port?) system [owner, port] <;> rfl
  | [first, system, owner, port], hdot, _ =>
    rw [h.ports.get?_other hdot (by simp) (by simp) (by simp),
      h.ports.get?_other (hcons hdot) (by simp) (by simp) (by simp),
      bind_withoutSystem? _ hdot (by simp) hcurrent,
      h.ports.get?_qualified (dotless_cons.mp hdot).2 rfl, portMeaning]
  | a :: b :: c :: d :: e :: rest, hdot, _ =>
    have hnone : portMeaning es current (a :: b :: c :: d :: e :: rest) = none := rfl
    rw [h.ports.get?_other hdot (by simp) (by simp) (by simp),
      h.ports.get?_other (hcons hdot) (by simp) (by simp) (by simp),
      bind_withoutSystem? _ hdot (by simp) hcurrent,
      h.ports.get?_other (dotless_cons.mp hdot).2 (by simp) (by simp) (by simp), ite_self, hnone]

theorem takeWhile_dotted (hdot : Dotless (system :: names)) (hne : names ≠ []) :
    String.ofList ((dotted (system :: names)).toList.takeWhile (· != '.')) = system := by
  have hfirst : ∀ c ∈ system.toList, c != '.' := by
    intro c hc
    simp only [bne_iff_ne, ne_eq]
    rintro rfl
    exact (dotless_cons.mp hdot).1 hc
  rw [toList_dotted_cons hne, List.takeWhile_append_of_pos hfirst]
  simp

theorem Recorded.twin?_eq (h : s.Recorded es) (reference : String) :
    s.twin? reference = twinMeaning es (parts reference) := by
  have hkey := dotted_parts reference
  have hdot := dotless_parts reference
  have hne := parts_ne_nil reference
  rw [twin?]
  simp only [← hkey]
  generalize parts reference = names at hdot hne
  match names, hdot, hne with
  | [twin], hdot, _ =>
    rw [h.twins.unqualified hdot (by simp) rfl, dotted_singleton,
      withoutSystem?_single (hdot twin (.head _)), twinMeaning]
    cases alone (es.filterMap Entry.twin?) [twin] <;> rfl
  | [system, twin], hdot, _ =>
    rw [h.twins.get?_qualified hdot rfl, takeWhile_dotted hdot (by simp),
      bind_withoutSystem? _ hdot (by simp) (dotless_cons.mp hdot).1, if_pos rfl,
      h.twins.unqualified (dotless_cons.mp hdot).2 (by simp) rfl, twinMeaning]
    cases within (es.filterMap Entry.twin?) system [twin] <;> rfl
  | [first, system, twin], hdot, _ =>
    rw [h.twins.get?_other hdot (by simp) (by simp) (by simp), takeWhile_dotted hdot (by simp),
      bind_withoutSystem? _ hdot (by simp) (dotless_cons.mp hdot).1, if_pos rfl,
      h.twins.get?_qualified (dotless_cons.mp hdot).2 rfl, twinMeaning]
  | a :: b :: c :: d :: rest, hdot, _ =>
    have hnone : twinMeaning es (a :: b :: c :: d :: rest) = none := rfl
    rw [h.twins.get?_other hdot (by simp) (by simp) (by simp), takeWhile_dotted hdot (by simp),
      bind_withoutSystem? _ hdot (by simp) (dotless_cons.mp hdot).1, if_pos rfl,
      h.twins.get?_other (dotless_cons.mp hdot).2 (by simp) (by simp) (by simp), hnone]

end Symbols

/-- Whatever was added in whatever order, references mean what they are declared to mean. -/
theorem reference_eq_meaning {es : List Entry} (hes : ∀ e ∈ es, e.Dotless) :
    ∃ s, Symbols.ofEntries es = (.ok (), s) ∧
      (∀ current reference, '.' ∉ current.toList →
        s.port? current reference = portMeaning es current (parts reference)) ∧
      ∀ reference, s.twin? reference = twinMeaning es (parts reference) := by
  obtain ⟨s, hs, hrecorded⟩ := Symbols.ofEntries_ok hes
  exact ⟨s, hs, fun _ reference hcurrent ↦ hrecorded.port?_eq hcurrent reference,
    hrecorded.twin?_eq⟩

/-- The port `t.p` is found in a system of its own and by its full name; three systems have it. The
twin `a` of the system `b` is named like a system. -/
theorem reference_eq_meaning_of_shared_port :
    let es : List Entry := [.port "a" "t" "p" "1", .port "b" "t" "p" "2", .port "c" "t" "p" "3",
      .port "b" "a" "q" "4", .twin "a" "t" "5", .twin "b" "a" "6"]
    (∀ e ∈ es, e.Dotless) ∧ ∃ s, Symbols.ofEntries es = (.ok (), s) ∧
      s.port? "b" "t.p" = some "2" ∧ s.port? "d" "t.p" = none ∧ s.port? "d" " c.t.p" = some "3" ∧
      s.port? "a" "a.b.t.p" = some "2" ∧ s.port? "a" "q" = some "4" ∧
        s.port? "a" "a.a.q" = some "4" ∧
      s.twin? "b.t" = some "5" ∧ s.twin? "x.b.a" = some "6" ∧ s.twin? "b" = none := by
  intro es
  have hes : ∀ e ∈ es, e.Dotless := by
    simp [es, Entry.Dotless, Dotless]
  obtain ⟨s, hs, hport, htwin⟩ := reference_eq_meaning hes
  refine ⟨hes, s, hs, ?_⟩
  simp only [htwin]
  refine ⟨?_, ?_, ?_, ?_, ?_, ?_, by decide +kernel, by decide +kernel, by decide +kernel⟩
  all_goals
    rw [hport _ _ (by decide)]
    decide +kernel

end TwinDiagram.Graph
