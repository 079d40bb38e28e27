import TwinDiagram.Proofs.Grammar.Reading

namespace TwinDiagram

open Program TwinDiagram.Parser

namespace Grammar

variable {α β : Type} {handle : Handler α} {one : β → List Word → β → Prop} {g : β → α}
  {a c : β} {ws body : List Word} {k : TokenKind} {ahead : TokenKind → Prop}

def Follows (k : TokenKind) : Prop := k.startsStatement ∨ k = .closeBrace

theorem Follows.ne : Follows k → k ≠ .openBrace ∧ k ≠ .semicolon := by
  rintro (h | rfl)
  · constructor <;> rintro rfl <;> cases h
  · exact ⟨nofun, nofun⟩

def Handles (handle : Handler α) (found : α) (ws : List Word) (found' : α) : Prop :=
  ∃ k us read, ws = .fixed k :: us ∧ k.startsStatement ∧ handle k = some read ∧
    Reads (read found) ws found' Follows

theorem not_closesBlock : k.startsStatement → k.closesBlock = false := by
  cases k <;> decide

theorem follows_of_statements (h : Statements one a ws c)
    (hone : ∀ {a ws b}, one a ws b → Handles handle (g a) ws (g b)) {s : State}
    (hshow : Show ws s.rest) (hend : (s.forward ws.length).current.kind = .closeBrace) :
    Follows s.current.kind := by
  cases h with
  | done =>
    rw [List.length_nil, State.forward_zero] at hend
    exact .inr hend
  | next hstatement _ =>
    obtain ⟨k, vs, _, rfl, hstart, _⟩ := hone hstatement
    have hkind : s.current.kind = k := Show.current hshow
    exact .inl (hkind ▸ hstart)

theorem runStatements_eq (h : Statements one a ws c)
    (hone : ∀ {a ws b}, one a ws b → Handles handle (g a) ws (g b)) {s : State}
    (hshow : Show ws s.rest) (hcomments : s.comments = [])
    (hend : (s.forward ws.length).current.kind = .closeBrace) :
    runStatements handle (g a) s = (g c, s.forward ws.length) := by
  -- Along the statements: each is read up to the first word of the next, or to the brace.
  induction h generalizing s with
  | done a =>
    rw [List.length_nil, State.forward_zero] at hend ⊢
    rw [runStatements, if_pos (by rw [hend]; rfl)]
  | @next a b c ws us hstatement hrest ih =>
    obtain ⟨k, vs, read, rfl, hstart, hread, hreads⟩ := hone hstatement
    obtain ⟨hws, hus⟩ := (show_append _).mp hshow
    have hkind : s.current.kind = k := Show.current hws
    rw [List.length_append, State.forward_add] at hend ⊢
    have hnext := follows_of_statements hrest hone (s := s.forward (Word.fixed k :: vs).length)
      hus hend
    have hrun : statement handle (g a) s = (g b, s.forward (Word.fixed k :: vs).length) := by
      rw [statement, hkind, hread]
      simp only
      rw [hreads s hws hcomments hnext]
    have hlength : (s.forward (Word.fixed k :: vs).length).rest.length < s.rest.length := by
      have := length_le_of_show hws
      simp only [State.rest_forward, List.length_drop, List.length_cons] at this ⊢
      omega
    rw [runStatements, hkind, not_closesBlock hstart, if_neg Bool.false_ne_true, hrun,
      if_pos hlength]
    exact ih hus hcomments hend

theorem reads_block {owner : String} (h : Statements one a body c)
    (hone : ∀ {a ws b}, one a ws b → Handles handle (g a) ws (g b)) :
    Reads (block owner handle (g a)) (braced body) (g c) ahead := by
  intro s hshow hcomments _
  have hopen : s.current.kind = .openBrace := Show.current hshow
  obtain ⟨-, hrest⟩ := (show_append [.fixed .openBrace]).mp hshow
  obtain ⟨hbody, hclose⟩ := (show_append _).mp hrest
  have hend : ((s.forward 1).forward body.length).current.kind = .closeBrace :=
    Show.current (w := .fixed .closeBrace) hclose
  have hrun := runStatements_eq h hone (s := s.forward 1) hbody hcomments hend
  rw [run_block, if_pos hopen, State.advance_of_kind hopen (by decide), hrun]
  simp only [State.close, hend, if_true]
  rw [State.advance_of_kind hend (by decide), ← State.forward_add,
    ← State.forward_add, braced, List.length_cons, List.length_append, List.length_singleton,
    Nat.add_comm 1]

theorem statements_ports (qs ps : List String) :
    Statements (fun qs ws rs ↦ ∃ p, ws = port p ∧ rs = qs ++ [p]) qs (ps.flatMap port)
      (qs ++ ps) := by
  induction ps generalizing qs with
  | nil =>
    rw [List.append_nil]
    exact .done qs
  | cons p ps ih =>
    have hrest := ih (qs ++ [p])
    rw [List.append_assoc] at hrest
    exact .next ⟨p, rfl, rfl⟩ hrest

theorem reads_portBlock (owner : String) (ps : List String) :
    Reads (portBlock owner) (braced (ps.flatMap port)) ps ahead := by
  refine reads_block (g := id) (statements_ports [] ps) ?_
  rintro qs _ _ ⟨p, rfl, rfl⟩
  exact ⟨.port, _, _, rfl, rfl, rfl, (reads_port p).last rfl⟩

theorem reads_twin (hk : k ≠ .endOfInput) (t : Twin) :
    Reads (Parser.twin k) (twin k t) t ahead :=
  .expect hk fun _ ↦ .name ((reads_portBlock _ t.ports).last rfl)

theorem SystemStatement.handles {s t : System} (h : SystemStatement s ws t) :
    Handles systemHandler s ws t := by
  cases h with
  | twin u => exact ⟨.twin, _, _, rfl, rfl, rfl, (reads_twin (by decide) u).last rfl⟩
  | part u => exact ⟨.part, _, _, rfl, rfl, rfl, (reads_twin (by decide) u).last rfl⟩
  | connection c => exact ⟨.connect, _, _, rfl, rfl, rfl, (reads_connection c).last rfl⟩

theorem reads_system {s : System} (h : WritesSystem s ws) : Reads system ws s ahead := by
  obtain ⟨hbody⟩ := h
  exact .expect (by decide) fun _ ↦ .name (reads_block (g := id) hbody SystemStatement.handles)

theorem goalBody_of_doc {s : State} {x y z : Token} {ts : List Token}
    (h : s.rest = x :: y :: z :: ts) (hx : x.kind = .doc) (hy : y.kind = .blockComment)
    (hz : z.kind = .closeBrace) : goalBody none s = (normalizeDoc y.value, s.forward 2) := by
  obtain ⟨_, v, p⟩ := x
  obtain ⟨_, w, q⟩ := y
  cases hx
  cases hy
  have hcurrent := State.current_of_rest h
  have hstep : goalStep none s = (normalizeDoc w, s.forward 2) := by
    rw [goalStep, hcurrent, if_neg nofun]
    simp only [h]
    rfl
  have hclose : (s.forward 2).current.kind.closesBlock := by
    rw [State.current_of_rest (by rw [State.rest_forward, h]; rfl), hz]
    rfl
  rw [goalBody, hcurrent, if_neg nofun, hstep, goalBody, if_pos hclose]

theorem reads_goalBlock (n d : String) :
    Reads (goalBlock n) (braced [.fixed .doc, .comment d]) (some d) ahead := by
  intro s hshow _ _
  have hopen : s.current.kind = .openBrace := Show.current hshow
  match hrest : s.rest, hshow with
  | _ :: x :: y :: z :: ts, ⟨_, hx, ⟨hy, hdoc⟩, hz, _⟩ =>
    have hnext : (s.forward 1).rest = x :: y :: z :: ts := by rw [State.rest_forward, hrest]; rfl
    have hbody := goalBody_of_doc hnext hx hy hz
    have hclose : ((s.forward 1).forward 2).current.kind = .closeBrace := by
      rw [← State.forward_add, State.current_of_rest (by rw [State.rest_forward, hrest]; rfl)]
      exact hz
    rw [run_goalBlock, if_pos hopen, State.advance_of_kind hopen (by decide), hbody, hdoc]
    simp only [State.close, hclose, if_true]
    rw [State.advance_of_kind hclose (by decide), ← State.forward_add, ← State.forward_add]
    rfl

theorem reads_goalRest (n d : String) :
    Reads (goalRest n) (braced [.fixed .doc, .comment d]) ⟨n, some d⟩ ahead := by
  intro s hshow hcomments hahead
  have hopen : s.current.kind = .openBrace := Show.current hshow
  rw [run_goalRest, if_pos hopen, run_map, reads_goalBlock n d s hshow hcomments hahead]

theorem reads_goalRest_bare (n : String) : Reads (goalRest n) [] ⟨n, none⟩ Follows := by
  intro s _ _ hfollows
  rw [List.length_nil, State.forward_zero] at hfollows ⊢
  obtain ⟨hopen, hsemicolon⟩ := hfollows.ne
  rw [run_goalRest, if_neg hopen, if_neg hsemicolon]

theorem reads_goalRest_closed (n : String) :
    Reads (goalRest n) [.fixed .semicolon] ⟨n, none⟩ ahead := by
  intro s hshow _ _
  have hkind : s.current.kind = .semicolon := Show.current hshow
  rw [run_goalRest, if_neg (by rw [hkind]; exact nofun), if_pos hkind,
    State.advance_of_kind hkind (by decide)]
  rfl

theorem reads_goal {g : Goal} (h : WritesGoal g ws) : Reads goal ws g Follows := by
  cases h with
  | doc n d => exact .expect (by decide) fun _ ↦ .name (reads_goalRest n d)
  | bare n => exact .expect (by decide) fun _ ↦ .name (reads_goalRest_bare n)
  | closed n => exact .expect (by decide) fun _ ↦ .name (reads_goalRest_closed n)

theorem Declaration.handles {d e : Declarations} (h : Declaration d ws e) :
    Handles declarationHandler d ws e := by
  cases h with
  | system hs =>
    obtain ⟨hbody⟩ := hs
    exact ⟨.system, _, _, rfl, rfl, rfl, (reads_system ⟨hbody⟩).last rfl⟩
  | goal hg =>
    have hread := reads_goal hg
    cases hg <;> exact ⟨.goal, _, _, rfl, rfl, rfl, hread.last rfl⟩
  | allocation a => exact ⟨.allocate, _, _, rfl, rfl, rfl, (reads_allocation a).last rfl⟩

theorem present_getD {xs : Option (List α)} (h : xs ≠ some []) :
    (if (xs.getD []).isEmpty then none else some (xs.getD [])) = xs := by
  match xs, h with
  | none, _ => rfl
  | some (_ :: _), _ => rfl

theorem toSlice_declarations {s : Slice} (h : s.Writable) : s.declarations.toSlice = s := by
  have hsystems := present_getD h.systems
  have hgoals := present_getD h.goals
  have hallocations := present_getD h.allocations
  rw [Declarations.toSlice]
  exact congr (congr (congrArg Slice.mk hsystems) hgoals) hallocations

theorem reads_slice {s : Slice} (hk : k ≠ .endOfInput) (h : WritesSlice k s ws) (hs : s.Writable) :
    Reads (slice k none) ws (some s) ahead := by
  obtain ⟨hbody⟩ := h
  exact .expect hk fun _ ↦ (reads_block (g := id) hbody Declaration.handles).last
    (congrArg (fun s ↦ Pure.pure (some s)) (toSlice_declarations hs))

theorem handles_section {t : Transform} {s : Slice} {x : Option Slice × (Slice → Transform)}
    {set : Slice → Transform} (hempty : section? .empty k = some x)
    (hsection : section? t k = some (none, set)) (hk : k ≠ .endOfInput) (hstart : k.startsStatement)
    (h : WritesSlice k s ws) (hs : s.Writable) : Handles transformHandler t ws (set s) := by
  have hread : Reads (slice k none) ws (some s) Follows := reads_slice hk h hs
  obtain ⟨hbody⟩ := h
  refine ⟨k, _, _, rfl, hstart, by rw [transformHandler, hempty]; rfl, ?_⟩
  simp only [hsection]
  exact hread.last rfl

theorem Section.handles {t u : Transform} (h : Section t ws u) (hu : u.SlicesWritable) :
    Handles transformHandler t ws u := by
  cases h with
  | before hnone hs =>
    exact handles_section rfl (by rw [section?, hnone]) (by decide) rfl hs (hu.before _ rfl)
  | core hnone hs =>
    exact handles_section rfl (by rw [section?, hnone]) (by decide) rfl hs (hu.core _ rfl)
  | after hnone hs =>
    exact handles_section rfl (by rw [section?, hnone]) (by decide) rfl hs (hu.after _ rfl)

theorem isEmpty_slices {t : Transform} (h : t ≠ .empty) : t.slices.isEmpty = false := by
  match t, h with
  | ⟨some _, _, _⟩, _ => rfl
  | ⟨none, some _, _⟩, _ => rfl
  | ⟨none, none, some _⟩, _ => rfl
  | ⟨none, none, none⟩, h => exact absurd rfl h

theorem reads_transform {t : Transform} (h : Statements Section .empty body t) (ht : t.Writable) :
    Reads transform (.fixed .transform :: braced body) (some t) ahead := by
  obtain ⟨-, hbody⟩ := h.with_property ht.toSlicesWritable Section.writable
  refine .expect (by decide) fun _ ↦ (reads_block (g := id) hbody fun h ↦ h.1.handles h.2).last ?_
  simp only [id, isEmpty_slices ht.present]
  rfl

/-- What the parser has found of a model. -/
def found (m : Model) : Outline := ⟨m.declarations, m.transform.map some⟩

theorem model_found (m : Model) : (found m).model m.name = m := by
  obtain ⟨n, ss, gs, as, t⟩ := m
  cases t <;> rfl

theorem rootHandler_of_declaration {read : Declarations → Parse Declarations}
    (h : declarationHandler k = some read) : rootHandler k = some fun o ↦ do
      return { o with declarations := ← read o.declarations } := by
  unfold rootHandler
  split
  · cases h
  · rw [h]
    rfl

theorem RootStatement.handles {m n : Model} (h : RootStatement m ws n) (hn : n.Writable) :
    Handles rootHandler (found m) ws (found n) := by
  cases h with
  | declaration h =>
    obtain ⟨k, us, read, rfl, hstart, hhandle, hread⟩ := h.handles
    exact ⟨k, us, _, rfl, hstart, rootHandler_of_declaration hhandle, hread.last rfl⟩
  | @transform t body hnone hbody =>
    have hread : Reads Parser.transform (.fixed .transform :: braced body) (some t) Follows :=
      reads_transform hbody (hn.transform t rfl)
    refine ⟨.transform, _, _, rfl, rfl, rfl, .current fun _ ↦ hread.last ?_⟩
    simp only [found, hnone]
    rfl

theorem isHeader_of_show {n : String} {ts : List Token}
    (h : Show (.fixed .root :: .name n :: .fixed .openBrace :: ws) ts) : IsHeader ts := by
  match ts, h with
  | _ :: _ :: _ :: _, ⟨hroot, ⟨hname, _⟩, hopen, _⟩ => exact ⟨hroot, hname, hopen⟩

theorem document_of_show {m : Model}
    (h : Statements (fun m ws n ↦ RootStatement m ws n ∧ n.Writable)
      { Model.empty with name := m.name } body m)
    {s : State} (hshow : Show (.fixed .root :: .name m.name :: braced body) s.rest)
    (hcomments : s.comments = []) (hpassed : s.passed = []) (hevents : s.events = []) :
    ∃ t, document.run.run s = (.ok m, t) ∧ t.diagnostics = [] := by
  have hheader : s.rewind.header? = some s := by
    rw [State.rewind_of_passed hpassed]
    exact header?_eq_some_iff.mpr ⟨0, s.forward_zero.symm, isHeader_of_show hshow,
      fun j hj ↦ absurd hj (Nat.not_lt_zero j)⟩
  obtain ⟨-, hname⟩ := (show_append [.fixed .root]).mp hshow
  obtain ⟨-, hrest⟩ := (show_append [.fixed .root, .name m.name, .fixed .openBrace]).mp hshow
  obtain ⟨hbody, hclose⟩ := (show_append _).mp hrest
  have hvalue : (s.forward 1).current.value = m.name := (Show.current (s := s.forward 1) hname).2
  have hend : ((s.forward 3).forward body.length).current.kind = .closeBrace :=
    Show.current (w := .fixed .closeBrace) hclose
  have hrun : outline s = (found m, (s.forward 3).forward body.length) :=
    runStatements_eq (g := found) h (fun h ↦ h.1.handles h.2) hbody hcomments hend
  rw [run_document, hheader]
  simp only [hrun, hvalue, model_found]
  refine ⟨_, rfl, ?_⟩
  simp only [State.close, hend, if_true]
  rw [State.advance_of_kind hend (by decide)]
  show (((Event.parsed _ _ _ _ _ :: s.events).reverse.filterMap Event.finding?).map _) = []
  rw [hevents]
  rfl

/-- Every text that writes a model in the grammar is read as that model, without a complaint. -/
theorem readText_of_writes {m : Model} {text : String} (hm : m.Writable) (h : Writes m text) :
    ∃ s, readText text = (.ok m, s) ∧ s.diagnostics = [] := by
  obtain ⟨_, ⟨hbody⟩, hwritten⟩ := h
  obtain ⟨hshow, hcomments⟩ := State.ofTokens_written hwritten (legible_model ⟨hbody⟩ hm)
  obtain ⟨-, hbody⟩ := hbody.with_property hm RootStatement.writable
  have hpassed := State.passed_ofTokens (tokenize text)
  have hevents := State.events_ofTokens (tokenize text)
  rw [readText]
  generalize State.ofTokens (tokenize text) = s at *
  exact document_of_show hbody hshow hcomments hpassed hevents

theorem writes_of_spaced {m : Model} {text : String} (hm : m.Writable) (h : WritesModel m ws)
    (htext : text.toList = spaced ws) : Writes m text := by
  refine ⟨ws, h, ?_⟩
  rw [htext]
  exact written_spaced (legible_model h hm).proper

def sample : Model where
  name := "to"
  systems := [⟨"doc", [⟨"port", ["name"]⟩], [], [⟨"doc.port.name", "to", some "name"⟩]⟩]
  goals := [⟨"connect", none⟩, ⟨"part", some "Keep it short."⟩]
  allocations := [⟨"part", "doc.port"⟩]
  transform := some ⟨none, some ⟨none, some [⟨"name", none⟩], none⟩, none⟩

theorem sample_writable : sample.Writable := by decide +kernel

def sampleText : String :=
  " #dartwin to \x7b #goal connect #twinsystem doc \x7b" ++
  " connect doc . port . name to to name name ; #digitaltwin port \x7b port name ; \x7d \x7d" ++
  " #dartrans \x7b #core \x7b #goal name ; \x7d \x7d" ++
  " allocate part to doc . port ; #goal part \x7b doc /* Keep it short. */ \x7d \x7d"

theorem sample_writes : Writes sample sampleText := by
  have hsystem : WritesSystem
      ⟨"doc", [⟨"port", ["name"]⟩], [], [⟨"doc.port.name", "to", some "name"⟩]⟩ _ :=
    .intro (.next (.connection _) (.next (.twin ⟨"port", ["name"]⟩) (.done _)))
  have hslice : WritesSlice .core ⟨none, some [⟨"name", none⟩], none⟩ _ :=
    .intro (.next (.goal (.closed "name")) (.done _))
  have hmodel : WritesModel sample _ := .intro (
    .next (.declaration (.goal (.bare "connect"))) <|
    .next (.declaration (.system hsystem)) <|
    .next (.transform rfl (.next (.core rfl hslice) (.done _))) <|
    .next (.declaration (.allocation ⟨"part", "doc.port"⟩)) <|
    .next (.declaration (.goal (.doc "part" "Keep it short."))) (.done _))
  exact writes_of_spaced sample_writable hmodel (by decide +kernel)

theorem readText_sample : sample.Writable ∧ Writes sample sampleText ∧
    ∃ s, readText sampleText = (.ok sample, s) ∧ s.diagnostics = [] :=
  ⟨sample_writable, sample_writes, readText_of_writes sample_writable sample_writes⟩

end Grammar

end TwinDiagram
