import TwinDiagram.Proofs.Grammar.Reading
import TwinDiagram.Proofs.Token.Ending

namespace TwinDiagram

open Grammar

/-- What a connection may be called: a run of letters, numerals, underscores and hyphens. A name
that is written in the statement is an identifier, but a note may give another one. -/
def IsNote (name : String) : Prop :=
  name ≠ "" ∧ ∀ c ∈ name.toList, Text.isWordChar c ∨ c = '-'

structure Connection.WellFormed (c : Connection) : Prop where
  source : IsReference c.source
  target : IsReference c.target
  name : ∀ n ∈ c.name, IsNote n

structure System.WellFormed (s : System) : Prop where
  name : IsIdentifier s.name
  digitalTwins : ∀ t ∈ s.digitalTwins, t.Writable
  parts : ∀ t ∈ s.parts, t.Writable
  connections : ∀ c ∈ s.connections, c.WellFormed

structure Parser.Declarations.WellFormed (d : Declarations) : Prop where
  systems : ∀ s ∈ d.systems, s.WellFormed
  goals : ∀ g ∈ d.goals, g.Writable
  allocations : ∀ a ∈ d.allocations, a.Writable

structure Slice.WellFormed (s : Slice) : Prop where
  systems : s.systems ≠ some []
  goals : s.goals ≠ some []
  allocations : s.allocations ≠ some []
  declarations : s.declarations.WellFormed

structure Transform.Forming (t : Transform) : Prop where
  before : ∀ s ∈ t.before, s.WellFormed
  core : ∀ s ∈ t.core, s.WellFormed
  after : ∀ s ∈ t.after, s.WellFormed

structure Transform.WellFormed (t : Transform) : Prop extends t.Forming where
  present : t.slices ≠ []

/-- All but the name of a model, which is missing where there is no root. -/
structure Model.WellFormed (m : Model) : Prop where
  declarations : m.declarations.WellFormed
  transform : ∀ t ∈ m.transform, t.WellFormed

theorem IsIdentifier.isNote {name : String} (h : IsIdentifier name) : IsNote name := by
  obtain ⟨c, cs, hname, -, hall⟩ := h
  refine ⟨fun hempty ↦ ?_, fun x hx ↦ ?_⟩
  · rw [hempty] at hname
    cases hname
  · have hchar := hall x (hname ▸ hx)
    simpa [isIdentifierChar, isIdentifierStart, Text.isWordChar] using hchar

theorem Grammar.isReference_intercalate {ns : List String} (hns : ns ≠ [])
    (h : ∀ n ∈ ns, IsIdentifier n) : IsReference (".".intercalate ns) := by
  have hsplit : (".".intercalate ns).toList.splitOn '.' = ns.map String.toList := by
    rw [String.toList_intercalate]
    refine List.splitOn_intercalate '.' (fun cs hcs hdot ↦ ?_) (by simpa using hns)
    obtain ⟨n, hn, rfl⟩ := List.mem_map.mp hcs
    exact (h n hn).not_mem (by decide) hdot
  unfold IsReference names
  rw [hsplit, List.map_map]
  simpa [Function.comp_def] using h

/-- What a token promises: a name is an identifier, and the text of a block comment does not hold
the mark that ends it. -/
structure Token.Sound (t : Token) : Prop where
  name : t.kind.isName → IsIdentifier t.value
  comment : t.kind = .blockComment → ¬ ['*', '/'] <:+: t.value.toList

theorem sound_of_mem_tokenize {text : String} {t : Token} (h : t ∈ tokenize text) : t.Sound where
  name := isIdentifier_of_mem_tokenize h
  comment hkind := by
    obtain ⟨ts, p, hts, hlexeme⟩ := Cursor.tokens_eq (.ofText text)
    rw [tokenize, hts] at h
    rcases List.mem_append.mp h with ht | hend
    · obtain ⟨x, rest, hkind', hvalue⟩ := hlexeme t ht
      rw [hkind] at hkind'
      obtain ⟨ds, rfl, rfl, hfirst⟩ | ⟨ds, rfl, rfl, hfirst⟩ | ⟨-, -, -, hblock⟩ :=
        Lexeme.first_cases x rest
      · rw [hfirst] at hkind'
        cases hkind'
      · rw [hvalue, hfirst, String.toList_ofList]
        exact (commentBody_cases ds).1
      · exact absurd hkind'.symm hblock
    · rw [List.mem_singleton.mp hend] at hkind
      cases hkind

namespace Parser

open Program State

variable {α : Type} {P : α → Prop}

theorem isDoc_of_normalizeDoc {v d : String} (hv : ¬ ['*', '/'] <:+: v.toList)
    (h : normalizeDoc v = some d) : IsDoc d := by
  unfold normalizeDoc at h
  split at h
  · cases h
  · next hne =>
    cases h
    have hwords {w : List Char} (hw : w ∈ Text.words v.toList) := Text.mem_words hw
    rw [Text.joinWith_eq_intercalate]
    constructor
    · have hspace : ∀ w ∈ Text.words v.toList, ' ' ∉ w := fun w hw hmem ↦ by
        cases (hwords hw).2 ' ' hmem
      rw [String.toList_ofList, List.splitOn_intercalate ' ' hspace hne]
      exact fun w ↦ hwords
    · rw [String.toList_ofList]
      intro hmark
      obtain ⟨w, hw, hmark⟩ := Text.exists_mem_of_pair_infix (by decide) (by decide) hmark
      exact hv (hmark.trans (Text.isInfix_of_mem_words hw))

def SoundAhead (s : State) : Prop := ∀ x ∈ s.rest, x.Sound

theorem soundAhead_ofTokens (text : String) : SoundAhead (.ofTokens (tokenize text)) := fun _ hx ↦
  sound_of_mem_tokenize ((Token.dropComments_sublist _ _).subset (State.rest_ofTokens_subset _ hx))

theorem State.Onward.soundAhead {s t : State} (h : Onward s t) (hs : SoundAhead s) : SoundAhead t :=
  fun x hx ↦ hs x (h.rest_suffix.subset hx)

abbrev Makes (p : Parse α) (P : α → Prop) : Prop := Ensures SoundAhead p P

theorem makes_of_keeps {p : Parse α} (hp : Keeps Onward p) : Makes p fun _ ↦ True :=
  hp.ensures State.Onward.soundAhead

theorem makes_expect {k : TokenKind} (hk : k.isPlain) : Makes (expect k) fun _ ↦ True :=
  makes_of_keeps (onward_motion.expect hk)

theorem makes_expectName : Makes expectName IsIdentifier := by
  intro s hs
  refine ⟨(onward_motion.expectName s).soundAhead hs, fun name hname ↦ ?_⟩
  rw [run_expectName] at hname
  split at hname
  · next h =>
    cases hname
    obtain ⟨xs, hxs⟩ := rest_eq_cons
      (TokenKind.ne_endOfInput_of_isPlain (TokenKind.isPlain_of_isName h))
    exact (hs s.current (hxs ▸ List.mem_cons_self)).name h
  · cases hname

structure Handler.Makes (handle : Handler α) (P : α → Prop) : Prop where
  regular : handle.Regular
  reads : ∀ {k read}, handle k = some read → ∀ {found}, P found → Parser.Makes (read found) P

section Loop

variable {handle : Handler α} {found : α} {s : State}

/-- A statement that fails adds nothing, so what the statements of a block make is good. -/
theorem Handler.Makes.runStatements (hh : handle.Makes P) (hfound : P found) (hs : SoundAhead s) :
    P (runStatements handle found s).1 := by
  refine (runStatements_invariant (I := fun a t ↦ P a ∧ SoundAhead t) ?_ ⟨hfound, hs⟩).1
  intro found t ⟨hP, ht⟩ hclose
  refine ⟨?_, (statement_keeps onward_motion hh.regular hclose).soundAhead ht⟩
  unfold statement
  split
  · exact hP
  · next read hk =>
    have h := hh.reads hk hP t ht
    split
    · next a u hrun => exact h.2 a (by rw [hrun])
    · exact hP

theorem Handler.Makes.block (hh : handle.Makes P) (owner : String) (hfound : P found) :
    Parser.Makes (block owner handle found) P := by
  intro s hs
  refine ⟨(onward_motion.block hh.regular owner found s).soundAhead hs, fun a ha ↦ ?_⟩
  rw [run_block] at ha
  split at ha
  · cases ha
    exact hh.runStatements hfound ((Onward.advance s).soundAhead hs)
  · cases ha

end Loop

theorem forall_mem_concat {Q : α → Prop} {xs : List α} {x : α} (hxs : ∀ a ∈ xs, Q a) (hx : Q x) :
    ∀ a ∈ xs ++ [x], Q a := List.forall_mem_append.mpr ⟨hxs, List.forall_mem_singleton.mpr hx⟩

theorem makes_port : Makes port IsIdentifier :=
  .bind (makes_expect rfl) fun _ _ ↦ .bind makes_expectName fun _ hname ↦
    .bind (makes_expect rfl) fun _ _ ↦ .pure hname

theorem portHandler_makes : portHandler.Makes fun ports ↦ ∀ p ∈ ports, IsIdentifier p where
  regular := portHandler_regular
  reads {k read} hread ports hports := by
    unfold portHandler at hread
    split at hread <;> cases hread
    exact .bind makes_port fun p hp ↦ .pure (forall_mem_concat hports hp)

theorem makes_twin {k : TokenKind} (hk : k.isPlain) : Makes (twin k) Twin.Writable :=
  .bind (makes_expect hk) fun _ _ ↦ .bind makes_expectName fun _ hname ↦
    .bind (portHandler_makes.block _ (List.forall_mem_nil _)) fun _ hports ↦ .pure ⟨hname, hports⟩

theorem makes_referenceTail (n : Nat) :
    Makes (referenceTail n) fun ns ↦ ∀ n ∈ ns, IsIdentifier n := by
  induction n with
  | zero => exact .pure (List.forall_mem_nil _)
  | succ n ih =>
    refine .bind (makes_of_keeps (onward_motion.accept rfl)) fun dot _ ↦ ?_
    split
    · exact .pure (List.forall_mem_nil _)
    · exact .bind makes_expectName fun name hname ↦ .bind ih fun ns hns ↦
        .pure (List.forall_mem_cons.mpr ⟨hname, hns⟩)

theorem makes_reference : Makes reference IsReference :=
  .bind makes_expectName fun _ hfirst ↦ .bind (makes_of_keeps onward_motion.refl) fun _ _ ↦
    .bind (makes_referenceTail _) fun _ hrest ↦
      .pure (isReference_intercalate (List.cons_ne_nil _ _)
        (List.forall_mem_cons.mpr ⟨hfirst, hrest⟩))

theorem makes_inlineName : Makes inlineName fun name ↦ ∀ n ∈ name, IsNote n := by
  refine .bind (makes_of_keeps (onward_motion.accept rfl)) fun keyword _ ↦ ?_
  split
  · exact .bind makes_expectName fun name hname ↦ .pure fun n hn ↦ Option.some.inj hn ▸ hname.isNote
  · exact .pure nofun

theorem isNote_of_nameNote {cs name : List Char} (h : nameNote cs = some name) :
    IsNote (.ofList name) := by
  simp only [nameNote, bind, Option.bind_eq_some_iff] at h
  obtain ⟨cs₁, -, cs₂, -, cs₃, -, hname⟩ := h
  split at hname
  · cases hname
  · next hne =>
    cases hname
    refine ⟨fun hempty ↦ hne (String.ofList_inj.mp hempty), fun c hc ↦ ?_⟩
    rw [String.toList_ofList] at hc
    simpa using List.all_eq_true.mp List.all_takeWhile c hc

theorem isNote_of_nameInComment {cs name : List Char} (h : nameInComment cs = some name) :
    IsNote (.ofList name) := by
  induction cs with
  | nil => cases h
  | cons c cs ih =>
    rw [nameInComment] at h
    cases hnote : nameNote (c :: cs) with
    | none =>
      rw [hnote] at h
      exact ih h
    | some name' =>
      rw [hnote] at h
      exact Option.some.inj h ▸ isNote_of_nameNote hnote

theorem isNote_of_trailingName {comments : List Token} {semicolon following : Token} {name : String}
    (h : trailingName comments semicolon following = some name) : IsNote name := by
  unfold trailingName at h
  obtain ⟨comment, -, h⟩ := Option.bind_eq_some_iff.mp h
  split at h
  · cases h
  · obtain ⟨note, hnote, h⟩ := Option.bind_eq_some_iff.mp h
    exact Option.some.inj h ▸ isNote_of_nameInComment hnote

theorem makes_connectionEnd {source target : String} {name : Option String}
    (hsource : IsReference source) (htarget : IsReference target) (hname : ∀ n ∈ name, IsNote n) :
    Makes (connectionEnd source target name) Connection.WellFormed := by
  refine .bind (makes_expect rfl) fun semicolon _ ↦
      .bind (makes_of_keeps onward_motion.refl) fun s _ ↦
    .bind (makes_of_keeps onward_motion.current) fun following _ ↦
      .pure ⟨hsource, htarget, fun n hn ↦ ?_⟩
  cases name with
  | none => exact isNote_of_trailingName hn
  | some name => exact hname n hn

theorem makes_connection : Makes connection Connection.WellFormed :=
  .bind (makes_expect rfl) fun _ _ ↦ .bind makes_reference fun _ hsource ↦
    .bind (makes_expect rfl) fun _ _ ↦ .bind makes_reference fun _ htarget ↦
      .bind makes_inlineName fun _ hname ↦ makes_connectionEnd hsource htarget hname

theorem systemHandler_makes : systemHandler.Makes System.WellFormed where
  regular := systemHandler_regular
  reads {k read} hread s hs := by
    unfold systemHandler at hread
    split at hread <;> cases hread
    · exact .bind (makes_twin rfl) fun t ht ↦
        .pure ⟨hs.name, forall_mem_concat hs.digitalTwins ht, hs.parts, hs.connections⟩
    · exact .bind (makes_twin rfl) fun t ht ↦
        .pure ⟨hs.name, hs.digitalTwins, forall_mem_concat hs.parts ht, hs.connections⟩
    · exact .bind makes_connection fun c hc ↦
        .pure ⟨hs.name, hs.digitalTwins, hs.parts, forall_mem_concat hs.connections hc⟩

theorem makes_system : Makes system System.WellFormed :=
  .bind (makes_expect rfl) fun _ _ ↦ .bind makes_expectName fun _ hname ↦
    systemHandler_makes.block _
      ⟨hname, List.forall_mem_nil _, List.forall_mem_nil _, List.forall_mem_nil _⟩

theorem comment_of_docAhead {s : State} (hs : SoundAhead s) {value : String}
    (h : docAhead s.rest = some value) : ¬ ['*', '/'] <:+: value.toList := by
  unfold docAhead at h
  split at h
  · next hrest =>
    cases h
    rw [SoundAhead, hrest] at hs
    exact (hs _ (.tail _ (.head _))).comment rfl
  · cases h

/-- The first comment that says something is the documentation, and says it on one line. -/
theorem goalBody_isDoc {s : State} (hs : SoundAhead s) : ∀ d ∈ (goalBody none s).1, IsDoc d := by
  refine (goalBody_invariant (I := fun doc t ↦ (∀ d ∈ doc, IsDoc d) ∧
    SoundAhead t) ?_ ⟨by simp, hs⟩).1
  intro doc t ⟨hdoc, ht⟩ hclose
  refine ⟨fun d hd ↦ ?_, (onward_motion.goalStep doc hclose).soundAhead ht⟩
  rw [goalStep_eq] at hd
  split at hd
  · exact hdoc d hd
  · split at hd
    · next value hahead =>
      cases doc with
      | some => exact hdoc d hd
      | none => exact isDoc_of_normalizeDoc (comment_of_docAhead ht hahead) hd
    · exact hdoc d hd

theorem makes_goalBlock (name : String) : Makes (goalBlock name) fun doc ↦ ∀ d ∈ doc, IsDoc d := by
  intro s hs
  refine ⟨(onward_motion.goalBlock name s).soundAhead hs, fun doc hdoc ↦ ?_⟩
  rw [run_goalBlock] at hdoc
  split at hdoc
  · cases hdoc
    exact goalBody_isDoc ((Onward.advance s).soundAhead hs)
  · cases hdoc

theorem makes_goalRest {name : String} (hname : IsIdentifier name) :
    Makes (goalRest name) Goal.Writable := by
  refine .bind (makes_of_keeps (p := isAt .openBrace) onward_motion.refl) fun braced _ ↦ ?_
  split
  · exact .bind (makes_goalBlock name) fun doc hdoc ↦ .pure ⟨hname, hdoc⟩
  · exact .bind (makes_of_keeps (onward_motion.accept rfl)) fun _ _ ↦ .pure ⟨hname, nofun⟩

theorem makes_goal : Makes goal Goal.Writable :=
  .bind (makes_expect rfl) fun _ _ ↦ .bind makes_expectName fun _ hname ↦ makes_goalRest hname

theorem makes_allocation : Makes allocation Allocation.Writable :=
  .bind (makes_expect rfl) fun _ _ ↦ .bind makes_expectName fun _ hgoal ↦
    .bind (makes_expect rfl) fun _ _ ↦ .bind makes_reference fun _ htarget ↦
      .bind (makes_expect rfl) fun _ _ ↦ .pure ⟨hgoal, htarget⟩

theorem declarationHandler_makes : declarationHandler.Makes Declarations.WellFormed where
  regular := declarationHandler_regular
  reads {k read} hread d hd := by
    unfold declarationHandler at hread
    split at hread <;> cases hread
    · exact .bind makes_system fun s hs ↦
        .pure ⟨forall_mem_concat hd.systems hs, hd.goals, hd.allocations⟩
    · exact .bind makes_goal fun g hg ↦
        .pure ⟨hd.systems, forall_mem_concat hd.goals hg, hd.allocations⟩
    · exact .bind makes_allocation fun a ha ↦
        .pure ⟨hd.systems, hd.goals, forall_mem_concat hd.allocations ha⟩

theorem empty_wellFormed : Declarations.empty.WellFormed :=
  ⟨List.forall_mem_nil _, List.forall_mem_nil _, List.forall_mem_nil _⟩

theorem toSlice_wellFormed {d : Declarations} (hd : d.WellFormed) : d.toSlice.WellFormed := by
  have hpresent {β : Type} (xs : List β) :
      (if xs.isEmpty then none else some xs) ≠ some [] ∧
        (if xs.isEmpty then none else some xs).getD [] = xs := by
    cases xs <;> simp
  refine ⟨(hpresent d.systems).1, (hpresent d.goals).1, (hpresent d.allocations).1, ?_⟩
  have hsame : d.toSlice.declarations = d := by
    simp only [Declarations.toSlice, Slice.declarations, hpresent]
  rwa [hsame]

theorem makes_slice {k : TokenKind} (hk : k.isPlain) (earlier : Option Slice) :
    Makes (slice k earlier) fun s ↦ ∀ s' ∈ s, s'.WellFormed := by
  refine .bind (makes_expect hk) fun keyword _ ↦
    .bind (declarationHandler_makes.block _ empty_wellFormed) fun d hd ↦ ?_
  split
  · exact .bind (makes_of_keeps (onward_motion.report rfl)) fun _ _ ↦ .pure nofun
  · exact .pure fun s hs ↦ Option.some.inj hs ▸ toSlice_wellFormed hd

theorem transformHandler_makes : transformHandler.Makes Transform.Forming where
  regular := transformHandler_regular
  reads {k read} hread t ht := by
    rcases kind_of_transformHandler hread with rfl | rfl | rfl
    all_goals
      cases hread
      refine .bind (makes_slice rfl _) fun s hs ↦ ?_
      cases s with
      | none => exact .pure ht
      | some s => _
    · exact .pure ⟨fun s' hs' ↦ Option.some.inj hs' ▸ hs s rfl, ht.core, ht.after⟩
    · exact .pure ⟨ht.before, fun s' hs' ↦ Option.some.inj hs' ▸ hs s rfl, ht.after⟩
    · exact .pure ⟨ht.before, ht.core, fun s' hs' ↦ Option.some.inj hs' ▸ hs s rfl⟩

theorem makes_transform : Makes transform fun t ↦ ∀ t' ∈ t, t'.WellFormed := by
  refine .bind (makes_expect rfl) fun _ _ ↦
    .bind (transformHandler_makes.block _ ⟨nofun, nofun, nofun⟩) fun t ht ↦ .pure fun t' ht' ↦ ?_
  split at ht'
  · cases ht'
  · next hslices =>
    cases ht'
    exact ⟨ht, by simpa using hslices⟩

structure Outline.WellFormed (o : Outline) : Prop where
  declarations : o.declarations.WellFormed
  transform : ∀ t ∈ o.transform.join, t.WellFormed

theorem rootHandler_makes : rootHandler.Makes Outline.WellFormed where
  regular := rootHandler_regular
  reads {k read} hread o ho := by
    by_cases hk : k = .transform
    · subst hk
      cases hread
      refine .bind (makes_of_keeps onward_motion.current) fun _ _ ↦ .bind makes_transform
        fun t ht ↦ ?_
      split
      · exact .bind (makes_of_keeps (onward_motion.report rfl)) fun _ _ ↦ .pure ho
      · exact .pure ⟨ho.declarations, ht⟩
    · rw [rootHandler_of_ne hk, Option.map_eq_some_iff] at hread
      obtain ⟨_, hread, rfl⟩ := hread
      exact .bind (declarationHandler_makes.reads hread ho.declarations) fun d hd ↦
        .pure ⟨hd, ho.transform⟩

/-- Only a text without a root has a model without a name, the empty one. -/
theorem wellFormed_of_readText {text : String} {m : Model} {s : State}
    (h : readText text = (.ok m, s)) :
    m.WellFormed ∧ (IsIdentifier m.name ∨ m = .empty ∧ s.findings = [.missingRoot]) := by
  have hs := soundAhead_ofTokens text
  unfold readText at h
  rw [run_document, State.rewind_of_passed (State.passed_ofTokens _)] at h
  cases hheader : (State.ofTokens (tokenize text)).header? with
  | none =>
    rw [hheader] at h
    cases h
    refine ⟨⟨empty_wellFormed, fun t ht ↦ absurd ht (Option.not_mem_none t)⟩, .inr ⟨rfl, ?_⟩⟩
    simp only [State.findings, State.report, State.log, State.events_ofTokens]
    rfl
  | some t =>
    rw [hheader] at h
    cases h
    obtain ⟨i, ht, hhead, -⟩ := header?_eq_some_iff.mp hheader
    have hbefore : SoundAhead t := (ht ▸ Onward.forward _ i).soundAhead hs
    have hempty : (⟨.empty, none⟩ : Outline).WellFormed :=
      ⟨empty_wellFormed, fun t ht ↦ absurd ht (Option.not_mem_none t)⟩
    have hfound : (outline t).1.WellFormed :=
      rootHandler_makes.runStatements hempty ((Onward.forward t 3).soundAhead hbefore)
    have hname : IsIdentifier (t.forward 1).current.value := by
      rw [← rest_forward, ← ht] at hhead
      obtain ⟨-, hy, -⟩ := hhead.kinds
      exact (makes_expectName _ ((Onward.forward t 1).soundAhead hbefore)).2 _
        (congrArg Prod.fst (run_expectName_ok hy))
    exact ⟨⟨hfound.declarations, hfound.transform⟩, .inl hname⟩

/-- Every text is read as a well-formed model. It has an identifier for a name, or it is empty and
the only finding is that there is no root. -/
theorem readText_wellFormed (text : String) : ∃ m s, readText text = (.ok m, s) ∧ m.WellFormed ∧
    (IsIdentifier m.name ∨ m = .empty ∧ s.findings = [.missingRoot]) := by
  obtain ⟨m, s, hread⟩ := document_ok (.ofTokens (tokenize text))
  exact ⟨m, s, hread, wellFormed_of_readText hread⟩

end Parser

end TwinDiagram
