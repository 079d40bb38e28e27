import TwinDiagram.Proofs.Model
import TwinDiagram.Proofs.Parser.Lockstep
import TwinDiagram.Proofs.Parser.Translation

namespace TwinDiagram.Parser

open Program State

variable {α β γ δ : Type}

def Declarations.respell (f : String → String) (d : Declarations) : Declarations :=
  ⟨d.systems.map (·.respell f), d.goals.map (·.respell f), d.allocations.map (·.respell f)⟩

def Outline.respell (f : String → String) (o : Outline) : Outline :=
  ⟨o.declarations.respell f, o.transform.map (·.map (·.respell f))⟩

theorem Declarations.toSlice_respell (f : String → String) (d : Declarations) :
    (d.respell f).toSlice = d.toSlice.respell f := by
  simp only [toSlice, respell, Slice.respell, List.isEmpty_map, apply_ite (Option.map _),
    Option.map_none, Option.map_some]

namespace Translation

/-- The program reads the other spelling as `p` reads the tokens themselves; `h` spells the
result. -/
def Carries (T : Translation) (h : α → β) (p : Parse α) (q : Parse β) : Prop :=
  ∀ s, T.Fits s.comments → q.run.run (T.state s) = T.outcome h (p.run.run s) ∧
    (p.run.run s).2.comments = s.comments

end Translation

namespace Translation.Carries

variable {T : Translation} {h : α → β} {g : γ → δ} {p : Parse α} {q : Parse β}

theorem pure {a : α} {b : β} (hab : h a = b) : T.Carries h (pure a) (pure b) :=
  fun _ _ ↦ ⟨hab ▸ rfl, rfl⟩

theorem bind {f : α → Parse γ} {f' : β → Parse δ} (hp : T.Carries h p q)
    (hf : ∀ a, T.Carries g (f a) (f' (h a))) : T.Carries g (p >>= f) (q >>= f') := by
  intro s hs
  obtain ⟨hrun, hcomments⟩ := hp s hs
  rw [run_bind, run_bind, hrun]
  rcases hp' : p.run.run s with ⟨m | a, t⟩ <;> rw [hp'] at hcomments
  · exact ⟨rfl, hcomments⟩
  · obtain ⟨hrun', hcomments'⟩ := hf a t (hcomments ▸ hs)
    exact ⟨hrun', hcomments'.trans hcomments⟩

theorem map {f : α → γ} {f' : β → δ} (hp : T.Carries h p q) (hf : ∀ a, g (f a) = f' (h a)) :
    T.Carries g (p >>= fun a ↦ Pure.pure (f a)) (q >>= fun b ↦ Pure.pure (f' b)) :=
  hp.bind fun a ↦ .pure (hf a)

theorem after {p' : Parse γ} {q' : Parse δ} (hp : T.Carries h p q) (hp' : T.Carries g p' q') :
    T.Carries g (p >>= fun _ ↦ p') (q >>= fun _ ↦ q') := hp.bind fun _ ↦ hp'

theorem get : T.Carries T.state (get : Parse State) get := fun _ _ ↦ ⟨rfl, rfl⟩

theorem current : T.Carries T.token current current :=
  fun s _ ↦ ⟨by rw [run_current, current_state]; rfl, rfl⟩

theorem report (f : Finding) : T.Carries id (report f) (report (T.finding f)) :=
  fun _ _ ↦ ⟨rfl, rfl⟩

theorem modify {f f' : State → State} (hf : ∀ s, f' (T.state s) = T.state (f s))
    (hcomments : ∀ s, (f s).comments = s.comments) : T.Carries id (modify f) (modify f') :=
  fun s _ ↦ ⟨by rw [run_modify, run_modify, hf]; rfl, hcomments s⟩

theorem isAt (k : TokenKind) : T.Carries id (isAt k) (isAt k) :=
  fun s _ ↦ ⟨by rw [run_isAt, run_isAt, current_state]; rfl, rfl⟩

theorem accept (k : TokenKind) : T.Carries (Option.map T.token) (accept k) (accept k) := by
  intro s _
  rw [run_accept, run_accept, current_state, advance_state, kind_token]
  split
  · exact ⟨rfl, (Onward.advance s).comments⟩
  · exact ⟨rfl, rfl⟩

theorem expect (k : TokenKind) : T.Carries T.token (expect k) (expect k) := by
  intro s _
  rw [run_expect, run_expect, current_state, advance_state, kind_token]
  split
  · exact ⟨rfl, (Onward.advance s).comments⟩
  · exact ⟨rfl, rfl⟩

theorem expectName : T.Carries T.text expectName expectName := by
  intro s _
  rw [run_expectName, run_expectName, current_state, advance_state, kind_token]
  split
  · next hname =>
    rw [T.value_token hname]
    exact ⟨rfl, (Onward.advance s).comments⟩
  · exact ⟨rfl, rfl⟩

theorem referenceTail (n : Nat) :
    T.Carries (List.map T.text) (referenceTail n) (referenceTail n) := by
  induction n with
  | zero => exact .pure rfl
  | succ n ih =>
    refine (accept .dot).bind fun dot ↦ ?_
    cases dot with
    | none => exact .pure rfl
    | some => exact expectName.bind fun name ↦ ih.map fun _ ↦ rfl

theorem reference : T.Carries T.text reference reference := by
  refine expectName.bind fun first ↦ get.bind fun s ↦ ?_
  have hsteps : (T.state s).rest.length = s.rest.length := List.length_map ..
  rw [hsteps]
  exact (referenceTail _).map fun rest ↦ T.text_intercalate (first :: rest)

theorem inlineName : T.Carries (Option.map T.text) inlineName inlineName := by
  refine (accept .name).bind fun keyword ↦ ?_
  cases keyword with
  | none => exact .pure rfl
  | some => exact expectName.map fun _ ↦ rfl

theorem connectionEnd (source target : String) (name : Option String) :
    T.Carries (Connection.respell T.text) (connectionEnd source target name)
      (connectionEnd (T.text source) (T.text target) (name.map T.text)) := by
  intro s hs
  have hcomments := (Onward.advance s).comments
  rw [run_connectionEnd, run_connectionEnd, current_state, advance_state, current_state, kind_token]
  split
  · refine ⟨?_, hcomments⟩
    have htrailing : trailingName (T.state s.advance).comments (T.token s.current)
        (T.token s.advance.current) =
          (trailingName s.advance.comments s.current s.advance.current).map T.text := by
      rw [hcomments]
      exact hcomments ▸ hs _ _
    rw [htrailing]
    cases name <;> rfl
  · exact ⟨rfl, rfl⟩

theorem connection : T.Carries (Connection.respell T.text) connection connection :=
  (expect _).after (reference.bind fun source ↦ (expect _).after (reference.bind fun target ↦
    inlineName.bind fun name ↦ connectionEnd source target name))

theorem port : T.Carries T.text port port :=
  (expect _).after (expectName.bind fun _ ↦ (expect _).after (.pure rfl))

theorem allocation : T.Carries (Allocation.respell T.text) allocation allocation :=
  (expect _).after (expectName.bind fun _ ↦ (expect _).after (reference.bind fun _ ↦
    (expect _).after (.pure rfl)))

end Translation.Carries

namespace Translation

variable {T : Translation} {h : α → α} {handle : Handler α} {found : α} {s : State}

structure Handles (T : Translation) (h : α → α) (handle : Handler α) : Prop where
  regular : handle.Regular
  reads : ∀ {k read}, handle k = some read → ∀ found, T.Carries h (read found) (read (h found))

theorem statement_state (hh : T.Handles h handle) (hs : T.Fits s.comments) :
    statement handle (h found) (T.state s) = Prod.map h T.state (statement handle found s) := by
  unfold statement
  rw [current_state, kind_token]
  cases hread : handle s.current.kind with
  | none => simp only [skipUnknown_state, Prod.map]
  | some read =>
    obtain ⟨hrun, -⟩ := hh.reads hread found s hs
    simp only [hrun]
    rcases (read found).run.run s with ⟨m | a, t⟩
    · simp only [outcome, position_state, Prod.map, ← recover_state]
      rfl
    · rfl

/-- The loop goes through the other spelling in the same steps. -/
theorem runStatements_state (hh : T.Handles h handle) (hs : T.Fits s.comments) :
    runStatements handle (h found) (T.state s) =
      Prod.map h T.state (runStatements handle found s) := by
  fun_induction runStatements handle found s with
  | case1 found s hclose =>
    rw [runStatements_of_closes (by rwa [current_state, kind_token])]
    rfl
  | case2 found s hclose next hlt ih =>
    have hclose : s.current.kind.closesBlock = false := by simpa using hclose
    have hcomments : (statement handle found s).2.comments = s.comments :=
      (statement_keeps onward_motion hh.regular hclose).comments
    rw [runStatements_of_not_closes hh.regular (by rwa [current_state, kind_token]),
      statement_state hh hs, Prod.map_fst, Prod.map_snd]
    exact ih (hcomments ▸ hs)
  | case3 found s hclose next hlt =>
    exact absurd (length_statement hh.regular (by simpa using hclose)) hlt

namespace Carries

theorem block (hh : T.Handles h handle) (owner : String) (found : α) :
    T.Carries h (block owner handle found) (block (T.text owner) handle (h found)) := by
  intro s hs
  have hadvance := (Onward.advance s).comments
  rw [run_block, run_block, current_state, advance_state, kind_token]
  split
  · have hrun : runStatements handle (h found) (T.state s.advance) =
        Prod.map h T.state (runStatements handle found s.advance) :=
      runStatements_state hh (hadvance ▸ hs)
    have honward : Onward s.advance (runStatements handle found s.advance).2 :=
      runStatements_keeps onward_motion hh.regular
    simp only [hrun, Prod.map_fst, Prod.map_snd, close_state]
    exact ⟨rfl, ((Onward.close _ _ _).comments.trans honward.comments).trans hadvance⟩
  · exact ⟨rfl, rfl⟩

theorem namedBlock (hh : T.Handles h handle) {k : TokenKind} (hk : k ∈ TokenKind.keywords)
    (name : String) (found : α) :
    T.Carries h (Parser.block s!"{k.label} {name}" handle found)
      (Parser.block s!"{k.label} {T.text name}" handle (h found)) :=
  T.text_owner hk name ▸ block hh _ found

end Carries

theorem portHandler_handles : T.Handles (List.map T.text) portHandler where
  regular := portHandler_regular
  reads {k read} hread ports := by
    unfold portHandler at hread
    split at hread <;> cases hread
    exact Carries.port.map fun _ ↦ List.map_append

theorem Carries.twin {k : TokenKind} (hk : k ∈ TokenKind.keywords) :
    T.Carries (Twin.respell T.text) (twin k) (twin k) :=
  (expect _).after (expectName.bind fun name ↦
    (namedBlock portHandler_handles hk name []).map fun _ ↦ rfl)

theorem systemHandler_handles : T.Handles (System.respell T.text) systemHandler where
  regular := systemHandler_regular
  reads {k read} hread s := by
    unfold systemHandler at hread
    split at hread <;> cases hread
    · exact (Carries.twin (by decide)).map fun _ ↦ by simp [System.respell]
    · exact (Carries.twin (by decide)).map fun _ ↦ by simp [System.respell]
    · exact Carries.connection.map fun _ ↦ by simp [System.respell]

theorem Carries.system : T.Carries (System.respell T.text) system system :=
  (expect _).after (expectName.bind fun name ↦
    namedBlock systemHandler_handles (k := .system) (by decide) name ⟨name, [], [], []⟩)

theorem docAhead_map (ts : List Token) :
    docAhead (ts.map T.token) = (docAhead ts).map (T.value .blockComment) := by
  match ts with
  | [] => rfl
  | [x] => rw [docAhead_singleton, List.map_singleton, docAhead_singleton, Option.map_none]
  | ⟨k, _, _⟩ :: ⟨l, _, _⟩ :: _ => cases k <;> cases l <;> rfl

theorem goalStep_state (doc : Option String) (s : State) :
    goalStep (doc.map T.text) (T.state s) =
      Prod.map (Option.map T.text) T.state (goalStep doc s) := by
  have hrest : docAhead (T.state s).rest = _ := docAhead_map s.rest
  rw [goalStep_eq, goalStep_eq, current_state, kind_token, skipBlock_state, hrest]
  split
  · rfl
  · cases docAhead s.rest with
    | none => simp only [Option.map_none, forward_state, Prod.map]
    | some value =>
      simp only [Option.map_some, forward_state, Prod.map, T.doc]
      cases doc <;> rfl

theorem goalBody_state (doc : Option String) (s : State) :
    goalBody (doc.map T.text) (T.state s) =
      Prod.map (Option.map T.text) T.state (goalBody doc s) := by
  fun_induction goalBody doc s with
  | case1 doc s hclose => rw [goalBody, current_state, kind_token, if_pos hclose]; rfl
  | case2 doc s hclose ih =>
    rw [goalBody, current_state, kind_token, if_neg hclose, goalStep_state]
    exact ih

namespace Carries

theorem goalBlock (name : String) :
    T.Carries (Option.map T.text) (goalBlock name) (goalBlock (T.text name)) := by
  intro s hs
  have hadvance := (Onward.advance s).comments
  rw [run_goalBlock, run_goalBlock, current_state, advance_state, kind_token]
  split
  · have hrun := goalBody_state (T := T) none s.advance
    have honward := onward_motion.goalBody none s.advance
    have howner : T.text s!"#goal {name}" = s!"#goal {T.text name}" :=
      T.text_owner (k := .goal) (by decide) name
    rw [Option.map_none] at hrun
    simp only [hrun, Prod.map_fst, Prod.map_snd, ← howner, close_state]
    exact ⟨rfl, ((Onward.close _ _ _).comments.trans honward.comments).trans hadvance⟩
  · exact ⟨rfl, rfl⟩

theorem goalRest (name : String) :
    T.Carries (Goal.respell T.text) (goalRest name) (goalRest (T.text name)) := by
  refine (isAt .openBrace).bind fun braced ↦ ?_
  cases braced with
  | true => exact (goalBlock name).map fun _ ↦ rfl
  | false => exact (accept .semicolon).after (.pure rfl)

theorem goal : T.Carries (Goal.respell T.text) goal goal :=
  (expect _).after (expectName.bind fun name ↦ goalRest name)

end Carries

theorem declarationHandler_handles :
    T.Handles (Declarations.respell T.text) declarationHandler where
  regular := declarationHandler_regular
  reads {k read} hread d := by
    unfold declarationHandler at hread
    split at hread <;> cases hread
    · exact Carries.system.map fun _ ↦ by simp [Declarations.respell]
    · exact Carries.goal.map fun _ ↦ by simp [Declarations.respell]
    · exact Carries.allocation.map fun _ ↦ by simp [Declarations.respell]

theorem Carries.labelledBlock (hh : T.Handles h handle) {k : TokenKind}
    (hk : k ∈ TokenKind.keywords) (found : α) :
    T.Carries h (Parser.block k.label handle found) (Parser.block k.label handle (h found)) := by
  have hblock := Carries.block hh k.label found
  rwa [text, T.keyword k hk] at hblock

theorem Carries.slice {k : TokenKind} (hk : k ∈ TokenKind.keywords) (earlier : Option Slice) :
    T.Carries (Option.map (Slice.respell T.text)) (slice k earlier)
      (slice k (earlier.map (Slice.respell T.text))) := by
  refine (expect k).bind fun keyword ↦
    (labelledBlock declarationHandler_handles hk .empty).bind fun d ↦ ?_
  cases earlier with
  | some => exact (report _).after (.pure rfl)
  | none => exact .pure (congrArg some (d.toSlice_respell T.text).symm)

theorem transformHandler_handles : T.Handles (Transform.respell T.text) transformHandler where
  regular := transformHandler_regular
  reads {k read} hread t := by
    rcases kind_of_transformHandler hread with rfl | rfl | rfl
    all_goals
      cases hread
      refine (Carries.slice (by decide) _).bind fun s ↦ ?_
      cases s <;> exact .pure rfl

theorem Carries.transform :
    T.Carries (Option.map (Transform.respell T.text)) transform transform := by
  refine (expect .transform).after ((labelledBlock transformHandler_handles (by decide) .empty).map
    fun t ↦ ?_)
  rw [Transform.isEmpty_slices_respell, apply_ite (Option.map _)]
  rfl

theorem Carries.rootTransform (o : Outline) :
    T.Carries (Outline.respell T.text) (rootTransform o) (rootTransform (o.respell T.text)) := by
  refine current.bind fun keyword ↦ transform.bind fun t ↦ ?_
  obtain ⟨d, _ | earlier⟩ := o
  · exact .pure rfl
  · exact (report _).after (.pure rfl)

theorem rootHandler_handles : T.Handles (Outline.respell T.text) rootHandler where
  regular := rootHandler_regular
  reads {k read} hread o := by
    by_cases hk : k = .transform
    · subst hk
      cases hread
      exact Carries.rootTransform o
    · rw [rootHandler_of_ne hk, Option.map_eq_some_iff] at hread
      obtain ⟨_, hread, rfl⟩ := hread
      exact (declarationHandler_handles.reads hread o.declarations).map fun _ ↦ rfl

theorem headerFollows_state (s : State) : headerFollows (T.state s) = headerFollows s := by
  simp only [headerFollows, advance_state, current_state, kind_token]

theorem seekFrom_state (n : Nat) (s : State) :
    seekFrom n (T.state s) = (seekFrom n s).map T.state := by
  induction n generalizing s with
  | zero => rfl
  | succ n ih =>
    rw [seekFrom, seekFrom, current_state, kind_token, headerFollows_state, forward_state, ih]
    split <;> rfl

theorem header?_state (s : State) : (T.state s).header? = s.header?.map T.state := by
  have hsteps : (T.state s).rest.length = s.rest.length := List.length_map ..
  rw [State.header?, State.header?, hsteps, seekFrom_state]

theorem model_respell (f : String → String) (name : String) (o : Outline) :
    (o.respell f).model (f name) = (o.model name).respell f := by
  obtain ⟨d, t⟩ := o
  rcases t with _ | _ | t <;> rfl

theorem empty_respell : Model.empty.respell T.text = .empty := by
  have hname : T.text "" = "" := String.map_eq_empty.mpr rfl
  simp only [Model.empty, Model.respell, hname, List.map_nil, Option.map_none]

namespace Carries

theorem seekRoot : T.Carries id seekRoot seekRoot := by
  intro s _
  rw [run_seekRoot, run_seekRoot, rewind_state, header?_state]
  cases hheader : s.rewind.header? with
  | none => exact ⟨rfl, rfl⟩
  | some t =>
    obtain ⟨i, rfl, -⟩ := header?_eq_some_iff.mp hheader
    exact ⟨rfl, rfl⟩

/-- A document in the other spelling is read step by step like the document itself. -/
theorem document : T.Carries (Model.respell T.text) document document := by
  refine seekRoot.bind fun found ↦ ?_
  cases found with
  | false => exact (report .missingRoot).after (.pure empty_respell)
  | true =>
    refine (expect .root).after (expectName.bind fun name ↦
      (namedBlock rootHandler_handles (k := .root) (by decide) name ⟨.empty, none⟩).bind fun o ↦ ?_)
    have hmodel : (o.respell T.text).model (T.text name) = (o.model name).respell T.text :=
      model_respell T.text name o
    have hlog (s : State) :
        (T.state s).log (.parsed (T.text name) ((o.model name).respell T.text).systems.length
          ((o.model name).respell T.text).goals.length
          ((o.model name).respell T.text).allocations.length (T.state s).findings.length) =
        T.state (s.log (.parsed name (o.model name).systems.length (o.model name).goals.length
          (o.model name).allocations.length s.findings.length)) := by
      simp only [findings_state, Model.respell, List.length_map]
      rfl
    dsimp only
    rw [hmodel]
    exact after (modify hlog fun _ ↦ rfl) (.pure rfl)

end Carries

theorem run_document_map {ts : List Token} (hs : T.Fits (Token.lineComments ts)) :
    document.run.run (.ofTokens (ts.map T.token)) =
      T.outcome (Model.respell T.text) (document.run.run (.ofTokens ts)) := by
  rw [ofTokens_map]
  exact (Carries.document _ (by rwa [State.comments_ofTokens])).1

/-- Tokens that are spelled alike in the same letters make the same model, and findings that are
spelled alike. -/
theorem exists_run_document {ts us : List Token} (hletter : T.letter = id)
    (h : ts.map T.token = us.map T.token) (hts : T.Fits (Token.lineComments ts))
    (hus : T.Fits (Token.lineComments us)) :
    ∃ m s s', document.run.run (.ofTokens ts) = (.ok m, s) ∧
      document.run.run (.ofTokens us) = (.ok m, s') ∧
      s.findings.map T.finding = s'.findings.map T.finding := by
  obtain ⟨m, s, hrun⟩ := document_ok (.ofTokens ts)
  obtain ⟨m', s', hrun'⟩ := document_ok (.ofTokens us)
  have hsame := (run_document_map hts).symm.trans
    ((congrArg (fun ts ↦ document.run.run (.ofTokens ts)) h).trans (run_document_map hus))
  rw [hrun, hrun'] at hsame
  obtain ⟨hok, hstate⟩ := Prod.mk.inj hsame
  have hmodel : m.respell T.text = m'.respell T.text := Except.ok.inj hok
  rw [T.text_of_letter hletter, Model.respell_id, Model.respell_id] at hmodel
  refine ⟨m, s, s', hrun, hmodel ▸ hrun', ?_⟩
  rw [← findings_state, ← findings_state, hstate]

end Translation

end TwinDiagram.Parser
