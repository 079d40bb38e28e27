import TwinDiagram.Proofs.Parser.Depth

namespace TwinDiagram.Parser

open State

/-- The readers of blocks, each with the loop over its body. -/
inductive ReadsBlock : (loop read : State → State) → Prop
  | root (owner : String) (found : Outline) :
    ReadsBlock (fun s ↦ (runStatements rootHandler found s).2)
      fun s ↦ ((block owner rootHandler found).run.run s).2
  | system (owner : String) (found : System) :
    ReadsBlock (fun s ↦ (runStatements systemHandler found s).2)
      fun s ↦ ((block owner systemHandler found).run.run s).2
  | twin (owner : String) :
    ReadsBlock (fun s ↦ (runStatements portHandler [] s).2)
      fun s ↦ ((portBlock owner).run.run s).2
  | goal (name : String) :
    ReadsBlock (fun s ↦ (goalBody none s).2) fun s ↦ ((goalBlock name).run.run s).2
  | transform (owner : String) (found : Transform) :
    ReadsBlock (fun s ↦ (runStatements transformHandler found s).2)
      fun s ↦ ((block owner transformHandler found).run.run s).2
  | slice (owner : String) (found : Declarations) :
    ReadsBlock (fun s ↦ (runStatements declarationHandler found s).2)
      fun s ↦ ((block owner declarationHandler found).run.run s).2

namespace ReadsBlock

variable {loop read : State → State} {s : State}

theorem level (h : ReadsBlock loop read) (s : State) : Level s (loop s) := by
  cases h with
  | root => exact runStatements_keeps level_motion rootHandler_regular
  | system => exact runStatements_keeps level_motion systemHandler_regular
  | twin => exact runStatements_keeps level_motion portHandler_regular
  | goal => exact level_motion.goalBody none s
  | transform => exact runStatements_keeps level_motion transformHandler_regular
  | slice => exact runStatements_keeps level_motion declarationHandler_regular

theorem closes (h : ReadsBlock loop read) (s : State) : (loop s).current.kind.closesBlock := by
  cases h with
  | root => exact runStatements_closes rootHandler_regular
  | system => exact runStatements_closes systemHandler_regular
  | twin => exact runStatements_closes portHandler_regular
  | goal => exact goalBody_closes none s
  | transform => exact runStatements_closes transformHandler_regular
  | slice => exact runStatements_closes declarationHandler_regular

theorem read_eq (h : ReadsBlock loop read) (hs : s.current.kind = .openBrace) :
    ∃ owner, read s = (loop s.advance).close owner s.current := by
  have hblock {α : Type} (owner : String) (handle : Handler α) (found : α) :
      ((block owner handle found).run.run s).2 =
        (runStatements handle found s.advance).2.close owner s.current := by
    rw [run_block, if_pos hs]
  cases h with
  | root => exact ⟨_, hblock ..⟩
  | system => exact ⟨_, hblock ..⟩
  | twin => exact ⟨_, hblock ..⟩
  | goal => exact ⟨_, congrArg Prod.snd ((run_goalBlock _ s).trans (if_pos hs))⟩
  | transform => exact ⟨_, hblock ..⟩
  | slice => exact ⟨_, hblock ..⟩

/-- Where the loop over a block stops, and what is read of the end of the block. -/
theorem stop (h : ReadsBlock loop read) (hs : s.EndFree) (hbrace : s.current.kind = .openBrace) :
    let e := Block.extract (·.kind == .openBrace) (·.kind == .closeBrace) s.tokens s.position
    let t := loop s.advance
    if e.closed then
      t.position = e.stop ∧ t.current.kind = .closeBrace ∧ (read s).position = e.stop + 1
    else
      t.position + 1 = e.stop ∧ t.current.kind = .endOfInput ∧ (read s).position = t.position := by
  obtain ⟨owner, hread⟩ := h.read_eq hbrace
  obtain ⟨hstop, hclosed⟩ := s.extract_tokens
  have hlevel := h.level s.advance
  simp only [hstop, hclosed, hread]
  rcases stop_of_level hs hbrace hlevel (h.closes _) with ⟨hsome, hend⟩ | ⟨hnone, hend⟩
  · have hne : (loop s.advance).current.kind ≠ .endOfInput := by rw [hend]; exact nofun
    simp [hsome, hend, close, position_advance hne]
  · have hcur : (loop s.advance).current.kind = .endOfInput := by
      rw [current_of_nil hend, State.last_kind]
    have htokens := ((Onward.advance s).trans hlevel.onward).tokens_eq
    have hlen : s.tokens.length = (loop s.advance).position + 1 := by
      rw [← htokens, tokens, hend]
      simp [position]
    simp [hnone, hcur, close, hlen]
    rfl

end ReadsBlock

theorem Finding.code_eq_unterminatedBlock_iff (f : Finding) :
    f.diagnostic.code = .unterminatedBlock ↔ (Event.found f).tellsOpen := by
  cases f <;> simp [Finding.diagnostic, Event.tellsOpen]

theorem unterminated_iff_events (s : State) :
    (∃ d ∈ s.diagnostics, d.code = .unterminatedBlock) ↔ ∃ e ∈ s.events, e.tellsOpen := by
  constructor
  · rintro ⟨d, hd, hcode⟩
    obtain ⟨f, hf, rfl⟩ := List.mem_map.mp hd
    obtain ⟨e, he, hef⟩ := List.mem_filterMap.mp hf
    cases e <;> cases hef
    exact ⟨_, List.mem_reverse.mp he, f.code_eq_unterminatedBlock_iff.mp hcode⟩
  · rintro ⟨e, he, htells⟩
    cases e with
    | found f =>
      have hf : f ∈ s.findings := List.mem_filterMap.mpr ⟨_, List.mem_reverse.mpr he, rfl⟩
      exact ⟨_, List.mem_map_of_mem hf, f.code_eq_unterminatedBlock_iff.mpr htells⟩
    | skipped => cases htells
    | parsed => cases htells

theorem exists_tellsOpen_log {e : Event} (he : e.tellsOpen = false) {s : State} :
    (∃ x ∈ (s.log e).events, x.tellsOpen) ↔ ∃ x ∈ s.events, x.tellsOpen := by
  simp [log, he]

theorem tokens_ofTokens (text : String) :
    (State.ofTokens (tokenize text)).tokens = Token.statements (tokenize text) := by
  rw [State.tokens, passed_ofTokens]
  exact (ofTokens_tokenize text).1

/-- Behind the header of the root, what tells of an open block is the brace of the root. -/
theorem root_tellsOpen_iff {t : State} (ht : t.EndFree) (hevents : t.events = [])
    (hhead : IsHeader t.rest) (owner : String) :
    (∃ e ∈ ((outline t).2.close owner (t.forward 2).current).events, e.tellsOpen) ↔
      (t.forward 2).closing? 0 = none := by
  obtain ⟨-, -, hbrace⟩ := hhead.kinds
  have hend : (t.forward 2).EndFree := (Onward.forward t 2).endFree ht
  have hadvance : (t.forward 2).advance = t.forward 3 := by
    rw [advance_of_kind hbrace (by decide), ← forward_add]
  have hlevel : Level (t.forward 2).advance (outline t).2 := by
    rw [hadvance]
    exact runStatements_keeps level_motion rootHandler_regular
  rcases stop_of_level hend hbrace hlevel (runStatements_closes rootHandler_regular) with
    ⟨hsome, hclose⟩ | ⟨hnone, hnil⟩
  · have hopen : (t.forward 2).advance.closing? 1 = (t.forward 2).closing? 0 :=
      closing?_advance_of_open (d := 0) hbrace
    have hquiet := hlevel.quiet ((Onward.advance _).endFree hend) (Int.le_refl 1)
      (by rw [hopen, hsome]; rfl)
    rw [events_advance, show (t.forward 2).events = [] from hevents, List.filter_nil,
      List.filter_eq_nil_iff] at hquiet
    rw [close, if_pos hclose, events_advance, hsome]
    constructor
    · rintro ⟨e, he, htells⟩
      exact absurd htells (hquiet e he)
    · intro hnone
      cases hnone
  · have hcur : (outline t).2.current.kind = .endOfInput := by
      rw [current_of_nil hnil, State.last_kind]
    rw [close, if_neg (by rw [hcur]; decide)]
    exact ⟨fun _ ↦ hnone, fun _ ↦ ⟨_, .head _, rfl⟩⟩

/-- An unterminated block is reported exactly when a root was found whose block has no end. -/
theorem unterminated_iff (text : String) :
    (∃ d ∈ (readText text).2.diagnostics, d.code = .unterminatedBlock) ↔
      ∃ i : Nat, IsHeader ((Token.statements (tokenize text)).drop i) ∧
        (∀ j < i, ¬ IsHeader ((Token.statements (tokenize text)).drop j)) ∧
        (Block.extract (·.kind == .openBrace) (·.kind == .closeBrace)
          (Token.statements (tokenize text)) (i + 2 : Nat)).closed = false := by
  rw [unterminated_iff_events, readText, run_document,
    State.rewind_of_passed (State.passed_ofTokens _), ← tokens_ofTokens]
  have hend : (State.ofTokens (tokenize text)).EndFree := (ofTokens_tokenize text).2
  have hevents := events_ofTokens (tokenize text)
  have hpassed := passed_ofTokens (tokenize text)
  generalize State.ofTokens (tokenize text) = s at hend hevents hpassed ⊢
  have htokens : s.tokens = s.rest ++ [s.last] := by simp [tokens, hpassed]
  have hdrop {i : Nat} : IsHeader (s.tokens.drop i) ↔ IsHeader (s.rest.drop i) := by
    rw [htokens, isHeader_drop_concat s.last_kind]
  simp only [hdrop]
  cases hheader : s.header? with
  | none =>
    constructor
    · rintro ⟨e, he, htells⟩
      rw [State.report, State.log, hevents] at he
      cases List.mem_singleton.mp he
      cases htells
    · rintro ⟨i, hhead, hfirst, -⟩
      rw [header?_eq_some_iff.mpr ⟨i, rfl, hhead, hfirst⟩] at hheader
      cases hheader
  | some t =>
    obtain ⟨i, rfl, hhead, hfirst⟩ := header?_eq_some_iff.mp hheader
    have hlength : i + 3 ≤ s.rest.length := by
      have := hhead.three_le_length
      rw [List.length_drop] at this
      omega
    have hbrace : (s.forward (i + 2)).position = i + 2 := by
      rw [position_forward (by omega), position, hpassed, List.length_nil, Nat.zero_add]
    have hclosed := (s.forward (i + 2)).extract_tokens.2
    rw [(Onward.forward s (i + 2)).tokens_eq, hbrace, State.forward_add] at hclosed
    have hroot (owner : String) := root_tellsOpen_iff ((Onward.forward s i).endFree hend) hevents
      hhead owner
    simp only
    rw [exists_tellsOpen_log rfl, hroot]
    constructor
    · intro hnone
      exact ⟨i, hhead, hfirst, by rw [hclosed, hnone]; rfl⟩
    · rintro ⟨j, hj, hjfirst, hopen⟩
      have hji : j = i := by
        rcases Nat.lt_trichotomy j i with hlt | heq | hlt
        · exact absurd hj (hfirst j hlt)
        · exact heq
        · exact absurd hhead (hjfirst i hlt)
      rw [hji, hclosed] at hopen
      simpa using hopen

/-- Each loop of the parser ends where the scanner finds the end of the block: at its brace, which
is then consumed, or else at the end token. -/
theorem blocks_end_as_scanned (text : String) :
    (∀ s : State, s.tokens = Token.statements (tokenize text) → s.current.kind = .openBrace →
      ∀ loop read, ReadsBlock loop read →
        let e := Block.extract (·.kind == .openBrace) (·.kind == .closeBrace)
          (Token.statements (tokenize text)) s.position
        let t := loop s.advance
        if e.closed then
          t.position = e.stop ∧ t.current.kind = .closeBrace ∧ (read s).position = e.stop + 1
        else
          t.position + 1 = e.stop ∧ t.current.kind = .endOfInput ∧
            (read s).position = t.position) ∧
    ((∃ d ∈ (readText text).2.diagnostics, d.code = .unterminatedBlock) ↔
      ∃ i : Nat, IsHeader ((Token.statements (tokenize text)).drop i) ∧
        (∀ j < i, ¬ IsHeader ((Token.statements (tokenize text)).drop j)) ∧
        (Block.extract (·.kind == .openBrace) (·.kind == .closeBrace)
          (Token.statements (tokenize text)) (i + 2 : Nat)).closed = false) := by
  refine ⟨fun s hs hbrace loop read hread ↦ ?_, unterminated_iff text⟩
  obtain ⟨hstream, hfree⟩ := ofTokens_tokenize text
  have hend : s.EndFree := .of_tokens (hs.trans hstream.symm) hfree
  rw [← hs]
  exact hread.stop hend hbrace

/-- The block within the goal does not end the goal. -/
theorem goal_around_block_ends_as_scanned :
    let s :=
      (State.ofTokens (tokenize "#dartwin a \x7b #goal g \x7b \x7b \x7d \x7d \x7d")).forward 5
    s.current.kind = .openBrace ∧ (goalBody none s.advance).2.position = (8 : Int) ∧
      (((goalBlock "g").run.run s).2.position : Int) = 9 := by
  intro s
  have hbrace : s.current.kind = .openBrace := by decide +kernel
  have htokens := ((Onward.forward _ 5).tokens_eq (s := .ofTokens _)).trans (tokens_ofTokens
    "#dartwin a \x7b #goal g \x7b \x7b \x7d \x7d \x7d")
  have h := (blocks_end_as_scanned _).1 s htokens hbrace _ _ (.goal "g")
  have hstop : (Block.extract (·.kind == .openBrace) (·.kind == .closeBrace) (Token.statements
      (tokenize "#dartwin a \x7b #goal g \x7b \x7b \x7d \x7d \x7d")) s.position).stop = 8 := by
    decide +kernel
  simp only at h
  rw [if_pos (by decide +kernel), hstop] at h
  exact ⟨hbrace, h.1, h.2.2⟩

end TwinDiagram.Parser
