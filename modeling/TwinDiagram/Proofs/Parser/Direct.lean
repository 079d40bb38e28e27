import TwinDiagram.Proofs.Parser.Overlap

namespace TwinDiagram

namespace Token

/-- What lies ahead at each token that stands directly in a block, up to the end of the block;
`depth` is the number of blocks within it that are open. -/
def direct : (depth : Nat) → List Token → List (List Token)
  | _, [] => []
  | 0, t :: ts =>
    if t.kind.closesBlock then []
    else (t :: ts) :: direct (if t.kind = .openBrace then 1 else 0) ts
  | depth + 1, t :: ts =>
    direct (if t.kind = .openBrace then depth + 2
      else if t.kind = .closeBrace then depth else depth + 1) ts

variable {t : Token} {ts : List Token}

theorem direct_nil (depth : Nat) : direct depth [] = [] := by
  cases depth <;> rfl

theorem direct_of_closes (ht : t.kind.closesBlock) : direct 0 (t :: ts) = [] := by
  rw [direct, if_pos ht]

theorem direct_of_open (ht : t.kind = .openBrace) :
    direct 0 (t :: ts) = (t :: ts) :: direct 1 ts := by
  rw [direct, if_neg (by rw [ht]; decide), if_pos ht]

theorem direct_of_plain (ht : t.kind.isPlain) : direct 0 (t :: ts) = (t :: ts) :: direct 0 ts := by
  have hopen : t.kind ≠ .openBrace := by
    intro hopen
    rw [hopen] at ht
    cases ht
  rw [direct, if_neg (by rw [TokenKind.not_closes_of_isPlain ht]; decide), if_neg hopen]

/-- Within a block nothing counts before its end. -/
theorem direct_succ (depth : Nat) (ts : List Token) : direct (depth + 1) ts =
    ((closing? (depth + 1 : Nat) ts).map fun n ↦ direct 0 (ts.drop (n + 1))).getD [] := by
  induction ts generalizing depth with
  | nil => rfl
  | cons t ts ih =>
    have hpass (e : Nat) : ((closing? (e + 1 : Nat) ts).map (· + 1)).map
        (fun n ↦ direct 0 ((t :: ts).drop (n + 1))) =
          (closing? (e + 1 : Nat) ts).map fun n ↦ direct 0 (ts.drop (n + 1)) := by
      rw [Option.map_map]
      rfl
    rw [direct]
    by_cases hopen : (t.kind == .openBrace) = true
    · have hscan : closing? (depth + 1 : Nat) (t :: ts) =
          (closing? (depth + 2 : Nat) ts).map (· + 1) :=
        Block.closing?_of_open hopen
      rw [if_pos (beq_iff_eq.mp hopen), hscan, hpass, ih]
    rw [if_neg fun h ↦ hopen (beq_iff_eq.mpr h)]
    rw [Bool.not_eq_true] at hopen
    by_cases hclose : (t.kind == .closeBrace) = true
    · rw [if_pos (beq_iff_eq.mp hclose)]
      cases depth with
      | zero =>
        have hscan : closing? (0 + 1 : Nat) (t :: ts) = some 0 :=
          Block.closing?_one_of_close hopen hclose
        rw [hscan]
        rfl
      | succ depth =>
        have hscan : closing? (depth + 2 : Nat) (t :: ts) =
            (closing? ((depth + 2 : Nat) - 1) ts).map (· + 1) :=
          Block.closing?_of_close hopen hclose (by omega)
        rw [show ((depth + 2 : Nat) : Int) - 1 = (depth + 1 : Nat) by omega] at hscan
        rw [hscan, hpass, ih]
    · rw [if_neg fun h ↦ hclose (beq_iff_eq.mpr h)]
      rw [Bool.not_eq_true] at hclose
      have hscan : closing? (depth + 1 : Nat) (t :: ts) =
          (closing? (depth + 1 : Nat) ts).map (· + 1) :=
        Block.closing?_of_neither hopen hclose
      rw [hscan, hpass, ih]

theorem direct_one (ts : List Token) :
    direct 1 ts = ((closing? 1 ts).map fun n ↦ direct 0 (ts.drop (n + 1))).getD [] :=
  direct_succ 0 ts

theorem suffix_of_mem_direct {depth : Nat} {us : List Token} (h : us ∈ direct depth ts) :
    us <:+ ts := by
  fun_induction direct depth ts with
  | case1 => cases h
  | case2 => cases h
  | case3 t ts hclose ih =>
    rcases List.mem_cons.mp h with rfl | h
    · exact List.suffix_refl _
    · exact (ih h).trans (List.suffix_cons _ _)
  | case4 depth t ts ih => exact (ih h).trans (List.suffix_cons _ _)

end Token

namespace Parser

open Token (direct)

namespace State

variable {s t : State}

theorem direct_of_closes (hs : s.current.kind.closesBlock) : direct 0 s.rest = [] := by
  cases hr : s.rest with
  | nil => rfl
  | cons x xs => exact Token.direct_of_closes (current_of_rest hr ▸ hs)

theorem direct_of_plain (hs : s.current.kind.isPlain) :
    direct 0 s.rest = s.rest :: direct 0 s.advance.rest := by
  have hend := TokenKind.ne_endOfInput_of_isPlain hs
  obtain ⟨xs, hxs⟩ := rest_eq_cons hend
  rw [State.rest_advance hxs hend, hxs, Token.direct_of_plain hs]

theorem direct_skipBlock (hs : s.current.kind = .openBrace) :
    direct 0 s.rest = s.rest :: direct 0 s.skipBlock.rest := by
  obtain ⟨xs, hxs⟩ := rest_eq_cons (s := s) (by rw [hs]; decide)
  have hscan : Token.closing? 0 (s.current :: xs) = (Token.closing? 1 xs).map (· + 1) :=
    Block.closing?_of_open (beq_iff_eq.mpr hs)
  rw [skipBlock, hxs, Token.direct_of_open hs, Token.direct_one,
    show Block.closing? _ _ 0 (s.current :: xs) = _ from hscan]
  cases Token.closing? 1 xs with
  | none => simp [rest_forward, report, log, hxs, Token.direct_nil]
  | some n => simp [rest_forward, hxs]

/-- Of a block that is read to its end only the opening brace is direct. -/
theorem direct_close (hs : s.EndFree) (hopen : s.current.kind = .openBrace) (h : Level s.advance t)
    (hclose : t.current.kind.closesBlock) (owner : String) :
    direct 0 s.rest = s.rest :: direct 0 (t.close owner s.current).rest := by
  have hend : s.current.kind ≠ .endOfInput := by
    rw [hopen]
    decide
  obtain ⟨xs, hxs⟩ := rest_eq_cons hend
  have hadvance : s.advance.rest = xs := State.rest_advance hxs hend
  have hfree := (Onward.advance s).endFree hs
  have hclosing := h.closing hfree (Int.le_refl 1)
  rw [hxs, Token.direct_of_open hopen, Token.direct_one]
  rcases closeBrace_or_nil (h.onward.endFree hfree) hclose with hbrace | hnil
  · obtain ⟨w, hw, hpassed⟩ := h.onward.moved
    rw [closing?_one_of_close hbrace, closing?, hadvance, eq_comm, Option.map_eq_some_iff]
      at hclosing
    obtain ⟨n, hn, hposition⟩ := hclosing
    have hlength : n = w.length := by
      rw [position, position, hpassed, List.length_append, List.length_reverse] at hposition
      omega
    have hbrace' : t.current.kind ≠ .endOfInput := by
      rw [hbrace]
      decide
    obtain ⟨ys, hys⟩ := rest_eq_cons hbrace'
    rw [hn, close, if_pos hbrace, State.rest_advance hys hbrace', ← hadvance, hw, hlength, hys]
    simp
  · rw [closing?_of_nil hnil, closing?, hadvance, eq_comm, Option.map_eq_none_iff] at hclosing
    have hbrace : ¬ t.current.kind = .closeBrace := by
      rw [current_of_nil hnil, t.last_kind]
      decide
    rw [hclosing, close, if_neg hbrace]
    simp [report, log, hnil, Token.direct_nil]

end State

open State

instance (s : State) : Decidable s.OpensGoal :=
  decidable_of_iff
    (s.current.kind = .goal ∧ s.advance.current.kind.isName ∧
      s.advance.advance.current.kind = .openBrace)
    ⟨fun ⟨hgoal, hname, hbrace⟩ ↦ ⟨hgoal, hname, hbrace⟩, fun h ↦ ⟨h.goal, h.name, h.brace⟩⟩

def firstDoc (body : List Token) : Option String :=
  ((direct 0 body).filterMap docAhead).findSome? normalizeDoc

theorem docAhead_of_ne {t : Token} (ht : t.kind ≠ .doc) (ts : List Token) :
    docAhead (t :: ts) = none := by
  unfold docAhead
  split
  · next h =>
    cases (List.cons.inj h).1
    exact absurd rfl ht
  · rfl

theorem firstDoc_of_direct {ts us : List Token} (h : direct 0 ts = ts :: direct 0 us) :
    firstDoc ts = ((docAhead ts).bind normalizeDoc <|> firstDoc us) := by
  rw [firstDoc, h, firstDoc]
  cases hdoc : docAhead ts with
  | none => simp [hdoc]
  | some value => cases hvalue : normalizeDoc value <;> simp [hdoc, hvalue]

/-- What a step passes is told by what it notes. -/
theorem goalStep_firstDoc (doc : Option String) {s : State} (hs : ¬ s.current.kind.closesBlock) :
    ((goalStep doc s).1 <|> firstDoc (goalStep doc s).2.rest) = (doc <|> firstDoc s.rest) := by
  rw [goalStep_eq]
  split
  · next hopen =>
    obtain ⟨xs, hxs⟩ := rest_eq_cons (s := s) (by rw [hopen]; decide)
    have hdoc : docAhead s.rest = none := hxs ▸ docAhead_of_ne (by rw [hopen]; decide) xs
    rw [firstDoc_of_direct (direct_skipBlock hopen), hdoc]
    rfl
  next hopen =>
  have hplain : s.current.kind.isPlain := by simp [TokenKind.isPlain, hopen, hs]
  have hadvance := advance_eq_forward (TokenKind.ne_endOfInput_of_isPlain hplain)
  rw [firstDoc_of_direct (direct_of_plain hplain), hadvance]
  split
  · next value hdoc =>
    -- The comment is passed with its keyword, and there is nothing behind it that counts.
    have hcomment : (s.forward 1).current.kind = .blockComment := kind_of_docAhead hdoc
    have hplain' : (s.forward 1).current.kind.isPlain := hcomment ▸ rfl
    obtain ⟨xs, hxs⟩ := rest_eq_cons (s := s.forward 1) (by rw [hcomment]; decide)
    have hnone : docAhead (s.forward 1).rest = none :=
      hxs ▸ docAhead_of_ne (by rw [hcomment]; decide) xs
    rw [firstDoc_of_direct (direct_of_plain hplain'), hnone, advance_of_kind hcomment (by decide),
      ← forward_add, hdoc]
    cases doc <;> rfl
  · next hdoc =>
    rw [hdoc]
    rfl

theorem goalBody_eq_firstDoc (doc : Option String) (s : State) :
    (goalBody doc s).1 = (doc <|> firstDoc s.rest) := by
  fun_induction goalBody doc s with
  | case1 doc s hs =>
    rw [firstDoc, direct_of_closes hs]
    cases doc <;> rfl
  | case2 doc s hs ih => rw [ih, goalStep_firstDoc doc hs]

/-- Of what is in the block of a goal, whatever it is, only the comments behind a `doc` count that
stand directly in it. The goal is documented by the first of them that is not blank. -/
theorem goal_documented_by_first {s : State} (h : s.OpensGoal) :
    ∃ t, goal.run.run s = (.ok ⟨s.advance.current.value, ((direct 0
      s.advance.advance.advance.rest).filterMap docAhead).findSome? normalizeDoc⟩, t) := by
  have hrun : goal.run.run s = (goalRest s.advance.current.value).run.run s.advance.advance := by
    rw [goal, Program.run_bind, run_expect, if_pos h.goal]
    simp only
    rw [Program.run_bind, run_expectName, if_pos h.name]
  rw [hrun, run_goalRest, if_pos h.brace, Program.run_map, run_goalBlock, if_pos h.brace]
  simp only [goalBody_eq_firstDoc]
  exact ⟨_, rfl⟩

theorem goal_documented_past_nested_block :
    let s := State.ofTokens (tokenize
      "#goal g \x7b doc \x7b doc /* one */ \x7d doc /* */ doc /* two */ doc /* three */ \x7d")
    s.OpensGoal ∧ ∃ t, goal.run.run s = (.ok ⟨"g", some "two"⟩, t) := by
  intro s
  have h : s.OpensGoal := by decide +kernel
  have hname : s.advance.current.value = "g" := by decide +kernel
  have hdoc :
      ((direct 0 s.advance.advance.advance.rest).filterMap docAhead).findSome? normalizeDoc =
        some "two" := by decide +kernel
  have hrun := goal_documented_by_first h
  rw [hname, hdoc] at hrun
  exact ⟨h, hrun⟩

/-- The first comment is blank, and the goal is documented by the second. -/
theorem blank_comment_gives_way :
    let text := "#dartwin X \x7b #goal g \x7b doc /*   */ doc /* two */ \x7d \x7d"
    let s := (State.ofTokens (tokenize text)).forward 3
    s.OpensGoal ∧
      ((direct 0 s.advance.advance.advance.rest).filterMap docAhead).head? = some "   " ∧
      normalizeDoc "   " = none ∧
      ∃ m t, readText text = (.ok m, t) ∧ m.goals = [⟨"g", some "two"⟩] := by
  intro text s
  have hgoals : (readText text).1.toOption.map Model.goals = some [⟨"g", some "two"⟩] := by
    decide +kernel
  obtain ⟨m, t, hread⟩ : ∃ m t, readText text = (.ok m, t) := document_ok _
  rw [hread] at hgoals
  exact ⟨by decide +kernel, by decide +kernel, by decide +kernel, m, t, hread,
    Option.some.inj hgoals⟩

end Parser

end TwinDiagram
