import Mathlib.Logic.Function.Iterate
import TwinDiagram.Proofs.Parser.Place

namespace TwinDiagram

open Relation

namespace Token

variable {ts : List Token} {i j : Nat} {t last : Token}

/-- From one place among tokens to another: past one token, past a block, or to the last token where
a block has no end. -/
inductive Move (ts : List Token) (i : Nat) : Nat → Prop
  | pass {t : Token} (ht : ts[i]? = some t) (hend : t.kind ≠ .endOfInput) : Move ts i (i + 1)
  | block {n : Nat}
      (hclosed : (Block.extract (·.kind == .openBrace) (·.kind == .closeBrace) ts i).closed)
      (hstop : (Block.extract (·.kind == .openBrace) (·.kind == .closeBrace) ts i).stop = n) :
    Move ts i (n + 1)
  | rest
      (hopen : (Block.extract (·.kind == .openBrace) (·.kind == .closeBrace) ts i).closed = false) :
    Move ts i (ts.length - 1)

section Bounds

variable (hlast : ts.getLast? = some last) (hend : last.kind = .endOfInput)
include hlast hend

theorem succ_lt_length (ht : ts[i]? = some t) (hkind : t.kind ≠ .endOfInput) :
    i + 1 < ts.length := by
  obtain ⟨hi, -⟩ := List.getElem?_eq_some_iff.mp ht
  refine Nat.lt_of_le_of_ne hi fun hlength ↦ hkind ?_
  rw [List.getLast?_eq_getElem?, ← hlength, Nat.add_sub_cancel, ht, Option.some_inj] at hlast
  rw [hlast, hend]

theorem Move.bounds (h : Move ts i j) (hi : i < ts.length) : i ≤ j ∧ j < ts.length := by
  obtain ⟨hstop, hclosed⟩ :=
    @Block.extract_natCast Token (·.kind == .openBrace) (·.kind == .closeBrace) ts i
  cases h with
  | pass ht hkind => exact ⟨Nat.le_succ i, succ_lt_length hlast hend ht hkind⟩
  | @block n hc hs =>
    -- The brace that closes the block is not the last token, so there is a place behind it.
    rw [hclosed, Option.isSome_iff_exists] at hc
    obtain ⟨k, hk⟩ := hc
    rw [hs, hk, Option.map_some, Option.getD_some, Int.natCast_inj] at hstop
    obtain ⟨ys, x, zs, hdrop, rfl, hx⟩ := Block.exists_append_of_closing? hk
    have hbrace : ts[n]? = some x := by
      rw [hstop, Nat.add_comm, ← List.getElem?_drop, hdrop,
        List.getElem?_append_right (Nat.le_refl _), Nat.sub_self, List.getElem?_cons_zero]
    have hkind : x.kind ≠ .endOfInput := by
      rw [beq_iff_eq.mp hx]
      decide
    exact ⟨by omega, succ_lt_length hlast hend hbrace hkind⟩
  | rest => omega

theorem bounds_of_moves (h : ReflTransGen (Move ts) i j) (hi : i < ts.length) :
    i ≤ j ∧ j < ts.length := by
  induction h with
  | refl => exact ⟨Nat.le_refl i, hi⟩
  | tail _ hmove ih =>
    have hlater := hmove.bounds hlast hend ih.2
    exact ⟨ih.1.trans hlater.1, hlater.2⟩

end Bounds

end Token

namespace Parser

open Program State

namespace State

variable {s t u : State}

theorem move_advance (hs : s.current.kind ≠ .endOfInput) :
    Token.Move s.tokens s.position s.advance.position := by
  rw [position_advance hs]
  exact .pass s.getElem?_tokens hs

theorem move_skipBlock (s : State) : Token.Move s.tokens s.position s.skipBlock.position := by
  obtain ⟨hstop, hclosed⟩ := s.extract_tokens
  unfold skipBlock
  split
  · next n hscan =>
    have hsome : s.closing? 0 = some (n + s.position) :=
      congrArg (Option.map (· + s.position)) hscan
    have hbehind : (s.forward (n + 1)).position = n + s.position + 1 := by
      rw [position_forward (Block.lt_of_closing? hscan)]
      omega
    rw [hsome] at hstop hclosed
    rw [hbehind]
    exact .block hclosed hstop
  · next hscan =>
    have hnone : s.closing? 0 = none := congrArg (Option.map (· + s.position)) hscan
    have hend : ((s.report (.unclosed s.current)).forward s.rest.length).position =
        s.tokens.length - 1 := by
      rw [length_tokens]
      exact position_forward (Nat.le_refl _)
    rw [hnone] at hclosed
    rw [hend]
    exact .rest hclosed

structure Trail (s t : State) : Prop where
  onward : Onward s t
  moves : ReflTransGen (Token.Move s.tokens) s.position t.position

namespace Trail

theorem refl (s : State) : Trail s s := ⟨.refl s, .refl⟩

theorem trans (h : Trail s t) (h' : Trail t u) : Trail s u :=
  ⟨h.onward.trans h'.onward, h.moves.trans (h.onward.tokens_eq ▸ h'.moves)⟩

theorem log (s : State) (e : Event) : Trail s (s.log e) := ⟨.log s e, .refl⟩

theorem advance (s : State) : Trail s s.advance := by
  by_cases hs : s.current.kind = .endOfInput
  · rw [State.advance, if_pos hs]
    exact refl s
  · exact ⟨.advance s, .single (move_advance hs)⟩

theorem skipBlock (s : State) : Trail s s.skipBlock := ⟨.skipBlock s, .single (move_skipBlock s)⟩

theorem close (s : State) (owner : String) (opened : Token) : Trail s (s.close owner opened) := by
  unfold State.close
  split
  · exact advance s
  · exact log s _

theorem skipUnknown (s : State) : Trail s s.skipUnknown := by
  unfold State.skipUnknown
  split
  · exact skipBlock s
  · exact (log s _).trans (advance _)

end Trail

theorem trail_motion : Motion Trail where
  refl := .refl
  trans := .trans
  onward := Trail.onward
  pass _ := .advance _
  log _ := .log _ _
  skip _ := .skipBlock _
  enclosed _ h _ := (Trail.advance _).trans (h.trans (.close _ _ _))

theorem Trail.recover (s : State) (start : Nat) : Trail s (s.recover start) := by
  -- Between statements a recovery never starts on a brace. Here it may, and then the brace is
  -- passed alone.
  have hresume (t : State) : Trail t t.resume := by
    rw [← recover_eq_resume (Nat.ne_of_lt (Nat.lt_succ_self t.position))]
    exact trail_motion.strides.recover fun hstart ↦ absurd hstart (by omega)
  have heq : s.recover start =
      (if s.position = start && !s.current.kind.closesBlock then s.advance else s).resume := rfl
  rw [heq]
  split
  · exact (advance s).trans (hresume _)
  · exact hresume s

end State

variable {α : Type}

theorem trail_expect (k : TokenKind) : Keeps Trail (expect k) := by
  intro s
  rw [run_expect]
  split
  · exact .advance s
  · exact .refl s

theorem StartsWith.trail {k : TokenKind} {p : Parse α} (hp : StartsWith k p) : Keeps Trail p := by
  obtain ⟨f, rfl, hf⟩ := hp
  exact trail_motion.bind (trail_expect k) (hf trail_motion)

section Loop

/-- One turn of the loop over statements. -/
def turn (handle : Handler α) (x : α × State) : α × State := statement handle x.1 x.2

variable {handle : Handler α} {found : α} {s : State}

theorem position_lt_turn (hh : handle.Regular) (hs : s.current.kind.closesBlock = false) :
    s.position < (turn handle (found, s)).2.position :=
  (statement_keeps onward_motion hh hs).position_lt (length_statement hh hs)

/-- The loop takes turns up to the first token that closes its block. -/
theorem exists_turns (hh : handle.Regular) (found : α) (s : State) :
    ∃ n, runStatements handle found s = (turn handle)^[n] (found, s) ∧
      (∀ m < n, ((turn handle)^[m] (found, s)).2.current.kind.closesBlock = false) ∧
      ((turn handle)^[n] (found, s)).2.current.kind.closesBlock := by
  fun_induction runStatements handle found s with
  | case1 found s hs => exact ⟨0, rfl, fun m hm ↦ absurd hm (Nat.not_lt_zero m), hs⟩
  | case2 found s hs next _ ih =>
    obtain ⟨n, hrun, hbefore, hclose⟩ := ih
    refine ⟨n + 1, hrun, fun m hm ↦ ?_, hclose⟩
    cases m with
    | zero => simpa using hs
    | succ m => exact hbefore m (Nat.lt_of_succ_lt_succ hm)
  -- Every turn passes a token, so the loop does not break off here.
  | case3 found s hs next hlt => exact absurd (length_statement hh (by simpa using hs)) hlt

end Loop

def Parse.after (p : Parse α) (s : State) : State := (p.run.run s).2

/-- What may be asked of a parser. Statements are read by its own tables, behind any that were read
before. -/
inductive Call where
  | advance
  | isAt (kinds : List TokenKind)
  | accept (k : TokenKind)
  | expect (k : TokenKind)
  | expectName
  | peek (offset : Nat)
  | skipBlock
  | skipUnknown
  | recover (start : Int)
  | closeBlock (owner : String) (opened : Token)
  | statements (l : Layer) (found : l.Found)
  | port
  | portBlock (owner : String)
  | twin (keyword : TokenKind)
  | reference
  | connection
  | system
  | goal
  | allocation
  | slice (kind : TokenKind) (earlier : Option Slice)
  | transform
  | rootTransform (found : Outline)

namespace Call

/-- The parser behind the call, whether that fails or not. -/
def after : Call → State → State
  | advance => Parse.after Parser.advance
  | isAt kinds => Parse.after (do return kinds.contains (← current).kind)
  | accept k => Parse.after (Parser.accept k)
  | expect k => Parse.after (Parser.expect k)
  | expectName => Parse.after Parser.expectName
  | peek offset => Parse.after (do return (← get).peek offset)
  | skipBlock => State.skipBlock
  | skipUnknown => State.skipUnknown
  -- The parser never stands at a negative start, so that any place but its own will do instead.
  | recover start => fun s ↦ s.recover (if start < 0 then s.position + 1 else start.toNat)
  | closeBlock owner opened => Parse.after (Parser.closeBlock owner opened)
  | statements l found => Parse.after (Parser.statements l.handle found)
  | port => Parse.after Parser.port
  | portBlock owner => Parse.after (Parser.portBlock owner)
  | twin keyword => Parse.after (Parser.twin keyword)
  | reference => Parse.after Parser.reference
  | connection => Parse.after Parser.connection
  | system => Parse.after Parser.system
  | goal => Parse.after Parser.goal
  | allocation => Parse.after Parser.allocation
  | slice kind earlier => Parse.after (Parser.slice kind earlier)
  | transform => Parse.after Parser.transform
  | rootTransform found => Parse.after (Parser.rootTransform found)

/-- The parser behind all the calls, the first one first. -/
def afterAll (calls : List Call) (s : State) : State := calls.foldl (fun s c ↦ c.after s) s

theorem trail (c : Call) (s : State) : Trail s (c.after s) := by
  cases c with
  | advance => exact .advance s
  | isAt kinds => exact .refl s
  | accept k =>
    rw [after, Parse.after, run_accept]
    split
    · exact .advance s
    · exact .refl s
  | expect k => exact trail_expect k s
  | expectName => exact trail_motion.expectName s
  | peek offset => exact .refl s
  | skipBlock => exact .skipBlock s
  | skipUnknown => exact .skipUnknown s
  | recover start => exact .recover s _
  | closeBlock owner opened =>
    rw [after, Parse.after, run_closeBlock]
    exact .close s owner opened
  | statements l found => exact runStatements_keeps trail_motion l.regular
  | port => exact port_starts.trail s
  | portBlock owner => exact trail_motion.block portHandler_regular owner [] s
  | twin keyword => exact (twin_starts keyword).trail s
  | reference => exact trail_motion.reference s
  | connection => exact connection_starts.trail s
  | system => exact system_starts.trail s
  | goal => exact goal_starts.trail s
  | allocation => exact allocation_starts.trail s
  | slice kind earlier => exact (slice_starts kind earlier).trail s
  | transform => exact transform_starts.trail s
  | rootTransform found => exact (rootTransform_starts found).trail s

theorem trail_afterAll (calls : List Call) (s : State) : Trail s (afterAll calls s) := by
  induction calls generalizing s with
  | nil => exact .refl s
  | cons c calls ih => exact (c.trail s).trans (ih (c.after s))

end Call

/-- Whatever is asked of a parser, its tokens stay the same, with an end token as the last one, and
its place is that of one of them. A call takes the parser there by moves which never go back nor
leave the tokens. Each turn of a loop over statements gets past a token, so that the loop ends, and
it ends where its block closes. -/
theorem place_kept_by_calls (ts : List Token) (calls : List Call) :
    let s := Call.afterAll calls (.ofTokens ts)
    (s.tokens = Token.statements ts ∨ ∃ p, s.tokens = Token.statements ts ++ [.endAt p]) ∧
    (∃ t, s.tokens.getLast? = some t ∧ t.kind = .endOfInput) ∧
    s.position ≤ s.tokens.length - 1 ∧ s.tokens[s.position]? = some s.current ∧
    (∀ c : Call, (c.after s).tokens = s.tokens ∧
      ReflTransGen (Token.Move s.tokens) s.position (c.after s).position) ∧
    (∀ i, ReflTransGen (Token.Move s.tokens) s.position i →
      s.position ≤ i ∧ i ≤ s.tokens.length - 1) ∧
    ∀ (l : Layer) (found : l.Found) (u : State),
      (u.current.kind.closesBlock = false → u.position < (turn l.handle (found, u)).2.position) ∧
      ∃ n, runStatements l.handle found u = (turn l.handle)^[n] (found, u) ∧
        (∀ m < n, ((turn l.handle)^[m] (found, u)).2.current.kind.closesBlock = false) ∧
        ((turn l.handle)^[n] (found, u)).2.current.kind.closesBlock := by
  intro s
  have htokens := (Call.trail_afterAll calls (.ofTokens ts)).onward.tokens_eq
  have hplace : s.position < s.tokens.length := (List.getElem?_eq_some_iff.mp s.getElem?_tokens).1
  refine ⟨htokens ▸ State.tokens_ofTokens_eq_or ts, ⟨s.last, s.getLast?_tokens, s.last_kind⟩,
    Nat.le_sub_one_of_lt hplace, s.getElem?_tokens, fun c ↦ ?_, fun i hmoves ↦ ?_,
    fun l found u ↦ ⟨position_lt_turn l.regular, exists_turns l.regular found u⟩⟩
  · exact ⟨(c.trail s).onward.tokens_eq, (c.trail s).moves⟩
  · obtain ⟨hle, hlt⟩ := Token.bounds_of_moves s.getLast?_tokens s.last_kind hmoves hplace
    exact ⟨hle, Nat.le_sub_one_of_lt hlt⟩

/-- There is an end token inside, where the statement breaks off, and none at the end. A block that
is looked for there is not found, and all that is left is passed. -/
theorem place_kept_by_calls_past_end :
    let ts : List Token :=
      [⟨.system, "#twinsystem", ⟨1, 1⟩⟩, .endAt ⟨1, 13⟩, ⟨.semicolon, ";", ⟨2, 1⟩⟩]
    let s := Call.afterAll [.statements .slice .empty, .recover (-1)] (.ofTokens ts)
    s.position = 1 ∧ (Call.skipBlock.after s).position = 3 ∧ 3 ≤ s.tokens.length - 1 ∧
      (State.ofTokens ts).current.kind.closesBlock = false ∧
      (State.ofTokens ts).position <
        (turn declarationHandler (Declarations.empty, .ofTokens ts)).2.position := by
  intro ts s
  obtain ⟨-, -, -, -, hcall, hbounds, hloop⟩ :=
    place_kept_by_calls ts [.statements .slice .empty, .recover (-1)]
  have hend : (Call.skipBlock.after s).position = 3 := by decide +kernel
  have hstart : (State.ofTokens ts).current.kind.closesBlock = false := by decide +kernel
  exact ⟨by decide +kernel, hend, (hbounds 3 (hend ▸ (hcall .skipBlock).2)).2, hstart,
    (hloop .slice Declarations.empty (.ofTokens ts)).1 hstart⟩

end Parser

end TwinDiagram
