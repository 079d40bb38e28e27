import TwinDiagram.Proofs.Parser.Refusal
import TwinDiagram.Proofs.Parser.Shift

namespace TwinDiagram.Parser

open Program State Relation

namespace Place

/-- The parser stands between two statements and has just passed the tokens of `before`. -/
structure Between (before behind : String) (p : Place) : Prop where
  of : p.Of (before ++ behind)
  passed : p.state.passed.reverse = (Token.statements (tokenize before)).dropLast

/-- No finding tells of the token that comes next, nor of a block without an end. -/
def Settled (p : Place) : Prop := ∀ f ∈ p.state.findings, ¬ f.Touches p.state.current

/-- The block has no statements with this keyword, or what reads them fails on the line. -/
def Refuses (p : Place) (keyword : Token) (line : String) : Prop :=
  ∀ read, p.layer.handle keyword.kind = some read →
    ∃ m s, (read p.found).run.run (.ofTokens (tokenize line)) = (.error m, s)

/-- What a line adds to the findings: one about this line if its statement is read. -/
def Adds (p : Place) (keyword : Token) (line : Int) (added : List Finding) : Prop :=
  if (p.layer.handle keyword.kind).isSome then
    ∃ w x, added = [.mismatch ⟨w, x⟩] ∧ x.line = line
  else added = []

end Place

section

variable {tail ws : List Token} {n : Int} {x z : Token}

theorem sentence_of_map (hws : ∀ x ∈ ws, x.kind.isPlain ∧ x.kind ≠ .semicolon)
    (hz : z.kind = .semicolon) :
    Sentence tail (ws ++ [z]) ((ws ++ [z]).map (Token.down n) ++ tail) := by
  induction ws with
  | nil => exact .stop hz hz
  | cons x ws ih =>
    obtain ⟨⟨hplain, hstop⟩, hws⟩ := List.forall_mem_cons.mp hws
    exact .cons rfl rfl hplain hstop (ih hws)

theorem startsStatement_isPlain {k : TokenKind} :
    k.startsStatement → k.isPlain ∧ k ≠ .semicolon := by
  cases k <;> decide

structure Calm (x : Token) : Prop where
  isPlain : x.kind.isPlain
  ne_semicolon : x.kind ≠ .semicolon
  starts : x.kind.startsStatement = false

theorem Calm.of_middle (h : x.kind.startsStatement = false ∧ x.kind ∉ [.openBrace, .closeBrace,
    .semicolon, .lineComment, .blockComment] ∧ x.kind ≠ .endOfInput) : Calm x := by
  obtain ⟨hstarts, hmem, hend⟩ := h
  simp only [List.mem_cons, not_or] at hmem
  refine ⟨?_, hmem.2.2.1, hstarts⟩
  simp [TokenKind.isPlain, TokenKind.closesBlock, hmem.1, hmem.2.1, hend]

theorem Calm.not_stopsRecovery (h : Calm x) : stopsRecovery x.kind = false := by
  have hplain := h.isPlain
  simp only [TokenKind.isPlain, Bool.not_eq_true', Bool.or_eq_false_iff] at hplain
  simp [stopsRecovery, hplain, h.ne_semicolon, h.starts]

theorem StatementLine.rest_eq {line : String} {keyword : Token} {q : Position}
    (hline : StatementLine line keyword)
    (hls : tokenize line = keyword :: (ws ++ [z]) ++ [.endAt q]) (hz : z.kind = .semicolon) :
    (ofTokens (tokenize line)).rest = keyword :: ws ++ [z] := by
  have hnone : ∀ x ∈ keyword :: ws, x.kind ≠ .lineComment ∧ x.kind ≠ .blockComment := by
    intro x hx
    refine hline.ne_comment x ?_
    rw [hls, ← List.cons_append]
    exact List.mem_append_left _ (List.mem_append_left _ hx)
  refine (ofTokens_of_statements (t := .endAt q) ?_).1
  rw [hls, ← List.cons_append, Token.statements, Token.dropComments_concat,
    ← List.append_nil (keyword :: ws ++ [z]), Token.dropComments_append_of_ne_comment hnone hz]
  rfl

/-- A block that has no statements with this keyword passes the line token by token. -/
theorem Place.finish_unhandled {keyword : Token} {p : Place}
    (hstarts : keyword.kind.startsStatement)
    (hz : z.kind = .semicolon) (hcalm : ∀ x ∈ ws, Calm x)
    (hread : p.layer.handle keyword.kind = none)
    {t : State} (ht : t.rest = (keyword :: (ws ++ [z])).map (Token.down n) ++ tail) :
    ∃ u, Behind tail [] t u ∧
      (Place.mk p.layer p.found t).finish = (Place.mk p.layer p.found u).finish := by
  have hnone {k : TokenKind} (hk : k.startsStatement = false) : p.layer.handle k = none :=
    Option.eq_none_iff_forall_ne_some.mpr fun read hread ↦ by
      rw [Layer.startsStatement_of_handle (Option.isSome_of_eq_some hread)] at hk
      cases hk
  have hmeans : ∀ x ∈ keyword :: (ws ++ [z]), x.kind.isPlain ∧ p.layer.handle x.kind = none := by
    intro x hx
    simp only [List.mem_cons, List.mem_append, List.not_mem_nil, or_false] at hx
    rcases hx with rfl | hx | rfl
    · exact ⟨(startsStatement_isPlain hstarts).1, hread⟩
    · exact ⟨(hcalm x hx).isPlain, hnone (hcalm x hx).starts⟩
    · rw [hz]
      exact ⟨rfl, hnone rfl⟩
  have hmeans' : ∀ x ∈ (keyword :: (ws ++ [z])).map (Token.down n),
      x.kind.isPlain ∧ p.layer.handle x.kind = none := by
    intro x hx
    obtain ⟨y, hy, rfl⟩ := List.mem_map.mp hx
    exact hmeans y hy
  exact finish_skipped (l := p.layer) ht (fun x hx ↦ (hmeans' x hx).1) fun x hx ↦ (hmeans' x hx).2

/-- What is refused on the line alone is refused on it within a text, and nothing behind it
is lost. -/
theorem Place.finish_handled {line : String} {keyword : Token} {q : Position} {p : Place}
    (hline : StatementLine line keyword)
    (hls : tokenize line = keyword :: (ws ++ [z]) ++ [.endAt q]) (hz : z.kind = .semicolon)
    (hcalm : ∀ x ∈ ws, Calm x) {read : p.layer.Found → Parse p.layer.Found}
    (hread : p.layer.handle keyword.kind = some read)
    (hrefused : ∃ m s, (read p.found).run.run (.ofTokens (tokenize line)) = (.error m, s))
    {t : State} (ht : t.rest = (keyword :: (ws ++ [z])).map (Token.down n) ++ tail) :
    ∃ w x u, x.line = n + 1 ∧ Behind tail [.mismatch ⟨w, x⟩] t u ∧
      (Place.mk p.layer p.found t).finish = (Place.mk p.layer p.found u).finish := by
  obtain ⟨m, s, hrun⟩ := hrefused
  have hcur : t.current = keyword.down n := current_of_rest ht
  have hsentence : Sentence tail (ofTokens (tokenize line)).rest t.rest := by
    rw [StatementLine.rest_eq hline hls hz, ht, ← List.cons_append]
    exact sentence_of_map (List.forall_mem_cons.mpr ⟨startsStatement_isPlain hline.starts,
      fun x hx ↦ ⟨(hcalm x hx).isPlain, (hcalm x hx).ne_semicolon⟩⟩) hz
  have hrest : t.rest = t.current :: (ws.map (Token.down n) ++ z.down n :: tail) := by
    rw [ht, hcur]
    simp
  have hstops : ∀ x ∈ ws.map (Token.down n), stopsRecovery x.kind = false := by
    intro x hx
    obtain ⟨y, hy, rfl⟩ := List.mem_map.mp hx
    exact (hcalm y hy).not_stopsRecovery
  obtain ⟨w, x, u, hx, hu, hfinish⟩ :=
    finish_refused (hcur ▸ hread) hsentence hrest hstops hz hrun
  refine ⟨w, x, u, ?_, hu, hfinish⟩
  have hmem : x ∈ (ws ++ [z]).map (Token.down n) := by
    rw [List.map_append]
    exact hx
  obtain ⟨y, hy, rfl⟩ := List.mem_map.mp hmem
  have hone := (hline.tokenize_append hls).1 y (List.mem_cons_of_mem _ hy)
  show y.line + n = n + 1
  rw [hone, Int.add_comm]

/-- Behind the line the parser goes on, with one finding more if it has refused the statement. -/
theorem Place.finish_line {line : String} {keyword : Token} {q : Position} {p : Place}
    (hline : StatementLine line keyword)
    (hls : tokenize line = keyword :: (ws ++ [z]) ++ [.endAt q]) (hz : z.kind = .semicolon)
    (hcalm : ∀ x ∈ ws, Calm x) (hrefused : p.Refuses keyword line) {t : State}
    (ht : t.rest = (keyword :: (ws ++ [z])).map (Token.down n) ++ tail) :
    ∃ added u, p.Adds keyword (n + 1) added ∧ Behind tail added t u ∧
      (Place.mk p.layer p.found t).finish = (Place.mk p.layer p.found u).finish := by
  unfold Adds
  cases hread : p.layer.handle keyword.kind with
  | none =>
    obtain ⟨u, hu, hfinish⟩ := finish_unhandled hline.starts hz hcalm hread ht
    exact ⟨[], u, rfl, hu, hfinish⟩
  | some read =>
    obtain ⟨w, x, u, hx, hu, hfinish⟩ :=
      finish_handled hline hls hz hcalm hread (hrefused read hread) ht
    exact ⟨_, u, ⟨w, x, rfl, hx⟩, hu, hfinish⟩

end

namespace Inserted

variable {n : Int} {front notes back line : List Token} {s t : State} {keyword : Token}
  {ws : List Token}

theorem rest_eq (h : Inserted n front notes back line s t) {p : Place}
    (honward : Onward s p.state) (hs : s.passed = []) (hpassed : p.state.passed.reverse = front) :
    p.state.rest = notes ++ back := by
  obtain ⟨w, hw, hp⟩ := honward.moved
  rw [hp, hs, List.append_nil, List.reverse_reverse] at hpassed
  rw [hpassed, h.rest] at hw
  exact (List.append_cancel_left hw).symm

def overlap (_ : Inserted n front notes back line s t) (hline : line = keyword :: ws)
    (hstarts : keyword.kind.startsStatement) : Overlap where
  same a b := b = a.shifted n
  kind_eq h := h ▸ rfl
  value_eq h _ := h ▸ rfl
  tail := notes ++ back
  tail' := line ++ back.map (Token.shifted n)
  tails := .inr ⟨keyword, _, by rw [hline, List.cons_append], hstarts⟩
  before := []
  before' := []
  comments := s.comments
  comments' := t.comments

variable (h : Inserted n front notes back line s t) (hline : line = keyword :: ws)
  (hstarts : keyword.kind.startsStatement)

theorem beside (hkeyword : n < keyword.line) (hs : s.findings = []) (ht : t.findings = []) :
    (h.overlap hline hstarts).Beside s t := by
  have hfront : front.map (Token.shifted n) = front :=
    (List.map_congr_left fun x hx ↦ Token.shifted_of_le (h.line_front x hx)).trans (List.map_id _)
  refine Overlap.beside_of_shifted rfl (fun hb ↦ hb ▸ rfl) rfl h.rest ?_ h.last rfl rfl h.comments
    (.inr ⟨h.line_front, ?_, ?_⟩) ⟨[], [], hs, ht, .nil⟩
  · rw [hfront]
    exact h.rest'
  · show n < ((notes ++ back).headD s.last).line
    cases hnotes : notes ++ back with
    | nil => exact h.line_last
    | cons x xs =>
      have hx : x ∈ notes ++ back := hnotes ▸ .head _
      exact (List.mem_append.mp hx).elim (h.line_notes x) (h.line_back x)
  · show n < ((line ++ back.map (Token.shifted n)).headD t.last).line
    rw [hline]
    exact hkeyword

theorem not_lost {p : Place} (hrest : p.state.rest = notes ++ back) (hsettled : p.Settled) :
    ¬ (h.overlap hline hstarts).Lost p.state := by
  rintro ⟨-, hlt | ⟨f, hf, htouches⟩⟩
  · rw [hrest] at hlt
    exact Nat.lt_irrefl _ hlt
  · refine hsettled f hf ?_
    rw [State.current, hrest]
    exact htouches

/-- Where the line is put in, both parsers end the block alike. -/
theorem finish_alike {p : Place} (hrest : p.state.rest = notes ++ back)
    {Added : List Finding → Prop}
    (hpass : ∀ {u : State}, u.rest = line ++ back.map (Token.shifted n) → ∃ added v, Added added ∧
      Behind (back.map (Token.shifted n)) added u v ∧
        (Place.mk p.layer p.found u).finish = (Place.mk p.layer p.found v).finish)
    {u : State} (hu : (h.overlap hline hstarts).Beside p.state u) :
    ∃ gs, (∃ gs' added, gs = gs' ++ added ∧ Added added ∧
        List.Forall₂ (Finding.Like (h.overlap hline hstarts).same) p.state.findings gs') ∧
      ((h.overlap hline hstarts).past p.state.findings gs).Alike p.finish
        (Place.mk p.layer p.found u).finish := by
  obtain ⟨ws, ws', hws, hws', hsame⟩ := hu.rest
  have hnil : ws = [] := List.self_eq_append_left.mp (hrest.symm.trans hws)
  rw [hnil, List.forall₂_nil_left_iff] at hsame
  rw [hsame] at hws'
  obtain ⟨added, v, hadded, hv, hfinish⟩ := hpass hws'
  have hnone {x : Token} (hx : x ∈ notes) : p.layer.handle x.kind = none := by
    rw [h.isBlockComment x hx]
    cases p.layer <;> rfl
  obtain ⟨v', hv', hfinish'⟩ := Place.finish_skipped (l := p.layer) hrest
    (fun x hx ↦ by rw [h.isBlockComment x hx]; rfl) fun x hx ↦ hnone hx
  obtain ⟨fs, gs, hfs, hgs, hlike⟩ := hu.findings
  refine ⟨u.findings ++ added, ⟨u.findings, added, rfl, hadded, ?_⟩, ?_⟩
  · rw [hfs, hgs]
    exact hlike
  · rw [hfinish]
    refine hfinish'.symm ▸ Overlap.finish_past (Overlap.beside_of_shifted (n := n) rfl
      (fun hb ↦ hb ▸ rfl) rfl (w := back) ?_ ?_ ?_ ?_ ?_ h.comments (.inl ⟨rfl, rfl⟩) ⟨[], [],
        ?_, ?_, .nil⟩)
    · rw [hv'.rest]
      exact (List.append_nil back).symm
    · rw [hv.rest]
      exact (List.append_nil _).symm
    · rw [hv.last, hv'.last]
      exact hu.last
    · rw [hv'.comments]
      exact hu.comments.1
    · rw [hv.comments]
      exact hu.comments.2
    · exact hv'.findings
    · rw [hv.findings]
      exact (List.append_nil _).symm

end Inserted

/-- Both parsers find the header in front of the line, and they enter the root block together. -/
theorem Inserted.header_alike {n : Int} {front notes back line ws : List Token} {s t r : State}
    {keyword : Token} (h : Inserted n front notes back line s t) (hline : line = keyword :: ws)
    (hstarts : keyword.kind.startsStatement) (hbeside : (h.overlap hline hstarts).Beside s t)
    (hheader : s.header? = some r) (hlength : (notes ++ back).length ≤ (r.forward 3).rest.length) :
    ∃ q, t.header? = some q ∧ (r.forward 1).current.value = (q.forward 1).current.value ∧
      (h.overlap hline hstarts).same (r.forward 2).current (q.forward 2).current ∧
      (h.overlap hline hstarts).Beside (r.forward 3) (q.forward 3) := by
  obtain ⟨i, rfl, hhead, hfirst⟩ := header?_eq_some_iff.mp hheader
  have hthree := hhead.three_le_length
  rw [← State.forward_add, rest_forward, List.length_drop] at hlength
  rw [List.length_drop] at hthree
  have hsame {j : Nat} (hj : j < i + 3) :
      (h.overlap hline hstarts).same (s.forward j).current (t.forward j).current := by
    have hinside : (notes ++ back).length + j < s.rest.length := by omega
    refine ((hbeside.forward (Nat.le_of_lt hinside)).see.resolve_right fun hedge ↦ ?_).same
    have hedge' := congrArg List.length hedge.rest
    rw [rest_forward, List.length_drop] at hedge'
    change s.rest.length - j = (notes ++ back).length at hedge'
    omega
  have hinside : (notes ++ back).length + i + 3 ≤ s.rest.length := by omega
  refine ⟨t.forward i, hbeside.header? hinside hhead hfirst, ?_, ?_, ?_⟩
  · have hname := (IsHeader.kinds (s := s.forward i) hhead).2.1
    rw [← State.forward_add] at hname ⊢
    rw [← State.forward_add]
    exact (h.overlap hline hstarts).value_eq (hsame (by omega)) hname
  · rw [← State.forward_add, ← State.forward_add]
    exact hsame (by omega)
  · rw [← State.forward_add, ← State.forward_add]
    exact hbeside.forward hinside

theorem forall₂_diagnostic {n : Int} {same : Token → Token → Prop}
    (hsame : ∀ {a b}, same a b → b = a.shifted n) {fs gs : List Finding}
    (h : List.Forall₂ (Finding.Like same) fs gs) :
    gs.map Finding.diagnostic = (fs.map Finding.diagnostic).map (Diagnostic.shifted n) := by
  induction h with
  | nil => rfl
  | cons hfg _ ih => rw [List.map_cons, List.map_cons, List.map_cons, ih, hfg.diagnostic hsame]

/-- Between two statements a line may be put in that means nothing there or is refused: the model
stays the same, and the findings do, apart from one about the line if its statement is read. -/
theorem bad_statement_harmless {before line behind : String} {keyword : Token} {p : Place}
    (hbefore : EndsLine before) (hline : StatementLine line keyword)
    (hp : p.Between before behind) (hsettled : p.Settled) (hrefused : p.Refuses keyword line) :
    ∃ m s t later added,
      readText (before ++ behind) = (.ok m, s) ∧
      readText (before ++ line ++ "\n" ++ behind) = (.ok m, t) ∧
      s.diagnostics = p.state.diagnostics ++ later ∧
      t.diagnostics = p.state.diagnostics.map (Diagnostic.shifted (lineBreaks before)) ++ added ++
        later.map (Diagnostic.shifted (lineBreaks before)) ∧
      if (p.layer.handle keyword.kind).isSome then
        ∃ d, added = [d] ∧ d.code = .malformed ∧ d.line = some (lineBreaks before + 1)
      else added = [] := by
  obtain ⟨ws, z, q, hls, hz, hws⟩ := hline.tokens_eq
  obtain ⟨notes, back, h⟩ := inserted behind hbefore hline hls hz
  obtain ⟨⟨s', hheader, hsteps⟩, hpassed⟩ := hp
  have hkeyword : (keyword.down (lineBreaks before)).line = lineBreaks before + 1 := by
    show keyword.line + lineBreaks before = _
    rw [(hline.tokenize_append hls).1 keyword (.head _), Int.add_comm]
  have hcalm : ∀ x ∈ ws, Calm x := fun x hx ↦ .of_middle (hws x hx)
  have hfinish {tail : List Token} {u : State}
    (hu : u.rest = (keyword :: (ws ++ [z])).map (Token.down (lineBreaks before)) ++ tail) :=
      Place.finish_line hline hls hz hcalm hrefused hu
  have hpass := State.passed_ofTokens (tokenize (before ++ behind))
  have hpass' := State.passed_ofTokens (tokenize (before ++ line ++ "\n" ++ behind))
  have hevents := State.events_ofTokens (tokenize (before ++ behind))
  have hevents' := State.events_ofTokens (tokenize (before ++ line ++ "\n" ++ behind))
  unfold readText
  generalize (tokenize (before ++ behind)) = ts at *
  generalize (tokenize (before ++ line ++ "\n" ++ behind)) = ts' at *
  generalize State.ofTokens ts = s at *
  generalize State.ofTokens ts' = t at *
  generalize lineBreaks before = n at *
  have hlater : Onward (s'.forward 3) p.state := Place.onward_of_steps hsteps
  have hstarts : (keyword.down n).kind.startsStatement := hline.starts
  have hbeside := h.beside rfl hstarts (by omega) (by rw [State.findings, hevents]; rfl)
    (by rw [State.findings, hevents']; rfl)
  have hrest : p.state.rest = notes ++ back := by
    obtain ⟨i, rfl, -⟩ := header?_eq_some_iff.mp hheader
    exact h.rest_eq ((Onward.forward s i).trans ((Onward.forward _ 3).trans hlater)) hpass hpassed
  obtain ⟨r, hheader', hname, hopened, hroot⟩ :=
    h.header_alike rfl hstarts hbeside hheader (hrest ▸ hlater.length_le)
  -- From the block that the line stands in out to the root block.
  obtain ⟨gs, ⟨gs', added, rfl, hadded, hlike⟩, halike⟩ :=
    Place.finish_of_steps (h.not_lost rfl hstarts hrest hsettled)
      (h.finish_alike rfl hstarts hrest hfinish) hsteps hroot
  obtain ⟨m, u, v, fs, gs, hs, ht, hu, hv, hlater⟩ := Overlap.document_alike
    (c := h.overlap rfl hstarts) (s := s) (t := t) (by rwa [rewind_of_passed hpass])
    (by rwa [rewind_of_passed hpass']) hname hopened halike
  refine ⟨m, u, v, fs.map Finding.diagnostic, added.map Finding.diagnostic, hs, ht, ?_, ?_, ?_⟩
  · rw [State.diagnostics, hu, List.map_append]
    rfl
  · rw [State.diagnostics, hv, List.map_append, List.map_append, forall₂_diagnostic id hlike,
      forall₂_diagnostic id hlater]
    rfl
  · unfold Place.Adds at hadded
    split at hadded
    · next hread =>
      obtain ⟨w, x, rfl, hx⟩ := hadded
      rw [if_pos hread]
      exact ⟨_, rfl, rfl, congrArg some hx⟩
    · next hread =>
      rw [if_neg hread, hadded]
      rfl

def afterFirst (text : String) : Place :=
  let s := (State.ofTokens (tokenize text)).forward 3
  let first := statement systemHandler ⟨(s.forward 1).current.value, [], [], []⟩ (s.forward 3)
  ⟨.system, first.1, first.2⟩

def OpensSystem (s : State) : Prop :=
  IsHeader s.rest ∧ (s.forward 3).current.kind = .system ∧
    ((s.forward 3).forward 1).current.kind.isName ∧
    ((s.forward 3).forward 2).current.kind = .openBrace ∧
    ((s.forward 3).forward 3).current.kind.closesBlock = false

instance (s : State) : Decidable (OpensSystem s) := instDecidableAnd

theorem OpensSystem.afterFirst_of {text : String}
    (h : OpensSystem (.ofTokens (tokenize text))) : (afterFirst text).Of text := by
  generalize hs : State.ofTokens (tokenize text) = s at h
  obtain ⟨hhead, hsystem, hname, hbrace, hnext⟩ := h
  have hheader : (Layer.header .system .system).run.run (s.forward 3) =
      (.ok ((s.forward 3).current, ((s.forward 3).forward 1).current.value),
        (s.forward 3).forward 2) := by
    rw [Layer.header, run_bind, run_expect_ok (by decide) hsystem]
    simp only
    rw [run_bind, run_expectName_ok hname, State.forward_add 1 1]
    rfl
  have henter : Place.Step ⟨.root, Layer.start "" .root, s.forward 3⟩ ⟨.system, _, _⟩ :=
    .enter (by rw [hsystem]; rfl) (hsystem ▸ hheader) hbrace
  rw [advance_eq_forward (by rw [hbrace]; decide), ← State.forward_add 2 1] at henter
  unfold afterFirst
  rw [hs]
  refine ⟨s, header?_eq_some_iff.mpr ⟨0, ?_, hs ▸ hhead, fun j hj ↦ absurd hj (Nat.not_lt_zero j)⟩,
    (ReflTransGen.single henter).tail (.next hnext)⟩
  rw [hs, State.forward_zero]

theorem afterFirst_refuses {text line : String} {keyword : Token} (hk : keyword.kind = .connect)
    {m : Mismatch} (h : (connection.run.run (.ofTokens (tokenize line))).1 = .error m) :
    (afterFirst text).Refuses keyword line := by
  intro read hread
  rw [hk] at hread
  cases hread
  exact ⟨m, _, run_bind_error h⟩

theorem settled_of_findings {p : Place} (h : p.state.findings = []) : p.Settled := by
  unfold Place.Settled
  rw [h]
  exact List.forall_mem_nil _

theorem bad_connection_harmless :
    let before := "#dartwin d \x7b\n#twinsystem s \x7b\nconnect a to b; // name: c\n"
    let behind := "\x7d\n\x7d\n"
    let keyword : Token := ⟨.connect, "connect", .start⟩
    EndsLine before ∧ StatementLine "connect a ;" keyword ∧
      (afterFirst (before ++ behind)).Between before behind ∧
      (afterFirst (before ++ behind)).Settled ∧
      (afterFirst (before ++ behind)).Refuses keyword "connect a ;" ∧
      ∃ m s t later added,
        readText (before ++ behind) = (.ok m, s) ∧
        readText (before ++ "connect a ;" ++ "\n" ++ behind) = (.ok m, t) ∧
        s.diagnostics = (afterFirst (before ++ behind)).state.diagnostics ++ later ∧
        t.diagnostics = (afterFirst (before ++ behind)).state.diagnostics.map
          (Diagnostic.shifted (lineBreaks before)) ++ added ++
            later.map (Diagnostic.shifted (lineBreaks before)) ∧
        if ((afterFirst (before ++ behind)).layer.handle keyword.kind).isSome then
          ∃ d, added = [d] ∧ d.code = .malformed ∧ d.line = some (lineBreaks before + 1)
        else added = [] := by
  intro before behind keyword
  have hbefore : EndsLine before := by constructor <;> decide +kernel
  have hline : StatementLine "connect a ;" keyword :=
    ⟨by decide +kernel, rfl, [⟨.identifier, "a", ⟨1, 9⟩⟩], ⟨.semicolon, ";", ⟨1, 11⟩⟩,
      .endAt ⟨1, 12⟩, by decide +kernel, rfl, by decide⟩
  have hbetween : (afterFirst (before ++ behind)).Between before behind :=
    ⟨OpensSystem.afterFirst_of (by decide +kernel), by decide +kernel⟩
  have hsettled : (afterFirst (before ++ behind)).Settled := settled_of_findings (by decide +kernel)
  have hrefuses : (afterFirst (before ++ behind)).Refuses keyword "connect a ;" :=
    afterFirst_refuses rfl (m := ⟨.kind .towards, ⟨.semicolon, ";", ⟨1, 11⟩⟩⟩) (by decide +kernel)
  exact ⟨hbefore, hline, hbetween, hsettled, hrefuses,
    bad_statement_harmless hbefore hline hbetween hsettled hrefuses⟩

/-- A statement or a block that the text in front breaks off takes the line as its own. -/
theorem broken_off_text_takes_line :
    (let before := "#dartwin d \x7b\n#twinsystem s \x7b\nconnect a to\n"
     let behind := "\x7d\n\x7d\n"
     let keyword : Token := ⟨.port, "port", .start⟩
     EndsLine before ∧ StatementLine "port ;" keyword ∧
       (afterFirst (before ++ behind)).Between before behind ∧
       (afterFirst (before ++ behind)).Refuses keyword "port ;" ∧
       (readText (before ++ "port ;" ++ "\n" ++ behind)).1 ≠ (readText (before ++ behind)).1) ∧
    (let before := "#dartwin d \x7b\n#twinsystem s \x7b\n\x7b\n"
     let keyword : Token := ⟨.connect, "connect", .start⟩
     EndsLine before ∧ StatementLine "connect ;" keyword ∧
       (afterFirst before).Between before "" ∧
       (afterFirst before).Refuses keyword "connect ;" ∧
       ((afterFirst before).layer.handle keyword.kind).isSome ∧
       (readText (before ++ "connect ;" ++ "\n" ++ "")).2.diagnostics.length ≠
         (readText (before ++ "")).2.diagnostics.length + 1) := by
  refine ⟨⟨?_, ?_, ?_, ?_, ?_⟩, ?_, ?_, ?_, ?_, ?_, ?_⟩
  · constructor <;> decide +kernel
  · exact ⟨by decide +kernel, rfl, [], ⟨.semicolon, ";", ⟨1, 6⟩⟩, .endAt ⟨1, 7⟩,
      by decide +kernel, rfl, by decide⟩
  · exact ⟨OpensSystem.afterFirst_of (by decide +kernel), by decide +kernel⟩
  · intro read hread
    cases hread
  · decide +kernel
  · constructor <;> decide +kernel
  · exact ⟨by decide +kernel, rfl, [], ⟨.semicolon, ";", ⟨1, 9⟩⟩, .endAt ⟨1, 10⟩,
      by decide +kernel, rfl, by decide⟩
  · exact ⟨OpensSystem.afterFirst_of (by decide +kernel), by decide +kernel⟩
  · exact afterFirst_refuses rfl (m := ⟨.name, ⟨.semicolon, ";", ⟨1, 9⟩⟩⟩) (by decide +kernel)
  · exact Option.isSome_some
  · decide +kernel

end TwinDiagram.Parser
