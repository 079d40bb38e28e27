import TwinDiagram.Proofs.Parser.Depth
import TwinDiagram.Proofs.Parser.Place
import TwinDiagram.Proofs.Parser.Trailing
import TwinDiagram.Proofs.Token.Comments

namespace TwinDiagram

namespace Token

def fromHeader : List Token → List Token
  | [] => []
  | t :: ts =>
    if t.kind = .root ∧ Parser.IsHeader (statements (t :: ts)) then t :: ts else fromHeader ts

/-- The tokens from the first complete header to the brace that closes its block, or all that
follow if it is not closed. -/
def rootBlock (ts : List Token) : List Token :=
  let us := fromHeader ts
  match closing? 0 us with
  | some n => us.take (n + 1)
  | none => us

theorem kind_of_isHeader {t : Token} {ts : List Token} (h : Parser.IsHeader (t :: ts)) :
    t.kind = .root := by
  match ts, h with
  | _ :: _ :: _, h => exact h.1

/-- No header starts in front of the first one. -/
theorem exists_front (k : Option TokenKind) (ts : List Token) :
    ∃ front, ts = front ++ fromHeader ts ∧
    dropComments k ts = dropComments k front ++ statements (fromHeader ts) ∧
    (∀ i < (dropComments k front).length, ¬ Parser.IsHeader ((dropComments k ts).drop i)) ∧
    (fromHeader ts = [] ∨ Parser.IsHeader (statements (fromHeader ts))) := by
  induction ts generalizing k with
  | nil => exact ⟨[], rfl, rfl, fun i hi ↦ absurd hi (Nat.not_lt_zero i), .inl rfl⟩
  | cons t ts ih =>
    by_cases hhead : t.kind = .root ∧ Parser.IsHeader (statements (t :: ts))
    · have hline : t.kind ≠ .lineComment := by rw [hhead.1]; exact nofun
      have hblock : t.kind ≠ .blockComment := by rw [hhead.1]; exact nofun
      rw [fromHeader, if_pos hhead]
      refine ⟨[], rfl, ?_, fun i hi ↦ absurd hi (Nat.not_lt_zero i), .inr hhead.2⟩
      rw [statements, dropComments_cons hline hblock, dropComments_cons hline hblock]
      rfl
    rw [fromHeader, if_neg hhead]
    by_cases hdrop : t.kind = .lineComment || (t.kind = .blockComment && k != some .doc)
    · obtain ⟨front, hts, hstream, hfirst, hfound⟩ := ih k
      refine ⟨t :: front, congrArg (t :: ·) hts, ?_, ?_, hfound⟩
      · rw [dropComments, if_pos hdrop, dropComments, if_pos hdrop, hstream]
      · rw [dropComments, if_pos hdrop, dropComments, if_pos hdrop]
        exact hfirst
    · obtain ⟨front, hts, hstream, hfirst, hfound⟩ := ih (some t.kind)
      refine ⟨t :: front, congrArg (t :: ·) hts, ?_, ?_, hfound⟩
      · rw [dropComments, if_neg hdrop, dropComments, if_neg hdrop, hstream]
        rfl
      · rw [dropComments, if_neg hdrop, dropComments, if_neg hdrop]
        rintro (_ | i) hi hheader
        · have hroot := kind_of_isHeader hheader
          refine hhead ⟨hroot, ?_⟩
          rw [statements,
            dropComments_cons (by rw [hroot]; exact nofun) (by rw [hroot]; exact nofun)]
          exact hheader
        · exact hfirst i (Nat.lt_of_succ_lt_succ hi) hheader

section Scan

variable {d : Int} {t : Token} (ts : List Token)

theorem closing?_of_open (h : t.kind = .openBrace) :
    closing? d (t :: ts) = (closing? (d + 1) ts).map (· + 1) :=
  Block.closing?_of_open (by simp [h])

theorem closing?_of_close (h : t.kind = .closeBrace) (hd : d ≠ 1) :
    closing? d (t :: ts) = (closing? (d - 1) ts).map (· + 1) :=
  Block.closing?_of_close (by simp [h]) (by simp [h]) hd

theorem closing?_one_of_close (h : t.kind = .closeBrace) : closing? 1 (t :: ts) = some 0 :=
  Block.closing?_one_of_close (by simp [h]) (by simp [h])

theorem closing?_of_neither (hopen : t.kind ≠ .openBrace) (hclose : t.kind ≠ .closeBrace) :
    closing? d (t :: ts) = (closing? d ts).map (· + 1) :=
  Block.closing?_of_neither (by simp [hopen]) (by simp [hclose])

end Scan

/-- Comments are no braces: a block ends at the same token without them. -/
theorem closing?_dropComments (d : Int) (k : Option TokenKind) (ts : List Token) :
    closing? d (dropComments k ts) =
      (closing? d ts).map fun n ↦ (dropComments k (ts.take n)).length := by
  induction ts generalizing d k with
  | nil => rfl
  | cons t ts ih =>
    by_cases hdrop : t.kind = .lineComment || (t.kind = .blockComment && k != some .doc)
    · have hneither : t.kind ≠ .openBrace ∧ t.kind ≠ .closeBrace := by
        rw [Bool.or_eq_true, Bool.and_eq_true, decide_eq_true_eq, decide_eq_true_eq] at hdrop
        rcases hdrop with h | ⟨h, -⟩ <;> rw [h] <;> exact ⟨nofun, nofun⟩
      rw [dropComments, if_pos hdrop, ih, closing?_of_neither ts hneither.1 hneither.2,
        Option.map_map]
      refine Option.map_congr fun n _ ↦ ?_
      rw [Function.comp_apply, List.take_succ_cons, dropComments, if_pos hdrop]
    · have hlength (n : Nat) : (dropComments k ((t :: ts).take (n + 1))).length =
          (dropComments (some t.kind) (ts.take n)).length + 1 := by
        rw [List.take_succ_cons, dropComments, if_neg hdrop, List.length_cons]
      have hstep (e : Int) : (closing? e (dropComments (some t.kind) ts)).map (· + 1) =
          ((closing? e ts).map (· + 1)).map fun n ↦ (dropComments k ((t :: ts).take n)).length := by
        rw [ih, Option.map_map, Option.map_map]
        exact Option.map_congr fun n _ ↦ (hlength n).symm
      rw [dropComments, if_neg hdrop]
      by_cases hopen : t.kind = .openBrace
      · rw [closing?_of_open _ hopen, closing?_of_open _ hopen, hstep]
      by_cases hclose : t.kind = .closeBrace
      · by_cases hd : d = 1
        · subst hd
          rw [closing?_one_of_close _ hclose, closing?_one_of_close _ hclose]
          rfl
        · rw [closing?_of_close _ hclose hd, closing?_of_close _ hclose hd, hstep]
      · rw [closing?_of_neither _ hopen hclose, closing?_of_neither _ hopen hclose, hstep]

end Token

namespace Parser

open State

theorem Finding.Like.eq {f g : Finding} (h : f.Like Eq g) : f = g := by
  cases h with
  | missingRoot => rfl
  | mismatch hab => rw [hab]
  | unclosed hab => rw [hab]
  | neverClosed hab => rw [hab]
  | repeatedSection hab => rw [hab]

theorem findings_eq_of_like {fs gs : List Finding} (h : List.Forall₂ (Finding.Like Eq) fs gs) :
    fs = gs := by
  rw [← List.forall₂_eq_eq_eq]
  exact h.imp fun _ _ ↦ Finding.Like.eq

theorem exists_append_cons_cons {α : Type} {xs : List α} {n : Nat} (h : n + 1 < xs.length) :
    ∃ u x y v, xs = u ++ x :: y :: v ∧ u.length = n := by
  refine ⟨xs.take n, xs[n], xs[n + 1], xs.drop (n + 2), ?_, List.length_take_of_le (by omega)⟩
  rw [List.getElem_cons_drop, List.getElem_cons_drop, List.take_append_drop]

/-- The root block `w` that comes next is closed by `z`, and these comments give the names in it. -/
structure ClosedRoot (w : List Token) (z : Token) (tail comments : List Token)
    (s : State) : Prop where
  endFree : s.EndFree
  events : s.events = []
  header : IsHeader s.rest
  closing : Token.closing? 0 s.rest = some w.length
  rest : s.rest = w ++ z :: tail
  names : ∀ x y, [x, y] <:+: w ++ [z] → trailingName s.comments x y = trailingName comments x y

theorem kind_endAt (p : Position) : (Token.endAt p).kind = .endOfInput := rfl

def marked (ts comments : List Token) : State :=
  ⟨[], ts ++ [⟨.part, "", .start⟩], .endAt .start, comments, [], kind_endAt .start⟩

def aside (s : State) (tail comments : List Token) : Overlap where
  same := Eq
  kind_eq := congrArg _
  value_eq h _ := congrArg _ h
  ends _ _ := True
  tail
  tail' := [⟨.part, "", .start⟩]
  tails := .inr ⟨_, [], rfl, rfl⟩
  same_of_ends := nofun
  before := []
  before' := []
  comments := s.comments
  comments' := comments

namespace ClosedRoot

variable {s r : State} {w tail comments : List Token} {z : Token}

theorem closing_brace (h : ClosedRoot w z tail comments s) :
    (s.forward 2).closing? 0 = some (w.length + s.position) := by
  obtain ⟨hroot, hname, -⟩ := h.header.kinds
  have hplain := TokenKind.isPlain_of_isName hname
  have hfirst : s.advance = s.forward 1 := advance_of_kind hroot (by decide)
  have hsecond : (s.forward 1).advance = s.forward 2 := by
    rw [advance_eq_forward (TokenKind.ne_endOfInput_of_isPlain hplain), ← forward_add]
  rw [← hsecond, closing?_advance_of_plain hplain, ← hfirst,
    closing?_advance_of_plain (by rw [hroot]; rfl), State.closing?, h.closing, Option.map_some]

/-- The loop over the root block stops at the brace that closes it. -/
theorem stops (h : ClosedRoot w z tail comments s) :
    (outline s).2.current.kind = .closeBrace ∧ (outline s).2.rest = z :: tail ∧ 3 ≤ w.length := by
  obtain ⟨-, -, hbrace⟩ := h.header.kinds
  have hadvance : (s.forward 2).advance = s.forward 3 := by
    rw [advance_of_kind hbrace (by decide), ← forward_add]
  have hlevel : Level (s.forward 2).advance (outline s).2 := by
    rw [hadvance]
    exact runStatements_keeps level_motion rootHandler_regular
  have honward : Onward s (outline s).2 :=
    (Onward.forward s 2).trans ((Onward.advance _).trans hlevel.onward)
  obtain ⟨hsome, hclose⟩ := (stop_of_level ((Onward.forward s 2).endFree h.endFree) hbrace hlevel
    (runStatements_closes rootHandler_regular)).resolve_right fun hnone ↦ by
      rw [h.closing_brace] at hnone
      cases hnone.1
  obtain ⟨v, hv, hpassed⟩ := honward.moved
  have hlength : v.length = w.length := by
    rw [h.closing_brace, Option.some_inj] at hsome
    have hposition := congrArg List.length hpassed
    rw [List.length_append, List.length_reverse] at hposition
    simp only [State.position] at hsome
    omega
  have hrest := h.rest
  rw [hrest] at hv
  have hstop := (List.append_inj_right hv hlength.symm).symm
  refine ⟨hclose, hstop, ?_⟩
  have hle := (hadvance ▸ hlevel.onward).length_le
  have hthree := h.header.three_le_length
  rw [hstop, rest_forward, hrest, List.length_drop, List.length_append, List.length_cons] at hle
  rw [hrest, List.length_append, List.length_cons] at hthree
  omega

theorem beside_marked (h : ClosedRoot w z tail comments s) :
    (aside s tail comments).Beside s (marked (w ++ [z]) comments) where
  rest := ⟨w ++ [z], w ++ [z], h.rest.trans (List.append_cons w z tail), rfl,
    List.forall₂_same.mpr fun _ _ ↦ rfl⟩
  last := trivial
  comments := ⟨rfl, rfl⟩
  names n hn hsemicolon := by
    have hrest := h.rest
    obtain ⟨hclose, hstop, -⟩ := h.stops
    rw [current_of_rest hstop] at hclose
    have hlength := congrArg List.length hrest
    change tail.length + n < s.rest.length at hn
    rw [List.length_append, List.length_cons] at hlength
    have hne : n ≠ w.length := by
      rintro rfl
      rw [current_forward_append hrest, List.headD_cons, hclose] at hsemicolon
      cases hsemicolon
    have hn : n + 1 < (w ++ [z]).length := by
      rw [List.length_append, List.length_singleton]
      omega
    obtain ⟨u, x, y, v, hsplit, rfl⟩ := exists_append_cons_cons hn
    have hs : s.rest ++ [s.last] = u ++ x :: y :: (v ++ tail ++ [s.last]) := by
      rw [hrest, List.append_cons w, hsplit]
      simp
    have ht : (marked (w ++ [z]) comments).rest ++ [(marked (w ++ [z]) comments).last] =
        u ++ x :: y :: (v ++ [⟨.part, "", .start⟩, .endAt .start]) := by
      simp [marked, hsplit]
    rw [(current_forward_pair hs).1, (current_forward_pair hs).2, (current_forward_pair ht).1,
      (current_forward_pair ht).2]
    exact h.names x y ⟨u, v, by simp [hsplit]⟩
  notes _ _ _ := Overlap.sameNotes_of_value (congrArg _) _
  findings := ⟨[], [], by rw [State.findings, h.events]; rfl, rfl, .nil⟩

/-- What is read of a closed root block does not depend on what follows it. -/
theorem outline_eq (h : ClosedRoot w z tail comments s) :
    (outline s).1 = (outline (marked (w ++ [z]) comments)).1 ∧
      (outline s).2.findings = (outline (marked (w ++ [z]) comments)).2.findings := by
  obtain ⟨-, hstop, hthree⟩ := h.stops
  have hlength : (aside s tail comments).tail.length + 3 ≤ s.rest.length := by
    show tail.length + 3 ≤ s.rest.length
    rw [h.rest, List.length_append, List.length_cons]
    omega
  have htogether : (aside s tail comments).Together (outline s)
      (outline (marked (w ++ [z]) comments)) :=
    Overlap.rootHandler_reads.runStatements (h.beside_marked.forward hlength)
  obtain ⟨hfound, hafter⟩ := htogether.resolve_right fun hreached ↦ by
    have hle := hreached.2
    change (outline s).2.rest.length ≤ tail.length at hle
    rw [hstop, List.length_cons] at hle
    omega
  refine ⟨hfound, ?_⟩
  obtain ⟨fs, gs, hfs, hgs, hlike⟩ := hafter.findings
  have hfs : (outline s).2.findings = fs := hfs
  have hgs : (outline (marked (w ++ [z]) comments)).2.findings = gs := hgs
  rw [hfs, hgs, findings_eq_of_like hlike]

/-- The document is read from its root block, and the brace at the end adds no finding. -/
theorem run_document (h : ClosedRoot w z tail comments r) (hs : s.rewind.header? = some r) :
    ∃ u, document.run.run s = (.ok ((outline (marked (w ++ [z]) comments)).1.model
        ((marked (w ++ [z]) comments).forward 1).current.value), u) ∧
      u.findings = (outline (marked (w ++ [z]) comments)).2.findings := by
  obtain ⟨hclose, -, hthree⟩ := h.stops
  obtain ⟨hfound, hfindings⟩ := h.outline_eq
  have hname : (r.forward 1).current = ((marked (w ++ [z]) comments).forward 1).current := by
    have hrest := h.rest
    match w, hthree with
    | x :: y :: w, _ =>
      rw [State.current, rest_forward, hrest]
      rfl
  rw [Parser.run_document, hs, ← hfound, ← hname, ← hfindings]
  refine ⟨_, rfl, ?_⟩
  rw [Overlap.findings_log, State.close, if_pos hclose, State.findings, events_advance]
  exact List.append_nil _

end ClosedRoot

/-- Of all these tokens, the parser starts with `us`: there the first complete header stands. -/
structure StartsWithRoot (front us : List Token) (p : Position) (r : State) : Prop where
  header : IsHeader (Token.statements us)
  found : (ofTokens (front ++ us ++ [.endAt p])).header? = some r
  rest : r.rest = Token.statements us
  last : r.last = .endAt p
  comments : r.comments = Token.lineComments (front ++ us ++ [.endAt p])
  events : r.events = []

/-- The parser starts at the first complete header, wherever it stands in the text. -/
theorem header?_ofTokens (ts : List Token) (p : Position) :
    (Token.fromHeader (ts ++ [.endAt p]) = [] ∧ (ofTokens (ts ++ [.endAt p])).header? = none) ∨
    ∃ front us r, ts = front ++ us ∧ Token.fromHeader (ts ++ [.endAt p]) = us ++ [.endAt p] ∧
      StartsWithRoot front us p r := by
  obtain ⟨front, hts, hstream, hfirst, hfound⟩ := Token.exists_front none (ts ++ [.endAt p])
  obtain ⟨hrest, hlast⟩ := ofTokens_concat ts p
  have hdrop (i : Nat) : IsHeader ((Token.dropComments none (ts ++ [.endAt p])).drop i) ↔
      IsHeader ((ofTokens (ts ++ [.endAt p])).rest.drop i) := by
    rw [Token.dropComments_concat, isHeader_drop_concat rfl, hrest]
    rfl
  simp only [hdrop] at hfirst
  rcases hfound with hnil | hhead
  · refine .inl ⟨hnil, Option.eq_none_iff_forall_ne_some.mpr fun r hr ↦ ?_⟩
    obtain ⟨i, -, hheader, -⟩ := header?_eq_some_iff.mp hr
    refine hfirst i ?_ hheader
    have hthree := hheader.three_le_length
    have hlength := congrArg List.length hstream
    rw [hnil, Token.dropComments_concat] at hlength
    simp only [List.length_append, Token.statements, Token.dropComments, List.length_nil,
      List.length_singleton] at hlength
    rw [List.length_drop, hrest, Token.statements] at hthree
    omega
  · right
    obtain ⟨us, e, hus⟩ : ∃ us e, Token.fromHeader (ts ++ [.endAt p]) = us ++ [e] := by
      rcases List.eq_nil_or_concat (Token.fromHeader (ts ++ [.endAt p])) with hnil | ⟨us, e, hus⟩
      · rw [hnil] at hhead
        cases hhead
      · exact ⟨us, e, by rw [hus, List.concat_eq_append]⟩
    rw [hus] at hts hstream hhead ⊢
    rw [← List.append_assoc] at hts
    obtain ⟨rfl, he⟩ := List.append_inj' hts rfl
    obtain rfl : e = .endAt p := (List.singleton_inj.mp he).symm
    have hhead : IsHeader (Token.statements us) := by
      rw [Token.statements, Token.dropComments_concat] at hhead
      exact (isHeader_concat rfl).mp hhead
    have hrest' : (ofTokens (front ++ us ++ [.endAt p])).rest =
        Token.dropComments none front ++ Token.statements us := by
      rw [Token.statements, Token.dropComments_concat, Token.dropComments_concat,
        ← List.append_assoc] at hstream
      rw [hrest]
      exact (List.append_inj' hstream rfl).1
    refine ⟨front, us, (ofTokens (front ++ us ++ [Token.endAt p])).forward
      (Token.dropComments none front).length, rfl, rfl, hhead,
      header?_eq_some_iff.mpr ⟨_, rfl, ?_, hfirst⟩, ?_, hlast, comments_ofTokens _,
      events_ofTokens _⟩
    · rw [hrest', List.drop_left]
      exact hhead
    · rw [rest_forward, hrest', List.drop_left]

section

variable {front us : List Token} {p : Position} {r : State}

theorem StartsWithRoot.endFree (h : StartsWithRoot front us p r)
    (hend : ∀ t ∈ us, t.kind ≠ .endOfInput) :
    r.EndFree := by
  intro t ht
  rw [h.rest] at ht
  exact hend t ((Token.dropComments_sublist none _).subset ht)

variable {b behind : List Token} {z : Token}

theorem statements_append_close (hz : z.kind = .closeBrace) (b behind : List Token) :
    Token.statements (b ++ z :: behind) =
      Token.statements b ++ z :: Token.dropComments (some .closeBrace) behind := by
  rw [← hz]
  exact Token.dropComments_append_cons (by rw [hz]; exact nofun)
    (by rw [hz]; exact nofun) none b behind

theorem closing?_statements (h : Token.closing? 0 (b ++ behind) = some b.length) :
    Token.closing? 0 (Token.statements (b ++ behind)) = some (Token.statements b).length := by
  rw [Token.statements, Token.closing?_dropComments, h, Option.map_some, List.take_left]
  rfl

/-- In a text, only the comments of the root block give names there. -/
theorem StartsWithRoot.closedRoot (h : StartsWithRoot front (b ++ z :: behind) p r)
    (hprecedes : (front ++ (b ++ z :: behind) ++ [Token.endAt p]).Pairwise Token.Precedes)
    (hend : ∀ t ∈ b ++ z :: behind, t.kind ≠ .endOfInput) (hz : z.kind = .closeBrace)
    (hclosing : Token.closing? 0 (b ++ z :: behind) = some b.length) :
    ClosedRoot (Token.statements b) z (Token.dropComments (some .closeBrace) behind)
      (Token.lineComments (b ++ [z])) r where
  endFree := h.endFree hend
  events := h.events
  header := h.rest ▸ h.header
  closing := by rw [h.rest, closing?_statements hclosing]
  rest := by rw [h.rest, statements_append_close hz]
  names x y hxy := by
    have hkept : Token.statements (b ++ [z]) = Token.statements b ++ [z] :=
      statements_append_close hz b []
    have hsub : [x, y].Sublist (b ++ [z]) :=
      (hkept ▸ hxy).sublist.trans (Token.dropComments_sublist none _)
    have hx : x ∈ b ++ [z] := hsub.subset (.head _)
    have htokens : front ++ (b ++ z :: behind) ++ [Token.endAt p] =
        front ++ ((b ++ [z]) ++ (behind ++ [Token.endAt p])) := by simp
    rw [htokens] at hprecedes
    rw [h.comments, htokens, trailingName_behind hprecedes (List.mem_append_left _ hx) (hend x ?_),
      trailingName_append (List.pairwise_append.mp hprecedes).2.1 hsub]
    rw [List.append_cons]
    exact List.mem_append_left _ hx

/-- A root block with nothing in front of it and behind it. -/
theorem closedRoot_alone (hend : ∀ t ∈ b ++ [z], t.kind ≠ .endOfInput) (hz : z.kind = .closeBrace)
    (hhead : IsHeader (Token.statements (b ++ [z])))
    (hclosing : Token.closing? 0 (b ++ [z]) = some b.length) :
    ClosedRoot (Token.statements b) z [] (Token.lineComments (b ++ [z])) (ofTokens (b ++ [z])) := by
  obtain ⟨hrest, -⟩ := ofTokens_endFree hend
  exact
    { endFree := fun t ht ↦ by
        rw [hrest] at ht
        exact hend t ((Token.dropComments_sublist none _).subset ht)
      events := events_ofTokens _
      header := hrest ▸ hhead
      closing := by rw [hrest, closing?_statements hclosing]
      rest := by
        rw [hrest, statements_append_close hz]
        rfl
      names := fun x y _ ↦ by rw [comments_ofTokens] }

/-- Behind the brace that closes the root block nothing counts, nor does what is in front of it. -/
theorem document_of_closed (hprecedes : (front ++ us ++ [Token.endAt p]).Pairwise Token.Precedes)
    (hend : ∀ t ∈ us, t.kind ≠ .endOfInput) (h : StartsWithRoot front us p r)
    {n : Nat} (hclosing : Token.closing? 0 us = some n) :
    ∃ m s t, document.run.run (ofTokens (front ++ us ++ [.endAt p])) = (.ok m, s) ∧
      document.run.run (ofTokens (us.take (n + 1))) = (.ok m, t) ∧ t.findings = s.findings := by
  obtain ⟨b, z, behind, rfl, rfl, hz⟩ := Block.exists_append_of_closing? hclosing
  have hz : z.kind = .closeBrace := by simpa using hz
  have hroot := h.closedRoot hprecedes hend hz hclosing
  obtain ⟨-, -, hthree⟩ := hroot.stops
  have hsplit := List.append_cons b z behind
  rw [hsplit] at hend hclosing ⊢
  have hlength : (b ++ [z]).length = b.length + 1 := by
    rw [List.length_append, List.length_singleton]
  have hpart : Token.closing? 0 (b ++ [z]) = some b.length :=
    Block.closing?_of_append hclosing (hlength ▸ Nat.lt_succ_self _)
  have hend' : ∀ t ∈ b ++ [z], t.kind ≠ .endOfInput := fun t ht ↦ hend t (List.mem_append_left _ ht)
  have hhead : IsHeader (Token.statements (b ++ [z])) := by
    refine .of_longer (Token.dropComments_prefix none (List.prefix_append _ behind))
      (hsplit ▸ h.header) ?_
    rw [statements_append_close hz, List.length_append]
    omega
  have halone := closedRoot_alone hend' hz hhead hpart
  have hfound := h.found
  rw [hsplit] at hfound
  obtain ⟨s, hs, hfindings⟩ := hroot.run_document
    (s := ofTokens (front ++ (b ++ [z] ++ behind) ++ [.endAt p]))
    (by rwa [rewind_of_passed (passed_ofTokens _)])
  obtain ⟨t, ht, hfindings'⟩ := halone.run_document (s := ofTokens (b ++ [z]))
    (by rw [rewind_of_passed (passed_ofTokens _), header?_of_isHeader halone.header])
  rw [List.take_left' hlength]
  exact ⟨_, s, t, hs, ht, hfindings'.trans hfindings.symm⟩

/-- A root block that is not closed goes on to the end, and what is in front of it does not
count. -/
theorem document_of_open (hprecedes : (front ++ us ++ [Token.endAt p]).Pairwise Token.Precedes)
    (h : StartsWithRoot front us p r) :
    ∃ m s t, document.run.run (ofTokens (front ++ us ++ [.endAt p])) = (.ok m, s) ∧
      document.run.run (ofTokens (us ++ [.endAt p])) = (.ok m, t) ∧ t.findings = s.findings := by
  obtain ⟨hhead, hr, hrest, hlast, hcomments, hevents⟩ := h
  obtain ⟨hrest', hlast'⟩ := ofTokens_concat us p
  let c : Overlap := .whole (congrArg _) (fun h _ ↦ congrArg _ h) r.comments
    (ofTokens (us ++ [.endAt p])).comments
  have hsee (n : Nat) :
      (r.forward n).current = ((ofTokens (us ++ [.endAt p])).forward n).current := by
    rw [State.current, State.current, rest_forward, rest_forward, hrest, hrest']
    exact congrArg _ (hlast.trans hlast'.symm)
  have hbeside : (c.past [] []).Beside r (ofTokens (us ++ [.endAt p])) :=
    { rest := ⟨Token.statements us, Token.statements us, hrest.trans (List.append_nil _).symm,
        hrest'.trans (List.append_nil _).symm, List.forall₂_same.mpr fun _ _ ↦ rfl⟩
      last := hlast.trans hlast'.symm
      comments := ⟨rfl, rfl⟩
      names := fun n _ hsemicolon ↦ by
        have hx : (r.forward n).current.kind ≠ .endOfInput := fun hend ↦ by
          cases hsemicolon.symm.trans hend
        obtain ⟨xs, hxs⟩ := rest_eq_cons hx
        have hmem : (r.forward n).current ∈ us := by
          refine (Token.dropComments_sublist none us).subset ?_
          change (r.forward n).current ∈ Token.statements us
          rw [← hrest]
          refine List.mem_of_mem_drop (i := n) ?_
          rw [← rest_forward, hxs]
          exact .head _
        rw [List.append_assoc] at hprecedes hcomments
        rw [← hsee, ← hsee, hcomments, comments_ofTokens,
          trailingName_behind hprecedes (List.mem_append_left _ hmem) hx]
      notes := fun _ _ _ ↦ Overlap.sameNotes_of_value (congrArg _) _
      findings := ⟨[], [], by rw [State.findings, hevents]; rfl,
        by rw [State.findings, events_ofTokens]; rfl, .nil⟩ }
  have hfound : (ofTokens (front ++ us ++ [.endAt p])).rewind.header? = some r := by
    rwa [rewind_of_passed (passed_ofTokens _)]
  have hfound' : (ofTokens (us ++ [.endAt p])).rewind.header? =
      some (ofTokens (us ++ [.endAt p])) := by
    rw [rewind_of_passed (passed_ofTokens _), header?_of_isHeader (hrest' ▸ hhead)]
  obtain ⟨m, s, t, fs, gs, hs, ht, hfs, hgs, hlike⟩ :=
    Overlap.document_of_headers hfound hfound' hbeside
  exact ⟨m, s, t, hs, ht, by rw [hfs, hgs, findings_eq_of_like hlike]⟩

end

/-- Whatever stands in front of the root block and behind it, the text is read as the block
alone. -/
theorem root_block_decides (text : String) :
    ∃ m s t, readText text = (.ok m, s) ∧
      document.run.run (.ofTokens (Token.rootBlock (tokenize text))) = (.ok m, t) ∧
      t.diagnostics = s.diagnostics := by
  obtain ⟨ts, p, htokens, hend⟩ := tokenize_eq text
  have hprecedes : (tokenize text).Pairwise Token.Precedes := Cursor.pairwise_tokens _
  suffices h : ∃ m s t, document.run.run (ofTokens (tokenize text)) = (.ok m, s) ∧
      document.run.run (ofTokens (Token.rootBlock (tokenize text))) = (.ok m, t) ∧
      t.findings = s.findings by
    obtain ⟨m, s, t, hs, ht, hfindings⟩ := h
    exact ⟨m, s, t, hs, ht, congrArg (List.map Finding.diagnostic) hfindings⟩
  rw [htokens] at hprecedes ⊢
  rcases header?_ofTokens ts p with ⟨hnil, hnone⟩ | ⟨front, us, r, rfl, hus, hstart⟩
  · have hblock : Token.rootBlock (ts ++ [.endAt p]) = [] := by
      rw [Token.rootBlock, hnil]
      rfl
    have hreport (ts : List Token) :
        ((ofTokens ts).report .missingRoot).findings = [.missingRoot] := by
      rw [State.report, Overlap.findings_log, State.findings, events_ofTokens]
      rfl
    rw [hblock, run_document, run_document, rewind_of_passed (passed_ofTokens _), hnone]
    exact ⟨_, _, _, rfl, rfl, (hreport []).trans (hreport _).symm⟩
  · have hend : ∀ t ∈ us, t.kind ≠ .endOfInput := fun t ht ↦ hend t (List.mem_append_right _ ht)
    have hscan : Token.closing? 0 (us ++ [.endAt p]) = Token.closing? 0 us :=
      Block.closing?_concat rfl rfl
    rw [Token.rootBlock, hus]
    simp only [hscan]
    cases hclosing : Token.closing? 0 us with
    | none => exact document_of_open hprecedes hstart
    | some n =>
      simp only
      have hlt := Block.lt_of_closing? hclosing
      rw [List.take_append_of_le_length hlt]
      exact document_of_closed hprecedes hend hstart hclosing

/-- The incomplete header in front and the stray brace behind are left out. -/
example :
    (Token.rootBlock (tokenize "#dartwin #dartwin d /* c */ \x7b \x7d \x7d part")).map Token.kind =
      [.root, .identifier, .blockComment, .openBrace, .closeBrace] := by
  decide +kernel

end Parser

end TwinDiagram
