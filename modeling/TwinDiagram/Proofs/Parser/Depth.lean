import TwinDiagram.Proofs.Block
import TwinDiagram.Proofs.Parser.Header
import TwinDiagram.Proofs.Parser.Stream

namespace TwinDiagram

abbrev Token.closing? (depth : Int) (ts : List Token) : Option Nat :=
  Block.closing? (·.kind == .openBrace) (·.kind == .closeBrace) depth ts

namespace Parser

open Program

namespace State

/-- The tokens passed and to come, with the end token. -/
def tokens (s : State) : List Token := s.passed.reverse ++ s.rest ++ [s.last]

/-- The place of the brace that closes the blocks open at `depth`. -/
def closing? (depth : Int) (s : State) : Option Nat :=
  (Token.closing? depth s.rest).map (· + s.position)

def EndFree (s : State) : Prop := ∀ x ∈ s.rest, x.kind ≠ .endOfInput

variable {s t : State} {d : Int}

theorem Onward.endFree (h : Onward s t) (hs : s.EndFree) : t.EndFree :=
  fun x hx ↦ hs x (h.rest_suffix.subset hx)

theorem Onward.tokens_eq (h : Onward s t) : t.tokens = s.tokens := by
  obtain ⟨w, hw, hp⟩ := h.moved
  simp [tokens, hw, hp, h.last]

theorem getLast?_tokens (s : State) : s.tokens.getLast? = some s.last := by
  simp [tokens]

theorem length_tokens (s : State) : s.tokens.length = s.position + s.rest.length + 1 := by
  simp [tokens, position, Nat.add_assoc]

theorem getElem?_tokens (s : State) : s.tokens[s.position]? = some s.current := by
  rw [tokens, List.append_assoc, List.getElem?_append_right (by simp [position])]
  cases hr : s.rest <;> simp [position, current, hr]

theorem tokens_ofTokens_eq_or (ts : List Token) : (ofTokens ts).tokens = Token.statements ts ∨
    ∃ p, (ofTokens ts).tokens = Token.statements ts ++ [.endAt p] := by
  simp only [ofTokens]
  split
  · next hnone =>
    rw [List.getLast?_eq_none_iff.mp hnone]
    exact .inr ⟨.start, rfl⟩
  · next t ht =>
    split
    · exact .inl (List.dropLast_append_getLast? t ht)
    · exact .inr ⟨⟨t.line, 1⟩, rfl⟩

theorem position_advance (hs : s.current.kind ≠ .endOfInput) :
    s.advance.position = s.position + 1 := by
  obtain ⟨xs, hxs⟩ := rest_eq_cons hs
  simp [advance_eq_forward hs, position, forward, hxs]

theorem events_advance (s : State) : s.advance.events = s.events := by
  unfold advance
  split <;> rfl

theorem closeBrace_or_nil (hs : s.EndFree) (hclose : s.current.kind.closesBlock) :
    s.current.kind = .closeBrace ∨ s.rest = [] := by
  cases hr : s.rest with
  | nil => exact .inr rfl
  | cons x xs =>
    rw [current_of_rest hr] at hclose ⊢
    have hx := hs x (hr ▸ .head _)
    simpa [TokenKind.closesBlock, hx] using hclose

section Scan

private theorem map_closing? {e : Int} {x : Token} {xs : List Token} (hr : s.rest = x :: xs)
    (hx : x.kind ≠ .endOfInput)
    (h : Token.closing? d s.rest = (Token.closing? e xs).map (· + 1)) :
    s.advance.closing? e = s.closing? d := by
  rw [closing?, closing?, State.rest_advance hr hx, h,
    position_advance (by rwa [current_of_rest hr])]
  cases Token.closing? e xs with
  | none => rfl
  | some n => simp only [Option.map_some, Option.some_inj]; omega

theorem closing?_advance_of_plain (h : s.current.kind.isPlain) :
    s.advance.closing? d = s.closing? d := by
  have hend := TokenKind.ne_endOfInput_of_isPlain h
  obtain ⟨xs, hxs⟩ := rest_eq_cons hend
  simp only [TokenKind.isPlain, TokenKind.closesBlock, Bool.not_eq_true', Bool.or_eq_false_iff] at h
  exact map_closing? hxs hend (hxs ▸ Block.closing?_of_neither h.1 h.2.1)

theorem closing?_advance_of_open (h : s.current.kind = .openBrace) :
    s.advance.closing? (d + 1) = s.closing? d := by
  have hend : s.current.kind ≠ .endOfInput := by rw [h]; exact nofun
  obtain ⟨xs, hxs⟩ := rest_eq_cons hend
  exact map_closing? hxs hend (hxs ▸ Block.closing?_of_open (by simp [h]))

theorem closing?_advance_of_close (h : s.current.kind = .closeBrace) (hd : 1 ≤ d) :
    s.advance.closing? d = s.closing? (d + 1) := by
  have hend : s.current.kind ≠ .endOfInput := by rw [h]; exact nofun
  obtain ⟨xs, hxs⟩ := rest_eq_cons hend
  have hstep : Token.closing? (d + 1) (s.current :: xs) =
      (Token.closing? (d + 1 - 1) xs).map (· + 1) :=
    Block.closing?_of_close (by simp [h]) (by simp [h]) (by omega)
  rw [Int.add_sub_cancel] at hstep
  exact map_closing? hxs hend (hxs ▸ hstep)

theorem closing?_one_of_close (h : s.current.kind = .closeBrace) :
    s.closing? 1 = some s.position := by
  obtain ⟨xs, hxs⟩ := rest_eq_cons (s := s) (by rw [h]; exact nofun)
  have hzero : Token.closing? 1 (s.current :: xs) = some 0 :=
    Block.closing?_one_of_close (by simp [h]) (by simp [h])
  rw [closing?, hxs, hzero, Option.map_some, Nat.zero_add]

theorem closing?_of_nil (h : s.rest = []) : s.closing? d = none := by
  simp [closing?, h, Block.closing?]

theorem position_le_of_closing? {n : Nat} (h : s.closing? d = some n) : s.position ≤ n := by
  obtain ⟨m, -, rfl⟩ := Option.map_eq_some_iff.mp h
  exact Nat.le_add_left ..

/-- A block is passed as a whole if its end is found, and there is no end around it otherwise. -/
theorem skipBlock_spec (h : s.current.kind = .openBrace) (hd : 1 ≤ d) :
    s.skipBlock.closing? d = s.closing? d ∧
      ((s.closing? d).isSome → s.skipBlock.events = s.events) := by
  obtain ⟨xs, hxs⟩ := rest_eq_cons (s := s) (by rw [h]; exact nofun)
  have hopen {e : Int} :
      Token.closing? e (s.current :: xs) = (Token.closing? (e + 1) xs).map (· + 1) :=
    Block.closing?_of_open (by simp [h])
  -- The search for the end of an outer block passes through the end of this one.
  have hadd : Token.closing? (d + 1) xs = (Token.closing? 1 xs).bind fun n ↦
      (Token.closing? d (xs.drop (n + 1))).map (· + (n + 1)) := by
    rw [Int.add_comm]
    exact Block.closing?_add (Int.le_refl 1) hd
  have hscan : s.closing? d = (Token.closing? (d + 1) xs).map (· + (s.position + 1)) := by
    rw [closing?, hxs, hopen, Option.map_map]
    exact Option.map_congr fun n _ ↦ by simp only [Function.comp]; omega
  rw [hscan, hadd]
  unfold skipBlock
  rw [hxs, show Block.closing? _ _ 0 (s.current :: xs) = _ from hopen, Int.zero_add]
  cases hn : Token.closing? 1 xs with
  | none => exact ⟨closing?_of_nil (by simp [rest_forward, report, log, hxs]), nofun⟩
  | some n =>
    refine ⟨?_, fun _ ↦ rfl⟩
    have hlen := Block.lt_of_closing? hn
    have hposition : (s.forward (n + 1 + 1)).position = s.position + (n + 2) :=
      position_forward (by rw [hxs, List.length_cons]; omega)
    simp only [Option.map_some, closing?, hposition, rest_forward, hxs, List.drop_succ_cons,
      Option.bind_some, Option.map_map]
    exact Option.map_congr fun m _ ↦ by simp only [Function.comp]; omega

end Scan

/-- The blocks open before are the blocks open after; and as long as one of them has an end, none
is found open. -/
structure Level (s t : State) : Prop where
  onward : Onward s t
  closing : s.EndFree → ∀ {d}, 1 ≤ d → t.closing? d = s.closing? d
  quiet : s.EndFree → ∀ {d}, 1 ≤ d → (s.closing? d).isSome →
    t.events.filter Event.tellsOpen = s.events.filter Event.tellsOpen

theorem Level.trans {u : State} (h : Level s t) (h' : Level t u) : Level s u where
  onward := h.onward.trans h'.onward
  closing hs _ hd := (h'.closing (h.onward.endFree hs) hd).trans (h.closing hs hd)
  quiet hs _ hd hsome :=
    (h'.quiet (h.onward.endFree hs) hd (h.closing hs hd ▸ hsome)).trans (h.quiet hs hd hsome)

/-- Behind a block the level is that in front of it. -/
theorem Level.enclosed {owner : String} (h : s.current.kind = .openBrace) (h' : Level s.advance t)
    (hclose : t.current.kind.closesBlock) : Level s (t.close owner s.current) := by
  have honward : Onward s s.advance := .advance s
  have hdeep (hs : s.EndFree) {d : Int} (hd : 1 ≤ d) : t.closing? (d + 1) = s.closing? d :=
    (h'.closing (honward.endFree hs) (by omega)).trans (closing?_advance_of_open h)
  have hend (hs : s.EndFree) := closeBrace_or_nil ((honward.trans h'.onward).endFree hs) hclose
  refine ⟨honward.trans (h'.onward.trans (.close t _ _)), fun hs d hd ↦ ?_, fun hs d hd hsome ↦ ?_⟩
  · rw [← hdeep hs hd, close]
    rcases hend hs with hbrace | hnil
    · rw [if_pos hbrace, closing?_advance_of_close hbrace hd]
    · rw [if_neg (by rw [current_of_nil hnil, t.last_kind]; decide), closing?_of_nil hnil,
        closing?_of_nil (by simpa [report, log] using hnil)]
  · have hquiet := h'.quiet (honward.endFree hs) (d := d + 1) (by omega)
      (by rwa [closing?_advance_of_open h])
    rcases hend hs with hbrace | hnil
    · rw [close, if_pos hbrace, events_advance, hquiet, events_advance]
    · rw [← hdeep hs hd, closing?_of_nil hnil] at hsome
      cases hsome

theorem level_motion : Motion Level where
  refl s := ⟨.refl s, fun _ _ _ ↦ rfl, fun _ _ _ _ ↦ rfl⟩
  trans := .trans
  onward := Level.onward
  pass h := ⟨.advance _, fun _ _ _ ↦ closing?_advance_of_plain h,
    fun _ _ _ _ ↦ by rw [events_advance]⟩
  log {s e} he := ⟨.log s e, fun _ _ _ ↦ rfl, fun _ _ _ _ ↦ List.filter_cons_of_neg (by simp [he])⟩
  skip {s} h := ⟨.skipBlock s, fun _ _ hd ↦ (skipBlock_spec h hd).1,
    fun _ _ hd hsome ↦ congrArg _ ((skipBlock_spec h hd).2 hsome)⟩
  enclosed := .enclosed

/-- Inside a block its end stays the same. -/
theorem closing?_goalStep (doc : Option String) (h : ¬ s.current.kind.closesBlock) :
    (goalStep doc s).2.closing? 1 = s.closing? 1 := by
  rw [goalStep_eq]
  split
  · next hopen => exact (skipBlock_spec hopen (Int.le_refl 1)).1
  next hopen =>
  have hplain : s.current.kind.isPlain := by simp [TokenKind.isPlain, hopen, h]
  have hpass := closing?_advance_of_plain (d := 1) hplain
  rw [advance_eq_forward (TokenKind.ne_endOfInput_of_isPlain hplain)] at hpass
  split
  · next hdoc =>
    have hcomment : (s.forward 1).current.kind = .blockComment := kind_of_docAhead hdoc
    have hplain' : (s.forward 1).current.kind.isPlain := hcomment ▸ rfl
    rw [← hpass, ← closing?_advance_of_plain hplain', advance_of_kind hcomment (by decide),
      ← forward_add]
  · exact hpass

theorem stop_of_level (hs : s.EndFree) (h : s.current.kind = .openBrace) (hl : Level s.advance t)
    (hclose : t.current.kind.closesBlock) :
    (s.closing? 0 = some t.position ∧ t.current.kind = .closeBrace) ∨
      (s.closing? 0 = none ∧ t.rest = []) := by
  have honward := (Onward.advance s).trans hl.onward
  have hclosing : t.closing? 1 = s.closing? 0 :=
    (hl.closing ((Onward.advance s).endFree hs) (Int.le_refl 1)).trans
      (closing?_advance_of_open (d := 0) h)
  rcases closeBrace_or_nil (honward.endFree hs) hclose with hbrace | hnil
  · exact .inl ⟨by rw [← hclosing, closing?_one_of_close hbrace], hbrace⟩
  · exact .inr ⟨by rw [← hclosing, closing?_of_nil hnil], hnil⟩

theorem extract_tokens (s : State) :
    let e := Block.extract (·.kind == .openBrace) (·.kind == .closeBrace) s.tokens s.position
    e.stop = (s.closing? 0).getD s.tokens.length ∧ e.closed = (s.closing? 0).isSome := by
  have hdrop : s.tokens.drop s.position = s.rest ++ [s.last] := by
    rw [tokens, List.append_assoc]
    exact List.drop_left' (List.length_reverse ..)
  have hscan : Token.closing? 0 (s.rest ++ [s.last]) = Token.closing? 0 s.rest :=
    Block.closing?_concat (by simp [s.last_kind]) (by simp [s.last_kind])
  have h := @Block.extract_natCast Token (·.kind == .openBrace) (·.kind == .closeBrace) s.tokens
    s.position
  rw [hdrop, show Block.closing? _ _ 0 (s.rest ++ [s.last]) = _ from hscan] at h
  exact ⟨h.1, by rw [h.2, closing?, Option.isSome_map]⟩

theorem EndFree.of_tokens {xs : List Token} {x : Token} (h : s.tokens = xs ++ [x])
    (hxs : ∀ x ∈ xs, x.kind ≠ .endOfInput) : s.EndFree := by
  have heq : s.passed.reverse ++ s.rest = xs := (List.append_inj' h rfl).1
  exact fun x hx ↦ hxs x (heq ▸ List.mem_append_right _ hx)

end State

end Parser

end TwinDiagram
