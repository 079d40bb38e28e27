import TwinDiagram.Proofs.Parser.Run

namespace TwinDiagram

def TokenKind.isPlain (k : TokenKind) : Bool := !(k == .openBrace || k.closesBlock)

theorem TokenKind.isPlain_of_isName {k : TokenKind} (h : k.isName) : k.isPlain := by
  revert h
  cases k <;> decide

theorem TokenKind.not_closes_of_isPlain {k : TokenKind} (h : k.isPlain) :
    k.closesBlock = false := by
  simp only [isPlain, Bool.not_eq_true', Bool.or_eq_false_iff] at h
  exact h.2

theorem TokenKind.ne_endOfInput_of_isPlain {k : TokenKind} (h : k.isPlain) : k ≠ .endOfInput := by
  rintro rfl
  cases h

end TwinDiagram

namespace TwinDiagram.Parser

open Program

namespace State

variable {s t u : State}

theorem advance_eq_forward (h : s.current.kind ≠ .endOfInput) : s.advance = s.forward 1 := if_neg h

theorem advance_of_kind {k : TokenKind} (h : s.current.kind = k) (hk : k ≠ .endOfInput) :
    s.advance = s.forward 1 := advance_eq_forward (h ▸ hk)

theorem rest_advance {x : Token} {xs : List Token} (h : s.rest = x :: xs)
    (hx : x.kind ≠ .endOfInput) : s.advance.rest = xs := by
  rw [advance_eq_forward (by rwa [current_of_rest h]), rest_forward, h]
  rfl

theorem position_forward {n : Nat} (hn : n ≤ s.rest.length) :
    (s.forward n).position = s.position + n := by
  simp only [position, forward, List.length_append, List.length_reverse, List.length_take_of_le hn]
  omega

structure Onward (s t : State) : Prop where
  moved : ∃ w, s.rest = w ++ t.rest ∧ t.passed = w.reverse ++ s.passed
  last : t.last = s.last
  comments : t.comments = s.comments
  events : s.events <:+ t.events

namespace Onward

theorem refl (s : State) : Onward s s := ⟨⟨[], rfl, rfl⟩, rfl, rfl, List.suffix_refl _⟩

theorem trans (h : Onward s t) (h' : Onward t u) : Onward s u := by
  obtain ⟨w, hw, hp⟩ := h.moved
  obtain ⟨v, hv, hq⟩ := h'.moved
  refine ⟨⟨w ++ v, ?_, ?_⟩, h'.last.trans h.last, h'.comments.trans h.comments,
    h.events.trans h'.events⟩
  · rw [hw, hv, List.append_assoc]
  · rw [hq, hp, List.reverse_append, List.append_assoc]

theorem forward (s : State) (n : Nat) : Onward s (s.forward n) :=
  ⟨⟨s.rest.take n, (List.take_append_drop n s.rest).symm, rfl⟩, rfl, rfl, List.suffix_refl _⟩

theorem advance (s : State) : Onward s s.advance := by
  unfold State.advance
  split
  · exact refl s
  · exact forward s 1

theorem log (s : State) (e : Event) : Onward s (s.log e) :=
  ⟨⟨[], rfl, rfl⟩, rfl, rfl, List.suffix_cons _ _⟩

theorem skipBlock (s : State) : Onward s s.skipBlock := by
  unfold State.skipBlock
  split
  · exact forward s _
  · exact (log s _).trans (forward _ _)

theorem close (s : State) (owner : String) (opened : Token) : Onward s (s.close owner opened) := by
  unfold State.close
  split
  · exact advance s
  · exact log s _

theorem skipUnknown (s : State) : Onward s s.skipUnknown := by
  unfold State.skipUnknown
  split
  · exact skipBlock s
  · exact (log s _).trans (advance _)

theorem rest_suffix (h : Onward s t) : t.rest <:+ s.rest := by
  obtain ⟨w, hw, -⟩ := h.moved
  exact ⟨w, hw.symm⟩

theorem length_le (h : Onward s t) : t.rest.length ≤ s.rest.length := h.rest_suffix.length_le

theorem position_lt (h : Onward s t) (hlt : t.rest.length < s.rest.length) :
    s.position < t.position := by
  obtain ⟨w, hw, hp⟩ := h.moved
  rw [hw, List.length_append] at hlt
  rw [position, position, hp, List.length_append, List.length_reverse]
  omega

theorem current_eq (h : Onward s t) (hp : t.position = s.position) : t.current = s.current := by
  obtain ⟨w, hw, hq⟩ := h.moved
  have hlen : w.length = 0 := by
    have := congrArg List.length hq
    simp only [position] at hp
    simp only [List.length_append, List.length_reverse] at this
    omega
  rw [List.length_eq_zero_iff] at hlen
  simp only [current, hw, hlen, h.last, List.nil_append]

end Onward

end State

theorem run_expect_ok {k : TokenKind} {s : State} (hk : k ≠ .endOfInput) (h : s.current.kind = k) :
    (expect k).run.run s = (.ok s.current, s.forward 1) := by
  rw [run_expect, if_pos h, State.advance_of_kind h hk]

theorem run_expectName_ok {s : State} (h : s.current.kind.isName) :
    expectName.run.run s = (.ok s.current.value, s.forward 1) := by
  rw [run_expectName, if_pos h, State.advance_eq_forward
    (TokenKind.ne_endOfInput_of_isPlain (TokenKind.isPlain_of_isName h))]

def Event.tellsOpen : Event → Bool
  | .found (.unclosed _) | .found (.neverClosed _ _) => true
  | _ => false

/-- A relation between states that holds across each kind of move. -/
structure Motion (R : State → State → Prop) : Prop where
  refl : ∀ s, R s s
  trans : ∀ {s t u}, R s t → R t u → R s u
  onward : ∀ {s t}, R s t → State.Onward s t
  pass : ∀ {s : State}, s.current.kind.isPlain → R s s.advance
  log : ∀ {s : State} {e : Event}, e.tellsOpen = false → R s (s.log e)
  skip : ∀ {s : State}, s.current.kind = .openBrace → R s s.skipBlock
  enclosed : ∀ {s t : State} {owner : String}, s.current.kind = .openBrace → R s.advance t →
    t.current.kind.closesBlock → R s (t.close owner s.current)

theorem onward_motion : Motion State.Onward where
  refl := .refl
  trans := .trans
  onward := id
  pass _ := .advance _
  log _ := .log _ _
  skip _ := .skipBlock _
  enclosed _ h _ := (State.Onward.advance _).trans (h.trans (.close _ _ _))

/-- A relation between states that holds across each move outside of blocks, as long as only tokens
of these kinds are passed. -/
structure Strides (passes : TokenKind → Bool) (R : State → State → Prop) : Prop where
  free : ∀ {k : TokenKind}, TokenKind.declarations.contains k = false → passes k
  refl : ∀ s, R s s
  trans : ∀ {s t u}, R s t → R t u → R s u
  pass : ∀ {s : State}, s.current.kind.isPlain → passes s.current.kind → R s s.advance
  skipped : ∀ (s : State) (x : Token), R s (s.log (.skipped x))
  mismatch : ∀ (s : State) (m : Mismatch), R s (s.report (.mismatch m))
  skip : ∀ {s : State}, s.current.kind = .openBrace → R s s.skipBlock

theorem not_declaration_of_isName {k : TokenKind} (hk : k.isName) :
    TokenKind.declarations.contains k = false := by
  revert hk
  cases k <;> decide

theorem not_declaration_of_not_stops {k : TokenKind} (hk : State.stopsRecovery k = false) :
    TokenKind.declarations.contains k = false := by
  revert hk
  cases k <;> decide

namespace Strides

variable {passes : TokenKind → Bool} {R : State → State → Prop} (hR : Strides passes R) {α β : Type}
include hR

theorem bind {p : Parse α} {f : α → Parse β} (hp : Keeps R p) (hf : ∀ a, Keeps R (f a)) :
    Keeps R (p >>= f) := Keeps.bind (R := R) hR.trans hp hf

theorem ret (a : α) : Keeps R (pure a : Parse α) := hR.refl

theorem expect {k : TokenKind} (hk : k.isPlain) (hpasses : passes k) : Keeps R (expect k) := by
  intro s
  rw [run_expect]
  split
  · next h => exact hR.pass (h ▸ hk) (h ▸ hpasses)
  · exact hR.refl s

theorem expectName : Keeps R expectName := by
  intro s
  rw [run_expectName]
  split
  · next h => exact hR.pass (TokenKind.isPlain_of_isName h) (hR.free (not_declaration_of_isName h))
  · exact hR.refl s

theorem accept {k : TokenKind} (hk : k.isPlain) (hpasses : passes k) : Keeps R (accept k) := by
  intro s
  rw [run_accept]
  split
  · next h => exact hR.pass (h ▸ hk) (h ▸ hpasses)
  · exact hR.refl s

/-- Many tokens without a brace are passed like one. -/
theorem forward {s : State} {n : Nat} (hn : ∀ x ∈ s.rest.take n, x.kind.isPlain ∧ passes x.kind) :
    R s (s.forward n) := by
  induction n generalizing s with
  | zero => exact hR.refl s
  | succ n ih =>
    cases hr : s.rest with
    | nil =>
      have he : s.forward (n + 1) = s := by cases s; simp_all [State.forward]
      rw [he]
      exact hR.refl s
    | cons x xs =>
      have hc := State.current_of_rest hr
      obtain ⟨hx, hpasses⟩ := hn x (by simp [hr])
      have hstep : R s (s.forward 1) := by
        rw [← State.advance_eq_forward (hc ▸ TokenKind.ne_endOfInput_of_isPlain hx)]
        exact hR.pass (hc ▸ hx) (hc ▸ hpasses)
      have hrest : R (s.forward 1) ((s.forward 1).forward n) :=
        ih fun y hy ↦ hn y (by simp_all [State.forward])
      have he : (s.forward 1).forward n = s.forward (n + 1) := by simp [State.forward, hr]
      exact he ▸ hR.trans hstep hrest

theorem skipUnknown {s : State} (hs : s.current.kind.closesBlock = false)
    (hpasses : passes s.current.kind) : R s s.skipUnknown := by
  unfold State.skipUnknown
  split
  · next h => exact hR.skip h
  · next h =>
    refine hR.trans (hR.skipped s s.current) (hR.pass ?_ hpasses)
    show s.current.kind.isPlain
    simp [TokenKind.isPlain, h, hs]

theorem recover {s : State} {start : Nat}
    (hs : s.position = start → s.current.kind ≠ .openBrace ∧ passes s.current.kind) :
    R s (s.recover start) := by
  have hfirst :
      R s (if s.position = start && !s.current.kind.closesBlock then s.advance else s) := by
    split
    · next h =>
      simp only [Bool.and_eq_true, decide_eq_true_eq, Bool.not_eq_true'] at h
      obtain ⟨hopen, hpasses⟩ := hs h.1
      exact hR.pass (by simp [TokenKind.isPlain, h.2, hopen]) hpasses
    · exact hR.refl s
  unfold State.recover
  generalize (if s.position = start && !s.current.kind.closesBlock then s.advance else s) = t
    at hfirst
  refine hR.trans hfirst (hR.trans (hR.forward (n := (t.rest.takeWhile
    (! State.stopsRecovery ·.kind)).length) fun x hx ↦ ?_) ?_)
  · have hmem : x ∈ t.rest.takeWhile (! State.stopsRecovery ·.kind) := by
      rwa [← List.prefix_iff_eq_take.mp (List.takeWhile_prefix _)] at hx
    have hx' := List.all_eq_true.mp List.all_takeWhile x hmem
    rw [Bool.not_eq_true'] at hx'
    refine ⟨?_, hR.free (not_declaration_of_not_stops hx')⟩
    simp only [State.stopsRecovery, Bool.or_eq_false_iff] at hx'
    simp [TokenKind.isPlain, hx'.1]
  · simp only
    split
    · next h => exact hR.pass (by rw [h]; rfl) (hR.free (by rw [h]; rfl))
    · split
      · next h => exact hR.skip h
      · exact hR.refl _

theorem failure {s t : State} (hs : s.current.kind.isPlain) (hpasses : passes s.current.kind)
    (h : State.Onward s t) (m : Mismatch) : R t ((t.report (.mismatch m)).recover s.position) := by
  refine hR.trans (hR.mismatch t m) (hR.recover fun hp ↦ ?_)
  have hcurrent : (t.report (.mismatch m)).current = s.current := h.current_eq hp
  rw [hcurrent]
  refine ⟨fun hbrace ↦ ?_, hpasses⟩
  rw [hbrace] at hs
  cases hs

end Strides

namespace Motion

variable {R : State → State → Prop} (hR : Motion R) {α β : Type}
include hR

theorem strides : Strides (fun _ ↦ true) R where
  free _ := rfl
  refl := hR.refl
  trans := hR.trans
  pass hs _ := hR.pass hs
  skipped _ _ := hR.log rfl
  mismatch _ _ := hR.log rfl
  skip := hR.skip

theorem bind {p : Parse α} {f : α → Parse β} (hp : Keeps R p) (hf : ∀ a, Keeps R (f a)) :
    Keeps R (p >>= f) := hR.strides.bind hp hf

theorem ret (a : α) : Keeps R (pure a : Parse α) := hR.refl

theorem current : Keeps R Parser.current := hR.refl

theorem expect {k : TokenKind} (hk : k.isPlain) : Keeps R (expect k) := hR.strides.expect hk rfl

theorem expectName : Keeps R expectName := hR.strides.expectName

theorem accept {k : TokenKind} (hk : k.isPlain) : Keeps R (accept k) := hR.strides.accept hk rfl

theorem report {f : Finding} (hf : (Event.found f).tellsOpen = false) : Keeps R (report f) :=
  fun _ ↦ hR.log hf

end Motion

end TwinDiagram.Parser
