import TwinDiagram.Proofs.Parser.Depth

namespace TwinDiagram

theorem TokenKind.ne_of_startsStatement {k l : TokenKind} (hk : k.startsStatement)
    (hl : l.startsStatement = false) : k ≠ l := by
  rintro rfl
  rw [hl] at hk
  cases hk

end TwinDiagram

namespace TwinDiagram.Parser

open Program State

inductive Finding.Like (same : Token → Token → Prop) : Finding → Finding → Prop
  | missingRoot : Like same .missingRoot .missingRoot
  | mismatch {w : Wanted} {a b : Token} : same a b → Like same (.mismatch ⟨w, a⟩) (.mismatch ⟨w, b⟩)
  | unclosed {a b : Token} : same a b → Like same (.unclosed a) (.unclosed b)
  | neverClosed {owner : String} {a b : Token} :
      same a b → Like same (.neverClosed owner a) (.neverClosed owner b)
  | repeatedSection {k : TokenKind} {a b : Token} :
      same a b → Like same (.repeatedSection a k) (.repeatedSection b k)

def Finding.Touches (x : Token) : Finding → Prop
  | mismatch m => m.found = x
  | unclosed _ => True
  | neverClosed _ _ => True
  | missingRoot => False
  | repeatedSection _ _ => False

/-- The header of a goal and the brace of its block come next. -/
structure State.OpensGoal (s : State) : Prop where
  goal : s.current.kind = .goal
  name : s.advance.current.kind.isName
  brace : s.advance.advance.current.kind = .openBrace

/-- What two parsers have in common are tokens with tails behind them. The tails are both empty, or
the second one starts a statement. What was found before the common tokens is left aside. The end
tokens correspond in a way of their own, for behind tails they do not count. -/
structure Overlap where
  same : Token → Token → Prop
  kind_eq : ∀ {a b}, same a b → a.kind = b.kind
  value_eq : ∀ {a b}, same a b → a.kind.isName → a.value = b.value
  ends : Token → Token → Prop := same
  tail : List Token
  tail' : List Token
  tails : tail = [] ∧ tail' = [] ∨ ∃ a as, tail' = a :: as ∧ a.kind.startsStatement
  same_of_ends : tail' = [] → ∀ {a b}, ends a b → same a b := by exact fun _ _ _ h ↦ h
  before : List Finding
  before' : List Finding
  comments : List Token
  comments' : List Token

namespace Overlap

theorem no_tails : ([] : List Token) = [] ∧ ([] : List Token) = [] ∨
    ∃ a as, ([] : List Token) = a :: as ∧ a.kind.startsStatement := .inl ⟨rfl, rfl⟩

def whole {same : Token → Token → Prop} (kind_eq : ∀ {a b}, same a b → a.kind = b.kind)
    (value_eq : ∀ {a b}, same a b → a.kind.isName → a.value = b.value)
    (comments comments' : List Token) : Overlap where
  same
  kind_eq
  value_eq
  tail := []
  tail' := []
  tails := no_tails
  before := []
  before' := []
  comments
  comments'

variable (c : Overlap)

/-- The comments up to the end of the block around this place correspond to equal ones. -/
def SameNotes (s : State) : Prop :=
  ∀ u, Onward s u → (∀ n, s.closing? 1 = some n → u.position ≤ n) → u.current.kind = .blockComment →
    ∀ b, c.same u.current b → u.current.value = b.value

/-- The same common tokens are ahead of both. -/
structure Beside (s t : State) : Prop where
  rest : ∃ w w', s.rest = w ++ c.tail ∧ t.rest = w' ++ c.tail' ∧ List.Forall₂ c.same w w'
  last : c.ends s.last t.last
  comments : s.comments = c.comments ∧ t.comments = c.comments'
  names : ∀ n, c.tail.length + n < s.rest.length → (s.forward n).current.kind = .semicolon →
    trailingName s.comments (s.forward n).current (s.forward (n + 1)).current =
      trailingName t.comments (t.forward n).current (t.forward (n + 1)).current
  notes : ∀ u, Onward s u → u.OpensGoal → c.SameNotes u.advance.advance.advance
  findings : ∃ fs gs, s.findings = c.before ++ fs ∧ t.findings = c.before' ++ gs ∧
    List.Forall₂ (Finding.Like c.same) fs gs

/-- Both have come to the tails, and there a statement starts for the second. -/
structure Edge (s t : State) : Prop where
  rest : s.rest = c.tail
  rest' : t.rest = c.tail'
  starts : t.current.kind.startsStatement

structure Facing (s t : State) : Prop where
  same : c.same s.current t.current
  next : c.Beside s.advance t.advance
  inside : s.current.kind ≠ .endOfInput → c.tail.length < s.rest.length

/-- The first has come to its tail, which the other tail does not follow. -/
def Reached (s : State) : Prop := c.tail' ≠ [] ∧ s.rest.length ≤ c.tail.length

/-- The first has got into its tail, or what it found is told by the start of the tail. -/
def Lost (s : State) : Prop :=
  c.Reached s ∧
    (s.rest.length < c.tail.length ∨ ∃ f ∈ s.findings, f.Touches (c.tail.headD s.last))

variable {c : Overlap} {s t u : State} {x : Token}

theorem findings_log (e : Event) (s : State) :
    (s.log e).findings = s.findings ++ e.finding?.toList := by
  cases e <;> simp [State.findings, State.log, Event.finding?]

theorem mem_findings_of_onward (h : Onward s t) {f : Finding} (hf : f ∈ s.findings) :
    f ∈ t.findings := by
  obtain ⟨e, he, hf⟩ := List.mem_filterMap.mp hf
  exact List.mem_filterMap.mpr
    ⟨e, List.mem_reverse.mpr (h.events.subset (List.mem_reverse.mp he)), hf⟩

theorem Reached.onward (h : c.Reached s) (ho : Onward s t) : c.Reached t :=
  ⟨h.1, Nat.le_trans ho.length_le h.2⟩

theorem Lost.onward (h : c.Lost s) (ho : Onward s t) : c.Lost t := by
  refine ⟨h.1.onward ho, ?_⟩
  rcases h.2 with hlt | ⟨f, hf, htouches⟩
  · exact .inl (Nat.lt_of_le_of_lt ho.length_le hlt)
  · exact .inr ⟨f, mem_findings_of_onward ho hf, ho.last ▸ htouches⟩

theorem lost_of_length_lt (h : s.rest.length < c.tail.length) : c.Lost s := by
  refine ⟨⟨?_, Nat.le_of_lt h⟩, .inl h⟩
  rcases c.tails with ⟨hnil, -⟩ | ⟨a, as, htail, -⟩
  · rw [hnil] at h
    exact absurd h (Nat.not_lt_zero _)
  · rw [htail]
    exact List.cons_ne_nil _ _

theorem Reached.report (h : c.Reached s) {f : Finding} (hf : f.Touches (c.tail.headD s.last)) :
    c.Lost (s.report f) := by
  refine ⟨h.onward (.log s _), .inr ⟨f, ?_, hf⟩⟩
  rw [State.report, findings_log]
  exact List.mem_append_right _ (.head _)

theorem Reached.advance (h : c.Reached s) (hs : s.current.kind ≠ .endOfInput) :
    c.Lost s.advance := by
  obtain ⟨xs, hxs⟩ := rest_eq_cons hs
  refine lost_of_length_lt ?_
  have hle := h.2
  rw [hxs, List.length_cons] at hle
  rw [rest_advance hxs hs]
  exact hle

theorem Reached.skipBlock (h : c.Reached s) (hs : s.current.kind = .openBrace) :
    c.Lost s.skipBlock := by
  obtain ⟨xs, hxs⟩ := rest_eq_cons (s := s) (by rw [hs]; exact nofun)
  have hle := s.rest_skipBlock_le
  refine lost_of_length_lt ?_
  have hlength := h.2
  rw [hxs, List.length_cons] at hle hlength
  omega

theorem sameNotes_of_value (h : ∀ {a b}, c.same a b → a.value = b.value) (s : State) :
    c.SameNotes s :=
  fun _ _ _ _ _ hb ↦ h hb

theorem SameNotes.onward (h : c.SameNotes s) (ho : Onward s u)
    (hclosing : u.closing? 1 = s.closing? 1) :
    c.SameNotes u :=
  fun v hv hplace ↦ h v (ho.trans hv) (hclosing ▸ hplace)

theorem Facing.kind (h : c.Facing s t) : s.current.kind = t.current.kind := c.kind_eq h.same

namespace Edge

theorem reached (h : c.Edge s t) : c.Reached s := by
  refine ⟨?_, Nat.le_of_eq (congrArg _ h.rest)⟩
  intro hnil
  have hstarts := h.starts
  rw [current_of_nil (h.rest'.trans hnil), t.last_kind] at hstarts
  cases hstarts

theorem current (h : c.Edge s t) : s.current = c.tail.headD s.last := by
  rw [State.current, h.rest]

end Edge

namespace Beside

theorem forward (h : c.Beside s t) {n : Nat} (hn : c.tail.length + n ≤ s.rest.length) :
    c.Beside (s.forward n) (t.forward n) where
  rest := by
    obtain ⟨w, w', hs, ht, hw⟩ := h.rest
    have hlength := hw.length_eq
    rw [hs, List.length_append] at hn
    refine ⟨w.drop n, w'.drop n, ?_, ?_, List.forall₂_drop n hw⟩
    · rw [rest_forward, hs, List.drop_append_of_le_length (by omega)]
    · rw [rest_forward, ht, List.drop_append_of_le_length (by omega)]
  last := h.last
  comments := h.comments
  names m hm := by
    rw [rest_forward, List.length_drop] at hm
    rw [← State.forward_add, ← State.forward_add, ← State.forward_add, ← State.forward_add,
      ← Nat.add_assoc]
    exact h.names (n + m) (by omega)
  notes u hu := h.notes u ((Onward.forward s n).trans hu)
  findings := h.findings

theorem see (h : c.Beside s t) : c.Facing s t ∨ c.Edge s t := by
  obtain ⟨w, w', hs, ht, hw⟩ := h.rest
  cases hw with
  | nil =>
    rcases c.tails with ⟨hnil, hnil'⟩ | ⟨a, as, htail, hstarts⟩
    · left
      have hs : s.rest = [] := hs.trans hnil
      have ht : t.rest = [] := ht.trans hnil'
      have hadvance {s : State} (hs : s.rest = []) : s.advance = s := by
        rw [State.advance, if_pos (by rw [current_of_nil hs, s.last_kind])]
      refine ⟨?_, ?_, fun hend ↦ absurd s.last_kind (current_of_nil hs ▸ hend)⟩
      · rw [current_of_nil hs, current_of_nil ht]
        exact c.same_of_ends hnil' h.last
      · rwa [hadvance hs, hadvance ht]
    · exact .inr ⟨hs, ht, by rwa [current_of_rest (ht.trans htail)]⟩
  | @cons a b w w' hab hw =>
    have hinside : c.tail.length < s.rest.length := by
      rw [hs, List.length_append, List.length_cons]
      omega
    refine .inl ⟨?_, ?_, fun _ ↦ hinside⟩
    · rwa [current_of_rest hs, current_of_rest ht]
    · unfold State.advance
      rw [current_of_rest hs, current_of_rest ht, c.kind_eq hab]
      split
      · exact h
      · exact h.forward hinside

theorem log (h : c.Beside s t) {e e' : Event}
    (he : List.Forall₂ (Finding.Like c.same) e.finding?.toList e'.finding?.toList) :
    c.Beside (s.log e) (t.log e') where
  rest := h.rest
  last := h.last
  comments := h.comments
  names := h.names
  notes u hu := h.notes u ((Onward.log s e).trans hu)
  findings := by
    obtain ⟨fs, gs, hs, ht, hfs⟩ := h.findings
    refine ⟨fs ++ e.finding?.toList, gs ++ e'.finding?.toList, ?_, ?_, List.rel_append hfs he⟩
    · rw [findings_log, hs, List.append_assoc]
    · rw [findings_log, ht, List.append_assoc]

theorem report (h : c.Beside s t) {f g : Finding} (hfg : f.Like c.same g) :
    c.Beside (s.report f) (t.report g) := h.log (.cons hfg .nil)

/-- A whole block is passed, and where it ends behind the common tokens, the tail is entered. -/
theorem skipBlock (h : c.Beside s t) : c.Beside s.skipBlock t.skipBlock ∨ c.Lost s.skipBlock := by
  obtain ⟨w, w', hs, ht, hw⟩ := h.rest
  have hclosing : Block.closing? (·.kind == .openBrace) (·.kind == .closeBrace) 0 w =
      Block.closing? (·.kind == .openBrace) (·.kind == .closeBrace) 0 w' :=
    Block.closing?_congr (hw.imp fun _ _ hab ↦ by simp only [c.kind_eq hab, and_self])
  unfold State.skipBlock
  cases hn : Block.closing? (·.kind == .openBrace) (·.kind == .closeBrace) 0 w with
  | some n =>
    rw [hs, ht, Block.closing?_append hn, Block.closing?_append (hclosing ▸ hn)]
    refine .inl (h.forward ?_)
    have hlt := Block.lt_of_closing? hn
    rw [hs, List.length_append]
    omega
  | none =>
    rcases c.tails with ⟨hnil, hnil'⟩ | ⟨a, as, htail, -⟩
    · rw [hnil, List.append_nil] at hs
      rw [hnil', List.append_nil] at ht
      have hcur : c.same s.current t.current := by
        rw [State.current, State.current, hs, ht]
        cases hw with
        | nil => exact c.same_of_ends hnil' h.last
        | cons hab _ => exact hab
      rw [hs, ht, ← hclosing, hn, hw.length_eq]
      refine .inl ((h.report (.unclosed hcur)).forward ?_)
      show c.tail.length + w'.length ≤ s.rest.length
      rw [hnil, hs, hw.length_eq, List.length_nil]
      omega
    · right
      split
      · next n hfound =>
        have hle := Block.length_le_of_closing?_append hn (hs ▸ hfound)
        have hlt := Block.lt_of_closing? hfound
        refine lost_of_length_lt ?_
        rw [hs, List.length_append] at hlt
        rw [rest_forward, List.length_drop, hs, List.length_append]
        omega
      · have hne : c.tail' ≠ [] := by rw [htail]; exact List.cons_ne_nil _ _
        -- All that is left is passed, and this may be nothing: then the finding tells of the loss.
        refine ⟨⟨hne, ?_⟩, .inr ⟨.unclosed s.current, ?_, trivial⟩⟩
        · rw [rest_forward]
          simp [State.report, State.log]
        · show Finding.unclosed s.current ∈ (s.report (.unclosed s.current)).findings
          rw [State.report, findings_log]
          exact List.mem_append_right _ (.head _)

theorem length_takeWhile_congr (p : TokenKind → Bool) {w w' : List Token}
    (h : List.Forall₂ c.same w w') :
    (w.takeWhile (p ·.kind)).length = (w'.takeWhile (p ·.kind)).length := by
  induction h with
  | nil => rfl
  | cons hab _ ih =>
    simp only [List.takeWhile_cons, c.kind_eq hab]
    split
    · simp only [List.length_cons, ih]
    · rfl

/-- To pass all tokens up to one of a kind that the start of a statement is of. -/
theorem forward_takeWhile (h : c.Beside s t) {p : TokenKind → Bool}
    (hp : ∀ k : TokenKind, k.startsStatement → p k = false) :
    c.Beside (s.forward (s.rest.takeWhile (p ·.kind)).length)
        (t.forward (t.rest.takeWhile (p ·.kind)).length) ∨
      c.Lost (s.forward (s.rest.takeWhile (p ·.kind)).length) := by
  obtain ⟨w, w', hs, ht, hw⟩ := h.rest
  have htake := length_takeWhile_congr p hw
  have hle := (List.takeWhile_prefix (p ·.kind) (l := w)).length_le
  by_cases hall : (w.takeWhile (p ·.kind)).length = w.length
  · have hlength : (s.rest.takeWhile (p ·.kind)).length =
        w.length + (c.tail.takeWhile (p ·.kind)).length := by
      rw [hs, List.takeWhile_append, if_pos hall, List.length_append]
    have hlength' : (t.rest.takeWhile (p ·.kind)).length = w.length := by
      have hnone : c.tail'.takeWhile (p ·.kind) = [] := by
        rcases c.tails with ⟨-, hnil'⟩ | ⟨a, as, htail, hstarts⟩
        · rw [hnil', List.takeWhile_nil]
        · rw [htail, List.takeWhile_cons, hp _ hstarts, if_neg Bool.false_ne_true]
      rw [ht, List.takeWhile_append, if_pos (by rw [← htake, hall, hw.length_eq]), hnone,
        List.append_nil, hw.length_eq]
    cases htail : c.tail.takeWhile (p ·.kind) with
    | nil =>
      rw [hlength, hlength', htail, List.length_nil, Nat.add_zero]
      refine .inl (h.forward ?_)
      rw [hs, List.length_append]
      omega
    | cons a as =>
      refine .inr (lost_of_length_lt ?_)
      have hpos := (List.takeWhile_prefix (p ·.kind) (l := c.tail)).length_le
      rw [htail, List.length_cons] at hlength hpos
      rw [rest_forward, List.length_drop, hlength, hs, List.length_append]
      omega
  · have hlength : (s.rest.takeWhile (p ·.kind)).length = (w.takeWhile (p ·.kind)).length := by
      rw [hs, List.takeWhile_append, if_neg hall]
    have hlength' : (t.rest.takeWhile (p ·.kind)).length = (w.takeWhile (p ·.kind)).length := by
      rw [ht, List.takeWhile_append, if_neg (by rwa [← htake, ← hw.length_eq]), htake]
    rw [hlength, hlength']
    refine .inl (h.forward ?_)
    rw [hs, List.length_append]
    omega

end Beside

end Overlap

namespace State

def settle (s : State) : State :=
  if s.current.kind = .semicolon then s.advance
  else if s.current.kind = .openBrace then s.skipBlock
  else s

def resume (s : State) : State :=
  (s.forward (s.rest.takeWhile (! stopsRecovery ·.kind)).length).settle

theorem recover_eq_resume {s : State} {start : Nat} (h : s.position ≠ start) :
    s.recover start = s.resume := by
  simp [recover, resume, settle, h]

theorem resume_of_semicolon {s : State} {ws tail : List Token} {z : Token}
    (h : s.rest = ws ++ z :: tail) (hws : ∀ x ∈ ws, stopsRecovery x.kind = false)
    (hz : z.kind = .semicolon) : s.resume = s.forward (ws.length + 1) := by
  have hstop : stopsRecovery z.kind := by rw [hz]; rfl
  have htake : (s.rest.takeWhile (! stopsRecovery ·.kind)).length = ws.length := by
    rw [h, List.takeWhile_append_of_pos fun x hx ↦ by simp [hws x hx]]
    simp [hstop]
  have hrest : (s.forward ws.length).rest = z :: tail := by rw [rest_forward, h, List.drop_left]
  have hcur : (s.forward ws.length).current.kind = .semicolon := by rw [current_of_rest hrest, hz]
  rw [resume, htake, settle, if_pos hcur, advance_of_kind hcur (by decide), ← State.forward_add]

theorem Onward.settle (s : State) : Onward s s.settle := by
  unfold State.settle
  split
  · exact .advance _
  split
  · exact .skipBlock _
  · exact .refl _

theorem Onward.resume (s : State) : Onward s s.resume := (Onward.forward s _).trans (.settle _)

theorem advance_log (e : Event) (s : State) : (s.log e).advance = s.advance.log e := by
  unfold State.advance
  split
  · next h => rw [if_pos (show s.current.kind = .endOfInput from h)]
  · next h =>
    rw [if_neg (show s.current.kind ≠ .endOfInput from h)]
    rfl

end State

namespace Overlap.Beside

variable {c : Overlap} {s t : State}

theorem settle (h : c.Beside s t) : c.Beside s.settle t.settle ∨ c.Lost s.settle := by
  unfold State.settle
  rcases h.see with hfacing | hedge
  · rw [hfacing.kind]
    split
    · exact .inl hfacing.next
    split
    · exact h.skipBlock
    · exact .inl h
  · rw [if_neg (TokenKind.ne_of_startsStatement hedge.starts rfl),
      if_neg (TokenKind.ne_of_startsStatement hedge.starts rfl)]
    split
    · next hk => exact .inr (hedge.reached.advance (by rw [hk]; exact nofun))
    split
    · next hk => exact .inr (hedge.reached.skipBlock hk)
    · exact .inl h

theorem resume (h : c.Beside s t) : c.Beside s.resume t.resume ∨ c.Lost s.resume := by
  have hstop (k : TokenKind) (hk : k.startsStatement) : (! stopsRecovery k) = false := by
    simp [stopsRecovery, hk]
  rcases h.forward_takeWhile (p := (! stopsRecovery ·)) hstop with h | hlost
  · exact h.settle
  · exact .inr (hlost.onward (.settle _))

theorem skipUnknown (h : c.Beside s t) (hfacing : c.Facing s t) :
    c.Beside s.skipUnknown t.skipUnknown ∨ c.Lost s.skipUnknown := by
  unfold State.skipUnknown
  rw [hfacing.kind]
  split
  · exact h.skipBlock
  · rw [advance_log, advance_log]
    exact .inl (hfacing.next.log .nil)

end Overlap.Beside

end TwinDiagram.Parser
