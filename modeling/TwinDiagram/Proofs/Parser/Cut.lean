import TwinDiagram.Proofs.Block
import TwinDiagram.Proofs.Parser.Progress

namespace TwinDiagram.Parser

open Program

variable {α β : Type}

namespace State

def Ended (s : State) : Prop := s.rest = []

/-- The first parser stands where the second does, with only some of its tokens to come. A comment
names the same statement to both, or it is cut off with all that follows the statement. -/
structure Cut (s t : State) : Prop where
  passed : s.passed = t.passed
  rest : s.rest <+: t.rest
  names : ∀ {x y}, [x, y] <:+: s.rest → trailingName s.comments x y = trailingName t.comments x y
  endName : ∀ {x}, [x] <:+ s.rest → trailingName s.comments x s.last = none

variable {s t : State}

theorem Onward.recover (s : State) (start : Nat) : Onward s (s.recover start) := by
  have hfirst : Onward s
      (if s.position = start && !s.current.kind.closesBlock then s.advance else s) := by
    split
    · exact .advance s
    · exact .refl s
  unfold State.recover
  generalize (if s.position = start && !s.current.kind.closesBlock then s.advance else s) = t
    at hfirst ⊢
  refine (hfirst.trans (.forward t (t.rest.takeWhile (! stopsRecovery ·.kind)).length)).trans ?_
  simp only
  split
  · exact .advance _
  split
  · exact .skipBlock _
  · exact .refl _

theorem Ended.onward (h : s.Ended) (ho : Onward s t) : t.Ended :=
  List.suffix_nil.mp (h ▸ ho.rest_suffix)

theorem Ended.current_kind (h : s.Ended) : s.current.kind = .endOfInput := by
  rw [current_of_nil h, s.last_kind]

namespace Cut

theorem position_eq (h : Cut s t) : s.position = t.position := congrArg List.length h.passed

theorem log (h : Cut s t) (e e' : Event) : Cut (s.log e) (t.log e') :=
  ⟨h.passed, h.rest, h.names, h.endName⟩

theorem forward (h : Cut s t) {n : Nat} (hn : n ≤ s.rest.length) :
    Cut (s.forward n) (t.forward n) := by
  obtain ⟨ys, hys⟩ := h.rest
  have hsuffix : s.rest.drop n <:+ s.rest := List.drop_suffix n s.rest
  refine ⟨?_, ?_, fun hx ↦ h.names (hx.trans hsuffix.isInfix),
    fun hx ↦ h.endName (hx.trans hsuffix)⟩
  · simp only [State.forward, ← hys, List.take_append_of_le_length hn, h.passed]
  · simp only [State.forward, ← hys, List.drop_append_of_le_length hn]
    exact List.prefix_append _ _

theorem rest_eq (h : Cut s t) :
    s.Ended ∨ ∃ x xs ys, s.rest = x :: xs ∧ t.rest = x :: ys ∧ s.current = x ∧ t.current = x := by
  obtain ⟨ys, hys⟩ := h.rest
  cases hs : s.rest with
  | nil => exact .inl hs
  | cons x xs =>
    rw [hs, List.cons_append] at hys
    exact .inr ⟨x, xs, _, rfl, hys.symm, current_of_rest hs, current_of_rest hys.symm⟩

theorem current_eq (h : Cut s t) :
    s.Ended ∨ s.current = t.current ∧ Cut s.advance t.advance := by
  rcases h.rest_eq with hend | ⟨x, xs, ys, hs, ht, hsx, htx⟩
  · exact .inl hend
  · right
    unfold State.advance
    rw [hsx, htx]
    refine ⟨rfl, ?_⟩
    split
    · exact h
    · exact h.forward (by simp [hs])

theorem current_eq_of_length_pos (h : Cut s t) (hs : 0 < s.rest.length) :
    s.current = t.current := by
  refine (h.current_eq.resolve_left fun hend ↦ ?_).1
  rw [hend] at hs
  cases hs

theorem current_eq_of_not_closes (h : Cut s t) (hs : s.current.kind.closesBlock = false) :
    s.current = t.current := by
  refine (h.current_eq.resolve_left fun hend ↦ ?_).1
  rw [hend.current_kind] at hs
  cases hs

theorem advance (h : Cut s t) : Cut s.advance t.advance ∨ s.advance.Ended := by
  rcases h.current_eq with hend | ⟨-, h⟩
  · exact .inr (hend.onward (.advance s))
  · exact .inl h

theorem skipBlock (h : Cut s t) : Cut s.skipBlock t.skipBlock ∨ s.skipBlock.Ended := by
  unfold State.skipBlock
  split
  · next n hn =>
    obtain ⟨ys, hys⟩ := h.rest
    rw [← hys, Block.closing?_append hn]
    exact .inl (h.forward (Nat.succ_le_of_lt (Block.lt_of_closing? hn)))
  · exact .inr (List.drop_length ..)

theorem skipUnknown (h : Cut s t) : Cut s.skipUnknown t.skipUnknown ∨ s.skipUnknown.Ended := by
  rcases h.current_eq with hend | ⟨hcur, -⟩
  · exact .inr (hend.onward (.skipUnknown s))
  · unfold State.skipUnknown
    rw [hcur]
    split
    · exact h.skipBlock
    · exact (h.log _ _).advance

theorem forward_takeWhile (h : Cut s t) (p : Token → Bool) :
    Cut (s.forward (s.rest.takeWhile p).length) (t.forward (t.rest.takeWhile p).length) ∨
      (s.forward (s.rest.takeWhile p).length).Ended := by
  obtain ⟨ys, hys⟩ := h.rest
  by_cases hall : (s.rest.takeWhile p).length = s.rest.length
  · exact .inr (by rw [Ended, rest_forward, hall, List.drop_length])
  · have hle : (s.rest.takeWhile p).length ≤ s.rest.length :=
      (List.takeWhile_prefix p).length_le
    rw [← hys, List.takeWhile_append, if_neg hall]
    exact .inl (h.forward hle)

theorem recover (h : Cut s t) (start : Nat) :
    Cut (s.recover start) (t.recover start) ∨ (s.recover start).Ended := by
  rcases h.current_eq with hend | ⟨hcur, -⟩
  · exact .inr (hend.onward (.recover s start))
  have hfirst : Cut (if s.position = start && !s.current.kind.closesBlock then s.advance else s)
      (if t.position = start && !t.current.kind.closesBlock then t.advance else t) ∨
      (if s.position = start && !s.current.kind.closesBlock then s.advance else s).Ended := by
    rw [hcur, h.position_eq]
    split
    · exact h.advance
    · exact .inl h
  unfold State.recover
  generalize (if s.position = start && !s.current.kind.closesBlock then s.advance else s) = s₁
    at hfirst ⊢
  generalize (if t.position = start && !t.current.kind.closesBlock then t.advance else t) = t₁
    at hfirst ⊢
  have hskip : Cut (s₁.forward (s₁.rest.takeWhile (! stopsRecovery ·.kind)).length)
      (t₁.forward (t₁.rest.takeWhile (! stopsRecovery ·.kind)).length) ∨
      (s₁.forward (s₁.rest.takeWhile (! stopsRecovery ·.kind)).length).Ended := by
    rcases hfirst with h | hend
    · exact h.forward_takeWhile _
    · exact .inr (hend.onward (.forward s₁ _))
  simp only
  generalize s₁.forward (s₁.rest.takeWhile (! stopsRecovery ·.kind)).length = s₂ at hskip ⊢
  generalize t₁.forward (t₁.rest.takeWhile (! stopsRecovery ·.kind)).length = t₂ at hskip ⊢
  have hended (hend : s₂.Ended) : (if s₂.current.kind = .semicolon then s₂.advance
      else if s₂.current.kind = .openBrace then s₂.skipBlock else s₂).Ended := by
    rwa [hend.current_kind]
  rcases hskip with h | hend
  · rcases h.current_eq with hend | ⟨hcur, -⟩
    · exact .inr (hended hend)
    · rw [hcur]
      split
      · exact h.advance
      split
      · exact h.skipBlock
      · exact .inl h
  · exact .inr (hended hend)

end Cut

end State

open State

/-- How a program may end on some of the tokens and on all of them: alike, or because the first
tokens are used up; then the results are related. -/
inductive Outcome (E : α → Except Mismatch α → Prop) :
    Except Mismatch α × State → Except Mismatch α × State → Prop
  | alike (a : α) {s t : State} (h : Cut s t) : Outcome E (.ok a, s) (.ok a, t)
  | failed (m m' : Mismatch) {s t : State} (h : Cut s t) : Outcome E (.error m, s) (.error m', t)
  | ended {r r' : Except Mismatch α} {s t : State} (h : s.Ended) (hE : ∀ a, r = .ok a → E a r') :
    Outcome E (r, s) (r', t)

def Survives (E : α → Except Mismatch α → Prop) (p : Parse α) : Prop :=
  ∀ s t, Cut s t → Outcome E (p.run.run s) (p.run.run t)

abbrev Anything : α → Except Mismatch α → Prop := fun _ _ ↦ True

/-- There is no result at all once the tokens are used up. -/
abbrev Nothing : α → Except Mismatch α → Prop := fun _ _ ↦ False

/-- With all tokens there is a result too, and more of it. -/
abbrev Start (Q : α → α → Prop) : α → Except Mismatch α → Prop := fun a r ↦ ∃ b, r = .ok b ∧ Q a b

def FailsAtEnd (p : Parse α) : Prop := ∀ s : State, s.Ended → ∃ m, p.run.run s = (.error m, s)

def Answers (f : α → Parse β) (g : α → β) : Prop :=
  ∀ a s, ∃ events, (f a).run.run s = (.ok (g a), { s with events })

theorem FailsAtEnd.expect {k : TokenKind} (hk : k ≠ .endOfInput) : FailsAtEnd (expect k) := by
  intro s hs
  rw [run_expect, if_neg (by rw [hs.current_kind]; exact hk.symm)]
  exact ⟨_, rfl⟩

theorem FailsAtEnd.expectName : FailsAtEnd expectName := by
  intro s hs
  rw [run_expectName, if_neg (by rw [hs.current_kind]; decide)]
  exact ⟨_, rfl⟩

theorem FailsAtEnd.bind {p : Parse α} {f : α → Parse β} (hp : FailsAtEnd p) :
    FailsAtEnd (p >>= f) := by
  intro s hs
  obtain ⟨m, hm⟩ := hp s hs
  exact ⟨m, by rw [run_bind, hm]⟩

theorem Answers.pure (g : α → β) : Answers (fun a ↦ (pure (g a) : Parse β)) g :=
  fun _ s ↦ ⟨s.events, rfl⟩

/-- An answer is alike if what it is made from is, and as partial as that. -/
theorem Outcome.answer {E : α → Except Mismatch α → Prop} {F : β → Except Mismatch β → Prop}
    {p q : Parse α} {f : α → Parse β} {g : α → β} {s t : State}
    (h : Outcome E (p.run.run s) (q.run.run t)) (hf : Answers f g)
    (hEF : ∀ {a r}, E a r → F (g a) (r.map g)) :
    Outcome F ((p >>= f).run.run s) ((q >>= f).run.run t) := by
  rw [run_bind, run_bind]
  generalize p.run.run s = x at h ⊢
  generalize q.run.run t = y at h ⊢
  cases h with
  | @alike a s t h =>
    obtain ⟨es, hs⟩ := hf a s
    obtain ⟨et, ht⟩ := hf a t
    simp only [hs, ht]
    exact .alike _ ⟨h.passed, h.rest, h.names, h.endName⟩
  | failed m m' h => exact .failed m m' h
  | @ended r r' s t hend hE =>
    cases r with
    | error m =>
      refine .ended hend ?_
      intro b hb
      cases hb
    | ok a =>
      obtain ⟨es, hs⟩ := hf a s
      have hresult := hEF (hE a rfl)
      simp only [hs]
      refine .ended hend ?_
      rintro _ ⟨⟩
      cases r' with
      | error m => exact hresult
      | ok b =>
        obtain ⟨et, ht⟩ := hf b t
        simp only [ht]
        exact hresult

namespace Survives

variable {E : α → Except Mismatch α → Prop} {F : β → Except Mismatch β → Prop}
  {p : Parse α} {f : α → Parse β}

theorem bind (hp : Survives E p) (hf : ∀ a, Survives F (f a))
    (hfails : ∀ {a r}, E a r → FailsAtEnd (f a)) : Survives F (p >>= f) := by
  intro s t h
  have hout := hp s t h
  rw [run_bind, run_bind]
  generalize p.run.run s = x at hout ⊢
  generalize p.run.run t = y at hout ⊢
  cases hout with
  | alike a h => exact hf a _ _ h
  | failed m m' h => exact .failed m m' h
  | @ended r r' s t hend hE =>
    cases r with
    | error m => exact .ended hend nofun
    | ok a =>
      obtain ⟨m, hm⟩ := hfails (hE a rfl) s hend
      simp only [hm]
      exact .ended hend nofun

theorem next (hp : Survives Nothing p) (hf : ∀ a, Survives F (f a)) : Survives F (p >>= f) :=
  hp.bind hf False.elim

theorem answer {g : α → β} (hp : Survives E p) (hf : Answers f g)
    (hEF : ∀ {a r}, E a r → F (g a) (r.map g)) : Survives F (p >>= f) :=
  fun s t h ↦ (hp s t h).answer hf hEF

theorem map {Q : α → α → Prop} {Q' : β → β → Prop} {g : α → β} (hp : Survives (Start Q) p)
    (hf : Answers f g) (hQ : ∀ {a b}, Q a b → Q' (g a) (g b)) : Survives (Start Q') (p >>= f) := by
  refine hp.answer hf ?_
  rintro a r ⟨b, rfl, hab⟩
  exact ⟨g b, rfl, hQ hab⟩

theorem current : Survives Anything current := by
  intro s t h
  rw [run_current, run_current]
  rcases h.current_eq with hend | ⟨hcur, -⟩
  · exact .ended hend fun _ _ ↦ trivial
  · rw [hcur]
    exact .alike _ h

theorem expect {E : Token → Except Mismatch Token → Prop} {k : TokenKind} (hk : k ≠ .endOfInput) :
    Survives E (expect k) := by
  intro s t h
  rcases h.current_eq with hend | ⟨hcur, hnext⟩
  · obtain ⟨m, hm⟩ := FailsAtEnd.expect hk s hend
    rw [hm]
    exact .ended hend nofun
  · rw [run_expect, run_expect, hcur]
    split
    · exact .alike _ hnext
    · exact .failed _ _ h

theorem expectName {E : String → Except Mismatch String → Prop} : Survives E expectName := by
  intro s t h
  rcases h.current_eq with hend | ⟨hcur, hnext⟩
  · obtain ⟨m, hm⟩ := FailsAtEnd.expectName s hend
    rw [hm]
    exact .ended hend nofun
  · rw [run_expectName, run_expectName, hcur]
    split
    · exact .alike _ hnext
    · exact .failed _ _ h

theorem of_ended (hp : Keeps Onward p) {s : State} (h : s.Ended) (y : Except Mismatch α × State) :
    Outcome Anything (p.run.run s) y := .ended (h.onward (hp s)) fun _ _ ↦ trivial

theorem inlineName : Survives Anything inlineName := by
  intro s t h
  rcases h.current_eq with hend | ⟨hcur, hnext⟩
  · exact of_ended onward_motion.inlineName hend _
  · rw [run_inlineName, run_inlineName, hcur]
    split
    · rw [map_eq_pure_bind]
      exact answer (E := Anything) expectName (.pure some) (fun _ ↦ trivial) _ _ hnext
    · exact .alike none h

end Survives

/-- The names behind dots are the same, however many steps are allowed. -/
theorem referenceTail_outcome {s t : State} (h : Cut s t) {m n : Nat} (hm : s.rest.length ≤ m)
    (hn : t.rest.length ≤ n) :
    Outcome Anything ((referenceTail m).run.run s) ((referenceTail n).run.run t) := by
  induction m generalizing s t n with
  | zero =>
    have hend : s.Ended := List.length_eq_zero_iff.mp (Nat.le_zero.mp hm)
    exact Survives.of_ended (onward_motion.referenceTail 0) hend _
  | succ m ih =>
    rcases h.rest_eq with hend | ⟨x, xs, ys, hs, ht, hsx, htx⟩
    · exact Survives.of_ended (onward_motion.referenceTail _) hend _
    · obtain ⟨n, rfl⟩ : ∃ k, n = k + 1 := by
        rw [ht, List.length_cons] at hn
        exact ⟨n - 1, by omega⟩
      rw [run_referenceTail_succ, run_referenceTail_succ, hsx, htx]
      split
      · next hdot =>
        have hend : x.kind ≠ .endOfInput := by rw [hdot]; exact nofun
        have hnext := (h.current_eq.resolve_left fun hs' ↦ nomatch hs.symm.trans hs').2
        have hm' : s.advance.rest.length ≤ m := by
          rw [rest_advance hs hend]
          simpa [hs] using hm
        have hn' : t.advance.rest.length ≤ n := by
          rw [rest_advance ht hend]
          simpa [ht] using hn
        rw [run_bind, run_bind, run_expectName, run_expectName]
        rcases hnext.current_eq with hend | ⟨hcur, hnext'⟩
        · rw [if_neg (by rw [hend.current_kind]; decide)]
          exact .ended hend nofun
        · rw [hcur]
          by_cases hname : t.advance.current.kind.isName
          · simp only [if_pos hname]
            exact (ih hnext' (Nat.le_trans (Onward.advance _).length_le hm')
              (Nat.le_trans (Onward.advance _).length_le hn')).answer (.pure _) fun _ ↦ trivial
          · simp only [if_neg hname]
            exact .failed _ _ hnext
      · exact .alike [] h

theorem Survives.reference : Survives Anything reference := by
  intro s t h
  rw [Parser.reference, run_bind, run_bind, run_expectName, run_expectName]
  rcases h.current_eq with hend | ⟨hcur, hnext⟩
  · rw [if_neg (by rw [hend.current_kind]; decide)]
    exact .ended hend nofun
  · rw [hcur]
    by_cases hname : t.current.kind.isName
    · simp only [if_pos hname]
      rw [run_bind, run_bind, run_get, run_get]
      exact (referenceTail_outcome hnext (Nat.le_refl _) (Nat.le_refl _)).answer (.pure _)
        fun _ ↦ trivial
    · simp only [if_neg hname]
      exact .failed _ _ h

end TwinDiagram.Parser
