import TwinDiagram.Proofs.Token.Lexer

namespace TwinDiagram

namespace Position

def Before (p q : Position) : Prop := p.line < q.line ∨ p.line = q.line ∧ p.column < q.column

def AtMost (p q : Position) : Prop := p = q ∨ p.Before q

variable {p q r : Position}

theorem Before.trans (h : p.Before q) (h' : q.Before r) : p.Before r := by
  unfold Before at *
  omega

theorem AtMost.trans (h : p.AtMost q) (h' : q.AtMost r) : p.AtMost r := by
  rcases h with rfl | h
  · exact h'
  · rcases h' with rfl | h'
    · exact .inr h
    · exact .inr (h.trans h')

theorem Before.trans_atMost (h : p.Before q) (h' : q.AtMost r) : p.Before r := by
  rcases h' with rfl | h'
  · exact h
  · exact h.trans h'

theorem AtMost.line_le (h : p.AtMost q) : p.line ≤ q.line := by
  rcases h with rfl | h
  · exact Int.le_refl _
  · unfold Before at h
    omega

theorem before_after (p : Position) (c : Char) : p.Before (p.after c) := by
  unfold after Before
  split
  · left
    exact Int.lt_succ _
  · right
    exact ⟨rfl, Int.lt_succ _⟩

theorem one_le_column_after (h : 1 ≤ p.column) (c : Char) : 1 ≤ (p.after c).column := by
  unfold after
  split
  · exact Int.le_refl _
  · show 1 ≤ p.column + 1
    omega

theorem line_after (h : c ≠ '\n') : (p.after c).line = p.line := by
  rw [after, if_neg h]

end Position

open Position

namespace Cursor

variable {c : Cursor} {x : Char} {xs : List Char}

theorem position_advance (h : c.rest = x :: xs) : c.advance.position = c.position.after x := by
  simp [advance, h]

theorem advance_of_nil (h : c.rest = []) : c.advance = c := by simp [advance, h]

theorem position_advance_atMost (c : Cursor) : c.position.AtMost c.advance.position := by
  cases h : c.rest with
  | nil => exact .inl (by rw [advance_of_nil h])
  | cons x xs => exact .inr (position_advance h ▸ before_after _ x)

theorem position_forward_atMost (n : Nat) (c : Cursor) :
    c.position.AtMost (c.forward n).position := by
  induction n generalizing c with
  | zero => exact .inl rfl
  | succ n ih => exact (position_advance_atMost c).trans (ih c.advance)

theorem position_before_forward (h : c.rest = x :: xs) {n : Nat} (hn : 0 < n) :
    c.position.Before (c.forward n).position := by
  cases n with
  | zero => cases hn
  | succ n =>
    exact (position_advance h ▸ before_after _ x).trans_atMost (position_forward_atMost n c.advance)

theorem one_le_column_forward (h : 1 ≤ c.position.column) (n : Nat) :
    1 ≤ (c.forward n).position.column := by
  induction n generalizing c with
  | zero => exact h
  | succ n ih =>
    refine ih ?_
    cases hr : c.rest with
    | nil => rwa [advance_of_nil hr]
    | cons x xs => exact position_advance hr ▸ one_le_column_after h x

/-- Characters within a line do not lead to another one. -/
theorem line_forward {n : Nat} (h : ∀ y ∈ c.rest.take n, y ≠ '\n') :
    (c.forward n).position.line = c.position.line := by
  induction n generalizing c with
  | zero => rfl
  | succ n ih =>
    rw [forward]
    cases hr : c.rest with
    | nil =>
      rw [advance_of_nil hr]
      exact ih fun y hy ↦ by simp [hr] at hy
    | cons x xs =>
      have hrest : c.advance.rest = xs := by rw [rest_advance, hr]; rfl
      rw [hr, List.take_succ_cons] at h
      rw [ih fun y hy ↦ h y (.tail _ (hrest ▸ hy)), position_advance hr, line_after (h x (.head _))]

theorem position_skipBlanks_atMost (c : Cursor) : c.position.AtMost c.skipBlanks.position :=
  position_forward_atMost _ c

theorem atMost_of_mem_tokens {t : Token} (ht : t ∈ c.tokens.1) :
    c.skipBlanks.position.AtMost t.position := by
  fun_induction tokens c with
  | case1 c hrest =>
    rw [List.mem_singleton.mp ht]
    exact .inl rfl
  | case2 c x rest hrest found later ih =>
    rcases List.mem_cons.mp ht with rfl | ht
    · exact .inl rfl
    · exact (position_forward_atMost _ _).trans ((position_skipBlanks_atMost _).trans (ih ht))

theorem one_le_column_of_mem_tokens (hc : 1 ≤ c.position.column) {t : Token}
    (ht : t ∈ c.tokens.1) : 1 ≤ t.column := by
  fun_induction tokens c with
  | case1 c hrest =>
    rw [List.mem_singleton.mp ht]
    exact one_le_column_forward hc _
  | case2 c x rest hrest found later ih =>
    rcases List.mem_cons.mp ht with rfl | ht
    · exact one_le_column_forward hc _
    · exact ih (one_le_column_forward (one_le_column_forward hc _) _) ht

/-- At the end of a line, further tokens stand on later lines. -/
theorem line_lt_of_mem_tokens (hc : ∀ x ∈ c.rest.head?, x = '\n') {t : Token}
    (ht : t ∈ c.tokens.1) (hend : t.kind ≠ .endOfInput) : c.position.line < t.line := by
  cases hr : c.rest with
  | nil =>
    have hnil : c.skipBlanks.rest = [] := by rw [rest_skipBlanks, hr, List.dropWhile_nil]
    rw [tokens_of_nil hnil, List.mem_singleton] at ht
    rw [ht] at hend
    exact absurd rfl hend
  | cons x xs =>
    obtain rfl : x = '\n' := hc x (by simp [hr])
    have hblank : Text.isBlank '\n' := by decide
    have hskip : c.skipBlanks = c.advance.forward (xs.takeWhile Text.isBlank).length := by
      simp [skipBlanks, take, hr, hblank, forward]
    have hline : c.position.line < c.advance.position.line := by
      rw [position_advance hr, Position.after, if_pos rfl]
      exact Int.lt_succ _
    have hle := ((position_forward_atMost _ _).trans (hskip ▸ atMost_of_mem_tokens ht)).line_le
    exact Int.lt_of_lt_of_le hline hle

end Cursor

def Token.Precedes (s t : Token) : Prop :=
  s.position.Before t.position ∧
    (s.kind = .lineComment → t.kind ≠ .endOfInput → s.line < t.line)

/-- Behind a lexeme, a comment in particular, the text goes on. -/
theorem Cursor.precedes_of_mem_tokens {c : Cursor} {x : Char} {rest : List Char}
    (hrest : c.rest = x :: rest) {t : Token}
    (ht : t ∈ (c.forward (Lexeme.first x rest).length).tokens.1) :
    Token.Precedes ⟨(Lexeme.first x rest).kind, .ofList (Lexeme.first x rest).value, c.position⟩
      t := by
  have hle := (position_skipBlanks_atMost _).trans (atMost_of_mem_tokens ht)
  refine ⟨(position_before_forward hrest (Lexeme.first_length_pos x rest)).trans_atMost hle,
    fun hkind hend ↦ ?_⟩
  rw [Lexeme.first_of_lineComment hkind] at ht
  have hlength : (Lexeme.lineComment (x :: rest)).length =
      ((x :: rest).takeWhile (· != '\n')).length := rfl
  rw [hlength] at ht
  have hline : (c.forward ((x :: rest).takeWhile (· != '\n')).length).position.line =
      c.position.line := by
    refine line_forward fun y hy ↦ ?_
    rw [hrest, ← List.prefix_iff_eq_take.mp (List.takeWhile_prefix _)] at hy
    simpa using List.all_eq_true.mp List.all_takeWhile y hy
  have hhead : ∀ y ∈ (c.forward ((x :: rest).takeWhile (· != '\n')).length).rest.head?,
      y = '\n' := by
    intro y hy
    have hstop := List.head?_dropWhile_not (· != '\n') (x :: rest)
    rw [rest_forward, hrest, drop_takeWhile] at hy
    rw [Option.mem_def.mp hy] at hstop
    simpa using hstop
  have hlt := line_lt_of_mem_tokens hhead ht hend
  rwa [hline] at hlt

theorem Cursor.pairwise_tokens (c : Cursor) : c.tokens.1.Pairwise Token.Precedes := by
  fun_induction tokens c with
  | case1 => exact List.pairwise_singleton _ _
  | case2 c x rest hrest found later ih =>
    exact List.pairwise_cons.mpr ⟨fun t ht ↦ precedes_of_mem_tokens hrest ht, ih⟩

end TwinDiagram
