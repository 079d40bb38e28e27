import TwinDiagram.Proofs.Token.Lexer

namespace TwinDiagram

/-- Where a text has come to: past a slash that may open a comment, within a comment, past an
asterisk that may close it. -/
inductive Region where
  | code
  | slash
  | line
  | block
  | star
deriving DecidableEq, Repr

namespace Region

def step : Region → Char → Region
  | code, c => if c = '/' then slash else code
  | slash, c => if c = '/' then line else if c = '*' then block else code
  | line, c => if c = '\n' then code else line
  | block, c => if c = '*' then star else block
  | star, c => if c = '/' then code else if c = '*' then star else block

/-- The region at the end of a text. -/
def after (r : Region) (cs : List Char) : Region := cs.foldl step r

def IsOpen (r : Region) : Prop := r = block ∨ r = star

instance (r : Region) : Decidable r.IsOpen := inferInstanceAs (Decidable (_ ∨ _))

variable {c : Char} {cs ds : List Char}

theorem after_cons (r : Region) (c : Char) (cs : List Char) :
    r.after (c :: cs) = (r.step c).after cs := rfl

theorem after_code_append (h : '/' ∉ cs) (ds : List Char) :
    code.after (cs ++ ds) = code.after ds := by
  induction cs with
  | nil => rfl
  | cons c cs ih =>
    rw [List.mem_cons, not_or] at h
    rw [List.cons_append, after_cons, step, if_neg (Ne.symm h.1), ih h.2]

theorem after_line_dropWhile (h : ¬ (line.after cs).IsOpen) :
    ¬ (code.after (cs.dropWhile (· != '\n'))).IsOpen := by
  induction cs with
  | nil => decide
  | cons c cs ih =>
    by_cases hc : c = '\n'
    · subst hc
      exact h
    · rw [List.dropWhile_cons_of_pos (by simpa using hc)]
      rw [after_cons, step, if_neg hc] at h
      exact ih h

theorem commentBody_cons (hc : c ≠ '*') (cs : List Char) :
    commentBody (c :: cs) = c :: commentBody cs := by
  rw [commentBody]
  rintro _ rfl
  exact absurd rfl hc

/-- A block comment that is closed ends at its first closing mark, whatever follows. -/
theorem closed_of_after :
    (¬ (block.after cs).IsOpen → ∃ body rest, cs = body ++ '*' :: '/' :: rest ∧
      (∀ ds, commentBody (cs ++ ds) = body) ∧ ¬ (code.after rest).IsOpen) ∧
    (¬ (star.after cs).IsOpen → ∃ body rest, '*' :: cs = body ++ '*' :: '/' :: rest ∧
      (∀ ds, commentBody ('*' :: cs ++ ds) = body) ∧ ¬ (code.after rest).IsOpen) := by
  -- Past an asterisk the next character decides, so both regions go through the text together.
  induction cs with
  | nil => exact ⟨fun h ↦ absurd (.inl rfl) h, fun h ↦ absurd (.inr rfl) h⟩
  | cons c cs ih =>
    obtain ⟨hblock, hstar⟩ := ih
    constructor
    · intro h
      rw [after_cons, step] at h
      by_cases hc : c = '*'
      · subst hc
        exact hstar h
      · rw [if_neg hc] at h
        obtain ⟨body, rest, rfl, hbody, hrest⟩ := hblock h
        refine ⟨c :: body, rest, rfl, fun ds ↦ ?_, hrest⟩
        rw [List.cons_append, commentBody_cons hc, hbody]
    · intro h
      rw [after_cons, step] at h
      by_cases hslash : c = '/'
      · subst hslash
        exact ⟨[], cs, rfl, fun ds ↦ rfl, h⟩
      rw [if_neg hslash] at h
      have hbody (xs : List Char) :
          commentBody ('*' :: c :: xs) = '*' :: commentBody (c :: xs) := by
        rw [commentBody]
        rintro _ - heq
        exact hslash (List.cons.inj heq).1
      by_cases hc : c = '*'
      · subst hc
        obtain ⟨body, rest, heq, hclosed, hrest⟩ := hstar h
        refine ⟨'*' :: body, rest, by rw [heq]; rfl, fun ds ↦ ?_, hrest⟩
        rw [List.cons_append, List.cons_append, hbody, ← List.cons_append, hclosed]
      · rw [if_neg hc] at h
        obtain ⟨body, rest, rfl, hclosed, hrest⟩ := hblock h
        refine ⟨'*' :: c :: body, rest, rfl, fun ds ↦ ?_, hrest⟩
        rw [List.cons_append, List.cons_append, hbody, commentBody_cons hc, hclosed]

end Region

namespace Lexeme

variable {x : Char} {cs : List Char}

theorem takeWhile_append_stop {p : Char → Bool} {c : Char} (hp : p c = false) (cs ds : List Char) :
    (cs ++ c :: ds).takeWhile p = cs.takeWhile p := by
  induction cs with
  | nil => simp [hp]
  | cons b cs ih =>
    rw [List.cons_append, List.takeWhile_cons, List.takeWhile_cons, ih]

theorem after_dropWhile_identifier (cs : List Char) :
    Region.code.after (cs.dropWhile isIdentifierChar) = Region.code.after cs := by
  have hslash : '/' ∉ cs.takeWhile isIdentifierChar := by
    intro hslash
    have hp : isIdentifierChar '/' := List.all_eq_true.mp List.all_takeWhile '/' hslash
    exact absurd hp (by decide)
  have happend := Region.after_code_append hslash (cs.dropWhile isIdentifierChar)
  rw [← happend, List.takeWhile_append_dropWhile]

/-- A slash that opens no comment is passed like any other character. -/
theorem after_single (hline : ¬ (x = '/' ∧ cs.head? = some '/'))
    (hblock : ¬ (x = '/' ∧ cs.head? = some '*')) :
    (Region.code.after (x :: cs)).IsOpen ↔ (Region.code.after cs).IsOpen := by
  rw [Region.after_cons, Region.step]
  by_cases hx : x = '/'
  · rw [if_pos hx]
    cases cs with
    | nil => decide
    | cons y cs =>
      have hy : y ≠ '/' := fun hy ↦ hline ⟨hx, by rw [hy]; rfl⟩
      have hy' : y ≠ '*' := fun hy ↦ hblock ⟨hx, by rw [hy]; rfl⟩
      rw [Region.after_cons, Region.after_cons, Region.step, Region.step, if_neg hy, if_neg hy',
        if_neg hy]
  · rw [if_neg hx]

/-- A lexeme that is no comment does not open one. -/
theorem isOpen_drop_iff (hline : (first x cs).kind ≠ .lineComment)
    (hblock : (first x cs).kind ≠ .blockComment) :
    (Region.code.after ((x :: cs).drop (first x cs).length)).IsOpen ↔
      (Region.code.after (x :: cs)).IsOpen := by
  have hfirst := isFirst x cs
  generalize first x cs = l at hline hblock hfirst ⊢
  cases hfirst with
  | line _ => exact absurd rfl hline
  | block _ => exact absurd rfl hblock
  | declaration _ =>
    simp only [declaration, List.length_cons, List.drop_succ_cons, drop_takeWhile,
      after_dropWhile_identifier]
    rfl
  | word _ _ => rw [word, drop_takeWhile, after_dropWhile_identifier]
  | single hslashes hstar _ _ => exact (after_single hslashes hstar).symm

/-- A lexeme in front of a line break that is in no block comment is the same whatever follows. -/
theorem first_line (h : ¬ (Region.code.after (x :: cs)).IsOpen) (ds : List Char) :
    first x (cs ++ '\n' :: ds) = first x cs ∧ (first x cs).length ≤ cs.length + 1 ∧
      ¬ (Region.code.after ((x :: cs).drop (first x cs).length)).IsOpen := by
  have hhead {y : Char} (hy : y ≠ '\n') :
      (cs ++ '\n' :: ds).head? = some y ↔ cs.head? = some y := by
    cases cs with
    | nil => simp [Ne.symm hy]
    | cons c cs => rfl
  have hword : isIdentifierChar '\n' = false := by decide
  have hlength (p : Char → Bool) (cs : List Char) : (cs.takeWhile p).length ≤ cs.length :=
    (List.takeWhile_prefix p).length_le
  have hfirst := isFirst x cs
  generalize first x cs = l at hfirst ⊢
  cases hfirst with
  | line cs =>
    have hvalue := takeWhile_append_stop (p := (· != '\n')) (c := '\n') rfl ('/' :: '/' :: cs) ds
    refine ⟨(IsFirst.line (cs ++ '\n' :: ds)).first_eq.trans ?_, hlength _ _, ?_⟩
    · simp only [lineComment, List.cons_append] at hvalue ⊢
      rw [hvalue]
    · rw [lineComment, drop_takeWhile]
      exact Region.after_line_dropWhile h
  | block cs =>
    obtain ⟨body, rest, rfl, hbody, hrest⟩ := Region.closed_of_after.1 h
    have hcomment (ds : List Char) : blockComment (body ++ '*' :: '/' :: rest ++ ds) =
        ⟨.blockComment, body, body.length + 2 + 2⟩ := by
      rw [blockComment, hbody, Nat.add_comm 2]
    have hclosed := hcomment []
    rw [List.append_nil] at hclosed
    rw [hclosed]
    refine ⟨(IsFirst.block _).first_eq.trans (hcomment _), ?_, ?_⟩
    · simp only [List.length_cons, List.length_append]
      omega
    · rw [List.drop_succ_cons, List.drop_succ_cons, List.drop_append,
        List.drop_eq_nil_of_le (by omega), Nat.add_sub_cancel_left]
      exact hrest
  | declaration cs =>
    refine ⟨(IsFirst.declaration _).first_eq.trans ?_, Nat.succ_le_succ (hlength _ _), ?_⟩
    · simp only [declaration, takeWhile_append_stop hword]
    · simp only [declaration, List.length_cons, List.drop_succ_cons, drop_takeWhile]
      rwa [after_dropWhile_identifier]
  | word cs hstart =>
    refine ⟨(IsFirst.word _ hstart).first_eq.trans ?_, hlength _ _, ?_⟩
    · simp only [word, ← List.cons_append, takeWhile_append_stop hword]
    · rwa [word, drop_takeWhile, after_dropWhile_identifier]
  | single hslashes hstar hsign hstart =>
    refine ⟨IsFirst.first_eq (.single ?_ ?_ hsign hstart), Nat.succ_le_succ (Nat.zero_le _),
      (not_congr (after_single hslashes hstar)).mp h⟩
    · rwa [hhead (by decide)]
    · rwa [hhead (by decide)]

end Lexeme

end TwinDiagram
