import TwinDiagram.Proofs.Token.Shape

namespace TwinDiagram

namespace Text

/-- A carriage return is put in front of every line feed. -/
def returned (cs : List Char) : List Char :=
  cs.flatMap fun c ↦ if c = '\n' then ['\r', '\n'] else [c]

variable {c : Char} {bs cs : List Char}

@[simp] theorem returned_nil : returned [] = [] := rfl

@[simp] theorem returned_append (bs cs : List Char) :
    returned (bs ++ cs) = returned bs ++ returned cs :=
  List.flatMap_append

@[simp] theorem returned_newline (cs : List Char) :
    returned ('\n' :: cs) = '\r' :: '\n' :: returned cs := rfl

@[simp] theorem returned_cons (hc : c ≠ '\n') (cs : List Char) :
    returned (c :: cs) = c :: returned cs := by
  simp [returned, hc]

theorem returned_of_notMem (h : '\n' ∉ cs) : returned cs = cs := by
  induction cs with
  | nil => rfl
  | cons c cs ih =>
    obtain ⟨hc, hcs⟩ := List.ne_and_not_mem_of_not_mem_cons h
    rw [returned_cons hc.symm, ih hcs]

theorem isBlank_of_mem_returned (hbs : ∀ c ∈ bs, isBlank c) : ∀ c ∈ returned bs, isBlank c := by
  intro c hc
  obtain ⟨b, hb, hc⟩ := List.mem_flatMap.mp hc
  split at hc
  · rcases List.mem_pair.mp hc with rfl | rfl <;> rfl
  · exact List.mem_singleton.mp hc ▸ hbs b hb

theorem head?_returned (h : (returned cs).head? = some c) : c = '\r' ∨ cs.head? = some c := by
  cases cs with
  | nil => cases h
  | cons b cs =>
    by_cases hb : b = '\n'
    · subst hb
      exact .inl (Option.some.inj h).symm
    · rw [returned_cons hb] at h
      exact .inr h

end Text

open Text

theorem Position.through_returned (p : Position) (cs : List Char) :
    p.through (returned cs) = p.through cs := by
  induction cs generalizing p with
  | nil => rfl
  | cons c cs ih =>
    by_cases hc : c = '\n'
    · subst hc
      rw [returned_newline]
      exact ih _
    · rw [returned_cons hc]
      exact ih _

theorem commentBody_returned (cs : List Char) :
    commentBody (returned cs) = returned (commentBody cs) := by
  fun_induction commentBody cs with
  | case1 => rfl
  | case2 rest => rfl
  | case3 c rest hmark ih =>
    by_cases hc : c = '\n'
    · subst hc
      rw [returned_newline, returned_newline, commentBody, commentBody, ih]
      · exact fun _ hstar ↦ absurd hstar (by decide)
      · exact fun _ hstar ↦ absurd hstar (by decide)
    · rw [returned_cons hc, returned_cons hc, commentBody, ih]
      rintro later rfl hrest
      obtain h | h := head?_returned (congrArg List.head? hrest)
      · cases h
      · obtain ⟨more, rfl⟩ := List.head?_eq_some_iff.mp h
        exact hmark more rfl rfl

theorem not_infix_returned {body : List Char} (h : ¬ ['*', '/'] <:+: body) :
    ¬ ['*', '/'] <:+: returned body := by
  rw [← commentBody_of_open h, ← commentBody_returned]
  exact (commentBody_cases _).1

/-- The comment of a line takes the carriage return that comes in front of the line feed. -/
theorem tokensAt_lineComment_returned {bs note : List Char} (p : Position)
    (hbs : ∀ c ∈ bs, Text.isBlank c) (hnote : '\n' ∉ note) (ds : List Char) :
    tokensAt p (returned bs ++ '/' :: ('/' :: note ++ returned ('\n' :: ds))) =
      ⟨.lineComment, .ofList ('/' :: '/' :: note ++ ['\r']), p.through bs⟩ ::
        tokensAt (p.through (returned bs ++ '/' :: '/' :: note)) (returned ('\n' :: ds)) := by
  have hnote' : '\n' ∉ note ++ ['\r'] := by simp [hnote]
  have htake : '/' :: note ++ '\r' :: '\n' :: returned ds =
      '/' :: (note ++ ['\r']) ++ '\n' :: returned ds := by simp
  have hskip :
      tokensAt (p.through (returned bs ++ '/' :: '/' :: note)) ('\r' :: '\n' :: returned ds) =
      tokensAt ((p.through (returned bs ++ '/' :: '/' :: note)).through ['\r'])
        ('\n' :: returned ds) :=
    tokensAt_append_blank _ (List.forall_mem_singleton.mpr rfl) ('\n' :: returned ds)
  rw [returned_newline, htake,
    tokensAt_lineComment p (isBlank_of_mem_returned hbs) hnote' (by simp),
    Position.through_returned, hskip, ← Position.through_append]
  simp

section

variable {β : Type} {f : Token → β}

/-- Carriage returns change no token but comments: they stand at the end of those of a line, and at
the end of each line within the others. -/
theorem map_tokensAt_returned
    (hline : ∀ v p, f ⟨.lineComment, .ofList (v ++ ['\r']), p⟩ = f ⟨.lineComment, .ofList v, p⟩)
    (hblock : ∀ v p, f ⟨.blockComment, .ofList (returned v), p⟩ = f ⟨.blockComment, .ofList v, p⟩)
    (p : Position) (cs : List Char) : (tokensAt p (returned cs)).map f = (tokensAt p cs).map f := by
  induction cs using shape_induction generalizing p with
  | blank bs hbs =>
    rw [tokensAt_of_blank p hbs, tokensAt_of_blank p (isBlank_of_mem_returned hbs),
      Position.through_returned]
  | line bs note ds hbs hnote hds ih =>
    have hreturned : returned (bs ++ '/' :: ('/' :: note ++ ds)) =
        returned bs ++ '/' :: ('/' :: note ++ returned ds) := by
      simp [returned_of_notMem hnote]
    have hplace : p.through (returned bs ++ '/' :: '/' :: note) =
        p.through (bs ++ '/' :: '/' :: note) := by
      rw [← Position.through_returned p (bs ++ '/' :: '/' :: note)]
      simp [returned_of_notMem hnote]
    rw [hreturned, tokensAt_lineComment p hbs hnote hds, List.map_cons, ← ih, ← hplace]
    match ds, hds with
    | [], hds =>
      rw [returned_nil, tokensAt_lineComment p (isBlank_of_mem_returned hbs) hnote hds,
        Position.through_returned]
      rfl
    | c :: ds, hds =>
      obtain rfl := hds c rfl
      rw [tokensAt_lineComment_returned p hbs hnote, List.map_cons, hline]
  | block bs body ds hbs hbody ih =>
    have hreturned : returned (bs ++ '/' :: ('*' :: (body ++ ['*', '/']) ++ ds)) =
        returned bs ++ '/' :: ('*' :: (returned body ++ ['*', '/']) ++ returned ds) := by simp
    have hplace : p.through (returned bs ++ '/' :: '*' :: (returned body ++ ['*', '/'])) =
        p.through (bs ++ '/' :: '*' :: (body ++ ['*', '/'])) := by
      rw [← Position.through_returned p (bs ++ '/' :: '*' :: (body ++ ['*', '/']))]
      simp
    rw [hreturned, tokensAt_blockComment p (isBlank_of_mem_returned hbs) (not_infix_returned hbody),
      tokensAt_blockComment p hbs hbody, List.map_cons, List.map_cons, hblock, hplace, ih,
      Position.through_returned]
  | unclosed bs body hbs hbody =>
    have hreturned : returned (bs ++ '/' :: '*' :: body) = returned bs ++
        '/' :: '*' :: returned body := by
      simp
    have hplace := Position.through_returned p (bs ++ '/' :: '*' :: body)
    rw [hreturned] at hplace ⊢
    rw [tokensAt_openComment p (isBlank_of_mem_returned hbs) (not_infix_returned hbody),
      tokensAt_openComment p hbs hbody, hplace, Position.through_returned]
    simp only [List.map_cons, hblock]
  | plain bs x ws ds hbs hx hlength hkind hws hds ih =>
    have hx' : x ≠ '\n' := by
      rintro rfl
      cases hx
    have hws' : '\n' ∉ ws := fun h ↦ absurd (hws _ h) (by decide)
    have hreturned : returned (bs ++ x :: (ws ++ ds)) = returned bs ++
        x :: (ws ++ returned ds) := by
      simp [hx', returned_of_notMem hws']
    have hplace : p.through (returned bs ++ x :: ws) = p.through (bs ++ x :: ws) := by
      rw [← Position.through_returned p (bs ++ x :: ws)]
      simp [hx', returned_of_notMem hws']
    have hfirst : Lexeme.first x (ws ++ returned ds) = Lexeme.first x (ws ++ ds) := by
      refine Lexeme.first_append_congr (Nat.le_of_eq hlength) (fun h ↦ absurd h hkind) fun c hc ↦ ?_
      obtain rfl | hc := head?_returned hc
      · exact Lexeme.endsBefore_of_isBlank rfl x ws
      · exact hds c hc
    rw [hreturned, tokensAt_lexeme p (isBlank_of_mem_returned hbs) hx (hfirst ▸ hlength),
      tokensAt_lexeme p hbs hx hlength, hfirst, List.map_cons, List.map_cons, hplace, ih,
      Position.through_returned]

end

end TwinDiagram
