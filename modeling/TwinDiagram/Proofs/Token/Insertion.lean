import Mathlib.Data.List.TakeWhile
import TwinDiagram.Proofs.Text.Words
import TwinDiagram.Proofs.Token.Comments
import TwinDiagram.Proofs.Token.Ending

namespace TwinDiagram

section

variable {α : Type} {p : α → Bool} {xs ys zs : List α}

/-- What stops at the end of `xs` at the latest stops there as well in front of `zs`. -/
theorem takeWhile_append_congr (h : ((xs ++ ys).takeWhile p).length ≤ xs.length)
    (hzs : ∀ c ∈ zs.head?, p c = false) : (xs ++ zs).takeWhile p = (xs ++ ys).takeWhile p := by
  induction xs with
  | nil =>
    have hnil : ys.takeWhile p = [] := List.length_eq_zero_iff.mp (Nat.le_zero.mp h)
    rw [List.nil_append, List.nil_append, hnil]
    cases zs with
    | nil => rfl
    | cons z zs => rw [List.takeWhile_cons_of_neg (by simp [hzs z rfl])]
  | cons x xs ih =>
    simp only [List.cons_append, List.takeWhile_cons] at h ⊢
    split at h
    · next hx => rw [if_pos hx, if_pos hx, ih (Nat.le_of_succ_le_succ h)]
    · next hx => rw [if_neg hx, if_neg hx]

theorem takeWhile_append_of_lt (h : ((xs ++ ys).takeWhile p).length < xs.length) (zs : List α) :
    (xs ++ zs).takeWhile p = (xs ++ ys).takeWhile p := by
  induction xs with
  | nil => exact absurd h (Nat.not_lt_zero _)
  | cons x xs ih =>
    simp only [List.cons_append, List.takeWhile_cons] at h ⊢
    split at h
    · next hx => rw [if_pos hx, if_pos hx, ih (Nat.lt_of_succ_lt_succ h)]
    · next hx => rw [if_neg hx, if_neg hx]

end

theorem commentBody_of_open {cs : List Char} (h : ¬ ['*', '/'] <:+: cs) : commentBody cs = cs := by
  refine (commentBody_cases cs).2.resolve_right ?_
  rintro ⟨rest, hrest⟩
  exact h ⟨commentBody cs, rest, by rw [List.append_assoc]; exact hrest.symm⟩

theorem commentBody_append_of_lt {cs ds : List Char}
    (h : (commentBody (cs ++ ds)).length + 2 ≤ cs.length)
    (es : List Char) : commentBody (cs ++ es) = commentBody (cs ++ ds) := by
  obtain ⟨hfree, hrest⟩ := commentBody_cases (cs ++ ds)
  obtain ⟨rest, hrest⟩ := hrest.resolve_left fun hall ↦ by
    rw [hall, List.length_append] at h
    omega
  generalize commentBody (cs ++ ds) = body at *
  have hprefix : body ++ ['*', '/'] <+: cs := by
    refine List.prefix_of_prefix_length_le ⟨rest, ?_⟩ (List.prefix_append cs ds) ?_
    · rw [hrest, List.append_assoc]
      rfl
    · rw [List.length_append]
      exact h
  obtain ⟨later, rfl⟩ := hprefix
  rw [List.append_assoc, List.append_assoc]
  exact commentBody_append hfree (later ++ es)

namespace Lexeme

variable {x : Char} {cs ds es : List Char}

/-- Right behind the characters `x :: ws` a lexeme ends in front of `c`, where it has not ended
before and is no comment. -/
def EndsBefore (x : Char) (ws : List Char) (c : Char) : Prop :=
  (isIdentifierChar c → x ≠ '#' ∧ isIdentifierStart x = false) ∧
    (x = '/' → ws = [] → c ≠ '/' ∧ c ≠ '*')

theorem endsBefore_of_isBlank {c : Char} (hc : Text.isBlank c) (x : Char) (ws : List Char) :
    EndsBefore x ws c := by
  refine ⟨fun hchar ↦ ?_, fun _ _ ↦ ⟨?_, ?_⟩⟩
  · rw [Text.not_isIdentifierChar_of_isBlank hc] at hchar
    cases hchar
  all_goals
    rintro rfl
    cases hc

/-- A lexeme that ends at the end of `cs` at the latest is the same in front of anything it ends
before. A comment that runs to the end of its line must end earlier. -/
theorem first_append_congr (hfits : (first x (cs ++ ds)).length ≤ cs.length + 1)
    (hline : (first x (cs ++ ds)).kind = .lineComment → (first x (cs ++ ds)).length ≤ cs.length)
    (hes : ∀ c ∈ es.head?, EndsBefore x cs c) : first x (cs ++ es) = first x (cs ++ ds) := by
  have hstop (hx : ¬ (x ≠ '#' ∧ isIdentifierStart x = false)) :
      ∀ c ∈ es.head?, isIdentifierChar c = false := fun c hc ↦
    Bool.eq_false_iff.mpr fun hchar ↦ hx ((hes c hc).1 hchar)
  have hhead {y : Char} (hy : y = '/' ∨ y = '*') (hx : x = '/') (h : (cs ++ es).head? = some y) :
      (cs ++ ds).head? = some y := by
    cases cs with
    | nil =>
      obtain ⟨hslash, hstar⟩ := (hes y h).2 hx rfl
      exact absurd hy (not_or.mpr ⟨hslash, hstar⟩)
    | cons c cs => exact h
  have hfirst := isFirst x (cs ++ ds)
  generalize hcs : cs ++ ds = zs at hfirst
  rw [hcs] at hfits hline
  generalize first x zs = l at hfirst hfits hline ⊢
  cases hfirst with
  | line ds' =>
    have hle := hline rfl
    cases cs with
    | nil => simp [lineComment] at hle
    | cons c cs =>
      rw [List.cons_append] at hcs
      obtain ⟨rfl, rfl⟩ := List.cons.inj hcs
      have hlt : (('/' :: '/' :: cs ++ ds).takeWhile (· != '\n')).length <
          ('/' :: '/' :: cs).length :=
        Nat.lt_succ_of_le hle
      have htake := takeWhile_append_of_lt hlt es
      refine (IsFirst.line (cs ++ es)).first_eq.trans ?_
      simp only [lineComment, ← List.cons_append, htake]
  | block ds' =>
    simp only [blockComment] at hfits
    cases cs with
    | nil =>
      rw [List.length_nil] at hfits
      omega
    | cons c cs =>
      rw [List.cons_append] at hcs
      obtain ⟨rfl, rfl⟩ := List.cons.inj hcs
      rw [List.length_cons] at hfits
      have hbody : commentBody (cs ++ es) = commentBody (cs ++ ds) :=
        commentBody_append_of_lt (by omega) es
      refine (IsFirst.block (cs ++ es)).first_eq.trans ?_
      rw [blockComment, hbody, blockComment]
  | declaration zs =>
    subst hcs
    have htake := takeWhile_append_congr (Nat.le_of_succ_le_succ hfits) (hstop fun hx ↦ hx.1 rfl)
    refine (IsFirst.declaration (cs ++ es)).first_eq.trans ?_
    simp only [declaration, htake]
  | word zs hstart =>
    subst hcs
    have hfits : ((x :: cs ++ ds).takeWhile isIdentifierChar).length ≤ (x :: cs).length := hfits
    have htake := takeWhile_append_congr hfits (hstop fun hx ↦ Bool.eq_false_iff.mp hx.2 hstart)
    refine (IsFirst.word (cs ++ es) hstart).first_eq.trans ?_
    simp only [word, ← List.cons_append, htake]
  | single hslashes hstar hsign hstart =>
    subst hcs
    exact IsFirst.first_eq (.single (fun h ↦ hslashes ⟨h.1, hhead (.inl rfl) h.1 h.2⟩)
      (fun h ↦ hstar ⟨h.1, hhead (.inr rfl) h.1 h.2⟩) hsign hstart)

theorem first_lineComment {note : List Char} (hnote : '\n' ∉ note)
    (hds : ∀ c ∈ ds.head?, c = '\n') :
    first '/' (('/' :: note) ++ ds) = ⟨.lineComment, '/' :: '/' :: note,
      ('/' :: '/' :: note).length⟩ := by
  have htake : ('/' :: '/' :: note ++ ds).takeWhile (· != '\n') = '/' :: '/' :: note := by
    rw [List.takeWhile_append_of_pos]
    · cases ds with
      | nil => simp
      | cons c ds => simp [hds c rfl]
    · simp only [List.mem_cons, bne_iff_ne, ne_eq]
      rintro c (rfl | rfl | hc)
      · decide
      · decide
      · exact fun hbreak ↦ hnote (hbreak ▸ hc)
  refine (IsFirst.line (note ++ ds)).first_eq.trans ?_
  simp only [lineComment, ← List.cons_append, htake]

theorem first_blockComment {body : List Char} (hbody : ¬ ['*', '/'] <:+: body) (ds : List Char) :
    first '/' ('*' :: (body ++ ['*', '/']) ++ ds) = ⟨.blockComment, body, 2 + body.length + 2⟩ := by
  rw [← first_comment hbody ds]
  simp

theorem length_first_le (h : (first x cs).kind ≠ .blockComment) :
    (first x cs).length ≤ (x :: cs).length := by
  have hlength (p : Char → Bool) (cs : List Char) : (cs.takeWhile p).length ≤ cs.length :=
    (List.takeWhile_prefix p).length_le
  have hfirst := isFirst x cs
  generalize first x cs = l at h hfirst ⊢
  cases hfirst with
  | line _ => exact hlength _ _
  | block _ => exact absurd rfl h
  | declaration _ => exact Nat.succ_le_succ (hlength _ _)
  | word _ _ => exact hlength _ _
  | single _ _ _ _ => exact Nat.succ_le_succ (Nat.zero_le _)

theorem exists_append_of_drop {rest : List Char} (h : (x :: rest).drop (first x rest).length = ds)
    (hds : ds ≠ []) : ∃ ws, rest = ws ++ ds ∧ (first x rest).length = (x :: ws).length := by
  obtain ⟨n, hn⟩ : ∃ n, (first x rest).length = n + 1 :=
    ⟨_, (Nat.sub_add_cancel (first_length_pos x rest)).symm⟩
  rw [hn, List.drop_succ_cons] at h
  have hlength : n < rest.length := by
    by_contra hle
    exact hds (h ▸ List.drop_eq_nil_of_le (by omega))
  refine ⟨rest.take n, by rw [← h, List.take_append_drop], ?_⟩
  rw [hn, List.length_cons, List.length_take_of_le (Nat.le_of_lt hlength)]

theorem head?_drop_of_lineComment (h : (first x cs).kind = .lineComment) :
    ∀ c ∈ ((x :: cs).drop (first x cs).length).head?, c = '\n' := by
  rw [first_of_lineComment h]
  intro c hc
  have hstop := List.head?_dropWhile_not (· != '\n') (x :: cs)
  simp only [lineComment, drop_takeWhile] at hc
  rw [Option.mem_def.mp hc] at hstop
  simpa using hstop

end Lexeme

section

variable {bs cs ds es ws body note : List Char} {x : Char} (p : Position)

theorem tokensAt_lexeme (hbs : ∀ c ∈ bs, Text.isBlank c) (hx : Text.isBlank x = false)
    (hlength : (Lexeme.first x (ws ++ cs)).length = (x :: ws).length) :
    tokensAt p (bs ++ x :: (ws ++ cs)) =
      ⟨(Lexeme.first x (ws ++ cs)).kind, .ofList (Lexeme.first x (ws ++ cs)).value, p.through bs⟩ ::
        tokensAt (p.through (bs ++ x :: ws)) cs := by
  rw [tokensAt_append_cons p hbs hx, hlength, ← List.cons_append, List.take_left, List.drop_left,
    Position.through_append]

theorem tokensAt_lineComment (hbs : ∀ c ∈ bs, Text.isBlank c) (hnote : '\n' ∉ note)
    (hds : ∀ c ∈ ds.head?, c = '\n') : tokensAt p (bs ++ '/' :: ('/' :: note ++ ds)) =
      ⟨.lineComment, .ofList ('/' :: '/' :: note), p.through bs⟩ ::
        tokensAt (p.through (bs ++ '/' :: '/' :: note)) ds := by
  have hfirst := Lexeme.first_lineComment hnote hds
  rw [tokensAt_lexeme p hbs (by decide) (by rw [hfirst]), hfirst]

theorem tokensAt_blockComment (hbs : ∀ c ∈ bs, Text.isBlank c) (hbody : ¬ ['*', '/'] <:+: body) :
    tokensAt p (bs ++ '/' :: ('*' :: (body ++ ['*', '/']) ++ ds)) =
      ⟨.blockComment, .ofList body, p.through bs⟩ ::
        tokensAt (p.through (bs ++ '/' :: '*' :: (body ++ ['*', '/']))) ds := by
  have hfirst := Lexeme.first_blockComment hbody ds
  rw [tokensAt_lexeme p hbs (by decide) (by rw [hfirst]; simp; omega), hfirst]

theorem tokensAt_openComment (hbs : ∀ c ∈ bs, Text.isBlank c) (hcs : ¬ ['*', '/'] <:+: cs) :
    tokensAt p (bs ++ '/' :: '*' :: cs) =
      [⟨.blockComment, .ofList cs, p.through bs⟩, .endAt (p.through (bs ++ '/' :: '*' :: cs))] := by
  have hfirst : Lexeme.first '/' ('*' :: cs) = ⟨.blockComment, cs, 2 + cs.length + 2⟩ := by
    show Lexeme.blockComment cs = _
    rw [Lexeme.blockComment, commentBody_of_open hcs]
  have hle : ('/' :: '*' :: cs).length ≤ 2 + cs.length + 2 := by
    simp only [List.length_cons]
    omega
  rw [tokensAt_append_cons p hbs (by decide), hfirst, List.take_of_length_le hle,
    List.drop_eq_nil_of_le hle, tokensAt_of_blank _ (List.forall_mem_nil _),
    Position.through_append]
  rfl

/-- A lexeme stays what it is when something else comes some way behind it, a space first. A comment
of a line must not come right in front of that. -/
theorem tokensAt_front (hbs : ∀ c ∈ bs, Text.isBlank c) (hx : Text.isBlank x = false)
    (hlength : (Lexeme.first x (ws ++ (cs ++ ds))).length = (x :: ws).length)
    (hline : (Lexeme.first x (ws ++ (cs ++ ds))).kind = .lineComment → cs ≠ [])
    (hes : ∀ c ∈ es.head?, c = ' ') :
    tokensAt p (bs ++ x :: (ws ++ (cs ++ es))) =
      ⟨(Lexeme.first x (ws ++ (cs ++ ds))).kind, .ofList (Lexeme.first x (ws ++ (cs ++ ds))).value,
          p.through bs⟩ :: tokensAt (p.through (bs ++ x :: ws)) (cs ++ es) := by
  have hfirst : Lexeme.first x (ws ++ (cs ++ es)) = Lexeme.first x (ws ++ (cs ++ ds)) := by
    simp only [← List.append_assoc] at hlength hline ⊢
    refine Lexeme.first_append_congr ?_ (fun hkind ↦ ?_) fun c hc ↦
      Lexeme.endsBefore_of_isBlank (hes c hc ▸ rfl) x _
    · rw [hlength, List.length_cons, List.length_append]
      omega
    · have hpos := List.length_pos_of_ne_nil (hline hkind)
      rw [hlength, List.length_cons, List.length_append]
      omega
  rw [tokensAt_lexeme p hbs hx (hfirst ▸ hlength), hfirst]

/-- Where a token stands the text can be parted: what is put there is read as it would be elsewhere,
if a space comes first. -/
theorem exists_append_of_tokensAt {before behind : List Token} {t : Token}
    (h : tokensAt p cs = before ++ t :: behind) (ht : t.kind ≠ .endOfInput) : ∃ ds x rest,
      cs = ds ++ x :: rest ∧ Text.isBlank x = false ∧
      t :: behind = tokensAt (p.through ds) (x :: rest) ∧
      ∀ es : List Char, (∀ c ∈ es.head?, c = ' ') →
        tokensAt p (ds ++ es) = before ++ tokensAt (p.through ds) es := by
  induction cs using text_induction generalizing p before with
  | blank bs hbs =>
    rw [tokensAt_of_blank p hbs] at h
    have hmem : t ∈ [Token.endAt (p.through bs)] := h ▸ List.mem_append_right before (.head _)
    rw [List.mem_singleton.mp hmem] at ht
    exact absurd rfl ht
  | lexeme bs x rest hbs hx ih =>
    have htokens := h
    rw [tokensAt_append_cons p hbs hx] at h
    cases before with
    | nil =>
      exact ⟨bs, x, rest, rfl, hx, by rw [← tokensAt_append_blank p hbs, htokens, List.nil_append],
        fun es _ ↦ tokensAt_append_blank p hbs es⟩
    | cons u before =>
      obtain ⟨rfl, hlater⟩ := List.cons.inj h
      obtain ⟨ds, y, later, hrest, hy, hbehind, hparts⟩ := ih _ hlater
      obtain ⟨ws, rfl, hlength⟩ := Lexeme.exists_append_of_drop hrest (by simp)
      have hline : (Lexeme.first x (ws ++ (ds ++ y :: later))).kind = .lineComment → ds ≠ [] := by
        rintro hkind rfl
        have hbreak := Lexeme.head?_drop_of_lineComment hkind y (by rw [hrest]; rfl)
        rw [hbreak] at hy
        cases hy
      have hplace : (p.through bs).through
          ((x :: (ws ++ (ds ++ y :: later))).take
            (Lexeme.first x (ws ++ (ds ++ y :: later))).length) = p.through (bs ++ x :: ws) := by
        rw [hlength, ← List.cons_append, List.take_left, Position.through_append]
      rw [hplace, ← Position.through_append] at hbehind hparts
      refine ⟨bs ++ x :: ws ++ ds, y, later, by simp, hy, hbehind, fun es hes ↦ ?_⟩
      rw [List.append_assoc, List.append_assoc, List.cons_append,
        tokensAt_front p hbs hx hlength hline hes, hparts es hes]
      rfl

end

/-- Behind the comment of a line nothing stands on the line. -/
theorem pairwise_tokensAt_lineComment (p : Position) (cs : List Char) : (tokensAt p cs).Pairwise
    fun t u ↦ t.kind = .lineComment → u.kind ≠ .endOfInput → t.line < u.line := by
  induction cs using text_induction generalizing p with
  | blank bs hbs =>
    rw [tokensAt_of_blank p hbs]
    exact List.pairwise_singleton ..
  | lexeme bs x rest hbs hx ih =>
    rw [tokensAt_append_cons p hbs hx]
    refine .cons (fun u hu hkind hend ↦ ?_) (ih _)
    have hbreak := Lexeme.head?_drop_of_lineComment hkind
    show (p.through bs).line < u.line
    cases hlater : (x :: rest).drop (Lexeme.first x rest).length with
    | nil =>
      rw [hlater, tokensAt_of_blank _ (List.forall_mem_nil _), List.mem_singleton] at hu
      rw [hu] at hend
      exact absurd rfl hend
    | cons c later =>
      rw [hlater] at hu hbreak
      obtain rfl := hbreak c rfl
      rw [← List.singleton_append (l := later), tokensAt_append_blank _ Text.isBlank_newline] at hu
      have hle := line_le_of_mem_tokensAt hu
      rw [Position.line_through, Position.line_through] at hle
      simp only [List.count_singleton_self] at hle
      omega

/-- How a text ends, and how it is read on behind a space: between tokens, in a comment of its last
line, or in a block comment that is not closed. -/
inductive TextEnd (p : Position) (cs : List Char) : Prop
  | between (ts : List Token) : tokensAt p cs = ts ++ [.endAt (p.through cs)] →
      (∀ es, tokensAt p (cs ++ ' ' :: es) = ts ++ tokensAt (p.through cs) (' ' :: es)) →
      TextEnd p cs
  | line (ts : List Token) (note : List Char) (q : Position) : q.line = (p.through cs).line →
      tokensAt p cs = ts ++ [⟨.lineComment, .ofList note, q⟩, .endAt (p.through cs)] →
      (∀ es, '\n' ∉ es → tokensAt p (cs ++ ' ' :: es) =
        ts ++ [⟨.lineComment, .ofList (note ++ ' ' :: es), q⟩,
          .endAt (p.through (cs ++ ' ' :: es))]) →
      TextEnd p cs
  | block (ts : List Token) (body : List Char) (q : Position) : (Region.code.after cs).IsOpen →
      ¬ ['*', '/'] <:+: body →
      tokensAt p cs = ts ++ [⟨.blockComment, .ofList body, q⟩, .endAt (p.through cs)] →
      (∀ es, ¬ ['*', '/'] <:+: body ++ ' ' :: es →
        ∀ ds, tokensAt p (cs ++ ' ' :: (es ++ '*' :: '/' :: ds)) =
          ts ++ ⟨.blockComment, .ofList (body ++ ' ' :: es), q⟩ ::
            tokensAt (p.through (cs ++ ' ' :: (es ++ ['*', '/']))) ds) → TextEnd p cs

namespace TextEnd

variable {bs cs ws : List Char} {x : Char} {p : Position}

theorem of_blank (hcs : ∀ c ∈ cs, Text.isBlank c) : TextEnd p cs :=
  .between [] (tokensAt_of_blank p hcs) fun es ↦ tokensAt_append_blank p hcs (' ' :: es)

/-- A lexeme in front does not change how a text ends. -/
theorem front (hbs : ∀ c ∈ bs, Text.isBlank c) (hx : Text.isBlank x = false) (hcs : cs ≠ [])
    (hlength : (Lexeme.first x (ws ++ cs)).length = (x :: ws).length)
    (hopen : (Region.code.after cs).IsOpen → (Region.code.after (bs ++ x :: (ws ++ cs))).IsOpen)
    (h : TextEnd (p.through (bs ++ x :: ws)) cs) : TextEnd p (bs ++ x :: (ws ++ cs)) := by
  rw [← List.append_nil cs] at hlength
  obtain ⟨t, hfront⟩ : ∃ t, ∀ es : List Char, (∀ c ∈ es.head?, c = ' ') →
      tokensAt p (bs ++ x :: (ws ++ cs) ++ es) =
        t :: tokensAt (p.through (bs ++ x :: ws)) (cs ++ es) := by
    refine ⟨⟨(Lexeme.first x (ws ++ (cs ++ []))).kind,
      .ofList (Lexeme.first x (ws ++ (cs ++ []))).value, p.through bs⟩, fun es hes ↦ ?_⟩
    rw [List.append_assoc, List.cons_append, List.append_assoc]
    exact tokensAt_front p hbs hx hlength (fun _ ↦ hcs) hes
  have halone := hfront [] nofun
  have hspace (es : List Char) := hfront (' ' :: es) (by simp)
  have hplace (es : List Char) : (p.through (bs ++ x :: ws)).through (cs ++ es) =
      p.through (bs ++ x :: (ws ++ cs) ++ es) := by
    rw [← Position.through_append]
    simp
  have hend := hplace []
  simp only [List.append_nil] at halone hend
  cases h with
  | between ts htokens hon =>
    refine .between (t :: ts) ?_ fun es ↦ ?_
    · rw [halone, htokens, hend]
      rfl
    · rw [hspace, hon, hend]
      rfl
  | line ts note q hline htokens hon =>
    refine .line (t :: ts) note q (hline.trans (congrArg _ hend)) ?_ fun es hes ↦ ?_
    · rw [halone, htokens, hend]
      rfl
    · rw [hspace, hon es hes, hplace]
      rfl
  | block ts body q hcs hbody htokens hon =>
    refine .block (t :: ts) body q (hopen hcs) hbody ?_ fun es hes ds ↦ ?_
    · rw [halone, htokens, hend]
      rfl
    · rw [hspace, hon es hes, hplace]
      rfl

theorem of_fits {rest : List Char} (hbs : ∀ c ∈ bs, Text.isBlank c) (hx : Text.isBlank x = false)
    (hlength : (Lexeme.first x rest).length = (x :: rest).length)
    (hline : (Lexeme.first x rest).kind ≠ .lineComment) : TextEnd p (bs ++ x :: rest) := by
  rw [← List.append_nil rest] at hline
  obtain ⟨t, hfront⟩ : ∃ t, ∀ es : List Char, (∀ c ∈ es.head?, c = ' ') →
      tokensAt p (bs ++ x :: rest ++ es) = t :: tokensAt (p.through (bs ++ x :: rest)) es := by
    refine ⟨⟨(Lexeme.first x (rest ++ ([] ++ []))).kind,
      .ofList (Lexeme.first x (rest ++ ([] ++ []))).value, p.through bs⟩, fun es hes ↦ ?_⟩
    rw [List.append_assoc, List.cons_append]
    exact tokensAt_front p hbs hx (by rwa [List.append_nil, List.append_nil])
      (fun hkind ↦ absurd hkind hline) hes
  refine .between [t] ?_ fun es ↦ hfront _ (by simp)
  have halone := hfront [] nofun
  rwa [List.append_nil, tokensAt_of_blank _ (List.forall_mem_nil _)] at halone

theorem of_line {cs : List Char} (hbs : ∀ c ∈ bs, Text.isBlank c) (hcs : '\n' ∉ cs) :
    TextEnd p (bs ++ '/' :: '/' :: cs) := by
  have htokens {ds : List Char} (hds : '\n' ∉ ds) : tokensAt p (bs ++ '/' :: '/' :: ds) =
      [⟨.lineComment, .ofList ('/' :: '/' :: ds), p.through bs⟩,
        .endAt (p.through (bs ++ '/' :: '/' :: ds))] := by
    have hlast : tokensAt p (bs ++ '/' :: ('/' :: ds ++ [])) = _ :=
      tokensAt_lineComment p hbs hds nofun
    rwa [List.append_nil, tokensAt_of_blank _ (List.forall_mem_nil _)] at hlast
  refine .line [] ('/' :: '/' :: cs) (p.through bs) ?_ (htokens hcs) fun es hes ↦ ?_
  · have hbreak : '\n' ∉ '/' :: '/' :: cs := by simp [hcs]
    rw [Position.through_append, line_through_of_notMem hbreak]
  · rw [List.append_assoc]
    exact htokens (by simp [hcs, hes])

theorem of_block {cs : List Char} (hbs : ∀ c ∈ bs, Text.isBlank c) (hcs : ¬ ['*', '/'] <:+: cs) :
    TextEnd p (bs ++ '/' :: '*' :: cs) := by
  refine .block [] cs (p.through bs) ?_ hcs ?_ fun es hes ds ↦ ?_
  · rw [Region.after_code_append (slash_notMem_of_blank hbs)]
    by_contra hclosed
    obtain ⟨body, rest, rfl, -⟩ := Region.closed_of_after.1 hclosed
    exact hcs ⟨body, rest, by simp⟩
  · exact tokensAt_openComment p hbs hcs
  · have happend : bs ++ '/' :: '*' :: cs ++ ' ' :: (es ++ '*' :: '/' :: ds) =
        bs ++ '/' :: ('*' :: (cs ++ ' ' :: es ++ ['*', '/']) ++ ds) := by simp
    rw [happend, tokensAt_blockComment p hbs hes]
    simp

/-- The last lexeme is a comment that the text ends in, or ends itself. -/
theorem of_last {rest : List Char} (hbs : ∀ c ∈ bs, Text.isBlank c) (hx : Text.isBlank x = false)
    (hdrop : (x :: rest).drop (Lexeme.first x rest).length = []) : TextEnd p (bs ++ x :: rest) := by
  have hle : (x :: rest).length ≤ (Lexeme.first x rest).length := List.drop_eq_nil_iff.mp hdrop
  obtain ⟨ds, rfl, rfl, hfirst⟩ | ⟨ds, rfl, rfl, hfirst⟩ | ⟨-, -, hline, hblock⟩ :=
    Lexeme.first_cases x rest
  · refine of_line hbs fun hbreak ↦ ?_
    rw [hfirst, Lexeme.lineComment, drop_takeWhile, List.dropWhile_eq_nil_iff] at hdrop
    simpa using hdrop '\n' (.tail _ (.tail _ hbreak))
  · obtain ⟨hopen, -⟩ | ⟨body, rest, hbody, rfl, -, hrest⟩ := Lexeme.split_blockComment ds
    · exact of_block hbs hopen
    · rw [hfirst, hrest] at hdrop
      subst hdrop
      refine of_fits hbs hx ?_ (by rw [hfirst]; rintro ⟨⟩)
      rw [Lexeme.first_comment hbody]
      simp
      omega
  · exact of_fits hbs hx (Nat.le_antisymm (Lexeme.length_first_le hblock) hle) hline

theorem of_text (p : Position) (cs : List Char) : TextEnd p cs := by
  induction cs using text_induction generalizing p with
  | blank cs hcs => exact of_blank hcs
  | lexeme bs x rest hbs hx ih =>
    by_cases hdrop : (x :: rest).drop (Lexeme.first x rest).length = []
    · exact of_last hbs hx hdrop
    · generalize hcs : (x :: rest).drop (Lexeme.first x rest).length = cs at ih hdrop
      obtain ⟨ws, rfl, hlength⟩ := Lexeme.exists_append_of_drop hcs hdrop
      refine front hbs hx hdrop hlength (fun hopen ↦ ?_) (ih _)
      by_contra hclosed
      rw [Region.after_code_append (slash_notMem_of_blank hbs)] at hclosed
      obtain ⟨-, -, hlater⟩ := Lexeme.first_line hclosed []
      rw [hcs] at hlater
      exact hlater hopen

end TextEnd

/-- A comment as it is put into a text. -/
def commentText (comment : String) : String := " /* " ++ comment ++ " */ "

theorem toList_commentText (comment : String) : (commentText comment).toList =
    ' ' :: '/' :: '*' :: ' ' :: (comment.toList ++ [' ', '*', '/', ' ']) := by
  simp [commentText]

theorem not_infix_padded {cs : List Char} (h : ¬ ['*', '/'] <:+: cs) :
    ¬ ['*', '/'] <:+: ' ' :: cs ++ [' '] := by
  intro hpair
  rcases pair_infix_append hpair with hpair | hpair | ⟨-, hspace⟩
  · rcases List.infix_cons_iff.mp hpair with hpair | hpair
    · exact absurd (List.cons_prefix_cons.mp hpair).1 (by decide)
    · exact h hpair
  · exact absurd hpair (by decide)
  · exact absurd hspace (by decide)

theorem tokensAt_commentText {comment : String} (h : ¬ ['*', '/'] <:+: comment.toList)
    (p : Position)
    (cs : List Char) : tokensAt p ((commentText comment).toList ++ cs) =
      ⟨.blockComment, .ofList (' ' :: comment.toList ++ [' ']), p.through [' ']⟩ ::
        tokensAt (p.through (commentText comment).toList) cs := by
  have hfree := not_infix_padded h
  generalize hbody : ' ' :: comment.toList ++ [' '] = body at hfree
  have htext : (commentText comment).toList = [' '] ++
      '/' :: '*' :: (body ++ ['*', '/']) ++ [' '] := by
    rw [toList_commentText, ← hbody]
    simp
  have happend : (commentText comment).toList ++ cs =
      [' '] ++ '/' :: ('*' :: (body ++ ['*', '/']) ++ ([' '] ++ cs)) := by
    rw [htext]
    simp
  rw [happend, tokensAt_blockComment p Text.isBlank_space hfree,
    tokensAt_append_blank _ Text.isBlank_space, ← Position.through_append, ← htext]

end TwinDiagram
