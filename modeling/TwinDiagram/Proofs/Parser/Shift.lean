import TwinDiagram.Proofs.Parser.Overlap
import TwinDiagram.Proofs.Parser.Trailing
import TwinDiagram.Proofs.Token.Comments
import TwinDiagram.Proofs.Token.Lines

namespace TwinDiagram

/-- The number of a line when another one is put in behind line `n`. -/
def shiftLine (n line : Int) : Int := if n < line then line + 1 else line

theorem shiftLine_inj {n a b : Int} : shiftLine n a = shiftLine n b ↔ a = b := by
  unfold shiftLine
  omega

def Token.shifted (n : Int) (t : Token) : Token :=
  { t with position := ⟨shiftLine n t.line, t.column⟩ }

def Diagnostic.shifted (n : Int) (d : Diagnostic) : Diagnostic :=
  { d with line := d.line.map (shiftLine n) }

namespace Token

variable {n : Int} {t : Token}

@[simp]
theorem line_shifted (n : Int) (t : Token) : (t.shifted n).line = shiftLine n t.line := rfl

theorem shifted_of_le (h : t.line ≤ n) : t.shifted n = t := by
  rw [shifted, shiftLine, if_neg (by omega)]
  rfl

theorem shifted_of_lt (h : n < t.line) : t.shifted n = t.down 1 := by
  rw [shifted, shiftLine, if_pos h]
  rfl

theorem commentOn_shifted (n line : Int) (cs : List Token) :
    commentOn (shiftLine n line) (cs.map (shifted n)) = (commentOn line cs).map (shifted n) := by
  rw [commentOn, ← List.map_reverse, List.find?_map, commentOn]
  congr 2
  funext t
  simp [shiftLine_inj]

end Token

namespace Parser

open State

variable {n : Int}

/-- A comment that moves with its line names the same statement. -/
theorem trailingName_shifted (n : Int) (comments : List Token) (x y : Token) :
    trailingName (comments.map (Token.shifted n)) (x.shifted n) (y.shifted n) =
      trailingName comments x y := by
  have hcomment : Token.commentOn (x.shifted n).line (comments.map (Token.shifted n)) =
      (Token.commentOn x.line comments).map (Token.shifted n) := Token.commentOn_shifted n x.line _
  unfold trailingName
  rw [hcomment]
  cases Token.commentOn x.line comments with
  | none => rfl
  | some c =>
    have hline : (y.shifted n).line = (x.shifted n).line ↔ y.line = x.line := shiftLine_inj
    simp only [Option.map_some, Option.bind_eq_bind, Option.bind_some, hline]
    rfl

theorem trailingName_of_line_ne {comments : List Token} {x y z : Token} (hy : y.line ≠ x.line)
    (hz : z.line ≠ x.line) : trailingName comments x y = trailingName comments x z := by
  simp [trailingName, hy, hz]

theorem Finding.Like.diagnostic {same : Token → Token → Prop}
    (hsame : ∀ {a b}, same a b → b = a.shifted n) {f g : Finding} (h : f.Like same g) :
    g.diagnostic = f.diagnostic.shifted n := by
  cases h with
  | missingRoot => rfl
  | mismatch hab => rw [hsame hab]; rfl
  | unclosed hab => rw [hsame hab]; rfl
  | neverClosed hab => rw [hsame hab]; rfl
  | repeatedSection hab => rw [hsame hab]; rfl

namespace Overlap

variable {s t : State} {w : List Token}

/-- The tails start behind line `n`, in front of which all the common tokens stand. -/
structure Ahead (c : Overlap) (n : Int) (w : List Token) (s t : State) : Prop where
  common : ∀ x ∈ w, x.line ≤ n
  tail : n < (c.tail.headD s.last).line
  tail' : n < (c.tail'.headD t.last).line

/-- The second parser has the same tokens and comments as the first one, only that what stands
behind line `n` is moved. -/
theorem beside_of_shifted {c : Overlap} (hsame : ∀ {a}, c.same a (a.shifted n))
    (hvalue : ∀ {a b}, c.same a b → a.value = b.value) (hends : ∀ {a}, c.ends a (a.shifted n))
    (hs : s.rest = w ++ c.tail) (ht : t.rest = w.map (Token.shifted n) ++ c.tail')
    (hlast : t.last = s.last.shifted n) (hcomments : s.comments = c.comments)
    (hcomments' : t.comments = c.comments')
    (hmoved : c.comments' = c.comments.map (Token.shifted n))
    (htails : c.tail = [] ∧ c.tail' = [] ∨ c.Ahead n w s t)
    (hfindings : ∃ fs gs, s.findings = c.before ++ fs ∧ t.findings = c.before' ++ gs ∧
      List.Forall₂ (Finding.Like c.same) fs gs) : c.Beside s t where
  rest := by
    refine ⟨w, w.map (Token.shifted n), hs, ht, ?_⟩
    rw [List.forall₂_map_right_iff]
    exact List.forall₂_same.mpr fun _ _ ↦ hsame
  last := hlast ▸ hends
  comments := ⟨hcomments, hcomments'⟩
  names i hi _ := by
    rw [hs, List.length_append] at hi
    have hi : i < w.length := by omega
    obtain ⟨u, x, v, rfl, rfl⟩ : ∃ u x v, w = u ++ x :: v ∧ u.length = i :=
      ⟨w.take i, w[i], w.drop (i + 1), by rw [List.getElem_cons_drop, List.take_append_drop],
        List.length_take_of_le (Nat.le_of_lt hi)⟩
    rw [List.map_append, List.map_cons] at ht
    rw [List.append_assoc, List.cons_append] at hs ht
    have hx := current_forward_append hs
    have hx' := current_forward_append ht
    rw [List.append_cons] at hs ht
    have hy := current_forward_append hs
    have hy' := current_forward_append ht
    simp only [List.length_append, List.length_map, List.length_singleton, List.headD_cons]
      at hx hx' hy hy'
    rw [hx, hx', hy, hy', hcomments, hcomments', hmoved, hlast]
    cases v with
    | cons y v => exact (trailingName_shifted n c.comments x y).symm
    | nil =>
      rw [← trailingName_shifted n]
      rcases htails with ⟨hnil, hnil'⟩ | hahead
      · rw [hnil, hnil']
        rfl
      · have hle := hahead.common x (by simp)
        have hlt := hahead.tail
        have hlt' := hahead.tail'
        rw [hlast] at hlt'
        refine trailingName_of_line_ne ?_ ?_
        · intro heq
          have heq := shiftLine_inj.mp heq
          simp only [List.nil_append] at heq
          omega
        · rw [Token.shifted_of_le hle]
          simp only [List.map_nil, List.nil_append]
          omega
  notes _ _ _ := sameNotes_of_value hvalue _
  findings := hfindings

end Overlap

/-- The tokens of a text, and those of the text with a line put in behind line `n`. The line comes
behind `front`; a comment in `notes` does not count there any more. -/
structure Inserted (n : Int) (front notes back line : List Token) (s t : State) : Prop where
  rest : s.rest = front ++ (notes ++ back)
  rest' : t.rest = front ++ (line ++ back.map (Token.shifted n))
  last : t.last = s.last.shifted n
  comments : t.comments = s.comments.map (Token.shifted n)
  isBlockComment : ∀ x ∈ notes, x.kind = .blockComment
  line_front : ∀ x ∈ front, x.line ≤ n
  line_notes : ∀ x ∈ notes, n < x.line
  line_back : ∀ x ∈ back, n < x.line
  line_last : n < s.last.line

theorem line_lt_of_mem_down {ts : List Token} (h : ∀ x ∈ ts, 1 ≤ x.line) {x : Token}
    (hx : x ∈ ts.map (Token.down n)) : n < x.line := by
  obtain ⟨y, hy, rfl⟩ := List.mem_map.mp hx
  have hle := h y hy
  show n < y.line + n
  omega

/-- Comments aside, the tokens in front of a line and behind it stay the same. -/
theorem inserted_of_tokenize {text text' : String} {ts ls us : List Token} {z : Token}
    {r : Position} (h : tokenize text = ts ++ (us ++ [.endAt r]))
    (h' : tokenize text' = ts ++ (ls ++ [z] ++ (us ++ [Token.endAt r]).map (Token.shifted n)))
    (hls : ∀ x ∈ ls, x.kind ≠ .lineComment ∧ x.kind ≠ .blockComment) (hz : z.kind = .semicolon)
    (hts : ∀ x ∈ ts, x.line ≤ n) (hus : ∀ x ∈ us ++ [.endAt r], n < x.line) :
    ∃ notes back, Inserted n (Token.dropComments none ts) notes back (ls ++ [z])
      (ofTokens (tokenize text)) (ofTokens (tokenize text')) := by
  have hkind (t : Token) : (t.shifted n).kind = t.kind := rfl
  have hl := Token.dropComments_append none ts
  generalize Token.lastKind none ts = l at hl
  obtain ⟨notes, hnotes, hcomment⟩ := Token.exists_dropComments l us
  have hsub := (Token.dropComments_sublist l us).subset
  rw [hnotes] at hsub
  have hstream : Token.statements (tokenize text) =
      Token.dropComments none ts ++ (notes ++ Token.dropComments none us) ++ [.endAt r] := by
    rw [h, Token.statements, hl, Token.dropComments_concat, hnotes]
    simp only [List.append_assoc]
  have hstream' : Token.statements (tokenize text') = Token.dropComments none ts ++
      (ls ++ [z] ++ (Token.dropComments none us).map (Token.shifted n)) ++
        [(Token.endAt r).shifted n] := by
    rw [h', Token.statements, hl, Token.dropComments_append_of_ne_comment hls hz,
      Token.dropComments_map hkind, Token.dropComments_concat, List.map_append]
    simp only [List.append_assoc]
    rfl
  obtain ⟨hrest, hlast⟩ := ofTokens_of_statements hstream
  obtain ⟨hrest', hlast'⟩ := ofTokens_of_statements hstream'
  refine ⟨notes, Token.dropComments none us, hrest, hrest', ?_, ?_, hcomment, fun x hx ↦ ?_,
    fun x hx ↦ ?_, fun x hx ↦ ?_, ?_⟩
  · rw [hlast', hlast]
  · have hfront : (Token.lineComments ts).map (Token.shifted n) = Token.lineComments ts :=
      List.map_congr_left (g := id) (fun x hx ↦ Token.shifted_of_le
        (hts x (List.mem_of_mem_filter hx))) |>.trans (List.map_id _)
    have hnone : ∀ x ∈ ls ++ [z], x.kind ≠ .lineComment ∧ x.kind ≠ .blockComment := by
      intro x hx
      rcases List.mem_append.mp hx with hx | hx
      · exact hls x hx
      · rw [List.mem_singleton.mp hx, hz]
        exact ⟨by decide, by decide⟩
    have happend (xs ys : List Token) : Token.lineComments (xs ++ ys) =
        Token.lineComments xs ++ Token.lineComments ys := List.filter_append _ _
    rw [comments_ofTokens, comments_ofTokens, h, h', happend ts, happend ts, happend (ls ++ [z]),
      Token.lineComments_of_ne_comment hnone, Token.lineComments_map hkind, List.map_append, hfront]
    rfl
  · exact hts x ((Token.dropComments_sublist none ts).subset hx)
  · exact hus x (List.mem_append_left _ (hsub (List.mem_append_left _ hx)))
  · exact hus x (List.mem_append_left _ (hsub (List.mem_append_right _ hx)))
  · rw [hlast]
    exact hus _ (List.mem_append_right _ (.head _))

/-- A line that is put into a text leaves the other tokens as they are. -/
theorem inserted {before line : String} (behind : String) {keyword z : Token} {ws : List Token}
    {q : Position} (hbefore : EndsLine before) (hline : StatementLine line keyword)
    (hls : tokenize line = keyword :: (ws ++ [z]) ++ [.endAt q]) (hz : z.kind = .semicolon) :
    ∃ notes back, Inserted (lineBreaks before) (Token.statements (tokenize before)).dropLast notes
      back ((keyword :: (ws ++ [z])).map (Token.down (lineBreaks before)))
      (.ofTokens (tokenize (before ++ behind)))
      (.ofTokens (tokenize (before ++ line ++ "\n" ++ behind))) := by
  obtain ⟨ts, hts, hlines, hsplit⟩ := hbefore.tokenize_append
  obtain ⟨-, hsplit'⟩ := hline.tokenize_append hls
  obtain ⟨us, r, hus, -⟩ := tokenize_eq behind
  generalize lineBreaks before = n at *
  have hone : ∀ x ∈ tokenize behind, 1 ≤ x.line := fun x ↦ one_le_line_of_mem_tokenize
  have hbehind : (tokenize behind).map (Token.down n) =
      us.map (Token.down n) ++ [.endAt (r.down n)] := by
    rw [hus, List.map_append]
    rfl
  -- What stands behind the line is moved when the line is there.
  have hmoved : ((tokenize behind).map (Token.down 1)).map (Token.down n) =
      ((tokenize behind).map (Token.down n)).map (Token.shifted n) := by
    rw [List.map_map, List.map_map]
    refine List.map_congr_left fun x hx ↦ ?_
    have hlt : n < (x.down n).line := line_lt_of_mem_down hone (List.mem_map_of_mem hx)
    simp only [Function.comp_apply, Token.shifted_of_lt hlt, Token.down_down, Int.add_comm]
  have htext := hsplit behind
  have htext' := hsplit (line ++ "\n" ++ behind)
  rw [hsplit', List.map_append, hmoved, ← String.append_assoc, ← String.append_assoc] at htext'
  have hfront : (Token.statements (tokenize before)).dropLast = Token.dropComments none ts := by
    rw [hts, Token.statements, Token.dropComments_concat, List.dropLast_concat]
  have hnone : ∀ x ∈ (keyword :: ws).map (Token.down n),
      x.kind ≠ .lineComment ∧ x.kind ≠ .blockComment := by
    intro x hx
    obtain ⟨y, hy, rfl⟩ := List.mem_map.mp hx
    refine hline.ne_comment y ?_
    rw [hls, ← List.cons_append]
    exact List.mem_append_left _ (List.mem_append_left _ hy)
  have hlater : ∀ x ∈ us.map (Token.down n) ++ [.endAt (r.down n)], n < x.line := by
    rw [← hbehind]
    exact fun x hx ↦ line_lt_of_mem_down hone hx
  rw [hbehind] at htext htext'
  rw [← List.cons_append, List.map_append] at htext' ⊢
  rw [hfront]
  exact inserted_of_tokenize htext htext' hnone hz hlines hlater

end Parser

end TwinDiagram
