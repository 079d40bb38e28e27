import Mathlib.Data.List.Find
import Mathlib.Data.List.Forall2
import TwinDiagram.Proofs.Parser.Note
import TwinDiagram.Proofs.Parser.RootBlock
import TwinDiagram.Proofs.Token.Insertion

namespace TwinDiagram.Parser

open Token State

theorem codes_eq_of_like {same : Token → Token → Prop} {fs gs : List Finding}
    (h : List.Forall₂ (Finding.Like same) fs gs) :
    (gs.map Finding.diagnostic).map (·.code) = (fs.map Finding.diagnostic).map (·.code) := by
  induction h with
  | nil => rfl
  | cons hfg _ ih =>
    simp only [List.map_cons, ih]
    congr 1
    cases hfg <;> rfl

/-- The texts are read as the same model, and the diagnostics have the same codes. -/
def ReadAlike (text text' : String) : Prop :=
  ∃ m s t, readText text = (.ok m, s) ∧ readText text' = (.ok m, t) ∧
    t.diagnostics.map (·.code) = s.diagnostics.map (·.code)

structure SameOnLine (a b : Token) : Prop where
  kind : a.kind = b.kind
  line : a.line = b.line
  value : a.kind.isName → a.value = b.value

theorem tokensAt_sameOnLine {p q : Position} (h : p.line = q.line) (cs : List Char) :
    List.Forall₂ (fun a b ↦ SameOnLine a b ∧ a.value = b.value) (tokensAt p cs)
      (tokensAt q cs) := by
  have hline {p q : Position} (h : p.line = q.line) (cs : List Char) :
      (p.through cs).line = (q.through cs).line := by
    rw [Position.line_through, Position.line_through, h]
  induction cs using text_induction generalizing p q with
  | blank bs hbs =>
    rw [tokensAt_of_blank p hbs, tokensAt_of_blank q hbs]
    exact .cons ⟨⟨rfl, hline h bs, fun _ ↦ rfl⟩, rfl⟩ .nil
  | lexeme bs x rest hbs hx ih =>
    rw [tokensAt_append_cons p hbs hx, tokensAt_append_cons q hbs hx]
    exact .cons ⟨⟨rfl, hline h bs, fun _ ↦ rfl⟩, rfl⟩ (ih (hline (hline h bs) _))

/-- Tokens of two texts, each with the one that it is read like; both texts have them in this order.
The comment behind a statement gives the same name in both. -/
structure Coupled (zs : List (Token × Token)) : Prop where
  same : ∀ z ∈ zs, SameOnLine z.1 z.2
  precedes : zs.Pairwise fun y z ↦ y.1.Precedes z.1 ∧ y.2.Precedes z.2
  names : ∀ x ∈ zs, x.1.kind = .semicolon → ∀ c ∈ zs, c.1.kind = .lineComment →
    c.1.line = x.1.line →
    nameInComment c.1.value.toList = nameInComment c.2.value.toList

namespace Coupled

variable {zs : List (Token × Token)} {x y : Token × Token}

/-- Both texts have a comment on the line, or none has. -/
theorem commentOn_cases (h : Coupled zs) (line : Int) :
    (commentOn line (lineComments (zs.map Prod.fst)) = none ∧
      commentOn line (lineComments (zs.map Prod.snd)) = none) ∨
    ∃ c ∈ zs, c.1.kind = .lineComment ∧ c.1.line = line ∧
      commentOn line (lineComments (zs.map Prod.fst)) = some c.1 ∧
      commentOn line (lineComments (zs.map Prod.snd)) = some c.2 := by
  let cs := (zs.filter (·.1.kind == .lineComment)).reverse
  have hmem {c : Token × Token} (hc : c ∈ cs) : c ∈ zs ∧ c.1.kind = .lineComment := by
    simpa [cs] using hc
  have hfst : commentOn line (lineComments (zs.map Prod.fst)) =
      (cs.find? (·.1.line == line)).map Prod.fst := by
    rw [lineComments, List.filter_map, commentOn, ← List.map_reverse, List.find?_map]
    rfl
  have hsnd : commentOn line (lineComments (zs.map Prod.snd)) =
      (cs.find? (·.1.line == line)).map Prod.snd := by
    have hkind : zs.filter ((·.kind == .lineComment) ∘ Prod.snd) =
        zs.filter (·.1.kind == .lineComment) :=
      List.filter_congr fun z hz ↦ by rw [Function.comp_apply, (h.same z hz).kind]
    rw [lineComments, List.filter_map, commentOn, ← List.map_reverse, List.find?_map, hkind]
    exact congrArg _ (List.find?_congr fun c hc ↦ by
      rw [Function.comp_apply, (h.same c (hmem hc).1).line])
  rw [hfst, hsnd]
  cases hc : cs.find? (·.1.line == line) with
  | none => exact .inl ⟨rfl, rfl⟩
  | some c =>
    obtain ⟨hc', hkind⟩ := hmem (List.mem_of_find?_eq_some hc)
    exact .inr ⟨c, hc', hkind, by simpa using List.find?_some hc, rfl, rfl⟩

/-- The comments give the same names: what stands in front of a comment on its line does so
in both. -/
theorem trailingName_eq (h : Coupled zs) (hx : x ∈ zs) (hsemicolon : x.1.kind = .semicolon)
    (hy : y ∈ zs)
    (hkind : y.1.kind ≠ .lineComment) :
    trailingName (lineComments (zs.map Prod.fst)) x.1 y.1 =
      trailingName (lineComments (zs.map Prod.snd)) x.2 y.2 := by
  unfold trailingName
  rw [← (h.same x hx).line, ← (h.same y hy).line]
  rcases h.commentOn_cases x.1.line with ⟨hnone, hnone'⟩ | ⟨c, hc, hcomment, hline, hsome, hsome'⟩
  · rw [hnone, hnone']
    rfl
  · rw [hsome, hsome']
    have hcolumn (hyx : y.1.line = x.1.line) :
        y.1.column < c.1.column ↔ y.2.column < c.2.column := by
      have hyc : y.1.line = c.1.line := hyx.trans hline.symm
      have hyc' : y.2.line = c.2.line := by rw [← (h.same y hy).line, hyc, (h.same c hc).line]
      have hne : y ≠ c := by
        rintro rfl
        exact hkind hcomment
      rcases rel_or_rel_of_pairwise h.precedes hy hc hne with ⟨hlt, hlt'⟩ | ⟨hlt, hlt'⟩
      · exact iff_of_true (hlt.column_lt hyc) (hlt'.column_lt hyc')
      · have hle := hlt.column_lt hyc.symm
        have hle' := hlt'.column_lt hyc'.symm
        omega
    have hbetween : (decide (y.1.line = x.1.line) && decide (y.1.column < c.1.column)) =
        (decide (y.1.line = x.1.line) && decide (y.2.column < c.2.column)) := by
      by_cases hyx : y.1.line = x.1.line
      · simp only [hcolumn hyx]
      · simp [hyx]
    simp only [Option.bind_eq_bind, Option.bind_some, hbetween,
      h.names x hx hsemicolon c hc hcomment hline]

/-- Of both texts the same tokens stay. -/
theorem exists_kept (h : Coupled zs) (k : Option TokenKind) : ∃ ws ⊆ zs,
    dropComments k (zs.map Prod.fst) = ws.map Prod.fst ∧
      dropComments k (zs.map Prod.snd) = ws.map Prod.snd := by
  have hkind : ∀ z ∈ zs, z.1.kind = z.2.kind := fun z hz ↦ (h.same z hz).kind
  clear h
  induction zs generalizing k with
  | nil => exact ⟨[], List.nil_subset _, rfl, rfl⟩
  | cons z zs ih =>
    obtain ⟨hz, hzs⟩ := List.forall_mem_cons.mp hkind
    simp only [List.map_cons, dropComments, ← hz]
    split
    · obtain ⟨ws, hws, hfst, hsnd⟩ := ih k hzs
      exact ⟨ws, List.subset_cons_of_subset z hws, hfst, hsnd⟩
    · obtain ⟨ws, hws, hfst, hsnd⟩ := ih (some z.1.kind) hzs
      refine ⟨z :: ws, List.cons_subset_cons z hws, ?_, ?_⟩
      · rw [hfst, List.map_cons]
      · rw [hsnd, List.map_cons]

end Coupled

/-- The texts have these tokens for statements and comments of lines, but for some that both leave
aside. -/
structure Coupled.Covers (zs : List (Token × Token)) (ts us : List Token) : Prop where
  statements : Token.statements ts = Token.statements (zs.map Prod.fst)
  comments : lineComments ts = lineComments (zs.map Prod.fst)
  statements' : Token.statements us = Token.statements (zs.map Prod.snd)
  comments' : lineComments us = lineComments (zs.map Prod.snd)

def coupled (zs : List (Token × Token)) (s t : State) : Overlap :=
  @Overlap.whole (fun a b ↦ (a, b) ∈ zs ∧ SameOnLine a b) (fun h ↦ h.2.kind) (fun h ↦ h.2.value)
    s.comments t.comments

namespace Coupled

variable {zs : List (Token × Token)} {text text' : String}

/-- What stays of both texts, the end token last. -/
theorem exists_streams (h : Coupled zs) (hcovers : Covers zs (tokenize text) (tokenize text')) :
    let s := ofTokens (tokenize text)
    let t := ofTokens (tokenize text')
    ∃ ws z, ws ++ [z] ⊆ zs ∧ (∀ y ∈ ws ++ [z], y.1.kind ≠ .lineComment) ∧
      (s.rest = ws.map Prod.fst ∧ s.last = z.1) ∧ t.rest = ws.map Prod.snd ∧ t.last = z.2 := by
  intro s t
  obtain ⟨vs, hvs, hfst, hsnd⟩ := h.exists_kept none
  have hs : s.rest ++ [s.last] = vs.map Prod.fst := by
    rw [← hfst]
    exact (ofTokens_tokenize text).1.trans hcovers.statements
  have ht : t.rest ++ [t.last] = vs.map Prod.snd := by
    rw [← hsnd]
    exact (ofTokens_tokenize text').1.trans hcovers.statements'
  obtain ⟨ws, z, rfl⟩ : ∃ ws z, vs = ws ++ [z] := by
    rcases List.eq_nil_or_concat vs with rfl | ⟨ws, z, rfl⟩
    · simp at hs
    · exact ⟨ws, z, List.concat_eq_append⟩
  refine ⟨ws, z, hvs, fun y hy ↦ ?_, by simpa using hs, by simpa using ht⟩
  exact kind_ne_lineComment (hfst ▸ List.mem_map_of_mem hy)

def Documents (zs : List (Token × Token)) (s t : State) : Prop :=
  ∀ u, Onward s u → u.OpensGoal → (coupled zs s t).SameNotes u.advance.advance.advance

/-- Behind a semicolon both parsers see the same name. -/
theorem trailingName_forward {s t : State} {ws : List (Token × Token)} {z : Token × Token}
    (h : Coupled zs)
    (hws : ws ++ [z] ⊆ zs) (hkind : ∀ y ∈ ws ++ [z], y.1.kind ≠ .lineComment)
    (hs : s.rest = ws.map Prod.fst ∧ s.last = z.1) (ht : t.rest = ws.map Prod.snd ∧ t.last = z.2)
    {n : Nat} (hn : n < s.rest.length) (hsemicolon : (s.forward n).current.kind = .semicolon) :
    trailingName (lineComments (zs.map Prod.fst))
        (s.forward n).current (s.forward (n + 1)).current =
      trailingName (lineComments (zs.map Prod.snd))
        (t.forward n).current (t.forward (n + 1)).current := by
  have hn : n + 1 < (ws ++ [z]).length := by
    rw [hs.1, List.length_map] at hn
    rw [List.length_append, List.length_singleton]
    omega
  obtain ⟨u, x, y, v, hsplit, rfl⟩ := exists_append_cons_cons hn
  have hmap {f : Token × Token → Token} : ws.map f ++ [f z] = u.map f ++ f x :: f y :: v.map f := by
    rw [← List.map_singleton, ← List.map_append, hsplit, List.map_append, List.map_cons,
      List.map_cons]
  obtain ⟨hx, hy⟩ := current_forward_pair ((congrArg₂ (· ++ [·]) hs.1 hs.2).trans hmap)
  obtain ⟨hx', hy'⟩ := current_forward_pair ((congrArg₂ (· ++ [·]) ht.1 ht.2).trans hmap)
  rw [List.length_map] at hx hy hx' hy'
  have hxmem : x ∈ ws ++ [z] := by simp [hsplit]
  have hymem : y ∈ ws ++ [z] := by simp [hsplit]
  rw [hx] at hsemicolon
  rw [hx, hy, hx', hy']
  exact h.trailingName_eq (hws hxmem) hsemicolon (hws hymem) (hkind y hymem)

theorem beside (h : Coupled zs) (hcovers : Covers zs (tokenize text) (tokenize text'))
    (hnotes : Documents zs (ofTokens (tokenize text)) (ofTokens (tokenize text'))) :
    let s := ofTokens (tokenize text)
    let t := ofTokens (tokenize text')
    (coupled zs s t).Beside s t := by
  intro s t
  obtain ⟨ws, z, hws, hkind, hs, ht⟩ := h.exists_streams hcovers
  have hsame : ∀ y ∈ ws ++ [z], (coupled zs s t).same y.1 y.2 := fun y hy ↦
    ⟨hws hy, h.same y (hws hy)⟩
  have hcomments : s.comments = lineComments (zs.map Prod.fst) :=
    (comments_ofTokens _).trans hcovers.comments
  have hcomments' : t.comments = lineComments (zs.map Prod.snd) :=
    (comments_ofTokens _).trans hcovers.comments'
  have hfindings (ts : List Token) : (ofTokens ts).findings = [] ++ [] := by
    rw [State.findings, events_ofTokens]
    rfl
  exact
    { rest := by
        refine ⟨ws.map Prod.fst, ws.map Prod.snd, ?_, ?_, ?_⟩
        · exact hs.1.trans (List.append_nil _).symm
        · exact ht.1.trans (List.append_nil _).symm
        · rw [List.forall₂_map_left_iff, List.forall₂_map_right_iff, List.forall₂_same]
          exact fun y hy ↦ hsame y (List.mem_append_left _ hy)
      last := by
        rw [hs.2, ht.2]
        exact hsame z (List.mem_append_right _ (.head _))
      comments := ⟨rfl, rfl⟩
      names := fun n hn hsemicolon ↦ by
        rw [hcomments, hcomments']
        refine h.trailingName_forward hws hkind hs ht ?_ hsemicolon
        exact (Nat.zero_add n).symm.trans_lt hn
      notes := hnotes
      findings := ⟨[], [], hfindings _, hfindings _, .nil⟩ }

theorem readAlike (h : Coupled zs) (hcovers : Covers zs (tokenize text) (tokenize text'))
    (hnotes : Documents zs (ofTokens (tokenize text)) (ofTokens (tokenize text'))) :
    ReadAlike text text' := by
  have hrewind (ts : List Token) : (ofTokens ts).rewind = ofTokens ts :=
    rewind_of_passed (passed_ofTokens ts)
  let c := coupled zs (ofTokens (tokenize text)) (ofTokens (tokenize text'))
  have hbeside : (c.past [] []).Beside (ofTokens (tokenize text)).rewind
      (ofTokens (tokenize text')).rewind := by
    rw [hrewind, hrewind]
    exact h.beside hcovers hnotes
  obtain ⟨m, s, t, hs, ht, hlike⟩ := Overlap.document_past hbeside
  exact ⟨m, s, t, hs, ht, codes_eq_of_like hlike⟩

def pairs (ts us us' : List Token) : List (Token × Token) := ts.map (fun t ↦ (t, t)) ++ us.zip us'

variable {ts notes notes' us us' : List Token}

theorem mem_pairs {z : Token × Token} : z ∈ pairs ts us us' ↔ z.1 = z.2 ∧ z.1 ∈ ts ∨
    z ∈ us.zip us' := by
  obtain ⟨a, b⟩ := z
  simp only [pairs, List.mem_append, List.mem_map, Prod.mk.injEq]
  refine or_congr_left ⟨?_, ?_⟩
  · rintro ⟨t, ht, rfl, rfl⟩
    exact ⟨rfl, ht⟩
  · rintro ⟨rfl, ht⟩
    exact ⟨a, ht, rfl, rfl⟩

theorem map_pairs (ts : List Token) (hlength : us.length = us'.length) :
    (pairs ts us us').map Prod.fst = ts ++ us ∧ (pairs ts us us').map Prod.snd = ts ++ us' := by
  simp only [pairs, List.map_append, List.map_map, List.map_fst_zip (Nat.le_of_eq hlength),
    List.map_snd_zip (Nat.le_of_eq hlength.symm)]
  exact ⟨congrArg (· ++ us) (List.map_id ts), congrArg (· ++ us') (List.map_id ts)⟩

/-- The comments in `us` give a statement on their line the same name as those in `us'`. -/
def NamesAlike (ts us us' : List Token) : Prop :=
  ∀ c ∈ us.zip us', c.1.kind = .lineComment →
    (∃ x ∈ ts ++ us, x.kind = .semicolon ∧ x.line = c.1.line) →
    nameInComment c.1.value.toList = nameInComment c.2.value.toList

theorem of_pairs (hsame : List.Forall₂ SameOnLine us us') (hnames : NamesAlike ts us us')
    (h : (ts ++ us).Pairwise Precedes) (h' : (ts ++ us').Pairwise Precedes) :
    Coupled (pairs ts us us') := by
  obtain ⟨hlength, hzip⟩ := List.forall₂_iff_zip.mp hsame
  obtain ⟨hfst, hsnd⟩ := map_pairs ts hlength
  constructor
  · intro z hz
    rcases mem_pairs.mp hz with ⟨heq, -⟩ | hz
    · rw [← heq]
      exact ⟨rfl, rfl, fun _ ↦ rfl⟩
    · exact hzip hz
  · rw [← hfst, List.pairwise_map] at h
    rw [← hsnd, List.pairwise_map] at h'
    exact h.and h'
  · intro x hx hsemicolon c hc hcomment hline
    rcases mem_pairs.mp hc with ⟨heq, -⟩ | hc
    · rw [heq]
    · exact hnames c hc hcomment ⟨x.1, hfst ▸ List.mem_map_of_mem hx, hsemicolon, hline.symm⟩

/-- Block comments that document nothing are left aside. -/
theorem covers (hlast : lastKind none ts = some .doc → notes = [] ∧ notes' = [])
    (hnotes : ∀ t ∈ notes, t.kind = .blockComment) (hnotes' : ∀ t ∈ notes', t.kind = .blockComment)
    (hlength : us.length = us'.length) :
    Covers (pairs ts us us') (ts ++ (notes ++ us)) (ts ++ (notes' ++ us')) := by
  have hstatements {notes us : List Token} (hlast : lastKind none ts = some .doc → notes = [])
      (hnotes : ∀ t ∈ notes, t.kind = .blockComment) :
      Token.statements (ts ++ (notes ++ us)) = Token.statements (ts ++ us) := by
    by_cases hdoc : lastKind none ts = some .doc
    · rw [hlast hdoc, List.nil_append]
    · rw [Token.statements, Token.statements, dropComments_append none ts,
        dropComments_append_of_blockComment hdoc hnotes, ← dropComments_append]
  have hcomments {notes us : List Token} (hnotes : ∀ t ∈ notes, t.kind = .blockComment) :
      lineComments (ts ++ (notes ++ us)) = lineComments (ts ++ us) := by
    have hnone : lineComments notes = [] := by
      rw [lineComments, List.filter_eq_nil_iff]
      intro t ht
      rw [hnotes t ht]
      decide
    rw [lineComments, List.filter_append, List.filter_append, lineComments, List.filter_append]
    change _ ++ (lineComments notes ++ _) = _
    rw [hnone, List.nil_append]
  obtain ⟨hfst, hsnd⟩ := map_pairs ts hlength
  constructor
  · rw [hfst, hstatements (fun hdoc ↦ (hlast hdoc).1) hnotes]
  · rw [hfst, hcomments hnotes]
  · rw [hsnd, hstatements (fun hdoc ↦ (hlast hdoc).2) hnotes']
  · rw [hsnd, hcomments hnotes']

/-- Two texts differ in comments that are left aside, and in tokens that are read alike. -/
theorem readAlike_of_tokens (hlast : lastKind none ts = some .doc → notes = [] ∧ notes' = [])
    (hnotes : ∀ t ∈ notes, t.kind = .blockComment) (hnotes' : ∀ t ∈ notes', t.kind = .blockComment)
    (hsame : List.Forall₂ SameOnLine us us') (hnames : NamesAlike ts us us')
    (htext : tokenize text = ts ++ (notes ++ us)) (htext' : tokenize text' = ts ++ (notes' ++ us'))
    (hdocs : Documents (pairs ts us us') (ofTokens (tokenize text)) (ofTokens (tokenize text'))) :
    ReadAlike text text' := by
  have hsub {notes us : List Token} : (ts ++ us).Sublist (ts ++ (notes ++ us)) :=
    (List.sublist_append_right notes us).append_left ts
  have h : (tokenize text).Pairwise Precedes := Cursor.pairwise_tokens _
  have h' : (tokenize text').Pairwise Precedes := Cursor.pairwise_tokens _
  have hcovers := covers hlast hnotes hnotes' hsame.length_eq
  rw [← htext, ← htext'] at hcovers
  rw [htext] at h
  rw [htext'] at h'
  exact (of_pairs hsame hnames (h.sublist hsub) (h'.sublist hsub)).readAlike hcovers hdocs

theorem documents_of_value {s t : State}
    (h : ∀ z ∈ us.zip us', z.1.kind = .blockComment → z.1.value = z.2.value) :
    Documents (pairs ts us us') s t := by
  rintro u - - v - - hkind b ⟨hz, -⟩
  rcases mem_pairs.mp hz with ⟨heq, -⟩ | hz
  · exact congrArg _ heq
  · exact h _ hz hkind

end Coupled

def EndInGoal (ts : List Token) : Prop :=
  ∃ front goal name brace inside, Token.statements ts = front ++ goal :: name :: brace :: inside ∧
    goal.kind = .goal ∧ name.kind.isName ∧ brace.kind = .openBrace ∧ Token.closing? 1 inside = none

section Kept

variable {s u v : State} {xs : List Token} {a : Token}

theorem State.OpensGoal.rest_eq (h : u.OpensGoal) : u.rest = u.current :: u.advance.current ::
    u.advance.advance.current :: u.advance.advance.advance.rest := by
  have hcons {s : State} (hs : s.current.kind ≠ .endOfInput) :
      s.rest = s.current :: s.advance.rest := by
    obtain ⟨xs, hxs⟩ := rest_eq_cons hs
    rw [hxs, State.rest_advance hxs hs]
  rw [hcons (s := u) (by rw [h.goal]; decide), hcons (s := u.advance) ?_,
    hcons (s := u.advance.advance) (by rw [h.brace]; decide)]
  exact TokenKind.ne_endOfInput_of_isPlain (TokenKind.isPlain_of_isName h.name)

theorem rest_eq_singleton (h : Onward s v) (hs : s.rest = xs ++ [a]) (ha : a ∉ xs)
    (hv : v.current = a)
    (hend : a.kind ≠ .endOfInput) : v.rest = [a] := by
  obtain ⟨ys, hys⟩ := rest_eq_cons (hv.symm ▸ hend)
  obtain ⟨w, hw, -⟩ := h.moved
  rw [hs, hys, hv] at hw
  rcases List.eq_nil_or_concat ys with rfl | ⟨zs, z, rfl⟩
  · rw [hys, hv]
  · rw [List.concat_eq_append, ← List.cons_append, ← List.append_assoc] at hw
    exact absurd ((List.append_inj' hw rfl).1 ▸ by simp) ha

theorem not_closing?_of_last (h : Onward s v) (hv : v.rest = [a]) (hopen : a.kind ≠ .openBrace)
    (hclose : a.kind ≠ .closeBrace) {n : Nat} (hn : s.closing? 1 = some n) : n < v.position := by
  obtain ⟨m, hm, rfl⟩ := Option.map_eq_some_iff.mp hn
  obtain ⟨w, hw, hpassed⟩ := h.moved
  rw [hw, hv, Token.closing?, Block.closing?_concat (by simp [hopen]) (by simp [hclose])] at hm
  have hlt := Block.lt_of_closing? hm
  simp only [State.position, hpassed, List.length_append, List.length_reverse]
  omega

/-- A comment that documents no goal may be another one, though it is kept. -/
theorem Coupled.documents_of_last {text : String} {ts : List Token} {a b e e' : Token} {t : State}
    (hlast : lastKind none ts = some .doc) (htext : tokenize text = ts ++ [a, e])
    (ha : a.kind = .blockComment) (he : e.kind = .endOfInput)
    (hgoal : ¬ EndInGoal (tokenize text)) :
    Documents (pairs ts [a, e] [b, e']) (ofTokens (tokenize text)) t := by
  have hstatements : Token.statements (tokenize text) = Token.statements ts ++ [a] ++ [e] := by
    rw [htext, Token.statements, dropComments_append, hlast]
    simp [dropComments, ha, he, Token.statements]
  have hrest := (ofTokens_of_statements hstatements).1
  have hfresh : a ∉ Token.statements ts := by
    intro hmem
    have hprecedes : (tokenize text).Pairwise Precedes := Cursor.pairwise_tokens _
    rw [htext, List.pairwise_append] at hprecedes
    have hself := hprecedes.2.2 a ((dropComments_sublist none ts).subset hmem) a (.head _)
    exact Int.lt_irrefl _ (hself.column_lt rfl)
  rintro u hu hopens v hv hplace hkind c ⟨hz, -⟩
  rcases mem_pairs.mp hz with ⟨heq, -⟩ | hz
  · exact congrArg _ heq
  simp only [List.zip_cons_cons, List.zip_nil_right, List.mem_cons, List.not_mem_nil, or_false,
    Prod.mk.injEq] at hz
  obtain ⟨hv', -⟩ | ⟨hv', -⟩ := hz
  · -- The block of the goal is closed in front of the comment.
    have honward : Onward u u.advance.advance.advance :=
      (Onward.advance u).trans ((Onward.advance _).trans (.advance _))
    have hend := rest_eq_singleton (hu.trans (honward.trans hv)) hrest hfresh hv'
      (by rw [ha]; decide)
    obtain ⟨front, hfront, -⟩ := hu.moved
    cases hclosing : Token.closing? 1 u.advance.advance.advance.rest with
    | none =>
      refine absurd ⟨front, _, _, _, u.advance.advance.advance.rest ++ [e], ?_, hopens.goal,
        hopens.name, hopens.brace, ?_⟩ hgoal
      · rw [hstatements, ← hrest, hfront, hopens.rest_eq]
        simp only [List.append_assoc, List.cons_append]
      · rw [← hclosing]
        exact Block.closing?_concat (by simp [he]) (by simp [he])
    | some n =>
      have hsome : u.advance.advance.advance.closing? 1 =
          some (n + u.advance.advance.advance.position) := by
        rw [State.closing?, hclosing]
        rfl
      have hlt := not_closing?_of_last hv hend (by rw [ha]; decide) (by rw [ha]; decide) hsome
      exact absurd (hplace _ hsome) (Nat.not_le.mpr hlt)
  · rw [hv', he] at hkind
    cases hkind

end Kept

section Insertion

variable {before behind comment : String} {ts : List Token}

/-- Between two tokens the comment is a token of its own. -/
theorem readAlike_of_between (hbreak : '\n' ∉ comment.toList)
    (hclose : ¬ ['*', '/'] <:+: comment.toList)
    (hlast : lastKind none ts ≠ some .doc)
    (htext : tokenize (before ++ behind) = ts ++ tokensAt (.behind before.toList) behind.toList)
    (hparts : ∀ es, tokensAt .start (before.toList ++ ' ' :: es) =
      ts ++ tokensAt (.behind before.toList) (' ' :: es)) :
    ReadAlike (before ++ behind) (before ++ commentText comment ++ behind) := by
  generalize Position.behind before.toList = p at *
  have hline : p.line = (p.through (commentText comment).toList).line := by
    rw [line_through_of_notMem]
    simp [toList_commentText, hbreak]
  have htext' : tokenize (before ++ commentText comment ++ behind) =
      ts ++ ([⟨.blockComment, .ofList (' ' :: comment.toList ++ [' ']), p.through [' ']⟩] ++
        tokensAt (p.through (commentText comment).toList) behind.toList) := by
    show tokensAt .start (before ++ commentText comment ++ behind).toList = _
    rw [String.toList_append, String.toList_append, List.append_assoc, List.singleton_append,
      ← tokensAt_commentText hclose, toList_commentText]
    exact hparts _
  rw [← List.nil_append (tokensAt p behind.toList)] at htext
  have hsame := tokensAt_sameOnLine hline behind.toList
  have hvalue : ∀ z ∈ (tokensAt p behind.toList).zip
      (tokensAt (p.through (commentText comment).toList) behind.toList), z.1.value = z.2.value :=
    fun z hz ↦ ((List.forall₂_iff_zip.mp hsame).2 hz).2
  exact Coupled.readAlike_of_tokens (fun hdoc ↦ absurd hdoc hlast) (List.forall_mem_nil _)
    (List.forall_mem_singleton.mpr rfl) (hsame.imp fun _ _ h ↦ h.1)
    (fun z hz _ _ ↦ by rw [hvalue z hz]) htext htext'
    (Coupled.documents_of_value fun z hz _ ↦ hvalue z hz)

theorem sameOnLine_endAt {cs ds : List Char} (hds : '\n' ∉ ds) :
    SameOnLine (.endAt (Position.start.through cs))
      (.endAt (Position.start.through (cs ++ ds))) := by
  refine ⟨rfl, ?_, fun _ ↦ rfl⟩
  show (Position.start.through cs).line = (Position.start.through (cs ++ ds)).line
  rw [Position.through_append, line_through_of_notMem hds]

theorem newline_notMem_commentText (h : '\n' ∉ comment.toList) :
    '\n' ∉ (commentText comment).toList := by
  simp [toList_commentText, h]

/-- A comment of the last line goes on. -/
theorem readAlike_of_line {note : List Char} {q : Position} (hbreak : '\n' ∉ comment.toList)
    (hname : (∃ x ∈ tokenize before, x.kind = .semicolon ∧ x.line = q.line) →
      nameInComment note = none →
      nameInComment (commentText comment).toList = none)
    (htext : tokenize before =
      ts ++ [⟨.lineComment, .ofList note, q⟩, .endAt (Position.start.through before.toList)])
    (hparts : ∀ es, '\n' ∉ es → tokensAt .start (before.toList ++ ' ' :: es) =
      ts ++ [⟨.lineComment, .ofList (note ++ ' ' :: es), q⟩,
        .endAt (Position.start.through (before.toList ++ ' ' :: es))]) :
    ReadAlike before (before ++ commentText comment) := by
  have hbreak := newline_notMem_commentText hbreak
  have htext' : tokenize (before ++ commentText comment) =
      tokensAt .start (before.toList ++ (commentText comment).toList) := by
    rw [← String.toList_append]
    rfl
  rw [toList_commentText] at hbreak hname htext'
  generalize '*' :: ' ' :: (comment.toList ++ [' ', '*', '/', ' ']) = ds at hbreak hname htext'
  rw [hparts ('/' :: ds) fun hmem ↦ hbreak (.tail _ hmem)] at htext'
  rw [htext] at hname
  have hnote : SameOnLine ⟨.lineComment, .ofList note, q⟩
      ⟨.lineComment, .ofList (note ++ ' ' :: '/' :: ds), q⟩ := ⟨rfl, rfl, nofun⟩
  rw [← List.nil_append [_, _]] at htext htext'
  refine Coupled.readAlike_of_tokens (fun _ ↦ ⟨rfl, rfl⟩) (List.forall_mem_nil _)
    (List.forall_mem_nil _) (.cons hnote (.cons (sameOnLine_endAt hbreak) .nil)) ?_ htext htext'
    (Coupled.documents_of_value ?_)
  · rw [Coupled.NamesAlike, List.zip_cons_cons, List.forall_mem_cons]
    refine ⟨fun _ hsemicolon ↦ ?_, List.forall_mem_singleton.mpr nofun⟩
    simp only [String.toList_ofList] at hname hsemicolon ⊢
    have hslash : ∀ c ∈ (skipBlanks ('/' :: ds)).head?, c = '/' := fun c hc ↦
      (Option.some.inj hc).symm
    rw [nameInComment_append (b := ' ') rfl hslash]
    cases hnote : nameInComment note with
    | none => rw [hname hsemicolon hnote]; rfl
    | some name => rfl
  · rw [List.zip_cons_cons, List.forall_mem_cons]
    exact ⟨nofun, List.forall_mem_singleton.mpr nofun⟩

/-- A block comment that is not closed ends with the one that is put in. -/
theorem readAlike_of_block {body : List Char} {q : Position} (hbreak : '\n' ∉ comment.toList)
    (hclose : ¬ ['*', '/'] <:+: comment.toList) (hbody : ¬ ['*', '/'] <:+: body)
    (hgoal : lastKind none ts = some .doc → ¬ EndInGoal (tokenize before))
    (htext : tokenize before =
      ts ++ [⟨.blockComment, .ofList body, q⟩, .endAt (Position.start.through before.toList)])
    (hparts : ∀ es, ¬ ['*', '/'] <:+: body ++ ' ' :: es →
      ∀ ds, tokensAt .start (before.toList ++ ' ' :: (es ++ '*' :: '/' :: ds)) =
        ts ++ ⟨.blockComment, .ofList (body ++ ' ' :: es), q⟩ ::
          tokensAt (Position.start.through (before.toList ++ ' ' :: (es ++ ['*', '/']))) ds) :
    ReadAlike before (before ++ commentText comment) := by
  obtain ⟨es, hcomment, hes⟩ :
    ∃ es, (commentText comment).toList = ' ' :: (es ++ '*' :: '/' :: [' ']) ∧
      ' ' :: es = [' ', '/', '*'] ++ (' ' :: comment.toList ++ [' ']) :=
    ⟨['/', '*'] ++ (' ' :: comment.toList ++ [' ']), by simp [toList_commentText], rfl⟩
  have hfree : ¬ ['*', '/'] <:+: body ++ ' ' :: es := by
    rw [hes]
    intro hpair
    rcases pair_infix_append hpair with hpair | hpair | ⟨-, hspace⟩
    · exact hbody hpair
    · rcases pair_infix_append hpair with hpair | hpair | ⟨-, hspace⟩
      · exact absurd hpair (by decide)
      · exact not_infix_padded hclose hpair
      · exact absurd hspace (by simp)
    · exact absurd hspace (by simp)
  have htext' : tokenize (before ++ commentText comment) =
      ts ++ [⟨.blockComment, .ofList (body ++ ' ' :: es), q⟩,
        .endAt (Position.start.through (before.toList ++ (commentText comment).toList))] := by
    show tokensAt .start (before ++ commentText comment).toList = _
    rw [String.toList_append, hcomment, hparts es hfree, tokensAt_of_blank _ Text.isBlank_space,
      ← Position.through_append]
    simp
  have hend : SameOnLine (.endAt (Position.start.through before.toList))
      (.endAt (Position.start.through (before.toList ++ (commentText comment).toList))) :=
    sameOnLine_endAt (newline_notMem_commentText hbreak)
  by_cases hlast : lastKind none ts = some .doc
  · have hkept : SameOnLine ⟨.blockComment, .ofList body, q⟩
        ⟨.blockComment, .ofList (body ++ ' ' :: es), q⟩ := ⟨rfl, rfl, nofun⟩
    have htokens := htext
    rw [← List.nil_append [_, _]] at htext htext'
    refine Coupled.readAlike_of_tokens (fun _ ↦ ⟨rfl, rfl⟩) (List.forall_mem_nil _)
      (List.forall_mem_nil _) (.cons hkept (.cons hend .nil)) ?_ htext htext'
      (Coupled.documents_of_last hlast htokens rfl rfl (hgoal hlast))
    rw [Coupled.NamesAlike, List.zip_cons_cons, List.forall_mem_cons]
    exact ⟨nofun, List.forall_mem_singleton.mpr nofun⟩
  · rw [← List.singleton_append] at htext htext'
    exact Coupled.readAlike_of_tokens (fun hdoc ↦ absurd hdoc hlast)
      (List.forall_mem_singleton.mpr rfl)
      (List.forall_mem_singleton.mpr rfl) (.cons hend .nil) (List.forall_mem_singleton.mpr nofun)
      htext htext' (Coupled.documents_of_value (List.forall_mem_singleton.mpr nofun))

/-- The last line of a text ends in a comment. -/
def EndsInLineComment (text : String) : Prop :=
  ∃ c ∈ tokenize text, c.kind = .lineComment ∧ c.line = (Position.behind text.toList).line

/-- A text ends in a comment that is not closed, and this is the documentation of a goal. -/
def EndsInDoc (text : String) : Prop :=
  (Region.code.after text.toList).IsOpen ∧
    lastKind none (tokenize text).dropLast.dropLast = some .doc ∧ EndInGoal (tokenize text)

/-- The comment on the last line of a text gives no name to a statement there, but it does with this
note at its end. -/
def NamedBy (text note : String) : Prop :=
  ∃ c ∈ tokenize text, c.kind = .lineComment ∧ c.line = (Position.behind text.toList).line ∧
    (∃ x ∈ tokenize text, x.kind = .semicolon ∧ x.line = c.line) ∧
    nameInComment c.value.toList = none ∧ nameInComment note.toList ≠ none

/-- Where a text goes on behind a space, its last line has no comment. -/
theorem not_endsInLineComment (hparts : ∀ es, tokensAt .start (before.toList ++ ' ' :: es) =
      ts ++ tokensAt (.behind before.toList) (' ' :: es))
    (htext : tokenize before = ts ++ [.endAt (.behind before.toList)]) :
    ¬ EndsInLineComment before := by
  rintro ⟨c, hc, hkind, hline⟩
  have hmem : c ∈ ts := by
    rw [htext, List.mem_append, List.mem_singleton] at hc
    refine hc.resolve_right ?_
    rintro rfl
    cases hkind
  have htokens := pairwise_tokensAt_lineComment .start (before.toList ++ [' ', ';'])
  rw [hparts, ← List.singleton_append (l := [';']),
    tokensAt_append_cons _ Text.isBlank_space (by decide), List.pairwise_append] at htokens
  have hsemicolon : (Lexeme.first ';' []).kind ≠ .endOfInput := by decide
  have hlt := htokens.2.2 c hmem _ (.head _) hkind hsemicolon
  rw [hline] at hlt
  exact Int.lt_irrefl _ hlt

/-- At the end of a text the comment may become part of one that is there. -/
theorem readAlike_of_end (hbreak : '\n' ∉ comment.toList)
    (hclose : ¬ ['*', '/'] <:+: comment.toList)
    (hdoc : EndsInLineComment before ∨ lastKind none (tokenize before).dropLast ≠ some .doc)
    (hopen : ¬ EndsInDoc before) (hname : ¬ NamedBy before (commentText comment)) :
    ReadAlike before (before ++ commentText comment) := by
  cases TextEnd.of_text .start before.toList with
  | between ts htext hparts =>
    rw [Position.start_through] at htext hparts
    have htokens : tokenize before = ts ++ [.endAt (.behind before.toList)] := htext
    have hlast := hdoc.resolve_left (not_endsInLineComment hparts htokens)
    rw [htokens, List.dropLast_concat] at hlast
    have htokens' : tokenize (before ++ "") = ts ++ tokensAt (.behind before.toList) "".toList := by
      rw [String.append_empty, htokens]
      exact congrArg _ (tokensAt_of_blank _ (List.forall_mem_nil _)).symm
    have hbetween := readAlike_of_between hbreak hclose hlast htokens' hparts
    rwa [String.append_empty, String.append_empty] at hbetween
  | line ts note q hq htext hparts =>
    have htokens : tokenize before = ts ++ [⟨.lineComment, .ofList note, q⟩, _] := htext
    rw [Position.start_through] at hq
    refine readAlike_of_line hbreak (fun hsemicolon hnote ↦ ?_) htext hparts
    by_contra hsome
    refine hname ⟨⟨.lineComment, .ofList note, q⟩,
      by simp [htokens], rfl, hq, hsemicolon, ?_, hsome⟩
    rwa [String.toList_ofList]
  | block ts body q hregion hbody htext hparts =>
    have htokens : tokenize before = ts ++ [⟨.blockComment, .ofList body, q⟩, _] := htext
    refine readAlike_of_block hbreak hclose hbody (fun hlast hgoal ↦
      hopen ⟨hregion, ?_, hgoal⟩) htext hparts
    rw [htokens, List.append_cons, List.dropLast_concat, List.dropLast_concat, hlast]

/-- The end of a text is the only place of its end token. -/
theorem eq_empty_of_endOfInput {t : Token} (ht : t ∈ tokenize (before ++ behind))
    (hend : t.kind = .endOfInput)
    (hplace : t.position = .behind before.toList) : behind = "" := by
  have happend : (before ++ behind).toList = before.toList ++ behind.toList := String.toList_append
  obtain ⟨spans, -, hkind, htokens⟩ := Span.tokensAt_tile (before ++ behind).toList _ 0 rfl
  rw [show tokenize (before ++ behind) = _ from htokens, List.mem_append, List.mem_singleton] at ht
  obtain rfl : t = .endAt (.behind (before ++ behind).toList) := by
    refine ht.resolve_left fun ht ↦ ?_
    obtain ⟨s, hs, rfl⟩ := List.mem_map.mp ht
    exact hkind s hs hend
  have hends : (before ++ behind).toList ++ [] = before.toList ++ behind.toList := by
    rw [List.append_nil, happend]
  have hnil : (before ++ behind).toList = before.toList := by
    refine Position.eq_of_through (p := .start) hends ?_
    rw [Position.start_through, Position.start_through]
    exact hplace
  rw [happend, List.append_right_eq_self, String.toList_eq_nil_iff] at hnil
  exact hnil

/-- In front of a token the text can be parted. -/
theorem exists_front_of_token {t : Token} (ht : t ∈ tokenize (before ++ behind))
    (hend : t.kind ≠ .endOfInput)
    (hplace : t.position = .behind before.toList) : ∃ ts, behind ≠ "" ∧
    tokenize before = ts ++ [.endAt (.behind before.toList)] ∧
    tokenize (before ++ behind) = ts ++ tokensAt (.behind before.toList) behind.toList ∧
    ∀ es, tokensAt .start (before.toList ++ ' ' :: es) =
      ts ++ tokensAt (.behind before.toList) (' ' :: es) := by
  have happend : (before ++ behind).toList = before.toList ++ behind.toList := String.toList_append
  obtain ⟨ts, later, htokens⟩ := List.append_of_mem ht
  obtain ⟨ds, x, rest, htext, hx, hlater, hparts⟩ := exists_append_of_tokensAt .start htokens hend
  have hsplit := hlater
  rw [tokensAt_cons _ hx] at hlater
  obtain ⟨rfl, -⟩ := List.cons.inj hlater
  obtain rfl : ds = before.toList := by
    refine Position.eq_of_through (p := .start) (htext.symm.trans happend) ?_
    rw [Position.start_through before.toList]
    exact hplace
  have hbehind : behind.toList = x :: rest :=
    (List.append_cancel_left (htext.symm.trans happend)).symm
  rw [← hbehind] at hsplit
  rw [Position.start_through] at hparts
  refine ⟨ts, ?_, ?_, ?_, fun es ↦ hparts _ (by simp)⟩
  · rintro rfl
    cases hbehind
  · have halone := hparts [] nofun
    rwa [List.append_nil, tokensAt_of_blank _ (List.forall_mem_nil _)] at halone
  · rw [htokens, hsplit, Position.start_through]

end Insertion

/-- A block comment that is put in front of a token leaves the model and the codes of the
diagnostics as they are. It must not come right behind the keyword of a documentation, where it
would be kept; nor, at the end of a text, become part of the documentation of a goal, or name a
statement as part of a comment. -/
theorem comment_inert (before behind comment : String) (hbreak : '\n' ∉ comment.toList)
    (hclose : ¬ ['*', '/'] <:+: comment.toList)
    (htoken : ∃ t ∈ tokenize (before ++ behind), t.position = .behind before.toList)
    (hdoc : behind = "" ∧ EndsInLineComment before ∨
      lastKind none (tokenize before).dropLast ≠ some .doc)
    (hopen : behind = "" → ¬ EndsInDoc before)
    (hname : behind = "" → ¬ NamedBy before (commentText comment)) :
    ReadAlike (before ++ behind) (before ++ commentText comment ++ behind) := by
  obtain ⟨t, ht, hplace⟩ := htoken
  by_cases hend : t.kind = .endOfInput
  · obtain rfl := eq_empty_of_endOfInput ht hend hplace
    have hatend := readAlike_of_end hbreak hclose (hdoc.imp_left And.right) (hopen rfl) (hname rfl)
    rwa [String.append_empty, String.append_empty]
  · obtain ⟨ts, hbehind, htokens, htext, hparts⟩ := exists_front_of_token ht hend hplace
    have hlast := hdoc.resolve_left fun h ↦ hbehind h.1
    rw [htokens, List.dropLast_concat] at hlast
    exact readAlike_of_between hbreak hclose hlast htext hparts

/-- In front of the note that names a connection, and behind it. -/
theorem comment_around_note :
    (let before := "#dartwin d \x7b #twinsystem s \x7b connect a to b; "
     let behind := "// name: n"
     ReadAlike (before ++ behind) (before ++ commentText "c" ++ behind)) ∧
    (let before := "#dartwin d \x7b #twinsystem s \x7b connect a to b; // name: n"
     ReadAlike (before ++ "") (before ++ commentText "c" ++ "")) := by
  have hbreak : '\n' ∉ "c".toList := by decide
  have hclose : ¬ ['*', '/'] <:+: "c".toList := by decide
  have hnote : nameInComment (commentText "c").toList = none := by decide +kernel
  constructor
  · exact comment_inert _ _ "c" hbreak hclose (by decide +kernel) (.inr (by decide +kernel))
      (fun h ↦ absurd h (by decide)) fun h ↦ absurd h (by decide)
  · exact comment_inert _ "" "c" hbreak hclose (by decide +kernel) (.inr (by decide +kernel))
      (fun _ h ↦ absurd h.1 (by decide +kernel)) fun _ ⟨_, _, _, _, _, _, hsome⟩ ↦ hsome hnote

/-- Behind the keyword of a documentation a comment is kept, though the keyword is the name of a
port; at the end of a text, a note in it names the last connection if it becomes part of a comment
there. -/
theorem comment_behind_doc :
    (let before := "#dartwin d \x7b #twinsystem s \x7b part p \x7b port doc "
     let behind := "; \x7d \x7d \x7d"
     (∃ t ∈ tokenize (before ++ behind), t.position = .behind before.toList) ∧
       (∀ t ∈ tokenize (before ++ behind), t.kind ≠ .goal) ∧
       (readText (before ++ commentText "c" ++ behind)).1 ≠ (readText (before ++ behind)).1 ∧
       (readText (before ++ behind)).2.diagnostics.map (·.code) = [] ∧
       (readText (before ++ commentText "c" ++ behind)).2.diagnostics.map (·.code) = [.malformed]) ∧
    (let text := "#dartwin d \x7b #twinsystem s \x7b connect a to b; // c"
     (∃ t ∈ tokenize text, t.position = .behind text.toList) ∧
       (∀ t ∈ tokenize text, t.kind ≠ .goal) ∧
       '\n' ∉ "// name: n".toList ∧ ¬ ['*', '/'] <:+: "// name: n".toList ∧
       (readText (text ++ commentText "// name: n")).1 ≠ (readText text).1) := by
  refine ⟨⟨?_, ?_, ?_, ?_, ?_⟩, ?_, ?_, ?_, ?_, ?_⟩ <;> decide +kernel

end TwinDiagram.Parser
