import TwinDiagram.Proofs.Parser.Depth
import TwinDiagram.Proofs.Parser.Trailing
import TwinDiagram.Proofs.Text.Case
import TwinDiagram.Proofs.Token.Comments
import TwinDiagram.Proofs.Token.Insertion

namespace TwinDiagram.Parser

section Note

variable {name cs rest : List Char}

/-- `// name: <id>`, with the word in any case, blanks around it or not, and the whole of
the name. -/
def NameNote (name cs : List Char) : Prop :=
  ∃ gap word gap' gap'' rest,
    cs = '/' :: '/' :: (gap ++ (word ++ (gap' ++ ':' :: (gap'' ++ (name ++ rest))))) ∧
    (∀ c ∈ gap ++ gap' ++ gap'', Text.isBlank c) ∧ word.map Char.toLower = "name".toList ∧
    name ≠ [] ∧ (∀ c ∈ name, isIdentifierChar c) ∧ ∀ c ∈ rest.head?, isIdentifierChar c = false

/-- The first such note within a text. -/
def FirstNote (name cs : List Char) : Prop :=
  ∃ before behind, cs = before ++ behind ∧ NameNote name behind ∧
    ∀ earlier later, cs = earlier ++ later → earlier.length < before.length →
      ∀ other, ¬ NameNote other later

theorem dropWord_eq_some_iff {word : List Char} :
    dropWord word cs = some rest ↔ ∃ taken, cs = taken ++ rest ∧ taken.map Char.toLower = word := by
  induction word generalizing cs with
  | nil => simp [dropWord]
  | cons w word ih =>
    cases cs with
    | nil => simp [dropWord]
    | cons c cs =>
      rw [dropWord]
      constructor
      · intro h
        split at h
        · next hc =>
          obtain ⟨taken, rfl, htaken⟩ := ih.mp h
          exact ⟨c :: taken, rfl, by rw [List.map_cons, hc, htaken]⟩
        · cases h
      · rintro ⟨taken, hcs, htaken⟩
        obtain ⟨d, taken, rfl, hd, hword⟩ := List.map_eq_cons_iff.mp htaken
        obtain ⟨rfl, rfl⟩ := List.cons.inj hcs
        rw [if_pos hd]
        exact ih.mpr ⟨taken, rfl, hword⟩

/-- What is no letter is spelled in one way only. -/
theorem dropWord_mark {mark : Char} (hmark : ¬ (97 ≤ mark.toNat ∧ mark.toNat ≤ 122))
    (hlower : mark.toLower = mark) {word : List Char} :
    dropWord (mark :: word) cs = some rest ↔ ∃ ds, cs = mark :: ds ∧
      dropWord word ds = some rest := by
  cases cs with
  | nil => simp [dropWord]
  | cons c cs =>
    rw [dropWord]
    constructor
    · intro h
      split at h
      · next hc => exact ⟨cs, by rw [Text.eq_of_toLower_eq hc hmark], h⟩
      · cases h
    · rintro ⟨ds, hcs, h⟩
      obtain ⟨rfl, rfl⟩ := List.cons.inj hcs
      rwa [if_pos hlower]

theorem dropWord_slashes : dropWord "//".toList cs = some rest ↔ cs = '/' :: '/' :: rest := by
  have hslash {word cs : List Char} : dropWord ('/' :: word) cs = some rest ↔
      ∃ ds, cs = '/' :: ds ∧ dropWord word ds = some rest := dropWord_mark (by decide) (by decide)
  rw [show "//".toList = ['/', '/'] from rfl, hslash]
  simp only [hslash, dropWord, Option.some_inj]
  simp

theorem dropWord_colon : dropWord ":".toList cs = some rest ↔ cs = ':' :: rest := by
  rw [show ":".toList = [':'] from rfl, dropWord_mark (by decide) (by decide)]
  simp [dropWord]

theorem exists_blanks (cs : List Char) : ∃ gap, cs = gap ++ skipBlanks cs ∧
    ∀ c ∈ gap, Text.isBlank c :=
  ⟨cs.takeWhile Text.isBlank, List.takeWhile_append_dropWhile.symm,
    fun _ hc ↦ List.all_eq_true.mp List.all_takeWhile _ hc⟩

theorem skipBlanks_append {gap : List Char} (hgap : ∀ c ∈ gap, Text.isBlank c)
    (hcs : ∀ c ∈ cs.head?, Text.isBlank c = false) : skipBlanks (gap ++ cs) = cs := by
  rw [skipBlanks, List.dropWhile_append_of_pos hgap]
  cases cs with
  | nil => rfl
  | cons c cs => exact List.dropWhile_cons_of_neg (by simp [hcs c rfl])

theorem takeWhile_append_of_head? {p : Char → Bool} (hname : ∀ c ∈ name, p c)
    (hrest : ∀ c ∈ rest.head?, p c = false) : (name ++ rest).takeWhile p = name := by
  rw [List.takeWhile_append_of_pos hname]
  cases rest with
  | nil => simp
  | cons c rest => rw [List.takeWhile_cons_of_neg (by simp [hrest c rfl]), List.append_nil]

theorem NameNote.of_nameNote (h : nameNote cs = some name) : NameNote name cs := by
  simp only [nameNote, bind, Option.bind_eq_some_iff] at h
  obtain ⟨cs₁, hslashes, cs₂, hword, cs₃, hcolon, hname⟩ := h
  obtain ⟨gap, hgap, hblank⟩ := exists_blanks cs₁
  obtain ⟨word, hcs₂, hlower⟩ := dropWord_eq_some_iff.mp hword
  obtain ⟨gap', hgap', hblank'⟩ := exists_blanks cs₂
  obtain ⟨gap'', hgap'', hblank''⟩ := exists_blanks cs₃
  generalize skipBlanks cs₃ = ds at hgap'' hname
  have hlast := List.takeWhile_append_dropWhile (p := isIdentifierChar) (l := ds)
  split at hname
  · cases hname
  · next hne =>
    cases hname
    refine ⟨gap, word, gap', gap'', ds.dropWhile isIdentifierChar, ?_, ?_, hlower,
      fun hnil ↦ hne hnil, fun c hc ↦ List.all_eq_true.mp List.all_takeWhile c hc, fun c hc ↦ ?_⟩
    · rw [dropWord_slashes.mp hslashes, hgap, hcs₂, hgap', dropWord_colon.mp hcolon, hgap'']
      exact congrArg (fun ds ↦ '/' :: '/' :: (gap ++ (word ++ (gap' ++ ':' :: (gap'' ++ ds)))))
        hlast.symm
    · simp only [List.forall_mem_append]
      exact ⟨⟨hblank, hblank'⟩, hblank''⟩
    · have hstop := List.head?_dropWhile_not isIdentifierChar ds
      rw [Option.mem_def.mp hc] at hstop
      simpa using hstop

theorem not_isBlank_of_toLower {c : Char} (hc : c.toLower = 'n') : Text.isBlank c = false := by
  by_contra hblank
  rw [Text.toLower_of_isBlank (by simpa using hblank)] at hc
  subst hc
  exact hblank (by decide)

theorem NameNote.nameNote_eq (h : NameNote name cs) : nameNote cs = some name := by
  obtain ⟨gap, word, gap', gap'', rest, rfl, hblank, hlower, hne, hname, hrest⟩ := h
  simp only [List.forall_mem_append] at hblank
  obtain ⟨⟨hgap, hgap'⟩, hgap''⟩ := hblank
  have hword : ∀ c ∈ (word ++ (gap' ++ ':' :: (gap'' ++ (name ++ rest)))).head?,
      Text.isBlank c = false := by
    obtain ⟨c, cs, rfl, hc, -⟩ := List.map_eq_cons_iff.mp hlower
    rintro d hd
    cases hd
    exact not_isBlank_of_toLower hc
  have hcolon : ∀ c ∈ (':' :: (gap'' ++ (name ++ rest))).head?, Text.isBlank c = false := by
    rintro c hc
    cases hc
    rfl
  have hstart : ∀ c ∈ (name ++ rest).head?, Text.isBlank c = false := by
    obtain ⟨c, cs, rfl⟩ := List.exists_cons_of_ne_nil hne
    rintro d hd
    cases hd
    exact Text.not_isBlank_of_isIdentifierChar (hname c (.head _))
  rw [nameNote, dropWord_slashes.mpr rfl]
  simp only [bind, Option.bind_some, skipBlanks_append hgap hword,
    dropWord_eq_some_iff.mpr ⟨word, rfl, hlower⟩, skipBlanks_append hgap' hcolon,
    dropWord_colon.mpr rfl, skipBlanks_append hgap'' hstart]
  rw [show (name ++ rest).takeWhile (fun c ↦ Text.isWordChar c || c == '-') = name from
    takeWhile_append_of_head? hname hrest]
  cases name with
  | nil => exact absurd rfl hne
  | cons c name => rfl

theorem nameNote_eq_some_iff : nameNote cs = some name ↔ NameNote name cs :=
  ⟨.of_nameNote, NameNote.nameNote_eq⟩

theorem not_nameNote_nil : ¬ NameNote name [] := by
  rintro ⟨gap, word, gap', gap'', rest, h, -⟩
  cases h

theorem firstNote_of_start {other : List Char} (h : NameNote other cs) :
    FirstNote name cs ↔ NameNote name cs := by
  constructor
  · rintro ⟨before, behind, hcs, hnote, hfirst⟩
    cases before with
    | nil => rwa [hcs]
    | cons c before => exact absurd h (hfirst [] cs rfl (Nat.zero_lt_succ _) other)
  · exact fun hnote ↦ ⟨[], cs, rfl, hnote, fun _ _ _ hlt ↦ absurd hlt (Nat.not_lt_zero _)⟩

theorem firstNote_cons {c : Char} (h : ∀ other, ¬ NameNote other (c :: cs)) :
    FirstNote name (c :: cs) ↔ FirstNote name cs := by
  constructor
  · rintro ⟨before, behind, hcs, hnote, hfirst⟩
    cases before with
    | nil => exact absurd (hcs ▸ hnote) (h name)
    | cons d before =>
      obtain ⟨rfl, rfl⟩ := List.cons.inj hcs
      exact ⟨before, behind, rfl, hnote, fun earlier later heq hlt ↦
        hfirst (c :: earlier) later (congrArg (c :: ·) heq) (Nat.succ_lt_succ hlt)⟩
  · rintro ⟨before, behind, rfl, hnote, hfirst⟩
    refine ⟨c :: before, behind, rfl, hnote, fun earlier later heq hlt other ↦ ?_⟩
    cases earlier with
    | nil =>
      rw [List.nil_append] at heq
      exact heq ▸ h other
    | cons d earlier =>
      exact hfirst earlier later (List.cons.inj heq).2 (Nat.lt_of_succ_lt_succ hlt) other

/-- A comment gives the name of its first note. -/
theorem nameInComment_eq_some_iff : nameInComment cs = some name ↔ FirstNote name cs := by
  induction cs with
  | nil =>
    refine iff_of_false nofun ?_
    rintro ⟨before, behind, hcs, hnote, -⟩
    rw [(List.append_eq_nil_iff.mp hcs.symm).2] at hnote
    exact not_nameNote_nil hnote
  | cons c cs ih =>
    rw [nameInComment]
    cases hstart : nameNote (c :: cs) with
    | none =>
      have hnone : ∀ other, ¬ NameNote other (c :: cs) := by
        intro other hother
        rw [nameNote_eq_some_iff.mpr hother] at hstart
        cases hstart
      exact ih.trans (firstNote_cons hnone).symm
    | some other =>
      rw [firstNote_of_start (nameNote_eq_some_iff.mp hstart), ← nameNote_eq_some_iff, hstart]
      rfl

end Note

open Token

section Comment

variable {ts later ys : List Token} {y z : Token}

theorem exists_of_noteOn {line : Int} {note : List Char} (h : noteOn line ts = some note) :
    ∃ blocks c rest, ts = blocks ++ c :: rest ∧ (∀ t ∈ blocks, t.kind = .blockComment) ∧
      c.kind = .lineComment ∧ c.line = line ∧ c.value.toList = note := by
  induction ts with
  | nil => cases h
  | cons t ts ih =>
    by_cases hblock : t.kind = .blockComment
    · rw [noteOn_blockComment _ hblock] at h
      obtain ⟨blocks, c, rest, rfl, hblocks, hc⟩ := ih h
      exact ⟨t :: blocks, c, rest, rfl, List.forall_mem_cons.mpr ⟨hblock, hblocks⟩, hc⟩
    · rw [noteOn, if_neg hblock] at h
      split at h
      · next hline => exact ⟨[], t, ts, rfl, List.forall_mem_nil _, hline.1, hline.2,
          Option.some.inj h⟩
      · cases h

theorem noteOn_append_blocks {line : Int} {blocks : List Token}
    (h : ∀ t ∈ blocks, t.kind = .blockComment)
    (ts : List Token) : noteOn line (blocks ++ ts) = noteOn line ts := by
  induction blocks with
  | nil => rfl
  | cons t blocks ih =>
    obtain ⟨ht, hblocks⟩ := List.forall_mem_cons.mp h
    rw [List.cons_append, noteOn_blockComment _ ht, ih hblocks]

/-- A line has one comment that runs to its end. -/
theorem commentOn_of_mem {c : Token} (h : ts.Pairwise Precedes) (hc : c ∈ ts)
    (hkind : c.kind = .lineComment) : commentOn c.line (lineComments ts) = some c := by
  have hmem : c ∈ (lineComments ts).reverse := by simp [lineComments, hc, hkind]
  have hfound : ((lineComments ts).reverse.find? (·.line == c.line)).isSome :=
    List.find?_isSome.mpr ⟨c, hmem, beq_self_eq_true c.line⟩
  obtain ⟨d, hd⟩ := Option.isSome_iff_exists.mp hfound
  obtain ⟨hdmem, hdkind, hline⟩ := mem_of_commentOn hd
  by_cases hne : c = d
  · rw [commentOn, hd, hne]
  · rcases rel_or_rel_of_pairwise h hc hdmem hne with hlt | hlt
    · have := hlt.2 hkind (by rw [hdkind]; decide)
      omega
    · have := hlt.2 hdkind (by rw [hkind]; decide)
      omega

section Trailing

variable (h : (ts ++ z :: later).Pairwise Precedes) (hz : z.kind = .semicolon)
  (hy : dropComments (some z.kind) later = y :: ys)
include h hz hy

theorem trailingName_of_noteOn {note : List Char} (hnote : noteOn z.line later = some note) :
    trailingName (lineComments (ts ++ z :: later)) z y = (nameInComment note).map .ofList := by
  have hnotdoc : some z.kind ≠ some TokenKind.doc := by rw [hz]; decide
  have hlater := (List.pairwise_cons.mp (List.pairwise_append.mp h).2.1).2
  obtain ⟨blocks, c, rest, rfl, hblocks, hckind, hcline, rfl⟩ := exists_of_noteOn hnote
  have hcomment := commentOn_of_mem h (c := c) (by simp) hckind
  rw [hcline] at hcomment
  -- What follows next stands behind the comment.
  have hyrest : y ∈ rest := by
    rw [dropComments_append_of_blockComment hnotdoc hblocks, dropComments,
      if_pos (by simp [hckind])] at hy
    exact (dropComments_sublist _ rest).subset (hy ▸ List.mem_cons_self)
  have hcy := (List.pairwise_cons.mp (List.pairwise_append.mp hlater).2.1).1 y hyrest
  have hbehind : ¬ (y.line = z.line ∧ y.column < c.column) := by
    rintro ⟨hline, hcolumn⟩
    have := hcy.column_lt (by omega)
    omega
  have hcond : (decide (y.line = z.line) && decide (y.column < c.column)) = false := by
    simpa using hbehind
  rw [trailingName, hcomment]
  simp only [bind, Option.bind_some, hcond, Bool.false_eq_true, if_false, Option.map_eq_bind]
  rfl

/-- The comment of the line, if there is one, stands behind another token that stays. -/
theorem trailingName_of_noteOn_none (hnote : noteOn z.line later = none) :
    trailingName (lineComments (ts ++ z :: later)) z y = none := by
  obtain ⟨-, hbehind, hcross⟩ := List.pairwise_append.mp h
  obtain ⟨hzlater, hlater⟩ := List.pairwise_cons.mp hbehind
  cases hcomment : commentOn z.line (lineComments (ts ++ z :: later)) with
  | none => exact trailingName_of_none hcomment
  | some c =>
    obtain ⟨hc, hckind, hcline⟩ := mem_of_commentOn hcomment
    have hclater : c ∈ later := by
      rcases List.mem_append.mp hc with hc | hc
      · have := (hcross c hc z (.head _)).2 hckind (by rw [hz]; decide)
        omega
      · refine (List.mem_cons.mp hc).resolve_left ?_
        rintro rfl
        rw [hz] at hckind
        cases hckind
    obtain ⟨before, rest, rfl⟩ := List.append_of_mem hclater
    obtain ⟨a, ha, hablock⟩ : ∃ a ∈ before, a.kind ≠ .blockComment := by
      by_contra hall
      push Not at hall
      rw [noteOn_append_blocks hall, noteOn_lineComment _ hckind hcline] at hnote
      cases hnote
    have hac := (List.pairwise_append.mp hlater).2.2 a ha c (.head _)
    have haline : a.kind ≠ .lineComment := by
      intro hkind
      have hle := (hzlater a (by simp [ha])).line_le
      have := hac.2 hkind (by rw [hckind]; decide)
      omega
    -- Something stands in front of the comment, and nothing that stays in front of `y`.
    have hstays : a ∈ y :: ys := hy ▸ mem_dropComments (by simp [ha]) haline hablock
    have hpairwise : (y :: ys).Pairwise Precedes := hy ▸ hlater.sublist (dropComments_sublist _ _)
    have hyc : y.position.Before c.position := by
      rcases List.mem_cons.mp hstays with rfl | hays
      · exact hac.1
      · exact ((List.pairwise_cons.mp hpairwise).1 a hays).1.trans hac.1
    have hzy := (hzlater y ((dropComments_sublist _ _).subset (hy ▸ List.mem_cons_self))).line_le
    have hyc : y.line < c.line ∨ y.line = c.line ∧ y.column < c.column := hyc
    exact trailingName_of_between hcomment (by omega) (by omega)

theorem trailingName_eq : trailingName (lineComments (ts ++ z :: later)) z y =
    (noteOn z.line later).bind fun note ↦ (nameInComment note).map .ofList := by
  cases hnote : noteOn z.line later with
  | some note => exact trailingName_of_noteOn h hz hy hnote
  | none => exact trailingName_of_noteOn_none h hz hy hnote

end Trailing

theorem mem_of_precedes {t : Token} (h : (ts ++ z :: later).Pairwise Precedes)
    (ht : t ∈ ts ++ z :: later) (hzt : z.Precedes t) : t ∈ later := by
  have hirrefl {p q : Position} (hpq : p.Before q) (hqp : q.Before p) : False := by
    unfold Position.Before at *
    omega
  rcases List.mem_append.mp ht with ht | ht
  · exact (hirrefl hzt.1 ((List.pairwise_append.mp h).2.2 t ht z (.head _)).1).elim
  · refine (List.mem_cons.mp ht).resolve_left ?_
    rintro rfl
    exact hirrefl hzt.1 hzt.1

theorem kind_of_noteOn {line : Int} {note : List Char} {t : Token} (h : later.Pairwise Precedes)
    (hnote : noteOn line later = some note) (ht : t ∈ later) (htline : t.line = line) :
    t.kind ∈ [.blockComment, .lineComment, .endOfInput] := by
  obtain ⟨blocks, c, rest, rfl, hblocks, hckind, hcline, -⟩ := exists_of_noteOn hnote
  rcases List.mem_append.mp ht with ht | ht
  · simp [hblocks t ht]
  rcases List.mem_cons.mp ht with rfl | ht
  · simp [hckind]
  · by_contra hkind
    have hct := (List.pairwise_cons.mp (List.pairwise_append.mp h).2.1).1 t ht
    have := hct.2 hckind fun hend ↦ hkind (by simp [hend])
    omega

theorem eq_of_noteOn {ts' later' : List Token} {z' : Token}
    (h : (ts ++ z :: later).Pairwise Precedes)
    (heq : ts ++ z :: later = ts' ++ z' :: later') (hz : z.kind = .semicolon)
    (hz' : z'.kind = .semicolon) (hline : z'.line = z.line) (hnote : noteOn z.line later ≠ none)
    (hnote' : noteOn z'.line later' ≠ none) : z' = z := by
  have hlast {ts later : List Token} {z t : Token} (h : (ts ++ z :: later).Pairwise Precedes)
      (ht : t ∈ ts ++ z :: later) (hzt : z.Precedes t) (hkind : t.kind = .semicolon)
      (hline : t.line = z.line) : noteOn z.line later = none := by
    by_contra hnote
    obtain ⟨note, hnote⟩ := Option.ne_none_iff_exists'.mp hnote
    have hlater := (List.pairwise_cons.mp (List.pairwise_append.mp h).2.1).2
    have := kind_of_noteOn hlater hnote (mem_of_precedes h ht hzt) hline
    rw [hkind] at this
    exact absurd this (by decide)
  have hzmem : z ∈ ts ++ z :: later := by simp
  have hzmem' : z' ∈ ts ++ z :: later := by simp [heq]
  by_contra hne
  rcases rel_or_rel_of_pairwise h hzmem' hzmem hne with hlt | hlt
  · exact hnote' (hlast (heq ▸ h) (heq ▸ hzmem) hlt hz hline.symm)
  · exact hnote (hlast h hzmem' hlt hz' hline)

end Comment

/-- Reads `connect <ref> to <ref> [name <id>]`, and not the semicolon. -/
def connectionHead : Parse (String × String × Option String) := do
  let _ ← expect .connect
  let source ← reference
  let _ ← expect .towards
  let target ← reference
  return (source, target, ← inlineName)

theorem connection_eq : connection = connectionHead >>= fun head ↦
    connectionEnd head.1 head.2.1 head.2.2 := by
  simp only [connection, connectionHead, bind_assoc, pure_bind]

theorem keeps_connectionHead : Program.Keeps State.Onward connectionHead :=
  onward_motion.bind (onward_motion.expect rfl) fun _ ↦
    onward_motion.bind onward_motion.reference fun _ ↦
      onward_motion.bind (onward_motion.expect rfl) fun _ ↦
        onward_motion.bind onward_motion.reference fun _ ↦
          onward_motion.bind onward_motion.inlineName fun _ ↦ onward_motion.ret _

/-- The parser of a text comes to the state `s`, and from there it reads a connection without a name
up to its semicolon. -/
structure Unnamed (text source target : String) (s u : State) : Prop where
  onward : State.Onward (.ofTokens (tokenize text)) s
  head : connectionHead.run.run s = (.ok (source, target, none), u)
  semicolon : u.current.kind = .semicolon

namespace Unnamed

variable {text source target : String} {s u : State}

theorem onward_end (h : Unnamed text source target s u) :
    State.Onward (.ofTokens (tokenize text)) u := by
  have hkeeps := keeps_connectionHead s
  rw [h.head] at hkeeps
  exact h.onward.trans hkeeps

theorem run_connection (h : Unnamed text source target s u) : connection.run.run s =
    (.ok ⟨source, target, trailingName u.comments u.current u.advance.current⟩, u.advance) := by
  rw [connection_eq, Program.run_bind, h.head]
  show (connectionEnd source target none).run.run u = _
  rw [run_connectionEnd, if_pos h.semicolon, ((State.Onward.advance u).comments)]
  rfl

/-- The semicolon in the text, and the tokens of the text behind it. -/
theorem exists_append (h : Unnamed text source target s u) : ∃ before after ts ys,
    text.toList = before ++ ';' :: after ∧ u.current.position = .behind before ∧
    tokenize text = ts ++ u.current :: tokensAt (u.current.position.after ';') after ∧
    dropComments (some u.current.kind) (tokensAt (u.current.position.after ';') after) =
      u.advance.current :: ys := by
  have hend : u.current.kind ≠ .endOfInput := by rw [h.semicolon]; decide
  obtain ⟨xs, hrest⟩ := State.rest_eq_cons hend
  obtain ⟨w, hw, -⟩ := h.onward_end.moved
  obtain ⟨hstream, -⟩ := State.ofTokens_tokenize text
  rw [hw, hrest, ← h.onward_end.last, List.append_assoc, List.cons_append] at hstream
  obtain ⟨ts, later, htokens, hlater⟩ := exists_append_of_dropComments hstream.symm
  obtain ⟨before, x, rest, htext, hx, hbehind, -⟩ := exists_append_of_tokensAt .start htokens hend
  rw [tokensAt_cons _ hx] at hbehind
  obtain ⟨hz, rfl⟩ := List.cons.inj hbehind
  obtain ⟨rfl, hlength⟩ := Lexeme.first_of_semicolon (congrArg Token.kind hz ▸ h.semicolon)
  have hplace : u.current.position = Position.start.through before := congrArg Token.position hz
  rw [hlength, ← hplace] at htokens hlater
  obtain ⟨ys, hys⟩ : ∃ ys, xs ++ [u.last] = u.advance.current :: ys := by
    rw [State.current, State.rest_advance hrest hend, (State.Onward.advance u).last]
    cases xs with
    | nil => exact ⟨[], rfl⟩
    | cons x xs => exact ⟨xs ++ [u.last], rfl⟩
  exact ⟨before, rest, ts, ys, htext, by rw [hplace, Position.start_through], htokens,
    hlater.trans hys⟩

/-- The name depends on what ends the line of the semicolon. -/
theorem exists_name (h : Unnamed text source target s u) : ∃ before after ts,
    text.toList = before ++ ';' :: after ∧ u.current.position = .behind before ∧
    tokenize text = ts ++ u.current :: tokensAt (u.current.position.after ';') after ∧
    connection.run.run s = (.ok ⟨source, target,
      (noteOn u.current.line (tokensAt (u.current.position.after ';') after)).bind
        fun note ↦ (nameInComment note).map .ofList⟩, u.advance) := by
  obtain ⟨before, after, ts, ys, htext, hplace, htokens, hys⟩ := h.exists_append
  have hpairwise : (tokenize text).Pairwise Precedes := Cursor.pairwise_tokens _
  have hcomments : u.comments = lineComments (tokenize text) := by
    rw [h.onward_end.comments, State.comments_ofTokens]
  rw [htokens] at hpairwise hcomments
  exact ⟨before, after, ts, htext, hplace, htokens, by
    rw [h.run_connection, hcomments, trailingName_eq hpairwise h.semicolon hys]⟩

end Unnamed

/-- A connection without a name of its own is named by the first note in the comment that ends its
line, if only blanks and block comments stand between that and the semicolon; else it has no name.
No two semicolons of a line give a name. -/
theorem connection_name {text source target : String} {s u : State}
    (h : Unnamed text source target s u) : ∃ before after name,
    text.toList = before ++ ';' :: after ∧ u.current.position = .behind before ∧
    connection.run.run s = (.ok ⟨source, target, name⟩, u.advance) ∧
    (∀ n : String, name = some n ↔
      ∃ note, EndsInNote (firstLine after) note ∧ FirstNote n.toList note) ∧
    ∀ {source' target' : String} {s' u' t' : State} {c : Connection},
      Unnamed text source' target' s' u' → connection.run.run s' = (.ok c, t') →
      u'.current.line = u.current.line → name ≠ none → c.name ≠ none →
      u'.current = u.current := by
  obtain ⟨before, after, ts, htext, hplace, htokens, hrun⟩ := h.exists_name
  have hpairwise : (tokenize text).Pairwise Precedes := Cursor.pairwise_tokens _
  have hline : (u.current.position.after ';').line = u.current.line :=
    Position.line_after (by decide)
  refine ⟨before, after, _, htext, hplace, hrun, fun n ↦ ?_, fun h' hrun' hsame hname hname' ↦ ?_⟩
  · simp only [Option.bind_eq_some_iff, Option.map_eq_some_iff]
    refine exists_congr fun note ↦ and_congr ?_ ?_
    · rw [← hline, noteOn_tokensAt]
    · simp only [nameInComment_eq_some_iff]
      constructor
      · rintro ⟨cs, hcs, rfl⟩
        rwa [String.toList_ofList]
      · exact fun hn ↦ ⟨n.toList, hn, String.ofList_toList⟩
  · obtain ⟨before', after', ts', -, -, htokens', hrun''⟩ := h'.exists_name
    rw [hrun''] at hrun'
    cases hrun'
    have hnote {o : Option (List Char)} {f : List Char → Option String} (h : o.bind f ≠ none) :
        o ≠ none := by
      rintro rfl
      exact h rfl
    rw [htokens] at hpairwise
    exact eq_of_noteOn hpairwise (htokens.symm.trans htokens') h.semicolon h'.semicolon hsame
      (hnote hname) (hnote hname')

/-- A block comment stands between the semicolon and the note. -/
theorem connection_name_behind_block_comment :
    let text :=
      "#dartwin d \x7b #twinsystem s \x7b\nconnect a to b; /* ; */ // Name: n, name: m\n\x7d \x7d"
    let s := (State.ofTokens (tokenize text)).forward 6
    let u := (connectionHead.run.run s).2
    Unnamed text "a" "b" s u ∧ connection.run.run s = (.ok ⟨"a", "b", some "n"⟩, u.advance) ∧
      ∃ before after note, text.toList = before ++ ';' :: after ∧
        u.current.position = .behind before ∧ EndsInNote (firstLine after) note ∧
        FirstNote ['n'] note := by
  intro text s u
  have h : Unnamed text "a" "b" s u :=
    ⟨.forward _ 6, Prod.ext (by decide +kernel) rfl, by decide +kernel⟩
  have hfound : (connection.run.run s).1 = .ok ⟨"a", "b", some "n"⟩ := by decide +kernel
  obtain ⟨before, after, name, htext, hplace, hrun, hname, -⟩ := connection_name h
  rw [hrun] at hfound
  cases hfound
  obtain ⟨note, hends, hfirst⟩ := (hname "n").mp rfl
  exact ⟨h, hrun, before, after, note, htext, hplace, hends, hfirst⟩

end TwinDiagram.Parser
