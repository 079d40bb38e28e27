import Mathlib.Data.List.Nodup
import TwinDiagram.Proofs.Parser.Aside
import TwinDiagram.Proofs.Parser.Place

namespace TwinDiagram

def Transform.slice? (t : Transform) : TokenKind → Option Slice
  | .before => t.before
  | .core => t.core
  | .after => t.after
  | _ => none

def Transform.told (t : Transform) : Option Transform := if t.slices.isEmpty then none else some t

theorem Transform.slice?_empty (k : TokenKind) : Transform.empty.slice? k = none := by
  cases k <;> rfl

namespace Parser

open Program State
open Token (opens sections direct)

namespace State

variable {s t : State}

/-- The same text, read from other tokens on. -/
def fresh (s : State) (ts : List Token) : State := { s with passed := [], rest := ts, events := [] }

theorem rest_of_open (hs : s.current.kind.isPlain) (hbrace : s.advance.current.kind = .openBrace) :
    s.advance.advance.rest = s.rest.drop 2 := by
  rw [advance_of_kind hbrace (by decide),
    advance_eq_forward (TokenKind.ne_endOfInput_of_isPlain hs), ← forward_add, rest_forward]

theorem opens_of_open (hs : s.current.kind.isPlain) (hbrace : s.advance.current.kind = .openBrace) :
    opens s.current.kind s.rest := by
  have hend := TokenKind.ne_endOfInput_of_isPlain hs
  obtain ⟨xs, hxs⟩ := rest_eq_cons hend
  obtain ⟨ys, hys⟩ := rest_eq_cons (s := s.advance) (by rw [hbrace]; exact nofun)
  rw [State.rest_advance hxs hend] at hys
  rw [hxs, hys, opens, hbrace]
  simp

theorem opens_of_not_open (hs : s.current.kind.isPlain)
    (hbrace : s.advance.current.kind ≠ .openBrace)
    (k : TokenKind) : opens k s.rest = false := by
  have hend := TokenKind.ne_endOfInput_of_isPlain hs
  obtain ⟨xs, hxs⟩ := rest_eq_cons hend
  have hrest := State.rest_advance hxs hend
  rw [hxs]
  cases xs with
  | nil => rfl
  | cons y ys =>
    rw [current_of_rest hrest] at hbrace
    rw [opens, beq_eq_false_iff_ne.mpr hbrace, Bool.and_false]

/-- A section that is opened is the next of its kind, and behind it come the others. -/
theorem sections_of_open {kinds : List TokenKind} (hkinds : ∀ k ∈ kinds, k.isSection)
    (hs : s.current.kind.isPlain) (hbrace : s.advance.current.kind = .openBrace)
    (hclose : direct 0 s.advance.rest = s.advance.rest :: direct 0 t.rest) {k : TokenKind}
    (hk : k ∈ kinds) :
    sections k s.rest =
      if k = s.current.kind then s.rest :: sections k t.rest else sections k t.rest := by
  have hbraceless : opens k s.advance.rest = false := by
    refine opens_rest_eq_false ?_
    rw [hbrace]
    rintro rfl
    exact absurd (hkinds _ hk) (by decide)
  have hbehind := Token.sections_of_not_opens hclose hbraceless
  have hdirect := direct_of_plain hs
  split
  · next heq => rw [Token.sections_of_opens hdirect (heq ▸ opens_of_open hs hbrace), hbehind]
  · next hne =>
    rw [Token.sections_of_not_opens hdirect (opens_rest_eq_false (Ne.symm hne)), hbehind]

end State

section Blocks

variable {α β γ : Type}

/-- What is found in a block does not depend on what was read before. -/
theorem runStatements_fresh {handle : Handler α} {found : α} {b s : State}
    (hh : ∀ c : Overlap, c.Reads handle) (hlast : s.last = b.last)
    (hcomments : s.comments = b.comments) :
    (runStatements handle found s).1 = (runStatements handle found (b.fresh s.rest)).1 := by
  have hkind {x y : Token} (h : x = y) : x.kind = y.kind := h ▸ rfl
  have hvalue {x y : Token} (h : x = y) : x.value = y.value := h ▸ rfl
  let c := (Overlap.whole hkind (fun h _ ↦ hvalue h) s.comments b.comments).past s.findings []
  have hcurrent (n : Nat) : ((b.fresh s.rest).forward n).current = (s.forward n).current := by
    simp [State.current, State.forward, fresh, hlast]
  have hbeside : c.Beside s (b.fresh s.rest) :=
    { rest := ⟨s.rest, s.rest, (List.append_nil _).symm, (List.append_nil _).symm,
        List.forall₂_same.mpr fun _ _ ↦ rfl⟩
      last := hlast
      comments := ⟨rfl, rfl⟩
      names := fun n _ _ ↦ by rw [hcurrent, hcurrent, hcomments, fresh]
      notes := fun _ _ _ ↦ Overlap.sameNotes_of_value hvalue _
      findings := ⟨[], [], (List.append_nil _).symm, rfl, .nil⟩ }
  exact (((hh c).runStatements hbeside).resolve_right Overlap.not_reached_past).1

/-- A block with sections: their keywords, what is kept of each kind, what a section is worth that
comes next, and the repeated ones within it. -/
structure Division (α γ : Type) where
  kinds : List TokenKind
  kept : α → TokenKind → Option γ
  value : List Token → γ
  inner : List Token → List (List Token)

namespace Division

def gather (d : Division α γ) (k : TokenKind) (inner : Handler β) (start : β) (give : β → γ)
    (put : α → γ → α) (found : α) : Parse α := do
  let keyword ← expect k
  let b ← block k.label inner start
  if (d.kept found k).isSome then
    report (.repeatedSection keyword k)
    return found
  return put found (give b)

structure Fits (d : Division α γ) (handle : Handler α) (inner : Handler β) (start : β)
    (give : β → γ) :
    Prop where
  regular : handle.Regular
  inner_regular : inner.Regular
  isSection : ∀ k ∈ d.kinds, k.isSection
  nodup : d.kinds.Nodup
  reads : ∀ k ∈ d.kinds, ∃ put : α → γ → α, handle k = some (d.gather k inner start give put) ∧
    ∀ found c, d.kept (put found c) k = some c ∧
      ∀ j ∈ d.kinds, j ≠ k → d.kept (put found c) j = d.kept found j
  other : ∀ {k read}, handle k = some read → k ∉ d.kinds → ∀ found, KeepsAside (read found) ∧
    ∀ {s a t}, (read found).run.run s = (.ok a, t) → d.kept a = d.kept found

/-- The section that comes next holds what it is said to be worth. -/
def Worth (d : Division α γ) (inner : Handler β) (start : β) (give : β → γ) (s : State) : Prop :=
  s.current.kind ∈ d.kinds → s.advance.current.kind = .openBrace →
    give (runStatements inner start s.advance.advance).1 = d.value s.rest ∧
      (runStatements inner start s.advance.advance).2.repeats = s.repeats + (d.inner s.rest).length

inductive Turn (d : Division α γ) (x y : α × State) : Prop
  | aside (hkept : d.kept y.1 = d.kept x.1) (haside : Aside d.kinds x.2 y.2)
  | opened {k : TokenKind} (hk : k ∈ d.kinds)
    (hkept : d.kept y.1 k = (d.kept x.1 k <|> some (d.value x.2.rest)))
    (hsections : sections k x.2.rest = x.2.rest :: sections k y.2.rest)
    (hothers : ∀ j ∈ d.kinds, j ≠ k →
      d.kept y.1 j = d.kept x.1 j ∧ sections j y.2.rest = sections j x.2.rest)
    (hrepeats : y.2.repeats =
      x.2.repeats + (d.inner x.2.rest).length + if (d.kept x.1 k).isSome then 1 else 0)

def late (kept : Option γ) (ts : List (List Token)) : List (List Token) :=
  if kept.isSome then ts else ts.tail

def repeated (d : Division α γ) (x : α × State) (k : TokenKind) : List (List Token) :=
  (sections k x.2.rest).flatMap d.inner ++ late (d.kept x.1 k) (sections k x.2.rest)

/-- All that lay ahead in the block has been read. -/
structure Gathered (d : Division α γ) (x y : α × State) : Prop where
  kept : ∀ k ∈ d.kinds, d.kept y.1 k = (d.kept x.1 k <|> (sections k x.2.rest).head?.map d.value)
  repeats : y.2.repeats = x.2.repeats + (d.kinds.flatMap (d.repeated x)).length

variable {d : Division α γ} {handle : Handler α} {inner : Handler β} {start : β} {give : β →
  γ} {found : α}
  {s : State} {x y z : α × State} {k : TokenKind} {put : α → γ → α}

theorem run_gather (hs : s.current.kind = k) : (d.gather k inner start give put found).run.run s =
    if s.advance.current.kind = .openBrace then
      let b := runStatements inner start s.advance.advance
      let t := b.2.close k.label s.advance.current
      if (d.kept found k).isSome then (.ok found, t.report (.repeatedSection s.current k))
      else (.ok (put found (give b.1)), t)
    else (.error ⟨.kind .openBrace, s.advance.current⟩, s.advance) := by
  rw [gather, run_bind, run_expect, if_pos hs]
  simp only
  rw [run_bind, run_block]
  by_cases hbrace : s.advance.current.kind = .openBrace
  · simp only [if_pos hbrace]
    by_cases hkept : (d.kept found k).isSome
    · simp only [if_pos hkept]
      rfl
    · simp only [if_neg hkept]
      rfl
  · simp only [if_neg hbrace]

theorem statement_of_open (found : α) (hread : handle k = some (d.gather k inner start give put))
    (hs : s.current.kind = k) (hbrace : s.advance.current.kind = .openBrace) :
    statement handle found s =
      let b := runStatements inner start s.advance.advance
      let t := b.2.close k.label s.advance.current
      if (d.kept found k).isSome then (found, t.report (.repeatedSection s.current k))
      else (put found (give b.1), t) := by
  unfold statement
  rw [hs, hread]
  simp only [run_gather hs, if_pos hbrace]
  by_cases hkept : (d.kept found k).isSome
  · simp only [if_pos hkept]
  · simp only [if_neg hkept]

namespace Fits

variable (h : d.Fits handle inner start give)
include h

theorem turn_of_other (hs : s.current.kind.closesBlock = false) (hk : s.current.kind ∉ d.kinds) :
    d.Turn (found, s) (statement handle found s) := by
  refine .aside ?_ (statement_aside h.isSection h.regular hs hk fun read hread ↦
    (h.other hread hk found).1 h.isSection)
  unfold statement
  split
  · rfl
  · next read hread =>
    split
    · next hrun => exact (h.other hread hk found).2 hrun
    · rfl

/-- Without its brace a section is given up like any other statement. -/
theorem turn_of_not_open (hk : s.current.kind ∈ d.kinds)
    (hbrace : s.advance.current.kind ≠ .openBrace) :
    d.Turn (found, s) (statement handle found s) := by
  obtain ⟨put, hread, -⟩ := h.reads _ hk
  have hplain := h.regular.plain hread
  have hstrides := aside_strides h.isSection
  have hpass : Aside d.kinds s s.advance :=
      ⟨level_motion.pass hplain, repeats_advance s, fun _ j _ ↦
    (Token.sections_of_not_opens (direct_of_plain hplain) (opens_of_not_open hplain hbrace j)).symm⟩
  have hstatement : statement handle found s = (found, (s.advance.report
      (.mismatch ⟨.kind .openBrace, s.advance.current⟩)).recover s.position) := by
    unfold statement
    rw [hread]
    simp only [run_gather, if_neg hbrace]
  rw [hstatement]
  refine .aside rfl
    (hpass.trans ((hstrides.mismatch _ _).trans (hstrides.recover fun hposition ↦ ?_)))
  have hmoved := position_advance (TokenKind.ne_endOfInput_of_isPlain hplain)
  have hstay : s.advance.position = s.position := hposition
  omega

theorem turn_of_open (hfree : s.EndFree) (hworth : d.Worth inner start give s)
    (hk : s.current.kind ∈ d.kinds) (hbrace : s.advance.current.kind = .openBrace) :
    d.Turn (found, s) (statement handle found s) := by
  obtain ⟨put, hread, hput⟩ := h.reads _ hk
  have hplain := h.regular.plain hread
  obtain ⟨hvalue, hinner⟩ := hworth hk hbrace
  have hlevel : Level s.advance.advance (runStatements inner start s.advance.advance).2 :=
    runStatements_keeps level_motion h.inner_regular
  have hclose := direct_close ((Onward.advance s).endFree hfree) hbrace hlevel
    (runStatements_closes h.inner_regular) s.current.kind.label
  have hrepeats := repeats_close s.current.kind.label s.advance.current
    (runStatements inner start s.advance.advance).2
  have hstatement := statement_of_open found hread rfl hbrace
  simp only at hstatement
  generalize (runStatements inner start s.advance.advance).2.close s.current.kind.label
    s.advance.current = t at hstatement hclose hrepeats
  have hsections : sections s.current.kind s.rest = s.rest :: sections s.current.kind t.rest := by
    rw [sections_of_open h.isSection hplain hbrace hclose hk, if_pos rfl]
  have hothers (j : TokenKind) (hj : j ∈ d.kinds) (hne : j ≠ s.current.kind) :
      sections j t.rest = sections j s.rest := by
    rw [sections_of_open h.isSection hplain hbrace hclose hj, if_neg hne]
  rw [hvalue] at hstatement
  rw [hinner] at hrepeats
  cases hkept : d.kept found s.current.kind with
  | none =>
    rw [hkept, if_neg (by simp)] at hstatement
    obtain ⟨hput, hputOther⟩ := hput found (d.value s.rest)
    rw [hstatement]
    exact .opened hk (by rw [hput, hkept]; rfl) hsections
      (fun j hj hne ↦ ⟨hputOther j hj hne, hothers j hj hne⟩) (by rw [hrepeats, hkept]; rfl)
  | some c =>
    rw [hkept, if_pos Option.isSome_some] at hstatement
    rw [hstatement]
    exact .opened hk (by rw [hkept]; rfl) hsections (fun j hj hne ↦ ⟨rfl, hothers j hj hne⟩)
      (by rw [repeats_repeatedSection, hrepeats, hkept]; rfl)

theorem turn (hs : s.current.kind.closesBlock = false) (hfree : s.EndFree)
    (hworth : d.Worth inner start give s) : d.Turn (found, s) (statement handle found s) := by
  by_cases hk : s.current.kind ∈ d.kinds
  · by_cases hbrace : s.advance.current.kind = .openBrace
    · exact h.turn_of_open hfree hworth hk hbrace
    · exact h.turn_of_not_open hk hbrace
  · exact h.turn_of_other hs hk

end Fits

theorem Gathered.of_closes (hs : s.current.kind.closesBlock) :
    d.Gathered (found, s) (found, s) := by
  have hnone (k : TokenKind) : sections k s.rest = [] := by
    rw [sections, direct_of_closes hs, List.filter_nil]
  constructor
  · intro k _
    rw [hnone]
    cases d.kept found k <;> rfl
  · simp [repeated, hnone, late]

/-- Where the parts of two lists agree but for one, the lengths differ by as much as those of
that one. -/
theorem length_flatMap_of_ne {kinds : List TokenKind} (hnodup : kinds.Nodup) (hk : k ∈ kinds)
    {f g : TokenKind → List (List Token)} {n : Nat} (hat : (f k).length = (g k).length + n)
    (hoff : ∀ j ∈ kinds, j ≠ k → f j = g j) :
    (kinds.flatMap f).length = (kinds.flatMap g).length + n := by
  have hsplit (h : TokenKind → List (List Token)) :
      (kinds.flatMap h).length = (h k).length + ((kinds.erase k).flatMap h).length := by
    rw [((List.perm_cons_erase hk).flatMap_right h).length_eq, List.flatMap_cons,
      List.length_append]
  have herase : (kinds.erase k).flatMap f = (kinds.erase k).flatMap g := by
    refine List.flatMap_congr fun j hj ↦ ?_
    obtain ⟨hne, hj⟩ := hnodup.mem_erase_iff.mp hj
    exact hoff j hj hne
  rw [hsplit f, hsplit g, herase, hat]
  omega

/-- What a statement does is gathered together with all that is read behind it. -/
theorem Turn.gathered (hnodup : d.kinds.Nodup) (hfree : x.2.EndFree) (hturn : d.Turn x y)
    (h : d.Gathered y z) : d.Gathered x z := by
  cases hturn with
  | aside hkept haside =>
    have hsame := haside.sections hfree
    constructor
    · intro k hk
      rw [h.kept k hk, hkept, hsame k hk]
    · have hrepeated : d.kinds.flatMap (d.repeated y) = d.kinds.flatMap (d.repeated x) :=
        List.flatMap_congr fun k hk ↦ by rw [repeated, hsame k hk, hkept, repeated]
      rw [h.repeats, haside.repeats, hrepeated]
  | @opened k hk hkept hsections hothers hrepeats =>
    constructor
    · intro j hj
      by_cases hjk : j = k
      · subst hjk
        rw [h.kept j hj, hkept, hsections]
        cases d.kept x.1 j <;> rfl
      · obtain ⟨hkept, hsame⟩ := hothers j hj hjk
        rw [h.kept j hj, hkept, hsame]
    · have hat : (d.repeated x k).length = (d.repeated y k).length +
          ((d.inner x.2.rest).length + if (d.kept x.1 k).isSome then 1 else 0) := by
        simp only [repeated, hsections, hkept, List.flatMap_cons, List.length_append]
        cases d.kept x.1 k <;> simp [late] <;> omega
      have hoff (j : TokenKind) (hj : j ∈ d.kinds) (hjk : j ≠ k) :
          d.repeated x j = d.repeated y j := by
        obtain ⟨hkept, hsame⟩ := hothers j hj hjk
        rw [repeated, repeated, hkept, hsame]
      rw [h.repeats, length_flatMap_of_ne hnodup hk hat hoff, hrepeats]
      omega

theorem Fits.gathered (h : d.Fits handle inner start give) (hfree : s.EndFree)
    (hworth : ∀ {t}, Onward s t → d.Worth inner start give t) :
    d.Gathered (found, s) (runStatements handle found s) := by
  fun_induction runStatements handle found s with
  | case1 found s hs => exact .of_closes hs
  | case2 found s hs next hlt ih =>
    have hs : s.current.kind.closesBlock = false := by simpa using hs
    have honward : Onward s next.2 := statement_keeps onward_motion h.regular hs
    exact (h.turn hs hfree (hworth (.refl s))).gathered h.nodup hfree
      (ih (honward.endFree hfree) fun ht ↦ hworth (honward.trans ht))
  | case3 found s hs next hlt => exact absurd (length_statement h.regular (by simpa using hs)) hlt

end Division

end Blocks

/-- The keywords of the parts of a change. -/
def parts : List TokenKind := [.before, .core, .after]

theorem eq_of_mem_parts {k : TokenKind} (hk : k ∈ parts) : k = .before ∨ k = .core ∨
    k = .after := by
  simpa [parts] using hk

def withPart (k : TokenKind) (t : Transform) (s : Slice) : Transform :=
  ((section? t k).map fun part ↦ part.2 s).getD t

theorem section?_eq {k : TokenKind} (hk : k ∈ parts) (t : Transform) : section? t k =
    some (t.slice? k, withPart k t) := by
  rcases eq_of_mem_parts hk with rfl | rfl | rfl <;> rfl

theorem slice?_withPart {k : TokenKind} (hk : k ∈ parts) (t : Transform) (s : Slice) :
    (withPart k t s).slice? k = some s := by
  rcases eq_of_mem_parts hk with rfl | rfl | rfl <;> rfl

theorem slice?_withPart_of_ne {j k : TokenKind} (hk : k ∈ parts) (hne : j ≠ k) (t : Transform)
    (s : Slice) :
    (withPart k t s).slice? j = t.slice? j := by
  rcases eq_of_mem_parts hk with rfl | rfl | rfl <;> cases j <;> first | rfl | exact absurd rfl hne

theorem mem_parts_of_handler {k : TokenKind} {read : Transform → Parse Transform}
    (h : transformHandler k = some read) : k ∈ parts := by
  cases k <;> first | decide | cases h

/-- The parts of the change that comes next that repeat an earlier one. -/
def repeatedParts (ts : List Token) : List (List Token) :=
  parts.flatMap fun k ↦ (sections k (ts.drop 2)).tail

namespace State

variable (b : State) {s t : State}

def sliceAt (ts : List Token) : Slice :=
  (runStatements declarationHandler .empty (b.fresh (ts.drop 2))).1.toSlice

/-- What the change tells that comes next: of each part the first, if there is any part. -/
def transformAt (ts : List Token) : Option Transform :=
  let first (k : TokenKind) : Option Slice := (sections k (ts.drop 2)).head?.map b.sliceAt
  Transform.told ⟨first .before, first .core, first .after⟩

def changeDivision : Division Transform Slice := ⟨parts, Transform.slice?, b.sliceAt, fun _ ↦ []⟩

def rootDivision : Division Outline (Option Transform) :=
  ⟨[.transform], fun o _ ↦ o.transform, b.transformAt, repeatedParts⟩

theorem changeDivision_fits :
    b.changeDivision.Fits transformHandler declarationHandler .empty Declarations.toSlice where
  regular := transformHandler_regular
  inner_regular := declarationHandler_regular
  isSection k hk := by rcases eq_of_mem_parts hk with rfl | rfl | rfl <;> rfl
  nodup := show parts.Nodup by decide
  reads k hk := by
    refine ⟨withPart k, ?_, fun t s ↦
      ⟨slice?_withPart hk t s, fun j _ hne ↦ slice?_withPart_of_ne hk hne t s⟩⟩
    rw [transformHandler, section?_eq hk, Option.map_some]
    refine congrArg some (funext fun t ↦ ?_)
    simp only [section?_eq hk, slice, Division.gather, bind_assoc]
    refine congrArg _ (funext fun keyword ↦ congrArg _ (funext fun found ↦ ?_))
    by_cases hkept : (t.slice? k).isSome <;> simp only [changeDivision, hkept] <;> rfl
  other hread hk := absurd (mem_parts_of_handler hread) hk

theorem changeDivision_worth (hlast : s.last = b.last) (hcomments : s.comments = b.comments) :
    b.changeDivision.Worth declarationHandler .empty Declarations.toSlice s := by
  intro hk hbrace
  have hplain : s.current.kind.isPlain := by
    obtain ⟨put, hread, -⟩ := b.changeDivision_fits.reads _ hk
    exact transformHandler_regular.plain hread
  have honward := (Onward.advance s).trans (.advance _)
  constructor
  · rw [runStatements_fresh (fun _ ↦ Overlap.declarationHandler_reads) (honward.last.trans hlast)
      (honward.comments.trans hcomments), rest_of_open hplain hbrace]
    rfl
  · rw [(runStatements_aside KeepsAside.declarationHandler_apart).repeats, repeats_advance,
      repeats_advance]
    rfl

theorem changeDivision_gathered (hlast : s.last = b.last) (hcomments : s.comments = b.comments)
    (hfree : s.EndFree) :
    b.changeDivision.Gathered (.empty, s) (runStatements transformHandler .empty s) :=
  b.changeDivision_fits.gathered hfree fun ht ↦
    b.changeDivision_worth (ht.last.trans hlast) (ht.comments.trans hcomments)

/-- What is read in the block of a change is of each part the first. -/
theorem runStatements_transform (hlast : s.last = b.last) (hcomments : s.comments = b.comments)
    (hfree : s.EndFree) : (runStatements transformHandler .empty s).1 =
      ⟨(sections .before s.rest).head?.map b.sliceAt, (sections .core s.rest).head?.map b.sliceAt,
        (sections .after s.rest).head?.map b.sliceAt⟩ := by
  have hkept (k : TokenKind) (hk : k ∈ parts) :
    (runStatements transformHandler .empty s).1.slice? k =
      (sections k s.rest).head?.map b.sliceAt := by
    refine ((b.changeDivision_gathered hlast hcomments hfree).kept k hk).trans ?_
    simp only [changeDivision, Transform.slice?_empty]
    rfl
  have hbefore := hkept .before (by decide)
  have hcore := hkept .core (by decide)
  have hafter := hkept .after (by decide)
  generalize (runStatements transformHandler .empty s).1 = t at hbefore hcore hafter
  cases t
  exact congr (congr (congrArg _ hbefore) hcore) hafter

theorem repeats_transform (hlast : s.last = b.last) (hcomments : s.comments = b.comments)
    (hfree : s.EndFree) : (runStatements transformHandler .empty s).2.repeats =
      s.repeats + (parts.flatMap fun k ↦ (sections k s.rest).tail).length := by
  rw [(b.changeDivision_gathered hlast hcomments hfree).repeats]
  refine congrArg _ (congrArg _ (List.flatMap_congr fun k _ ↦ ?_))
  simp [Division.repeated, changeDivision, Transform.slice?_empty, Division.late]

theorem rootDivision_fits :
    b.rootDivision.Fits rootHandler transformHandler .empty Transform.told where
  regular := rootHandler_regular
  inner_regular := transformHandler_regular
  isSection k hk := List.mem_singleton.mp hk ▸ rfl
  nodup := show [TokenKind.transform].Nodup by decide
  reads k hk := by
    obtain rfl := List.mem_singleton.mp hk
    refine ⟨fun o t ↦ { o with transform := some t }, ?_, fun o t ↦
      ⟨rfl, fun j hj hne ↦ absurd (List.mem_singleton.mp hj) hne⟩⟩
    refine congrArg some (funext fun o ↦ ?_)
    unfold rootTransform Parser.transform
    simp only [bind_assoc, pure_bind]
    rw [current_bind_expect]
    rfl
  other {k read} hread hk o := by
    rw [rootHandler_of_ne fun h ↦ hk (List.mem_singleton.mpr h), Option.map_eq_some_iff] at hread
    obtain ⟨read, hread, rfl⟩ := hread
    refine ⟨(KeepsAside.declarationHandler_apart.aside hread _).map _, fun {s a t} hrun ↦ ?_⟩
    obtain ⟨d, u, -, hrun⟩ := bind_ok hrun
    cases hrun
    rfl

theorem rootDivision_worth (hlast : s.last = b.last) (hcomments : s.comments = b.comments)
    (hfree : s.EndFree) : b.rootDivision.Worth transformHandler .empty Transform.told s := by
  intro hk hbrace
  have hkind : s.current.kind = .transform := List.mem_singleton.mp hk
  have hplain : s.current.kind.isPlain := hkind ▸ rfl
  have honward := (Onward.advance s).trans (.advance _)
  have hlast := honward.last.trans hlast
  have hcomments := honward.comments.trans hcomments
  have hfree := honward.endFree hfree
  constructor
  · rw [b.runStatements_transform hlast hcomments hfree, rest_of_open hplain hbrace]
    rfl
  · rw [b.repeats_transform hlast hcomments hfree, rest_of_open hplain hbrace, repeats_advance,
      repeats_advance]
    rfl

/-- What lies ahead in the block of the root. -/
def rootBody (s : State) : List Token := (s.header?.map fun t ↦ (t.forward 3).rest).getD []

theorem rootBody_of_header (ht : s.header? = some t) : s.rootBody = (t.forward 3).rest := by
  rw [rootBody, ht]
  rfl

theorem countP_duplicateSection (s : State) :
    s.diagnostics.countP (·.code == .duplicateSection) = s.repeats := by
  rw [diagnostics, findings, List.countP_map, List.countP_filterMap, List.countP_reverse, repeats]
  refine congrArg (List.countP · s.events) (funext fun e ↦ ?_)
  cases e with
  | found f => cases f <;> rfl
  | skipped | parsed => rfl

/-- A section can be read on its own. -/
theorem run_transform_fresh {ts : List Token} (hfree : ∀ x ∈ ts, x.kind ≠ .endOfInput)
    (hopens : opens .transform ts) :
    (transform.run.run (b.fresh ts)).1 = .ok (b.transformAt ts) := by
  match ts, hopens with
  | x :: y :: zs, hopens =>
    obtain ⟨hx, hy⟩ : x.kind = .transform ∧ y.kind = .openBrace := by simpa [opens] using hopens
    have hcurrent : (b.fresh (x :: y :: zs)).current.kind = .transform := hx
    have hadvance := advance_of_kind hcurrent (by decide)
    have hbrace : (b.fresh (x :: y :: zs)).advance.current.kind = .openBrace := by
      rw [hadvance]; exact hy
    have hworth := b.rootDivision_worth (s := b.fresh (x :: y :: zs)) rfl rfl hfree
      (List.mem_singleton.mpr hcurrent) hbrace
    rw [transform, run_bind, run_expect, if_pos hcurrent]
    simp only
    rw [run_bind, run_block, if_pos hbrace]
    exact congrArg Except.ok hworth.1

theorem rootDivision_gathered (hfree : b.EndFree) (ht : b.header? = some t) :
    b.rootDivision.Gathered (⟨.empty, none⟩, t.forward 3) (outline t) := by
  obtain ⟨i, rfl, -⟩ := header?_eq_some_iff.mp ht
  have honward := (Onward.forward b i).trans (.forward _ 3)
  refine b.rootDivision_fits.gathered (honward.endFree hfree) fun hu ↦ ?_
  have hu := honward.trans hu
  exact b.rootDivision_worth hu.last hu.comments (hu.endFree hfree)

theorem outline_transform (hfree : b.EndFree) (ht : b.header? = some t) :
    (outline t).1.transform.join = (sections .transform b.rootBody).head?.bind b.transformAt := by
  have hkept : (outline t).1.transform =
      (sections .transform (t.forward 3).rest).head?.map b.transformAt :=
    (b.rootDivision_gathered hfree ht).kept .transform (.head _)
  rw [rootBody_of_header ht, hkept]
  cases (sections .transform (t.forward 3).rest).head? <;> rfl

theorem outline_repeats (hfree : b.EndFree) (ht : b.header? = some t) :
    (outline t).2.repeats = b.repeats + ((sections .transform b.rootBody).tail ++
      (sections .transform b.rootBody).flatMap repeatedParts).length := by
  obtain ⟨i, hi, -⟩ := header?_eq_some_iff.mp ht
  have hrepeats : (t.forward 3).repeats = b.repeats := by
    rw [hi]
    rfl
  rw [(b.rootDivision_gathered hfree ht).repeats, hrepeats, rootBody_of_header ht]
  refine congrArg _ ?_
  simp only [Division.repeated, rootDivision, Division.late, List.flatMap_singleton,
    List.length_append]
  exact Nat.add_comm _ _

end State

/-- The first section on the change is told of, and of each part of it the first. Whatever is
repeated, in the root or in one of the sections, is reported. -/
theorem first_section_wins (text : String) : ∃ m s, readText text = (.ok m, s) ∧
    let p := State.ofTokens (tokenize text)
    let changes := sections .transform p.rootBody
    m.transform = changes.head?.bind p.transformAt ∧
      s.diagnostics.countP (·.code == .duplicateSection) =
        (changes.tail ++ changes.flatMap repeatedParts).length ∧
      ∀ ts ∈ changes, (transform.run.run (p.fresh ts)).1 = .ok (p.transformAt ts) := by
  have hfree := (ofTokens_tokenize text).2
  have hempty : (ofTokens (tokenize text)).repeats = 0 := by
    rw [repeats, events_ofTokens]
    rfl
  have hrun := run_document (.ofTokens (tokenize text))
  rw [rewind_of_passed (passed_ofTokens _)] at hrun
  cases hheader : (ofTokens (tokenize text)).header? with
  | none =>
    rw [hheader] at hrun
    have hnone : sections .transform (ofTokens (tokenize text)).rootBody = [] := by
      rw [rootBody, hheader]
      rfl
    refine ⟨_, _, hrun, ?_⟩
    simp only [hnone]
    refine ⟨rfl, ?_, List.forall_mem_nil _⟩
    rw [countP_duplicateSection, State.report, repeats_log rfl, hempty]
    rfl
  | some t =>
    rw [hheader] at hrun
    refine ⟨_, _, hrun, outline_transform _ hfree hheader, ?_, fun ts hts ↦ ?_⟩
    · rw [countP_duplicateSection, repeats_log rfl, repeats_close,
        outline_repeats _ hfree hheader, hempty, Nat.zero_add]
    · obtain ⟨hdirect, hopens⟩ := List.mem_filter.mp hts
      have hsuffix := Token.suffix_of_mem_direct hdirect
      rw [rootBody_of_header hheader] at hsuffix
      obtain ⟨i, rfl, -⟩ := header?_eq_some_iff.mp hheader
      have honward := (Onward.forward (ofTokens (tokenize text)) i).trans (.forward _ 3)
      exact run_transform_fresh _ (fun x hx ↦ honward.endFree hfree x (hsuffix.subset hx)) hopens

/-- Neither a section without its brace counts, nor one that lies within another. -/
example :
    let text :=
      "#dartwin X \x7b #dartrans; #dartrans \x7b #core \x7b #core \x7b \x7d \x7d #core \x7b " ++
      "\x7d \x7d #dartrans \x7b #dartrans \x7b \x7d \x7d \x7d"
    let changes := sections .transform (State.ofTokens (tokenize text)).rootBody
    changes.length = 2 ∧ changes.map (fun ts ↦ (repeatedParts ts).length) = [1, 0] := by
  decide +kernel

end Parser

end TwinDiagram
