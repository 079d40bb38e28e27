import TwinDiagram.Proofs.Parser.Direct

namespace TwinDiagram

def TokenKind.isSection (k : TokenKind) : Bool :=
  k == .transform || k == .before || k == .core || k == .after

namespace Token

def opens (k : TokenKind) : List Token → Bool
  | x :: y :: _ => x.kind == k && y.kind == .openBrace
  | _ => false

/-- The blocks with this keyword that stand directly in a block, each with all that lies ahead
of it. -/
def sections (k : TokenKind) (ts : List Token) : List (List Token) := (direct 0 ts).filter (opens k)

variable {k : TokenKind} {t : Token} {ts us : List Token}

theorem opens_eq_false (ht : t.kind ≠ k) : opens k (t :: ts) = false := by
  cases ts with
  | nil => rfl
  | cons => rw [opens, beq_eq_false_iff_ne.mpr ht, Bool.false_and]

theorem sections_of_opens (h : direct 0 ts = ts :: direct 0 us) (hk : opens k ts) :
    sections k ts = ts :: sections k us := by
  rw [sections, h, List.filter_cons_of_pos hk, sections]

theorem sections_of_not_opens (h : direct 0 ts = ts :: direct 0 us) (hk : opens k ts = false) :
    sections k ts = sections k us := by
  rw [sections, h, List.filter_cons_of_neg (by simp [hk]), sections]

end Token

namespace Parser

open Program State
open Token (opens sections direct)

def Event.tellsRepeated : Event → Bool
  | .found (.repeatedSection _ _) => true
  | _ => false

namespace State

def repeats (s : State) : Nat := s.events.countP Event.tellsRepeated

variable {s t u : State} {k : TokenKind}

theorem repeats_log {e : Event} (he : e.tellsRepeated = false) (s : State) :
    (s.log e).repeats = s.repeats := List.countP_cons_of_neg (by simp [he])

theorem repeats_repeatedSection (x : Token) (k : TokenKind) (s : State) :
    (s.report (.repeatedSection x k)).repeats = s.repeats + 1 := List.countP_cons_of_pos rfl

theorem repeats_advance (s : State) : s.advance.repeats = s.repeats := by
  rw [repeats, events_advance, repeats]

theorem repeats_skipBlock (s : State) : s.skipBlock.repeats = s.repeats := by
  unfold skipBlock
  split
  · rfl
  · exact repeats_log rfl s

theorem repeats_close (owner : String) (opened : Token) (s : State) :
    (s.close owner opened).repeats = s.repeats := by
  unfold close
  split
  · exact repeats_advance s
  · exact repeats_log rfl s

theorem opens_rest_eq_false (hs : s.current.kind ≠ k) : opens k s.rest = false := by
  cases hr : s.rest with
  | nil => rfl
  | cons x xs => exact Token.opens_eq_false (current_of_rest hr ▸ hs)

/-- From the one state to the other no section with a keyword of these is passed, and none is
told of. -/
structure Aside (barred : List TokenKind) (s t : State) : Prop where
  level : Level s t
  repeats : t.repeats = s.repeats
  sections : s.EndFree → ∀ k ∈ barred, sections k t.rest = sections k s.rest

variable {barred : List TokenKind}

theorem Aside.refl (s : State) : Aside barred s s := ⟨level_motion.refl s, rfl, fun _ _ _ ↦ rfl⟩

theorem Aside.trans (h : Aside barred s t) (h' : Aside barred t u) : Aside barred s u where
  level := h.level.trans h'.level
  repeats := h'.repeats.trans h.repeats
  sections hs k hk :=
    (h'.sections (h.level.onward.endFree hs) k hk).trans (h.sections hs k hk)

theorem aside_strides (hbarred : ∀ k ∈ barred, k.isSection) :
    Strides (fun k ↦ !barred.contains k) (Aside barred) where
  free {k} hk := by
    rw [Bool.not_eq_true', ← Bool.not_eq_true, List.contains_iff_mem]
    intro hmem
    have hsection := hbarred k hmem
    revert hk hsection
    cases k <;> decide
  refl := .refl
  trans := .trans
  pass {s} hs hfree := by
    refine ⟨level_motion.pass hs, repeats_advance s, fun _ k hk ↦ ?_⟩
    have hne : s.current.kind ≠ k := by
      rintro rfl
      simp [hk] at hfree
    exact (Token.sections_of_not_opens (direct_of_plain hs) (opens_rest_eq_false hne)).symm
  skipped s _ := ⟨level_motion.log rfl, repeats_log rfl s, fun _ _ _ ↦ rfl⟩
  mismatch s _ := ⟨level_motion.log rfl, repeats_log rfl s, fun _ _ _ ↦ rfl⟩
  skip {s} hs := by
    refine ⟨level_motion.skip hs, repeats_skipBlock s, fun _ k hk ↦ ?_⟩
    have hne : s.current.kind ≠ k := by
      rintro rfl
      have hsection := hbarred _ hk
      rw [hs] at hsection
      cases hsection
    exact (Token.sections_of_not_opens (direct_skipBlock hs) (opens_rest_eq_false hne)).symm

/-- Within a block anything may be passed. -/
theorem Aside.enclosed (hbarred : ∀ k ∈ barred, k.isSection) (hs : s.current.kind = .openBrace)
    (h : Aside [] s.advance t) (hclose : t.current.kind.closesBlock) (owner : String) :
    Aside barred s (t.close owner s.current) where
  level := h.level.enclosed hs hclose
  repeats := by rw [repeats_close, h.repeats, repeats_advance]
  sections hfree k hk := by
    have hne : s.current.kind ≠ k := by
      rintro rfl
      have hsection := hbarred _ hk
      rw [hs] at hsection
      cases hsection
    have hdirect := direct_close hfree hs h.level hclose owner
    exact (Token.sections_of_not_opens hdirect (opens_rest_eq_false hne)).symm

end State

section Statements

variable {α : Type} {barred : List TokenKind}

def KeepsAside (p : Parse α) : Prop :=
  ∀ ⦃barred : List TokenKind⦄, (∀ k ∈ barred, k.isSection) → Keeps (Aside barred) p

namespace KeepsAside

theorem of_strides {p : Parse α}
    (h : ∀ {passes : TokenKind → Bool} {R : State → State → Prop}, Strides passes R → Keeps R p) :
    KeepsAside p := fun _ hbarred ↦ h (aside_strides hbarred)

theorem bind {β : Type} {p : Parse α} {f : α → Parse β} (hp : KeepsAside p)
    (hf : ∀ a, KeepsAside (f a)) :
    KeepsAside (p >>= f) := fun _ hbarred ↦
  (aside_strides hbarred).bind (hp hbarred) fun a ↦ hf a hbarred

theorem ret (a : α) : KeepsAside (pure a : Parse α) := fun _ _ ↦ Aside.refl

theorem map {β : Type} {p : Parse α} (hp : KeepsAside p) (f : α → β) :
    KeepsAside (do return f (← p)) := hp.bind fun _ ↦ ret _

theorem expect {k : TokenKind} (hk : k.isPlain) (hsection : k.isSection = false) :
    KeepsAside (expect k) := by
  intro barred hbarred
  apply (aside_strides hbarred).expect hk
  rw [Bool.not_eq_true', ← Bool.not_eq_true, List.contains_iff_mem]
  intro hmem
  rw [hbarred k hmem] at hsection
  cases hsection

theorem expectName : KeepsAside expectName := of_strides Strides.expectName

theorem reference : KeepsAside reference := of_strides Strides.reference

end KeepsAside

structure Handler.Apart (handle : Handler α) : Prop where
  regular : handle.Regular
  isSection_eq_false : ∀ {k read}, handle k = some read → k.isSection = false
  aside : ∀ {k read}, handle k = some read → ∀ found, KeepsAside (read found)

section Loop

variable {handle : Handler α} {found : α} {s : State}

theorem statement_aside (hbarred : ∀ k ∈ barred, k.isSection) (hh : handle.Regular)
    (hs : s.current.kind.closesBlock = false) (hfree : s.current.kind ∉ barred)
    (hread : ∀ read, handle s.current.kind = some read → Keeps (Aside barred) (read found)) :
    Aside barred s (statement handle found s).2 :=
  (aside_strides hbarred).statement (fun h ↦ h.level.onward) hh hs (by simpa using hfree) hread

theorem runStatements_aside (hh : handle.Apart) : Aside [] s (runStatements handle found s).2 :=
  runStatements_invariant (I := fun _ t ↦ Aside [] s t)
    (fun h hs ↦ h.trans (statement_aside (List.forall_mem_nil _) hh.regular hs List.not_mem_nil
      fun _ hread ↦ hh.aside hread _ (List.forall_mem_nil _)))
    (.refl s)

end Loop

namespace KeepsAside

theorem block {handle : Handler α} (hh : handle.Apart) (owner : String) (found : α) :
    KeepsAside (block owner handle found) := by
  intro barred hbarred s
  rw [run_block]
  split
  · next h =>
    exact .enclosed hbarred h (runStatements_aside hh) (runStatements_closes hh.regular) owner
  · exact .refl s

theorem port : KeepsAside port :=
  (expect rfl rfl).bind fun _ ↦ expectName.bind fun _ ↦ (expect rfl rfl).bind fun _ ↦ ret _

theorem portHandler_apart : portHandler.Apart := by
  refine ⟨portHandler_regular, ?_, ?_⟩
  all_goals
    intro k read h
    unfold portHandler at h
    split at h <;> cases h
  · rfl
  · exact fun _ ↦ port.map _

theorem twin {k : TokenKind} (hk : k.isPlain) (hsection : k.isSection = false) :
    KeepsAside (twin k) :=
  (expect hk hsection).bind fun _ ↦ expectName.bind fun _ ↦ (block portHandler_apart _ _).map _

theorem connection : KeepsAside connection :=
  (expect rfl rfl).bind fun _ ↦ reference.bind fun _ ↦ (expect rfl rfl).bind fun _ ↦
    reference.bind fun _ ↦ (of_strides Strides.inlineName).bind fun _ ↦
      of_strides fun hR ↦ hR.connectionEnd _ _ _

theorem systemHandler_apart : systemHandler.Apart := by
  refine ⟨systemHandler_regular, ?_, ?_⟩
  all_goals
    intro k read h
    unfold systemHandler at h
    split at h <;> cases h
  all_goals try rfl
  · exact fun _ ↦ (twin rfl rfl).map _
  · exact fun _ ↦ (twin rfl rfl).map _
  · exact fun _ ↦ connection.map _

theorem system : KeepsAside system :=
  (expect rfl rfl).bind fun _ ↦ expectName.bind fun _ ↦ block systemHandler_apart _ _

theorem goalBlock (name : String) : KeepsAside (goalBlock name) := by
  intro barred hbarred s
  rw [run_goalBlock]
  split
  · next h =>
    have hbody : Aside [] s.advance (goalBody none s.advance).2 :=
      (aside_strides (List.forall_mem_nil _)).goalBody (fun _ ↦ rfl) _ _
    exact .enclosed hbarred h hbody (goalBody_closes _ _) _
  · exact .refl s

theorem goal : KeepsAside goal := by
  refine (expect rfl rfl).bind fun _ ↦ expectName.bind fun name ↦ ?_
  refine bind (p := isAt .openBrace) (fun _ _ ↦ Aside.refl) fun opened ↦ ?_
  split
  · exact (goalBlock name).map _
  · exact (of_strides fun hR ↦ hR.accept rfl (hR.free rfl)).bind fun _ ↦ ret _

theorem allocation : KeepsAside allocation :=
  (expect rfl rfl).bind fun _ ↦ expectName.bind fun _ ↦ (expect rfl rfl).bind fun _ ↦
    reference.bind fun _ ↦ (expect rfl rfl).bind fun _ ↦ ret _

theorem declarationHandler_apart : declarationHandler.Apart := by
  refine ⟨declarationHandler_regular, ?_, ?_⟩
  all_goals
    intro k read h
    unfold declarationHandler at h
    split at h <;> cases h
  all_goals try rfl
  · exact fun _ ↦ system.map _
  · exact fun _ ↦ goal.map _
  · exact fun _ ↦ allocation.map _

end KeepsAside

end Statements

end Parser

end TwinDiagram
