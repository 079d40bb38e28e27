import TwinDiagram.Proofs.Parser.Motion

namespace TwinDiagram.Parser

open Program State

variable {R : State → State → Prop} {α β : Type}

def StartsWith (k : TokenKind) (p : Parse α) : Prop :=
  ∃ f : Token → Parse α, p = expect k >>= f ∧
    ∀ {R : State → State → Prop}, Motion R → ∀ x, Keeps R (f x)

namespace StartsWith

variable {k : TokenKind} {p : Parse α}

theorem bind {f : α → Parse β} (hp : StartsWith k p)
    (hf : ∀ {R : State → State → Prop}, Motion R → ∀ a, Keeps R (f a)) :
    StartsWith k (p >>= f) := by
  obtain ⟨g, rfl, hg⟩ := hp
  exact ⟨fun x ↦ g x >>= f, bind_assoc _ _ _, fun hR x ↦ hR.bind (hg hR x) (hf hR)⟩

theorem keeps (hp : StartsWith k p) (hk : k.isPlain) (hR : Motion R) : Keeps R p := by
  obtain ⟨f, rfl, hf⟩ := hp
  exact hR.bind (hR.expect hk) (hf hR)

theorem length_lt (hp : StartsWith k p) (hk : k.isPlain) {s : State} (hs : s.current.kind = k) :
    (p.run.run s).2.rest.length < s.rest.length := by
  obtain ⟨f, rfl, hf⟩ := hp
  have hend := TokenKind.ne_endOfInput_of_isPlain hk
  obtain ⟨xs, hxs⟩ := rest_eq_cons (hs ▸ hend)
  rw [run_bind, run_expect, if_pos hs]
  refine Nat.lt_of_le_of_lt (hf onward_motion s.current s.advance).length_le ?_
  rw [State.rest_advance hxs (hs ▸ hend), hxs]
  exact Nat.lt_succ_self _

end StartsWith

structure Handler.Regular (handle : Handler α) : Prop where
  plain : ∀ {k read}, handle k = some read → k.isPlain
  starts : ∀ {k read}, handle k = some read → ∀ found, StartsWith k (read found)

section Loop

variable {handle : Handler α} {found : α} {s : State}

theorem runStatements_of_closes (hs : s.current.kind.closesBlock) :
    runStatements handle found s = (found, s) := by
  rw [runStatements, if_pos hs]

theorem runStatements_invariant {I : α → State → Prop}
    (hstep : ∀ {found s}, I found s → s.current.kind.closesBlock = false →
      I (statement handle found s).1 (statement handle found s).2)
    (h : I found s) : I (runStatements handle found s).1 (runStatements handle found s).2 := by
  fun_induction runStatements handle found s with
  | case1 => exact h
  | case2 found s hs next _ ih => exact ih (hstep h (by simpa using hs))
  | case3 found s hs next _ => exact hstep h (by simpa using hs)

theorem failure_keeps (hR : Motion R) {t : State} (hs : s.current.kind.isPlain) (h : Onward s t)
    (m : Mismatch) : R t ((t.report (.mismatch m)).recover s.position) :=
  hR.strides.failure hs rfl h m

/-- A statement strides on if it is passed over, or if what it reads does. -/
theorem Strides.statement {passes : TokenKind → Bool} (hR : Strides passes R)
    (honward : ∀ {s t}, R s t → Onward s t) (hh : handle.Regular)
    (hs : s.current.kind.closesBlock = false) (hpasses : passes s.current.kind)
    (hread : ∀ read, handle s.current.kind = some read → Keeps R (read found)) :
    R s (statement handle found s).2 := by
  unfold Parser.statement
  split
  · exact hR.skipUnknown hs hpasses
  · next read hhandle =>
    have hkeep := hread read hhandle s
    split
    · next a t hrun => rwa [hrun] at hkeep
    · next m t hrun =>
      rw [hrun] at hkeep
      exact hR.trans hkeep (hR.failure (hh.plain hhandle) hpasses (honward hkeep) m)

theorem statement_keeps (hR : Motion R) (hh : handle.Regular)
    (hs : s.current.kind.closesBlock = false) : R s (statement handle found s).2 :=
  hR.strides.statement hR.onward hh hs rfl fun _ hread ↦
    (hh.starts hread found).keeps (hh.plain hread) hR

theorem runStatements_keeps (hR : Motion R) (hh : handle.Regular) :
    R s (runStatements handle found s).2 :=
  runStatements_invariant (I := fun _ t ↦ R s t)
    (fun h hs ↦ hR.trans h (statement_keeps hR hh hs)) (hR.refl s)

theorem length_skipUnknown (hs : s.current.kind.closesBlock = false) :
    s.skipUnknown.rest.length < s.rest.length := by
  have hend : s.current.kind ≠ .endOfInput := by
    intro h
    rw [h] at hs
    cases hs
  obtain ⟨xs, hxs⟩ := rest_eq_cons hend
  unfold skipUnknown
  split
  · have := s.rest_skipBlock_le
    rw [hxs, List.length_cons] at this ⊢
    omega
  · rw [State.rest_advance (s := s.log _) hxs hend, hxs]
    exact Nat.lt_succ_self _

theorem length_statement (hh : handle.Regular) (hs : s.current.kind.closesBlock = false) :
    (statement handle found s).2.rest.length < s.rest.length := by
  unfold statement
  split
  · exact length_skipUnknown hs
  · next read hread =>
    have hplain := hh.plain hread
    have hlt := (hh.starts hread found).length_lt hplain rfl
    have hkeep := (hh.starts hread found).keeps hplain onward_motion s
    split
    · next a t hrun => rwa [hrun] at hlt
    · next m t hrun =>
      rw [hrun] at hlt hkeep
      exact Nat.lt_of_le_of_lt (failure_keeps onward_motion hplain hkeep m).length_le hlt

theorem runStatements_of_not_closes (hh : handle.Regular)
    (hs : s.current.kind.closesBlock = false) : runStatements handle found s =
      runStatements handle (statement handle found s).1 (statement handle found s).2 := by
  rw [runStatements, if_neg (by simp [hs]), if_pos (length_statement hh hs)]

theorem runStatements_closes (hh : handle.Regular) :
    (runStatements handle found s).2.current.kind.closesBlock := by
  fun_induction runStatements handle found s with
  | case1 found s hs => exact hs
  | case2 found s hs next _ ih => exact ih
  | case3 found s hs next hlt => exact absurd (length_statement hh (by simpa using hs)) hlt

end Loop

theorem Motion.block (hR : Motion R) {handle : Handler α} (hh : handle.Regular) (owner : String)
    (found : α) : Keeps R (block owner handle found) := by
  intro s
  rw [run_block]
  split
  · next h => exact hR.enclosed h (runStatements_keeps hR hh) (runStatements_closes hh)
  · exact hR.refl s

theorem port_starts : StartsWith .port port :=
  ⟨_, rfl, fun hR _ ↦ hR.bind hR.expectName fun _ ↦ hR.bind (hR.expect rfl) fun _ ↦ hR.ret _⟩

theorem portHandler_regular : portHandler.Regular := by
  constructor
  all_goals
    intro k read h
    unfold portHandler at h
    split at h <;> cases h
  · rfl
  · exact fun _ ↦ port_starts.bind fun hR _ ↦ hR.ret _

theorem twin_starts (k : TokenKind) : StartsWith k (twin k) :=
  ⟨_, rfl, fun hR _ ↦ hR.bind hR.expectName fun _ ↦
    hR.bind (hR.block portHandler_regular _ _) fun _ ↦ hR.ret _⟩

namespace Strides

variable {passes : TokenKind → Bool} (hR : Strides passes R)
include hR

theorem referenceTail (n : Nat) : Keeps R (referenceTail n) := by
  induction n with
  | zero => exact hR.ret _
  | succ n ih =>
    refine hR.bind (hR.accept rfl (hR.free rfl)) fun found ↦ ?_
    split
    · exact hR.ret _
    · exact hR.bind hR.expectName fun _ ↦ hR.bind ih fun _ ↦ hR.ret _

theorem reference : Keeps R reference :=
  hR.bind hR.expectName fun _ ↦ hR.bind hR.refl fun _ ↦
    hR.bind (hR.referenceTail _) fun _ ↦ hR.ret _

theorem inlineName : Keeps R inlineName := by
  refine hR.bind (hR.accept rfl (hR.free rfl)) fun found ↦ ?_
  split
  · exact hR.bind hR.expectName fun _ ↦ hR.ret _
  · exact hR.ret _

theorem connectionEnd (source target : String) (name : Option String) :
    Keeps R (connectionEnd source target name) :=
  hR.bind (hR.expect rfl (hR.free rfl)) fun _ ↦ hR.bind hR.refl fun _ ↦
    hR.bind hR.refl fun _ ↦ hR.ret _

end Strides

theorem Motion.referenceTail (hR : Motion R) (n : Nat) : Keeps R (referenceTail n) :=
  hR.strides.referenceTail n

theorem Motion.reference (hR : Motion R) : Keeps R reference := hR.strides.reference

theorem Motion.inlineName (hR : Motion R) : Keeps R inlineName := hR.strides.inlineName

theorem Motion.connectionEnd (hR : Motion R) (source target : String) (name : Option String) :
    Keeps R (connectionEnd source target name) := hR.strides.connectionEnd source target name

theorem connection_starts : StartsWith .connect connection :=
  ⟨_, rfl, fun hR _ ↦ hR.bind hR.reference fun _ ↦ hR.bind (hR.expect rfl) fun _ ↦
    hR.bind hR.reference fun _ ↦ hR.bind hR.inlineName fun _ ↦ hR.connectionEnd _ _ _⟩

theorem systemHandler_regular : systemHandler.Regular := by
  constructor
  all_goals
    intro k read h
    unfold systemHandler at h
    split at h <;> cases h
  all_goals try rfl
  · exact fun _ ↦ (twin_starts _).bind fun hR _ ↦ hR.ret _
  · exact fun _ ↦ (twin_starts _).bind fun hR _ ↦ hR.ret _
  · exact fun _ ↦ connection_starts.bind fun hR _ ↦ hR.ret _

theorem system_starts : StartsWith .system system :=
  ⟨_, rfl, fun hR _ ↦ hR.bind hR.expectName fun _ ↦ hR.block systemHandler_regular _ _⟩

theorem Strides.goalStep {passes : TokenKind → Bool} (hR : Strides passes R)
    (hpasses : ∀ k : TokenKind, passes k) (doc : Option String) {s : State}
    (hs : ¬ s.current.kind.closesBlock) : R s (goalStep doc s).2 := by
  obtain ⟨xs, hxs⟩ := rest_eq_cons fun he ↦ hs (he ▸ rfl)
  unfold Parser.goalStep
  split
  · next h => exact hR.skip h
  · next h =>
    have hplain : s.current.kind.isPlain := by simp [TokenKind.isPlain, h, hs]
    split
    · next hrest =>
      refine hR.forward fun x hx ↦ ⟨?_, hpasses _⟩
      rw [hrest] at hx
      simp only [List.take_succ_cons, List.take_zero, List.mem_cons, List.not_mem_nil, or_false]
        at hx
      rcases hx with rfl | rfl <;> rfl
    · refine hR.forward fun x hx ↦ ⟨?_, hpasses _⟩
      rw [hxs] at hx
      simp only [List.take_succ_cons, List.take_zero, List.mem_singleton] at hx
      exact hx ▸ hplain

theorem goalBody_invariant {I : Option String → State → Prop} {doc : Option String} {s : State}
    (hstep : ∀ {doc s}, I doc s → ¬ s.current.kind.closesBlock →
      I (goalStep doc s).1 (goalStep doc s).2)
    (h : I doc s) : I (goalBody doc s).1 (goalBody doc s).2 := by
  fun_induction goalBody doc s with
  | case1 => exact h
  | case2 doc s hs ih => exact ih (hstep h hs)

theorem Strides.goalBody {passes : TokenKind → Bool} (hR : Strides passes R)
    (hpasses : ∀ k : TokenKind, passes k) (doc : Option String) (s : State) :
    R s (goalBody doc s).2 :=
  goalBody_invariant (I := fun _ t ↦ R s t) (fun h hs ↦
    hR.trans h (hR.goalStep hpasses _ hs)) (hR.refl s)

theorem Motion.goalStep (hR : Motion R) (doc : Option String) {s : State}
    (hs : ¬ s.current.kind.closesBlock) : R s (goalStep doc s).2 :=
  hR.strides.goalStep (fun _ ↦ rfl) doc hs

theorem Motion.goalBody (hR : Motion R) (doc : Option String) (s : State) :
    R s (goalBody doc s).2 :=
  hR.strides.goalBody (fun _ ↦ rfl) doc s

theorem goalBody_closes (doc : Option String) (s : State) :
    (goalBody doc s).2.current.kind.closesBlock := by
  fun_induction goalBody doc s with
  | case1 doc s hs => exact hs
  | case2 doc s hs ih => exact ih

theorem Motion.goalBlock (hR : Motion R) (name : String) : Keeps R (goalBlock name) := by
  intro s
  rw [run_goalBlock]
  split
  · next h => exact hR.enclosed h (hR.goalBody _ _) (goalBody_closes _ _)
  · exact hR.refl s

theorem Motion.goalRest (hR : Motion R) (name : String) : Keeps R (goalRest name) := by
  refine hR.bind hR.refl fun opened ↦ ?_
  split
  · exact hR.bind (hR.goalBlock _) fun _ ↦ hR.ret _
  · exact hR.bind (hR.accept rfl) fun _ ↦ hR.ret _

theorem goal_starts : StartsWith .goal goal :=
  ⟨_, rfl, fun hR _ ↦ hR.bind hR.expectName fun _ ↦ hR.goalRest _⟩

theorem allocation_starts : StartsWith .allocate allocation :=
  ⟨_, rfl, fun hR _ ↦ hR.bind hR.expectName fun _ ↦ hR.bind (hR.expect rfl) fun _ ↦
    hR.bind hR.reference fun _ ↦ hR.bind (hR.expect rfl) fun _ ↦ hR.ret _⟩

theorem declarationHandler_regular : declarationHandler.Regular := by
  constructor
  all_goals
    intro k read h
    unfold declarationHandler at h
    split at h <;> cases h
  all_goals try rfl
  · exact fun _ ↦ system_starts.bind fun hR _ ↦ hR.ret _
  · exact fun _ ↦ goal_starts.bind fun hR _ ↦ hR.ret _
  · exact fun _ ↦ allocation_starts.bind fun hR _ ↦ hR.ret _

theorem slice_starts (k : TokenKind) (earlier : Option Slice) : StartsWith k (slice k earlier) := by
  refine ⟨_, rfl, fun hR _ ↦ hR.bind (hR.block declarationHandler_regular _ _) fun _ ↦ ?_⟩
  split
  · exact hR.bind (hR.report rfl) fun _ ↦ hR.ret _
  · exact hR.ret _

theorem kind_of_transformHandler {k : TokenKind} {read : Transform → Parse Transform}
    (h : transformHandler k = some read) : k = .before ∨ k = .core ∨ k = .after := by
  cases k <;> first | exact .inl rfl | exact .inr (.inl rfl) | exact .inr (.inr rfl) | cases h

theorem transformHandler_regular : transformHandler.Regular := by
  constructor
  · intro k read h
    rcases kind_of_transformHandler h with rfl | rfl | rfl <;> rfl
  · intro k read h found
    rcases kind_of_transformHandler h with rfl | rfl | rfl
    all_goals
      cases h
      refine (slice_starts _ _).bind fun hR read ↦ ?_
      cases read <;> exact hR.ret _

theorem transform_starts : StartsWith .transform transform :=
  ⟨_, rfl, fun hR _ ↦ hR.bind (hR.block transformHandler_regular _ _) fun _ ↦ hR.ret _⟩

theorem current_bind_expect (k : TokenKind) (f : Token → Token → Parse α) :
    (current >>= fun x ↦ expect k >>= f x) = expect k >>= fun x ↦ f x x := by
  apply ExceptT.ext
  apply StateT.ext
  intro s
  rw [run_bind, run_current, run_bind]
  simp only
  rw [run_bind, run_expect]
  by_cases h : s.current.kind = k <;> simp only [h, if_true, if_false]

theorem rootTransform_starts (o : Outline) : StartsWith .transform (rootTransform o) := by
  obtain ⟨f, hf, hkeeps⟩ := transform_starts
  unfold rootTransform
  rw [hf]
  simp only [bind_assoc]
  rw [current_bind_expect]
  refine ⟨_, rfl, fun hR x ↦ hR.bind (hkeeps hR x) fun _ ↦ ?_⟩
  split
  · exact hR.bind (hR.report rfl) fun _ ↦ hR.ret _
  · exact hR.ret _

theorem rootHandler_of_ne {k : TokenKind} (hk : k ≠ .transform) :
    rootHandler k = (declarationHandler k).map fun read o ↦ do
      return { o with declarations := ← read o.declarations } := by
  unfold rootHandler
  split
  · exact absurd rfl hk
  · rfl

theorem rootHandler_regular : rootHandler.Regular := by
  constructor
  · intro k read h
    by_cases hk : k = .transform
    · exact hk ▸ rfl
    · rw [rootHandler_of_ne hk, Option.map_eq_some_iff] at h
      obtain ⟨_, hread, -⟩ := h
      exact declarationHandler_regular.plain hread
  · intro k read h found
    by_cases hk : k = .transform
    · subst hk
      cases h
      exact rootTransform_starts found
    · rw [rootHandler_of_ne hk, Option.map_eq_some_iff] at h
      obtain ⟨_, hread, rfl⟩ := h
      exact (declarationHandler_regular.starts hread _).bind fun hR _ ↦ hR.ret _

end TwinDiagram.Parser
