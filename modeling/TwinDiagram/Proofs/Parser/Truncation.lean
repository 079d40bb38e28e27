import TwinDiagram.Proofs.Model
import TwinDiagram.Proofs.Parser.Header
import TwinDiagram.Proofs.Parser.Trailing

namespace TwinDiagram.Parser

open Program State

structure Declarations.IsStart (d e : Declarations) : Prop where
  systems : Begins System.IsStart d.systems e.systems
  goals : Begins Goal.IsStart d.goals e.goals
  allocations : d.allocations <+: e.allocations

structure Outline.IsStart (o p : Outline) : Prop where
  declarations : o.declarations.IsStart p.declarations
  transform : Lacks (Lacks Transform.IsStart) o.transform p.transform

namespace Declarations.IsStart

theorem refl (d : Declarations) : d.IsStart d := ⟨.refl _, .refl _, List.prefix_refl _⟩

theorem trans {d e f : Declarations} (h : d.IsStart e) (h' : e.IsStart f) : d.IsStart f :=
  ⟨h.systems.trans .trans h'.systems, h.goals.trans .trans h'.goals,
    h.allocations.trans h'.allocations⟩

end Declarations.IsStart

namespace Outline.IsStart

theorem refl (o : Outline) : o.IsStart o := ⟨.refl _, .refl (.refl .refl) _⟩

theorem trans {o p q : Outline} (h : o.IsStart p) (h' : p.IsStart q) : o.IsStart q :=
  ⟨h.declarations.trans h'.declarations, h.transform.trans (.trans .trans) h'.transform⟩

end Outline.IsStart

variable {α β : Type} {Q : α → α → Prop}

def Parallel (Q : α → α → Prop) (x y : α × State) : Prop :=
  x.1 = y.1 ∧ Cut x.2 y.2 ∨ x.2.Ended ∧ Q x.1 y.1

structure Adds (Q : α → α → Prop) (read : α → Parse α) : Prop where
  reads : ∀ found, Survives (Start Q) (read found)
  grows : ∀ {found s a t}, (read found).run.run s = (.ok a, t) → Q found a

structure Handler.Survives (handle : Handler α) (Q : α → α → Prop) : Prop where
  regular : handle.Regular
  refl : ∀ a, Q a a
  trans : ∀ {a b c}, Q a b → Q b c → Q a c
  adds : ∀ {k read}, handle k = some read → Adds Q read

section Loop

variable {handle : Handler α} {found : α} {s t : State}

theorem statement_grows (hh : handle.Survives Q) : Q found (statement handle found s).1 := by
  unfold statement
  split
  · exact hh.refl found
  · next read hk =>
    split
    · next a u hrun => exact (hh.adds hk).grows hrun
    · exact hh.refl found

theorem runStatements_grows (hh : handle.Survives Q) : Q found (runStatements handle found s).1 :=
  runStatements_invariant (I := fun a _ ↦ Q found a) (fun h _ ↦ hh.trans h (statement_grows hh))
    (hh.refl found)

theorem statement_parallel (hh : handle.Survives Q) (h : Cut s t)
    (hs : s.current.kind.closesBlock = false) :
    Parallel Q (statement handle found s) (statement handle found t) := by
  have hcur := h.current_eq_of_not_closes hs
  have hgrows : Q found (statement handle found t).1 := statement_grows hh
  unfold statement at hgrows ⊢
  rw [hcur]
  cases hk : handle t.current.kind with
  | none =>
    rcases h.skipUnknown with hcut | hend
    · exact .inl ⟨rfl, hcut⟩
    · exact .inr ⟨hend, hh.refl found⟩
  | some read =>
    rw [hk] at hgrows
    have hout := (hh.adds hk).reads found s t h
    simp only at hgrows ⊢
    generalize (read found).run.run s = x at hout ⊢
    generalize (read found).run.run t = y at hout hgrows ⊢
    cases hout with
    | alike a h => exact .inl ⟨rfl, h⟩
    | failed m m' h' =>
      rw [← h.position_eq]
      rcases (h'.log (.found (.mismatch m)) (.found (.mismatch m'))).recover s.position with
        hcut | hend
      · exact .inl ⟨rfl, hcut⟩
      · exact .inr ⟨hend, hh.refl found⟩
    | @ended r r' s' t' hend hE =>
      -- The tokens ran out within the statement, which may have succeeded with all of them.
      right
      cases r with
      | ok a =>
        obtain ⟨b, rfl, hab⟩ := hE a rfl
        exact ⟨hend, hab⟩
      | error m => exact ⟨hend.onward (.trans (.log _ _) (.recover _ _)), hgrows⟩

theorem runStatements_parallel (hh : handle.Survives Q) : ∀ {t}, Cut s t →
    Parallel Q (runStatements handle found s) (runStatements handle found t) := by
  -- Along the shorter run: while it has tokens, both take the same steps; once it has none, it is
  -- over and the longer one can only add.
  fun_induction runStatements handle found s
  case case1 found s hs =>
    intro t h
    rcases h.current_eq with hend | ⟨hcur, -⟩
    · exact .inr ⟨hend, runStatements_grows hh⟩
    · rw [runStatements_of_closes (hcur ▸ hs)]
      exact .inl ⟨rfl, h⟩
  case case2 found s hs next hlt ih =>
    intro t h
    have hs : s.current.kind.closesBlock = false := by simpa using hs
    have ht : t.current.kind.closesBlock = false := by rwa [← h.current_eq_of_not_closes hs]
    have hloop : runStatements handle found t = runStatements handle (statement handle found t).1
        (statement handle found t).2 := runStatements_of_not_closes hh.regular ht
    rcases statement_parallel hh h hs with ⟨heq, hcut⟩ | ⟨hend, hQ⟩
    · rw [hloop, ← heq]
      exact ih hcut
    · rw [runStatements_of_closes (by rw [hend.current_kind]; rfl), hloop]
      exact .inr ⟨hend, hh.trans hQ (runStatements_grows hh)⟩
  case case3 found s hs next hlt =>
    exact absurd (length_statement hh.regular (by simpa using hs)) hlt

end Loop

theorem Parallel.close {x y : α × State} (h : Parallel Q x y) (hQ : ∀ a, Q a a) (owner : String)
    (opened opened' : Token) :
    Outcome (Start Q) (.ok x.1, x.2.close owner opened) (.ok y.1, y.2.close owner opened') := by
  rcases h with ⟨heq, hcut⟩ | ⟨hend, hQ⟩
  · rcases hcut.current_eq with hend | ⟨hcur, hnext⟩
    · exact .ended (hend.onward (.close _ _ _)) fun a ha ↦ ⟨y.1, rfl, by cases ha; exact heq ▸ hQ _⟩
    · rw [heq, State.close, State.close, hcur]
      split
      · exact .alike _ hnext
      · exact .alike _ (hcut.log _ _)
  · exact .ended (hend.onward (.close _ _ _)) fun a ha ↦ ⟨y.1, rfl, by cases ha; exact hQ⟩

theorem Survives.block {handle : Handler α} (hh : handle.Survives Q) (owner : String) (found : α) :
    Survives (Start Q) (block owner handle found) := by
  intro s t h
  rw [run_block, run_block]
  rcases h.current_eq with hend | ⟨hcur, hnext⟩
  · rw [if_neg (by rw [hend.current_kind]; decide)]
    exact .ended hend nofun
  · rw [hcur]
    split
    · exact (runStatements_parallel hh hnext).close hh.refl _ _ _
    · exact .failed _ _ h

section Goal

variable {doc : Option String} {s t : State}

theorem goalStep_grows (doc : Option String) (s : State) : Lacks Eq doc (goalStep doc s).1 := by
  have hrefl : Lacks Eq doc doc := .refl (fun _ ↦ rfl) doc
  rw [goalStep_eq]
  split
  · exact hrefl
  · split
    · cases doc with
      | none => exact .none _
      | some d => exact .some rfl
    · exact hrefl

theorem goalBody_grows (doc : Option String) (s : State) : Lacks Eq doc (goalBody doc s).1 :=
  goalBody_invariant (I := fun d _ ↦ Lacks Eq doc d)
    (fun h _ ↦ Lacks.trans (R := Eq) Eq.trans h (goalStep_grows _ _)) (.refl (fun _ ↦ rfl) doc)

theorem goalStep_parallel (h : Cut s t) (hs : s.current.kind.closesBlock = false) :
    Parallel (Lacks Eq) (goalStep doc s) (goalStep doc t) := by
  have hgrows := goalStep_grows doc t
  have hcur := h.current_eq_of_not_closes hs
  rcases h.rest_eq with hend | ⟨x, xs, ys, hsr, htr, -, -⟩
  · rw [hend.current_kind] at hs
    cases hs
  rw [goalStep_eq, goalStep_eq] at *
  rw [hcur]
  by_cases hbrace : t.current.kind = .openBrace
  · simp only [if_pos hbrace]
    rcases h.skipBlock with hcut | hend
    · exact .inl ⟨rfl, hcut⟩
    · exact .inr ⟨hend, .refl (fun _ ↦ rfl) doc⟩
  simp only [if_neg hbrace] at *
  cases xs with
  | nil =>
    rw [hsr, docAhead_singleton]
    exact .inr ⟨by rw [Ended, rest_forward, hsr]; rfl, hgrows⟩
  | cons y xs =>
    obtain ⟨zs, hzs⟩ := h.rest
    have hys : ys = y :: (xs ++ zs) := by
      rw [hsr, htr] at hzs
      exact (List.cons.inj hzs).2.symm
    rw [htr, hsr, hys, docAhead_cons_cons x y xs (xs ++ zs)]
    split
    · exact .inl ⟨rfl, h.forward (by simp [hsr])⟩
    · exact .inl ⟨rfl, h.forward (by simp [hsr])⟩

theorem goalBody_parallel : ∀ {t}, Cut s t →
    Parallel (Lacks Eq) (goalBody doc s) (goalBody doc t) := by
  fun_induction goalBody doc s
  case case1 doc s hs =>
    intro t h
    rcases h.current_eq with hend | ⟨hcur, -⟩
    · exact .inr ⟨hend, goalBody_grows doc t⟩
    · rw [goalBody, if_pos (hcur ▸ hs)]
      exact .inl ⟨rfl, h⟩
  case case2 doc s hs ih =>
    intro t h
    have hs : s.current.kind.closesBlock = false := by simpa using hs
    have hloop : goalBody doc t = goalBody (goalStep doc t).1 (goalStep doc t).2 := by
      rw [goalBody, if_neg (by simp [← h.current_eq_of_not_closes hs, hs])]
    rcases goalStep_parallel h hs with ⟨heq, hcut⟩ | ⟨hend, hQ⟩
    · rw [hloop, ← heq]
      exact ih hcut
    · rw [goalBody, if_pos (by rw [hend.current_kind]; rfl), hloop]
      exact .inr ⟨hend, Lacks.trans (R := Eq) Eq.trans hQ (goalBody_grows _ _)⟩

theorem Survives.goalBlock (name : String) : Survives (Start (Lacks Eq)) (goalBlock name) := by
  intro s t h
  rw [run_goalBlock, run_goalBlock]
  rcases h.current_eq with hend | ⟨hcur, hnext⟩
  · rw [if_neg (by rw [hend.current_kind]; decide)]
    exact .ended hend nofun
  · rw [hcur]
    split
    · exact (goalBody_parallel hnext).close (.refl fun _ ↦ rfl) _ _ _
    · exact .failed _ _ h

end Goal

theorem Survives.port : Survives (Start Eq) port :=
  .next (expect nofun) fun _ ↦ .next expectName fun name ↦
    .map (Q := Eq) (expect nofun) (.pure fun _ ↦ name) fun _ ↦ rfl

/-- A statement that is made of what a program reads. -/
theorem Adds.of {R : α → β → β → Prop} {P : α → β → Prop} {p : α → Parse β} {f : α → β → Parse α}
    {g : α → β → α} (hp : ∀ found, Survives (Start (R found)) (p found))
    (hP : ∀ {found s b t}, ((p found).run.run s) = (.ok b, t) → P found b)
    (hf : ∀ found, Answers (f found) (g found))
    (hR : ∀ found {a b}, R found a b → Q (g found a) (g found b))
    (hg : ∀ {found b}, P found b → Q found (g found b)) :
    Adds Q fun found ↦ p found >>= f found where
  reads found := (hp found).map (hf found) (hR found)
  grows := by
    intro found s a t hrun
    obtain ⟨b, u, hb, ha⟩ := bind_ok hrun
    obtain ⟨events, hanswer⟩ := hf found b u
    rw [hanswer] at ha
    cases ha
    exact hg (hP hb)

theorem portHandler_survives : portHandler.Survives List.IsPrefix where
  regular := portHandler_regular
  refl := List.prefix_refl
  trans := List.IsPrefix.trans
  adds := by
    intro k read hread
    unfold portHandler at hread
    split at hread <;> cases hread
    exact .of (P := fun _ _ ↦ True) (g := fun ports port ↦ ports ++ [port])
      (fun _ ↦ Survives.port) (fun _ ↦ trivial) (fun _ ↦ .pure _)
      (fun ports _ _ h ↦ h ▸ List.prefix_refl _)
      fun _ ↦ List.prefix_append _ _

theorem Survives.twin {k : TokenKind} (hk : k ≠ .endOfInput) :
    Survives (Start Twin.IsStart) (twin k) :=
  .next (expect hk) fun _ ↦ .next expectName fun name ↦
    .map (block portHandler_survives _ _) (.pure (Twin.mk name)) fun h ↦ ⟨rfl, h⟩

theorem Survives.connectionEnd (source target : String) (name : Option String) :
    Survives (Start Connection.IsStart) (connectionEnd source target name) := by
  intro s t h
  rw [run_connectionEnd, run_connectionEnd]
  rcases h.rest_eq with hend | ⟨x, xs, ys, hs, ht, hsx, htx⟩
  · rw [if_neg (by rw [hend.current_kind]; decide)]
    exact .ended hend nofun
  rw [hsx, htx, (Onward.advance s).comments, (Onward.advance t).comments]
  split
  · next hx =>
    have hx : x.kind ≠ .endOfInput := by rw [hx]; exact nofun
    have hnext := (h.current_eq.resolve_left fun hs' ↦ nomatch hs.symm.trans hs').2
    have hrest := rest_advance hs hx
    cases xs with
    | nil =>
      have hlast : s.advance.current = s.last := by
        rw [current_of_nil hrest, (Onward.advance s).last]
      rw [hlast, h.endName ⟨[], hs.symm⟩]
      refine .ended hrest ?_
      rintro _ ⟨⟩
      refine ⟨_, rfl, rfl, rfl, ?_⟩
      cases name with
      | none => exact .none _
      | some n => exact .some rfl
    | cons y xs =>
      have hcur : s.advance.current = t.advance.current :=
        (hnext.current_eq.resolve_left fun hend ↦ nomatch hrest.symm.trans hend).1
      have hname := h.names (x := x) (y := y) ⟨[], xs, hs.symm⟩
      rw [← hcur, current_of_rest hrest, hname]
      exact .alike _ hnext
  · exact .failed _ _ h

theorem FailsAtEnd.inlineName_bind {f : Option String → Parse α} (hf : FailsAtEnd (f none)) :
    FailsAtEnd (inlineName >>= f) := by
  intro s hs
  rw [run_bind, run_inlineName, if_neg (by rw [hs.current_kind]; exact nofun)]
  exact hf s hs

theorem Survives.connection : Survives (Start Connection.IsStart) connection :=
  .next (expect nofun) fun _ ↦ .bind reference
    (fun source ↦ .next (expect nofun) fun _ ↦ .bind reference
      (fun target ↦ .bind inlineName (fun name ↦ connectionEnd source target name)
        fun _ ↦ .bind (.expect nofun))
      fun _ ↦ .inlineName_bind (.bind (.expect nofun)))
    fun _ ↦ .bind (.expect nofun)

theorem systemHandler_survives : systemHandler.Survives System.IsStart where
  regular := systemHandler_regular
  refl := .refl
  trans := .trans
  adds := by
    intro k read hread
    unfold systemHandler at hread
    split at hread <;> cases hread
    · exact .of (P := fun _ _ ↦ True) (g := fun s t ↦
        { s with digitalTwins := s.digitalTwins ++ [t] })
        (fun _ ↦ Survives.twin nofun) (fun _ ↦ trivial) (fun _ ↦ .pure _)
        (fun s _ _ h ↦ ⟨rfl, .concat _ h, .refl _, .refl _⟩)
        fun _ ↦ ⟨rfl, .append _ _, .refl _, .refl _⟩
    · exact .of (P := fun _ _ ↦ True) (g := fun s t ↦ { s with parts := s.parts ++ [t] })
        (fun _ ↦ Survives.twin nofun) (fun _ ↦ trivial) (fun _ ↦ .pure _)
        (fun s _ _ h ↦ ⟨rfl, .refl _, .concat _ h, .refl _⟩)
        fun _ ↦ ⟨rfl, .refl _, .append _ _, .refl _⟩
    · exact .of (P := fun _ _ ↦ True) (g := fun s c ↦
        { s with connections := s.connections ++ [c] })
        (fun _ ↦ Survives.connection) (fun _ ↦ trivial) (fun _ ↦ .pure _)
        (fun s _ _ h ↦ ⟨rfl, .refl _, .refl _, .concat _ h⟩)
        fun _ ↦ ⟨rfl, .refl _, .refl _, .append _ _⟩

theorem Survives.system : Survives (Start System.IsStart) system :=
  .next (expect nofun) fun _ ↦ .next expectName fun _ ↦ block systemHandler_survives _ _

theorem Survives.goalRest (name : String) : Survives (Start Goal.IsStart) (goalRest name) := by
  intro s t h
  rcases h.current_eq with hend | ⟨hcur, hnext⟩
  · obtain ⟨d, u, hu⟩ : ∃ d u, (Parser.goalRest name).run.run t = (.ok ⟨name, d⟩, u) := by
      rw [run_goalRest]
      split
      · next hbrace =>
        rw [run_map, run_goalBlock, if_pos hbrace]
        exact ⟨_, _, rfl⟩
      · exact ⟨_, _, rfl⟩
    rw [hu, run_goalRest, if_neg (by rw [hend.current_kind]; exact nofun),
      if_neg (by rw [hend.current_kind]; exact nofun)]
    refine .ended hend ?_
    rintro _ ⟨⟩
    exact ⟨_, rfl, rfl, .none _⟩
  · rw [run_goalRest, run_goalRest, hcur]
    split
    · rw [map_eq_pure_bind]
      exact map (goalBlock name) (.pure _) (fun h ↦ ⟨rfl, h⟩) _ _ h
    · split
      · exact .alike _ hnext
      · exact .alike _ h

theorem Survives.goal : Survives (Start Goal.IsStart) goal :=
  .next (expect nofun) fun _ ↦ .next expectName fun name ↦ goalRest name

theorem Survives.allocation : Survives (Start Eq) allocation :=
  .next (expect nofun) fun _ ↦ .next expectName fun goal ↦ .next (expect nofun) fun _ ↦
    .bind reference
      (fun target ↦ .map (Q := Eq) (g := fun _ ↦ ⟨goal, target⟩) (expect nofun) (.pure _)
        fun _ ↦ rfl)
      fun _ ↦ .bind (.expect nofun)

theorem declarationHandler_survives : declarationHandler.Survives Declarations.IsStart where
  regular := declarationHandler_regular
  refl := .refl
  trans := .trans
  adds := by
    intro k read hread
    unfold declarationHandler at hread
    split at hread <;> cases hread
    · exact .of (P := fun _ _ ↦ True) (g := fun d s ↦ { d with systems := d.systems ++ [s] })
        (fun _ ↦ Survives.system) (fun _ ↦ trivial) (fun _ ↦ .pure _)
        (fun _ _ _ h ↦ ⟨.concat _ h, .refl _, List.prefix_refl _⟩)
        fun _ ↦ ⟨.append _ _, .refl _, List.prefix_refl _⟩
    · exact .of (P := fun _ _ ↦ True) (g := fun d g ↦ { d with goals := d.goals ++ [g] })
        (fun _ ↦ Survives.goal) (fun _ ↦ trivial) (fun _ ↦ .pure _)
        (fun _ _ _ h ↦ ⟨.refl _, .concat _ h, List.prefix_refl _⟩)
        fun _ ↦ ⟨.refl _, .append _ _, List.prefix_refl _⟩
    · exact .of (P := fun _ _ ↦ True) (g := fun d a ↦
        { d with allocations := d.allocations ++ [a] })
        (fun _ ↦ Survives.allocation) (fun _ ↦ trivial) (fun _ ↦ .pure _)
        (fun _ _ _ h ↦ ⟨.refl _, .refl _, h ▸ List.prefix_refl _⟩)
        fun _ ↦ ⟨.refl _, .refl _, List.prefix_append _ _⟩

theorem lacks_present {R : List β → List β → Prop} {xs ys : List β} (h : R xs ys)
    (hnil : ys = [] → xs = []) :
    Lacks R (if xs.isEmpty then none else some xs) (if ys.isEmpty then none else some ys) := by
  by_cases hx : xs.isEmpty
  · rw [if_pos hx]
    exact .none _
  · have hy : ¬ ys.isEmpty := by simpa using fun hy ↦ hx (by simp [hnil hy])
    rw [if_neg hx, if_neg hy]
    exact .some h

theorem Declarations.IsStart.toSlice {d e : Declarations} (h : d.IsStart e) :
    d.toSlice.IsStart e.toSlice where
  systems := lacks_present h.systems fun hnil ↦ Begins.eq_nil (hnil ▸ h.systems)
  goals := lacks_present h.goals fun hnil ↦ Begins.eq_nil (hnil ▸ h.goals)
  allocations := lacks_present h.allocations fun hnil ↦ List.prefix_nil.mp (hnil ▸ h.allocations)

def sliceOf (earlier : Option Slice) (d : Declarations) : Option Slice :=
  if earlier.isSome then none else some d.toSlice

theorem answers_slice (keyword : Token) (k : TokenKind) (earlier : Option Slice) :
    Answers (fun found : Declarations ↦ (do
      if earlier.isSome then
        report (.repeatedSection keyword k)
        return none
      return some found.toSlice : Parse (Option Slice))) (sliceOf earlier) := by
  intro found s
  unfold sliceOf
  split <;> exact ⟨_, rfl⟩

/-- A slice that was there before stays the only one. -/
def SliceStart (earlier a b : Option Slice) : Prop :=
  Lacks Slice.IsStart a b ∧ (earlier.isSome → b = none)

theorem Survives.slice {k : TokenKind} (hk : k ≠ .endOfInput) (earlier : Option Slice) :
    Survives (Start (SliceStart earlier)) (slice k earlier) := by
  refine .next (expect hk) fun keyword ↦
    .map (block declarationHandler_survives _ _) (answers_slice keyword k earlier) fun h ↦ ?_
  unfold sliceOf
  split
  · exact ⟨.none _, fun _ ↦ rfl⟩
  · next hne => exact ⟨.some h.toSlice, fun he ↦ absurd he hne⟩

theorem slice_eq_none {k : TokenKind} {earlier : Option Slice} {o : Option Slice} {s t : State}
    (h : (slice k earlier).run.run s = (.ok o, t)) (he : earlier.isSome) : o = none := by
  obtain ⟨keyword, u, -, h⟩ := bind_ok h
  obtain ⟨found, v, -, h⟩ := bind_ok h
  obtain ⟨events, hanswer⟩ := answers_slice keyword k earlier found v
  rw [hanswer, sliceOf, if_pos he] at h
  cases h
  rfl

theorem SliceStart.or {earlier a b : Option Slice} (h : SliceStart earlier a b) :
    Lacks Slice.IsStart (a.or earlier) (b.or earlier) := by
  obtain ⟨hab, hnone⟩ := h
  cases earlier with
  | none => simpa using hab
  | some e =>
    rw [hnone rfl] at hab ⊢
    cases hab
    exact .refl .refl _

theorem Adds.slice {k : TokenKind} (hk : k ≠ .endOfInput) (earlier : Transform → Option Slice)
    (set : Transform → Slice → Transform)
    (hset : ∀ t {a b : Option Slice}, Lacks Slice.IsStart (a.or (earlier t)) (b.or (earlier t)) →
      (a.elim t (set t)).IsStart (b.elim t (set t))) :
    Adds Transform.IsStart fun t ↦ do
      match ← slice k (earlier t) with
      | none => return t
      | some s => return set t s := by
  refine .of (P := fun t b ↦ (earlier t).isSome → b = none) (g := fun t o ↦ o.elim t (set t))
    (fun t ↦ Survives.slice hk (earlier t)) slice_eq_none (fun t o s ↦ ?_)
    (fun t _ _ h ↦ hset t h.or) fun {t b} h ↦ hset t (a := none) (SliceStart.or ⟨.none b, h⟩)
  cases o <;> exact ⟨_, rfl⟩

theorem transformHandler_survives : transformHandler.Survives Transform.IsStart where
  regular := transformHandler_regular
  refl := .refl
  trans := .trans
  adds := by
    intro k read hread
    have hrefl {s : Option Slice} : Lacks Slice.IsStart s s := .refl .refl s
    cases k <;> cases hread
    · refine Adds.slice (k := .before) nofun Transform.before
        (fun t s ↦ { t with before := some s }) fun t a b h ↦ ?_
      cases a <;> cases b <;> exact ⟨h, hrefl, hrefl⟩
    · refine Adds.slice (k := .core) nofun Transform.core
        (fun t s ↦ { t with core := some s }) fun t a b h ↦ ?_
      cases a <;> cases b <;> exact ⟨hrefl, h, hrefl⟩
    · refine Adds.slice (k := .after) nofun Transform.after
        (fun t s ↦ { t with after := some s }) fun t a b h ↦ ?_
      cases a <;> cases b <;> exact ⟨hrefl, hrefl, h⟩

theorem Survives.transform : Survives (Start (Lacks Transform.IsStart)) transform := by
  refine .next (expect nofun) fun _ ↦ .map (block transformHandler_survives _ _) (.pure _) ?_
  intro t u h
  split
  · exact .none _
  · next ht =>
    rw [if_neg fun hu ↦ ht (h.slices_isEmpty hu)]
    exact .some h

theorem Adds.current {f : Token → α → Parse α} (hf : ∀ x, Adds Q (f x))
    (hfails : ∀ x a, FailsAtEnd (f x a)) : Adds Q fun a ↦ Parser.current >>= fun x ↦ f x a where
  reads a := Survives.current.bind (fun x ↦ (hf x).reads a) fun _ ↦ hfails _ a
  grows h := by
    obtain ⟨x, u, -, h⟩ := bind_ok h
    exact (hf x).grows h

theorem rootTransform_adds : Adds Outline.IsStart rootTransform := by
  refine .current (fun keyword ↦ ?_) fun _ _ ↦ .bind (.bind (.expect nofun))
  refine .of (R := fun _ ↦ Lacks Transform.IsStart) (P := fun _ _ ↦ True)
    (g := fun o found ↦ if o.transform.isSome then o else { o with transform := some found })
    (fun _ ↦ Survives.transform) (fun _ ↦ trivial) (fun o found s ↦ ?_) (fun o a b h ↦ ?_) ?_
  · split <;> exact ⟨_, rfl⟩
  · split
    · exact .refl o
    · exact ⟨.refl _, .some h⟩
  · intro o b _
    split
    · exact .refl o
    · next hnone =>
      rw [Option.not_isSome_iff_eq_none] at hnone
      exact ⟨.refl _, hnone ▸ .none _⟩

theorem rootHandler_survives : rootHandler.Survives Outline.IsStart where
  regular := rootHandler_regular
  refl := .refl
  trans := .trans
  adds := by
    intro k read hread
    by_cases hk : k = .transform
    · subst hk
      cases hread
      exact rootTransform_adds
    · rw [rootHandler_of_ne hk, Option.map_eq_some_iff] at hread
      obtain ⟨read, hread, rfl⟩ := hread
      have hadds := declarationHandler_survives.adds hread
      exact .of (P := fun o d ↦ o.declarations.IsStart d) (g := fun o d ↦
        { o with declarations := d })
        (fun o ↦ hadds.reads o.declarations) hadds.grows (fun _ ↦ .pure _)
        (fun _ _ _ h ↦ ⟨h, .refl (.refl .refl) _⟩) fun h ↦ ⟨h, .refl (.refl .refl) _⟩

/-- A root that is found among some of the tokens is found among all of them. -/
theorem State.Cut.header? {s t : State} (h : Cut s t) {u : State} (hu : s.header? = some u) :
    ∃ i, u = s.forward i ∧ t.header? = some (t.forward i) ∧ i + 3 ≤ s.rest.length ∧
      IsHeader (s.rest.drop i) := by
  obtain ⟨i, rfl, hhead, hfirst⟩ := header?_eq_some_iff.mp hu
  have hlen : i + 3 ≤ s.rest.length := by
    have := hhead.three_le_length
    rw [List.length_drop] at this
    omega
  have hdrop {j : Nat} (hj : j ≤ i) : s.rest.drop j <+: t.rest.drop j := by
    obtain ⟨zs, hzs⟩ := h.rest
    rw [← hzs, List.drop_append_of_le_length (by omega)]
    exact List.prefix_append _ _
  refine ⟨i, rfl, header?_eq_some_iff.mpr ⟨i, rfl, hhead.longer (hdrop (Nat.le_refl i)), ?_⟩, hlen,
    hhead⟩
  intro j hj hhead'
  exact hfirst j hj (.of_longer (hdrop (Nat.le_of_lt hj)) hhead' (by rw [List.length_drop]; omega))

theorem Outline.IsStart.model {o p : Outline} (h : o.IsStart p) (name : String) :
    (o.model name).IsStart (p.model name) where
  name := rfl
  systems := h.declarations.systems
  goals := h.declarations.goals
  allocations := h.declarations.allocations
  transform := h.transform.join

theorem outline_isStart {s t : State} (h : Cut s t) (hlen : 3 ≤ s.rest.length) :
    (outline s).1.IsStart (outline t).1 := by
  have hloops : Parallel Outline.IsStart (outline s) (outline t) :=
    runStatements_parallel rootHandler_survives (h.forward hlen)
  rcases hloops with ⟨heq, -⟩ | ⟨-, hstart⟩
  · exact heq ▸ .refl _
  · exact hstart

/-- The model of a text that is cut off at any token is empty or the start of the model of the
text. -/
theorem truncated_model (text : String) (k : Nat) : ∃ m s n t,
    document.run.run (.ofTokens ((tokenize text).take k)) = (.ok m, s) ∧
      readText text = (.ok n, t) ∧ (m = .empty ∨ m.IsStart n) := by
  rcases Nat.lt_or_ge k (tokenize text).length with hk | hk
  · have hcut := cut_ofTokens hk
    rw [readText, run_document, run_document, rewind_of_passed (passed_ofTokens _),
      rewind_of_passed (passed_ofTokens _)]
    cases hs : (State.ofTokens ((tokenize text).take k)).header? with
    | none =>
      cases ht : (State.ofTokens (tokenize text)).header? with
      | none => exact ⟨_, _, _, _, rfl, rfl, .inl rfl⟩
      | some t => exact ⟨_, _, _, _, rfl, rfl, .inl rfl⟩
    | some u =>
      obtain ⟨i, rfl, ht, hlen, hhead⟩ := hcut.header? hs
      rw [ht]
      have hcut := hcut.forward (n := i) (by omega)
      have hlen : 3 ≤ (State.forward i (.ofTokens ((tokenize text).take k))).rest.length := by
        rw [rest_forward, List.length_drop]
        omega
      have hname := (hcut.forward (n := 1) (by omega)).current_eq_of_length_pos (by
        rw [rest_forward, List.length_drop]
        omega)
      refine ⟨_, _, _, _, rfl, rfl, .inr ?_⟩
      simp only [hname]
      exact (outline_isStart hcut hlen).model _
  · obtain ⟨m, s, hm⟩ := document_ok (.ofTokens (tokenize text))
    rw [List.take_of_length_le hk]
    exact ⟨m, s, m, s, hm, hm, .inr (.refl m)⟩

end TwinDiagram.Parser
