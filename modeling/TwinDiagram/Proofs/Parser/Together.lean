import TwinDiagram.Proofs.Parser.Lockstep

namespace TwinDiagram.Parser

open Program State

variable {α : Type}

namespace Overlap

variable {c : Overlap} {s t : State}

def Together (c : Overlap) (x y : α × State) : Prop := c.Alike x y ∨ c.Reached x.2

theorem Reads.runStatements {handle : Handler α} {found : α} (hh : c.Reads handle) :
    ∀ {t}, c.Beside s t →
      c.Together (runStatements handle found s) (runStatements handle found t) := by
  -- Along the first loop; once it has come to its tail, nothing is left to show.
  fun_induction Parser.runStatements handle found s
  case case1 found s hs =>
    intro t h
    rcases h.see with hfacing | hedge
    · rw [runStatements_of_closes (hfacing.kind ▸ hs)]
      exact .inl ⟨rfl, h⟩
    · exact .inr hedge.reached
  case case2 found s hs next hlt ih =>
    intro t h
    have hs : s.current.kind.closesBlock = false := by simpa using hs
    have hlater : Onward next.2 (Parser.runStatements handle next.1 next.2).2 :=
      runStatements_keeps onward_motion hh.regular
    rcases h.see with hfacing | hedge
    · have hloop : Parser.runStatements handle found t = Parser.runStatements handle
          (Parser.statement handle found t).1 (Parser.statement handle found t).2 :=
        runStatements_of_not_closes hh.regular (hfacing.kind ▸ hs)
      rcases hh.statement h hfacing with ⟨heq, h⟩ | hlost
      · rw [hloop, ← heq]
        exact ih h
      · exact .inr (hlost.1.onward hlater)
    · exact .inr (hedge.reached.onward ((statement_keeps onward_motion hh.regular hs).trans hlater))
  case case3 found s hs next hlt =>
    exact absurd (length_statement hh.regular (by simpa using hs)) hlt

theorem Reached.close (h : c.Reached s) (owner : String) (opened : Token) :
    c.Lost (s.close owner opened) := by
  unfold State.close
  split
  · next hs => exact h.advance (by rw [hs]; exact nofun)
  · exact h.report trivial

theorem Together.close {x y : α × State} (h : c.Together x y) (owner : String) {a b : Token}
    (hab : c.same a b) :
    c.Pair Eq (.ok x.1, x.2.close owner a) (.ok y.1, y.2.close owner b) := by
  rcases h with ⟨heq, h⟩ | hreached
  · rcases h.see with hfacing | hedge
    · unfold State.close
      rw [hfacing.kind]
      split
      · exact .alike heq hfacing.next
      · exact .alike heq (h.report (.neverClosed hab))
    · exact .lost (hedge.reached.close owner a)
  · exact .lost (hreached.close owner a)

namespace Lockstep

theorem block {handle : Handler α} (hh : c.Reads handle) (owner : String) (found : α) :
    c.Lockstep Eq (block owner handle found) (block owner handle found) where
  onward := onward_motion.block hh.regular owner found
  pair {s t} h := by
    rw [run_block, run_block]
    rcases h.see with hfacing | hedge
    · rw [hfacing.kind]
      split
      · exact (hh.runStatements hfacing.next).close owner hfacing.same
      · exact .failed hfacing.same h
    · split
      · next hs =>
        have hlost := hedge.reached.advance (by rw [hs]; exact nofun)
        have hreached : c.Reached (runStatements handle found s.advance).2 :=
          hlost.1.onward (runStatements_keeps onward_motion hh.regular)
        exact .lost (hreached.close owner _)
      · exact .stuck (hedge.stuck _)

end Lockstep

section Goal

variable {doc : Option String}

theorem docAhead_congr {x y x' y' : Token} {xs ys : List Token} (hx : x.kind = x'.kind)
    (hy : y.kind = y'.kind) (hvalue : x.kind = .doc → y.kind = .blockComment → y.value = y'.value) :
    docAhead (x :: y :: xs) = docAhead (x' :: y' :: ys) := by
  obtain ⟨k, _, _⟩ := x
  obtain ⟨l, v, _⟩ := y
  obtain ⟨_, _, _⟩ := x'
  obtain ⟨_, _, _⟩ := y'
  cases hx
  cases hy
  cases k <;> cases l <;> first | rfl | exact congrArg some (hvalue rfl rfl)

theorem SameNotes.of_doc (h : c.SameNotes s) {x b : Token} {xs : List Token}
    (hrest : s.advance.rest = x :: xs) (hs : s.current.kind = .doc) (hx : x.kind = .blockComment)
    (hb : c.same x b) : x.value = b.value := by
  have hplain : s.current.kind.isPlain := hs ▸ rfl
  have hcur := current_of_rest hrest
  rw [← hcur] at hx hb ⊢
  refine h _ (.advance s) (fun n hn ↦ ?_) hx b hb
  rw [← closing?_advance_of_plain hplain] at hn
  exact position_le_of_closing? hn

theorem goalStep_together (h : c.Beside s t) (hnotes : c.SameNotes s) (hfacing : c.Facing s t)
    (hs : s.current.kind ≠ .endOfInput) : c.Together (goalStep doc s) (goalStep doc t) := by
  rw [goalStep_eq, goalStep_eq, hfacing.kind]
  split
  · rcases h.skipBlock with h | hlost
    · exact .inl ⟨rfl, h⟩
    · exact .inr hlost.1
  have hinside := hfacing.inside hs
  obtain ⟨w, w', hws, hwt, hw⟩ := h.rest
  rcases hw with _ | ⟨hab, _ | ⟨hxy, _⟩⟩
  · exact absurd hinside (by rw [hws]; exact Nat.lt_irrefl _)
  · -- The last of the common tokens; what is behind it may be a documentation for the first only.
    have hlength : s.rest.length = c.tail.length + 1 := by rw [hws]; rfl
    rcases c.tails with ⟨hnil, hnil'⟩ | ⟨z, zs, htail, -⟩
    · rw [hws, hwt, hnil, hnil']
      rw [List.append_nil, List.append_nil, docAhead_singleton, docAhead_singleton]
      exact .inl ⟨rfl, h.forward hinside⟩
    · have hne : c.tail' ≠ [] := by rw [htail]; exact List.cons_ne_nil _ _
      right
      split
      · refine ⟨hne, ?_⟩
        rw [rest_forward, List.length_drop]
        omega
      · refine ⟨hne, ?_⟩
        rw [rest_forward, List.length_drop]
        omega
  · have hlength : c.tail.length + 2 ≤ s.rest.length := by
      rw [hws]
      simp only [List.length_append, List.length_cons]
      omega
    have hdoc : docAhead s.rest = docAhead t.rest := by
      rw [hws, hwt]
      refine docAhead_congr (c.kind_eq hab) (c.kind_eq hxy) fun hdoc hcomment ↦ ?_
      rw [← current_of_rest hws] at hdoc
      exact hnotes.of_doc (State.rest_advance hws (current_of_rest hws ▸ hs)) hdoc hcomment hxy
    rw [hdoc]
    split
    · exact .inl ⟨rfl, h.forward hlength⟩
    · exact .inl ⟨rfl, h.forward hinside⟩

theorem goalBody_together : ∀ {t}, c.Beside s t → c.SameNotes s →
    c.Together (goalBody doc s) (goalBody doc t) := by
  fun_induction goalBody doc s
  case case1 doc s hs =>
    intro t h _
    rcases h.see with hfacing | hedge
    · rw [goalBody, if_pos (hfacing.kind ▸ hs)]
      exact .inl ⟨rfl, h⟩
    · exact .inr hedge.reached
  case case2 doc s hs ih =>
    intro t h hnotes
    have hlater : Onward (goalStep doc s).2 (goalBody (goalStep doc s).1 (goalStep doc s).2).2 :=
      onward_motion.goalBody _ _
    rcases h.see with hfacing | hedge
    · have hend : s.current.kind ≠ .endOfInput := fun he ↦ hs (he ▸ rfl)
      have hloop : goalBody doc t = goalBody (goalStep doc t).1 (goalStep doc t).2 := by
        rw [goalBody, if_neg (hfacing.kind ▸ hs)]
      rcases goalStep_together h hnotes hfacing hend with ⟨heq, h⟩ | hreached
      · rw [hloop, ← heq]
        exact ih h (hnotes.onward (onward_motion.goalStep doc hs) (closing?_goalStep doc hs))
      · exact .inr (hreached.onward hlater)
    · exact .inr (hedge.reached.onward ((onward_motion.goalStep doc hs).trans hlater))

theorem Edge.run_goalBlock (h : c.Edge s t) (hs : s.current.kind = .openBrace) (name : String) :
    ∃ doc u, (goalBlock name).run.run s = (.ok doc, u) ∧ c.Lost u := by
  have hlost := h.reached.advance (by rw [hs]; exact nofun)
  have hreached : c.Reached (goalBody none s.advance).2 :=
    hlost.1.onward (onward_motion.goalBody _ _)
  rw [Parser.run_goalBlock, if_pos hs]
  exact ⟨_, _, rfl, hreached.close _ _⟩

theorem Beside.goalBlock (h : c.Beside s t)
    (hnotes : s.current.kind = .openBrace → c.SameNotes s.advance) (name : String) :
    c.Pair Eq ((goalBlock name).run.run s) ((goalBlock name).run.run t) := by
  rcases h.see with hfacing | hedge
  · rw [run_goalBlock, run_goalBlock, ← hfacing.kind]
    split
    · next hs => exact (goalBody_together hfacing.next (hnotes hs)).close _ hfacing.same
    · exact .failed hfacing.same h
  · by_cases hs : s.current.kind = .openBrace
    · obtain ⟨doc, u, hrun, hlost⟩ := hedge.run_goalBlock hs name
      rw [hrun]
      exact .lost hlost
    · rw [run_goalBlock, if_neg hs]
      exact .stuck (hedge.stuck _)

theorem Beside.goalRest (h : c.Beside s t)
    (hnotes : s.current.kind = .openBrace → c.SameNotes s.advance) (name : String) :
    c.Pair Eq ((goalRest name).run.run s) ((goalRest name).run.run t) := by
  rw [run_goalRest, run_goalRest]
  rcases h.see with hfacing | hedge
  · rw [hfacing.kind]
    split
    · rw [map_eq_pure_bind]
      refine (h.goalBlock hnotes name).bind (fun _ ↦ onward_motion.ret _) fun _ _ hdoc h ↦ ?_
      exact .alike (congrArg _ hdoc) h
    · split
      · exact .alike rfl hfacing.next
      · exact .alike rfl h
  · rw [if_neg (TokenKind.ne_of_startsStatement hedge.starts rfl),
      if_neg (TokenKind.ne_of_startsStatement hedge.starts rfl)]
    split
    · next hs =>
      obtain ⟨doc, u, hrun, hlost⟩ := hedge.run_goalBlock hs name
      rw [run_map, hrun]
      exact .lost hlost
    · split
      · next hs => exact .lost (hedge.reached.advance (by rw [hs]; exact nofun))
      · exact .alike rfl h

namespace Lockstep

theorem goal : c.Lockstep Eq goal goal where
  onward := onward_motion.bind (onward_motion.expect rfl) fun _ ↦
    onward_motion.bind onward_motion.expectName fun _ ↦ onward_motion.goalRest _
  pair {s t} h := by
    refine ((expect rfl).pair h).bind (fun _ ↦ onward_motion.bind onward_motion.expectName fun _ ↦
      onward_motion.goalRest _) fun hs _ _ h' ↦ ?_
    refine (expectName.pair h').bind (fun _ ↦ onward_motion.goalRest _) fun hname _ heq h'' ↦ ?_
    obtain rfl := heq
    rw [run_expect] at hs
    split at hs
    · next hgoal =>
      obtain ⟨-, rfl⟩ := hs
      rw [run_expectName] at hname
      split at hname
      · next hkind =>
        obtain ⟨-, rfl⟩ := hname
        exact h''.goalRest (fun hbrace ↦ h.notes s (.refl s) ⟨hgoal, hkind, hbrace⟩) _
      · cases hname
    · cases hs

theorem twin {k : TokenKind} (hk : k.isPlain) (hh : c.Reads portHandler) :
    c.Lockstep Eq (twin k) (twin k) :=
  (expect hk).after (expectName.next fun _ ↦ (block hh _ _).map)

theorem system (hh : c.Reads systemHandler) : c.Lockstep Eq system system :=
  (expect rfl).after (expectName.next fun _ ↦ block hh _ _)

theorem slice {k : TokenKind} (hk : k.isPlain) (hh : c.Reads declarationHandler)
    (earlier : Option Slice) : c.Lockstep Eq (slice k earlier) (slice k earlier) := by
  refine (expect hk).bind (fun {a b} hab ↦ (block hh _ _).next fun found ↦ ?_) fun a ↦ ?_
  · split
    · exact (report rfl (.repeatedSection hab)).after (.pure rfl)
    · exact .pure rfl
  · refine onward_motion.bind (onward_motion.block hh.regular _ _) fun _ ↦ ?_
    split
    · exact onward_motion.bind (onward_motion.report rfl) fun _ ↦ onward_motion.ret _
    · exact onward_motion.ret _

end Lockstep

end Goal

theorem portHandler_reads : c.Reads portHandler where
  regular := portHandler_regular
  reads {k read} hread found := by
    unfold portHandler at hread
    split at hread <;> cases hread
    exact Lockstep.port.map

theorem systemHandler_reads : c.Reads systemHandler where
  regular := systemHandler_regular
  reads {k read} hread found := by
    unfold systemHandler at hread
    split at hread <;> cases hread
    · exact (Lockstep.twin rfl portHandler_reads).map
    · exact (Lockstep.twin rfl portHandler_reads).map
    · exact Lockstep.connection.map

theorem declarationHandler_reads : c.Reads declarationHandler where
  regular := declarationHandler_regular
  reads {k read} hread found := by
    unfold declarationHandler at hread
    split at hread <;> cases hread
    · exact (Lockstep.system systemHandler_reads).map
    · exact Lockstep.goal.map
    · exact Lockstep.allocation.map

theorem transformHandler_reads : c.Reads transformHandler where
  regular := transformHandler_regular
  reads {k read} hread t := by
    have hslice {k : TokenKind} (hk : k.isPlain) (earlier : Option Slice)
        {set : Option Slice → Parse Transform} (hset : ∀ s, ∃ t, set s = pure t) :
        c.Lockstep Eq (slice k earlier >>= set) (slice k earlier >>= set) := by
      refine (Lockstep.slice hk declarationHandler_reads earlier).next fun s ↦ ?_
      obtain ⟨t, ht⟩ := hset s
      rw [ht]
      exact .pure rfl
    cases k <;> cases hread
    · exact hslice rfl t.before fun s ↦ by cases s <;> exact ⟨_, rfl⟩
    · exact hslice rfl t.core fun s ↦ by cases s <;> exact ⟨_, rfl⟩
    · exact hslice rfl t.after fun s ↦ by cases s <;> exact ⟨_, rfl⟩

theorem rootTransform_lockstep (o : Outline) :
    c.Lockstep Eq (rootTransform o) (rootTransform o) := by
  unfold rootTransform Parser.transform
  simp only [bind_assoc]
  rw [current_bind_expect]
  refine (Lockstep.expect rfl).bind (fun {a b} hab ↦
    (Lockstep.block transformHandler_reads _ _).next fun found ↦ ?_) fun a ↦
      onward_motion.bind (onward_motion.block transformHandler_regular _ _) fun found ↦ ?_
  · simp only [pure_bind]
    split
    · exact (Lockstep.report rfl (.repeatedSection hab)).after (.pure rfl)
    · exact .pure rfl
  · simp only [pure_bind]
    split
    · exact onward_motion.bind (onward_motion.report rfl) fun _ ↦ onward_motion.ret _
    · exact onward_motion.ret _

theorem rootHandler_reads : c.Reads rootHandler where
  regular := rootHandler_regular
  reads {k read} hread o := by
    by_cases hk : k = .transform
    · subst hk
      cases hread
      exact rootTransform_lockstep o
    · rw [rootHandler_of_ne hk, Option.map_eq_some_iff] at hread
      obtain ⟨read, hread, rfl⟩ := hread
      exact (declarationHandler_reads.reads hread _).map

end Overlap

end TwinDiagram.Parser
