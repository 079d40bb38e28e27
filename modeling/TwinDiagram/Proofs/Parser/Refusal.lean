import TwinDiagram.Proofs.Parser.Place

namespace TwinDiagram.Parser

open Program State

variable {α β γ δ : Type}

inductive Sentence (tail : List Token) : List Token → List Token → Prop
  | stop {z z' : Token} : z.kind = .semicolon → z'.kind = .semicolon →
    Sentence tail [z] (z' :: tail)
  | cons {x x' : Token} {v v' : List Token} : x.kind = x'.kind → x.value = x'.value →
    x.kind.isPlain → x.kind ≠ .semicolon → Sentence tail v v' → Sentence tail (x :: v) (x' :: v')

theorem Sentence.exists_stop {tail v v' : List Token} (h : Sentence tail v v') :
    ∃ ws z, v' = ws ++ z :: tail ∧ z.kind = .semicolon := by
  induction h with
  | stop _ hz => exact ⟨[], _, rfl, hz⟩
  | cons _ _ _ _ _ ih =>
    obtain ⟨ws, z, rfl, hz⟩ := ih
    exact ⟨_ :: ws, z, rfl, hz⟩

structure Abreast (tail : List Token) (events : List Event) (s t : State) : Prop where
  sentence : Sentence tail s.rest t.rest
  events : t.events = events

inductive Within (tail : List Token) (events : List Event) (Q : α → β → Prop) :
    Except Mismatch α × State → Except Mismatch β × State → Prop
  | passed {a : α} {b : β} {s t : State} (hab : Q a b) (h : Abreast tail events s t) :
    Within tail events Q (.ok a, s) (.ok b, t)
  | refused {w : Wanted} {s t : State} (h : Abreast tail events s t) :
    Within tail events Q (.error ⟨w, s.current⟩, s) (.error ⟨w, t.current⟩, t)

/-- Both programs take the same way through the statement. -/
structure Walks (Q : α → β → Prop) (p : Parse α) (q : Parse β) : Prop where
  within : ∀ {tail events s t}, Abreast tail events s t →
    Within tail events Q (p.run.run s) (q.run.run t)

/-- If the first program fails, both fail within the statement. -/
structure Refuses (p : Parse α) (q : Parse β) : Prop where
  within : ∀ {tail events s t}, Abreast tail events s t → (∃ a u, p.run.run s = (.ok a, u)) ∨
    Within tail events (fun _ _ ↦ False) (p.run.run s) (q.run.run t)

variable {tail : List Token} {events : List Event} {s t : State}

namespace Abreast

/-- Both are in front of the semicolon, or of the same token before it. -/
theorem see (h : Abreast tail events s t) : s.current.kind = t.current.kind ∧
    (s.current.kind = .semicolon ∨ s.current.kind ≠ .semicolon ∧ s.current.kind.isPlain ∧
      s.current.value = t.current.value ∧ Abreast tail events s.advance t.advance) := by
  generalize hs : s.rest = v
  generalize ht : t.rest = v'
  have hsentence := h.sentence
  rw [hs, ht] at hsentence
  cases hsentence with
  | stop hz hz' =>
    rw [current_of_rest hs, current_of_rest ht, hz, hz']
    exact ⟨rfl, .inl rfl⟩
  | cons hkind hvalue hplain hstop hv =>
    have hend := TokenKind.ne_endOfInput_of_isPlain hplain
    rw [current_of_rest hs, current_of_rest ht]
    refine ⟨hkind, .inr ⟨hstop, hplain, hvalue, ?_, ?_⟩⟩
    · rwa [rest_advance hs hend, rest_advance ht (hkind ▸ hend)]
    · rw [advance_eq_forward (by rw [current_of_rest ht, ← hkind]; exact hend)]
      exact h.events

theorem kind (h : Abreast tail events s t) : s.current.kind = t.current.kind := h.see.1

theorem ne_openBrace (h : Abreast tail events s t) : s.current.kind ≠ .openBrace := by
  rcases h.see.2 with hstop | ⟨-, hplain, -⟩
  · rw [hstop]
    exact nofun
  · intro hbrace
    rw [hbrace] at hplain
    cases hplain

theorem advance (h : Abreast tail events s t) (hs : s.current.kind ≠ .semicolon) :
    s.current.value = t.current.value ∧ Abreast tail events s.advance t.advance :=
  (h.see.2.resolve_left hs).2.2

end Abreast

namespace Walks

variable {Q : α → β → Prop} {R : γ → δ → Prop} {p : Parse α} {q : Parse β} {f : α → Parse γ}
  {g : β → Parse δ}

theorem pure {a : α} {b : β} (hab : Q a b) : Walks Q (pure a) (pure b) :=
  ⟨fun h ↦ .passed hab h⟩

theorem bind (hp : Walks Q p q) (hf : ∀ {a b}, Q a b → Walks R (f a) (g b)) :
    Walks R (p >>= f) (q >>= g) := by
  refine ⟨fun {tail events s t} h ↦ ?_⟩
  have hwithin := hp.within h
  rw [run_bind, run_bind]
  generalize p.run.run s = x at hwithin ⊢
  generalize q.run.run t = y at hwithin ⊢
  cases hwithin with
  | passed hab h => exact (hf hab).within h
  | refused h => exact .refused h

theorem then_refuses (hp : Walks Q p q) (hf : ∀ {a b}, Q a b → Refuses (f a) (g b)) :
    Refuses (p >>= f) (q >>= g) := by
  refine ⟨fun {tail events s t} h ↦ ?_⟩
  have hwithin := hp.within h
  rw [run_bind, run_bind]
  generalize p.run.run s = x at hwithin ⊢
  generalize q.run.run t = y at hwithin ⊢
  cases hwithin with
  | passed hab h => exact (hf hab).within h
  | refused h => exact .inr (.refused h)

theorem expect {k : TokenKind} (hk : k ≠ .semicolon) :
    Walks (fun _ _ ↦ True) (expect k) (expect k) := by
  refine ⟨fun {tail events s t} h ↦ ?_⟩
  rw [run_expect, run_expect, h.kind]
  split
  · next ht => exact .passed trivial (h.advance (by rwa [h.kind, ht])).2
  · exact .refused h

theorem expectName : Walks Eq expectName expectName := by
  refine ⟨fun {tail events s t} h ↦ ?_⟩
  rw [run_expectName, run_expectName, h.kind]
  split
  · next ht =>
    obtain ⟨hvalue, hnext⟩ := h.advance (by rw [h.kind]; rintro hstop; rw [hstop] at ht; cases ht)
    exact .passed hvalue hnext
  · exact .refused h

theorem accept {k : TokenKind} (hk : k ≠ .semicolon) :
    Walks (fun o o' ↦ o.isSome = o'.isSome) (accept k) (accept k) := by
  refine ⟨fun {tail events s t} h ↦ ?_⟩
  rw [run_accept, run_accept, h.kind]
  split
  · next ht => exact .passed rfl (h.advance (by rwa [h.kind, ht])).2
  · exact .passed rfl h

theorem inlineName : Walks Eq inlineName inlineName := by
  refine (accept (by decide)).bind fun {o o'} ho ↦ ?_
  rw [ho]
  split
  · exact expectName.bind fun hname ↦ .pure (congrArg some hname)
  · exact .pure rfl

theorem referenceTail (n : Nat) : Walks Eq (referenceTail n) (referenceTail n) := by
  induction n with
  | zero => exact .pure rfl
  | succ n ih =>
    refine (accept (by decide)).bind fun {o o'} ho ↦ ?_
    rw [← Option.not_isSome, ← Option.not_isSome, ho]
    split
    · exact .pure rfl
    · exact expectName.bind fun hname ↦ ih.bind fun hnames ↦ .pure (hname ▸ hnames ▸ rfl)

theorem names : Walks Eq (do Parser.referenceTail (← get).rest.length)
    (do Parser.referenceTail (← get).rest.length) := by
  refine ⟨fun {tail events s t} h ↦ ?_⟩
  rw [run_names (Nat.le_max_left s.rest.length t.rest.length),
    run_names (Nat.le_max_right s.rest.length t.rest.length)]
  exact (referenceTail _).within h

theorem reference : Walks Eq reference reference := by
  rw [reference_eq]
  exact expectName.bind fun hfirst ↦ names.bind fun hrest ↦ .pure (hfirst ▸ hrest ▸ rfl)

theorem header (l : Layer) {k : TokenKind} (hk : k ≠ .semicolon) :
    Walks (fun _ _ ↦ True) (l.header k) (l.header k) := by
  cases l with
  | root | system | ports =>
    exact (expect hk).bind fun _ ↦ expectName.bind fun _ ↦ .pure trivial
  | transform | slice => exact (expect hk).bind fun _ ↦ .pure trivial

theorem block {owner owner' : String} {handle : Handler α} {handle' : Handler β} {a : α} {b : β} :
    Walks (fun _ _ ↦ False) (block owner handle a) (block owner' handle' b) := by
  refine ⟨fun {tail events s t} h ↦ ?_⟩
  rw [run_block, run_block, if_neg h.ne_openBrace, if_neg (h.kind ▸ h.ne_openBrace)]
  exact .refused h

end Walks

namespace Refuses

theorem expect_bind {f : Token → Parse α} {g : Token → Parse β}
    (hf : ∀ x s, ∃ a u, (f x).run.run s = (.ok a, u)) :
    Refuses (expect .semicolon >>= f) (expect .semicolon >>= g) := by
  refine ⟨fun {tail events s t} h ↦ ?_⟩
  rw [run_bind, run_bind, run_expect, run_expect, h.kind]
  by_cases ht : t.current.kind = .semicolon
  · simp only [ht, if_true]
    exact .inl (hf _ _)
  · simp only [ht, if_false]
    exact .inr (.refused h)

theorem port : Refuses port port :=
  (Walks.expect (by decide)).then_refuses fun _ ↦ Walks.expectName.then_refuses fun _ ↦
    expect_bind fun _ _ ↦ ⟨_, _, rfl⟩

theorem connection : Refuses connection connection :=
  (Walks.expect (by decide)).then_refuses fun _ ↦ Walks.reference.then_refuses fun _ ↦
    (Walks.expect (by decide)).then_refuses fun _ ↦ Walks.reference.then_refuses fun _ ↦
      Walks.inlineName.then_refuses fun _ ↦ expect_bind fun _ _ ↦ ⟨_, _, rfl⟩

theorem allocation : Refuses allocation allocation :=
  (Walks.expect (by decide)).then_refuses fun _ ↦ Walks.expectName.then_refuses fun _ ↦
    (Walks.expect (by decide)).then_refuses fun _ ↦ Walks.reference.then_refuses fun _ ↦
      expect_bind fun _ _ ↦ ⟨_, _, rfl⟩

theorem goalRest (name name' : String) : Refuses (goalRest name) (goalRest name') := by
  refine ⟨fun {tail events s t} h ↦ ?_⟩
  rw [run_goalRest, if_neg h.ne_openBrace]
  exact .inl ⟨_, _, rfl⟩

theorem goal : Refuses goal goal :=
  (Walks.expect (by decide)).then_refuses fun _ ↦ Walks.expectName.then_refuses fun _ ↦ goalRest _ _

theorem map {p : Parse α} {q : Parse β} {f : α → γ} {g : β → δ} (hp : Refuses p q) :
    Refuses (p >>= fun a ↦ pure (f a)) (q >>= fun b ↦ pure (g b)) := by
  refine ⟨fun {tail events s t} h ↦ ?_⟩
  rw [run_bind, run_bind]
  rcases hp.within h with ⟨a, u, ha⟩ | hwithin
  · rw [ha]
    exact .inl ⟨_, _, rfl⟩
  · generalize p.run.run s = x at hwithin ⊢
    generalize q.run.run t = y at hwithin ⊢
    cases hwithin with
    | passed hab => exact hab.elim
    | refused h => exact .inr (.refused h)

theorem of_encloses {l l' : Layer} {k : TokenKind} (e : l.Encloses k l') (hk : k ≠ .semicolon)
    (found : l.Found) : Refuses (e.read found) (e.read found) := by
  rw [e.read_eq]
  exact (Walks.header l' hk).then_refuses fun _ ↦ Walks.block.then_refuses False.elim

end Refuses

theorem Layer.refuses {l : Layer} {k : TokenKind} {read : l.Found → Parse l.Found}
    (h : l.handle k = some read) (found : l.Found) : Refuses (read found) (read found) := by
  cases hl : l.inner? k with
  | some l' =>
    obtain ⟨e⟩ := encloses hl
    obtain rfl : read = e.read := Option.some.inj (h.symm.trans e.handle_eq)
    refine .of_encloses e ?_ found
    rintro rfl
    cases l <;> cases hl
  | none =>
    cases l with
    | root =>
      cases k <;> cases hl <;> cases h
      · exact .map (.map .goal)
      · exact .map (.map .allocation)
    | transform => cases k <;> cases hl <;> cases h
    | slice =>
      cases k <;> cases hl <;> cases h
      · exact .map .goal
      · exact .map .allocation
    | system =>
      cases k <;> cases hl <;> cases h
      exact .map .connection
    | ports =>
      cases k <;> cases hl <;> cases h
      exact .map .port

theorem Layer.startsStatement_of_handle {l : Layer} {k : TokenKind} :
    (l.handle k).isSome → k.startsStatement := by
  cases l <;> cases k <;> decide

structure State.Behind (tail : List Token) (new : List Finding) (s t : State) : Prop where
  rest : t.rest = tail
  last : t.last = s.last
  comments : t.comments = s.comments
  findings : t.findings = s.findings ++ new

namespace Place

/-- Tokens that mean nothing in a block are passed one by one. -/
theorem finish_skipped {l : Layer} {found : l.Found} {ws : List Token} {s : State}
    (hs : s.rest = ws ++ tail) (hplain : ∀ x ∈ ws, x.kind.isPlain)
    (hnone : ∀ x ∈ ws, l.handle x.kind = none) :
    ∃ t, Behind tail [] s t ∧ (Place.mk l found s).finish = (Place.mk l found t).finish := by
  induction ws generalizing s with
  | nil => exact ⟨s, ⟨hs, rfl, rfl, (List.append_nil _).symm⟩, rfl⟩
  | cons x ws ih =>
    obtain ⟨hx, hplain⟩ := List.forall_mem_cons.mp hplain
    obtain ⟨hread, hnone⟩ := List.forall_mem_cons.mp hnone
    have hcur := current_of_rest hs
    rw [← hcur] at hx hread
    have hend := TokenKind.ne_endOfInput_of_isPlain hx
    have hskip : s.skipUnknown = (s.forward 1).log (.skipped s.current) := by
      unfold State.skipUnknown
      rw [if_neg (by rintro hbrace; rw [hbrace] at hx; cases hx), advance_log,
        advance_eq_forward hend]
    have hrest : s.skipUnknown.rest = ws ++ tail := by
      rw [hskip]
      show s.rest.drop 1 = _
      rw [hs]
      rfl
    obtain ⟨t, ht, hfinish⟩ := ih hrest hplain hnone
    refine ⟨t, ⟨ht.rest, ?_, ?_, ?_⟩, ?_⟩
    · rw [ht.last, hskip]
      rfl
    · rw [ht.comments, hskip]
      rfl
    · rw [ht.findings, hskip, Overlap.findings_log]
      simp only [Event.finding?, Option.toList_none, List.append_nil]
      rfl
    · rw [finish_eq (TokenKind.not_closes_of_isPlain hx), statement_of_none hread, hfinish]

/-- A refused statement is passed up to its semicolon, and one finding tells of it. -/
theorem finish_refused {l : Layer} {found : l.Found} {read : l.Found → Parse l.Found}
    {s t u : State} {ws : List Token} {z : Token} {m : Mismatch}
    (hread : l.handle t.current.kind = some read)
    (hsentence : Sentence tail s.rest t.rest) (ht : t.rest = t.current :: (ws ++ z :: tail))
    (hcalm : ∀ x ∈ ws, stopsRecovery x.kind = false) (hz : z.kind = .semicolon)
    (hrefused : (read found).run.run s = (.error m, u)) :
    ∃ w x v, x ∈ ws ++ [z] ∧ Behind tail [.mismatch ⟨w, x⟩] t v ∧
      (Place.mk l found t).finish = (Place.mk l found v).finish := by
  have hstarts := l.regular.starts hread found
  have hplain := l.regular.plain hread
  have honward := hstarts.keeps hplain onward_motion t
  have hlt := hstarts.length_lt hplain (s := t) rfl
  have hwithin := ((l.refuses hread found).within ⟨hsentence, rfl⟩).resolve_left (by
    rintro ⟨a, v, hok⟩
    rw [hrefused] at hok
    cases hok)
  rw [hrefused] at hwithin
  generalize hrun : (read found).run.run t = y at hwithin honward hlt
  cases hwithin with
  | @refused w _ t' h =>
    obtain ⟨v, y, hv, hy⟩ := h.sentence.exists_stop
    -- What is left of the statement are the last of its tokens.
    obtain ⟨v', rfl, rfl⟩ : ∃ v', ws = v' ++ v ∧ z = y := by
      have hsuffix := honward.rest_suffix
      rw [ht, List.suffix_cons_iff] at hsuffix
      obtain ⟨v', hv'⟩ := hsuffix.resolve_left fun heq ↦ by
        rw [ht, ← heq] at hlt
        exact Nat.lt_irrefl _ hlt
      refine ⟨v', ?_⟩
      rw [hv, ← List.append_assoc, List.append_cons, List.append_cons ws,
        List.append_cancel_right_eq] at hv'
      obtain ⟨hws, hstop⟩ := List.append_inj' hv' rfl
      exact ⟨hws.symm, (List.singleton_inj.mp hstop).symm⟩
    have hfirst : t'.current ∈ v ++ [z] := by
      rw [State.current, hv]
      cases v with
      | nil => exact List.mem_singleton_self _
      | cons x v => exact List.mem_append_left _ (.head _)
    have hresume : (t'.report (.mismatch ⟨w, t'.current⟩)).resume =
        (t'.report (.mismatch ⟨w, t'.current⟩)).forward (v.length + 1) :=
      resume_of_semicolon hv (fun x hx ↦ hcalm x (List.mem_append_right v' hx)) hz
    refine ⟨w, t'.current, (t'.report (.mismatch ⟨w, t'.current⟩)).resume, ?_, ?_, ?_⟩
    · rw [List.append_assoc]
      exact List.mem_append_right v' hfirst
    · have hevents : t'.findings = t.findings := by rw [State.findings, h.events, State.findings]
      rw [hresume]
      refine ⟨?_, honward.last, honward.comments, ?_⟩
      · rw [rest_forward]
        show t'.rest.drop (v.length + 1) = tail
        rw [hv, List.append_cons, List.drop_left' (by simp)]
      · show (t'.report (.mismatch ⟨w, t'.current⟩)).findings = _
        rw [State.report, Overlap.findings_log, hevents]
        rfl
    · rw [finish_eq (TokenKind.not_closes_of_isPlain hplain),
        statement_of_error l.regular hread hrun]

end Place

end TwinDiagram.Parser
