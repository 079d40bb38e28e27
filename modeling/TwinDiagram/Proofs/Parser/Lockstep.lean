import TwinDiagram.Proofs.Parser.Overlap

namespace TwinDiagram.Parser

open Program State

variable {α β γ δ : Type}

inductive Overlap.Pair (c : Overlap) (Q : α → β → Prop) :
    Except Mismatch α × State → Except Mismatch β × State → Prop
  | alike {a : α} {b : β} {s t : State} (hab : Q a b) (h : c.Beside s t) :
      Pair c Q (.ok a, s) (.ok b, t)
  | failed {w : Wanted} {x y : Token} {s t : State} (hxy : c.same x y) (h : c.Beside s t) :
      Pair c Q (.error ⟨w, x⟩, s) (.error ⟨w, y⟩, t)
  | lost {a : α} {s : State} {r : Except Mismatch β × State} (h : c.Lost s) : Pair c Q (.ok a, s) r
  | stuck {m : Mismatch} {s : State} {r : Except Mismatch β × State}
      (h : c.Lost (s.report (.mismatch m))) : Pair c Q (.error m, s) r

def Overlap.Alike (c : Overlap) (x y : α × State) : Prop := x.1 = y.1 ∧ c.Beside x.2 y.2

/-- Side by side, the programs have related results, or the first parser is lost. -/
structure Overlap.Lockstep (c : Overlap) (Q : α → β → Prop) (p : Parse α) (q : Parse β) : Prop where
  onward : Keeps Onward p
  pair : ∀ {s t}, c.Beside s t → c.Pair Q (p.run.run s) (q.run.run t)

namespace Overlap

variable {c : Overlap} {s t : State}

theorem Edge.stuck (h : c.Edge s t) (w : Wanted) :
    c.Lost (s.report (.mismatch ⟨w, s.current⟩)) := h.reached.report h.current

section Bind

variable {Q : α → β → Prop} {R : γ → δ → Prop} {p : Parse α} {q : Parse β} {f : α → Parse γ}
  {g : β → Parse δ}

/-- What runs next starts where the first programs have ended. -/
theorem Pair.bind (hpair : c.Pair Q (p.run.run s) (q.run.run t)) (honward : ∀ a, Keeps Onward (f a))
    (hnext : ∀ {a b u v}, p.run.run s = (.ok a, u) → q.run.run t = (.ok b, v) → Q a b →
      c.Beside u v →
      c.Pair R ((f a).run.run u) ((g b).run.run v)) :
    c.Pair R ((p >>= f).run.run s) ((q >>= g).run.run t) := by
  rw [run_bind, run_bind]
  generalize hs : p.run.run s = x at hpair ⊢
  generalize ht : q.run.run t = y at hpair ⊢
  cases hpair with
  | alike hab h => exact hnext hs ht hab h
  | failed hxy h => exact .failed hxy h
  | @lost a s r hlost =>
    have ho := honward a s
    simp only
    generalize (f a).run.run s = z at ho ⊢
    obtain ⟨_ | b, u⟩ := z
    · exact .stuck (hlost.onward (ho.trans (.log _ _)))
    · exact .lost (hlost.onward ho)
  | stuck h => exact .stuck h

end Bind

namespace Lockstep

variable {Q : α → β → Prop} {R : γ → δ → Prop} {p : Parse α} {q : Parse β} {f : α → Parse γ}
  {g : β → Parse δ}

theorem pure {a : α} {b : β} (hab : Q a b) : c.Lockstep Q (pure a) (pure b) where
  onward := onward_motion.ret a
  pair h := .alike hab h

theorem bind (hp : c.Lockstep Q p q) (hf : ∀ {a b}, Q a b → c.Lockstep R (f a) (g b))
    (honward : ∀ a, Keeps Onward (f a)) : c.Lockstep R (p >>= f) (q >>= g) where
  onward := onward_motion.bind hp.onward honward
  pair h := (hp.pair h).bind honward fun _ _ hab h ↦ (hf hab).pair h

theorem next {p q : Parse α} {f g : α → Parse γ} {R : γ → γ → Prop} (hp : c.Lockstep Eq p q)
    (hf : ∀ a, c.Lockstep R (f a) (g a)) : c.Lockstep R (p >>= f) (q >>= g) :=
  hp.bind (fun {a _} hab ↦ hab ▸ hf a) fun a ↦ (hf a).onward

theorem after {p' : Parse γ} {q' : Parse δ} (hp : c.Lockstep Q p q) (hp' : c.Lockstep R p' q') :
    c.Lockstep R (p >>= fun _ ↦ p') (q >>= fun _ ↦ q') :=
  hp.bind (fun _ ↦ hp') fun _ ↦ hp'.onward

theorem map {p q : Parse α} {h : α → γ} (hp : c.Lockstep Eq p q) :
    c.Lockstep Eq (p >>= fun a ↦ Pure.pure (h a)) (q >>= fun a ↦ Pure.pure (h a)) :=
  hp.next fun _ ↦ .pure rfl

theorem expect {k : TokenKind} (hk : k.isPlain) : c.Lockstep c.same (expect k) (expect k) where
  onward := onward_motion.expect hk
  pair {s t} h := by
    rw [run_expect, run_expect]
    rcases h.see with hfacing | hedge
    · rw [hfacing.kind]
      split
      · exact .alike hfacing.same hfacing.next
      · exact .failed hfacing.same h
    · split
      · next hs =>
        exact .lost (hedge.reached.advance (hs ▸ TokenKind.ne_endOfInput_of_isPlain hk))
      · exact .stuck (hedge.stuck _)

theorem expectName : c.Lockstep Eq expectName expectName where
  onward := onward_motion.expectName
  pair {s t} h := by
    rw [run_expectName, run_expectName]
    rcases h.see with hfacing | hedge
    · rw [← hfacing.kind]
      split
      · next hname => exact .alike (c.value_eq hfacing.same hname) hfacing.next
      · exact .failed hfacing.same h
    · split
      · next hs =>
        exact .lost (hedge.reached.advance
          (TokenKind.ne_endOfInput_of_isPlain (TokenKind.isPlain_of_isName hs)))
      · exact .stuck (hedge.stuck _)

theorem accept {k : TokenKind} (hk : k.isPlain) (hstarts : k.startsStatement = false) :
    c.Lockstep (fun o o' ↦ o.isSome = o'.isSome) (accept k) (accept k) where
  onward := onward_motion.accept hk
  pair {s t} h := by
    rw [run_accept, run_accept]
    rcases h.see with hfacing | hedge
    · rw [hfacing.kind]
      split
      · exact .alike rfl hfacing.next
      · exact .alike rfl h
    · rw [if_neg (TokenKind.ne_of_startsStatement hedge.starts hstarts)]
      split
      · next hs =>
        exact .lost (hedge.reached.advance (hs ▸ TokenKind.ne_endOfInput_of_isPlain hk))
      · exact .alike rfl h

theorem report {f g : Finding} (hf : (Event.found f).tellsOpen = false) (hfg : f.Like c.same g) :
    c.Lockstep Eq (report f) (report g) where
  onward := onward_motion.report hf
  pair h := .alike rfl (h.report hfg)

theorem inlineName : c.Lockstep Eq inlineName inlineName := by
  refine (accept rfl rfl).bind (fun {o o'} ho ↦ ?_) fun o ↦ ?_
  · rw [ho]
    split
    · exact expectName.map
    · exact .pure rfl
  · split
    · exact onward_motion.bind onward_motion.expectName fun _ ↦ onward_motion.ret _
    · exact onward_motion.ret _

theorem referenceTail (n : Nat) : c.Lockstep Eq (referenceTail n) (referenceTail n) := by
  induction n with
  | zero => exact .pure rfl
  | succ n ih =>
    refine (accept rfl rfl).bind (fun {o o'} ho ↦ ?_) fun o ↦ ?_
    · rw [← Option.not_isSome, ← Option.not_isSome, ho]
      split
      · exact .pure rfl
      · exact expectName.next fun _ ↦ ih.map
    · split
      · exact onward_motion.ret _
      · exact onward_motion.bind onward_motion.expectName fun _ ↦
          onward_motion.bind (onward_motion.referenceTail n) fun _ ↦ onward_motion.ret _

end Lockstep

end Overlap

theorem reference_eq : reference = expectName >>= fun first ↦
    (do referenceTail (← get).rest.length) >>= fun rest ↦
      pure (".".intercalate (first :: rest)) := by
  simp only [reference, bind_assoc]

/-- More steps than there are tokens change nothing. -/
theorem run_referenceTail_congr {m n : Nat} {s : State} (hm : s.rest.length ≤ m)
    (hn : s.rest.length ≤ n) : (referenceTail m).run.run s = (referenceTail n).run.run s := by
  induction m generalizing n s with
  | zero =>
    have hrest : s.rest = [] := List.length_eq_zero_iff.mp (Nat.le_zero.mp hm)
    cases n with
    | zero => rfl
    | succ n =>
      rw [run_referenceTail_succ, if_neg (by rw [current_of_nil hrest, s.last_kind]; exact nofun)]
      rfl
  | succ m ih =>
    cases n with
    | zero =>
      have hrest : s.rest = [] := List.length_eq_zero_iff.mp (Nat.le_zero.mp hn)
      rw [run_referenceTail_succ, if_neg (by rw [current_of_nil hrest, s.last_kind]; exact nofun)]
      rfl
    | succ n =>
      rw [run_referenceTail_succ, run_referenceTail_succ]
      split
      · next hdot =>
        have hend : s.current.kind ≠ .endOfInput := by rw [hdot]; exact nofun
        obtain ⟨xs, hxs⟩ := rest_eq_cons hend
        have hrest := rest_advance hxs hend
        have hle := (Onward.advance s.advance).length_le
        rw [hrest] at hle
        rw [hxs, List.length_cons] at hm hn
        rw [run_bind, run_bind, run_expectName]
        by_cases hname : s.advance.current.kind.isName
        · simp only [if_pos hname]
          rw [run_bind, run_bind, ih (n := n) (by omega) (by omega)]
        · simp only [if_neg hname]
      · rfl

theorem run_names {n : Nat} {s : State} (hn : s.rest.length ≤ n) :
    (do referenceTail (← get).rest.length : Parse (List String)).run.run s =
      (referenceTail n).run.run s := by
  rw [run_bind, run_get]
  exact run_referenceTail_congr (Nat.le_refl _) hn

namespace Overlap

variable {c : Overlap} {s t : State}

namespace Lockstep

theorem names : c.Lockstep Eq (do Parser.referenceTail (← get).rest.length)
    (do Parser.referenceTail (← get).rest.length) where
  onward := onward_motion.bind (p := get) onward_motion.refl fun _ ↦ onward_motion.referenceTail _
  pair {s t} h := by
    rw [run_names (Nat.le_max_left s.rest.length t.rest.length),
      run_names (Nat.le_max_right s.rest.length t.rest.length)]
    exact (referenceTail _).pair h

theorem reference : c.Lockstep Eq reference reference := by
  rw [reference_eq]
  exact expectName.next fun _ ↦ names.map

theorem connectionEnd (source target : String) (name : Option String) :
    c.Lockstep Eq (connectionEnd source target name) (connectionEnd source target name) where
  onward := onward_motion.connectionEnd source target name
  pair {s t} h := by
    rw [run_connectionEnd, run_connectionEnd]
    rcases h.see with hfacing | hedge
    · rw [hfacing.kind]
      split
      · next hs =>
        have hend : t.current.kind ≠ .endOfInput := by rw [hs]; exact nofun
        have hend' : s.current.kind ≠ .endOfInput := by rwa [hfacing.kind]
        have hname := h.names 0 (hfacing.inside hend')
          (by rw [State.forward_zero, hfacing.kind, hs])
        rw [State.forward_zero, State.forward_zero, Nat.zero_add, ← advance_eq_forward hend',
          ← advance_eq_forward hend] at hname
        refine .alike ?_ hfacing.next
        rw [(Onward.advance s).comments, (Onward.advance t).comments, hname]
      · exact .failed hfacing.same h
    · split
      · next hs => exact .lost (hedge.reached.advance (by rw [hs]; exact nofun))
      · exact .stuck (hedge.stuck _)

theorem port : c.Lockstep Eq port port :=
  (expect rfl).after (expectName.next fun _ ↦ (expect rfl).after (.pure rfl))

theorem connection : c.Lockstep Eq connection connection :=
  (expect rfl).after (reference.next fun _ ↦ (expect rfl).after (reference.next fun _ ↦
    inlineName.next fun _ ↦ connectionEnd _ _ _))

theorem allocation : c.Lockstep Eq allocation allocation :=
  (expect rfl).after (expectName.next fun _ ↦ (expect rfl).after (reference.next fun _ ↦
    (expect rfl).after (.pure rfl)))

end Lockstep

structure Reads (c : Overlap) (handle : Handler α) : Prop where
  regular : handle.Regular
  reads : ∀ {k read}, handle k = some read → ∀ found, c.Lockstep Eq (read found) (read found)

end Overlap

section Loop

variable {handle : Handler α} {found : α} {s t : State}

/-- A statement that fails has passed its keyword. -/
theorem statement_of_error (hh : handle.Regular) {read : α → Parse α}
    (hread : handle s.current.kind = some read) {m : Mismatch}
    (hrun : (read found).run.run s = (.error m, t)) :
    statement handle found s = (found, (t.report (.mismatch m)).resume) := by
  have honward := (hh.starts hread found).keeps (hh.plain hread) onward_motion s
  have hlt := (hh.starts hread found).length_lt (hh.plain hread) (s := s) rfl
  rw [hrun] at honward hlt
  have hne : (t.report (.mismatch m)).position ≠ s.position :=
    Nat.ne_of_gt (honward.position_lt hlt)
  unfold statement
  rw [hread]
  simp only [hrun]
  rw [recover_eq_resume hne]

theorem statement_of_ok {read : α → Parse α} (hread : handle s.current.kind = some read) {a : α}
    (hrun : (read found).run.run s = (.ok a, t)) : statement handle found s = (a, t) := by
  unfold statement
  rw [hread]
  simp only [hrun]

theorem statement_of_none (hread : handle s.current.kind = none) :
    statement handle found s = (found, s.skipUnknown) := by
  unfold statement
  rw [hread]

end Loop

namespace Overlap

variable {c : Overlap} {handle : Handler α} {found : α} {s t : State}

/-- A statement that both parsers read alike, or fail to read, leads both on alike. -/
theorem Pair.statement (hh : handle.Regular) {read : α → Parse α}
    (hread : handle s.current.kind = some read) (hread' : handle t.current.kind = some read)
    (h : c.Pair Eq ((read found).run.run s) ((read found).run.run t)) :
    c.Alike (statement handle found s) (statement handle found t) ∨
      c.Lost (Parser.statement handle found s).2 := by
  rcases hs : (read found).run.run s with ⟨m | a, s'⟩ <;>
    rcases ht : (read found).run.run t with ⟨m' | b, t'⟩ <;> rw [hs, ht] at h
  · rw [statement_of_error hh hread hs, statement_of_error hh hread' ht]
    cases h with
    | failed hxy h =>
      rcases (h.report (.mismatch hxy)).resume with h | hlost
      · exact .inl ⟨rfl, h⟩
      · exact .inr hlost
    | stuck h => exact .inr (h.onward (.resume _))
  · rw [statement_of_error hh hread hs]
    cases h with
    | stuck h => exact .inr (h.onward (.resume _))
  · rw [statement_of_ok hread hs]
    cases h with
    | lost h => exact .inr h
  · rw [statement_of_ok hread hs, statement_of_ok hread' ht]
    cases h with
    | alike hab h => exact .inl ⟨hab, h⟩
    | lost h => exact .inr h

theorem Reads.statement (hh : c.Reads handle) (h : c.Beside s t) (hfacing : c.Facing s t) :
    c.Alike (statement handle found s) (statement handle found t) ∨
      c.Lost (Parser.statement handle found s).2 := by
  cases hread : handle s.current.kind with
  | none =>
    rw [statement_of_none hread, statement_of_none (hfacing.kind ▸ hread)]
    rcases h.skipUnknown hfacing with h | hlost
    · exact .inl ⟨rfl, h⟩
    · exact .inr hlost
  | some read =>
    exact Pair.statement hh.regular hread (hfacing.kind ▸ hread) ((hh.reads hread found).pair h)

end Overlap

end TwinDiagram.Parser
