import TwinDiagram.Parser.Document
import TwinDiagram.Proofs.Program

namespace TwinDiagram.Parser

open Program

variable {α : Type}

theorem run_current (s : State) : current.run.run s = (.ok s.current, s) := rfl

theorem run_isAt (k : TokenKind) (s : State) :
    (isAt k).run.run s = (.ok (s.current.kind == k), s) := rfl

theorem run_accept (k : TokenKind) (s : State) : (accept k).run.run s =
    if s.current.kind = k then (.ok (some s.current), s.advance) else (.ok none, s) := by
  rw [accept, run_bind, run_isAt]
  by_cases h : s.current.kind = k
  · simp only [h, beq_self_eq_true]
    rfl
  · simp only [beq_eq_false_iff_ne.mpr h, h]
    rfl

theorem run_expect (k : TokenKind) (s : State) : (expect k).run.run s =
    if s.current.kind = k then (.ok s.current, s.advance)
    else (.error ⟨.kind k, s.current⟩, s) := by
  rw [expect, run_bind, run_current]
  by_cases h : s.current.kind = k <;> simp only [h] <;> rfl

theorem run_expectName (s : State) : expectName.run.run s =
    if s.current.kind.isName then (.ok s.current.value, s.advance)
    else (.error ⟨.name, s.current⟩, s) := by
  rw [expectName, run_bind, run_current]
  by_cases h : s.current.kind.isName <;> simp only [h] <;> rfl

theorem run_inlineName (s : State) : inlineName.run.run s =
    if s.current.kind = .name then (some <$> expectName).run.run s.advance else (.ok none, s) := by
  rw [inlineName, run_bind, run_accept]
  by_cases h : s.current.kind = .name <;> simp only [h] <;> rfl

theorem run_referenceTail_succ (n : Nat) (s : State) : (referenceTail (n + 1)).run.run s =
    if s.current.kind = .dot then
      (do return (← expectName) :: (← referenceTail n) : Parse (List String)).run.run s.advance
    else (.ok [], s) := by
  rw [referenceTail, run_bind, run_accept]
  by_cases h : s.current.kind = .dot <;> simp only [h] <;> rfl

theorem run_connectionEnd (source target : String) (name : Option String) (s : State) :
    (connectionEnd source target name).run.run s =
    if s.current.kind = .semicolon then
      (.ok ⟨source, target,
        name <|> trailingName s.advance.comments s.current s.advance.current⟩, s.advance)
    else (.error ⟨.kind .semicolon, s.current⟩, s) := by
  rw [connectionEnd, run_bind, run_expect]
  by_cases h : s.current.kind = .semicolon <;> simp only [h] <;> rfl

theorem run_statements (handle : Handler α) (found : α) (s : State) :
    (statements handle found).run.run s =
      (.ok (runStatements handle found s).1, (runStatements handle found s).2) := rfl

def State.close (owner : String) (opened : Token) (s : State) : State :=
  if s.current.kind = .closeBrace then s.advance else s.report (.neverClosed owner opened)

theorem run_closeBlock (owner : String) (opened : Token) (s : State) :
    (closeBlock owner opened).run.run s = (.ok (), s.close owner opened) := by
  rw [closeBlock, run_bind, run_accept, State.close]
  by_cases h : s.current.kind = .closeBrace <;> simp only [h] <;> rfl

theorem run_block (owner : String) (handle : Handler α) (found : α) (s : State) :
    (block owner handle found).run.run s =
      if s.current.kind = .openBrace then
        let t := runStatements handle found s.advance
        (.ok t.1, t.2.close owner s.current)
      else (.error ⟨.kind .openBrace, s.current⟩, s) := by
  rw [block, run_bind, run_expect]
  by_cases h : s.current.kind = .openBrace
  · simp only [h, if_true]
    rw [run_bind, run_statements]
    simp only
    rw [run_bind, run_closeBlock]
    rfl
  · simp only [h, if_false]

/-- The documentation at the start of the tokens. -/
def docAhead : List Token → Option String
  | ⟨.doc, _, _⟩ :: ⟨.blockComment, value, _⟩ :: _ => some value
  | _ => none

theorem docAhead_cons_cons (x y : Token) (xs ys : List Token) :
    docAhead (x :: y :: xs) = docAhead (x :: y :: ys) := by
  obtain ⟨k, _, _⟩ := x
  obtain ⟨l, _, _⟩ := y
  cases k <;> cases l <;> rfl

theorem docAhead_singleton (x : Token) : docAhead [x] = none := by
  obtain ⟨k, _, _⟩ := x
  cases k <;> rfl

theorem kind_of_docAhead {s : State} {value : String} (h : docAhead s.rest = some value) :
    (s.forward 1).current.kind = .blockComment := by
  unfold docAhead at h
  split at h
  · next hrest => simp [State.current, State.forward, hrest]
  · cases h

theorem goalStep_eq (doc : Option String) (s : State) : goalStep doc s =
    if s.current.kind = .openBrace then (doc, s.skipBlock)
    else match docAhead s.rest with
      | some value => (doc <|> normalizeDoc value, s.forward 2)
      | none => (doc, s.forward 1) := by
  unfold goalStep
  split
  · rfl
  · split
    · next hr => rw [hr, docAhead]
    · next hno =>
      have hnone : docAhead s.rest = none := by
        unfold docAhead
        split
        · next hr => exact absurd hr (hno _ _ _ _ _)
        · rfl
      rw [hnone]

theorem run_goalBlock (name : String) (s : State) :
    (goalBlock name).run.run s =
      if s.current.kind = .openBrace then
        let t := goalBody none s.advance
        (.ok t.1, t.2.close s!"#goal {name}" s.current)
      else (.error ⟨.kind .openBrace, s.current⟩, s) := by
  rw [goalBlock, run_bind, run_expect]
  by_cases h : s.current.kind = .openBrace
  · simp only [h, if_true]
    rw [run_bind, run_modifyGet]
    simp only
    rw [run_bind, run_closeBlock]
    rfl
  · simp only [h, if_false]

theorem run_goalRest (name : String) (s : State) : (goalRest name).run.run s =
    if s.current.kind = .openBrace then (Goal.mk name <$> goalBlock name).run.run s
    else (.ok ⟨name, none⟩, if s.current.kind = .semicolon then s.advance else s) := by
  rw [goalRest, run_bind, run_isAt]
  by_cases h : s.current.kind = .openBrace
  · simp only [h, beq_self_eq_true, if_true, map_eq_pure_bind]
  · simp only [h, beq_eq_false_iff_ne.mpr h, Bool.false_eq_true, if_false]
    rw [run_bind, run_accept]
    by_cases h' : s.current.kind = .semicolon <;> simp only [h'] <;> rfl

end TwinDiagram.Parser
