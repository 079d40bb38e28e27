import TwinDiagram.Graph.Basic
import TwinDiagram.Proofs.Graph.Symbols

namespace TwinDiagram.Graph

open Program

/-- One addition to the symbols. -/
inductive Entry where
  | port (system owner port id : String)
  | twin (system twin id : String)
  | goal (goal id : String)
deriving DecidableEq, Repr

structure Declared where
  system : String
  names : List String
  id : String
deriving DecidableEq, Repr

namespace Entry

def add : Entry → Symbols.Adding Unit
  | port system owner name id => Symbols.addPort system owner name id
  | twin system name id => Symbols.addTwin system name id
  | goal name id => modify fun s ↦ s.addGoal name id

def kind : Entry → NodeKind
  | port _ _ _ _ => .port
  | twin _ _ _ => .digitalTwin
  | goal _ _ => .goal

def id : Entry → String
  | port _ _ _ id => id
  | twin _ _ id => id
  | goal _ id => id

def port? : Entry → Option Declared
  | port system owner name id => some ⟨system, [owner, name], id⟩
  | _ => none

def twin? : Entry → Option Declared
  | twin system name id => some ⟨system, [name], id⟩
  | _ => none

end Entry

/-- The symbols once all entries were added, one after the other. -/
def Symbols.ofEntries (es : List Entry) : Except AliasClash Unit × Symbols :=
  (es.forM Entry.add).run.run .empty

namespace Symbols

variable {es : List Entry} {e : Entry} {s t : Symbols} {P : String → Prop}
  {system reference name id : String}

theorem ofEntries_concat (h : ofEntries es = (.ok (), s)) (he : e.add.run.run s = (.ok (), t)) :
    ofEntries (es ++ [e]) = (.ok (), t) := by
  show (forM (es ++ [e]) Entry.add).run.run empty = _
  rw [List.forM_append, run_bind]
  simp only [List.forM_eq_forM, ofEntries] at h ⊢
  rw [h]
  show (e.add >>= fun _ ↦ pure ()).run.run s = _
  rw [run_bind, he]
  rfl

theorem forM_induction {I : List Entry → Symbols → Prop} {before : List Entry}
    (hadd : ∀ {es s e t}, I es s → e.add.run.run s = (.ok (), t) → I (es ++ [e]) t)
    (hbefore : I before s) (h : (es.forM Entry.add).run.run s = (.ok (), t)) :
    I (before ++ es) t := by
  induction es generalizing before s with
  | nil =>
    cases h
    rwa [List.append_nil]
  | cons e es ih =>
    obtain ⟨⟨⟩, u, he, hes⟩ := bind_ok h
    rw [List.append_cons]
    exact ih (hadd hbefore he) hes

theorem ofEntries_induction {I : List Entry → Symbols → Prop} (hempty : I [] empty)
    (hadd : ∀ {es s e t}, I es s → e.add.run.run s = (.ok (), t) → I (es ++ [e]) t)
    (h : ofEntries es = (.ok (), s)) : I es s := forM_induction hadd hempty h

structure Added (es : List Entry) (s : Symbols) : Prop where
  ports : s.ports.Points fun id ↦ ∃ e ∈ es, e.kind = .port ∧ e.id = id
  twins : s.twins.Points fun id ↦ ∃ e ∈ es, e.kind = .digitalTwin ∧ e.id = id
  goals : ∀ {goal id}, s.goals.get? goal = some id → ∃ e ∈ es, e.kind = .goal ∧ e.id = id

theorem Added.mono (h : s.Added es) (e : Entry) : s.Added (es ++ [e]) where
  ports := h.ports.mono fun ⟨e', he', h⟩ ↦ ⟨e', List.mem_append_left _ he', h⟩
  twins := h.twins.mono fun ⟨e', he', h⟩ ↦ ⟨e', List.mem_append_left _ he', h⟩
  goals hk :=
    have ⟨e', he', h⟩ := h.goals hk
    ⟨e', List.mem_append_left _ he', h⟩

theorem ofEntries_added (h : ofEntries es = (.ok (), s)) : s.Added es := by
  refine ofEntries_induction ⟨Aliases.points_empty, Aliases.points_empty, fun h ↦ by cases h⟩ ?_ h
  intro es s e t hs he
  have hold := hs.mono e
  have hnew {k : NodeKind} (hk : e.kind = k) : ∃ e' ∈ es ++ [e], e'.kind = k ∧ e'.id = e.id :=
    ⟨e, by simp, hk, rfl⟩
  cases e with
  | port system owner port id =>
    rw [Entry.add, run_addPort] at he
    split at he <;> cases he
    next ports hports =>
    exact { hold with
      ports := (hold.ports.addQualified (hnew rfl)).addUnqualified (hnew rfl) hports }
  | twin system twin id =>
    rw [Entry.add, run_addTwin] at he
    split at he <;> cases he
    next twins htwins =>
    exact { hold with
      twins := (hold.twins.addQualified (hnew rfl)).addUnqualified (hnew rfl) htwins }
  | goal goal id =>
    cases he
    refine { hold with goals := fun {k i} hk ↦ ?_ }
    have hk : (s.goals.insertNew goal id).get? k = some i := hk
    rw [Table.get?_insertNew, Option.or_eq_some_iff] at hk
    rcases hk with hk | ⟨-, hk⟩
    · exact hold.goals hk
    · split at hk <;> cases hk
      exact hnew rfl

end Symbols

end TwinDiagram.Graph
