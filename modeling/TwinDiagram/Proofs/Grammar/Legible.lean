import TwinDiagram.Proofs.Grammar.Model

namespace TwinDiagram.Grammar

open TwinDiagram.Parser

namespace Statements

variable {α : Type} {one : α → List Word → α → Prop} {a c : α} {ws : List Word}

theorem with_property {P : α → Prop} (h : Statements one a ws c) (hc : P c)
    (hback : ∀ {a ws b}, one a ws b → P b → P a) :
    P a ∧ Statements (fun a ws b ↦ one a ws b ∧ P b) a ws c := by
  induction h with
  | done a => exact ⟨hc, .done a⟩
  | next hone _ ih =>
    obtain ⟨hb, hrest⟩ := ih hc
    exact ⟨hback hone hb, .next ⟨hone, hb⟩ hrest⟩

theorem legible (h : Statements one a ws c) (hone : ∀ {a ws b}, one a ws b → Legible ws) :
    Legible ws := by
  induction h with
  | done => exact .nil
  | next h _ ih => exact (hone h).append ih

end Statements

theorem legible_braced {body : List Word} (h : Legible body) : Legible (braced body) :=
  .fixed (by decide) (h.append (.fixed (by decide) .nil))

theorem legible_ports {ps : List String} (h : ∀ p ∈ ps, IsIdentifier p) :
    Legible (ps.flatMap port) := by
  induction ps with
  | nil => exact .nil
  | cons p ps ih =>
    obtain ⟨hp, hps⟩ := List.forall_mem_cons.mp h
    exact .fixed (by decide) (.name hp (.fixed (by decide) (ih hps)))

theorem legible_twin {k : TokenKind} {t : Twin} (hk : k ∈ TokenKind.keywords ++ marks)
    (ht : t.Writable) : Legible (twin k t) :=
  .fixed hk (.name ht.name (legible_braced (legible_ports ht.ports)))

theorem legible_dotted {ns : List String} (h : ∀ n ∈ ns, IsIdentifier n) : Legible (dotted ns) := by
  cases ns with
  | nil => exact .nil
  | cons n ns =>
    obtain ⟨hn, hns⟩ := List.forall_mem_cons.mp h
    refine .name hn ?_
    clear h
    induction ns with
    | nil => exact .nil
    | cons m ns ih =>
      obtain ⟨hm, hns⟩ := List.forall_mem_cons.mp hns
      exact .fixed (by decide) (.name hm (ih hns))

theorem legible_reference {r : String} (h : IsReference r) : Legible (reference r) :=
  legible_dotted h

theorem legible_inlineName {name : Option String} (h : ∀ n ∈ name, IsIdentifier n) :
    Legible (inlineName name) := by
  cases name with
  | none => exact .nil
  | some n => exact .fixed (by decide) (.name (h n rfl) .nil)

theorem legible_connection {c : Connection} (hc : c.Writable) : Legible (connection c) := by
  have hend : Legible [.fixed .semicolon] := .fixed (by decide) .nil
  have htarget := (legible_reference hc.target).append ((legible_inlineName hc.name).append hend)
  exact .fixed (by decide) ((legible_reference hc.source).append (.fixed (by decide) htarget))

theorem legible_systemStatement {s t : System} {ws : List Word} (h : SystemStatement s ws t)
    (ht : t.Writable) : Legible ws := by
  cases h with
  | twin u => exact legible_twin (by decide) (ht.digitalTwins u (List.mem_append_right _ (.head _)))
  | part u => exact legible_twin (by decide) (ht.parts u (List.mem_append_right _ (.head _)))
  | connection c => exact legible_connection (ht.connections c (List.mem_append_right _ (.head _)))

theorem SystemStatement.writable {s t : System} {ws : List Word} (h : SystemStatement s ws t)
    (ht : t.Writable) : s.Writable := by
  cases h with
  | twin =>
    exact { ht with digitalTwins := fun u hu ↦ ht.digitalTwins u (List.mem_append_left _ hu) }
  | part => exact { ht with parts := fun u hu ↦ ht.parts u (List.mem_append_left _ hu) }
  | connection =>
    exact { ht with connections := fun c hc ↦ ht.connections c (List.mem_append_left _ hc) }

theorem legible_system {s : System} {ws : List Word} (h : WritesSystem s ws) (hs : s.Writable) :
    Legible ws := by
  obtain ⟨hbody⟩ := h
  obtain ⟨-, hbody⟩ := hbody.with_property hs SystemStatement.writable
  exact .fixed (by decide) (.name hs.name (legible_braced
    (hbody.legible fun h ↦ legible_systemStatement h.1 h.2)))

theorem legible_goal {g : Goal} {ws : List Word} (h : WritesGoal g ws) (hg : g.Writable) :
    Legible ws := by
  cases h with
  | doc n d =>
    exact .fixed (by decide) (.name hg.name (legible_braced (.doc (hg.doc d rfl) .nil)))
  | bare n => exact .fixed (by decide) (.name hg.name .nil)
  | closed n => exact .fixed (by decide) (.name hg.name (.fixed (by decide) .nil))

theorem legible_allocation {a : Allocation} (ha : a.Writable) : Legible (allocation a) := by
  have hend : Legible [.fixed .semicolon] := .fixed (by decide) .nil
  exact .fixed (by decide) (.name ha.goal (.fixed (by decide)
    ((legible_reference ha.target).append hend)))

theorem legible_declaration {d e : Declarations} {ws : List Word} (h : Declaration d ws e)
    (he : e.Writable) : Legible ws := by
  cases h with
  | @system s _ hs => exact legible_system hs (he.systems s (List.mem_append_right _ (.head _)))
  | @goal g _ hg => exact legible_goal hg (he.goals g (List.mem_append_right _ (.head _)))
  | allocation a =>
    exact legible_allocation (he.allocations a (List.mem_append_right _ (.head _)))

theorem Declaration.writable {d e : Declarations} {ws : List Word} (h : Declaration d ws e)
    (he : e.Writable) : d.Writable := by
  cases h with
  | system => exact { he with systems := fun s hs ↦ he.systems s (List.mem_append_left _ hs) }
  | goal => exact { he with goals := fun g hg ↦ he.goals g (List.mem_append_left _ hg) }
  | allocation =>
    exact { he with allocations := fun a ha ↦ he.allocations a (List.mem_append_left _ ha) }

theorem legible_declarations {d e : Declarations} {ws : List Word}
    (h : Statements Declaration d ws e) (he : e.Writable) : Legible ws := by
  obtain ⟨-, h⟩ := h.with_property he Declaration.writable
  exact h.legible fun h ↦ legible_declaration h.1 h.2

theorem legible_slice {k : TokenKind} {s : Slice} {ws : List Word}
    (hk : k ∈ TokenKind.keywords ++ marks) (h : WritesSlice k s ws) (hs : s.Writable) :
    Legible ws := by
  obtain ⟨hbody⟩ := h
  exact .fixed hk (legible_braced (legible_declarations hbody hs.declarations))

theorem Section.writable {t u : Transform} {ws : List Word} (h : Section t ws u)
    (hu : u.SlicesWritable) : t.SlicesWritable := by
  cases h with
  | before hnone => exact { hu with before := fun s hs ↦ by rw [hnone] at hs; cases hs }
  | core hnone => exact { hu with core := fun s hs ↦ by rw [hnone] at hs; cases hs }
  | after hnone => exact { hu with after := fun s hs ↦ by rw [hnone] at hs; cases hs }

theorem legible_section {t u : Transform} {ws : List Word} (h : Section t ws u)
    (hu : u.SlicesWritable) : Legible ws := by
  cases h with
  | before _ hs => exact legible_slice (by decide) hs (hu.before _ rfl)
  | core _ hs => exact legible_slice (by decide) hs (hu.core _ rfl)
  | after _ hs => exact legible_slice (by decide) hs (hu.after _ rfl)

theorem legible_rootStatement {m n : Model} {ws : List Word} (h : RootStatement m ws n)
    (hn : n.Writable) : Legible ws := by
  cases h with
  | declaration h => exact legible_declaration h hn.declarations
  | transform _ hbody =>
    obtain ⟨-, hbody⟩ := hbody.with_property (hn.transform _ rfl).toSlicesWritable Section.writable
    exact .fixed (by decide) (legible_braced (hbody.legible fun h ↦ legible_section h.1 h.2))

theorem RootStatement.writable {m n : Model} {ws : List Word} (h : RootStatement m ws n)
    (hn : n.Writable) : m.Writable := by
  cases h with
  | declaration h => exact { hn with declarations := h.writable hn.declarations }
  | transform hnone =>
    exact ⟨hn.name, hn.declarations, fun t ht ↦ by rw [hnone] at ht; cases ht⟩

theorem legible_model {m : Model} {ws : List Word} (h : WritesModel m ws) (hm : m.Writable) :
    Legible ws := by
  obtain ⟨hbody⟩ := h
  obtain ⟨-, hbody⟩ := hbody.with_property hm RootStatement.writable
  exact .fixed (by decide) (.name hm.name (legible_braced
    (hbody.legible fun h ↦ legible_rootStatement h.1 h.2)))

end TwinDiagram.Grammar
