import TwinDiagram.Proofs.Grammar.Legible
import TwinDiagram.Proofs.Parser.Header

namespace TwinDiagram

open Program TwinDiagram.Parser

namespace Grammar

variable {ws us : List Word} {ts : List Token}

theorem show_append (ws : List Word) :
    Show (ws ++ us) ts ↔ Show ws ts ∧ Show us (ts.drop ws.length) := by
  induction ws generalizing ts with
  | nil => simp [Show]
  | cons w ws ih =>
    cases ts with
    | nil => simp [Show]
    | cons t ts => simp [Show, ih, and_assoc]

theorem length_le_of_show (h : Show ws ts) : ws.length ≤ ts.length := by
  induction ws generalizing ts with
  | nil => exact Nat.zero_le _
  | cons w ws ih =>
    cases ts with
    | nil => cases h
    | cons t ts => exact Nat.succ_le_succ (ih h.2)

theorem Show.current {w : Word} {s : State} (h : Show (w :: ws) s.rest) : w.Shown s.current := by
  cases hrest : s.rest with
  | nil => rw [hrest] at h; cases h
  | cons t ts =>
    rw [hrest] at h
    rw [State.current_of_rest hrest]
    exact h.1

/-- From in front of the words the program passes them all and returns `a`, provided that `ahead`
holds of what comes next. -/
def Reads {α : Type} (p : Parse α) (ws : List Word) (a : α) (ahead : TokenKind → Prop) : Prop :=
  ∀ s : State, Show ws s.rest → s.comments = [] → ahead (s.forward ws.length).current.kind →
    p.run.run s = (.ok a, s.forward ws.length)

/-- The words start with a keyword or mark of which `ahead` holds. -/
def Leads (ws : List Word) (ahead : TokenKind → Prop) : Prop :=
  ∃ k us, ws = .fixed k :: us ∧ ahead k

namespace Reads

variable {α β : Type} {p : Parse α} {f : α → Parse β} {a : α} {b : β} {k : TokenKind}
  {ahead later : TokenKind → Prop}

theorem run_forward (h : Reads p us a ahead) (ws : List Word) {s : State}
    (hshow : Show (ws ++ us) s.rest) (hcomments : s.comments = [])
    (hahead : ahead (s.forward (ws ++ us).length).current.kind) :
    p.run.run (s.forward ws.length) = (.ok a, s.forward (ws ++ us).length) := by
  rw [List.length_append, State.forward_add] at hahead ⊢
  exact h _ ((show_append ws).mp hshow).2 hcomments hahead

theorem pure (a : α) : Reads (pure a) [] a ahead := fun s _ _ _ ↦ by cases s; rfl

theorem bind (hp : Reads p ws a ahead) (hf : Reads (f a) us b later) (hus : Leads us ahead) :
    Reads (p >>= f) (ws ++ us) b later := by
  intro s hshow hcomments hlater
  obtain ⟨hws, hnext⟩ := (show_append ws).mp hshow
  obtain ⟨k, us, rfl, hk⟩ := hus
  have hkind : (s.forward ws.length).current.kind = k :=
    Show.current (w := .fixed k) (s := s.forward ws.length) hnext
  rw [run_bind, hp s hws hcomments (hkind ▸ hk)]
  exact hf.run_forward ws hshow hcomments hlater

theorem last (hp : Reads p ws a ahead) (hf : f a = Pure.pure b) : Reads (p >>= f) ws b ahead := by
  intro s hshow hcomments hahead
  rw [run_bind, hp s hshow hcomments hahead]
  simp only [hf]
  rfl

theorem expect {f : Token → Parse β} (hk : k ≠ .endOfInput) (hf : ∀ t, Reads (f t) us b later) :
    Reads (Parser.expect k >>= f) (.fixed k :: us) b later := by
  intro s hshow hcomments hlater
  rw [run_bind, run_expect_ok hk (Show.current hshow)]
  exact (hf s.current).run_forward [.fixed k] hshow hcomments hlater

theorem name {n : String} {f : String → Parse β} (hf : Reads (f n) us b later) :
    Reads (expectName >>= f) (.name n :: us) b later := by
  intro s hshow hcomments hlater
  obtain ⟨hkind, hvalue⟩ := Show.current hshow
  rw [run_bind, run_expectName_ok hkind, hvalue]
  exact hf.run_forward [.name n] hshow hcomments hlater

theorem get {f : State → Parse β} (hf : ∀ s, Show us s.rest → Reads (f s) us b later) :
    Reads (MonadState.get >>= f) us b later :=
  fun s hshow hcomments hlater ↦ hf s hshow s hshow hcomments hlater

theorem current {f : Token → Parse β} (hf : ∀ t, Reads (f t) us b later) :
    Reads (Parser.current >>= f) us b later :=
  fun s hshow hcomments hlater ↦ hf s.current s hshow hcomments hlater

end Reads

theorem reads_port (p : String) {ahead : TokenKind → Prop} :
    Reads Parser.port (port p) p ahead :=
  .expect (by decide) fun _ ↦ .name (.expect (by decide) fun _ ↦ .pure p)

theorem reads_referenceTail {ns : List String} {n : Nat} (h : ns.length ≤ n) :
    Reads (referenceTail n) (ns.flatMap fun m ↦ [.fixed .dot, .name m]) ns (· ≠ .dot) := by
  induction ns generalizing n with
  | nil =>
    cases n with
    | zero => exact .pure []
    | succ n =>
      intro s _ _ hahead
      rw [List.flatMap_nil, List.length_nil, State.forward_zero] at hahead ⊢
      rw [run_referenceTail_succ, if_neg hahead]
  | cons m ns ih =>
    obtain ⟨n, rfl⟩ : ∃ k, n = k + 1 := ⟨n - 1, by simp at h; omega⟩
    intro s hshow hcomments hahead
    have hdot : s.current.kind = .dot := Show.current hshow
    have htail : Reads (do return (← expectName) :: (← referenceTail n))
        (.name m :: ns.flatMap fun m ↦ [.fixed .dot, .name m]) (m :: ns) (· ≠ .dot) :=
      .name ((ih (Nat.le_of_succ_le_succ h)).last rfl)
    rw [run_referenceTail_succ, if_pos hdot, State.advance_of_kind hdot (by decide)]
    exact htail.run_forward [.fixed .dot] hshow hcomments hahead

theorem length_le_tail (ns : List String) :
    ns.length ≤ (ns.flatMap fun m ↦ [Word.fixed .dot, .name m]).length := by
  induction ns with
  | nil => exact Nat.le_refl 0
  | cons n ns ih =>
    simp only [List.flatMap_cons, List.length_append, List.length_cons, List.length_nil]
    omega

theorem intercalate_names (r : String) : ".".intercalate (names r) = r := by
  have hpieces : (names r).map String.toList = r.toList.splitOn '.' := by
    simp [names, Function.comp_def]
  rw [← String.toList_inj, String.toList_intercalate, hpieces]
  exact List.intercalate_splitOn '.'

theorem names_ne_nil (r : String) : names r ≠ [] := by
  simp [names, List.splitOn_ne_nil]

theorem reads_reference (r : String) : Reads Parser.reference (reference r) r (· ≠ .dot) := by
  have hjoin := intercalate_names r
  unfold reference dotted
  cases hnames : names r with
  | nil => exact absurd hnames (names_ne_nil r)
  | cons n ns =>
    rw [hnames] at hjoin
    have htail : ∀ s : State, Show (ns.flatMap fun m ↦ [Word.fixed .dot, .name m]) s.rest →
        Reads (referenceTail s.rest.length >>= fun rest ↦ pure (".".intercalate (n :: rest)))
          (ns.flatMap fun m ↦ [.fixed .dot, .name m]) r (· ≠ .dot) := by
      intro s hshow
      have hlength := Nat.le_trans (length_le_tail ns) (length_le_of_show hshow)
      exact (reads_referenceTail hlength).last (congrArg _ hjoin)
    exact .name (.get htail)

theorem reads_inlineName (name : Option String) :
    Reads Parser.inlineName (inlineName name) name (· ≠ .name) := by
  intro s hshow hcomments hahead
  rw [run_inlineName]
  cases name with
  | none =>
    rw [inlineName, List.length_nil, State.forward_zero] at hahead ⊢
    rw [if_neg hahead]
  | some n =>
    have hname : s.current.kind = .name := Show.current hshow
    have hread : Reads (expectName >>= fun n ↦ Pure.pure (some n)) [.name n] (some n) (· ≠ .name) :=
      .name (.pure (some n))
    rw [if_pos hname, State.advance_of_kind hname (by decide), map_eq_pure_bind]
    exact hread.run_forward [.fixed .name] hshow hcomments hahead

theorem reads_connectionEnd (source target : String) (name : Option String)
    {ahead : TokenKind → Prop} :
    Reads (connectionEnd source target name) [.fixed .semicolon] ⟨source, target, name⟩ ahead := by
  intro s hshow hcomments _
  have hkind : s.current.kind = .semicolon := Show.current hshow
  have hadvance : s.advance = s.forward 1 := State.advance_of_kind hkind (by decide)
  have hnone : trailingName s.advance.comments s.current s.advance.current = none := by
    rw [hadvance]
    show trailingName s.comments _ _ = none
    rw [hcomments]
    rfl
  rw [run_connectionEnd, if_pos hkind, hnone, hadvance]
  cases name <;> rfl

theorem leads_inlineName (name : Option String) {ahead : TokenKind → Prop} (hname : ahead .name)
    (hsemicolon : ahead .semicolon) :
    Leads (inlineName name ++ [.fixed .semicolon]) ahead := by
  cases name with
  | none => exact ⟨.semicolon, [], rfl, hsemicolon⟩
  | some n => exact ⟨.name, _, rfl, hname⟩

theorem reads_connection (c : Connection) {ahead : TokenKind → Prop} :
    Reads Parser.connection (connection c) c ahead := by
  have hend : Reads (Parser.inlineName >>= connectionEnd c.source c.target)
      (inlineName c.name ++ [.fixed .semicolon]) c ahead :=
    (reads_inlineName c.name).bind (reads_connectionEnd c.source c.target c.name)
      ⟨.semicolon, [], rfl, by decide⟩
  have htarget := (reads_reference c.target).bind (f := fun target ↦
    Parser.inlineName >>= connectionEnd c.source target) hend
    (leads_inlineName c.name (by decide) (by decide))
  refine .expect (by decide) fun _ ↦ (reads_reference c.source).bind ?_
    ⟨.towards, _, rfl, by decide⟩
  exact .expect (by decide) fun _ ↦ htarget

theorem reads_allocation (a : Allocation) {ahead : TokenKind → Prop} :
    Reads Parser.allocation (allocation a) a ahead := by
  refine .expect (by decide) fun _ ↦ .name (.expect (by decide) fun _ ↦ ?_)
  refine (reads_reference a.target).bind ?_ ⟨.semicolon, [], rfl, by decide⟩
  exact .expect (by decide) fun _ ↦ .pure a

end Grammar

end TwinDiagram
