import Mathlib.Logic.Relation
import TwinDiagram.Proofs.Parser.Together

namespace TwinDiagram.Parser

open Program State Relation

/-- The blocks that hold statements. Ports are those of a twin or of a part. -/
inductive Layer where
  | root
  | transform
  | slice
  | system
  | ports
deriving DecidableEq, Repr

namespace Layer

/-- What is read from the statements. -/
def Found : Layer → Type
  | root => Outline
  | transform => Transform
  | slice => Declarations
  | system => System
  | ports => List String

def handle : (l : Layer) → Handler l.Found
  | root => rootHandler
  | transform => transformHandler
  | slice => declarationHandler
  | system => systemHandler
  | ports => portHandler

def start (name : String) : (l : Layer) → l.Found
  | root => ⟨.empty, none⟩
  | transform => .empty
  | slice => .empty
  | system => ⟨name, [], [], []⟩
  | ports => []

def inner? : Layer → TokenKind → Option Layer
  | root, .transform => some transform
  | root, .system | slice, .system => some system
  | transform, .before | transform, .core | transform, .after => some slice
  | system, .twin | system, .part => some ports
  | _, _ => none

def header (k : TokenKind) : Layer → Parse (Token × String)
  | transform | slice => do return (← expect k, "")
  | root | system | ports => do
    let keyword ← expect k
    return (keyword, ← expectName)

end Layer

/-- Between two statements of a block. -/
structure Place where
  layer : Layer
  found : layer.Found
  state : State

namespace Place

def finish (p : Place) : p.layer.Found × State := runStatements p.layer.handle p.found p.state

/-- From a place the parser goes on to the next statement, or into the block of this one. -/
inductive Step : Place → Place → Prop
  | next {l : Layer} {found : l.Found} {s : State} (hs : s.current.kind.closesBlock = false) :
    Step ⟨l, found, s⟩ ⟨l, (statement l.handle found s).1, (statement l.handle found s).2⟩
  | enter {l l' : Layer} {found : l.Found} {s u : State} {x : Token × String}
      (hl : l.inner? s.current.kind = some l')
      (hheader : (l'.header s.current.kind).run.run s = (.ok x, u))
      (hbrace : u.current.kind = .openBrace) :
    Step ⟨l, found, s⟩ ⟨l', l'.start x.2, u.advance⟩

/-- The parser comes to this place when it reads the text. -/
def Of (text : String) (p : Place) : Prop :=
  ∃ s, (State.ofTokens (tokenize text)).header? = some s ∧
    ReflTransGen Step ⟨.root, Layer.start "" .root, s.forward 3⟩ p

end Place

variable {α : Type}

structure Layer.Encloses (l : Layer) (k : TokenKind) (l' : Layer) where
  read : l.Found → Parse l.Found
  owner : String → String
  rest : l.Found → Token × String → l'.Found → Parse l.Found
  handle_eq : l.handle k = some read
  read_eq : ∀ found, read found = l'.header k >>= fun x ↦
    Parser.block (owner x.2) l'.handle (l'.start x.2) >>= rest found x
  rest_lockstep : ∀ (c : Overlap) found {x y : Token × String} (b : l'.Found), c.same x.1 y.1 →
    x.2 = y.2 → c.Lockstep Eq (rest found x b) (rest found y b)

namespace Layer

variable {l l' : Layer}

theorem encloses_system (add : l.Found → System → l.Found)
    (h : l.handle .system = some fun found ↦ do return add found (← Parser.system)) :
    Nonempty (l.Encloses .system system) :=
  ⟨{ read := _
     owner := fun name ↦ s!"#twinsystem {name}"
     rest := fun found _ s ↦ pure (add found s)
     handle_eq := h
     read_eq := fun found ↦ by
       simp only [Parser.system, header, bind_assoc, pure_bind]
       rfl
     rest_lockstep := fun _ _ _ _ _ _ _ ↦ .pure rfl }⟩

theorem encloses_ports {k : TokenKind} (add : System → Twin → System)
    (h : system.handle k = some fun found ↦ do return add found (← twin k)) :
    Nonempty (system.Encloses k ports) :=
  ⟨{ read := _
     owner := fun name ↦ s!"{k.label} {name}"
     rest := fun found x b ↦ pure (add found ⟨x.2, b⟩)
     handle_eq := h
     read_eq := fun found ↦ by
       simp only [twin, header, bind_assoc, pure_bind]
       rfl
     rest_lockstep := fun c found x y b _ hname ↦ hname ▸ .pure rfl }⟩

theorem encloses_slice {k : TokenKind} (earlier : Transform → Option Slice)
    (set : Transform → Slice → Transform)
    (h : transform.handle k = some fun t ↦ do
      match ← Parser.slice k (earlier t) with
      | none => return t
      | some s => return set t s) : Nonempty (transform.Encloses k slice) :=
  ⟨{ read := _
     owner := fun _ ↦ k.label
     rest := fun t x b ↦ do
       if (earlier t).isSome then
         report (.repeatedSection x.1 k)
         return t
       return set t (Declarations.toSlice b)
     handle_eq := h
     read_eq := fun t ↦ by
       simp only [Parser.slice, header, bind_assoc, pure_bind]
       refine congrArg _ (funext fun x ↦ congrArg _ (funext fun b ↦ ?_))
       by_cases h : (earlier t).isSome <;> simp only [h] <;> rfl
     rest_lockstep := fun c t x y b hxy _ ↦ by
       by_cases h : (earlier t).isSome <;> simp only [h]
       · exact (Overlap.Lockstep.report rfl (.repeatedSection hxy)).after (.pure rfl)
       · exact .pure rfl }⟩

theorem encloses_transform : Nonempty (root.Encloses .transform transform) :=
  ⟨{ read := rootTransform
     owner := fun _ ↦ TokenKind.transform.label
     rest := fun o x b ↦ do
       if o.transform.isSome then
         report (.repeatedSection x.1 .transform)
         return o
       return { o with transform := some (if b.slices.isEmpty then none else some b) }
     handle_eq := rfl
     read_eq := fun o ↦ by
       unfold rootTransform Parser.transform
       simp only [bind_assoc, pure_bind, header]
       exact current_bind_expect _ _
     rest_lockstep := fun c o x y b hxy _ ↦ by
       by_cases h : o.transform.isSome <;> simp only [h]
       · exact (Overlap.Lockstep.report rfl (.repeatedSection hxy)).after (.pure rfl)
       · exact .pure rfl }⟩

theorem encloses {k : TokenKind} (h : l.inner? k = some l') : Nonempty (l.Encloses k l') := by
  unfold inner? at h
  split at h <;> cases h
  · exact encloses_transform
  · refine encloses_system (l := root) (fun o s ↦ { o with declarations :=
      { o.declarations with systems := o.declarations.systems ++ [s] } })
      (congrArg some (funext fun o ↦ ?_))
    simp only [bind_assoc, pure_bind]
    rfl
  · exact encloses_system (l := slice) (fun d s ↦ { d with systems := d.systems ++ [s] }) rfl
  · exact encloses_slice Transform.before (fun t s ↦ { t with before := some s }) rfl
  · exact encloses_slice Transform.core (fun t s ↦ { t with core := some s }) rfl
  · exact encloses_slice Transform.after (fun t s ↦ { t with after := some s }) rfl
  · exact encloses_ports (fun s t ↦ { s with digitalTwins := s.digitalTwins ++ [t] }) rfl
  · exact encloses_ports (fun s t ↦ { s with parts := s.parts ++ [t] }) rfl

theorem regular (l : Layer) : l.handle.Regular := by
  cases l with
  | root => exact rootHandler_regular
  | transform => exact transformHandler_regular
  | slice => exact declarationHandler_regular
  | system => exact systemHandler_regular
  | ports => exact portHandler_regular

theorem header_starts (l : Layer) (k : TokenKind) : StartsWith k (l.header k) := by
  cases l with
  | root | system | ports =>
    exact ⟨_, rfl, fun hR _ ↦ hR.bind hR.expectName fun _ ↦ hR.ret _⟩
  | transform | slice => exact ⟨_, rfl, fun hR _ ↦ hR.ret _⟩

theorem reads (l : Layer) (c : Overlap) : c.Reads l.handle := by
  cases l with
  | root => exact Overlap.rootHandler_reads
  | transform => exact Overlap.transformHandler_reads
  | slice => exact Overlap.declarationHandler_reads
  | system => exact Overlap.systemHandler_reads
  | ports => exact Overlap.portHandler_reads

theorem header_lockstep (l : Layer) {k : TokenKind} (hk : k.isPlain) (c : Overlap) :
    c.Lockstep (fun x y ↦ c.same x.1 y.1 ∧ x.2 = y.2) (l.header k) (l.header k) := by
  have hunnamed : c.Lockstep (fun x y ↦ c.same x.1 y.1 ∧ x.2 = y.2)
      (do return (← expect k, "")) (do return (← expect k, "")) :=
    (Overlap.Lockstep.expect hk).bind (fun hab ↦ .pure ⟨hab, rfl⟩) fun _ ↦ onward_motion.ret _
  have hnamed : c.Lockstep (fun x y ↦ c.same x.1 y.1 ∧ x.2 = y.2)
      (do let keyword ← expect k; return (keyword, ← expectName))
      (do let keyword ← expect k; return (keyword, ← expectName)) :=
    (Overlap.Lockstep.expect hk).bind
      (fun hab ↦ Overlap.Lockstep.expectName.bind (fun hname ↦ .pure ⟨hab, hname⟩)
        fun _ ↦ onward_motion.ret _)
      fun _ ↦ onward_motion.bind onward_motion.expectName fun _ ↦ onward_motion.ret _
  cases l with
  | root | system | ports => exact hnamed
  | transform | slice => exact hunnamed

end Layer

namespace Layer.Encloses

variable {l l' : Layer} {k : TokenKind} {found : l.Found} {s u : State} {x : Token × String}

theorem run_read (e : l.Encloses k l') (hheader : (l'.header k).run.run s = (.ok x, u))
    (hbrace : u.current.kind = .openBrace) : (e.read found).run.run s =
      (e.rest found x (Place.mk l' (l'.start x.2) u.advance).finish.1).run.run
        ((Place.mk l' (l'.start x.2) u.advance).finish.2.close (e.owner x.2) u.current) := by
  rw [e.read_eq, run_bind, hheader]
  simp only
  rw [run_bind, run_block, if_pos hbrace]
  rfl

end Layer.Encloses

namespace Overlap

def past (c : Overlap) (before before' : List Finding) : Overlap :=
  { c with
    ends := c.same
    tail := []
    tail' := []
    tails := no_tails
    same_of_ends := fun _ _ _ h ↦ h
    before
    before' }

variable {c : Overlap} {fs gs : List Finding} {s t : State}

theorem Beside.facing (h : c.Beside s t) {s' : State} (hlt : s'.rest.length < s.rest.length)
    (hlost : ¬ c.Lost s') : c.Facing s t := by
  refine h.see.resolve_right fun hedge ↦ hlost (lost_of_length_lt ?_)
  rwa [hedge.rest] at hlt

/-- Two parsers side by side come into a block together, unless the block lies behind the tails. -/
theorem Beside.header {l' : Layer} {u : State} {x : Token × String}
    (h : c.Beside s t) (hplain : s.current.kind.isPlain)
    (hheader : (l'.header s.current.kind).run.run s = (.ok x, u))
    (hbrace : u.current.kind = .openBrace) (hlost : ¬ c.Lost u.advance) :
    ∃ y v, (l'.header s.current.kind).run.run t = (.ok y, v) ∧ c.same x.1 y.1 ∧ x.2 = y.2 ∧
      c.Facing s t ∧ c.Facing u v := by
  have hend : u.current.kind ≠ .endOfInput := by
    rw [hbrace]
    exact nofun
  have hu : ¬ c.Lost u := fun hlost' ↦ hlost (hlost'.onward (.advance u))
  have hstart := l'.header_starts s.current.kind
  have hlt := hstart.length_lt hplain (s := s) rfl
  have hpair := (l'.header_lockstep hplain c).pair h
  rw [hheader] at hlt hpair
  generalize hheader' : (l'.header s.current.kind).run.run t = y at hpair
  cases hpair with
  | lost hlost' => exact absurd hlost' hu
  | @alike _ y _ v hsame hbeside =>
    exact ⟨y, v, rfl, hsame.1, hsame.2, h.facing hlt hu,
      hbeside.see.resolve_right fun hedge ↦ hlost (hedge.reached.advance hend)⟩

theorem not_reached_past : ¬ (c.past fs gs).Reached s := fun h ↦ h.1 rfl

theorem not_lost_past : ¬ (c.past fs gs).Lost s := fun h ↦ not_reached_past h.1

theorem finish_past {l : Layer} {found : l.Found} (h : (c.past fs gs).Beside s t) :
    (c.past fs gs).Alike (Place.mk l found s).finish (Place.mk l found t).finish :=
  ((l.reads (c.past fs gs)).runStatements h).resolve_right not_reached_past

end Overlap

theorem Layer.Encloses.pair {c : Overlap} {fs gs : List Finding} {l l' : Layer} {k : TokenKind}
    (e : l.Encloses k l') {found : l.Found} {s t u v : State} {x y : Token × String}
    (hs : (l'.header k).run.run s = (.ok x, u))
    (hu : u.current.kind = .openBrace) (ht : (l'.header k).run.run t = (.ok y, v))
    (hv : v.current.kind = .openBrace) (hkeyword : c.same x.1 y.1) (hname : x.2 = y.2)
    (hopened : c.same u.current v.current)
    (h : (c.past fs gs).Alike (Place.mk l' (l'.start x.2) u.advance).finish
      (Place.mk l' (l'.start x.2) v.advance).finish) :
    (c.past fs gs).Pair Eq ((e.read found).run.run s) ((e.read found).run.run t) := by
  rw [e.run_read hs hu, e.run_read ht hv, ← hname]
  have hclose := Overlap.Together.close (c := c.past fs gs) (.inl h) (e.owner x.2) hopened
  rw [← h.1] at hclose ⊢
  cases hclose with
  | alike _ h => exact (e.rest_lockstep (c.past fs gs) found _ hkeyword hname).pair h
  | lost hlost => exact absurd hlost Overlap.not_lost_past

namespace Place

variable {p q : Place}

theorem Step.onward (h : Step p q) : Onward p.state q.state := by
  cases h with
  | @next l found s hs => exact statement_keeps onward_motion l.regular hs
  | @enter l l' found s u x hl hheader hbrace =>
    obtain ⟨e⟩ := Layer.encloses hl
    have hkeeps := (l'.header_starts _).keeps (l.regular.plain e.handle_eq) onward_motion s
    rw [hheader] at hkeeps
    exact hkeeps.trans (.advance u)

theorem finish_eq {l : Layer} {found : l.Found} {s : State}
    (hs : s.current.kind.closesBlock = false) : (Place.mk l found s).finish =
      (Place.mk l (statement l.handle found s).1 (statement l.handle found s).2).finish :=
  runStatements_of_not_closes l.regular hs

theorem onward_of_steps (h : ReflTransGen Step p q) : Onward p.state q.state := by
  induction h with
  | refl => exact .refl _
  | tail _ hstep ih => exact ih.trans hstep.onward

/-- If two parsers end the innermost block alike, they end all the blocks around it alike. -/
theorem finish_of_steps {c : Overlap} {fs : List Finding} {New : List Finding → Prop} {p : Place}
    (hp : ¬ c.Lost p.state)
    (hinner : ∀ {t}, c.Beside p.state t →
      ∃ gs, New gs ∧ (c.past fs gs).Alike p.finish (Place.mk p.layer p.found t).finish)
    {q : Place} (h : ReflTransGen Step q p) : ∀ {t}, c.Beside q.state t →
      ∃ gs, New gs ∧ (c.past fs gs).Alike q.finish (Place.mk q.layer q.found t).finish := by
  -- From the innermost block outwards, and within a block from the last statement backwards.
  induction h using ReflTransGen.head_induction_on with
  | refl => exact hinner
  | @head q r hstep hsteps ih =>
    intro t h
    have hr : ¬ c.Lost r.state := fun hlost ↦ hp (hlost.onward (onward_of_steps hsteps))
    cases hstep with
    | @next l found s hs =>
      change c.Beside s t at h
      have hfacing : c.Facing s t := h.facing (length_statement l.regular hs) hr
      obtain ⟨hfound, hnext⟩ := ((l.reads c).statement h hfacing).resolve_right hr
      have ht : t.current.kind.closesBlock = false := hfacing.kind ▸ hs
      simp only at ih ⊢
      rw [finish_eq hs, finish_eq ht, ← hfound]
      exact ih hnext
    | @enter l l' found s u x hl hheader hbrace =>
      change c.Beside s t at h
      obtain ⟨e⟩ := Layer.encloses hl
      have hplain := l.regular.plain e.handle_eq
      obtain ⟨y, v, hheader', hkeyword, hname, hfacing, hinside⟩ :=
        h.header hplain hheader hbrace hr
      have hbrace' : v.current.kind = .openBrace := hinside.kind ▸ hbrace
      -- Behind the inner block both are past the tails.
      obtain ⟨gs, hgs, hends⟩ := ih hinside.next
      have hread : (c.past fs gs).Pair Eq ((e.read found).run.run s) ((e.read found).run.run t) :=
        e.pair hheader hbrace hheader' hbrace' hkeyword hname hinside.same hends
      have hread' : l.handle t.current.kind = some e.read := hfacing.kind ▸ e.handle_eq
      obtain ⟨hfound, hnext⟩ :=
        (hread.statement l.regular e.handle_eq hread').resolve_right Overlap.not_lost_past
      have hs : s.current.kind.closesBlock = false := TokenKind.not_closes_of_isPlain hplain
      have ht : t.current.kind.closesBlock = false := hfacing.kind ▸ hs
      simp only
      rw [finish_eq hs, finish_eq ht, ← hfound]
      exact ⟨gs, hgs, Overlap.finish_past hnext⟩

end Place

namespace Overlap

variable {c : Overlap} {fs gs : List Finding} {s t r q : State}

theorem Beside.isHeader_iff (h : c.Beside s t) (hlength : c.tail.length + 3 ≤ s.rest.length) :
    IsHeader s.rest ↔ IsHeader t.rest := by
  obtain ⟨w, w', hs, ht, hw⟩ := h.rest
  rw [hs, List.length_append] at hlength
  rw [hs, ht]
  rcases hw with _ | ⟨hx, _ | ⟨hy, _ | ⟨hz, _⟩⟩⟩ <;>
    simp only [List.length_cons, List.length_nil] at hlength
  · omega
  · omega
  · omega
  · simp only [List.cons_append, IsHeader, c.kind_eq hx, c.kind_eq hy, c.kind_eq hz]

theorem Beside.header? (h : c.Beside s t) {i : Nat}
    (hlength : c.tail.length + i + 3 ≤ s.rest.length) (hhead : IsHeader (s.rest.drop i))
    (hfirst : ∀ j < i, ¬ IsHeader (s.rest.drop j)) : t.header? = some (t.forward i) := by
  have hiff {j : Nat} (hj : j ≤ i) : IsHeader (s.rest.drop j) ↔ IsHeader (t.rest.drop j) := by
    refine (h.forward (n := j) (by omega)).isHeader_iff ?_
    rw [rest_forward, List.length_drop]
    omega
  exact header?_eq_some_iff.mpr ⟨i, rfl, (hiff (Nat.le_refl i)).mp hhead,
    fun j hj hhead ↦ hfirst j hj ((hiff (Nat.le_of_lt hj)).mpr hhead)⟩

/-- Two documents whose root blocks end alike are the same, and later findings are alike. -/
theorem document_alike (hs : s.rewind.header? = some r) (ht : t.rewind.header? = some q)
    (hname : (r.forward 1).current.value = (q.forward 1).current.value)
    (hopened : c.same (r.forward 2).current (q.forward 2).current)
    (h : (c.past fs gs).Alike (outline r) (outline q)) :
    ∃ m u v fs' gs', document.run.run s = (.ok m, u) ∧ document.run.run t = (.ok m, v) ∧
      u.findings = fs ++ fs' ∧ v.findings = gs ++ gs' ∧
      List.Forall₂ (Finding.Like c.same) fs' gs' := by
  have hclose := Together.close (c := c.past fs gs) (.inl h)
    s!"#dartwin {(r.forward 1).current.value}" hopened
  rw [run_document, run_document, hs, ht]
  simp only
  rw [← hname, ← h.1]
  generalize hu : (outline r).2.close _ _ = u at hclose ⊢
  generalize hv : (outline q).2.close _ _ = v at hclose ⊢
  cases hclose with
  | lost hlost => exact absurd hlost not_lost_past
  | alike _ h =>
    obtain ⟨fs', gs', hfs, hgs, hlike⟩ := h.findings
    refine ⟨_, _, _, fs', gs', rfl, rfl, ?_, ?_, hlike⟩
    · rw [findings_log, hfs]
      exact List.append_nil _
    · rw [findings_log, hgs]
      exact List.append_nil _

theorem Beside.facing_past (h : (c.past fs gs).Beside s t) : (c.past fs gs).Facing s t :=
  h.see.resolve_right fun hedge ↦ not_reached_past hedge.reached

theorem Beside.forward_past (h : (c.past fs gs).Beside s t) {n : Nat} (hn : n ≤ s.rest.length) :
    (c.past fs gs).Beside (s.forward n) (t.forward n) :=
  h.forward (show 0 + n ≤ s.rest.length by omega)

theorem Beside.isHeader_drop_iff (h : (c.past fs gs).Beside s t) (i : Nat) :
    IsHeader (s.rest.drop i) ↔ IsHeader (t.rest.drop i) := by
  obtain ⟨w, w', hs, ht, hw⟩ := h.rest
  have hlength : s.rest.length = t.rest.length := by
    rw [hs, ht, List.length_append, List.length_append, hw.length_eq]
    rfl
  by_cases hi : i + 3 ≤ s.rest.length
  · refine (h.forward_past (n := i) (by omega)).isHeader_iff ?_
    rw [rest_forward, List.length_drop]
    show 0 + 3 ≤ s.rest.length - i
    omega
  · have hnone {u : State} (hu : u.rest.length < i + 3) : ¬ IsHeader (u.rest.drop i) := by
      intro hhead
      have hthree := hhead.three_le_length
      rw [List.length_drop] at hthree
      omega
    exact iff_of_false (hnone (by omega)) (hnone (by omega))

/-- Two documents are the same if their root blocks lie side by side. -/
theorem document_of_headers (hs : s.rewind.header? = some r) (ht : t.rewind.header? = some q)
    (h : (c.past fs gs).Beside r q) :
    ∃ m u v fs' gs', document.run.run s = (.ok m, u) ∧ document.run.run t = (.ok m, v) ∧
      u.findings = fs ++ fs' ∧ v.findings = gs ++ gs' ∧
      List.Forall₂ (Finding.Like c.same) fs' gs' := by
  obtain ⟨i, rfl, hhead, -⟩ := header?_eq_some_iff.mp hs
  have hthree := hhead.three_le_length
  rw [← rest_forward] at hthree
  have hname := (h.forward_past (n := 1) (by omega)).facing_past
  have hopened := (h.forward_past (n := 2) (by omega)).facing_past
  have houtline : (c.past fs gs).Alike (outline (s.rewind.forward i)) (outline q) :=
    (rootHandler_reads.runStatements (h.forward_past hthree)).resolve_right not_reached_past
  exact document_alike hs ht (c.value_eq hname.same hhead.kinds.2.1) hopened.same houtline

/-- Two parsers that are side by side from the first token to the end read the same document. -/
theorem document_past (h : (c.past [] []).Beside s.rewind t.rewind) :
    ∃ m u v, document.run.run s = (.ok m, u) ∧ document.run.run t = (.ok m, v) ∧
      List.Forall₂ (Finding.Like c.same) u.findings v.findings := by
  cases hs : s.rewind.header? with
  | none =>
    have ht : t.rewind.header? = none := by
      refine Option.eq_none_iff_forall_ne_some.mpr fun q hq ↦ ?_
      obtain ⟨i, -, hhead, hfirst⟩ := header?_eq_some_iff.mp hq
      have hsome := header?_eq_some_iff.mpr ⟨i, rfl, (h.isHeader_drop_iff i).mpr hhead,
        fun j hj hhead ↦ hfirst j hj ((h.isHeader_drop_iff j).mp hhead)⟩
      rw [hs] at hsome
      cases hsome
    obtain ⟨fs, gs, hfs, hgs, hlike⟩ := (h.report .missingRoot).findings
    rw [run_document, run_document, hs, ht]
    refine ⟨_, _, _, rfl, rfl, ?_⟩
    rw [hfs, hgs]
    exact hlike
  | some r =>
    obtain ⟨i, rfl, hhead, hfirst⟩ := header?_eq_some_iff.mp hs
    have ht : t.rewind.header? = some (t.rewind.forward i) :=
      header?_eq_some_iff.mpr ⟨i, rfl, (h.isHeader_drop_iff i).mp hhead,
        fun j hj hhead ↦ hfirst j hj ((h.isHeader_drop_iff j).mpr hhead)⟩
    have hthree := hhead.three_le_length
    rw [List.length_drop] at hthree
    obtain ⟨m, u, v, fs, gs, hu, hv, hfs, hgs, hlike⟩ :=
      document_of_headers hs ht (h.forward_past (n := i) (by omega))
    refine ⟨m, u, v, hu, hv, ?_⟩
    rw [hfs, hgs]
    exact hlike

end Overlap

end TwinDiagram.Parser
