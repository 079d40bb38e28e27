import TwinDiagram.Parser.Document
import TwinDiagram.Proofs.Grammar.Tokens

namespace TwinDiagram

namespace Grammar

/-- The names that a reference joins by dots. -/
def names (r : String) : List String := (r.toList.splitOn '.').map .ofList

def IsReference (r : String) : Prop := ∀ n ∈ names r, IsIdentifier n

instance (r : String) : Decidable (IsReference r) :=
  inferInstanceAs (Decidable (∀ n ∈ names r, IsIdentifier n))

end Grammar

open Grammar TwinDiagram.Parser

structure Twin.Writable (t : Twin) : Prop where
  name : IsIdentifier t.name
  ports : ∀ p ∈ t.ports, IsIdentifier p

instance (t : Twin) : Decidable t.Writable :=
  decidable_of_iff (IsIdentifier t.name ∧ ∀ p ∈ t.ports, IsIdentifier p)
    ⟨fun h ↦ ⟨h.1, h.2⟩, fun h ↦ ⟨h.name, h.ports⟩⟩

structure Connection.Writable (c : Connection) : Prop where
  source : IsReference c.source
  target : IsReference c.target
  name : ∀ n ∈ c.name, IsIdentifier n

instance (c : Connection) : Decidable c.Writable :=
  decidable_of_iff (IsReference c.source ∧ IsReference c.target ∧ ∀ n ∈ c.name, IsIdentifier n)
    ⟨fun h ↦ ⟨h.1, h.2.1, h.2.2⟩, fun h ↦ ⟨h.source, h.target, h.name⟩⟩

structure System.Writable (s : System) : Prop where
  name : IsIdentifier s.name
  digitalTwins : ∀ t ∈ s.digitalTwins, t.Writable
  parts : ∀ t ∈ s.parts, t.Writable
  connections : ∀ c ∈ s.connections, c.Writable

instance (s : System) : Decidable s.Writable :=
  decidable_of_iff (IsIdentifier s.name ∧ (∀ t ∈ s.digitalTwins, t.Writable) ∧
      (∀ t ∈ s.parts, t.Writable) ∧ ∀ c ∈ s.connections, c.Writable)
    ⟨fun h ↦ ⟨h.1, h.2.1, h.2.2.1, h.2.2.2⟩,
      fun h ↦ ⟨h.name, h.digitalTwins, h.parts, h.connections⟩⟩

structure Goal.Writable (g : Goal) : Prop where
  name : IsIdentifier g.name
  doc : ∀ d ∈ g.doc, IsDoc d

instance (g : Goal) : Decidable g.Writable :=
  decidable_of_iff (IsIdentifier g.name ∧ ∀ d ∈ g.doc, IsDoc d)
    ⟨fun h ↦ ⟨h.1, h.2⟩, fun h ↦ ⟨h.name, h.doc⟩⟩

structure Allocation.Writable (a : Allocation) : Prop where
  goal : IsIdentifier a.goal
  target : IsReference a.target

instance (a : Allocation) : Decidable a.Writable :=
  decidable_of_iff (IsIdentifier a.goal ∧ IsReference a.target)
    ⟨fun h ↦ ⟨h.1, h.2⟩, fun h ↦ ⟨h.goal, h.target⟩⟩

structure Parser.Declarations.Writable (d : Declarations) : Prop where
  systems : ∀ s ∈ d.systems, s.Writable
  goals : ∀ g ∈ d.goals, g.Writable
  allocations : ∀ a ∈ d.allocations, a.Writable

instance (d : Declarations) : Decidable d.Writable :=
  decidable_of_iff ((∀ s ∈ d.systems, s.Writable) ∧ (∀ g ∈ d.goals, g.Writable) ∧
      ∀ a ∈ d.allocations, a.Writable)
    ⟨fun h ↦ ⟨h.1, h.2.1, h.2.2⟩, fun h ↦ ⟨h.systems, h.goals, h.allocations⟩⟩

def Slice.declarations (s : Slice) : Declarations :=
  ⟨s.systems.getD [], s.goals.getD [], s.allocations.getD []⟩

structure Slice.Writable (s : Slice) : Prop where
  systems : s.systems ≠ some []
  goals : s.goals ≠ some []
  allocations : s.allocations ≠ some []
  declarations : s.declarations.Writable

instance (s : Slice) : Decidable s.Writable :=
  decidable_of_iff (s.systems ≠ some [] ∧ s.goals ≠ some [] ∧ s.allocations ≠ some [] ∧
      s.declarations.Writable)
    ⟨fun h ↦ ⟨h.1, h.2.1, h.2.2.1, h.2.2.2⟩,
      fun h ↦ ⟨h.systems, h.goals, h.allocations, h.declarations⟩⟩

structure Transform.SlicesWritable (t : Transform) : Prop where
  before : ∀ s ∈ t.before, s.Writable
  core : ∀ s ∈ t.core, s.Writable
  after : ∀ s ∈ t.after, s.Writable

structure Transform.Writable (t : Transform) : Prop extends t.SlicesWritable where
  present : t ≠ .empty

instance (t : Transform) : Decidable t.Writable :=
  decidable_of_iff (((∀ s ∈ t.before, s.Writable) ∧ (∀ s ∈ t.core, s.Writable) ∧
      ∀ s ∈ t.after, s.Writable) ∧ t ≠ .empty)
    ⟨fun h ↦ ⟨⟨h.1.1, h.1.2.1, h.1.2.2⟩, h.2⟩, fun h ↦ ⟨⟨h.before, h.core, h.after⟩, h.present⟩⟩

def Model.declarations (m : Model) : Declarations := ⟨m.systems, m.goals, m.allocations⟩

/-- Names are identifiers, references join such names, documentations fit on a line, and a change
has at least one slice, without empty lists. -/
structure Model.Writable (m : Model) : Prop where
  name : IsIdentifier m.name
  declarations : m.declarations.Writable
  transform : ∀ t ∈ m.transform, t.Writable

instance (m : Model) : Decidable m.Writable :=
  decidable_of_iff (IsIdentifier m.name ∧ m.declarations.Writable ∧
      ∀ t ∈ m.transform, t.Writable)
    ⟨fun h ↦ ⟨h.1, h.2.1, h.2.2⟩, fun h ↦ ⟨h.name, h.declarations, h.transform⟩⟩

namespace Grammar

def braced (body : List Word) : List Word :=
  .fixed .openBrace :: (body ++ [.fixed .closeBrace])

inductive Statements {α : Type} (one : α → List Word → α → Prop) : α → List Word → α → Prop
  | done (a : α) : Statements one a [] a
  | next {a b c : α} {ws us : List Word} :
    one a ws b → Statements one b us c → Statements one a (ws ++ us) c

def port (p : String) : List Word := [.fixed .port, .name p, .fixed .semicolon]

def twin (k : TokenKind) (t : Twin) : List Word :=
  .fixed k :: .name t.name :: braced (t.ports.flatMap port)

def dotted : List String → List Word
  | [] => []
  | n :: ns => .name n :: ns.flatMap fun n ↦ [.fixed .dot, .name n]

def reference (r : String) : List Word := dotted (names r)

def inlineName : Option String → List Word
  | none => []
  | some n => [.fixed .name, .name n]

def connection (c : Connection) : List Word :=
  .fixed .connect :: (reference c.source ++ .fixed .towards :: (reference c.target ++
    (inlineName c.name ++ [.fixed .semicolon])))

inductive SystemStatement (s : System) : List Word → System → Prop
  | twin (t : Twin) :
    SystemStatement s (twin .twin t) { s with digitalTwins := s.digitalTwins ++ [t] }
  | part (t : Twin) : SystemStatement s (twin .part t) { s with parts := s.parts ++ [t] }
  | connection (c : Connection) :
    SystemStatement s (connection c) { s with connections := s.connections ++ [c] }

inductive WritesSystem (s : System) : List Word → Prop
  | intro {body : List Word} : Statements SystemStatement ⟨s.name, [], [], []⟩ body s →
    WritesSystem s (.fixed .system :: .name s.name :: braced body)

inductive WritesGoal : Goal → List Word → Prop
  | doc (n d : String) : WritesGoal ⟨n, some d⟩
      (.fixed .goal :: .name n :: braced [.fixed .doc, .comment d])
  | bare (n : String) : WritesGoal ⟨n, none⟩ [.fixed .goal, .name n]
  | closed (n : String) : WritesGoal ⟨n, none⟩ [.fixed .goal, .name n, .fixed .semicolon]

def allocation (a : Allocation) : List Word :=
  .fixed .allocate :: .name a.goal :: .fixed .towards ::
    (reference a.target ++ [.fixed .semicolon])

inductive Declaration (d : Declarations) : List Word → Declarations → Prop
  | system {s : System} {ws : List Word} : WritesSystem s ws →
    Declaration d ws { d with systems := d.systems ++ [s] }
  | goal {g : Goal} {ws : List Word} : WritesGoal g ws →
    Declaration d ws { d with goals := d.goals ++ [g] }
  | allocation (a : Allocation) :
    Declaration d (allocation a) { d with allocations := d.allocations ++ [a] }

inductive WritesSlice (k : TokenKind) (s : Slice) : List Word → Prop
  | intro {body : List Word} : Statements Declaration .empty body s.declarations →
    WritesSlice k s (.fixed k :: braced body)

inductive Section (t : Transform) : List Word → Transform → Prop
  | before {s : Slice} {ws : List Word} : t.before = none → WritesSlice .before s ws →
    Section t ws { t with before := some s }
  | core {s : Slice} {ws : List Word} : t.core = none → WritesSlice .core s ws →
    Section t ws { t with core := some s }
  | after {s : Slice} {ws : List Word} : t.after = none → WritesSlice .after s ws →
    Section t ws { t with after := some s }

inductive RootStatement (m : Model) : List Word → Model → Prop
  | declaration {d : Declarations} {ws : List Word} : Declaration m.declarations ws d →
    RootStatement m ws
      { m with systems := d.systems, goals := d.goals, allocations := d.allocations }
  | transform {t : Transform} {body : List Word} : m.transform = none →
    Statements Section .empty body t →
    RootStatement m (.fixed .transform :: braced body) { m with transform := some t }

inductive WritesModel (m : Model) : List Word → Prop
  | intro {body : List Word} : Statements RootStatement { Model.empty with name := m.name } body m →
    WritesModel m (.fixed .root :: .name m.name :: braced body)

/-- The text writes the model in the grammar. -/
def Writes (m : Model) (text : String) : Prop := ∃ ws, WritesModel m ws ∧ Written ws text.toList

end Grammar

end TwinDiagram
