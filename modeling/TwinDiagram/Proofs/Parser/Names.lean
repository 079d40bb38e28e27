import TwinDiagram.Proofs.Parser.WellFormed

namespace TwinDiagram

variable (Q : String → Prop)

def Twin.Named (t : Twin) : Prop := Q t.name ∧ ∀ p ∈ t.ports, Q p

structure System.Named (s : System) : Prop where
  name : Q s.name
  digitalTwins : ∀ t ∈ s.digitalTwins, t.Named Q
  parts : ∀ t ∈ s.parts, t.Named Q

structure Model.Named (m : Model) : Prop where
  name : m.name.isEmpty ∨ Q m.name
  systems : ∀ s ∈ m.systems, s.Named Q
  goals : ∀ g ∈ m.goals, Q g.name

theorem Twin.Writable.named {t : Twin} (h : t.Writable) : t.Named IsIdentifier := ⟨h.name, h.ports⟩

theorem System.WellFormed.named {s : System} (h : s.WellFormed) : s.Named IsIdentifier where
  name := h.name
  digitalTwins t ht := (h.digitalTwins t ht).named
  parts t ht := (h.parts t ht).named

theorem Model.WellFormed.named {m : Model} (h : m.WellFormed)
    (hname : m.name.isEmpty ∨ IsIdentifier m.name) : m.Named IsIdentifier where
  name := hname
  systems s hs := (h.declarations.systems s hs).named
  goals g hg := (h.declarations.goals g hg).name

theorem Parser.readText_ok (text : String) :
    ∃ m s, readText text = (.ok m, s) ∧ m.Named IsIdentifier := by
  obtain ⟨m, s, hread⟩ := document_ok (.ofTokens (tokenize text))
  obtain ⟨hm, hname | ⟨rfl, -⟩⟩ := wellFormed_of_readText hread
  · exact ⟨m, s, hread, hm.named (.inr hname)⟩
  · exact ⟨_, s, hread, hm.named (.inl rfl)⟩

structure IsLabel (name : String) : Prop where
  nonempty : name.toList ≠ []
  colon : ':' ∉ name.toList
  blank : ∀ c ∈ name.toList, Text.isBlank c = false

def Connection.Labelled (c : Connection) : Prop := ∀ n, c.name = some n → IsLabel n

def System.Labelled (s : System) : Prop := ∀ c ∈ s.connections, c.Labelled

theorem IsNote.isLabel {name : String} (h : IsNote name) : IsLabel name where
  nonempty := by simpa using h.1
  colon hcolon := absurd (h.2 ':' hcolon) (by decide)
  blank c hc := by
    have hchar : isIdentifierChar c := by
      simpa [isIdentifierChar, isIdentifierStart, Text.isWordChar] using h.2 c hc
    exact Text.not_isBlank_of_isIdentifierChar hchar

theorem Parser.readText_labelled {text : String} {m : Model} {s : State}
    (h : readText text = (.ok m, s)) : ∀ s ∈ m.systems, s.Labelled :=
  fun s hs c hc n hn ↦
    (((wellFormed_of_readText h).1.declarations.systems s hs).connections c hc).name n hn |>.isLabel

end TwinDiagram
