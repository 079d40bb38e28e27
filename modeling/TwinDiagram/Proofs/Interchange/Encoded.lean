import TwinDiagram.Command.Jobs
import TwinDiagram.Proofs.Interchange.RoundTrip

namespace TwinDiagram.Interchange

open Command (rejection?)

namespace Shape

mutual

def numberless : Shape → Bool
  | text => true
  | number => false
  | integer => true
  | constant _ => true
  | choice _ => true
  | optional s => s.numberless
  | list item => item.numberless
  | record _ fields => numberlessFields fields
  | tagged cases => numberlessCases cases

def numberlessFields : List (Field × Shape) → Bool
  | [] => true
  | (_, s) :: rest => s.numberless && numberlessFields rest

def numberlessCases : List (String × Shape) → Bool
  | [] => true
  | (_, s) :: rest => s.numberless && numberlessCases rest

end

variable {interchange : Bool}

mutual

theorem read_text_eq_read_decoded : ∀ {s : Shape}, s.numberless →
    s.read ⟨true, interchange⟩ = s.read ⟨false, interchange⟩
  | text, _ => by
    funext j
    rw [read, read]
  | number, h => nomatch h
  | integer, _ => by
    funext j
    rw [read, read]
  | constant v, _ => by
    funext j
    rw [read, read]
  | choice vs, _ => by
    funext j
    rw [read, read]
  | optional s, h => by
    have hs := read_text_eq_read_decoded (s := s) (by simpa [numberless] using h)
    funext j
    rw [read, read, hs]
  | list item, h => by
    have hitem := read_text_eq_read_decoded (s := item) (by simpa [numberless] using h)
    funext j
    rw [read.eq_def, read.eq_def]
    simp only [hitem]
  | record info fields, h => by
    rw [numberless] at h
    have hfields (given : List (String × Json)) := readFields_text_eq_decoded given h
    funext j
    rw [read.eq_def, read.eq_def]
    simp only [hfields]
  | tagged cases, h => by
    rw [numberless] at h
    have hcases (tags : List String) (tag j : Json) := readCase_text_eq_decoded tags tag j h
    funext j
    rw [read.eq_def, read.eq_def]
    simp only [hcases]

theorem readFields_text_eq_decoded (given : List (String × Json)) :
    ∀ {fields : List (Field × Shape)}, numberlessFields fields →
      readFields ⟨true, interchange⟩ given fields = readFields ⟨false, interchange⟩ given fields
  | [], _ => by rw [readFields, readFields]
  | (f, s) :: fields, h => by
    rw [numberlessFields, Bool.and_eq_true] at h
    rw [readFields, readFields, read_text_eq_read_decoded h.1, readFields_text_eq_decoded given h.2]

theorem readCase_text_eq_decoded (tags : List String) (tag j : Json) :
    ∀ {cases : List (String × Shape)}, numberlessCases cases →
      readCase ⟨true, interchange⟩ tags tag j cases = readCase ⟨false, interchange⟩ tags tag j cases
  | [], _ => by rw [readCase, readCase]
  | (name, s) :: cases, h => by
    rw [numberlessCases, Bool.and_eq_true] at h
    rw [readCase, readCase, read_text_eq_read_decoded h.1, readCase_text_eq_decoded tags tag j h.2]

end

end Shape

/-- A message about decoded data, and the one about JSON text that stands for it. They name lists
and objects differently. -/
inductive Reworded : String → String → Prop
  | list : Reworded "Input should be a valid list" "Input should be a valid array"
  | record (name : String) :
      Reworded s!"Input should be a valid dictionary or instance of {name}"
        "Input should be an object"
  | tagged : Reworded "Input should be a valid dictionary or object to extract fields from"
      "Input should be an object"

theorem Cause.message_text (c : Cause) :
    c.message true = c.message false ∨ Reworded (c.message false) (c.message true) := by
  cases c with
  | notList => exact .inr .list
  | notRecord name => exact .inr (.record name)
  | notTagged => exact .inr .tagged
  | _ => exact .inl rfl

/-- Rejections of decoded data and of JSON text that stands for it: the same field fails, and lists
and objects aside, the message is the same. -/
structure Rejection.Matches (r r' : Rejection) : Prop where
  field : r'.field? = r.field?
  message : r'.message = r.message ∨ Reworded r.message r'.message

theorem Rejection.Matches.of_fault (f : Fault) : (fault false f).Matches (fault true f) :=
  ⟨rfl, f.cause.message_text⟩

/-- The same value in both outcomes, or rejections that match. -/
inductive Agrees {α : Type} : Except Rejection α → Except Rejection α → Prop
  | loaded (a : α) : Agrees (.ok a) (.ok a)
  | rejected {r r' : Rejection} : r.Matches r' → Agrees (.error r) (.error r')

namespace Agrees

variable {α β : Type}

theorem mapError (x : Except Fault α) :
    Agrees (x.mapError (.fault false)) (x.mapError (.fault true)) := by
  cases x with
  | ok a => exact .loaded a
  | error f => exact .rejected (.of_fault f)

theorem bind {x y : Except Rejection α} {f g : α → Except Rejection β} (h : Agrees x y)
    (hfg : ∀ a, Agrees (f a) (g a)) : Agrees (x >>= f) (y >>= g) := by
  cases h with
  | loaded a => exact hfg a
  | rejected h => exact .rejected h

theorem map {x y : Except Rejection α} (h : Agrees x y) (f : α → β) :
    Agrees (x.map f) (y.map f) := by
  cases h with
  | loaded a => exact .loaded (f a)
  | rejected h => exact .rejected h

end Agrees

variable {d : Json} {bytes : ByteArray}

theorem readAs_agrees {s : Shape} (hs : s.numberless) (hdecode : decode bytes = some d) :
    Agrees (readAs true s (.decoded d)) (readAs true s (.encoded bytes)) := by
  rw [readAs, readAs, hdecode]
  simp only [Shape.read_text_eq_read_decoded hs]
  exact Agrees.mapError _

theorem loadModel_agrees (hdecode : decode bytes = some d) :
    Agrees (loadModel (.decoded d)) (loadModel (.encoded bytes)) :=
  (readAs_agrees (by decide) hdecode).map Model.ofJson

theorem loadGraph_agrees (hdecode : decode bytes = some d) :
    Agrees (loadGraph (.decoded d)) (loadGraph (.encoded bytes)) := by
  apply Agrees.bind (readAs_agrees (s := .graph) (by decide) hdecode)
  intro j
  dsimp only
  split
  · exact .loaded _
  · exact .rejected (.of_fault _)

theorem rejection?_matches (hdecode : decode bytes = some d) (kind : String) :
    Option.Rel Rejection.Matches (rejection? kind (.decoded d))
      (rejection? kind (.encoded bytes)) := by
  unfold rejection?
  generalize hx : (if kind == "model" then (loadModel (.decoded d)).map fun _ ↦ ()
    else (loadGraph (.decoded d)).map fun _ ↦ ()) = x
  generalize hy : (if kind == "model" then (loadModel (.encoded bytes)).map fun _ ↦ ()
    else (loadGraph (.encoded bytes)).map fun _ ↦ ()) = y
  have hagrees : Agrees x y := by
    rw [← hx, ← hy]
    split
    · exact (loadModel_agrees hdecode).map _
    · exact (loadGraph_agrees hdecode).map _
  cases hagrees with
  | loaded _ => exact .none
  | rejected h => exact .some h

/-- Data are judged alike whether they come decoded or as a JSON text that decodes to them: the same
are valid, the same field fails, and what is loaded is equal. -/
theorem text_judged_as_decoded (htext : ∀ t, d ≠ .text t) (hdecode : decode bytes = some d) :
    (∀ kind, Option.Rel Rejection.Matches (rejection? kind (.ofJson d))
      (rejection? kind (.encoded bytes))) ∧
    Agrees (loadModel (.ofJson d)) (loadModel (.encoded bytes)) ∧
    Agrees (loadGraph (.ofJson d)) (loadGraph (.encoded bytes)) := by
  rw [Source.ofJson_eq_decoded htext]
  exact ⟨rejection?_matches hdecode, loadModel_agrees hdecode, loadGraph_agrees hdecode⟩

/-- A graph whose edges are an object, in both forms. -/
theorem text_judged_as_decoded_of_edgeless :
    let d : Json := .object [("nodes", .list []), ("edges", .object [])]
    let bytes := (d.render (spacing none)).toUTF8
    decode bytes = some d ∧ (∀ kind, Option.Rel Rejection.Matches (rejection? kind (.ofJson d))
      (rejection? kind (.encoded bytes))) ∧
    Agrees (loadModel (.ofJson d)) (loadModel (.encoded bytes)) ∧
    Agrees (loadGraph (.ofJson d)) (loadGraph (.encoded bytes)) := by
  intro d bytes
  have hd : Json.Textual Json.maxDepth d := by
    refine .object (by decide) ?_
    simp only [List.forall_mem_cons, List.not_mem_nil, false_implies, implies_true, and_true]
    exact ⟨.list nofun, .object (by decide) nofun⟩
  have hdecode : decode bytes = some d := decode_render hd none
  exact ⟨hdecode, text_judged_as_decoded (by simp [d]) hdecode⟩

end TwinDiagram.Interchange
