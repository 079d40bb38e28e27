import TwinDiagram.Interchange.Number
import TwinDiagram.Json.Printer
import TwinDiagram.Text.Template

namespace TwinDiagram.Interchange

/-- A field of a record: its published key, the other spelling that plain records accept, and the
value it has if it is left out. -/
structure Field where
  key : String
  spelling : Option String
  default? : Option Json

/-- The keys `required` are those interchange asks for, in the order in which they are missed. -/
structure RecordInfo where
  name : String
  required : List String

inductive Shape where
  | text
  | number
  | integer
  | constant (value : String)
  | choice (values : List String)
  | optional (shape : Shape)
  | list (item : Shape)
  | record (info : RecordInfo) (fields : List (Field × Shape))
  /-- One of several records, told apart by `type`. -/
  | tagged (cases : List (String × Shape))

/-- Values come decoded or as JSON text; that shows in the wording only. Interchange adds two rules
to the shapes: every required key is there, and no other spelling is used. -/
structure Mode where
  ofText : Bool
  interchange : Bool

inductive Cause where
  | notText
  | notNumber
  | unreadableNumber
  | notInteger
  | unreadableInteger
  | oversizedInteger
  | fractional
  | notFinite
  | notConstant (value : String)
  | notChoice (values : List String)
  | notList
  | notRecord (name : String)
  | notTagged
  | untagged
  | unknownTag (tag : String) (tags : List String)
  | missing
  | missingKey (key : String)
  | otherSpelling (key : String)
  | unknownKey
  | other (message : String)

/-- What is wrong, and where. -/
structure Fault where
  path : List String
  cause : Cause

def alternatives : List String → String
  | [] => ""
  | [v] => s!"'{v}'"
  | [v, w] => s!"'{v}' or '{w}'"
  | v :: rest => s!"'{v}', {alternatives rest}"

def Cause.message (ofText : Bool) : Cause → String
  | notText => "Input should be a valid string"
  | notNumber => "Input should be a valid number"
  | unreadableNumber => "Input should be a valid number, unable to parse string as a number"
  | notInteger => "Input should be a valid integer"
  | unreadableInteger => "Input should be a valid integer, unable to parse string as an integer"
  | oversizedInteger => "Unable to parse input string as an integer, exceeded maximum size"
  | fractional => "Input should be a valid integer, got a number with a fractional part"
  | notFinite => "Input should be a finite number"
  | notConstant v => s!"Input should be '{v}'"
  | notChoice vs => s!"Input should be {alternatives vs}"
  | notList => if ofText then "Input should be a valid array" else "Input should be a valid list"
  | notRecord name =>
    if ofText then "Input should be an object"
    else s!"Input should be a valid dictionary or instance of {name}"
  | notTagged =>
    if ofText then "Input should be an object"
    else "Input should be a valid dictionary or object to extract fields from"
  | untagged => "Unable to extract tag using discriminator 'type'"
  | unknownTag tag tags =>
    let expected := ", ".intercalate (tags.map fun t ↦ s!"'{t}'")
    let tag := Text.substitute "expected_tags" expected tag
    s!"Input tag '{tag}' found using 'type' does not match any of the expected tags: {expected}"
  | missing => "Field required"
  | missingKey key => s!"Field required: {key}"
  | otherSpelling key => s!"Unexpected key: {key}"
  | unknownKey => "Extra inputs are not permitted"
  | other message => message

def Fault.within (key : String) (f : Fault) : Fault := { f with path := key :: f.path }

def fail {α : Type} (cause : Cause) : Except Fault α := .error ⟨[], cause⟩

def within {α : Type} (key : String) (x : Except Fault α) : Except Fault α :=
  x.mapError (·.within key)

def tagDecimals : Decimal.Style := ⟨-4, 16, 2, "nan", "inf"⟩

def tagText : Json → String
  | .null => "None"
  | .bool b => if b then "True" else "False"
  | .int n => toString n
  | .decimal x => Decimal.write tagDecimals x
  | .text s => s
  | j => j.render .line

def longInteger : Nat := Nat.pow 10 18

def readNumber (ofText : Bool) : Json → Except Fault Json
  | .decimal x => .ok (.decimal x)
  | .int n =>
    if ofText && longInteger ≤ n.natAbs then fail .notNumber
    else match Decimal.ofInt? n with
      | some x => .ok (.decimal x)
      | none => fail .notNumber
  | .bool b => .ok (.decimal (if b then 1.0 else 0.0))
  | .text s =>
    match readFloat s with
    | some x => .ok (.decimal x)
    | none => fail .unreadableNumber
  | _ => fail .notNumber

/-- A decimal counts if it is whole and below 2 ^ 63 in size. -/
def readWhole : Json → Except Fault Json
  | .int n => .ok (.int n)
  | .bool b => .ok (.int (if b then 1 else 0))
  | .decimal x =>
    match Decimal.truncate x with
    | none => fail .notFinite
    | some n =>
      if x.floor != x then fail .fractional
      else if n.natAbs < Nat.pow 2 63 then .ok (.int n)
      else fail .oversizedInteger
  | .text s =>
    match readInteger s with
    | .ok n => .ok (.int n)
    | .error .malformed => fail .unreadableInteger
    | .error .oversized => fail .oversizedInteger
  | _ => fail .notInteger

def readAll (item : Json → Except Fault Json) (index : Nat) : List Json → Except Fault (List Json)
  | [] => .ok []
  | j :: rest => do
    let j ← within (toString index) (item j)
    return j :: (← readAll item (index + 1) rest)

/-- A required key that is missing goes before another spelling that is used. -/
def checkKeys (info : RecordInfo) (fields : List Field) (given : List (String × Json)) :
    Except Fault Unit :=
  let has (key : String) : Bool := (given.lookup key).isSome
  match info.required.find? (! has ·) with
  | some key => .error ⟨[key], .missingKey key⟩
  | none =>
    match (fields.filterMap (·.spelling)).find? has with
    | some key => .error ⟨[key], .otherSpelling key⟩
    | none => .ok ()

def given? (f : Field) (given : List (String × Json)) : Option (String × Json) :=
  match given.lookup f.key with
  | some j => some (f.key, j)
  | none => f.spelling.bind fun key ↦ (given.lookup key).map (key, ·)

def checkUnknown (fields : List Field) (given : List (String × Json)) : Except Fault Unit :=
  let used := fields.filterMap fun f ↦ (given? f given).map Prod.fst
  match given.find? (! used.contains ·.1) with
  | some (key, _) => .error ⟨[key], .unknownKey⟩
  | none => .ok ()

namespace Shape

mutual

def read (mode : Mode) : Shape → Json → Except Fault Json
  | text, j => if j.text?.isSome then .ok j else fail .notText
  | number, j => readNumber mode.ofText j
  | integer, j => readWhole j
  | constant v, j => if j.text? = some v then .ok j else fail (.notConstant v)
  | choice vs, j => if j.text?.any vs.contains then .ok j else fail (.notChoice vs)
  | optional s, j => if j.isNull then .ok j else s.read mode j
  | list item, j =>
    match j with
    | .list js => .list <$> readAll (item.read mode) 0 js
    | _ => fail .notList
  | record info fields, j =>
    match j with
    | .object given => do
      if mode.interchange then checkKeys info (fields.map Prod.fst) given
      let found ← readFields mode given fields
      checkUnknown (fields.map Prod.fst) given
      return .object found
    | _ => fail (.notRecord info.name)
  | tagged cases, j =>
    match j with
    | .object given =>
      match given.lookup "type" with
      | none => fail .untagged
      | some tag => readCase mode (cases.map Prod.fst) tag j cases
    | _ => fail .notTagged

def readFields (mode : Mode) (given : List (String × Json)) :
    List (Field × Shape) → Except Fault (List (String × Json))
  | [] => .ok []
  | (f, s) :: rest => do
    let found ← match given? f given with
      | some (key, j) => within key (s.read mode j)
      | none =>
        match f.default? with
        | some j => pure j
        | none => .error ⟨[f.key], .missing⟩
    let rest ← readFields mode given rest
    return if found.isNull then rest else (f.key, found) :: rest

def readCase (mode : Mode) (tags : List String) (tag j : Json) :
    List (String × Shape) → Except Fault Json
  | [] => fail (.unknownTag (tagText tag) tags)
  | (name, s) :: rest =>
    if tag.text? = some name then within name (s.read mode j)
    else readCase mode tags tag j rest

end

end Shape

end TwinDiagram.Interchange
