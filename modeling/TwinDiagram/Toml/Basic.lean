import TwinDiagram.Text.Quoted
import TwinDiagram.Toml.Moment

namespace TwinDiagram

inductive Toml where
  | bool (b : Bool)
  | int (n : Int)
  | decimal (x : Float)
  | text (s : String)
  | moment (m : Toml.Moment)
  | list (items : List Toml)
  | table (fields : List (String × Toml))
deriving Inhabited

namespace Toml

abbrev Fields := List (String × Toml)

/-- Sets a field: in its old place if the key is there, else at the end. -/
def put (key : String) (value : Toml) : Fields → Fields
  | [] => [(key, value)]
  | (k, v) :: rest => if k = key then (key, value) :: rest else (k, v) :: put key value rest

def text? : Toml → Option String
  | text s => some s
  | _ => none

def isTrue : Toml → Bool
  | bool b => b
  | int n => n != 0
  | decimal x => x != 0.0
  | text s => !s.isEmpty
  | moment _ => true
  | list items => !items.isEmpty
  | table fields => !fields.isEmpty

/-- Numbers are written in full from `0.0001` up to `10 ^ 16`, and keep a decimal. -/
def decimals : Decimal.Style := ⟨-4, 16, 2, "nan", "inf"⟩

def boolText (b : Bool) : String := if b then "True" else "False"

mutual

def describe : Toml → String
  | bool b => boolText b
  | int n => toString n
  | decimal x => Decimal.write decimals x
  | text s => Text.quoted s
  | moment m => m.describe
  | list items => "[" ++ ", ".intercalate (describeItems items) ++ "]"
  | table fields => "\x7b" ++ ", ".intercalate (describeFields fields) ++ "\x7d"

def describeItems : List Toml → List String
  | [] => []
  | v :: rest => describe v :: describeItems rest

def describeFields : List (String × Toml) → List String
  | [] => []
  | (k, v) :: rest => (Text.quoted k ++ ": " ++ describe v) :: describeFields rest

end

inductive Obstacle where
  /-- An integer has too many digits. -/
  | tooLong
  /-- Lists or tables lie too deep in each other. -/
  | tooDeep
deriving DecidableEq, Repr

def maxDigits : Nat := 4300

/-- How many lists and tables may lie in each other. -/
def maxRoom : Nat := 988

mutual

/-- What stands in the way of the form inside of a list or a table, with so much room for what lies
in it. -/
def obstacle? : (room : Nat) → Toml → Option Obstacle
  | _, int n => if 10 ^ maxDigits ≤ n.natAbs then some .tooLong else none
  | room, moment m => if room < m.height then some .tooDeep else none
  | room, list items => itemObstacle? room items
  | room, table fields => fieldObstacle? room fields
  | _, _ => none

def itemObstacle? : (room : Nat) → List Toml → Option Obstacle
  | _, [] => none
  | 0, _ :: _ => some .tooDeep
  | room + 1, v :: rest => (obstacle? room v).or (itemObstacle? (room + 1) rest)

def fieldObstacle? : (room : Nat) → List (String × Toml) → Option Obstacle
  | _, [] => none
  | 0, _ :: _ => some .tooDeep
  | room + 1, (_, v) :: rest => (obstacle? room v).or (fieldObstacle? (room + 1) rest)

end

def unwritable? : Toml → Option Obstacle
  | moment _ => none
  | v => v.obstacle? maxRoom

/-- A value on its own; a text has no quotes. -/
def spelling : Toml → String
  | text s => s
  | moment m => m.text
  | v => v.describe

end Toml

end TwinDiagram
