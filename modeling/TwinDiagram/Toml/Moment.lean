import TwinDiagram.Decimal.Style

namespace TwinDiagram.Toml

structure Day where
  year : Nat
  month : Nat
  day : Nat
deriving DecidableEq, Repr

structure TimeOfDay where
  hour : Nat
  minute : Nat
  second : Nat
  micros : Nat
deriving DecidableEq, Repr

structure Offset where
  minutes : Int
deriving DecidableEq, Repr

inductive Moment where
  | day (d : Day)
  | time (t : TimeOfDay)
  | full (d : Day) (t : TimeOfDay) (offset : Option Offset)
deriving DecidableEq, Repr

def isLeap (year : Nat) : Bool := year % 4 == 0 && (year % 100 != 0 || year % 400 == 0)

def daysOf (year month : Nat) : Nat :=
  if month == 2 then (if isLeap year then 29 else 28)
  else if [4, 6, 9, 11].contains month then 30
  else 31

def Day.isValid (d : Day) : Bool :=
  1 ≤ d.year && 1 ≤ d.month && d.month ≤ 12 && 1 ≤ d.day && d.day ≤ daysOf d.year d.month

def digits (width n : Nat) : String := .ofList (Decimal.padded width n)

def Day.text (d : Day) : String := s!"{digits 4 d.year}-{digits 2 d.month}-{digits 2 d.day}"

def TimeOfDay.text (t : TimeOfDay) : String :=
  let whole := s!"{digits 2 t.hour}:{digits 2 t.minute}:{digits 2 t.second}"
  if t.micros = 0 then whole else s!"{whole}.{digits 6 t.micros}"

def Offset.text (o : Offset) : String :=
  let sign := if o.minutes < 0 then "-" else "+"
  let n := o.minutes.natAbs
  s!"{sign}{digits 2 (n / 60)}:{digits 2 (n % 60)}"

def Moment.text : Moment → String
  | day d => d.text
  | time t => t.text
  | full d t o => s!"{d.text} {t.text}" ++ (o.map Offset.text).getD ""

def Day.numbers (d : Day) : List Nat := [d.year, d.month, d.day]

def TimeOfDay.numbers (t : TimeOfDay) : List Nat :=
  if t.micros ≠ 0 then [t.hour, t.minute, t.second, t.micros]
  else if t.second ≠ 0 then [t.hour, t.minute, t.second]
  else [t.hour, t.minute]

def call (name : String) (args : List String) : String :=
  s!"datetime.{name}(" ++ ", ".intercalate args ++ ")"

def Offset.describe (o : Offset) : String :=
  if o.minutes = 0 then "datetime.timezone.utc"
  else
    let seconds := o.minutes * 60
    let span :=
      if seconds < 0 then ["days=-1", s!"seconds={seconds + 86400}"] else [s!"seconds={seconds}"]
    call "timezone" [call "timedelta" span]

def Moment.height : Moment → Nat
  | full _ _ (some o) => if o.minutes = 0 then 1 else 2
  | _ => 0

def Moment.describe : Moment → String
  | day d => call "date" (d.numbers.map toString)
  | time t => call "time" (t.numbers.map toString)
  | full d t o =>
    let zone := match o with
      | some o => [s!"tzinfo={o.describe}"]
      | none => []
    call "datetime" ((d.numbers ++ t.numbers).map toString ++ zone)

end TwinDiagram.Toml
