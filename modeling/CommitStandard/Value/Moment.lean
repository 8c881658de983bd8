import CommitStandard.Text.Literal

/-!
# Moments

Dates, times of day, and dates with times of day, perhaps with their distance from universal time.
`Moment.render` is the canonical written form and `Moment.literal` names the fields.
-/
namespace CommitStandard

structure Date where
  year : Nat
  month : Nat
  day : Nat
deriving DecidableEq, Repr

namespace Date

def daysIn (year month : Nat) : Nat :=
  if month = 2 then
    if year % 4 = 0 ∧ (year % 100 ≠ 0 ∨ year % 400 = 0) then 29 else 28
  else if month = 4 ∨ month = 6 ∨ month = 9 ∨ month = 11 then 30
  else 31

/-- Whether there is such a day in its month. The year zero has none. -/
def isValid (d : Date) : Bool := 1 ≤ d.year && d.day ≤ daysIn d.year d.month

def render (d : Date) : Text :=
  Text.padded 4 d.year ++ '-' :: Text.padded 2 d.month ++ '-' :: Text.padded 2 d.day

def fields (d : Date) : List Nat := [d.year, d.month, d.day]

end Date

structure DayTime where
  hour : Nat
  minute : Nat
  second : Nat
  /-- Millionths of a second. -/
  micros : Nat
deriving DecidableEq, Repr

namespace DayTime

/-- The canonical form, with a fraction only if it is not zero. -/
def render (t : DayTime) : Text :=
  Text.padded 2 t.hour ++ ':' :: Text.padded 2 t.minute ++ ':' :: Text.padded 2 t.second ++
    if t.micros = 0 then [] else '.' :: Text.padded 6 t.micros

/-- The fields, without zeros where the seconds and their fraction would end the list. -/
def fields (t : DayTime) : List Nat :=
  [t.hour, t.minute] ++
    if t.micros ≠ 0 then [t.second, t.micros] else if t.second ≠ 0 then [t.second] else []

end DayTime

/-- A distance from universal time. -/
structure Offset where
  isWest : Bool
  minutes : Nat
deriving DecidableEq, Repr

namespace Offset

/-- The canonical form; universal time itself lies to the east. -/
def render (o : Offset) : Text :=
  (if o.isWest && o.minutes != 0 then '-' else '+') ::
    (Text.padded 2 (o.minutes / 60) ++ ':' :: Text.padded 2 (o.minutes % 60))

/-- The distance as a literal: days and seconds, of which only the days can be negative. -/
def literal (o : Offset) : Text :=
  if o.minutes = 0 then "datetime.timezone.utc".toList
  else
    let span :=
      if o.isWest then "days=-1, seconds=".toList ++ Text.ofNat (86400 - 60 * o.minutes)
      else "seconds=".toList ++ Text.ofNat (60 * o.minutes)
    "datetime.timezone(datetime.timedelta(".toList ++ span ++ "))".toList

end Offset

/-- A date, a time of day, or both. -/
inductive Moment where
  | date (d : Date)
  | time (t : DayTime)
  | both (d : Date) (t : DayTime) (offset : Option Offset)
deriving DecidableEq, Repr

namespace Moment

def render : Moment → Text
  | date d => d.render
  | time t => t.render
  | both d t offset => d.render ++ ' ' :: t.render ++ (offset.map Offset.render).getD []

def sortName : Moment → Text
  | date _ => "datetime.date".toList
  | time _ => "datetime.time".toList
  | both .. => "datetime.datetime".toList

/-- The moment as a literal: its sort and its fields. -/
def literal (m : Moment) : Text :=
  let numbers := fun ns : List Nat => Text.join ", ".toList (ns.map Text.ofNat)
  let inside := match m with
    | date d => numbers d.fields
    | time t => numbers t.fields
    | both d t none => numbers (d.fields ++ t.fields)
    | both d t (some o) => numbers (d.fields ++ t.fields) ++ ", tzinfo=".toList ++ o.literal
  m.sortName ++ '(' :: (inside ++ [')'])

end Moment

end CommitStandard
