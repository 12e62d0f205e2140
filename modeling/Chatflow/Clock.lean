import Chatflow.Number.Binary64

/-!
# Time

A moment is a number of microseconds since 1970, in universal time.  Its text has milliseconds, the rest cut off
(`Moment.iso`); message ids hold the milliseconds as double-precision arithmetic gives them (`Moment.millis`).

A program does not make times and random ids itself; it is given them, one reading after the other (`Clock`).
-/

namespace Chatflow

/-- A moment: microseconds since the beginning of 1970. -/
structure Moment where
  micros : Int
  deriving DecidableEq, Repr

namespace Moment

/-- A number with zeros in front up to a width. -/
def padded (width n : Nat) : String :=
  let ds := toString n
  "".pushn '0' (width - ds.length) ++ ds

/-- Year, month and day of a number of days since 1970, counted over eras of 400 years that begin on 1 March. -/
def civil (days : Int) : Int × Nat × Nat :=
  let shifted := days + 719468
  let era := shifted / 146097
  let dayOfEra := (shifted % 146097).toNat
  let yearOfEra := (dayOfEra - dayOfEra / 1460 + dayOfEra / 36524 - dayOfEra / 146096) / 365
  let dayOfYear := dayOfEra - (365 * yearOfEra + yearOfEra / 4 - yearOfEra / 100)
  let monthFromMarch := (5 * dayOfYear + 2) / 153
  let day := dayOfYear - (153 * monthFromMarch + 2) / 5 + 1
  let month := if monthFromMarch < 10 then monthFromMarch + 3 else monthFromMarch - 9
  (yearOfEra + era * 400 + (if month ≤ 2 then 1 else 0), month, day)

/-- Date and time of day to the second. -/
def seconds (m : Moment) : String :=
  let total := m.micros / 1000000
  let (year, month, day) := civil (total / 86400)
  let second := (total % 86400).toNat
  padded 4 year.toNat ++ "-" ++ padded 2 month ++ "-" ++ padded 2 day ++ "T" ++ padded 2 (second / 3600) ++ ":" ++
    padded 2 (second / 60 % 60) ++ ":" ++ padded 2 (second % 60)

/-- The microseconds behind the second. -/
def behindSecond (m : Moment) : Nat := (m.micros % 1000000).toNat

/-- The text of a moment, to the millisecond. -/
def iso (m : Moment) : String := m.seconds ++ "." ++ padded 3 (m.behindSecond / 1000) ++ "Z"

/-- The text of a moment with its zone, to the microsecond; whole seconds have no fraction. -/
def zoned (m : Moment) : String :=
  m.seconds ++ (if m.behindSecond = 0 then "" else "." ++ padded 6 m.behindSecond) ++ "+00:00"

/-- The seconds since 1970 in double precision. -/
def secondsSince (m : Moment) : Binary64 := .ofRatio (decide (m.micros < 0)) m.micros.natAbs 1000000

/-- The milliseconds since 1970 that double-precision arithmetic gives. -/
def millis (m : Moment) : Int := (m.secondsSince.mulNat 1000).truncate

/-- The moment that is left of the seconds since 1970 in double precision: the fraction becomes microseconds, to the
nearest one. -/
def throughSeconds (m : Moment) : Moment :=
  let s := m.secondsSince
  ⟨s.truncate * 1000000 + (s.fraction.mulNat 1000000).round⟩

end Moment

/-- What a program gets when it asks what time it is or for something random. -/
structure Tick where
  moment : Moment
  token : String
  deriving DecidableEq, Repr

/-- The readings that a program gets, in their order. -/
abbrev Clock := Nat → Tick

/-- A clock on which no time passes. -/
def Clock.Still (clock : Clock) : Prop := ∀ m n, clock m = clock n

/-- The clock that always gives one reading. -/
def Tick.forever (tick : Tick) : Clock := fun _ => tick

theorem Tick.still_forever (tick : Tick) : tick.forever.Still := fun _ _ => rfl

/-- The readings from a number on. -/
def Clock.from (clock : Clock) (n : Nat) : Clock := fun k => clock (n + k)

end Chatflow
