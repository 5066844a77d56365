/-!
# Time stamps

A time stamp is a date and a time of day to the microsecond. Documents and the lines of a log write
it in two forms.
-/

namespace NodeIdGen.Cli

/-- A date and a time of day to the microsecond. -/
structure Instant where
  year : Nat
  month : Nat
  day : Nat
  hour : Nat
  minute : Nat
  second : Nat
  micro : Nat
  deriving DecidableEq, Repr

/-- A number with zeros in front, up to a width. -/
def padded (width n : Nat) : String :=
  let digits := Nat.toDigits 10 n
  String.ofList (List.replicate (width - digits.length) '0' ++ digits)

namespace Instant

def date (t : Instant) : String :=
  "-".intercalate [padded 4 t.year, padded 2 t.month, padded 2 t.day]

def timeOfDay (t : Instant) : String :=
  ":".intercalate [padded 2 t.hour, padded 2 t.minute, padded 2 t.second] ++ "." ++
    padded 6 t.micro

/-- The form that documents show. -/
def stamp (t : Instant) : String :=
  t.date ++ " " ++ t.timeOfDay

/-- The form at the start of a line of the log. -/
def logStamp (t : Instant) : String :=
  t.date ++ "T" ++ t.timeOfDay ++ "Z"

end Instant

end NodeIdGen.Cli
