/-
  WorkspaceTemplates/Cli/Timestamp.lean
  =====================================
  **Points in time as texts.**

  A point in time is written as a date and a time of day in UTC, with as many groups
  of three digits after the second as are needed.
-/

namespace WorkspaceTemplates.Cli.Timestamp

def padded (width n : Nat) : String :=
  let digits := n.repr
  String.ofList (List.replicate (width - digits.length) '0' ++ digits.toList)

/-- Year, month and day of a day counted from the first of January 1970.  Years are counted from
    March, so that the day that leap years add is the last one of a year. -/
def civil (day : Int) : Int × Nat × Nat :=
  let shifted := day + 719468
  let era := shifted.fdiv 146097
  let dayOfEra := (shifted - era * 146097).toNat
  let yearOfEra := (dayOfEra - dayOfEra / 1460 + dayOfEra / 36524 - dayOfEra / 146096) / 365
  let dayOfYear := dayOfEra - (365 * yearOfEra + yearOfEra / 4 - yearOfEra / 100)
  let month := (5 * dayOfYear + 2) / 153
  let dayOfMonth := dayOfYear - (153 * month + 2) / 5 + 1
  let year := (yearOfEra : Int) + era * 400
  if month < 10 then (year, month + 3, dayOfMonth) else (year + 1, month - 9, dayOfMonth)

/-- The digits after the second, with their point. -/
def fraction (nanos : Nat) : String :=
  if nanos = 0 then ""
  else if nanos % 1000000 = 0 then "." ++ padded 3 (nanos / 1000000)
  else if nanos % 1000 = 0 then "." ++ padded 6 (nanos / 1000)
  else "." ++ padded 9 nanos

/-- The text of the point in time some seconds and nanoseconds after the start of 1970. -/
def text (seconds : Int) (nanos : Nat) : String :=
  let (year, month, day) := civil (seconds.fdiv 86400)
  let second := (seconds - seconds.fdiv 86400 * 86400).toNat
  padded 4 year.toNat ++ "-" ++ padded 2 month ++ "-" ++ padded 2 day ++ "T"
    ++ padded 2 (second / 3600) ++ ":" ++ padded 2 (second / 60 % 60) ++ ":"
    ++ padded 2 (second % 60) ++ fraction nanos ++ "Z"

end WorkspaceTemplates.Cli.Timestamp
