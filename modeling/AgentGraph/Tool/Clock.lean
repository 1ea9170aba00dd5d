/-! Points in time and their text: date, time to the millisecond and the mark of UTC.

Days are counted in eras of 400 years that begin on the first of March, so that the leap day is
the last day of its year and the lengths of the months before it never change. -/
namespace AgentGraph.Clock

set_option autoImplicit false

/-- Milliseconds since the beginning of 1970, UTC. -/
structure Instant where
  milliseconds : Nat
deriving DecidableEq, Repr

structure Date where
  year : Nat
  month : Nat
  day : Nat
deriving DecidableEq, Repr

/-- The days from the first of March of the year 0 to the beginning of 1970. -/
def epoch : Nat := 719468

/-- The date so many days after the beginning of 1970. -/
def Date.ofDays (days : Nat) : Date :=
  let days := days + epoch
  let era := days / 146097
  let inEra := days % 146097
  let yearInEra := (inEra - inEra / 1460 + inEra / 36524 - inEra / 146096) / 365
  let dayInYear := inEra - (365 * yearInEra + yearInEra / 4 - yearInEra / 100)
  let monthFromMarch := (5 * dayInYear + 2) / 153
  let day := dayInYear - (153 * monthFromMarch + 2) / 5 + 1
  let month := if monthFromMarch < 10 then monthFromMarch + 3 else monthFromMarch - 9
  ⟨yearInEra + 400 * era + (if month ≤ 2 then 1 else 0), month, day⟩

/-- At least so many digits. -/
def padded (width n : Nat) : String :=
  let digits := Nat.toDigits 10 n
  String.ofList (List.replicate (width - digits.length) '0' ++ digits)

def Date.text (d : Date) : String :=
  padded 4 d.year ++ "-" ++ padded 2 d.month ++ "-" ++ padded 2 d.day

def Instant.text (t : Instant) : String :=
  let seconds := t.milliseconds / 1000
  let inDay := seconds % 86400
  (Date.ofDays (seconds / 86400)).text ++ "T" ++ padded 2 (inDay / 3600) ++ ":" ++
    padded 2 (inDay / 60 % 60) ++ ":" ++ padded 2 (inDay % 60) ++ "." ++
    padded 3 (t.milliseconds % 1000) ++ "Z"

end AgentGraph.Clock
