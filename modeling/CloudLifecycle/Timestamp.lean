import CloudLifecycle.Text.Blank

/-!
# Moments in universal time

The times that a stored resource carries. A moment is held as its calendar fields in universal time; it is
read from a date and a time of day with an offset, and written with `Z` and with no more decimals of a
second than it needs, in groups of three.

The reader is generous: blanks may stand before a number and around the marks, a field may have fewer
digits than usual, the date and the time may be parted by `T`, `t` or a space, and a second `60` is a leap
second.
-/

namespace CloudLifecycle

/-- A moment in universal time. A second of 60 is a leap second. -/
structure Timestamp where
  year : Int
  month : Nat
  day : Nat
  hour : Nat
  minute : Nat
  second : Nat
  nanos : Nat
  deriving DecidableEq, Repr, Inhabited

namespace Timestamp

open Text

/-- Whether `year` has a 29th of February. -/
def isLeapYear (year : Int) : Bool :=
  (year % 4 = 0 && year % 100 ≠ 0) || year % 400 = 0

/-- The number of days of a month. -/
def daysInMonth (year : Int) (month : Nat) : Nat :=
  if month = 2 then if isLeapYear year then 29 else 28
  else if month = 4 ∨ month = 6 ∨ month = 9 ∨ month = 11 then 30
  else 31

/-- The years that the calendar reaches. -/
def validYear (year : Int) : Bool := -262143 ≤ year && year ≤ 262142

/-- Whether the calendar has that day. -/
def validDate (year : Int) (month day : Nat) : Bool :=
  validYear year && 1 ≤ month && month ≤ 12 && 1 ≤ day && day ≤ daysInMonth year month

/-- The day after a date. -/
def nextDay (year : Int) (month day : Nat) : Int × Nat × Nat :=
  if day < daysInMonth year month then (year, month, day + 1)
  else if month < 12 then (year, month + 1, 1)
  else (year + 1, 1, 1)

/-- The day before a date. -/
def previousDay (year : Int) (month day : Nat) : Int × Nat × Nat :=
  if 1 < day then (year, month, day - 1)
  else if 1 < month then (year, month - 1, daysInMonth year (month - 1))
  else (year - 1, 12, 31)

/-- The moment that is `offset` minutes earlier. The offset is shorter than a day, so that at most one
midnight lies between. -/
def shiftBack (t : Timestamp) (offset : Int) : Timestamp :=
  let total : Int := t.hour * 60 + t.minute - offset
  let date := if total < 0 then previousDay t.year t.month t.day
    else if 1440 ≤ total then nextDay t.year t.month t.day
    else (t.year, t.month, t.day)
  let inDay := (total % 1440).toNat
  { t with
    year := date.1
    month := date.2.1
    day := date.2.2
    hour := inDay / 60
    minute := inDay % 60 }

/-! ## Reading -/

/-- Decimal digits at the front of `cs`, at most `max` of them but at least one, and what follows. -/
def readNumber (max : Nat) (cs : List Char) : Option (Nat × List Char) :=
  let digits := (cs.take max).takeWhile Char.isDigit
  if digits.isEmpty then none
  else some (digits.foldl (fun n c => n * 10 + (c.toNat - 48)) 0, cs.drop digits.length)

/-- A number of one or two digits within bounds, after blanks. -/
def readField (low high : Nat) (cs : List Char) : Option (Nat × List Char) := do
  let (n, rest) ← readNumber 2 (trimStartChars cs)
  if low ≤ n ∧ n ≤ high then some (n, rest) else none

/-- A year: up to four digits, or any number of them after a sign. -/
def readYear (cs : List Char) : Option (Int × List Char) :=
  match trimStartChars cs with
  | '-' :: rest => (readNumber rest.length rest).map fun (n, r) => (-(n : Int), r)
  | '+' :: rest => (readNumber rest.length rest).map fun (n, r) => ((n : Int), r)
  | rest => (readNumber 4 rest).map fun (n, r) => ((n : Int), r)

/-- The mark `c`, with blanks before it. -/
def readMark (c : Char) (cs : List Char) : Option (List Char) :=
  match trimStartChars cs with
  | d :: rest => if d = c then some rest else none
  | [] => none

/-- The decimals of a second in nanoseconds; decimals beyond the ninth are dropped. -/
def readFraction : List Char → Option (Nat × List Char)
  | '.' :: rest =>
    let digits := (rest.take 9).takeWhile Char.isDigit
    if digits.isEmpty then none
    else
      let n := digits.foldl (fun n c => n * 10 + (c.toNat - 48)) 0
      some (n * Nat.pow 10 (9 - digits.length), (rest.drop digits.length).dropWhile Char.isDigit)
  | rest => some (0, rest)

/-- An offset from universal time in minutes: `Z`, `UTC`, or a sign, two digits for hours and two for minutes
with colons and blanks between them. -/
def readOffset (cs : List Char) : Option (Int × List Char) :=
  match cs with
  | 'Z' :: rest | 'z' :: rest => some (0, rest)
  | u :: t :: c :: rest =>
    if [u, t, c].map Char.toUpper = ['U', 'T', 'C'] then some (0, rest)
    else if u = '+' then (clock (t :: c :: rest)).map fun (n, r) => ((n : Int), r)
    else if u = '-' ∨ u = '−' then (clock (t :: c :: rest)).map fun (n, r) => (-(n : Int), r)
    else none
  | _ => none
where
  /-- Two digits of hours and two of minutes, less than a day together. -/
  clock : List Char → Option (Nat × List Char)
    | a :: b :: rest => do
      let (hours, _) ← if a.isDigit && b.isDigit then readNumber 2 [a, b] else none
      match rest.dropWhile (fun c => c = ':' || isBlank c) with
      | c :: d :: after =>
        let (minutes, _) ← if c.isDigit && d.isDigit then readNumber 2 [c, d] else none
        if hours < 24 ∧ minutes < 60 then some (hours * 60 + minutes, after) else none
      | _ => none
    | _ => none

/-- Reads a moment and takes it to universal time; nothing but blanks may follow it. -/
def parse? (s : String) : Option Timestamp := do
  let (year, cs) ← readYear s.toList
  let cs ← readMark '-' cs
  let (month, cs) ← readField 1 12 cs
  let cs ← readMark '-' cs
  let (day, cs) ← readField 1 31 cs
  let cs ← match cs with
    | 'T' :: rest | 't' :: rest | ' ' :: rest => some rest
    | _ => none
  let (hour, cs) ← readField 0 23 cs
  let cs ← readMark ':' cs
  let (minute, cs) ← readField 0 59 cs
  let cs ← readMark ':' cs
  let (second, cs) ← readField 0 60 cs
  let (nanos, cs) ← readFraction cs
  let (offset, cs) ← readOffset (trimStartChars cs)
  if !(cs.all isBlank) || !(validDate year month day) then none
  else
    let t := shiftBack ⟨year, month, day, hour, minute, second, nanos⟩ offset
    if validYear t.year then some t else none

/-! ## Writing -/

/-- The number `n` with at least `k` digits. -/
def padded (k n : Nat) : String :=
  let digits := Nat.toDigits 10 n
  String.ofList (List.replicate (k - digits.length) '0' ++ digits)

/-- A year of the first ten millennia has four digits, any other a sign and at least four. -/
def yearText (year : Int) : String :=
  if 0 ≤ year ∧ year ≤ 9999 then padded 4 year.toNat
  else if year < 0 then "-" ++ padded 4 year.natAbs
  else "+" ++ padded 4 year.toNat

/-- The decimals of a second, in as few groups of three as hold them. -/
def fractionText (nanos : Nat) : String :=
  if nanos = 0 then ""
  else if nanos % 1000000 = 0 then "." ++ padded 3 (nanos / 1000000)
  else if nanos % 1000 = 0 then "." ++ padded 6 (nanos / 1000)
  else "." ++ padded 9 nanos

/-- The text of a moment, such as `2024-02-29T12:30:00.500Z`. -/
def text (t : Timestamp) : String :=
  yearText t.year ++ "-" ++ padded 2 t.month ++ "-" ++ padded 2 t.day ++ "T" ++ padded 2 t.hour ++ ":" ++
    padded 2 t.minute ++ ":" ++ padded 2 t.second ++ fractionText t.nanos ++ "Z"

end Timestamp

end CloudLifecycle
