import DryRun.Duration.Basic

/-!
# Durations in units

Durations as people write them: `1h 30m`, `2days`, `1.5s`. A text is a sum of amounts, each with a
unit; the printed form names every unit that there is one of, from years to nanoseconds.
-/

namespace DryRun

namespace Duration

open Unicode

/-! ## Units -/

/-- A unit of time. -/
inductive TimeUnit where
  | nanosecond
  | microsecond
  | millisecond
  | second
  | minute
  | hour
  | day
  | week
  | month
  | year
  deriving DecidableEq, Repr

namespace TimeUnit

/-- All units. -/
def all : List TimeUnit :=
  [nanosecond, microsecond, millisecond, second, minute, hour, day, week, month, year]

/-- The names of a unit. -/
def names : TimeUnit → List String
  | nanosecond => ["nanos", "nsec", "ns"]
  | microsecond => ["usec", "us", "µs"]
  | millisecond => ["millis", "msec", "ms"]
  | second => ["seconds", "second", "secs", "sec", "s"]
  | minute => ["minutes", "minute", "min", "mins", "m"]
  | hour => ["hours", "hour", "hrs", "hr", "h"]
  | day => ["days", "day", "d"]
  | week => ["weeks", "week", "wks", "wk", "w"]
  | month => ["months", "month", "M"]
  | year => ["years", "year", "yrs", "yr", "y"]

/-- The unit of a name. -/
def ofName? (name : Text) : Option TimeUnit :=
  all.find? fun unit => unit.names.any (name == ·.toList)

/-- The length of a unit below a second in nanoseconds, and of the others in seconds. -/
def size : TimeUnit → Nat
  | nanosecond => 1
  | microsecond => 1000
  | millisecond => 1000000
  | second => 1
  | minute => 60
  | hour => 3600
  | day => 86400
  | week => 604800
  | month => 2630016
  | year => 31557600

/-- Whether the size of a unit counts nanoseconds. -/
def isBelowSecond : TimeUnit → Bool
  | nanosecond | microsecond | millisecond => true
  | _ => false

/-- The nanoseconds of a unit for its fractions, or its seconds where fractions of a second do not
count; a nanosecond has no fractions. -/
def fractionSize? : TimeUnit → Option (Nat × Bool)
  | nanosecond => none
  | microsecond => some (1000, true)
  | millisecond => some (1000000, true)
  | second => some (perSecond, true)
  | minute => some (60 * perSecond, true)
  | unit => some (unit.size, false)

end TimeUnit

/-! ## Reading -/

/-- A number that has a place in 64 bits. -/
def word? (n : Nat) : Option Nat := if n ≤ wordCap then some n else none

/-- The sum of a duration and a number of seconds or nanoseconds. -/
def add? (d : Duration) (amount : Nat) (inNanoseconds : Bool) : Option Duration :=
  if inNanoseconds then do
    let _ ← word? (d.subseconds + amount)
    checked ⟨d.nanoseconds + amount⟩
  else checked ⟨d.nanoseconds + amount * perSecond⟩

/-- An amount: its digits, and those behind its point if it has one. -/
structure Amount where
  whole : Text
  places : Option Text
  deriving DecidableEq, Repr

/-- The sum of a duration and an amount of a unit; its fraction has to come out in whole
nanoseconds, or in whole seconds where fractions of a second do not count. -/
def addAmount? (d : Duration) (amount : Amount) (unit : TimeUnit) : Option Duration := do
  let whole ← word? ((← word? (digitsValue amount.whole)) * unit.size)
  let sum ← d.add? whole unit.isBelowSecond
  match amount.places with
  | none => return sum
  | some places =>
    let denominator ← word? (Nat.pow 10 places.length)
    let (size, inNanoseconds) ← unit.fractionSize?
    let numerator ← word? (digitsValue places * size)
    if numerator % denominator = 0 then sum.add? (numerator / denominator) inNanoseconds else none

/-- Where a reader of amounts stands. -/
inductive Reading where
  /-- Nothing but blanks has been read. -/
  | start
  /-- The amounts read so far are complete. -/
  | between (sum : Duration)
  /-- Within the digits of an amount. -/
  | whole (sum : Duration) (digits : Text)
  /-- Within the digits behind the point of an amount. -/
  | places (sum : Duration) (whole digits : Text)
  /-- Within the name of a unit. -/
  | name (sum : Duration) (amount : Amount) (letters : Text)

/-- Whether a character may stand in the name of a unit. -/
def inName (c : Char) : Bool := c.isAlpha || c == 'µ'

/-- The sum with an amount whose unit is complete. -/
def finishAmount? (sum : Duration) (amount : Amount) (letters : Text) : Option Duration := do
  sum.addAmount? amount (← TimeUnit.ofName? letters)

/-- The reader behind a character. -/
def Reading.step : Reading → Char → Option Reading
  | start, c =>
    if c.isDigit then some (whole zero [c]) else if isBlank c then some start else none
  | between sum, c =>
    if c.isDigit then some (whole sum [c]) else if isBlank c then some (between sum) else none
  | whole sum digits, c =>
    if c.isDigit then some (whole sum (digits ++ [c]))
    else if isBlank c then some (whole sum digits)
    else if inName c then some (name sum ⟨digits, none⟩ [c])
    else if c = '.' then some (places sum digits [])
    else none
  | places sum front digits, c =>
    if c.isDigit then some (places sum front (digits ++ [c]))
    else if isBlank c then some (places sum front digits)
    else if inName c && !digits.isEmpty then some (name sum ⟨front, some digits⟩ [c])
    else none
  | name sum amount letters, c =>
    if inName c then some (name sum amount (letters ++ [c]))
    else if c.isDigit then (finishAmount? sum amount letters).map (whole · [c])
    else if isBlank c then (finishAmount? sum amount letters).map between
    else none

/-- The duration at the end of a text. -/
def Reading.finish : Reading → Option Duration
  | between sum => some sum
  | name sum amount letters => finishAmount? sum amount letters
  | _ => none

/-- The duration that a text gives in units; a bare zero needs none. -/
def ofUnits? (text : Text) : Option Duration :=
  if text = ['0'] then some zero else (text.foldlM Reading.step .start).bind Reading.finish

/-! ## Writing -/

/-- A number of units, unless there are none. -/
def counted (n : Nat) (unit : String) : List Text :=
  if n = 0 then [] else [decimalDigits n ++ unit.toList]

/-- A number of units whose name has a plural, unless there are none. -/
def countedPlural (n : Nat) (unit : String) : List Text :=
  counted n (if n = 1 then unit else unit ++ "s")

/-- The duration in units from years to nanoseconds. -/
def inUnitsText (d : Duration) : Text :=
  let inYear := d.seconds % TimeUnit.year.size
  let inMonth := inYear % TimeUnit.month.size
  let inDay := inMonth % TimeUnit.day.size
  let nanoseconds := d.subseconds
  let parts :=
    countedPlural (d.seconds / TimeUnit.year.size) "year" ++
    countedPlural (inYear / TimeUnit.month.size) "month" ++
    countedPlural (inMonth / TimeUnit.day.size) "day" ++
    counted (inDay / 3600) "h" ++
    counted (inDay % 3600 / 60) "m" ++
    counted (inDay % 60) "s" ++
    counted (nanoseconds / 1000000) "ms" ++
    counted (nanoseconds / 1000 % 1000) "us" ++
    counted (nanoseconds % 1000) "ns"
  if parts.isEmpty then ['0', 's'] else Text.join [' '] parts

end Duration

end DryRun
