import TreeSpec.Text.Digits

/-!
# Dates and times of TOML

A moment is a date, a time of day, or both with a possible offset from UTC. Its text is
the same for every spelling of it: a `T` between date and time, and no needless zeros in
the fraction of a second.
-/

namespace TreeSpec.Toml

structure Date where
  year : Nat
  month : Nat
  day : Nat
deriving DecidableEq, Repr

/-- A time of day, to the nanosecond. -/
structure Time where
  hour : Nat
  minute : Nat
  second : Nat
  nanosecond : Nat
deriving DecidableEq, Repr

inductive Offset where
  | utc
  | minutes (negative : Bool) (count : Nat)
deriving DecidableEq, Repr

inductive Moment where
  | date (date : Date)
  | time (time : Time)
  | dateTime (date : Date) (time : Time) (offset : Option Offset)
deriving DecidableEq, Repr

/-- The decimal text of a number, filled up with zeros to a given width. -/
def padded (width n : Nat) : List Char :=
  let run := Text.decimal n
  List.replicate (width - run.length) '0' ++ run

def Date.text (d : Date) : List Char :=
  padded 4 d.year ++ '-' :: (padded 2 d.month ++ '-' :: padded 2 d.day)

def Time.text (t : Time) : List Char :=
  let fraction := (padded 9 t.nanosecond).reverse.dropWhile (· == '0') |>.reverse
  padded 2 t.hour ++ ':' :: (padded 2 t.minute ++ ':' :: padded 2 t.second) ++
    if fraction.isEmpty then [] else '.' :: fraction

def Offset.text : Offset → List Char
  | .utc => ['Z']
  | .minutes negative count =>
    (if negative && count != 0 then '-' else '+') ::
      (padded 2 (count / 60) ++ ':' :: padded 2 (count % 60))

def Moment.text : Moment → List Char
  | .date d => d.text
  | .time t => t.text
  | .dateTime d t offset => d.text ++ 'T' :: (t.text ++ (offset.map Offset.text).getD [])

def daysInMonth (year month : Nat) : Nat :=
  if month = 2 then
    if year % 4 = 0 && (year % 100 != 0 || year % 400 = 0) then 29 else 28
  else if month = 4 || month = 6 || month = 9 || month = 11 then 30
  else 31

/-- A number of exactly `width` digits between two bounds, and what follows it. -/
def readField (width low high : Nat) (cs : List Char) : Option (Nat × List Char) :=
  let run := cs.take width
  let n := Text.digitsValue run
  if run.length = width && run.all Char.isDigit && low ≤ n && n ≤ high then
    some (n, cs.drop width)
  else none

def readMark (mark : Char) : List Char → Option (List Char)
  | c :: cs => if c = mark then some cs else none
  | [] => none

def readDate (cs : List Char) : Option (Date × List Char) := do
  let (year, cs) ← readField 4 0 9999 cs
  let cs ← readMark '-' cs
  let (month, cs) ← readField 2 1 12 cs
  let cs ← readMark '-' cs
  let (day, cs) ← readField 2 1 (daysInMonth year month) cs
  return (⟨year, month, day⟩, cs)

/-- The fraction of a second in nanoseconds; digits past the ninth do not count. -/
def readNanoseconds : List Char → Option (Nat × List Char)
  | '.' :: cs =>
    let run := cs.takeWhile Char.isDigit
    if run.isEmpty then none
    else
      let nine := (run ++ List.replicate 9 '0').take 9
      some (Text.digitsValue nine, cs.dropWhile Char.isDigit)
  | cs => some (0, cs)

/-- How far the parts of a moment may go. -/
structure Moment.Limits where
  lastHour : Nat
  /-- Whether so many hours and minutes may be the distance from UTC. -/
  offset : (hours minutes : Nat) → Bool

def Moment.Limits.clock : Moment.Limits where
  lastHour := 23
  offset hours minutes := hours ≤ 23 && minutes ≤ 59

/-- The limits of a whole day: an hour 24 may follow, and an offset goes up to a day,
whatever part of it is written in minutes. -/
def Moment.Limits.day : Moment.Limits where
  lastHour := 24
  offset hours minutes := hours * 60 + minutes ≤ 24 * 60

/-- A time and what follows it; a second may be a leap second. -/
def readTime (limits : Moment.Limits) (cs : List Char) : Option (Time × List Char) := do
  let (hour, cs) ← readField 2 0 limits.lastHour cs
  let cs ← readMark ':' cs
  let (minute, cs) ← readField 2 0 59 cs
  let cs ← readMark ':' cs
  let (second, cs) ← readField 2 0 60 cs
  let (nanosecond, cs) ← readNanoseconds cs
  return (⟨hour, minute, second, nanosecond⟩, cs)

def readOffset (limits : Moment.Limits) : List Char → Option (Option Offset × List Char)
  | c :: cs =>
    if c = 'Z' ∨ c = 'z' then some (some .utc, cs)
    else if c = '+' ∨ c = '-' then do
      let (hours, cs) ← readField 2 0 99 cs
      let cs ← readMark ':' cs
      let (minutes, cs) ← readField 2 0 99 cs
      if limits.offset hours minutes then
        return (some (.minutes (c = '-') (hours * 60 + minutes)), cs)
      else none
    else some (none, c :: cs)
  | [] => some (none, [])

def readClock (limits : Moment.Limits) : List Char → Option (Time × List Char)
  | c :: cs => if c = 'T' ∨ c = 't' ∨ c = ' ' then readTime limits cs else none
  | [] => none

def readMoment (limits : Moment.Limits) (cs : List Char) : Option (Moment × List Char) :=
  match readDate cs with
  | some (date, rest) =>
    match readClock limits rest with
    | some (time, rest) =>
      (readOffset limits rest).map fun (offset, rest) => (.dateTime date time offset, rest)
    | none => some (.date date, rest)
  | none => (readTime limits cs).map fun (time, rest) => (.time time, rest)

/-- The moment that a whole text spells, within the limits of a day. -/
def Moment.parse? (text : String) : Option Moment :=
  match readMoment .day text.toList with
  | some (m, []) => some m
  | _ => none

end TreeSpec.Toml
