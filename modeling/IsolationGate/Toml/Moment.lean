import IsolationGate.Number.Digits

/-!
# Moments

A date, a time of day, or a date with a time of day and an optional offset. The day lies within its
month, in leap years too, and a minute may have a leap second. `readMoment` tells what a text that
may start with a moment is: a moment, something that only looks like one at first, or broken.
-/

namespace IsolationGate.Toml

/-- What stands at the start of a text. -/
inductive MomentPart where
  /-- No moment. -/
  | absent
  /-- A moment with a part that is out of range or missing. -/
  | broken
  /-- A moment and the text behind it. -/
  | present (rest : List Char)

/-- A numeral of exactly `width` digits. -/
def readFixed (width : Nat) (cs : List Char) : Option (Nat × List Char) :=
  let digits := cs.take width
  if digits.length < width then none
  else (Number.ofDecimal? digits).map fun n => (n, cs.drop width)

/-- A numeral of two digits within bounds. -/
def readTwo (least greatest : Nat) (cs : List Char) : Option (Nat × List Char) :=
  (readFixed 2 cs).bind fun (n, rest) => if least ≤ n ∧ n ≤ greatest then some (n, rest) else none

/-- The year has a day more. -/
def isLeapYear (year : Nat) : Bool := year % 4 = 0 && (year % 100 ≠ 0 || year % 400 = 0)

/-- The number of days of a month. -/
def daysOf (year month : Nat) : Nat :=
  if month = 2 then if isLeapYear year then 29 else 28
  else if month = 4 ∨ month = 6 ∨ month = 9 ∨ month = 11 then 30
  else 31

/-- The rest of a date, after the year and its dash. -/
def readMonthAndDay (year : Nat) (cs : List Char) : Option (List Char) := do
  let (month, rest) ← readTwo 1 12 cs
  match rest with
  | '-' :: rest =>
      let (day, rest) ← readTwo 1 31 rest
      if day ≤ daysOf year month then some rest else none
  | _ => none

/-- A fraction of a second is passed over. -/
def skipFraction : List Char → List Char
  | '.' :: rest =>
      if rest.takeWhile Number.isDecimal = [] then '.' :: rest
      else rest.dropWhile Number.isDecimal
  | rest => rest

/-- The rest of a time of day, after the hour and its colon. -/
def readMinuteAndSecond (cs : List Char) : Option (List Char) := do
  let (_, rest) ← readTwo 0 59 cs
  match rest with
  | ':' :: rest =>
      let (_, rest) ← readTwo 0 60 rest
      some (skipFraction rest)
  | _ => none

/-- A time of day. -/
def readTime (cs : List Char) : MomentPart :=
  match readTwo 0 23 cs with
  | some (_, ':' :: rest) =>
      match readMinuteAndSecond rest with
      | some rest => .present rest
      | none => .broken
  | _ => .absent

/-- An offset, if one follows. -/
def readOffset : List Char → Option (List Char)
  | c :: rest =>
      if c = 'Z' ∨ c = 'z' then some rest
      else if c = '+' ∨ c = '-' then
        match readTwo 0 23 rest with
        | some (_, ':' :: rest) => (readTwo 0 59 rest).map (·.2)
        | _ => none
      else some (c :: rest)
  | [] => some []

/-- What may follow a date: a time of day and an offset. -/
def readDateRest (cs : List Char) : MomentPart :=
  match cs with
  | c :: rest =>
      if c = 'T' ∨ c = 't' ∨ c = ' ' then
        match readTime rest with
        | .absent => .present cs
        | .broken => .broken
        | .present rest =>
            match readOffset rest with
            | some rest => .present rest
            | none => .broken
      else .present cs
  | [] => .present []

/-- A moment. -/
def readMoment (cs : List Char) : MomentPart :=
  match readFixed 4 cs with
  | some (year, '-' :: rest) =>
      match readMonthAndDay year rest with
      | some rest => readDateRest rest
      | none => .broken
  | _ => readTime cs

end IsolationGate.Toml
