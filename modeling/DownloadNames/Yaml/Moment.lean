import DownloadNames.Document

/-
Dates and times as scalars.

A date is `2024-01-02`.  A time follows after `T` or spacing, with seconds and perhaps a
fraction, and may end with an offset from universal time.  Without a time the month and the day must
have two digits for a text without quotes to be taken for a date, but not for it to be read as one
where a tag asks for that.
-/

namespace DownloadNames.Yaml

/-- A moment as it is written, before its parts are judged. -/
structure WrittenMoment where
  year : Nat
  month : Nat
  day : Nat
  time : Option (Nat × Nat × Nat × Nat) := none
  offset : Option Int := none
deriving DecidableEq, Repr

/-- A number of at least `least` and at most `most` digits at the front; as many as there are. -/
def digitsUpTo? (least most : Nat) (s : Text) : Option (Nat × Nat × Text) :=
  let ds := (s.take most).takeWhile Char.isDigit
  if ds.length < least then none
  else some (Text.ofDigits 10 (ds.filterMap Text.asciiDigit?), ds.length, s.drop ds.length)

/-- A number of exactly two digits after the given character. -/
def pairAfter? (c : Char) (s : Text) : Option (Nat × Text) :=
  match s with
  | d :: rest => if d = c then (digitsUpTo? 2 2 rest).map fun (n, _, rest) => (n, rest) else none
  | [] => none

/-- Millionths of a second from the digits of a fraction; further digits are dropped. -/
def millionths (ds : Text) : Nat :=
  Text.ofDigits 10 (((ds.take 6) ++ List.replicate (6 - ds.length) '0').filterMap
    Text.asciiDigit?)

/-- A fraction after a point, or zero. -/
def fraction (s : Text) : Nat × Text :=
  match s with
  | '.' :: rest => (millionths (rest.takeWhile Char.isDigit), rest.dropWhile Char.isDigit)
  | _ => (0, s)

/-- A space or a tab. -/
def isGap (c : Char) : Bool := c == ' ' || c == '\t'

/-- The offset that ends a time: `Z`, or a sign with hours and perhaps minutes. -/
def offset? (s : Text) : Option (Option Int) :=
  match s, s.dropWhile isGap with
  | [], _ => some none
  | _, ['Z'] => some (some 0)
  | _, sign :: rest =>
    if sign = '+' ∨ sign = '-' then
      (digitsUpTo? 1 2 rest).bind fun (hours, _, rest) =>
        let signed (minutes : Nat) : Option Int :=
          let total : Int := (hours * 60 + minutes : Nat)
          some (if sign = '-' then -total else total)
        match rest with
        | [] => some (signed 0)
        | _ => match pairAfter? ':' rest with
          | some (minutes, []) => some (signed minutes)
          | _ => none
    else none
  | _, [] => none

/-- The time after a date. -/
def timeOfDay? (s : Text) : Option ((Nat × Nat × Nat × Nat) × Option Int) := do
  let s ← match s with
    | 'T' :: s => some s
    | 't' :: s => some s
    | c :: s => if isGap c then some (s.dropWhile isGap) else none
    | [] => none
  let (hour, _, s) ← digitsUpTo? 1 2 s
  let (minute, s) ← pairAfter? ':' s
  let (second, s) ← pairAfter? ':' s
  let (micro, s) := fraction s
  return ((hour, minute, second, micro), ← offset? s)

/-- A moment that is written in one of the accepted forms. -/
def writtenMoment? (s : Text) : Option WrittenMoment := do
  let (year, _, s) ← digitsUpTo? 4 4 s
  let s ← Text.after? ['-'] s
  let (month, _, s) ← digitsUpTo? 1 2 s
  let s ← Text.after? ['-'] s
  let (day, _, s) ← digitsUpTo? 1 2 s
  if s = [] then return { year, month, day }
  let (time, offset) ← timeOfDay? s
  return { year, month, day, time := some time, offset }

/-- A text is taken for a moment. -/
def isMoment (s : Text) : Bool :=
  (writtenMoment? s).any fun w => w.time.isSome || s.length == 10

/-! ## Judging the parts -/

/-- A year with 366 days. -/
def isLeap (year : Nat) : Bool := year % 4 == 0 && (year % 100 != 0 || year % 400 == 0)

/-- The number of days of a month. -/
def monthDays (year month : Nat) : Nat :=
  if month = 2 then (if isLeap year then 29 else 28)
  else if [4, 6, 9, 11].contains month then 30
  else 31

/-- What no calendar has. -/
inductive BadMoment where
  | year (n : Nat)
  | month
  | day
  | hour
  | minute
  | second
  | offset (minutes : Int)
deriving DecidableEq, Repr

/-- The wording for what no calendar has. -/
def BadMoment.message : BadMoment → Text
  | .year n => "year ".toList ++ Text.ofNat n ++ " is out of range".toList
  | .month => "month must be in 1..12".toList
  | .day => "day is out of range for month".toList
  | .hour => "hour must be in 0..23".toList
  | .minute => "minute must be in 0..59".toList
  | .second => "second must be in 0..59".toList
  | .offset minutes =>
    "offset must be a timedelta strictly between -timedelta(hours=24) and ".toList
      ++ "timedelta(hours=24), not ".toList ++ Moment.writtenSpan minutes ++ ['.']

/-- The moment that is meant, if the calendar has it. -/
def WrittenMoment.judge (w : WrittenMoment) : Except BadMoment Moment := do
  if let some minutes := w.offset then
    if minutes.natAbs ≥ 1440 then throw (.offset minutes)
  if w.year < 1 then throw (.year w.year)
  if w.month < 1 ∨ w.month > 12 then throw .month
  if w.day < 1 ∨ w.day > monthDays w.year w.month then throw .day
  match w.time with
  | none => return .date w.year w.month w.day
  | some (hour, minute, second, micro) =>
    if hour > 23 then throw .hour
    if minute > 59 then throw .minute
    if second > 59 then throw .second
    return .time w.year w.month w.day hour minute second micro w.offset

/-! ## Reading -/

/-- A text without the line end at its end. -/
def withoutLineEnd (s : Text) : Text := if s.getLast? = some '\n' then s.dropLast else s

/-- The moment that a text is read as. -/
def readMoment (s : Text) : Except DocumentError Moment :=
  match writtenMoment? (withoutLineEnd s) with
  | some w => w.judge.mapError fun reason => .raised "ValueError" reason.message
  | none => .error
    (.raised "AttributeError" "'NoneType' object has no attribute 'groupdict'".toList)

end DownloadNames.Yaml
