import StartupGate.Data.Moment
import StartupGate.Number.Literal
import StartupGate.Yaml.Error
/-!
# Timestamps

A timestamp is a day, `2001-12-14`, or a day with a time of day and perhaps an offset,
`2001-12-14 21:59:43.10 -05:00`. `Timestamp.read?` splits a text into the numbers that were written;
whether there is such a moment is judged afterwards by `Timestamp.toMoment`.
-/

namespace StartupGate.Yaml

/-- The numbers of a written time of day. -/
structure WrittenTime where
  hour : Nat
  minute : Nat
  second : Nat
  micro : Nat
  /-- Minutes ahead of universal time. -/
  offset : Option Int
deriving Repr, DecidableEq

/-- The numbers of a written timestamp. -/
structure Timestamp where
  year : Nat
  month : Nat
  day : Nat
  time : Option WrittenTime
  /-- Whether month and day were written with two digits each. -/
  padded : Bool
deriving Repr, DecidableEq

/-- A text without one line feed at its end. -/
def dropFinalLineFeed (cs : List Char) : List Char :=
  if cs.getLast? = some '\n' then cs.dropLast else cs

namespace Timestamp

/-- Reads between `least` and `most` digits, as many as there are. -/
def digits? (least most : Nat) (cs : List Char) : Option (List Char × List Char) :=
  let ds := cs.takeWhile Text.isAsciiDigit
  if least ≤ ds.length ∧ ds.length ≤ most then some (ds, cs.dropWhile Text.isAsciiDigit) else none

/-- Moves past a character. -/
def expect? (c : Char) : List Char → Option (List Char)
  | [] => none
  | x :: r => if x = c then some r else none

/-- Whether a character is a space or a tab. -/
def isGap (c : Char) : Bool := c == ' ' || c == '\t'

/-- Reads the fraction of a second as microseconds; further digits are cut off. -/
def fraction : List Char → Nat × List Char
  | '.' :: r =>
    let ds := r.takeWhile Text.isAsciiDigit
    let six := ds.take 6
    (Number.ofAsciiDigits six * Number.tenPow (6 - six.length), r.dropWhile Text.isAsciiDigit)
  | r => (0, r)

/-- Reads the offset at the end of a timestamp, if there is one, in minutes. -/
def offset? (cs : List Char) : Option (Option Int) :=
  if cs.isEmpty then some none
  else match cs.dropWhile isGap with
    | ['Z'] => some (some 0)
    | sign :: r =>
      if sign = '+' ∨ sign = '-' then do
        let (hour, r) ← digits? 1 2 r
        let minute ← match r with
          | [] => some []
          | ':' :: r => do
            let (minute, r) ← digits? 2 2 r
            if r.isEmpty then some minute else none
          | _ => none
        let n : Int := Number.ofAsciiDigits hour * 60 + Number.ofAsciiDigits minute
        return some (if sign = '-' then -n else n)
      else none
    | [] => none

/-- Reads the time of day, with the offset after it. -/
def time? (cs : List Char) : Option WrittenTime := do
  let (hour, cs) ← digits? 1 2 cs
  let (minute, cs) ← digits? 2 2 (← expect? ':' cs)
  let (second, cs) ← digits? 2 2 (← expect? ':' cs)
  let (micro, cs) := fraction cs
  let offset ← offset? cs
  return { hour := Number.ofAsciiDigits hour, minute := Number.ofAsciiDigits minute,
           second := Number.ofAsciiDigits second, micro, offset }

/-- Splits a text into the numbers of a timestamp. -/
def read? (s : String) : Option Timestamp := do
  let (year, cs) ← digits? 4 4 (dropFinalLineFeed s.toList)
  let (month, cs) ← digits? 1 2 (← expect? '-' cs)
  let (day, cs) ← digits? 1 2 (← expect? '-' cs)
  let time ← match cs with
    | [] => some none
    | c :: r =>
      if c = 'T' ∨ c = 't' then (time? r).map some
      else if isGap c then (time? (r.dropWhile isGap)).map some
      else none
  return { year := Number.ofAsciiDigits year, month := Number.ofAsciiDigits month,
           day := Number.ofAsciiDigits day, time,
           padded := month.length = 2 ∧ day.length = 2 }

/-- Whether a text is a timestamp without being marked as one: a bare day needs two digits for month
and day. -/
def isEvident (s : String) : Bool :=
  match read? s with
  | some t => t.padded || t.time.isSome
  | none => false

/-- The moment that the numbers stand for. -/
def toMoment (t : Timestamp) : Except MomentError Moment :=
  match t.time with
  | none => Moment.day? t.year t.month t.day
  | some w => Moment.instant? t.year t.month t.day w.hour w.minute w.second w.micro w.offset

end Timestamp

end StartupGate.Yaml
