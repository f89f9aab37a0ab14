import Overlay.Text.Decimal
import Overlay.Time.Calendar
import Overlay.Time.Instant

/-!
# Timestamps as text

Instants are kept as RFC 3339 text in UTC: `2001-02-03T04:05:06.789+00:00`. The fraction has the
fewest of 0, 3, 6 or 9 digits that are exact, a leap second is written as second 60, and a year
outside 0..9999 is written with its sign. For years 0..9999 the order of the texts is the order of
the instants.

A reader takes any offset, a `t` or a blank in place of `T`, and any number of digits in the
fraction, of which the first nine count; it does not take a year with a sign.
-/

namespace Overlay.Instant

/-! ## Writing -/

/-- A year: four digits, or its sign and at least four digits. -/
def yearChars (year : Int) : List Char :=
  if 0 ≤ year && year ≤ 9999 then Text.padded 4 year.toNat
  else (if year < 0 then '-' else '+') :: Text.padded 4 year.natAbs

/-- The fraction of a second in the fewest of 0, 3, 6 or 9 digits. -/
def fractionChars (nanos : Nat) : List Char :=
  if nanos = 0 then []
  else if nanos % 1000000 = 0 then '.' :: Text.padded 3 (nanos / 1000000)
  else if nanos % 1000 = 0 then '.' :: Text.padded 6 (nanos / 1000)
  else '.' :: Text.padded 9 nanos

/-- The written form of an instant. -/
def chars (t : Instant) : List Char :=
  let date := Date.ofDays (t.seconds / 86400)
  let second := (t.seconds % 86400).toNat
  let leap := if 1000000000 ≤ t.nanos then 1 else 0
  yearChars date.year ++ '-' :: (Text.padded 2 date.month ++ '-' :: (Text.padded 2 date.day ++
    'T' :: (Text.padded 2 (second / 3600) ++ ':' :: (Text.padded 2 (second / 60 % 60) ++
      ':' :: (Text.padded 2 (second % 60 + leap) ++
        (fractionChars (t.nanos % 1000000000) ++ "+00:00".toList))))))

/-- The written form of an instant as text. -/
def render (t : Instant) : String := String.ofList t.chars

/-! ## Reading -/

/-- A number below `bound` of exactly these digits. -/
def below? (bound : Nat) (cs : List Char) : Option Nat :=
  (Text.decimal? cs).bind fun n => if n < bound then some n else none

/-- The fraction after the seconds and the rest of the text: no point at all, or a point and at
least one digit. Digits after the ninth are dropped. -/
def fraction? (cs : List Char) : Option (Nat × List Char) :=
  match cs with
  | '.' :: rest =>
    let digits := rest.takeWhile Char.isDigit
    if digits.isEmpty then none
    else some (Text.ofDecimal ((digits ++ List.replicate 9 '0').take 9), rest.dropWhile Char.isDigit)
  | _ => some (0, cs)

/-- The sign of an offset: plus, hyphen, or the minus sign U+2212. -/
def sign? (c : Char) : Option Int :=
  if c = '+' then some 1 else if c = '-' || c = '\u2212' then some (-1) else none

/-- The offset from UTC in seconds. -/
def offset? (cs : List Char) : Option Int :=
  match cs with
  | ['Z'] | ['z'] => some 0
  | [sign, h1, h2, ':', m1, m2] => do
    let sign ← sign? sign
    let hours ← below? 24 [h1, h2]
    let minutes ← below? 60 [m1, m2]
    some (sign * (hours * 3600 + minutes * 60))
  | _ => none

/-- The day that a four-digit year, a month and a day name. -/
def day? (year month day : List Char) : Option Int := do
  let year ← below? 10000 year
  let month ← below? 100 month
  let day ← below? 100 day
  let date : Date := ⟨year, month, day⟩
  if date.Valid then some date.toDays else none

/-- The instant that a run of characters spells. -/
def ofChars? (cs : List Char) : Option Instant :=
  match cs with
  | y1 :: y2 :: y3 :: y4 :: '-' :: m1 :: m2 :: '-' :: d1 :: d2 :: t ::
      h1 :: h2 :: ':' :: i1 :: i2 :: ':' :: s1 :: s2 :: rest => do
    let day ← day? [y1, y2, y3, y4] [m1, m2] [d1, d2]
    if t = 'T' || t = 't' || t = ' ' then
      let hour ← below? 24 [h1, h2]
      let minute ← below? 60 [i1, i2]
      let second ← below? 61 [s1, s2]
      let (nanos, rest) ← fraction? rest
      let offset ← offset? rest
      let seconds := day * 86400 + hour * 3600 + minute * 60 + (min second 59 : Nat) - offset
      of? seconds (if second = 60 then nanos + 1000000000 else nanos)
    else none
  | _ => none

/-- The instant that a text spells. -/
def parse? (s : String) : Option Instant := ofChars? s.toList

end Overlay.Instant
