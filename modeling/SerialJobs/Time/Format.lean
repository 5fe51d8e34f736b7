import SerialJobs.Text.Blank
import SerialJobs.Text.Numeral
import SerialJobs.Time.Timestamp

/-!
# The text of a point in time

A point in time is written `2024-01-02T03:04:05.678Z`: years outside four digits carry a sign, and
a fraction has three, six or nine digits, as few as are needed. Reading is freer. Every number may
have fewer digits and blanks before it, the letter between date and time may be small or a space,
any count of fraction digits is read, and the time may be given with an offset from UTC.
-/

namespace SerialJobs
namespace Timestamp

/-! ## Writing -/

/-- A year: four digits, or a sign and at least four. -/
def writeYear (y : Int) : List Char :=
  if 0 ≤ y ∧ y ≤ 9999 then Text.padded 4 y.toNat
  else (if y < 0 then '-' else '+') :: Text.padded 4 y.natAbs

/-- A fraction of a second in three, six or nine digits, as few as are needed, or none. -/
def writeFraction (nano : Nat) : List Char :=
  if nano = 0 then []
  else if nano % 1000000 = 0 then '.' :: Text.padded 3 (nano / 1000000)
  else if nano % 1000 = 0 then '.' :: Text.padded 6 (nano / 1000)
  else '.' :: Text.padded 9 nano

/-- The characters of a point in time. -/
def write (t : Timestamp) : List Char :=
  let leap := t.nano / 1000000000
  writeYear t.date.year ++ '-' :: Text.padded 2 t.date.month ++ '-' :: Text.padded 2 t.date.day ++
    'T' :: Text.padded 2 t.hour ++ ':' :: Text.padded 2 t.minute ++
    ':' :: Text.padded 2 (t.second + leap) ++ writeFraction (t.nano % 1000000000) ++ ['Z']

/-- The text of a point in time. -/
def text (t : Timestamp) : String :=
  String.ofList t.write

/-! ## Reading -/

/-- Between one and `width` decimal digits, and what follows. -/
def readDigits (width : Nat) (cs : List Char) : Option (Nat × List Char) :=
  let ds := (cs.take width).takeWhile Char.isDigit
  if ds.isEmpty then none
  else some (Text.ofDigits ds, cs.drop ds.length)

/-- A number of at most `width` digits after blanks. -/
def readField (width : Nat) (cs : List Char) : Option (Nat × List Char) :=
  readDigits width (Text.trimStart cs)

/-- A year after blanks: up to four digits, or a sign and any count of them. -/
def readYear (cs : List Char) : Option (Int × List Char) :=
  match Text.trimStart cs with
  | '-' :: rest => (readDigits rest.length rest).map fun (n, rest) => (-(n : Int), rest)
  | '+' :: rest => (readDigits rest.length rest).map fun (n, rest) => ((n : Int), rest)
  | rest => (readDigits 4 rest).map fun (n, rest) => ((n : Int), rest)

/-- One character, after blanks. -/
def readMark (mark : Char) (cs : List Char) : Option (List Char) :=
  match Text.trimStart cs with
  | c :: rest => if c = mark then some rest else none
  | [] => none

/-- The nanoseconds of a fraction; digits beyond the ninth are skipped. Without a point there is no
fraction, and a point needs a digit. -/
def readFraction : List Char → Option (Nat × List Char)
  | '.' :: rest =>
    let ds := (rest.take 9).takeWhile Char.isDigit
    if ds.isEmpty then none
    else
      some (Text.ofDigits (ds ++ List.replicate (9 - ds.length) '0'), rest.dropWhile Char.isDigit)
  | cs => some (0, cs)

/-- The offset in minutes: a `Z`, the letters `UTC`, or a sign with two digits of hours and two of
minutes, which a colon or blanks may part. -/
def readOffset (cs : List Char) : Option (Int × List Char) :=
  match cs with
  | a :: b :: c :: rest =>
    if [a, b, c].map Text.lowerAscii = ['u', 't', 'c'] then some (0, rest) else signed cs
  | _ => signed cs
where
  /-- Two digits of hours, a separator, two digits of minutes. -/
  clock (sign : Int) : List Char → Option (Int × List Char)
    | h :: h' :: rest => do
      let hours := 10 * (← Text.digit? h) + (← Text.digit? h')
      match rest.dropWhile (fun c => c == ':' || Text.isBlank c) with
      | m :: m' :: rest => do
        let minutes := 10 * (← Text.digit? m) + (← Text.digit? m')
        if minutes < 60 then some (sign * (60 * hours + minutes : Nat), rest) else none
      | _ => none
    | _ => none
  /-- A `Z`, or a sign and a clock. -/
  signed : List Char → Option (Int × List Char)
    | [] => none
    | c :: rest =>
      if c = 'Z' ∨ c = 'z' then some (0, rest)
      else if c = '+' then clock 1 rest
      else if c = '-' ∨ c = '\u2212' then clock (-1) rest
      else none

/-- The point in time that a text denotes. -/
def ofText? (s : String) : Option Timestamp := do
  let (year, rest) ← readYear s.toList
  let rest ← readMark '-' rest
  let (month, rest) ← readField 2 rest
  let rest ← readMark '-' rest
  let (day, rest) ← readField 2 rest
  let rest ←
    match rest with
    | c :: rest => if c = 'T' ∨ c = 't' ∨ c = ' ' then some rest else none
    | [] => none
  let (hour, rest) ← readField 2 rest
  let rest ← readMark ':' rest
  let (minute, rest) ← readField 2 rest
  let rest ← readMark ':' rest
  let (second, rest) ← readField 2 rest
  let (nano, rest) ← readFraction rest
  let (offset, rest) ← readOffset (Text.trimStart rest)
  if !(Text.trimStart rest).isEmpty then none
  else if 1440 ≤ offset.natAbs then none
  else do
    let date ← Date.mk? year month day
    let t ←
      if second = 60 then mk? date hour minute 59 (nano + 1000000000)
      else mk? date hour minute second nano
    t.minusMinutes offset

end Timestamp
end SerialJobs
