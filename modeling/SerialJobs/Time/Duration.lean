import SerialJobs.Text.Numeral

/-!
# Lengths of time

A length of time has whole seconds of 64 bits and nanoseconds below one second. It is shown in the
largest unit that it fills, with exactly the digits it needs.
-/

namespace SerialJobs

/-- A length of time. -/
structure Duration where
  /-- Whole seconds. -/
  seconds : UInt64
  /-- The nanoseconds beyond the whole seconds. -/
  nanos : Fin 1000000000
deriving DecidableEq, Repr

namespace Duration

/-- No time at all. -/
def zero : Duration := ⟨0, 0⟩

/-- So many seconds. -/
def ofSeconds (n : UInt64) : Duration := ⟨n, 0⟩

/-- So many milliseconds. -/
def ofMillis (n : UInt64) : Duration :=
  ⟨n / 1000, Fin.ofNat 1000000000 (n.toNat % 1000 * 1000000)⟩

/-- The length from its parts; `none` when the nanoseconds make a second. -/
def ofParts? (seconds : UInt64) (nanos : Nat) : Option Duration :=
  if h : nanos < 1000000000 then some ⟨seconds, ⟨nanos, h⟩⟩ else none

/-- The length in nanoseconds. -/
def toNanos (d : Duration) : Nat := d.seconds.toNat * 1000000000 + d.nanos

/-- The whole milliseconds in the length. -/
def toMillis (d : Duration) : Nat := d.toNanos / 1000000

/-- The milliseconds cut to 64 bits. -/
def millis64 (d : Duration) : UInt64 := UInt64.ofNat d.toMillis

/-- The length of so many nanoseconds, cut to the range of lengths. -/
def ofNanos (n : Nat) : Duration :=
  ⟨UInt64.ofNat (n / 1000000000), Fin.ofNat 1000000000 n⟩

/-- The length is zero. -/
def isZero (d : Duration) : Bool := d.toNanos == 0

/-- The ticks of one millisecond that a timer set to this length takes: a started tick counts whole.
A length that leaves the range of the clock counts as thirty years. -/
def ticks (d : Duration) : Nat :=
  if d.seconds.toNat < UInt64.size / 2 then (d.toNanos + 999999) / 1000000
  else 86400 * 365 * 30 * 1000

/-- A fraction of `unit`, as a point and its digits without trailing zeros; nothing when it is
zero. -/
def fractionDigits (unit part : Nat) : List Char :=
  if part = 0 then []
  else
    let width := (Text.decimal unit).length - 1
    '.' :: ((Text.digits 10 width part).reverse.dropWhile (· = '0')).reverse

/-- The length in the largest unit that it fills: `1.5s`, `250ms`, `1.5µs`, `999ns`. -/
def shown (d : Duration) : String :=
  let n := d.nanos.val
  if d.seconds ≠ 0 then
    String.ofList (Text.decimal d.seconds.toNat ++ fractionDigits 1000000000 n) ++ "s"
  else if 1000000 ≤ n then
    String.ofList (Text.decimal (n / 1000000) ++ fractionDigits 1000000 (n % 1000000)) ++ "ms"
  else if 1000 ≤ n then
    String.ofList (Text.decimal (n / 1000) ++ fractionDigits 1000 (n % 1000)) ++ "µs"
  else String.ofList (Text.decimal n) ++ "ns"

end Duration
end SerialJobs
