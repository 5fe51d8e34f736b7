/-!
# Numerals

Numbers as text: decimal numerals, written with no superfluous zero and read with a bound, and
hexadecimal digits of a fixed count. Reading goes from the left, so the first character that is no
digit and the first digit that leaves the bound compete, and whichever comes first names the error.
-/

namespace SerialJobs
namespace Text

/-- The character of a digit below sixteen. -/
def digitChar (d : Nat) : Char :=
  if d < 10 then Char.ofNat (48 + d) else Char.ofNat (87 + d)

/-- The value of a decimal digit. -/
def digit? (c : Char) : Option Nat :=
  if '0' ≤ c ∧ c ≤ '9' then some (c.toNat - 48) else none

/-- The value of a hexadecimal digit, in either case. -/
def hexDigit? (c : Char) : Option Nat :=
  if '0' ≤ c ∧ c ≤ '9' then some (c.toNat - 48)
  else if 'a' ≤ c ∧ c ≤ 'f' then some (c.toNat - 87)
  else if 'A' ≤ c ∧ c ≤ 'F' then some (c.toNat - 55)
  else none

/-- Decimal digits of a number, most significant first. -/
def decimal (n : Nat) : List Char :=
  if n < 10 then [digitChar n] else decimal (n / 10) ++ [digitChar (n % 10)]

/-- Decimal digits of an integer, after a minus sign where it is negative. -/
def decimalInt : Int → List Char
  | .ofNat n => decimal n
  | .negSucc n => '-' :: decimal (n + 1)

/-- The lowest `k` digits of a number in base `b`, most significant first. -/
def digits (b : Nat) : Nat → Nat → List Char
  | 0, _ => []
  | k + 1, n => digits b k (n / b) ++ [digitChar (n % b)]

/-- A number with at least `k` decimal digits, filled up with zeros from the left. -/
def padded (k n : Nat) : List Char :=
  let ds := decimal n
  List.replicate (k - ds.length) '0' ++ ds

/-- The hexadecimal digits of a number, most significant first. -/
def hexadecimal (n : Nat) : List Char :=
  if n < 16 then [digitChar n] else hexadecimal (n / 16) ++ [digitChar (n % 16)]

/-- The number that a run of decimal digits stands for. -/
def ofDigits (cs : List Char) : Nat :=
  cs.foldl (fun n c => 10 * n + (c.toNat - 48)) 0

/-- The number that a run of hexadecimal digits stands for. -/
def ofHex (cs : List Char) : Option Nat :=
  cs.foldlM (fun n c => (hexDigit? c).map (16 * n + ·)) 0

/-- Why a text is no numeral within the bound. -/
inductive NumeralError
  /-- A character is no decimal digit, or there is no digit at all. -/
  | invalidDigit
  /-- The number exceeds the bound. -/
  | tooLarge
deriving DecidableEq, Repr

/-- The wording of a numeral's error. -/
def NumeralError.message : NumeralError → String
  | .invalidDigit => "invalid digit found in string"
  | .tooLarge => "number too large to fit in target type"

/-- Reads further digits after a number already read, at most `bound`. -/
def readDigits (bound : Nat) : Nat → List Char → Except NumeralError Nat
  | n, [] => .ok n
  | n, c :: cs =>
    match digit? c with
    | none => .error .invalidDigit
    | some d => if 10 * n + d ≤ bound then readDigits bound (10 * n + d) cs else .error .tooLarge

/-- Reads a number of at most `bound`: an optional plus sign, then one or more decimal digits. -/
def readNumber (bound : Nat) : List Char → Except NumeralError Nat
  | [] => .error .invalidDigit
  | '+' :: [] => .error .invalidDigit
  | '+' :: cs => readDigits bound 0 cs
  | cs => readDigits bound 0 cs

end Text
end SerialJobs
