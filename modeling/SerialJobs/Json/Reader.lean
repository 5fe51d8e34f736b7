import SerialJobs.Json.Basic

/-!
# Reading JSON

A reader takes the characters still to come and returns what it read with those that follow. The
grammar is the standard one: four blank characters, no comments, no trailing commas, no leading
zeros, escapes for all control characters. Reading spends one unit of fuel for every value and every
further item, so the length of the text is always enough.
-/

namespace SerialJobs
namespace Json

/-- The four characters that may stand between the parts of a document. -/
def isSpace (c : Char) : Bool :=
  c == ' ' || c == '\n' || c == '\t' || c == '\r'

/-- The characters after any blanks. -/
def skipSpace (cs : List Char) : List Char :=
  cs.dropWhile isSpace

/-! ## Strings -/

/-- The number that four hexadecimal digits spell. -/
def hex4 (a b c d : Char) : Option Nat :=
  Text.ofHex [a, b, c, d]

/-- The character of an escape of one letter. -/
def escapeLetter (c : Char) : Option Char :=
  match c with
  | '"' => some '"'
  | '\\' => some '\\'
  | '/' => some '/'
  | 'b' => some '\x08'
  | 'f' => some '\x0c'
  | 'n' => some '\n'
  | 'r' => some '\r'
  | 't' => some '\t'
  | _ => none

/-- The units of a string up to its closing quote: a character, or the number of a `u` escape. -/
def readUnits : List Char → Option (List (Char ⊕ Nat) × List Char)
  | [] => none
  | '"' :: rest => some ([], rest)
  | '\\' :: 'u' :: a :: b :: c :: d :: rest => do
    let n ← hex4 a b c d
    let (us, rest) ← readUnits rest
    some (.inr n :: us, rest)
  | '\\' :: c :: rest => do
    let e ← escapeLetter c
    let (us, rest) ← readUnits rest
    some (.inl e :: us, rest)
  | c :: rest =>
    if c.toNat < 32 ∨ c = '\\' then none
    else do
      let (us, rest) ← readUnits rest
      some (.inl c :: us, rest)

/-- The text that the units spell: two halves of a surrogate pair, the high one first, make one
character, and a half alone makes none. -/
def spell : List (Char ⊕ Nat) → Option (List Char)
  | [] => some []
  | .inl c :: us => (spell us).map (c :: ·)
  | .inr n :: us =>
    if 0xd800 ≤ n ∧ n < 0xdc00 then
      match us with
      | .inr m :: us =>
        if 0xdc00 ≤ m ∧ m < 0xe000 then
          (spell us).map (Char.ofNat (0x10000 + (n - 0xd800) * 0x400 + (m - 0xdc00)) :: ·)
        else none
      | _ => none
    else if 0xdc00 ≤ n ∧ n < 0xe000 then none
    else (spell us).map (Char.ofNat n :: ·)

/-- A string after its opening quote; `none` inside when it spells no text. -/
def readString (cs : List Char) : Option (Option String × List Char) := do
  let (us, rest) ← readUnits cs
  some ((spell us).map String.ofList, rest)

/-! ## Numbers -/

/-- The decimal digits that a text starts with, and what follows. -/
def spanDigits (cs : List Char) : List Char × List Char :=
  (cs.takeWhile Char.isDigit, cs.dropWhile Char.isDigit)

/-- The whole part of a number: a zero alone, or digits that start with no zero. -/
def readWhole : List Char → Option (List Char × List Char)
  | [] => none
  | '0' :: rest =>
    match rest with
    | c :: _ => if c.isDigit then none else some (['0'], rest)
    | [] => some (['0'], rest)
  | c :: rest => if c.isDigit then some (spanDigits (c :: rest)) else none

/-- The fraction of a number: absent, or a point and one or more digits. -/
def readFraction : List Char → Option (Option (List Char) × List Char)
  | '.' :: rest =>
    let (ds, rest) := spanDigits rest
    if ds.isEmpty then none else some (some ds, rest)
  | cs => some (none, cs)

/-- The exponent of a number: absent, or a letter, an optional sign and one or more digits. -/
def readExponent : List Char → Option (Option Int × List Char)
  | c :: rest =>
    if c = 'e' ∨ c = 'E' then
      let (negative, rest) :=
        match rest with
        | '+' :: rest => (false, rest)
        | '-' :: rest => (true, rest)
        | _ => (false, rest)
      let (ds, rest) := spanDigits rest
      if ds.isEmpty then none
      else some (some (if negative then -(Text.ofDigits ds : Int) else Text.ofDigits ds), rest)
    else some (none, c :: rest)
  | [] => some (none, [])

/-- Halfway between the greatest double and the next power of two: from here on, no double is
near. -/
def doubleEnd : Nat := Nat.pow 2 1024 - Nat.pow 2 970

/-- A double can hold `m` times ten to the `e`. Where the count of digits alone does not decide, the
number is compared with the end of the doubles. -/
def fitsDouble (m : Nat) (e : Int) : Bool :=
  let size := (Text.decimal m).length + e
  if m = 0 ∨ size ≤ 308 then true
  else if 310 < size then false
  else m * Nat.pow 10 e.toNat < doubleEnd * Nat.pow 10 (-e).toNat

/-- A number: whole when it has neither fraction nor exponent, is no minus zero, and has 64 bits. -/
def number (negative : Bool) (whole : List Char) (fraction : Option (List Char))
    (exponent : Option Int) : Json :=
  let m := Text.ofDigits whole
  let other :=
    let fs := fraction.getD []
    .real (fitsDouble (Text.ofDigits (whole ++ fs)) (exponent.getD 0 - fs.length))
  if fraction.isSome || exponent.isSome then other
  else if negative then (if 0 < m ∧ m ≤ UInt64.size / 2 then .int (-m) else other)
  else if m < UInt64.size then .int m else other

/-- A number after its sign. -/
def readNumber (negative : Bool) (cs : List Char) : Option (Json × List Char) := do
  let (whole, rest) ← readWhole cs
  let (fraction, rest) ← readFraction rest
  let (exponent, rest) ← readExponent rest
  some (number negative whole fraction exponent, rest)

/-! ## Values -/

mutual

/-- A value, blanks before it skipped. -/
def readValue : Nat → List Char → Option (Json × List Char)
  | 0, _ => none
  | fuel + 1, cs =>
    match skipSpace cs with
    | 'n' :: 'u' :: 'l' :: 'l' :: rest => some (.null, rest)
    | 't' :: 'r' :: 'u' :: 'e' :: rest => some (.bool true, rest)
    | 'f' :: 'a' :: 'l' :: 's' :: 'e' :: rest => some (.bool false, rest)
    | '"' :: rest => do
      let (s, rest) ← readString rest
      some (s.elim .garbled .str, rest)
    | '[' :: rest =>
      match skipSpace rest with
      | ']' :: rest => some (.arr [], rest)
      | _ => do
        let (xs, rest) ← readItems fuel rest
        some (.arr xs, rest)
    | '\x7b' :: rest =>
      match skipSpace rest with
      | '\x7d' :: rest => some (.obj [], rest)
      | _ => do
        let (ms, rest) ← readMembers fuel rest
        some (.obj ms, rest)
    | '-' :: rest => readNumber true rest
    | rest => readNumber false rest

/-- One or more items, and the closing bracket. -/
def readItems : Nat → List Char → Option (List Json × List Char)
  | 0, _ => none
  | fuel + 1, cs => do
    let (x, rest) ← readValue fuel cs
    match skipSpace rest with
    | ',' :: rest => do
      let (xs, rest) ← readItems fuel rest
      some (x :: xs, rest)
    | ']' :: rest => some ([x], rest)
    | _ => none

/-- One or more members, and the closing brace. -/
def readMembers : Nat → List Char → Option (List (Option String × Json) × List Char)
  | 0, _ => none
  | fuel + 1, cs =>
    match skipSpace cs with
    | '"' :: rest => do
      let (name, rest) ← readString rest
      match skipSpace rest with
      | ':' :: rest => do
        let (x, rest) ← readValue fuel rest
        match skipSpace rest with
        | ',' :: rest => do
          let (ms, rest) ← readMembers fuel rest
          some ((name, x) :: ms, rest)
        | '\x7d' :: rest => some ([(name, x)], rest)
        | _ => none
      | _ => none
    | _ => none

end

/-- The value of a whole document. -/
def parse (s : String) : Option Json := do
  let cs := s.toList
  let (j, rest) ← readValue (cs.length + 1) cs
  if (skipSpace rest).isEmpty then some j else none

end Json
end SerialJobs
