import SerialJobs.Text.Blank
import SerialJobs.Text.Numeral

/-!
# Job identities

A job is named by 128 bits, written as 32 hexadecimal digits in groups of 8, 4, 4, 4 and 12.
Besides that form a reader takes the digits without hyphens, the grouped form in braces, and the
grouped form after `urn:uuid:`; digits and that word may have capitals.
-/

namespace SerialJobs

/-- The identity of a job. -/
structure JobId where
  bits : BitVec 128
deriving DecidableEq, Repr

namespace JobId

/-- The identity with the given number. -/
def ofNat (n : Nat) : JobId := ⟨BitVec.ofNat 128 n⟩

/-- The sizes of the groups of digits. -/
def groups : List Nat := [8, 4, 4, 4, 12]

/-- Cuts a text into groups of the given sizes, with a hyphen between two of them. -/
def hyphenate : List Nat → List Char → List Char
  | [], cs => cs
  | [_], cs => cs
  | n :: ns, cs => cs.take n ++ '-' :: hyphenate ns (cs.drop n)

/-- Undoes `hyphenate`, where the hyphens stand in the right places and the sizes fit. -/
def unhyphenate : List Nat → List Char → Option (List Char)
  | [], cs => if cs.isEmpty then some [] else none
  | [n], cs => if cs.length = n then some cs else none
  | n :: ns, cs =>
    match cs.drop n with
    | '-' :: rest => (unhyphenate ns rest).map (cs.take n ++ ·)
    | _ => none

/-- The characters of an identity. -/
def write (id : JobId) : List Char :=
  hyphenate groups (Text.digits 16 32 id.bits.toNat)

/-- The text of an identity. -/
def text (id : JobId) : String :=
  String.ofList id.write

/-- An identity shown by its name and its text. -/
def shown (id : JobId) : String :=
  "JobId(" ++ id.text ++ ")"

/-- The digits in a text of one of the four forms. -/
def digitsIn (cs : List Char) : Option (List Char) :=
  if cs.length = 32 then some cs
  else if cs.length = 36 then unhyphenate groups cs
  else if cs.length = 38 then
    if cs.head? = some '\x7b' ∧ cs.getLast? = some '\x7d' then
      unhyphenate groups (cs.drop 1).dropLast
    else none
  else if cs.length = 45 then
    if (cs.take 9).map Text.lowerAscii = "urn:uuid:".toList then unhyphenate groups (cs.drop 9)
    else none
  else none

/-- The identity that a text denotes. -/
def ofText? (s : String) : Option JobId := do
  let n ← Text.ofHex (← digitsIn s.toList)
  some (ofNat n)

end JobId
end SerialJobs
