import SerialJobs.Text.Numeral

/-!
# JSON values and their compact text

A value keeps what a reader may ask of it. A number is either a whole number of 64 bits, or any
other number, of which only its size matters. A string is either a text, or one whose escapes
spell no text (half of a surrogate pair); such a string, and a number too large for a double, are
legal where a value is skipped and are refused where it is kept.
-/

namespace SerialJobs

/-- A JSON value. An object is the list of its members in order; a member's name may spell no
text. -/
inductive Json
  | null
  | bool (b : Bool)
  | int (i : Int)
  /-- A number with a fraction, an exponent or too many digits; `finite` when a double can hold
  it. -/
  | real (finite : Bool)
  | str (s : String)
  /-- A string whose escapes leave a surrogate alone. -/
  | garbled
  | arr (items : List Json)
  | obj (members : List (Option String × Json))

namespace Json

mutual

/-- How deep arrays and objects nest in a value. -/
def height : Json → Nat
  | .arr xs => heights xs + 1
  | .obj ms => memberHeights ms + 1
  | _ => 0

/-- The greatest height among the values. -/
def heights : List Json → Nat
  | [] => 0
  | x :: xs => max x.height (heights xs)

/-- The greatest height among the members. -/
def memberHeights : List (Option String × Json) → Nat
  | [] => 0
  | (_, x) :: ms => max x.height (memberHeights ms)

end

mutual

/-- The value can be kept: every string in it spells a text and every number fits a double. -/
def keepable : Json → Bool
  | .real finite => finite
  | .garbled => false
  | .arr xs => allKeepable xs
  | .obj ms => membersKeepable ms
  | _ => true

/-- All the values can be kept. -/
def allKeepable : List Json → Bool
  | [] => true
  | x :: xs => x.keepable && allKeepable xs

/-- All the members can be kept. -/
def membersKeepable : List (Option String × Json) → Bool
  | [] => true
  | (name, x) :: ms => name.isSome && x.keepable && membersKeepable ms

end

/-- An object with the given members. -/
def record (members : List (String × Json)) : Json :=
  .obj (members.map fun m => (some m.1, m.2))

/-- `null` for an absent value. -/
def ofOption {α : Type} (f : α → Json) : Option α → Json
  | none => .null
  | some a => f a

/-! ## Compact text -/

/-- A character inside a JSON string. -/
def escapedChar (c : Char) : List Char :=
  if c = '"' then ['\\', '"']
  else if c = '\\' then ['\\', '\\']
  else if c = '\x08' then ['\\', 'b']
  else if c = '\x0c' then ['\\', 'f']
  else if c = '\n' then ['\\', 'n']
  else if c = '\r' then ['\\', 'r']
  else if c = '\t' then ['\\', 't']
  else if c.toNat < 32 then ['\\', 'u'] ++ Text.digits 16 4 c.toNat
  else [c]

/-- A text as a JSON string. -/
def writeString (s : String) : List Char :=
  '"' :: (s.toList.flatMap escapedChar ++ ['"'])

mutual

/-- The compact text of a value, without blanks. A value that no text was kept of is written
`null`. -/
def write : Json → List Char
  | .null => ['n', 'u', 'l', 'l']
  | .bool true => ['t', 'r', 'u', 'e']
  | .bool false => ['f', 'a', 'l', 's', 'e']
  | .int i => Text.decimalInt i
  | .str s => writeString s
  | .arr [] => ['[', ']']
  | .arr (x :: xs) => '[' :: (write x ++ writeItems xs)
  | .obj [] => ['\x7b', '\x7d']
  | .obj ((name, x) :: ms) =>
    '\x7b' :: (writeString (name.getD "") ++ ':' :: (write x ++ writeMembers ms))
  | .real _ => ['n', 'u', 'l', 'l']
  | .garbled => ['n', 'u', 'l', 'l']

/-- The items after the first, and the closing bracket. -/
def writeItems : List Json → List Char
  | [] => [']']
  | x :: xs => ',' :: (write x ++ writeItems xs)

/-- The members after the first, and the closing brace. -/
def writeMembers : List (Option String × Json) → List Char
  | [] => ['\x7d']
  | (name, x) :: ms =>
    ',' :: (writeString (name.getD "") ++ ':' :: (write x ++ writeMembers ms))

end

/-- The compact text of a value. -/
def text (j : Json) : String :=
  String.ofList j.write

end Json
end SerialJobs
