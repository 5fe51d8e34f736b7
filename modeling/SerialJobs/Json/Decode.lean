import SerialJobs.Json.Basic

/-!
# Records and variants in JSON

How typed values sit in JSON. A record is an object of its fields in any order, or an array of all
of them in order. A variant with fields is an object whose tag member names it, or an array that
starts with the tag. A variant without fields is its name, or an object with the name as its one
member and `null` as the member's value.

A variant is looked at twice: its parts are kept until the tag is known. A value inside such kept
parts is read a little more freely than one taken straight from the document: a tag may be the
number of the variant, and an empty object may stand for `null`.
-/

namespace SerialJobs
namespace Json

/-- Whether a value is taken straight from the document or from parts kept for a variant. -/
inductive Origin
  | document
  | kept
deriving DecidableEq, Repr

/-- How deep a document may nest. -/
def depthLimit : Nat := 127

/-- The values of an object's member of the given name, in order. -/
def valuesOf (name : String) (members : List (Option String × Json)) : List Json :=
  members.filterMap fun m => if m.1 = some name then some m.2 else none

/-- The one value of a field: absent, or present; `none` when it is given twice. -/
def fieldOf (members : List (Option String × Json)) (name : String) : Option (Option Json) :=
  match valuesOf name members with
  | [] => some none
  | [j] => some (some j)
  | _ => none

/-- The fields of a record, in the order of `names`; an absent field of an object is `none`. -/
def fields (names : List String) : Json → Option (List (Option Json))
  | .arr xs => if xs.length = names.length then some (xs.map some) else none
  | .obj ms =>
    if ms.all (·.1.isSome) then names.mapM (fieldOf ms) else none
  | _ => none

/-- The number of the variant that a tag names. -/
def tagNumber (names : List String) (origin : Origin) : Json → Option Nat
  | .str s => names.idxOf? s
  | .int i => if origin = .kept ∧ 0 ≤ i ∧ i < names.length then some i.toNat else none
  | _ => none

/-- The variant that a tagged value chooses, and the rest of its parts. -/
def tagged (tag : String) (names : List String) (origin : Origin) : Json → Option (Nat × Json)
  | .arr (t :: xs) => do
    let n ← tagNumber names origin t
    some (n, .arr xs)
  | .obj ms => do
    let t ← (← fieldOf ms tag)
    let n ← tagNumber names origin t
    some (n, .obj (ms.filter (·.1 ≠ some tag)))
  | _ => none

/-- The parts of a variant without fields. -/
def noFields : Json → Option Unit
  | .arr [] => some ()
  | .obj _ => some ()
  | _ => none

/-- The value can stand for `null`. -/
def isUnit (origin : Origin) : Json → Bool
  | .null => true
  | .obj [] => origin = .kept
  | _ => false

/-- The number of a variant without fields. -/
def variantNumber (names : List String) (origin : Origin) : Json → Option Nat
  | .str s => names.idxOf? s
  | .obj [(some name, j)] => if isUnit origin j then names.idxOf? name else none
  | _ => none

/-- A text. -/
def asString : Json → Option String
  | .str s => some s
  | _ => none

/-- A truth value. -/
def asBool : Json → Option Bool
  | .bool b => some b
  | _ => none

/-- A whole number. -/
def asInt : Json → Option Int
  | .int i => some i
  | _ => none

/-- A list. -/
def asList {α : Type} (f : Json → Option α) : Json → Option (List α)
  | .arr xs => xs.mapM f
  | _ => none

/-- A field that must be there. -/
def required {α : Type} (f : Json → Option α) (j : Option Json) : Option α :=
  j.bind f

/-- A field that may be absent or `null`. -/
def optional {α : Type} (f : Json → Option α) : Option Json → Option (Option α)
  | none => some none
  | some .null => some none
  | some j => (f j).map some

end Json
end SerialJobs
