import Baseball.Text.Layout

/-!
# JSON values

A JSON value with its object fields in order. Whole numbers are kept apart from other numbers: a
number that was written with a point or an exponent is no whole number, whatever its value.

## Main definitions

* `Json` — a value
* `Json.get?` — a field of an object
* `DecodeError`, `Decoded` — why a value is not what was expected
* `Json.toNat`, `toText`, `toList`, `field`, `fieldD` and their like — what was expected, or an error
-/

namespace Baseball

/-- A JSON value. -/
inductive Json where
  | null
  | bool (value : Bool)
  /-- A whole number. -/
  | int (value : Int)
  /-- A number that is not written as a whole number. -/
  | real (value : Float)
  | string (value : String)
  | array (items : List Json)
  /-- Fields in order, no two of one name. -/
  | object (fields : List (String × Json))
deriving Inhabited

/-- Why a value is not what was expected. -/
inductive DecodeError where
  /-- It has another type, lacks a field, or is out of range. -/
  | mismatch
  /-- A number from 0 to 255 that stands for no position. -/
  | position (code : Nat)
  /-- A number from 0 to 255 that stands for no destination. -/
  | destination (code : Nat)
  /-- A number that stands for neither the plate nor a base. -/
  | origin (number : Nat)
  /-- More characters than a field of a line, or more places than a decimal, can have. -/
  | width (count : Nat)
deriving DecidableEq

/-- The wording of an error. -/
def DecodeError.message : DecodeError → String
  | mismatch => "unexpected value"
  | position code => "invalid fielding position code " ++ code.repr
  | destination code => "invalid advance destination code " ++ code.repr
  | origin number => "invalid base number " ++ number.repr
  | width count => "invalid width " ++ count.repr

/-- A value that was expected, or why there is none. -/
abbrev Decoded (α : Type) := Except DecodeError α

/-- The value of an option, a mismatch if there is none. -/
def Decoded.ofOption {α : Type} : Option α → Decoded α
  | some x => .ok x
  | none => .error .mismatch

namespace Json

/-! ### Simple values -/

/-- A truth value. -/
def toBool : Json → Decoded Bool
  | bool b => .ok b
  | _ => .error .mismatch

/-- A whole number within bounds. -/
def toIntIn (low high : Int) : Json → Decoded Int
  | int n => if low ≤ n ∧ n ≤ high then .ok n else .error .mismatch
  | _ => .error .mismatch

/-- A whole number from 0 to a bound. -/
def toNatUpTo (high : Nat) : Json → Decoded Nat
  | int (.ofNat n) => if n ≤ high then .ok n else .error .mismatch
  | _ => .error .mismatch

/-- The greatest number that slots, outs and the like can have. -/
def smallMax : Nat := 255

/-- The greatest count a line can have. -/
def countMax : Nat := 0xFFFFFFFF

/-- The greatest limit or index. -/
def sizeMax : Nat := 0xFFFFFFFFFFFFFFFF

/-- A number from 0 to 255. -/
def toSmall : Json → Decoded Nat := toNatUpTo smallMax

/-- A count. -/
def toCount : Json → Decoded Nat := toNatUpTo countMax

/-- A limit or index. -/
def toSize : Json → Decoded Nat := toNatUpTo sizeMax

/-- A width or a number of places. -/
def toWidth (j : Json) : Decoded Nat := do
  let count ← j.toSize
  if count ≤ widthMax then .ok count else .error (.width count)

/-- Any number. -/
def toFloat : Json → Decoded Float
  | int n => .ok (.ofInt n)
  | real x => .ok x
  | _ => .error .mismatch

/-- A text. -/
def toText : Json → Decoded String
  | string s => .ok s
  | _ => .error .mismatch

/-- The items of an array. -/
def items : Json → Decoded (List Json)
  | array xs => .ok xs
  | _ => .error .mismatch

/-- An array of values of one kind. -/
def toList {α : Type} (decode : Json → Decoded α) (j : Json) : Decoded (List α) := do
  (← j.items).mapM decode

/-- A value, or null for none. -/
def toOption {α : Type} (decode : Json → Decoded α) : Json → Decoded (Option α)
  | null => .ok none
  | j => some <$> decode j

/-- The array of some values. -/
def ofList {α : Type} (encode : α → Json) (xs : List α) : Json := array (xs.map encode)

/-- A value, or null for none. -/
def ofOption {α : Type} (encode : α → Json) : Option α → Json
  | none => null
  | some x => encode x

/-- A count. -/
def ofNat (n : Nat) : Json := int n

/-- An array of texts. -/
def ofTexts (ss : List String) : Json := ofList string ss

/-- A text, or null for none. -/
def ofText? (s : Option String) : Json := ofOption string s

/-! ### Named values -/

/-- The name in a value that is one of several names: a text, or an object whose one field is null. -/
def toName : Json → Decoded String
  | string s => .ok s
  | object [(s, null)] => .ok s
  | _ => .error .mismatch

/-- The number up to a bound in a name that is the number's decimal form. -/
def numberOfName (high : Nat) (name : String) : Decoded Nat :=
  match name.toNat? with
  | some n => if n ≤ high ∧ n.repr = name then .ok n else .error .mismatch
  | none => .error .mismatch

/-! ### Records -/

/-- A field of some fields. -/
def get? (fields : List (String × Json)) (name : String) : Option Json :=
  (fields.find? fun f => f.1 == name).map Prod.snd

/-- The fields of a record: those of an object, or the items of an array in the order of the field
names, of which the last may be missing. -/
def toFields (names : List String) : Json → Decoded (List (String × Json))
  | object fields => .ok fields
  | array xs => if xs.length ≤ names.length then .ok (names.zip xs) else .error .mismatch
  | _ => .error .mismatch

/-- A field that must be there. -/
def field {α : Type} (fields : List (String × Json)) (name : String) (decode : Json → Decoded α) :
    Decoded α :=
  match get? fields name with
  | some j => decode j
  | none => .error .mismatch

/-- A field with a value for when it is missing. -/
def fieldD {α : Type} (fields : List (String × Json)) (name : String) (decode : Json → Decoded α)
    (default : α) : Decoded α :=
  match get? fields name with
  | some j => decode j
  | none => .ok default

/-- A field that may be missing or null. -/
def field? {α : Type} (fields : List (String × Json)) (name : String)
    (decode : Json → Decoded α) : Decoded (Option α) :=
  fieldD fields name (toOption decode) none

/-- A field with a value for when it is missing or null. -/
def fieldOr {α : Type} (fields : List (String × Json)) (name : String)
    (decode : Json → Decoded α) (default : α) : Decoded α :=
  (·.getD default) <$> field? fields name decode

/-- The fields of an object. -/
def objectFields : Json → Decoded (List (String × Json))
  | object fields => .ok fields
  | _ => .error .mismatch

/-- A field that is left out if there is no value. -/
def optionalField {α : Type} (name : String) (encode : α → Json) :
    Option α → List (String × Json)
  | none => []
  | some x => [(name, encode x)]

end Json

end Baseball
