import Baseball.Json.Token
import Baseball.Keyed

/-!
# Reading JSON texts

Tokens are put together from left to right, with the arrays and objects that are not closed yet on a
stack. Of several fields with one name in an object the last counts, and fields are kept in the order
of their names.

## Main definitions

* `Frame` — an array or object that is not closed yet
* `Reader` — the stack and what may come next, with `Reader.read`
* `Json.parse?` — the value of a text
-/

namespace Baseball.Json

/-- An array or object that is not closed yet, its parts last first. -/
inductive Frame where
  | array (items : List Json)
  /-- The name belongs to the field whose value is being read. -/
  | object (fields : List (String × Json)) (name : String)

/-- What may come next. -/
inductive Expected where
  | value
  /-- A value, or the end of an array that is still empty. -/
  | firstItem
  /-- A name, or the end of an object that is still empty. -/
  | firstName
  | name
  | colon
  /-- A comma, or the end of an array or object. -/
  | separator
  /-- Nothing: the value is complete. -/
  | nothing (result : Json)

/-- The arrays and objects that are not closed yet, innermost first, and what may come next. -/
structure Reader where
  frames : List Frame := []
  expected : Expected := .value

namespace Reader

/-- Puts a value where it belongs. -/
def put (frames : List Frame) (j : Json) : Reader :=
  match frames with
  | [] => ⟨[], .nothing j⟩
  | .array items :: rest => ⟨.array (j :: items) :: rest, .separator⟩
  | .object fields name :: rest => ⟨.object ((name, j) :: fields) "" :: rest, .separator⟩

/-- Begins a value. -/
def begin? (r : Reader) : Token → Option Reader
  | .scalar j => some (put r.frames j)
  | .openArray => some ⟨.array [] :: r.frames, .firstItem⟩
  | .openObject => some ⟨.object [] "" :: r.frames, .firstName⟩
  | _ => none

/-- Ends an array. -/
def closeArray? (r : Reader) : Option Reader :=
  match r.frames with
  | .array items :: rest => some (put rest (array items.reverse))
  | _ => none

/-- Ends an object. -/
def closeObject? (r : Reader) : Option Reader :=
  match r.frames with
  | .object fields _ :: rest =>
    some (put rest (object (Keyed.ofList fields.reverse).entries))
  | _ => none

/-- Takes the name of a field. -/
def name? (r : Reader) : Token → Option Reader
  | .scalar (.string name) =>
    match r.frames with
    | .object fields _ :: rest => some ⟨.object fields name :: rest, .colon⟩
    | _ => none
  | _ => none

/-- Reads what stands after a part of an array or object. -/
def separate? (r : Reader) : Token → Option Reader
  | .comma =>
    match r.frames with
    | .array _ :: _ => some { r with expected := .value }
    | .object _ _ :: _ => some { r with expected := .name }
    | [] => none
  | .closeArray => r.closeArray?
  | .closeObject => r.closeObject?
  | _ => none

/-- Reads a token; none if it cannot stand there. -/
def read (r : Reader) (t : Token) : Option Reader :=
  match r.expected, t with
  | .value, t => r.begin? t
  | .firstItem, .closeArray => r.closeArray?
  | .firstItem, t => r.begin? t
  | .firstName, .closeObject => r.closeObject?
  | .firstName, t => r.name? t
  | .name, t => r.name? t
  | .colon, .colon => some { r with expected := .value }
  | .colon, _ => none
  | .separator, t => r.separate? t
  | .nothing _, _ => none

/-- The value, once it is complete. -/
def result? (r : Reader) : Option Json :=
  match r.expected with
  | .nothing j => some j
  | _ => none

end Reader

/-- The value of a text, none if it is no JSON. -/
def parse? (s : String) : Option Json := do
  (← (← tokens? s).foldlM Reader.read {}).result?

end Baseball.Json
