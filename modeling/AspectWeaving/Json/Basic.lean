import AspectWeaving.Decimal.Binary64
import AspectWeaving.Word

/-! Documents: the plain data that values carry. -/

namespace AspectWeaving

/-- A document; an integer and a floating-point number are never the same. -/
inductive Json where
  | null
  | bool (flag : Bool)
  | int (number : Int)
  | float (number : Binary64)
  | string (text : String)
  | array (items : List Json)
  | object (fields : List (String × Json))
deriving Inhabited, Repr

namespace Json

/-- Puts a field where its name belongs, in place of one with the same name. -/
def putField (name : String) (value : Json) : List (String × Json) → List (String × Json)
  | [] => [(name, value)]
  | field :: rest =>
    if field.1 = name then (name, value) :: rest
    else if name < field.1 then (name, value) :: field :: rest
    else field :: putField name value rest

/-- The object with the given fields: sorted by name, the last of two with one name kept. -/
def ofFields (fields : List (String × Json)) : Json :=
  .object (fields.foldl (fun sorted field => putField field.1 field.2 sorted) [])

mutual

/-- Whether two documents have the same content. -/
def same : Json → Json → Bool
  | .null, .null => true
  | .bool x, .bool y => x == y
  | .int x, .int y => x == y
  | .float x, .float y => x.sameNumber y
  | .string x, .string y => x == y
  | .array xs, .array ys => sameItems xs ys
  | .object xs, .object ys => sameFields xs ys
  | _, _ => false

/-- Whether two lists of documents agree item by item. -/
def sameItems : List Json → List Json → Bool
  | [], [] => true
  | x :: xs, y :: ys => same x y && sameItems xs ys
  | _, _ => false

/-- Whether two sorted lists of fields agree name by name. -/
def sameFields : List (String × Json) → List (String × Json) → Bool
  | [], [] => true
  | (name, x) :: xs, (other, y) :: ys => name == other && same x y && sameFields xs ys
  | _, _ => false

end

/-- The field of an object. -/
def field? (document : Json) (name : String) : Option Json :=
  match document with
  | .object fields => fields.lookup name
  | _ => none

/-- The field of an object, null if there is none. -/
def field (document : Json) (name : String) : Json := (document.field? name).getD .null

/-- The item of a list at a place, null behind its end. -/
def item (items : List Json) (place : Nat) : Json := items.getD place .null

/-- Whether a document is null. -/
def isNull : Json → Bool
  | .null => true
  | _ => false

/-- A document that is there and not null. -/
def given? : Json → Option Json
  | .null => none
  | document => some document

/-- The content of a string. -/
def string? : Json → Option String
  | .string text => some text
  | _ => none

/-- The truth value of a document that is one. -/
def bool? : Json → Option Bool
  | .bool flag => some flag
  | _ => none

/-- The number of a document that is a natural number. -/
def nat? : Json → Option Nat
  | .int (.ofNat n) => some n
  | _ => none

/-- The integer of a document, if it fits into sixty-four bits with sign. -/
def int? : Json → Option Int
  | .int n => if Word.holdsSigned n then some n else none
  | _ => none

/-- The items of an array; anything else has none. -/
def items : Json → List Json
  | .array items => items
  | _ => []

/-- The fields of an object; anything else has none. -/
def fields : Json → List (String × Json)
  | .object fields => fields
  | _ => []

/-- The content of a string; anything else has none. -/
def content (document : Json) : String := document.string?.getD ""

/-- A natural number as a document. -/
def ofNat (n : Nat) : Json := .int n

/-- A list of texts as a document. -/
def ofStrings (texts : List String) : Json := .array (texts.map .string)

/-- What may be missing as a document, null if it is. -/
def ofOption {α : Type} (toJson : α → Json) (found : Option α) : Json :=
  (found.map toJson).getD .null

end Json

end AspectWeaving
