import AspectWeaving.Text.Alphanumeric
import AspectWeaving.Text.Blank

/-! References to annotations: a group, which may be empty, and a name. -/

namespace AspectWeaving

/-- The group and the name by which an annotation is known. -/
structure AnnotationRef where
  group : String
  name : String
deriving DecidableEq, Repr, Inhabited

/-- A text that is no reference. -/
structure InvalidAnnotationRef where
  text : String
deriving DecidableEq, Repr

/-- What a text that is no reference is answered with. -/
def InvalidAnnotationRef.message (invalid : InvalidAnnotationRef) : String :=
  "Invalid annotation reference `" ++ invalid.text ++ "`, expected `@group:Name` or `@Name`"

namespace AnnotationRef

/-- The written form, which leaves out an empty group. -/
def text (reference : AnnotationRef) : String :=
  if reference.group.isEmpty then "@" ++ reference.name
  else "@" ++ reference.group ++ ":" ++ reference.name

/-- Whether a character may stand in a group or a name. -/
def isNameChar (c : Char) : Bool :=
  Text.isAlphanumeric c || c == '_' || c == '-' || c == '.' || c == '$'

/-- Cuts a text at its first colon; without one the group is empty. -/
def splitGroup (body : List Char) : List Char × List Char :=
  match body.dropWhile (· ≠ ':') with
  | [] => ([], body)
  | _ :: name => (body.takeWhile (· ≠ ':'), name)

/-- Reads a reference that may have blanks around it. -/
def ofChars? (text : List Char) : Option AnnotationRef :=
  match Text.trim text with
  | '@' :: body =>
    let (group, name) := splitGroup body
    if name.isEmpty || !name.all isNameChar || !group.all isNameChar then none
    else some ⟨String.ofList group, String.ofList name⟩
  | _ => none

/-- Reads a reference; the failure keeps the text as it was given. -/
def parse (text : String) : Except InvalidAnnotationRef AnnotationRef :=
  match ofChars? text.toList with
  | some reference => .ok reference
  | none => .error ⟨text⟩

/-- References are ordered by group, then by name. -/
def le (x y : AnnotationRef) : Bool :=
  x.group < y.group || (x.group == y.group && x.name ≤ y.name)

end AnnotationRef

end AspectWeaving
