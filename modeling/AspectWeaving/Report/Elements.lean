import AspectWeaving.Annotations.Basic
import AspectWeaving.Element.Forest

/-! The documents that describe elements of classes and their decorations. -/

namespace AspectWeaving

/-- A class number as a document. -/
def ClassId.toJson (id : ClassId) : Json := .ofNat id.number

/-- The document of a location. -/
def Location.toJson (location : Location) : Json :=
  .ofFields [
    ("kind", .string location.kind.text),
    ("class", location.owner.toJson),
    ("member", .ofOption .string location.member?),
    ("index", .ofOption .ofNat location.index?)]

/-- The document of a member's tree. -/
def MemberTree.toJson (tree : MemberTree) : Json :=
  .ofFields [
    ("location", tree.location.toJson),
    ("args", .array (tree.parameters.map Location.toJson)),
    ("is_method", .bool tree.isMethod)]

/-- The document of a class's tree. -/
def ClassTree.toJson (tree : ClassTree) : Json :=
  .ofFields [
    ("location", tree.location.toJson),
    ("parent", .ofOption ClassId.toJson tree.parent),
    ("members", .array (tree.members.values.map MemberTree.toJson))]

/-- The fields that describe a target. -/
def Target.toFields (target : Target) : List (String × Json) :=
  let reference (other : Target) : Json := .string other.reference
  [ ("kind", .string target.kind.text),
    ("class", target.owner.id.toJson),
    ("name", .string target.name),
    ("label", .string target.label),
    ("reference", reference target),
    ("key", .ofOption .string target.key?),
    ("index", .ofOption .ofNat target.index?),
    ("declaring", reference target.declaringClass),
    ("parent", .ofOption reference target.parent?),
    ("parent_class", .ofOption reference target.parentClass?),
    ("class_name", .string target.className),
    ("location", target.location.toJson),
    ("debug", .string target.debugText)]

/-- The document of a target. -/
def Target.toJson (target : Target) : Json := .ofFields target.toFields

variable {β : Type}

/-- The document of a decoration, given the debug texts of values. -/
def Decoration.toJson (debugText : Value → String) (decoration : Decoration β) : Json :=
  .array [
    .string decoration.reference.text,
    .string decoration.target.reference,
    .ofStrings (decoration.args.map debugText)]

/-- The document of decorations. -/
def Decoration.listJson (debugText : Value → String) (decorations : List (Decoration β)) :
    Json :=
  .array (decorations.map (Decoration.toJson debugText))

end AspectWeaving
