/-! The kinds of elements that annotations are made for. -/

namespace AspectWeaving

/-- What an annotation may be applied to, and what a target is. -/
inductive ElementKind where
  | classType
  | method
  | property
  | parameter
deriving DecidableEq, Repr, Inhabited

namespace ElementKind

/-- Every kind. -/
def all : List ElementKind := [.classType, .method, .property, .parameter]

/-- The word for a kind. -/
def text : ElementKind → String
  | .classType => "class"
  | .method => "method"
  | .property => "property"
  | .parameter => "parameter"

/-- The kind that a word stands for. -/
def ofText? (text : String) : Option ElementKind := all.find? fun kind => kind.text == text

end ElementKind

end AspectWeaving
