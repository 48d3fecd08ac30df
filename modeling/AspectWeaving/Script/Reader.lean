import AspectWeaving.Script.Basic

/-!
Reading scripts from documents.

A document means something else as an expression, as a statement or as a list of either, and all of
its readings are made of the readings of its parts.
-/

namespace AspectWeaving.Script

/-- What a document stands for, by the place at which it is found. -/
structure Reading where
  expr : Expr
  exprs : List Expr
  statement : Statement
  block : List Statement
  symbol : Option (SymbolForm Statement)
  descriptor : DescriptorForm Statement

namespace Reading

/-- The readings of a document without parts. -/
def ofLeaf (document : Json) : Reading where
  expr := .literal document
  exprs := []
  statement := .unknown ""
  block := []
  symbol := none
  descriptor := ⟨false, none, none, none⟩

instance : Inhabited Reading := ⟨ofLeaf .null⟩

end Reading

/-- The class that a document speaks of; without a name it is the first one. -/
def ClassName.ofJson : Json → ClassName
  | .string name => .handle name
  | document => .number (document.nat?.getD 0)

/-- The facet of a name. -/
def Facet.ofText : String → Facet
  | "name" => .name
  | "label" => .label
  | "reference" => .reference
  | "kind" => .kind
  | "class_name" => .className
  | "index" => .index
  | _ => .key

/-- The form of a name. -/
def Form.ofText : String → Form
  | "i64" => .int
  | "f64" => .float
  | "str" => .string
  | "bool" => .bool
  | "json" => .json
  | "class" => .classRef
  | "instance" => .object
  | "opaque" => .token
  | _ => .other

/-- The expression of a name, with the documents behind it and their readings. -/
def Expr.ofForm (name : String) (documents : List Json) (readings : List Reading) : Expr :=
  let document (place : Nat) : Json := Json.item documents place
  let text (place : Nat) : String := (document place).content
  let expr (place : Nat) : Expr := (readings.getD place default).expr
  let exprs (place : Nat) : List Expr := (readings.getD place default).exprs
  match name with
  | "lit" => .literal (document 0)
  | "this" => .this
  | "arg" => .arg (document 0).nat?
  | "argc" => .argCount
  | "args" => .argsText
  | "self" => .own (text 0)
  | "tag" => .tag
  | "var" => .var (text 0)
  | "value" => .result
  | "data" => .datum (text 0)
  | "error" => .error
  | "overdrawn" => .overdraft
  | "has_joinpoint" => .hasJoinpoint
  | "caught" => .caught
  | "proceed" => .proceed
  | "proceed_with" => .proceedWith (exprs 0)
  | "target" => .target (.ofText (text 0))
  | "annotations" => .decorations
  | "annotations_of" => .decorationsOf (text 0)
  | "annotation" => .decorationArg (text 0) (document 1).nat?
  | "symbol_kind" => .symbolKind
  | "original" => .captured (exprs 0)
  | "new" => .instantiate (text 0) (exprs 1)
  | "call" => .call (expr 0) (text 1) (exprs 2)
  | "get" => .get (expr 0) (text 1)
  | "field" => .field (expr 0) (text 1)
  | "fields" => .fieldNames (expr 0)
  | "class_name" => .className (expr 0)
  | "instance_of" => .isInstanceOf (expr 0) (.ofJson (document 1))
  | "debug" => .describe (expr 0)
  | "class" => .classRef (.ofJson (document 0))
  | "opaque" => .token ((document 0).nat?.getD 0)
  | "add" => .add (expr 0) (expr 1)
  | "lt" => .less (expr 0) (expr 1)
  | "eq" => .same (expr 0) (expr 1)
  | "not" => .not (expr 0)
  | "is_null" => .isNull (expr 0)
  | "show" => .debugText (expr 0)
  | "concat" => .concat (readings.map Reading.expr)
  | "as" => .cast (.ofText (text 0)) (expr 1)
  | "step" => .step (document 0)
  | _ => .unknown name

/-- The statement of a name, with the documents behind it and their readings. -/
def Statement.ofForm (name : String) (documents : List Json) (readings : List Reading) :
    Statement :=
  let text (place : Nat) : String := (Json.item documents place).content
  let reading (place : Nat) : Reading := readings.getD place default
  let expr (place : Nat) : Expr := (reading place).expr
  match name with
  | "log" => .log (readings.map Reading.expr)
  | "return" => .finish (some (expr 0))
  | "none" => .finish none
  | "symbol" => .finishWith (reading 0).symbol
  | "set_symbol" => .setSymbol (reading 0).symbol
  | "do" => .evaluate (expr 0)
  | "if" => .branch (expr 0) (reading 1).block (reading 2).block
  | "try" => .attempt (reading 0).block (reading 1).block
  | "throw" => .raise (expr 0)
  | "overdrawn" => .overdraw (expr 0)
  | "fail" => .object (expr 0)
  | "fatal" => if text 0 == "weaving" then .failWeaving (expr 1) else .failAdvice (expr 1)
  | "set" => .set (expr 0) (text 1) (expr 2)
  | "set_field" => .setField (expr 0) (text 1) (expr 2)
  | "set_var" => .setVar (text 0) (expr 1)
  | "set_self" => .setOwn (text 0) (expr 1)
  | "set_data" => .setDatum (text 0) (expr 1)
  | "set_value" => .setValue (expr 0)
  | "set_args" => .setArgs (reading 0).exprs
  | "set_instance" => .setReceiver (expr 0)
  | "clear_annotations" => .clearDecorations
  | _ => .unknown name

namespace Reading

/-- The readings of an array. -/
def ofItems (items : List Json) (readings : List Reading) : Reading :=
  let name := (Json.item items 0).content
  { ofLeaf (.array items) with
    expr :=
      if items.isEmpty then .literal (.array [])
      else .ofForm name (items.drop 1) (readings.drop 1)
    exprs := readings.map expr
    statement := .ofForm name (items.drop 1) (readings.drop 1)
    block := readings.map statement }

/-- The readings of an object. -/
def ofFields (document : Json) (readings : List (String × Reading)) : Reading :=
  let body? (name : String) : Option (List Statement) :=
    (document.field name).given?.bind fun _ => (readings.lookup name).map block
  let descriptor : DescriptorForm Statement :=
    { keepsCaptured := (document.field "base").content == "original"
      field := (document.field "field").string?
      get := body? "get"
      set := body? "set" }
  let body : List Statement := (body? "body").getD []
  { ofLeaf document with
    descriptor
    symbol :=
      match (document.field "kind").content with
      | "method" => some (.method body)
      | "constructor" => some (.constructor body)
      | "property" => some (.property descriptor)
      | _ => none }

end Reading

mutual

/-- Reads a document in every way. -/
def read : Json → Reading
  | .array items => .ofItems items (readItems items)
  | .object fields => .ofFields (.object fields) (readFields fields)
  | document => .ofLeaf document

/-- Reads documents in every way. -/
def readItems : List Json → List Reading
  | [] => []
  | item :: rest => read item :: readItems rest

/-- Reads the values of fields in every way. -/
def readFields : List (String × Json) → List (String × Reading)
  | [] => []
  | (name, value) :: rest => (name, read value) :: readFields rest

end

/-- The body that a document is. -/
def Code.ofJson (document : Json) : Code := .ofStatements (read document).block

/-- The body that a document is, unless it is null. -/
def Code.ofJson? (document : Json) : Option Code := document.given?.map Code.ofJson

end AspectWeaving.Script
