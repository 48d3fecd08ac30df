import AspectWeaving.Decimal.Scaling
import AspectWeaving.Json.Basic

/-! Reading documents from their text. -/

namespace AspectWeaving.Json

/-- The text without the blanks in front of it. -/
def skipBlanks (text : List Char) : List Char :=
  text.dropWhile fun c => c == ' ' || c == '\t' || c == '\n' || c == '\r'

/-- The value of a hexadecimal digit. -/
def hexDigit? (c : Char) : Option Nat :=
  if c.isDigit then some (c.toNat - '0'.toNat)
  else if 'a' ≤ c && c ≤ 'f' then some (c.toNat - 'a'.toNat + 10)
  else if 'A' ≤ c && c ≤ 'F' then some (c.toNat - 'A'.toNat + 10)
  else none

/-- The character that stands for itself or another one behind a backslash. -/
def escaped? : Char → Option Char
  | '"' => some '"'
  | '\\' => some '\\'
  | '/' => some '/'
  | 'b' => some '\x08'
  | 'f' => some '\x0c'
  | 'n' => some '\n'
  | 'r' => some '\r'
  | 't' => some '\t'
  | _ => none

/-- Reads a string after its opening quote, as code points and halves of surrogate pairs. -/
def readUnits : List Char → Option (List Nat × List Char)
  | [] => none
  | '"' :: rest => some ([], rest)
  | '\\' :: 'u' :: a :: b :: c :: d :: rest => do
    let high := 16 * (← hexDigit? a) + (← hexDigit? b)
    let low := 16 * (← hexDigit? c) + (← hexDigit? d)
    let (units, rest) ← readUnits rest
    return ((256 * high + low) :: units, rest)
  | '\\' :: c :: rest => do
    let plain ← escaped? c
    let (units, rest) ← readUnits rest
    return (plain.toNat :: units, rest)
  | c :: rest => do
    let (units, rest) ← readUnits rest
    return (c.toNat :: units, rest)

/-- The characters of code points; a surrogate pair makes one, a lone half makes none. -/
def joinUnits : List Nat → Option (List Char)
  | [] => some []
  | [unit] => if Nat.isValidChar unit then some [Char.ofNat unit] else none
  | first :: second :: rest =>
    -- A first half must be followed by a second one.
    if 0xD800 ≤ first && first < 0xDC00 then
      if 0xDC00 ≤ second && second < 0xE000 then
        let code := 0x10000 + 0x400 * (first - 0xD800) + (second - 0xDC00)
        (joinUnits rest).map (Char.ofNat code :: ·)
      else none
    else if Nat.isValidChar first then (joinUnits (second :: rest)).map (Char.ofNat first :: ·)
    else none

/-- Reads a string after its opening quote. -/
def readString (text : List Char) : Option (String × List Char) := do
  let (units, rest) ← readUnits text
  return (String.ofList (← joinUnits units), rest)

/-- Splits the decimal digits off the front of a text. -/
def readDigits (text : List Char) : List Nat × List Char :=
  ((text.takeWhile Char.isDigit).map fun c => c.toNat - '0'.toNat, text.dropWhile Char.isDigit)

/-- The number that digits stand for. -/
def ofDigits (digits : List Nat) : Nat := digits.foldl (fun sum digit => 10 * sum + digit) 0

/-- Reads the digits behind a point, of which there is at least one. -/
def readFraction : List Char → Option (List Nat × List Char)
  | '.' :: rest =>
    let (digits, rest) := readDigits rest
    if digits.isEmpty then none else some (digits, rest)
  | text => some ([], text)

/-- Reads a power of ten; without one nothing is read. -/
def readPower (text : List Char) : Option (Option Int × List Char) :=
  match text with
  | 'e' :: rest | 'E' :: rest =>
    let (negative, rest) :=
      match rest with
      | '-' :: rest => (true, rest)
      | '+' :: rest => (false, rest)
      | _ => (false, rest)
    let (digits, rest) := readDigits rest
    let power : Int := ofDigits digits
    if digits.isEmpty then none else some (some (if negative then -power else power), rest)
  | _ => some (none, text)

/-- Reads a number; without point and power it is an integer if sixty-four bits can hold it. -/
def readNumber (text : List Char) : Option (Json × List Char) := do
  let (negative, text) :=
    match text with
    | '-' :: rest => (true, rest)
    | _ => (false, text)
  let (whole, rest) := readDigits text
  let (fraction, rest) ← readFraction rest
  let (power, rest) ← readPower rest
  let magnitude := ofDigits whole
  -- Only a number written without point and power can be an integer.
  let integral := fraction.isEmpty && power.isNone
  if whole.isEmpty then none
  else if integral && !negative && Word.holds magnitude then return (.int magnitude, rest)
  else if integral && negative && 0 < magnitude && Word.holdsSigned (-magnitude) then
    return (.int (-magnitude), rest)
  else return (.float (← Decimal.read? negative whole fraction (power.getD 0)), rest)

mutual

/-- Reads a document. -/
def readValue : Nat → List Char → Option (Json × List Char)
  | 0, _ => none
  | fuel + 1, text =>
    match skipBlanks text with
    | 'n' :: 'u' :: 'l' :: 'l' :: rest => some (.null, rest)
    | 't' :: 'r' :: 'u' :: 'e' :: rest => some (.bool true, rest)
    | 'f' :: 'a' :: 'l' :: 's' :: 'e' :: rest => some (.bool false, rest)
    | '"' :: rest => (readString rest).map fun (text, rest) => (.string text, rest)
    | '[' :: rest =>
      match skipBlanks rest with
      | ']' :: rest => some (.array [], rest)
      | rest => (readItems fuel rest).map fun (items, rest) => (.array items, rest)
    | '\x7b' :: rest =>
      match skipBlanks rest with
      | '\x7d' :: rest => some (.object [], rest)
      | rest => (readFields fuel rest).map fun (fields, rest) => (ofFields fields, rest)
    | text => readNumber text

/-- Reads the items of an array that is not empty, up to its end. -/
def readItems : Nat → List Char → Option (List Json × List Char)
  | 0, _ => none
  | fuel + 1, text => do
    let (item, rest) ← readValue fuel text
    match skipBlanks rest with
    | ']' :: rest => return ([item], rest)
    | ',' :: rest =>
      let (items, rest) ← readItems fuel rest
      return (item :: items, rest)
    | _ => none

/-- Reads the fields of an object that is not empty, up to its end. -/
def readFields : Nat → List Char → Option (List (String × Json) × List Char)
  | 0, _ => none
  | fuel + 1, text => do
    let '"' :: rest := skipBlanks text | none
    let (name, rest) ← readString rest
    let ':' :: rest := skipBlanks rest | none
    let (value, rest) ← readValue fuel rest
    match skipBlanks rest with
    | '\x7d' :: rest => return ([(name, value)], rest)
    | ',' :: rest =>
      let (fields, rest) ← readFields fuel rest
      return ((name, value) :: fields, rest)
    | _ => none

end

/-- Reads a text that is one document, with blanks around it at most. -/
def parse? (text : String) : Option Json := do
  let chars := text.toList
  -- No character opens more than two levels of reading.
  let (document, rest) ← readValue (2 * chars.length + 2) chars
  if (skipBlanks rest).isEmpty then some document else none

end AspectWeaving.Json
