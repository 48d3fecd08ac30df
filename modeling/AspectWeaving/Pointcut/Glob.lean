/-! Name patterns, in which a star stands for any run of characters and a question mark for one. -/

namespace AspectWeaving.Pointcut.Glob

/-- For each place, whether something holds there or at a later one. -/
def holdsFrom : List Bool → List Bool
  | [] => []
  | here :: later =>
    let rest := holdsFrom later
    (here || rest.headD false) :: rest

/-- For each suffix of a name, longest first, whether the pattern matches all of it. -/
def suffixMatches (name : List Char) : List Char → List Bool
  | [] => name.map (fun _ => false) ++ [true]
  | c :: pattern =>
    let rest := suffixMatches name pattern
    if c = '*' then holdsFrom rest
    else List.zipWith (fun d matched => (c == '?' || d == c) && matched) name rest.tail ++ [false]

/-- Whether a pattern matches a whole name. -/
def accepts (pattern name : String) : Bool :=
  (suffixMatches name.toList pattern.toList).headD false

end AspectWeaving.Pointcut.Glob
