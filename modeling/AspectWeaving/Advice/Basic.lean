import AspectWeaving.Pointcut.Basic
import AspectWeaving.Precedence
import AspectWeaving.Text.Quoted

/-! Advices: what runs at a pointcut, for which aspect, and in which place among others. -/

namespace AspectWeaving

/-- An advice of an enabled aspect. -/
structure Advice (β : Type) where
  name : String
  pointcut : Pointcut
  aspectId : String
  precedence : Precedence
  body : β

namespace Advice

variable {β : Type}

/-- The phase in which an advice runs. -/
def phase (advice : Advice β) : Phase := advice.pointcut.phase

/-- How messages speak of an advice. -/
def key (advice : Advice β) : String := advice.pointcut.text ++ "=>" ++ advice.name

/-- The debug text of an advice. -/
def debugText (advice : Advice β) : String :=
  "Advice \x7b key: " ++ Text.quoted advice.key ++ ", aspect: " ++ Text.quoted advice.aspectId
    ++ ", precedence: " ++ advice.precedence.debugText ++ " \x7d"

end Advice

end AspectWeaving
