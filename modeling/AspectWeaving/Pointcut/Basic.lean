import AspectWeaving.Pointcut.Parser

/-! Pointcuts: an expression together with the phase in which its advice runs. -/

namespace AspectWeaving

/-- When an advice runs. -/
inductive Phase where
  | compile
  | before
  | around
  | afterReturn
  | afterThrow
  | after
deriving DecidableEq, Repr, Inhabited

namespace Phase

/-- Every phase, in the order that sorting keeps. -/
def all : List Phase := [.compile, .before, .around, .afterReturn, .afterThrow, .after]

/-- The word for a phase. -/
def text : Phase → String
  | .compile => "compile"
  | .before => "before"
  | .around => "around"
  | .afterReturn => "afterReturn"
  | .afterThrow => "afterThrow"
  | .after => "after"

/-- The phase that a word stands for. -/
def ofText? (text : String) : Option Phase := all.find? fun phase => phase.text == text

/-- The place of a phase in the order of phases. -/
def rank : Phase → Nat
  | .compile => 0
  | .before => 1
  | .around => 2
  | .afterReturn => 3
  | .afterThrow => 4
  | .after => 5

end Phase

/-- A phase and the elements at which something runs in it. -/
structure Pointcut where
  phase : Phase
  expression : Pointcut.Expression
deriving DecidableEq

namespace Pointcut

/-- Reads the expression of a pointcut. -/
def parse (phase : Phase) (expression : String) : Except ParseError Pointcut :=
  return ⟨phase, ← Expression.parse expression⟩

/-- The canonical text of a pointcut. -/
def text (pointcut : Pointcut) : String :=
  pointcut.phase.text ++ "(" ++ pointcut.expression.text ++ ")"

end Pointcut

end AspectWeaving
