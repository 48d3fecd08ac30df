/-! Programs as trees: a result, or a request whose answer decides how the program goes on. -/

namespace AspectWeaving

/-- A program that makes requests and ends with a result. -/
inductive Program (Request : Type) (Answer : Request → Type) (ρ : Type) where
  | done (result : ρ)
  | ask (request : Request) (next : Answer request → Program Request Answer ρ)

namespace Program

variable {Request : Type} {Answer : Request → Type} {ρ σ : Type}

/-- The program that makes one request and ends with the answer. -/
def request (asked : Request) : Program Request Answer (Answer asked) := .ask asked .done

/-- Runs a second program on the result of the first. -/
def bind (first : Program Request Answer ρ) (second : ρ → Program Request Answer σ) :
    Program Request Answer σ :=
  match first with
  | .done result => second result
  | .ask asked next => .ask asked fun answer => (next answer).bind second

instance : Monad (Program Request Answer) where
  pure := .done
  bind := bind

/-- Runs a program in a monad that serves its requests. -/
def run {m : Type → Type} [Monad m] (serve : (asked : Request) → m (Answer asked)) :
    Program Request Answer ρ → m ρ
  | .done result => pure result
  | .ask asked next => do run serve (next (← serve asked))

end Program

end AspectWeaving
