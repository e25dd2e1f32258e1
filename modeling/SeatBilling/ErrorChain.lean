/-!
# Errors with their causes

An error a program stops with is a chain: what went wrong, then what caused it, then what
caused that, and so on. On one line the chain is its messages joined by `: `. A program that
stops with an error writes it to its error stream as `Error: ` and the message, then, if there
are causes, a blank line, `Caused by:` and the causes indented, numbered when there are
several.
-/

namespace SeatBilling

/-- An error and its causes, the nearest cause first. -/
structure ErrorChain where
  message : String
  causes : List String
  deriving DecidableEq, Repr

namespace ErrorChain

/-- An error without causes. -/
def plain (message : String) : ErrorChain := ⟨message, []⟩

/-- An error wrapped in a message of its own: the message comes first, and the error and its
causes become the causes. -/
def wrap (message : String) (inner : ErrorChain) : ErrorChain := ⟨message, inner.message :: inner.causes⟩

/-- The chain on one line. -/
def inline (chain : ErrorChain) : String := ": ".intercalate (chain.message :: chain.causes)

/-- The lines a program writes to its error stream when it stops with the error. -/
def report (chain : ErrorChain) : List String :=
  let causes := match chain.causes with
    | [] => []
    | [cause] => ["    " ++ cause]
    | causes => causes.zipIdx.map fun (cause, index) => "    " ++ toString index ++ ": " ++ cause
  ("Error: " ++ chain.message) :: (if causes.isEmpty then [] else "" :: "Caused by:" :: causes)

end ErrorChain

end SeatBilling
