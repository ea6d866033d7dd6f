import Parley.Text.Quoted

/-!
# Parley.Excerpt

What an expectation took from the output: the text that matched with its groups, what stood before
it, and what is left behind it.
-/

namespace Parley

structure Excerpt where
  matched : String
  captures : List String := []
  before : String
  rest : String
deriving DecidableEq, Repr

namespace Excerpt

def capture? (e : Excerpt) (index : Nat) : Option String := e.captures[index]?

/-- All parts of an excerpt on one line. -/
def summary (e : Excerpt) : String :=
  "Match \x7b matched: " ++ Text.quote e.matched ++ ", captures: " ++ Text.quoteList e.captures ++
    ", before: " ++ Text.quote e.before ++ ", after: " ++ Text.quote e.rest ++ " \x7d"

end Excerpt
end Parley
