/-!
# Parley.Printed

The result of a program: its exit code, and what it printed on its two streams.
-/

namespace Parley

structure Printed where
  exit : Nat
  output : String := ""
  errors : String := ""
deriving DecidableEq, Repr

end Parley
