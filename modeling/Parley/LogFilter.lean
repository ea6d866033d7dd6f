/-!
# Parley.LogFilter

Which messages are logged, by how often more of them were asked for.
-/

namespace Parley

/-- The filter for a number of requests for more messages. -/
def logFilter : Nat → String
  | 0 => "warn"
  | 1 => "info"
  | 2 => "debug,v4_repl_check=debug"
  | _ => "trace"

end Parley
