/-!
# Parley.Regex.Engine

A regular expression as whoever searches with it sees it: it has a source, and there is an engine
that finds its first match in a text.

* `Engine.search`: what the engine finds.
-/

namespace Parley
namespace Regex

/-- Places noted in a text, in bytes. Slot 0 and 1 hold the whole match, slot `2 i` and `2 i + 1` the
group `i`. -/
abbrev Slots := Array (Option Nat)

/-- An engine that has read an expression. -/
structure Engine where
  source : String
  /-- How many groups keep their text. -/
  groups : Nat
  /-- The places of the first match in a text. -/
  search : List Char → Option Slots

end Regex
end Parley
