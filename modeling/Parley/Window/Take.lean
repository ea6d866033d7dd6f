import Parley.Excerpt
import Parley.Pattern
import Parley.Window

/-!
# Parley.Window.Take

Takes from a window what an expectation asks for. Whatever stands before a match goes with it, so
the next expectation sees only output that came later.

* `find?`: where a pattern stands in the text of a window.
* `take`: removes a match and what stands before it.
* `takeAll`: removes everything.
-/

namespace Parley
namespace Window

/-- The first place where a pattern stands in the text. -/
def find? (w : Window) (p : Pattern) : Option Occurrence := p.find? w.text

/-- Removes a match and what stands before it. -/
def take (o : Occurrence) (w : Window) : Excerpt × Window :=
  let (before, w) := w.consume o.start
  let (matched, w) := w.consume o.length
  ({ matched := String.ofList matched
     captures := o.captures
     before := String.ofList before
     rest := String.ofList w.shown }, w)

/-- Removes everything; nothing of it has matched. -/
def takeAll (w : Window) : Excerpt × Window :=
  ({ matched := "", before := String.ofList w.shown, rest := "" }, w.clear)

end Window
end Parley
