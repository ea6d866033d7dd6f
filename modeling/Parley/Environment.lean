/-!
# Parley.Environment

The variables that a program sees, each name with one value. They are kept in the order of their
names, so two environments with the same variables are the same value.

* `Environment.get?`, `Environment.set`: the value of a name.
* `Environment.overlay`: the variables of one environment over those of another.
-/

namespace Parley

structure Environment where
  vars : List (String × String) := []
deriving DecidableEq, Repr

namespace Environment

def get? (e : Environment) (name : String) : Option String := e.vars.lookup name

/-- Gives a name its value in an ascending list of variables. -/
def insert (name value : String) : List (String × String) → List (String × String)
  | [] => [(name, value)]
  | (n, v) :: rest =>
    if name == n then (name, value) :: rest
    else if name < n then (name, value) :: (n, v) :: rest
    else (n, v) :: insert name value rest

def set (e : Environment) (name value : String) : Environment := ⟨insert name value e.vars⟩

/-- The environment of some variables; of two values for one name the later one counts. -/
def ofList (vars : List (String × String)) : Environment :=
  vars.foldl (fun e v => e.set v.1 v.2) {}

/-- The variables of `e`, and above them those of `upper`. -/
def overlay (e upper : Environment) : Environment :=
  upper.vars.foldl (fun e v => e.set v.1 v.2) e

end Environment
end Parley
