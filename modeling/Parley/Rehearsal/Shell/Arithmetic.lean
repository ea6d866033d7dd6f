import Parley.Number.Leading

/-!
# Parley.Rehearsal.Shell.Arithmetic

The value of an expression over whole numbers of 64 bits, in which variables may be assigned. What a
part of a choice that is not taken stands for is read, but comes to nothing.

* `Arithmetic.value`: the value and what has become of the variables, or what is wrong.
-/

namespace Parley
namespace Rehearsal
namespace Shell
namespace Arithmetic

/-- How an expression gets at variables. -/
structure Access (σ : Type) where
  read : σ → String → Except String Int
  write : σ → String → Int → Except String σ

/-- What is still to be read of an expression, and the variables. -/
structure Progress (σ : Type) where
  rest : List Char
  vars : σ

abbrev Evaluation (σ : Type) := StateT (Progress σ) (Except String)

/-- The number of 64 bits with the same last bits. -/
def wrap (i : Int) : Int := Int.bmod i (Nat.pow 2 64)

/-- Signs, the longer ones first. -/
def signs : List String :=
  ["<<=", ">>=", "<<", ">>", "<=", ">=", "==", "!=", "&&", "||", "*=", "/=", "%=", "+=", "-=", "&=",
   "^=", "|=", "=", "<", ">", "&", "|", "^", "*", "/", "%", "+", "-", "!", "~", "(", ")", "?", ":"]

/-- Signs between two numbers, those that bind least first. -/
def levels : List (List String) :=
  [["|"], ["^"], ["&"], ["==", "!="], ["<=", ">=", "<", ">"], ["<<", ">>"], ["+", "-"],
   ["*", "/", "%"]]

section

variable {σ : Type}

def blanks : Evaluation σ Unit :=
  modify fun p => { p with rest := p.rest.dropWhile Number.isBlank }

/-- The sign that comes next, which is left where it is. -/
def peekSign : Evaluation σ (Option String) := do
  blanks
  let cs := (← get).rest
  return signs.find? fun s => s.toList.isPrefixOf cs

def drop (n : Nat) : Evaluation σ Unit := modify fun p => { p with rest := p.rest.drop n }

/-- Takes the sign that comes next if it is one of some. -/
def trySign (wanted : List String) : Evaluation σ (Option String) := do
  match ← peekSign with
  | some s =>
    if wanted.contains s then
      drop s.length
      return some s
    else return none
  | none => return none

def truth (b : Bool) : Int := if b then 1 else 0

/-- The value of two numbers under a sign. -/
def apply (sign : String) (a b : Int) : Except String Int :=
  match sign with
  | "+" => .ok (wrap (a + b))
  | "-" => .ok (wrap (a - b))
  | "*" => .ok (wrap (a * b))
  | "/" => if b == 0 then .error "division by zero" else .ok (wrap (a.tdiv b))
  | "%" => if b == 0 then .error "division by zero" else .ok (a.tmod b)
  | "<<" => .ok (wrap (a * Int.pow 2 (b % 64).toNat))
  | ">>" => .ok (a.fdiv (Int.pow 2 (b % 64).toNat))
  | "<=" => .ok (truth (a ≤ b))
  | ">=" => .ok (truth (b ≤ a))
  | "<" => .ok (truth (a < b))
  | ">" => .ok (truth (b < a))
  | "==" => .ok (truth (a == b))
  | "!=" => .ok (truth (a != b))
  | "&" => .ok (BitVec.ofInt 64 a &&& BitVec.ofInt 64 b).toInt
  | "^" => .ok (BitVec.ofInt 64 a ^^^ BitVec.ofInt 64 b).toInt
  | _ => .ok (BitVec.ofInt 64 a ||| BitVec.ofInt 64 b).toInt

/-- What is wrong with an expression. -/
def complain {α : Type} (whole : String) (text : String) : Evaluation σ α :=
  throw ("arithmetic expression: " ++ text ++ ": \"" ++ whole ++ "\"")

def applyIn (whole sign : String) (a b : Int) : Evaluation σ Int :=
  match apply sign a b with
  | .ok v => return v
  | .error text => complain whole text

/-- The name at the front. -/
def nameAhead (cs : List Char) : List Char :=
  match cs with
  | c :: _ =>
    if c.isAlpha || c == '_' then cs.takeWhile fun c => c.isAlphanum || c == '_' else []
  | [] => []

/-- The sign behind an equals sign's operation, if a sign assigns. -/
def assigning? (sign : String) : Option String :=
  match sign with
  | "=" => some ""
  | "<=" => none
  | ">=" => none
  | "==" => none
  | "!=" => none
  | s => if s.toList.getLast? == some '=' then some (String.ofList s.toList.dropLast) else none

mutual

/-- An assignment, or a choice. -/
def assignment (a : Access σ) (whole : String) (idle : Bool) : Nat → Evaluation σ Int
  | 0 => complain whole "expression too deep"
  | fuel + 1 => do
    blanks
    let p ← get
    let name := nameAhead p.rest
    if name.isEmpty then choice a whole idle fuel
    else
      drop name.length
      let s ← peekSign
      match s.bind assigning? with
      | none =>
        set p
        choice a whole idle fuel
      | some operation =>
        drop (s.getD "").length
        let v ← assignment a whole idle fuel
        if idle then return v
        else
          let name := String.ofList name
          let v ← if operation == "" then pure v
            else do
              let old ← a.read (← get).vars name
              applyIn whole operation old v
          let vars ← a.write (← get).vars name v
          modify fun p => { p with vars }
          return v

/-- One of two values, by a third one. -/
def choice (a : Access σ) (whole : String) (idle : Bool) : Nat → Evaluation σ Int
  | 0 => complain whole "expression too deep"
  | fuel + 1 => do
    let test ← disjunction a whole idle fuel
    match ← trySign ["?"] with
    | none => return test
    | some _ =>
      let yes ← assignment a whole (idle || test == 0) fuel
      match ← trySign [":"] with
      | none => complain whole "expecting ':'"
      | some _ =>
        let no ← choice a whole (idle || test != 0) fuel
        return if test != 0 then yes else no

def disjunction (a : Access σ) (whole : String) (idle : Bool) : Nat → Evaluation σ Int
  | 0 => complain whole "expression too deep"
  | fuel + 1 => do
    let first ← conjunction a whole idle fuel
    match ← trySign ["||"] with
    | none => return first
    | some _ =>
      let second ← disjunction a whole (idle || first != 0) fuel
      return truth (first != 0 || second != 0)

def conjunction (a : Access σ) (whole : String) (idle : Bool) : Nat → Evaluation σ Int
  | 0 => complain whole "expression too deep"
  | fuel + 1 => do
    let first ← level a whole idle levels fuel
    match ← trySign ["&&"] with
    | none => return first
    | some _ =>
      let second ← conjunction a whole (idle || first == 0) fuel
      return truth (first != 0 && second != 0)

/-- A value at a level; what binds more is a value at the next one. -/
def level (a : Access σ) (whole : String) (idle : Bool) (here : List (List String)) :
    Nat → Evaluation σ Int
  | 0 => complain whole "expression too deep"
  | fuel + 1 =>
    match here with
    | [] => operand a whole idle fuel
    | signs :: above => do
      let first ← level a whole idle above fuel
      levelFrom a whole idle signs above first fuel

def levelFrom (a : Access σ) (whole : String) (idle : Bool) (signs : List String)
    (above : List (List String)) (first : Int) : Nat → Evaluation σ Int
  | 0 => complain whole "expression too deep"
  | fuel + 1 => do
    match ← trySign signs with
    | none => return first
    | some s =>
      let second ← level a whole idle above fuel
      let v ← if idle then pure second else applyIn whole s first second
      levelFrom a whole idle signs above v fuel

def operand (a : Access σ) (whole : String) (idle : Bool) : Nat → Evaluation σ Int
  | 0 => complain whole "expression too deep"
  | fuel + 1 => do
    match ← trySign ["(", "-", "+", "!", "~"] with
    | some "(" =>
      let v ← assignment a whole idle fuel
      match ← trySign [")"] with
      | some _ => return v
      | none => complain whole "expecting ')'"
    | some "-" => return wrap (-(← operand a whole idle fuel))
    | some "!" => return truth ((← operand a whole idle fuel) == 0)
    | some "~" => return -(← operand a whole idle fuel) - 1
    | some _ => operand a whole idle fuel
    | none =>
      let p ← get
      let name := nameAhead p.rest
      if !name.isEmpty then
        drop name.length
        if idle then return 0 else a.read p.vars (String.ofList name)
      else if (p.rest.head?.map Char.isDigit).getD false then
        match Number.leadingInt? p.rest with
        | some (i, rest) =>
          set { p with rest }
          return min i (Int.pow 2 63 - 1)
        | none => complain whole "expecting primary"
      else complain whole "expecting primary"

end

/-- The value of an expression. -/
def value (a : Access σ) (vars : σ) (expression : List Char) : Except String (Int × σ) := do
  let whole := String.ofList expression
  let read : Evaluation σ Int := do
    let v ← assignment a whole false (16 * expression.length + 32)
    blanks
    if (← get).rest.isEmpty then return v else complain whole "expecting EOF"
  let (v, p) ← read.run { rest := expression, vars }
  return (v, p.vars)

end

end Arithmetic
end Shell
end Rehearsal
end Parley
