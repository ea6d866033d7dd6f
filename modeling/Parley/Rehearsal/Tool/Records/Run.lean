import Parley.Rehearsal.Tool.Records.Built
import Parley.Rehearsal.Tool.Records.Token

/-!
# Parley.Rehearsal.Tool.Records.Run

How a script for records runs: what stands at its beginning, then its rules for each record, then
what stands at its end.

* `Records.eval`, `Records.exec`: what terms and statements do.
* `Records.run`: all that comes of some input.
-/

namespace Parley
namespace Rehearsal
namespace Records

/-! ## Loops -/

/-- Goes on as long as a step says so, and not longer than is said. -/
def repeating (step : State → Except Stop Bool × State) :
    Nat → State → Except Stop Unit × State
  | 0, s => (.ok (), s)
  | n + 1, s =>
    match step s with
    | (.ok true, s) => repeating step n s
    | (.ok false, s) => (.ok (), s)
    | (.error e, s) => (.error e, s)

/-- How often a loop is gone through at most. -/
def patience : Nat := 2000000

def loop (step : Exec Bool) : Exec Unit := fun s => repeating (fun s => step.run s) patience s

/-- Runs the body of a loop; the answer is whether the loop goes on. -/
def goesOn (body : Exec Unit) : Exec Bool := fun s =>
  match body.run s with
  | (.ok (), s) => (.ok true, s)
  | (.error .continue, s) => (.ok true, s)
  | (.error .break, s) => (.ok false, s)
  | (.error e, s) => (.error e, s)

/-- Runs a body for each of some keys. -/
def overKeys (body : Bytes → Exec Bool) : List Bytes → Exec Unit
  | [] => return
  | key :: rest => do if ← body key then overKeys body rest

/-! ## Targets -/

/-- What a value can be given to. -/
inductive Cell
  | name (n : Name)
  | element (store : Nat) (key : Key)
  | field (i : Nat)

def load (cell : Cell) : Exec Value := do
  let s ← get
  match cell with
  | .name n => return s.value n
  | .field 0 => return s.record
  | .field i => return s.fields.getD (i - 1) .unset
  | .element id key =>
    let store ← storeOf id
    match store.find? key with
    | some (v, store) =>
      setStore id store
      return v
    | none =>
      setStore id (store.insert key .unset)
      return .unset

/-- Makes the record of its fields. -/
def joinFields : Exec Unit := do
  let s ← get
  let texts := s.fields.toList.map fun v => v.bytes s.layout
  set { s with record := .ofOuter (joinWith (s.specialBytes "OFS") texts) }

def give (cell : Cell) (v : Value) : Exec Unit := do
  match cell with
  | .name (.shared "NF") =>
    let n := v.amount.toInt.toNat
    modify fun s => { s with
      fields := s.fields.take n ++ Array.replicate (n - s.fields.size) (Value.text []) }
    joinFields
  | .name n =>
    match (← get).slot? n with
    | some (.store _) => throw (.failed "type error in assignment")
    | _ => modify fun s => s.setSlot n (.value v)
  | .field 0 =>
    let bs ← textOfValue v
    setRecord (match v with
      | .number _ => v
      | _ => .ofOuter bs) bs
  | .field i =>
    modify fun s => { s with
      fields := (s.fields ++ Array.replicate (i - s.fields.size) (Value.text [])).set! (i - 1) v }
    joinFields
  | .element id key => setStore id ((← storeOf id).insert key v)

/-- The slot that a call passes for a name: nothing yet may become a store. -/
def passed (n : Name) : Exec Slot := do
  let s ← get
  match s.slot? n with
  | some (.value .unset) => return .value .unset
  | some slot => return slot
  | none =>
    if n == .shared "NF" then return .value (s.value n)
    let slot := Slot.unused s.nextStore
    set ({ s with nextStore := s.nextStore + 1 }.setSlot n slot)
    return slot

/-! ## Terms -/

/-- What a call gives back. -/
def returned (body : Exec Unit) : Exec Value := fun s =>
  match body.run s with
  | (.ok (), s) => (.ok .unset, s)
  | (.error (.return v), s) => (.ok v, s)
  | (.error e, s) => (.error e, s)

def isFound (pattern text : Bytes) : Exec Bool := do
  return (← expressionOf pattern).isIn (.ofBytes text false)

/-- Takes the next record of a file. -/
def lineOf (k : Settings) (path : Bytes) : Exec (Except SystemError (Option Bytes)) := do
  let feed ← match (← get).feeds.lookup path with
    | some f => pure (.ok f)
    | none => feedOf k path
  match feed with
  | .error e => return .error e
  | .ok f =>
    let (bs, f) ← takeFrom k f
    modify fun s => { s with feeds := (path, f) :: s.feeds.filter fun g => g.1 != path }
    return .ok bs

/-- The record as a term. -/
def wholeRecord : Term := .field (.number (.zero false))

/-- The lines of all texts are at most so many. -/
def recordLimit : Nat := 1000000000

mutual

def eval (k : Settings) : Nat → Term → Exec Value
  | 0, _ => trouble "function call nesting too deep"
  | fuel + 1, t => do
    match t with
    | .number x => return .number x
    | .text bs => return .text bs
    | .pattern bs => return .ofBool (← isFound bs (← textOfValue (← get).record))
    | .named n => return (← get).value n
    | .element .. => load (← cellOf k fuel t)
    | .field _ => load (← cellOf k fuel t)
    | .assign op target value =>
      let v ← eval k fuel value
      let cell ← cellOf k fuel target
      let v ← match op with
        | none => pure v
        | some op => pure (.number (op.apply (← load cell).amount v.amount))
      give cell v
      return v
    | .choose test yes no =>
      if (← eval k fuel test).isTrue then eval k fuel yes else eval k fuel no
    | .or a b =>
      if (← eval k fuel a).isTrue then return .ofBool true
      return .ofBool (← eval k fuel b).isTrue
    | .and a b =>
      if (← eval k fuel a).isTrue then return .ofBool (← eval k fuel b).isTrue
      return .ofBool false
    | .member subscripts array =>
      let key ← keyOf k fuel subscripts
      let id ← storeNamed array
      match (← storeOf id).find? key with
      | some (_, store) =>
        setStore id store
        return .ofBool true
      | none => return .ofBool false
    | .matched negated a p =>
      let text ← textOfValue (← eval k fuel a)
      let found ← isFound (← patternOf k fuel p) text
      return .ofBool (found != negated)
    | .compare c a b =>
      let x ← eval k fuel a
      let y ← eval k fuel b
      return .ofBool (c.holds (x.compare (← get).layout y))
    | .join a b =>
      let x ← eval k fuel a
      let y ← eval k fuel b
      return .text ((← textOfValue x) ++ (← textOfValue y))
    | .arithmetic op a b =>
      let x ← eval k fuel a
      let y ← eval k fuel b
      return .number (op.apply x.amount y.amount)
    | .negate a => return .number ((Binary64.zero false).sub (← eval k fuel a).amount)
    | .plus a => return .number (← eval k fuel a).amount
    | .not a => return .ofBool !(← eval k fuel a).isTrue
    | .step up before target =>
      let cell ← cellOf k fuel target
      let old := (← load cell).amount
      let new := if up then old.add (.ofInt 1) else old.sub (.ofInt 1)
      give cell (.number new)
      return .number (if before then new else old)
    | .call name arguments =>
      match k.script.functions.find? fun f => f.name == name with
      | none => throw (.failed ("function " ++ name ++ " never defined"))
      | some f => callOf k fuel f arguments
    | .built name arguments => builtOf k fuel name arguments
    | .line target file => lineInto k fuel target file
    | .several [a] => eval k fuel a
    | .several ts => return .text (← keyOf k fuel ts).bytes
termination_by structural fuel => fuel

/-- Where a value can be put. -/
def cellOf (k : Settings) : Nat → Term → Exec Cell
  | 0, _ => trouble "function call nesting too deep"
  | fuel + 1, t => do
    match t with
    | .named n => return .name n
    | .element array subscripts =>
      let key ← keyOf k fuel subscripts
      return .element (← storeNamed array) key
    | .field index =>
      let i := (← eval k fuel index).amount.toInt
      if i < 0 then trouble ("negative field index $" ++ toString i)
      return .field i.toNat
    | .several [t] => cellOf k fuel t
    | _ => throw (.failed "type error in assignment")
termination_by structural fuel => fuel

/-- The key that subscripts stand for. -/
def keyOf (k : Settings) : Nat → List Term → Exec Key
  | 0, _ => trouble "function call nesting too deep"
  | fuel + 1, ts => do
    let vs ← ts.mapM (eval k fuel)
    let s ← get
    match vs with
    | [v] => return .ofValue s.layout v
    | vs => return .text (joinWith (s.specialBytes "SUBSEP") (vs.map fun v => v.bytes s.layout))
termination_by structural fuel => fuel

/-- The text of a regular expression. -/
def patternOf (k : Settings) : Nat → Term → Exec Bytes
  | 0, _ => trouble "function call nesting too deep"
  | fuel + 1, t => do
    match t with
    | .pattern bs => return bs
    | t => textOfValue (← eval k fuel t)
termination_by structural fuel => fuel

/-- Calls a function of the script. -/
def callOf (k : Settings) : Nat → Function → List Term → Exec Value
  | 0, _, _ => trouble "function call nesting too deep"
  | fuel + 1, f, ts => do
    let slots ← ts.mapM fun t => do
      match t with
      | .named n =>
        match ← passed n with
        | .value _ => return Slot.value (← eval k fuel t)
        | slot => return slot
      | t => return Slot.value (← eval k fuel t)
    let s ← get
    let missing := f.parameters.length - slots.length
    let fresh := (List.range missing).map fun i => Slot.unused (s.nextStore + i)
    set { s with parameters := (slots ++ fresh).toArray, nextStore := s.nextStore + missing }
    let v ← returned (exec k fuel f.body)
    modify fun t => { t with
      parameters := s.parameters
      stores := if t.nextStore == s.nextStore then t.stores
        else t.stores.filter fun e => e.1 < s.nextStore || s.nextStore + missing ≤ e.1 }
    return v
termination_by structural fuel => fuel

/-- Calls a function that all scripts have. -/
def builtOf (k : Settings) : Nat → String → List Term → Exec Value
  | 0, _, _ => trouble "function call nesting too deep"
  | fuel + 1, name, ts => do
    match name, ts with
    | "length", [] => return .ofNat (← textOfValue (← get).record).length
    | "length", [.named n] =>
      match (← get).slot? n with
      | some (.store id) => return .ofNat (← storeOf id).size
      | some (.unused _) => return .ofNat 0
      | _ => return .ofNat (← textOfValue (← eval k fuel (.named n))).length
    | "match", [a, p] =>
      let text ← textOfValue (← eval k fuel a)
      let e ← expressionOf (← patternOf k fuel p)
      let (start, length) : Nat × Int := match e.find? (.ofBytes text false) 0 with
        | some f => (f.start + 1, f.stop - f.start)
        | none => (0, -1)
      assignShared "RSTART" (.ofNat start)
      assignShared "RLENGTH" (.ofInt length)
      return .ofNat start
    | "split", .several [t] :: more => builtOf k fuel "split" (t :: more)
    | "split", a :: .named array :: more =>
      let text ← textOfValue (← eval k fuel a)
      let pieces ← match more with
        | [] => split ((← get).specialBytes "FS") text
        | .pattern bs :: _ =>
          let e ← expressionOf bs
          pure (if text.isEmpty then []
            else pieces e (.ofBytes text false) (text.length + 1) 0)
        | t :: _ => split (← textOfValue (← eval k fuel t)) text
      let id ← storeNamed array
      setStore id (.ofList (pieces.map Value.ofOuter))
      return .ofNat pieces.length
    | "sub", p :: new :: more => substituteIn k fuel false p new (more.headD wholeRecord)
    | "gsub", p :: new :: more => substituteIn k fuel true p new (more.headD wholeRecord)
    | name, ts =>
      match onValues? name (← ts.mapM (eval k fuel)) with
      | some v => v
      | none => trouble ("wrong number of arguments in call to " ++ name)
termination_by structural fuel => fuel

/-- Replaces what is found in a target. -/
def substituteIn (k : Settings) : Nat → Bool → Term → Term → Term → Exec Value
  | 0, _, _, _, _ => trouble "function call nesting too deep"
  | fuel + 1, all, p, new, target => do
    let e ← expressionOf (← patternOf k fuel p)
    let new ← textOfValue (← eval k fuel new)
    let cell? ← match target with
      | .named _ => pure (some (← cellOf k fuel target))
      | .element .. => pure (some (← cellOf k fuel target))
      | .field _ => pure (some (← cellOf k fuel target))
      | _ => pure none
    let old ← match cell? with
      | some cell => load cell
      | none => eval k fuel target
    let text ← textOfValue old
    let (text, n) := substituted e new all (.ofBytes text false) (text.length + 2) 0 none
    if let some cell := cell? then
      if 0 < n then give cell (.text text)
    return .ofNat n
termination_by structural fuel => fuel

/-- Reads a line into a target, or into the record. -/
def lineInto (k : Settings) : Nat → Option Term → Option Term → Exec Value
  | 0, _, _ => trouble "function call nesting too deep"
  | fuel + 1, target, file => do
    let got ← match file with
      | none => pure (.ok (← nextRecord? k unescapedBytes recordLimit))
      | some f => lineOf k (← textOfValue (← eval k fuel f))
    match got with
    | .error _ => return .ofInt (-1)
    | .ok none => return .ofNat 0
    | .ok (some bs) =>
      match target with
      | none => setRecord (.ofOuter bs) bs
      | some t => give (← cellOf k fuel t) (.ofOuter bs)
      return .ofNat 1
termination_by structural fuel => fuel

/-- Prints to a target. -/
def printTo (k : Settings) : Nat → Option Target → Bytes → Exec Unit
  | 0, _, _ => trouble "function call nesting too deep"
  | fuel + 1, target, bs => do
    match target with
    | none => put bs
    | some t =>
      let path ← textOfValue (← eval k fuel t.path)
      if t.isCommand then return
      putFile k path t.appends bs
termination_by structural fuel => fuel

def exec (k : Settings) : Nat → Statement → Exec Unit
  | 0, _ => trouble "function call nesting too deep"
  | fuel + 1, st => do
    match st with
    | .block body => body.forM (exec k fuel)
    | .term t => discard (eval k fuel t)
    | .print terms target =>
      let s ← get
      let layout := numberBy (s.specialBytes "OFMT")
      let bs ← if terms.isEmpty then pure (s.record.bytes s.layout)
        else do
          let vs ← terms.mapM (eval k fuel)
          pure (joinWith ((← get).specialBytes "OFS") (vs.map fun v => v.bytes layout))
      printTo k fuel target (bs ++ (← get).specialBytes "ORS")
    | .printf terms target =>
      let vs ← terms.mapM (eval k fuel)
      printTo k fuel target (← formatted "printf" vs)
    | .branch test yes no =>
      if (← eval k fuel test).isTrue then exec k fuel yes
      else
        match no with
        | some no => exec k fuel no
        | none => return
    | .while test body =>
      loop do
        if (← eval k fuel test).isTrue then goesOn (exec k fuel body) else return false
    | .until body test =>
      loop do
        if ← goesOn (exec k fuel body) then return (← eval k fuel test).isTrue else return false
    | .loop first test last body =>
      match first with
      | some st => exec k fuel st
      | none => pure ()
      loop do
        let holds ← match test with
          | some t => pure (← eval k fuel t).isTrue
          | none => pure true
        if !holds then return false
        if ← goesOn (exec k fuel body) then
          match last with
          | some st => exec k fuel st
          | none => pure ()
          return true
        else return false
    | .each key array body =>
      let id ← storeNamed array
      let (keys, store) := (← storeOf id).keys
      setStore id store
      overKeys (fun bs => do
        give (← cellOf k fuel key) (.text bs)
        goesOn (exec k fuel body)) keys
    | .next => throw .next
    | .nextFile => throw .nextFile
    | .exit code =>
      match code with
      | some t =>
        let n := clamped (← eval k fuel t).amount
        modify fun s => { s with code := (n % 256).toNat }
      | none => pure ()
      throw .exit
    | .return value =>
      let v ← match value with
        | some t => eval k fuel t
        | none => pure .unset
      throw (.return v)
    | .break => throw .break
    | .continue => throw .continue
    | .delete array subscripts =>
      let id ← storeNamed array
      if subscripts.isEmpty then setStore id {}
      else
        let key ← keyOf k fuel subscripts
        setStore id ((← storeOf id).erase key)
termination_by structural fuel => fuel

end

/-! ## Scripts -/

/-- How deep terms, statements and calls stand in one another at most. -/
def depth : Nat := 100000

def evalDeep (k : Settings) (t : Term) : Exec Value := eval k depth t

/-- Whether a rule is meant for the record. -/
def selects (k : Settings) (i : Nat) : Choice → Exec Bool
  | .all => return true
  | .those t => do return (← evalDeep k t).isTrue
  | .range first last => do
    let close : Exec Unit := do
      if (← evalDeep k last).isTrue then
        modify fun s => { s with openRanges := s.openRanges.filter (· != i) }
    if (← get).openRanges.contains i then
      close
      return true
    if (← evalDeep k first).isTrue then
      modify fun s => { s with openRanges := i :: s.openRanges }
      close
      return true
    return false

/-- Does what the rules say for the record. -/
def applyRules (k : Settings) : Exec Unit := do
  for (r, i) in k.script.rules.zipIdx do
    if ← selects k i r.choice then
      match r.action with
      | some st => exec k depth st
      | none => exec k depth (.print [] none)

/-- Goes through the records. -/
def records (k : Settings) : Exec Unit :=
  loop fun s =>
    let step : Exec Bool := do
      match ← nextRecord? k unescapedBytes recordLimit with
      | none => return false
      | some bs =>
        setRecord (.ofOuter bs) bs
        applyRules k
        return true
    match step.run s with
    | (.error .next, s) => (.ok true, s)
    | (.error .nextFile, s) => (.ok true, { s with feed := none })
    | r => r

/-- Runs something, after which an exit may go on with what stands at the end. -/
def untilExit (body : Exec Unit) : Exec Bool := fun s =>
  match body.run s with
  | (.ok (), s) => (.ok true, s)
  | (.error .exit, s) => (.ok false, s)
  | (.error e, s) => (.error e, s)

def readsRecords (s : Script) : Bool := !s.rules.isEmpty || !s.ends.isEmpty

/-- All that a script does. -/
def whole (k : Settings) : Exec Unit := do
  let goesOn ← untilExit (k.script.begins.forM (exec k depth))
  if goesOn && readsRecords k.script then discard (untilExit (records k))
  discard (untilExit (k.script.ends.forM (exec k depth)))

/-- What a script has come to. -/
inductive Result
  | waiting
  | ended (code : Nat)
  | failed (text : String)

def run (k : Settings) (s : State) : Result × State :=
  match (whole k).run s with
  | (.ok (), s) => (.ended s.code, s)
  | (.error .needsInput, s) => (.waiting, s)
  | (.error (.failed text), s) => (.failed text, s)
  | (.error _, s) => (.ended s.code, s)

/-- The variables at the start. -/
def initial (input : Bytes) (environment : List (Bytes × Bytes)) (arguments : List Bytes) :
    State where
  input := input
  shared :=
    [("FS", .value (.text [32])), ("OFS", .value (.text [32])), ("ORS", .value (.text [10])),
     ("RS", .value (.text [10])), ("NR", .value (.ofNat 0)), ("FNR", .value (.ofNat 0)),
     ("SUBSEP", .value (.text [28])), ("CONVFMT", .value (.text (bytesOf "%.6g"))),
     ("OFMT", .value (.text (bytesOf "%.6g"))), ("FILENAME", .value (.text [])),
     ("RSTART", .value (.ofNat 0)), ("RLENGTH", .value (.ofInt (-1))),
     ("ENVIRON", .store 0), ("ARGV", .store 1), ("ARGC", .value (.ofNat arguments.length))]
  stores :=
    [(0, environment.foldl (fun s e => s.insert (.text e.1) (.ofOuter e.2)) {}),
     (1, (arguments.zipIdx.foldl (fun s a => s.insert (.whole a.2) (.ofOuter a.1)) {}))]
  nextStore := 2

end Records
end Rehearsal
end Parley
