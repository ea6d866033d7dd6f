import Parley.Rehearsal.Tool.Amount
import Parley.Rehearsal.Tool.Lines
import Parley.Rehearsal.Tool.Sorting

/-!
# Parley.Rehearsal.Tool.Comparing

Lines compared with their neighbours and with the lines of another text.

* `Comparing.uniq`: neighbours that are the same.
* `Comparing.comm`, `join`: the lines of two sorted texts.
* `Comparing.tsort`: an order that agrees with pairs.
-/

namespace Parley
namespace Rehearsal
namespace Comparing

open Call

/-! ## Neighbours -/

/-- Which part of a line counts. -/
structure Manner where
  skipFields : Nat := 0
  skipBytes : Nat := 0
  width : Option Nat := none
  fold : Bool := false

def Manner.part (m : Manner) (line : Bytes) : Bytes :=
  let rest := (Sorting.behindFields none m.skipFields line).drop m.skipBytes
  let rest := m.width.elim rest rest.take
  if m.fold then rest.map Sorting.upper else rest

/-- Lines in groups of neighbours that are the same. -/
def groups (m : Manner) (ls : List Bytes) : List (List Bytes) :=
  (ls.foldl (fun (acc : List (List Bytes)) l =>
    match acc with
    | (k :: ks) :: rest =>
      if m.part k == m.part l then (k :: ks ++ [l]) :: rest else [l] :: acc
    | acc => [l] :: acc) []).reverse

def uniqKnown : Known :=
  known "cdDf:is:uw:z"
    [("count", .bare, "c"), ("repeated", .bare, "d"), ("all-repeated", .maybe, "D"),
      ("group", .maybe, "group"), ("skip-fields", .valued, "f"), ("ignore-case", .bare, "i"),
      ("skip-chars", .valued, "s"), ("unique", .bare, "u"), ("check-chars", .valued, "w"),
      ("zero-terminated", .bare, "z")]
    [("D", [["none"], ["prepend"], ["separate"]]),
     ("group", [["prepend"], ["append"], ["separate"], ["both"]])]

/-- Groups with blank lines about them. -/
def separated (how : String) (ending : UInt8) (gs : List (List Bytes)) : Bytes :=
  let blank : Bytes := [ending]
  let body (g : List Bytes) : Bytes := g.flatMap fun l => l ++ blank
  match how with
  | "prepend" => gs.flatMap fun g => blank ++ body g
  | "append" => gs.flatMap fun g => body g ++ blank
  | "both" => if gs.isEmpty then [] else blank ++ gs.flatMap fun g => body g ++ blank
  | "separate" => joinWith blank (gs.map body)
  | _ => gs.flatMap body

/-- A count among the options; none is a fault. -/
def countOf (p : Parsed) (key what : String) : Except String (Option Nat) :=
  match p.value? key with
  | none => .ok none
  | some w =>
    match Amount.plain? w with
    | some n => .ok (some n)
    | none => .error (wordOf w ++ ": invalid number of " ++ what)

/-- What is shown of groups. -/
def shownGroups (p : Parsed) (ending : UInt8) (gs : List (List Bytes)) : Bytes :=
  let all := ((p.value? "D").map wordOf)
  if let some how := (p.value? "group").map wordOf then
    separated (if how == "" then "separate" else how) ending gs
  else if let some how := all then
    separated (if how == "" then "none" else how) ending (gs.filter fun g => 1 < g.length)
  else
    (gs.filter fun g => (!p.has "d" || 1 < g.length) && (!p.has "u" || g.length == 1)).flatMap
      fun g =>
        (if p.has "c" then Copying.padLeft 7 (digitsOf g.length) ++ [32] else []) ++
          g.headD [] ++ [ending]

def uniq (c : Call) : Launch :=
  c.options uniqKnown 1 fun p =>
    let plan : Except String Manner := do
      let skipFields ← countOf p "f" "fields to skip"
      let skipBytes ← countOf p "s" "bytes to skip"
      let width ← countOf p "w" "bytes to compare"
      return { skipFields := skipFields.getD 0, skipBytes := skipBytes.getD 0, width
               fold := p.has "i" }
    match plan, p.operands with
    | .error text, _ => c.fail text 1
    | _, _ :: _ :: w :: _ => c.misuse ("extra operand " ++ cited w) 1
    | .ok m, words =>
      if p.has "group" && ["c", "d", "D", "u"].any p.has then
        c.misuse "--group is mutually exclusive with -c/-d/-D/-u" 1
      else if p.has "c" && p.has "D" then
        c.misuse "printing all duplicated lines and repeat counts is meaningless" 1
      else
        let ending : UInt8 := if p.has "z" then 0 else 10
        let launch := c.overLines (words.take 1) 1 fun bs ended =>
          let gs := groups m (Sorting.linesAt ending bs)
          if ended then { output := shownGroups p ending gs } else .waiting []
        match launch, words with
        | .tool t joints, [_, path] =>
          match path == [45], Copying.unwritable? c path with
          | true, _ => .tool t joints
          | false, some e => c.fail (asName path ++ ": " ++ e.reason) 1
          | false, none => .tool t ((1, .write, wordOf path) :: joints)
        | l, _ => l

/-! ## Two texts -/

/-- What two lists of lines have in common: each line with the column in which it stands. -/
def columns : Nat → List Bytes → List Bytes → List (Nat × Bytes)
  | 0, _, _ => []
  | _ + 1, [], bs => bs.map fun b => (2, b)
  | _ + 1, as, [] => as.map fun a => (1, a)
  | fuel + 1, a :: as, b :: bs =>
    match compareBytes a b with
    | .eq => (3, a) :: columns fuel as bs
    | .lt => (1, a) :: columns fuel as (b :: bs)
    | .gt => (2, b) :: columns fuel (a :: as) bs

/-- The number of the first line that comes before the one in front of it. -/
def unsorted? (number : Nat) : List Bytes → Option Nat
  | a :: b :: rest =>
    if compareBytes a b == .gt then some (number + 1)
    else unsorted? (number + 1) (b :: rest)
  | _ => none

def commKnown : Known :=
  known "123z" [("check-order", .bare, "check"), ("nocheck-order", .bare, "nocheck"),
    ("output-delimiter", .valued, "delimiter"), ("total", .bare, "total"),
    ("zero-terminated", .bare, "z")]

/-- Ends a tool that takes two words and has others. -/
def needsTwo (c : Call) (words : List Bytes) (make : Bytes → Bytes → Launch) : Launch :=
  match words with
  | [] => c.misuse "missing operand" 1
  | [w] => c.misuse ("missing operand after " ++ cited w) 1
  | [a, b] => make a b
  | _ :: _ :: w :: _ => c.misuse ("extra operand " ++ cited w) 1

/-- A tool that needs the contents of two texts. -/
def overTwo (c : Call) (code : Nat) (a b : Bytes) (make : Bytes → Bytes → Outcome) : Launch :=
  c.overWhole [a, b] fun texts =>
    let fail (t : Text) (e : SystemError) : Outcome :=
      .failure (c.complaint (asName t.name ++ ": " ++ e.reason)) code
    match texts with
    | [s, t] =>
      match s.content, t.content with
      | .ok bs, .ok cs => make bs cs
      | .error e, _ => fail s e
      | _, .error e => fail t e
    | _ => { code := some code }

def comm (c : Call) : Launch :=
  c.options commKnown 1 fun p =>
    needsTwo c p.operands fun a b =>
      overTwo c 1 a b fun as bs =>
        let ending : UInt8 := if p.has "z" then 0 else 10
        let (as, bs) := (Sorting.linesAt ending as, Sorting.linesAt ending bs)
        let rows := columns (as.length + bs.length + 1) as bs
        let hidden (n : Nat) : Bool := p.has (toString n)
        let delimiter := (p.value? "delimiter").getD [9]
        let lead (n : Nat) : Bytes :=
          (((List.range n).drop 1).filter fun k => !hidden k).flatMap fun _ => delimiter
        let shown := (rows.filter fun r => !hidden r.1).flatMap fun r => lead r.1 ++ r.2 ++ [ending]
        let count (n : Nat) : Bytes := digitsOf ((rows.filter fun r => r.1 == n).length)
        let total := if p.has "total" then
            joinWith delimiter [count 1, count 2, count 3, bytesOf "total"] ++ [ending]
          else []
        let wrong := if p.has "nocheck" then [] else
          (if (unsorted? 0 as).isSome then [1] else []) ++
            if (unsorted? 0 bs).isSome then [2] else []
        let said := wrong.flatMap fun n =>
          bytesOf (c.complaint ("file " ++ toString n ++ " is not in sorted order"))
        if wrong.isEmpty then { output := shown ++ total }
        else
          { output := shown ++ total
            errors := said ++ bytesOf (c.complaint "input is not in sorted order"), code := some 1 }

/-! ### Lines with the same field -/

/-- A field of the output: the one that is shared, or one of a text. -/
inductive Shown
  | shared
  | field (text : Nat) (n : Nat)

/-- How lines are joined. -/
structure Joint where
  tab : Option UInt8 := none
  fields : Nat × Nat := (0, 0)
  /-- The texts whose lines are shown without a partner, and whether only those are. -/
  alone : List Nat := []
  onlyAlone : Bool := false
  filler : Bytes := []
  shown : Option (List Shown) := none
  fold : Bool := false

def fieldsOf (tab : Option UInt8) (line : Bytes) : List Bytes :=
  match tab with
  | some t => Lines.fieldsAt t line
  | none =>
    (line.foldr (fun b (acc : List Bytes) =>
      if Sorting.isBlank b then [] :: acc
      else
        match acc with
        | p :: rest => (b :: p) :: rest
        | [] => [[b]]) [[]]).filter fun f => !f.isEmpty

def keyOf (j : Joint) (n : Nat) (fields : List Bytes) : Bytes :=
  let k := fields.getD n []
  if j.fold then k.map Sorting.upper else k

/-- A line of the output from two lines, of which one may be missing. -/
def joinedLine (j : Joint) (a b : Option (List Bytes)) : Bytes :=
  let separator : UInt8 := j.tab.getD 32
  let shared := match a, b with
    | some fs, _ => fs.getD j.fields.1 []
    | none, some fs => fs.getD j.fields.2 []
    | none, none => []
  let others (n : Nat) (fs : Option (List Bytes)) : List Bytes :=
    ((fs.getD []).zipIdx.filter fun f => f.2 != n).map (·.1)
  let value (f : Bytes) : Bytes := if f.isEmpty then j.filler else f
  let parts := match j.shown with
    | none => shared :: others j.fields.1 a ++ others j.fields.2 b
    | some ss => ss.map fun (s : Shown) =>
      match s with
      | .shared => value shared
      | .field text n => value (((if text == 1 then a else b).getD []).getD n [])
  joinWith [separator] (parts.map value) ++ [10]

/-- The lines of two texts that have the same key. -/
def joinLines (j : Joint) : Nat → List (List Bytes) → List (List Bytes) → Bytes
  | 0, _, _ => []
  | fuel + 1, as, bs =>
    let alone (n : Nat) (l : Bytes) : Bytes := if j.alone.contains n then l else []
    match as, bs with
    | [], [] => []
    | a :: as, [] => alone 1 (joinedLine j (some a) none) ++ joinLines j fuel as []
    | [], b :: bs => alone 2 (joinedLine j none (some b)) ++ joinLines j fuel [] bs
    | a :: as, b :: bs =>
      let (k, l) := (keyOf j j.fields.1 a, keyOf j j.fields.2 b)
      match compareBytes k l with
      | .lt => alone 1 (joinedLine j (some a) none) ++ joinLines j fuel as (b :: bs)
      | .gt => alone 2 (joinedLine j none (some b)) ++ joinLines j fuel (a :: as) bs
      | .eq =>
        let same := a :: as.takeWhile fun x => keyOf j j.fields.1 x == k
        let partners := b :: bs.takeWhile fun x => keyOf j j.fields.2 x == k
        let made := if j.onlyAlone then [] else
          same.flatMap fun x => partners.flatMap fun y => joinedLine j (some x) (some y)
        made ++ joinLines j fuel (as.drop (same.length - 1)) (bs.drop (partners.length - 1))

def joinKnown : Known :=
  known "a:e:i1:2:j:o:t:v:z" [("ignore-case", .bare, "i"), ("check-order", .bare, "check"),
    ("nocheck-order", .bare, "nocheck"), ("zero-terminated", .bare, "z"),
    ("header", .bare, "header")]

/-- A field by its number. -/
def fieldNumber (w : Bytes) : Except String Nat :=
  match Amount.plain? w with
  | some (n + 1) => .ok n
  | _ => .error ("invalid field number: " ++ cited w)

/-- A list of fields that are shown. -/
def shownList (w : Bytes) : Except String (List Shown) :=
  let items := ((wordOf w).map fun ch => if ch == ' ' then ',' else ch).splitOn ","
  items.mapM fun item =>
    match item.splitOn "." with
    | ["0"] => .ok .shared
    | [text, field] =>
      if text == "1" || text == "2" then do
        return .field (if text == "1" then 1 else 2) (← fieldNumber (bytesOf field))
      else .error ("invalid file number in field spec: " ++ cited (bytesOf item))
    | _ => .error ("invalid field specifier: " ++ cited (bytesOf item))

def jointOf (p : Parsed) : Except String Joint := do
  let number (key : String) : Except String (Option Nat) :=
    match p.value? key with
    | none => .ok none
    | some w => (fieldNumber w).map some
  let both ← number "j"
  let first ← number "1"
  let second ← number "2"
  let alone ← (p.given.filter fun g => g.1 == "a" || g.1 == "v").mapM fun g =>
    match wordOf g.2 with
    | "1" => pure 1
    | "2" => pure 2
    | text => throw ("invalid field number: " ++ cited (bytesOf text))
  let shown ← match p.value? "o" with
    | none => pure none
    | some w => if wordOf w == "auto" then pure none else (shownList w).map some
  return { tab := (p.value? "t").bind List.head?, alone, shown, fold := p.has "i"
           fields := ((first.orElse fun _ => both).getD 0, (second.orElse fun _ => both).getD 0)
           onlyAlone := p.has "v", filler := (p.value? "e").getD [] }

def join (c : Call) : Launch :=
  c.options joinKnown 1 fun p =>
    match jointOf p with
    | .error text => c.fail text 1
    | .ok j =>
      needsTwo c p.operands fun a b =>
        overTwo c 1 a b fun as bs =>
          let ls (bs : Bytes) : List Bytes := Sorting.linesAt 10 bs
          let fields (bs : Bytes) : List (List Bytes) := (ls bs).map (fieldsOf j.tab)
          let wrong (name : Bytes) (n : Nat) (bs : Bytes) : List String :=
            match unsorted? 1 ((fields bs).map (keyOf j n)) with
            | some k => [c.complaint (wordOf name ++ ":" ++ toString k ++ ": is not sorted: " ++
                wordOf ((ls bs).getD (k - 1) []))]
            | none => []
          let said := wrong a j.fields.1 as ++ wrong b j.fields.2 bs
          let output := joinLines j (as.length + bs.length + 1) (fields as) (fields bs)
          if said.isEmpty || p.has "nocheck" then { output }
          else
            { output, code := some 1
              errors := bytesOf (String.join said ++ c.complaint "input is not in sorted order") }

/-! ## Pairs -/

/-- The words of a text. -/
def wordsOf (bs : Bytes) : List Bytes := fieldsOf none bs

/-- Pairs of words; none if one is left over. -/
def pairs? : List Bytes → Option (List (Bytes × Bytes))
  | [] => some []
  | a :: b :: rest => (pairs? rest).map ((a, b) :: ·)
  | [_] => none

/-- Takes words before which nothing has to come, as long as there are any: those taken, and the
pairs that are left. The words behind one are looked at in the order in which they came last. -/
def released : Nat → List Bytes → List (Bytes × Bytes) → List Bytes × List (Bytes × Bytes)
  | 0, _, ps => ([], ps)
  | _ + 1, [], ps => ([], ps)
  | fuel + 1, w :: queue, ps =>
    let left := ps.filter fun p => p.1 != w
    let behind := ((ps.filter fun p => p.1 == w).map (·.2)).reverse.eraseDups.filter fun v =>
      left.all fun p => p.2 != v
    let (ws, ps) := released fuel (queue ++ behind) left
    (w :: ws, ps)

/-- Words in a circle that goes from each to one that has to come before it. -/
def circle (ps : List (Bytes × Bytes)) : Nat → List Bytes → Bytes → List Bytes
  | 0, seen, _ => seen
  | fuel + 1, seen, w =>
    if seen.contains w then
      let inside := seen.takeWhile (· != w)
      w :: inside.reverse
    else
      match ps.find? fun p => p.2 == w with
      | some p => circle ps fuel (w :: seen) p.1
      | none => seen

def ordered (c : Call) (name : Bytes) (ps : List (Bytes × Bytes)) : Outcome :=
  let words := ((ps.flatMap fun p => [p.1, p.2]).eraseDups).mergeSort fun a b =>
    compareBytes a b != .gt
  let ps := ps.filter fun p => p.1 != p.2
  let first := words.filter fun w => ps.all fun p => p.2 != w
  let (out, left) := released (words.length + 1) first ps
  let shownWords (ws : List Bytes) : Bytes := ws.flatMap fun w => w ++ [10]
  if left.isEmpty then { output := shownWords out }
  else
    let inLoop := words.filter fun w => !out.contains w
    let found := (circle left (inLoop.length + 2) [] (inLoop.headD [])).mergeSort fun a b =>
      compareBytes a b != .gt
    let lead := c.complaint (wordOf name ++ ": input contains a loop:")
    { output := shownWords (out ++ inLoop), code := some 1
      errors := bytesOf (lead ++ String.join (found.map fun w => c.complaint (wordOf w))) }

def tsort (c : Call) : Launch :=
  c.options (known "" []) 1 fun p =>
    match p.operands with
    | _ :: w :: _ => c.misuse ("extra operand " ++ cited w) 1
    | words =>
      c.overWhole words fun texts =>
        let (content, errors) := c.joined texts
        let name := (words.head?).getD [45]
        if !errors.isEmpty then { errors, code := some 1 }
        else
          match pairs? (wordsOf content) with
          | some ps => ordered c name ps
          | none =>
            .failure (c.complaint (wordOf name ++ ": input contains an odd number of tokens")) 1

end Comparing
end Rehearsal
end Parley
