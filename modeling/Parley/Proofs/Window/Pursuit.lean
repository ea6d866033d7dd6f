import Parley.Proofs.Pattern.Literal
import Parley.Proofs.Window.Append
import Parley.Window.Take

/-!
# Parley.Proofs.Window.Pursuit

A list of patterns looked for one after the other in output that comes in chunks.

* `pursue`: takes the patterns from a window, and appends a chunk whenever one is not there yet.
* `Found`: what a list of literals takes from a text that is there at once.
* `pursue_found`: literals take the same from chunks, so the cuts do not matter.
-/

namespace Parley
namespace Window

open Utf8 Pattern

/-- Looks for patterns in turn. A pattern that is not in the window waits for the next chunk; once
there are no more patterns the chunks that are left are appended. -/
def pursue : List Pattern → List (List UInt8) → Window → List Excerpt × Window
  | [], chunks, w => ([], chunks.foldl (fun w chunk => w.append chunk) w)
  | p :: ps, chunks, w =>
    match w.find? p with
    | some o =>
      let (excerpt, w) := w.take o
      let (excerpts, w) := pursue ps chunks w
      (excerpt :: excerpts, w)
    | none =>
      match chunks with
      | [] => ([], w)
      | chunk :: chunks => pursue (p :: ps) chunks (w.append chunk)
termination_by ps chunks => ps.length + chunks.length

/-- What literals take from a text, in turn: what stands before each of them, and the literal. The
first one that is not there ends the search. -/
inductive Found : List String → List Char → List (String × String) → List Char → Prop
  | done {text : List Char} : Found [] text [] text
  | absent {s : String} {literals : List String} {text : List Char} :
      ¬ s.toList <:+: text → Found (s :: literals) text [] text
  | here {s : String} {literals : List String} {text before after rest : List Char}
      {pairs : List (String × String)} :
      Leftmost s.toList text before after → Found literals after pairs rest →
      Found (s :: literals) text ((String.ofList before, s) :: pairs) rest

variable {w : Window} {text before after rest rest' : List Char} {literals : List String}
  {pairs pairs' : List (String × String)} {chunks : List (List UInt8)}

theorem Found.unique (h : Found literals text pairs rest) (h' : Found literals text pairs' rest') :
    pairs' = pairs ∧ rest' = rest := by
  induction h generalizing pairs' with
  | done => cases h'; exact ⟨rfl, rfl⟩
  | absent hnot =>
    cases h' with
    | absent => exact ⟨rfl, rfl⟩
    | here hleft =>
      exact absurd ⟨_, _, by rw [hleft.text_eq, List.append_assoc]⟩ hnot
  | here hleft _ ih =>
    cases h' with
    | absent hnot =>
      exact absurd ⟨_, _, by rw [hleft.text_eq, List.append_assoc]⟩ hnot
    | here hleft' hfound =>
      obtain ⟨rfl, rfl⟩ := hleft.unique hleft'
      obtain ⟨rfl, rfl⟩ := ih hfound
      exact ⟨rfl, rfl⟩

/-- What an excerpt took from the window. -/
def taken (e : Excerpt) : String × String := (e.before, e.matched)

/-! ## One step -/

section

variable {p : Pattern} {ps : List Pattern} {o : Occurrence}

theorem pursue_of_some (h : w.find? p = some o) :
    pursue (p :: ps) chunks w =
      ((w.take o).1 :: (pursue ps chunks (w.take o).2).1, (pursue ps chunks (w.take o).2).2) := by
  rw [pursue.eq_def]
  simp only [h]

theorem pursue_nil_of_none (h : w.find? p = none) : pursue (p :: ps) [] w = ([], w) := by
  rw [pursue.eq_def]
  simp only [h]

theorem pursue_cons_of_none (h : w.find? p = none) (chunk : List UInt8) :
    pursue (p :: ps) (chunk :: chunks) w = pursue (p :: ps) chunks (w.append chunk) := by
  rw [pursue.eq_def]
  simp only [h]

end

/-- An occurrence in the text at the front of a window is taken with what stands before it, and all
behind it stays. -/
theorem take_of_cuts {o : Occurrence} {matched : List Char} {r : List UInt8}
    (hc : o.Cuts text before matched after) (hw : w.bytes = encode text ++ r) :
    w.take o =
      ({ matched := String.ofList matched
         captures := o.captures
         before := String.ofList before
         rest := String.ofList (lossy (encode after ++ r)) },
        { w with bytes := encode after ++ r }) := by
  have hbytes : w.bytes = encode before ++ (encode matched ++ (encode after ++ r)) := by
    rw [hw, hc.text_eq]
    simp
  have hmatched :=
    consume_of_encode_append (w := { w with bytes := encode matched ++ (encode after ++ r) }) rfl
  simp only [take, Occurrence.length, hc.start_eq, hc.stop_eq, consume_of_encode_append hbytes,
    Nat.add_sub_cancel_left, hmatched, shown]

/-- A literal that stands leftmost in the text of a window is taken with what stands before it. -/
theorem take_leftmost {s : String} {r : List UInt8} (h : Leftmost s.toList text before after)
    (hw : w.bytes = encode text ++ r) :
    taken (w.take { start := size before, stop := size before + size s.toList }).1 =
        (String.ofList before, s) ∧
      (w.take { start := size before, stop := size before + size s.toList }).2 =
        { w with bytes := encode after ++ r } := by
  simp only [take_of_cuts h.cuts hw, taken, String.ofList_toList, and_self]

/-- Chunks that fit are put one behind the other. -/
theorem foldl_append_bytes (ho : Opening (w.bytes ++ chunks.flatten))
    (hlen : (w.bytes ++ chunks.flatten).length ≤ w.capacity) :
    (chunks.foldl (fun w chunk => w.append chunk) w).bytes = w.bytes ++ chunks.flatten := by
  induction chunks generalizing w with
  | nil => simp
  | cons chunk chunks ih =>
    rw [List.flatten_cons, ← List.append_assoc] at ho hlen ⊢
    have hpre : w.bytes ++ chunk <+: w.bytes ++ chunk ++ chunks.flatten := List.prefix_append _ _
    have happ := append_of_fits (ho.of_prefix hpre) (hpre.length_le.trans hlen)
    rw [← happ] at ho hlen ⊢
    exact ih ho (by rwa [append_capacity])

/-! ## The whole search -/

/-- A literal that is in the window already is found in the whole text, and the search goes on
behind it. -/
theorem pursue_found_here {s : String} (hleft : Leftmost s.toList w.text before after)
    (h : w.bytes ++ chunks.flatten = encode text) (hlen : (encode text).length ≤ w.capacity)
    (ih : ∀ {w : Window} {text : List Char} {chunks : List (List UInt8)},
      w.bytes ++ chunks.flatten = encode text → (encode text).length ≤ w.capacity →
        ∃ rest, Found literals text ((pursue (literals.map .literal) chunks w).1.map taken) rest ∧
          (pursue (literals.map .literal) chunks w).2.bytes = encode rest) :
    ∃ rest, Found (s :: literals) text
        ((pursue (.literal s :: literals.map .literal) chunks w).1.map taken) rest ∧
      (pursue (.literal s :: literals.map .literal) chunks w).2.bytes = encode rest := by
  obtain ⟨ds, r, hds, hw, -, hr⟩ := encode_text_append h
  obtain ⟨htaken, hleaves⟩ := take_leftmost hleft hw
  have hbytes : (w.take { start := size before, stop := size before + size s.toList }).2.bytes ++
      chunks.flatten = encode (after ++ ds) := by
    rw [hleaves, List.append_assoc, hr, encode_append]
  have hroom : (encode (after ++ ds)).length ≤
      (w.take { start := size before, stop := size before + size s.toList }).2.capacity := by
    rw [hleaves]
    refine le_trans ?_ hlen
    rw [hds, show Utf8.text w.bytes = _ from hleft.text_eq]
    simp only [length_encode, size_append]
    omega
  obtain ⟨rest, hfound, hrest⟩ := ih hbytes hroom
  have hwhole : Leftmost s.toList text before (after ++ ds) := hds ▸ hleft.append ds
  rw [pursue_of_some (find?_literal_of_leftmost hleft), List.map_cons, htaken]
  exact ⟨rest, .here hwhole hfound, hrest⟩

/-- Literals take from a window and the chunks to come what they take from the whole text. -/
theorem pursue_found (h : w.bytes ++ chunks.flatten = encode text)
    (hlen : (encode text).length ≤ w.capacity) :
    ∃ rest, Found literals text ((pursue (literals.map .literal) chunks w).1.map taken) rest ∧
      (pursue (literals.map .literal) chunks w).2.bytes = encode rest := by
  induction literals generalizing w text chunks with
  | nil =>
    refine ⟨text, ?_, ?_⟩
    · rw [List.map_nil, pursue]
      exact .done
    · rw [List.map_nil, pursue, foldl_append_bytes (h ▸ opening_encode text) (h ▸ hlen), h]
  | cons s literals ihs =>
    rw [List.map_cons]
    induction chunks generalizing w with
    | nil =>
      rcases find?_literal_cases s w.text with ⟨before, after, hleft, hfind⟩ | ⟨hnot, hfind⟩
      · exact pursue_found_here hleft h hlen ihs
      · rw [List.flatten_nil, List.append_nil] at h
        rw [Window.text, h, text_encode] at hnot
        rw [pursue_nil_of_none hfind]
        exact ⟨text, .absent hnot, h⟩
    | cons chunk chunks ihc =>
      rcases find?_literal_cases s w.text with ⟨before, after, hleft, hfind⟩ | ⟨-, hfind⟩
      · exact pursue_found_here hleft h hlen ihs
      · rw [List.flatten_cons, ← List.append_assoc] at h
        have hpre : w.bytes ++ chunk <+: encode text := ⟨_, h⟩
        have happ := append_of_prefix hpre hlen
        rw [pursue_cons_of_none hfind]
        exact ihc (by rw [happ, h]) (by rwa [append_capacity])

/-- Literals take the same from a fresh window, however the output is cut into chunks, and leave
the same bytes behind. -/
theorem pursue_literals_chunks_irrel {capacity : Nat} {chunks' : List (List UInt8)}
    (hlen : (encode text).length ≤ capacity) (h : chunks.flatten = encode text)
    (h' : chunks'.flatten = encode text) :
    (pursue (literals.map .literal) chunks (.ofCapacity capacity)).1.map taken =
        (pursue (literals.map .literal) chunks' (.ofCapacity capacity)).1.map taken ∧
      (pursue (literals.map .literal) chunks (.ofCapacity capacity)).2.bytes =
        (pursue (literals.map .literal) chunks' (.ofCapacity capacity)).2.bytes := by
  have hcap : (encode text).length ≤ (Window.ofCapacity capacity).capacity :=
    hlen.trans (Nat.le_max_left _ _)
  have hrun {cs : List (List UInt8)} (hcs : cs.flatten = encode text) :
      ∃ rest, Found literals text
          ((pursue (literals.map .literal) cs (.ofCapacity capacity)).1.map taken) rest ∧
        (pursue (literals.map .literal) cs (.ofCapacity capacity)).2.bytes = encode rest :=
    pursue_found hcs hcap
  obtain ⟨rest, hfound, hrest⟩ := hrun h
  obtain ⟨rest', hfound', hrest'⟩ := hrun h'
  obtain ⟨hpairs, hsame⟩ := hfound'.unique hfound
  exact ⟨hpairs, by rw [hrest, hrest', hsame]⟩

/-- A stream that comes at once, and the same stream cut inside a character and inside a literal. -/
theorem pursue_literals_chunks_irrel_inside_character :
    ∃ chunks chunks' : List (List UInt8),
      chunks = [[0xC3, 0xA9, 0x6F, 0x6B, 0x21]] ∧
      chunks' = [[0xC3], [0xA9, 0x6F], [], [0x6B, 0x21]] ∧
      (encode ['é', 'o', 'k', '!']).length ≤ 5 ∧
      chunks.flatten = encode ['é', 'o', 'k', '!'] ∧
      chunks'.flatten = encode ['é', 'o', 'k', '!'] ∧
      ((pursue (["ok", "ok"].map .literal) chunks (.ofCapacity 5)).1.map taken =
          (pursue (["ok", "ok"].map .literal) chunks' (.ofCapacity 5)).1.map taken ∧
        (pursue (["ok", "ok"].map .literal) chunks (.ofCapacity 5)).2.bytes =
          (pursue (["ok", "ok"].map .literal) chunks' (.ofCapacity 5)).2.bytes) ∧
      (pursue (["ok", "ok"].map .literal) chunks (.ofCapacity 5)).1.map taken = [("é", "ok")] := by
  have hlen : (encode ['é', 'o', 'k', '!']).length ≤ 5 := by decide
  have h : [[0xC3, 0xA9, 0x6F, 0x6B, 0x21]].flatten = encode ['é', 'o', 'k', '!'] := by decide
  have h' : [[0xC3], [0xA9, 0x6F], [], [0x6B, 0x21]].flatten = encode ['é', 'o', 'k', '!'] := by
    decide
  exact ⟨_, _, rfl, rfl, hlen, h, h', pursue_literals_chunks_irrel hlen h h', by decide +kernel⟩

end Window
end Parley
