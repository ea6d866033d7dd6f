import Mathlib.Logic.Function.Basic
import Parley.Proofs.Session.Reading
import Parley.Proofs.Window.Room

/-!
# Parley.Proofs.Session.Merging

Two streams that feed one window, each cut into chunks on its own.

* `Undivided`: no chunk comes while the other stream is inside a character.
* `Interleaves`: a text is made of the characters of both streams, each in its own order.
* `merges_of_undivided_or_opening`: as long as no character is divided, what came is whole
  characters of both streams, and at the end what one of them has begun.
* `interleaves_of_undivided`: then the window shows an interleaving of the two; and it shows none,
  given room for all that it shows, if some character is divided.
-/

namespace Parley

open Utf8

/-! ## What comes from where -/

namespace Stream

def other : Stream → Stream
  | output => errors
  | errors => output

@[simp] theorem other_other (stream : Stream) : stream.other.other = stream := by
  cases stream <;> rfl

@[simp] theorem other_ne (stream : Stream) : stream.other ≠ stream := by
  cases stream <;> decide

theorem eq_or_eq_other (a b : Stream) : a = b ∨ a = b.other := by
  cases a <;> cases b <;> simp [other]

variable {α : Type}

/-- What comes from one stream, in a list that says for everything where it comes from. -/
def only (stream : Stream) (l : List (Stream × α)) : List α :=
  (l.filter (·.1 = stream)).map Prod.snd

variable {stream : Stream} {l l' : List (Stream × α)}

@[simp] theorem only_append : stream.only (l ++ l') = stream.only l ++ stream.only l' := by
  simp [only]

theorem only_tagged (as : List α) : stream.only (as.map (Prod.mk stream)) = as := by
  induction as with
  | nil => rfl
  | cons a as ih => simpa [only] using ih

theorem only_other_tagged {other : Stream} (h : other ≠ stream) (as : List α) :
    other.only (as.map (Prod.mk stream)) = [] := by
  simp [only, h.symm]

theorem weigh_only (f : UInt8 → Nat) (g : α → List UInt8) (l : List (Stream × α)) :
    weigh f ((l.map Prod.snd).flatMap g) =
      weigh f ((output.only l).flatMap g) + weigh f ((errors.only l).flatMap g) := by
  induction l with
  | nil => rfl
  | cons d l ih =>
    obtain ⟨stream, a⟩ := d
    cases stream <;> simp [only] at ih ⊢ <;> omega

end Stream

/-- A chunk, with the stream that it comes from. -/
abbrev Delivery := Stream × List UInt8

/-- The chunks that a wait brings. -/
def Reading.deliveries : Reading → List Delivery
  | .chunk stream bytes => [(stream, bytes)]
  | .outputEnded drained _ => drained.map (Prod.mk .errors)
  | .errorsEnded | .nothing | .fault _ => []

theorem Session.hear_window (s : Session) (reading : Reading) :
    (s.hear reading).window = s.window.appendAll (reading.deliveries.map Prod.snd) := by
  cases reading with
  | chunk stream bytes => rfl
  | outputEnded drained errorsEnded =>
    simp [hear, hearAll, Reading.deliveries, Window.appendAll, Function.comp_def]
  | errorsEnded => rfl
  | nothing => rfl
  | fault e => rfl

theorem Session.foldl_hear_window (s : Session) (readings : List Reading) :
    (readings.foldl Session.hear s).window =
      s.window.appendAll ((readings.flatMap Reading.deliveries).map Prod.snd) := by
  induction readings generalizing s with
  | nil => rfl
  | cons reading readings ih =>
    rw [List.foldl_cons, ih, hear_window, ← Window.appendAll_append, ← List.map_append,
      List.flatMap_cons]

/-- No chunk comes while the other stream is inside a character. -/
def Undivided (ds : List Delivery) : Prop :=
  ∀ before stream chunk after, ds = before ++ (stream, chunk) :: after → chunk ≠ [] →
    ∃ cs, (stream.other.only before).flatten = encode cs

/-- A text is made of the characters of both streams, each in its own order. -/
def Interleaves (texts : Stream → List Char) (text : List Char) : Prop :=
  ∃ tagged : List (Stream × Char),
    text = tagged.map Prod.snd ∧ ∀ stream : Stream, stream.only tagged = texts stream

/-- Chunks of two streams, so far: whole characters of both, and then what one of them has begun. -/
structure Merges (ds : List Delivery) (tagged : List (Stream × Char))
    (rest : Stream → List UInt8) : Prop where
  each : ∀ stream : Stream, (stream.only ds).flatten = encode (stream.only tagged) ++ rest stream
  begun : ∀ stream, Begun (rest stream)
  together : ∃ stream, rest stream.other = [] ∧
    (ds.map Prod.snd).flatten = encode (tagged.map Prod.snd) ++ rest stream

variable {ds : List Delivery} {tagged : List (Stream × Char)} {rest : Stream → List UInt8}
  {stream : Stream} {chunk : List UInt8}

/-! ## One chunk -/

theorem undivided_append_singleton :
    Undivided (ds ++ [(stream, chunk)]) ↔
      Undivided ds ∧ (chunk ≠ [] → ∃ cs, (stream.other.only ds).flatten = encode cs) := by
  constructor
  · intro h
    refine ⟨?_, h ds stream chunk [] rfl⟩
    intro before stream' chunk' after hds
    exact h before stream' chunk' (after ++ [(stream, chunk)]) (by rw [hds]; simp)
  · rintro ⟨hds, hlast⟩ before stream' chunk' after hsplit
    rcases List.eq_nil_or_concat after with rfl | ⟨after, d, rfl⟩
    · obtain ⟨rfl, hd⟩ := List.append_inj' hsplit rfl
      cases hd
      exact hlast
    · rw [List.concat_eq_append, ← List.cons_append, ← List.append_assoc] at hsplit
      exact hds before stream' chunk' after (List.append_inj' hsplit rfl).1

theorem flatten_only_append_singleton :
    (stream.only (ds ++ [(stream, chunk)])).flatten = (stream.only ds).flatten ++ chunk := by
  have h : stream.only [(stream, chunk)] = [chunk] := Stream.only_tagged [chunk]
  rw [Stream.only_append, h, List.flatten_append, List.flatten_singleton]

theorem only_append_singleton_of_ne {other : Stream} (h : other ≠ stream) :
    other.only (ds ++ [(stream, chunk)]) = other.only ds := by
  have hnone : other.only [(stream, chunk)] = [] := Stream.only_other_tagged h [chunk]
  rw [Stream.only_append, hnone, List.append_nil]

theorem flatten_map_append_singleton :
    ((ds ++ [(stream, chunk)]).map Prod.snd).flatten = (ds.map Prod.snd).flatten ++ chunk := by
  simp

theorem Merges.together_of_other (h : Merges ds tagged rest) (hother : rest stream.other = []) :
    (ds.map Prod.snd).flatten = encode (tagged.map Prod.snd) ++ rest stream := by
  obtain ⟨open', hclosed, hall⟩ := h.together
  rcases Stream.eq_or_eq_other open' stream with rfl | rfl
  · exact hall
  · rw [Stream.other_other] at hclosed
    rw [hall, hother, hclosed]

/-- A chunk goes on with the character that its stream has begun, if the other one has begun none. -/
theorem Merges.deliver (h : Merges ds tagged rest) (hother : rest stream.other = [])
    (ho : Opening ((stream.only ds).flatten ++ chunk)) :
    ∃ tagged' rest', Merges (ds ++ [(stream, chunk)]) tagged' rest' := by
  rw [h.each, List.append_assoc] at ho
  obtain ⟨cs, r, hcs, hr⟩ := ho.exists_append_of_encode
  refine ⟨tagged ++ cs.map (Prod.mk stream), Function.update rest stream r, ?_, ?_, ?_⟩
  · intro s
    by_cases hs : s = stream
    · subst hs
      rw [flatten_only_append_singleton, h.each, List.append_assoc, hcs, Stream.only_append,
        Stream.only_tagged, encode_append, Function.update_self, List.append_assoc]
    · rw [only_append_singleton_of_ne hs, h.each, Stream.only_append, Stream.only_other_tagged hs,
        List.append_nil, Function.update_of_ne hs]
  · intro s
    by_cases hs : s = stream
    · rw [hs, Function.update_self]
      exact hr
    · rw [Function.update_of_ne hs]
      exact h.begun s
  · refine ⟨stream, ?_, ?_⟩
    · rw [Function.update_of_ne stream.other_ne]
      exact hother
    · rw [flatten_map_append_singleton, h.together_of_other hother, List.append_assoc, hcs,
        Function.update_self, List.map_append, encode_append, List.append_assoc, List.map_map]
      simp [Function.comp_def]

theorem Merges.deliver_nil (h : Merges ds tagged rest) :
    Merges (ds ++ [(stream, [])]) tagged rest := by
  refine ⟨?_, h.begun, ?_⟩
  · intro s
    by_cases hs : s = stream
    · subst hs
      rw [flatten_only_append_singleton, List.append_nil, h.each]
    · rw [only_append_singleton_of_ne hs, h.each]
  · rw [flatten_map_append_singleton, List.append_nil]
    exact h.together

theorem begun_eq_nil_of_encode {r : List UInt8} {cs es : List Char} (hr : Begun r)
    (h : encode cs ++ r = encode es) : r = [] := by
  have htext := congrArg text h
  rw [text_encode_append cs hr, text_encode] at htext
  rw [htext, List.append_right_eq_self] at h
  exact h

/-- A chunk behind what the other stream has begun leaves no opening: it begins a character. -/
theorem Merges.other_eq_nil (h : Merges ds tagged rest) (hne : chunk ≠ [])
    (ho : Opening ((stream.only ds).flatten ++ chunk))
    (hall : Opening ((ds.map Prod.snd).flatten ++ chunk)) : rest stream.other = [] := by
  obtain ⟨open', hclosed, hbytes⟩ := h.together
  rcases Stream.eq_or_eq_other open' stream with rfl | rfl
  · exact hclosed
  · rw [Stream.other_other] at hclosed
    rw [h.each, hclosed, List.append_nil] at ho
    rw [hbytes, List.append_assoc] at hall
    obtain ⟨cs, r, rfl, hr⟩ := ho.exists_append_of_encode
    obtain ⟨es, r', hes, hr'⟩ := hall.exists_append_of_encode
    exact begun_eq_nil_of_fresh (h.begun _) (startsFresh_encode_append cs hr) hne
      (hes ▸ opening_encode_append es hr')

/-! ## All chunks -/

/-- Two streams whose chunks come between characters of one another, or together open a text, do
both, and merge. -/
theorem merges_of_undivided_or_opening (hopen : ∀ stream : Stream, Opening (stream.only ds).flatten)
    (h : Undivided ds ∨ Opening (ds.map Prod.snd).flatten) :
    Undivided ds ∧ ∃ tagged rest, Merges ds tagged rest := by
  induction ds using List.reverseRecOn with
  | nil =>
    refine ⟨?_, [], fun _ => [], fun _ => rfl, fun _ => begun_nil, .output, rfl, rfl⟩
    intro before stream chunk after hnil
    simp at hnil
  | append_singleton ds d ih =>
    obtain ⟨stream, chunk⟩ := d
    have hthis := hopen stream
    rw [flatten_only_append_singleton] at hthis
    have hbefore (s : Stream) : Opening (s.only ds).flatten := by
      refine Opening.of_prefix (hopen s) ?_
      rw [Stream.only_append, List.flatten_append]
      exact List.prefix_append _ _
    rw [flatten_map_append_singleton, undivided_append_singleton] at h
    have hold : Undivided ds ∨ Opening (ds.map Prod.snd).flatten :=
      h.imp And.left fun hall => hall.of_prefix (List.prefix_append _ _)
    obtain ⟨hds, tagged, rest, hm⟩ := ih hbefore hold
    rw [undivided_append_singleton]
    by_cases hne : chunk = []
    · subst hne
      exact ⟨⟨hds, fun hnot => absurd rfl hnot⟩, tagged, rest, hm.deliver_nil⟩
    · have hother : rest stream.other = [] := by
        rcases h with ⟨-, hlast⟩ | hall
        · obtain ⟨cs, hcs⟩ := hlast hne
          rw [hm.each] at hcs
          exact begun_eq_nil_of_encode (hm.begun _) hcs
        · exact hm.other_eq_nil hne hthis hall
      refine ⟨⟨hds, fun _ => ⟨stream.other.only tagged, ?_⟩⟩, hm.deliver hother hthis⟩
      rw [hm.each, hother, List.append_nil]

theorem Merges.interleaves {texts : Stream → List Char} (h : Merges ds tagged rest)
    (htexts : ∀ stream : Stream, (stream.only ds).flatten = encode (texts stream)) :
    ∃ text, Interleaves texts text ∧ (ds.map Prod.snd).flatten = encode text := by
  have hnil (stream : Stream) : rest stream = [] := by
    have heach := h.each stream
    rw [htexts] at heach
    exact begun_eq_nil_of_encode (h.begun stream) heach.symm
  obtain ⟨open', -, hall⟩ := h.together
  rw [hnil, List.append_nil] at hall
  refine ⟨_, ⟨tagged, rfl, ?_⟩, hall⟩
  intro stream
  have heach := congrArg text (h.each stream)
  rw [htexts, hnil, List.append_nil, text_encode, text_encode] at heach
  exact heach.symm

theorem Interleaves.weigh_eq {texts : Stream → List Char} {text : List Char}
    (h : Interleaves texts text) (f : UInt8 → Nat) :
    weigh f (encode text) =
      weigh f (encode (texts .output)) + weigh f (encode (texts .errors)) := by
  obtain ⟨tagged, rfl, hof⟩ := h
  rw [← hof .output, ← hof .errors]
  exact Stream.weigh_only f encodeChar tagged

theorem weigh_deliveries {texts : Stream → List Char}
    (htexts : ∀ stream : Stream, (stream.only ds).flatten = encode (texts stream))
    (f : UInt8 → Nat) :
    weigh f (ds.map Prod.snd).flatten =
      weigh f (encode (texts .output)) + weigh f (encode (texts .errors)) := by
  have h := Stream.weigh_only f id ds
  simp only [List.flatMap_id] at h
  rw [h, htexts, htexts]

/-- The first chunk that is not empty begins a character, for its stream does. -/
theorem startsFresh_deliveries (h : ∀ stream : Stream, StartsFresh (stream.only ds).flatten) :
    StartsFresh (ds.map Prod.snd).flatten := by
  induction ds with
  | nil => exact h .output
  | cons d ds ih =>
    obtain ⟨stream, chunk⟩ := d
    have hthis := h stream
    rw [List.map_cons, List.flatten_cons]
    cases chunk with
    | nil =>
      refine ih fun s => ?_
      have hs := h s
      by_cases heq : stream = s <;> simpa [Stream.only, heq] using hs
    | cons b chunk =>
      intro b' hb'
      refine hthis b' ?_
      simpa [Stream.only] using hb'

/-- Two texts come in chunks, in any order, to a session whose window is empty and has room for
both. If no chunk comes while the other stream is inside a character, the window holds an
interleaving of their characters and nothing else. And this is the only way to get one: once a
character is divided, what is shown is none, if there is room for it. -/
theorem interleaves_of_undivided (s : Session) (hempty : s.window.bytes = [])
    {readings : List Reading} {texts : Stream → List Char}
    (htexts : ∀ stream : Stream,
      (stream.only (readings.flatMap Reading.deliveries)).flatten = encode (texts stream))
    (hroom : size (texts .output) + size (texts .errors) ≤ s.window.capacity) :
    let ds := readings.flatMap Reading.deliveries
    let w := (readings.foldl Session.hear s).window
    (Undivided ds → w.shown = w.text ∧ Interleaves texts w.text) ∧
    (size (lossy (ds.map Prod.snd).flatten) ≤ s.window.capacity →
      Interleaves texts w.shown → Undivided ds) := by
  intro ds w
  have hopen (stream : Stream) : Opening (stream.only ds).flatten := by
    rw [htexts]
    exact opening_encode _
  have hfresh : StartsFresh (ds.map Prod.snd).flatten :=
    startsFresh_deliveries fun stream => (hopen stream).startsFresh
  have hbytes (hfits : (mended (ds.map Prod.snd).flatten).length ≤ s.window.capacity) :
      w.bytes = mended (ds.map Prod.snd).flatten := by
    have hw : w = s.window.appendAll (ds.map Prod.snd) := s.foldl_hear_window readings
    rw [hw]
    exact Window.appendAll_bytes hempty hfresh hfits
  constructor
  · intro hds
    obtain ⟨-, tagged, rest, hm⟩ := merges_of_undivided_or_opening hopen (.inl hds)
    obtain ⟨text, htext, hall⟩ := hm.interleaves htexts
    have hfits : (mended (ds.map Prod.snd).flatten).length ≤ s.window.capacity := by
      have hsize := htext.weigh_eq fun _ => 1
      simp only [weigh_one, length_encode] at hsize
      rw [hall, mended_of_opening (opening_encode text), length_encode, hsize]
      exact hroom
    have hw := hbytes hfits
    rw [hall, mended_of_opening (opening_encode text)] at hw
    rw [Window.shown, Window.text, hw, lossy_encode, text_encode]
    exact ⟨rfl, htext⟩
  · intro hlossy hshown
    have hw := hbytes ((length_mended_le_size_lossy _).trans hlossy)
    rw [Window.shown, hw, lossy_mended] at hshown
    have hweigh := hshown.weigh_eq heft
    rw [← weigh_deliveries htexts heft] at hweigh
    exact (merges_of_undivided_or_opening hopen (.inr (opening_of_weigh_lossy_le hweigh.le))).1

/-- Two streams that take turns, each at the end of a character. The last chunk is read only once the
output has ended. -/
def turns : List Reading :=
  [.chunk .output [0xE2, 0x9C], .chunk .output [0x93], .chunk .errors [0xC3], .nothing,
    .chunk .errors [0xA9], .chunk .output [0x6B], .outputEnded [[0x21]] true]

theorem interleaves_of_undivided_turns :
    ∃ (s : Session) (texts : Stream → List Char), s.window = .ofCapacity 7 ∧
      texts .output = ['✓', 'k'] ∧ texts .errors = ['é', '!'] ∧
      (∀ stream : Stream,
        (stream.only (turns.flatMap Reading.deliveries)).flatten = encode (texts stream)) ∧
      size (texts .output) + size (texts .errors) ≤ s.window.capacity ∧
      Undivided (turns.flatMap Reading.deliveries) ∧
      (turns.foldl Session.hear s).window.text = ['✓', 'é', 'k', '!'] ∧
      (turns.foldl Session.hear s).window.shown = (turns.foldl Session.hear s).window.text ∧
      Interleaves texts (turns.foldl Session.hear s).window.text := by
  let s := Session.fresh { capacity := 7 } "" none
  let texts : Stream → List Char
    | .output => ['✓', 'k']
    | .errors => ['é', '!']
  have htexts : ∀ stream : Stream,
      (stream.only (turns.flatMap Reading.deliveries)).flatten = encode (texts stream) := by
    intro stream
    cases stream <;> decide
  have hall : Opening ((turns.flatMap Reading.deliveries).map Prod.snd).flatten :=
    ⟨['✓', 'é', 'k', '!'], by decide⟩
  have hds : Undivided (turns.flatMap Reading.deliveries) :=
    (merges_of_undivided_or_opening (fun stream => htexts stream ▸ opening_encode _) (.inr hall)).1
  obtain ⟨hshown, htext⟩ := (interleaves_of_undivided s rfl htexts (by decide)).1 hds
  exact ⟨s, texts, rfl, rfl, rfl, htexts, by decide, hds, by decide, hshown, htext⟩

/-- A character of the output is cut, and a whole one of the second stream comes between its parts. -/
def torn : List Reading :=
  [.chunk .output [0xE2], .chunk .errors [0xE2, 0x9C, 0x93], .chunk .output [0x9C, 0x93]]

/-- Both streams bring the same character. One is shown whole, and three replacement characters
stand for the parts of the other. -/
theorem not_interleaves_torn :
    (∀ stream : Stream,
      (stream.only (torn.flatMap Reading.deliveries)).flatten = encode ['✓']) ∧
    size ['✓'] + size ['✓'] ≤ (Session.fresh {} "" none).window.capacity ∧
    (torn.foldl Session.hear (Session.fresh {} "" none)).window.shown =
      [replacement, '✓', replacement, replacement] ∧
    ¬ Interleaves (fun _ => ['✓'])
      (torn.foldl Session.hear (Session.fresh {} "" none)).window.shown := by
  have hshown : (torn.foldl Session.hear (Session.fresh {} "" none)).window.shown =
      [replacement, '✓', replacement, replacement] := by decide +kernel
  refine ⟨?_, by decide, hshown, ?_⟩
  · intro stream
    cases stream <;> decide
  · intro h
    rw [hshown] at h
    exact absurd (h.weigh_eq fun _ => 1) (by decide)

end Parley
