import Parley.Proofs.Pattern.Literal
import Parley.Proofs.Regex.Written

/-!
# Parley.Proofs.Pattern.Bounded

Where a regular expression stands: at a part of the text, between two characters and not beyond its
end. Whatever is said of patterns asks no more than this of the engine that searches. In the search
of threads all places that are noted are such, and the end of a match is noted as it is reached.

* `Slots.Within`, `Thread.Standing`: the places that a thread has noted behind what has been read.
* `follow_standing`, `advance_standing`, `settle_go_standing`: each step of the search keeps them so.
* `search_ended`: the places of a match.
* `Engine.Bounded`: what is asked of any engine.
* `compile_bounded`: it holds of the search of threads.
-/

namespace Parley

open Utf8

namespace Regex

variable {read rest text : List Char} {slots : Slots} {p : Program} {i : Nat}

/-! ## Places -/

/-- The places noted are ends of fronts of what has been read. -/
def Slots.Within (read : List Char) (slots : Slots) : Prop :=
  ∀ ⦃i place : Nat⦄, slots[i]?.join = some place → ∃ front, front <+: read ∧ place = size front

theorem Slots.Within.mono {more : List Char} (h : slots.Within read) (hmore : read <+: more) :
    slots.Within more := by
  intro i place hplace
  obtain ⟨front, hfront, rfl⟩ := h hplace
  exact ⟨front, hfront.trans hmore, rfl⟩

theorem Slots.Within.set (h : slots.Within read) (slot : Nat) :
    Slots.Within read (slots.setIfInBounds slot (some (size read))) := by
  intro i place hplace
  rw [Array.getElem?_setIfInBounds] at hplace
  split at hplace
  · split at hplace
    · cases hplace
      exact ⟨read, List.prefix_refl read, rfl⟩
    · cases hplace
  · exact h hplace

/-- The places of a match that was found somewhere in what has been read. It ends at the second
one. -/
def Slots.Ended (read : List Char) (slots : Slots) : Prop :=
  ∃ upTo, upTo <+: read ∧ slots.Within upTo ∧
    ∀ place, slots[1]?.join = some place → place = size upTo

/-- What a thread has noted lies in what has been read, and at the end of a match it has noted the
place where it stands. -/
structure Thread.Standing (read : List Char) (t : Thread) : Prop where
  within : t.slots.Within read
  ended : t.instr = 0 → ∀ place, t.slots[1]?.join = some place → place = size read

theorem Slots.Within.onward {next : Nat} (h : slots.Within read) (hnext : next ≠ 0) :
    Thread.Standing read { instr := next, slots } where
  within := h
  ended hzero := absurd hzero hnext

/-! ## Following threads -/

/-- A place that is noted is where the thread stands, and the note of the end of the match is the
only one that leads there. -/
theorem Slots.Within.save {slot next : Nat} (h : slots.Within read) (hp : p.Framed)
    (hi : p[i]? = some (.save slot next)) :
    Thread.Standing read
      { instr := next, slots := slots.setIfInBounds slot (some (size read)) } := by
  refine ⟨h.set slot, ?_⟩
  intro hzero place hplace
  by_cases hlast : Instr.save slot next = .save 1 0
  · cases hlast
    rw [Array.getElem?_setIfInBounds_self] at hplace
    split at hplace
    · cases hplace
      rfl
    · cases hplace
  · exact absurd hzero (hp.onward_of_ne hi nofun hlast)

theorem follow_standing (hp : p.Framed) {before after : Option Char} {steps : Nat}
    {waiting : List Thread} {f : Frontier} (hwaiting : ∀ t ∈ waiting, t.Standing read)
    (hf : ∀ t ∈ f.threads, t.Standing read) :
    ∀ t ∈ (f.follow p before after (size read) steps waiting).threads, t.Standing read := by
  induction steps generalizing waiting f with
  | zero => exact hf
  | succ steps ih =>
    cases waiting with
    | nil => exact hf
    | cons t waiting =>
      obtain ⟨ht, hwaiting⟩ := List.forall_mem_cons.1 hwaiting
      rw [Frontier.follow]
      split
      · exact ih hwaiting hf
      · cases hinstr : p[t.instr]? with
        | none => exact ih hwaiting hf
        | some instr =>
          cases instr with
          | split preferred other =>
            obtain ⟨hpreferred, hother⟩ := hp.onward_of_ne hinstr nofun nofun
            refine ih ?_ hf
            simp only [List.forall_mem_cons]
            exact ⟨ht.within.onward hpreferred, ht.within.onward hother, hwaiting⟩
          | check look next =>
            have hnext := hp.onward_of_ne hinstr nofun nofun
            refine ih ?_ hf
            split
            · exact List.forall_mem_cons.2 ⟨ht.within.onward hnext, hwaiting⟩
            · exact hwaiting
          | save slot next =>
            exact ih (List.forall_mem_cons.2 ⟨ht.within.save hp hinstr, hwaiting⟩) hf
          | take set next => exact ih hwaiting (List.forall_mem_cons.2 ⟨ht, hf⟩)
          | done => exact ih hwaiting (List.forall_mem_cons.2 ⟨ht, hf⟩)

theorem join_standing (hp : p.Framed) {before after : Option Char} {t : Thread} {f : Frontier}
    (ht : t.Standing read) (hf : ∀ t ∈ f.threads, t.Standing read) :
    ∀ u ∈ (f.join p before after (size read) t).threads, u.Standing read :=
  follow_standing hp (List.forall_mem_singleton.2 ht) hf

/-! ## One more character -/

theorem advance_standing (hp : p.Framed) {c : Char} {after : Option Char} {threads : List Thread}
    (hthreads : ∀ t ∈ threads, t.Standing read) :
    ∀ t ∈ (advance p c after (size (read ++ [c])) threads).threads,
      t.Standing (read ++ [c]) := by
  refine List.foldlRecOn threads _ (motive := fun f : Frontier =>
    ∀ t ∈ f.threads, t.Standing (read ++ [c])) ?_ ?_
  · exact fun t ht => absurd ht List.not_mem_nil
  · intro f hf t ht
    split
    · rename_i set next hinstr
      have hnext := hp.onward_of_ne hinstr nofun nofun
      split
      · have hwithin := (hthreads t ht).within.mono (List.prefix_append read [c])
        exact join_standing hp (hwithin.onward hnext) hf
      · exact hf
    · exact hf

/-! ## Matches -/

theorem settle_go_standing (hp : p.Framed) {best : Option Slots} {live threads : List Thread}
    (hbest : ∀ slots, best = some slots → slots.Ended read)
    (hlive : ∀ t ∈ live, t.Standing read) (hthreads : ∀ t ∈ threads, t.Standing read) :
    (∀ t ∈ (settle.go p best live threads).1, t.Standing read) ∧
      ∀ slots, (settle.go p best live threads).2 = some slots → slots.Ended read := by
  induction threads generalizing live with
  | nil => exact ⟨fun t ht => hlive t (List.mem_reverse.1 ht), hbest⟩
  | cons t threads ih =>
    obtain ⟨ht, hthreads⟩ := List.forall_mem_cons.1 hthreads
    rw [settle.go]
    split
    · rename_i hdone
      refine ⟨fun t ht => hlive t (List.mem_reverse.1 ht), ?_⟩
      intro slots hslots
      cases hslots
      exact ⟨read, List.prefix_refl read, ht.within, ht.ended (hp.eq_zero_of_done hdone)⟩
    · exact ih (List.forall_mem_cons.2 ⟨ht, hlive⟩) hthreads

theorem Slots.Ended.mono {more : List Char} (h : slots.Ended read) (hmore : read <+: more) :
    slots.Ended more := by
  obtain ⟨upTo, hupTo, h⟩ := h
  exact ⟨upTo, hupTo.trans hmore, h⟩

theorem within_replicate (n : Nat) : Slots.Within read (Array.replicate n none) := by
  intro i place hplace
  rw [Array.getElem?_replicate] at hplace
  split at hplace <;> cases hplace

section

variable {e : Compiled} {before : Option Char} {f : Frontier} {best : Option Slots}
  (hp : e.program.Framed) (hstart : e.start ≠ 0) (hf : ∀ t ∈ f.threads, t.Standing read)
  (hbest : ∀ slots, best = some slots → slots.Ended read)

include hp hstart hf hbest

/-- At one place the search starts a thread, if there is no match yet, and settles which threads go
on and which match is the best. -/
theorem exists_searchFrom_eq (before : Option Char) (rest : List Char) :
    ∃ live found, (∀ t ∈ live, Thread.Standing read t) ∧
      (∀ slots, found = some slots → slots.Ended read) ∧
      e.searchFrom before (size read) f best rest =
        match rest with
        | [] => found
        | c :: rest =>
          if live.isEmpty && found.isSome then found
          else e.searchFrom (some c) (size read + c.utf8Size)
            (advance e.program c rest.head? (size read + c.utf8Size) live) found rest := by
  have hbegun : ∀ t ∈ (if best.isNone then
        f.join e.program before rest.head? (size read)
          { instr := e.start, slots := Array.replicate (2 * e.captures + 2) none }
      else f).threads, t.Standing read := by
    split
    · exact join_standing hp ((within_replicate _).onward hstart) hf
    · exact hf
  obtain ⟨hlive, hfound⟩ := settle_go_standing hp hbest (List.forall_mem_nil _)
    (fun t ht => hbegun t (List.mem_reverse.1 ht))
  refine ⟨_, _, hlive, hfound, ?_⟩
  rw [Compiled.searchFrom]
  cases rest <;> rfl

/-- A search that goes on behind what has been read finds only what ends somewhere in the text. -/
theorem searchFrom_ended (h : e.searchFrom before (size read) f best rest = some slots) :
    slots.Ended (read ++ rest) := by
  induction rest generalizing read f best before with
  | nil =>
    obtain ⟨live, found, -, hfound, heq⟩ := exists_searchFrom_eq hp hstart hf hbest before []
    rw [heq] at h
    rw [List.append_nil]
    exact hfound slots h
  | cons c rest ih =>
    obtain ⟨live, found, hlive, hfound, heq⟩ :=
      exists_searchFrom_eq hp hstart hf hbest before (c :: rest)
    simp only [heq] at h
    split at h
    · exact (hfound slots h).mono (List.prefix_append read (c :: rest))
    · have hnext : size read + c.utf8Size = size (read ++ [c]) := by simp
      rw [hnext] at h
      rw [List.append_cons]
      refine ih (advance_standing hp hlive) ?_ h
      exact fun slots hs => (hfound slots hs).mono (List.prefix_append read [c])

end

theorem search_ended {source : String} {e : Compiled} (he : compile source = .ok e)
    (h : e.search text = some slots) : slots.Ended text := by
  obtain ⟨hp, hstart⟩ := compile_framed he
  have hf : ∀ t ∈ (Frontier.start e.program).threads, Thread.Standing [] t := List.forall_mem_nil _
  exact searchFrom_ended hp hstart hf (by nofun) h

/-! ## Occurrences -/

/-- What is asked of an engine: where it says that a match begins and ends, there are characters that
begin and end, and the match lies between them. -/
def Engine.Bounded (e : Engine) : Prop :=
  ∀ ⦃text : List Char⦄ ⦃slots : Slots⦄ ⦃start stop : Nat⦄, e.search text = some slots →
    slots[0]?.join = some start → slots[1]?.join = some stop →
    ∃ before matched after, text = before ++ (matched ++ after) ∧ start = size before ∧
      stop = size before + size matched

theorem Engine.Bounded.cuts {e : Engine} {o : Occurrence} (he : e.Bounded)
    (hfind : (Pattern.regex e).find? text = some o) :
    ∃ before matched after, o.Cuts text before matched after := by
  simp only [Pattern.find?] at hfind
  split at hfind
  · cases hfind
  · rename_i slots hsearch
    split at hfind
    · rename_i start stop hfirst hsecond
      cases hfind
      obtain ⟨before, matched, after, htext, hstart, hstop⟩ := he hsearch hfirst hsecond
      exact ⟨before, matched, after, htext, hstart, hstop⟩
    · cases hfind

/-- The search of threads does what is asked of an engine. -/
theorem compile_bounded {source : String} {e : Compiled} (he : compile source = .ok e) :
    e.engine.Bounded := by
  intro text slots start stop hsearch hfirst hsecond
  obtain ⟨upTo, ⟨after, rfl⟩, hwithin, hended⟩ := search_ended he hsearch
  -- the match ends where all that was noted ends, so it cannot begin behind its end
  obtain ⟨before, ⟨matched, rfl⟩, rfl⟩ := hwithin hfirst
  exact ⟨before, matched, after, List.append_assoc _ _ _, rfl,
    (hended stop hsecond).trans (size_append before matched)⟩

end Regex
end Parley
