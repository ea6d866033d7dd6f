import Mathlib.Order.Nat
import Parley.Regex.Program

/-!
# Parley.Proofs.Regex.Written

How the program of an expression is written. Every part of it stands behind what was there before,
and the end of the match is the first instruction of all, reached only from the second one.

* `Instr.Onward`: an instruction that goes on, and not to the end of the match.
* `Adds`: a program with more instructions behind it, all of which go onward.
* `Writes`: what writes one part, so that the part does not start at the end of the match.
* `write_writes`: the instructions of every expression are written so.
* `compile_framed`: the program of a whole expression.
-/

namespace Parley
namespace Regex

/-- An instruction goes on, and not to the end of the match. -/
def Instr.Onward : Instr → Prop
  | .take _ next => next ≠ 0
  | .check _ next => next ≠ 0
  | .split preferred other => preferred ≠ 0 ∧ other ≠ 0
  | .save _ next => next ≠ 0
  | .done => False

namespace Program

/-- A program with more instructions behind it, all of which go onward. -/
structure Adds (p q : Program) : Prop where
  size_le : p.size ≤ q.size
  keeps {i : Nat} : i < p.size → q[i]? = p[i]?
  onward {i : Nat} {instr : Instr} : p.size ≤ i → q[i]? = some instr → instr.Onward

variable {p q r : Program} {instr : Instr} {f : Nat → Program → Nat × Program} {out : Nat}
  {greedy : Bool}

theorem Adds.refl (p : Program) : Adds p p where
  size_le := Nat.le_refl _
  keeps _ := rfl
  onward hi hinstr := by
    rw [Array.getElem?_eq_none hi] at hinstr
    cases hinstr

theorem Adds.trans (hpq : Adds p q) (hqr : Adds q r) : Adds p r where
  size_le := hpq.size_le.trans hqr.size_le
  keeps hi := (hqr.keeps (hi.trans_le hpq.size_le)).trans (hpq.keeps hi)
  onward {i instr} hi hinstr := by
    by_cases hq : i < q.size
    · exact hpq.onward hi (by rw [← hqr.keeps hq, hinstr])
    · exact hqr.onward (Nat.le_of_not_lt hq) hinstr

theorem adds_push (hi : instr.Onward) : Adds p (p.push instr) where
  size_le := by simp
  keeps hlt := by rw [Array.getElem?_push, if_neg (Nat.ne_of_lt hlt)]
  onward {i instr'} hle hinstr := by
    rw [Array.getElem?_push] at hinstr
    split at hinstr
    · cases hinstr
      exact hi
    · rw [Array.getElem?_eq_none hle] at hinstr
      cases hinstr

/-- An instruction that was left open is filled in once what comes behind it is written. -/
theorem Adds.fill (h : Adds (p.push .done) q) (hi : instr.Onward) :
    Adds p (q.setIfInBounds p.size instr) := by
  have hsize : p.size < q.size := by
    have := h.size_le
    rw [Array.size_push] at this
    omega
  refine ⟨?_, ?_, ?_⟩
  · rw [Array.size_setIfInBounds]
    exact hsize.le
  · intro i hlt
    rw [Array.getElem?_setIfInBounds_ne (Nat.ne_of_gt hlt),
      h.keeps (by rw [Array.size_push]; omega), Array.getElem?_push, if_neg (Nat.ne_of_lt hlt)]
  · intro i instr' hle hinstr
    by_cases hsame : p.size = i
    · subst hsame
      rw [Array.getElem?_setIfInBounds_self_of_lt hsize] at hinstr
      cases hinstr
      exact hi
    · rw [Array.getElem?_setIfInBounds_ne hsame] at hinstr
      refine h.onward ?_ hinstr
      rw [Array.size_push]
      omega

/-- What writes a part of a program: behind what is there, and not starting at the end of the match
if it does not go on there. -/
def Writes (f : Nat → Program → Nat × Program) : Prop :=
  ∀ {next : Nat} {p : Program}, next ≠ 0 → 0 < p.size → (f next p).1 ≠ 0 ∧ Adds p (f next p).2

theorem fork_onward {body : Nat} (hbody : body ≠ 0) (hout : out ≠ 0) :
    (fork greedy body out).Onward := by
  cases greedy
  · exact ⟨hout, hbody⟩
  · exact ⟨hbody, hout⟩

theorem times_writes (hf : Writes f) (n : Nat) : Writes (times f n) := by
  induction n with
  | zero => exact fun hnext _ => ⟨hnext, Adds.refl _⟩
  | succ n ih =>
    intro next p hnext hp
    obtain ⟨hstart, hadds⟩ := hf hnext hp
    obtain ⟨hstart', hadds'⟩ := ih hstart (hp.trans_le hadds.size_le)
    exact ⟨hstart', hadds.trans hadds'⟩

theorem optional_writes (greedy : Bool) (hf : Writes f) (hout : out ≠ 0) :
    Writes (optional greedy out f) := by
  intro next p hnext hp
  obtain ⟨hbody, hadds⟩ := hf hnext hp
  exact ⟨(hp.trans_le hadds.size_le).ne', hadds.trans (adds_push (fork_onward hbody hout))⟩

theorem oneOrMore_writes (greedy : Bool) (hf : Writes f) : Writes (oneOrMore greedy f) := by
  intro next p hnext hp
  obtain ⟨hbody, hadds⟩ := hf (p := p.push .done) hp.ne' (by simp)
  exact ⟨hbody, hadds.fill (fork_onward hbody hnext)⟩

theorem write_writes (a : Node) : Writes (write a) := by
  induction a with
  | empty => exact fun hnext _ => ⟨hnext, Adds.refl _⟩
  | oneOf set => exact fun hnext hp => ⟨hp.ne', adds_push hnext⟩
  | look l => exact fun hnext hp => ⟨hp.ne', adds_push hnext⟩
  | capture i a ih =>
    intro next p hnext hp
    have hstop : Adds p (p.push (.save (2 * i + 1) next)) := adds_push hnext
    obtain ⟨hbody, hadds⟩ := ih hp.ne' (hp.trans_le hstop.size_le)
    have hall := hstop.trans hadds
    exact ⟨(hp.trans_le hall.size_le).ne', hall.trans (adds_push hbody)⟩
  | seq a b iha ihb =>
    intro next p hnext hp
    obtain ⟨hsecond, hadds⟩ := ihb hnext hp
    obtain ⟨hfirst, hadds'⟩ := iha hsecond (hp.trans_le hadds.size_le)
    exact ⟨hfirst, hadds.trans hadds'⟩
  | alt a b iha ihb =>
    intro next p hnext hp
    obtain ⟨hsecond, hadds⟩ := ihb hnext hp
    obtain ⟨hfirst, hadds'⟩ := iha hnext (hp.trans_le hadds.size_le)
    have hall := hadds.trans hadds'
    exact ⟨(hp.trans_le hall.size_le).ne', hall.trans (adds_push ⟨hfirst, hsecond⟩)⟩
  | rep least most greedy a ih =>
    intro next p hnext hp
    cases most with
    | none =>
      by_cases hleast : least = 0
      · cases hempty : a.mayBeEmpty with
        | true =>
          simp only [write, hleast, hempty, BEq.rfl, if_true]
          exact optional_writes greedy (oneOrMore_writes greedy ih) hnext hnext hp
        | false =>
          -- the split of the loop is written first and left open until its body is there
          obtain ⟨hstart, hadds⟩ := ih (p := p.push .done) hp.ne' (by simp)
          simp only [write, hleast, hempty, BEq.rfl, if_true, Bool.false_eq_true, if_false]
          exact ⟨hp.ne', hadds.fill (fork_onward hstart hnext)⟩
      · obtain ⟨hlast, hadds⟩ := oneOrMore_writes greedy ih hnext hp
        obtain ⟨hstart, hadds'⟩ := times_writes ih (least - 1) hlast (hp.trans_le hadds.size_le)
        simp only [write, beq_iff_eq, hleast, if_false]
        exact ⟨hstart, hadds.trans hadds'⟩
    | some m =>
      obtain ⟨hlast, hadds⟩ :=
        times_writes (optional_writes greedy ih hnext) (m - least) hnext hp
      obtain ⟨hstart, hadds'⟩ := times_writes ih least hlast (hp.trans_le hadds.size_le)
      exact ⟨hstart, hadds.trans hadds'⟩

/-- The program of a whole expression: the end of the match comes first, and it is reached only from
the second instruction, which notes the place. -/
structure Framed (p : Program) : Prop where
  first : p[0]? = some .done
  second : p[1]? = some (.save 1 0)
  onward {i : Nat} {instr : Instr} : 2 ≤ i → p[i]? = some instr → instr.Onward

variable {i : Nat}

theorem Framed.eq_zero_of_done (hp : p.Framed) (hi : p[i]? = some .done) : i = 0 := by
  match i with
  | 0 => rfl
  | 1 =>
    rw [hp.second] at hi
    cases hi
  | i + 2 => exact (hp.onward (by omega) hi).elim

/-- All instructions but the first two go onward. -/
theorem Framed.onward_of_ne (hp : p.Framed) (hi : p[i]? = some instr) (hdone : instr ≠ .done)
    (hsave : instr ≠ .save 1 0) : instr.Onward := by
  match i with
  | 0 =>
    rw [hp.first] at hi
    cases hi
    exact absurd rfl hdone
  | 1 =>
    rw [hp.second] at hi
    cases hi
    exact absurd rfl hsave
  | i + 2 => exact hp.onward (by omega) hi

end Program

/-- The program of an expression that was read is framed, and does not start at the end. -/
theorem compile_framed {source : String} {e : Compiled} (he : compile source = .ok e) :
    e.program.Framed ∧ e.start ≠ 0 := by
  unfold compile at he
  cases hread : read source with
  | error fault =>
    rw [hread] at he
    cases he
  | ok expression =>
    rw [hread] at he
    cases he
    let frame : Program := #[.done, .save 1 0]
    obtain ⟨hbody, hadds⟩ :=
      Program.write_writes expression.node (show 1 ≠ 0 by decide) (show 0 < frame.size by decide)
    have hall : frame.Adds ((Program.write expression.node 1 frame).2.push
        (.save 0 (Program.write expression.node 1 frame).1)) :=
      hadds.trans (Program.adds_push hbody)
    refine ⟨⟨hall.keeps (by decide), hall.keeps (by decide), fun hi => hall.onward hi⟩, ?_⟩
    exact (Nat.lt_of_lt_of_le (show 0 < frame.size by decide) hadds.size_le).ne'

end Regex
end Parley
