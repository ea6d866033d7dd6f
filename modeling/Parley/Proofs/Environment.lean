import Mathlib.Data.List.Induction
import Mathlib.Data.String.Basic
import Parley.Environment

/-!
# Parley.Proofs.Environment

Environments as maps.

* `get?_ofList`: of two values for one name the later one counts.
* `overlay_ofList`: over no variables at all, variables are themselves.
-/

namespace Parley
namespace Environment

/-- Names stand in ascending order, each of them once. -/
def Ascending (vars : List (String × String)) : Prop := vars.Pairwise (·.1 < ·.1)

variable {name other value : String} {vars front : List (String × String)} {e : Environment}

theorem lookup_pair (name value other : String) (vars : List (String × String)) :
    List.lookup other ((name, value) :: vars) =
      if other = name then some value else vars.lookup other := by
  rw [List.lookup_cons]
  by_cases h : other = name
  · rw [if_pos h, beq_iff_eq.2 h]
  · rw [if_neg h, beq_eq_false_iff_ne.2 h]

theorem lookup_insert (name value other : String) (vars : List (String × String)) :
    (insert name value vars).lookup other =
      if other = name then some value else vars.lookup other := by
  induction vars with
  | nil => exact lookup_pair name value other []
  | cons v vars ih =>
    obtain ⟨n, w⟩ := v
    unfold insert
    split
    · next hsame =>
      obtain rfl : name = n := beq_iff_eq.1 hsame
      rw [lookup_pair, lookup_pair]
      split <;> rfl
    · next hne =>
      split
      · exact lookup_pair name value other _
      · have hn : name ≠ n := fun heq => hne (beq_iff_eq.2 heq)
        rw [lookup_pair, lookup_pair, ih]
        by_cases h : other = n
        · rw [if_pos h, if_pos h, if_neg (h ▸ hn.symm)]
        · rw [if_neg h, if_neg h]

theorem get?_set : (e.set name value).get? other =
    if other = name then some value else e.get? other :=
  lookup_insert name value other e.vars

theorem get?_ofList (vars : List (String × String)) (name : String) :
    (ofList vars).get? name = vars.reverse.lookup name := by
  unfold ofList
  induction vars using List.reverseRecOn with
  | nil => rfl
  | append_singleton vars v ih =>
    obtain ⟨n, w⟩ := v
    rw [List.foldl_append, List.foldl_cons, List.foldl_nil, get?_set, ih, List.reverse_append,
      List.reverse_singleton, List.singleton_append, lookup_pair]

theorem fst_of_mem_insert {v : String × String} (h : v ∈ insert name value vars) :
    v.1 = name ∨ v ∈ vars := by
  induction vars with
  | nil => simp_all [insert]
  | cons w vars ih =>
    unfold insert at h
    split at h
    · rcases List.mem_cons.1 h with rfl | h
      · exact .inl rfl
      · exact .inr (List.mem_cons_of_mem _ h)
    · split at h
      · rcases List.mem_cons.1 h with rfl | h
        · exact .inl rfl
        · exact .inr h
      · rcases List.mem_cons.1 h with rfl | h
        · exact .inr List.mem_cons_self
        · exact (ih h).imp_right (List.mem_cons_of_mem _)

theorem Ascending.insert (h : Ascending vars) : Ascending (insert name value vars) := by
  induction vars with
  | nil => exact List.pairwise_singleton _ _
  | cons v vars ih =>
    obtain ⟨n, w⟩ := v
    obtain ⟨hfirst, hrest⟩ := List.pairwise_cons.1 h
    unfold Environment.insert
    split
    · next hsame =>
      obtain rfl : name = n := beq_iff_eq.1 hsame
      exact List.pairwise_cons.2 ⟨hfirst, hrest⟩
    · next hne =>
      split
      · next hlt =>
        refine List.pairwise_cons.2 ⟨?_, h⟩
        intro u hu
        rcases List.mem_cons.1 hu with rfl | hu
        · exact hlt
        · exact lt_trans hlt (hfirst u hu)
      · next hnot =>
        have hn : n ≠ name := fun heq => hne (beq_iff_eq.2 heq.symm)
        have hlt : n < name := lt_of_le_of_ne (not_lt.1 hnot) hn
        refine List.pairwise_cons.2 ⟨?_, ih hrest⟩
        intro u hu
        rcases fst_of_mem_insert hu with hu | hu
        · rw [hu]
          exact hlt
        · exact hfirst u hu

theorem ascending_ofList (vars : List (String × String)) : Ascending (ofList vars).vars := by
  unfold ofList
  induction vars using List.reverseRecOn with
  | nil => exact .nil
  | append_singleton vars v ih =>
    rw [List.foldl_append]
    exact ih.insert

/-- A name behind all others is put at the end. -/
theorem insert_of_lt (h : ∀ v ∈ vars, v.1 < name) :
    insert name value vars = vars ++ [(name, value)] := by
  induction vars with
  | nil => rfl
  | cons v vars ih =>
    have hlt : v.1 < name := h v List.mem_cons_self
    have hne : ¬ (name == v.1) = true := fun heq => hlt.ne' (beq_iff_eq.1 heq)
    rw [insert, if_neg hne, if_neg (lt_asymm hlt), ih fun u hu => h u (List.mem_cons_of_mem _ hu)]
    rfl

theorem foldl_set (h : Ascending (front ++ vars)) :
    vars.foldl (fun (e : Environment) v => e.set v.1 v.2) ⟨front⟩ = ⟨front ++ vars⟩ := by
  induction vars generalizing front with
  | nil => rw [List.append_nil, List.foldl_nil]
  | cons v vars ih =>
    have hlast : ∀ u ∈ front, u.1 < v.1 := fun u hu =>
      (List.pairwise_append.1 h).2.2 u hu v List.mem_cons_self
    rw [List.foldl_cons, set, insert_of_lt hlast, ih (by rwa [List.append_assoc]),
      List.append_assoc]
    rfl

theorem overlay_ofList (vars : List (String × String)) :
    ({} : Environment).overlay (ofList vars) = ofList vars :=
  foldl_set (ascending_ofList vars)

end Environment
end Parley
