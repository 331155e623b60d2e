import ContainerOps.Command.Request
import ContainerOps.Proofs.Text.Pieces

/-!
# Combining outputs

Combined outputs are the parts that are not empty, one per line.  How the parts are grouped makes
no difference, because a combination is empty only if all its parts are.

Main results:

- `combineText_map_some`: parts that are all there are joined if they are not empty.
- `combineText_pair`: combinations are combined into the combination of all parts.
-/

namespace ContainerOps.Command

open ContainerOps.Text

/-- The parts that are there and not empty. -/
def shownParts (parts : List (Option String)) : List String :=
  (parts.filterMap id).filter fun part => !part.isEmpty

/-- A combination is the join of the parts that are there and not empty. -/
theorem combineText_eq_join (parts : List (Option String)) :
    combineText parts = join "\n" (shownParts parts) := rfl

/-- Parts are shown one by one. -/
theorem shownParts_append (before after : List (Option String)) :
    shownParts (before ++ after) = shownParts before ++ shownParts after := by
  rw [shownParts, List.filterMap_append, List.filter_append]
  rfl

/-- No part that is shown is empty. -/
theorem ne_empty_of_mem_shownParts {parts : List (Option String)} {part : String}
    (hpart : part ∈ shownParts parts) : part ≠ "" := by
  simpa using (List.mem_filter.mp hpart).2

/-- Parts that are all there are joined if they are not empty. -/
theorem combineText_map_some (parts : List String) :
    combineText (parts.map some) = join "\n" (parts.filter fun part => !part.isEmpty) := by
  rw [combineText, List.filterMap_map]
  simp

/-- One part is its own combination. -/
theorem combineText_singleton (part : String) : combineText [some part] = part := by
  by_cases hempty : part = ""
  · subst hempty
    rfl
  · simp [combineText, hempty]

/-- An empty part in front is not shown. -/
theorem combineText_empty_cons (part : String) : combineText [some "", some part] = part :=
  combineText_singleton part

/-- An empty part at the end is not shown. -/
theorem combineText_empty_end (part : String) : combineText [some part, some ""] = part := by
  by_cases hempty : part = ""
  · subst hempty
    rfl
  · simp [combineText, hempty]

/-- Two parts that are not empty stand on two lines. -/
theorem combineText_of_ne_empty {first second : String} (hfirst : first ≠ "")
    (hsecond : second ≠ "") :
    combineText [some first, some second] = first ++ "\n" ++ second := by
  simp [combineText, hfirst, hsecond, join_cons_cons]

/-- Combinations are combined into the combination of all parts. -/
theorem combineText_pair (before after : List (Option String)) :
    combineText [some (combineText before), some (combineText after)] =
      combineText (before ++ after) := by
  have hbefore : combineText before = "" ↔ shownParts before = [] :=
    join_eq_empty_iff "\n" fun part => ne_empty_of_mem_shownParts
  have hafter : combineText after = "" ↔ shownParts after = [] :=
    join_eq_empty_iff "\n" fun part => ne_empty_of_mem_shownParts
  rw [combineText_eq_join (before ++ after), shownParts_append]
  by_cases hb : shownParts before = []
  · rw [hbefore.mpr hb, combineText_empty_cons, hb, List.nil_append, combineText_eq_join]
  · by_cases ha : shownParts after = []
    · rw [hafter.mpr ha, combineText_empty_end, ha, List.append_nil, combineText_eq_join]
    · rw [combineText_of_ne_empty (mt hbefore.mp hb) (mt hafter.mp ha), join_append "\n" hb ha]
      rfl

end ContainerOps.Command
