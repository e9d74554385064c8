import MultiAssign.Failure

/-!
# Emission order

Assignments are numbered `0 .. count - 1`, and `readers i` lists those that read what assignment `i`
writes. They have to be emitted before `i`, so that they still see the old value; an assignment that
reads its own target is no obstacle.

`emitAll` is a depth-first search that emits an assignment once its readers are emitted, and takes
assignments and readers in the order in which they are listed. `off` holds the assignments that are
not on the current path; the path gets longer with every descent, so the search ends with it.
-/

namespace MultiAssign.Order

/-- Emits the readers of `writer` that are listed, after the assignments in `emitted`. -/
def emitAll (count : Nat) (readers : Nat → List Nat) (off : List Nat) (writer : Nat) :
    List Nat → List Nat → Except Failure (List Nat)
  | [], emitted => .ok emitted
  | r :: rest, emitted =>
    if r = writer then emitAll count readers off writer rest emitted
    else if _h : r ∈ off then
      if r ∈ emitted then emitAll count readers off writer rest emitted
      else
        match emitAll count readers (off.erase r) r (readers r) emitted with
        | .error failure => .error failure
        | .ok emitted => emitAll count readers off writer rest (emitted ++ [r])
    else if r < count then .error (.cyclic r writer)
    else .error .noElement
termination_by listed => (off.length, listed.length)
decreasing_by
  all_goals simp_wf
  · exact Prod.Lex.right _ (by simp)
  · exact Prod.Lex.right _ (by simp)
  · exact Prod.Lex.left _ _ (by
      have := List.length_erase_of_mem _h
      have := List.length_pos_of_mem _h
      omega)
  · exact Prod.Lex.right _ (by simp)

/-- An order of all assignments in which every assignment follows its readers. It is the emission
of everything on which a last, imaginary assignment with the number `count` depends. -/
def ofReaders (count : Nat) (readers : Nat → List Nat) : Except Failure (List Nat) :=
  emitAll count readers (List.range count) count (List.range count) []

end MultiAssign.Order
