/-!
# Line ends of files

A line of a file may end in a newline, in a carriage return or in both. Texts inside the program
have newlines only.
-/

namespace MultiAssign.Text

/-- A newline in the place of every carriage return with a newline. -/
def joinLineEnds : List Char → List Char
  | '\r' :: '\n' :: rest => '\n' :: joinLineEnds rest
  | c :: rest => c :: joinLineEnds rest
  | [] => []

/-- A newline in the place of every line end. -/
def newlines : List Char → List Char
  | '\r' :: '\n' :: rest => '\n' :: newlines rest
  | c :: rest => (if c = '\r' then '\n' else c) :: newlines rest
  | [] => []

theorem newlines_eq_self {cs : List Char} (h : '\r' ∉ cs) : newlines cs = cs := by
  fun_induction newlines cs with
  | case1 => simp at h
  | case2 c rest _ ih =>
    simp only [List.mem_cons, not_or] at h
    rw [ih h.2, if_neg (Ne.symm h.1)]
  | case3 => rfl

end MultiAssign.Text
