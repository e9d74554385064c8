import MultiAssign.Split.Word

/-!
# Escapes in elements of word arrays

In an element of a word array a blank, a backslash or a delimiter of the array stands behind a
backslash (`Word.escape`), and `Word.unescape` gives the value of the element.  This file says what
that is, for elements that were written this way and for any others
(`Word.unescape_undoes_escape`).

A backslash is read together with the character behind it, so that in a row of backslashes every
other one is looked at.  `Word.isSecond` tells which: a character is the second one of a pair if a
backslash is before it that is not a second one itself.  This goes by the text before the character,
while `unescape` goes by the text behind it.  The two meet because a pair is forgotten once it is
over (`Word.isSecond_append`).
-/

namespace MultiAssign.Word

variable {delimiter : Option Char} {before text : List Char} {c : Char}

/-! ### Writing and reading back -/

theorem isEscapable_iff : isEscapable delimiter c ↔
    Text.isBlank c ∨ c = '\\' ∨ ∃ d ∈ delimiter, c = d ∨ c = closing d := by
  cases delimiter <;> simp [isEscapable, or_assoc]

theorem unescape_cons_of_ne (h : c ≠ '\\') (rest : List Char) :
    unescape delimiter (c :: rest) = c :: unescape delimiter rest := by
  cases rest with
  | nil => rfl
  | cons d rest => rw [unescape, if_neg h]

/-- **A value that was written with escapes is read back.** -/
theorem unescape_escape (value : List Char) :
    unescape delimiter (escape delimiter value) = value := by
  induction value with
  | nil => rfl
  | cons c rest ih =>
    rw [escape, List.flatMap_cons, ← escape]
    by_cases hc : isEscapable delimiter c = true
    · rw [if_pos hc, List.cons_append, List.singleton_append, unescape, if_pos rfl, if_pos hc, ih]
    · have hne : c ≠ '\\' := fun h => hc (isEscapable_iff.mpr (Or.inr (Or.inl h)))
      rw [if_neg hc, List.singleton_append, unescape_cons_of_ne hne, ih]

/-! ### What is dropped -/

/-- The character at a position is the second one of a pair: a backslash is before it, and that
backslash is not the second one of a pair. -/
def isSecond (text : List Char) : Nat → Bool
  | 0 => false
  | i + 1 => text[i]? == some '\\' && !isSecond text i

/-- At a position is a backslash that begins a pair with a character that it can be dropped
before. -/
def isDropped (delimiter : Option Char) (text : List Char) (i : Nat) : Bool :=
  text[i]? == some '\\' && !isSecond text i && text[i + 1]?.any (isEscapable delimiter)

/-- A text without the characters at some positions. -/
def without (dropped : Nat → Bool) (text : List Char) : List Char :=
  (text.zipIdx.filter fun x => !dropped x.2).map Prod.fst

theorem isDropped_iff {i : Nat} : isDropped delimiter text i ↔
    text[i]? = some '\\' ∧ ¬ isSecond text i ∧ ∃ c, text[i + 1]? = some c ∧
      (Text.isBlank c ∨ c = '\\' ∨ ∃ d ∈ delimiter, c = d ∨ c = closing d) := by
  simp only [isDropped, Bool.and_eq_true, beq_iff_eq, Bool.not_eq_true', Bool.not_eq_true,
    Option.any_eq_true, isEscapable_iff, and_assoc]

/-- Behind a whole pair, or behind a character that is none, pairs are counted anew. -/
theorem isSecond_append (h : isSecond (before ++ text) before.length = false) (i : Nat) :
    isSecond (before ++ text) (before.length + i) = isSecond text i := by
  induction i with
  | zero => exact h
  | succ i ih =>
    rw [← Nat.add_assoc, isSecond, ih, isSecond, List.getElem?_append_right (Nat.le_add_right _ _),
      Nat.add_sub_cancel_left]

theorem isDropped_append (h : isSecond (before ++ text) before.length = false) (i : Nat) :
    isDropped delimiter (before ++ text) (before.length + i) = isDropped delimiter text i := by
  rw [isDropped, isSecond_append h, isDropped, Nat.add_assoc,
    List.getElem?_append_right (Nat.le_add_right _ _), Nat.add_sub_cancel_left,
    List.getElem?_append_right (Nat.le_add_right _ _), Nat.add_sub_cancel_left]

theorem without_append (dropped : Nat → Bool) (before text : List Char) :
    without dropped (before ++ text) =
      without dropped before ++ without (fun i => dropped (before.length + i)) text := by
  rw [without, List.zipIdx_append, List.filter_append, List.map_append, without, without,
    Nat.zero_add, List.zipIdx_eq_map_add (i := before.length), List.filter_map, List.map_map]
  rfl

theorem without_isDropped_append (delimiter : Option Char)
    (h : isSecond (before ++ text) before.length = false) :
    without (isDropped delimiter (before ++ text)) (before ++ text) =
      without (isDropped delimiter (before ++ text)) before ++
        without (isDropped delimiter text) text := by
  rw [without_append, funext (isDropped_append h)]

theorem without_isDropped_pair (delimiter : Option Char) (c : Char) (rest : List Char) :
    without (isDropped delimiter ('\\' :: c :: rest)) ('\\' :: c :: rest) =
      (if isEscapable delimiter c then [c] else ['\\', c]) ++
        without (isDropped delimiter rest) rest := by
  have hover : isSecond (['\\', c] ++ rest) 2 = false := by simp [isSecond]
  have hpair := without_isDropped_append delimiter hover
  have hstart : without (isDropped delimiter (['\\', c] ++ rest)) ['\\', c] =
      if isEscapable delimiter c then [c] else ['\\', c] := by
    by_cases hc : isEscapable delimiter c <;> simp [without, isDropped, isSecond, hc]
  rw [hstart] at hpair
  exact hpair

theorem without_isDropped_cons (delimiter : Option Char) (hc : c ≠ '\\') (rest : List Char) :
    without (isDropped delimiter (c :: rest)) (c :: rest) =
      c :: without (isDropped delimiter rest) rest := by
  have hover : isSecond ([c] ++ rest) 1 = false := by simp [isSecond, hc]
  have hchar := without_isDropped_append delimiter hover
  have hstart : without (isDropped delimiter ([c] ++ rest)) [c] = [c] := by
    simp [without, isDropped, hc]
  rw [hstart] at hchar
  exact hchar

/-- **The value of an element is its text without the backslashes that are dropped.** -/
theorem unescape_eq_without (text : List Char) :
    unescape delimiter text = without (isDropped delimiter text) text := by
  fun_induction unescape delimiter text with
  | case1 => rfl
  | case2 c => simp [without, isDropped]
  | case3 c rest hc ih =>
    rw [without_isDropped_pair, if_pos hc, ih]
    rfl
  | case4 c rest hc ih =>
    rw [without_isDropped_pair, if_neg hc, ih]
    rfl
  | case5 c d rest hc ih => rw [without_isDropped_cons delimiter hc, ih]

/-- **Reading an element undoes writing it.**  A value with a backslash before each white space,
each backslash and each delimiter is read back, whatever the delimiters are.  And from any text
nothing but backslashes is dropped: those that stand directly before such a character and are not
themselves the second character of a pair. -/
theorem unescape_undoes_escape (delimiter : Option Char) :
    (∀ value, unescape delimiter (escape delimiter value) = value) ∧
    ∀ text, ∃ dropped : Nat → Bool,
      (∀ i, dropped i ↔ text[i]? = some '\\' ∧ ¬ isSecond text i ∧ ∃ c, text[i + 1]? = some c ∧
        (Text.isBlank c ∨ c = '\\' ∨ ∃ d ∈ delimiter, c = d ∨ c = closing d)) ∧
      unescape delimiter text = without dropped text :=
  ⟨unescape_escape, fun text =>
    ⟨isDropped delimiter text, fun _ => isDropped_iff, unescape_eq_without text⟩⟩

/-- A backslash before a letter is kept, and so is one at the very end. -/
example : unescape (some '(') "a\\ \\\\\\)\\n\\".toList = "a \\)\\n\\".toList := by
  decide

end MultiAssign.Word
