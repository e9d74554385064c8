import MultiAssign.Text.Source

/-!
# From bytes to characters

`Source.charOffset` counts the whole characters in the first bytes of a text.  This file says that
it goes up with the number of bytes (`charOffset_mono`), so that ranges of bytes which lie in one
another or apart are ranges of characters that do.

The scan of a few bytes more takes the same pieces, except that a last one may have been cut short
(`piece_append`).  That one counted for no character, so none is lost
(`length_decodeDropping_append`).
-/

namespace MultiAssign

namespace Utf8

/-- With more bytes at the end, a character is completed as before, unless the bytes gave out. -/
theorem complete_append (taken bits low high need : Nat) (rest more : List UInt8) :
    (∃ size, complete taken bits low high need rest = (.fault size .truncated, [])) ∨
    complete taken bits low high need (rest ++ more) =
      ((complete taken bits low high need rest).1,
        (complete taken bits low high need rest).2 ++ more) := by
  induction need generalizing taken bits low high rest with
  | zero => exact Or.inr rfl
  | succ need ih =>
    cases rest with
    | nil => exact Or.inl ⟨taken, rfl⟩
    | cons b rest =>
      rw [List.cons_append, complete, complete]
      split
      · exact ih ..
      · exact Or.inr rfl

theorem piece_append (b : UInt8) (rest more : List UInt8) :
    (∃ size, piece b rest = (.fault size .truncated, [])) ∨
    piece b (rest ++ more) = ((piece b rest).1, (piece b rest).2 ++ more) := by
  unfold piece
  split
  · exact Or.inr rfl
  · exact complete_append ..

theorem decodeDropping_cons (b : UInt8) (rest : List UInt8) :
    decodeDropping (b :: rest) =
      (match (piece b rest).1 with
        | .char c => [c]
        | .fault .. => []) ++ decodeDropping (piece b rest).2 := by
  rw [decodeDropping, pieces, List.filterMap_cons]
  cases (piece b rest).1 <;> rfl

/-- **More bytes hold no fewer characters.** -/
theorem length_decodeDropping_append (bytes more : List UInt8) :
    (decodeDropping bytes).length ≤ (decodeDropping (bytes ++ more)).length := by
  fun_induction pieces bytes with
  | case1 => simp [decodeDropping, pieces]
  | case2 b rest ih =>
    rw [decodeDropping_cons, List.cons_append, decodeDropping_cons b (rest ++ more)]
    rcases piece_append b rest more with ⟨size, hpiece⟩ | hpiece
    · rw [hpiece]
      simp [decodeDropping, pieces]
    · rw [hpiece, List.length_append, List.length_append]
      exact Nat.add_le_add_left ih _

end Utf8

/-- **A later byte is no earlier character.** -/
theorem Source.charOffset_mono (s : Source) {a b : Nat} (h : a ≤ b) :
    s.charOffset a ≤ s.charOffset b := by
  unfold charOffset
  split
  · exact h
  · have htake := List.take_append_drop a (s.bytes.take b)
    rw [List.take_take, Nat.min_eq_left h] at htake
    rw [← htake]
    exact Utf8.length_decodeDropping_append ..

end MultiAssign
