import MultiAssign.Value
import Mathlib.Data.List.Basic

/-!
# The validator that the program runs with

What the theorems on settings ask of a validator, `Validator.Lawful`, holds of
`Validator.lenient` (`Validator.lawful_lenient`). The checks of truth values and of integers answer
by cases on the value, and each refusal comes with its flaw. A list is checked item by item: the
items that are texts pass, and the first one that is none leaves a defect.
-/

namespace MultiAssign

namespace Value

theorem boolOfInt_ne (n : Int) : boolOfInt n ≠ .defective [] := by
  unfold boolOfInt
  split
  · nofun
  · split
    · nofun
    · split <;> nofun

theorem asBool_ne (x : Value) : x.asBool ≠ .defective [] := by
  unfold asBool
  split
  · nofun
  · exact boolOfInt_ne _
  · split
    · exact boolOfInt_ne _
    · nofun
  · dsimp only
    split
    · nofun
    · split <;> nofun
  · nofun

theorem asAtLeast_ne (least : Nat) (x : Value) : x.asAtLeast least ≠ .defective [] := by
  unfold asAtLeast
  split
  · nofun
  · split <;> nofun

theorem asAtLeast_int (least : Nat) (n : { n : Nat // least ≤ n }) :
    asAtLeast least (.int n.1) = .ok n := by
  simp [asAtLeast, asInt, n.2]

theorem checkItems_asText_map_text (index : Nat) (texts : List String) :
    checkItems asText index (texts.map .text) = .ok texts := by
  induction texts generalizing index with
  | nil => rfl
  | cons s texts ih =>
    rw [List.map_cons, checkItems, ih]
    rfl

theorem checkItems_asText_of_ne (index : Nat) (items : List Value)
    (h : ∀ texts : List String, items ≠ texts.map .text) :
    ∃ d ds, checkItems asText index items = .defective (d :: ds) := by
  induction items generalizing index with
  | nil => exact absurd rfl (h [])
  | cons v items ih =>
    by_cases hrest : ∃ texts : List String, items = texts.map .text
    case neg =>
      obtain ⟨d, ds, hds⟩ := ih (index + 1) (not_exists.1 hrest)
      rw [checkItems, hds]
      cases v <;> exact ⟨_, _, rfl⟩
    case pos =>
      -- the items after the first are texts, so it is the first that is none
      obtain ⟨texts, rfl⟩ := hrest
      rw [checkItems, checkItems_asText_map_text]
      cases v
      case text s => exact absurd rfl (h (s :: texts))
      all_goals exact ⟨_, _, rfl⟩

/-- A value is a list of texts, or has a defect where one is wanted. -/
theorem texts_or_defective (x : Value) :
    (∃ texts : List String, x = .list (texts.map .text) ∧ asList asText x = .ok texts) ∨
      (∀ texts : List String, x ≠ .list (texts.map .text)) ∧
        ∃ d ds, asList asText x = .defective (d :: ds) := by
  by_cases htexts : ∃ texts : List String, x = .list (texts.map .text)
  · obtain ⟨texts, rfl⟩ := htexts
    exact .inl ⟨texts, rfl, checkItems_asText_map_text 0 texts⟩
  · have hnone := not_exists.mp htexts
    refine .inr ⟨hnone, ?_⟩
    cases x with
    | list items =>
      exact checkItems_asText_of_ne 0 items fun texts htexts => hnone texts (congrArg list htexts)
    | _ => exact ⟨_, _, rfl⟩

end Value

theorem Validator.lawful_lenient : lenient.Lawful where
  truth_reports := Value.asBool_ne
  atLeast_reports := Value.asAtLeast_ne
  texts_reports x := by
    show Value.asList Value.asText x ≠ .defective []
    rcases x.texts_or_defective with ⟨texts, _, hx⟩ | ⟨_, d, ds, hx⟩
    · rw [hx]
      nofun
    · rw [hx]
      nofun
  atLeast_int := Value.asAtLeast_int
  texts_eq_ok_iff x texts := by
    show Value.asList Value.asText x = .ok texts ↔ _
    constructor
    · intro hok
      rcases x.texts_or_defective with ⟨own, rfl, hx⟩ | ⟨_, d, ds, hx⟩
      · rw [hx] at hok
        rw [Checked.ok.inj hok]
      · rw [hx] at hok
        cases hok
    · rintro rfl
      exact Value.checkItems_asText_map_text 0 texts

end MultiAssign
