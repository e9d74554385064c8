import MultiAssign.Value

/-!
# Settings

What a user can choose, with the values that hold where nothing is chosen.
-/

namespace MultiAssign

structure Settings where
  /-- Without it nothing is checked. -/
  enabled : Bool := true
  /-- Spaces for one step of nesting in corrections. -/
  indentationWidth : Nat := 2
  /-- How often the corrections of a file are applied at most. -/
  maxPasses : Nat := 10
  /-- Patterns of files to leave out. -/
  exclude : List String := []
  maxPasses_pos : 0 < maxPasses := by decide
  deriving DecidableEq, Repr

instance : Inhabited Settings := ⟨{}⟩

/-- Reads settings from a record; what is left out has its default. -/
def Settings.ofFields (v : Validator) (fields : List (String × Value)) : Checked Settings :=
  let build (enabled : Bool) (indentationWidth : Nat) (maxPasses : { n : Nat // 1 ≤ n })
      (exclude : List String) : Settings :=
    ⟨enabled, indentationWidth, maxPasses.1, exclude, maxPasses.2⟩
  build
    <$> Value.optional fields "enabled" v.truth true
    <*> Value.optional fields "indentation_width" v.nat 2
    <*> Value.optional fields "max_correction_passes" (v.atLeast 1) ⟨10, by decide⟩
    <*> Value.optional fields "exclude" v.texts []

end MultiAssign
