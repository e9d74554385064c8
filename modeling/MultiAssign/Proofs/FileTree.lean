import MultiAssign.Command.Check
import Mathlib.Data.List.Basic

/-!
# Reading and writing files

Writing to a path gives one file new bytes and leaves everything else as it is: where paths lead
(`locate_write`), which files are closed, and the bytes of every other file (`file?_write_of_ne`).
The text of a file is that of its bytes, if the file is open (`readText_eq_ok_iff`).

The files that a check collects are files (`hasFile_of_mem_collect`).
-/

namespace MultiAssign

namespace FileTree

variable {t u : FileTree} {p : Path} {text : String}

/-! ### Writing -/

theorem fst_put (place : List String) (bytes : List UInt8) (f : List String × List UInt8) :
    (if f.1 = place then (f.1, bytes) else f).1 = f.1 := by
  split <;> rfl

theorem isDirectory_put (t : FileTree) (place q : List String) (bytes : List UInt8) :
    (t.put place bytes).isDirectory q = t.isDirectory q := by
  simp only [isDirectory, put, List.any_map, Function.comp_def, fst_put]

theorem walk_congr (hdirectory : ∀ place, t.isDirectory place = u.isDirectory place)
    (hlinks : t.links = u.links) (strict : Bool)
    (jump : List String → Path → Option (List String)) (place parts : List String) :
    t.walk strict jump place parts = u.walk strict jump place parts := by
  induction parts generalizing place with
  | nil => rfl
  | cons part rest ih =>
    rw [walk, walk, hdirectory, hlinks]
    simp only [ih]

theorem follow_congr (hdirectory : ∀ place, t.isDirectory place = u.isDirectory place)
    (hlinks : t.links = u.links) (strict : Bool) (depth : Nat) (place parts : List String) :
    t.follow strict depth place parts = u.follow strict depth place parts := by
  induction depth generalizing place parts with
  | zero => exact walk_congr hdirectory hlinks strict _ place parts
  | succ depth ih =>
    rw [follow, follow]
    simp only [ih]
    exact walk_congr hdirectory hlinks strict _ place parts

@[simp] theorem locate_write (t : FileTree) (p q : Path) (bytes : List UInt8) :
    (t.write p bytes).locate q = t.locate q := by
  unfold write
  split
  · exact follow_congr (fun r => t.isDirectory_put _ r bytes) rfl true _ _ q.parts
  · rfl

@[simp] theorem closed_write (t : FileTree) (p : Path) (bytes : List UInt8) :
    (t.write p bytes).closed = t.closed := by
  unfold write
  split <;> rfl

theorem file?_put (t : FileTree) (place q : List String) (bytes : List UInt8) :
    (t.put place bytes).file? q =
      if q = place then (t.file? q).map fun _ => bytes else t.file? q := by
  simp only [put, file?, valueAt?, List.find?_map, Function.comp_def, fst_put]
  cases hfind : t.files.find? fun f => f.1 == q with
  | none => simp
  | some f =>
    have hf : f.1 = q := by simpa using List.find?_some hfind
    subst hf
    simp only [Option.map_some]
    split <;> rfl

theorem file?_write_of_ne {place : List String} (h : t.locate p ≠ some place)
    (bytes : List UInt8) : (t.write p bytes).file? place = t.file? place := by
  unfold write
  split
  · next found hfound =>
    rw [file?_put, if_neg]
    rintro rfl
    exact h hfound
  · rfl

theorem read?_write (t : FileTree) (p : Path) (bytes : List UInt8) :
    (t.write p bytes).read? p = (t.read? p).map fun _ => bytes := by
  rw [read?, locate_write, read?]
  cases hplace : t.locate p with
  | none => rfl
  | some place =>
    rw [Option.bind_some, Option.bind_some, write, hplace]
    simp only [file?_put, if_true]

/-! ### Reading -/

theorem readText_eq_ok_iff : t.readText p = .ok text ↔
    t.refusal? p = none ∧ ∃ bytes, t.read? p = some bytes ∧ textOfBytes bytes = .ok text := by
  unfold readText bytes
  cases t.read? p with
  | none => simp
  | some bytes =>
    cases t.refusal? p with
    | some refusal => simp
    | none => cases htext : textOfBytes bytes <;> simp [htext]

/-- What is read depends on where the path leads, on the bytes there and on what is closed. -/
theorem readText_congr (hlocate : t.locate p = u.locate p) (hclosed : t.closed = u.closed)
    (hread : t.read? p = u.read? p) : t.readText p = u.readText p := by
  rw [readText, readText, bytes, bytes, hread, refusal?, refusal?, hlocate, hclosed]

theorem exists_bytes_of_hasFile (h : t.hasFile p = true) : ∃ bytes, t.read? p = some bytes := by
  unfold hasFile at h
  unfold read?
  split at h
  · next place hplace =>
    rw [hplace, Option.bind_some]
    exact Option.isSome_iff_exists.mp h
  · cases h

theorem has_of_hasFile (h : t.hasFile p = true) : t.has p = true := by
  unfold hasFile at h
  unfold has
  split at h
  · simp [h]
  · cases h

/-! ### Collected files -/

theorem mem_collect {paths : List Path} {exclude : List String} :
    p ∈ t.collect paths exclude ↔
      (∃ q ∈ paths, p ∈ t.candidates q) ∧ isExcluded exclude p = false := by
  simp [collect]

/-- A path stands for the file it leads to, or else for the files below it with a usual ending. -/
theorem mem_candidates {input : Path} : p ∈ t.candidates input ↔
    if t.hasFile input then p = input
    else p ∈ t.below input ∧ hasSourceName p ∧ t.hasFile p := by
  unfold candidates
  split
  · exact List.mem_singleton
  · rw [List.mem_mergeSort, List.mem_filter, Bool.and_eq_true]

/-- **What is collected are files.** -/
theorem hasFile_of_mem_collect {paths : List Path} {exclude : List String}
    (h : p ∈ t.collect paths exclude) : t.hasFile p = true := by
  obtain ⟨⟨input, _, hinput⟩, _⟩ := mem_collect.mp h
  rw [mem_candidates] at hinput
  split at hinput
  · next hfile =>
    rw [hinput]
    exact hfile
  · exact hinput.2.2

theorem collect_singleton {exclude : List String} (hfile : t.hasFile p = true)
    (hexclude : isExcluded exclude p = false) : t.collect [p] exclude = [p] := by
  simp [collect, candidates, hfile, hexclude, List.eraseDups_cons]

end FileTree

end MultiAssign
