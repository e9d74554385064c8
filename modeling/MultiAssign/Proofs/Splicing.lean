import MultiAssign.Proofs.KeptText
import MultiAssign.Proofs.Selection
import Mathlib.Algebra.Ring.Int.Defs

/-!
# Edits together and one at a time

`Edit.apply` goes through a text once, from left to right, and puts the replacements of the selected
edits between pieces of it.  The plain way would be to write the edits into the text one after the
other, and to start with the last one, so that the ranges of the others keep their places.  This
file says that both come to the same (`apply_one_at_a_time`), and when there is no result: as soon
as one of the selected edits is reversed or leaves the text.

In the middle of the sweep the text up to the cursor, followed by what the sweep still gives, is the
text with the edits from there on written into it one at a time (`take_append_of_splice`).  The next
edit back has its range before the cursor, where nothing has changed.  What is kept of the text are
the characters that no range covers (`flatten_outside`), and the replacements only come between them
(`flatten_sublist_weave`).
-/

namespace MultiAssign

namespace Edit

/-! ### Edits that cannot be applied -/

/-- The range is reversed, or leaves a text of that length. -/
def OutOfRange (length : Nat) (e : Edit) : Prop := e.stop < e.start ∨ length < e.stop

instance (length : Nat) (e : Edit) : Decidable (e.OutOfRange length) :=
  inferInstanceAs (Decidable (e.stop < e.start ∨ length < e.stop))

/-- A sweep stops at the first edit that is out of range. -/
theorem splice_eq_error_iff {text : List Char} (cursor : Nat) {edits : List Edit}
    {failure : Failure} :
    splice text cursor edits = .error failure ↔
      ∃ e, edits.find? (fun e => e.OutOfRange text.length) = some e ∧
        failure = .badRange e.start e.stop text.length := by
  induction edits generalizing cursor with
  | nil => simp [splice]
  | cons e rest ih =>
    by_cases hrange : e.OutOfRange text.length
    · have hfind : (e :: rest).find? (fun e => e.OutOfRange text.length) = some e :=
        List.find?_cons_of_pos (decide_eq_true hrange)
      have hrange : e.stop < e.start ∨ text.length < e.stop := hrange
      rw [hfind, splice, if_pos hrange]
      simp [eq_comm]
    · have hfind : (e :: rest).find? (fun e => e.OutOfRange text.length) =
          rest.find? fun e => e.OutOfRange text.length :=
        List.find?_cons_of_neg (by simpa using hrange)
      have hrange : ¬ (e.stop < e.start ∨ text.length < e.stop) := hrange
      rw [hfind, ← ih e.stop, splice, if_neg hrange]
      cases splice text e.stop rest <;> simp

theorem apply_eq_error_iff {text : String} {edits : List Edit} {failure : Failure} :
    apply text edits = .error failure ↔
      ∃ e, (select edits).find? (fun e => e.OutOfRange text.length) = some e ∧
        failure = .badRange e.start e.stop text.length := by
  rw [← String.length_toList, ← splice_eq_error_iff 0, apply]
  cases splice text.toList 0 (select edits) <;> simp [Except.map]

theorem exists_apply_eq_error_iff {text : String} {edits : List Edit} :
    (∃ failure, apply text edits = .error failure) ↔
      ∃ e ∈ select edits, e.OutOfRange text.length := by
  constructor
  · rintro ⟨failure, hfailure⟩
    obtain ⟨e, hfind, _⟩ := apply_eq_error_iff.mp hfailure
    exact ⟨e, List.mem_of_find?_eq_some hfind, by simpa using List.find?_some hfind⟩
  · rintro ⟨e, he, hrange⟩
    have hsome : ((select edits).find? fun e => e.OutOfRange text.length).isSome :=
      List.find?_isSome.mpr ⟨e, he, decide_eq_true hrange⟩
    obtain ⟨first, hfirst⟩ := Option.isSome_iff_exists.mp hsome
    exact ⟨_, apply_eq_error_iff.mpr ⟨first, hfirst, rfl⟩⟩

/-! ### One edit at a time -/

def replaceIn (e : Edit) (text : List Char) : List Char :=
  text.take e.start ++ e.replacement.toList ++ text.drop e.stop

/-- By how much an edit makes a text longer. -/
def growth (e : Edit) : Int := e.replacement.length - ((e.stop : Int) - e.start)

/-- **A sweep writes its edits one at a time**, from the last to the first, into the text behind the
cursor. -/
theorem take_append_of_splice {text out : List Char} {edits : List Edit} {cursor : Nat}
    (h : splice text cursor edits = .ok out) (hascending : Ascending cursor edits) :
    text.take cursor ++ out = edits.foldr replaceIn text := by
  induction edits generalizing cursor out with
  | nil =>
    cases h
    exact List.take_append_drop cursor text
  | cons e rest ih =>
    obtain ⟨hcursor, hle, hrest⟩ := hascending
    obtain ⟨⟨_, hstop⟩, tail, htail, rfl⟩ := splice_cons_eq_ok_iff.mp h
    have hlength : (text.take e.stop).length = e.stop := List.length_take_of_le hstop
    rw [List.foldr_cons, ← ih htail hrest, replaceIn]
    -- the edits behind have left the text up to `e.stop` alone
    have hbefore : (text.take e.stop ++ tail).take e.start = text.take e.start := by
      rw [List.take_append_of_le_length (by omega), List.take_take, Nat.min_eq_left hle]
    have hbehind : (text.take e.stop ++ tail).drop e.stop = tail := by
      rw [List.drop_append, hlength, Nat.sub_self, List.drop_zero,
        List.drop_eq_nil_of_le hlength.le, List.nil_append]
    have hpiece : text.take cursor ++ (text.take e.start).drop cursor = text.take e.start := by
      nth_rewrite 1 [← Nat.min_eq_left hcursor]
      rw [← List.take_take, List.take_append_drop]
    rw [hbefore, hbehind, ← List.append_assoc, ← List.append_assoc, hpiece]

theorem length_of_splice {text out : List Char} {edits : List Edit} {cursor : Nat}
    (h : splice text cursor edits = .ok out) (hascending : Ascending cursor edits)
    (hcursor : cursor ≤ text.length) :
    (cursor + out.length : Int) = text.length + (edits.map growth).sum := by
  induction edits generalizing cursor out with
  | nil =>
    cases h
    simp only [List.length_drop, List.map_nil, List.sum_nil]
    omega
  | cons e rest ih =>
    obtain ⟨hstart, hle, hrest⟩ := hascending
    obtain ⟨⟨_, hstop⟩, tail, htail, rfl⟩ := splice_cons_eq_ok_iff.mp h
    have htail := ih htail hrest hstop
    simp only [List.length_append, List.length_drop, List.length_take, String.length_toList,
      List.map_cons, List.sum_cons, growth]
    omega

/-! ### Characters that no edit replaces -/

/-- The characters that no edit covers, of a piece of text that starts at the position. -/
def untouched (edits : List Edit) (position : Nat) (chars : List Char) : List Char :=
  ((chars.zipIdx position).filter fun c => ∀ e ∈ edits, ¬ e.Covers c.2).map Prod.fst

theorem untouched_append (edits : List Edit) (position : Nat) (xs ys : List Char) :
    untouched edits position (xs ++ ys) =
      untouched edits position xs ++ untouched edits (position + xs.length) ys := by
  rw [untouched, List.zipIdx_append, List.filter_append, List.map_append]
  rfl

theorem untouched_eq_self {edits : List Edit} {position : Nat} {chars : List Char}
    (h : ∀ i, position ≤ i → i < position + chars.length → ∀ e ∈ edits, ¬ e.Covers i) :
    untouched edits position chars = chars := by
  have hfilter : (chars.zipIdx position).filter (fun c => ∀ e ∈ edits, ¬ e.Covers c.2) =
      chars.zipIdx position := by
    refine List.filter_eq_self.mpr fun c hc => decide_eq_true ?_
    have := List.snd_lt_of_mem_zipIdx hc
    exact h c.2 (List.le_snd_of_mem_zipIdx hc) (by omega)
  rw [untouched, hfilter, List.zipIdx_map_fst]

theorem untouched_eq_nil {edits : List Edit} {position : Nat} {chars : List Char} {e : Edit}
    (he : e ∈ edits) (hstart : e.start ≤ position) (hstop : position + chars.length ≤ e.stop) :
    untouched edits position chars = [] := by
  rw [untouched, List.map_eq_nil_iff, List.filter_eq_nil_iff]
  intro c hc hcovers
  have hlt := List.snd_lt_of_mem_zipIdx hc
  have hle := List.le_snd_of_mem_zipIdx hc
  exact of_decide_eq_true hcovers e he ⟨by omega, by omega⟩

theorem untouched_cons_of_stop_le {e : Edit} {rest : List Edit} {position : Nat}
    (h : e.stop ≤ position) (chars : List Char) :
    untouched (e :: rest) position chars = untouched rest position chars := by
  unfold untouched
  congr 1
  refine List.filter_congr fun c hc => decide_eq_decide.mpr ?_
  have hle := List.le_snd_of_mem_zipIdx hc
  have hbehind : ¬ e.Covers c.2 := fun hcovers => by
    have := hcovers.2
    omega
  simp [hbehind]

theorem Ascending.le_start {cursor : Nat} {edits : List Edit} (h : Ascending cursor edits)
    {e : Edit} (he : e ∈ edits) : cursor ≤ e.start := by
  induction edits generalizing cursor with
  | nil => cases he
  | cons f rest ih =>
    obtain ⟨hstart, hle, hrest⟩ := h
    rcases List.mem_cons.mp he with rfl | he
    · exact hstart
    · have := ih hrest he
      omega

/-- **The pieces between the ranges of edits are what the edits leave untouched.** -/
theorem flatten_outside {text : List Char} {edits : List Edit} {cursor : Nat}
    (hascending : Ascending cursor edits) (hstop : ∀ e ∈ edits, e.stop ≤ text.length) :
    (outside text cursor edits).flatten = untouched edits cursor (text.drop cursor) := by
  induction edits generalizing cursor with
  | nil =>
    rw [untouched_eq_self fun _ _ _ _ he => absurd he List.not_mem_nil]
    simp [outside]
  | cons e rest ih =>
    obtain ⟨hcursor, hle, hrest⟩ := hascending
    have hlength := hstop e List.mem_cons_self
    have hcut : ∀ m n, m ≤ n → (text.take n).drop m ++ text.drop n = text.drop m := by
      intro m n hmn
      have h := List.drop_take_append_drop' text m (n - m)
      rwa [Nat.sub_add_cancel hmn, ← List.drop_take] at h
    have hsplit : text.drop cursor = (text.take e.start).drop cursor ++
        ((text.take e.stop).drop e.start ++ text.drop e.stop) := by
      rw [hcut e.start e.stop hle, hcut cursor e.start hcursor]
    have hcovered : ((text.take e.stop).drop e.start).length = e.stop - e.start := by
      rw [List.length_drop, List.length_take_of_le hlength]
    have hpiece : ((text.take e.start).drop cursor).length = e.start - cursor := by
      rw [List.length_drop, List.length_take_of_le (hle.trans hlength)]
    -- the text up to `e.start` is kept, the range of `e` is not, and the rest is as before
    rw [hsplit, untouched_append, untouched_append, hpiece, hcovered,
      show cursor + (e.start - cursor) = e.start by omega,
      show e.start + (e.stop - e.start) = e.stop by omega,
      untouched_eq_nil List.mem_cons_self (Nat.le_refl e.start) (by omega), List.nil_append,
      untouched_cons_of_stop_le (Nat.le_refl e.stop), untouched_eq_self, outside,
      List.flatten_cons, ih hrest fun f hf => hstop f (List.mem_cons_of_mem e hf)]
    intro i _ hi f hf hcovers
    have hstart : e.start ≤ f.start := by
      rcases List.mem_cons.mp hf with rfl | hf
      · exact Nat.le_refl _
      · exact hle.trans (hrest.le_start hf)
    have := hcovers.1
    omega

/-- Replacements come between the pieces, which stay in their order. -/
theorem flatten_sublist_weave (pieces : List (List Char)) (edits : List Edit) :
    pieces.flatten.Sublist (weave pieces edits) := by
  fun_induction weave pieces edits with
  | case1 edits => exact List.Sublist.refl []
  | case2 piece pieces ih => exact (List.Sublist.refl piece).append ih
  | case3 piece pieces e edits ih =>
    exact (List.sublist_append_left piece e.replacement.toList).append ih

/-- **Edits that are applied together are applied one at a time.**  There is no result if and only
if one of the selected edits is reversed or leaves the text, and then the first of these is named.
Otherwise the result is the text with the selected edits written into it from the last to the first;
so it is longer by what they add, and has all characters outside of their ranges in their order. -/
theorem apply_one_at_a_time (text : String) (edits : List Edit) :
    ((∃ failure, apply text edits = .error failure) ↔
      ∃ e ∈ select edits, e.stop < e.start ∨ text.length < e.stop) ∧
    (∀ failure, apply text edits = .error failure ↔
      ∃ e, (select edits).find? (fun e => e.OutOfRange text.length) = some e ∧
        failure = .badRange e.start e.stop text.length) ∧
    ((∀ e ∈ select edits, e.start ≤ e.stop ∧ e.stop ≤ text.length) →
      ∃ out, apply text edits = .ok out ∧
        out.toList = (select edits).foldr replaceIn text.toList ∧
        (out.length : Int) = text.length + ((select edits).map growth).sum ∧
        (untouched (select edits) 0 text.toList).Sublist out.toList) := by
  refine ⟨exists_apply_eq_error_iff, fun failure => apply_eq_error_iff, fun hinside => ?_⟩
  rw [← String.length_toList] at hinside ⊢
  obtain ⟨out, hout⟩ := exists_splice hinside 0
  have hascending : Ascending 0 (select edits) := ascending_of_splice hout
  refine ⟨String.ofList out, by rw [apply, hout]; rfl, ?_, ?_, ?_⟩
  · rw [String.toList_ofList]
    exact take_append_of_splice hout hascending
  · have hlength := length_of_splice hout hascending (Nat.zero_le _)
    rw [← String.length_toList, String.toList_ofList]
    omega
  · have hpieces := flatten_outside hascending fun e he => (hinside e he).2
    rw [String.toList_ofList, eq_weave_of_splice hout, ← List.drop_zero (l := text.toList),
      ← hpieces]
    exact flatten_sublist_weave _ _

def adjacentEdits : List Edit :=
  [⟨4, 4, "!"⟩, ⟨1, 1, "x"⟩, ⟨2, 4, "Z"⟩, ⟨3, 4, "-"⟩, ⟨1, 1, "y"⟩]

/-- The insertions come in the order in which they are given. -/
theorem apply_one_at_a_time_adjacent :
    select adjacentEdits = [⟨1, 1, "x"⟩, ⟨1, 1, "y"⟩, ⟨2, 4, "Z"⟩, ⟨4, 4, "!"⟩] ∧
    ∃ out, apply "abcd" adjacentEdits = .ok out ∧ out.toList = "axybZ!".toList ∧
      (out.length : Int) = 4 + 2 ∧ (['a', 'b'] : List Char).Sublist out.toList := by
  have hselect : select adjacentEdits = [⟨1, 1, "x"⟩, ⟨1, 1, "y"⟩, ⟨2, 4, "Z"⟩, ⟨4, 4, "!"⟩] := by
    cbv
  refine ⟨hselect, ?_⟩
  have hinside : ∀ e ∈ select adjacentEdits, e.start ≤ e.stop ∧ e.stop ≤ "abcd".length := by
    rw [hselect]
    decide
  obtain ⟨out, happly, hout, hlength, hkept⟩ :=
    (apply_one_at_a_time "abcd" adjacentEdits).2.2 hinside
  rw [hselect] at hout hlength hkept
  exact ⟨out, happly, hout, hlength, hkept⟩

end Edit

end MultiAssign
