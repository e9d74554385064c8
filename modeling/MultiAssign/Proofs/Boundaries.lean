import MultiAssign.Proofs.Encoding
import Mathlib.Data.List.Infix

/-!
# Where characters begin

An offset in bytes is a **boundary** of a text (`Source.IsBoundary`) if some of its first characters
fill exactly that many bytes.  Between two boundaries bytes and characters can be used for one
another: the bytes there, read on their own, are the characters between the offsets in characters
(`Source.bytesText_eq_textOf`).

Both sides come down to a text in three parts, of which the middle one lies between the boundaries
(`Source.IsBoundary.exists_parts`).  Its bytes stand between the bytes of the other two, and are
read back as they were written; its characters stand behind as many characters as the first part
has (`Source.charOffset_encode`).
-/

namespace MultiAssign

namespace Utf8

theorem encode_append (cs ds : List Char) : encode (cs ++ ds) = encode cs ++ encode ds :=
  List.flatMap_append

theorem decodeReplacing_encode (cs : List Char) : decodeReplacing (encode cs) = cs := by
  rw [decodeReplacing, pieces_encode, List.map_map]
  exact List.map_id cs

theorem length_le_length_encode (cs : List Char) : cs.length ≤ (encode cs).length := by
  induction cs with
  | nil => exact Nat.le_refl 0
  | cons c cs ih =>
    obtain ⟨b, tail, hbytes, _⟩ := exists_piece_utf8EncodeChar c []
    rw [encode_cons, hbytes]
    simp only [List.length_append, List.length_cons]
    omega

theorem eq_nil_of_length_encode {cs : List Char} (h : (encode cs).length = 0) : cs = [] := by
  have := length_le_length_encode cs
  exact List.eq_nil_of_length_eq_zero (by omega)

end Utf8

namespace Source

variable {s : Source} {before middle after : List Char} {offset start stop : Nat}

/-- **Behind the bytes of some characters stand as many characters**, whether all characters of the
text take one byte or not. -/
theorem charOffset_encode (h : s.chars = before ++ after) :
    s.charOffset (Utf8.encode before).length = before.length := by
  have hbytes : s.bytes = Utf8.encode before ++ Utf8.encode after := by
    rw [s.bytes_eq, h, Utf8.encode_append]
  unfold charOffset
  split
  · next hascii =>
    -- No character has a second byte, neither in front nor behind.
    rw [s.isAscii_eq, beq_iff_eq, hbytes, h, List.length_append, List.length_append] at hascii
    have hbefore := Utf8.length_le_length_encode before
    have hafter := Utf8.length_le_length_encode after
    omega
  · rw [hbytes, List.take_left, Utf8.decodeDropping_encode]

/-- Some of the first characters of the text fill exactly the first `offset` bytes. -/
def IsBoundary (s : Source) (offset : Nat) : Prop :=
  ∃ before, before <+: s.chars ∧ (Utf8.encode before).length = offset

instance (s : Source) (offset : Nat) : Decidable (s.IsBoundary offset) :=
  decidable_of_iff (∃ before ∈ s.chars.inits, (Utf8.encode before).length = offset)
    (by simp only [IsBoundary, List.mem_inits])

theorem IsBoundary.exists_parts (hstart : s.IsBoundary start) (hstop : s.IsBoundary stop)
    (hle : start ≤ stop) :
    ∃ before middle after, s.chars = before ++ middle ++ after ∧
      (Utf8.encode before).length = start ∧ (Utf8.encode (before ++ middle)).length = stop := by
  obtain ⟨before, hbefore, rfl⟩ := hstart
  obtain ⟨upTo, hupTo, rfl⟩ := hstop
  have hprefix : before <+: upTo := by
    rcases List.prefix_or_prefix_of_prefix hbefore hupTo with h | ⟨rest, rfl⟩
    · exact h
    · -- The longer one of the two has no byte more, so it is not longer.
      rw [Utf8.encode_append, List.length_append] at hle
      have hrest : rest = [] := Utf8.eq_nil_of_length_encode (by omega)
      rw [hrest, List.append_nil]
  obtain ⟨middle, rfl⟩ := hprefix
  obtain ⟨after, hafter⟩ := hupTo
  exact ⟨before, middle, after, hafter.symm, rfl, rfl⟩

/-- **The bytes between two boundaries are the bytes of the characters between them.** -/
theorem bytesText_eq_textOf (hstart : s.IsBoundary start) (hstop : s.IsBoundary stop)
    (hle : start ≤ stop) : s.bytesText start stop = s.textOf (s.spanOfBytes start stop) := by
  obtain ⟨before, middle, after, hchars, rfl, rfl⟩ := hstart.exists_parts hstop hle
  have hbytes : s.bytes = Utf8.encode (before ++ middle) ++ Utf8.encode after := by
    rw [s.bytes_eq, hchars, Utf8.encode_append]
  have hfirst : s.charOffset (Utf8.encode before).length = before.length := by
    rw [List.append_assoc] at hchars
    exact charOffset_encode hchars
  rw [bytesText, textOf, spanOfBytes, hfirst, charOffset_encode hchars, slice, hbytes, hchars,
    List.take_left, List.take_left, Utf8.encode_append, List.drop_left, List.drop_left,
    Utf8.decodeReplacing_encode]

end Source

end MultiAssign
