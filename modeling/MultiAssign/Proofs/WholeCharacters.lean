import MultiAssign.Proofs.Boundaries
import Mathlib.Order.Bounds.Basic

/-!
# The characters in the first bytes

`Source.charOffset` leads from bytes to characters, and an offset in bytes may lie inside a
character.  This file says what it leads to then: to the greatest number of characters whose bytes
are all there (`Source.charOffset_greatest_whole`).

The bytes up to an offset are those of some whole characters, and perhaps the first ones of another.
The scan reads the whole ones back, and what is left of the last one is a fault and counts for
nothing (`Utf8.decodeDropping_of_cut`): the bytes of a character are one piece, so with fewer bytes
the piece is not completed.  From there it is one induction over the text
(`Utf8.isGreatest_decodeDropping`).

A text of one-byte characters is not scanned at all.  Its offsets are what the scan would have given
(`Source.charOffset_eq_decodeDropping`).
-/

namespace MultiAssign

namespace Utf8

theorem decodeDropping_nil : decodeDropping [] = [] := by
  simp [decodeDropping, pieces]

theorem decodeDropping_char_append (c : Char) (rest : List UInt8) :
    decodeDropping (String.utf8EncodeChar c ++ rest) = c :: decodeDropping rest := by
  obtain ⟨b, tail, hbytes, hpiece⟩ := exists_piece_utf8EncodeChar c rest
  rw [hbytes, List.cons_append, decodeDropping_cons, hpiece]
  rfl

/-- **A character of which bytes are missing counts for nothing.** -/
theorem decodeDropping_of_cut {c : Char} {start missing : List UInt8}
    (h : String.utf8EncodeChar c = start ++ missing) (hmissing : missing ≠ []) :
    decodeDropping start = [] := by
  cases start with
  | nil => exact decodeDropping_nil
  | cons b rest =>
    obtain ⟨b', tail, hbytes, hpiece⟩ := exists_piece_utf8EncodeChar c []
    rw [hbytes, List.cons_append] at h
    obtain ⟨rfl, rfl⟩ := List.cons.inj h
    rw [List.append_nil] at hpiece
    rcases piece_append b' rest missing with ⟨size, hfault⟩ | hwhole
    · rw [decodeDropping_cons, hfault]
      exact decodeDropping_nil
    · -- A piece that was complete before would have left the missing bytes over.
      rw [hwhole] at hpiece
      have hnil := (Prod.mk.inj hpiece).2
      exact absurd (List.append_eq_nil_iff.mp hnil).2 hmissing

/-- **The first `n` bytes of a text hold as many characters as fit into them.** -/
theorem isGreatest_decodeDropping (cs : List Char) (n : Nat) :
    IsGreatest {k | k ≤ cs.length ∧ (encode (cs.take k)).length ≤ n}
      (decodeDropping ((encode cs).take n)).length := by
  induction cs generalizing n with
  | nil =>
    have hnone : decodeDropping ((encode []).take n) = [] := by
      rw [show encode [] = [] from rfl, List.take_nil, decodeDropping_nil]
    rw [hnone]
    exact ⟨⟨Nat.le_refl 0, Nat.zero_le n⟩, fun k hk => hk.1⟩
  | cons c cs ih =>
    by_cases hfits : (String.utf8EncodeChar c).length ≤ n
    · have hread : (decodeDropping ((encode (c :: cs)).take n)).length = (decodeDropping
          ((encode cs).take (n - (String.utf8EncodeChar c).length))).length + 1 := by
        rw [encode_cons, List.take_append, List.take_of_length_le hfits, decodeDropping_char_append,
          List.length_cons]
      obtain ⟨⟨hlength, hbytes⟩, hgreatest⟩ := ih (n - (String.utf8EncodeChar c).length)
      rw [hread]
      refine ⟨⟨Nat.succ_le_succ hlength, ?_⟩, ?_⟩
      · rw [List.take_succ_cons, encode_cons, List.length_append]
        omega
      · rintro (_ | k) ⟨hk, hle⟩
        · exact Nat.zero_le _
        · rw [List.take_succ_cons, encode_cons, List.length_append] at hle
          exact Nat.succ_le_succ (hgreatest ⟨Nat.le_of_succ_le_succ hk, by omega⟩)
    · have hcut : decodeDropping ((encode (c :: cs)).take n) = [] := by
        rw [encode_cons, List.take_append_of_le_length (by omega)]
        refine decodeDropping_of_cut (List.take_append_drop n _).symm fun hnil => ?_
        exact hfits (List.drop_eq_nil_iff.mp hnil)
      rw [hcut]
      refine ⟨⟨Nat.zero_le _, Nat.zero_le n⟩, ?_⟩
      rintro (_ | k) ⟨_, hle⟩
      · exact Nat.le_refl 0
      · rw [List.take_succ_cons, encode_cons, List.length_append] at hle
        omega

end Utf8

namespace Source

variable (s : Source)

/-- The characters up to a position fill the bytes up to a boundary. -/
theorem charOffset_encode_take {k : Nat} (hk : k ≤ s.chars.length) :
    s.charOffset (Utf8.encode (s.chars.take k)).length = k := by
  rw [charOffset_encode (List.take_append_drop k s.chars).symm, List.length_take_of_le hk]

theorem length_encode_take_of_isAscii (hascii : s.isAscii) {k : Nat} (hk : k ≤ s.chars.length) :
    (Utf8.encode (s.chars.take k)).length = k := by
  have hoffset := s.charOffset_encode_take hk
  rwa [charOffset, if_pos hascii] at hoffset

/-- **The offset is that of the scan, also in a text that is not scanned.** -/
theorem charOffset_eq_decodeDropping {b : Nat} (hb : b ≤ s.bytes.length) :
    s.charOffset b = (Utf8.decodeDropping (s.bytes.take b)).length := by
  by_cases hascii : s.isAscii
  · have hscan := Utf8.isGreatest_decodeDropping s.chars b
    rw [← s.bytes_eq] at hscan
    have hlength := hascii
    rw [s.isAscii_eq, beq_iff_eq] at hlength
    have hself : IsGreatest {k | k ≤ s.chars.length ∧
        (Utf8.encode (s.chars.take k)).length ≤ b} b := by
      have hb' : b ≤ s.chars.length := by omega
      refine ⟨⟨hb', Nat.le_of_eq (s.length_encode_take_of_isAscii hascii hb')⟩, ?_⟩
      rintro k ⟨hk, hle⟩
      rwa [s.length_encode_take_of_isAscii hascii hk] at hle
    rw [charOffset, if_pos hascii]
    exact hself.unique hscan
  · rw [charOffset, if_neg hascii]

/-- **An offset in bytes leads to the greatest number of whole characters.**  That is, of characters
at the start of the text whose bytes all lie before the offset.  So the number of bytes of the first
`k` characters leads to `k`; a later offset leads no further back, and none leads out of the text;
and without a scan, as where every character takes one byte, the answer is that of the scan. -/
theorem charOffset_greatest_whole :
    (∀ b ≤ s.bytes.length, IsGreatest
      {k | k ≤ s.chars.length ∧ (Utf8.encode (s.chars.take k)).length ≤ b} (s.charOffset b)) ∧
    (∀ k ≤ s.chars.length, s.charOffset (Utf8.encode (s.chars.take k)).length = k) ∧
    (∀ b ≤ s.bytes.length, s.charOffset b ≤ s.chars.length ∧
      ∀ a ≤ b, s.charOffset a ≤ s.charOffset b) ∧
    (∀ b ≤ s.bytes.length, s.charOffset b = (Utf8.decodeDropping (s.bytes.take b)).length) := by
  refine ⟨fun b hb => ?_, fun k hk => s.charOffset_encode_take hk, fun b hb => ⟨?_, ?_⟩,
    fun b hb => s.charOffset_eq_decodeDropping hb⟩
  · rw [s.charOffset_eq_decodeDropping hb, s.bytes_eq]
    exact Utf8.isGreatest_decodeDropping s.chars b
  · exact s.charOffset_le_length hb
  · exact fun a ha => s.charOffset_mono ha

/-- A text with a character of each width: its boundaries are 0, 1, 3, 6, 10 and 11. -/
def allWidths : Source := ofString "aé€😀b" "x.rb"

/-- Three characters end before the eighth byte of that text, which lies inside the fourth one. -/
theorem charOffset_greatest_whole_inside :
    8 ≤ allWidths.bytes.length ∧ ¬ allWidths.IsBoundary 8 ∧ allWidths.charOffset 8 = 3 ∧
    IsGreatest {k | k ≤ allWidths.chars.length ∧
      (Utf8.encode (allWidths.chars.take k)).length ≤ 8} 3 ∧
    (Utf8.encode (allWidths.chars.take 4)).length = 10 ∧ allWidths.charOffset 10 = 4 := by
  obtain ⟨hgreatest, hinverse, _, _⟩ := allWidths.charOffset_greatest_whole
  have hlength : 8 ≤ allWidths.bytes.length := by decide
  have hinside : allWidths.charOffset 8 = 3 := by decide +kernel
  have hfour : (Utf8.encode (allWidths.chars.take 4)).length = 10 := by decide
  refine ⟨hlength, by decide, hinside, hinside ▸ hgreatest 8 hlength, hfour, ?_⟩
  exact hfour ▸ hinverse 4 (by decide)

end Source

end MultiAssign
