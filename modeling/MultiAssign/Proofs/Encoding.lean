import MultiAssign.Proofs.Offsets

/-!
# Texts and their bytes

What `Utf8.encode` writes, every reader reads back (`pieces_encode`): the scan takes the bytes of a
text apart into the characters they came from, without a fault.  So a file that was written can be
read (`decode_encode`), and a position inside the bytes of a text is a position inside the text
(`Source.charOffset_le_length`).
-/

namespace MultiAssign

namespace Utf8

/-! ### The bytes of one character -/

theorem toNat_ofNat {n : Nat} (h : n < 256) : (UInt8.ofNat n).toNat = n :=
  UInt8.toNat_ofNat_of_lt' h

theorem complete_ofNat {taken bits low high need n : Nat} {rest : List UInt8} (hlow : low ≤ n)
    (hhigh : n ≤ high) (h : n < 256) :
    complete taken bits low high (need + 1) (UInt8.ofNat n :: rest) =
      complete (taken + 1) (bits * 64 + n % 64) 0x80 0xBF need rest := by
  rw [complete, toNat_ofNat h, if_pos ⟨hlow, hhigh⟩]

theorem announced_of_le_127 {v : Nat} (h : v ≤ 127) :
    announced (UInt8.ofNat v) = some (v, 0, 0, 0) := by
  rw [announced, toNat_ofNat (by omega), if_pos (by omega)]

theorem announced_of_le_2047 {v : Nat} (hlow : 127 < v) (h : v ≤ 2047) :
    announced (UInt8.ofNat (v / 64 % 32 + 192)) = some (v / 64, 1, 0x80, 0xBF) := by
  rw [announced, toNat_ofNat (by omega), if_neg (by omega), if_neg (by omega), if_pos (by omega)]
  congr 2
  omega

/-- The ranges for the second of three bytes leave out overlong forms and surrogates. -/
theorem exists_announced_of_le_65535 {v : Nat} (hlow : 2047 < v) (h : v ≤ 65535)
    (hvalid : v < 0xD800 ∨ 0xDFFF < v) :
    ∃ low high, announced (UInt8.ofNat (v / 4096 % 16 + 224)) = some (v / 4096, 2, low, high) ∧
      low ≤ v / 64 % 64 + 128 ∧ v / 64 % 64 + 128 ≤ high := by
  rw [announced, toNat_ofNat (by omega), if_neg (by omega), if_neg (by omega), if_neg (by omega)]
  split
  · exact ⟨0xA0, 0xBF, by congr 2; omega, by omega, by omega⟩
  split
  · exact ⟨0x80, 0x9F, by congr 2; omega, by omega, by omega⟩
  rw [if_pos (by omega)]
  exact ⟨0x80, 0xBF, by congr 2; omega, by omega, by omega⟩

/-- The ranges for the second of four bytes leave out overlong forms and what is past the end. -/
theorem exists_announced_of_lt {v : Nat} (hlow : 65535 < v) (h : v < 0x110000) :
    ∃ low high, announced (UInt8.ofNat (v / 262144 % 8 + 240)) = some (v / 262144, 3, low, high) ∧
      low ≤ v / 4096 % 64 + 128 ∧ v / 4096 % 64 + 128 ≤ high := by
  rw [announced, toNat_ofNat (by omega), if_neg (by omega), if_neg (by omega), if_neg (by omega),
    if_neg (by omega), if_neg (by omega), if_neg (by omega)]
  split
  · exact ⟨0x90, 0xBF, by congr 2; omega, by omega, by omega⟩
  split
  · exact ⟨0x80, 0xBF, by congr 2; omega, by omega, by omega⟩
  rw [if_pos (by omega)]
  exact ⟨0x80, 0x8F, by congr 2; omega, by omega, by omega⟩

/-- **The bytes of a character are one piece.** -/
theorem exists_piece_utf8EncodeChar (c : Char) (rest : List UInt8) :
    ∃ b tail, String.utf8EncodeChar c = b :: tail ∧ piece b (tail ++ rest) = (.char c, rest) := by
  have hvalid : c.val.toNat < 0xD800 ∨ 0xDFFF < c.val.toNat ∧ c.val.toNat < 0x110000 := c.valid
  have hchar : ∀ {bits : Nat}, bits = c.val.toNat →
      (Piece.char (Char.ofNat bits), rest) = (Piece.char c, rest) := by
    rintro _ rfl
    rw [show Char.ofNat c.val.toNat = c from c.ofNat_toNat]
  simp only [String.utf8EncodeChar]
  generalize c.val.toNat = v at hvalid hchar
  split
  · next h =>
    refine ⟨_, _, rfl, ?_⟩
    rw [piece, announced_of_le_127 h]
    exact hchar rfl
  split
  · next hlow h =>
    refine ⟨_, _, rfl, ?_⟩
    rw [piece, announced_of_le_2047 (by omega) h]
    simp only [List.cons_append, List.nil_append]
    rw [complete_ofNat (by omega) (by omega) (by omega), complete]
    exact hchar (by omega)
  split
  · next hlow h =>
    obtain ⟨low, high, hannounced, hl, hh⟩ :=
      exists_announced_of_le_65535 (by omega) h (by omega)
    refine ⟨_, _, rfl, ?_⟩
    rw [piece, hannounced]
    simp only [List.cons_append, List.nil_append]
    rw [complete_ofNat hl hh (by omega), complete_ofNat (by omega) (by omega) (by omega), complete]
    exact hchar (by omega)
  · next hlow =>
    obtain ⟨low, high, hannounced, hl, hh⟩ :=
      exists_announced_of_lt (v := v) (by omega) (by omega)
    refine ⟨_, _, rfl, ?_⟩
    rw [piece, hannounced]
    simp only [List.cons_append, List.nil_append]
    rw [complete_ofNat hl hh (by omega), complete_ofNat (by omega) (by omega) (by omega),
      complete_ofNat (by omega) (by omega) (by omega), complete]
    exact hchar (by omega)

/-! ### The bytes of a text -/

theorem encode_cons (c : Char) (cs : List Char) :
    encode (c :: cs) = String.utf8EncodeChar c ++ encode cs := rfl

/-- **The scan of a text finds its characters and no fault.** -/
theorem pieces_encode (cs : List Char) : pieces (encode cs) = cs.map .char := by
  induction cs with
  | nil => simp [encode, pieces]
  | cons c cs ih =>
    obtain ⟨b, tail, hbytes, hpiece⟩ := exists_piece_utf8EncodeChar c (encode cs)
    rw [encode_cons, hbytes, List.cons_append, pieces, hpiece, ih, List.map_cons]

theorem decodeDropping_encode (cs : List Char) : decodeDropping (encode cs) = cs := by
  rw [decodeDropping, pieces_encode, List.filterMap_map]
  exact List.filterMap_some

theorem collect_map_char (bytes : List UInt8) (position : Nat) (cs : List Char) :
    collect bytes position (cs.map .char) = .ok cs := by
  induction cs generalizing position with
  | nil => rfl
  | cons c cs ih => rw [List.map_cons, collect, ih]

/-- **What was written can be read.** -/
theorem decode_encode (cs : List Char) : decode (encode cs) = .ok cs := by
  rw [decode, pieces_encode, collect_map_char]

theorem encode_inj {cs ds : List Char} : encode cs = encode ds ↔ cs = ds := by
  refine ⟨fun h => ?_, fun h => h ▸ rfl⟩
  have hdecode := decode_encode cs
  rw [h, decode_encode] at hdecode
  exact (Except.ok.inj hdecode).symm

end Utf8

/-- **A position in the bytes of a text is a position in the text.** -/
theorem Source.charOffset_le_length (s : Source) {offset : Nat} (h : offset ≤ s.bytes.length) :
    s.charOffset offset ≤ s.chars.length := by
  have hmono := s.charOffset_mono h
  refine Nat.le_trans hmono ?_
  unfold charOffset
  split
  · next hascii =>
    rw [s.isAscii_eq, beq_iff_eq] at hascii
    exact Nat.le_of_eq hascii
  · refine Nat.le_of_eq ?_
    rw [List.take_length, s.bytes_eq, Utf8.decodeDropping_encode]

end MultiAssign
