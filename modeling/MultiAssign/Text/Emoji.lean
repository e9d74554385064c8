import MultiAssign.Text.Blank
import MultiAssign.Text.EmojiTable

/-!
# Emoji codes

In messages, the name of an emoji between two colons stands for the emoji, as in `:cat:`. The name
may end with `-text` or `-emoji`, which asks for one of two ways to display it. `replace` puts the
emoji in place of their codes; a code with an unknown name is plain text.
-/

namespace MultiAssign.Emoji

/-- Takes the words of a list two by two. -/
def pairs : List String → List (String × String)
  | name :: emoji :: rest => (name, emoji) :: pairs rest
  | _ => []

def names : List (String × String) :=
  (table.splitOn "\n").flatMap fun line => pairs (line.splitOn " ")

/-- A letter in lower case, as far as the names have such letters. -/
def lower (c : Char) : Char :=
  if c.isUpper then c.toLower
  else if 0xC0 ≤ c.toNat ∧ c.toNat ≤ 0xDE ∧ c.toNat ≠ 0xD7 then Char.ofNat (c.toNat + 32)
  else if c.toNat = 0x212A then 'k'
  else if c.toNat = 0x212B then Char.ofNat 0xE5
  else c

def find? (name : List Char) : Option (List Char) :=
  (names.lookup (String.ofList (name.map lower))).map String.toList

/-- How an emoji is displayed, as the character that asks for it. -/
def textStyle : Char := Char.ofNat 0xFE0E

def emojiStyle : Char := Char.ofNat 0xFE0F

/-- What follows the first colon of a code: the name, the way to display it, and the rest of the
text after the second colon. The second colon is the first there is. -/
def code? : List Char → Option (List Char × List Char × List Char)
  | [] => none
  | c :: rest =>
    if "-emoji:".toList.isPrefixOf (c :: rest) then some ([], [emojiStyle], rest.drop 6)
    else if "-text:".toList.isPrefixOf (c :: rest) then some ([], [textStyle], rest.drop 5)
    else if c = ':' then some ([], [], rest)
    else if Text.isBlank c then none
    else (code? rest).map fun (name, style, after) => (c :: name, style, after)

theorem length_code?_lt {cs name style after : List Char}
    (h : code? cs = some (name, style, after)) : after.length < cs.length := by
  induction cs generalizing name with
  | nil => simp [code?] at h
  | cons c rest ih =>
    unfold code? at h
    split at h
    · simp only [Option.some.injEq, Prod.mk.injEq] at h
      simp only [← h.2.2, List.length_drop, List.length_cons]
      omega
    · split at h
      · simp only [Option.some.injEq, Prod.mk.injEq] at h
        simp only [← h.2.2, List.length_drop, List.length_cons]
        omega
      · split at h
        · simp only [Option.some.injEq, Prod.mk.injEq] at h
          simp [h.2.2]
        · split at h
          · simp at h
          · obtain ⟨⟨n, s, a⟩, hr, he⟩ := Option.map_eq_some_iff.1 h
            simp only [Prod.mk.injEq] at he
            have := ih (he.2.1 ▸ he.2.2 ▸ hr)
            simp only [List.length_cons]
            omega

def replace : List Char → List Char
  | [] => []
  | c :: cs =>
    if c = ':' then
      match _h : code? cs with
      | none => c :: replace cs
      | some (name, style, after) =>
        match find? name with
        | some emoji => emoji ++ style ++ replace after
        | none => c :: cs.take (cs.length - after.length) ++ replace after
    else c :: replace cs
termination_by cs => cs.length
decreasing_by
  · simp
  · have := length_code?_lt _h
    simp only [List.length_cons]
    omega
  · have := length_code?_lt _h
    simp only [List.length_cons]
    omega
  · simp

end MultiAssign.Emoji
