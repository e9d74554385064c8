import MultiAssign.Text.Emoji

/-!
# Markup

Messages for the terminal may style parts of their text with tags such as `[bold]` and `[/bold]`. A
tag is an opening bracket, a lower-case letter or one of `#`, `/` and `@`, and then everything up to
the next closing bracket, unless another opening bracket comes first. A backslash before a tag makes
it plain text; of several backslashes before a tag, two stand for one. The codes of emoji stand for
the emoji. Characters that would move the cursor of the terminal, or ring its bell, are left out.

`render` gives the plain text of a message, and `escape` a message with a given plain text.
-/

namespace MultiAssign.Markup

/-- The character that makes a bracket the start of a tag. -/
def isTagStart (c : Char) : Bool := c.isLower || c == '#' || c == '/' || c == '@'

/-- What follows the opening bracket of a tag, up to and with its closing bracket, and the rest. -/
def closeTag : List Char → Option (List Char × List Char)
  | [] => none
  | c :: rest =>
    if c = ']' then some ([c], rest)
    else if c = '[' then none
    else (closeTag rest).map fun (tag, after) => (c :: tag, after)

/-- The tag at the start of a text, and the rest. -/
def tag? : List Char → Option (List Char × List Char)
  | '[' :: c :: rest =>
    if isTagStart c then (closeTag rest).map fun (tag, after) => ('[' :: c :: tag, after) else none
  | _ => none

theorem length_closeTag_lt {cs tag after : List Char} (h : closeTag cs = some (tag, after)) :
    after.length < cs.length := by
  induction cs generalizing tag with
  | nil => simp [closeTag] at h
  | cons c rest ih =>
    unfold closeTag at h
    split at h
    · simp only [Option.some.injEq, Prod.mk.injEq] at h
      simp [h.2]
    · split at h
      · simp at h
      · obtain ⟨⟨t, a⟩, hr, he⟩ := Option.map_eq_some_iff.1 h
        simp only [Prod.mk.injEq] at he
        have := ih (he.2 ▸ hr)
        simp only [List.length_cons]
        omega

theorem length_tag?_lt {cs tag after : List Char} (h : tag? cs = some (tag, after)) :
    after.length < cs.length := by
  unfold tag? at h
  split at h
  · split at h
    · obtain ⟨⟨t, a⟩, hr, he⟩ := Option.map_eq_some_iff.1 h
      simp only [Prod.mk.injEq] at he
      have := length_closeTag_lt (he.2 ▸ hr)
      simp only [List.length_cons]
      omega
    · simp at h
  · simp at h

inductive Piece where
  /-- A character outside of tags. -/
  | plain (c : Char)
  /-- A tag with the backslashes before it. -/
  | tag (backslashes : Nat) (text : List Char)

/-- Cuts a message into pieces; `backslashes` backslashes were met just before. -/
def pieces (backslashes : Nat) (cs : List Char) : List Piece :=
  match h : tag? cs with
  | some (tag, after) => .tag backslashes tag :: pieces 0 after
  | none =>
    match cs with
    | [] => List.replicate backslashes (.plain '\\')
    | c :: rest =>
      if c = '\\' then pieces (backslashes + 1) rest
      else List.replicate backslashes (.plain '\\') ++ .plain c :: pieces 0 rest
termination_by cs.length
decreasing_by
  · exact length_tag?_lt h
  · simp
  · simp

/-- A run of plain text: a backslash before an opening bracket is dropped. -/
def unescapeBrackets : List Char → List Char
  | [] => []
  | [c] => [c]
  | c :: d :: rest =>
    if c = '\\' ∧ d = '[' then '[' :: unescapeBrackets rest
    else c :: unescapeBrackets (d :: rest)

/-- Puts pieces together again; `run` is the plain text met since the last tag, in reverse. -/
def plainText (run : List Char) : List Piece → List Char
  | [] => Emoji.replace (unescapeBrackets run.reverse)
  | .plain c :: rest => plainText (c :: run) rest
  | .tag backslashes text :: rest =>
    let shown := if backslashes % 2 = 1 then Emoji.replace text else []
    Emoji.replace (unescapeBrackets run.reverse) ++ List.replicate (backslashes / 2) '\\' ++ shown
      ++ plainText [] rest

/-- The bell, the backspace, the vertical tab, the form feed and the carriage return. -/
def isSilent (c : Char) : Bool := [7, 8, 11, 12, 13].contains c.toNat

def audible (cs : List Char) : List Char := cs.filter fun c => !isSilent c

def renderChars (cs : List Char) : List Char :=
  audible (if cs.contains '[' then plainText [] (pieces 0 cs) else Emoji.replace cs)

def render (message : String) : String := String.ofList (renderChars message.toList)

def escapeTags (cs : List Char) : List Char :=
  (pieces 0 cs).flatMap fun
    | .plain c => [c]
    | .tag backslashes text => List.replicate (2 * backslashes + 1) '\\' ++ text

/-- A single backslash at the very end is doubled, so that it cannot escape what follows. -/
def guardEnd (cs : List Char) : List Char :=
  match cs.reverse with
  | '\\' :: '\\' :: _ => cs
  | '\\' :: _ => cs ++ ['\\']
  | _ => cs

def escape (text : String) : String := String.ofList (guardEnd (escapeTags text.toList))

end MultiAssign.Markup
