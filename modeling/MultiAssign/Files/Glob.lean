/-!
# Patterns of file names

In a pattern, `*` stands for any text, a slash or nothing included, `?` for one character, and a
bracketed set for one character of the set, or not of the set if it starts with `!`. A set has
single characters and ranges. Everything else stands for itself, and so does a bracket that is never
closed.

A pattern is read into a list of `Piece`s, and `Piece.accept` says which texts these accept.

In a set, the first member may be the closing bracket itself. A hyphen makes a range unless it is
the first or the last member or follows a range. A range whose ends are in the wrong order is empty
and both its ends are dropped, even where that moves another character to the start of the set, and
a `!` that gets there counts.
-/

namespace MultiAssign.Glob

inductive Piece where
  /-- Any text. -/
  | text
  /-- One character that lies in one of the ranges, or with `negated` in none of them. -/
  | one (negated : Bool) (ranges : List (Char × Char))
  deriving DecidableEq, Repr

namespace Piece

def char (c : Char) : Piece := one false [(c, c)]

def anyChar : Piece := one true []

end Piece

/-! ### Sets -/

def untilBracket : List Char → Option (List Char × List Char)
  | [] => none
  | c :: rest =>
    if c = ']' then some ([], rest)
    else (untilBracket rest).map fun (before, after) => (c :: before, after)

/-- The members of a set whose opening bracket was just read, and what follows the set. -/
def members? : List Char → Option (List Char × List Char)
  | '!' :: ']' :: rest =>
    (untilBracket rest).map fun (before, after) => ('!' :: ']' :: before, after)
  | ']' :: rest => (untilBracket rest).map fun (before, after) => (']' :: before, after)
  | cs => untilBracket cs

/-- Cuts a text at its first hyphen that has at least `skip` characters before it. -/
def atHyphen : (skip : Nat) → List Char → Option (List Char × List Char)
  | _, [] => none
  | 0, c :: rest =>
    if c = '-' then some ([], rest)
    else (atHyphen 0 rest).map fun (before, after) => (c :: before, after)
  | skip + 1, c :: rest =>
    (atHyphen skip rest).map fun (before, after) => (c :: before, after)

theorem length_atHyphen_lt {skip : Nat} {cs before after : List Char}
    (h : atHyphen skip cs = some (before, after)) : after.length < cs.length := by
  induction cs generalizing skip before with
  | nil => cases skip <;> simp [atHyphen] at h
  | cons c rest ih =>
    cases skip with
    | zero =>
      unfold atHyphen at h
      split at h
      · simp only [Option.some.injEq, Prod.mk.injEq] at h
        simp [h.2]
      · obtain ⟨⟨b, a⟩, hr, he⟩ := Option.map_eq_some_iff.1 h
        simp only [Prod.mk.injEq] at he
        have := ih (he.2 ▸ hr)
        simp only [List.length_cons]
        omega
    | succ skip =>
      unfold atHyphen at h
      obtain ⟨⟨b, a⟩, hr, he⟩ := Option.map_eq_some_iff.1 h
      simp only [Prod.mk.injEq] at he
      have := ih (he.2 ▸ hr)
      simp only [List.length_cons]
      omega

/-- The members of a set as runs between the hyphens that make ranges. A hyphen at the very end is a
member of the last run. -/
def runs (skip : Nat) (cs : List Char) : List (List Char) :=
  match _cut : atHyphen skip cs with
  | none => [cs]
  | some (run, rest) => if rest.isEmpty then [run ++ ['-']] else run :: runs 2 rest
termination_by cs.length
decreasing_by exact length_atHyphen_lt _cut

/-- Puts a run before others; if their range is in the wrong order, its ends are dropped. -/
def joinRun (run : List Char) : List (List Char) → List (List Char)
  | [] => [run]
  | next :: others =>
    match run.getLast?, next.head? with
    | some low, some high =>
      if high < low then (run.dropLast ++ next.tail) :: others else run :: next :: others
    | _, _ => run :: next :: others

/-- The ranges of a set that is given by runs. A single character is a range too; a hyphen with
nothing before it is a member. -/
def rangesOf : List (List Char) → List (Char × Char)
  | [] => []
  | [run] => run.map fun c => (c, c)
  | run :: next :: others =>
    let between := match run.getLast?, next.head? with
      | some low, some high => [(low, high)]
      | none, _ => [('-', '-')]
      | _, none => []
    run.map (fun c => (c, c)) ++ between ++ rangesOf (next :: others)

def setPiece (members : List Char) : Piece :=
  let skip := if members.head? = some '!' then 2 else 1
  match (runs skip members).foldr joinRun [] with
  | ('!' :: run) :: others => .one true (rangesOf (run :: others))
  | rs => .one false (rangesOf rs)

/-! ### Patterns -/

theorem length_untilBracket_lt {cs before after : List Char}
    (h : untilBracket cs = some (before, after)) : after.length < cs.length := by
  induction cs generalizing before with
  | nil => simp [untilBracket] at h
  | cons c rest ih =>
    unfold untilBracket at h
    split at h
    · simp only [Option.some.injEq, Prod.mk.injEq] at h
      simp [h.2]
    · obtain ⟨⟨b, a⟩, hr, he⟩ := Option.map_eq_some_iff.1 h
      simp only [Prod.mk.injEq] at he
      have := ih (he.2 ▸ hr)
      simp only [List.length_cons]
      omega

theorem length_members?_lt {cs before after : List Char}
    (h : members? cs = some (before, after)) : after.length < cs.length := by
  unfold members? at h
  split at h
  · obtain ⟨⟨b, a⟩, hr, he⟩ := Option.map_eq_some_iff.1 h
    simp only [Prod.mk.injEq] at he
    have := length_untilBracket_lt (he.2 ▸ hr)
    simp only [List.length_cons]
    omega
  · obtain ⟨⟨b, a⟩, hr, he⟩ := Option.map_eq_some_iff.1 h
    simp only [Prod.mk.injEq] at he
    have := length_untilBracket_lt (he.2 ▸ hr)
    simp only [List.length_cons]
    omega
  · exact length_untilBracket_lt h

def pieces : List Char → List Piece
  | [] => []
  | c :: rest =>
    if c = '*' then .text :: pieces rest
    else if c = '?' then .anyChar :: pieces rest
    else if c = '[' then
      match _set : members? rest with
      | some (members, after) => setPiece members :: pieces after
      | none => .char c :: pieces rest
    else .char c :: pieces rest
termination_by cs => cs.length
decreasing_by
  all_goals simp only [List.length_cons]
  all_goals first | omega | exact Nat.lt_succ_of_lt (length_members?_lt _set)

/-! ### Acceptance -/

/-- One of the ends of a text, from the whole text to the empty one, has a property. -/
def someEnd (p : List Char → Bool) : List Char → Bool
  | [] => p []
  | c :: rest => p (c :: rest) || someEnd p rest

/-- The texts that a list of pieces accepts. -/
def accept : List Piece → List Char → Bool
  | [], cs => cs.isEmpty
  | .text :: ps, cs => someEnd (accept ps) cs
  | .one .. :: _, [] => false
  | .one negated ranges :: ps, c :: cs =>
    (ranges.any (fun (low, high) => low ≤ c && c ≤ high) != negated) && accept ps cs

end MultiAssign.Glob

namespace MultiAssign

/-- The pattern accepts the text as a whole. -/
def Glob.isMatch (pattern text : String) : Bool :=
  Glob.accept (Glob.pieces pattern.toList) text.toList

end MultiAssign
