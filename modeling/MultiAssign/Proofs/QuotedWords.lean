import MultiAssign.Split.Layout
import Mathlib.Data.List.TakeWhile

/-!
# Elements of word arrays as literals

An element of a word array has no quotes of its own.  When it is to stand alone it is quoted anew,
and this file says that the literal then read is the element: `Node.standalone_denotes` for arrays
in which only a few characters can be escaped, `Word.readDouble_doubleQuoted` for arrays with
escapes and interpolation.

Each statement is about a reader of literals, which knows nothing of how they were written.
`Word.readSingle` reads a single-quoted literal, where the backslash and the quote are the only
characters that can be escaped, and gives its value and what follows it.  The value of a
double-quoted literal depends on the code in it, so that `Word.readDouble` gives the pieces it
consists of instead: escapes, interpolations, and characters that stand for themselves.

The one difficulty is that quoting a character changes what stands next to the characters before it.
A piece is therefore read with all that follows it (`Word.Begins.quoted`), and a lone `#` is the
piece to look at: no brace may come to stand behind it that was not there
(`Word.head?_doubleQuotedBody`).
-/

namespace MultiAssign

namespace Word

/-! ### Single-quoted literals -/

/-- The value of a single-quoted literal, from behind its opening quote on, and what follows it. -/
def readSingleBody : List Char → Option (List Char × List Char)
  | [] => none
  | '\\' :: '\\' :: rest => (readSingleBody rest).map fun (value, after) => ('\\' :: value, after)
  | '\\' :: '\x27' :: rest =>
    (readSingleBody rest).map fun (value, after) => ('\x27' :: value, after)
  | '\x27' :: rest => some ([], rest)
  | c :: rest => (readSingleBody rest).map fun (value, after) => (c :: value, after)

/-- The value of the single-quoted literal at the start of a text, and what follows it. -/
def readSingle : List Char → Option (List Char × List Char)
  | '\x27' :: rest => readSingleBody rest
  | _ => none

/-- **A value that was quoted is read back**, whatever follows the literal. -/
theorem readSingle_singleQuoted (value after : List Char) :
    readSingle (singleQuoted value ++ after) = some (value, after) := by
  have hquote : Char.ofNat 39 = '\x27' := by decide
  simp only [singleQuoted, hquote, List.cons_append, List.append_assoc, List.nil_append, readSingle]
  induction value with
  | nil => simp [readSingleBody]
  | cons c rest ih =>
    rw [List.flatMap_cons, List.append_assoc]
    by_cases hslash : c = '\\'
    · subst hslash
      simp [readSingleBody, ih]
    · by_cases hc : c = '\x27'
      · subst hc
        simp [readSingleBody, ih]
      · simp [readSingleBody, hslash, hc, ih]

theorem length_lt_length_singleQuoted (value : List Char) :
    value.length < (singleQuoted value).length := by
  induction value with
  | nil => decide
  | cons c rest ih =>
    simp only [singleQuoted, List.flatMap_cons, List.length_cons, List.length_append] at ih ⊢
    split
    · simp only [List.length_cons]
      omega
    · simp only [List.length_cons]
      omega

/-! ### Symbols without quotes -/

/-- An identifier of ASCII letters, digits and underscores, with at most one mark behind it. -/
def PlainName (value : List Char) : Prop :=
  ∃ c name mark, value = c :: name ++ mark ∧ (c.isAlpha ∨ c = '_') ∧
    (∀ d ∈ name, d.isAlphanum ∨ d = '_') ∧
    (mark = [] ∨ mark = ['?'] ∨ mark = ['!'] ∨ mark = ['='])

theorem isPlainSymbol_iff {value : List Char} : isPlainSymbol value = true ↔ PlainName value := by
  constructor
  · intro h
    cases value with
    | nil => cases h
    | cons c rest =>
      rw [isPlainSymbol, Bool.and_eq_true] at h
      refine ⟨c, rest.takeWhile isNameChar, rest.dropWhile isNameChar, ?_, ?_, ?_, ?_⟩
      · rw [List.cons_append, List.takeWhile_append_dropWhile]
      · simpa [isNameStart] using h.1
      · intro d hd
        simpa [isNameChar] using List.mem_takeWhile_imp hd
      · have hmark := h.2
        split at hmark
        · exact Or.inl ‹_›
        · next mark hdrop =>
          rw [hdrop]
          simpa [or_assoc] using hmark
        · cases hmark
  · rintro ⟨c, name, mark, rfl, hc, hname, hmark⟩
    have hdrop : (name ++ mark).dropWhile isNameChar = mark := by
      rw [List.dropWhile_append_of_pos fun d hd => by simpa [isNameChar] using hname d hd]
      rcases hmark with rfl | rfl | rfl | rfl <;> rfl
    rw [List.cons_append, isPlainSymbol, hdrop, Bool.and_eq_true]
    refine ⟨by simpa [isNameStart] using hc, ?_⟩
    rcases hmark with rfl | rfl | rfl | rfl <;> rfl

/-! ### Elements whose array takes few escapes -/

/-- Where escapes are not interpreted, or there is nothing to interpret, an element is written by
its value: as a symbol without quotes if it can be, and otherwise in single quotes. -/
theorem standalone_of_raw {opening element : List Char} (isSymbol : Bool)
    (hraw : (opening[1]? ≠ some 'W' ∧ opening[1]? ≠ some 'I') ∨
      ('\\' ∉ element ∧ '#' ∉ element)) :
    standalone opening element isSymbol false =
      if isSymbol && isPlainSymbol (unescape opening[2]? element) then
        ':' :: unescape opening[2]? element
      else (if isSymbol then [':'] else []) ++ singleQuoted (unescape opening[2]? element) := by
  have hcond : ((opening[1]? == some 'W' || opening[1]? == some 'I') &&
      (element.contains '\\' || element.contains '#')) = false := by
    rcases hraw with ⟨hW, hI⟩ | ⟨hslash, hhash⟩
    · simp [hW, hI]
    · simp [hslash, hhash]
  simp only [standalone, Bool.false_or, hcond]
  rfl

end Word

/-- **An element that is quoted anew keeps its value.**  The element has no interpolation, and its
array takes no escapes but those of blanks, backslashes and delimiters, or it has nothing in it that
another array would interpret.  Then what is written for it is one literal that has its value: in
single quotes for a string; for a symbol a colon and the value itself, exactly if that is a plain
name, and a colon and the value in single quotes otherwise. -/
theorem Node.standalone_denotes {source : Source} {opening text : List Char} {span : Option Span}
    {kind : LiteralKind} {written : String}
    (htext : ((Node.literal span kind written [] false).sourceIn source).toList = text)
    (hraw : (opening[1]? ≠ some 'W' ∧ opening[1]? ≠ some 'I') ∨ ('\\' ∉ text ∧ '#' ∉ text)) :
    let value := Word.unescape opening[2]? text
    let out := ((Node.literal span kind written [] false).standalone source opening).toList
    (kind = .string → Word.readSingle out = some (value, [])) ∧
    (kind = .symbol →
      (out = ':' :: value ↔ Word.PlainName value) ∧
      (¬ Word.PlainName value →
        ∃ quoted, out = ':' :: quoted ∧ Word.readSingle quoted = some (value, []))) := by
  intro value out
  have hread : Word.readSingle (Word.singleQuoted value) = some (value, []) := by
    simpa using Word.readSingle_singleQuoted value []
  have hout : out = Word.standalone opening text (kind == .symbol) false := by
    rw [← htext]
    simp [out, Node.standalone]
  rw [Word.standalone_of_raw _ hraw] at hout
  refine ⟨?_, ?_⟩
  · rintro rfl
    rw [hout]
    exact hread
  · rintro rfl
    by_cases hplain : Word.PlainName value
    · have hbare : out = ':' :: value := by
        rw [hout, Word.isPlainSymbol_iff.mpr hplain]
        rfl
      exact ⟨⟨fun _ => hplain, fun _ => hbare⟩, fun h => absurd hplain h⟩
    · have hquoted : out = ':' :: Word.singleQuoted value := by
        rw [hout, Bool.eq_false_iff.mpr fun h => hplain (Word.isPlainSymbol_iff.mp h)]
        rfl
      refine ⟨⟨fun hbare => ?_, fun h => absurd h hplain⟩, fun _ => ⟨_, hquoted, hread⟩⟩
      -- a value in quotes is longer than the value
      have hlength := Word.length_lt_length_singleQuoted value
      rw [hquoted, List.cons.injEq] at hbare
      rw [hbare.2] at hlength
      exact absurd hlength (Nat.lt_irrefl _)

/-- A symbol with a quote, an escaped delimiter and a backslash at its end. -/
theorem Node.standalone_denotes_symbol :
    let source := Source.ofString "%i[it's\\]\\\\]" "x.rb"
    let node := Node.literal (some ⟨3, 11⟩) .symbol "it's\\]\\\\" [] false
    (node.sourceIn source).toList = "it's\\]\\\\".toList ∧
      Word.unescape (some '[') "it's\\]\\\\".toList = "it's]\\".toList ∧
      ∃ quoted, (node.standalone source "%i[".toList).toList = ':' :: quoted ∧
        Word.readSingle quoted = some ("it's]\\".toList, []) := by
  intro source node
  have htext : (node.sourceIn source).toList = "it's\\]\\\\".toList := by decide
  have hvalue : Word.unescape (some '[') "it's\\]\\\\".toList = "it's]\\".toList := by decide
  have hplain : ¬ Word.PlainName "it's]\\".toList := by
    rw [← Word.isPlainSymbol_iff]
    decide
  obtain ⟨_, hsymbol⟩ := @Node.standalone_denotes source "%i[".toList _ _ _ _ htext (by decide)
  refine ⟨htext, hvalue, ?_⟩
  rw [← hvalue] at hplain ⊢
  exact (hsymbol rfl).2 hplain

namespace Word

/-! ### Pieces of double-quoted literals -/

/-- What a text with escapes and interpolation consists of. -/
inductive Piece where
  /-- A backslash and the character behind it. -/
  | escape (c : Char)
  /-- The code between the braces of an interpolation. -/
  | code (text : List Char)
  /-- A backslash behind which nothing follows. -/
  | lastBackslash
  /-- Any other character. -/
  | char (c : Char)
  deriving DecidableEq, Repr

/-- How many of the braces that are opened in a text, after `depth` others, are still open at its
end; nothing if one is closed that was not opened. -/
def openBraces : Nat → List Char → Option Nat
  | depth, [] => some depth
  | depth, '\x7d' :: rest =>
    match depth with
    | 0 => none
    | depth + 1 => openBraces depth rest
  | depth, '\x7b' :: rest => openBraces (depth + 1) rest
  | depth, _ :: rest => openBraces depth rest

/-- The text before the brace that closes one more than `depth` open braces, and what follows it. -/
def untilClosed : Nat → List Char → Option (List Char × List Char)
  | _, [] => none
  | depth, '\x7d' :: rest =>
    match depth with
    | 0 => some ([], rest)
    | depth + 1 => (untilClosed depth rest).map fun (code, after) => ('\x7d' :: code, after)
  | depth, '\x7b' :: rest =>
    (untilClosed (depth + 1) rest).map fun (code, after) => ('\x7b' :: code, after)
  | depth, c :: rest => (untilClosed depth rest).map fun (code, after) => (c :: code, after)

/-- **The code of an interpolation has its braces in balance**, and any such code is read up to the
brace behind it. -/
theorem untilClosed_eq_some_iff {depth : Nat} {cs code after : List Char} :
    untilClosed depth cs = some (code, after) ↔
      cs = code ++ '\x7d' :: after ∧ openBraces depth code = some 0 := by
  fun_induction untilClosed depth cs generalizing code with
  | case1 depth => simp
  | case2 rest =>
    cases code with
    | nil => simp [openBraces, eq_comm]
    | cons d code =>
      by_cases hd : d = '\x7d'
      · subst hd
        simp [openBraces]
      · simp [Ne.symm hd]
  | case3 depth rest ih =>
    cases code with
    | nil => simp [openBraces]
    | cons d code =>
      by_cases hd : d = '\x7d'
      · subst hd
        simp [openBraces, ← ih]
      · simp [Ne.symm hd]
  | case4 depth rest ih =>
    cases code with
    | nil => simp
    | cons d code =>
      by_cases hd : d = '\x7b'
      · subst hd
        simp [openBraces, ← ih]
      · simp [Ne.symm hd]
  | case5 depth c rest hclose hopen ih =>
    cases code with
    | nil =>
      have hc : c ≠ '\x7d' := hclose
      simp [hc]
    | cons d code =>
      by_cases hd : d = c
      · subst hd
        simp [openBraces, ← ih]
      · simp [Ne.symm hd]

/-- A text begins with a piece, and what follows it. -/
inductive Begins : List Char → Piece → List Char → Prop where
  | escape (c : Char) (rest : List Char) : Begins ('\\' :: c :: rest) (.escape c) rest
  | code {text : List Char} (balanced : openBraces 0 text = some 0) (rest : List Char) :
    Begins ('#' :: '\x7b' :: text ++ '\x7d' :: rest) (.code text) rest
  | lastBackslash : Begins ['\\'] .lastBackslash []
  | char {c : Char} {rest : List Char} (noEscape : c ≠ '\\')
    (noCode : c = '#' → rest.head? ≠ some '\x7b') : Begins (c :: rest) (.char c) rest

def next : List Char → Option (Piece × List Char)
  | [] => none
  | ['\\'] => some (.lastBackslash, [])
  | '\\' :: c :: rest => some (.escape c, rest)
  | '#' :: '\x7b' :: rest => (untilClosed 0 rest).map fun (code, after) => (.code code, after)
  | c :: rest => some (.char c, rest)

theorem next_eq_some_iff {cs rest : List Char} {piece : Piece} :
    next cs = some (piece, rest) ↔ Begins cs piece rest := by
  constructor
  · intro h
    unfold next at h
    split at h
    · cases h
    · cases h
      exact .lastBackslash
    · cases h
      exact .escape _ _
    · obtain ⟨⟨code, after⟩, hclosed, heq⟩ := Option.map_eq_some_iff.mp h
      cases heq
      obtain ⟨rfl, hcode⟩ := untilClosed_eq_some_iff.mp hclosed
      exact .code hcode _
    · next c rest' hlast hescape hcode =>
      cases h
      refine .char ?_ ?_
      · rintro rfl
        cases rest with
        | nil => exact hlast rfl rfl
        | cons d rest => exact hescape d rest rfl rfl
      · intro hc hbrace
        cases rest with
        | nil => cases hbrace
        | cons d rest =>
          cases hbrace
          exact hcode rest hc rfl
  · intro h
    cases h with
    | escape c => rfl
    | code balanced =>
      have hclosed := untilClosed_eq_some_iff.mpr
        ⟨Eq.refl (_ ++ '\x7d' :: rest), balanced⟩
      simp [next, hclosed]
    | lastBackslash => rfl
    | @char c rest noEscape noCode =>
      rw [next.eq_5]
      · exact fun hc _ => noEscape hc
      · exact fun _ _ hc _ => noEscape hc
      · rintro rest' hc rfl
        exact noCode hc rfl

theorem Begins.length_lt {cs rest : List Char} {piece : Piece} (h : Begins cs piece rest) :
    rest.length < cs.length := by
  cases h with
  | escape | lastBackslash | char =>
    simp only [List.length_cons, List.length_nil]
    omega
  | code =>
    simp only [List.length_append, List.length_cons]
    omega

def pieces (cs : List Char) : Option (List Piece) :=
  if cs.isEmpty then some []
  else
    match _ : next cs with
    | none => none
    | some (piece, rest) => (pieces rest).map (piece :: ·)
termination_by cs.length
decreasing_by exact (next_eq_some_iff.mp ‹_›).length_lt

/-- The pieces of a double-quoted literal, from behind its opening quote on, and what follows it. -/
def readDoubleBody (cs : List Char) : Option (List Piece × List Char) :=
  match _ : next cs with
  | none => none
  | some (piece, rest) =>
    if piece = .char '"' then some ([], rest)
    else (readDoubleBody rest).map fun (ps, after) => (piece :: ps, after)
termination_by cs.length
decreasing_by exact (next_eq_some_iff.mp ‹_›).length_lt

/-- The pieces of the double-quoted literal at the start of a text, and what follows it. -/
def readDouble : List Char → Option (List Piece × List Char)
  | '"' :: rest => readDoubleBody rest
  | _ => none

/-- A piece of an element as a piece of a double-quoted literal. -/
def Piece.requoted : Piece → Piece
  | .char '"' => .escape '"'
  | .escape '\n' => .escape 'n'
  | .lastBackslash => .escape '\\'
  | piece => piece

/-! ### Reading what was quoted -/

/-- The code of an interpolation is copied, and its closing brace ends the copying. -/
theorem doubleQuotedBody_code {depth : Nat} {code : List Char}
    (h : openBraces depth code = some 0) (rest : List Char) :
    doubleQuotedBody (depth + 1) (code ++ '\x7d' :: rest) =
      code ++ '\x7d' :: doubleQuotedBody 0 rest := by
  fun_induction openBraces depth code with
  | case1 depth =>
    cases h
    simp [doubleQuotedBody]
  | case2 => cases h
  | case3 depth code ih => simp [doubleQuotedBody, ih h]
  | case4 depth code ih => simp [doubleQuotedBody, ih h]
  | case5 depth c code hclose hopen ih =>
    have hc : c ≠ '\x7d' := hclose
    have hc' : c ≠ '\x7b' := hopen
    simp [doubleQuotedBody, hc, hc', ih h]

theorem doubleQuotedBody_escape {c : Char} (hc : c ≠ '\n') (rest : List Char) :
    doubleQuotedBody 0 ('\\' :: c :: rest) = '\\' :: c :: doubleQuotedBody 0 rest := by
  rw [doubleQuotedBody]
  exact hc

theorem doubleQuotedBody_char {c : Char} {rest : List Char} (noEscape : c ≠ '\\')
    (noCode : c = '#' → rest.head? ≠ some '\x7b') :
    doubleQuotedBody 0 (c :: rest) =
      (if c = '"' then ['\\', '"'] else [c]) ++ doubleQuotedBody 0 rest := by
  rw [doubleQuotedBody]
  · split <;> rfl
  · exact fun hc => absurd hc noEscape
  · exact fun _ hc => absurd hc noEscape
  · exact fun _ _ hc => absurd hc noEscape
  · rintro rest' hc rfl
    exact noCode hc rfl

theorem head?_doubleQuotedBody (c : Char) (rest : List Char) :
    (doubleQuotedBody 0 (c :: rest)).head? = some (if c = '"' then '\\' else c) := by
  by_cases hc : c = '\\'
  · subst hc
    cases rest with
    | nil => rfl
    | cons d rest =>
      by_cases hd : d = '\n'
      · subst hd
        simp [doubleQuotedBody]
      · simp [doubleQuotedBody_escape hd]
  · by_cases hcode : c = '#' ∧ rest.head? = some '\x7b'
    · obtain ⟨rfl, hbrace⟩ := hcode
      obtain ⟨rest, rfl⟩ := List.head?_eq_some_iff.mp hbrace
      simp [doubleQuotedBody]
    · rw [doubleQuotedBody_char hc fun hhash hbrace => hcode ⟨hhash, hbrace⟩]
      split <;> rfl

/-- **A piece of an element is read again, as a piece of the literal.** -/
theorem Begins.quoted {cs rest : List Char} {piece : Piece} (h : Begins cs piece rest)
    (after : List Char) :
    Begins (doubleQuotedBody 0 cs ++ '"' :: after) piece.requoted
      (doubleQuotedBody 0 rest ++ '"' :: after) := by
  cases h with
  | escape c =>
    by_cases hc : c = '\n'
    · subst hc
      exact .escape 'n' _
    · have hrequoted : (Piece.escape c).requoted = .escape c := by simp [Piece.requoted, hc]
      rw [doubleQuotedBody_escape hc, hrequoted]
      exact .escape c _
  | @code text balanced =>
    have hcopied : doubleQuotedBody 0 ('#' :: '\x7b' :: text ++ '\x7d' :: rest) =
        '#' :: '\x7b' :: text ++ '\x7d' :: doubleQuotedBody 0 rest := by
      simp [doubleQuotedBody, doubleQuotedBody_code balanced]
    rw [hcopied, List.append_assoc]
    exact .code balanced _
  | lastBackslash => exact .escape '\\' _
  | @char c rest noEscape noCode =>
    rw [doubleQuotedBody_char noEscape noCode]
    by_cases hc : c = '"'
    · subst hc
      exact .escape '"' _
    · have hrequoted : (Piece.char c).requoted = .char c := by simp [Piece.requoted, hc]
      rw [hrequoted, if_neg hc, List.singleton_append, List.cons_append]
      refine .char noEscape fun hhash => ?_
      -- what follows the `#` starts as it did, or with a backslash, or with the closing quote
      cases rest with
      | nil => simp [doubleQuotedBody]
      | cons d rest =>
        have hd : d ≠ '\x7b' := by simpa using noCode hhash
        rw [List.head?_append, head?_doubleQuotedBody]
        split <;> simp [hd]

/-- No piece of the literal is a bare quote, so none of them ends it. -/
theorem Piece.requoted_ne_quote (piece : Piece) : piece.requoted ≠ .char '"' := by
  unfold requoted
  split
  · simp
  · simp
  · simp
  · next hquote _ _ => exact hquote

theorem readDoubleBody_doubleQuotedBody {cs : List Char} {ps : List Piece} (h : pieces cs = some ps)
    (after : List Char) :
    readDoubleBody (doubleQuotedBody 0 cs ++ '"' :: after) =
      some (ps.map Piece.requoted, after) := by
  fun_induction pieces cs generalizing ps with
  | case1 cs hempty =>
    cases h
    obtain rfl := List.isEmpty_iff.mp hempty
    rw [doubleQuotedBody, List.nil_append, readDoubleBody]
    rfl
  | case2 cs hempty hnext => cases h
  | case3 cs hempty piece rest hnext ih =>
    obtain ⟨qs, hqs, rfl⟩ := Option.map_eq_some_iff.mp h
    have hquoted := next_eq_some_iff.mpr ((next_eq_some_iff.mp hnext).quoted after)
    rw [readDoubleBody, hquoted]
    simp [piece.requoted_ne_quote, ih hqs]

/-- **The literal of an element has the pieces of the element**, each quoted for itself, and ends
with its last quote. -/
theorem readDouble_doubleQuoted {element : List Char} {ps : List Piece}
    (h : pieces element = some ps) :
    readDouble (doubleQuoted element) = some (ps.map Piece.requoted, []) := by
  rw [doubleQuoted, List.cons_append, readDouble]
  exact readDoubleBody_doubleQuotedBody h []

/-- Quotes, a `#` before a quote, nested braces with a quote in them, a joined line and a backslash
at the very end. -/
theorem readDouble_doubleQuoted_adjacent :
    pieces "\"#\"#\x7b\x7b\"\x7d\x7d\\\n\\".toList =
        some [.char '"', .char '#', .char '"', .code "\x7b\"\x7d".toList, .escape '\n',
          .lastBackslash] ∧
      readDouble (doubleQuoted "\"#\"#\x7b\x7b\"\x7d\x7d\\\n\\".toList) =
        some ([.escape '"', .char '#', .escape '"', .code "\x7b\"\x7d".toList, .escape 'n',
          .escape '\\'], []) := by
  have h : pieces "\"#\"#\x7b\x7b\"\x7d\x7d\\\n\\".toList =
      some [.char '"', .char '#', .char '"', .code "\x7b\"\x7d".toList, .escape '\n',
        .lastBackslash] := by
    decide +kernel
  exact ⟨h, readDouble_doubleQuoted h⟩

end Word

end MultiAssign
