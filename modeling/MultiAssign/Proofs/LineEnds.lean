import MultiAssign.Proofs.SoundEdits
import MultiAssign.Proofs.Passes
import MultiAssign.Command.Check

/-!
# Line ends

Inside the program lines end in a newline only: a file is read without carriage returns
(`plain_of_textOfBytes`), and no correction brings one in (`Linter.Course.plain`).  So a text that
was corrected and written is read back as it was (`textOfBytes_encode`).

The replacement of an edit is put together from pieces of the source, blanks, newlines, quotes and
words of the language (`Split.plain_edit`).
-/

namespace MultiAssign

def Plain (text : List Char) : Prop := '\r' ∉ text

instance (text : List Char) : Decidable (Plain text) := inferInstanceAs (Decidable ('\r' ∉ text))

namespace Plain

variable {a b : List Char}

@[simp] theorem append_iff : Plain (a ++ b) ↔ Plain a ∧ Plain b := by simp [Plain]

@[simp] theorem cons_iff {c : Char} : Plain (c :: b) ↔ c ≠ '\r' ∧ Plain b := by
  simp [Plain, eq_comm]

@[simp] theorem nil : Plain [] := by simp [Plain]

theorem subset (h : Plain b) (hsub : a ⊆ b) : Plain a := fun hr => h (hsub hr)

theorem take (h : Plain a) (n : Nat) : Plain (a.take n) := h.subset (List.take_subset n a)

theorem drop (h : Plain a) (n : Nat) : Plain (a.drop n) := h.subset (List.drop_subset n a)

theorem intercalate {separator : List Char} (h : Plain separator) {texts : List (List Char)}
    (htexts : ∀ text ∈ texts, Plain text) : Plain (separator.intercalate texts) := by
  induction texts with
  | nil => simp
  | cons first rest ih =>
    have hfirst := htexts first List.mem_cons_self
    have hrest := ih fun text htext => htexts text (List.mem_cons_of_mem first htext)
    cases rest with
    | nil => simpa using hfirst
    | cons second rest =>
      rw [List.intercalate_cons_cons]
      simp only [append_iff]
      exact ⟨⟨hfirst, h⟩, hrest⟩

end Plain

theorem Text.plain_newlines (cs : List Char) : Plain (Text.newlines cs) := by
  fun_induction Text.newlines cs with
  | case1 rest ih => simpa using ih
  | case2 c rest _ ih =>
    rw [Plain.cons_iff]
    refine ⟨?_, ih⟩
    split
    · decide
    · assumption
  | case3 => exact Plain.nil

theorem plain_of_textOfBytes {bytes : List UInt8} {text : String}
    (h : textOfBytes bytes = .ok text) : Plain text.toList := by
  unfold textOfBytes at h
  split at h
  · cases h
    rw [String.toList_ofList]
    exact Text.plain_newlines _
  · cases h

theorem textOfBytes_encode {text : String} (h : Plain text.toList) :
    textOfBytes (Utf8.encode text.toList) = .ok text := by
  rw [textOfBytes, Utf8.decode_encode]
  simp only [Text.newlines_eq_self h, String.ofList_toList]

/-! ### The text of a correction -/

namespace Word

variable {text : List Char}

theorem plain_unescape (delimiter : Option Char) (h : Plain text) :
    Plain (unescape delimiter text) := by
  fun_induction unescape delimiter text with
  | case1 => exact h
  | case2 => exact h
  | case3 c rest hc ih => simp_all
  | case4 c rest hc ih => simp_all
  | case5 c d rest hc ih => simp_all

theorem plain_doubleQuotedBody (depth : Nat) (h : Plain text) :
    Plain (doubleQuotedBody depth text) := by
  fun_induction doubleQuotedBody depth text <;> simp_all

theorem plain_singleQuoted (h : Plain text) : Plain (singleQuoted text) := by
  have hbody : Plain
      (text.flatMap fun c => if c = '\\' ∨ c = Char.ofNat 39 then ['\\', c] else [c]) := by
    intro hr
    obtain ⟨c, hc, hr⟩ := List.mem_flatMap.mp hr
    have hcr : '\r' ≠ c := fun heq => h (heq ▸ hc)
    split at hr <;> simp [hcr] at hr
  unfold singleQuoted
  simp only [Plain.append_iff, Plain.cons_iff]
  exact ⟨⟨by decide, hbody⟩, by decide, Plain.nil⟩

theorem plain_standalone (opening : List Char) (h : Plain text) (isSymbol hasParts : Bool) :
    Plain (standalone opening text isSymbol hasParts) := by
  have hcolon : Plain (if isSymbol then [':'] else []) := by
    split <;> simp
  have hdouble : Plain (doubleQuoted text) := by
    unfold doubleQuoted
    simp [plain_doubleQuotedBody 0 h]
  have hvalue := plain_unescape opening[2]? h
  unfold standalone
  simp only
  split
  · exact Plain.append_iff.mpr ⟨hcolon, hdouble⟩
  · split
    · simp [hvalue]
    · exact Plain.append_iff.mpr ⟨hcolon, plain_singleQuoted hvalue⟩

end Word

section

variable {source : Source} (hsource : Plain source.chars)
include hsource

theorem Source.plain_textOf (span : Span) : Plain (source.textOf span).toList := by
  rw [textOf, String.toList_ofList, slice]
  exact (hsource.take span.stop).drop span.start

theorem Node.plain_sourceIn (n : Node) : Plain (n.sourceIn source).toList := by
  unfold sourceIn
  split
  · exact source.plain_textOf hsource _
  · exact Plain.nil

theorem Node.plain_standalone (opening : List Char) (n : Node) :
    Plain (n.standalone source opening).toList := by
  unfold standalone
  split
  · rw [String.toList_ofList]
    exact Word.plain_standalone opening (plain_sourceIn hsource _) _ _
  · exact plain_sourceIn hsource n

end

namespace Split

variable {r : Split}

theorem plain_spaces (n : Nat) : Plain (spaces n).toList := by
  simp [Plain, spaces]

theorem plain_lines (h : Plain r.source.chars) : ∀ line ∈ r.lines, Plain line.toList := by
  intro line hline
  obtain ⟨pair, _, rfl⟩ := List.mem_map.mp hline
  simp only [String.toList_append, Plain.append_iff]
  exact ⟨⟨Node.plain_sourceIn h _, by decide⟩, Node.plain_standalone h _ _⟩

theorem plain_stacked {indentation : String} (h : Plain indentation.toList) {lines : List String}
    (hlines : ∀ line ∈ lines, Plain line.toList) : Plain (stacked indentation lines).toList := by
  rw [stacked, String.toList_intercalate]
  refine Plain.intercalate ?_ ?_
  · simpa using h
  · simpa using hlines

theorem plain_columnOf {source : Source} {n : Node} {text : String}
    (h : columnOf source n = .ok text) : Plain text.toList := by
  obtain ⟨span, _, rfl⟩ := map_eq_ok_iff.mp h
  exact plain_spaces _

theorem plain_indentation {text : String} (h : r.indentation = .ok text) : Plain text.toList := by
  obtain ⟨offset, hoffset, rfl⟩ := map_eq_ok_iff.mp h
  rw [String.toList_append, Plain.append_iff]
  exact ⟨plain_columnOf hoffset, plain_spaces _⟩

theorem plain_genericText (hsource : Plain r.source.chars) {text : String}
    (h : r.genericText = .ok text) : Plain text.toList := by
  obtain ⟨offset, hoffset, h⟩ := bind_eq_ok_iff.mp h
  cases h
  exact plain_stacked (plain_columnOf hoffset) (plain_lines hsource)

theorem plain_modifierHeader {source : Source} (hsource : Plain source.chars) {guard : Node}
    {text : String} (h : modifierHeader source guard = .ok text) : Plain text.toList := by
  have hheader : ∀ {keyword : Span}, (knownSpan guard >>= fun span =>
      pure (source.textOf ⟨keyword.start, span.stop⟩)) = .ok text → Plain text.toList := by
    intro keyword h
    obtain ⟨span, _, h⟩ := bind_eq_ok_iff.mp h
    cases h
    exact source.plain_textOf hsource _
  unfold modifierHeader at h
  split at h <;> dsimp only at h
  · split at h
    · cases h
    · exact hheader h
  · split at h
    · cases h
    · exact hheader h
  · cases h

theorem plain_modifierText (hsource : Plain r.source.chars) {text : String}
    (h : r.modifierText = .ok text) : Plain text.toList := by
  obtain ⟨indentation, hindentation, h⟩ := bind_eq_ok_iff.mp h
  obtain ⟨guard, _, h⟩ := bind_eq_ok_iff.mp h
  obtain ⟨header, hheader, h⟩ := bind_eq_ok_iff.mp h
  obtain ⟨offset, hoffset, h⟩ := bind_eq_ok_iff.mp h
  cases h
  have hlines := plain_stacked (plain_indentation hindentation) (plain_lines hsource)
  simp only [String.toList_append, Plain.append_iff]
  exact ⟨⟨⟨⟨⟨⟨plain_modifierHeader hsource hheader, by decide⟩, plain_indentation hindentation⟩,
    hlines⟩, by decide⟩, plain_columnOf hoffset⟩, by decide⟩

theorem plain_explicitBegin (hsource : Plain r.source.chars) {handler text : String}
    (hhandler : Plain handler.toList) (h : r.explicitBegin handler = .ok text) :
    Plain text.toList := by
  obtain ⟨indentation, hindentation, h⟩ := bind_eq_ok_iff.mp h
  obtain ⟨offset, hoffset, h⟩ := bind_eq_ok_iff.mp h
  cases h
  have hindentation := plain_indentation hindentation
  have hoffset := plain_columnOf hoffset
  have hlines := plain_stacked hindentation (plain_lines hsource)
  simp only [String.toList_append, Plain.append_iff]
  exact ⟨⟨⟨⟨⟨⟨⟨⟨⟨⟨by decide, hindentation⟩, hlines⟩, by decide⟩, hoffset⟩, by decide⟩,
    hindentation⟩, hhandler⟩, by decide⟩, hoffset⟩, by decide⟩

theorem plain_implicitBegin (hsource : Plain r.source.chars) {guard : Place}
    {handler text : String} (hhandler : Plain handler.toList)
    (h : r.implicitBegin guard handler = .ok text) : Plain text.toList := by
  obtain ⟨lines, hlines, h⟩ := bind_eq_ok_iff.mp h
  split at h
  · cases h
  · obtain ⟨methodOffset, hmethod, h⟩ := bind_eq_ok_iff.mp h
    obtain ⟨offset, hoffset, h⟩ := bind_eq_ok_iff.mp h
    cases h
    simp only [String.toList_append, Plain.append_iff]
    exact ⟨⟨⟨⟨⟨plain_genericText hsource hlines, by decide⟩, plain_columnOf hmethod⟩, by decide⟩,
      plain_columnOf hoffset⟩, hhandler⟩

theorem plain_rescueText (hsource : Plain r.source.chars) {text : String}
    (h : r.rescueText = .ok text) : Plain text.toList := by
  unfold rescueText at h
  split at h
  · dsimp only at h
    split at h
    · exact plain_implicitBegin hsource (Node.plain_sourceIn hsource _) h
    · exact plain_explicitBegin hsource (Node.plain_sourceIn hsource _) h
  · cases h

/-- **An edit of a text without carriage returns brings none in.** -/
theorem plain_edit (hsource : Plain r.source.chars) {strategy : Strategy} {e : Edit}
    (h : r.edit strategy = .ok e) : Plain e.replacement.toList := by
  obtain ⟨span, _, h⟩ := bind_eq_ok_iff.mp h
  obtain ⟨text, htext, h⟩ := bind_eq_ok_iff.mp h
  cases h
  cases strategy with
  | generic => exact plain_genericText hsource htext
  | modifier => exact plain_modifierText hsource htext
  | rescue => exact plain_rescueText hsource htext

end Split

/-! ### The texts of a run -/

theorem Edit.plain_splice {text out : List Char} (htext : Plain text) {edits : List Edit}
    (hedits : ∀ e ∈ edits, Plain e.replacement.toList) {cursor : Nat}
    (h : splice text cursor edits = .ok out) : Plain out := by
  induction edits generalizing cursor out with
  | nil =>
    cases h
    exact htext.drop cursor
  | cons e rest ih =>
    obtain ⟨_, tail, htail, rfl⟩ := splice_cons_eq_ok_iff.mp h
    simp only [Plain.append_iff]
    exact ⟨⟨(htext.take e.start).drop cursor, hedits e List.mem_cons_self⟩,
      ih (fun f hf => hedits f (List.mem_cons_of_mem e hf)) htail⟩

theorem Edit.plain_apply {text out : String} (htext : Plain text.toList) {edits : List Edit}
    (hedits : ∀ e ∈ edits, Plain e.replacement.toList) (h : apply text edits = .ok out) :
    Plain out.toList := by
  obtain ⟨chars, hchars, rfl⟩ := map_eq_ok_iff.mp h
  rw [String.toList_ofList]
  exact plain_splice htext (fun e he => hedits e (mem_of_mem_select he)) hchars

theorem Inspection.plain_of_mem_corrections {i : Inspection} {tree : SyntaxTree}
    (htree : Plain tree.source.chars) {offenses : List Offense}
    (h : (i.run tree true).result = .ok offenses) {e : Edit}
    (he : e ∈ Offense.corrections offenses) : Plain e.replacement.toList := by
  obtain ⟨found, hfound, rfl⟩ := map_eq_ok_iff.mp h
  obtain ⟨o, ho, hcorrection⟩ := List.mem_filterMap.mp he
  obtain ⟨p, _, hcheck⟩ := exists_check_of_mem_checkAll hfound (List.mem_mergeSort.mp ho)
  obtain ⟨order, strategy, hedit⟩ := edit_of_check hcheck hcorrection
  exact Split.plain_edit (r := ⟨tree.source, p, order, i.width⟩) htree hedit

/-- The trees that the parser gives are trees of the texts it was given. -/
def Parser.Faithful (parser : Parser) : Prop :=
  ∀ calls source tree, parser calls source = .ok tree → tree.source = source

/-- **No pass brings a carriage return into a text.** -/
theorem Linter.Course.plain {l : Linter} {name : String} {calls k : Nat} {t : Nat → String}
    {edits : Nat → List Edit} (h : Course l name calls k t edits) (hparser : l.parser.Faithful)
    (hstart : Plain (t 0).toList) : ∀ i ≤ k, Plain (t i).toList := by
  intro i
  induction i with
  | zero => exact fun _ => hstart
  | succ i ih =>
    intro hi
    have htext := ih (by omega)
    obtain ⟨tree, offenses, htree, _, hoffenses, hcorrections⟩ := h.proposes i (by omega)
    have hsource : Plain tree.source.chars := by
      rw [hparser _ _ _ htree]
      exact htext
    refine Edit.plain_apply htext (fun e he => ?_) (h.applied i (by omega))
    rw [← hcorrections] at he
    exact Inspection.plain_of_mem_corrections hsource hoffenses he

end MultiAssign
