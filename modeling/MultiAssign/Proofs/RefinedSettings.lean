import MultiAssign.Proofs.PatternValues

/-!
# Settings on top of a file

The numbers that a user asks for take the place of those in the file, and the patterns are added to
those in the file.  Both happen to the values as they are written; only the result is checked.
`Settings.load_refined` says what that amounts to for the settings themselves.

* `Settings.ofFields_eq_ok_iff`: a record gives settings if each of its fields gives its part, and
  the four have nothing to do with one another.
* `Settings.defects_ofFields`: what is wrong with a record is what is wrong with its fields, and a
  defect names its field (`Value.exists_ok_or_defect`).
* `Choice.settle_of_kept`: **fields that are replaced do not count.**  What is left of the record
  without them gives settings, and these are refined by what the user asks for.

So a file that is right is refined, and a file in which only replaced numbers are wrong is as good
as one without them.
-/

namespace MultiAssign

/-! ### Everything that is wrong -/

namespace Checked

variable {α β : Type}

def defects : Checked α → List Defect
  | ok _ => []
  | defective ds => ds

@[simp] theorem defects_map (f : α → β) (x : Checked α) : (f <$> x).defects = x.defects := by
  cases x <;> rfl

@[simp] theorem defects_seq (f : Checked (α → β)) (x : Checked α) :
    (f <*> x).defects = f.defects ++ x.defects := by
  cases f with
  | ok f => exact defects_map f x
  | defective ds =>
    cases x with
    | ok a => exact (List.append_nil ds).symm
    | defective es => rfl

theorem under_eq_ok_iff {step : Step} {x : Checked α} {a : α} :
    x.under step = .ok a ↔ x = .ok a := by
  cases x <;> simp [under]

end Checked

namespace Value

variable {α : Type} {check : Value → Checked α} {default : α} {name : String}
  {fields others : List (String × Value)}

theorem optional_congr (h : field? fields name = field? others name) :
    optional fields name check default = optional others name check default := by
  rw [optional, optional, h]

theorem exists_ok_or_defect (hcheck : ∀ v, check v ≠ .defective []) :
    (∃ a, optional fields name check default = .ok a) ∨
      ∃ d ∈ (optional fields name check default).defects, d.path.head? = some (.field name) := by
  unfold optional
  cases field? fields name with
  | none => exact Or.inl ⟨default, rfl⟩
  | some v =>
    dsimp only
    cases hv : check v with
    | ok a => exact Or.inl ⟨a, rfl⟩
    | defective ds =>
      cases ds with
      | nil => exact absurd hv (hcheck v)
      | cons d ds =>
        exact Or.inr ⟨{ d with path := .field name :: d.path }, List.mem_cons_self, rfl⟩

end Value

namespace Validator.Lawful

variable {V : Validator} (hV : V.Lawful)
include hV

theorem nat_reports (v : Value) : V.nat v ≠ .defective [] := by
  unfold nat
  cases hv : V.atLeast 0 v with
  | ok n => nofun
  | defective ds =>
    rintro ⟨⟩
    exact hV.atLeast_reports 0 v hv

theorem nat_int (n : Nat) : V.nat (.int n) = .ok n := by
  rw [nat, hV.atLeast_int 0 ⟨n, Nat.zero_le n⟩]
  rfl

theorem texts_of_optional {name : String} {fields : List (String × Value)} {texts : List String}
    (h : Value.optional fields name V.texts [] = .ok texts) :
    (Value.field? fields name).getD (.list []) = .list (texts.map .text) := by
  unfold Value.optional at h
  cases hv : Value.field? fields name with
  | none =>
    rw [hv] at h
    cases h
    rfl
  | some v =>
    rw [hv] at h
    exact (hV.texts_eq_ok_iff v texts).mp (Checked.under_eq_ok_iff.mp h)

end Validator.Lawful

namespace Settings

variable {V : Validator} {fields : List (String × Value)} {s : Settings}

/-- A record gives settings if each of its fields gives its part. -/
theorem ofFields_eq_ok_iff : ofFields V fields = .ok s ↔
    Value.optional fields "enabled" V.truth true = .ok s.enabled ∧
    Value.optional fields "indentation_width" V.nat 2 = .ok s.indentationWidth ∧
    Value.optional fields "max_correction_passes" (V.atLeast 1) ⟨10, by decide⟩ =
      .ok ⟨s.maxPasses, s.maxPasses_pos⟩ ∧
    Value.optional fields "exclude" V.texts [] = .ok s.exclude := by
  obtain ⟨enabled, width, passes, patterns, hpasses⟩ := s
  unfold ofFields
  cases Value.optional fields "enabled" V.truth true <;>
  cases Value.optional fields "indentation_width" V.nat 2 <;>
  cases Value.optional fields "max_correction_passes" (V.atLeast 1) ⟨10, by decide⟩ <;>
  cases Value.optional fields "exclude" V.texts [] <;>
  simp [Functor.map, Seq.seq, Checked.map, Checked.app, Subtype.ext_iff]

theorem defects_ofFields (V : Validator) (fields : List (String × Value)) :
    (ofFields V fields).defects =
    (Value.optional fields "enabled" V.truth true).defects ++
    (Value.optional fields "indentation_width" V.nat 2).defects ++
    (Value.optional fields "max_correction_passes" (V.atLeast 1) ⟨10, by decide⟩).defects ++
    (Value.optional fields "exclude" V.texts []).defects := by
  simp only [ofFields, Checked.defects_seq, Checked.defects_map]

theorem ofRecord_eq_ok_iff : ofRecord V fields = .ok s ↔ ofFields V fields = .ok s := by
  unfold ofRecord
  cases ofFields V fields <;> simp

end Settings

/-! ### What the user asks for -/

/-- What a user asks for beside the file, in values that are right. -/
structure Choice where
  indentationWidth : Option Nat := none
  maxPasses : Option { n : Nat // 1 ≤ n } := none
  /-- Further patterns; without any, those of the file are all. -/
  exclude : List String := []

namespace Choice

variable {V : Validator} (c : Choice) {fields : List (String × Value)} {s t : Settings}

def toOverrides : Overrides where
  indentationWidth := c.indentationWidth.map fun n : Nat => .int n
  maxPasses := c.maxPasses.map fun n => .int n.1
  exclude := .list (c.exclude.map .text)

/-- Settings with the numbers that are chosen in the place of theirs, and further patterns. -/
def refine (s : Settings) : Settings where
  enabled := s.enabled
  indentationWidth := c.indentationWidth.getD s.indentationWidth
  maxPasses := (c.maxPasses.getD ⟨s.maxPasses, s.maxPasses_pos⟩).1
  exclude := s.exclude ++ c.exclude
  maxPasses_pos := (c.maxPasses.getD ⟨s.maxPasses, s.maxPasses_pos⟩).2

/-- The field is a number for which the user has chosen another one. -/
def replaces (name : String) : Bool :=
  name = "indentation_width" && c.indentationWidth.isSome ||
    name = "max_correction_passes" && c.maxPasses.isSome

def kept (fields : List (String × Value)) : List (String × Value) :=
  fields.filter fun f => !c.replaces f.1

theorem field?_kept (fields : List (String × Value)) (name : String) :
    Value.field? (c.kept fields) name =
      if c.replaces name then none else Value.field? fields name := by
  rw [kept, Value.field?_filter name fields fun name => !c.replaces name]
  cases c.replaces name <;> rfl

section

variable {α : Type} {check : Value → Checked α} {default : α} {name : String}

theorem optional_kept (hname : c.replaces name = false) :
    Value.optional (c.kept fields) name check default = Value.optional fields name check default :=
  Value.optional_congr (by rw [field?_kept, hname]; rfl)

/-- If all defects of a field name numbers that are replaced, what is kept of the field is right. -/
theorem exists_optional_kept (hcheck : ∀ v, check v ≠ .defective [])
    (hdefects : ∀ d ∈ (Value.optional fields name check default).defects,
      ∃ n, c.replaces n ∧ d.path.head? = some (.field n)) :
    ∃ a, Value.optional (c.kept fields) name check default = .ok a := by
  by_cases hname : c.replaces name
  · refine ⟨default, ?_⟩
    rw [Value.optional, field?_kept, if_pos hname]
  · rw [c.optional_kept (by simpa using hname)]
    rcases Value.exists_ok_or_defect hcheck with hok | ⟨d, hd, hpath⟩
    · exact hok
    · obtain ⟨n, hn, hpath'⟩ := hdefects d hd
      rw [hpath] at hpath'
      cases hpath'
      exact absurd hn hname

variable {chosen : Option α} {a b : α}

/-- A number that is chosen takes the place of the one in the record, and else that one stays. -/
theorem optional_of_chosen (hreplaces : c.replaces name = chosen.isSome) {write : α → Value}
    (hwrite : ∀ a, check (write a) = .ok a) {record : List (String × Value)}
    (hrecord : Value.field? record name = (chosen.map write).or (Value.field? fields name))
    (ha : Value.optional (c.kept fields) name check default = .ok a) :
    Value.optional record name check default = .ok (chosen.getD a) := by
  cases chosen with
  | none =>
    rw [c.optional_kept hreplaces] at ha
    exact (Value.optional_congr hrecord).trans ha
  | some b =>
    rw [Value.optional, hrecord]
    exact Checked.under_eq_ok_iff.mpr (hwrite b)

/-- It does not matter whether a number that is replaced was there. -/
theorem getD_of_kept (hreplaces : c.replaces name = chosen.isSome)
    (ha : Value.optional (c.kept fields) name check default = .ok a)
    (hb : Value.optional fields name check default = .ok b) : chosen.getD a = chosen.getD b := by
  cases chosen with
  | none =>
    rw [c.optional_kept hreplaces, hb] at ha
    cases ha
    rfl
  | some _ => rfl

end

/-- **A record in which only replaced numbers are wrong is right without them.** -/
theorem exists_ofFields_kept (hV : V.Lawful)
    (hdefects : ∀ d ∈ (Settings.ofFields V fields).defects,
      ∃ name, c.replaces name ∧ d.path.head? = some (.field name)) :
    ∃ s, Settings.ofFields V (c.kept fields) = .ok s := by
  simp only [Settings.defects_ofFields, List.mem_append, or_imp, forall_and] at hdefects
  obtain ⟨⟨⟨henabled, hwidth⟩, hpasses⟩, hexclude⟩ := hdefects
  obtain ⟨enabled, henabled⟩ := c.exists_optional_kept hV.truth_reports henabled
  obtain ⟨width, hwidth⟩ := c.exists_optional_kept hV.nat_reports hwidth
  obtain ⟨passes, hpasses⟩ := c.exists_optional_kept (hV.atLeast_reports 1) hpasses
  obtain ⟨patterns, hexclude⟩ := c.exists_optional_kept hV.texts_reports hexclude
  exact ⟨⟨enabled, width, passes.1, patterns, passes.2⟩,
    Settings.ofFields_eq_ok_iff.mpr ⟨henabled, hwidth, hpasses, hexclude⟩⟩

theorem replaces_enabled : c.replaces "enabled" = false := by simp [replaces]

theorem replaces_exclude : c.replaces "exclude" = false := by simp [replaces]

theorem replaces_indentationWidth :
    c.replaces "indentation_width" = c.indentationWidth.isSome := by simp [replaces]

theorem replaces_maxPasses : c.replaces "max_correction_passes" = c.maxPasses.isSome := by
  simp [replaces]

/-- What is kept of a record that is right is refined to the same. -/
theorem refine_of_kept (hs : Settings.ofFields V fields = .ok s)
    (ht : Settings.ofFields V (c.kept fields) = .ok t) : c.refine t = c.refine s := by
  obtain ⟨henabled, hwidth, hpasses, hexclude⟩ := Settings.ofFields_eq_ok_iff.mp hs
  obtain ⟨henabled', hwidth', hpasses', hexclude'⟩ := Settings.ofFields_eq_ok_iff.mp ht
  rw [c.optional_kept c.replaces_enabled, henabled] at henabled'
  rw [c.optional_kept c.replaces_exclude, hexclude] at hexclude'
  have hwidth := c.getD_of_kept c.replaces_indentationWidth hwidth' hwidth
  have hpasses := c.getD_of_kept c.replaces_maxPasses hpasses' hpasses
  simp only [refine, hwidth, hpasses, Checked.ok.inj henabled', Checked.ok.inj hexclude']

/-- A record with the numbers that are chosen and further patterns gives the refined settings. -/
theorem ofRecord_of_kept (hV : V.Lawful) (hs : Settings.ofFields V (c.kept fields) = .ok s)
    {record : List (String × Value)}
    (hrecord : ∀ name, "exclude" ≠ name →
      Value.field? record name = Value.field? (c.toOverrides.numbered fields) name)
    (hpatterns : Value.optional record "exclude" V.texts [] =
      .ok (s.exclude ++ c.exclude)) :
    Settings.ofRecord V record = .ok (c.refine s) := by
  obtain ⟨henabled, hwidth, hpasses, _⟩ := Settings.ofFields_eq_ok_iff.mp hs
  refine Settings.ofRecord_eq_ok_iff.mpr (Settings.ofFields_eq_ok_iff.mpr ⟨?_, ?_, ?_, hpatterns⟩)
  · rw [c.optional_kept c.replaces_enabled] at henabled
    refine (Value.optional_congr ((hrecord "enabled" (by decide)).trans ?_)).trans henabled
    simp [Overrides.numbered]
  · refine c.optional_of_chosen c.replaces_indentationWidth hV.nat_int ?_ hwidth
    refine (hrecord "indentation_width" (by decide)).trans ?_
    simp [Overrides.numbered, toOverrides]
  · refine c.optional_of_chosen c.replaces_maxPasses (hV.atLeast_int 1) ?_ hpasses
    refine (hrecord "max_correction_passes" (by decide)).trans ?_
    simp [Overrides.numbered, toOverrides]

/-- **What is left of a record without the numbers that are replaced decides**: if it gives
settings, the choice on top of the record gives the refined ones. -/
theorem settle_of_kept (hV : V.Lawful) (hs : Settings.ofRecord V (c.kept fields) = .ok s) :
    c.toOverrides.settle V fields = .ok (c.refine s) := by
  have hs := Settings.ofRecord_eq_ok_iff.mp hs
  have hexclude := (Settings.ofFields_eq_ok_iff.mp hs).2.2.2
  rw [c.optional_kept c.replaces_exclude] at hexclude
  by_cases hnone : c.exclude = []
  · rw [Overrides.settle_of_exclude_nil (by rw [toOverrides, hnone]; rfl)]
    refine c.ofRecord_of_kept hV hs (fun name _ => rfl) ?_
    rw [hnone, List.append_nil, ← hexclude]
    exact Value.optional_congr (Overrides.field?_numbered_exclude _ fields)
  · rw [Overrides.settle_of_exclude_ne_nil rfl hnone, hV.texts_of_optional hexclude]
    refine c.ofRecord_of_kept hV hs (fun name hname => ?_) ?_
    · rw [Settings.field?_setField, if_neg hname]
    · rw [Value.optional, Settings.field?_setField, if_pos rfl, ← List.map_append]
      exact Checked.under_eq_ok_iff.mpr (hV.texts_map_text _)

end Choice

/-! ### Loading -/

namespace Settings

variable {V : Validator} {tree : FileTree} {search : Path} {fields : List (String × Value)}

/-! A file that cannot be read is another matter than a file with wrong values. -/

theorem ofPairs_ne_settingsInvalid (index : Nat) (fields : List (String × Value)) (vs : List Value)
    (defects : List Defect) : ofPairs index fields vs ≠ .error (.settingsInvalid defects) := by
  fun_induction ofPairs index fields vs with
  | case1 | case2 | case4 | case5 | case7 => nofun
  | case3 | case6 => assumption

theorem recordOf_ne_settingsInvalid (v : Value) (defects : List Defect) :
    recordOf v ≠ .error (.settingsInvalid defects) := by
  unfold recordOf
  split
  · nofun
  · split
    · exact ofPairs_ne_settingsInvalid 0 [] _ defects
    · nofun

theorem recordOfBytes_ne_settingsInvalid (path : String) (bytes : List UInt8)
    (defects : List Defect) : recordOfBytes path bytes ≠ .error (.settingsInvalid defects) := by
  unfold recordOfBytes
  split
  · nofun
  · split
    · nofun
    · nofun
    · unfold recordIn
      split
      · exact recordOf_ne_settingsInvalid _ defects
      · nofun

theorem recordFor_ne_settingsInvalid (tree : FileTree) (search : Path) (defects : List Defect) :
    recordFor tree search ≠ .error (.settingsInvalid defects) := by
  unfold recordFor
  split
  · unfold recordAt
    split
    · nofun
    · split
      · nofun
      · exact recordOfBytes_ne_settingsInvalid _ _ defects
  · nofun

theorem load_empty (hfields : recordFor tree search = .ok fields) :
    load V tree search {} = ofRecord V fields := load_eq_settle hfields

/-- **Settings on top of a file refine it field by field.**  If the file alone gives settings, then
a choice on top of it gives the same ones with the numbers that are chosen in the place of theirs,
and with further patterns after theirs.  If the file alone is refused, and all that is wrong with it
are numbers that are replaced, then the rest of the file gives settings, and the choice on top of
the file refines these. -/
theorem load_refined (V : Validator) (hV : V.Lawful) (tree : FileTree) (search : Path)
    (c : Choice) :
    (∀ s, load V tree search {} = .ok s → load V tree search c.toOverrides = .ok (c.refine s)) ∧
    ∀ defects, load V tree search {} = .error (.settingsInvalid defects) →
      (∀ d ∈ defects, ∃ name, c.replaces name ∧ d.path.head? = some (.field name)) →
      ∃ fields s, recordFor tree search = .ok fields ∧ ofRecord V (c.kept fields) = .ok s ∧
        load V tree search c.toOverrides = .ok (c.refine s) := by
  cases hfields : recordFor tree search with
  | error cause =>
    have hload : load V tree search {} = .error cause := by
      rw [load, hfields]
      rfl
    rw [hload]
    refine ⟨nofun, fun defects hdefects => ?_⟩
    cases hdefects
    exact absurd hfields (recordFor_ne_settingsInvalid tree search defects)
  | ok fields =>
    rw [load_empty hfields, load_eq_settle hfields]
    constructor
    · intro s hs
      have hs := ofRecord_eq_ok_iff.mp hs
      obtain ⟨t, ht⟩ : ∃ t, ofFields V (c.kept fields) = .ok t := by
        refine c.exists_ofFields_kept hV ?_
        rw [hs]
        exact nofun
      rw [← c.refine_of_kept hs ht]
      exact c.settle_of_kept hV (ofRecord_eq_ok_iff.mpr ht)
    · intro defects hrefused hdefects
      have hfound : (ofFields V fields).defects = defects := by
        unfold ofRecord at hrefused
        split at hrefused
        · cases hrefused
        · next hdefective =>
          cases hrefused
          rw [hdefective]
          rfl
      obtain ⟨s, hs⟩ := c.exists_ofFields_kept hV (hfound ▸ hdefects)
      have hs := ofRecord_eq_ok_iff.mpr hs
      exact ⟨fields, s, rfl, hs, c.settle_of_kept hV hs⟩

/-- A file with a number that is spelled as a text, and patterns. -/
def spelledLines : FileTree := withLines "indentation_width = \"4\"\nexclude = [\"vendor\"]\n"

def wrongLines : FileTree :=
  withLines "enabled = \"no\"\nindentation_width = -1\nmax_correction_passes = 0\n"

def bothTooSmall : List Defect :=
  [⟨[.field "indentation_width"], .tooSmall⟩, ⟨[.field "max_correction_passes"], .tooSmall⟩]

def bothNumbers : Choice := { indentationWidth := some 0, maxPasses := some ⟨1, by decide⟩ }

/-- The width of the first file stays, and its patterns come first.  The second file is refused, but
not if both its numbers are replaced. -/
theorem load_refined_twoFiles :
    load .lenient spelledLines (Path.ofString ".") {} =
        .ok { indentationWidth := 4, exclude := ["vendor"] } ∧
      load .lenient spelledLines (Path.ofString ".")
          (Choice.toOverrides { maxPasses := some ⟨3, by decide⟩, exclude := ["tmp"] }) =
        .ok { indentationWidth := 4, maxPasses := 3, exclude := ["vendor", "tmp"] } ∧
    load .lenient wrongLines (Path.ofString ".") {} = .error (.settingsInvalid bothTooSmall) ∧
      load .lenient wrongLines (Path.ofString ".") bothNumbers.toOverrides =
        .ok { enabled := false, indentationWidth := 0, maxPasses := 1 } := by
  have hspelled : recordFor spelledLines (Path.ofString ".") =
      .ok [("indentation_width", .text "4"), ("exclude", .list [.text "vendor"])] :=
    recordFor_of_finds (by decide +kernel)
  have hloaded : load .lenient spelledLines (Path.ofString ".") {} =
      .ok { indentationWidth := 4, exclude := ["vendor"] } := by
    rw [load_empty hspelled]
    rfl
  have hwrong : recordFor wrongLines (Path.ofString ".") =
      .ok [("enabled", .text "no"), ("indentation_width", .int (-1)),
        ("max_correction_passes", .int 0)] := recordFor_of_finds (by decide +kernel)
  have hrefused :
      load .lenient wrongLines (Path.ofString ".") {} = .error (.settingsInvalid bothTooSmall) := by
    rw [load_empty hwrong]
    rfl
  have hlawful := Validator.lawful_lenient
  refine ⟨hloaded, (load_refined .lenient hlawful _ _ _).1 _ hloaded, hrefused, ?_⟩
  obtain ⟨fields, s, hfields, hs, hload⟩ :=
    (load_refined .lenient hlawful wrongLines (Path.ofString ".") bothNumbers).2 _ hrefused <|
      List.forall_mem_cons.mpr ⟨⟨"indentation_width", by decide, rfl⟩,
        List.forall_mem_singleton.mpr ⟨"max_correction_passes", by decide, rfl⟩⟩
  have hkept : ofRecord .lenient (bothNumbers.kept [("enabled", .text "no"),
      ("indentation_width", .int (-1)), ("max_correction_passes", .int 0)]) =
        .ok { enabled := false } := rfl
  cases hwrong.symm.trans hfields
  cases hkept.symm.trans hs
  exact hload

end Settings

end MultiAssign
