import MultiAssign.Proofs.LenientValues
import MultiAssign.Settings.Load

/-!
# Patterns that are no list of texts

The value of `exclude` in a file of settings should be a list of texts, and everything else should
be refused. It is checked after the patterns of the user were added to it, and adding takes a value
apart before anything looks at what it is. So what a wrong value leads to depends on what is added.

* `Settings.ofFields_eq_seq`: the patterns are checked last and apart from the other fields, so a
  record is settled by what it gives without its patterns and by the patterns alone.
* `Settings.ofRecord_of_texts`, `Settings.ofRecord_of_not_isTexts`: as long as nothing is added, a
  list of texts is accepted as it is, and everything else is refused by its name.
* `Overrides.settle_of_exclude_ne_nil`: with patterns to add, the value is taken apart first.
* `Overrides.settle_of_pieces?`: **a text or a table is then accepted**. The characters of the text,
  or the keys of the table, become patterns.
* `Settings.load_wrong_patterns_iff`: when a wrong value is refused, when it is accepted and as
  what, and when it stops the merge. `Settings.load_vendor_taken_apart` has both ways around a
  refusal.
-/

namespace MultiAssign

/-! ## Looking a field up -/

namespace Value

variable (name : String) (fields : List (String × Value)) (other : String)

@[simp] theorem field?_nil : field? [] name = none := rfl

theorem field?_cons (f : String × Value) :
    field? (f :: fields) name = if f.1 = name then some f.2 else field? fields name := by
  unfold field?
  by_cases hf : f.1 = name <;> simp [hf]

theorem field?_append (more : List (String × Value)) :
    field? (fields ++ more) name = (field? fields name).or (field? more name) := by
  simp [field?, List.find?_append, Option.map_or]

theorem field?_filter (keep : String → Bool) :
    field? (fields.filter fun f => keep f.1) name =
      if keep name then field? fields name else none := by
  induction fields with
  | nil => simp
  | cons f fields ih =>
    rw [List.filter_cons, field?_cons]
    by_cases hf : keep f.1
    · rw [if_pos hf, field?_cons, ih]
      grind
    · rw [if_neg hf, ih]
      grind

def leaveOut : List (String × Value) := fields.filter (·.1 != name)

@[simp] theorem field?_leaveOut :
    field? (leaveOut name fields) other = if name = other then none else field? fields other := by
  rw [leaveOut, field?_filter other fields (· != name)]
  by_cases ho : name = other
  · simp [ho]
  · simp [ho, Ne.symm ho]

end Value

namespace Settings

variable (name : String) (v : Value) (fields : List (String × Value)) (other : String)

theorem field?_replace :
    Value.field? (Toml.replace name v fields) other =
      if name = other then (Value.field? fields name).map fun _ => v
      else Value.field? fields other := by
  induction fields with
  | nil => simp [Toml.replace]
  | cons f fields ih =>
    unfold Toml.replace at ih ⊢
    simp only [List.map_cons, Value.field?_cons, ih]
    grind

@[simp] theorem field?_setField :
    Value.field? (setField fields name v) other =
      if name = other then some v else Value.field? fields other := by
  unfold setField
  split
  case h_1 w hw => rw [field?_replace, hw, Option.map_some]
  case h_2 hnone =>
    rw [Value.field?_append, Value.field?_cons, Value.field?_nil]
    by_cases ho : name = other
    · simp [← ho, hnone]
    · simp [ho]

end Settings

/-! ## The check of the patterns -/

def Value.IsTexts (v : Value) : Prop := ∃ texts : List String, v = .list (texts.map .text)

namespace Validator.Lawful

variable {V : Validator} (hV : V.Lawful) {v : Value}
include hV

theorem texts_map_text (texts : List String) : V.texts (.list (texts.map .text)) = .ok texts :=
  (hV.texts_eq_ok_iff _ _).mpr rfl

theorem texts_of_not_isTexts (h : ¬ v.IsTexts) : ∃ d ds, V.texts v = .defective (d :: ds) := by
  cases hv : V.texts v with
  | ok texts => exact absurd ⟨texts, (hV.texts_eq_ok_iff v texts).mp hv⟩ h
  | defective ds =>
    cases ds with
    | nil => exact absurd hv (hV.texts_reports v)
    | cons d ds => exact ⟨d, ds, rfl⟩

end Validator.Lawful

namespace Settings

variable {V : Validator} {fields others : List (String × Value)} {v : Value} {texts : List String}

theorem ofFields_congr (h : ∀ name, Value.field? fields name = Value.field? others name) :
    ofFields V fields = ofFields V others := by
  simp only [ofFields, Value.optional, h]

theorem ofRecord_congr (h : ∀ name, Value.field? fields name = Value.field? others name) :
    ofRecord V fields = ofRecord V others := by
  unfold ofRecord
  rw [ofFields_congr h]

/-- The patterns are checked last and apart from the other fields. -/
theorem ofFields_eq_seq (V : Validator) (fields : List (String × Value)) :
    ofFields V fields =
      (fun (s : Settings) patterns => { s with exclude := patterns })
        <$> ofFields V (Value.leaveOut "exclude" fields)
        <*> Value.optional fields "exclude" V.texts [] := by
  unfold ofFields
  have hkept (name : String) (hname : "exclude" ≠ name) {α : Type} (check : Value → Checked α)
      (default : α) : Value.optional (Value.leaveOut "exclude" fields) name check default =
        Value.optional fields name check default := by
    simp only [Value.optional, Value.field?_leaveOut, if_neg hname]
  have hleft : Value.optional (Value.leaveOut "exclude" fields) "exclude" V.texts [] = .ok [] := by
    simp [Value.optional]
  rw [hkept _ (by decide), hkept _ (by decide), hkept _ (by decide), hleft]
  cases Value.optional fields "enabled" V.truth true <;>
  cases Value.optional fields "indentation_width" V.nat 2 <;>
  cases Value.optional fields "max_correction_passes" (V.atLeast 1) ⟨10, by decide⟩ <;>
  cases Value.optional fields "exclude" V.texts [] <;> rfl

/-- A record whose patterns are texts gives what it gives without them, and the patterns. -/
theorem ofRecord_of_texts (hV : V.Lawful)
    (hv : Value.field? fields "exclude" = some (.list (texts.map .text))) :
    ofRecord V fields =
      (ofRecord V (Value.leaveOut "exclude" fields)).map fun s => { s with exclude := texts } := by
  unfold ofRecord
  rw [ofFields_eq_seq V fields, Value.optional, hv]
  simp only [hV.texts_map_text]
  cases ofFields V (Value.leaveOut "exclude" fields) <;> rfl

/-- A record whose patterns are anything else is refused, and the refusal names the patterns. -/
theorem ofRecord_of_not_isTexts (hV : V.Lawful) (hv : Value.field? fields "exclude" = some v)
    (hwrong : ¬ v.IsTexts) :
    ∃ defects, ofRecord V fields = .error (.settingsInvalid defects) ∧
      ∃ d ∈ defects, d.path.head? = some (.field "exclude") := by
  obtain ⟨d, ds, hds⟩ := hV.texts_of_not_isTexts hwrong
  unfold ofRecord
  rw [ofFields_eq_seq V fields, Value.optional, hv]
  simp only [hds]
  cases ofFields V (Value.leaveOut "exclude" fields)
  case ok s => exact ⟨_, rfl, _, List.mem_cons_self, rfl⟩
  case defective es => exact ⟨_, rfl, _, List.mem_append_right es List.mem_cons_self, rfl⟩

end Settings

/-! ## Adding patterns to a value -/

namespace Value

variable {v : Value} {pieces : List String}

/-- The texts that a value falls apart into although it is no list: the characters of a text, the
keys of a table. -/
def pieces? : Value → Option (List String)
  | .text s => some (s.toList.map String.singleton)
  | .table fields => some (fields.map (·.1))
  | _ => none

theorem partsOf_of_pieces? (h : v.pieces? = some pieces) :
    Settings.partsOf v = some (pieces.map .text) := by
  cases v
  case text s =>
    obtain rfl := Option.some.inj h
    simp [Settings.partsOf]
  case table fields =>
    obtain rfl := Option.some.inj h
    simp [Settings.partsOf]
  all_goals simp [pieces?] at h

theorem pieces?_of_partsOf_none (h : Settings.partsOf v = none) : v.pieces? = none := by
  cases hpieces : v.pieces? with
  | none => rfl
  | some pieces => rw [partsOf_of_pieces? hpieces] at h; cases h

/-- A value is a list, falls apart into texts, or has no parts. -/
theorem list_or_pieces_or_none (v : Value) :
    (∃ items, v = .list items) ∨ (∃ pieces, v.pieces? = some pieces) ∨
      Settings.partsOf v = none := by
  cases v
  case list items => exact .inl ⟨items, rfl⟩
  case text s => exact .inr (.inl ⟨_, rfl⟩)
  case table fields => exact .inr (.inl ⟨_, rfl⟩)
  all_goals exact .inr (.inr rfl)

end Value

namespace Overrides

variable {V : Validator} {o : Overrides} {fields : List (String × Value)} {v : Value}
  {pieces patterns : List String}

@[simp] theorem field?_setTo (name : String) (v : Option Value) (fields : List (String × Value))
    (other : String) :
    Value.field? (setTo name v fields) other =
      if name = other then v.or (Value.field? fields other) else Value.field? fields other := by
  cases v <;> simp [setTo]

/-- The record with the numbers that the user asks for. -/
def numbered (o : Overrides) (fields : List (String × Value)) : List (String × Value) :=
  setTo "max_correction_passes" o.maxPasses <|
    setTo "indentation_width" o.indentationWidth fields

theorem field?_numbered_exclude (o : Overrides) (fields : List (String × Value)) :
    Value.field? (o.numbered fields) "exclude" = Value.field? fields "exclude" := by
  simp [numbered]

/-- The settings that a record gives with what the user asks for on top. -/
def settle (o : Overrides) (V : Validator) (fields : List (String × Value)) :
    Except Failure Settings := do
  Settings.ofRecord V (← o.apply fields)

/-- What the user asks for, less the patterns. -/
def numbersOnly (o : Overrides) : Overrides := { o with exclude := .list [] }

theorem settle_numbersOnly (o : Overrides) (fields : List (String × Value)) :
    o.numbersOnly.settle V fields = Settings.ofRecord V (o.numbered fields) := rfl

theorem settle_numbersOnly_error {cause : Failure}
    (h : o.numbersOnly.settle V fields = .error cause) :
    ∃ defects, cause = .settingsInvalid defects := by
  rw [settle_numbersOnly, Settings.ofRecord] at h
  split at h
  · cases h
  · exact ⟨_, (Except.error.inj h).symm⟩

theorem settle_of_exclude_nil (ho : o.exclude = .list []) :
    o.settle V fields = Settings.ofRecord V (o.numbered fields) := by
  unfold settle apply
  rw [ho]
  rfl

/-- With patterns to add, the value in the record is taken apart before it is checked; a record
without one counts as having none. -/
theorem settle_of_exclude_ne_nil (ho : o.exclude = .list (patterns.map .text))
    (hpatterns : patterns ≠ []) :
    o.settle V fields =
      match Settings.partsOf ((Value.field? fields "exclude").getD (.list [])) with
      | some items => Settings.ofRecord V <|
          Settings.setField (o.numbered fields) "exclude" (.list (items ++ patterns.map .text))
      | none => .error .wrongKind := by
  have hvoid : (Value.list (patterns.map .text)).isVoid = false := by
    simpa [Value.isVoid] using hpatterns
  unfold settle apply addPatterns
  rw [ho, hvoid, ← numbered, field?_numbered_exclude]
  cases Settings.partsOf ((Value.field? fields "exclude").getD (.list [])) <;> rfl

/-- Without a pattern to add, or with one added to a list, a wrong value is refused by its name. -/
theorem settle_of_nil_or_list (hV : V.Lawful) (ho : o.exclude = .list (patterns.map .text))
    (hv : Value.field? fields "exclude" = some v) (hwrong : ¬ v.IsTexts)
    (h : patterns = [] ∨ ∃ items, v = .list items) :
    ∃ defects, o.settle V fields = .error (.settingsInvalid defects) ∧
      ∃ d ∈ defects, d.path.head? = some (.field "exclude") := by
  by_cases hpatterns : patterns = []
  case pos =>
    subst hpatterns
    rw [settle_of_exclude_nil ho]
    exact Settings.ofRecord_of_not_isTexts hV ((field?_numbered_exclude o fields).trans hv) hwrong
  case neg =>
    obtain ⟨items, rfl⟩ := h.resolve_left hpatterns
    -- what is no text among the items is still there after texts were added
    have hstill : ¬ (Value.list (items ++ patterns.map .text)).IsTexts := by
      rintro ⟨texts, htexts⟩
      obtain ⟨before, after, -, hbefore, -⟩ :=
        List.map_eq_append_iff.1 (Value.list.inj htexts).symm
      exact hwrong ⟨before, by rw [hbefore]⟩
    rw [settle_of_exclude_ne_nil ho hpatterns, hv]
    exact Settings.ofRecord_of_not_isTexts hV (by simp) hstill

/-- A text or a table to which a pattern is added is accepted as the list of its pieces. -/
theorem settle_of_pieces? (hV : V.Lawful) (ho : o.exclude = .list (patterns.map .text))
    (hpatterns : patterns ≠ []) (hv : Value.field? fields "exclude" = some v)
    (hpieces : v.pieces? = some pieces) :
    o.settle V fields =
      (o.numbersOnly.settle V (Value.leaveOut "exclude" fields)).map
        fun s => { s with exclude := pieces ++ patterns } := by
  have hset : Value.field? (Settings.setField (o.numbered fields) "exclude"
      (.list ((pieces ++ patterns).map .text))) "exclude" =
        some (.list ((pieces ++ patterns).map .text)) := by simp
  rw [settle_of_exclude_ne_nil ho hpatterns, hv, Option.getD_some,
    Value.partsOf_of_pieces? hpieces, settle_numbersOnly]
  simp only [← List.map_append]
  rw [Settings.ofRecord_of_texts hV hset]
  congr 1
  refine Settings.ofRecord_congr fun name => ?_
  simp only [numbered, Value.field?_leaveOut, Settings.field?_setField, field?_setTo]
  grind

end Overrides

/-! ## Comparing what is read -/

namespace Value

mutual

/-- The two values are seen to be the same.  Two floats or two moments never are. -/
def agrees : Value → Value → Bool
  | null, null => true
  | bool b, bool b' => b == b'
  | int n, int n' => n == n'
  | text s, text s' => s == s'
  | list items, list items' => agreesList items items'
  | table fields, table fields' => agreesFields fields fields'
  | _, _ => false

def agreesList : List Value → List Value → Bool
  | [], [] => true
  | v :: vs, w :: ws => agrees v w && agreesList vs ws
  | _, _ => false

def agreesFields : List (String × Value) → List (String × Value) → Bool
  | [], [] => true
  | (name, v) :: fields, (name', w) :: others =>
    name == name' && agrees v w && agreesFields fields others
  | _, _ => false

end

mutual

theorem eq_of_agrees {v w : Value} (h : v.agrees w = true) : v = w := by
  cases v <;> cases w <;> simp only [agrees, beq_iff_eq, Bool.false_eq_true] at h
  case null.null => rfl
  case list.list => rw [eq_of_agreesList h]
  case table.table => rw [eq_of_agreesFields h]
  all_goals rw [h]

theorem eq_of_agreesList {vs ws : List Value} (h : agreesList vs ws = true) : vs = ws := by
  cases vs <;> cases ws <;> simp only [agreesList, Bool.and_eq_true, Bool.false_eq_true] at h
  case nil.nil => rfl
  case cons.cons => rw [eq_of_agrees h.1, eq_of_agreesList h.2]

theorem eq_of_agreesFields {fields others : List (String × Value)}
    (h : agreesFields fields others = true) : fields = others := by
  cases fields <;> cases others <;>
    simp only [agreesFields, Bool.and_eq_true, beq_iff_eq, Bool.false_eq_true] at h
  case nil.nil => rfl
  case cons.cons => rw [Prod.ext h.1.1 (eq_of_agrees h.1.2), eq_of_agreesFields h.2]

end

end Value

namespace Settings

variable {V : Validator} {tree : FileTree} {search : Path} {o : Overrides}
  {fields : List (String × Value)} {v : Value} {patterns : List String}

theorem load_eq_settle (hfields : recordFor tree search = .ok fields) :
    load V tree search o = o.settle V fields := by
  unfold load
  rw [hfields]
  rfl

/-- **What a wrong value of `exclude` leads to.** A value that is no list of texts is refused if the
user adds no pattern or if it is a list, and then the refusal names `exclude`. Otherwise a text or a
table counts as the list of its pieces: the settings are those of the record without `exclude`, with
these pieces and the patterns of the user, and are refused only if that record is. A value without
parts stops the merge, which is no refusal. -/
theorem load_wrong_patterns_iff (hV : V.Lawful) (hfields : recordFor tree search = .ok fields)
    (hv : Value.field? fields "exclude" = some v) (hwrong : ¬ v.IsTexts)
    (ho : o.exclude = .list (patterns.map .text)) :
    ((∃ cause, load V tree search o = .error cause ∧ cause.isRefusal = true) ↔
      patterns = [] ∨ (∃ items, v = .list items) ∨
        v.pieces?.isSome ∧
          ∃ cause, o.numbersOnly.settle V (Value.leaveOut "exclude" fields) = .error cause) ∧
    (patterns = [] ∨ (∃ items, v = .list items) →
      ∃ defects, load V tree search o = .error (.settingsInvalid defects) ∧
        ∃ d ∈ defects, d.path.head? = some (.field "exclude")) ∧
    (∀ s, load V tree search o = .ok s ↔
      patterns ≠ [] ∧ ∃ pieces t, v.pieces? = some pieces ∧
        o.numbersOnly.settle V (Value.leaveOut "exclude" fields) = .ok t ∧
        { t with exclude := pieces ++ patterns } = s) ∧
    (load V tree search o = .error .wrongKind ↔ patterns ≠ [] ∧ partsOf v = none) := by
  rw [load_eq_settle hfields]
  by_cases hkept : patterns = [] ∨ ∃ items, v = .list items
  case pos =>
    obtain ⟨defects, hrefused, hnamed⟩ := Overrides.settle_of_nil_or_list hV ho hv hwrong hkept
    rw [hrefused]
    refine ⟨⟨fun _ => hkept.imp_right .inl, fun _ => ⟨_, rfl, rfl⟩⟩,
      fun _ => ⟨defects, rfl, hnamed⟩, fun s => ⟨nofun, ?_⟩, ⟨nofun, ?_⟩⟩
    · rintro ⟨hpatterns, pieces, t, hpieces, -⟩
      obtain ⟨items, rfl⟩ := hkept.resolve_left hpatterns
      simp [Value.pieces?] at hpieces
    · rintro ⟨hpatterns, hnone⟩
      obtain ⟨items, rfl⟩ := hkept.resolve_left hpatterns
      simp [partsOf] at hnone
  case neg =>
    obtain ⟨hpatterns, hlist⟩ := not_or.1 hkept
    obtain hitems | ⟨pieces, hpieces⟩ | hnone := v.list_or_pieces_or_none
    · exact absurd hitems hlist
    · have hparts : partsOf v ≠ none := by
        rw [Value.partsOf_of_pieces? hpieces]
        exact Option.some_ne_none _
      rw [Overrides.settle_of_pieces? hV ho hpatterns hv hpieces]
      cases hrest : o.numbersOnly.settle V (Value.leaveOut "exclude" fields) with
      | ok t => simp [Except.map, hpatterns, hlist, hpieces, hparts]
      | error cause =>
        obtain ⟨defects, rfl⟩ := Overrides.settle_numbersOnly_error hrest
        simp [Except.map, hpatterns, hlist, hpieces, hparts, Failure.isRefusal]
    · have hpieces : v.pieces? = none := Value.pieces?_of_partsOf_none hnone
      rw [Overrides.settle_of_exclude_ne_nil ho hpatterns, hv, Option.getD_some, hnone]
      simp [hpatterns, hlist, hpieces, Failure.isRefusal]

/-- The search finds a record, and it is seen to have these fields. -/
def finds (tree : FileTree) (search : Path) (fields : List (String × Value)) : Bool :=
  match recordFor tree search with
  | .ok found => Value.agreesFields found fields
  | .error _ => false

theorem recordFor_of_finds (h : finds tree search fields = true) :
    recordFor tree search = .ok fields := by
  unfold finds at h
  cases hfound : recordFor tree search with
  | ok found =>
    rw [hfound] at h
    rw [Value.eq_of_agreesFields h]
  | error cause =>
    rw [hfound] at h
    cases h

/-- A directory with a file of settings that has these lines in its table. -/
def withLines (lines : String) : FileTree where
  here := ["work"]
  files := [(["work", fileName], Utf8.encode ("[tool.unparallel]\n" ++ lines).toList)]

def fourAndTmp : Overrides := { indentationWidth := some (.int 4), exclude := .list [.text "tmp"] }

theorem load_wrong_patterns_iff_keys :
    recordFor (withLines "exclude.vendor = 1\nexclude.lib = true\n") (Path.ofString ".") =
        .ok [("exclude", .table [("vendor", .int 1), ("lib", .bool true)])] ∧
      ¬ (Value.table [("vendor", .int 1), ("lib", .bool true)]).IsTexts ∧
      load .lenient (withLines "exclude.vendor = 1\nexclude.lib = true\n") (Path.ofString ".")
          fourAndTmp =
        .ok { indentationWidth := 4, exclude := ["vendor", "lib", "tmp"] } := by
  have hfields : recordFor (withLines "exclude.vendor = 1\nexclude.lib = true\n")
      (Path.ofString ".") = .ok [("exclude", .table [("vendor", .int 1), ("lib", .bool true)])] :=
    recordFor_of_finds (by decide +kernel)
  have hwrong : ¬ (Value.table [("vendor", .int 1), ("lib", .bool true)]).IsTexts := by
    rintro ⟨_, h⟩
    cases h
  have hexact := load_wrong_patterns_iff Validator.lawful_lenient hfields (o := fourAndTmp) rfl
    hwrong (show fourAndTmp.exclude = .list (["tmp"].map .text) from rfl)
  refine ⟨hfields, hwrong, (hexact.2.2.1 _).2
    ⟨by decide, ["vendor", "lib"], { indentationWidth := 4 }, rfl, ?_, rfl⟩⟩
  rfl

/-- Two wrong values that are not refused once a pattern is added: a text becomes its characters,
and a number stops the merge. -/
theorem load_vendor_taken_apart :
    recordFor (withLines "exclude = \"vendor\"\n") (Path.ofString ".") =
        .ok [("exclude", .text "vendor")] ∧
      ¬ (Value.text "vendor").IsTexts ∧
      load .lenient (withLines "exclude = \"vendor\"\n") (Path.ofString ".")
          { exclude := .list [.text "tmp"] } =
        .ok { exclude := ["v", "e", "n", "d", "o", "r", "tmp"] } ∧
    recordFor (withLines "exclude = 5\n") (Path.ofString ".") = .ok [("exclude", .int 5)] ∧
      ¬ (Value.int 5).IsTexts ∧
      load .lenient (withLines "exclude = 5\n") (Path.ofString ".")
          { exclude := .list [.text "tmp"] } =
        .error .wrongKind ∧
      Failure.wrongKind.isRefusal = false := by
  have htext : recordFor (withLines "exclude = \"vendor\"\n") (Path.ofString ".") =
      .ok [("exclude", .text "vendor")] := recordFor_of_finds (by decide +kernel)
  have hnumber : recordFor (withLines "exclude = 5\n") (Path.ofString ".") =
      .ok [("exclude", .int 5)] := recordFor_of_finds (by decide +kernel)
  refine ⟨htext, ?_, ?_, hnumber, ?_, ?_, rfl⟩
  · rintro ⟨_, h⟩
    cases h
  · rw [load_eq_settle htext]
    rfl
  · rintro ⟨_, h⟩
    cases h
  · rw [load_eq_settle hnumber]
    rfl

end Settings

end MultiAssign
