import MultiAssign.Proofs.Walk
import MultiAssign.Proofs.SafeOrder

/-!
# Reads of attributes of `self`

A setter `self.name=` is read by a call of `self.name` (`readsTarget_selfSetter_iff`).  The call may
leave `self` out, and then looks like a local variable or like a call without receiver.
`callsSelf_withSelf_iff` says which sources are seen to call it: those that do so anywhere, with
`self` written out, and those that are a call of `name` without it.  They are emitted before the
setter (`self_read_emitted_first`).

A call without `self` is recognised only where it is the whole source.  Further down it is
overlooked, and then the setter may come first (`nested_bare_call_emitted_last`).
-/

namespace MultiAssign

namespace Node

/-- Somewhere in the expression `self.name` is called, with `self` written out.  An index has no
arguments here. -/
def CallsSelf (name : String) (node : Node) : Prop :=
  ∃ s r arguments, send s (some (selfRef r)) name arguments ∈ node.walk ∧
    (name = "[]" → arguments = [])

/-- The node is a call of `self.name` with `self` left out: a call without receiver and arguments,
or a name that is no local variable. -/
def IsBareCall (locals : List String) (name : String) : Node → Prop
  | send _ none method [] => method = name
  | var _ .localVar n => n = name ∧ n ∉ locals
  | _ => False

/-! ### The getter of a setter -/

theorem getterName_of_isSetter {name : String} (h : isSetter (name ++ "=")) :
    getterName (name ++ "=") = name := by
  rw [getterName, if_pos h, String.toList_append]
  show String.ofList (name.toList ++ ['=']).dropLast = name
  rw [List.dropLast_concat, String.ofList_toList]

theorem sameOption_selfRef_iff {receiver : Option Node} {r : Option Span} :
    sameOption receiver (some (selfRef r)) ↔ ∃ s, receiver = some (selfRef s) := by
  cases receiver with
  | none => simp [sameOption]
  | some node => cases node <;> simp [sameOption, same]

theorem sameList_nil_iff {nodes : List Node} : sameList nodes [] ↔ nodes = [] := by
  cases nodes <;> simp [sameList]

theorem mem_matchingCalls {node : Node} {receiver : Option Node} {method : String}
    {arguments : List Node} : arguments ∈ node.matchingCalls receiver method ↔
      ∃ s r, send s r method arguments ∈ node.walk ∧ sameOption r receiver := by
  rw [matchingCalls, List.mem_filterMap]
  constructor
  · rintro ⟨n, hn, h⟩
    split at h
    · next s r m as =>
      split at h
      · next hm =>
        obtain ⟨rfl, hr⟩ : m = method ∧ sameOption r receiver := by simpa using hm
        cases h
        exact ⟨s, r, hn, hr⟩
      · cases h
    · cases h
  · rintro ⟨s, r, hn, hr⟩
    exact ⟨_, hn, by simp [hr]⟩

/-- What a setter writes is read by calls of its getter on the same receiver, an index only by those
with the same arguments. -/
theorem accesses_iff {source : Node} {receiver : Option Node} {method : String}
    {arguments : List Node} : source.accesses receiver method arguments ↔
      ∃ s r as, send s r (getterName method) as ∈ source.walk ∧ sameOption r receiver ∧
        (method = "[]=" → sameList as arguments) := by
  by_cases hindex : method = "[]="
  · have hgetter : getterName "[]=" = "[]" := by decide
    subst hindex
    simp only [accesses, if_true, List.any_eq_true, mem_matchingCalls, hgetter, true_imp_iff]
    constructor
    · rintro ⟨as, ⟨s, r, hn, hr⟩, has⟩
      exact ⟨s, r, as, hn, hr, has⟩
    · rintro ⟨s, r, as, hn, hr, has⟩
      exact ⟨as, ⟨s, r, hn, hr⟩, has⟩
  · rw [accesses, if_neg hindex, Bool.not_eq_true', List.isEmpty_eq_false_iff_exists_mem]
    simp only [mem_matchingCalls]
    constructor
    · rintro ⟨as, s, r, hn, hr⟩
      exact ⟨s, r, as, hn, hr, fun h => absurd h hindex⟩
    · rintro ⟨s, r, as, hn, hr, _⟩
      exact ⟨as, s, r, hn, hr⟩

/-- The setter of an attribute of `self` is read by calls of that attribute on `self`. -/
theorem readsTarget_selfSetter_iff {source : Node} {name : String} {s r : Option Span}
    (h : isSetter (name ++ "=")) :
    source.readsTarget (send s (some (selfRef r)) (name ++ "=") []) ↔ source.CallsSelf name := by
  rw [readsTarget, h, Bool.true_and, accesses_iff, getterName_of_isSetter h, CallsSelf]
  constructor
  · rintro ⟨s', r', arguments, hn, hr, harguments⟩
    obtain ⟨r', rfl⟩ := sameOption_selfRef_iff.mp hr
    refine ⟨s', r', arguments, hn, ?_⟩
    rintro rfl
    exact sameList_nil_iff.mp (harguments rfl)
  · rintro ⟨s', r', arguments, hn, hnil⟩
    refine ⟨s', _, arguments, hn, sameOption_selfRef_iff.mpr ⟨r', rfl⟩, fun hindex => ?_⟩
    exact sameList_nil_iff.mpr (hnil (String.append_left_inj "=" |>.mp hindex))

/-! ### `self` made explicit -/

theorem callsSelf_selfCall_iff {name method : String} :
    (send none (some (selfRef none)) method []).CallsSelf name ↔ method = name := by
  have hwalk : (send none (some (selfRef none)) method []).walk =
      [send none (some (selfRef none)) method [], selfRef none] := by
    rw [walk_eq_preorder]
    rfl
  rw [CallsSelf, hwalk]
  constructor
  · rintro ⟨s, r, arguments, hn, _⟩
    rcases List.mem_pair.mp hn with hn | hn
    · cases hn
      rfl
    · cases hn
  · rintro rfl
    exact ⟨none, none, [], List.mem_cons_self, fun _ => rfl⟩

theorem not_callsSelf_of_children_eq_nil {name : String} {node : Node} (h : node.children = []) :
    ¬ node.CallsSelf name := by
  rintro ⟨s, r, arguments, hn, _⟩
  rw [walk_of_children_eq_nil h, List.mem_singleton] at hn
  subst hn
  cases h

/-- **The analysis sees a call on `self`** where `self` is written out, and where the source is a
call without it. -/
theorem callsSelf_withSelf_iff {locals : List String} {name : String} {source : Node} :
    (source.withSelf locals).CallsSelf name ↔
      source.IsBareCall locals name ∨ source.CallsSelf name := by
  unfold withSelf
  fun_cases selfCall? locals source with
  | case1 s method =>
    rw [Option.getD_some, callsSelf_selfCall_iff, IsBareCall]
    exact (or_iff_left (not_callsSelf_of_children_eq_nil rfl)).symm
  | case2 s n hn =>
    have hbare : ¬ (var s .localVar n).IsBareCall locals name := by
      rintro ⟨_, hn'⟩
      exact hn' (List.contains_iff_mem.mp hn)
    exact (or_iff_right hbare).symm
  | case3 s n hn =>
    rw [Option.getD_some, callsSelf_selfCall_iff, IsBareCall,
      or_iff_left (not_callsSelf_of_children_eq_nil rfl)]
    exact (and_iff_left fun hn' => hn (List.contains_iff_mem.mpr hn')).symm
  | case4 _ hsend hvar =>
    have hbare : ¬ source.IsBareCall locals name := by
      unfold IsBareCall
      split
      · next s method => exact absurd rfl (hsend s method)
      · next s n => exact absurd rfl (hvar s n)
      · exact id
    exact (or_iff_right hbare).symm

end Node

namespace Pair

variable {targets sources : List Node} {known : List String} {pairs : List Pair}

theorem getElem?_of_map_eq {f : Pair → Node} {nodes : List Node} (h : pairs.map f = nodes)
    {i : Nat} {node : Node} (hi : nodes[i]? = some node) :
    ∃ p, pairs[i]? = some p ∧ f p = node := by
  rw [← h, List.getElem?_map] at hi
  exact Option.map_eq_some_iff.mp hi

/-- **A source that reads an attribute of `self` comes before the setter.**  It does so if it calls
the attribute anywhere with `self` written out, or is a call of it with `self` left out; and no
other source is taken for a reader of the setter. -/
theorem self_read_emitted_first {order : List Pair}
    (hpairs : ofLists targets sources known = .ok pairs)
    (horder : findOrder targets sources known = .ok order) {i j : Nat} (hij : i ≠ j)
    {source : Node} (hsource : sources[i]? = some source) {name : String}
    (hset : Node.isSetter (name ++ "=")) {s r : Option Span}
    (htarget : targets[j]? = some (.send s (some (.selfRef r)) (name ++ "=") [])) :
    let isRead := source.IsBareCall (Node.localNamesList targets ++ known) name ∨
      source.CallsSelf name
    (i ∈ readers pairs j ↔ isRead) ∧ (isRead → [i, j].Sublist (order.map index)) := by
  intro isRead
  have hnum := numbered_of_ofLists hpairs
  have hsafe := safeOrder_of_findOrder hpairs horder
  obtain ⟨p, hp, hps⟩ := getElem?_of_map_eq (map_source_of_ofLists hpairs) hsource
  obtain ⟨q, hq, hqt⟩ := getElem?_of_map_eq (map_target_of_ofLists hpairs) htarget
  have hpi := hnum.index_of_getElem? hp
  have hqj := hnum.index_of_getElem? hq
  have hpm := List.mem_of_getElem? hp
  have hqm := List.mem_of_getElem? hq
  have hne : p ≠ q := fun he => hij (by rw [← hpi, ← hqj, he])
  have hreads : p.reads q ↔ isRead := by
    rw [reads, analyzed_of_ofLists hpairs hpm, hps, hqt, Node.readsTarget_selfSetter_iff hset,
      Node.callsSelf_withSelf_iff]
  have hedge : i ∈ readers pairs j ↔ p.reads q := by
    have := hnum.edge_iff hqm hpm
    rw [hpi, hqj, Order.Edge, and_iff_left hij, and_iff_left hne] at this
    exact this
  refine ⟨hedge.trans hreads, fun hread => ?_⟩
  have := (hsafe.sublist_of_reads hpm hqm hne (hreads.mpr hread)).map index
  rwa [List.map_cons, List.map_cons, List.map_nil, hpi, hqj] at this

/-- `self.b, c = 1, b` is `c = b` and then `self.b = 1`. -/
theorem self_read_emitted_first_bare :
    let one : Node := .literal none .integer "1" [] true
    let b : Node := .var none .localVar "b"
    let c : Node := .var none .localVar "c"
    let setter : Node := .send none (some (.selfRef none)) ("b" ++ "=") []
    let first : Pair := ⟨0, setter, one, none⟩
    let second : Pair := ⟨1, c, b, some (.send none (some (.selfRef none)) "b" [])⟩
    ofLists [setter, c] [one, b] [] = .ok [first, second] ∧
      findOrder [setter, c] [one, b] [] = .ok [second, first] ∧
      b.IsBareCall (Node.localNamesList [setter, c] ++ []) "b" ∧
      1 ∈ readers [first, second] 0 ∧ [1, 0].Sublist ([second, first].map index) := by
  intro one b c setter first second
  have hpairs : ofLists [setter, c] [one, b] [] = .ok [first, second] := rfl
  have horder : findOrder [setter, c] [one, b] [] = .ok [second, first] := by cbv
  have hbare : b.IsBareCall (Node.localNamesList [setter, c] ++ []) "b" := ⟨rfl, by decide⟩
  have hset : Node.isSetter ("b" ++ "=") := by decide
  obtain ⟨hreaders, hfirst⟩ :=
    self_read_emitted_first (i := 1) (j := 0) hpairs horder (by decide) rfl hset rfl
  exact ⟨hpairs, horder, hbare, hreaders.mpr (Or.inl hbare), hfirst (Or.inl hbare)⟩

/-- In `self.b, c = 1, b + 1` the source `b + 1` calls `self.b`, and comes after the setter. -/
theorem nested_bare_call_emitted_last :
    let one : Node := .literal none .integer "1" [] true
    let b : Node := .var none .localVar "b"
    let sum : Node := .other none "binary" [b, one] ["+"]
    let c : Node := .var none .localVar "c"
    let setter : Node := .send none (some (.selfRef none)) ("b" ++ "=") []
    ∃ order, findOrder [setter, c] [one, sum] [] = .ok order ∧ Node.isSetter ("b" ++ "=") ∧
      (∃ n ∈ sum.walk, n.IsBareCall (Node.localNamesList [setter, c] ++ []) "b") ∧
      ¬ [1, 0].Sublist (order.map index) := by
  intro one b sum c setter
  have horder : findOrder [setter, c] [one, sum] [] =
      .ok [⟨0, setter, one, none⟩, ⟨1, c, sum, none⟩] := by cbv
  have hwalk : sum.walk = [sum, b, one] := by cbv
  refine ⟨_, horder, by decide, ⟨b, by simp [hwalk], rfl, by decide⟩, ?_⟩
  show ¬ [1, 0].Sublist [0, 1]
  decide

end Pair

end MultiAssign
