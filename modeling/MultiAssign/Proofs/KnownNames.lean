import MultiAssign.Proofs.SelfReads
import MultiAssign.Proofs.TargetPlaces

/-!
# Which names are known

A bare name among the sources is a local variable if it is known for one, and else a call on `self`,
which reads other targets.  Names become known by the statement's own targets and by what was
assigned before it.  This file compares what the analysis sees when more or fewer names are known,
and what is read by the sources as they are written: `readers_err_on_safe_side`.

A target may hold others in parentheses and after a splat, and its `leaves` are what it comes down
to.  Reads of a target are reads of its leaves (`readsTarget_iff_exists_leaf`), and the names that
it declares are those of local variables among its leaves (`mem_localNames_iff_leaf`).  As both go
by the leaves, they fit: a bare name that reads a target is declared by it, and so it is known and
left as it is written (`mem_localNamesList_of_readsTarget`).  This needs that its name tells a local
variable from a constant and from other variables, and that setters have receivers (`Discernible`).
-/

namespace MultiAssign

namespace Node

/-! ### Single targets -/

mutual

/-- The single targets that a target is made of: what its parentheses and its splats hold, all the
way down. -/
def leaves : Node → List Node
  | nested _ targets => leavesList targets
  | splat _ (some value) => leaves value
  | node => [node]

def leavesList : List Node → List Node
  | [] => []
  | t :: ts => leaves t ++ leavesList ts

end

theorem mem_leavesList {l : Node} {targets : List Node} :
    l ∈ leavesList targets ↔ ∃ t ∈ targets, l ∈ t.leaves := by
  induction targets with
  | nil => simp [leavesList]
  | cons t ts ih => simp [leavesList, ih]

/-- The expression depends on the value that a single target had before. -/
def ReadsLeaf (source : Node) : Node → Prop
  | var _ _ name => source.readsName name
  | const _ name _ => source.readsName name
  | send _ receiver method arguments =>
    isSetter method ∧ source.accesses receiver method arguments
  | _ => False

mutual

theorem readsTarget_iff_exists_leaf {source : Node} : ∀ t : Node,
    source.readsTarget t ↔ ∃ l ∈ t.leaves, source.ReadsLeaf l
  | nested _ targets => by
    rw [readsTarget, leaves]
    exact readsAny_iff_exists_leaf targets
  | splat _ (some value) => by
    rw [readsTarget, leaves]
    exact readsTarget_iff_exists_leaf value
  | program .. | var .. | const .. | selfRef .. | literal .. | array .. | splat _ none | send ..
  | block .. | multiAssign .. | assign .. | conditional .. | loop .. | rescueModifier ..
  | rescueClause .. | ensure .. | begin .. | methodDef .. | other .. => by
    simp [readsTarget, leaves, ReadsLeaf]

theorem readsAny_iff_exists_leaf {source : Node} : ∀ ts : List Node,
    source.readsAny ts ↔ ∃ l ∈ leavesList ts, source.ReadsLeaf l
  | [] => by simp [readsAny, leavesList]
  | t :: ts => by
    simp only [readsAny, Bool.or_eq_true, leavesList, List.mem_append, or_and_right, exists_or,
      readsTarget_iff_exists_leaf t, readsAny_iff_exists_leaf ts]

end

mutual

theorem mem_localNames_iff_leaf {name : String} : ∀ t : Node,
    name ∈ t.localNames ↔ ∃ s, var s .localVar name ∈ t.leaves
  | nested _ targets => by
    rw [localNames, leaves]
    exact mem_localNamesList_iff_leaf targets
  | splat _ (some value) => by
    rw [localNames, leaves]
    exact mem_localNames_iff_leaf value
  | var _ kind _ => by cases kind <;> simp [localNames, leaves, eq_comm]
  | program .. | const .. | selfRef .. | literal .. | array .. | splat _ none | send .. | block ..
  | multiAssign .. | assign .. | conditional .. | loop .. | rescueModifier .. | rescueClause ..
  | ensure .. | begin .. | methodDef .. | other .. => by simp [localNames, leaves]

theorem mem_localNamesList_iff_leaf {name : String} : ∀ ts : List Node,
    name ∈ localNamesList ts ↔ ∃ s, var s .localVar name ∈ leavesList ts
  | [] => by simp [localNamesList, leavesList]
  | t :: ts => by
    simp only [localNamesList, leavesList, List.mem_append, exists_or, mem_localNames_iff_leaf t,
      mem_localNamesList_iff_leaf ts]

end

/-! ### Names as they are written -/

/-- The targets can be told from the bare names among the sources: every setter has a receiver, and
only a local variable has the name of a source that is a local variable. -/
structure Discernible (targets sources : List Node) : Prop where
  receiver : ∀ s r method arguments, send s r method arguments ∈ leavesList targets →
    isSetter method → r.isSome
  notConst : ∀ s name, var s .localVar name ∈ sources →
    ∀ r scope, const r name scope ∉ leavesList targets
  isLocal : ∀ s name, var s .localVar name ∈ sources →
    ∀ r kind, var r kind name ∈ leavesList targets → kind = .localVar

theorem readsName_iff {source : Node} {name : String} :
    source.readsName name ↔ ∃ n ∈ source.walk, n.assignedName? = some name := by
  simp [readsName, contains]

variable {targets sources : List Node} {locals locals' : List String}

theorem Discernible.not_readsTarget_send (h : Discernible targets sources) {s : Option Span}
    {method : String} {t : Node} (ht : t ∈ targets) :
    ¬ (send s none method []).readsTarget t := by
  intro hread
  obtain ⟨l, hl, hread⟩ := (readsTarget_iff_exists_leaf t).mp hread
  have hwalk : (send s none method []).walk = [send s none method []] :=
    walk_of_children_eq_nil rfl
  have hname : ∀ name, ¬ (send s none method []).readsName name := by
    intro name
    simp [readsName_iff, hwalk, assignedName?]
  cases l with
  | var _ _ name => exact hname name hread
  | const _ name _ => exact hname name hread
  | send s' r m as =>
    obtain ⟨_, r', _, hn, hsame, _⟩ := accesses_iff.mp hread.2
    rw [hwalk, List.mem_singleton] at hn
    cases hn
    -- the only call in the source has no receiver, and the setter has one
    have hsome := h.receiver s' r m as (mem_leavesList.mpr ⟨t, ht, hl⟩) hread.1
    cases r with
    | none => cases hsome
    | some receiver => cases hsame
  | _ => exact hread

theorem Discernible.mem_localNamesList_of_readsTarget (h : Discernible targets sources)
    {s : Option Span} {name : String} (hs : var s .localVar name ∈ sources) {t : Node}
    (ht : t ∈ targets) (hread : (var s .localVar name).readsTarget t) :
    name ∈ localNamesList targets := by
  obtain ⟨l, hl, hread⟩ := (readsTarget_iff_exists_leaf t).mp hread
  have hmem := mem_leavesList.mpr ⟨t, ht, hl⟩
  have hwalk : (var s .localVar name).walk = [var s .localVar name] := walk_of_children_eq_nil rfl
  have hname : ∀ {name'}, (var s .localVar name).readsName name' → name = name' := by
    intro name' hn
    simpa [readsName_iff, hwalk, assignedName?] using hn
  cases l with
  | var r kind name' =>
    obtain rfl := hname hread
    obtain rfl := h.isLocal s name hs r kind hmem
    exact (mem_localNamesList_iff_leaf targets).mpr ⟨r, hmem⟩
  | const r name' scope =>
    obtain rfl := hname hread
    exact absurd hmem (h.notConst s name hs r scope)
  | send _ r m as =>
    obtain ⟨_, _, _, hn, _⟩ := accesses_iff.mp hread.2
    rw [hwalk, List.mem_singleton] at hn
    cases hn
  | _ => exact False.elim hread

/-! ### Names as the analysis sees them -/

/-- **Writing out `self` hides no read**, if the names that the targets declare are known. -/
theorem Discernible.readsTarget_withSelf (h : Discernible targets sources)
    (hlocals : localNamesList targets ⊆ locals) {source : Node} (hs : source ∈ sources) {t : Node}
    (ht : t ∈ targets) (hread : source.readsTarget t) :
    (source.withSelf locals).readsTarget t := by
  unfold withSelf
  fun_cases selfCall? locals source with
  | case1 s method => exact absurd hread (h.not_readsTarget_send ht)
  | case2 s name hn => exact hread
  | case3 s name hn =>
    -- a name that is no local variable, and reads a target, would be declared by it
    have hmem := hlocals (h.mem_localNamesList_of_readsTarget hs ht hread)
    exact absurd (List.contains_iff_mem.mpr hmem) hn
  | case4 _ hsend hvar => exact hread

/-- Where more names are known, a source is left as it is written, or treated as before. -/
theorem withSelf_eq_or_of_subset (h : locals ⊆ locals') (source : Node) :
    source.withSelf locals' = source ∨ source.withSelf locals' = source.withSelf locals := by
  unfold withSelf
  fun_cases selfCall? locals' source with
  | case1 s method => exact Or.inr rfl
  | case2 s name hn => exact Or.inl rfl
  | case3 s name hn =>
    have hn' : ¬ locals.contains name := fun hmem =>
      hn (List.contains_iff_mem.mpr (h (List.contains_iff_mem.mp hmem)))
    rw [selfCall?, if_neg hn']
    exact Or.inr rfl
  | case4 _ hsend hvar => exact Or.inl rfl

/-- **Whoever knows more names sees fewer reads.** -/
theorem Discernible.readsTarget_withSelf_of_subset (h : Discernible targets sources)
    (hlocals : localNamesList targets ⊆ locals) (hsub : locals ⊆ locals') {source : Node}
    (hs : source ∈ sources) {t : Node} (ht : t ∈ targets)
    (hread : (source.withSelf locals').readsTarget t) : (source.withSelf locals).readsTarget t := by
  rcases withSelf_eq_or_of_subset hsub source with heq | heq
  · rw [heq] at hread
    exact h.readsTarget_withSelf hlocals hs ht hread
  · rwa [heq] at hread

end Node

theorem Order.exists_ofReaders_of_subset {count : Nat} {readers readers' : Nat → List Nat}
    {order : List Nat} (hb : Bounded count readers') (hsub : ∀ i, readers' i ⊆ readers i)
    (h : ofReaders count readers = .ok order) :
    ∃ order', ofReaders count readers' = .ok order' := by
  refine exists_ofReaders_of_pairwise hb (perm_of_ofReaders h) ?_
  exact (emission_of_ofReaders h).pairwise.imp fun hno he => hno ⟨hsub _ he.1, he.2⟩

namespace Pair

variable {targets sources : List Node} {known known' : List String} {pairs pairs' : List Pair}

/-- The pair with its source taken as it is written. -/
def asWritten (p : Pair) : Pair := { p with selfCall? := none }

theorem Numbered.mem_readers_iff (h : Numbered pairs) {i j : Nat} :
    i ∈ readers pairs j ↔ ∃ e t, (pairs.map analyzed)[i]? = some e ∧
      (pairs.map target)[j]? = some t ∧ e.readsTarget t := by
  simp only [List.getElem?_map, Option.map_eq_some_iff]
  constructor
  · intro hi
    cases hw : pairs[j]? with
    | none => simp [readers, hw] at hi
    | some w =>
      rw [← h.index_of_getElem? hw, h.mem_readers (List.mem_of_getElem? hw)] at hi
      obtain ⟨p, hp, hread, rfl⟩ := hi
      exact ⟨_, _, ⟨p, h.getElem?_index hp, rfl⟩, ⟨w, rfl, rfl⟩, hread⟩
  · rintro ⟨_, _, ⟨p, hp, rfl⟩, ⟨w, hw, rfl⟩, hread⟩
    rw [← h.index_of_getElem? hw, h.mem_readers (List.mem_of_getElem? hw)]
    exact ⟨p, List.mem_of_getElem? hp, hread, h.index_of_getElem? hp⟩

theorem map_analyzed_of_ofLists (h : ofLists targets sources known = .ok pairs) :
    pairs.map analyzed =
      sources.map (Node.withSelf (Node.localNamesList targets ++ known)) := by
  rw [← map_source_of_ofLists h, List.map_map]
  exact List.map_congr_left fun p hp => analyzed_of_ofLists h hp

theorem mem_readers_of_ofLists (h : ofLists targets sources known = .ok pairs) {i j : Nat} :
    i ∈ readers pairs j ↔ ∃ e t, sources[i]? = some e ∧ targets[j]? = some t ∧
      (e.withSelf (Node.localNamesList targets ++ known)).readsTarget t := by
  rw [(numbered_of_ofLists h).mem_readers_iff, map_analyzed_of_ofLists h, map_target_of_ofLists h]
  simp only [List.getElem?_map, Option.map_eq_some_iff]
  constructor
  · rintro ⟨_, t, ⟨e, he, rfl⟩, ht, hread⟩
    exact ⟨e, t, he, ht, hread⟩
  · rintro ⟨e, t, he, ht, hread⟩
    exact ⟨_, t, ⟨e, he, rfl⟩, ht, hread⟩

theorem mem_readers_asWritten (h : ofLists targets sources known = .ok pairs) {i j : Nat} :
    i ∈ readers (pairs.map asWritten) j ↔ ∃ e t, sources[i]? = some e ∧ targets[j]? = some t ∧
      e.readsTarget t := by
  have hnum : Numbered (pairs.map asWritten) := by
    have := numbered_of_ofLists h
    rwa [Numbered, List.map_map, List.length_map]
  have hsource : (pairs.map asWritten).map analyzed = sources := by
    rw [List.map_map]
    exact map_source_of_ofLists h
  have htarget : (pairs.map asWritten).map target = targets := by
    rw [List.map_map]
    exact map_target_of_ofLists h
  rw [hnum.mem_readers_iff, hsource, htarget]

/-- Whoever reads a target as it is written is a reader for the analysis. -/
theorem readers_asWritten_subset (hd : Node.Discernible targets sources)
    (h : ofLists targets sources known = .ok pairs) (j : Nat) :
    readers (pairs.map asWritten) j ⊆ readers pairs j := by
  intro i hi
  obtain ⟨e, t, he, ht, hread⟩ := (mem_readers_asWritten h).mp hi
  refine (mem_readers_of_ofLists h).mpr ⟨e, t, he, ht, ?_⟩
  exact hd.readsTarget_withSelf (List.subset_append_left _ _) (List.mem_of_getElem? he)
    (List.mem_of_getElem? ht) hread

theorem readers_subset_of_known_subset (hd : Node.Discernible targets sources)
    (h : ofLists targets sources known = .ok pairs)
    (h' : ofLists targets sources known' = .ok pairs') (hsub : known ⊆ known') (j : Nat) :
    readers pairs' j ⊆ readers pairs j := by
  have hlocals : Node.localNamesList targets ++ known ⊆ Node.localNamesList targets ++ known' :=
    List.append_subset.mpr ⟨List.subset_append_left _ _,
      List.Subset.trans hsub (List.subset_append_right _ _)⟩
  intro i hi
  obtain ⟨e, t, he, ht, hread⟩ := (mem_readers_of_ofLists h').mp hi
  refine (mem_readers_of_ofLists h).mpr ⟨e, t, he, ht, ?_⟩
  exact hd.readsTarget_withSelf_of_subset (List.subset_append_left _ _) hlocals
    (List.mem_of_getElem? he) (List.mem_of_getElem? ht) hread

theorem exists_findOrder_of_readers_subset (h : ofLists targets sources known = .ok pairs)
    (h' : ofLists targets sources known' = .ok pairs')
    (hsub : ∀ j, readers pairs' j ⊆ readers pairs j) {order : List Pair}
    (horder : findOrder targets sources known = .ok order) :
    ∃ order', findOrder targets sources known' = .ok order' := by
  have hcount : pairs.length = pairs'.length := by
    rw [← List.length_map target, ← List.length_map target, map_target_of_ofLists h,
      map_target_of_ofLists h']
  rw [findOrder_of_ofLists h] at horder
  rw [findOrder_of_ofLists h']
  obtain ⟨hsearch, _⟩ := (numbered_of_ofLists h).ofReaders_of_order horder
  rw [hcount] at hsearch
  obtain ⟨indices, hindices⟩ :=
    Order.exists_ofReaders_of_subset (numbered_of_ofLists h').bounded hsub hsearch
  exact ⟨_, order_eq_ok_iff.mpr ⟨indices, hindices, rfl⟩⟩

/-- **The analysis errs on the safe side.**  Take a statement whose targets can be told from the
bare names among its sources.  Whoever reads a target as it is written is a reader for the analysis,
and stays one where fewer local variables are known before the statement.  So knowing more of them
never costs a statement its order. -/
theorem readers_err_on_safe_side (hlen : targets.length = sources.length)
    (hd : Node.Discernible targets sources) (hsub : known ⊆ known') :
    ∃ pairs pairs', ofLists targets sources known = .ok pairs ∧
      ofLists targets sources known' = .ok pairs' ∧
      (∀ j, readers (pairs'.map asWritten) j ⊆ readers pairs' j ∧
        readers pairs' j ⊆ readers pairs j) ∧
      ∀ order, findOrder targets sources known = .ok order →
        ∃ order', findOrder targets sources known' = .ok order' := by
  obtain ⟨pairs, hpairs⟩ := exists_ofLists hlen known
  obtain ⟨pairs', hpairs'⟩ := exists_ofLists hlen known'
  have hfewer := readers_subset_of_known_subset hd hpairs hpairs' hsub
  exact ⟨pairs, pairs', hpairs, hpairs',
    fun j => ⟨readers_asWritten_subset hd hpairs' j, hfewer j⟩,
    fun order horder => exists_findOrder_of_readers_subset hpairs hpairs' hfewer horder⟩

/-- In `self.b, (c, *d), e = d, 1, b` the bare `b` reads the first target, unless it is known to be
a local variable; and `d` is a local variable in any case, since it is a target further inside. -/
theorem readers_err_on_safe_side_nested :
    let b : Node := .var none .localVar "b"
    let c : Node := .var none .localVar "c"
    let d : Node := .var none .localVar "d"
    let e : Node := .var none .localVar "e"
    let one : Node := .literal none .integer "1" [] true
    let setter : Node := .send none (some (.selfRef none)) "b=" []
    let targets : List Node := [setter, .nested none [c, .splat none (some d)], e]
    Node.Discernible targets [d, one, b] ∧
      (findOrder targets [d, one, b] []).map (List.map index) = .ok [2, 0, 1] ∧
      ∃ pairs pairs', ofLists targets [d, one, b] [] = .ok pairs ∧
        ofLists targets [d, one, b] ["b"] = .ok pairs' ∧
        (∀ j, readers (pairs'.map asWritten) j ⊆ readers pairs' j ∧
          readers pairs' j ⊆ readers pairs j) ∧
        ∃ order', findOrder targets [d, one, b] ["b"] = .ok order' := by
  intro b c d e one setter targets
  have hleaf : ∀ l ∈ Node.leavesList targets,
      l = .send none (some (.selfRef none)) "b=" [] ∨ ∃ name, l = .var none .localVar name := by
    intro l hl
    rcases List.mem_cons.mp hl with rfl | hl
    · exact Or.inl rfl
    · rcases List.mem_cons.mp hl with rfl | hl
      · exact Or.inr ⟨"c", rfl⟩
      · rcases List.mem_pair.mp hl with rfl | rfl
        · exact Or.inr ⟨"d", rfl⟩
        · exact Or.inr ⟨"e", rfl⟩
  have hd : Node.Discernible targets [d, one, b] := by
    refine ⟨?_, ?_, ?_⟩
    · intro s r method arguments hmem _
      rcases hleaf _ hmem with hl | ⟨_, hl⟩ <;> cases hl
      rfl
    · intro s name _ r scope hmem
      rcases hleaf _ hmem with hl | ⟨_, hl⟩ <;> cases hl
    · intro s name _ r kind hmem
      rcases hleaf _ hmem with hl | ⟨_, hl⟩ <;> cases hl
      rfl
  have horder : (findOrder targets [d, one, b] []).map (List.map index) = .ok [2, 0, 1] := by cbv
  have hlen : targets.length = [d, one, b].length := rfl
  have hsub : ([] : List String) ⊆ ["b"] := List.nil_subset _
  obtain ⟨pairs, pairs', hpairs, hpairs', hreaders, hfound⟩ := readers_err_on_safe_side hlen hd hsub
  cases hsearch : findOrder targets [d, one, b] [] with
  | error failure =>
    rw [hsearch] at horder
    cases horder
  | ok order =>
    exact ⟨hd, hsearch ▸ horder, pairs, pairs', hpairs, hpairs', hreaders, hfound order hsearch⟩

end Pair

end MultiAssign
