import MultiAssign.Proofs.Walk
import MultiAssign.Proofs.Same
import MultiAssign.Proofs.TargetPlaces
import Mathlib.Data.List.Forall2

/-!
# The analysis sees syntax alone

Where the parts of an assignment stand in a text has no influence on how it is analysed.  Nodes that
say the same can be put for each other: `Node.same` is an equivalence, and assignments of the same
sources to the same targets are emitted in the same order, or fail in the same way
(`Pair.findOrder_of_same`).

The reason is that taking the ranges out of a node commutes with everything that the analysis does
to it.  It commutes with the walk (`walk_unlocated`), so an expression without its ranges reads the
same targets (`readsTarget_unlocated`), and it commutes with making a call on `self` explicit
(`unlocated_withSelf`).  Pairs that are alike in this sense have the same readers, and the search
for an order knows nothing else of them.
-/

namespace MultiAssign

namespace Node

/-! ### Nodes without their ranges -/

theorem unlocatedList_eq_map (nodes : List Node) : unlocatedList nodes = nodes.map unlocated := by
  induction nodes with
  | nil => rfl
  | cons n ns ih => rw [unlocatedList, ih, List.map_cons]

theorem unlocatedOption_eq_map (node : Option Node) :
    unlocatedOption node = node.map unlocated := by
  cases node <;> rfl

mutual

theorem unlocated_unlocated : ∀ n : Node, n.unlocated.unlocated = n.unlocated
  | program _ body => by simp [unlocated, unlocatedList_unlocatedList body]
  | var .. => rfl
  | const _ _ scope => by simp [unlocated, unlocatedOption_unlocatedOption scope]
  | selfRef _ => rfl
  | literal _ _ _ parts _ => by simp [unlocated, unlocatedList_unlocatedList parts]
  | array _ elements _ => by simp [unlocated, unlocatedList_unlocatedList elements]
  | splat _ value => by simp [unlocated, unlocatedOption_unlocatedOption value]
  | send _ receiver _ arguments => by
    simp [unlocated, unlocatedOption_unlocatedOption receiver,
      unlocatedList_unlocatedList arguments]
  | block _ call body => by
    simp [unlocated, unlocated_unlocated call, unlocatedList_unlocatedList body]
  | multiAssign _ targets value => by
    simp [unlocated, unlocated_unlocated value, unlocatedList_unlocatedList targets]
  | assign _ target value _ => by
    simp [unlocated, unlocated_unlocated target, unlocated_unlocated value]
  | nested _ targets => by simp [unlocated, unlocatedList_unlocatedList targets]
  | conditional _ _ condition body alternative _ _ => by
    simp [unlocated, unlocated_unlocated condition, unlocatedList_unlocatedList body,
      unlocatedOption_unlocatedOption alternative]
  | loop _ _ condition body _ _ => by
    simp [unlocated, unlocated_unlocated condition, unlocatedList_unlocatedList body]
  | rescueModifier _ body handler => by
    simp [unlocated, unlocated_unlocated body, unlocated_unlocated handler]
  | rescueClause _ exceptions binding body => by
    simp [unlocated, unlocatedList_unlocatedList exceptions,
      unlocatedOption_unlocatedOption binding, unlocatedList_unlocatedList body]
  | ensure _ body => by simp [unlocated, unlocatedList_unlocatedList body]
  | begin _ body rescues elseBody ensured => by
    simp [unlocated, unlocatedList_unlocatedList body, unlocatedList_unlocatedList rescues,
      unlocatedList_unlocatedList elseBody, unlocatedOption_unlocatedOption ensured]
  | methodDef _ _ body _ rescues elseBody ensured => by
    simp [unlocated, unlocatedList_unlocatedList body, unlocatedList_unlocatedList rescues,
      unlocatedList_unlocatedList elseBody, unlocatedOption_unlocatedOption ensured]
  | other _ _ contents _ => by simp [unlocated, unlocatedList_unlocatedList contents]

theorem unlocatedList_unlocatedList : ∀ ns : List Node,
    unlocatedList (unlocatedList ns) = unlocatedList ns
  | [] => rfl
  | n :: ns => by simp [unlocatedList, unlocated_unlocated n, unlocatedList_unlocatedList ns]

theorem unlocatedOption_unlocatedOption : ∀ n : Option Node,
    unlocatedOption (unlocatedOption n) = unlocatedOption n
  | none => rfl
  | some n => by simp [unlocatedOption, unlocated_unlocated n]

end

theorem children_unlocated (n : Node) : n.unlocated.children = n.children.map unlocated := by
  cases n <;>
    simp only [unlocated, children, unlocatedList_eq_map, unlocatedOption_eq_map] <;>
    (try split) <;> simp [Option.toList_map]

theorem walk_unlocated (n : Node) : n.unlocated.walk = n.walk.map unlocated := by
  have hstack : ∀ stack : List Node,
      unstack children size total_size_children_lt (stack.map unlocated) =
        (unstack children size total_size_children_lt stack).map unlocated := by
    intro stack
    fun_induction unstack children size total_size_children_lt stack with
    | case1 => simp [unstack]
    | case2 a rest ih =>
      rw [List.map_cons, unstack, children_unlocated, ← List.map_append, ih, List.map_cons]
  exact hstack [n]

/-! ### What an expression without its ranges reads -/

theorem assignedName?_unlocated (n : Node) : n.unlocated.assignedName? = n.assignedName? := by
  cases n <;> rfl

theorem readsName_unlocated (n : Node) (name : String) :
    n.unlocated.readsName name = n.readsName name := by
  simp only [readsName, contains, walk_unlocated, List.any_map, Function.comp_def,
    assignedName?_unlocated]

theorem sameOption_unlocated_left (a b : Option Node) :
    sameOption (unlocatedOption a) b = sameOption a b := by
  rw [Bool.eq_iff_iff, sameOption_iff, sameOption_iff, unlocatedOption_unlocatedOption]

theorem sameList_unlocated_left (as bs : List Node) :
    sameList (unlocatedList as) bs = sameList as bs := by
  rw [Bool.eq_iff_iff, sameList_iff, sameList_iff, unlocatedList_unlocatedList]

theorem matchingCalls_unlocated (n : Node) (receiver : Option Node) (method : String) :
    n.unlocated.matchingCalls receiver method =
      (n.matchingCalls receiver method).map unlocatedList := by
  simp only [matchingCalls, walk_unlocated, List.filterMap_map, List.map_filterMap]
  refine List.filterMap_congr fun m _ => ?_
  cases m with
  | send _ r m arguments =>
    simp only [Function.comp_apply, unlocated, sameOption_unlocated_left]
    split <;> rfl
  | _ => rfl

theorem accesses_unlocated (source : Node) (receiver : Option Node) (method : String)
    (arguments : List Node) :
    source.unlocated.accesses receiver method arguments =
      source.accesses receiver method arguments := by
  simp only [accesses, matchingCalls_unlocated, List.any_map, Function.comp_def,
    sameList_unlocated_left, List.isEmpty_map]

mutual

/-- **An expression without its ranges reads the same targets.** -/
theorem readsTarget_unlocated (source : Node) : ∀ t : Node,
    source.unlocated.readsTarget t = source.readsTarget t := by
  intro t
  cases t with
  | var _ _ name => exact readsName_unlocated source name
  | const _ name _ => exact readsName_unlocated source name
  | send _ receiver method arguments =>
    rw [readsTarget, readsTarget, accesses_unlocated]
  | nested _ targets => exact readsAny_unlocated source targets
  | splat _ value =>
    cases value with
    | none => rfl
    | some value => exact readsTarget_unlocated source value
  | _ => rfl

theorem readsAny_unlocated (source : Node) : ∀ ts : List Node,
    source.unlocated.readsAny ts = source.readsAny ts
  | [] => rfl
  | t :: ts => by
    rw [readsAny, readsAny, readsTarget_unlocated source t, readsAny_unlocated source ts]

end

/-- Whether a read is found depends on what expression and target say. -/
theorem readsTarget_of_same_of_same {source source' t t' : Node} (hsource : same source source')
    (ht : same t t') : source.readsTarget t = source'.readsTarget t' := by
  rw [← readsTarget_unlocated source, ← readsTarget_unlocated source',
    (same_iff source source').mp hsource]
  exact readsTarget_congr ht

/-! ### Local variables and calls on `self` -/

mutual

theorem localNames_unlocated : ∀ t : Node, t.unlocated.localNames = t.localNames := by
  intro t
  cases t with
  | var _ kind _ => cases kind <;> rfl
  | nested _ targets => exact localNamesList_unlocated targets
  | splat _ value =>
    cases value with
    | none => rfl
    | some value => exact localNames_unlocated value
  | _ => rfl

theorem localNamesList_unlocated : ∀ ts : List Node,
    localNamesList (unlocatedList ts) = localNamesList ts
  | [] => rfl
  | t :: ts => by
    rw [unlocatedList, localNamesList, localNamesList, localNames_unlocated t,
      localNamesList_unlocated ts]

end

theorem unlocated_withSelf (locals : List String) (source : Node) :
    (source.withSelf locals).unlocated = source.unlocated.withSelf locals := by
  cases source with
  | send _ receiver method arguments =>
    cases receiver with
    | none => cases arguments <;> rfl
    | some receiver => rfl
  | var _ kind name =>
    cases kind with
    | localVar =>
      simp only [withSelf, selfCall?, unlocated]
      split <;> rfl
    | _ => rfl
  | _ => rfl

theorem same_withSelf {locals locals' : List String} (h : ∀ name, name ∈ locals ↔ name ∈ locals')
    {source source' : Node} (hsource : same source source') :
    same (source.withSelf locals) (source'.withSelf locals') := by
  rw [same_iff, unlocated_withSelf, unlocated_withSelf, (same_iff source source').mp hsource]
  exact withSelf_congr h _

/-! ### Lists of nodes that say the same -/

theorem same_equivalence : Equivalence fun a b : Node => same a b = true where
  refl a := (same_iff a a).mpr rfl
  symm {a b} h := (same_iff b a).mpr ((same_iff a b).mp h).symm
  trans {a b c} hab hbc :=
    (same_iff a c).mpr (((same_iff a b).mp hab).trans ((same_iff b c).mp hbc))

variable {nodes nodes' : List Node}

theorem unlocatedList_eq_of_forall₂ (h : List.Forall₂ (fun a b => same a b) nodes nodes') :
    unlocatedList nodes = unlocatedList nodes' := by
  induction h with
  | nil => rfl
  | cons hhead _ ih => rw [unlocatedList, unlocatedList, (same_iff _ _).mp hhead, ih]

theorem localNamesList_of_same (h : List.Forall₂ (fun a b => same a b) nodes nodes') :
    localNamesList nodes = localNamesList nodes' := by
  rw [← localNamesList_unlocated nodes, unlocatedList_eq_of_forall₂ h, localNamesList_unlocated]

/-! ### Forms that the rule leaves alone -/

theorem isSplat_unlocated (n : Node) : n.unlocated.isSplat = n.isSplat := by
  cases n <;> rfl

theorem any_isSplat_of_same (h : List.Forall₂ (fun a b => same a b) nodes nodes') :
    nodes.any isSplat = nodes'.any isSplat := by
  have hany : ∀ ns : List Node, ns.any isSplat = (unlocatedList ns).any isSplat := by
    intro ns
    simp only [unlocatedList_eq_map, List.any_map, Function.comp_def, isSplat_unlocated]
  rw [hany nodes, unlocatedList_eq_of_forall₂ h, ← hany]

theorem exemptTargets_of_same (h : List.Forall₂ (fun a b => same a b) nodes nodes') :
    exemptTargets nodes = exemptTargets nodes' := by
  rw [exemptTargets, exemptTargets, h.length_eq, any_isSplat_of_same h]

theorem exemptValue_unlocated (value : Node) : value.unlocated.exemptValue = value.exemptValue := by
  cases value with
  | array _ elements _ =>
    simp only [unlocated, exemptValue, isCall, unlocatedList_eq_map, List.any_map,
      Function.comp_def, isSplat_unlocated]
  | _ => rfl

theorem exemptValue_of_same {value value' : Node} (h : same value value') :
    value.exemptValue = value'.exemptValue := by
  rw [← exemptValue_unlocated value, (same_iff value value').mp h, exemptValue_unlocated]

end Node

namespace Pair

/-- Two pairs with one number that say the same. -/
structure Alike (p p' : Pair) : Prop where
  index : p.index = p'.index
  target : p.target.same p'.target
  analyzed : p.analyzed.same p'.analyzed

variable {targets targets' sources sources' : List Node} {known known' : List String}
  {pairs pairs' : List Pair}

theorem forall₂_alike_zipFrom {locals locals' : List String}
    (hlocals : ∀ name, name ∈ locals ↔ name ∈ locals')
    (htargets : List.Forall₂ (fun a b => Node.same a b) targets targets')
    (hsources : List.Forall₂ (fun a b => Node.same a b) sources sources') (n : Nat) :
    List.Forall₂ Alike (zipFrom locals n targets sources)
      (zipFrom locals' n targets' sources') := by
  induction htargets generalizing n sources sources' with
  | nil => exact .nil
  | cons htarget _ ih =>
    cases hsources with
    | nil => exact .nil
    | cons hsource hsources =>
      exact .cons ⟨rfl, htarget, Node.same_withSelf hlocals hsource⟩ (ih hsources (n + 1))

theorem Alike.reads {p p' w w' : Pair} (hp : Alike p p') (hw : Alike w w') :
    p.reads w = p'.reads w' :=
  Node.readsTarget_of_same_of_same hp.analyzed hw.target

theorem readersOf_of_alike {w w' : Pair} (h : List.Forall₂ Alike pairs pairs') (hw : Alike w w') :
    readersOf pairs w = readersOf pairs' w' := by
  induction h with
  | nil => rfl
  | cons hp _ ih =>
    rw [readersOf, readersOf] at ih ⊢
    rw [List.filter_cons, List.filter_cons, hp.reads hw]
    split
    · rw [List.map_cons, List.map_cons, ih, hp.index]
    · exact ih

theorem readers_of_alike (h : List.Forall₂ Alike pairs pairs') :
    readers pairs = readers pairs' := by
  funext i
  unfold readers
  by_cases hi : i < pairs.length
  · have hi' : i < pairs'.length := h.length_eq ▸ hi
    rw [List.getElem?_eq_getElem hi, List.getElem?_eq_getElem hi']
    exact readersOf_of_alike h (h.get hi hi')
  · have hi' : ¬ i < pairs'.length := h.length_eq ▸ hi
    rw [List.getElem?_eq_none (Nat.le_of_not_lt hi), List.getElem?_eq_none (Nat.le_of_not_lt hi')]

/-- The numbers of the pairs, in the order in which the search gives them. -/
theorem Numbered.map_index_order (h : Numbered pairs) :
    (order pairs).map (List.map index) = Order.ofReaders pairs.length (readers pairs) := by
  rw [order]
  cases hsearch : Order.ofReaders pairs.length (readers pairs) with
  | error failure => rfl
  | ok indices =>
    have hlt : ∀ i ∈ indices, i < pairs.length := fun i hi =>
      List.mem_range.mp ((Order.perm_of_ofReaders hsearch).mem_iff.mp hi)
    exact congrArg Except.ok (h.map_index_filterMap indices hlt)

theorem map_index_findOrder (h : ofLists targets sources known = .ok pairs) :
    (findOrder targets sources known).map (List.map index) =
      Order.ofReaders pairs.length (readers pairs) := by
  rw [findOrder_of_ofLists h]
  exact (numbered_of_ofLists h).map_index_order

theorem findOrder_of_length_ne (h : targets.length ≠ sources.length) :
    findOrder targets sources known = .error (.unpaired targets.length sources.length) := by
  rw [findOrder, ofLists, if_neg h]
  rfl

/-- The same sources for the same targets are emitted in the same sequence, or not at all. -/
theorem map_index_findOrder_of_same
    (htargets : List.Forall₂ (fun a b => Node.same a b) targets targets')
    (hsources : List.Forall₂ (fun a b => Node.same a b) sources sources')
    (hknown : ∀ name, name ∈ known ↔ name ∈ known') :
    (findOrder targets sources known).map (List.map index) =
      (findOrder targets' sources' known').map (List.map index) := by
  have hlocals : ∀ name, name ∈ Node.localNamesList targets ++ known ↔
      name ∈ Node.localNamesList targets' ++ known' := by
    intro name
    rw [List.mem_append, List.mem_append, Node.localNamesList_of_same htargets, hknown]
  by_cases hlen : targets.length = sources.length
  · have hlen' : targets'.length = sources'.length := by
      rw [← htargets.length_eq, hlen, hsources.length_eq]
    have halike := forall₂_alike_zipFrom hlocals htargets hsources 0
    rw [map_index_findOrder (ofLists_eq_ok_iff.mpr ⟨hlen, rfl⟩),
      map_index_findOrder (ofLists_eq_ok_iff.mpr ⟨hlen', rfl⟩), halike.length_eq,
      readers_of_alike halike]
  · have hlen' : targets'.length ≠ sources'.length := by
      rwa [← htargets.length_eq, ← hsources.length_eq]
    rw [findOrder_of_length_ne hlen, findOrder_of_length_ne hlen', htargets.length_eq,
      hsources.length_eq]

/-- **The order of an assignment depends on syntax alone.**  Saying the same is an equivalence on
nodes.  Of two assignments whose targets and sources say the same one by one, where the same local
variables are known, both have an order, which takes the pairs in the same sequence, or both fail
for the same reason.  And the rule leaves alone the targets of both or of neither, and likewise
their values. -/
theorem findOrder_of_same :
    (Equivalence fun a b : Node => a.same b = true) ∧
    (∀ (targets targets' sources sources' : List Node) (known known' : List String),
      List.Forall₂ (fun a b => a.same b = true) targets targets' →
      List.Forall₂ (fun a b => a.same b = true) sources sources' →
      (∀ name, name ∈ known ↔ name ∈ known') →
      (findOrder targets sources known).map (List.map index) =
        (findOrder targets' sources' known').map (List.map index) ∧
      Node.exemptTargets targets = Node.exemptTargets targets' ∧
      ∀ span span' bracketed bracketed', (Node.array span sources bracketed).exemptValue =
        (Node.array span' sources' bracketed').exemptValue) ∧
    ∀ value value' : Node, value.same value' = true → value.exemptValue = value'.exemptValue := by
  refine ⟨Node.same_equivalence, ?_, fun value value' h => Node.exemptValue_of_same h⟩
  intro targets targets' sources sources' known known' htargets hsources hknown
  exact ⟨map_index_findOrder_of_same htargets hsources hknown,
    Node.exemptTargets_of_same htargets, fun _ _ _ _ => Node.any_isSplat_of_same hsources⟩

/-- `a, b = 1, a` is emitted alike where it stands at the start of a text and where it was made
up. -/
theorem findOrder_of_same_moved :
    let one : Node := .literal none .integer "1" [] true
    let a : Node := .var none .localVar "a"
    let b : Node := .var none .localVar "b"
    let one' : Node := .literal (some ⟨7, 8⟩) .integer "1" [] true
    let a' : Node := .var (some ⟨0, 1⟩) .localVar "a"
    let b' : Node := .var (some ⟨3, 4⟩) .localVar "b"
    let a'' : Node := .var (some ⟨10, 11⟩) .localVar "a"
    List.Forall₂ (fun a b => a.same b = true) [a, b] [a', b'] ∧
      List.Forall₂ (fun a b => a.same b = true) [one, a] [one', a''] ∧
      (findOrder [a', b'] [one', a''] []).map (List.map index) = .ok [1, 0] ∧
      (findOrder [a, b] [one, a] []).map (List.map index) = .ok [1, 0] := by
  intro one a b one' a' b' a''
  have htargets : List.Forall₂ (fun a b => a.same b = true) [a, b] [a', b'] :=
    .cons (by decide) (.cons (by decide) .nil)
  have hsources : List.Forall₂ (fun a b => a.same b = true) [one, a] [one', a''] :=
    .cons (by decide) (.cons (by decide) .nil)
  have horder : (findOrder [a', b'] [one', a''] []).map (List.map index) = .ok [1, 0] := by cbv
  refine ⟨htargets, hsources, horder, ?_⟩
  rw [(findOrder_of_same.2.1 _ _ _ _ [] [] htargets hsources fun _ => Iff.rfl).1]
  exact horder

end Pair

end MultiAssign
