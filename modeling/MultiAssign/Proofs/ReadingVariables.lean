import MultiAssign.Proofs.VariableCounts

/-!
# The variables of a program that was read

Reading a concrete tree loses no variable and makes none up: the main statement,
`Node.vars_ofConcrete`, says that all visible variables of a shaped tree are in the program, and
that each variable of the program is one of the tree.  In particular a variable that is visible is
in the program exactly once.

The induction is over the concrete tree and carries `Reading.Kept`.  There is one lemma for each
rule (`Reading.Counted`), most of which only put together what is read from the fields of a node.
The rule for a trailing rescue is the exception: it takes the rescue modifier apart and puts the
guarded value back into the list on the right of the assignment (`Reading.within_ofGuarded`).
-/

namespace MultiAssign

namespace Reading

open Concrete

variable {source : Source} {v : Variable} {label : Label} {aspect : Aspect}
  {children : List Concrete} {n : Node} {ns : List Node}

/-! ### Rules -/

/-- What a concrete node denotes: no variable, and no `ensure` clause unless the node is one, with
the variables of the children of the node. -/
structure Counted (source : Source) (v : Variable) (label : Label) (aspect : Aspect)
    (children : List Concrete) (n : Node) : Prop where
  isVar : n.isVar = false
  isEnsure : n.isEnsure = true → label.construct = .ensure
  within : Within (total (shownLow source v label aspect) children)
    (total (high source v) children) (total (Node.tally v) n.children)

theorem counted_of_within (hvar : n.isVar = false) (hensure : n.isEnsure = false)
    (h : Within (total (shownLow source v label aspect) children) (total (high source v) children)
      (total (Node.tally v) n.children)) : Counted source v label aspect children n :=
  ⟨hvar, fun htrue => absurd (hensure.symm.trans htrue) Bool.false_ne_true, h⟩

/-- The bounds for a node that goes through all its children. -/
theorem within_list {a : Aspect} {k : Nat} (hbelow : ∀ child, label.below aspect child = a)
    (h : Within (total (elementLow source v a) children) (total (high source v) children) k) :
    Within (total (shownLow source v label aspect) children) (total (high source v) children) k :=
  h.mono (total_le_total fun c _ => shownLow_le (hbelow c.label)) (Nat.le_refl _)

section

variable (hkept : ∀ c ∈ children, c.Everywhere (Kept source v))
  (hspread : (Concrete.mk label children).Spread) (hshaped : (Concrete.mk label children).Shaped)

include hkept hspread hshaped

theorem counted_ofScoped (hconstruct : label.construct = .scoped)
    (hn : ofScoped source label (children.map (ofConcrete source)) = .ok n) :
    Counted source v label .code children n := by
  have hbelow : ∀ child : Label, label.below .code child = .code :=
    Label.below_code (by rw [hconstruct]; rfl)
  have hnames : label.construct.fields? = some ["scope", "name"] := by rw [hconstruct]; rfl
  obtain ⟨scope, hscope, hn⟩ := bind_eq_ok_iff.mp hn
  have hwithin := within_fields hspread hshaped hnames
    (.cons (piece_node? hkept (fun child _ => hbelow child) hscope)
      (.cons (piece_unread (by simp [Label.unread, hconstruct])) .nil))
  simp only [List.flatten_cons, List.flatten_nil, List.append_nil] at hwithin
  split at hn
  · cases hn
    exact counted_of_within rfl rfl hwithin
  · split at hn <;> cases hn
    · exact counted_of_within rfl rfl hwithin
    · refine counted_of_within rfl rfl ?_
      simpa [Node.children] using hwithin

theorem counted_ofOperatorAssignment (hconstruct : label.construct = .operatorAssignment)
    (hn : ofOperatorAssignment source (children.map (ofConcrete source)) = .ok n) :
    Counted source v label .code children n := by
  have hliteral : label.isLiteral = false := by simp [Label.isLiteral, hconstruct]
  have hplain : label.isInterpolation = false :=
    Label.isInterpolation_eq_false (by simp [hconstruct])
  have hnames : label.construct.fields? = some ["left", "right"] := by rw [hconstruct]; rfl
  unfold ofOperatorAssignment at hn
  obtain ⟨target, htarget, hn⟩ := bind_eq_ok_iff.mp hn
  obtain ⟨value, hvalue, hn⟩ := bind_eq_ok_iff.mp hn
  have hleft : Piece source v label .code children "left" [target] := by
    refine piece_required (fun c hc hn => ?_) htarget
    have hbelow : label.below .code c.label = .target := by
      simp [Label.below, hplain, hliteral, hconstruct, field_of_childField hc]
    exact ((hkept c (mem_of_childField hc)).here.target target hn).mono
      (Nat.le_trans (shownLow_le hbelow) (elementLow_le c)) (Nat.le_refl _)
  have hright := piece_requiredNode hkept
    (fun child hchild => Label.below_of_right hliteral hchild) hvalue
  have hwithin := within_fields hspread hshaped hnames (.cons hleft (.cons hright .nil))
  cases hn
  exact counted_of_within rfl rfl hwithin

theorem counted_ofCall (hconstruct : label.construct = .call)
    (hn : ofCall source label (children.map (ofConcrete source)) = .ok n) :
    Counted source v label .code children n := by
  have hbelow : ∀ child : Label, label.below .code child = .code :=
    Label.below_code (by rw [hconstruct]; rfl)
  have hnames : label.construct.fields? = some ["receiver", "method", "arguments", "block"] := by
    rw [hconstruct]
    rfl
  unfold ofCall at hn
  obtain ⟨receiver, hreceiver, hn⟩ := bind_eq_ok_iff.mp hn
  obtain ⟨arguments, harguments, hn⟩ := match_bind_eq_ok hn
  have hreceiver := piece_node? hkept (fun child _ => hbelow child) hreceiver
  have hmethod : Piece source v label .code children "method" [] :=
    piece_unread (by simp [Label.unread, hconstruct])
  have harguments := piece_elements hkept (fun child _ => hbelow child)
    (hshaped.construct_of_listed (by simp [hconstruct, Construct.listed])) harguments
  split at hn
  · next hblock =>
    rw [field?_map, Option.map_eq_none_iff] at hblock
    have hwithin := within_fields hspread hshaped hnames (.cons hreceiver
      (.cons hmethod (.cons harguments (.cons (piece_of_absent hblock) .nil))))
    cases hn
    refine counted_of_within rfl rfl ?_
    simpa [Node.children] using hwithin
  · next block hblock =>
    rw [field?_map] at hblock
    obtain ⟨c, hc, rfl⟩ := Option.map_eq_some_iff.mp hblock
    obtain ⟨body, hbody, hn⟩ := bind_eq_ok_iff.mp hn
    have hother := hshaped.construct_of_listed (by simp [hconstruct, Construct.listed]) c hc
    have hblock : Piece source v label .code children "block" body :=
      piece_of_child hc (hbelow c.label)
        (within_block (hkept c (mem_of_childField hc)) hother hbody)
    have hwithin := within_fields hspread hshaped hnames
      (.cons hreceiver (.cons hmethod (.cons harguments (.cons hblock .nil))))
    cases hn
    refine counted_of_within rfl rfl ?_
    have hcall : ∀ s m, (Node.send s receiver m arguments).tally v =
        total (Node.tally v) (receiver.toList ++ arguments) :=
      fun _ _ => Node.tally_of_isVar_eq_false rfl
    simpa [Node.children, total, hcall, total_append, Nat.add_assoc] using hwithin

theorem counted_ofRescue (hconstruct : label.construct = .rescue)
    (hn : ofRescue (children.map (ofConcrete source)) = .ok n) :
    Counted source v label .code children n := by
  have hbelow : ∀ child : Label, label.below .code child = .code :=
    Label.below_code (by rw [hconstruct]; rfl)
  have hnames : label.construct.fields? = some ["exceptions", "variable", "body"] := by
    rw [hconstruct]
    rfl
  unfold ofRescue at hn
  obtain ⟨exceptions, hexceptions, hn⟩ := match_bind_eq_ok hn
  obtain ⟨binding, hvariable, hn⟩ := match_bind_eq_ok hn
  obtain ⟨body, hbody, hn⟩ := bind_eq_ok_iff.mp hn
  have hexceptions := piece_elements hkept (fun child _ => hbelow child)
    (hshaped.construct_of_listed (by simp [hconstruct, Construct.listed])) hexceptions
  have hvariable : Piece source v label .code children "variable" binding.toList := by
    refine piece_optional (f := Option.toList) rfl (fun c hc hn => ?_) hvariable
    rw [children_ofConcrete] at hn
    have hother := hshaped.construct_of_listed (by simp [hconstruct, Construct.listed]) c hc
    exact within_inside (fun child _ => hbelow child) hc hother
      (within_head? (fun d hd => ((hkept c (mem_of_childField hc)).below d hd).here)
        (hshaped.binding hconstruct c hc) hn)
  have hbody := piece_statementsInside hkept (fun child _ => hbelow child)
    (hshaped.construct_of_wrapped (by simp [hconstruct, Construct.wrapped])) hbody
  have hwithin := within_fields hspread hshaped hnames
    (.cons hexceptions (.cons hvariable (.cons hbody .nil)))
  cases hn
  refine counted_of_within rfl rfl ?_
  simpa [Node.children] using hwithin

/-- The header of a method is not among its statements. -/
theorem counted_ofMethod {singleton : Bool} (hconstruct : label.construct = .method singleton)
    (hn : ofMethod source singleton (children.map (ofConcrete source)) = .ok n) :
    Counted source v label .code children n := by
  have hbelow : ∀ child : Label, label.below .code child = .code :=
    Label.below_code (by rw [hconstruct]; rfl)
  have hunread : label.unread .code = ["name", "parameters", "object"] := by
    simp [Label.unread, hconstruct]
  have hensures := hshaped.ensures (Or.inr (by simp [Concrete.label, Label.isMethod, hconstruct]))
  unfold ofMethod at hn
  obtain ⟨body, hbody, hn⟩ := bind_eq_ok_iff.mp hn
  simp only [named_map, List.filter_map, Function.comp_def, label_ofConcrete,
    List.filter_filter] at hbody
  have hkept' : ∀ c ∈ children, Kept source v c := fun c hc => (hkept c hc).here
  have hwithin : Within (total (shownLow source v label .code) children)
      (total (high source v) children) (total (Node.tally v) body) := by
    refine within_filter hkept' (fun c hc hpos => ?_) hbody
    have hshows := shows_of_shownLow_pos hpos
    simp only [Label.shows, Label.isElement, Bool.and_eq_true, Bool.not_eq_true'] at hshows
    obtain ⟨⟨⟨hnamed, hcomment⟩, _⟩, hread⟩ := hshows
    rw [hunread] at hread
    refine ⟨?_, hcomment, ?_⟩
    · rw [not_any_sameSpot hspread hc hread, hnamed]
      rfl
    · exact Nat.le_trans (shownLow_le (hbelow c.label)) (elementLow_le c)
  have hone : body.countP Node.isEnsure ≤ 1 := by
    refine Nat.le_trans (countP_statementsOf_le
      (fun c hc => hkept' c (List.mem_filter.mp hc).1) hbody) (Nat.le_trans ?_ hensures)
    rw [ensuresIn_eq_total, ← List.filter_filter]
    exact total_le_of_subperm List.filter_sublist.subperm
  cases hn
  exact counted_of_within rfl rfl (within_splitClauses hone hwithin)

theorem within_bodyHandler (hconstruct : label.construct = .rescueGuard) {body handler : Node}
    (hbody : requiredNode (Reading.field? "body" (children.map (ofConcrete source))) = .ok body)
    (hhandler : requiredNode (Reading.field? "handler" (children.map (ofConcrete source))) =
      .ok handler) :
    Within (total (shownLow source v label .code) children) (total (high source v) children)
      (total (Node.tally v) [body, handler]) := by
  have hbelow : ∀ child : Label, label.below .code child = .code :=
    Label.below_code (by rw [hconstruct]; rfl)
  have hnames : label.construct.fields? = some ["body", "handler"] := by rw [hconstruct]; rfl
  exact within_fields hspread hshaped hnames
    (.cons (piece_requiredNode hkept (fun child _ => hbelow child) hbody)
      (.cons (piece_requiredNode hkept (fun child _ => hbelow child) hhandler) .nil))

/-- A construct with a condition, and the fields after it. -/
theorem within_conditioned (hcode : label.construct.isCode = true) {names : List String}
    {nss : List (List Node)} {condition : Node}
    (hnames : label.construct.fields? = some ("condition" :: names))
    (hcondition : requiredNode (Reading.field? "condition" (children.map (ofConcrete source))) =
      .ok condition)
    (hrest : List.Forall₂ (Piece source v label .code children) names nss) :
    Within (total (shownLow source v label .code) children) (total (high source v) children)
      (total (Node.tally v) (condition :: nss.flatten)) := by
  have hbelow := Label.below_code hcode
  exact within_fields hspread hshaped hnames
    (.cons (piece_requiredNode hkept (fun child _ => hbelow child) hcondition) hrest)

theorem within_guard (hcode : label.construct.isCode = true)
    (hnames : label.construct.fields? = some ["condition", "body"]) {condition body : Node}
    (hcondition : requiredNode (Reading.field? "condition" (children.map (ofConcrete source))) =
      .ok condition)
    (hbody : requiredNode (Reading.field? "body" (children.map (ofConcrete source))) = .ok body) :
    Within (total (shownLow source v label .code) children) (total (high source v) children)
      (total (Node.tally v) [body, condition]) := by
  have hbelow := Label.below_code hcode
  have hwithin := within_conditioned hkept hspread hshaped hcode hnames hcondition
    (.cons (piece_requiredNode hkept (fun child _ => hbelow child) hbody) .nil)
  simpa [total, Nat.add_comm] using hwithin

theorem within_conditional {keyword : String} (hconstruct : label.construct = .conditional keyword)
    {condition : Node} {body : List Node} {alternative : Option Node}
    (hcondition : requiredNode (Reading.field? "condition" (children.map (ofConcrete source))) =
      .ok condition)
    (hbody : statementsInside (Reading.field? "consequence" (children.map (ofConcrete source))) =
      .ok body)
    (halternative : node? (Reading.field? "alternative" (children.map (ofConcrete source))) =
      .ok alternative) :
    Within (total (shownLow source v label .code) children) (total (high source v) children)
      (total (Node.tally v) (condition :: body ++ alternative.toList)) := by
  have hcode : label.construct.isCode = true := by rw [hconstruct]; rfl
  have hbelow := Label.below_code hcode
  have hother : ∀ c ∈ Concrete.field? "consequence" children, c.label.construct = .other :=
    hshaped.construct_of_wrapped (by simp [hconstruct, Construct.wrapped])
  have hwithin := within_conditioned hkept hspread hshaped hcode (by rw [hconstruct]; rfl)
    hcondition (.cons (piece_statementsInside hkept (fun child _ => hbelow child) hother hbody)
      (.cons (piece_node? hkept (fun child _ => hbelow child) halternative) .nil))
  simpa using hwithin

theorem within_loop {keyword : String} (hconstruct : label.construct = .loop keyword)
    {condition : Node} {body : List Node}
    (hcondition : requiredNode (Reading.field? "condition" (children.map (ofConcrete source))) =
      .ok condition)
    (hbody : statementsInside (Reading.field? "body" (children.map (ofConcrete source))) =
      .ok body) :
    Within (total (shownLow source v label .code) children) (total (high source v) children)
      (total (Node.tally v) (condition :: body)) := by
  have hcode : label.construct.isCode = true := by rw [hconstruct]; rfl
  have hbelow := Label.below_code hcode
  have hother : ∀ c ∈ Concrete.field? "body" children, c.label.construct = .other :=
    hshaped.construct_of_wrapped (by simp [hconstruct, Construct.wrapped])
  have hwithin := within_conditioned hkept hspread hshaped hcode (by rw [hconstruct]; rfl)
    hcondition
    (.cons (piece_statementsInside hkept (fun child _ => hbelow child) hother hbody) .nil)
  simpa using hwithin

end

/-- Of the parts of a literal, only code is looked into. -/
theorem within_literal (hkept : ∀ c ∈ children, c.Everywhere (Kept source v))
    (hliteral : label.isLiteral = true) (hother : label.construct ≠ .other)
    (hns : interpolated (children.map (ofConcrete source)) = .ok ns) :
    Within (total (shownLow source v label .code) children) (total (high source v) children)
      (total (Node.tally v) ns) := by
  have hbelow : ∀ child : Label, label.below .code child = .text := by
    simp [Label.below, Label.isInterpolation_eq_false hother, hliteral]
  exact within_list hbelow (within_interpolated hkept hns)

theorem within_clauses (hkept : ∀ c ∈ children, Kept source v c)
    (hshaped : (Concrete.mk label children).Shaped) (hconstruct : label.construct = .begin)
    (hns : statementsOf (named (children.map (ofConcrete source))) = .ok ns) :
    Within (total (shownLow source v label .code) children) (total (high source v) children)
      (total (Node.tally v) (splitClauses ns).all) := by
  have hone : ns.countP Node.isEnsure ≤ 1 := by
    have hensures := hshaped.ensures (Or.inl hconstruct)
    rw [ensuresIn_eq_total] at hensures
    refine Nat.le_trans (countP_statementsOf_le
      (fun c hc => hkept c (List.mem_filter.mp hc).1) ?_) hensures
    rw [← named_map]
    exact hns
  have hbelow : ∀ child : Label, label.below .code child = .code :=
    Label.below_code (by rw [hconstruct]; rfl)
  exact within_splitClauses hone (within_list hbelow (within_named hkept hns))

/-! ### Parallel assignments -/

theorem construct_of_trailingRescue? {right rescue : Reading}
    (h : trailingRescue? right = some rescue) :
    rescue.label.construct = .rescueGuard ∧
      (right.label.construct = .rescueGuard ∨ right.label.construct = .array false) := by
  unfold trailingRescue? at h
  split at h
  · next hconstruct =>
    cases h
    exact ⟨hconstruct, Or.inl hconstruct⟩
  · next hconstruct =>
    split at h
    · split at h <;> cases h
      exact ⟨by assumption, Or.inr hconstruct⟩
    · cases h
  · cases h

theorem within_rescueGuard {tree : Concrete} (hkept : tree.Everywhere (Kept source v))
    (hconstruct : tree.label.construct = .rescueGuard) {body handler : Node}
    (hbody : requiredNode (Reading.field? "body" (ofConcrete source tree).children) = .ok body)
    (hhandler : requiredNode (Reading.field? "handler" (ofConcrete source tree).children) =
      .ok handler) :
    Within (low source v .code tree) (high source v tree)
      (total (Node.tally v) [body, handler]) := by
  have hvar : tree.label.toVariable? source = none :=
    Label.toVariable?_eq_none fun kind => by simp [hconstruct]
  rw [children_ofConcrete] at hbody hhandler
  rw [low_eq hvar, high_eq hvar]
  cases tree
  exact within_bodyHandler hkept.below hkept.here.spread hkept.here.shaped hconstruct hbody hhandler

/-- The elements of a bare list on the right of an assignment are all there is to it. -/
theorem within_bareList {right : Concrete} {k : Nat}
    (hconstruct : right.label.construct = .array false)
    (h : Within (total (low source v .code) (Concrete.elements right.children))
      (total (high source v) (Concrete.elements right.children)) k) :
    Within (low source v .code right) (high source v right) k := by
  have hvar : right.label.toVariable? source = none :=
    Label.toVariable?_eq_none fun kind => by simp [hconstruct]
  have hbelow : ∀ child : Label, right.label.below .code child = .code :=
    Label.below_code (by rw [hconstruct]; rfl)
  refine h.mono ?_ ?_
  · rw [Concrete.elements, total_filter]
    exact low_le_of_below hvar hbelow
  · rw [high_eq hvar]
    exact total_filter_high_le _ _

theorem tally_multiAssign {s : Option Span} {targets : List Node} {value : Node} :
    (Node.multiAssign s targets value).tally v =
      total (Node.tally v) targets + value.tally v := by
  rw [Node.tally_of_isVar_eq_false rfl, Node.children, total_append]
  rfl

/-- What a trailing rescue guards moves into the assignment, and its handler out of it. -/
theorem within_ofGuarded {right : Concrete} (hright : right.Everywhere (Kept source v))
    {rescue : Reading} (hrescue : trailingRescue? (ofConcrete source right) = some rescue)
    {targets : List Node} (hn : ofGuarded source label targets (ofConcrete source right) rescue =
      .ok n) :
    n.isVar = false ∧ n.isEnsure = false ∧ ∃ ns,
      total (Node.tally v) n.children = total (Node.tally v) (targets ++ ns) ∧
      Within (low source v .code right) (high source v right) (total (Node.tally v) ns) := by
  obtain ⟨hguard, hconstruct⟩ := construct_of_trailingRescue? hrescue
  unfold ofGuarded at hn
  rcases trailingRescue?_eq_some hrescue with ⟨hwhole, rfl⟩ | ⟨hpart, before, hbefore⟩
  · rw [if_pos hwhole] at hn
    obtain ⟨guarded, hguarded, hn⟩ := bind_eq_ok_iff.mp hn
    obtain ⟨value, hvalue, hn⟩ := bind_eq_ok_iff.mp hn
    obtain ⟨handler, hhandler, ⟨⟩⟩ := bind_eq_ok_iff.mp hn
    refine ⟨rfl, rfl, [value, handler], ?_, ?_⟩
    · simp only [Node.children, total, tally_multiAssign, total_append]
      omega
    · rw [label_ofConcrete] at hwhole
      exact within_rescueGuard hright hwhole (bind_eq_ok_iff.mpr ⟨guarded, hguarded, hvalue⟩)
        hhandler
  · rw [if_neg hpart, hbefore, List.dropLast_concat] at hn
    obtain ⟨firsts, hfirsts, hn⟩ := bind_eq_ok_iff.mp hn
    obtain ⟨guarded, hguarded, hn⟩ := bind_eq_ok_iff.mp hn
    obtain ⟨last, hlast, hn⟩ := bind_eq_ok_iff.mp hn
    obtain ⟨handler, hhandler, ⟨⟩⟩ := bind_eq_ok_iff.mp hn
    have harray := hconstruct.resolve_left hpart
    rw [label_ofConcrete] at harray
    rw [children_ofConcrete, elements_map] at hbefore
    obtain ⟨firstTrees, lastTrees, helements, rfl, hlastTrees⟩ := List.map_eq_append_iff.mp hbefore
    obtain ⟨lastTree, rfl, rfl⟩ := List.map_eq_singleton_iff.mp hlastTrees
    have hmem : ∀ c ∈ Concrete.elements right.children, c.Everywhere (Kept source v) :=
      fun c hc => hright.below c (List.mem_filter.mp hc).1
    rw [helements] at hmem
    have hvalues := within_nodes
      (fun c hc => (hmem c (List.mem_append_left _ hc)).here) hfirsts
    rw [label_ofConcrete] at hguard
    have hrest := within_rescueGuard (hmem lastTree (by simp)) hguard
      (bind_eq_ok_iff.mpr ⟨guarded, hguarded, hlast⟩) hhandler
    refine ⟨rfl, rfl, firsts ++ [last, handler], ?_, within_bareList harray ?_⟩
    · have harraytally : ∀ s b, (Node.array s (firsts ++ [last]) b).tally v =
          total (Node.tally v) (firsts ++ [last]) := fun _ _ => Node.tally_of_isVar_eq_false rfl
      simp only [Node.children, total, tally_multiAssign, total_append, harraytally]
      omega
    · rw [helements, total_append, total_append, total_append]
      exact ⟨Nat.add_le_add hvalues.le hrest.le, Nat.add_le_add hvalues.ge hrest.ge⟩

/-- The right side of a parallel assignment, with a trailing rescue or without. -/
theorem within_parallel {right : Concrete} (hright : right.Everywhere (Kept source v))
    {targets : List Node}
    (hn : (match trailingRescue? (ofConcrete source right) with
      | none => do return Node.multiAssign none targets (← (ofConcrete source right).node)
      | some rescue => ofGuarded source label targets (ofConcrete source right) rescue) = .ok n) :
    n.isVar = false ∧ n.isEnsure = false ∧ ∃ ns,
      total (Node.tally v) n.children = total (Node.tally v) (targets ++ ns) ∧
      Within (low source v .code right) (high source v right) (total (Node.tally v) ns) := by
  split at hn
  · obtain ⟨value, hvalue, ⟨⟩⟩ := bind_eq_ok_iff.mp hn
    exact ⟨rfl, rfl, [value], rfl, hright.here.node value hvalue⟩
  · next rescue hrescue => exact within_ofGuarded hright hrescue hn

/-- The list on the left of an assignment is a list of targets. -/
theorem within_targetList {left : Concrete} (hleft : left.Everywhere (Kept source v))
    (hkind : left.label.kind = "left_assignment_list")
    (hns : targets (Reading.elements (ofConcrete source left).children) = .ok ns) :
    Within (low source v .targets left) (high source v left) (total (Node.tally v) ns) := by
  have hother : left.label.construct = .other := Label.construct_of_kind hkind
  have hvar := Label.toVariable?_of_other source hother
  have hbelow : ∀ child : Label, left.label.below .targets child = .target := by
    simp [Label.below, Label.isInterpolation, Label.isLiteral, hkind, hother]
  rw [children_ofConcrete] at hns
  exact (within_elementTargets (fun c hc => (hleft.below c hc).here) hns).mono
    (low_le_of_below hvar hbelow) (high_eq hvar).ge

section

variable (hkept : ∀ c ∈ children, c.Everywhere (Kept source v))

include hkept

theorem counted_ofAssignment (hspread : (Concrete.mk label children).Spread)
    (hshaped : (Concrete.mk label children).Shaped) (hconstruct : label.construct = .assignment)
    (hn : ofAssignment source label (children.map (ofConcrete source)) = .ok n) :
    Counted source v label .code children n := by
  have hliteral : label.isLiteral = false := by simp [Label.isLiteral, hconstruct]
  have hplain : label.isInterpolation = false :=
    Label.isInterpolation_eq_false (by simp [hconstruct])
  have hfields : ∀ {xs ys : List Node}, Piece source v label .code children "left" xs →
      Piece source v label .code children "right" ys →
      Within (total (shownLow source v label .code) children) (total (high source v) children)
        (total (Node.tally v) (xs ++ ys)) := by
    intro xs ys hxs hys
    have hwithin := within_fields hspread hshaped (by rw [hconstruct]; rfl)
      (.cons hxs (.cons hys .nil))
    simpa using hwithin
  unfold ofAssignment at hn
  obtain ⟨_, hrequired, hn⟩ := bind_eq_ok_iff.mp hn
  obtain ⟨left, hleft, rfl⟩ := exists_child_of_required hrequired
  have hleftkept := hkept left (mem_of_childField hleft)
  have hbelow : label.below .code left.label =
      if left.label.kind = "left_assignment_list" then .targets else .target := by
    simp [Label.below, hplain, hliteral, hconstruct, field_of_childField hleft]
  split at hn
  · next hkind =>
    rw [label_ofConcrete] at hkind
    rw [if_pos hkind] at hbelow
    obtain ⟨targets, htargets, hn⟩ := bind_eq_ok_iff.mp hn
    obtain ⟨_, hrequired', hn⟩ := bind_eq_ok_iff.mp hn
    obtain ⟨right, hright, rfl⟩ := exists_child_of_required hrequired'
    have htargets := piece_of_child hleft hbelow (within_targetList hleftkept hkind htargets)
    obtain ⟨hvar, hensure, ys, htotal, hys⟩ :=
      within_parallel (hkept right (mem_of_childField hright)) hn
    have hvalue := piece_of_child hright
      (Label.below_of_right hliteral (field_of_childField hright)) hys
    refine counted_of_within hvar hensure ?_
    rw [htotal]
    exact hfields htargets hvalue
  · next hkind =>
    rw [label_ofConcrete] at hkind
    rw [if_neg hkind] at hbelow
    obtain ⟨target, htarget, hn⟩ := bind_eq_ok_iff.mp hn
    obtain ⟨value, hvalue, ⟨⟩⟩ := bind_eq_ok_iff.mp hn
    have htarget : Piece source v label .code children "left" [target] :=
      piece_of_child hleft hbelow (hleftkept.here.target target htarget)
    exact counted_of_within rfl rfl (hfields htarget
      (piece_requiredNode hkept (fun _ h => Label.below_of_right hliteral h) hvalue))

theorem counted_ofIndex {method : String}
    (hbelow : ∀ child : Label, label.below aspect child = .code)
    (hn : ofIndex method (children.map (ofConcrete source)) = .ok n) :
    Counted source v label aspect children n := by
  unfold ofIndex at hn
  split at hn
  · cases hn
  · next receiver arguments helements =>
    obtain ⟨first, hfirst, hn⟩ := bind_eq_ok_iff.mp hn
    obtain ⟨others, hothers, hn⟩ := bind_eq_ok_iff.mp hn
    cases hn
    refine counted_of_within rfl rfl
      (within_list hbelow (within_elements (fun c hc => (hkept c hc).here) ?_))
    rw [helements]
    exact sequence_cons_eq_ok_iff.mpr ⟨first, hfirst, others, hothers, rfl⟩

end

/-! ### Targets -/

theorem kind_of_call (h : label.construct = .call) : label.kind = "call" := by
  unfold Label.construct Construct.ofKind at h
  split at h <;> first | assumption | cases h

theorem toVariable?_of_denotedTarget? {rs : List Reading} {target : Except Failure Node}
    (h : denotedTarget? source label rs = some target) : label.toVariable? source = none := by
  refine Label.toVariable?_eq_none fun kind hconstruct => ?_
  unfold denotedTarget? at h
  split at h
  all_goals first
    | next hkind => rw [Label.construct, hkind] at hconstruct; cases hconstruct
    | cases h

/-- Most nodes are as targets what they are as expressions. -/
theorem low_target {rs : List Reading} (h : denotedTarget? source label rs = none) :
    low source v .target (.mk label children) = low source v .code (.mk label children) := by
  have hkinds : label.kind ≠ "call" ∧ label.kind ≠ "rest_assignment" ∧
      label.kind ≠ "destructured_left_assignment" := by
    unfold denotedTarget? at h
    split at h
    all_goals first
      | next hcall _ hrest hdestructured => exact ⟨hcall, hrest, hdestructured⟩
      | cases h
  obtain ⟨hcall, hrest, hdestructured⟩ := hkinds
  have hunread : label.unread .target = label.unread .code := by
    unfold Label.unread
    split
    · next hconstruct => exact absurd (kind_of_call hconstruct) hcall
    all_goals rfl
  have hshows : ∀ child, label.shows .target child = label.shows .code child := by
    simp [Label.shows, hunread]
  have hbelow : ∀ child, label.below .target child = label.below .code child := by
    simp [Label.below, hrest, hdestructured]
  have hshown : shownLow source v label .target = shownLow source v label .code := by
    funext c
    rw [shownLow, shownLow, hshows, hbelow]
  cases hvar : label.toVariable? source with
  | none => rw [low_eq hvar, low_eq hvar, label_mk, hshown]
  | some w =>
    rw [low, low, visible, visible, hvar]
    rfl

/-! ### All rules together -/

section

variable (hkept : ∀ c ∈ children, c.Everywhere (Kept source v))
  (hspread : (Concrete.mk label children).Spread) (hshaped : (Concrete.mk label children).Shaped)

include hkept hspread hshaped

/-- What a concrete node denotes has the variables of the children of the node. -/
theorem counted_denoted (hvar : ∀ kind, label.construct ≠ .variable kind)
    (hn : denoted source label (children.map (ofConcrete source)) = .ok n) :
    Counted source v label .code children n := by
  have hkept' : ∀ c ∈ children, Kept source v c := fun c hc => (hkept c hc).here
  have hcode : label.construct.isCode = true → ∀ child, label.below .code child = .code :=
    Label.below_code
  revert hn
  unfold denoted
  cases hconstruct : label.construct with
  | «variable» kind => exact absurd hconstruct (hvar kind)
  | «scoped» => exact counted_ofScoped hkept hspread hshaped hconstruct
  | assignment => exact counted_ofAssignment hkept hspread hshaped hconstruct
  | operatorAssignment => exact counted_ofOperatorAssignment hkept hspread hshaped hconstruct
  | call => exact counted_ofCall hkept hspread hshaped hconstruct
  | method => exact counted_ofMethod hkept hspread hshaped hconstruct
  | rescue => exact counted_ofRescue hkept hspread hshaped hconstruct
  | index => exact counted_ofIndex hkept (hcode (by rw [hconstruct]; rfl))
  | selfRef | constant =>
    rintro ⟨⟩
    exact counted_of_within rfl rfl
      (within_fields hspread hshaped (by rw [hconstruct]; rfl) .nil)
  | word | literal =>
    intro hn
    obtain ⟨parts, hparts, ⟨⟩⟩ := bind_eq_ok_iff.mp hn
    exact counted_of_within rfl rfl
      (within_literal hkept (by simp [Label.isLiteral, hconstruct]) (by simp [hconstruct]) hparts)
  | program | other =>
    intro hn
    obtain ⟨body, hbody, ⟨⟩⟩ := bind_eq_ok_iff.mp hn
    exact counted_of_within rfl rfl
      (within_list (hcode (by rw [hconstruct]; rfl)) (within_named hkept' hbody))
  | ensure =>
    intro hn
    obtain ⟨body, hbody, ⟨⟩⟩ := bind_eq_ok_iff.mp hn
    exact ⟨rfl, fun _ => hconstruct,
      within_list (hcode (by rw [hconstruct]; rfl)) (within_named hkept' hbody)⟩
  | begin =>
    intro hn
    obtain ⟨body, hbody, ⟨⟩⟩ := bind_eq_ok_iff.mp hn
    exact counted_of_within rfl rfl (within_clauses hkept' hshaped hconstruct hbody)
  | array =>
    intro hn
    obtain ⟨ns, hns, ⟨⟩⟩ := bind_eq_ok_iff.mp hn
    exact counted_of_within rfl rfl
      (within_list (hcode (by rw [hconstruct]; rfl)) (within_elements hkept' hns))
  | splat =>
    intro hn
    obtain ⟨value, hvalue, ⟨⟩⟩ := bind_eq_ok_iff.mp hn
    exact counted_of_within rfl rfl (within_list (hcode (by rw [hconstruct]; rfl))
      (within_head? hkept' (hshaped.splat (Or.inl hconstruct)) hvalue))
  | conditionalGuard | loopGuard =>
    intro hn
    obtain ⟨condition, hcondition, hn⟩ := bind_eq_ok_iff.mp hn
    obtain ⟨body, hbody, ⟨⟩⟩ := bind_eq_ok_iff.mp hn
    exact counted_of_within rfl rfl (within_guard hkept hspread hshaped
      (by rw [hconstruct]; rfl) (by rw [hconstruct]; rfl) hcondition hbody)
  | conditional =>
    intro hn
    obtain ⟨condition, hcondition, hn⟩ := bind_eq_ok_iff.mp hn
    obtain ⟨body, hbody, hn⟩ := bind_eq_ok_iff.mp hn
    obtain ⟨alternative, halternative, ⟨⟩⟩ := bind_eq_ok_iff.mp hn
    exact counted_of_within rfl rfl
      (within_conditional hkept hspread hshaped hconstruct hcondition hbody halternative)
  | loop =>
    intro hn
    obtain ⟨condition, hcondition, hn⟩ := bind_eq_ok_iff.mp hn
    obtain ⟨body, hbody, ⟨⟩⟩ := bind_eq_ok_iff.mp hn
    exact counted_of_within rfl rfl
      (within_loop hkept hspread hshaped hconstruct hcondition hbody)
  | rescueGuard =>
    intro hn
    obtain ⟨body, hbody, hn⟩ := bind_eq_ok_iff.mp hn
    obtain ⟨handler, hhandler, ⟨⟩⟩ := bind_eq_ok_iff.mp hn
    exact counted_of_within rfl rfl
      (within_bodyHandler hkept hspread hshaped hconstruct hbody hhandler)

theorem counted_denotedTarget?
    (hn : denotedTarget? source label (children.map (ofConcrete source)) = some (.ok n)) :
    Counted source v label .target children n := by
  have hkept' : ∀ c ∈ children, Kept source v c := fun c hc => (hkept c hc).here
  unfold denotedTarget? at hn
  split at hn
  · next hkind =>
    have hconstruct : label.construct = .call := Label.construct_of_kind hkind
    obtain ⟨receiver, hreceiver, ⟨⟩⟩ := bind_eq_ok_iff.mp (Option.some.inj hn)
    have hbelow : ∀ child : Label, label.below .target child = .code := by
      simp [Label.below, Label.isInterpolation, Label.isLiteral, hkind, hconstruct]
    have hunread : ∀ name ∈ ["method", "arguments", "block"],
        Piece source v label .target children name [] :=
      fun name hname => piece_unread (by simpa [Label.unread, hconstruct] using hname)
    have hwithin := within_fields hspread hshaped (by rw [hconstruct]; rfl)
      (.cons (piece_node? hkept (fun child _ => hbelow child) hreceiver)
        (.cons (hunread "method" (by simp)) (.cons (hunread "arguments" (by simp))
          (.cons (hunread "block" (by simp)) .nil))))
    refine counted_of_within rfl rfl ?_
    simpa [Node.children] using hwithin
  · next hkind =>
    have hconstruct : label.construct = .index := Label.construct_of_kind hkind
    refine counted_ofIndex hkept ?_ (Option.some.inj hn)
    simp [Label.below, Label.isInterpolation, Label.isLiteral, hkind, hconstruct]
  · next hkind =>
    have hother : label.construct = .other := Label.construct_of_kind hkind
    have hbelow : ∀ child : Label, label.below .target child = .target := by
      simp [Label.below, Label.isInterpolation, Label.isLiteral, hkind, hother]
    have hlength : (Reading.elements (children.map (ofConcrete source))).length ≤ 1 := by
      rw [elements_map, List.length_map]
      exact hshaped.splat (Or.inr hkind)
    have hsplat := Option.some.inj hn
    split at hsplat
    · next helements =>
      cases hsplat
      refine counted_of_within rfl rfl (within_list hbelow (within_elementTargets hkept' ?_))
      rw [helements]
      rfl
    · next r rest helements =>
      obtain ⟨target, htarget, ⟨⟩⟩ := bind_eq_ok_iff.mp hsplat
      rw [helements, List.length_cons] at hlength
      obtain rfl : rest = [] := List.length_eq_zero_iff.mp (by omega)
      refine counted_of_within rfl rfl (within_list hbelow (within_elementTargets hkept' ?_))
      rw [helements]
      exact sequence_cons_eq_ok_iff.mpr ⟨target, htarget, [], rfl, rfl⟩
  · next hkind =>
    have hother : label.construct = .other := Label.construct_of_kind hkind
    have hbelow : ∀ child : Label, label.below .target child = .target := by
      simp [Label.below, Label.isInterpolation, Label.isLiteral, hkind, hother]
    obtain ⟨ns, hns, ⟨⟩⟩ := bind_eq_ok_iff.mp (Option.some.inj hn)
    exact counted_of_within rfl rfl (within_list hbelow (within_elementTargets hkept' hns))
  · cases hn

/-- A variable is read as itself, and any other node by its rule. -/
theorem within_node (hn : (ofConcrete source (.mk label children)).node = .ok n) :
    Within (low source v .code (.mk label children)) (high source v (.mk label children))
        (n.tally v) ∧ (n.isEnsure = true → label.construct = .ensure) := by
  rw [ofConcrete, ofConcreteList_eq_map] at hn
  obtain ⟨m, hm, rfl⟩ := map_eq_ok_iff.mp hn
  cases hvar : label.toVariable? source with
  | none =>
    have hcounted := counted_denoted hkept hspread hshaped
      (Label.construct_ne_of_toVariable?_eq_none hvar) hm
    rw [low_eq hvar, high_eq hvar, Node.tally_located hcounted.isVar, Node.isEnsure_located]
    exact ⟨hcounted.within, hcounted.isEnsure⟩
  | some w =>
    obtain ⟨kind, hconstruct, rfl⟩ := Label.toVariable?_eq_some hvar
    simp only [denoted, hconstruct] at hm
    cases hm
    rw [low, high, visible, vars, hvar, Node.located, Node.tally_var]
    exact ⟨⟨Nat.le_refl _, Nat.le_refl _⟩, fun h => absurd h Bool.false_ne_true⟩

theorem within_target (hn : (ofConcrete source (.mk label children)).target = .ok n) :
    Within (low source v .target (.mk label children)) (high source v (.mk label children))
      (n.tally v) := by
  have htarget := hn
  rw [ofConcrete, ofConcreteList_eq_map] at htarget
  simp only [assemble] at htarget
  split at htarget
  · next target hdenoted =>
    obtain ⟨m, rfl, rfl⟩ := map_eq_ok_iff.mp htarget
    have hcounted := counted_denotedTarget? hkept hspread hshaped hdenoted
    have hvar := toVariable?_of_denotedTarget? hdenoted
    rw [low_eq hvar, high_eq hvar, Node.tally_located hcounted.isVar]
    exact hcounted.within
  · next hdenoted =>
    rw [low_target hdenoted]
    refine (within_node hkept hspread hshaped ?_).1
    rw [ofConcrete, ofConcreteList_eq_map]
    exact htarget

omit hspread in
theorem within_parts (hinterpolation : label.isInterpolation = false)
    (hns : (ofConcrete source (.mk label children)).parts = .ok ns) :
    Within (low source v .text (.mk label children)) (high source v (.mk label children))
      (total (Node.tally v) ns) := by
  rw [ofConcrete, ofConcreteList_eq_map] at hns
  cases hvar : label.toVariable? source with
  | none =>
    rw [low_eq hvar, high_eq hvar]
    refine within_list (fun child => ?_) (within_interpolated hkept hns)
    simp [Label.below, hinterpolation]
  | some w =>
    -- There is nothing inside a variable.
    obtain ⟨kind, hconstruct, rfl⟩ := Label.toVariable?_eq_some hvar
    have hnames : label.construct.fields? = some [] := by rw [hconstruct]; rfl
    have helements : Concrete.elements children = [] := by
      refine List.eq_nil_iff_forall_not_mem.mpr fun c hc => ?_
      obtain ⟨name, hname, _⟩ := hshaped.fields [] hnames c hc
      exact absurd hname List.not_mem_nil
    obtain ⟨nss, hnss, rfl⟩ := map_eq_ok_iff.mp hns
    rw [elements_map, helements] at hnss
    cases hnss
    rw [low, visible, hvar]
    exact ⟨Nat.le_refl _, Nat.zero_le _⟩

/-- **A tree keeps a variable if its children do.** -/
theorem kept_mk : Kept source v (.mk label children) := by
  have hkept' : ∀ c ∈ children, Kept source v c := fun c hc => (hkept c hc).here
  have hstatements : ∀ ns, (ofConcrete source (.mk label children)).statements = .ok ns →
      Within (if label.isComment then 0 else low source v .code (.mk label children))
        (high source v (.mk label children)) (total (Node.tally v) ns) ∧
      ns.countP Node.isEnsure ≤ ensures (.mk label children) := by
    intro ns hns
    have hcases := hns
    rw [ofConcrete, ofConcreteList_eq_map] at hcases
    simp only [assemble] at hcases
    rw [ensures]
    split at hcases
    · next hcomment =>
      cases hcases
      rw [if_pos hcomment, if_pos hcomment]
      exact ⟨⟨Nat.le_refl _, Nat.zero_le _⟩, Nat.le_refl _⟩
    · next hcomment =>
      rw [if_neg hcomment, if_neg hcomment]
      split at hcases
      · next hwrapper =>
        have hother := Label.construct_of_isWrapper hwrapper
        have hvar := Label.toVariable?_of_other source hother
        rw [if_pos hwrapper, low_eq hvar, high_eq hvar, ensuresIn_eq_total]
        refine ⟨within_list (Label.below_of_other hother) (within_named hkept' hcases), ?_⟩
        rw [named_map] at hcases
        exact countP_statementsOf_le (fun c hc => hkept' c (List.mem_filter.mp hc).1) hcases
      · next hwrapper =>
        rw [if_neg hwrapper]
        obtain ⟨n, hn, rfl⟩ := map_eq_ok_iff.mp hcases
        have hnode : (ofConcrete source (.mk label children)).node = .ok n := by
          rw [ofConcrete, ofConcreteList_eq_map]
          exact hn
        obtain ⟨hwithin, hensure⟩ := within_node hkept hspread hshaped hnode
        refine ⟨hwithin, ?_⟩
        rw [List.countP_singleton]
        split
        · next h => rw [if_pos (hensure h)]
        · exact Nat.zero_le _
  exact {
    spread := hspread
    shaped := hshaped
    node := fun n hn => (within_node hkept hspread hshaped hn).1
    target := fun n hn => within_target hkept hspread hshaped hn
    statements := fun ns hns => (hstatements ns hns).1
    parts := fun hinterpolation ns hns => within_parts hkept hshaped hinterpolation hns
    clauses := fun ns hns => (hstatements ns hns).2 }

end

theorem kept_of_shaped {tree : Concrete} (hspread : tree.Everywhere Spread)
    (hshaped : tree.Everywhere Shaped) : tree.Everywhere (Kept source v) := by
  induction tree using Concrete.induction with
  | mk label children ih =>
    have hkept : ∀ c ∈ children, c.Everywhere (Kept source v) :=
      fun c hc => ih c hc (hspread.below c hc) (hshaped.below c hc)
    exact everywhere_iff.mpr ⟨kept_mk hkept hspread.here hshaped.here, hkept⟩

end Reading

/-- **Reading loses no variable and makes none up.**  The variables that are visible in a concrete
tree are variables of the program, and the variables of the program are variables of the tree, each
as often.  So if nodes lie in their parents and variables are not empty, a visible variable is
exactly once in the program. -/
theorem Node.vars_ofConcrete {source : Source} {tree : Concrete} {root : Node}
    (hspread : tree.Everywhere Concrete.Spread) (hshaped : tree.Everywhere Concrete.Shaped)
    (hroot : Node.ofConcrete source tree = .ok root) :
    (tree.visible source .code).Subperm root.vars ∧ root.vars.Subperm (tree.vars source) ∧
      (tree.Everywhere Concrete.Nested →
        (∀ v ∈ tree.vars source, v.span.start < v.span.stop) →
        ∀ v ∈ tree.visible source .code, root.vars.count v = 1) := by
  have hwithin : ∀ v, Within ((tree.visible source .code).count v) ((tree.vars source).count v)
      (root.vars.count v) := fun v => (Reading.kept_of_shaped hspread hshaped).here.node root hroot
  refine ⟨List.subperm_ext_iff.mpr fun v _ => (hwithin v).le,
    List.subperm_ext_iff.mpr fun v _ => (hwithin v).ge, fun hnested hlong v hv => ?_⟩
  have hpos := List.count_pos_iff.mpr hv
  have hone := List.nodup_iff_count_le_one.mp (Concrete.nodup_vars hspread hnested hlong) v
  have hbounds := hwithin v
  exact Nat.le_antisymm (Nat.le_trans hbounds.ge hone) (Nat.le_trans hpos hbounds.le)

namespace Concrete

/-- A parallel assignment with a setter among its targets and code in the text of its handler. -/
def guardedSource : Source :=
  Source.ofString "obj&.a, d = $a, 2 rescue \"x#\x7b@a\x7d\"\n" "x.rb"

def guardedTree : Concrete :=
  .mk ⟨"program", 0, 34, true, none⟩
    [.mk ⟨"rescue_modifier", 0, 33, true, none⟩
      [.mk ⟨"assignment", 0, 17, true, some "body"⟩
        [.mk ⟨"left_assignment_list", 0, 9, true, some "left"⟩
          [.mk ⟨"call", 0, 6, true, none⟩
            [.mk ⟨"identifier", 0, 3, true, some "receiver"⟩ [],
              .mk ⟨"&.", 3, 5, false, some "operator"⟩ [],
              .mk ⟨"identifier", 5, 6, true, some "method"⟩ []],
            .mk ⟨",", 6, 7, false, none⟩ [],
            .mk ⟨"identifier", 8, 9, true, none⟩ []],
          .mk ⟨"=", 10, 11, false, none⟩ [],
          .mk ⟨"right_assignment_list", 12, 17, true, some "right"⟩
            [.mk ⟨"global_variable", 12, 14, true, none⟩ [],
              .mk ⟨",", 14, 15, false, none⟩ [],
              .mk ⟨"integer", 16, 17, true, none⟩ []]],
        .mk ⟨"rescue", 18, 24, false, none⟩ [],
        .mk ⟨"string", 25, 33, true, some "handler"⟩
          [.mk ⟨"\"", 25, 26, false, none⟩ [],
            .mk ⟨"string_content", 26, 27, true, none⟩ [],
            .mk ⟨"interpolation", 27, 32, true, none⟩
              [.mk ⟨"#\x7b", 27, 29, false, none⟩ [],
                .mk ⟨"instance_variable", 29, 31, true, none⟩ [],
                .mk ⟨"\x7d", 31, 32, false, none⟩ []],
            .mk ⟨"\"", 32, 33, false, none⟩ []]]]

def guardedRoot : Node :=
  .program (some ⟨0, 34⟩)
    [.rescueModifier (some ⟨0, 33⟩)
      (.multiAssign (some ⟨0, 17⟩)
        [.send (some ⟨0, 6⟩) (some (.var (some ⟨0, 3⟩) .localVar (guardedSource.bytesText 0 3)))
            (guardedSource.bytesText 5 6 ++ "=") [],
          .var (some ⟨8, 9⟩) .localVar (guardedSource.bytesText 8 9)]
        (.array (some ⟨12, 17⟩)
          [.var (some ⟨12, 14⟩) .globalVar (guardedSource.bytesText 12 14),
            .literal (some ⟨16, 17⟩) .integer (guardedSource.bytesText 16 17) [] true] false))
      (.literal (some ⟨25, 33⟩) .string (guardedSource.bytesText 25 33)
        [.var (some ⟨29, 31⟩) .instanceVar (guardedSource.bytesText 29 31)] true)]

def guardedVisible : List Variable :=
  [⟨⟨0, 3⟩, .localVar, guardedSource.bytesText 0 3⟩,
    ⟨⟨8, 9⟩, .localVar, guardedSource.bytesText 8 9⟩,
    ⟨⟨12, 14⟩, .globalVar, guardedSource.bytesText 12 14⟩,
    ⟨⟨29, 31⟩, .instanceVar, guardedSource.bytesText 29 31⟩]

theorem ofConcrete_guardedTree : Node.ofConcrete guardedSource guardedTree = .ok guardedRoot := rfl

theorem visible_guardedTree : guardedTree.visible guardedSource .code = guardedVisible := rfl

theorem span_vars_guardedTree :
    (guardedTree.vars guardedSource).map Variable.span =
      [⟨0, 3⟩, ⟨5, 6⟩, ⟨8, 9⟩, ⟨12, 14⟩, ⟨29, 31⟩] :=
  rfl

end Concrete

/-- The receiver of the setter, the other target, the value and the variable in the text are each
once in the program that is read. -/
theorem Node.vars_ofConcrete_guarded :
    Concrete.guardedTree.Everywhere Concrete.Spread ∧
    Concrete.guardedTree.Everywhere Concrete.Shaped ∧
    Node.ofConcrete Concrete.guardedSource Concrete.guardedTree = .ok Concrete.guardedRoot ∧
    ∀ v ∈ Concrete.guardedVisible, Concrete.guardedRoot.vars.count v = 1 := by
  have hspread : Concrete.guardedTree.Everywhere Concrete.Spread := by decide
  have hshaped : Concrete.guardedTree.Everywhere Concrete.Shaped := by decide
  have hnested : Concrete.guardedTree.Everywhere Concrete.Nested := by decide
  have hspans : ∀ s ∈ (Concrete.guardedTree.vars Concrete.guardedSource).map Variable.span,
      s.start < s.stop := by
    rw [Concrete.span_vars_guardedTree]
    decide
  have hlong : ∀ v ∈ Concrete.guardedTree.vars Concrete.guardedSource,
      v.span.start < v.span.stop := fun v hv => hspans v.span (List.mem_map_of_mem hv)
  have hvars := Node.vars_ofConcrete hspread hshaped Concrete.ofConcrete_guardedTree
  rw [Concrete.visible_guardedTree] at hvars
  exact ⟨hspread, hshaped, Concrete.ofConcrete_guardedTree, hvars.2.2 hnested hlong⟩

end MultiAssign
