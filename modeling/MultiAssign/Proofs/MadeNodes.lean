import MultiAssign.Proofs.Variables

/-!
# The nodes that rules make

A syntax tree is read from a concrete tree rule by rule, and each of its nodes is made by the rule
for one concrete node.  `Reading.Makes` lists what such a rule can make: the node it gives, as an
expression or as a target, and the nodes it makes up between that one and the readings below, which
are the call of a call with a block, and the assignment and the list before a trailing rescue.

So what holds of all nodes that the rules make holds all over the tree that is read
(`Node.all_ofConcrete`).  The rules are gone through here; what is to be shown of every node of a
tree is then a matter of `Makes` alone.  The induction is over the concrete tree and carries
`Reading.Holds`, which speaks of all roles of a reading at once.
-/

namespace MultiAssign

namespace Concrete

mutual

def nodes : Concrete → List Concrete
  | mk label children => mk label children :: nodesIn children

def nodesIn : List Concrete → List Concrete
  | [] => []
  | c :: cs => c.nodes ++ nodesIn cs

end

theorem mem_nodes_self (tree : Concrete) : tree ∈ tree.nodes := by
  cases tree
  exact List.mem_cons_self

theorem nodesIn_eq (trees : List Concrete) : nodesIn trees = trees.flatMap nodes := by
  induction trees with
  | nil => rfl
  | cons c cs ih => rw [nodesIn, ih, List.flatMap_cons]

theorem mem_nodes_iff {tree d : Concrete} :
    d ∈ tree.nodes ↔ d = tree ∨ ∃ c ∈ tree.children, d ∈ c.nodes := by
  cases tree
  rw [nodes, List.mem_cons, nodesIn_eq, List.mem_flatMap]
  rfl

theorem mem_nodes_of_mem_children {tree c d : Concrete} (hc : c ∈ tree.children)
    (hd : d ∈ c.nodes) : d ∈ tree.nodes :=
  mem_nodes_iff.mpr (Or.inr ⟨c, hc, hd⟩)

theorem mem_nodes_trans {tree c d : Concrete} (hc : c ∈ tree.nodes) (hd : d ∈ c.children) :
    d ∈ tree.nodes := by
  induction tree using Concrete.induction with
  | mk label children ih =>
    rcases mem_nodes_iff.mp hc with rfl | ⟨first, hfirst, hc⟩
    · exact mem_nodes_of_mem_children hd (mem_nodes_self d)
    · exact mem_nodes_of_mem_children hfirst (ih first hfirst hc)

end Concrete

namespace Node

variable {P : Node → Prop}

/-- Something holds of a node and of all nodes below it. -/
def All (P : Node → Prop) (n : Node) : Prop := ∀ m ∈ n.walk, P m

theorem all_of_children {n : Node} (hn : P n) (h : ∀ c ∈ n.children, c.All P) : n.All P := by
  intro m hm
  rw [walk_eq] at hm
  rcases List.mem_cons.mp hm with rfl | hm
  · exact hn
  · obtain ⟨c, hc, hm⟩ := List.mem_flatMap.mp hm
    exact h c hc m hm

theorem all_pair {a b : Node} (ha : a.All P) (hb : b.All P) : ∀ c ∈ [a, b], c.All P :=
  List.forall_mem_cons.mpr ⟨ha, List.forall_mem_singleton.mpr hb⟩

theorem All.of_mem_walk {n m : Node} (h : n.All P) (hm : m ∈ n.walk) : m.All P :=
  fun _ hk => h _ (mem_walk_trans hm hk)

end Node

namespace Reading

/-- The nodes that the rule for a concrete node makes, from its label and the readings of its
children. -/
inductive Makes (source : Source) (label : Label) (children : List Reading) : Node → Prop
  | node {n : Node} (h : denoted source label children = .ok n) :
    Makes source label children (n.located (spanOf source label))
  | target {n : Node} (h : denotedTarget? source label children = some (.ok n)) :
    Makes source label children (n.located (spanOf source label))
  /-- The call of a call with a block. -/
  | call (receiver : Option Node) (arguments : List Node) :
    Makes source label children
      (.send (some (spanOf source label)) receiver (methodName source children) arguments)
  /-- The assignment before a trailing rescue. -/
  | guarded (stop : Nat) (targets : List Node) (value : Node) :
    Makes source label children
      (.multiAssign (some (source.spanOfBytes label.start stop)) targets value)
  /-- The list before a trailing rescue. -/
  | values (start stop : Nat) (elements : List Node) :
    Makes source label children (.array (some (source.spanOfBytes start stop)) elements false)

variable {P : Node → Prop}

/-- Something holds of all nodes that a reading is taken for, in any of its roles, and so it does
for the parts of the reading. -/
inductive Holds (P : Node → Prop) : Reading → Prop
  | mk {r : Reading} (children : ∀ c ∈ r.children, Holds P c)
      (node : ∀ n, r.node = .ok n → n.All P)
      (target : ∀ n, r.target = .ok n → n.All P)
      (statements : ∀ ns, r.statements = .ok ns → ∀ n ∈ ns, n.All P)
      (parts : ∀ ns, r.parts = .ok ns → ∀ n ∈ ns, n.All P) : Holds P r

namespace Holds

variable {r : Reading} {n : Node} {ns : List Node}

theorem children (h : Holds P r) : ∀ c ∈ r.children, Holds P c := by
  cases h with
  | mk children => exact children

theorem node (h : Holds P r) (hn : r.node = .ok n) : n.All P := by
  cases h with
  | mk _ node => exact node n hn

theorem target (h : Holds P r) (hn : r.target = .ok n) : n.All P := by
  cases h with
  | mk _ _ target => exact target n hn

theorem statements (h : Holds P r) (hns : r.statements = .ok ns) : ∀ n ∈ ns, n.All P := by
  cases h with
  | mk _ _ _ statements => exact statements ns hns

theorem parts (h : Holds P r) (hns : r.parts = .ok ns) : ∀ n ∈ ns, n.All P := by
  cases h with
  | mk _ _ _ _ parts => exact parts ns hns

end Holds

/-! ### Reading lists -/

theorem exists_of_mem_sequence {α : Type} {role : Reading → Except Failure α} {rs : List Reading}
    {as : List α} (h : sequence (rs.map role) = .ok as) {a : α} (ha : a ∈ as) :
    ∃ r ∈ rs, role r = .ok a := by
  induction rs generalizing as with
  | nil =>
    cases h
    exact absurd ha List.not_mem_nil
  | cons r rs ih =>
    rw [List.map_cons, sequence_cons_eq_ok_iff] at h
    obtain ⟨first, hfirst, rest, hrest, rfl⟩ := h
    rcases List.mem_cons.mp ha with rfl | ha
    · exact ⟨r, List.mem_cons_self, hfirst⟩
    · obtain ⟨r', hr', hrole⟩ := ih hrest ha
      exact ⟨r', List.mem_cons_of_mem r hr', hrole⟩

section

variable {source : Source} {label : Label} {rs children : List Reading} {n : Node}
  {ns : List Node}

theorem holds_filter (h : ∀ r ∈ rs, Holds P r) (p : Reading → Bool) :
    ∀ r ∈ rs.filter p, Holds P r :=
  fun r hr => h r (List.mem_of_mem_filter hr)

theorem all_nodes (h : ∀ r ∈ rs, Holds P r) (hns : nodes rs = .ok ns) :
    ∀ n ∈ ns, n.All P := by
  intro n hn
  obtain ⟨r, hr, hnode⟩ := exists_of_mem_sequence hns hn
  exact (h r hr).node hnode

theorem all_targets (h : ∀ r ∈ rs, Holds P r) (hns : targets rs = .ok ns) :
    ∀ n ∈ ns, n.All P := by
  intro n hn
  obtain ⟨r, hr, htarget⟩ := exists_of_mem_sequence hns hn
  exact (h r hr).target htarget

theorem all_statementsOf (h : ∀ r ∈ rs, Holds P r) (hns : statementsOf rs = .ok ns) :
    ∀ n ∈ ns, n.All P := by
  intro n hn
  obtain ⟨nss, hnss, rfl⟩ := map_eq_ok_iff.mp hns
  obtain ⟨own, hown, hn⟩ := List.mem_flatten.mp hn
  obtain ⟨r, hr, hstatements⟩ := exists_of_mem_sequence hnss hown
  exact (h r hr).statements hstatements n hn

theorem all_interpolated (h : ∀ r ∈ rs, Holds P r) (hns : interpolated rs = .ok ns) :
    ∀ n ∈ ns, n.All P := by
  intro n hn
  obtain ⟨nss, hnss, rfl⟩ := map_eq_ok_iff.mp hns
  obtain ⟨own, hown, hn⟩ := List.mem_flatten.mp hn
  obtain ⟨r, hr, hparts⟩ := exists_of_mem_sequence hnss hown
  have hr := holds_filter h _ r hr
  split at hparts
  · exact all_statementsOf (holds_filter hr.children _) hparts n hn
  · exact hr.parts hparts n hn

theorem all_splitClauses (h : ∀ r ∈ rs, Holds P r) (hns : statementsOf rs = .ok ns) :
    ∀ n ∈ (splitClauses ns).all, n.All P := by
  intro n hn
  obtain ⟨m, hm, hn⟩ := List.mem_flatMap.mp (mem_walk_of_mem_splitClauses ns n hn)
  exact (all_statementsOf h hns m hm).of_mem_walk hn

/-! ### Reading single children -/

theorem all_node? {r : Option Reading} {n : Option Node} (h : ∀ c ∈ r, Holds P c)
    (hn : node? r = .ok n) : ∀ m ∈ n.toList, m.All P := by
  cases r with
  | none =>
    cases hn
    exact nofun
  | some r =>
    obtain ⟨m, hm, rfl⟩ := map_eq_ok_iff.mp hn
    intro k hk
    rw [List.mem_singleton.mp hk]
    exact (h r rfl).node hm

theorem all_head? (h : ∀ r ∈ rs, Holds P r) {n : Option Node} (hn : node? rs.head? = .ok n) :
    ∀ m ∈ n.toList, m.All P :=
  all_node? (fun c hc => h c (List.mem_of_mem_head? hc)) hn

variable (h : ∀ c ∈ children, Holds P c) {name : String}
include h

theorem holds_field? : ∀ c ∈ field? name children, Holds P c :=
  fun c hc => h c (mem_of_field? hc)

theorem all_requiredNode (hn : requiredNode (field? name children) = .ok n) : n.All P := by
  obtain ⟨c, hc, hn⟩ := bind_eq_ok_iff.mp hn
  exact (holds_field? h c (eq_some_of_required hc)).node hn

theorem all_statementsInside (hns : statementsInside (field? name children) = .ok ns) :
    ∀ n ∈ ns, n.All P := by
  unfold statementsInside at hns
  split at hns
  · cases hns
    exact nofun
  · next c hc => exact all_statementsOf (holds_filter (holds_field? h c hc).children _) hns

theorem all_elements
    (hns : (match field? name children with
      | none => pure []
      | some r => nodes (elements r.children)) = Except.ok ns) : ∀ n ∈ ns, n.All P := by
  split at hns
  · cases hns
    exact nofun
  · next c hc => exact all_nodes (holds_filter (holds_field? h c hc).children _) hns

theorem all_binding {n : Option Node}
    (hn : (match field? name children with
      | none => pure none
      | some r => node? (elements r.children).head?) = Except.ok n) :
    ∀ m ∈ n.toList, m.All P := by
  split at hn
  · cases hn
    exact nofun
  · next c hc => exact all_head? (holds_filter (holds_field? h c hc).children _) hn

/-! ### Rules -/

theorem all_ofScoped (hn : ofScoped source label children = .ok n) :
    ∀ c ∈ n.children, c.All P := by
  obtain ⟨scope, hscope, hn⟩ := bind_eq_ok_iff.mp hn
  have hscope := all_node? (holds_field? h) hscope
  split at hn
  · cases hn
    exact hscope
  · split at hn <;> cases hn
    · exact hscope
    · exact List.forall_mem_append.mpr ⟨hscope, nofun⟩

theorem all_ofIndex {method : String} (hn : ofIndex method children = .ok n) :
    ∀ c ∈ n.children, c.All P := by
  unfold ofIndex at hn
  split at hn
  · cases hn
  · next receiver arguments helements =>
    obtain ⟨first, hfirst, hn⟩ := bind_eq_ok_iff.mp hn
    obtain ⟨others, hothers, hn⟩ := bind_eq_ok_iff.mp hn
    cases hn
    have hall : ∀ r ∈ elements children, Holds P r := holds_filter h _
    rw [helements] at hall
    exact all_nodes hall
      (sequence_cons_eq_ok_iff.mpr ⟨first, hfirst, others, hothers, rfl⟩)

theorem all_ofOperatorAssignment (hn : ofOperatorAssignment source children = .ok n) :
    ∀ c ∈ n.children, c.All P := by
  unfold ofOperatorAssignment at hn
  obtain ⟨target, htarget, hn⟩ := bind_eq_ok_iff.mp hn
  obtain ⟨value, hvalue, hn⟩ := bind_eq_ok_iff.mp hn
  cases hn
  obtain ⟨left, hleft, htarget⟩ := bind_eq_ok_iff.mp htarget
  have htarget := (holds_field? h left (eq_some_of_required hleft)).target htarget
  exact Node.all_pair htarget (all_requiredNode h hvalue)

theorem all_ofCall (hmade : ∀ m, Makes source label children m → P m)
    (hn : ofCall source label children = .ok n) : ∀ c ∈ n.children, c.All P := by
  unfold ofCall at hn
  obtain ⟨receiver, hreceiver, hn⟩ := bind_eq_ok_iff.mp hn
  obtain ⟨arguments, harguments, hn⟩ := match_bind_eq_ok hn
  have hparts := List.forall_mem_append.mpr
    ⟨all_node? (holds_field? h) hreceiver, all_elements h harguments⟩
  split at hn
  · cases hn
    exact hparts
  · next block hblock =>
    obtain ⟨body, hbody, hn⟩ := bind_eq_ok_iff.mp hn
    cases hn
    have hblock := holds_field? h block hblock
    have hbody := all_statementsOf (holds_filter (holds_filter hblock.children _) _) hbody
    have hcall := Node.all_of_children (hmade _ (.call receiver arguments)) hparts
    exact List.forall_mem_cons.mpr ⟨hcall, hbody⟩

theorem all_ofMethod {singleton : Bool} (hn : ofMethod source singleton children = .ok n) :
    ∀ c ∈ n.children, c.All P := by
  unfold ofMethod at hn
  obtain ⟨body, hbody, hn⟩ := bind_eq_ok_iff.mp hn
  cases hn
  exact all_splitClauses (holds_filter (holds_filter h _) _) hbody

theorem all_ofRescue (hn : ofRescue children = .ok n) : ∀ c ∈ n.children, c.All P := by
  unfold ofRescue at hn
  obtain ⟨exceptions, hexceptions, hn⟩ := match_bind_eq_ok hn
  obtain ⟨binding, hbinding, hn⟩ := match_bind_eq_ok hn
  obtain ⟨body, hbody, hn⟩ := bind_eq_ok_iff.mp hn
  cases hn
  refine List.forall_mem_append.mpr ⟨List.forall_mem_append.mpr ⟨?_, ?_⟩, ?_⟩
  · exact all_elements h hexceptions
  · exact all_binding h hbinding
  · exact all_statementsInside h hbody

omit h in
/-- The assignment before a trailing rescue, and the handler after it. -/
theorem all_ofGuarded (hmade : ∀ m, Makes source label children m → P m)
    {right rescue : Reading} {targets : List Node} (htargets : ∀ t ∈ targets, t.All P)
    (hright : Holds P right) (hrescue : Holds P rescue)
    (hn : ofGuarded source label targets right rescue = .ok n) :
    ∀ c ∈ n.children, c.All P := by
  have hassignment : ∀ {stop : Nat} {value : Node}, value.All P → Node.All P
      (.multiAssign (some (source.spanOfBytes label.start stop)) targets value) := by
    intro stop value hvalue
    exact Node.all_of_children (hmade _ (.guarded stop targets value))
      (List.forall_mem_append.mpr ⟨htargets, List.forall_mem_singleton.mpr hvalue⟩)
  unfold ofGuarded at hn
  split at hn
  · obtain ⟨guarded, hguarded, hn⟩ := bind_eq_ok_iff.mp hn
    obtain ⟨value, hvalue, hn⟩ := bind_eq_ok_iff.mp hn
    obtain ⟨handler, hhandler, hn⟩ := bind_eq_ok_iff.mp hn
    cases hn
    have hguarded := holds_field? hrescue.children guarded (eq_some_of_required hguarded)
    exact Node.all_pair (hassignment (hguarded.node hvalue))
      (all_requiredNode hrescue.children hhandler)
  · obtain ⟨firsts, hfirsts, hn⟩ := bind_eq_ok_iff.mp hn
    obtain ⟨guarded, hguarded, hn⟩ := bind_eq_ok_iff.mp hn
    obtain ⟨last, hlast, hn⟩ := bind_eq_ok_iff.mp hn
    obtain ⟨handler, hhandler, hn⟩ := bind_eq_ok_iff.mp hn
    cases hn
    have hguarded := holds_field? hrescue.children guarded (eq_some_of_required hguarded)
    have hfirsts : ∀ n ∈ firsts, n.All P := by
      refine all_nodes (fun r hr => ?_) hfirsts
      exact holds_filter hright.children _ r (List.dropLast_subset _ hr)
    have hvalue := List.forall_mem_append.mpr
      ⟨hfirsts, List.forall_mem_singleton.mpr (hguarded.node hlast)⟩
    have hvalue := Node.all_of_children
      (hmade _ (.values right.label.start guarded.label.stop (firsts ++ [last]))) hvalue
    exact Node.all_pair (hassignment hvalue) (all_requiredNode hrescue.children hhandler)

omit h in
theorem holds_trailingRescue? {right rescue : Reading} (hright : Holds P right)
    (h : trailingRescue? right = some rescue) : Holds P rescue := by
  rcases trailingRescue?_eq_some h with ⟨_, rfl⟩ | ⟨_, before, hbefore⟩
  · exact hright
  · have hmem : rescue ∈ elements right.children :=
      hbefore ▸ List.mem_append_right before List.mem_cons_self
    exact holds_filter hright.children _ rescue hmem

theorem all_ofAssignment (hmade : ∀ m, Makes source label children m → P m)
    (hn : ofAssignment source label children = .ok n) : ∀ c ∈ n.children, c.All P := by
  unfold ofAssignment at hn
  obtain ⟨left, hleft, hn⟩ := bind_eq_ok_iff.mp hn
  have hleft := holds_field? h left (eq_some_of_required hleft)
  split at hn
  · obtain ⟨targets, htargets, hn⟩ := bind_eq_ok_iff.mp hn
    obtain ⟨right, hright, hn⟩ := bind_eq_ok_iff.mp hn
    have hright := holds_field? h right (eq_some_of_required hright)
    have htargets := all_targets (holds_filter hleft.children _) htargets
    split at hn
    · obtain ⟨value, hvalue, hn⟩ := bind_eq_ok_iff.mp hn
      cases hn
      exact List.forall_mem_append.mpr
        ⟨htargets, List.forall_mem_singleton.mpr (hright.node hvalue)⟩
    · next rescue hrescue =>
      exact all_ofGuarded hmade htargets hright (holds_trailingRescue? hright hrescue) hn
  · obtain ⟨target, htarget, hn⟩ := bind_eq_ok_iff.mp hn
    obtain ⟨value, hvalue, hn⟩ := bind_eq_ok_iff.mp hn
    cases hn
    exact Node.all_pair (hleft.target htarget) (all_requiredNode h hvalue)

theorem all_denoted (hmade : ∀ m, Makes source label children m → P m)
    (hn : denoted source label children = .ok n) : ∀ c ∈ n.children, c.All P := by
  unfold denoted at hn
  generalize label.construct = construct at hn
  cases construct with
  | selfRef | constant | «variable» =>
    cases hn
    exact nofun
  | «scoped» => exact all_ofScoped h hn
  | assignment => exact all_ofAssignment h hmade hn
  | operatorAssignment => exact all_ofOperatorAssignment h hn
  | call => exact all_ofCall h hmade hn
  | index => exact all_ofIndex h hn
  | method => exact all_ofMethod h hn
  | rescue => exact all_ofRescue h hn
  | program | ensure | other =>
    obtain ⟨body, hbody, hn⟩ := bind_eq_ok_iff.mp hn
    cases hn
    exact all_statementsOf (holds_filter h _) hbody
  | begin =>
    obtain ⟨body, hbody, hn⟩ := bind_eq_ok_iff.mp hn
    cases hn
    exact all_splitClauses (holds_filter h _) hbody
  | word | literal =>
    obtain ⟨parts, hparts, hn⟩ := bind_eq_ok_iff.mp hn
    cases hn
    exact all_interpolated h hparts
  | array =>
    obtain ⟨ns, hns, hn⟩ := bind_eq_ok_iff.mp hn
    cases hn
    exact all_nodes (holds_filter h _) hns
  | splat =>
    obtain ⟨value, hvalue, hn⟩ := bind_eq_ok_iff.mp hn
    cases hn
    exact all_head? (holds_filter h _) hvalue
  | conditionalGuard | loopGuard =>
    obtain ⟨condition, hcondition, hn⟩ := bind_eq_ok_iff.mp hn
    obtain ⟨body, hbody, hn⟩ := bind_eq_ok_iff.mp hn
    cases hn
    exact Node.all_pair (all_requiredNode h hbody) (all_requiredNode h hcondition)
  | conditional =>
    obtain ⟨condition, hcondition, hn⟩ := bind_eq_ok_iff.mp hn
    obtain ⟨body, hbody, hn⟩ := bind_eq_ok_iff.mp hn
    obtain ⟨alternative, halternative, hn⟩ := bind_eq_ok_iff.mp hn
    cases hn
    refine List.forall_mem_append.mpr ⟨List.forall_mem_cons.mpr ⟨?_, ?_⟩, ?_⟩
    · exact all_requiredNode h hcondition
    · exact all_statementsInside h hbody
    · exact all_node? (holds_field? h) halternative
  | loop =>
    obtain ⟨condition, hcondition, hn⟩ := bind_eq_ok_iff.mp hn
    obtain ⟨body, hbody, hn⟩ := bind_eq_ok_iff.mp hn
    cases hn
    exact List.forall_mem_cons.mpr
      ⟨all_requiredNode h hcondition, all_statementsInside h hbody⟩
  | rescueGuard =>
    obtain ⟨body, hbody, hn⟩ := bind_eq_ok_iff.mp hn
    obtain ⟨handler, hhandler, hn⟩ := bind_eq_ok_iff.mp hn
    cases hn
    exact Node.all_pair (all_requiredNode h hbody) (all_requiredNode h hhandler)

theorem all_denotedTarget? (hn : denotedTarget? source label children = some (.ok n)) :
    ∀ c ∈ n.children, c.All P := by
  unfold denotedTarget? at hn
  split at hn
  · obtain ⟨receiver, hreceiver, hn⟩ := bind_eq_ok_iff.mp (Option.some.inj hn)
    cases hn
    exact List.forall_mem_append.mpr ⟨all_node? (holds_field? h) hreceiver, nofun⟩
  · exact all_ofIndex h (Option.some.inj hn)
  · have hn := Option.some.inj hn
    split at hn
    · cases hn
      exact nofun
    · next r rest hr =>
      obtain ⟨target, htarget, hn⟩ := bind_eq_ok_iff.mp hn
      cases hn
      have hmem : r ∈ elements children := hr ▸ List.mem_cons_self
      exact List.forall_mem_singleton.mpr ((holds_filter h _ r hmem).target htarget)
  · obtain ⟨targets, htargets, hn⟩ := bind_eq_ok_iff.mp (Option.some.inj hn)
    cases hn
    exact all_targets (holds_filter h _) htargets
  · cases hn

/-- **What is put together from readings of a kind is of that kind**, if what is made on the way
is. -/
theorem holds_assemble (hmade : ∀ m, Makes source label children m → P m) :
    Holds P (assemble source label children) := by
  have hlocated : ∀ m : Node, P (m.located (spanOf source label)) →
      (∀ c ∈ m.children, c.All P) → Node.All P (m.located (spanOf source label)) := by
    intro m hm hchildren
    rw [← m.children_located (spanOf source label)] at hchildren
    exact Node.all_of_children hm hchildren
  have hnode : ∀ n, (assemble source label children).node = .ok n → n.All P := by
    intro n hn
    obtain ⟨m, hm, rfl⟩ := map_eq_ok_iff.mp hn
    exact hlocated m (hmade _ (.node hm)) (all_denoted h hmade hm)
  refine .mk h hnode ?_ ?_ ?_
  · intro n hn
    simp only [assemble] at hn
    split at hn
    · next target htarget =>
      obtain ⟨m, rfl, rfl⟩ := map_eq_ok_iff.mp hn
      exact hlocated m (hmade _ (.target htarget)) (all_denotedTarget? h htarget)
    · exact hnode n hn
  · intro ns hns
    simp only [assemble] at hns
    split at hns
    · cases hns
      exact fun _ hn => absurd hn List.not_mem_nil
    · split at hns
      · exact all_statementsOf (holds_filter h _) hns
      · obtain ⟨n, hn, rfl⟩ := map_eq_ok_iff.mp hns
        exact List.forall_mem_singleton.mpr (hnode n hn)
  · intro ns hns
    exact all_interpolated h hns

end

/-- The reading of a tree is of a kind if all that the rules make for its nodes is. -/
theorem holds_ofConcrete (source : Source) (tree : Concrete)
    (hmade : ∀ c ∈ tree.nodes, ∀ m,
      Makes source c.label (ofConcreteList source c.children) m → P m) :
    Holds P (ofConcrete source tree) := by
  induction tree using Concrete.induction with
  | mk label children ih =>
    have hchildren : ∀ r ∈ ofConcreteList source children, Holds P r := by
      intro r hr
      rw [ofConcreteList_eq_map] at hr
      obtain ⟨c, hc, rfl⟩ := List.mem_map.mp hr
      exact ih c hc fun d hd => hmade d (Concrete.mem_nodes_of_mem_children hc hd)
    exact holds_assemble hchildren (hmade _ (Concrete.mem_nodes_self _))

end Reading

/-- **What holds of all that the rules make holds of all that is read.** -/
theorem Node.all_ofConcrete {P : Node → Prop} {source : Source} {tree : Concrete} {root : Node}
    (hroot : Node.ofConcrete source tree = .ok root)
    (hmade : ∀ c ∈ tree.nodes, ∀ m,
      Reading.Makes source c.label (Reading.ofConcreteList source c.children) m → P m) :
    root.All P :=
  (Reading.holds_ofConcrete source tree hmade).node hroot

end MultiAssign
