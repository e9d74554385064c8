import MultiAssign.Proofs.KnownNames
import MultiAssign.Proofs.MadeNodes
import MultiAssign.Proofs.SpelledWords
import Mathlib.Logic.Relation

/-!
# Reads at any depth

An expression reads a target if anything inside of it does, and this file says that no construct
hides what is inside (`Node.readsTarget_at_any_depth`).  What is inside of a node is said without
the walk: `Node.FieldOf` lists the fields of each construct, and `Node.Within` follows fields to any
depth.

Both come down to one comparison, that of the fields of a node with its children
(`Node.FieldOf.mem_children`, `Node.fieldOf_of_mem_children`).  They differ in one place: a guard
behind its statement counts no alternative among its children.  It never has one in a program that
was read (`Node.plainGuard_of_ofConcrete`).
-/

namespace MultiAssign

namespace Node

open Relation (ReflTransGen)

/-! ### What is inside of a node -/

/-- A node stands in a field of another one: it is the field, or it is there in an optional field,
or it is a member of a list. -/
inductive FieldOf (m : Node) : Node → Prop
  | programBody {s body} (h : m ∈ body) : FieldOf m (program s body)
  | constScope {s name} : FieldOf m (const s name (some m))
  | literalParts {s kind value parts delimited} (h : m ∈ parts) :
    FieldOf m (literal s kind value parts delimited)
  | arrayElements {s elements bracketed} (h : m ∈ elements) : FieldOf m (array s elements bracketed)
  | splatValue {s} : FieldOf m (splat s (some m))
  | sendReceiver {s method arguments} : FieldOf m (send s (some m) method arguments)
  | sendArguments {s receiver method arguments} (h : m ∈ arguments) :
    FieldOf m (send s receiver method arguments)
  | blockCall {s body} : FieldOf m (block s m body)
  | blockBody {s call body} (h : m ∈ body) : FieldOf m (block s call body)
  | multiAssignTargets {s targets value} (h : m ∈ targets) : FieldOf m (multiAssign s targets value)
  | multiAssignValue {s targets} : FieldOf m (multiAssign s targets m)
  | assignTarget {s value operator} : FieldOf m (assign s m value operator)
  | assignValue {s target operator} : FieldOf m (assign s target m operator)
  | nestedTargets {s targets} (h : m ∈ targets) : FieldOf m (nested s targets)
  | conditionalCondition {s keyword body alternative modifier ks} :
    FieldOf m (conditional s keyword m body alternative modifier ks)
  | conditionalBody {s keyword condition body alternative modifier ks} (h : m ∈ body) :
    FieldOf m (conditional s keyword condition body alternative modifier ks)
  | conditionalAlternative {s keyword condition body modifier ks} :
    FieldOf m (conditional s keyword condition body (some m) modifier ks)
  | loopCondition {s keyword body modifier ks} : FieldOf m (loop s keyword m body modifier ks)
  | loopBody {s keyword condition body modifier ks} (h : m ∈ body) :
    FieldOf m (loop s keyword condition body modifier ks)
  | rescueModifierBody {s handler} : FieldOf m (rescueModifier s m handler)
  | rescueModifierHandler {s body} : FieldOf m (rescueModifier s body m)
  | rescueClauseExceptions {s exceptions binding body} (h : m ∈ exceptions) :
    FieldOf m (rescueClause s exceptions binding body)
  | rescueClauseBinding {s exceptions body} : FieldOf m (rescueClause s exceptions (some m) body)
  | rescueClauseBody {s exceptions binding body} (h : m ∈ body) :
    FieldOf m (rescueClause s exceptions binding body)
  | ensureBody {s body} (h : m ∈ body) : FieldOf m (ensure s body)
  | beginBody {s body rescues elseBody ensured} (h : m ∈ body) :
    FieldOf m (begin s body rescues elseBody ensured)
  | beginRescues {s body rescues elseBody ensured} (h : m ∈ rescues) :
    FieldOf m (begin s body rescues elseBody ensured)
  | beginElseBody {s body rescues elseBody ensured} (h : m ∈ elseBody) :
    FieldOf m (begin s body rescues elseBody ensured)
  | beginEnsured {s body rescues elseBody} : FieldOf m (begin s body rescues elseBody (some m))
  | methodDefBody {s name body singleton rescues elseBody ensured} (h : m ∈ body) :
    FieldOf m (methodDef s name body singleton rescues elseBody ensured)
  | methodDefRescues {s name body singleton rescues elseBody ensured} (h : m ∈ rescues) :
    FieldOf m (methodDef s name body singleton rescues elseBody ensured)
  | methodDefElseBody {s name body singleton rescues elseBody ensured} (h : m ∈ elseBody) :
    FieldOf m (methodDef s name body singleton rescues elseBody ensured)
  | methodDefEnsured {s name body singleton rescues elseBody} :
    FieldOf m (methodDef s name body singleton rescues elseBody (some m))
  | otherContents {s kind contents tokens} (h : m ∈ contents) :
    FieldOf m (other s kind contents tokens)

/-- A node is another one or stands inside of it, at any depth. -/
def Within (m n : Node) : Prop := ReflTransGen FieldOf m n

/-- A guard behind its statement has no alternative. -/
def PlainGuard : Node → Prop
  | conditional _ _ _ _ alternative modifier _ => modifier → alternative = none
  | _ => True

variable {n m : Node}

/-! ### Fields and children -/

section

variable {s ks : Option Span} {keyword name : String} {condition : Node}
  {body rescues elseBody exceptions : List Node} {alternative binding ensured : Option Node}
  {modifier singleton : Bool}

theorem fieldOf_conditional
    (h : m ∈ (conditional s keyword condition body alternative modifier ks).children) :
    m.FieldOf (conditional s keyword condition body alternative modifier ks) := by
  cases modifier with
  | true =>
    rcases List.mem_append.mp h with h | h
    · exact .conditionalBody h
    · obtain rfl := List.mem_singleton.mp h
      exact .conditionalCondition
  | false =>
    rcases List.mem_append.mp h with h | h
    · rcases List.mem_cons.mp h with rfl | h
      · exact .conditionalCondition
      · exact .conditionalBody h
    · obtain rfl := Option.mem_toList.mp h
      exact .conditionalAlternative

theorem fieldOf_loop (h : m ∈ (loop s keyword condition body modifier ks).children) :
    m.FieldOf (loop s keyword condition body modifier ks) := by
  cases modifier with
  | true =>
    rcases List.mem_append.mp h with h | h
    · exact .loopBody h
    · obtain rfl := List.mem_singleton.mp h
      exact .loopCondition
  | false =>
    rcases List.mem_cons.mp h with rfl | h
    · exact .loopCondition
    · exact .loopBody h

theorem fieldOf_rescueClause (h : m ∈ (rescueClause s exceptions binding body).children) :
    m.FieldOf (rescueClause s exceptions binding body) := by
  rcases List.mem_append.mp h with h | h
  · rcases List.mem_append.mp h with h | h
    · exact .rescueClauseExceptions h
    · obtain rfl := Option.mem_toList.mp h
      exact .rescueClauseBinding
  · exact .rescueClauseBody h

/-- A `begin` block and a method have the same four fields. -/
theorem mem_clauses (h : m ∈ body ++ rescues ++ elseBody ++ ensured.toList) :
    m ∈ body ∨ m ∈ rescues ∨ m ∈ elseBody ∨ ensured = some m := by
  simpa [or_assoc] using h

theorem fieldOf_begin (h : m ∈ (begin s body rescues elseBody ensured).children) :
    m.FieldOf (begin s body rescues elseBody ensured) := by
  rcases mem_clauses h with h | h | h | rfl
  · exact .beginBody h
  · exact .beginRescues h
  · exact .beginElseBody h
  · exact .beginEnsured

theorem fieldOf_methodDef
    (h : m ∈ (methodDef s name body singleton rescues elseBody ensured).children) :
    m.FieldOf (methodDef s name body singleton rescues elseBody ensured) := by
  rcases mem_clauses h with h | h | h | rfl
  · exact .methodDefBody h
  · exact .methodDefRescues h
  · exact .methodDefElseBody h
  · exact .methodDefEnsured

end

theorem fieldOf_of_mem_children (h : m ∈ n.children) : m.FieldOf n := by
  cases n with
  | var | selfRef => cases h
  | program => exact .programBody h
  | literal => exact .literalParts h
  | array => exact .arrayElements h
  | nested => exact .nestedTargets h
  | ensure => exact .ensureBody h
  | other => exact .otherContents h
  | const =>
    obtain rfl := Option.mem_toList.mp h
    exact .constScope
  | splat =>
    obtain rfl := Option.mem_toList.mp h
    exact .splatValue
  | send =>
    rcases List.mem_append.mp h with h | h
    · obtain rfl := Option.mem_toList.mp h
      exact .sendReceiver
    · exact .sendArguments h
  | block =>
    rcases List.mem_cons.mp h with rfl | h
    · exact .blockCall
    · exact .blockBody h
  | multiAssign =>
    rcases List.mem_append.mp h with h | h
    · exact .multiAssignTargets h
    · obtain rfl := List.mem_singleton.mp h
      exact .multiAssignValue
  | assign =>
    rcases List.mem_pair.mp h with rfl | rfl
    · exact .assignTarget
    · exact .assignValue
  | rescueModifier =>
    rcases List.mem_pair.mp h with rfl | rfl
    · exact .rescueModifierBody
    · exact .rescueModifierHandler
  | conditional => exact fieldOf_conditional h
  | loop => exact fieldOf_loop h
  | rescueClause => exact fieldOf_rescueClause h
  | begin => exact fieldOf_begin h
  | methodDef => exact fieldOf_methodDef h

/-- **No field is forgotten among the children**, except for the alternative of a guard behind its
statement. -/
theorem FieldOf.mem_children (h : m.FieldOf n) (hplain : n.PlainGuard) : m ∈ n.children := by
  cases h with
  | conditionalAlternative =>
    next s keyword condition body modifier ks =>
    cases modifier with
    | true => cases hplain rfl
    | false => simp [children]
  | conditionalCondition | conditionalBody | loopCondition | loopBody =>
    simp only [children]
    split <;> simp [*]
  | _ => simp [children, *]

theorem within_of_mem_walk (h : m ∈ n.walk) : m.Within n := by
  refine forall_mem_unstack (P := fun m => m.Within n) ?_ [n] ?_ m h
  · intro a ha b hb
    exact ReflTransGen.head (fieldOf_of_mem_children hb) ha
  · intro a ha
    rw [List.mem_singleton.mp ha]
    exact ReflTransGen.refl

theorem Within.mem_walk (h : m.Within n) (hplain : n.All PlainGuard) : m ∈ n.walk := by
  induction h using ReflTransGen.head_induction_on with
  | refl => exact n.mem_walk_self
  | head hfield _ ih => exact mem_walk_of_mem_children ih (hfield.mem_children (hplain _ ih))

/-! ### Guards that were read -/

theorem plainGuard_located {s : Span} : (n.located s).PlainGuard ↔ n.PlainGuard := by
  cases n <;> exact Iff.rfl

end Node

namespace Reading

variable {source : Source} {label : Label} {children : List Reading} {n : Node}

theorem plainGuard_ofIndex {method : String} (hn : ofIndex method children = .ok n) :
    n.PlainGuard := by
  unfold ofIndex at hn
  split at hn
  · cases hn
  · obtain ⟨receiver, _, hn⟩ := bind_eq_ok_iff.mp hn
    obtain ⟨arguments, _, hn⟩ := bind_eq_ok_iff.mp hn
    cases hn
    trivial

theorem plainGuard_ofAssignment (hn : ofAssignment source label children = .ok n) :
    n.PlainGuard := by
  unfold ofAssignment at hn
  obtain ⟨left, _, hn⟩ := bind_eq_ok_iff.mp hn
  split at hn
  · obtain ⟨targets, _, hn⟩ := bind_eq_ok_iff.mp hn
    obtain ⟨right, _, hn⟩ := bind_eq_ok_iff.mp hn
    split at hn
    · obtain ⟨value, _, hn⟩ := bind_eq_ok_iff.mp hn
      cases hn
      trivial
    · obtain ⟨assignment, handler, rfl⟩ := eq_of_ofGuarded hn
      trivial
  · obtain ⟨target, _, hn⟩ := bind_eq_ok_iff.mp hn
    obtain ⟨value, _, hn⟩ := bind_eq_ok_iff.mp hn
    cases hn
    trivial

/-- The rule for a guard behind its statement gives it no alternative, and the rule for a block with
an alternative makes no such guard. -/
theorem plainGuard_denoted (hn : denoted source label children = .ok n) : n.PlainGuard := by
  unfold denoted at hn
  generalize label.construct = construct at hn
  cases construct with
  | selfRef | constant | «variable» =>
    cases hn
    trivial
  | «scoped» =>
    obtain ⟨scope, _, hn⟩ := bind_eq_ok_iff.mp hn
    split at hn
    · cases hn
      trivial
    · split at hn <;> cases hn <;> trivial
  | assignment => exact plainGuard_ofAssignment hn
  | index => exact plainGuard_ofIndex hn
  | call =>
    unfold ofCall at hn
    obtain ⟨receiver, _, hn⟩ := bind_eq_ok_iff.mp hn
    obtain ⟨arguments, _, hn⟩ := match_bind_eq_ok hn
    split at hn
    · cases hn
      trivial
    · obtain ⟨body, _, hn⟩ := bind_eq_ok_iff.mp hn
      cases hn
      trivial
  | program | ensure | other | begin | word | literal | array | splat | method =>
    obtain ⟨parts, _, hn⟩ := bind_eq_ok_iff.mp hn
    cases hn
    trivial
  | operatorAssignment | loop | loopGuard | rescueGuard =>
    obtain ⟨first, _, hn⟩ := bind_eq_ok_iff.mp hn
    obtain ⟨second, _, hn⟩ := bind_eq_ok_iff.mp hn
    cases hn
    trivial
  | conditionalGuard =>
    obtain ⟨condition, _, hn⟩ := bind_eq_ok_iff.mp hn
    obtain ⟨body, _, hn⟩ := bind_eq_ok_iff.mp hn
    cases hn
    exact fun _ => rfl
  | conditional =>
    obtain ⟨condition, _, hn⟩ := bind_eq_ok_iff.mp hn
    obtain ⟨body, _, hn⟩ := bind_eq_ok_iff.mp hn
    obtain ⟨alternative, _, hn⟩ := bind_eq_ok_iff.mp hn
    cases hn
    exact nofun
  | rescue =>
    unfold ofRescue at hn
    obtain ⟨exceptions, _, hn⟩ := match_bind_eq_ok hn
    obtain ⟨binding, _, hn⟩ := match_bind_eq_ok hn
    obtain ⟨body, _, hn⟩ := bind_eq_ok_iff.mp hn
    cases hn
    trivial

theorem plainGuard_denotedTarget? (hn : denotedTarget? source label children = some (.ok n)) :
    n.PlainGuard := by
  unfold denotedTarget? at hn
  split at hn
  · obtain ⟨receiver, _, hn⟩ := bind_eq_ok_iff.mp (Option.some.inj hn)
    cases hn
    trivial
  · exact plainGuard_ofIndex (Option.some.inj hn)
  · have hn := Option.some.inj hn
    split at hn
    · cases hn
      trivial
    · obtain ⟨target, _, hn⟩ := bind_eq_ok_iff.mp hn
      cases hn
      trivial
  · obtain ⟨targets, _, hn⟩ := bind_eq_ok_iff.mp (Option.some.inj hn)
    cases hn
    trivial
  · cases hn

theorem Makes.plainGuard (h : Makes source label children n) : n.PlainGuard := by
  cases h with
  | node h => exact Node.plainGuard_located.mpr (plainGuard_denoted h)
  | target h => exact Node.plainGuard_located.mpr (plainGuard_denotedTarget? h)
  | call | guarded | values => trivial

end Reading

namespace Node

variable {n m : Node}

/-- **In a program that was read, no guard behind its statement has an alternative.** -/
theorem plainGuard_of_ofConcrete {source : Source} {tree : Concrete} {root : Node}
    (hroot : ofConcrete source tree = .ok root) (h : m.Within root) : m.PlainGuard := by
  have hall : root.All PlainGuard := all_ofConcrete hroot fun _ _ _ hmade => hmade.plainGuard
  exact hall m (h.mem_walk hall)

/-! ### Reads -/

/-- The node is itself a read of a single target, whatever stands below the node: a variable or a
constant of the same name, or a call of the setter's getter on the same receiver, which for an index
has the same arguments. -/
def IsReadOfLeaf (n : Node) : Node → Prop
  | var _ _ name | const _ name _ =>
    (∃ s kind, n = var s kind name) ∨ ∃ s scope, n = const s name scope
  | send _ receiver method arguments =>
    isSetter method ∧ ∃ s r as, n = send s r (getterName method) as ∧ sameOption r receiver ∧
      (method = "[]=" → sameList as arguments)
  | _ => False

/-- The node is itself a read of one of the single targets that a target is made of. -/
def IsReadOf (n t : Node) : Prop := ∃ l ∈ t.leaves, n.IsReadOfLeaf l

theorem assignedName?_eq_some_iff {name : String} : n.assignedName? = some name ↔
    (∃ s kind, n = var s kind name) ∨ ∃ s scope, n = const s name scope := by
  cases n <;> simp [assignedName?]

theorem readsLeaf_iff {source l : Node} :
    source.ReadsLeaf l ↔ ∃ n ∈ source.walk, n.IsReadOfLeaf l := by
  cases l with
  | var | const => simp only [ReadsLeaf, readsName_iff, assignedName?_eq_some_iff, IsReadOfLeaf]
  | send s receiver method arguments =>
    rw [ReadsLeaf]
    constructor
    · rintro ⟨hsetter, h⟩
      obtain ⟨s, r, as, hn, h⟩ := accesses_iff.mp h
      exact ⟨_, hn, hsetter, s, r, as, rfl, h⟩
    · rintro ⟨n, hn, hsetter, s, r, as, rfl, h⟩
      exact ⟨hsetter, accesses_iff.mpr ⟨s, r, as, hn, h⟩⟩
  | _ => simp [ReadsLeaf, IsReadOfLeaf]

theorem readsTarget_iff {source t : Node} :
    source.readsTarget t ↔ ∃ n ∈ source.walk, n.IsReadOf t := by
  simp only [readsTarget_iff_exists_leaf, readsLeaf_iff, IsReadOf]
  constructor
  · rintro ⟨l, hl, n, hn, hread⟩
    exact ⟨n, hn, l, hl, hread⟩
  · rintro ⟨n, hn, l, hl, hread⟩
    exact ⟨l, hl, n, hn, hread⟩

/-- A node reads a target if it is a read of it itself or one of its children reads it. -/
theorem readsTarget_iff_children {t : Node} :
    n.readsTarget t ↔ n.IsReadOf t ∨ ∃ c ∈ n.children, c.readsTarget t := by
  simp only [readsTarget_iff, n.walk_eq, List.mem_cons, List.mem_flatMap]
  constructor
  · rintro ⟨m, rfl | ⟨c, hc, hm⟩, hread⟩
    · exact Or.inl hread
    · exact Or.inr ⟨c, hc, m, hm, hread⟩
  · rintro (hread | ⟨c, hc, m, hm, hread⟩)
    · exact ⟨n, Or.inl rfl, hread⟩
    · exact ⟨m, Or.inr ⟨c, hc, hm⟩, hread⟩

/-- **No construct hides a read.**  What a field of a node reads is read by the node.  The other way
round, what a node reads it either reads itself, as a variable, a constant or a call, or one of its
fields reads it.  So a target is read if and only if there is a read of one of its single targets
somewhere inside. -/
theorem readsTarget_at_any_depth (n t : Node) :
    (n.PlainGuard → ∀ m : Node, m.FieldOf n → m.readsTarget t → n.readsTarget t) ∧
    (n.readsTarget t → n.IsReadOf t ∨ ∃ m : Node, m.FieldOf n ∧ m.readsTarget t) ∧
    ((∀ m : Node, m.Within n → m.PlainGuard) →
      (n.readsTarget t ↔ ∃ m : Node, m.Within n ∧ m.IsReadOf t)) := by
  refine ⟨?_, ?_, ?_⟩
  · intro hplain m hm hread
    exact readsTarget_iff_children.mpr (Or.inr ⟨m, hm.mem_children hplain, hread⟩)
  · intro h
    rcases readsTarget_iff_children.mp h with hread | ⟨c, hc, hread⟩
    · exact Or.inl hread
    · exact Or.inr ⟨c, fieldOf_of_mem_children hc, hread⟩
  · intro hplain
    have hall : n.All PlainGuard := fun m hm => hplain m (within_of_mem_walk hm)
    rw [readsTarget_iff]
    constructor
    · rintro ⟨m, hm, hread⟩
      exact ⟨m, within_of_mem_walk hm, hread⟩
    · rintro ⟨m, hm, hread⟩
      exact ⟨m, hm.mem_walk hall, hread⟩

/-- A statement with a guard behind it that reads an index. -/
def lateIndex : Source := Source.ofString "x if y[0]" "x.rb"

def lateIndexTree : Concrete :=
  .mk ⟨"program", 0, 9, true, none⟩
    [.mk ⟨"if_modifier", 0, 9, true, none⟩
      [.mk ⟨"identifier", 0, 1, true, some "body"⟩ [],
        .mk ⟨"if", 2, 4, false, none⟩ [],
        .mk ⟨"element_reference", 5, 9, true, some "condition"⟩
          [.mk ⟨"identifier", 5, 6, true, some "object"⟩ [],
            .mk ⟨"[", 6, 7, false, none⟩ [],
            .mk ⟨"integer", 7, 8, true, none⟩ [],
            .mk ⟨"]", 8, 9, false, none⟩ []]]]

def indexRead : Node :=
  send (some ⟨5, 9⟩) (some (var (some ⟨5, 6⟩) .localVar "y")) "[]"
    [literal (some ⟨7, 8⟩) .integer "0" [] true]

def lateGuard : Node :=
  conditional (some ⟨0, 9⟩) "if" indexRead [var (some ⟨0, 1⟩) .localVar "x"] none true
    (some ⟨2, 4⟩)

/-- The target `(*y[0])`. -/
def restIndex : Node :=
  nested none [splat none (some (send none (some (var none .localVar "y")) "[]="
    [literal none .integer "0" [] true]))]

/-- The condition reads the index behind the splat, and so do the guard and the program around
it. -/
theorem readsTarget_at_any_depth_guard :
    ofConcrete lateIndex lateIndexTree = .ok (program (some ⟨0, 9⟩) [lateGuard]) ∧
    (∀ m : Node, m.Within (program (some ⟨0, 9⟩) [lateGuard]) → m.PlainGuard) ∧
    indexRead.readsTarget restIndex ∧ indexRead.FieldOf lateGuard ∧
    lateGuard.readsTarget restIndex ∧
    (program (some ⟨0, 9⟩) [lateGuard]).readsTarget restIndex := by
  have hx : lateIndex.bytesText 0 1 = "x" := by decide +kernel
  have hy : lateIndex.bytesText 5 6 = "y" := by decide +kernel
  have hzero : lateIndex.bytesText 7 8 = "0" := by decide +kernel
  have hroot : ofConcrete lateIndex lateIndexTree = .ok (program (some ⟨0, 9⟩) [lateGuard]) := by
    rw [lateGuard, indexRead, ← hx, ← hy, ← hzero]
    rfl
  have hplain : ∀ m : Node, m.Within (program (some ⟨0, 9⟩) [lateGuard]) → m.PlainGuard :=
    fun _ => plainGuard_of_ofConcrete hroot
  have hfield : lateGuard.FieldOf (program (some ⟨0, 9⟩) [lateGuard]) :=
    .programBody (List.mem_singleton.mpr rfl)
  have hread : indexRead.IsReadOf restIndex :=
    ⟨_, List.mem_singleton.mpr rfl, by decide, _, _, _, rfl, by decide, by decide⟩
  have hwithin : indexRead.Within (program (some ⟨0, 9⟩) [lateGuard]) :=
    .tail (.single .conditionalCondition) hfield
  have hprogram : (program (some ⟨0, 9⟩) [lateGuard]).readsTarget restIndex :=
    ((readsTarget_at_any_depth _ restIndex).2.2 hplain).mpr ⟨indexRead, hwithin, hread⟩
  have hcondition : indexRead.readsTarget restIndex := by
    refine ((readsTarget_at_any_depth _ restIndex).2.2 ?_).mpr ⟨indexRead, .refl, hread⟩
    exact fun m hm => hplain m (hm.trans hwithin)
  have hguard : lateGuard.readsTarget restIndex :=
    (readsTarget_at_any_depth _ restIndex).1 (hplain _ (.single hfield)) _ .conditionalCondition
      hcondition
  exact ⟨hroot, hplain, hcondition, .conditionalCondition, hguard, hprogram⟩

end Node

end MultiAssign
