import MultiAssign.Proofs.ReadingRanges
import MultiAssign.Proofs.Walk
import Mathlib.Data.List.Nodup
import Mathlib.Data.List.Pairwise

/-!
# The variables of a tree

The variables of a text can be seen in its concrete tree (`Concrete.vars`) and in the program
that is read from it (`Node.vars`).  The concrete tree has more of them: the names of methods
look like variables there, and so do parameters and what is quoted in a literal.
`Concrete.visible` lists the variables that are none of that, and which the program should have.

How much of a concrete node is visible depends on what it is part of, its `Aspect`.  On the left of
an assignment the arguments and the block of a call are not read, and in a literal only the code
that is interpolated is.

A tree is **shaped** (`Concrete.Shaped`) if its nodes have the children that the grammar gives them,
and **spread** (`Concrete.Spread`) if siblings hold a part of the text each.  In a spread tree whose
nodes lie in their parents, no variable is there twice (`Concrete.nodup_vars`).
-/

namespace MultiAssign

/-- A variable at its place in a text. -/
structure Variable where
  span : Span
  kind : VariableKind
  name : String
  deriving DecidableEq, Repr

namespace Node

def toVariable? : Node → Option Variable
  | var (some span) kind name => some ⟨span, kind, name⟩
  | _ => none

def vars (n : Node) : List Variable := n.walk.filterMap toVariable?

theorem vars_eq (n : Node) :
    n.vars = n.toVariable?.toList ++ n.children.flatMap vars := by
  have hchildren : (n.children.flatMap walk).filterMap toVariable? =
      n.children.flatMap vars := by
    rw [List.filterMap_flatMap]
    rfl
  rw [vars, walk_eq, List.filterMap_cons, hchildren]
  cases n.toVariable? <;> rfl

end Node

/-- What a concrete node is part of. -/
inductive Aspect where
  /-- Code that is run. -/
  | code
  /-- The list on the left of an assignment. -/
  | targets
  /-- Something that is assigned to. -/
  | target
  /-- The text of a literal. -/
  | text
  deriving DecidableEq

namespace Label

def toVariable? (source : Source) (label : Label) : Option Variable :=
  match label.construct with
  | .variable kind => some ⟨Reading.spanOf source label, kind, Reading.textOf source label⟩
  | _ => none

def isLiteral (label : Label) : Bool :=
  match label.construct with
  | .literal _ | .word _ => true
  | _ => false

def isMethod (label : Label) : Bool :=
  match label.construct with
  | .method _ => true
  | _ => false

/-- The node is neither a token nor a comment. -/
def isElement (label : Label) : Bool := label.named && !label.isComment

/-- The fields of a node that hold no code, or none that is run. -/
def unread (label : Label) (aspect : Aspect) : List String :=
  match label.construct with
  | .call => if aspect = .target then ["method", "arguments", "block"] else ["method"]
  | .scoped => ["name"]
  | .method _ => ["name", "parameters", "object"]
  | _ => []

/-- A child of a node is to be looked into for variables. -/
def shows (label : Label) (aspect : Aspect) (child : Label) : Bool :=
  child.isElement && child.kind != "block_parameters" &&
    !(label.unread aspect).any fun name => child.field == some name

/-- What a child of a node is part of. -/
def below (label : Label) (aspect : Aspect) (child : Label) : Aspect :=
  if label.isInterpolation then .code
  else if aspect = .text ∨ label.isLiteral then .text
  else if label.construct = .assignment ∧ child.field = some "left" then
    if child.kind = "left_assignment_list" then .targets else .target
  else if label.construct = .operatorAssignment ∧ child.field = some "left" then .target
  else if aspect = .targets then .target
  else if aspect = .target ∧
    (label.kind = "rest_assignment" ∨ label.kind = "destructured_left_assignment") then .target
  else .code

end Label

namespace Concrete

/-! ### Going through a concrete tree -/

def children : Concrete → List Concrete
  | mk _ children => children

@[simp] theorem label_mk (label : Label) (children : List Concrete) :
    (mk label children).label = label := rfl

/-- What holds of a tree if it holds of its children holds of all trees. -/
@[elab_as_elim]
theorem induction {motive : Concrete → Prop}
    (mk : ∀ label children, (∀ c ∈ children, motive c) → motive (.mk label children)) :
    ∀ tree, motive tree
  | .mk label children => mk label children fun c _ => induction mk c

mutual

/-- Something holds of the tree and of all trees inside of it. -/
def Everywhere (P : Concrete → Prop) : Concrete → Prop
  | mk label children => P (mk label children) ∧ EverywhereIn P children

def EverywhereIn (P : Concrete → Prop) : List Concrete → Prop
  | [] => True
  | c :: cs => c.Everywhere P ∧ EverywhereIn P cs

end

section

variable {P : Concrete → Prop} {tree : Concrete}

theorem everywhereIn_iff {trees : List Concrete} :
    EverywhereIn P trees ↔ ∀ c ∈ trees, c.Everywhere P := by
  induction trees with
  | nil => simp [EverywhereIn]
  | cons c cs ih => simp [EverywhereIn, ih]

theorem everywhere_iff :
    tree.Everywhere P ↔ P tree ∧ ∀ c ∈ tree.children, c.Everywhere P := by
  cases tree
  rw [Everywhere, everywhereIn_iff]
  rfl

theorem Everywhere.here (h : tree.Everywhere P) : P tree := (everywhere_iff.mp h).1

theorem Everywhere.below (h : tree.Everywhere P) : ∀ c ∈ tree.children, c.Everywhere P :=
  (everywhere_iff.mp h).2

end

mutual

instance decidableEverywhere (P : Concrete → Prop) [DecidablePred P] :
    ∀ tree : Concrete, Decidable (tree.Everywhere P)
  | mk label children =>
    have := decidableEverywhereIn P children
    inferInstanceAs (Decidable (P (mk label children) ∧ EverywhereIn P children))

instance decidableEverywhereIn (P : Concrete → Prop) [DecidablePred P] :
    ∀ trees : List Concrete, Decidable (EverywhereIn P trees)
  | [] => inferInstanceAs (Decidable True)
  | c :: cs =>
    have := decidableEverywhere P c
    have := decidableEverywhereIn P cs
    inferInstanceAs (Decidable (c.Everywhere P ∧ EverywhereIn P cs))

end

/-! ### Variables -/

mutual

def vars (source : Source) : Concrete → List Variable
  | mk label children =>
    match label.toVariable? source with
    | some v => [v]
    | none => varsIn source children

def varsIn (source : Source) : List Concrete → List Variable
  | [] => []
  | c :: cs => c.vars source ++ varsIn source cs

end

theorem varsIn_eq (source : Source) (trees : List Concrete) :
    varsIn source trees = trees.flatMap (vars source) := by
  induction trees with
  | nil => rfl
  | cons c cs ih => rw [varsIn, ih, List.flatMap_cons]

mutual

/-- The variables of a concrete tree that the program has.  There are none in tokens. -/
def visible (source : Source) (aspect : Aspect) : Concrete → List Variable
  | mk label children =>
    match label.toVariable? source with
    | some v => if aspect = .text then [] else [v]
    | none => visibleIn source label aspect children

def visibleIn (source : Source) (label : Label) (aspect : Aspect) : List Concrete → List Variable
  | [] => []
  | c :: cs =>
    (if label.shows aspect c.label then c.visible source (label.below aspect c.label) else []) ++
      visibleIn source label aspect cs

end

/-! ### Shapes -/

def field? (name : String) (trees : List Concrete) : Option Concrete :=
  trees.find? fun c => c.label.field == some name

theorem field?_map {source : Source} (name : String) (trees : List Concrete) :
    Reading.field? name (trees.map (Reading.ofConcrete source)) =
      (field? name trees).map (Reading.ofConcrete source) := by
  simp only [Reading.field?, field?, List.find?_map, Function.comp_def, Reading.label_ofConcrete]

def elements (trees : List Concrete) : List Concrete := trees.filter fun c => c.label.isElement

mutual

/-- How many `ensure` clauses a tree adds to a list of statements. -/
def ensures : Concrete → Nat
  | mk label children =>
    if label.isComment then 0
    else if label.isWrapper then ensuresIn children
    else if label.construct = .ensure then 1
    else 0

def ensuresIn : List Concrete → Nat
  | [] => 0
  | c :: cs => (if c.label.named then c.ensures else 0) + ensuresIn cs

end

end Concrete

namespace Construct

/-- The fields of a construct that is given by its fields. -/
def fields? : Construct → Option (List String)
  | selfRef | constant | «variable» _ => some []
  | «scoped» => some ["scope", "name"]
  | assignment | operatorAssignment => some ["left", "right"]
  | call => some ["receiver", "method", "arguments", "block"]
  | conditionalGuard _ | loopGuard _ | loop _ => some ["condition", "body"]
  | conditional _ => some ["condition", "consequence", "alternative"]
  | rescueGuard => some ["body", "handler"]
  | rescue => some ["exceptions", "variable", "body"]
  | _ => none

/-- The fields of a construct that hold a wrapper of statements. -/
def wrapped : Construct → List String
  | conditional _ => ["consequence"]
  | loop _ | rescue => ["body"]
  | _ => []

/-- The fields of a construct that hold a list. -/
def listed : Construct → List String
  | call => ["arguments", "block"]
  | rescue => ["exceptions", "variable"]
  | _ => []

theorem nodup_of_fields? {c : Construct} {names : List String} (h : c.fields? = some names) :
    names.Nodup := by
  cases c <;> cases h <;> decide

end Construct

namespace Concrete

/-- A concrete node has the children that the grammar gives it. -/
structure Shaped (tree : Concrete) : Prop where
  /-- Nodes with fields have no other parts. -/
  fields : ∀ names ∈ tree.label.construct.fields?, ∀ c ∈ elements tree.children,
    ∃ name ∈ names, (field? name tree.children).map label = some c.label
  /-- Statements below a condition, and those of a clause, are wrapped. -/
  wrapped : ∀ name ∈ tree.label.construct.wrapped, ∀ c ∈ field? name tree.children,
    c.label.isWrapper = true
  /-- Lists are no constructs of their own. -/
  listed : ∀ name ∈ tree.label.construct.listed, ∀ c ∈ field? name tree.children,
    c.label.construct = .other
  /-- A splat has one operand. -/
  splat : tree.label.construct = .splat ∨ tree.label.kind = "rest_assignment" →
    (elements tree.children).length ≤ 1
  /-- A rescue clause binds one variable. -/
  binding : tree.label.construct = .rescue → ∀ c ∈ field? "variable" tree.children,
    (elements c.children).length ≤ 1
  /-- A body has one `ensure` clause. -/
  ensures : tree.label.construct = .begin ∨ tree.label.isMethod → ensuresIn tree.children ≤ 1

instance : DecidablePred Shaped := fun tree =>
  decidable_of_iff
    ((∀ names ∈ tree.label.construct.fields?, ∀ c ∈ elements tree.children,
        ∃ name ∈ names, (field? name tree.children).map label = some c.label) ∧
      (∀ name ∈ tree.label.construct.wrapped, ∀ c ∈ field? name tree.children,
        c.label.isWrapper = true) ∧
      (∀ name ∈ tree.label.construct.listed, ∀ c ∈ field? name tree.children,
        c.label.construct = .other) ∧
      (tree.label.construct = .splat ∨ tree.label.kind = "rest_assignment" →
        (elements tree.children).length ≤ 1) ∧
      (tree.label.construct = .rescue → ∀ c ∈ field? "variable" tree.children,
        (elements c.children).length ≤ 1) ∧
      (tree.label.construct = .begin ∨ tree.label.isMethod → ensuresIn tree.children ≤ 1))
    ⟨fun ⟨h₁, h₂, h₃, h₄, h₅, h₆⟩ => ⟨h₁, h₂, h₃, h₄, h₅, h₆⟩,
      fun h => ⟨h.fields, h.wrapped, h.listed, h.splat, h.binding, h.ensures⟩⟩

/-- The children of a concrete node hold a part of the text each. -/
structure Spread (tree : Concrete) : Prop where
  nonempty : ∀ c ∈ tree.children, c.label.start < c.label.stop
  apart : tree.children.Pairwise fun a b => a.label.Apart b.label

instance : DecidablePred Spread := fun tree =>
  have : DecidableRel Label.Apart := fun _ _ => inferInstanceAs (Decidable (_ ∨ _))
  decidable_of_iff
    ((∀ c ∈ tree.children, c.label.start < c.label.stop) ∧
      tree.children.Pairwise fun a b => a.label.Apart b.label)
    ⟨fun ⟨h₁, h₂⟩ => ⟨h₁, h₂⟩, fun h => ⟨h.nonempty, h.apart⟩⟩

/-- The children of a concrete node lie inside of it. -/
def Nested (tree : Concrete) : Prop :=
  ∀ c ∈ tree.children, tree.label.start ≤ c.label.start ∧ c.label.stop ≤ tree.label.stop

instance : DecidablePred Nested := fun tree =>
  inferInstanceAs (Decidable (∀ c ∈ tree.children,
    tree.label.start ≤ c.label.start ∧ c.label.stop ≤ tree.label.stop))

theorem Spread.eq_of_sameSpot {tree : Concrete} (h : tree.Spread) {c d : Concrete}
    (hc : c ∈ tree.children) (hd : d ∈ tree.children)
    (hspot : c.label.sameSpot d.label = true) : c = d := by
  by_contra hne
  have := h.nonempty c hc
  have := h.nonempty d hd
  simp only [Label.sameSpot, Bool.and_eq_true, beq_iff_eq] at hspot
  have : Std.Symm fun a b : Concrete => a.label.Apart b.label := ⟨fun _ _ => Or.symm⟩
  rcases h.apart.forall hc hd hne with hapart | hapart <;> omega

theorem Spread.nodup {tree : Concrete} (h : tree.Spread) : tree.children.Nodup := by
  refine h.apart.imp_of_mem fun {a b} ha hb hapart heq => ?_
  have := h.nonempty a ha
  rw [← heq] at hapart
  rcases hapart with hapart | hapart <;> omega

/-! ### No variable twice -/

theorem mem_vars_inside {source : Source} {tree : Concrete} (hnested : tree.Everywhere Nested) :
    ∀ v ∈ tree.vars source, source.charOffset tree.label.start ≤ v.span.start ∧
      v.span.stop ≤ source.charOffset tree.label.stop := by
  induction tree using Concrete.induction with
  | mk label children ih =>
    intro v hv
    rw [vars] at hv
    split at hv
    · next w hw =>
      rw [List.mem_singleton.mp hv]
      unfold Label.toVariable? at hw
      split at hw <;> cases hw
      exact ⟨Nat.le_refl _, Nat.le_refl _⟩
    · rw [varsIn_eq] at hv
      obtain ⟨c, hc, hv⟩ := List.mem_flatMap.mp hv
      obtain ⟨hstart, hstop⟩ := ih c hc (hnested.below c hc) v hv
      obtain ⟨hcstart, hcstop⟩ := hnested.here c hc
      exact ⟨Nat.le_trans (source.charOffset_mono hcstart) hstart,
        Nat.le_trans hstop (source.charOffset_mono hcstop)⟩

/-- **No variable is twice in a tree**, if each holds at least a character. -/
theorem nodup_vars {source : Source} {tree : Concrete} (hspread : tree.Everywhere Spread)
    (hnested : tree.Everywhere Nested)
    (hlong : ∀ v ∈ tree.vars source, v.span.start < v.span.stop) :
    (tree.vars source).Nodup := by
  induction tree using Concrete.induction with
  | mk label children ih =>
    rw [vars] at hlong ⊢
    split
    · exact List.nodup_singleton _
    · next hnone =>
      rw [hnone, varsIn_eq] at hlong
      rw [varsIn_eq, List.nodup_flatMap]
      refine ⟨fun c hc => ih c hc (hspread.below c hc) (hnested.below c hc) fun v hv =>
        hlong v (List.mem_flatMap.mpr ⟨c, hc, hv⟩), ?_⟩
      refine hspread.here.apart.imp_of_mem fun {c d} hc hd hapart => ?_
      intro v hv hv'
      have hinside := mem_vars_inside (hnested.below c hc) v hv
      have hinside' := mem_vars_inside (hnested.below d hd) v hv'
      have := hlong v (List.mem_flatMap.mpr ⟨c, hc, hv⟩)
      rcases hapart with hapart | hapart
      · have := source.charOffset_mono hapart
        omega
      · have := source.charOffset_mono hapart
        omega

end Concrete

end MultiAssign
