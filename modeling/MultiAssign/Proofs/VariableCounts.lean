import MultiAssign.Proofs.Variables
import Mathlib.Algebra.Order.BigOperators.Group.List
import Mathlib.Algebra.Order.Ring.Nat

/-!
# Counting a variable

How often a program has a variable is settled by counting.  For each role of a reading there is a
least number of times, from what is visible in the concrete tree, and a largest one, from everything
that is there; `Kept` says so of a tree.

A rule of the reading takes its parts from the children of a node in one of two ways, and the bounds
for the children add up in both.

* It goes through a list of children (`within_filter`, `within_role`).
* It asks for children by their fields.  Different fields are different children, so no variable is
  taken twice; and a shaped node has no child that is in none of its fields, so none is left out
  (`within_fields`).

The bodies of methods and `begin` blocks are sorted into clauses, which loses nothing as long as
there is one `ensure` clause (`within_splitClauses`).
-/

namespace MultiAssign

/-! ### Sums -/

section

variable {α : Type} {f g : α → Nat} {as bs : List α}

theorem total_eq_sum (f : α → Nat) (as : List α) : total f as = (as.map f).sum := by
  induction as with
  | nil => rfl
  | cons a as ih => rw [total, ih, List.map_cons, List.sum_cons]

theorem total_le_total (h : ∀ a ∈ as, f a ≤ g a) : total f as ≤ total g as := by
  rw [total_eq_sum, total_eq_sum]
  exact List.sum_le_sum h

theorem total_filter (f : α → Nat) (p : α → Bool) (as : List α) :
    total f (as.filter p) = total (fun a => if p a then f a else 0) as := by
  induction as with
  | nil => rfl
  | cons a as ih =>
    rw [List.filter_cons, total]
    split <;> simp [total, ih]

theorem total_filterMap {β : Type} (f : β → Nat) (p : α → Option β) (as : List α) :
    total f (as.filterMap p) = total (fun a => ((p a).map f).getD 0) as := by
  induction as with
  | nil => rfl
  | cons a as ih =>
    rw [List.filterMap_cons, total]
    cases p a <;> simp [total, ih]

theorem total_flatten (f : α → Nat) (ass : List (List α)) :
    total f ass.flatten = total (total f) ass := by
  induction ass with
  | nil => rfl
  | cons as ass ih => rw [List.flatten_cons, total_append, total, ih]

theorem total_le_of_subperm (h : as.Subperm bs) : total f as ≤ total f bs := by
  obtain ⟨cs, hperm, hsub⟩ := h
  rw [total_eq_sum, total_eq_sum, ← (hperm.map f).sum_eq]
  exact (hsub.map f).sum_le_sum fun _ _ => Nat.zero_le _

theorem count_flatMap_eq_total {β : Type} [DecidableEq β] (b : β) (f : α → List β) (as : List α) :
    (as.flatMap f).count b = total (fun a => (f a).count b) as := by
  rw [List.count_flatMap, total_eq_sum]
  rfl

end

structure Within (lo hi k : Nat) : Prop where
  le : lo ≤ k
  ge : k ≤ hi

theorem Within.mono {lo hi lo' hi' k : Nat} (h : Within lo hi k) (hlo : lo' ≤ lo) (hhi : hi ≤ hi') :
    Within lo' hi' k :=
  ⟨Nat.le_trans hlo h.le, Nat.le_trans h.ge hhi⟩

/-! ### Counting a variable -/

namespace Node

def tally (v : Variable) (n : Node) : Nat := n.vars.count v

def isVar : Node → Bool
  | var .. => true
  | _ => false

def isEnsure : Node → Bool
  | ensure .. => true
  | _ => false

theorem tally_of_isVar_eq_false {v : Variable} {n : Node} (h : n.isVar = false) :
    n.tally v = total (tally v) n.children := by
  have hnone : n.toVariable? = none := by
    cases n <;> first | rfl | cases h
  rw [tally, vars_eq, hnone, Option.toList_none, List.nil_append, count_flatMap_eq_total]
  rfl

theorem tally_var (v : Variable) (s : Span) (kind : VariableKind) (name : String) :
    (var (some s) kind name).tally v = [⟨s, kind, name⟩].count v := by
  rw [tally, vars_eq]
  rfl

/-- A node that is no variable has the variables of its children, wherever it is put. -/
theorem tally_located {v : Variable} {n : Node} (h : n.isVar = false) (s : Span) :
    (n.located s).tally v = total (tally v) n.children := by
  have hlocated : (n.located s).isVar = false := by
    cases n <;> first | rfl | cases h
  rw [tally_of_isVar_eq_false hlocated, children_located]

theorem isEnsure_located (n : Node) (s : Span) : (n.located s).isEnsure = n.isEnsure := by
  cases n <;> rfl

end Node

namespace Concrete

section

variable (source : Source) (v : Variable)

def low (aspect : Aspect) (tree : Concrete) : Nat := (tree.visible source aspect).count v

def high (tree : Concrete) : Nat := (tree.vars source).count v

def shownLow (label : Label) (aspect : Aspect) (tree : Concrete) : Nat :=
  if label.shows aspect tree.label then tree.low source v (label.below aspect tree.label) else 0

/-- How often a variable is visible in a tree that is no token and no comment. -/
def elementLow (aspect : Aspect) (tree : Concrete) : Nat :=
  if tree.label.isElement then tree.low source v aspect else 0

end

variable {source : Source} {v : Variable} {label : Label} {aspect : Aspect}
  {children : List Concrete}

theorem visibleIn_count :
    (visibleIn source label aspect children).count v =
      total (shownLow source v label aspect) children := by
  induction children with
  | nil => rfl
  | cons c cs ih =>
    rw [visibleIn, List.count_append, ih, total, shownLow]
    split <;> rfl

theorem low_eq {tree : Concrete} (h : tree.label.toVariable? source = none) :
    low source v aspect tree = total (shownLow source v tree.label aspect) tree.children := by
  cases tree with
  | mk label children =>
    rw [low, visible]
    have h : label.toVariable? source = none := h
    simp only [h, visibleIn_count]
    rfl

theorem high_eq {tree : Concrete} (h : tree.label.toVariable? source = none) :
    high source v tree = total (high source v) tree.children := by
  cases tree with
  | mk label children =>
    rw [high, vars]
    have h : label.toVariable? source = none := h
    simp only [h, varsIn_eq, count_flatMap_eq_total]
    rfl

theorem shownLow_le {tree : Concrete} {a : Aspect} (h : label.below aspect tree.label = a) :
    shownLow source v label aspect tree ≤ elementLow source v a tree := by
  unfold shownLow elementLow
  split
  · next hshows =>
    have helement : tree.label.isElement = true := by
      simp only [Label.shows, Bool.and_eq_true] at hshows
      exact hshows.1.1
    rw [if_pos helement, h]
  · exact Nat.zero_le _

theorem elementLow_le (tree : Concrete) :
    elementLow source v aspect tree ≤ low source v aspect tree := by
  unfold elementLow
  split
  · exact Nat.le_refl _
  · exact Nat.zero_le _

end Concrete

/-- All parts of the construct are code, as they are not in a literal or on the left of an
assignment. -/
def Construct.isCode : Construct → Bool
  | assignment | operatorAssignment | literal _ | word _ => false
  | _ => true

namespace Label

variable {label : Label}

theorem construct_of_kind {kind : String} (h : label.kind = kind) :
    label.construct = Construct.ofKind kind := by
  rw [construct, h]

theorem construct_of_isInterpolation (h : label.isInterpolation = true) :
    label.construct = .other := by
  have hkind : label.kind = "interpolation" := by simpa [isInterpolation] using h
  exact construct_of_kind hkind

theorem construct_of_isWrapper (h : label.isWrapper = true) : label.construct = .other := by
  simp only [isWrapper, List.contains_eq_mem, List.mem_cons, List.not_mem_nil, or_false,
    decide_eq_true_eq] at h
  rcases h with hkind | hkind | hkind | hkind <;> exact construct_of_kind hkind

theorem toVariable?_eq_none {source : Source} (h : ∀ kind, label.construct ≠ .variable kind) :
    label.toVariable? source = none := by
  unfold toVariable?
  split
  · next kind hkind => exact absurd hkind (h kind)
  · rfl

theorem toVariable?_eq_some {source : Source} {v : Variable}
    (h : label.toVariable? source = some v) :
    ∃ kind, label.construct = .variable kind ∧
      ⟨Reading.spanOf source label, kind, Reading.textOf source label⟩ = v := by
  unfold toVariable? at h
  split at h
  · next kind hkind => exact ⟨kind, hkind, Option.some.inj h⟩
  · cases h

theorem construct_ne_of_toVariable?_eq_none {source : Source}
    (h : label.toVariable? source = none) (kind : VariableKind) :
    label.construct ≠ .variable kind := by
  intro hkind
  simp [toVariable?, hkind] at h

theorem toVariable?_of_other (source : Source) (h : label.construct = .other) :
    label.toVariable? source = none :=
  toVariable?_eq_none fun kind => by simp [h]

theorem isInterpolation_eq_false (h : label.construct ≠ .other) :
    label.isInterpolation = false :=
  Bool.eq_false_iff.mpr fun hinterpolation => h (construct_of_isInterpolation hinterpolation)

theorem below_code (h : label.construct.isCode = true) (child : Label) :
    label.below .code child = .code := by
  have hliteral : label.isLiteral = false := by
    unfold isLiteral
    split <;> simp_all [Construct.isCode]
  have hassignment : label.construct ≠ .assignment := fun hc => by simp [hc, Construct.isCode] at h
  have hoperator : label.construct ≠ .operatorAssignment := fun hc => by
    simp [hc, Construct.isCode] at h
  simp [below, hliteral, hassignment, hoperator]

theorem below_of_other (h : label.construct = .other) (child : Label) :
    label.below .code child = .code :=
  below_code (by rw [h]; rfl) child

theorem below_of_right (hliteral : label.isLiteral = false) {child : Label}
    (h : child.field = some "right") : label.below .code child = .code := by
  simp [below, hliteral, h]

end Label

namespace Concrete.Shaped

variable {label : Label} {children : List Concrete} {name : String}

theorem construct_of_listed (h : (Concrete.mk label children).Shaped)
    (hname : name ∈ label.construct.listed) :
    ∀ c ∈ field? name children, c.label.construct = .other :=
  h.listed name hname

theorem construct_of_wrapped (h : (Concrete.mk label children).Shaped)
    (hname : name ∈ label.construct.wrapped) :
    ∀ c ∈ field? name children, c.label.construct = .other :=
  fun c hc => Label.construct_of_isWrapper (h.wrapped name hname c hc)

end Concrete.Shaped

namespace Reading

open Concrete

variable {source : Source} {v : Variable} {label : Label} {aspect : Aspect}
  {children : List Concrete} {n : Node} {ns : List Node}

/-! ### The readings of children -/

theorem children_ofConcrete (tree : Concrete) :
    (ofConcrete source tree).children = tree.children.map (ofConcrete source) := by
  cases tree
  exact ofConcreteList_eq_map _

theorem exists_child_of_required {name : String} {r : Reading}
    (h : required (Reading.field? name (children.map (ofConcrete source))) = .ok r) :
    ∃ c, Concrete.field? name children = some c ∧ ofConcrete source c = r := by
  have hr := eq_some_of_required h
  rw [field?_map] at hr
  exact Option.map_eq_some_iff.mp hr

theorem named_map (trees : List Concrete) :
    named (trees.map (ofConcrete source)) =
      (trees.filter fun c => c.label.named).map (ofConcrete source) := by
  simp only [named, List.filter_map, Function.comp_def, label_ofConcrete]

theorem elements_map (trees : List Concrete) :
    Reading.elements (trees.map (ofConcrete source)) =
      (Concrete.elements trees).map (ofConcrete source) := by
  simp only [Reading.elements, Concrete.elements, Label.isElement, List.filter_map,
    Function.comp_def, label_ofConcrete]

/-! ### Readings that keep a variable -/

/-- Whatever a concrete tree is taken for has a variable at least as often as it is visible in the
tree, and at most as often as it is there. -/
structure Kept (source : Source) (v : Variable) (tree : Concrete) : Prop where
  spread : tree.Spread
  shaped : tree.Shaped
  node : ∀ n, (ofConcrete source tree).node = .ok n →
    Within (tree.low source v .code) (tree.high source v) (n.tally v)
  target : ∀ n, (ofConcrete source tree).target = .ok n →
    Within (tree.low source v .target) (tree.high source v) (n.tally v)
  statements : ∀ ns, (ofConcrete source tree).statements = .ok ns →
    Within (if tree.label.isComment then 0 else tree.low source v .code) (tree.high source v)
      (total (Node.tally v) ns)
  parts : tree.label.isInterpolation = false → ∀ ns, (ofConcrete source tree).parts = .ok ns →
    Within (tree.low source v .text) (tree.high source v) (total (Node.tally v) ns)
  /-- It adds no more `ensure` clauses to a body than it has. -/
  clauses : ∀ ns, (ofConcrete source tree).statements = .ok ns →
    ns.countP Node.isEnsure ≤ tree.ensures

/-- The bounds for the members of a list add up, whatever they are read as. -/
theorem within_sequence {β : Type} {role : Concrete → Except Failure β} {size : β → Nat}
    {lo hi : Concrete → Nat} {trees : List Concrete} {bs : List β}
    (h : ∀ c ∈ trees, ∀ b, role c = .ok b → Within (lo c) (hi c) (size b))
    (hbs : sequence (trees.map role) = .ok bs) :
    Within (total lo trees) (total hi trees) (total size bs) := by
  induction trees generalizing bs with
  | nil =>
    cases hbs
    exact ⟨Nat.le_refl _, Nat.le_refl _⟩
  | cons c cs ih =>
    rw [List.map_cons, sequence_cons_eq_ok_iff] at hbs
    obtain ⟨b, hb, rest, hrest, rfl⟩ := hbs
    have hhead := h c List.mem_cons_self b hb
    have htail := ih (fun d hd => h d (List.mem_cons_of_mem c hd)) hrest
    exact ⟨Nat.add_le_add hhead.le htail.le, Nat.add_le_add hhead.ge htail.ge⟩

section

variable {trees : List Concrete} (hkept : ∀ c ∈ trees, Kept source v c)
include hkept

theorem within_nodes (hns : nodes (trees.map (ofConcrete source)) = .ok ns) :
    Within (total (low source v .code) trees) (total (high source v) trees)
      (total (Node.tally v) ns) := by
  rw [nodes, List.map_map] at hns
  exact within_sequence (fun c hc n hn => (hkept c hc).node n hn) hns

theorem within_statementsOf (hns : statementsOf (trees.map (ofConcrete source)) = .ok ns) :
    Within (total (fun c => if c.label.isComment then 0 else low source v .code c) trees)
      (total (high source v) trees) (total (Node.tally v) ns) := by
  obtain ⟨nss, hnss, rfl⟩ := map_eq_ok_iff.mp hns
  rw [List.map_map] at hnss
  rw [total_flatten]
  exact within_sequence (fun c hc ns hns => (hkept c hc).statements ns hns) hnss

end

/-! ### Lists of children -/

theorem total_filter_high_le (p : Concrete → Bool) (trees : List Concrete) :
    total (high source v) (trees.filter p) ≤ total (high source v) trees :=
  total_le_of_subperm List.filter_sublist.subperm

/-- The statements that some of the children stand for. -/
theorem within_filter {p : Concrete → Bool} {lo : Concrete → Nat}
    (hkept : ∀ c ∈ children, Kept source v c)
    (hlo : ∀ c ∈ children, 0 < lo c →
      p c = true ∧ c.label.isComment = false ∧ lo c ≤ low source v .code c)
    (hns : statementsOf ((children.filter p).map (ofConcrete source)) = .ok ns) :
    Within (total lo children) (total (high source v) children) (total (Node.tally v) ns) := by
  have hwithin := within_statementsOf (fun c hc => hkept c (List.mem_filter.mp hc).1) hns
  refine hwithin.mono ?_ (total_filter_high_le p children)
  rw [total_filter]
  refine total_le_total fun c hc => ?_
  rcases Nat.eq_zero_or_pos (lo c) with hzero | hpos
  · rw [hzero]
    exact Nat.zero_le _
  · obtain ⟨hp, hcomment, hle⟩ := hlo c hc hpos
    simpa [hp, hcomment] using hle

theorem elementLow_pos {c : Concrete} (h : 0 < elementLow source v aspect c) :
    c.label.named = true ∧ c.label.isComment = false := by
  unfold elementLow at h
  split at h
  · next helement => simpa [Label.isElement] using helement
  · exact absurd h (Nat.lt_irrefl 0)

theorem within_named (hkept : ∀ c ∈ children, Kept source v c)
    (hns : statementsOf (named (children.map (ofConcrete source))) = .ok ns) :
    Within (total (elementLow source v .code) children) (total (high source v) children)
      (total (Node.tally v) ns) := by
  rw [named_map] at hns
  refine within_filter hkept (fun c _ hpos => ?_) hns
  obtain ⟨hnamed, hcomment⟩ := elementLow_pos hpos
  exact ⟨hnamed, hcomment, elementLow_le c⟩

theorem within_role {β : Type} {role : Concrete → Except Failure β} {size : β → Nat}
    {bs : List β}
    (h : ∀ c ∈ children, ∀ b, role c = .ok b →
      Within (low source v aspect c) (high source v c) (size b))
    (hbs : sequence ((Concrete.elements children).map role) = .ok bs) :
    Within (total (elementLow source v aspect) children) (total (high source v) children)
      (total size bs) := by
  have hwithin := within_sequence (fun c hc => h c (List.mem_filter.mp hc).1) hbs
  refine hwithin.mono ?_ (total_filter_high_le _ children)
  rw [total_filter]
  exact Nat.le_refl _

theorem within_elements (hkept : ∀ c ∈ children, Kept source v c)
    (hns : nodes (Reading.elements (children.map (ofConcrete source))) = .ok ns) :
    Within (total (elementLow source v .code) children) (total (high source v) children)
      (total (Node.tally v) ns) := by
  rw [elements_map, nodes, List.map_map] at hns
  exact within_role (fun c hc n hn => (hkept c hc).node n hn) hns

theorem within_elementTargets (hkept : ∀ c ∈ children, Kept source v c)
    (hns : targets (Reading.elements (children.map (ofConcrete source))) = .ok ns) :
    Within (total (elementLow source v .target) children) (total (high source v) children)
      (total (Node.tally v) ns) := by
  rw [elements_map, targets, List.map_map] at hns
  exact within_role (fun c hc n hn => (hkept c hc).target n hn) hns

theorem low_le_of_below {tree : Concrete} {a : Aspect} (h : tree.label.toVariable? source = none)
    (hbelow : ∀ child, tree.label.below aspect child = a) :
    low source v aspect tree ≤ total (elementLow source v a) tree.children := by
  rw [low_eq h]
  exact total_le_total fun c _ => shownLow_le (hbelow c.label)

theorem within_interpolated (hkept : ∀ c ∈ children, c.Everywhere (Kept source v))
    (hns : interpolated (children.map (ofConcrete source)) = .ok ns) :
    Within (total (elementLow source v .text) children) (total (high source v) children)
      (total (Node.tally v) ns) := by
  obtain ⟨nss, hnss, rfl⟩ := map_eq_ok_iff.mp hns
  rw [elements_map, List.map_map] at hnss
  have hrole : ∀ c ∈ children, ∀ ns,
      ((fun r : Reading => if r.label.isInterpolation then statementsOf (named r.children)
        else r.parts) ∘ ofConcrete source) c = .ok ns →
      Within (low source v .text c) (high source v c) (total (Node.tally v) ns) := by
    intro c hc ns hns
    have hc := hkept c hc
    simp only [Function.comp_apply, label_ofConcrete, children_ofConcrete] at hns
    split at hns
    · next hinterpolation =>
      have hvar := Label.toVariable?_of_other source
        (Label.construct_of_isInterpolation hinterpolation)
      have hwithin := within_named (fun d hd => (hc.below d hd).here) hns
      refine hwithin.mono (low_le_of_below hvar fun child => ?_) (high_eq hvar).ge
      simp [Label.below, hinterpolation]
    · next hinterpolation =>
      exact hc.here.parts (Bool.eq_false_iff.mpr hinterpolation) ns hns
  rw [total_flatten]
  exact within_role hrole hnss

/-! ### Fields -/

/-- What is read from the child in a field has a variable as often as the child. -/
def Piece (source : Source) (v : Variable) (label : Label) (aspect : Aspect)
    (children : List Concrete) (name : String) (ns : List Node) : Prop :=
  Within (((Concrete.field? name children).map (shownLow source v label aspect)).getD 0)
    (((Concrete.field? name children).map (high source v)).getD 0) (total (Node.tally v) ns)

theorem mem_of_childField {name : String} {c : Concrete}
    (h : Concrete.field? name children = some c) : c ∈ children :=
  List.mem_of_find?_eq_some h

theorem field_of_childField {name : String} {c : Concrete}
    (h : Concrete.field? name children = some c) : c.label.field = some name := by
  simpa using List.find?_some h

/-- **The bounds for the fields of a node add up**: no child fills two of them, and all children
fill one. -/
theorem within_fields (hspread : (Concrete.mk label children).Spread)
    (hshaped : (Concrete.mk label children).Shaped) {names : List String}
    (hnames : label.construct.fields? = some names) {nss : List (List Node)}
    (h : List.Forall₂ (Piece source v label aspect children) names nss) :
    Within (total (shownLow source v label aspect) children) (total (high source v) children)
      (total (Node.tally v) nss.flatten) := by
  -- The children in the fields.
  let filling := names.filterMap fun name => Concrete.field? name children
  have hbounds : Within (total (shownLow source v label aspect) filling)
      (total (high source v) filling) (total (Node.tally v) nss.flatten) := by
    rw [total_filterMap, total_filterMap, total_flatten]
    clear hnames
    induction h with
    | nil => exact ⟨Nat.le_refl _, Nat.le_refl _⟩
    | cons hpiece _ ih => exact ⟨Nat.add_le_add hpiece.le ih.le, Nat.add_le_add hpiece.ge ih.ge⟩
  have hnodup : filling.Nodup := by
    refine (Construct.nodup_of_fields? hnames).filterMap fun name name' c hc hc' => ?_
    have hfield := field_of_childField hc
    rw [field_of_childField hc'] at hfield
    exact (Option.some.inj hfield).symm
  have hinto : filling.Subperm children := by
    refine List.subperm_of_subset hnodup fun c hc => ?_
    obtain ⟨name, _, hc⟩ := List.mem_filterMap.mp hc
    exact mem_of_childField hc
  have honto : (Concrete.elements children).Subperm filling := by
    refine List.subperm_of_subset (hspread.nodup.filter _) fun c hc => ?_
    obtain ⟨name, hname, hlabel⟩ := hshaped.fields names hnames c hc
    obtain ⟨d, hd, hlabel⟩ := Option.map_eq_some_iff.mp hlabel
    have hspot : d.label.sameSpot c.label = true := by simp [Label.sameSpot, hlabel]
    have hdc := hspread.eq_of_sameSpot (mem_of_childField hd) (List.mem_filter.mp hc).1 hspot
    exact List.mem_filterMap.mpr ⟨name, hname, hdc ▸ hd⟩
  refine hbounds.mono ?_ (total_le_of_subperm hinto)
  have hshown : total (shownLow source v label aspect) children ≤
      total (shownLow source v label aspect) (Concrete.elements children) := by
    rw [Concrete.elements, total_filter]
    refine total_le_total fun c _ => ?_
    unfold shownLow
    split
    · next hshows =>
      simp only [Label.shows, Bool.and_eq_true] at hshows
      rw [if_pos hshows.1.1]
    · exact Nat.zero_le _
  exact Nat.le_trans hshown (total_le_of_subperm honto)

section

variable {name : String}

theorem piece_optional {α : Type} {a absent : α} {role : Reading → Except Failure α}
    {f : α → List Node} (habsent : f absent = [])
    (hrole : ∀ c, Concrete.field? name children = some c → role (ofConcrete source c) = .ok a →
      Within (shownLow source v label aspect c) (high source v c) (total (Node.tally v) (f a)))
    (ha : (match Reading.field? name (children.map (ofConcrete source)) with
      | none => Except.ok absent
      | some r => role r) = .ok a) :
    Piece source v label aspect children name (f a) := by
  rw [field?_map] at ha
  unfold Piece
  cases hc : Concrete.field? name children with
  | none =>
    rw [hc] at ha
    cases ha
    rw [habsent]
    exact ⟨Nat.le_refl _, Nat.le_refl _⟩
  | some c =>
    rw [hc] at ha
    exact hrole c hc ha

theorem piece_required {role : Reading → Except Failure Node}
    (hrole : ∀ c, Concrete.field? name children = some c → role (ofConcrete source c) = .ok n →
      Within (shownLow source v label aspect c) (high source v c) (n.tally v))
    (hn : required (Reading.field? name (children.map (ofConcrete source))) >>= role = .ok n) :
    Piece source v label aspect children name [n] := by
  obtain ⟨r, hr, hrole'⟩ := bind_eq_ok_iff.mp hn
  obtain ⟨c, hc, rfl⟩ := exists_child_of_required hr
  unfold Piece
  rw [hc]
  exact hrole c hc hrole'

theorem piece_of_absent (habsent : Concrete.field? name children = none) :
    Piece source v label aspect children name [] := by
  unfold Piece
  rw [habsent]
  exact ⟨Nat.le_refl _, Nat.le_refl _⟩

theorem piece_of_child {c : Concrete} {a : Aspect} (hc : Concrete.field? name children = some c)
    (hbelow : label.below aspect c.label = a)
    (h : Within (low source v a c) (high source v c) (total (Node.tally v) ns)) :
    Piece source v label aspect children name ns := by
  unfold Piece
  rw [hc]
  exact h.mono (Nat.le_trans (shownLow_le hbelow) (elementLow_le c)) (Nat.le_refl _)

theorem piece_unread (h : name ∈ label.unread aspect) :
    Piece source v label aspect children name [] := by
  unfold Piece
  cases hc : Concrete.field? name children with
  | none => exact ⟨Nat.le_refl _, Nat.le_refl _⟩
  | some c =>
    have hhidden : label.shows aspect c.label = false := by
      simp only [Label.shows, field_of_childField hc, Bool.and_eq_false_iff, Bool.not_eq_false',
        List.any_eq_true]
      exact Or.inr ⟨name, h, beq_self_eq_true _⟩
    refine ⟨?_, Nat.zero_le _⟩
    simp [shownLow, hhidden, total]

end

section

variable {name : String} (hkept : ∀ c ∈ children, c.Everywhere (Kept source v))
  (hbelow : ∀ child : Label, child.field = some name → label.below aspect child = .code)

include hbelow in
theorem shownLow_le_code {c : Concrete} (hc : Concrete.field? name children = some c) :
    shownLow source v label aspect c ≤ low source v .code c :=
  Nat.le_trans (shownLow_le (hbelow c.label (field_of_childField hc))) (elementLow_le c)

include hkept hbelow

theorem piece_requiredNode
    (hn : requiredNode (Reading.field? name (children.map (ofConcrete source))) = .ok n) :
    Piece source v label aspect children name [n] :=
  piece_required (fun c hc hn => ((hkept c (mem_of_childField hc)).here.node n hn).mono
    (shownLow_le_code hbelow hc) (Nat.le_refl _)) hn

theorem piece_node? {n : Option Node}
    (hn : node? (Reading.field? name (children.map (ofConcrete source))) = .ok n) :
    Piece source v label aspect children name n.toList := by
  refine piece_optional (f := Option.toList) rfl (fun c hc hn => ?_) hn
  obtain ⟨n, hnode, rfl⟩ := map_eq_ok_iff.mp hn
  exact ((hkept c (mem_of_childField hc)).here.node n hnode).mono (shownLow_le_code hbelow hc)
    (Nat.le_refl _)

omit hkept in
/-- What stands in a child without a rule of its own stands in that child's children. -/
theorem within_inside {c : Concrete} {k : Nat} (hc : Concrete.field? name children = some c)
    (hother : c.label.construct = .other)
    (h : Within (total (elementLow source v .code) c.children) (total (high source v) c.children)
      k) : Within (shownLow source v label aspect c) (high source v c) k := by
  have hvar := Label.toVariable?_of_other source hother
  refine h.mono (Nat.le_trans (shownLow_le_code hbelow hc) ?_) (high_eq hvar).ge
  exact low_le_of_below hvar (Label.below_of_other hother)

theorem piece_statementsInside
    (hother : ∀ c ∈ Concrete.field? name children, c.label.construct = .other)
    (hns : statementsInside (Reading.field? name (children.map (ofConcrete source))) = .ok ns) :
    Piece source v label aspect children name ns := by
  refine piece_optional (f := id) rfl (fun c hc hns => ?_) hns
  rw [children_ofConcrete] at hns
  exact within_inside hbelow hc (hother c hc)
    (within_named (fun d hd => ((hkept c (mem_of_childField hc)).below d hd).here) hns)

theorem piece_elements
    (hother : ∀ c ∈ Concrete.field? name children, c.label.construct = .other)
    (hns : (match Reading.field? name (children.map (ofConcrete source)) with
      | none => pure []
      | some r => nodes (Reading.elements r.children)) = Except.ok ns) :
    Piece source v label aspect children name ns := by
  refine piece_optional (f := id) rfl (fun c hc hns => ?_) hns
  rw [children_ofConcrete] at hns
  exact within_inside hbelow hc (hother c hc)
    (within_elements (fun d hd => ((hkept c (mem_of_childField hc)).below d hd).here) hns)

end

/-! ### Single elements -/

theorem nodes_of_head? {rs : List Reading} (hlength : rs.length ≤ 1) {n : Option Node}
    (hn : node? rs.head? = .ok n) : nodes rs = .ok n.toList := by
  match rs, hlength with
  | [], _ =>
    cases hn
    rfl
  | [r], _ =>
    obtain ⟨n, hnode, rfl⟩ := map_eq_ok_iff.mp hn
    exact sequence_cons_eq_ok_iff.mpr ⟨n, hnode, [], rfl, rfl⟩

theorem within_head? (hkept : ∀ c ∈ children, Kept source v c)
    (hlength : (Concrete.elements children).length ≤ 1) {n : Option Node}
    (hn : node? (Reading.elements (children.map (ofConcrete source))).head? = .ok n) :
    Within (total (elementLow source v .code) children) (total (high source v) children)
      (total (Node.tally v) n.toList) := by
  refine within_elements hkept (nodes_of_head? ?_ hn)
  rw [elements_map, List.length_map]
  exact hlength

/-! ### Blocks -/

theorem shows_of_shownLow_pos {c : Concrete} (h : 0 < shownLow source v label aspect c) :
    label.shows aspect c.label = true := by
  unfold shownLow at h
  split at h
  · assumption
  · exact absurd h (Nat.lt_irrefl 0)

/-- The parameters of a block are not among its statements. -/
theorem within_block {c : Concrete} (hkept : c.Everywhere (Kept source v))
    (hother : c.label.construct = .other)
    (hns : statementsOf ((named (ofConcrete source c).children).filter
      fun r => r.label.kind != "block_parameters") = .ok ns) :
    Within (low source v .code c) (high source v c) (total (Node.tally v) ns) := by
  have hvar := Label.toVariable?_of_other source hother
  rw [low_eq hvar, high_eq hvar]
  simp only [children_ofConcrete, named_map, List.filter_map, Function.comp_def, label_ofConcrete,
    List.filter_filter] at hns
  refine within_filter (fun d hd => (hkept.below d hd).here) (fun d hd hpos => ?_) hns
  have hshows := shows_of_shownLow_pos hpos
  simp only [Label.shows, Label.isElement, Bool.and_eq_true, Bool.not_eq_true'] at hshows
  obtain ⟨⟨⟨hnamed, hcomment⟩, hkind⟩, _⟩ := hshows
  refine ⟨by rw [hkind, hnamed]; rfl, hcomment, ?_⟩
  exact Nat.le_trans (shownLow_le (Label.below_of_other hother d.label)) (elementLow_le d)

/-- A child that fills none of some fields is in the spot of no child that does. -/
theorem not_any_sameSpot (hspread : (Concrete.mk label children).Spread) {c : Concrete}
    (hc : c ∈ children) {names : List String}
    (h : (names.any fun name => c.label.field == some name) = false) :
    (((names.filterMap fun name => Reading.field? name (children.map (ofConcrete source))).map
      Reading.label).any fun l => l.sameSpot c.label) = false := by
  refine List.any_eq_false.mpr fun l hl hspot => ?_
  obtain ⟨r, hr, rfl⟩ := List.mem_map.mp hl
  obtain ⟨name, hname, hr⟩ := List.mem_filterMap.mp hr
  rw [field?_map] at hr
  obtain ⟨d, hd, rfl⟩ := Option.map_eq_some_iff.mp hr
  rw [label_ofConcrete] at hspot
  have hdc := hspread.eq_of_sameSpot (mem_of_childField hd) hc hspot
  have hfield := field_of_childField hd
  rw [hdc] at hfield
  exact List.any_eq_false.mp h name hname (beq_iff_eq.mpr hfield)

/-! ### Clauses -/

theorem isSome_ensured (ns : List Node) :
    (splitClauses ns).ensured.isSome = ns.any Node.isEnsure := by
  induction ns with
  | nil => rfl
  | cons n rest ih =>
    rw [List.any_cons, ← ih]
    cases n with
    | other s kind contents tokens =>
      rw [splitClauses]
      split <;> rfl
    | _ => rfl

/-- Sorting a body into clauses loses nothing but an `ensure` clause that another one follows. -/
theorem total_splitClauses_cons (n : Node) (rest : List Node) :
    total (Node.tally v) (splitClauses (n :: rest)).all =
      total (Node.tally v) (splitClauses rest).all +
        if n.isEnsure && (splitClauses rest).ensured.isSome then 0 else n.tally v := by
  cases n with
  | ensure s body =>
    cases hensured : (splitClauses rest).ensured with
    | none =>
      simp [splitClauses, Clauses.all, total_append, total, hensured, Node.isEnsure]
      omega
    | some last => simp [splitClauses, Clauses.all, total_append, total, hensured, Node.isEnsure]
  | other s kind contents tokens =>
    have htally : (Node.other s kind contents tokens).tally v = total (Node.tally v) contents :=
      Node.tally_of_isVar_eq_false rfl
    rw [splitClauses]
    split <;> simp [Clauses.all, total_append, total, Node.isEnsure] <;> omega
  | _ =>
    simp [splitClauses, Clauses.all, total_append, total, Node.isEnsure]
    omega

theorem within_splitClauses {lo hi : Nat} (hone : ns.countP Node.isEnsure ≤ 1)
    (h : Within lo hi (total (Node.tally v) ns)) :
    Within lo hi (total (Node.tally v) (splitClauses ns).all) := by
  have heq : total (Node.tally v) (splitClauses ns).all = total (Node.tally v) ns := by
    clear h
    induction ns with
    | nil => rfl
    | cons n rest ih =>
      rw [List.countP_cons] at hone
      rw [total_splitClauses_cons, isSome_ensured, ih (by omega), total, Nat.add_comm]
      rw [if_neg]
      simp only [Bool.and_eq_true, List.any_eq_true, not_and, not_exists]
      intro hn m hm hensure
      have := List.countP_pos_iff.mpr ⟨m, hm, hensure⟩
      rw [if_pos hn] at hone
      omega
  rwa [heq]

theorem ensuresIn_eq_total (trees : List Concrete) :
    ensuresIn trees = total ensures (trees.filter fun c => c.label.named) := by
  induction trees with
  | nil => rfl
  | cons c cs ih =>
    rw [ensuresIn, ih, List.filter_cons]
    split
    · rfl
    · exact Nat.zero_add _

theorem countP_statementsOf_le {trees : List Concrete} (hkept : ∀ c ∈ trees, Kept source v c)
    (hns : statementsOf (trees.map (ofConcrete source)) = .ok ns) :
    ns.countP Node.isEnsure ≤ total ensures trees := by
  obtain ⟨nss, hnss, rfl⟩ := map_eq_ok_iff.mp hns
  rw [List.map_map] at hnss
  have hcount : nss.flatten.countP Node.isEnsure = total (List.countP Node.isEnsure) nss := by
    rw [List.countP_flatten, total_eq_sum]
  rw [hcount]
  have hbound : ∀ c ∈ trees, ∀ ns, (ofConcrete source c).statements = .ok ns →
      Within 0 (ensures c) (ns.countP Node.isEnsure) :=
    fun c hc ns hns => ⟨Nat.zero_le _, (hkept c hc).clauses ns hns⟩
  exact (within_sequence hbound hnss).ge

end Reading

end MultiAssign
