import MultiAssign.Proofs.Laid
import MultiAssign.Proofs.Offsets
import MultiAssign.Syntax.Reading
import Mathlib.Data.List.Pairwise

/-!
# The ranges of a tree that was read

A concrete tree is **arranged** (`Concrete.Arranged`) if the children of each node stand inside of
it and one after the other, with the left side of an assignment before the right one and what a
rescue modifier guards before its handler.  The main statement is `Node.laidIn_ofConcrete`: what is
read from an arranged tree is laid out in the range of that tree.

The induction is over the concrete tree and carries `Reading.Fits`, which says so of all roles of a
reading at once.  A rule takes trees from the children of a node in one of two ways.

* It goes through a list of children.  They are a `Row`, and so is every sublist of them, and what
  is read from a row is laid out (`Row.laid_sequence`).
* It asks for a child by its field.  Children in different fields lie apart, so what is read from
  them can be put together in any order (`ReadIn.append`).

The rule for a trailing rescue makes up ranges that no concrete node has: the assignment and the
list on its right end where the guarded value ends, in the middle of concrete nodes.  That works out
because all that is left of these nodes is the handler (`Fits.laid_guarded`).
-/

namespace MultiAssign

/-! ### Concrete trees as they stand in a text -/

namespace Label

def Apart (a b : Label) : Prop := a.stop ≤ b.start ∨ b.stop ≤ a.start

instance : Std.Symm Apart := ⟨fun _ _ => Or.symm⟩

/-- The child in the one field ends before the child in the other one starts. -/
def Precedes (children : List Label) (name name' : String) : Prop :=
  ∀ a ∈ children.find? fun c => c.field == some name,
    ∀ b ∈ children.find? fun c => c.field == some name', a.stop ≤ b.start

instance (children : List Label) (name name' : String) :
    Decidable (Precedes children name name') :=
  inferInstanceAs (Decidable (∀ a ∈ children.find? _, ∀ b ∈ children.find? _, a.stop ≤ b.start))

/-- The children of a node stand inside of it and one after the other, with the two sides of an
assignment and the parts of a rescue modifier in their order. -/
structure Arranged (label : Label) (children : List Label) : Prop where
  le : label.start ≤ label.stop
  inside : ∀ c ∈ children, label.start ≤ c.start ∧ c.stop ≤ label.stop
  ascending : children.Pairwise fun a b => a.stop ≤ b.start
  left_right : Precedes children "left" "right"
  body_handler : Precedes children "body" "handler"

instance (label : Label) (children : List Label) : Decidable (label.Arranged children) :=
  decidable_of_iff
    (label.start ≤ label.stop ∧ (∀ c ∈ children, label.start ≤ c.start ∧ c.stop ≤ label.stop) ∧
      children.Pairwise (fun a b => a.stop ≤ b.start) ∧ Precedes children "left" "right" ∧
      Precedes children "body" "handler")
    ⟨fun ⟨h₁, h₂, h₃, h₄, h₅⟩ => ⟨h₁, h₂, h₃, h₄, h₅⟩,
      fun h => ⟨h.le, h.inside, h.ascending, h.left_right, h.body_handler⟩⟩

end Label

namespace Concrete

def label : Concrete → Label
  | mk label _ => label

mutual

/-- Everywhere in the tree the children of a node stand as they do in a text. -/
def Arranged : Concrete → Prop
  | mk label children => label.Arranged (children.map Concrete.label) ∧ ArrangedAll children

def ArrangedAll : List Concrete → Prop
  | [] => True
  | c :: cs => c.Arranged ∧ ArrangedAll cs

end

mutual

instance decidableArranged : ∀ tree : Concrete, Decidable tree.Arranged
  | mk label children =>
    have := decidableArrangedAll children
    inferInstanceAs
      (Decidable (label.Arranged (children.map Concrete.label) ∧ ArrangedAll children))

instance decidableArrangedAll : ∀ trees : List Concrete, Decidable (ArrangedAll trees)
  | [] => inferInstanceAs (Decidable True)
  | c :: cs =>
    have := decidableArranged c
    have := decidableArrangedAll cs
    inferInstanceAs (Decidable (c.Arranged ∧ ArrangedAll cs))

end

end Concrete

/-- The trees are laid out in the range of a concrete node. -/
def LaidIn (source : Source) (label : Label) (trees : List Node) : Prop :=
  Laid (source.charOffset label.start) (source.charOffset label.stop) trees

/-! ### Computations that succeed -/

theorem map_eq_ok_iff {α β : Type} {x : Except Failure α} {f : α → β} {b : β} :
    x.map f = .ok b ↔ ∃ a, x = .ok a ∧ f a = b := by
  cases x <;> simp [Except.map]

theorem bind_eq_ok_iff {α β : Type} {x : Except Failure α} {f : α → Except Failure β} {b : β} :
    x >>= f = .ok b ↔ ∃ a, x = .ok a ∧ f a = .ok b := by
  cases x <;> simp [bind, Except.bind]

namespace Reading

theorem sequence_cons_eq_ok_iff {α : Type} {e : Except Failure α} {es : List (Except Failure α)}
    {as : List α} : sequence (e :: es) = .ok as ↔
      ∃ a, e = .ok a ∧ ∃ rest, sequence es = .ok rest ∧ a :: rest = as := by
  cases e with
  | error failure => simp [sequence]
  | ok a => simp [sequence, map_eq_ok_iff]

/-- A choice between two computations, both of which go on in the same way. -/
theorem match_bind_eq_ok {α β : Type} {r : Option Reading} {x : Except Failure α}
    {f : Reading → Except Failure α} {k : α → Except Failure β} {b : β}
    (h : (match r with
      | none => x >>= k
      | some c => f c >>= k) = .ok b) :
    ∃ a, (match r with
      | none => x
      | some c => f c) = .ok a ∧ k a = .ok b := by
  cases r with
  | none => exact bind_eq_ok_iff.mp h
  | some c => exact bind_eq_ok_iff.mp h

theorem eq_some_of_required {r : Option Reading} {c : Reading} (h : required r = .ok c) :
    r = some c := by
  cases r <;> cases h
  rfl

/-! ### Readings that fit their range -/

/-- Whatever a reading is taken for is laid out in its range, and so are its parts in theirs. -/
inductive Fits (source : Source) : Reading → Prop
  | mk {r : Reading} (children : ∀ c ∈ r.children, Fits source c)
      (arranged : r.label.Arranged (r.children.map label))
      (node : ∀ n, r.node = .ok n → LaidIn source r.label [n])
      (target : ∀ n, r.target = .ok n → LaidIn source r.label [n])
      (statements : ∀ ns, r.statements = .ok ns → LaidIn source r.label ns)
      (parts : ∀ ns, r.parts = .ok ns → LaidIn source r.label ns) : Fits source r

namespace Fits

variable {source : Source} {r : Reading} {n : Node} {ns : List Node}

theorem arranged (h : Fits source r) : r.label.Arranged (r.children.map label) := by
  cases h with
  | mk _ arranged => exact arranged

theorem le (h : Fits source r) :
    source.charOffset r.label.start ≤ source.charOffset r.label.stop :=
  source.charOffset_mono h.arranged.le

theorem node (h : Fits source r) (hn : r.node = .ok n) : LaidIn source r.label [n] := by
  cases h with
  | mk _ _ node => exact node n hn

theorem target (h : Fits source r) (hn : r.target = .ok n) : LaidIn source r.label [n] := by
  cases h with
  | mk _ _ _ target => exact target n hn

theorem statements (h : Fits source r) (hn : r.statements = .ok ns) : LaidIn source r.label ns := by
  cases h with
  | mk _ _ _ _ statements => exact statements ns hn

theorem parts (h : Fits source r) (hn : r.parts = .ok ns) : LaidIn source r.label ns := by
  cases h with
  | mk _ _ _ _ _ parts => exact parts ns hn

end Fits

/-- Readings that stand one after the other between two positions of a text. -/
structure Row (source : Source) (lo hi : Nat) (rs : List Reading) : Prop where
  fits : ∀ r ∈ rs, Fits source r
  inside : ∀ r ∈ rs, lo ≤ source.charOffset r.label.start ∧ source.charOffset r.label.stop ≤ hi
  ascending : rs.Pairwise fun a b => a.label.stop ≤ b.label.start

variable {source : Source} {label : Label} {lo hi : Nat} {rs children : List Reading}
  {n : Node} {ns : List Node}

theorem row_of_arranged (hfits : ∀ c ∈ children, Fits source c)
    (h : label.Arranged (children.map Reading.label)) :
    Row source (source.charOffset label.start) (source.charOffset label.stop) children where
  fits := hfits
  inside r hr := by
    obtain ⟨hstart, hstop⟩ := h.inside r.label (List.mem_map_of_mem hr)
    exact ⟨source.charOffset_mono hstart, source.charOffset_mono hstop⟩
  ascending := List.pairwise_map.mp h.ascending

theorem Fits.row {r : Reading} (h : Fits source r) :
    Row source (source.charOffset r.label.start) (source.charOffset r.label.stop) r.children := by
  cases h with
  | mk children arranged => exact row_of_arranged children arranged

namespace Row

theorem sublist (h : Row source lo hi rs) {rs' : List Reading} (hsub : rs'.Sublist rs) :
    Row source lo hi rs' where
  fits r hr := h.fits r (hsub.subset hr)
  inside r hr := h.inside r (hsub.subset hr)
  ascending := h.ascending.sublist hsub

theorem named (h : Row source lo hi rs) : Row source lo hi (named rs) :=
  h.sublist List.filter_sublist

theorem elements (h : Row source lo hi rs) : Row source lo hi (elements rs) :=
  h.sublist List.filter_sublist

theorem tail {r : Reading} (h : Row source lo hi (r :: rs)) :
    Row source (source.charOffset r.label.stop) hi rs where
  fits s hs := h.fits s (List.mem_cons_of_mem r hs)
  inside s hs := by
    have hlt := (List.pairwise_cons.mp h.ascending).1 s hs
    exact ⟨source.charOffset_mono hlt, (h.inside s (List.mem_cons_of_mem r hs)).2⟩
  ascending := (List.pairwise_cons.mp h.ascending).2

theorem init {r : Reading} (h : Row source lo hi (rs ++ [r])) :
    Row source lo (source.charOffset r.label.start) rs where
  fits s hs := h.fits s (List.mem_append_left _ hs)
  inside s hs := by
    have hlt := (List.pairwise_append.mp h.ascending).2.2 s hs r (List.mem_singleton_self r)
    exact ⟨(h.inside s (List.mem_append_left _ hs)).1, source.charOffset_mono hlt⟩
  ascending := (List.pairwise_append.mp h.ascending).1

/-! ### Reading lists -/

/-- What is laid out in the range of one of the readings is laid out in the range of all. -/
theorem laid_of_mem (h : Row source lo hi rs) {r : Reading} (hr : r ∈ rs)
    (hlaid : LaidIn source r.label ns) : Laid lo hi ns := by
  obtain ⟨hstart, hstop⟩ := h.inside r hr
  exact hlaid.mono hstart hstop

/-- What is read from readings in a row is laid out, whatever they are read as. -/
theorem laid_sequence (h : Row source lo hi rs) {α : Type} {role : Reading → Except Failure α}
    {out : α → List Node}
    (hrole : ∀ r ∈ rs, ∀ a, role r = .ok a → LaidIn source r.label (out a)) {as : List α}
    (hseq : sequence (rs.map role) = .ok as) : Laid lo hi (as.flatMap out) := by
  induction rs generalizing lo as with
  | nil =>
    cases hseq
    exact .nil
  | cons r rs ih =>
    rw [List.map_cons, sequence_cons_eq_ok_iff] at hseq
    obtain ⟨a, ha, rest, hrest, rfl⟩ := hseq
    have hhead := hrole r List.mem_cons_self a ha
    have htail := ih h.tail (fun s hs => hrole s (List.mem_cons_of_mem r hs)) hrest
    obtain ⟨hstart, hstop⟩ := h.inside r List.mem_cons_self
    have hle := (h.fits r List.mem_cons_self).le
    rw [List.flatMap_cons]
    exact (hhead.append_of_le htail (Nat.le_refl _) hle hstop).mono hstart (Nat.le_refl hi)

theorem laid_nodes (h : Row source lo hi rs) (hns : nodes rs = .ok ns) : Laid lo hi ns := by
  rw [← List.flatMap_singleton' ns]
  exact h.laid_sequence (fun r hr n hn => (h.fits r hr).node hn) hns

theorem laid_targets (h : Row source lo hi rs) (hns : targets rs = .ok ns) : Laid lo hi ns := by
  rw [← List.flatMap_singleton' ns]
  exact h.laid_sequence (fun r hr n hn => (h.fits r hr).target hn) hns

theorem laid_statementsOf (h : Row source lo hi rs) (hns : statementsOf rs = .ok ns) :
    Laid lo hi ns := by
  obtain ⟨nss, hnss, rfl⟩ := map_eq_ok_iff.mp hns
  rw [← List.flatMap_id]
  exact h.laid_sequence (fun r hr ns hns => (h.fits r hr).statements hns) hnss

theorem laid_interpolated (h : Row source lo hi rs) (hns : interpolated rs = .ok ns) :
    Laid lo hi ns := by
  obtain ⟨nss, hnss, rfl⟩ := map_eq_ok_iff.mp hns
  rw [← List.flatMap_id]
  refine h.elements.laid_sequence (fun r hr ns hns => ?_) hnss
  have hfits := h.elements.fits r hr
  split at hns
  · exact hfits.row.named.laid_statementsOf hns
  · exact hfits.parts hns

theorem laid_head? (h : Row source lo hi rs) {n : Option Node} (hn : node? rs.head? = .ok n) :
    Laid lo hi n.toList := by
  cases rs with
  | nil =>
    cases hn
    exact .nil
  | cons r rest =>
    obtain ⟨n, hnode, rfl⟩ := map_eq_ok_iff.mp hn
    exact h.laid_of_mem List.mem_cons_self ((h.fits r List.mem_cons_self).node hnode)

end Row

/-! ### Reading fields -/

theorem mem_of_field? {name : String} {c : Reading} (h : field? name children = some c) :
    c ∈ children := List.mem_of_find?_eq_some h

theorem field_of_field? {name : String} {c : Reading} (h : field? name children = some c) :
    c.label.field = some name := by
  simpa using List.find?_some h

theorem Row.apart (h : Row source lo hi children) {name name' : String} {c c' : Reading}
    (hc : field? name children = some c) (hc' : field? name' children = some c')
    (hne : name ≠ name') : c.label.Apart c'.label := by
  have hlabel : c.label ≠ c'.label := by
    intro heq
    have hfield := field_of_field? hc
    rw [heq, field_of_field? hc'] at hfield
    exact hne (Option.some.inj hfield).symm
  have hpairwise : (children.map Reading.label).Pairwise Label.Apart :=
    List.pairwise_map.mpr (h.ascending.imp Or.inl)
  exact hpairwise.forall (List.mem_map_of_mem (mem_of_field? hc))
    (List.mem_map_of_mem (mem_of_field? hc')) hlabel

theorem stop_le_start_of_precedes {name name' : String} {a b : Reading}
    (h : Label.Precedes (children.map Reading.label) name name')
    (ha : field? name children = some a) (hb : field? name' children = some b) :
    a.label.stop ≤ b.label.start := by
  refine h a.label ?_ b.label ?_
  · rw [List.find?_map, Option.mem_def, Option.map_eq_some_iff]
    exact ⟨a, ha, rfl⟩
  · rw [List.find?_map, Option.mem_def, Option.map_eq_some_iff]
    exact ⟨b, hb, rfl⟩

/-- The trees are read from the child in a field, if there is one. -/
def ReadIn (source : Source) (children : List Reading) (name : String) (trees : List Node) :
    Prop :=
  trees = [] ∨ ∃ c, field? name children = some c ∧ LaidIn source c.label trees

namespace ReadIn

variable {name name' name'' : String} {xs ys zs : List Node}

theorem laid (h : Row source lo hi children) (hx : ReadIn source children name xs) :
    Laid lo hi xs := by
  rcases hx with rfl | ⟨c, hc, hlaid⟩
  · exact .nil
  · exact h.laid_of_mem (mem_of_field? hc) hlaid

theorem separate (h : Row source lo hi children) (hx : ReadIn source children name xs)
    (hy : ReadIn source children name' ys) (hne : name ≠ name') : Separate xs ys := by
  rcases hx with rfl | ⟨c, hc, hx⟩
  · exact nofun
  · rcases hy with rfl | ⟨c', hc', hy⟩
    · exact nofun
    · rcases h.apart hc hc' hne with hlt | hlt
      · exact hx.separate hy (source.charOffset_mono hlt)
      · exact (hy.separate hx (source.charOffset_mono hlt)).symm

theorem append (h : Row source lo hi children) (hx : ReadIn source children name xs)
    (hy : ReadIn source children name' ys) (hne : name ≠ name') : Laid lo hi (xs ++ ys) :=
  (hx.laid h).append (hy.laid h) (hx.separate h hy hne)

theorem append₃ (h : Row source lo hi children) (hx : ReadIn source children name xs)
    (hy : ReadIn source children name' ys) (hz : ReadIn source children name'' zs)
    (hxy : name ≠ name') (hxz : name ≠ name'') (hyz : name' ≠ name'') :
    Laid lo hi (xs ++ ys ++ zs) :=
  (hx.append h hy hxy).append (hz.laid h)
    ((hx.separate h hz hxz).append_left (hy.separate h hz hyz))

end ReadIn

namespace Row

variable {name : String}

theorem readIn_required (h : Row source lo hi children) {role : Reading → Except Failure Node}
    (hrole : ∀ c, Fits source c → role c = .ok n → LaidIn source c.label [n])
    (hn : required (field? name children) >>= role = .ok n) : ReadIn source children name [n] := by
  obtain ⟨c, hc, hn⟩ := bind_eq_ok_iff.mp hn
  have hc := eq_some_of_required hc
  exact Or.inr ⟨c, hc, hrole c (h.fits c (mem_of_field? hc)) hn⟩

theorem readIn_requiredNode (h : Row source lo hi children)
    (hn : requiredNode (field? name children) = .ok n) : ReadIn source children name [n] :=
  h.readIn_required (fun _ hc hn => hc.node hn) hn

theorem readIn_optional (h : Row source lo hi children) {α : Type} {a absent : α}
    {role : Reading → Except Failure α} {f : α → List Node} (habsent : f absent = [])
    (hrole : ∀ c, Fits source c → role c = .ok a → LaidIn source c.label (f a))
    (ha : (match field? name children with
      | none => Except.ok absent
      | some c => role c) = .ok a) : ReadIn source children name (f a) := by
  split at ha
  · cases ha
    exact Or.inl habsent
  · next c hc => exact Or.inr ⟨c, hc, hrole c (h.fits c (mem_of_field? hc)) ha⟩

theorem readIn_node? (h : Row source lo hi children) {n : Option Node}
    (hn : node? (field? name children) = .ok n) : ReadIn source children name n.toList := by
  refine h.readIn_optional (f := Option.toList) rfl (fun c hc hn => ?_) hn
  obtain ⟨n, hnode, rfl⟩ := map_eq_ok_iff.mp hn
  exact hc.node hnode

theorem readIn_statementsInside (h : Row source lo hi children)
    (hns : statementsInside (field? name children) = .ok ns) : ReadIn source children name ns :=
  h.readIn_optional (f := id) rfl (fun _ hc hns => hc.row.named.laid_statementsOf hns) hns

theorem readIn_elements (h : Row source lo hi children)
    (hns : (match field? name children with
      | none => pure []
      | some r => nodes (Reading.elements r.children)) = Except.ok ns) :
    ReadIn source children name ns :=
  h.readIn_optional (f := id) rfl (fun _ hc hns => hc.row.elements.laid_nodes hns) hns

theorem readIn_head? (h : Row source lo hi children) {n : Option Node}
    (hn : (match field? name children with
      | none => pure none
      | some r => node? (Reading.elements r.children).head?) = Except.ok n) :
    ReadIn source children name n.toList :=
  h.readIn_optional (f := Option.toList) rfl (fun _ hc hn => hc.row.elements.laid_head? hn) hn

end Row

/-! ### Clauses -/

def Clauses.all (c : Clauses) : List Node := c.body ++ c.rescues ++ c.elseBody ++ c.ensured.toList

theorem Clauses.mem_all {c : Clauses} {n : Node} : n ∈ c.all ↔
    n ∈ c.body ∨ n ∈ c.rescues ∨ n ∈ c.elseBody ∨ c.ensured = some n := by
  simp [all]

/-- Sorting a body into clauses adds nothing to it, and takes apart nothing but `else`. -/
theorem mem_splitClauses_cons {n m : Node} {rest : List Node}
    (h : m ∈ (splitClauses (n :: rest)).all) :
    m = n ∨ m ∈ n.children ∨ m ∈ (splitClauses rest).all := by
  rw [Clauses.mem_all] at h ⊢
  cases n with
  | ensure =>
    cases hensured : (splitClauses rest).ensured <;> grind [splitClauses]
  | other s kind contents tokens =>
    have hchildren : (Node.other s kind contents tokens).children = contents := rfl
    rw [splitClauses] at h
    split at h <;> grind
  | _ => grind [splitClauses]

theorem mem_walk_of_mem_splitClauses (ns : List Node) :
    ∀ m ∈ (splitClauses ns).all, m ∈ ns.flatMap Node.walk := by
  induction ns with
  | nil =>
    intro m hm
    exact absurd hm List.not_mem_nil
  | cons n rest ih =>
    intro m hm
    rw [List.flatMap_cons]
    rcases mem_splitClauses_cons hm with rfl | hm | hm
    · exact List.mem_append_left _ m.mem_walk_self
    · exact List.mem_append_left _ (Node.mem_walk_of_mem_children n.mem_walk_self hm)
    · exact List.mem_append_right _ (ih m hm)

theorem Row.laid_splitClauses (h : Row source lo hi rs) (hns : statementsOf rs = .ok ns) :
    Laid lo hi (splitClauses ns).all :=
  (h.laid_statementsOf hns).of_mem_walk (mem_walk_of_mem_splitClauses ns)

/-! ### Rules -/

namespace Row

theorem laid_ofScoped (h : Row source lo hi children)
    (hn : ofScoped source label children = .ok n) : Laid lo hi n.children := by
  obtain ⟨scope, hscope, hn⟩ := bind_eq_ok_iff.mp hn
  have hlaid := (h.readIn_node? hscope).laid h
  split at hn
  · cases hn
    exact hlaid
  · split at hn <;> cases hn
    · exact hlaid
    · rw [← List.append_nil scope.toList] at hlaid
      exact hlaid

theorem laid_ofIndex (h : Row source lo hi children) {method : String}
    (hn : ofIndex method children = .ok n) : Laid lo hi n.children := by
  unfold ofIndex at hn
  split at hn
  · cases hn
  · next receiver arguments helements =>
    obtain ⟨first, hfirst, hn⟩ := bind_eq_ok_iff.mp hn
    obtain ⟨others, hothers, hn⟩ := bind_eq_ok_iff.mp hn
    cases hn
    refine h.elements.laid_nodes ?_
    rw [helements]
    exact sequence_cons_eq_ok_iff.mpr ⟨first, hfirst, others, hothers, rfl⟩

theorem laid_ofOperatorAssignment (h : Row source lo hi children)
    (hn : ofOperatorAssignment source children = .ok n) : Laid lo hi n.children := by
  unfold ofOperatorAssignment at hn
  obtain ⟨target, htarget, hn⟩ := bind_eq_ok_iff.mp hn
  obtain ⟨value, hvalue, hn⟩ := bind_eq_ok_iff.mp hn
  cases hn
  exact (h.readIn_required (fun _ hc hn => hc.target hn) htarget).append h
    (h.readIn_requiredNode hvalue) (by decide)

theorem laid_ofCall
    (h : Row source (source.charOffset label.start) (source.charOffset label.stop) children)
    (hle : label.start ≤ label.stop) (hn : ofCall source label children = .ok n) :
    LaidIn source label n.children := by
  unfold ofCall at hn
  obtain ⟨receiver, hreceiver, hn⟩ := bind_eq_ok_iff.mp hn
  obtain ⟨arguments, harguments, hn⟩ := match_bind_eq_ok hn
  have hreceiver := h.readIn_node? hreceiver
  have harguments := h.readIn_elements harguments
  split at hn
  · cases hn
    exact hreceiver.append h harguments (by decide)
  · next block hblock =>
    obtain ⟨body, hbody, hn⟩ := bind_eq_ok_iff.mp hn
    cases hn
    have hblockfits := h.fits block (mem_of_field? hblock)
    have hbody : LaidIn source block.label body :=
      (hblockfits.row.named.sublist List.filter_sublist).laid_statementsOf hbody
    have hbody : ReadIn source children "block" body := Or.inr ⟨block, hblock, hbody⟩
    have hall := hreceiver.append₃ h harguments hbody (by decide) (by decide) (by decide)
    -- The call has the range of the whole: it is put over the receiver and the arguments.
    exact hall.cons rfl (source.charOffset_mono hle)

theorem laid_ofMethod (h : Row source lo hi children) {singleton : Bool}
    (hn : ofMethod source singleton children = .ok n) : Laid lo hi n.children := by
  unfold ofMethod at hn
  obtain ⟨body, hbody, hn⟩ := bind_eq_ok_iff.mp hn
  cases hn
  exact (h.named.sublist List.filter_sublist).laid_splitClauses hbody

theorem laid_ofRescue (h : Row source lo hi children) (hn : ofRescue children = .ok n) :
    Laid lo hi n.children := by
  unfold ofRescue at hn
  obtain ⟨exceptions, hexceptions, hn⟩ := match_bind_eq_ok hn
  obtain ⟨binding, hbinding, hn⟩ := match_bind_eq_ok hn
  obtain ⟨body, hbody, hn⟩ := bind_eq_ok_iff.mp hn
  cases hn
  exact (h.readIn_elements hexceptions).append₃ h (h.readIn_head? hbinding)
    (h.readIn_statementsInside hbody) (by decide) (by decide) (by decide)

end Row

/-! ### Parallel assignments -/

/-- A guarded assignment ends with what is guarded, and the handler comes after it. -/
theorem Fits.laid_guarded {rescue guarded : Reading} {start : Nat} {targets : List Node}
    {value handler : Node} (hrescue : Fits source rescue)
    (hstop : source.charOffset rescue.label.stop ≤ source.charOffset label.stop)
    (hguarded : field? "body" rescue.children = some guarded)
    (hhandler : requiredNode (field? "handler" rescue.children) = .ok handler)
    (htargets : Laid (source.charOffset label.start) start targets)
    (hvalue : Laid start (source.charOffset guarded.label.stop) [value])
    (hstart : source.charOffset label.start ≤ start)
    (hle : start ≤ source.charOffset guarded.label.stop) :
    LaidIn source label [.multiAssign
      (some (source.spanOfBytes label.start guarded.label.stop)) targets value, handler] := by
  have hparts : Laid (source.charOffset label.start) (source.charOffset guarded.label.stop)
      (targets ++ [value]) := htargets.append_of_le hvalue (Nat.le_refl start) hstart hle
  have hassignment := Laid.node (n := .multiAssign
    (some (source.spanOfBytes label.start guarded.label.stop)) targets value) hparts rfl
    (Nat.le_trans hstart hle)
  obtain ⟨c, hc, hhandler⟩ := bind_eq_ok_iff.mp hhandler
  have hc := eq_some_of_required hc
  have hfits := hrescue.row.fits c (mem_of_field? hc)
  have hcstop := (hrescue.row.inside c (mem_of_field? hc)).2
  have hlt := source.charOffset_mono
    (stop_le_start_of_precedes hrescue.arranged.body_handler hguarded hc)
  have hboth := hassignment.append_of_le (hfits.node hhandler) hlt
    (Nat.le_trans hstart (Nat.le_trans hle hlt)) (Nat.le_trans hlt hfits.le)
  exact hboth.mono (Nat.le_refl _) (Nat.le_trans hcstop hstop)

/-- A trailing rescue is all of the right side or the last element of it. -/
theorem trailingRescue?_eq_some {right rescue : Reading} (h : trailingRescue? right = some rescue) :
    (right.label.construct = .rescueGuard ∧ rescue = right) ∨
    (right.label.construct ≠ .rescueGuard ∧
      ∃ before, elements right.children = before ++ [rescue]) := by
  unfold trailingRescue? at h
  split at h
  · next hconstruct =>
    cases h
    exact Or.inl ⟨hconstruct, rfl⟩
  · next hconstruct =>
    split at h
    · next last hlast =>
      split at h <;> cases h
      refine Or.inr ⟨?_, List.getLast?_eq_some_iff.mp hlast⟩
      rw [hconstruct]
      nofun
    · cases h
  · cases h

theorem Fits.laid_ofGuarded {right rescue : Reading} {targets : List Node}
    (hright : Fits source right)
    (hstart : source.charOffset label.start ≤ source.charOffset right.label.start)
    (hstop : source.charOffset right.label.stop ≤ source.charOffset label.stop)
    (hrescue : trailingRescue? right = some rescue)
    (htargets : Laid (source.charOffset label.start) (source.charOffset right.label.start) targets)
    (hn : ofGuarded source label targets right rescue = .ok n) :
    LaidIn source label n.children := by
  unfold ofGuarded at hn
  rcases trailingRescue?_eq_some hrescue with ⟨hconstruct, rfl⟩ | ⟨hconstruct, before, hbefore⟩
  · rw [if_pos hconstruct] at hn
    obtain ⟨guarded, hguarded, hn⟩ := bind_eq_ok_iff.mp hn
    obtain ⟨value, hvalue, hn⟩ := bind_eq_ok_iff.mp hn
    obtain ⟨handler, hhandler, hn⟩ := bind_eq_ok_iff.mp hn
    cases hn
    have hguarded := eq_some_of_required hguarded
    have hfits := hright.row.fits guarded (mem_of_field? hguarded)
    have hgstart := (hright.row.inside guarded (mem_of_field? hguarded)).1
    exact hright.laid_guarded hstop hguarded hhandler htargets
      ((hfits.node hvalue).mono hgstart (Nat.le_refl _)) hstart (Nat.le_trans hgstart hfits.le)
  · rw [if_neg hconstruct, hbefore, List.dropLast_concat] at hn
    obtain ⟨firsts, hfirsts, hn⟩ := bind_eq_ok_iff.mp hn
    obtain ⟨guarded, hguarded, hn⟩ := bind_eq_ok_iff.mp hn
    obtain ⟨last, hlast, hn⟩ := bind_eq_ok_iff.mp hn
    obtain ⟨handler, hhandler, hn⟩ := bind_eq_ok_iff.mp hn
    cases hn
    have hrow := hright.row.elements
    rw [hbefore] at hrow
    have hmem : rescue ∈ before ++ [rescue] := List.mem_append_right _ (List.mem_singleton_self _)
    have hrescuefits := hrow.fits rescue hmem
    obtain ⟨hrstart, hrstop⟩ := hrow.inside rescue hmem
    have hguarded := eq_some_of_required hguarded
    have hfits := hrescuefits.row.fits guarded (mem_of_field? hguarded)
    have hgstart := (hrescuefits.row.inside guarded (mem_of_field? hguarded)).1
    have hgstop := Nat.le_trans hgstart hfits.le
    -- The list on the right is cut where the guarded value ends.
    have helements := (hrow.init.laid_nodes hfirsts).append_of_le (hfits.node hlast) hgstart
      (Nat.le_trans hrstart hgstart) hgstop
    have hvalue := Laid.node (n := .array (some (source.spanOfBytes right.label.start
      guarded.label.stop)) (firsts ++ [last]) false) helements rfl (Nat.le_trans hrstart hgstop)
    exact hrescuefits.laid_guarded (Nat.le_trans hrstop hstop) hguarded hhandler htargets hvalue
      hstart (Nat.le_trans hrstart hgstop)

theorem laid_ofAssignment (hfits : ∀ c ∈ children, Fits source c)
    (harranged : label.Arranged (children.map Reading.label))
    (hn : ofAssignment source label children = .ok n) : LaidIn source label n.children := by
  have h := row_of_arranged hfits harranged
  unfold ofAssignment at hn
  obtain ⟨left, hleft, hn⟩ := bind_eq_ok_iff.mp hn
  have hleft := eq_some_of_required hleft
  have hleftfits := h.fits left (mem_of_field? hleft)
  split at hn
  · obtain ⟨targets, htargets, hn⟩ := bind_eq_ok_iff.mp hn
    obtain ⟨right, hright, hn⟩ := bind_eq_ok_iff.mp hn
    have hright := eq_some_of_required hright
    have hrightfits := h.fits right (mem_of_field? hright)
    have htargets := hleftfits.row.elements.laid_targets htargets
    split at hn
    · obtain ⟨value, hvalue, hn⟩ := bind_eq_ok_iff.mp hn
      cases hn
      exact ReadIn.append h (Or.inr ⟨left, hleft, htargets⟩)
        (Or.inr ⟨right, hright, hrightfits.node hvalue⟩) (by decide)
    · next rescue hrescue =>
      have hlt := source.charOffset_mono
        (stop_le_start_of_precedes harranged.left_right hleft hright)
      have htargets := htargets.mono (h.inside left (mem_of_field? hleft)).1 hlt
      obtain ⟨hstart, hstop⟩ := h.inside right (mem_of_field? hright)
      exact hrightfits.laid_ofGuarded hstart hstop hrescue htargets hn
  · obtain ⟨target, htarget, hn⟩ := bind_eq_ok_iff.mp hn
    obtain ⟨value, hvalue, hn⟩ := bind_eq_ok_iff.mp hn
    cases hn
    exact ReadIn.append h (Or.inr ⟨left, hleft, hleftfits.target htarget⟩)
      (h.readIn_requiredNode hvalue) (by decide)

/-! ### All rules together -/

/-- What a concrete node denotes has its children laid out in the range of the concrete node. -/
theorem laid_denoted (hfits : ∀ c ∈ children, Fits source c)
    (harranged : label.Arranged (children.map Reading.label))
    (hn : denoted source label children = .ok n) : LaidIn source label n.children := by
  have h := row_of_arranged hfits harranged
  unfold denoted at hn
  generalize label.construct = construct at hn
  cases construct with
  | selfRef | constant | «variable» =>
    cases hn
    exact .nil
  | «scoped» => exact h.laid_ofScoped hn
  | assignment => exact laid_ofAssignment hfits harranged hn
  | operatorAssignment => exact h.laid_ofOperatorAssignment hn
  | call => exact h.laid_ofCall harranged.le hn
  | index => exact h.laid_ofIndex hn
  | method => exact h.laid_ofMethod hn
  | rescue => exact h.laid_ofRescue hn
  | program | ensure | other =>
    obtain ⟨body, hbody, hn⟩ := bind_eq_ok_iff.mp hn
    cases hn
    exact h.named.laid_statementsOf hbody
  | begin =>
    obtain ⟨body, hbody, hn⟩ := bind_eq_ok_iff.mp hn
    cases hn
    exact h.named.laid_splitClauses hbody
  | word | literal =>
    obtain ⟨parts, hparts, hn⟩ := bind_eq_ok_iff.mp hn
    cases hn
    exact h.laid_interpolated hparts
  | array =>
    obtain ⟨ns, hns, hn⟩ := bind_eq_ok_iff.mp hn
    cases hn
    exact h.elements.laid_nodes hns
  | splat =>
    obtain ⟨value, hvalue, hn⟩ := bind_eq_ok_iff.mp hn
    cases hn
    exact h.elements.laid_head? hvalue
  | conditionalGuard | loopGuard =>
    obtain ⟨condition, hcondition, hn⟩ := bind_eq_ok_iff.mp hn
    obtain ⟨body, hbody, hn⟩ := bind_eq_ok_iff.mp hn
    cases hn
    exact (h.readIn_requiredNode hbody).append h (h.readIn_requiredNode hcondition) (by decide)
  | conditional =>
    obtain ⟨condition, hcondition, hn⟩ := bind_eq_ok_iff.mp hn
    obtain ⟨body, hbody, hn⟩ := bind_eq_ok_iff.mp hn
    obtain ⟨alternative, halternative, hn⟩ := bind_eq_ok_iff.mp hn
    cases hn
    exact (h.readIn_requiredNode hcondition).append₃ h (h.readIn_statementsInside hbody)
      (h.readIn_node? halternative) (by decide) (by decide) (by decide)
  | loop =>
    obtain ⟨condition, hcondition, hn⟩ := bind_eq_ok_iff.mp hn
    obtain ⟨body, hbody, hn⟩ := bind_eq_ok_iff.mp hn
    cases hn
    exact (h.readIn_requiredNode hcondition).append h (h.readIn_statementsInside hbody) (by decide)
  | rescueGuard =>
    obtain ⟨body, hbody, hn⟩ := bind_eq_ok_iff.mp hn
    obtain ⟨handler, hhandler, hn⟩ := bind_eq_ok_iff.mp hn
    cases hn
    exact (h.readIn_requiredNode hbody).append h (h.readIn_requiredNode hhandler) (by decide)

theorem Row.laid_denotedTarget? (h : Row source lo hi children)
    (hn : denotedTarget? source label children = some (.ok n)) : Laid lo hi n.children := by
  unfold denotedTarget? at hn
  split at hn
  · obtain ⟨receiver, hreceiver, hn⟩ := bind_eq_ok_iff.mp (Option.some.inj hn)
    cases hn
    have hlaid := (h.readIn_node? hreceiver).laid h
    rw [← List.append_nil receiver.toList] at hlaid
    exact hlaid
  · exact h.laid_ofIndex (Option.some.inj hn)
  · have hn := Option.some.inj hn
    split at hn
    · cases hn
      exact .nil
    · next r rest hr =>
      obtain ⟨target, htarget, hn⟩ := bind_eq_ok_iff.mp hn
      cases hn
      have hmem : r ∈ Reading.elements children := hr ▸ List.mem_cons_self
      exact h.elements.laid_of_mem hmem ((h.elements.fits r hmem).target htarget)
  · obtain ⟨targets, htargets, hn⟩ := bind_eq_ok_iff.mp (Option.some.inj hn)
    cases hn
    exact h.elements.laid_targets htargets
  · cases hn

/-- **A reading fits its range if the readings of its children fit theirs.** -/
theorem fits_assemble (hfits : ∀ c ∈ children, Fits source c)
    (harranged : label.Arranged (children.map Reading.label)) :
    Fits source (assemble source label children) := by
  have h := row_of_arranged hfits harranged
  have hlocated : ∀ m : Node, LaidIn source label m.children →
      LaidIn source label [m.located (spanOf source label)] := by
    intro m hm
    rw [← m.children_located (spanOf source label)] at hm
    exact hm.node (m.span_located _) (source.charOffset_mono harranged.le)
  have hnode : ∀ n, (assemble source label children).node = .ok n → LaidIn source label [n] := by
    intro n hn
    obtain ⟨m, hm, rfl⟩ := map_eq_ok_iff.mp hn
    exact hlocated m (laid_denoted hfits harranged hm)
  refine .mk hfits harranged hnode ?_ ?_ ?_
  · intro n hn
    simp only [assemble] at hn
    split at hn
    · next target htarget =>
      obtain ⟨m, rfl, rfl⟩ := map_eq_ok_iff.mp hn
      exact hlocated m (h.laid_denotedTarget? htarget)
    · exact hnode n hn
  · intro ns hns
    simp only [assemble] at hns
    split at hns
    · cases hns
      exact .nil
    · split at hns
      · exact h.named.laid_statementsOf hns
      · obtain ⟨n, hn, rfl⟩ := map_eq_ok_iff.mp hns
        exact hnode n hn
  · intro ns hns
    exact h.laid_interpolated hns

theorem label_ofConcrete (tree : Concrete) : (ofConcrete source tree).label = tree.label := by
  cases tree
  rfl

theorem map_label_ofConcreteList (trees : List Concrete) :
    (ofConcreteList source trees).map Reading.label = trees.map Concrete.label := by
  induction trees with
  | nil => rfl
  | cons c cs ih => rw [ofConcreteList, List.map_cons, List.map_cons, ih, label_ofConcrete]

mutual

theorem fits_ofConcrete : ∀ tree : Concrete, tree.Arranged → Fits source (ofConcrete source tree)
  | .mk label children, h => by
    obtain ⟨harranged, hall⟩ := h
    rw [← @map_label_ofConcreteList source] at harranged
    exact fits_assemble (fits_ofConcreteList children hall) harranged

theorem fits_ofConcreteList : ∀ trees : List Concrete, Concrete.ArrangedAll trees →
    ∀ r ∈ ofConcreteList source trees, Fits source r
  | [], _, _, hr => absurd hr List.not_mem_nil
  | c :: cs, h, r, hr => by
    rcases List.mem_cons.mp hr with rfl | hr
    · exact fits_ofConcrete c h.1
    · exact fits_ofConcreteList cs h.2 r hr

end

end Reading

/-- **What is read from an arranged tree is laid out in the range of that tree.** -/
theorem Node.laidIn_ofConcrete {source : Source} {tree : Concrete} {root : Node}
    (h : tree.Arranged) (hroot : Node.ofConcrete source tree = .ok root) :
    LaidIn source tree.label [root] := by
  have hlaid := (Reading.fits_ofConcrete tree h).node hroot
  rw [Reading.label_ofConcrete] at hlaid
  exact hlaid

end MultiAssign
