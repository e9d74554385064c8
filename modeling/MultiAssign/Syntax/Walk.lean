import MultiAssign.Syntax.Node

/-!
# Walks through a tree

`unstack` is a depth-first traversal that keeps the nodes still to be visited on a stack: it takes
the top node and puts that node's children in its place. It works for anything with children that
are together smaller than their parent. `Node.walk` visits a node and all its descendants this way,
parents before children; `Node.preorder` says the same by recursion on the tree.

A `Place` is a node together with the way down to it, so that it knows its ancestors.
-/

namespace MultiAssign

def total {α : Type} (size : α → Nat) : List α → Nat
  | [] => 0
  | a :: rest => size a + total size rest

theorem total_append {α : Type} (size : α → Nat) (as bs : List α) :
    total size (as ++ bs) = total size as + total size bs := by
  induction as with
  | nil => simp [total]
  | cons a as ih =>
    simp only [List.cons_append, total, ih]
    omega

theorem total_map {α β : Type} (size : β → Nat) (f : α → β) (as : List α) :
    total size (as.map f) = total (fun a => size (f a)) as := by
  induction as with
  | nil => rfl
  | cons a as ih => simp only [List.map_cons, total, ih]

theorem length_flatMap_eq_total {α β : Type} (f : α → List β) (as : List α) :
    (as.flatMap f).length = total (fun a => (f a).length) as := by
  induction as with
  | nil => rfl
  | cons a as ih => simp only [List.flatMap_cons, List.length_append, total, ih]

namespace Node

mutual

/-- The node and all its descendants, parents before children, by recursion on the tree. -/
def preorder : Node → List Node
  | program s b => program s b :: preorderList b
  | var s k n => [var s k n]
  | const s n c => const s n c :: preorderOption c
  | selfRef s => [selfRef s]
  | literal s k v p d => literal s k v p d :: preorderList p
  | array s es b => array s es b :: preorderList es
  | splat s v => splat s v :: preorderOption v
  | send s r m as => send s r m as :: (preorderOption r ++ preorderList as)
  | block s c b => block s c b :: (preorder c ++ preorderList b)
  | multiAssign s ts v => multiAssign s ts v :: (preorderList ts ++ preorder v)
  | assign s t v o => assign s t v o :: (preorder t ++ preorder v)
  | nested s ts => nested s ts :: preorderList ts
  | conditional s k c b a m ks =>
    conditional s k c b a m ks ::
      if m then preorderList b ++ preorder c else preorder c ++ preorderList b ++ preorderOption a
  | loop s k c b m ks =>
    loop s k c b m ks ::
      if m then preorderList b ++ preorder c else preorder c ++ preorderList b
  | rescueModifier s b h => rescueModifier s b h :: (preorder b ++ preorder h)
  | rescueClause s es v b =>
    rescueClause s es v b :: (preorderList es ++ preorderOption v ++ preorderList b)
  | ensure s b => ensure s b :: preorderList b
  | begin s b rs es en =>
    begin s b rs es en ::
      (preorderList b ++ preorderList rs ++ preorderList es ++ preorderOption en)
  | methodDef s n b sg rs es en =>
    methodDef s n b sg rs es en ::
      (preorderList b ++ preorderList rs ++ preorderList es ++ preorderOption en)
  | other s k c ts => other s k c ts :: preorderList c

def preorderList : List Node → List Node
  | [] => []
  | n :: ns => preorder n ++ preorderList ns

def preorderOption : Option Node → List Node
  | none => []
  | some n => preorder n

end

theorem preorderList_eq (nodes : List Node) : preorderList nodes = nodes.flatMap preorder := by
  induction nodes with
  | nil => simp [preorderList]
  | cons n ns ih => simp [preorderList, ih]

theorem preorderOption_eq (node : Option Node) :
    preorderOption node = node.toList.flatMap preorder := by
  cases node <;> simp [preorderOption]

theorem preorder_eq (node : Node) :
    node.preorder = node :: node.children.flatMap preorder := by
  cases node <;> simp only [preorder, children, preorderList_eq, preorderOption_eq] <;>
    (try split) <;> simp

def size (node : Node) : Nat := node.preorder.length

theorem size_eq (node : Node) : node.size = total size node.children + 1 := by
  rw [size, preorder_eq, List.length_cons, length_flatMap_eq_total]
  rfl

theorem total_size_children_lt (node : Node) : total size node.children < node.size := by
  rw [size_eq]
  omega

end Node

/-! ### The walk with a stack -/

/-- Visits what is on a stack, and below it, from the top. -/
def unstack {α : Type} (children : α → List α) (size : α → Nat)
    (smaller : ∀ a, total size (children a) < size a) : List α → List α
  | [] => []
  | a :: rest => a :: unstack children size smaller (children a ++ rest)
termination_by stack => total size stack
decreasing_by
  have := smaller a
  simp only [total_append, total]
  omega

namespace Node

/-- The node and all its descendants, parents before children. -/
def walk (node : Node) : List Node := unstack children size total_size_children_lt [node]

def contains (p : Node → Bool) (node : Node) : Bool := node.walk.any p

end Node

/-! ### Places -/

/-- A node and the way up from it: each ancestor, the nearest first, with the index of the child
that leads down. -/
structure Place where
  node : Node
  above : List (Node × Nat)
  deriving Inhabited

namespace Place

def top (node : Node) : Place := ⟨node, []⟩

def children (p : Place) : List Place :=
  p.node.children.zipIdx.map fun (child, i) => ⟨child, (p.node, i) :: p.above⟩

def parent? (p : Place) : Option Place :=
  match p.above with
  | [] => none
  | (node, _) :: above => some ⟨node, above⟩

/-- The way up as child indices alone; in one tree it tells places apart. -/
def path (p : Place) : List Nat := p.above.map (·.2)

/-- In one tree: `p` is the place of `q` or of one of its ancestors. -/
def encloses (p q : Place) : Bool := p.path.isSuffixOf q.path

def size (p : Place) : Nat := p.node.size

theorem total_size_children_lt (p : Place) : total size p.children < p.size := by
  have h : total size p.children = total Node.size p.node.children := by
    rw [← List.zipIdx_map_fst 0 p.node.children, total_map, children, total_map]
    rfl
  rw [h]
  exact Node.total_size_children_lt p.node

def walk (p : Place) : List Place := unstack children size total_size_children_lt [p]

end Place

end MultiAssign
