import MultiAssign.Dependency.Pair

/-!
# Nodes that say the same

`Node.same` compares two nodes and passes over where they stand.  `unlocated` takes the ranges out
of a node, and `same_iff` says that the comparison is equality of what is left.  So it can be turned
around and chained like an equality, and a read does not tell two targets apart that say the same
(`readsTarget_congr`).
-/

namespace MultiAssign.Node

mutual

/-- The node with all ranges taken out of it. -/
def unlocated : Node → Node
  | program _ b => program none (unlocatedList b)
  | var _ k n => var none k n
  | const _ n c => const none n (unlocatedOption c)
  | selfRef _ => selfRef none
  | literal _ k v p d => literal none k v (unlocatedList p) d
  | array _ es b => array none (unlocatedList es) b
  | splat _ v => splat none (unlocatedOption v)
  | send _ r m as => send none (unlocatedOption r) m (unlocatedList as)
  | block _ c b => block none (unlocated c) (unlocatedList b)
  | multiAssign _ ts v => multiAssign none (unlocatedList ts) (unlocated v)
  | assign _ t v o => assign none (unlocated t) (unlocated v) o
  | nested _ ts => nested none (unlocatedList ts)
  | conditional _ k c b a m _ =>
    conditional none k (unlocated c) (unlocatedList b) (unlocatedOption a) m none
  | loop _ k c b m _ => loop none k (unlocated c) (unlocatedList b) m none
  | rescueModifier _ b h => rescueModifier none (unlocated b) (unlocated h)
  | rescueClause _ es v b =>
    rescueClause none (unlocatedList es) (unlocatedOption v) (unlocatedList b)
  | ensure _ b => ensure none (unlocatedList b)
  | begin _ b rs es en =>
    begin none (unlocatedList b) (unlocatedList rs) (unlocatedList es) (unlocatedOption en)
  | methodDef _ n b sg rs es en =>
    methodDef none n (unlocatedList b) sg (unlocatedList rs) (unlocatedList es)
      (unlocatedOption en)
  | other _ k c ts => other none k (unlocatedList c) ts

def unlocatedList : List Node → List Node
  | [] => []
  | n :: ns => unlocated n :: unlocatedList ns

def unlocatedOption : Option Node → Option Node
  | none => none
  | some n => some (unlocated n)

end

mutual

/-- **Two nodes say the same if they are equal but for where they stand.** -/
theorem same_iff : ∀ a b : Node, same a b ↔ a.unlocated = b.unlocated
  | program _ body, b => by cases b <;> simp [same, unlocated, sameList_iff body]
  | var .., b => by cases b <;> simp [same, unlocated]
  | const _ _ scope, b => by cases b <;> simp [same, unlocated, sameOption_iff scope]
  | selfRef _, b => by cases b <;> simp [same, unlocated]
  | literal _ _ _ parts _, b => by
    cases b <;> simp [same, unlocated, sameList_iff parts, and_assoc]
  | array _ elements _, b => by cases b <;> simp [same, unlocated, sameList_iff elements]
  | splat _ value, b => by cases b <;> simp [same, unlocated, sameOption_iff value]
  | send _ receiver _ arguments, b => by
    cases b <;> simp [same, unlocated, sameOption_iff receiver, sameList_iff arguments, and_assoc]
  | block _ call body, b => by
    cases b <;> simp [same, unlocated, same_iff call, sameList_iff body]
  | multiAssign _ targets value, b => by
    cases b <;> simp [same, unlocated, same_iff value, sameList_iff targets]
  | assign _ target value _, b => by
    cases b <;> simp [same, unlocated, same_iff target, same_iff value, and_assoc]
  | nested _ targets, b => by cases b <;> simp [same, unlocated, sameList_iff targets]
  | conditional _ _ condition body alternative _ _, b => by
    cases b <;> simp [same, unlocated, same_iff condition, sameList_iff body,
      sameOption_iff alternative, and_assoc]
  | loop _ _ condition body _ _, b => by
    cases b <;> simp [same, unlocated, same_iff condition, sameList_iff body, and_assoc]
  | rescueModifier _ body handler, b => by
    cases b <;> simp [same, unlocated, same_iff body, same_iff handler]
  | rescueClause _ exceptions binding body, b => by
    cases b <;> simp [same, unlocated, sameList_iff exceptions, sameOption_iff binding,
      sameList_iff body, and_assoc]
  | ensure _ body, b => by cases b <;> simp [same, unlocated, sameList_iff body]
  | begin _ body rescues elseBody ensured, b => by
    cases b <;> simp [same, unlocated, sameList_iff body, sameList_iff rescues,
      sameList_iff elseBody, sameOption_iff ensured, and_assoc]
  | methodDef _ _ body _ rescues elseBody ensured, b => by
    cases b <;> simp [same, unlocated, sameList_iff body, sameList_iff rescues,
      sameList_iff elseBody, sameOption_iff ensured, and_assoc]
  | other _ _ contents _, b => by
    cases b <;> simp [same, unlocated, sameList_iff contents, and_assoc]

theorem sameList_iff : ∀ as bs : List Node, sameList as bs ↔ unlocatedList as = unlocatedList bs
  | [], bs => by cases bs <;> simp [sameList, unlocatedList]
  | a :: as, bs => by cases bs <;> simp [sameList, unlocatedList, same_iff a, sameList_iff as]

theorem sameOption_iff : ∀ a b : Option Node,
    sameOption a b ↔ unlocatedOption a = unlocatedOption b
  | none, b => by cases b <;> simp [sameOption, unlocatedOption]
  | some a, b => by cases b <;> simp [sameOption, unlocatedOption, same_iff a]

end

/-! ### Reads of targets that say the same -/

theorem same_comm (a b : Node) : same a b = same b a := by
  rw [Bool.eq_iff_iff, same_iff, same_iff]
  exact eq_comm

theorem sameList_congr_right {as bs : List Node} (h : sameList as bs) (cs : List Node) :
    sameList cs as = sameList cs bs := by
  rw [Bool.eq_iff_iff, sameList_iff, sameList_iff, (sameList_iff as bs).mp h]

theorem sameOption_congr_right {a b : Option Node} (h : sameOption a b) (c : Option Node) :
    sameOption c a = sameOption c b := by
  rw [Bool.eq_iff_iff, sameOption_iff, sameOption_iff, (sameOption_iff a b).mp h]

theorem matchingCalls_congr {receiver receiver' : Option Node}
    (h : sameOption receiver receiver') (source : Node) (method : String) :
    source.matchingCalls receiver method = source.matchingCalls receiver' method := by
  simp only [matchingCalls, sameOption_congr_right h]

theorem accesses_congr {receiver receiver' : Option Node} {arguments arguments' : List Node}
    (hr : sameOption receiver receiver') (ha : sameList arguments arguments') (source : Node)
    (method : String) :
    source.accesses receiver method arguments = source.accesses receiver' method arguments' := by
  simp only [accesses, matchingCalls_congr hr, sameList_congr_right ha]

mutual

theorem readsTarget_of_same {source : Node} : ∀ t t' : Node, same t t' →
    source.readsTarget t' → source.readsTarget t := by
  intro t t' h hr
  cases t' with
  | var _ kind name =>
    cases t with
    | var =>
      obtain ⟨_, rfl⟩ : _ = kind ∧ _ = name := by simpa [same] using h
      exact hr
    | _ => exact absurd h Bool.false_ne_true
  | const _ name scope =>
    cases t with
    | const =>
      obtain ⟨rfl, _⟩ : _ = name ∧ sameOption _ scope := by simpa [same] using h
      exact hr
    | _ => exact absurd h Bool.false_ne_true
  | send _ receiver method arguments =>
    cases t with
    | send =>
      obtain ⟨⟨hreceiver, rfl⟩, harguments⟩ :
          (sameOption _ receiver ∧ _ = method) ∧ sameList _ arguments := by
        simpa [same] using h
      rw [readsTarget] at hr ⊢
      rwa [accesses_congr hreceiver harguments]
    | _ => exact absurd h Bool.false_ne_true
  | nested _ targets =>
    cases t with
    | nested _ targets' => exact readsAny_of_sameList targets' targets h hr
    | _ => exact absurd h Bool.false_ne_true
  | splat _ value =>
    cases value with
    | none => exact absurd hr Bool.false_ne_true
    | some value =>
      cases t with
      | splat _ value' =>
        cases value' with
        | none => exact absurd h Bool.false_ne_true
        | some value' => exact readsTarget_of_same value' value h hr
      | _ => exact absurd h Bool.false_ne_true
  | _ => exact absurd hr Bool.false_ne_true

theorem readsAny_of_sameList {source : Node} : ∀ ts ts' : List Node, sameList ts ts' →
    source.readsAny ts' → source.readsAny ts
  | [], [], _, hr => hr
  | t :: ts, t' :: ts', h, hr => by
    obtain ⟨hhead, htail⟩ : same t t' ∧ sameList ts ts' := by simpa [sameList] using h
    rw [readsAny, Bool.or_eq_true] at hr ⊢
    exact hr.imp (readsTarget_of_same t t' hhead) (readsAny_of_sameList ts ts' htail)
  | [], _ :: _, h, _ => absurd h Bool.false_ne_true
  | _ :: _, [], h, _ => absurd h Bool.false_ne_true

end

/-- **Who reads a target depends on what it says**, and not on where it stands. -/
theorem readsTarget_congr {source t t' : Node} (h : same t t') :
    source.readsTarget t = source.readsTarget t' := by
  rw [Bool.eq_iff_iff]
  exact ⟨readsTarget_of_same t' t (same_comm t t' ▸ h), readsTarget_of_same t t' h⟩

end MultiAssign.Node
