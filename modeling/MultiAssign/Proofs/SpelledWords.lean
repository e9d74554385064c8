import MultiAssign.Proofs.Boundaries
import MultiAssign.Proofs.MadeNodes

/-!
# Words stand in the text as they are

A node that is read has words from the text: the name of a variable, the value of a literal, the
method of a call.  These are read from bytes, while the range of a node counts characters.  This
file says that both lead to the same text (`Node.words_as_written`), if the concrete nodes begin and
end at the boundaries of characters.

A variable and a literal are their own text.  The name of a constant may be the last part of a
longer text, as in `A::B`, and a call, the definition of a method or an assignment has its word in
one of its children: `Node.Spelled` says where.  Every node is made by a rule (`Reading.Makes`), so
that it is enough to look at what each rule takes from the text (`Reading.Makes.spelled`).
-/

namespace MultiAssign

/-- A concrete node begins and ends where characters of the text do. -/
structure Label.Whole (source : Source) (label : Label) : Prop where
  le : label.start ≤ label.stop
  start : source.IsBoundary label.start
  stop : source.IsBoundary label.stop

instance (source : Source) (label : Label) : Decidable (label.Whole source) :=
  decidable_of_iff
    (label.start ≤ label.stop ∧ source.IsBoundary label.start ∧ source.IsBoundary label.stop)
    ⟨fun ⟨h₁, h₂, h₃⟩ => ⟨h₁, h₂, h₃⟩, fun h => ⟨h.le, h.start, h.stop⟩⟩

theorem Label.Whole.textOf_eq {source : Source} {label : Label} (h : label.Whole source) :
    Reading.textOf source label = source.textOf (Reading.spanOf source label) :=
  Source.bytesText_eq_textOf h.start h.stop h.le

namespace Concrete

def textIn (source : Source) (c : Concrete) : String :=
  source.textOf (Reading.spanOf source c.label)

def wordIn (source : Source) (name : String) (c : Concrete) : Option String :=
  (field? name c.children).map (textIn source)

end Concrete

namespace Node

/-- The range of a node is that of a concrete node. -/
def StandsAt (source : Source) (c : Concrete) (n : Node) : Prop :=
  n.span = some (Reading.spanOf source c.label)

/-- Where the words of a node stand in the text, if it was read from the concrete node `c`. -/
def Spelled (source : Source) (c : Concrete) (n : Node) : Prop :=
  match n with
  | var _ _ name => n.sourceIn source = name
  | literal _ _ value _ _ => n.sourceIn source = value
  | const _ name _ =>
    n.StandsAt source c ∧ (n.sourceIn source = name ∨ c.wordIn source "name" = some name)
  | send _ _ method _ =>
    n.StandsAt source c ∧ ∃ word, (method = word ∨ method = word ++ "=") ∧
      ((c.wordIn source "method").getD "call" = word ∨ c.wordIn source "name" = some word ∨
        word = "[]")
  | methodDef _ name _ _ _ _ _ => n.StandsAt source c ∧ (c.wordIn source "name").getD "" = name
  | assign _ _ _ operator =>
    n.StandsAt source c ∧ (operator = "=" ∨ c.wordIn source "operator" = some operator)
  | other _ _ _ tokens =>
    n.StandsAt source c ∧
      (c.children.filter fun d => !d.label.named).map (Concrete.textIn source) = tokens
  | _ => True

end Node

namespace Reading

variable {source : Source} {c : Concrete} {n : Node}

/-- The word that a rule reads from the child in a field. -/
theorem map_field? (hwhole : ∀ d ∈ c.children, d.label.Whole source) (name : String) :
    (field? name (ofConcreteList source c.children)).map (fun r => textOf source r.label) =
      c.wordIn source name := by
  rw [ofConcreteList_eq_map, Concrete.field?_map, Concrete.wordIn, Option.map_map]
  refine Option.map_congr fun d hd => ?_
  simp only [Function.comp_apply, label_ofConcrete]
  exact (hwhole d (List.mem_of_find?_eq_some hd)).textOf_eq

theorem methodName_eq (hwhole : ∀ d ∈ c.children, d.label.Whole source) :
    methodName source (ofConcreteList source c.children) =
      (c.wordIn source "method").getD "call" := by
  rw [← map_field? hwhole, methodName]
  cases field? "method" (ofConcreteList source c.children) <;> rfl

theorem map_tokens (hwhole : ∀ d ∈ c.children, d.label.Whole source) :
    ((ofConcreteList source c.children).filter fun r => !r.label.named).map
        (fun r => textOf source r.label) =
      (c.children.filter fun d => !d.label.named).map (Concrete.textIn source) := by
  rw [ofConcreteList_eq_map, List.filter_map, List.map_map]
  simp only [Function.comp_def, label_ofConcrete]
  refine List.map_congr_left fun d hd => ?_
  exact (hwhole d (List.mem_of_mem_filter hd)).textOf_eq

/-- With a trailing rescue, an assignment is a rescue modifier. -/
theorem eq_of_ofGuarded {label : Label} {targets : List Node} {right rescue : Reading}
    (hn : ofGuarded source label targets right rescue = .ok n) :
    ∃ assignment handler, n = .rescueModifier none assignment handler := by
  unfold ofGuarded at hn
  split at hn
  · obtain ⟨guarded, _, hn⟩ := bind_eq_ok_iff.mp hn
    obtain ⟨value, _, hn⟩ := bind_eq_ok_iff.mp hn
    obtain ⟨handler, _, hn⟩ := bind_eq_ok_iff.mp hn
    cases hn
    exact ⟨_, _, rfl⟩
  · obtain ⟨before, _, hn⟩ := bind_eq_ok_iff.mp hn
    obtain ⟨guarded, _, hn⟩ := bind_eq_ok_iff.mp hn
    obtain ⟨last, _, hn⟩ := bind_eq_ok_iff.mp hn
    obtain ⟨handler, _, hn⟩ := bind_eq_ok_iff.mp hn
    cases hn
    exact ⟨_, _, rfl⟩

theorem spelled_ofIndex {method : String} (hmethod : method = "[]" ∨ method = "[]" ++ "=")
    (hn : ofIndex method (ofConcreteList source c.children) = .ok n) :
    (n.located (spanOf source c.label)).Spelled source c := by
  unfold ofIndex at hn
  split at hn
  · cases hn
  · obtain ⟨receiver, _, hn⟩ := bind_eq_ok_iff.mp hn
    obtain ⟨arguments, _, hn⟩ := bind_eq_ok_iff.mp hn
    cases hn
    exact ⟨rfl, "[]", hmethod, Or.inr (Or.inr rfl)⟩

theorem spelled_ofAssignment
    (hn : ofAssignment source c.label (ofConcreteList source c.children) = .ok n) :
    (n.located (spanOf source c.label)).Spelled source c := by
  unfold ofAssignment at hn
  obtain ⟨left, _, hn⟩ := bind_eq_ok_iff.mp hn
  split at hn
  · obtain ⟨targets, _, hn⟩ := bind_eq_ok_iff.mp hn
    obtain ⟨right, _, hn⟩ := bind_eq_ok_iff.mp hn
    split at hn
    · obtain ⟨value, _, hn⟩ := bind_eq_ok_iff.mp hn
      cases hn
      trivial
    · obtain ⟨assignment, handler, rfl⟩ := eq_of_ofGuarded hn
      trivial
  · obtain ⟨target, _, hn⟩ := bind_eq_ok_iff.mp hn
    obtain ⟨value, _, hn⟩ := bind_eq_ok_iff.mp hn
    cases hn
    exact ⟨rfl, Or.inl rfl⟩

section

variable (hbelow : ∀ d ∈ c.children, d.label.Whole source)
include hbelow

theorem spelled_ofScoped (hwhole : c.label.Whole source)
    (hn : ofScoped source c.label (ofConcreteList source c.children) = .ok n) :
    (n.located (spanOf source c.label)).Spelled source c := by
  obtain ⟨scope, _, hn⟩ := bind_eq_ok_iff.mp hn
  have hname := map_field? hbelow "name"
  split at hn
  · cases hn
    exact ⟨rfl, Or.inl hwhole.textOf_eq.symm⟩
  · next name hfield =>
    rw [hfield, Option.map_some] at hname
    split at hn <;> cases hn
    · exact ⟨rfl, Or.inr hname.symm⟩
    · exact ⟨rfl, _, Or.inl rfl, Or.inr (Or.inl hname.symm)⟩

theorem spelled_call (receiver : Option Node) (arguments : List Node) :
    Node.Spelled source c (.send (some (spanOf source c.label)) receiver
      (methodName source (ofConcreteList source c.children)) arguments) :=
  ⟨rfl, _, Or.inl rfl, Or.inl (methodName_eq hbelow).symm⟩

theorem spelled_ofCall (hn : ofCall source c.label (ofConcreteList source c.children) = .ok n) :
    (n.located (spanOf source c.label)).Spelled source c := by
  unfold ofCall at hn
  obtain ⟨receiver, _, hn⟩ := bind_eq_ok_iff.mp hn
  obtain ⟨arguments, _, hn⟩ := match_bind_eq_ok hn
  split at hn
  · cases hn
    exact spelled_call hbelow receiver arguments
  · obtain ⟨body, _, hn⟩ := bind_eq_ok_iff.mp hn
    cases hn
    trivial

theorem spelled_ofOperatorAssignment
    (hn : ofOperatorAssignment source (ofConcreteList source c.children) = .ok n) :
    (n.located (spanOf source c.label)).Spelled source c := by
  unfold ofOperatorAssignment at hn
  obtain ⟨target, _, hn⟩ := bind_eq_ok_iff.mp hn
  obtain ⟨value, _, hn⟩ := bind_eq_ok_iff.mp hn
  cases hn
  refine ⟨rfl, ?_⟩
  rw [← map_field? hbelow]
  cases field? "operator" (ofConcreteList source c.children) with
  | none => exact Or.inl rfl
  | some r => exact Or.inr rfl

theorem spelled_ofMethod {singleton : Bool}
    (hn : ofMethod source singleton (ofConcreteList source c.children) = .ok n) :
    (n.located (spanOf source c.label)).Spelled source c := by
  unfold ofMethod at hn
  obtain ⟨body, _, hn⟩ := bind_eq_ok_iff.mp hn
  cases hn
  refine ⟨rfl, ?_⟩
  rw [← map_field? hbelow]
  cases field? "name" (ofConcreteList source c.children) <;> rfl

theorem spelled_denoted (hwhole : c.label.Whole source)
    (hn : denoted source c.label (ofConcreteList source c.children) = .ok n) :
    (n.located (spanOf source c.label)).Spelled source c := by
  unfold denoted at hn
  generalize c.label.construct = construct at hn
  cases construct with
  | constant =>
    cases hn
    exact ⟨rfl, Or.inl hwhole.textOf_eq.symm⟩
  | «variable» =>
    cases hn
    exact hwhole.textOf_eq.symm
  | word | literal =>
    obtain ⟨parts, _, hn⟩ := bind_eq_ok_iff.mp hn
    cases hn
    exact hwhole.textOf_eq.symm
  | other =>
    obtain ⟨contents, _, hn⟩ := bind_eq_ok_iff.mp hn
    cases hn
    exact ⟨rfl, (map_tokens hbelow).symm⟩
  | «scoped» => exact spelled_ofScoped hbelow hwhole hn
  | assignment => exact spelled_ofAssignment hn
  | operatorAssignment => exact spelled_ofOperatorAssignment hbelow hn
  | call => exact spelled_ofCall hbelow hn
  | index => exact spelled_ofIndex (Or.inl rfl) hn
  | method => exact spelled_ofMethod hbelow hn
  | selfRef =>
    cases hn
    trivial
  | program | ensure | begin | array | splat =>
    obtain ⟨parts, _, hn⟩ := bind_eq_ok_iff.mp hn
    cases hn
    trivial
  | conditionalGuard | loopGuard | loop | rescueGuard =>
    obtain ⟨first, _, hn⟩ := bind_eq_ok_iff.mp hn
    obtain ⟨second, _, hn⟩ := bind_eq_ok_iff.mp hn
    cases hn
    trivial
  | conditional =>
    obtain ⟨condition, _, hn⟩ := bind_eq_ok_iff.mp hn
    obtain ⟨body, _, hn⟩ := bind_eq_ok_iff.mp hn
    obtain ⟨alternative, _, hn⟩ := bind_eq_ok_iff.mp hn
    cases hn
    trivial
  | rescue =>
    unfold ofRescue at hn
    obtain ⟨exceptions, _, hn⟩ := match_bind_eq_ok hn
    obtain ⟨binding, _, hn⟩ := match_bind_eq_ok hn
    obtain ⟨body, _, hn⟩ := bind_eq_ok_iff.mp hn
    cases hn
    trivial

theorem spelled_denotedTarget?
    (hn : denotedTarget? source c.label (ofConcreteList source c.children) = some (.ok n)) :
    (n.located (spanOf source c.label)).Spelled source c := by
  unfold denotedTarget? at hn
  split at hn
  · obtain ⟨receiver, _, hn⟩ := bind_eq_ok_iff.mp (Option.some.inj hn)
    cases hn
    exact ⟨rfl, _, Or.inr rfl, Or.inl (methodName_eq hbelow).symm⟩
  · exact spelled_ofIndex (Or.inr rfl) (Option.some.inj hn)
  · have hn := Option.some.inj hn
    split at hn
    · cases hn
      trivial
    · obtain ⟨target, _, hn⟩ := bind_eq_ok_iff.mp hn
      cases hn
      trivial
  · obtain ⟨targets, _, hn⟩ := bind_eq_ok_iff.mp (Option.some.inj hn)
    cases hn
    trivial
  · cases hn

/-- **What the rule for a concrete node makes has its words from that node.** -/
theorem Makes.spelled (hwhole : c.label.Whole source)
    (h : Makes source c.label (ofConcreteList source c.children) n) : n.Spelled source c := by
  cases h with
  | node h => exact spelled_denoted hbelow hwhole h
  | target h => exact spelled_denotedTarget? hbelow h
  | call receiver arguments => exact spelled_call hbelow receiver arguments
  | guarded | values => trivial

end

end Reading

namespace Node

/-- An assignment of a constant to a variable, both of whose names take more bytes than
characters. -/
def umlauts : Source := Source.ofString "ä = B::Ü" "x.rb"

def umlautTree : Concrete :=
  .mk ⟨"program", 0, 10, true, none⟩
    [.mk ⟨"assignment", 0, 10, true, none⟩
      [.mk ⟨"identifier", 0, 2, true, some "left"⟩ [], .mk ⟨"=", 3, 4, false, none⟩ [],
        .mk ⟨"scope_resolution", 5, 10, true, some "right"⟩
          [.mk ⟨"constant", 5, 6, true, some "scope"⟩ [], .mk ⟨"::", 6, 8, false, none⟩ [],
            .mk ⟨"constant", 8, 10, true, some "name"⟩ []]]]

def umlautRoot : Node :=
  .program (some (umlauts.spanOfBytes 0 10))
    [.assign (some (umlauts.spanOfBytes 0 10))
      (.var (some (umlauts.spanOfBytes 0 2)) .localVar (umlauts.bytesText 0 2))
      (.const (some (umlauts.spanOfBytes 5 10)) (umlauts.bytesText 8 10)
        (some (.const (some (umlauts.spanOfBytes 5 6)) (umlauts.bytesText 5 6) none)))
      "="]

end Node

end MultiAssign
