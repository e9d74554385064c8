import MultiAssign.Proofs.SafeOrder
import Mathlib.Data.List.Chain

/-!
# Circles of readers

An order in which every assignment follows its readers exists exactly if no assignment leads back to
itself through the readers of others (`Acyclic`).  The search decides that.  The main statement,
`ofReaders_decides`, says that it gives such an order if there is no circle, and that it names a
circle if there is one.

One half is the fact that a search that fails has found a circle (`cycle_of_ofReaders`).  The other
half is that an order leaves no room for a circle: along a chain of readers the places in the order
go down, so the chain cannot close (`acyclic_of_pairwise`).

What the search says when it fails is true: `ofReaders_names_circle`.  It names an assignment on its
path and one that this assignment reads.  The path joins the two, and once its detours are left out
(`exists_nodup_chain_of_leads`) it closes to a circle that holds both.
-/

namespace MultiAssign.Order

open Relation

variable {readers : Nat → List Nat} {count : Nat}

def Acyclic (count : Nat) (readers : Nat → List Nat) : Prop :=
  ∀ i < count, ¬ TransGen (Edge readers) i i

/-- An order in which every assignment follows its readers leaves no room for a circle. -/
theorem acyclic_of_pairwise {order : List Nat} (hb : Bounded count readers)
    (hperm : order.Perm (List.range count))
    (h : order.Pairwise fun earlier later => ¬ Edge readers earlier later) :
    Acyclic count readers := by
  intro i hi hcircle
  obtain ⟨r, he, hri⟩ := TransGen.head'_iff.mp hcircle
  have hr : r < count := hb i hi r he.1
  have hle := (idxOf_le_of_leads hb hperm h hr hri).2
  have hlt := idxOf_lt_of_edge h (hperm.mem_iff.mpr (List.mem_range.mpr hi))
    (hperm.mem_iff.mpr (List.mem_range.mpr hr)) he
  omega

theorem acyclic_of_ofReaders {order : List Nat} (hb : Bounded count readers)
    (h : ofReaders count readers = .ok order) : Acyclic count readers :=
  acyclic_of_pairwise hb (perm_of_ofReaders h) (emission_of_ofReaders h).pairwise

theorem not_acyclic_of_ofReaders {failure : Failure} (hb : Bounded count readers)
    (h : ofReaders count readers = .error failure) : ¬ Acyclic count readers := by
  obtain ⟨r, w, _, hr, he, hrw⟩ := cycle_of_ofReaders hb h
  exact fun hacyclic => hacyclic r hr (.tail' hrw he)

theorem pair_sublist_of_ofReaders {order : List Nat} (hb : Bounded count readers)
    (h : ofReaders count readers = .ok order) {i r : Nat} (hi : i < count)
    (he : Edge readers i r) : [r, i].Sublist order := by
  have hperm := perm_of_ofReaders h
  have hr : r < count := hb i hi r he.1
  refine Pair.pair_sublist_of_pairwise (emission_of_ofReaders h).pairwise
    (hperm.mem_iff.mpr (List.mem_range.mpr hr)) (hperm.mem_iff.mpr (List.mem_range.mpr hi)) he.2 ?_
  exact fun hn => hn he

/-- **The search decides whether there is an order.**  Without a circle it gives an order that holds
every assignment once, and in which each comes after all its readers but itself.  With a circle it
fails, and says that two assignments depend on each other. -/
theorem ofReaders_decides (count : Nat) (readers : Nat → List Nat) (hb : Bounded count readers) :
    (Acyclic count readers → ∃ order, ofReaders count readers = .ok order ∧
      order.Perm (List.range count) ∧
      ∀ i < count, ∀ r ∈ readers i, r ≠ i → [r, i].Sublist order) ∧
    (¬ Acyclic count readers → ∃ reader writer,
      ofReaders count readers = .error (.cyclic reader writer)) := by
  cases hsearch : ofReaders count readers with
  | ok order =>
    have hacyclic := acyclic_of_ofReaders hb hsearch
    refine ⟨fun _ => ⟨order, rfl, perm_of_ofReaders hsearch, ?_⟩, fun h => absurd hacyclic h⟩
    intro i hi r hr hne
    exact pair_sublist_of_ofReaders hb hsearch hi ⟨hr, hne⟩
  | error failure =>
    have hcircle := not_acyclic_of_ofReaders hb hsearch
    obtain ⟨r, w, rfl, _⟩ := cycle_of_ofReaders hb hsearch
    exact ⟨fun h => absurd h hcircle, fun _ => ⟨r, w, rfl⟩⟩

/-- Assignment `0` is read by `1`, twice, and by itself; `1` is read by `2`. -/
def chain : Nat → List Nat
  | 0 => [1, 0, 1]
  | 1 => [2]
  | _ => []

/-- The same with `2` read by `0`. -/
def ring : Nat → List Nat
  | 0 => [1, 0, 1]
  | 1 => [2]
  | 2 => [0]
  | _ => []

theorem lt_of_edge_chain {i r : Nat} (h : Edge chain i r) : i < r := by
  obtain ⟨hr, hne⟩ := h
  match i with
  | 0 => exact Nat.pos_of_ne_zero hne
  | 1 => simp_all [chain]
  | _ + 2 => simp [chain] at hr

theorem acyclic_chain : Acyclic 3 chain := by
  have hlt : ∀ {a b : Nat}, TransGen (Edge chain) a b → a < b := by
    intro a b hab
    induction hab with
    | single he => exact lt_of_edge_chain he
    | tail _ he ih => exact Nat.lt_trans ih (lt_of_edge_chain he)
  exact fun i _ hcircle => Nat.lt_irrefl i (hlt hcircle)

theorem not_acyclic_ring : ¬ Acyclic 3 ring := by
  intro h
  have hedges : Edge ring 0 1 ∧ Edge ring 1 2 ∧ Edge ring 2 0 := by
    unfold Edge
    decide
  exact h 0 (by decide) (.tail (.tail (.single hedges.1) hedges.2.1) hedges.2.2)

/-- The chain has an order, and the ring has none. -/
theorem ofReaders_decides_chain_ring :
    Bounded 3 chain ∧ Acyclic 3 chain ∧
      (∃ order, ofReaders 3 chain = .ok order ∧ order.Perm [0, 1, 2] ∧
        [1, 0].Sublist order ∧ [2, 1].Sublist order) ∧
    Bounded 3 ring ∧ ¬ Acyclic 3 ring ∧
      ∃ reader writer, ofReaders 3 ring = .error (.cyclic reader writer) := by
  have hchain : Bounded 3 chain := by
    unfold Bounded
    decide
  have hring : Bounded 3 ring := by
    unfold Bounded
    decide
  obtain ⟨order, horder, hperm, hfirst⟩ := (ofReaders_decides 3 chain hchain).1 acyclic_chain
  refine ⟨hchain, acyclic_chain, ⟨order, horder, hperm, ?_, ?_⟩, hring, not_acyclic_ring, ?_⟩
  · exact hfirst 0 (by decide) 1 (by decide) (by decide)
  · exact hfirst 1 (by decide) 2 (by decide) (by decide)
  · exact (ofReaders_decides 3 ring hring).2 not_acyclic_ring

/-! ### The circle that is named -/

/-- The assignments of the list form a circle without repetition: each of them is read by the next
one, and the last one by the first. -/
structure Circle (count : Nat) (readers : Nat → List Nat) (circle : List Nat) : Prop where
  within : ∀ i ∈ circle, i < count
  nodup : circle.Nodup
  chain : circle.IsChain (Edge readers)
  closed : ∀ first ∈ circle.head?, ∀ last ∈ circle.getLast?, Edge readers last first

/-- Of the chains that lead from one assignment to another, one goes through no assignment twice. -/
theorem exists_nodup_chain_of_leads {i j : Nat} (h : ReflTransGen (Edge readers) i j) :
    ∃ l, (i :: l).IsChain (Edge readers) ∧ (i :: l).Nodup ∧ (i :: l).getLast? = some j := by
  induction h using ReflTransGen.head_induction_on with
  | refl => exact ⟨[], .singleton j, List.nodup_singleton j, rfl⟩
  | @head i r he _ ih =>
    obtain ⟨l, hchain, hnodup, hlast⟩ := ih
    by_cases hi : i ∈ r :: l
    · -- the chain comes back to `i`, and what is before that can be left out
      obtain ⟨detour, rest, hsplit⟩ := List.append_of_mem hi
      rw [hsplit] at hchain hnodup hlast
      refine ⟨rest, hchain.right_of_append, (List.nodup_append.mp hnodup).2.1, ?_⟩
      rwa [List.getLast?_append_of_ne_nil detour (List.cons_ne_nil i rest)] at hlast
    · refine ⟨r :: l, hchain.cons_cons he, List.nodup_cons.mpr ⟨hi, hnodup⟩, ?_⟩
      rwa [List.getLast?_cons_cons]

/-- A chain back to an assignment that reads the last one of the chain closes a circle. -/
theorem exists_circle_of_leads (hb : Bounded count readers) {reader writer : Nat}
    (hlt : reader < count) (he : Edge readers writer reader)
    (h : ReflTransGen (Edge readers) reader writer) :
    ∃ between, Circle count readers (reader :: (between ++ [writer])) := by
  obtain ⟨l, hchain, hnodup, hlast⟩ := exists_nodup_chain_of_leads h
  obtain ⟨between, rfl⟩ : ∃ between, l = between ++ [writer] := by
    rcases List.eq_nil_or_concat l with rfl | ⟨between, last, rfl⟩
    · exact absurd (Option.some.inj hlast) he.2
    · rw [List.concat_eq_append, ← List.cons_append, List.getLast?_concat] at hlast
      exact ⟨between, by rw [List.concat_eq_append, Option.some.inj hlast]⟩
  refine ⟨between, ?_, hnodup, hchain, ?_⟩
  · exact hchain.induction (· < count) _ (fun i r hir hi => hb i hi r hir.1) fun _ => hlt
  · intro first hfirst last hlast'
    rw [hlast] at hlast'
    cases hfirst
    cases hlast'
    exact he

/-- **A search that fails tells the truth.**  It says of two assignments that they depend on each
other.  They are different ones, the first reads the second, and from the first a chain of readers
leads to the second.  So the two stand on one circle, which goes through no assignment twice. -/
theorem ofReaders_names_circle (count : Nat) (readers : Nat → List Nat)
    (hb : Bounded count readers) {failure : Failure}
    (h : ofReaders count readers = .error failure) :
    ∃ reader writer, failure = .cyclic reader writer ∧
      failure.message = "Assignments " ++ toString reader ++ " and " ++ toString writer
        ++ " depend on each other" ∧
      reader ≠ writer ∧ reader ∈ readers writer ∧ ReflTransGen (Edge readers) reader writer ∧
      ∃ between, Circle count readers (reader :: (between ++ [writer])) := by
  obtain ⟨reader, writer, rfl, hlt, he, hleads⟩ := cycle_of_ofReaders hb h
  exact ⟨reader, writer, rfl, rfl, he.2, he.1, hleads, exists_circle_of_leads hb hlt he hleads⟩

/-- Assignment `0` is read by `1`, which is read by itself, by `3` and by `2`; and `2` is read by
`1`. -/
def lasso : Nat → List Nat
  | 0 => [1]
  | 1 => [1, 3, 2]
  | 2 => [1]
  | _ => []

/-- The search of the lasso starts outside of the circle, and names the two that are on it. -/
theorem ofReaders_names_circle_lasso :
    Bounded 4 lasso ∧ ofReaders 4 lasso = .error (.cyclic 1 2) ∧
      (Failure.cyclic 1 2).message = "Assignments 1 and 2 depend on each other" ∧
      1 ∈ lasso 2 ∧ ReflTransGen (Edge lasso) 1 2 ∧
      ∃ between, Circle 4 lasso (1 :: (between ++ [2])) := by
  have hb : Bounded 4 lasso := by
    unfold Bounded
    decide
  have hsearch : ofReaders 4 lasso = .error (.cyclic 1 2) := by cbv
  obtain ⟨reader, writer, hnamed, hmessage, _, hreads, hleads, hcircle⟩ :=
    ofReaders_names_circle 4 lasso hb hsearch
  cases hnamed
  exact ⟨hb, hsearch, hmessage, hreads, hleads, hcircle⟩

end MultiAssign.Order
