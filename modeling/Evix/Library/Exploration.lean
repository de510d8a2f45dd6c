import Evix.Library.Machine
import Mathlib.Algebra.Order.Group.Multiset
import Mathlib.Data.List.Nodup
import Mathlib.Tactic.Abel

/-!
# Exploring a tree from a shared work list

A tree whose positions are addressed by the names from the root down is explored by any number
of parties. A position waits until some party takes it; the party later visits it, which
records the names listed there and makes every child wait. Nothing fixes how many positions
are taken at once or in which order they are visited.

`conserved` is the law of the work list: the positions waiting, taken and visited are, with
multiplicity, the root and the children listed so far. Distinct names at every visit then make
all of them distinct (`named_nodup`), every visit comes after the visit that listed it
(`visited_named`), and an exhausted exploration has visited every position exactly once
(`exhausted_perm`), the same positions whatever the order (`exhausted_unique`).
-/

namespace Exploration

open Machines

universe u

variable {κ : Type u}

/-- The state of an exploration. -/
structure Frontier (κ : Type u) where
  /-- Positions named but not taken. -/
  waiting : Multiset (List κ)
  /-- Positions taken and not yet visited. -/
  taken : Multiset (List κ)
  /-- Visited positions with the child names listed there, in order. -/
  visited : List (List κ × List κ)

/-- A party takes a waiting position, or visits one it has taken. -/
inductive Move (κ : Type u) where
  /-- Take a position. -/
  | take (path : List κ)
  /-- Visit a taken position and list its children. -/
  | visit (path : List κ) (names : List κ)

/-- The positions below one visited position. -/
def children (visit : List κ × List κ) : List (List κ) := visit.2.map fun name => visit.1 ++ [name]

/-- The root and every child listed by a record of visits. -/
def named (visited : List (List κ × List κ)) : List (List κ) := [] :: visited.flatMap children

/-- A position is a child listed by a visit exactly when it extends the visit by a listed name. -/
theorem mem_children {visit : List κ × List κ} {path : List κ} :
    path ∈ children visit ↔ ∃ name ∈ visit.2, path = visit.1 ++ [name] := by
  simp [children, eq_comm]

/-- A named position is the root or a child some visit listed. -/
theorem mem_named {visited : List (List κ × List κ)} {path : List κ} :
    path ∈ named visited ↔
      path = [] ∨ ∃ visit ∈ visited, ∃ name ∈ visit.2, path = visit.1 ++ [name] := by
  simp [named, mem_children]

/-- A longer record names what a prefix of it names, then the later children. -/
theorem named_append (first second : List (List κ × List κ)) :
    named (first ++ second) = named first ++ second.flatMap children := by
  simp [named]

/-- The children listed by one visit with distinct names are distinct. -/
theorem children_nodup {visit : List κ × List κ} (distinct : visit.2.Nodup) :
    (children visit).Nodup :=
  distinct.map fun first second same => by simpa using same

section Machine

variable [DecidableEq κ]

/-- The exploration machine: one waiting root at the start. -/
def explorer (κ : Type u) [DecidableEq κ] : Machine (Frontier κ) (Move κ) where
  start frontier := frontier = ⟨{[]}, 0, []⟩
  step frontier
    | .take path =>
      if path ∈ frontier.waiting then
        some { frontier with
          waiting := frontier.waiting.erase path, taken := path ::ₘ frontier.taken }
      else none
    | .visit path names =>
      if path ∈ frontier.taken then
        some {
          waiting := frontier.waiting + children (path, names)
          taken := frontier.taken.erase path
          visited := frontier.visited ++ [(path, names)] }
      else none

/-- Every visit lists distinct names. -/
def Distinct (_ : Frontier κ) : Move κ → Prop
  | .take _ => True
  | .visit _ names => names.Nodup

variable {legal : Frontier κ → Move κ → Prop} {frontier : Frontier κ}

/-- Positions waiting, taken and visited are the root and the children listed so far. -/
theorem conserved (reached : (explorer κ).Reachable legal frontier) :
    frontier.waiting + frontier.taken + (frontier.visited.map Prod.fst : List (List κ)) =
      (named frontier.visited : Multiset (List κ)) := by
  induction reached with
  | start initial =>
    cases initial
    rfl
  | @next before after move _ _ taken ih =>
    cases move with
    | take path =>
      simp only [explorer, Option.ite_none_right_eq_some, Option.some.injEq] at taken
      obtain ⟨present, rfl⟩ := taken
      rw [← ih, Multiset.add_cons, ← Multiset.cons_add, Multiset.cons_erase present]
    | visit path names =>
      simp only [explorer, Option.ite_none_right_eq_some, Option.some.injEq] at taken
      obtain ⟨present, rfl⟩ := taken
      have split : (named (before.visited ++ [(path, names)]) : Multiset (List κ)) =
          named before.visited + (children (path, names) : Multiset (List κ)) := by
        simp [named_append]
      have whole : before.taken = {path} + before.taken.erase path := by
        rw [Multiset.singleton_add, Multiset.cons_erase present]
      rw [split, ← ih]
      simp only [List.map_append, List.map_cons, List.map_nil, ← Multiset.coe_add,
        Multiset.coe_singleton]
      generalize before.taken.erase path = rest at whole ⊢
      rw [whole]
      abel

/-- Taken positions were named. -/
theorem taken_sub_named (reached : (explorer κ).Reachable legal frontier) :
    ∀ path ∈ frontier.taken, path ∈ named frontier.visited := by
  intro path held
  rw [← Multiset.mem_coe, ← conserved reached]
  exact Multiset.mem_add.mpr (.inl (Multiset.mem_add.mpr (.inr held)))

/-- With distinct names at every visit, no position is named twice. -/
theorem named_nodup (distinct : ∀ state move, legal state move → Distinct state move)
    (reached : (explorer κ).Reachable legal frontier) : (named frontier.visited).Nodup := by
  induction reached with
  | start initial =>
    cases initial
    simp [named]
  | @next before after move earlier allowed taken ih =>
    cases move with
    | take path =>
      simp only [explorer, Option.ite_none_right_eq_some, Option.some.injEq] at taken
      obtain ⟨_, rfl⟩ := taken
      exact ih
    | visit path names =>
      simp only [explorer, Option.ite_none_right_eq_some, Option.some.injEq] at taken
      obtain ⟨present, rfl⟩ := taken
      have fresh : path ∉ before.visited.map Prod.fst := by
        have whole : (before.waiting + before.taken +
            (before.visited.map Prod.fst : List (List κ))).Nodup := by
          rw [conserved earlier]
          exact ih
        intro seen
        exact Multiset.disjoint_left.mp (Multiset.nodup_add.mp whole).2.2
          (Multiset.mem_add.mpr (.inr present)) seen
      simp only [named_append, List.flatMap_cons, List.flatMap_nil, List.append_nil]
      refine List.nodup_append'.mpr ⟨ih, children_nodup (distinct _ _ allowed), ?_⟩
      -- A child of this visit named earlier would make this position visited already.
      intro child old new
      obtain ⟨name, _, rfl⟩ := mem_children.mp new
      obtain root | ⟨visit, member, other, _, same⟩ := mem_named.mp old
      · simp at root
      · obtain ⟨rfl, _⟩ := List.append_inj' same rfl
        exact fresh (List.mem_map_of_mem member)

/-- With distinct names at every visit, no position is visited twice. -/
theorem visited_nodup (distinct : ∀ state move, legal state move → Distinct state move)
    (reached : (explorer κ).Reachable legal frontier) : (frontier.visited.map Prod.fst).Nodup := by
  have all : (named frontier.visited : Multiset (List κ)).Nodup := named_nodup distinct reached
  rw [← conserved reached] at all
  exact (Multiset.nodup_add.mp all).2.1

/-- Every visit comes after the visit that named its position. -/
theorem visited_named (reached : (explorer κ).Reachable legal frontier)
    {before after : List (List κ × List κ)} {visit : List κ × List κ}
    (position : frontier.visited = before ++ visit :: after) : visit.1 ∈ named before := by
  induction reached generalizing after with
  | start initial =>
    cases initial
    simp at position
  | @next earlier later move reachedEarlier _ taken ih =>
    cases move with
    | take path =>
      simp only [explorer, Option.ite_none_right_eq_some, Option.some.injEq] at taken
      obtain ⟨_, rfl⟩ := taken
      exact ih position
    | visit path names =>
      simp only [explorer, Option.ite_none_right_eq_some, Option.some.injEq] at taken
      obtain ⟨present, rfl⟩ := taken
      obtain rfl | ⟨front, last, rfl⟩ := List.eq_nil_or_concat after
      · obtain ⟨rfl, same⟩ := List.append_inj' position rfl
        obtain rfl := (List.cons.inj same).1
        exact taken_sub_named reachedEarlier path present
      · rw [List.concat_eq_append, ← List.cons_append, ← List.append_assoc] at position
        exact ih (List.append_inj' position rfl).1

/-- An exploration with nothing waiting or taken has visited each named position exactly once. -/
theorem exhausted_perm (reached : (explorer κ).Reachable legal frontier)
    (waiting : frontier.waiting = 0) (taken : frontier.taken = 0) :
    (frontier.visited.map Prod.fst).Perm (named frontier.visited) := by
  have law := conserved reached
  rw [waiting, taken, zero_add, zero_add] at law
  exact Multiset.coe_eq_coe.mp law

end Machine

/-! ## Explorations of one tree -/

/-- The positions of the tree whose child names are `listing`. -/
inductive Position (listing : List κ → List κ) : List κ → Prop where
  /-- The root is a position. -/
  | root : Position listing []
  /-- A listed child of a position is one. -/
  | child {path : List κ} {name : κ} : Position listing path → name ∈ listing path →
      Position listing (path ++ [name])

variable [DecidableEq κ] {legal : Frontier κ → Move κ → Prop} {listing : List κ → List κ}

/-- Visits that list no more than the tree lists visit positions of the tree only. -/
theorem position_of_visited {frontier : Frontier κ}
    (reached : (explorer κ).Reachable legal frontier)
    (within : ∀ visit ∈ frontier.visited, visit.2 ⊆ listing visit.1) :
    ∀ visit ∈ frontier.visited, Position listing visit.1 := by
  -- Induction on the place in the record: the visit that named a position comes earlier.
  suffices prefixes : ∀ size, ∀ before visit after, frontier.visited = before ++ visit :: after →
      before.length < size → Position listing visit.1 by
    intro visit member
    obtain ⟨before, after, position⟩ := List.append_of_mem member
    exact prefixes (before.length + 1) before visit after position (Nat.lt_succ_self _)
  intro size
  induction size with
  | zero =>
    intro _ _ _ _ short
    omega
  | succ size ih =>
    intro before visit after position short
    obtain root | ⟨parent, member, name, listed, same⟩ :=
      mem_named.mp (visited_named reached position)
    · rw [root]
      exact .root
    · obtain ⟨first, second, split⟩ := List.append_of_mem member
      have seen : frontier.visited = first ++ parent :: (second ++ visit :: after) := by
        rw [position, split, List.append_assoc, List.cons_append]
      have smaller : first.length < size := by
        have length := congrArg List.length split
        simp only [List.length_append, List.length_cons] at length
        omega
      have above := ih first parent _ seen smaller
      rw [same]
      exact .child above (within parent (by rw [seen]; simp) listed)

/-- An exhausted exploration that lists what the tree lists has visited every position. -/
theorem visited_of_position {frontier : Frontier κ}
    (reached : (explorer κ).Reachable legal frontier)
    (waiting : frontier.waiting = 0) (taken : frontier.taken = 0)
    (faithful : ∀ visit ∈ frontier.visited, visit.2 = listing visit.1)
    {path : List κ} (position : Position listing path) :
    path ∈ frontier.visited.map Prod.fst := by
  have same := exhausted_perm reached waiting taken
  induction position with
  | root => exact same.mem_iff.mpr (mem_named.mpr (.inl rfl))
  | @child path name _ listed ih =>
    obtain ⟨visit, member, rfl⟩ := List.mem_map.mp ih
    rw [← faithful visit member] at listed
    exact same.mem_iff.mpr (mem_named.mpr (.inr ⟨visit, member, name, listed, rfl⟩))

/-- Two exhausted explorations of one tree make the same visits, up to order. -/
theorem exhausted_unique {first second : Frontier κ}
    (distinct : ∀ state move, legal state move → Distinct state move)
    (reachedFirst : (explorer κ).Reachable legal first)
    (reachedSecond : (explorer κ).Reachable legal second)
    (emptyFirst : first.waiting = 0 ∧ first.taken = 0)
    (emptySecond : second.waiting = 0 ∧ second.taken = 0)
    (faithfulFirst : ∀ visit ∈ first.visited, visit.2 = listing visit.1)
    (faithfulSecond : ∀ visit ∈ second.visited, visit.2 = listing visit.1) :
    (first.visited.map Prod.fst).Perm (second.visited.map Prod.fst) := by
  refine (List.perm_ext_iff_of_nodup (visited_nodup distinct reachedFirst)
    (visited_nodup distinct reachedSecond)).mpr fun path => ⟨fun seen => ?_, fun seen => ?_⟩
  · obtain ⟨visit, member, rfl⟩ := List.mem_map.mp seen
    have within : ∀ visit ∈ first.visited, visit.2 ⊆ listing visit.1 :=
      fun visit listed => faithfulFirst visit listed ▸ List.Subset.refl _
    exact visited_of_position reachedSecond emptySecond.1 emptySecond.2 faithfulSecond
      (position_of_visited reachedFirst within visit member)
  · obtain ⟨visit, member, rfl⟩ := List.mem_map.mp seen
    have within : ∀ visit ∈ second.visited, visit.2 ⊆ listing visit.1 :=
      fun visit listed => faithfulSecond visit listed ▸ List.Subset.refl _
    exact visited_of_position reachedFirst emptyFirst.1 emptyFirst.2 faithfulFirst
      (position_of_visited reachedSecond within visit member)

end Exploration
