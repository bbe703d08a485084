import FieldCalc.Field.Dependency
import Mathlib.Logic.Relation

/-!
# The edges of a dependency graph

A dependency graph keeps its edges twice: for each computed field the fields it
depends on, and for each field the computed fields that depend on it. Both are
association lists of name sets. This module reads them as relations: what each
lookup returns after an update, and how adding, removing and unlinking a field
change the two relations, membership by membership.

The second relation is only meaningful as a set when its lists have no
repeats, since `unlink` erases one occurrence; the lemmas that need it say so.
-/

namespace FieldCalc.DependencyGraph

/-! ### Association lists of name sets -/

theorem lookup_map_update {κ β : Type} [DecidableEq κ] [BEq κ] [LawfulBEq κ] (rel : List (κ × β))
    (n m : κ) (f : β → β) :
    (rel.map fun p => if p.1 == n then (p.1, f p.2) else p).lookup m =
      (rel.lookup m).map fun v => if m = n then f v else v := by
  induction rel with
  | nil => rfl
  | cons p rest inductionHypothesis =>
      obtain ⟨k, v⟩ := p
      by_cases sameKey : m = k
      · subst sameKey
        by_cases updated : m = n <;> simp [updated]
      · have differs : (m == k) = false := beq_false_of_ne sameKey
        have keyKept :
            (if ((k, v).1 == n) = true then ((k, v).1, f (k, v).2) else (k, v)).1 = k := by
          split <;> rfl
        rw [List.map_cons, List.lookup_cons, List.lookup_cons, keyKept, differs]
        exact inductionHypothesis

/-- Changing the set of one name through `modify` changes nothing else; an
absent name starts from the empty set. -/
theorem lookup_modify (rel : List (String × List String)) (n m : String)
    (f : List String → List String) :
    (modify rel n f).lookup m =
      if m = n then some (f ((rel.lookup n).getD [])) else rel.lookup m := by
  unfold modify
  split
  · rename_i present
    rw [lookup_map_update]
    by_cases updated : m = n
    · subst updated
      obtain ⟨v, found⟩ := Option.isSome_iff_exists.mp present
      simp [found]
    · simp [updated]
  · rename_i absent
    simp only [Bool.not_eq_true, Option.isSome_eq_false_iff, Option.isNone_iff_eq_none]
      at absent
    rw [List.lookup_append]
    by_cases updated : m = n
    · subst updated
      simp [absent]
    · have differs : (m == n) = false := beq_false_of_ne updated
      cases rel.lookup m <;> simp [updated]

def setAt (rel : List (String × List String)) (n : String) : List String :=
  (rel.lookup n).getD []

@[simp]
theorem setAt_modify (rel : List (String × List String)) (n m : String)
    (f : List String → List String) :
    setAt (modify rel n f) m = if m = n then f (setAt rel n) else setAt rel m := by
  unfold setAt
  rw [lookup_modify]
  split <;> rfl

@[simp]
theorem setAt_filter_ne (rel : List (String × List String)) (n m : String) :
    setAt (rel.filter fun p => p.1 != n) m = if m = n then [] else setAt rel m := by
  unfold setAt
  induction rel with
  | nil => simp
  | cons p rest inductionHypothesis =>
      obtain ⟨k, v⟩ := p
      by_cases kept : k = n
      · subst kept
        by_cases same : m = k
        · subst same
          simpa using inductionHypothesis
        · simp only [List.filter_cons, bne_self_eq_false, Bool.false_eq_true, ↓reduceIte,
            inductionHypothesis, same, List.lookup_cons, beq_false_of_ne same]
      · by_cases same : m = k
        · subst same
          simp [kept]
        · simp only [List.filter_cons, bne_iff_ne, ne_eq, kept, not_false_eq_true, ↓reduceIte,
            List.lookup_cons, beq_false_of_ne same, inductionHypothesis]

/-! ### Sets of names built by `insertName` -/

@[simp]
theorem mem_insertName (s : List String) (n x : String) :
    x ∈ insertName s n ↔ x ∈ s ∨ x = n := by
  by_cases present : n ∈ s
  · simp only [insertName, List.contains_iff_mem, present, ↓reduceIte, iff_self_or]
    rintro rfl
    exact present
  · simp [insertName, present]

theorem nodup_insertName {s : List String} (unique : s.Nodup) (n : String) :
    (insertName s n).Nodup := by
  by_cases present : n ∈ s
  · simpa [insertName, present] using unique
  · simp only [insertName, List.contains_iff_mem, present, ↓reduceIte]
    refine List.nodup_append.mpr ⟨unique, by simp, ?_⟩
    intro a member b single same
    rw [List.mem_singleton] at single
    subst single same
    exact present member

theorem mem_foldl_insertName (names acc : List String) (x : String) :
    x ∈ names.foldl insertName acc ↔ x ∈ acc ∨ x ∈ names := by
  induction names generalizing acc with
  | nil => simp
  | cons n rest inductionHypothesis =>
      rw [List.foldl_cons, inductionHypothesis, mem_insertName, List.mem_cons]
      exact or_assoc

theorem nodup_foldl_insertName (names : List String) {acc : List String}
    (unique : acc.Nodup) : (names.foldl insertName acc).Nodup := by
  induction names generalizing acc with
  | nil => exact unique
  | cons n rest inductionHypothesis => exact inductionHypothesis (nodup_insertName unique n)

/-! ### Updating the sets of several names in turn -/

theorem mem_setAt_foldl_erase (names : List String) (n x y : String) :
    ∀ rel : List (String × List String), (setAt rel y).Nodup →
      (x ∈ setAt (names.foldl (fun rel dep => modify rel dep (·.erase n)) rel) y ↔
        x ∈ setAt rel y ∧ (x = n → y ∉ names)) := by
  induction names with
  | nil => simp
  | cons dep rest inductionHypothesis =>
      intro rel unique
      rw [List.foldl_cons]
      by_cases updated : y = dep
      · subst updated
        have stillUnique : (setAt (modify rel y (·.erase n)) y).Nodup := by
          simpa using unique.erase n
        rw [inductionHypothesis _ stillUnique]
        simp only [setAt_modify, ↓reduceIte, unique.mem_erase_iff, List.mem_cons, true_or,
          not_true_eq_false, imp_false]
        constructor
        · rintro ⟨⟨differs, member⟩, -⟩
          exact ⟨member, differs⟩
        · rintro ⟨member, differs⟩
          exact ⟨⟨differs, member⟩, fun same => absurd same differs⟩
      · have stillUnique : (setAt (modify rel dep (·.erase n)) y).Nodup := by
          simpa [updated] using unique
        rw [inductionHypothesis _ stillUnique]
        simp [updated]

theorem nodup_setAt_foldl_erase (names : List String) (n : String) :
    ∀ rel : List (String × List String), (∀ y, (setAt rel y).Nodup) →
      ∀ y, (setAt (names.foldl (fun rel dep => modify rel dep (·.erase n)) rel) y).Nodup := by
  induction names with
  | nil => exact fun rel unique => unique
  | cons dep rest inductionHypothesis =>
      intro rel unique
      apply inductionHypothesis
      intro y
      by_cases updated : y = dep
      · simpa [updated] using (unique dep).erase n
      · simpa [updated] using unique y

theorem mem_setAt_foldl_insert (names : List String) (n x y : String) :
    ∀ rel : List (String × List String),
      x ∈ setAt (names.foldl (fun rel dep => modify rel dep (insertName · n)) rel) y ↔
        x ∈ setAt rel y ∨ (x = n ∧ y ∈ names) := by
  induction names with
  | nil => simp
  | cons dep rest inductionHypothesis =>
      intro rel
      rw [List.foldl_cons, inductionHypothesis]
      by_cases updated : y = dep
      · subst updated
        simp only [setAt_modify, ↓reduceIte, mem_insertName, List.mem_cons, true_or, and_true]
        constructor
        · rintro ((member | same) | ⟨same, -⟩) <;> simp_all
        · rintro (member | same) <;> simp_all
      · simp [updated]

theorem nodup_setAt_foldl_insert (names : List String) (n : String) :
    ∀ rel : List (String × List String), (∀ y, (setAt rel y).Nodup) →
      ∀ y, (setAt (names.foldl (fun rel dep => modify rel dep (insertName · n)) rel) y).Nodup := by
  induction names with
  | nil => exact fun rel unique => unique
  | cons dep rest inductionHypothesis =>
      intro rel unique
      apply inductionHypothesis
      intro y
      by_cases updated : y = dep
      · simpa [updated] using nodup_insertName (unique dep) n
      · simpa [updated] using unique y

/-! ### The two relations of a graph -/

def DependsOn (g : DependencyGraph) (x y : String) : Prop := y ∈ g.dependenciesOf x

def Acyclic (g : DependencyGraph) : Prop := ∀ x, ¬ Relation.TransGen g.DependsOn x x

theorem dependenciesOf_eq (g : DependencyGraph) (n : String) :
    g.dependenciesOf n = setAt g.dependsOn n := rfl

theorem dependentsOf_eq (g : DependencyGraph) (n : String) :
    g.dependentsOf n = setAt g.dependents n := rfl

@[simp]
theorem empty_dependenciesOf (n : String) : ({} : DependencyGraph).dependenciesOf n = [] := rfl

@[simp]
theorem empty_dependentsOf (n : String) : ({} : DependencyGraph).dependentsOf n = [] := rfl

variable {g : DependencyGraph} {n x y : String}

/-! ### Unlinking a field -/

@[simp]
theorem unlink_dependsOn (g : DependencyGraph) (n : String) :
    (g.unlink n).dependsOn = g.dependsOn := rfl

theorem mem_dependentsOf_unlink (unique : (g.dependentsOf y).Nodup) :
    x ∈ (g.unlink n).dependentsOf y ↔
      x ∈ g.dependentsOf y ∧ (x = n → y ∉ g.dependenciesOf n) :=
  mem_setAt_foldl_erase _ n x y g.dependents unique

theorem nodup_dependentsOf_unlink (unique : ∀ y, (g.dependentsOf y).Nodup) (n y : String) :
    ((g.unlink n).dependentsOf y).Nodup :=
  nodup_setAt_foldl_erase _ n g.dependents unique y

/-! ### Adding a field -/

/-- The graph after `add` accepts a field: its dependencies are the given names,
each once, and it is a dependent of each of them. -/
def replaced (g : DependencyGraph) (n : String) (deps : List String) : DependencyGraph :=
  let names := deps.foldl insertName []
  { dependsOn := modify g.dependsOn n fun _ => names
    dependents := names.foldl (fun rel dep => modify rel dep (insertName · n)) (g.unlink n).dependents
    cyclic := g.cyclic }

def refusal (n : String) : String := "Circular reference detected for field '" ++ n ++ "'"

theorem add_eq (g : DependencyGraph) (n : String) (deps : List String) :
    g.add n deps = if g.closesCycle n deps then (some (refusal n), g)
      else (none, g.replaced n deps) := by
  unfold add replaced modify refusal
  split <;> rfl

@[simp]
theorem replaced_cyclic (g : DependencyGraph) (n : String) (deps : List String) :
    (g.replaced n deps).cyclic = g.cyclic := rfl

theorem dependenciesOf_replaced (g : DependencyGraph) (n : String) (deps : List String)
    (y : String) : (g.replaced n deps).dependenciesOf y =
      if y = n then deps.foldl insertName [] else g.dependenciesOf y := by
  simp [replaced, dependenciesOf_eq]

theorem mem_dependenciesOf_replaced (g : DependencyGraph) (n : String) (deps : List String)
    (x y : String) :
    y ∈ (g.replaced n deps).dependenciesOf x ↔ if x = n then y ∈ deps else y ∈ g.dependenciesOf x := by
  rw [dependenciesOf_replaced]
  split <;> simp [mem_foldl_insertName]

theorem mem_dependentsOf_replaced (deps : List String) (unique : (g.dependentsOf y).Nodup) :
    x ∈ (g.replaced n deps).dependentsOf y ↔
      (x ∈ g.dependentsOf y ∧ (x = n → y ∉ g.dependenciesOf n)) ∨ (x = n ∧ y ∈ deps) := by
  rw [replaced, dependentsOf_eq, mem_setAt_foldl_insert, ← dependentsOf_eq,
    mem_dependentsOf_unlink unique, mem_foldl_insertName]
  simp

theorem nodup_dependentsOf_replaced (unique : ∀ y, (g.dependentsOf y).Nodup) (n : String)
    (deps : List String) (y : String) : ((g.replaced n deps).dependentsOf y).Nodup :=
  nodup_setAt_foldl_insert _ n _ (nodup_dependentsOf_unlink unique n) y

/-! ### Removing a field -/

theorem dependenciesOf_remove (g : DependencyGraph) (n y : String) :
    (g.remove n).dependenciesOf y = if y = n then [] else g.dependenciesOf y := by
  simp [remove, dependenciesOf_eq]

theorem dependentsOf_remove (g : DependencyGraph) (n y : String) :
    (g.remove n).dependentsOf y = if y = n then [] else (g.unlink n).dependentsOf y := by
  simp [remove, dependentsOf_eq]

theorem mem_dependentsOf_remove (unique : (g.dependentsOf y).Nodup) :
    x ∈ (g.remove n).dependentsOf y ↔
      y ≠ n ∧ x ∈ g.dependentsOf y ∧ (x = n → y ∉ g.dependenciesOf n) := by
  rw [dependentsOf_remove]
  split
  · simp_all
  · rename_i kept
    simp [kept, mem_dependentsOf_unlink unique]

theorem nodup_dependentsOf_remove (unique : ∀ y, (g.dependentsOf y).Nodup) (n y : String) :
    ((g.remove n).dependentsOf y).Nodup := by
  rw [dependentsOf_remove]
  split
  · exact List.nodup_nil
  · exact nodup_dependentsOf_unlink unique n y

end FieldCalc.DependencyGraph
