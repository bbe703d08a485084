import FieldCalc.Proofs.Graph.Search

/-!
# What every reachable dependency graph keeps

A client builds a graph from nothing or from a catalog and then adds, replaces
and removes computed fields and clears the graph, in any order. Every graph it
can reach this way is acyclic, keeps no repeated dependents, and lists a field
among the dependents of another only while it depends on it
(`Reachable.wellFormed`). On such a graph `add` refuses new dependencies
exactly when they would close a cycle, and otherwise replaces the field's
dependencies in both relations (`add_refuses_exactly_cycles`).

The converse half of the bookkeeping does not survive: removing a field keeps
it among the dependencies of the fields that depend on it, while its own list
of dependents is dropped. From a graph where the two relations are inverse, a
call keeps them inverse exactly when it is not the removal of a field that
others still depend on (`inverse_kept_iff`).
-/

namespace FieldCalc

@[simp]
theorem Logged.bind_value {α β : Type} (x : Logged α) (f : α → Logged β) :
    (x >>= f).value = (f x.value).value := rfl

end FieldCalc

namespace FieldCalc.DependencyGraph

open Relation

/-! ### Calls and reachable graphs -/

/-- A call a client makes on a graph. -/
inductive Op where
  | add (name : String) (deps : List String)
  | remove (name : String)
  | clear

/-- The graph after a call. -/
def Op.apply : Op → DependencyGraph → DependencyGraph
  | .add name deps, g => (g.add name deps).2
  | .remove name, g => g.remove name
  | .clear, _ => {}

/-- The names a catalog field depends on in the graph of its catalog: those its
formula refers to, or the source of a rollup; none for other fields. -/
def catalogDeps? (f : FieldDefinition) : Option (List String) :=
  match f.type, f.rollupConfig with
  | .formula, _ => some ((Formula.fieldReferences f.formula).foldl insertName [])
  | .rollup, some c => some [c.sourceFieldName]
  | _, _ => none

/-- The graph after `ofFields` has read one more field of its catalog: a field
that would close a cycle is left out and recorded as cyclic. -/
def addField (g : DependencyGraph) (f : FieldDefinition) : DependencyGraph :=
  match catalogDeps? f with
  | none => g
  | some deps =>
    let added := g.add f.name deps
    if added.1.isSome then { added.2 with cyclic := insertName added.2.cyclic f.name } else added.2

theorem ofFields_value (catalog : List FieldDefinition) :
    (ofFields catalog).value = catalog.foldl addField {} := by
  unfold ofFields
  generalize ({} : DependencyGraph) = start
  induction catalog generalizing start with
  | nil => rfl
  | cons f rest inductionHypothesis =>
      rw [List.foldlM_cons, List.foldl_cons, ← inductionHypothesis, Logged.bind_value]
      congr 2
      unfold addField catalogDeps?
      cases f.type <;> cases f.rollupConfig <;> dsimp only <;> (try rfl) <;>
        split <;> rename_i added <;> rw [added] <;> rfl

/-- The graphs a client can reach: the empty graph and the graph of any
catalog, and whatever calls make of them. -/
inductive Reachable : DependencyGraph → Prop
  | empty : Reachable {}
  | ofFields (catalog : List FieldDefinition) : Reachable (ofFields catalog).value
  | step {g : DependencyGraph} (op : Op) : Reachable g → Reachable (op.apply g)

/-! ### The invariant -/

/-- The bookkeeping every reachable graph keeps. -/
structure WellFormed (g : DependencyGraph) : Prop where
  /-- No field is listed twice among the dependents of another. -/
  nodup : ∀ y, (g.dependentsOf y).Nodup
  /-- A field is a dependent of another only while it depends on it. -/
  backed : ∀ x y, x ∈ g.dependentsOf y → y ∈ g.dependenciesOf x
  acyclic : g.Acyclic

theorem wellFormed_empty : WellFormed {} where
  nodup _ := List.nodup_nil
  backed _ _ member := by simp at member
  acyclic x cycle := by
    obtain ⟨_, step, -⟩ := TransGen.head'_iff.mp cycle
    simp [DependsOn] at step

variable {g : DependencyGraph} {n : String} {deps : List String}

theorem dependsOn_replaced (g : DependencyGraph) (n : String) (deps : List String) :
    (g.replaced n deps).DependsOn = g.Replacing n deps := by
  funext x y
  rw [DependsOn, mem_dependenciesOf_replaced]
  rfl

theorem mem_dependentsOf_replaced_iff (wellFormed : g.WellFormed) (x y : String) :
    x ∈ (g.replaced n deps).dependentsOf y ↔
      if x = n then y ∈ deps else x ∈ g.dependentsOf y := by
  rw [mem_dependentsOf_replaced deps (wellFormed.nodup y)]
  by_cases same : x = n
  · subst same
    rw [if_pos rfl]
    constructor
    · rintro (⟨member, notDependency⟩ | ⟨-, member⟩)
      · exact absurd (wellFormed.backed x y member) (notDependency rfl)
      · exact member
    · exact fun member => .inr ⟨rfl, member⟩
  · simp [same]

theorem WellFormed.replaced (wellFormed : g.WellFormed) (fresh : ¬ g.CreatesCycle n deps) :
    (g.replaced n deps).WellFormed where
  nodup := nodup_dependentsOf_replaced wellFormed.nodup n deps
  backed x y member := by
    rw [mem_dependentsOf_replaced_iff wellFormed] at member
    rw [mem_dependenciesOf_replaced]
    by_cases same : x = n
    · simpa [same] using member
    · simp only [same, ↓reduceIte] at member ⊢
      exact wellFormed.backed x y member
  acyclic x cycle := by
    rw [dependsOn_replaced] at cycle
    exact fresh ⟨x, cycle⟩

theorem WellFormed.add (wellFormed : g.WellFormed) (n : String) (deps : List String) :
    (g.add n deps).2.WellFormed := by
  rw [add_eq]
  split
  · exact wellFormed
  · rename_i accepted
    refine wellFormed.replaced fun creates => accepted ?_
    exact (closesCycle_iff_createsCycle wellFormed.acyclic).mpr creates

theorem WellFormed.remove (wellFormed : g.WellFormed) (n : String) :
    (g.remove n).WellFormed where
  nodup := nodup_dependentsOf_remove wellFormed.nodup n
  backed x y member := by
    rw [mem_dependentsOf_remove (wellFormed.nodup y)] at member
    obtain ⟨kept, member, notDependency⟩ := member
    rw [dependenciesOf_remove]
    have removed : x ≠ n := fun same => notDependency same (same ▸ wellFormed.backed x y member)
    simpa [removed] using wellFormed.backed x y member
  acyclic x cycle := by
    -- removal only drops edges, so a cycle after it was one before
    have before : TransGen g.DependsOn x x := by
      refine TransGen.mono (fun a b step => ?_) x x cycle
      unfold DependsOn at step ⊢
      rw [dependenciesOf_remove] at step
      split at step
      · simp at step
      · exact step
    exact wellFormed.acyclic x before

theorem WellFormed.withCyclic (wellFormed : g.WellFormed) (cyclic : List String) :
    ({ g with cyclic } : DependencyGraph).WellFormed :=
  ⟨wellFormed.nodup, wellFormed.backed, wellFormed.acyclic⟩

theorem WellFormed.addField (wellFormed : g.WellFormed) (f : FieldDefinition) :
    (g.addField f).WellFormed := by
  unfold DependencyGraph.addField
  split
  · exact wellFormed
  · rename_i deps _
    have added := wellFormed.add f.name deps
    dsimp only
    split
    · exact added.withCyclic _
    · exact added

theorem wellFormed_ofFields (catalog : List FieldDefinition) :
    (ofFields catalog).value.WellFormed := by
  rw [ofFields_value]
  suffices kept : ∀ start : DependencyGraph, start.WellFormed →
      (catalog.foldl addField start).WellFormed from kept {} wellFormed_empty
  induction catalog with
  | nil => exact fun _ wellFormed => wellFormed
  | cons f rest inductionHypothesis =>
      exact fun start wellFormed => inductionHypothesis _ (wellFormed.addField f)

theorem WellFormed.apply (wellFormed : g.WellFormed) : ∀ op : Op, (op.apply g).WellFormed
  | .add name deps => wellFormed.add name deps
  | .remove name => wellFormed.remove name
  | .clear => wellFormed_empty

theorem Reachable.wellFormed (reachable : g.Reachable) : g.WellFormed := by
  induction reachable with
  | empty => exact wellFormed_empty
  | ofFields catalog => exact wellFormed_ofFields catalog
  | step op _ inductionHypothesis => exact inductionHypothesis.apply op

/-! ### Adding to a reachable graph -/

/-- `g'` is `g` with the dependencies of `n` replaced by `deps`, in both
relations, and with the same cyclic fields. -/
structure Replaces (g' g : DependencyGraph) (n : String) (deps : List String) : Prop where
  dependencies : ∀ x y,
    y ∈ g'.dependenciesOf x ↔ if x = n then y ∈ deps else y ∈ g.dependenciesOf x
  dependents : ∀ x y,
    x ∈ g'.dependentsOf y ↔ if x = n then y ∈ deps else x ∈ g.dependentsOf y
  cyclic : g'.cyclic = g.cyclic

theorem WellFormed.replaced_replaces (wellFormed : g.WellFormed) (n : String)
    (deps : List String) : (g.replaced n deps).Replaces g n deps :=
  ⟨mem_dependenciesOf_replaced g n deps, mem_dependentsOf_replaced_iff wellFormed, rfl⟩

/-- In every reachable graph no field depends on itself; `add` refuses new
dependencies, with its message and the graph unchanged, exactly when they would
close a cycle, and otherwise accepts them and replaces the field's dependencies
in both relations. -/
theorem add_refuses_exactly_cycles (reachable : g.Reachable) (n : String) (deps : List String) :
    g.Acyclic ∧
      (g.CreatesCycle n deps →
        g.add n deps = (some ("Circular reference detected for field '" ++ n ++ "'"), g)) ∧
      (¬ g.CreatesCycle n deps → ∃ g', g.add n deps = (none, g') ∧ g'.Replaces g n deps) := by
  have wellFormed := reachable.wellFormed
  have exact : g.closesCycle n deps = true ↔ g.CreatesCycle n deps :=
    closesCycle_iff_createsCycle wellFormed.acyclic
  refine ⟨wellFormed.acyclic, fun creates => ?_, fun fresh => ?_⟩
  · rw [add_eq, if_pos (exact.mpr creates)]
    rfl
  · have accepted : g.closesCycle n deps = false := by
      simpa using fun closes => fresh (exact.mp closes)
    rw [add_eq, accepted]
    exact ⟨_, rfl, wellFormed.replaced_replaces n deps⟩

/-- A graph reached by one call from the empty graph, where adding the other
direction closes a cycle. -/
theorem add_refuses_exactly_cycles_example :
    let g := Op.apply (.add "total" ["price"]) {}
    g.Reachable ∧ g.Acyclic ∧
      (g.CreatesCycle "price" ["total"] →
        g.add "price" ["total"] =
          (some ("Circular reference detected for field '" ++ "price" ++ "'"), g)) ∧
      (¬ g.CreatesCycle "price" ["total"] →
        ∃ g', g.add "price" ["total"] = (none, g') ∧ g'.Replaces g "price" ["total"]) :=
  have reachable := Reachable.step (.add "total" ["price"]) Reachable.empty
  ⟨reachable, add_refuses_exactly_cycles reachable "price" ["total"]⟩

/-! ### The two relations as inverses -/

def Inverse (g : DependencyGraph) : Prop :=
  ∀ x y, x ∈ g.dependentsOf y ↔ y ∈ g.dependenciesOf x

/-- A call that removes a field other fields still depend on. -/
def Op.Orphans (g : DependencyGraph) : Op → Prop
  | .remove name => g.dependentsOf name ≠ []
  | _ => False

theorem inverse_empty : Inverse {} := by
  simp [Inverse]

theorem Inverse.replaced (wellFormed : g.WellFormed) (inverse : g.Inverse) (n : String)
    (deps : List String) : (g.replaced n deps).Inverse := by
  intro x y
  have replaces := wellFormed.replaced_replaces n deps
  rw [replaces.dependents, replaces.dependencies]
  split
  · rfl
  · exact inverse x y

theorem Inverse.add (wellFormed : g.WellFormed) (inverse : g.Inverse) (n : String)
    (deps : List String) : (g.add n deps).2.Inverse := by
  rw [add_eq]
  split
  · exact inverse
  · exact inverse.replaced wellFormed n deps

theorem Inverse.addField (wellFormed : g.WellFormed) (inverse : g.Inverse)
    (f : FieldDefinition) : (g.addField f).Inverse := by
  unfold DependencyGraph.addField
  split
  · exact inverse
  · rename_i deps _
    have added := inverse.add wellFormed f.name deps
    dsimp only
    split
    · exact added
    · exact added

theorem inverse_ofFields (catalog : List FieldDefinition) : (ofFields catalog).value.Inverse := by
  rw [ofFields_value]
  suffices kept : ∀ start : DependencyGraph, start.WellFormed → start.Inverse →
      (catalog.foldl addField start).Inverse from kept {} wellFormed_empty inverse_empty
  induction catalog with
  | nil => exact fun _ _ inverse => inverse
  | cons f rest inductionHypothesis =>
      exact fun start wellFormed inverse =>
        inductionHypothesis _ (wellFormed.addField f) (inverse.addField wellFormed f)

/-- Removing a field keeps the relations inverse exactly when no other field
depends on it. -/
theorem inverse_remove_iff (wellFormed : g.WellFormed) (inverse : g.Inverse) (n : String) :
    (g.remove n).Inverse ↔ g.dependentsOf n = [] := by
  constructor
  · intro removedInverse
    refine List.eq_nil_iff_forall_not_mem.mpr fun a dependent => ?_
    have dependency : n ∈ g.dependenciesOf a := wellFormed.backed a n dependent
    have other : a ≠ n := by
      rintro rfl
      exact wellFormed.acyclic a (TransGen.single dependency)
    have kept : n ∈ (g.remove n).dependenciesOf a := by
      simpa [dependenciesOf_remove, other] using dependency
    have listed := (removedInverse a n).mpr kept
    rw [mem_dependentsOf_remove (wellFormed.nodup n)] at listed
    exact listed.1 rfl
  · intro noDependents x y
    rw [mem_dependentsOf_remove (wellFormed.nodup y), dependenciesOf_remove]
    by_cases removed : x = n
    · subst removed
      rw [if_pos rfl]
      refine iff_of_false ?_ List.not_mem_nil
      rintro ⟨-, member, notDependency⟩
      exact notDependency rfl (wellFormed.backed x y member)
    · rw [if_neg removed]
      constructor
      · rintro ⟨-, member, -⟩
        exact (inverse x y).mp member
      · intro dependency
        have listed := (inverse x y).mpr dependency
        refine ⟨?_, listed, fun same => absurd same removed⟩
        rintro rfl
        simp [noDependents] at listed

theorem inverse_apply_iff (wellFormed : g.WellFormed) (inverse : g.Inverse) :
    ∀ op : Op, (op.apply g).Inverse ↔ ¬ op.Orphans g
  | .add n deps => by simpa [Op.apply, Op.Orphans] using inverse.add wellFormed n deps
  | .remove n => by simpa [Op.apply, Op.Orphans] using inverse_remove_iff wellFormed inverse n
  | .clear => by simpa [Op.apply, Op.Orphans] using inverse_empty

/-- Every graph of a run, the first one included, has inverse relations. -/
def InverseAlong : DependencyGraph → List Op → Prop
  | g, [] => g.Inverse
  | g, op :: ops => g.Inverse ∧ InverseAlong (op.apply g) ops

/-- No call of a run removes a field that others still depend on when it is
made. -/
def NoOrphans : DependencyGraph → List Op → Prop
  | _, [] => True
  | g, op :: ops => ¬ op.Orphans g ∧ NoOrphans (op.apply g) ops

theorem InverseAlong.inverse {g : DependencyGraph} :
    ∀ {ops : List Op}, InverseAlong g ops → g.Inverse
  | [], along => along
  | _ :: _, along => along.1

theorem inverseAlong_iff_noOrphans {g : DependencyGraph} (reachable : g.Reachable)
    (inverse : g.Inverse) (ops : List Op) : InverseAlong g ops ↔ NoOrphans g ops := by
  induction ops generalizing g with
  | nil => exact iff_of_true inverse trivial
  | cons op rest inductionHypothesis =>
      have step := inverse_apply_iff reachable.wellFormed inverse op
      constructor
      · rintro ⟨-, along⟩
        have kept := step.mp along.inverse
        exact ⟨kept, (inductionHypothesis (reachable.step op) along.inverse).mp along⟩
      · rintro ⟨kept, noOrphans⟩
        have afterInverse := step.mpr kept
        exact ⟨inverse, (inductionHypothesis (reachable.step op) afterInverse).mpr noOrphans⟩

/-- In every run from the empty graph or from the graph of a catalog, the two
relations stay mutually inverse exactly as long as no call removes a field that
other fields still depend on. -/
theorem inverse_kept_iff {start : DependencyGraph}
    (isStart : start = {} ∨ ∃ catalog, start = (ofFields catalog).value) (ops : List Op) :
    InverseAlong start ops ↔ NoOrphans start ops := by
  rcases isStart with rfl | ⟨catalog, rfl⟩
  · exact inverseAlong_iff_noOrphans Reachable.empty inverse_empty ops
  · exact inverseAlong_iff_noOrphans (Reachable.ofFields catalog) (inverse_ofFields catalog) ops

/-- After `total` depends on `price`, removing `price` leaves `total` depending on
it with no dependents listed for it. -/
theorem inverse_kept_iff_example :
    let ops := [Op.add "total" ["price"], Op.remove "price"]
    ((({} : DependencyGraph) = {} ∨ ∃ catalog, ({} : DependencyGraph) = (ofFields catalog).value) ∧
      (InverseAlong {} ops ↔ NoOrphans {} ops)) ∧
      ¬ NoOrphans {} ops ∧
      "price" ∈ ((Op.apply (.add "total" ["price"]) {}).remove "price").dependenciesOf "total" ∧
      ((Op.apply (.add "total" ["price"]) {}).remove "price").dependentsOf "price" = [] :=
  have isStart : ({} : DependencyGraph) = {} ∨
      ∃ catalog, ({} : DependencyGraph) = (ofFields catalog).value := .inl rfl
  ⟨⟨isStart, inverse_kept_iff isStart _⟩,
    by simp only [NoOrphans, Op.Orphans, not_and, Decidable.not_not]; decide, by decide, by decide⟩

end FieldCalc.DependencyGraph
