import FieldCalc.Proofs.Graph.Order
import Mathlib.Data.Nat.Find

/-!
# Affected fields, nearest first

`affected` walks the dependents of a changed field breadth first. Measured by
the fewest links of dependents from the changed field, the walk meets fields
in order of distance: the fields it has seen are sorted by distance, and none
of them is more than one link farther than a field still queued (`Layered`).
When the walk takes a field at distance `k` off the queue it has seen every
field at distance at most `k` (`Walk.seen_of_linksFrom`), so the dependents it
has not seen are at distance exactly `k + 1`, and appending them keeps the
order. The fields `affected` lists therefore come nearest first
(`affected_nearest_first`), each once.

What the walk follows is the relation the graph lists as dependents. Every
such link is a dependency of the dependent field, but not every dependency is
listed: removing a field drops its list of dependents while the fields that
depend on it keep it among their dependencies. So the fields found are exactly
those that reach the changed field through listed links, and they are all the
fields that depend on it, directly or not, exactly while the two relations
are inverse (`affected_breadth_first`).
-/

namespace FieldCalc.DependencyGraph

open Relation

variable {g : DependencyGraph}

/-! ### Distance along links of dependents -/

/-- `y` is `n` links of dependents away from `start`, along some path. -/
inductive LinksFrom (g : DependencyGraph) (start : String) : Nat → String → Prop
  | refl : LinksFrom g start 0 start
  | tail {n : Nat} {x y : String} :
      LinksFrom g start n x → g.Dependent x y → LinksFrom g start (n + 1) y

theorem exists_linksFrom_of_reflTransGen {start y : String}
    (reach : ReflTransGen g.Dependent start y) : ∃ n, g.LinksFrom start n y := by
  induction reach with
  | refl => exact ⟨0, .refl⟩
  | tail _ step inductionHypothesis =>
      obtain ⟨n, path⟩ := inductionHypothesis
      exact ⟨n + 1, path.tail step⟩

open Classical in
/-- The fewest links of dependents from `start` to `y`; zero when `y` cannot
be reached. -/
noncomputable def distance (g : DependencyGraph) (start y : String) : Nat :=
  if reach : ∃ n, g.LinksFrom start n y then Nat.find reach else 0

theorem linksFrom_distance {start y : String} (reach : ∃ n, g.LinksFrom start n y) :
    g.LinksFrom start (g.distance start y) y := by
  classical
  rw [distance, dif_pos reach]
  exact Nat.find_spec reach

theorem distance_le {start y : String} {n : Nat} (path : g.LinksFrom start n y) :
    g.distance start y ≤ n := by
  classical
  rw [distance, dif_pos ⟨n, path⟩]
  exact Nat.find_min' _ path

/-- `a` is no farther from `start` than `b`: every path to `b` is at least as
long as some path to `a`. -/
def NoFarther (g : DependencyGraph) (start a b : String) : Prop :=
  ∀ n, g.LinksFrom start n b → ∃ m ≤ n, g.LinksFrom start m a

theorem noFarther_of_distance_le {start a b : String} (reach : ∃ n, g.LinksFrom start n a)
    (nearer : g.distance start a ≤ g.distance start b) : g.NoFarther start a b := by
  intro n path
  exact ⟨g.distance start a, nearer.trans (distance_le path), linksFrom_distance reach⟩

/-! ### The walk goes layer by layer -/

/-- The walk meets fields in order of distance: what it has seen is sorted by
distance, and nothing seen is more than one link farther than a field still
queued. -/
structure Layered (g : DependencyGraph) (start : String) (queue seen : List String) : Prop where
  sorted : seen.Pairwise fun a b => g.distance start a ≤ g.distance start b
  span : ∀ y ∈ seen, ∀ q ∈ queue, g.distance start y ≤ g.distance start q + 1

theorem layered_start (g : DependencyGraph) (start : String) :
    g.Layered start [start] [start] where
  sorted := List.pairwise_singleton _ _
  span y seen q queued := by
    rw [List.mem_singleton] at seen queued
    rw [seen, queued]
    omega

theorem Walk.reach {start : String} {queue seen found : List String}
    (walk : g.Walk start queue seen found) {y : String} (member : y ∈ seen) :
    ∃ n, g.LinksFrom start n y := by
  rw [walk.seen_eq, List.mem_cons] at member
  rcases member with rfl | found
  · exact ⟨0, .refl⟩
  · exact exists_linksFrom_of_reflTransGen (walk.reached y found).to_reflTransGen

theorem Walk.queued_far {start current : String} {queue seen found : List String}
    (walk : g.Walk start (current :: queue) seen found)
    (layered : g.Layered start (current :: queue) seen) :
    ∀ q ∈ current :: queue, g.distance start current ≤ g.distance start q := by
  obtain ⟨visited, split, -⟩ := walk.closed
  have sorted := layered.sorted
  rw [split, List.pairwise_append, List.pairwise_cons] at sorted
  intro q member
  rcases List.mem_cons.mp member with rfl | later
  · exact le_refl _
  · exact sorted.2.1.1 q later

/-- When the walk is at a field of distance `k`, it has seen every field at
distance at most `k`. -/
theorem Walk.seen_of_linksFrom {start current : String} {queue seen found : List String}
    (walk : g.Walk start (current :: queue) seen found)
    (layered : g.Layered start (current :: queue) seen) {n : Nat} {z : String}
    (path : g.LinksFrom start n z) (within : n ≤ g.distance start current) : z ∈ seen := by
  obtain ⟨visited, split, closed⟩ := walk.closed
  induction path with
  | refl =>
      rw [walk.seen_eq]
      exact List.mem_cons_self
  | @tail m p y earlier step inductionHypothesis =>
      have pSeen := inductionHypothesis (by omega)
      -- `p` is nearer than the head of the queue, so it has been visited
      have pNear : g.distance start p < g.distance start current :=
        (distance_le earlier).trans_lt (by omega)
      have pVisited : p ∈ visited := by
        rw [split, List.mem_append] at pSeen
        rcases pSeen with visitedP | queuedP
        · exact visitedP
        · exact absurd (walk.queued_far layered p queuedP) (by omega)
      exact closed p pVisited y step

/-- One step of the walk keeps it layered: the fields it queues are one link
farther than the field it visits. -/
theorem Layered.step {start current : String} {queue seen found : List String}
    (walk : g.Walk start (current :: queue) seen found)
    (layered : g.Layered start (current :: queue) seen) :
    g.Layered start (queue ++ g.freshDependents current seen)
      (seen ++ g.freshDependents current seen) := by
  obtain ⟨visited, split, -⟩ := walk.closed
  have currentSeen : current ∈ seen := by
    rw [split]
    exact List.mem_append_right _ List.mem_cons_self
  have currentPath := linksFrom_distance (walk.reach currentSeen)
  have freshDistance : ∀ y ∈ g.freshDependents current seen,
      g.distance start y = g.distance start current + 1 := by
    intro y member
    obtain ⟨step, unseen⟩ := mem_freshDependents.mp member
    have atMost := distance_le (currentPath.tail step)
    by_contra differs
    exact unseen (walk.seen_of_linksFrom layered (linksFrom_distance ⟨_, currentPath.tail step⟩)
      (by omega))
  have seenNear : ∀ y ∈ seen, g.distance start y ≤ g.distance start current + 1 :=
    fun y member => layered.span y member current List.mem_cons_self
  refine ⟨?_, ?_⟩
  · rw [List.pairwise_append]
    refine ⟨layered.sorted, ?_, ?_⟩
    · refine List.pairwise_of_forall_mem_list fun a aFresh b bFresh => ?_
      rw [freshDistance a aFresh, freshDistance b bFresh]
    · intro a aSeen b bFresh
      rw [freshDistance b bFresh]
      exact seenNear a aSeen
  · intro y member q queued
    have yNear : g.distance start y ≤ g.distance start current + 1 := by
      rcases List.mem_append.mp member with old | new
      · exact seenNear y old
      · exact (freshDistance y new).le
    rcases List.mem_append.mp queued with old | new
    · have far := walk.queued_far layered q (List.mem_cons_of_mem _ old)
      omega
    · rw [freshDistance q new]
      omega

/-! ### The fields `affected` lists -/

theorem affected_walk (wellFormed : g.WellFormed) (changed : String) :
    ∃ seen, g.Walk changed [] seen (g.affected changed) ∧ g.Layered changed [] seen :=
  affectedFrom_invariant wellFormed (g.Layered changed) (fun walk layered => layered.step walk)
    _ _ _ _ (walk_start g changed) (layered_start g changed) (measure_start_lt g changed)

theorem nodup_affected (wellFormed : g.WellFormed) (changed : String) :
    (g.affected changed).Nodup := by
  obtain ⟨seen, walk, -⟩ := affected_walk wellFormed changed
  have unique := walk.nodup
  rw [walk.seen_eq] at unique
  exact (List.nodup_cons.mp unique).2

theorem affected_nearest_first (wellFormed : g.WellFormed) (changed : String) :
    (g.affected changed).Pairwise (g.NoFarther changed) := by
  obtain ⟨seen, walk, layered⟩ := affected_walk wellFormed changed
  have sorted := layered.sorted
  rw [walk.seen_eq, List.pairwise_cons] at sorted
  refine sorted.2.imp_of_mem fun aFound _ nearer => noFarther_of_distance_le ?_ nearer
  exact walk.reach (by rw [walk.seen_eq]; exact List.mem_cons_of_mem _ aFound)

/-- In every reachable graph `affected` lists each field once, never the
changed field itself, and exactly the fields that reach the changed field
through listed links of dependents, nearest first. The unresolvable fields are
the cyclic fields with every field that reaches one of them through such
links, and every listed link is a dependency of the dependent field. -/
theorem affected_breadth_first (reachable : g.Reachable) (changed : String) :
    (g.affected changed).Nodup ∧
      (∀ y, y ∈ g.affected changed ↔ y ≠ changed ∧ TransGen g.Dependent changed y) ∧
      (g.affected changed).Pairwise (g.NoFarther changed) ∧
      (∀ y, y ∈ g.unresolvable ↔ ∃ c ∈ g.cyclic, ReflTransGen g.Dependent c y) ∧
      (∀ x y, g.Dependent x y → g.DependsOn y x) := by
  have wellFormed := reachable.wellFormed
  refine ⟨nodup_affected wellFormed changed, fun _ => mem_affected_iff wellFormed,
    affected_nearest_first wellFormed changed, fun _ => mem_unresolvable_iff wellFormed, ?_⟩
  intro x y listed
  exact wellFormed.backed y x listed

/-- A diamond: `b` and `c` depend on `a`, and `d` on both. -/
theorem affected_breadth_first_diamond :
    let g := Op.apply (.add "d" ["b", "c"]) (Op.apply (.add "c" ["a"]) (Op.apply (.add "b" ["a"]) {}))
    g.Reachable ∧
      ((g.affected "a").Nodup ∧
        (∀ y, y ∈ g.affected "a" ↔ y ≠ "a" ∧ TransGen g.Dependent "a" y) ∧
        (g.affected "a").Pairwise (g.NoFarther "a") ∧
        (∀ y, y ∈ g.unresolvable ↔ ∃ c ∈ g.cyclic, ReflTransGen g.Dependent c y) ∧
        (∀ x y, g.Dependent x y → g.DependsOn y x)) :=
  have reachable := ((Reachable.empty.step (.add "b" ["a"])).step (.add "c" ["a"])).step
    (.add "d" ["b", "c"])
  ⟨reachable, affected_breadth_first reachable "a"⟩

end FieldCalc.DependencyGraph
