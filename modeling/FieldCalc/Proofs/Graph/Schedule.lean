import FieldCalc.Proofs.Graph.Breadth

/-!
# When the evaluation order comes out empty

`evaluationOrder` counts down, for each wanted field, the wanted dependencies
that have not released it yet (`Countdown`), on any graph. A removal can leave
a field depending on a field that no longer lists it. Such a dependency is
never counted off, so its field is never placed and the order comes out empty,
although a reachable graph has no cycle at all. That is the
only way: in a reachable graph the order is empty exactly when no field was
asked for or a wanted field depends on a wanted field that does not list it
(`evaluationOrder_schedules`). Otherwise every wanted field is placed once,
after its wanted dependencies, and fields that do not depend on each other
keep the order they were first asked in.
-/

namespace FieldCalc.DependencyGraph

open Relation

variable {g : DependencyGraph}

/-! ### Dependency lists have no repeats -/

theorem nodup_dependencies_apply (unique : ∀ x, (g.dependenciesOf x).Nodup) :
    ∀ (op : Op) (x : String), ((op.apply g).dependenciesOf x).Nodup
  | .add n deps, x => by
      rw [Op.apply, add_eq]
      split
      · exact unique x
      · rw [dependenciesOf_replaced]
        split
        · exact nodup_foldl_insertName deps List.nodup_nil
        · exact unique x
  | .remove n, x => by
      rw [Op.apply, dependenciesOf_remove]
      split
      · exact List.nodup_nil
      · exact unique x
  | .clear, _ => List.nodup_nil

theorem nodup_dependencies_addField (unique : ∀ x, (g.dependenciesOf x).Nodup)
    (f : FieldDefinition) (x : String) : ((g.addField f).dependenciesOf x).Nodup := by
  unfold DependencyGraph.addField
  split
  · exact unique x
  · rename_i deps _
    -- recording a refused field as cyclic leaves its dependencies alone
    have added := nodup_dependencies_apply unique (.add f.name deps) x
    dsimp only
    split
    · exact added
    · exact added

theorem Reachable.nodup_dependencies (reachable : g.Reachable) :
    ∀ x, (g.dependenciesOf x).Nodup := by
  induction reachable with
  | empty => exact fun _ => List.nodup_nil
  | ofFields catalog =>
      rw [ofFields_value]
      suffices kept : ∀ start : DependencyGraph, (∀ x, (start.dependenciesOf x).Nodup) →
          ∀ x, ((catalog.foldl addField start).dependenciesOf x).Nodup from
        kept {} fun _ => List.nodup_nil
      induction catalog with
      | nil => exact fun _ unique => unique
      | cons f rest inductionHypothesis =>
          exact fun start unique => inductionHypothesis _ (nodup_dependencies_addField unique f)
  | step op _ inductionHypothesis => exact nodup_dependencies_apply inductionHypothesis op

/-! ### A dependency that is not listed back -/

/-- A field that waits for an unlisted dependency is never placed, so the
order is empty. -/
theorem evaluationOrder_of_unlisted (wellFormed : g.WellFormed) {names : List String}
    (unlisted : g.Unlisted names) : g.evaluationOrder names = [] := by
  obtain ⟨x, xNamed, d, dNamed, differs, dependency, notListed⟩ := unlisted
  obtain ⟨degree, countdown⟩ := kahnResult_countdown wellFormed names
  have xWanted : x ∈ names.foldl insertName [] := by simp [mem_foldl_insertName, xNamed]
  have unique := countdown.nodup
  rw [List.append_nil] at unique
  have subset : ∀ n ∈ g.kahnResult names, n ∈ names.foldl insertName [] :=
    fun n placed => countdown.subset n (by simp [placed])
  have needed : d ∈ g.need (names.foldl insertName []) x := mem_need_iff.mpr ⟨dependency, dNamed, differs⟩
  have fewer := length_released_lt wellFormed unique subset needed fun ⟨_, releases⟩ =>
    notListed releases.1
  have missing : x ∉ g.kahnResult names := by
    intro placed
    have counted := (countdown.queued x xWanted).mp (by simp [placed])
    omega
  -- a duplicate-free part of the wanted fields that misses one is shorter
  have shorter : (g.kahnResult names).length ≠ (names.foldl insertName []).length := by
    intro same
    have perm := (unique.subperm subset).perm_of_length_le same.ge
    exact missing (perm.mem_iff.mpr xWanted)
  rw [evaluationOrder_eq, if_neg shorter]

/-! ### Fields that do not depend on each other -/

theorem orderFrom_of_unreleased {wanted : List String} (uniqueWanted : wanted.Nodup) :
    ∀ (queue : List String) (fuel : Nat) (degree : List (String × Int)) (result : List String),
      (∀ n ∈ queue, ∀ y ∈ wanted, ¬ g.Releases n y) → queue.length < fuel →
        g.orderFrom wanted fuel queue degree result = result ++ queue
  | [], fuel + 1, _, result, _, _ => by simp [orderFrom]
  | name :: queue, fuel + 1, degree, result, unreleased, enough => by
      have noneReady : (wanted.foldl (g.release name) (degree, [])).2 = [] := by
        rw [ready_foldl_release name wanted degree [] uniqueWanted, List.nil_append,
          List.filter_eq_nil_iff]
        intro y yWanted
        simp [unreleased name List.mem_cons_self y yWanted]
      rw [orderFrom_cons, noneReady, List.append_nil,
        orderFrom_of_unreleased uniqueWanted queue fuel _ _
          (fun n member => unreleased n (List.mem_cons_of_mem _ member))
          (by simp only [List.length_cons] at enough; omega)]
      simp

theorem foldl_insertName_eq_eraseDups (names : List String) :
    names.foldl insertName [] = names.eraseDups := by
  induction names using List.reverseRecOn with
  | nil => rfl
  | append_singleton names name inductionHypothesis =>
      rw [List.foldl_append, inductionHypothesis, List.eraseDups_append]
      by_cases seen : name ∈ names
      · simp [insertName, List.mem_eraseDups, seen, List.removeAll]
      · simp [insertName, List.mem_eraseDups, seen, List.removeAll, List.eraseDups_cons]

/-- When no field asked for depends on another one asked for, the order is the
fields asked for, each at its first occurrence. -/
theorem evaluationOrder_of_independent (wellFormed : g.WellFormed) {names : List String}
    (independent : ∀ x ∈ names, ∀ d ∈ names, d ∈ g.dependenciesOf x → d = x) :
    g.evaluationOrder names = names.eraseDups := by
  have uniqueWanted := nodup_foldl_insertName names List.nodup_nil
  have memWanted : ∀ x, x ∈ names.foldl insertName [] ↔ x ∈ names := fun x => by
    simp [mem_foldl_insertName]
  have allQueued : (names.foldl insertName []).filter
      (fun n => ((g.startDegree (names.foldl insertName [])).lookup n) == some 0) =
        names.foldl insertName [] := by
    refine List.filter_eq_self.mpr fun x member => ?_
    have noNeed : g.need (names.foldl insertName []) x = [] := by
      refine List.eq_nil_iff_forall_not_mem.mpr fun d needed => ?_
      obtain ⟨dependency, dNamed, differs⟩ := mem_need_iff.mp needed
      exact differs (independent x ((memWanted x).mp member) d dNamed dependency)
    simp [lookup_startDegree member, noNeed]
  have unreleased : ∀ n ∈ names.foldl insertName [], ∀ y ∈ names.foldl insertName [],
      ¬ g.Releases n y := by
    rintro n nWanted y yWanted ⟨listed, differs⟩
    exact differs (independent y ((memWanted y).mp yWanted) n ((memWanted n).mp nWanted)
      (wellFormed.backed y n listed)).symm
  have placedAll : g.kahnResult names = names.foldl insertName [] := by
    unfold kahnResult
    dsimp only
    rw [allQueued, orderFrom_of_unreleased uniqueWanted _ _ _ _ unreleased (by omega),
      List.nil_append]
  rw [evaluationOrder_eq, placedAll, if_pos rfl, foldl_insertName_eq_eraseDups]

/-- In every reachable graph the evaluation order of `names` is empty exactly
when no name was asked for or a name asked for depends on another one asked for
that does not list it among its dependents. Otherwise it lists each name once,
every one after the names asked for that it depends on; and when no name asked
for depends on another, it is the names in the order they were first asked. -/
theorem evaluationOrder_schedules (reachable : g.Reachable) (names : List String) :
    (g.evaluationOrder names = [] ↔ names = [] ∨ g.Unlisted names) ∧
      (¬ g.Unlisted names → g.TopologicalOrder names (g.evaluationOrder names)) ∧
      ((∀ x ∈ names, ∀ d ∈ names, d ∈ g.dependenciesOf x → d = x) →
        g.evaluationOrder names = names.eraseDups) := by
  have wellFormed := reachable.wellFormed
  have uniqueDependencies := reachable.nodup_dependencies
  refine ⟨⟨fun empty => ?_, ?_⟩, evaluationOrder_of_listed wellFormed uniqueDependencies,
    evaluationOrder_of_independent wellFormed⟩
  · by_contra named
    have neither := not_or.mp named
    obtain ⟨x, named⟩ := List.exists_mem_of_ne_nil _ neither.1
    have placed := ((evaluationOrder_of_listed wellFormed uniqueDependencies neither.2).mem_iff x).mpr
      named
    rw [empty] at placed
    exact List.not_mem_nil placed
  · rintro (rfl | unlisted)
    · rfl
    · exact evaluationOrder_of_unlisted wellFormed unlisted

/-- After `total` comes to depend on `price` and `price` is removed, `total`
still depends on `price`, which no longer lists it. -/
theorem evaluationOrder_schedules_afterRemoval :
    let g := Op.apply (.remove "price") (Op.apply (.add "total" ["price"]) {})
    g.Reachable ∧
      ((g.evaluationOrder ["total", "price"] = [] ↔ ["total", "price"] = [] ∨ g.Unlisted ["total", "price"]) ∧
        (¬ g.Unlisted ["total", "price"] →
          g.TopologicalOrder ["total", "price"] (g.evaluationOrder ["total", "price"])) ∧
        ((∀ x ∈ ["total", "price"], ∀ d ∈ ["total", "price"], d ∈ g.dependenciesOf x → d = x) →
          g.evaluationOrder ["total", "price"] = ["total", "price"].eraseDups)) :=
  have reachable := (Reachable.empty.step (.add "total" ["price"])).step (.remove "price")
  ⟨reachable, evaluationOrder_schedules reachable ["total", "price"]⟩

end FieldCalc.DependencyGraph
