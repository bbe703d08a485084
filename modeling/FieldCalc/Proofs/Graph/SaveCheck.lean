import FieldCalc.Proofs.Graph.Catalog

/-!
# The cycle check before saving a field

`dependencyProblem` decides whether saving a field `f` would close a reference
cycle. It builds the graph of the other fields of the catalog with `ofFields`
and searches it from the names `f` reads back to the name of `f`. Every cycle
it reports is a cycle through `f` in the catalog as saved
(`dependencyProblem_reported`). The graph of the other fields leaves out one
field of each cycle among them, so a cycle through `f` that runs through such
a field is not seen; when the other fields close no cycle, nothing is left out
and every cycle through `f` is reported (`dependencyProblem_of_cycle`).
-/

namespace FieldCalc.Service

open Relation DependencyGraph

def without (s : Service) (f : FieldDefinition) : Service := ⟨s.catalog.filter (·.id != f.id)⟩

def saving (s : Service) (f : FieldDefinition) : Service := ⟨(s.without f).catalog ++ [f]⟩

variable {s : Service} {f : FieldDefinition}

theorem dependencyProblem_value (s : Service) (f : FieldDefinition) :
    (s.dependencyProblem f).value =
      match catalogDeps? f with
      | some deps =>
        if (s.without f).graph.closesCycle f.name deps then
          some ("Field '" ++ f.name ++ "' would create a circular reference")
        else none
      | none => none := by
  have nothing (g : DependencyGraph) : g.closesCycle f.name [] = false := by
    rw [Bool.eq_false_iff, ne_eq, closesCycle_iff]
    simp
  have built : (s.without f).graph = (ofFields (s.catalog.filter (·.id != f.id))).value := rfl
  unfold dependencyProblem catalogDeps?
  rw [Logged.bind_value, built]
  cases f.type
  case formula =>
    dsimp only
    split_ifs <;> rfl
  case rollup =>
    cases f.rollupConfig
    · simp only [Option.map, Option.toList, nothing, Bool.false_eq_true, if_false]
      rfl
    · dsimp only [Option.map, Option.toList]
      split_ifs <;> rfl
  all_goals rfl

theorem reads_saving_of_without {a b : String} (reads : (s.without f).Reads a b) :
    (s.saving f).Reads a b := by
  obtain ⟨g, member, named, deps, found, dependency⟩ := reads
  exact ⟨g, List.mem_append_left _ member, named, deps, found, dependency⟩

theorem reads_without_of_ne {a b : String} (reads : (s.saving f).Reads a b) (other : a ≠ f.name) :
    (s.without f).Reads a b := by
  obtain ⟨g, member, named, deps, found, dependency⟩ := reads
  rcases List.mem_append.mp member with old | saved
  · exact ⟨g, old, named, deps, found, dependency⟩
  · rw [List.mem_singleton.mp saved] at named
    exact absurd named.symm other

theorem path_without {x : String} (path : ReflTransGen (s.saving f).Reads x f.name) :
    ReflTransGen (s.without f).Reads x f.name := by
  induction path using ReflTransGen.head_induction_on with
  | refl => exact ReflTransGen.refl
  | @head a c step _ inductionHypothesis =>
      by_cases atField : a = f.name
      · rw [atField]
      · exact ReflTransGen.head (reads_without_of_ne step atField) inductionHypothesis

section Distinct

variable (distinct : ((s.saving f).catalog.map (·.name)).Nodup)

include distinct

theorem without_distinct : ((s.without f).catalog.map (·.name)).Nodup := by
  have names := distinct
  rw [saving, List.map_append] at names
  exact names.sublist (List.sublist_append_left _ _)

theorem reads_of_field {b : String} (reads : (s.saving f).Reads f.name b) :
    ∃ deps, catalogDeps? f = some deps ∧ b ∈ deps := by
  obtain ⟨g, member, named, deps, found, dependency⟩ := reads
  rcases List.mem_append.mp member with old | saved
  · -- another field of the name of `f` would repeat that name
    have names := distinct
    rw [saving, List.map_append, List.map_singleton] at names
    have repeated : f.name ∈ (s.without f).catalog.map (·.name) := named ▸ List.mem_map_of_mem old
    exact ((List.nodup_append.mp names).2.2 _ repeated _ (List.mem_singleton_self _) rfl).elim
  · rw [← List.mem_singleton.mp saved]
    exact ⟨deps, found, dependency⟩

/-- A reported problem is the circular reference message, and the saved
catalog has a cycle through `f`. -/
theorem dependencyProblem_reported {msg : String} (reported : (s.dependencyProblem f).value = some msg) :
    msg = "Field '" ++ f.name ++ "' would create a circular reference" ∧
      TransGen (s.saving f).Reads f.name f.name := by
  rw [dependencyProblem_value] at reported
  split at reported
  next deps found =>
    split at reported
    next closes =>
      obtain ⟨d, dependency, path⟩ := (closesCycle_iff _ _ _).mp closes
      have back : ReflTransGen (s.saving f).Reads d f.name :=
        ReflTransGen.mono (fun _ _ step => reads_saving_of_without
          ((catalogGraph_graph (without_distinct distinct)).reads _ _ step)) d f.name path
      have first : (s.saving f).Reads f.name d :=
        reads_of_mem (List.mem_append_right _ (List.mem_singleton_self f)) found dependency
      exact ⟨(Option.some.inj reported).symm, TransGen.head' first back⟩
    next => cases reported
  next => cases reported

/-- When the other fields close no cycle, every cycle through `f` in the saved
catalog is reported. -/
theorem dependencyProblem_of_cycle (acyclic : ¬∃ c, TransGen (s.without f).Reads c c)
    (cycle : TransGen (s.saving f).Reads f.name f.name) :
    (s.dependencyProblem f).value =
      some ("Field '" ++ f.name ++ "' would create a circular reference") := by
  obtain ⟨d, first, back⟩ := TransGen.head'_iff.mp cycle
  obtain ⟨deps, found, dependency⟩ := reads_of_field distinct first
  -- the graph left out no field, since each field it leaves out lies on a cycle
  have inside : ReflTransGen (s.without f).graph.DependsOn d f.name := by
    rcases graph_path_or_cyclic (without_distinct distinct) (path_without back) with
      inside | ⟨z, cyclic, -⟩
    · exact inside
    · exact absurd ⟨z, (catalogGraph_graph (without_distinct distinct)).onCycle z cyclic⟩ acyclic
  rw [dependencyProblem_value, found]
  dsimp only
  rw [if_pos ((closesCycle_iff _ _ _).mpr ⟨d, dependency, inside⟩)]

end Distinct

/-- The check before saving `f` reports only the circular reference message,
and only for a cycle through `f` in the saved catalog; when the other fields
close no cycle among themselves, it reports exactly the cycles through `f`. -/
theorem dependencyProblem_reports_cycles (s : Service) (f : FieldDefinition)
    (distinct : ((s.saving f).catalog.map (·.name)).Nodup) :
    (∀ msg, (s.dependencyProblem f).value = some msg →
      msg = "Field '" ++ f.name ++ "' would create a circular reference" ∧
        TransGen (s.saving f).Reads f.name f.name) ∧
    ((¬∃ c, TransGen (s.without f).Reads c c) →
      (TransGen (s.saving f).Reads f.name f.name ↔
        (s.dependencyProblem f).value =
          some ("Field '" ++ f.name ++ "' would create a circular reference"))) := by
  refine ⟨fun _ reported => dependencyProblem_reported distinct reported, fun acyclic => ?_⟩
  exact ⟨dependencyProblem_of_cycle distinct acyclic,
    fun reported => (dependencyProblem_reported distinct reported).2⟩

/-- A rollup of its own name, saved into an empty catalog, is reported. -/
theorem dependencyProblem_reports_cycles_selfRollup :
    ((Service.saving ⟨[]⟩
        { id := .int 1, name := "total", type := .rollup, rollupConfig := some ⟨"total", .sum⟩ }).catalog.map
          (·.name)).Nodup ∧
      (Service.dependencyProblem ⟨[]⟩
        { id := .int 1, name := "total", type := .rollup, rollupConfig := some ⟨"total", .sum⟩ }).value =
        some ("Field '" ++ "total" ++ "' would create a circular reference") := by
  have distinct : ((Service.saving ⟨[]⟩
      { id := .int 1, name := "total", type := .rollup, rollupConfig := some ⟨"total", .sum⟩ }).catalog.map
        (·.name)).Nodup := by
    simp [saving, without]
  refine ⟨distinct, ((dependencyProblem_reports_cycles _ _ distinct).2 ?_).mp ?_⟩
  · -- no other field, so no cycle among them
    rintro ⟨c, cycle⟩
    obtain ⟨_, ⟨g, member, -⟩, -⟩ := TransGen.head'_iff.mp cycle
    simp [without] at member
  · exact TransGen.single ⟨_, List.mem_append_right _ (List.mem_singleton_self _), rfl, ["total"],
      rfl, List.mem_singleton_self _⟩

end FieldCalc.Service
