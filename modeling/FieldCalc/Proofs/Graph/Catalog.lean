import FieldCalc.Proofs.Graph.Order
import FieldCalc.Service

/-!
# The graph of a field catalog

A computed field of a catalog reads the names its formula refers to, or the
source of its rollup. `ofFields` adds the fields one by one and leaves out a
field whose edges would close a cycle, recording it as cyclic instead; which
member of a cycle is left out depends on the order of the catalog.

When the names of the catalog are distinct, the graph keeps exactly the edges
of the fields it did not leave out, and every field it left out lies on a
cycle of the catalog. So the unresolvable fields of the graph are exactly the
fields that reach a cycle of the catalog (`mem_unresolvable_iff_reachesCycle`),
whichever member of each cycle was left out.
-/

namespace FieldCalc.Service

open Relation DependencyGraph

/-- `a` reads `b`: the catalog has a computed field named `a` that depends on
the name `b`. -/
def Reads (s : Service) (a b : String) : Prop :=
  ∃ f ∈ s.catalog, f.name = a ∧ ∃ deps, catalogDeps? f = some deps ∧ b ∈ deps

def ReachesCycle (s : Service) (a : String) : Prop :=
  ∃ c, ReflTransGen s.Reads a c ∧ TransGen s.Reads c c

def graph (s : Service) : DependencyGraph := (ofFields s.catalog).value

variable {s : Service}

/-- What `ofFields` has built after reading the fields `done` of the catalog. -/
structure CatalogGraph (s : Service) (done : List FieldDefinition) (g : DependencyGraph) :
    Prop where
  reads : ∀ a b, g.DependsOn a b → s.Reads a b
  added : ∀ f ∈ done, ∀ deps, catalogDeps? f = some deps →
    f.name ∈ g.cyclic ∨ ∀ b, g.DependsOn f.name b ↔ b ∈ deps
  onCycle : ∀ c ∈ g.cyclic, TransGen s.Reads c c
  unique : ∀ x, (g.dependenciesOf x).Nodup

theorem catalogGraph_empty : CatalogGraph s [] {} where
  reads _ _ step := by simp [DependencyGraph.DependsOn] at step
  added _ member := by simp at member
  onCycle _ member := by simp at member
  unique _ := by simp

theorem reads_of_mem {f : FieldDefinition} (member : f ∈ s.catalog) {deps : List String}
    (found : catalogDeps? f = some deps) {b : String} (dependency : b ∈ deps) :
    s.Reads f.name b :=
  ⟨f, member, rfl, deps, found, dependency⟩

theorem addField_of_none {g : DependencyGraph} {f : FieldDefinition}
    (found : catalogDeps? f = none) : g.addField f = g := by
  unfold DependencyGraph.addField
  rw [found]

theorem addField_of_some {g : DependencyGraph} {f : FieldDefinition} {deps : List String}
    (found : catalogDeps? f = some deps) :
    g.addField f = if g.closesCycle f.name deps then { g with cyclic := insertName g.cyclic f.name }
      else g.replaced f.name deps := by
  unfold DependencyGraph.addField
  rw [found]
  dsimp only
  rw [add_eq]
  split <;> rfl

/-- Reading one more field keeps the description, as long as its name is not
the name of a field read before. -/
theorem CatalogGraph.addField {done : List FieldDefinition} {g : DependencyGraph}
    (built : CatalogGraph s done g) {f : FieldDefinition} (member : f ∈ s.catalog)
    (fresh : ∀ e ∈ done, e.name ≠ f.name) : CatalogGraph s (done ++ [f]) (g.addField f) := by
  cases found : catalogDeps? f with
  | none =>
      rw [addField_of_none found]
      refine ⟨built.reads, ?_, built.onCycle, built.unique⟩
      intro e eMember deps eFound
      rcases List.mem_append.mp eMember with old | now
      · exact built.added e old deps eFound
      · rw [List.mem_singleton.mp now, found] at eFound
        cases eFound
  | some deps =>
      rw [addField_of_some found]
      by_cases closes : g.closesCycle f.name deps
      · rw [if_pos closes]
        refine ⟨built.reads, ?_, ?_, built.unique⟩
        · intro e eMember eDeps eFound
          rcases List.mem_append.mp eMember with old | now
          · rcases built.added e old eDeps eFound with cyclic | exact
            · exact Or.inl ((mem_insertName _ _ _).mpr (Or.inl cyclic))
            · exact Or.inr exact
          · rw [List.mem_singleton.mp now]
            exact Or.inl ((mem_insertName _ _ _).mpr (Or.inr rfl))
        · intro c cyclic
          rcases (mem_insertName _ _ _).mp cyclic with old | rfl
          · exact built.onCycle c old
          · obtain ⟨d, dependency, path⟩ := (closesCycle_iff g f.name deps).mp closes
            have back : ReflTransGen s.Reads d f.name := ReflTransGen.mono built.reads d f.name path
            exact TransGen.head' (reads_of_mem member found dependency) back
      · rw [if_neg closes]
        refine ⟨?_, ?_, ?_, ?_⟩
        · intro a b step
          rw [DependencyGraph.DependsOn, mem_dependenciesOf_replaced] at step
          split at step
          · rename_i same
            exact same ▸ reads_of_mem member found step
          · exact built.reads a b step
        · intro e eMember eDeps eFound
          simp only [replaced_cyclic, DependencyGraph.DependsOn, mem_dependenciesOf_replaced]
          rcases List.mem_append.mp eMember with old | now
          · simp only [fresh e old, if_false]
            exact built.added e old eDeps eFound
          · obtain rfl := List.mem_singleton.mp now
            rw [found] at eFound
            cases eFound
            exact Or.inr fun b => by simp
        · exact built.onCycle
        · intro x
          rw [dependenciesOf_replaced]
          split
          · exact nodup_foldl_insertName deps List.nodup_nil
          · exact built.unique x

theorem catalogGraph_foldl (distinct : (s.catalog.map (·.name)).Nodup) :
    ∀ (done rest : List FieldDefinition) (g : DependencyGraph), s.catalog = done ++ rest →
      CatalogGraph s done g → CatalogGraph s s.catalog (rest.foldl DependencyGraph.addField g)
  | done, [], g, split, built => by
      rw [List.append_nil] at split
      exact split ▸ built
  | done, f :: rest, g, split, built => by
      have member : f ∈ s.catalog := by simp [split]
      have fresh : ∀ e ∈ done, e.name ≠ f.name := by
        intro e old same
        rw [split, List.map_append, List.map_cons] at distinct
        exact (List.nodup_append.mp distinct).2.2 _ (List.mem_map_of_mem old) _
          List.mem_cons_self same
      exact catalogGraph_foldl distinct (done ++ [f]) rest _ (by simp [split])
        (built.addField member fresh)

theorem catalogGraph_graph (distinct : (s.catalog.map (·.name)).Nodup) :
    CatalogGraph s s.catalog s.graph := by
  rw [graph, ofFields_value]
  exact catalogGraph_foldl distinct [] s.catalog {} rfl catalogGraph_empty

theorem graph_wellFormed (s : Service) : s.graph.WellFormed := wellFormed_ofFields s.catalog

theorem graph_inverse (s : Service) : s.graph.Inverse := inverse_ofFields s.catalog

section Distinct

variable (distinct : (s.catalog.map (·.name)).Nodup)

include distinct

theorem graph_dependsOn_of_reads {a b : String} (reads : s.Reads a b)
    (kept : a ∉ s.graph.cyclic) : s.graph.DependsOn a b := by
  obtain ⟨f, member, rfl, deps, found, dependency⟩ := reads
  rcases (catalogGraph_graph distinct).added f member deps found with cyclic | exact
  · exact absurd cyclic kept
  · exact (exact b).mpr dependency

theorem graph_path_or_cyclic {x y : String} (path : ReflTransGen s.Reads x y) :
    ReflTransGen s.graph.DependsOn x y ∨ ∃ z ∈ s.graph.cyclic, ReflTransGen s.graph.DependsOn x z := by
  induction path using ReflTransGen.head_induction_on with
  | refl => exact Or.inl ReflTransGen.refl
  | @head a _ step _ inductionHypothesis =>
      by_cases cyclic : a ∈ s.graph.cyclic
      · exact Or.inr ⟨a, cyclic, ReflTransGen.refl⟩
      · have edge := graph_dependsOn_of_reads distinct step cyclic
        rcases inductionHypothesis with inside | ⟨z, zCyclic, toZ⟩
        · exact Or.inl (ReflTransGen.head edge inside)
        · exact Or.inr ⟨z, zCyclic, ReflTransGen.head edge toZ⟩

theorem graph_cyclic_of_cycle {c : String} (cycle : TransGen s.Reads c c) :
    ∃ z ∈ s.graph.cyclic, ReflTransGen s.graph.DependsOn c z := by
  obtain ⟨c', step, back⟩ := TransGen.head'_iff.mp cycle
  by_cases cyclic : c ∈ s.graph.cyclic
  · exact ⟨c, cyclic, ReflTransGen.refl⟩
  · have edge := graph_dependsOn_of_reads distinct step cyclic
    rcases graph_path_or_cyclic distinct back with inside | ⟨z, zCyclic, toZ⟩
    · exact absurd (TransGen.head' edge inside) ((graph_wellFormed s).acyclic c)
    · exact ⟨z, zCyclic, ReflTransGen.head edge toZ⟩

/-- The unresolvable fields of the graph are exactly the fields that reach a
cycle of the catalog. -/
theorem mem_unresolvable_iff_reachesCycle {x : String} :
    x ∈ s.graph.unresolvable ↔ s.ReachesCycle x := by
  have graphPath : ∀ {a b}, ReflTransGen s.graph.DependsOn a b → ReflTransGen s.Reads a b :=
    fun path => ReflTransGen.mono (catalogGraph_graph distinct).reads _ _ path
  have dependent : ∀ {c}, ReflTransGen s.graph.Dependent c x ↔ ReflTransGen s.graph.DependsOn x c := by
    intro c
    rw [← reflTransGen_swap]
    exact Iff.of_eq (congrArg (ReflTransGen · x c)
      (funext₂ fun a b => propext (dependent_iff (graph_inverse s))))
  rw [mem_unresolvable_iff (graph_wellFormed s)]
  constructor
  · rintro ⟨c, cyclic, reach⟩
    exact ⟨c, graphPath (dependent.mp reach), (catalogGraph_graph distinct).onCycle c cyclic⟩
  · rintro ⟨c, toC, cycle⟩
    obtain ⟨z, zCyclic, toZ⟩ : ∃ z ∈ s.graph.cyclic, ReflTransGen s.graph.DependsOn x z := by
      rcases graph_path_or_cyclic distinct toC with inside | found
      · obtain ⟨z, zCyclic, fromC⟩ := graph_cyclic_of_cycle distinct cycle
        exact ⟨z, zCyclic, inside.trans fromC⟩
      · exact found
    exact ⟨z, zCyclic, dependent.mpr toZ⟩

end Distinct

end FieldCalc.Service
