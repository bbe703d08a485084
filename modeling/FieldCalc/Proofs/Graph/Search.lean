import FieldCalc.Proofs.Graph.Edges

/-!
# Searching the dependencies of a graph

`reaches` walks the dependencies of a list of fields, a worklist that grows at
the front, and expands each field at most once. Its fuel counts the fields it
takes off the list: every step takes one off, and every expansion adds the
dependencies of a field that was not expanded before, so the fields still on
the list plus the dependencies of the fields never expanded bound the steps
left. With that much fuel the walk answers exactly whether the target is
reachable (`reaches_iff`).

A cycle check then asks whether giving a field new dependencies closes a
cycle. In an acyclic graph it does exactly when one of the new dependencies
already reaches the field: a path back to the field never needs the field's
old edges, because it stops the first time it gets there (`createsCycle_iff`).
-/

namespace FieldCalc.DependencyGraph

open Relation

/-! ### The measure of a search -/

theorem foldl_pairCount (rel : List (String × List String)) (k : Nat) :
    rel.foldl (fun n p => n + p.2.length) k = k + pairCount rel := by
  induction rel generalizing k with
  | nil => rfl
  | cons p rest inductionHypothesis =>
      simp only [pairCount, List.foldl_cons, Nat.zero_add]
      rw [inductionHypothesis, inductionHypothesis p.2.length]
      omega

@[simp]
theorem pairCount_cons (p : String × List String) (rest : List (String × List String)) :
    pairCount (p :: rest) = p.2.length + pairCount rest := by
  simp only [pairCount, List.foldl_cons, Nat.zero_add]
  exact foldl_pairCount rest p.2.length

def unexpanded (g : DependencyGraph) (visited : List String) : Nat :=
  pairCount (g.dependsOn.filter fun p => p.1 ∉ visited)

theorem pairCount_filter_mono (rel : List (String × List String))
    {keep keepMore : String × List String → Bool}
    (implies : ∀ p, keep p = true → keepMore p = true) :
    pairCount (rel.filter keep) ≤ pairCount (rel.filter keepMore) := by
  induction rel with
  | nil => simp
  | cons p rest inductionHypothesis =>
      rw [List.filter_cons, List.filter_cons]
      by_cases kept : keep p = true
      · simp only [kept, implies p kept, ↓reduceIte, pairCount_cons]
        omega
      · cases keptMore : keepMore p <;> simp [kept] <;> omega

/-- Expanding a field that was not expanded before moves its dependencies from
the measure onto the worklist. -/
theorem length_dependenciesOf_add_unexpanded_le (g : DependencyGraph) {c : String}
    {visited : List String} (fresh : c ∉ visited) :
    (g.dependenciesOf c).length + g.unexpanded (c :: visited) ≤ g.unexpanded visited := by
  rw [dependenciesOf_eq]
  unfold unexpanded setAt
  induction g.dependsOn with
  | nil => simp
  | cons p rest inductionHypothesis =>
      obtain ⟨k, v⟩ := p
      by_cases current : k = c
      · subst current
        have below : pairCount (rest.filter fun p => p.1 ∉ k :: visited) ≤
            pairCount (rest.filter fun p => p.1 ∉ visited) :=
          pairCount_filter_mono rest fun p => by simp_all
        simp only [List.lookup_cons, beq_self_eq_true, Option.getD_some, List.filter_cons,
          List.mem_cons, true_or, not_true_eq_false, decide_false, Bool.false_eq_true,
          ↓reduceIte, fresh, not_false_eq_true, decide_true, pairCount_cons] at below ⊢
        omega
      · have differs : (c == k) = false := beq_false_of_ne (Ne.symm current)
        rw [List.lookup_cons, differs]
        by_cases seen : k ∈ visited
        · simpa [List.filter_cons, seen] using inductionHypothesis
        · simp only [List.filter_cons, List.mem_cons, current, seen, or_self,
            not_false_eq_true, decide_true, ↓reduceIte, pairCount_cons] at inductionHypothesis ⊢
          omega

/-! ### The walk -/

def Closed (g : DependencyGraph) (worklist visited : List String) : Prop :=
  ∀ v ∈ visited, ∀ w, g.DependsOn v w → w ∈ visited ∨ w ∈ worklist

theorem exists_worklist_of_closed {g : DependencyGraph} {worklist visited : List String}
    (closed : g.Closed worklist visited) {v target : String}
    (path : ReflTransGen g.DependsOn v target) (outside : target ∉ visited) :
    v ∈ visited → ∃ w ∈ worklist, ReflTransGen g.DependsOn w target := by
  induction path using ReflTransGen.head_induction_on with
  | refl => exact fun expanded => absurd expanded outside
  | head step rest inductionHypothesis =>
      intro expanded
      rcases closed _ expanded _ step with next | next
      · exact inductionHypothesis next
      · exact ⟨_, next, rest⟩

theorem Closed.skip {g : DependencyGraph} {current : String} {rest visited : List String}
    (closed : g.Closed (current :: rest) visited) (seen : current ∈ visited) :
    g.Closed rest visited := by
  intro v expanded w step
  rcases closed v expanded w step with old | queued
  · exact .inl old
  · rcases List.mem_cons.mp queued with same | later
    · exact .inl (same ▸ seen)
    · exact .inr later

theorem Closed.expand {g : DependencyGraph} {current : String} {rest visited : List String}
    (closed : g.Closed (current :: rest) visited) :
    g.Closed (g.dependenciesOf current ++ rest) (current :: visited) := by
  intro v expanded w step
  rcases List.mem_cons.mp expanded with same | old
  · subst same
    exact .inr (List.mem_append_left _ step)
  · rcases closed v old w step with before | queued
    · exact .inl (List.mem_cons_of_mem _ before)
    · rcases List.mem_cons.mp queued with same | later
      · exact .inl (same ▸ List.mem_cons_self)
      · exact .inr (List.mem_append_right _ later)

@[simp]
theorem reaches_nil (g : DependencyGraph) (target : String) (fuel : Nat)
    (visited : List String) : g.reaches target fuel [] visited = false := by
  cases fuel <;> rfl

/-- With fuel beyond its measure, the walk answers whether the target is
reachable from the worklist. -/
theorem reaches_iff (g : DependencyGraph) (target : String) :
    ∀ (fuel : Nat) (worklist visited : List String),
      worklist.length + g.unexpanded visited < fuel → target ∉ visited →
      g.Closed worklist visited →
      (g.reaches target fuel worklist visited = true ↔
        ∃ w ∈ worklist, ReflTransGen g.DependsOn w target) := by
  intro fuel
  induction fuel with
  | zero => intro worklist visited enough; omega
  | succ fuel inductionHypothesis =>
      intro worklist visited enough outside closed
      cases worklist with
      | nil => simp
      | cons current rest =>
          by_cases found : current = target
          · subst found
            simp only [reaches, beq_self_eq_true, ↓reduceIte, true_iff]
            exact ⟨current, List.mem_cons_self, ReflTransGen.refl⟩
          · have differs : (current == target) = false := beq_false_of_ne found
            by_cases seen : current ∈ visited
            · -- an expanded field adds nothing: the rest of the worklist decides
              have stillClosed := closed.skip seen
              simp only [reaches, differs, List.contains_iff_mem, seen, Bool.false_eq_true,
                ↓reduceIte]
              rw [inductionHypothesis rest visited (by simp at enough; omega) outside stillClosed]
              constructor
              · rintro ⟨w, member, path⟩
                exact ⟨w, List.mem_cons_of_mem _ member, path⟩
              · rintro ⟨w, member, path⟩
                rcases List.mem_cons.mp member with same | later
                · exact exists_worklist_of_closed stillClosed path outside (same ▸ seen)
                · exact ⟨w, later, path⟩
            · -- expanding a fresh field puts its dependencies in its place
              have bound := g.length_dependenciesOf_add_unexpanded_le seen
              have stillClosed := closed.expand
              simp only [reaches, differs, List.contains_iff_mem, seen, Bool.false_eq_true,
                ↓reduceIte]
              rw [inductionHypothesis _ _ (by simp at enough ⊢; omega)
                (by simp [Ne.symm found, outside]) stillClosed]
              constructor
              · rintro ⟨w, member, path⟩
                rcases List.mem_append.mp member with dependency | later
                · exact ⟨current, List.mem_cons_self, ReflTransGen.head dependency path⟩
                · exact ⟨w, List.mem_cons_of_mem _ later, path⟩
              · rintro ⟨w, member, path⟩
                rcases List.mem_cons.mp member with same | later
                · subst same
                  rcases ReflTransGen.cases_head path with same | ⟨next, step, rest⟩
                  · exact absurd same found
                  · exact ⟨next, List.mem_append_left _ step, rest⟩
                · exact ⟨w, List.mem_append_right _ later, path⟩

theorem closesCycle_iff (g : DependencyGraph) (n : String) (deps : List String) :
    g.closesCycle n deps = true ↔ ∃ d ∈ deps, ReflTransGen g.DependsOn d n := by
  have unexpandedAll : g.unexpanded [] = pairCount g.dependsOn := by
    simp [unexpanded, List.filter_eq_self.mpr]
  have walk := g.reaches_iff n (deps.length + pairCount g.dependsOn + 1) deps []
    (by omega) (by simp) (by simp [Closed])
  simp only [closesCycle, Bool.or_eq_true, List.contains_iff_mem, walk]
  constructor
  · rintro (member | reached)
    · exact ⟨n, member, ReflTransGen.refl⟩
    · exact reached
  · exact .inr

/-! ### Closing a cycle -/

def Replacing (g : DependencyGraph) (n : String) (deps : List String) (x y : String) : Prop :=
  if x = n then y ∈ deps else g.DependsOn x y

/-- Replacing the dependencies of `n` by `deps` makes some field depend on
itself. -/
def CreatesCycle (g : DependencyGraph) (n : String) (deps : List String) : Prop :=
  ∃ x, TransGen (g.Replacing n deps) x x

variable {g : DependencyGraph} {n : String} {deps : List String} {a b : String}

theorem replacing_of_ne (differs : a ≠ n) (step : g.DependsOn a b) :
    g.Replacing n deps a b := by
  simpa [Replacing, differs] using step

theorem reflTransGen_or_reaches_of_replacing (path : ReflTransGen (g.Replacing n deps) a b) :
    ReflTransGen g.DependsOn a b ∨ ReflTransGen g.DependsOn a n := by
  induction path with
  | refl => exact .inl ReflTransGen.refl
  | @tail c _ _ step inductionHypothesis =>
      rcases inductionHypothesis with old | toField
      · by_cases leaving : c = n
        · exact .inr (leaving ▸ old)
        · simp only [Replacing, leaving, ↓reduceIte] at step
          exact .inl (old.tail step)
      · exact .inr toField

theorem reflTransGen_or_from_dependency_of_replacing
    (path : ReflTransGen (g.Replacing n deps) a b) :
    ReflTransGen g.DependsOn a b ∨ ∃ d ∈ deps, ReflTransGen g.DependsOn d b := by
  induction path with
  | refl => exact .inl ReflTransGen.refl
  | @tail c last _ step inductionHypothesis =>
      by_cases leaving : c = n
      · simp only [Replacing, leaving, ↓reduceIte] at step
        exact .inr ⟨last, step, ReflTransGen.refl⟩
      · simp only [Replacing, leaving, ↓reduceIte] at step
        rcases inductionHypothesis with old | ⟨d, member, fromDependency⟩
        · exact .inl (old.tail step)
        · exact .inr ⟨d, member, fromDependency.tail step⟩

theorem replacing_of_reaches (path : ReflTransGen g.DependsOn a n) :
    ReflTransGen (g.Replacing n deps) a n := by
  induction path using ReflTransGen.head_induction_on with
  | refl => exact ReflTransGen.refl
  | @head a _ step _ inductionHypothesis =>
      by_cases atField : a = n
      · exact atField ▸ ReflTransGen.refl
      · exact ReflTransGen.head (replacing_of_ne atField step) inductionHypothesis

/-- In an acyclic graph, new dependencies close a cycle exactly when one of
them already reaches the field. -/
theorem createsCycle_iff (acyclic : g.Acyclic) :
    g.CreatesCycle n deps ↔ ∃ d ∈ deps, ReflTransGen g.DependsOn d n := by
  constructor
  · rintro ⟨x, cycle⟩
    obtain ⟨y, first, back⟩ := TransGen.head'_iff.mp cycle
    by_cases atField : x = n
    · subst atField
      simp only [Replacing, ↓reduceIte] at first
      refine ⟨y, first, ?_⟩
      rcases reflTransGen_or_reaches_of_replacing back with path | path <;> exact path
    · simp only [Replacing, atField, ↓reduceIte] at first
      -- the rest of the cycle cannot be old, or the old graph had a cycle
      have noOldPath : ¬ ReflTransGen g.DependsOn y x :=
        fun old => acyclic x (TransGen.head' first old)
      rcases reflTransGen_or_reaches_of_replacing back with old | toField
      · exact absurd old noOldPath
      rcases reflTransGen_or_from_dependency_of_replacing back with old | ⟨d, member, toX⟩
      · exact absurd old noOldPath
      exact ⟨d, member, toX.trans (ReflTransGen.head first toField)⟩
  · rintro ⟨d, member, path⟩
    have leave : g.Replacing n deps n d := by simp [Replacing, member]
    exact ⟨n, TransGen.head' leave (replacing_of_reaches path)⟩

theorem closesCycle_iff_createsCycle (acyclic : g.Acyclic) :
    g.closesCycle n deps = true ↔ g.CreatesCycle n deps := by
  rw [closesCycle_iff, createsCycle_iff acyclic]

end FieldCalc.DependencyGraph
