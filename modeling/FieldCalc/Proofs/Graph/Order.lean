import FieldCalc.Proofs.Graph.Invariant
import Mathlib.Data.Finset.Card

/-!
# Affected fields, unresolvable fields and the evaluation order

The walk behind `affected` goes breadth first over the dependents of a field.
It keeps the fields it has seen as the changed field followed by the fields
found, and the queue as the end of that list still to visit. Every visited
field has its dependents seen, and every field found depends on the changed
field, so when the queue runs out the fields found are exactly those that
depend on it (`mem_affected_iff`). Each step takes one field off the queue and
puts only unseen dependents on it, so the fuel `affected` gives, one more than
the number of dependent links, is never exhausted first.

`evaluationOrder` is Kahn's algorithm over the wanted fields. It gives each
wanted field a count of its wanted dependencies and lowers the count of a field
each time a field that lists it among its dependents is placed; a field is
queued when its count reaches zero. None of this needs the two relations of the
graph to agree: on any graph the count of a wanted field is its number of
wanted dependencies less the placed fields that released it, and a field has
been queued exactly when that is not positive (`Countdown`). Since every
release comes from a dependency, a field is only placed after all of its
wanted dependencies; and when every wanted dependency is listed back, an
acyclic graph gets every wanted field placed (`evaluationOrder_of_listed`), in
particular when the two relations are inverse (`evaluationOrder_topological`).
-/

namespace FieldCalc.DependencyGraph

open Relation

variable {g : DependencyGraph}

/-! ### Dependents as a relation -/

def Dependent (g : DependencyGraph) (x y : String) : Prop := y ∈ g.dependentsOf x

theorem dependent_iff (inverse : g.Inverse) {x y : String} : g.Dependent x y ↔ g.DependsOn y x :=
  inverse y x

def dependentNames (g : DependencyGraph) : Finset String := (g.dependents.flatMap (·.2)).toFinset

theorem mem_dependentNames {x y : String} (member : y ∈ g.dependentsOf x) :
    y ∈ g.dependentNames := by
  unfold dependentNames
  rw [List.mem_toFinset, List.mem_flatMap]
  unfold dependentsOf at member
  cases found : g.dependents.lookup x with
  | none => simp [found] at member
  | some ys =>
      rw [found, Option.getD_some] at member
      obtain ⟨before, after, split, -⟩ := List.lookup_eq_some_iff.mp found
      exact ⟨(x, ys), by simp [split], member⟩

theorem pairCount_eq_length_flatMap (rel : List (String × List String)) :
    pairCount rel = (rel.flatMap (·.2)).length := by
  induction rel with
  | nil => rfl
  | cons p rest inductionHypothesis => simp [inductionHypothesis]

theorem card_dependentNames_le (g : DependencyGraph) :
    g.dependentNames.card ≤ pairCount g.dependents := by
  rw [pairCount_eq_length_flatMap]
  exact List.toFinset_card_le _

/-! ### The breadth-first walk -/

/-- The state of the walk over dependents from `start`. -/
structure Walk (g : DependencyGraph) (start : String) (queue seen found : List String) :
    Prop where
  seen_eq : seen = start :: found
  nodup : seen.Nodup
  reached : ∀ x ∈ found, TransGen g.Dependent start x
  /-- The fields seen before the queue are visited: their dependents are seen. -/
  closed : ∃ visited, seen = visited ++ queue ∧
    ∀ x ∈ visited, ∀ y, g.Dependent x y → y ∈ seen

theorem walk_start (g : DependencyGraph) (start : String) : g.Walk start [start] [start] [] where
  seen_eq := rfl
  nodup := List.nodup_singleton start
  reached _ member := by simp at member
  closed := ⟨[], rfl, by simp⟩

/-- The dependents of a visited field that the walk has not seen yet. -/
def freshDependents (g : DependencyGraph) (current : String) (seen : List String) :
    List String :=
  (sortNames (g.dependentsOf current)).filter (!seen.contains ·)

theorem mem_freshDependents {current : String} {seen : List String} {y : String} :
    y ∈ g.freshDependents current seen ↔ g.Dependent current y ∧ y ∉ seen := by
  simp [freshDependents, sortNames, Dependent]

theorem nodup_freshDependents (wellFormed : g.WellFormed) (current : String)
    (seen : List String) : (g.freshDependents current seen).Nodup :=
  (List.mergeSort_perm _ _).nodup_iff.mpr (wellFormed.nodup current) |>.filter _

theorem Walk.step (wellFormed : g.WellFormed) {start current : String}
    {queue seen found : List String} (walk : g.Walk start (current :: queue) seen found) :
    g.Walk start (queue ++ g.freshDependents current seen)
      (seen ++ g.freshDependents current seen) (found ++ g.freshDependents current seen) where
  seen_eq := by rw [walk.seen_eq, List.cons_append]
  nodup := by
    refine List.nodup_append.mpr ⟨walk.nodup, nodup_freshDependents wellFormed current seen, ?_⟩
    intro a old b new same
    subst same
    exact (mem_freshDependents.mp new).2 old
  reached x member := by
    rcases List.mem_append.mp member with old | new
    · exact walk.reached x old
    · have step := (mem_freshDependents.mp new).1
      obtain ⟨visited, split, -⟩ := walk.closed
      have currentSeen : current ∈ start :: found := by
        rw [← walk.seen_eq, split]
        simp
      rcases List.mem_cons.mp currentSeen with atStart | earlier
      · exact atStart ▸ TransGen.single step
      · exact (walk.reached current earlier).tail step
  closed := by
    obtain ⟨visited, split, visitedClosed⟩ := walk.closed
    refine ⟨visited ++ [current], by simp [split], ?_⟩
    intro x member y step
    rcases List.mem_append.mp member with old | now
    · exact List.mem_append_left _ (visitedClosed x old y step)
    · rw [List.mem_singleton] at now
      subst now
      by_cases seenBefore : y ∈ seen
      · exact List.mem_append_left _ seenBefore
      · exact List.mem_append_right _ (mem_freshDependents.mpr ⟨step, seenBefore⟩)

/-- What the walk has left to do: its queue, and the dependent names it has
not seen. -/
def Walk.measure (g : DependencyGraph) (queue seen : List String) : Nat :=
  queue.length + (g.dependentNames \ seen.toFinset).card

theorem measure_step (wellFormed : g.WellFormed) (current : String) (queue seen : List String) :
    Walk.measure g (queue ++ g.freshDependents current seen) (seen ++ g.freshDependents current seen) +
      1 = Walk.measure g (current :: queue) seen := by
  unfold Walk.measure
  set fresh := g.freshDependents current seen
  have inside : fresh.toFinset ⊆ g.dependentNames \ seen.toFinset := by
    intro y member
    rw [List.mem_toFinset, mem_freshDependents] at member
    simp only [Finset.mem_sdiff, List.mem_toFinset]
    exact ⟨mem_dependentNames member.1, member.2⟩
  have shrink : g.dependentNames \ (seen ++ fresh).toFinset =
      (g.dependentNames \ seen.toFinset) \ fresh.toFinset := by
    rw [List.toFinset_append, sdiff_sdiff_left]
    rfl
  have freshCard : fresh.toFinset.card = fresh.length :=
    List.toFinset_card_of_nodup (nodup_freshDependents wellFormed current seen)
  have bound := Finset.card_le_card inside
  rw [shrink, Finset.card_sdiff_of_subset inside, freshCard]
  simp only [List.length_append, List.length_cons]
  omega

/-- The walk runs to an empty queue, and any property of its queue and seen
fields that every step keeps holds at the end. -/
theorem affectedFrom_invariant (wellFormed : g.WellFormed) {start : String}
    (P : List String → List String → Prop)
    (step : ∀ {current : String} {queue seen found : List String},
      g.Walk start (current :: queue) seen found → P (current :: queue) seen →
        P (queue ++ g.freshDependents current seen) (seen ++ g.freshDependents current seen)) :
    ∀ (fuel : Nat) (queue seen found : List String), g.Walk start queue seen found →
      P queue seen → Walk.measure g queue seen < fuel →
        ∃ seen', g.Walk start [] seen' (g.affectedFrom fuel queue seen found) ∧ P [] seen'
  | 0, _, _, _, _, _, exhausted => absurd exhausted (Nat.not_lt_zero _)
  | fuel + 1, [], seen, found, walk, holds, _ => ⟨seen, walk, holds⟩
  | fuel + 1, current :: queue, seen, found, walk, holds, enough => by
      have shrinks := measure_step wellFormed current queue seen
      exact affectedFrom_invariant wellFormed P step fuel (queue ++ g.freshDependents current seen)
        (seen ++ g.freshDependents current seen) _ (walk.step wellFormed) (step walk holds) (by omega)

theorem affectedFrom_walk (wellFormed : g.WellFormed) {start : String} (fuel : Nat)
    (queue seen found : List String) (walk : g.Walk start queue seen found)
    (enough : Walk.measure g queue seen < fuel) :
    ∃ seen', g.Walk start [] seen' (g.affectedFrom fuel queue seen found) := by
  obtain ⟨seen', finished, -⟩ :=
    affectedFrom_invariant wellFormed (fun _ _ => True) (fun _ _ => trivial) fuel queue seen found
      walk trivial enough
  exact ⟨seen', finished⟩

theorem measure_start_lt (g : DependencyGraph) (changed : String) :
    Walk.measure g [changed] [changed] < pairCount g.dependents + 2 := by
  have within : (g.dependentNames \ [changed].toFinset).card ≤ pairCount g.dependents :=
    (Finset.card_le_card Finset.sdiff_subset).trans (card_dependentNames_le g)
  unfold Walk.measure
  simp only [List.length_singleton]
  omega

theorem Walk.mem_found_iff {start : String} {seen found : List String}
    (walk : g.Walk start [] seen found) {x : String} :
    x ∈ found ↔ x ≠ start ∧ TransGen g.Dependent start x := by
  obtain ⟨visited, split, closed⟩ := walk.closed
  rw [List.append_nil] at split
  have startFresh : start ∉ found := (List.nodup_cons.mp (walk.seen_eq ▸ walk.nodup)).1
  constructor
  · intro member
    exact ⟨fun same => startFresh (same ▸ member), walk.reached x member⟩
  · rintro ⟨differs, path⟩
    have seenAll : ∀ y, ReflTransGen g.Dependent start y → y ∈ seen := by
      intro y reach
      induction reach with
      | refl => simp [walk.seen_eq]
      | tail _ step ih => exact closed _ (split ▸ ih) _ step
    have seenX := seenAll x path.to_reflTransGen
    rw [walk.seen_eq, List.mem_cons] at seenX
    exact seenX.resolve_left differs

theorem mem_affected_iff (wellFormed : g.WellFormed) {changed x : String} :
    x ∈ g.affected changed ↔ x ≠ changed ∧ TransGen g.Dependent changed x := by
  obtain ⟨seen, walk⟩ :=
    affectedFrom_walk wellFormed _ _ _ _ (walk_start g changed) (measure_start_lt g changed)
  exact walk.mem_found_iff

theorem mem_foldl_affected {x : String} :
    ∀ (names acc : List String), x ∈ names.foldl (fun acc n => (g.affected n).foldl insertName acc) acc ↔
      x ∈ acc ∨ ∃ n ∈ names, x ∈ g.affected n
  | [], acc => by simp
  | n :: names, acc => by
      rw [List.foldl_cons, mem_foldl_affected names, mem_foldl_insertName]
      simp only [List.mem_cons, exists_eq_or_imp]
      exact or_assoc

theorem mem_unresolvable_iff (wellFormed : g.WellFormed) {x : String} :
    x ∈ g.unresolvable ↔ ∃ c ∈ g.cyclic, ReflTransGen g.Dependent c x := by
  rw [unresolvable, mem_foldl_affected]
  constructor
  · rintro (cyclic | ⟨c, cyclic, affected⟩)
    · exact ⟨x, cyclic, ReflTransGen.refl⟩
    · exact ⟨c, cyclic, ((mem_affected_iff wellFormed).mp affected).2.to_reflTransGen⟩
  · rintro ⟨c, cyclic, reach⟩
    by_cases same : x = c
    · exact Or.inl (same ▸ cyclic)
    · have path := (reflTransGen_iff_eq_or_transGen.mp reach).resolve_left same
      exact Or.inr ⟨c, cyclic, (mem_affected_iff wellFormed).mpr ⟨same, path⟩⟩

/-! ### Kahn's algorithm -/

/-- What placing `name` does to one wanted field: if it depends on `name`, it
has one dependency fewer to wait for, and it is ready when none is left. -/
def release (g : DependencyGraph) (name : String) :
    List (String × Int) × List String → String → List (String × Int) × List String
  | (degree, ready), dependent =>
    if (g.dependentsOf name).contains dependent && dependent != name then
      let d := ((degree.lookup dependent).getD 0) - 1
      (degree.map (fun p => if p.1 == dependent then (p.1, d) else p),
        if d == 0 then ready ++ [dependent] else ready)
    else (degree, ready)

theorem orderFrom_cons (ordered : List String) (fuel : Nat) (name : String)
    (queue : List String) (degree : List (String × Int)) (result : List String) :
    g.orderFrom ordered (fuel + 1) (name :: queue) degree result =
      g.orderFrom ordered fuel (queue ++ (ordered.foldl (g.release name) (degree, [])).2)
        (ordered.foldl (g.release name) (degree, [])).1 (result ++ [name]) := rfl

/-- Kahn's loop runs until its queue is empty, and any property of its state
that every placing step keeps holds at the end. -/
theorem orderFrom_invariant {wanted : List String}
    (P : List String → List (String × Int) → List String → Prop)
    (step : ∀ {name : String} {queue : List String} {degree : List (String × Int)}
      {result : List String}, P (name :: queue) degree result →
        P (queue ++ (wanted.foldl (g.release name) (degree, [])).2)
          (wanted.foldl (g.release name) (degree, [])).1 (result ++ [name]))
    (bound : ∀ {queue : List String} {degree : List (String × Int)} {result : List String},
      P queue degree result → (result ++ queue).length ≤ wanted.length) :
    ∀ (fuel : Nat) (queue : List String) (degree : List (String × Int)) (result : List String),
      P queue degree result → wanted.length < fuel + result.length →
        ∃ degree', P [] degree' (g.orderFrom wanted fuel queue degree result)
  | 0, _, _, _, holds, enough => by
      have within := bound holds
      simp only [List.length_append] at within
      omega
  | fuel + 1, [], degree, _, holds, _ => ⟨degree, holds⟩
  | fuel + 1, name :: queue, degree, result, holds, enough => by
      rw [orderFrom_cons]
      refine orderFrom_invariant P step bound fuel _ _ _ (step holds) ?_
      simp only [List.length_append, List.length_singleton]
      omega

def Releases (g : DependencyGraph) (name y : String) : Prop := y ∈ g.dependentsOf name ∧ y ≠ name

instance (name y : String) : Decidable (g.Releases name y) :=
  inferInstanceAs (Decidable (_ ∧ _))

theorem releases_iff {name y : String} :
    ((g.dependentsOf name).contains y && y != name) = true ↔ g.Releases name y := by
  simp [Releases]

theorem release_of_not_releases {name z : String} (released : ¬ g.Releases name z)
    (degree : List (String × Int)) (ready : List String) :
    g.release name (degree, ready) z = (degree, ready) := by
  have miss : ((g.dependentsOf name).contains z && z != name) = false :=
    Bool.eq_false_iff.mpr fun hit => released (releases_iff.mp hit)
  simp only [release, miss, Bool.false_eq_true, if_false]

theorem release_fst (name : String) (degree : List (String × Int)) (ready : List String)
    (z y : String) :
    ((g.release name (degree, ready) z).1.lookup y) =
      (degree.lookup y).map fun k => if y = z ∧ g.Releases name z then k - 1 else k := by
  by_cases released : g.Releases name z
  · simp only [release, releases_iff.mpr released, if_true]
    rw [lookup_map_update degree z y (fun _ => (degree.lookup z).getD 0 - 1)]
    by_cases same : y = z
    · subst same
      cases degree.lookup y <;> simp [released]
    · simp [same]
  · rw [release_of_not_releases released]
    simp [released]

theorem release_snd (name : String) (degree : List (String × Int)) (ready : List String)
    (z : String) :
    (g.release name (degree, ready) z).2 =
      ready ++ if g.Releases name z ∧ (degree.lookup z).getD 0 - 1 = 0 then [z] else [] := by
  by_cases released : g.Releases name z
  · simp only [release, releases_iff.mpr released, if_true]
    by_cases zero : (degree.lookup z).getD 0 - 1 = 0 <;> simp [released, zero]
  · rw [release_of_not_releases released]
    simp [released]

theorem lookup_foldl_release (name y : String) :
    ∀ (wanted : List String) (degree : List (String × Int)) (ready : List String), wanted.Nodup →
      (wanted.foldl (g.release name) (degree, ready)).1.lookup y =
        (degree.lookup y).map fun k => if y ∈ wanted ∧ g.Releases name y then k - 1 else k
  | [], degree, ready, _ => by simp
  | z :: wanted, degree, ready, unique => by
      obtain ⟨zFresh, unique⟩ := List.nodup_cons.mp unique
      have first := g.release_fst name degree ready z y
      rcases step : g.release name (degree, ready) z with ⟨degree₁, ready₁⟩
      rw [step] at first
      rw [List.foldl_cons, step, lookup_foldl_release name y wanted _ _ unique, first]
      cases degree.lookup y with
      | none => rfl
      | some k =>
          by_cases same : y = z
          · subst same
            simp [zFresh]
          · simp [same]

theorem ready_foldl_release (name : String) :
    ∀ (wanted : List String) (degree : List (String × Int)) (ready : List String), wanted.Nodup →
      (wanted.foldl (g.release name) (degree, ready)).2 =
        ready ++ wanted.filter fun y => g.Releases name y ∧ (degree.lookup y).getD 0 - 1 = 0
  | [], degree, ready, _ => by simp
  | z :: wanted, degree, ready, unique => by
      obtain ⟨zFresh, unique⟩ := List.nodup_cons.mp unique
      have untouched : ∀ y ∈ wanted,
          ((g.release name (degree, ready) z).1.lookup y).getD 0 = (degree.lookup y).getD 0 := by
        intro y member
        have differs : y ≠ z := fun same => zFresh (same ▸ member)
        rw [release_fst]
        cases degree.lookup y <;> simp [differs]
      have first := g.release_snd name degree ready z
      rcases step : g.release name (degree, ready) z with ⟨degree₁, ready₁⟩
      rw [step] at first untouched
      dsimp only at first
      rw [List.foldl_cons, step, ready_foldl_release name wanted _ _ unique, first]
      rw [List.filter_congr fun y member => by rw [untouched y member], List.filter_cons]
      split <;> simp_all

def need (g : DependencyGraph) (wanted : List String) (x : String) : List String :=
  (g.dependenciesOf x).filter fun d => d ∈ wanted ∧ d ≠ x

theorem closed_snoc {wanted result : List String} {name : String}
    (before : ∀ pre x post, result = pre ++ x :: post → ∀ d ∈ g.need wanted x, d ∈ pre)
    (placed : ∀ d ∈ g.need wanted name, d ∈ result) :
    ∀ pre x post, result ++ [name] = pre ++ x :: post → ∀ d ∈ g.need wanted x, d ∈ pre := by
  intro pre x post split d needed
  rcases List.eq_nil_or_concat post with rfl | ⟨post', last, rfl⟩
  · obtain ⟨rfl, same⟩ := List.append_inj' split rfl
    rw [List.singleton_inj] at same
    exact placed d (same ▸ needed)
  · rw [List.concat_eq_append, ← List.cons_append, ← List.append_assoc] at split
    obtain ⟨earlier, -⟩ := List.append_inj' split rfl
    exact before pre x post' earlier d needed

/-- In an acyclic graph every nonempty list of fields has one that depends on
no field of the list. -/
theorem Acyclic.exists_sink (acyclic : g.Acyclic) (fields : List String) (nonempty : fields ≠ []) :
    ∃ x ∈ fields, ∀ y ∈ fields, ¬ TransGen g.DependsOn x y := by
  classical
  induction size : fields.length using Nat.strong_induction_on generalizing fields with
  | _ count inductionHypothesis =>
  obtain ⟨a, rest, rfl⟩ := List.exists_cons_of_ne_nil nonempty
  by_cases path : ∃ b ∈ a :: rest, TransGen g.DependsOn a b
  · obtain ⟨b, bMember, reach⟩ := path
    set later := (a :: rest).filter fun y => TransGen g.DependsOn a y
    have shorter : later.length < count := by
      rw [← size]
      exact List.length_filter_lt_length_iff_exists.mpr ⟨a, List.mem_cons_self, by simpa using acyclic a⟩
    have nonemptyLater : later ≠ [] :=
      List.ne_nil_of_mem (List.mem_filter.mpr ⟨bMember, by simpa using reach⟩)
    obtain ⟨x, xLater, xSink⟩ := inductionHypothesis _ shorter later nonemptyLater rfl
    have fromA : TransGen g.DependsOn a x := by simpa using (List.mem_filter.mp xLater).2
    refine ⟨x, (List.mem_filter.mp xLater).1, fun y yMember step => xSink y ?_ step⟩
    exact List.mem_filter.mpr ⟨yMember, by simpa using fromA.trans step⟩
  · exact ⟨a, List.mem_cons_self, fun y member reach => path ⟨y, member, reach⟩⟩

theorem Acyclic.all_placed (acyclic : g.Acyclic) {wanted result : List String}
    (waits : ∀ y ∈ wanted, y ∉ result → ∃ d ∈ g.need wanted y, d ∉ result) :
    ∀ x ∈ wanted, x ∈ result := by
  intro x xWanted
  by_contra xMissing
  have nonempty : wanted.filter (· ∉ result) ≠ [] :=
    List.ne_nil_of_mem (List.mem_filter.mpr ⟨xWanted, by simpa⟩)
  obtain ⟨y, yUnplaced, ySink⟩ := acyclic.exists_sink _ nonempty
  obtain ⟨yWanted, yMissing⟩ := List.mem_filter.mp yUnplaced
  obtain ⟨d, dNeeded, dUnplaced⟩ := waits y yWanted (of_decide_eq_true yMissing)
  obtain ⟨dependency, dWanted, -⟩ := by simpa [need] using dNeeded
  exact ySink d (List.mem_filter.mpr ⟨dWanted, by simpa using dUnplaced⟩) (TransGen.single dependency)

theorem lookup_map_pair {β : Type} (keys : List String) (f : String → β) (x : String) :
    (keys.map fun n => (n, f n)).lookup x = if x ∈ keys then some (f x) else none := by
  induction keys with
  | nil => rfl
  | cons k rest inductionHypothesis =>
      by_cases same : x = k
      · subst same
        simp
      · have differs : (x == k) = false := beq_false_of_ne same
        rw [List.map_cons, List.lookup_cons, differs, inductionHypothesis]
        simp [same]

/-- `order` lists each of `names` once, every one after the fields of `names`
it depends on. -/
structure TopologicalOrder (g : DependencyGraph) (names order : List String) : Prop where
  nodup : order.Nodup
  mem_iff : ∀ x, x ∈ order ↔ x ∈ names
  before : ∀ pre x post, order = pre ++ x :: post → ∀ d ∈ g.dependenciesOf x, d ∈ names → d ∈ pre

/-- The count each wanted field starts with: its wanted dependencies other
than itself. -/
def startDegree (g : DependencyGraph) (wanted : List String) : List (String × Int) :=
  wanted.map fun n =>
    (n, (((g.dependenciesOf n).filter fun d => wanted.contains d && d != n).length : Int))

theorem lookup_startDegree {wanted : List String} {x : String} (member : x ∈ wanted) :
    (g.startDegree wanted).lookup x = some ((g.need wanted x).length : Int) := by
  have needEq : (g.dependenciesOf x).filter (fun d => wanted.contains d && d != x) =
      g.need wanted x := List.filter_congr fun d _ => by
    by_cases same : d = x <;> simp [same]
  simp only [startDegree, lookup_map_pair, member, if_true, needEq]

/-! ### Counting down on any graph -/

/-- The placed fields whose placing lowered the count of `x`: those that list
`x` among their dependents. -/
def released (g : DependencyGraph) (x : String) (placed : List String) : List String :=
  placed.filter fun n => g.Releases n x

theorem length_released_snoc (x name : String) (placed : List String) :
    (g.released x (placed ++ [name])).length =
      (g.released x placed).length + if g.Releases name x then 1 else 0 := by
  by_cases releases : g.Releases name x <;> simp [released, List.filter_append, releases]

/-- Fewer fields have released `x` than it waits for while one of its wanted
dependencies has not released it. -/
theorem length_released_lt (wellFormed : g.WellFormed) {wanted result : List String}
    (unique : result.Nodup) (subset : ∀ n ∈ result, n ∈ wanted) {x d : String}
    (needed : d ∈ g.need wanted x) (missing : ¬ (d ∈ result ∧ g.Releases d x)) :
    (g.released x result).length < (g.need wanted x).length := by
  -- every field that released `x` is a placed wanted dependency of `x`
  have within : (g.released x result).Subperm
      ((g.need wanted x).filter fun n => n ∈ result ∧ g.Releases n x) := by
    refine (unique.filter _).subperm fun n member => ?_
    obtain ⟨placed, releases⟩ := List.mem_filter.mp member
    have releases := of_decide_eq_true releases
    refine List.mem_filter.mpr ⟨?_, decide_eq_true ⟨placed, releases⟩⟩
    refine List.mem_filter.mpr ⟨wellFormed.backed x n releases.1, ?_⟩
    exact decide_eq_true ⟨subset n placed, Ne.symm releases.2⟩
  calc (g.released x result).length
      ≤ ((g.need wanted x).filter fun n => n ∈ result ∧ g.Releases n x).length := within.length_le
    _ < (g.need wanted x).length :=
        List.length_filter_lt_length_iff_exists.mpr ⟨d, needed, by simpa using missing⟩

theorem length_need_le_released {wanted result : List String} {x : String}
    (unique : (g.need wanted x).Nodup)
    (counted : ∀ d ∈ g.need wanted x, d ∈ result ∧ g.Releases d x) :
    (g.need wanted x).length ≤ (g.released x result).length := by
  refine (unique.subperm fun d needed => ?_).length_le
  exact List.mem_filter.mpr ⟨(counted d needed).1, decide_eq_true (counted d needed).2⟩

/-- The state of Kahn's algorithm over the fields `wanted`, on any graph. -/
structure Countdown (g : DependencyGraph) (wanted queue : List String)
    (degree : List (String × Int)) (result : List String) : Prop where
  nodup : (result ++ queue).Nodup
  subset : ∀ x ∈ result ++ queue, x ∈ wanted
  degree_eq : ∀ x ∈ wanted,
    degree.lookup x = some ((g.need wanted x).length - (g.released x result).length : Int)
  queued : ∀ x ∈ wanted,
    x ∈ result ++ queue ↔ (g.need wanted x).length ≤ (g.released x result).length
  before : ∀ pre x post, result = pre ++ x :: post → ∀ d ∈ g.need wanted x, d ∈ pre

section Countdown

variable {wanted : List String} (wellFormed : g.WellFormed) (uniqueWanted : wanted.Nodup)

theorem Countdown.length_le {queue result : List String} {degree : List (String × Int)}
    (countdown : g.Countdown wanted queue degree result) :
    (result ++ queue).length ≤ wanted.length :=
  (countdown.nodup.subperm countdown.subset).length_le

include uniqueWanted in
/-- The fields a step queues are those it releases with one wanted dependency
left to wait for. -/
theorem Countdown.mem_ready {name : String} {queue result : List String}
    {degree : List (String × Int)} (countdown : g.Countdown wanted queue degree result)
    (y : String) :
    y ∈ (wanted.foldl (g.release name) (degree, [])).2 ↔
      y ∈ wanted ∧ g.Releases name y ∧
        (g.need wanted y).length = (g.released y result).length + 1 := by
  rw [ready_foldl_release name wanted degree [] uniqueWanted, List.nil_append]
  simp only [List.mem_filter, decide_eq_true_eq]
  constructor
  · rintro ⟨member, releases, last⟩
    rw [countdown.degree_eq y member, Option.getD_some] at last
    exact ⟨member, releases, by omega⟩
  · rintro ⟨member, releases, last⟩
    rw [countdown.degree_eq y member, Option.getD_some]
    exact ⟨member, releases, by omega⟩

include wellFormed uniqueWanted in
theorem Countdown.step {name : String} {queue result : List String}
    {degree : List (String × Int)} (countdown : g.Countdown wanted (name :: queue) degree result) :
    g.Countdown wanted (queue ++ (wanted.foldl (g.release name) (degree, [])).2)
      (wanted.foldl (g.release name) (degree, [])).1 (result ++ [name]) := by
  have wantedName : name ∈ wanted := countdown.subset name (by simp)
  set ready := (wanted.foldl (g.release name) (degree, [])).2 with readyEq
  have memReady : ∀ y, y ∈ ready ↔ y ∈ wanted ∧ g.Releases name y ∧
      (g.need wanted y).length = (g.released y result).length + 1 :=
    countdown.mem_ready uniqueWanted
  have readyNew : ∀ y ∈ ready, y ∉ result ++ name :: queue := by
    intro y member old
    obtain ⟨yWanted, -, last⟩ := (memReady y).mp member
    have counted := (countdown.queued y yWanted).mp old
    omega
  have regroup : result ++ [name] ++ (queue ++ ready) = (result ++ name :: queue) ++ ready := by
    simp
  refine ⟨?nodup, ?subset, ?degree, ?queued, ?before⟩
  case nodup =>
    rw [regroup]
    refine List.nodup_append.mpr ⟨countdown.nodup, ?_, ?_⟩
    · rw [readyEq, ready_foldl_release name wanted degree [] uniqueWanted, List.nil_append]
      exact uniqueWanted.filter _
    · rintro a old b member rfl
      exact readyNew a member old
  case subset =>
    intro x member
    rw [regroup, List.mem_append] at member
    rcases member with old | new
    · exact countdown.subset x old
    · exact ((memReady x).mp new).1
  case degree =>
    intro x member
    rw [lookup_foldl_release name x wanted degree [] uniqueWanted, countdown.degree_eq x member,
      Option.map_some, length_released_snoc]
    by_cases releases : g.Releases name x
    · simp only [member, releases, and_self, if_true, Option.some.injEq]
      omega
    · simp [releases]
  case queued =>
    intro x member
    rw [regroup, List.mem_append, length_released_snoc]
    by_cases old : x ∈ result ++ name :: queue
    · have counted := (countdown.queued x member).mp old
      simp only [old, true_or, true_iff]
      split <;> omega
    · have waiting : (g.released x result).length < (g.need wanted x).length := by
        by_contra enough
        exact old ((countdown.queued x member).mpr (by omega))
      rw [memReady]
      by_cases releases : g.Releases name x
      · simp only [old, false_or, member, releases, true_and, if_true]
        omega
      · simp only [old, false_or, member, releases, true_and, false_and, if_false, false_iff]
        omega
  case before =>
    apply closed_snoc countdown.before
    intro d needed
    have counted := (countdown.queued name wantedName).mp (by simp)
    by_contra unplaced
    have unique := (List.nodup_append.mp countdown.nodup).1
    have subset : ∀ n ∈ result, n ∈ wanted := fun n placed => countdown.subset n (by simp [placed])
    have fewer := length_released_lt wellFormed unique subset needed fun ⟨placed, _⟩ => unplaced placed
    omega

theorem countdown_start (names : List String) :
    let wanted := names.foldl insertName []
    g.Countdown wanted (wanted.filter fun n => ((g.startDegree wanted).lookup n) == some 0)
      (g.startDegree wanted) [] := by
  intro wanted
  have releasedNil : ∀ x, g.released x [] = [] := fun _ => rfl
  refine ⟨(nodup_foldl_insertName names List.nodup_nil).filter _, ?_, ?_, ?_, ?_⟩
  · intro x member
    rw [List.nil_append, List.mem_filter] at member
    exact member.1
  · intro x member
    rw [lookup_startDegree member, releasedNil]
    simp
  · intro x member
    rw [List.nil_append, List.mem_filter, lookup_startDegree member, releasedNil]
    simp [member]
  · intro pre x post split
    exact absurd split.symm (by simp)

end Countdown

/-! ### What the evaluation order is -/

/-- The fields Kahn's algorithm places for `names`, before the check that all
of them were. -/
def kahnResult (g : DependencyGraph) (names : List String) : List String :=
  let wanted := names.foldl insertName []
  g.orderFrom wanted (wanted.length + 1)
    (wanted.filter fun n => ((g.startDegree wanted).lookup n) == some 0) (g.startDegree wanted) []

theorem evaluationOrder_eq (g : DependencyGraph) (names : List String) :
    g.evaluationOrder names = if (g.kahnResult names).length = (names.foldl insertName []).length
      then g.kahnResult names else [] := by
  unfold evaluationOrder kahnResult startDegree
  simp only [beq_iff_eq]

theorem kahnResult_countdown (wellFormed : g.WellFormed) (names : List String) :
    ∃ degree, g.Countdown (names.foldl insertName []) [] degree (g.kahnResult names) := by
  have uniqueWanted := nodup_foldl_insertName names List.nodup_nil
  refine orderFrom_invariant (g.Countdown (names.foldl insertName []))
    (fun countdown => countdown.step wellFormed uniqueWanted) (fun countdown => countdown.length_le)
    _ _ _ _ (countdown_start names) ?_
  simp

/-- Some field asked for depends on another field asked for that does not list
it among its dependents. -/
def Unlisted (g : DependencyGraph) (names : List String) : Prop :=
  ∃ x ∈ names, ∃ d ∈ names, d ≠ x ∧ d ∈ g.dependenciesOf x ∧ x ∉ g.dependentsOf d

theorem mem_need_iff {names : List String} {x d : String} :
    d ∈ g.need (names.foldl insertName []) x ↔ d ∈ g.dependenciesOf x ∧ d ∈ names ∧ d ≠ x := by
  simp [need, mem_foldl_insertName]

/-- Without unlisted dependencies, the run on an acyclic graph places every
wanted field: a field left out waits for a wanted dependency that is left out
too, which no acyclic graph allows. -/
theorem kahnResult_complete (wellFormed : g.WellFormed)
    (uniqueDependencies : ∀ x, (g.dependenciesOf x).Nodup) {names : List String}
    (listed : ¬ g.Unlisted names) : ∀ x ∈ names.foldl insertName [], x ∈ g.kahnResult names := by
  obtain ⟨degree, countdown⟩ := kahnResult_countdown wellFormed names
  refine wellFormed.acyclic.all_placed fun y yWanted yMissing => ?_
  by_contra unplacedDependency
  have allPlaced : ∀ d ∈ g.need (names.foldl insertName []) y, d ∈ g.kahnResult names :=
    fun d needed => by
      by_contra unplaced
      exact unplacedDependency ⟨d, needed, unplaced⟩
  have counted : ∀ d ∈ g.need (names.foldl insertName []) y, d ∈ g.kahnResult names ∧
      g.Releases d y := by
    intro d needed
    obtain ⟨dependency, dNamed, differs⟩ := mem_need_iff.mp needed
    refine ⟨allPlaced d needed, ?_, Ne.symm differs⟩
    by_contra notListed
    exact listed ⟨y, by simpa [mem_foldl_insertName] using yWanted, d, dNamed, differs, dependency,
      notListed⟩
  have enough := length_need_le_released ((uniqueDependencies y).filter _) counted
  exact yMissing (by simpa using (countdown.queued y yWanted).mpr enough)

/-- Without unlisted dependencies, an acyclic graph places every wanted field,
each after its wanted dependencies. -/
theorem evaluationOrder_of_listed (wellFormed : g.WellFormed)
    (uniqueDependencies : ∀ x, (g.dependenciesOf x).Nodup) {names : List String}
    (listed : ¬ g.Unlisted names) : g.TopologicalOrder names (g.evaluationOrder names) := by
  obtain ⟨degree, countdown⟩ := kahnResult_countdown wellFormed names
  have unique := countdown.nodup
  rw [List.append_nil] at unique
  have memWanted : ∀ x, x ∈ names.foldl insertName [] ↔ x ∈ names := fun x => by
    simp [mem_foldl_insertName]
  have complete := kahnResult_complete wellFormed uniqueDependencies listed
  have sameLength : (g.kahnResult names).length = (names.foldl insertName []).length :=
    le_antisymm (by simpa using countdown.length_le)
      ((nodup_foldl_insertName names List.nodup_nil).subperm complete).length_le
  rw [evaluationOrder_eq, if_pos sameLength]
  refine ⟨unique, fun x => ?_, ?_⟩
  · rw [← memWanted]
    exact ⟨fun placed => countdown.subset x (by simpa using placed), complete x⟩
  · intro pre x post split d dependency named
    have differs : d ≠ x := by
      rintro rfl
      exact wellFormed.acyclic d (TransGen.single dependency)
    exact countdown.before pre x post split d (mem_need_iff.mpr ⟨dependency, named, differs⟩)

theorem Inverse.not_unlisted (inverse : g.Inverse) (names : List String) : ¬ g.Unlisted names := by
  rintro ⟨x, -, d, -, -, dependency, notListed⟩
  exact notListed ((inverse x d).mpr dependency)

theorem evaluationOrder_topological (wellFormed : g.WellFormed) (inverse : g.Inverse)
    (uniqueDependencies : ∀ x, (g.dependenciesOf x).Nodup) (names : List String) :
    g.TopologicalOrder names (g.evaluationOrder names) :=
  evaluationOrder_of_listed wellFormed uniqueDependencies (inverse.not_unlisted names)

end FieldCalc.DependencyGraph
