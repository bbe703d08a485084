import FieldCalc.Proofs.Derive.Semantics

/-!
# The state of a derivation

`deriveValues` runs in `ExceptT Fault Logged`; what it returns is the value of
that run, which is the same computation in `Except Fault` with the records
dropped. Its state keeps three association lists by task id (the values read,
the values derived, the failures), each changed through `setEntry`.

`Reflects` says what the state holds once some computed fields have been
recorded for a task: the task's entries, the values derived so far keyed by
field id in recording order, every recorded field with the stored form of an
outcome the semantics gives it, and every other field of the catalog as the
index stores it.
-/

namespace FieldCalc.Service

open Formula

/-! ### Runs without their records -/

section Run

variable {α β : Type}

@[simp]
theorem run_value_pure (a : α) : (pure a : ExceptT Fault Logged α).run.value = .ok a := rfl

@[simp]
theorem run_value_bind (x : ExceptT Fault Logged α) (f : α → ExceptT Fault Logged β) :
    (x >>= f).run.value = x.run.value >>= fun a => (f a).run.value := by
  change (ExceptT.bindCont f x.run.value).value = x.run.value >>= fun a => (f a).run.value
  generalize x.run.value = outcome
  cases outcome <;> rfl

@[simp]
theorem run_value_mk (x : Logged (Except Fault α)) : (ExceptT.mk x).run.value = x.value := rfl

@[simp]
theorem run_value_lift (x : Logged α) : (liftM x : ExceptT Fault Logged α).run.value = .ok x.value := rfl

theorem run_value_foldlM {γ : Type} (step : β → γ → ExceptT Fault Logged β) :
    ∀ (l : List γ) (init : β),
      (l.foldlM step init).run.value = l.foldlM (fun b a => (step b a).run.value) init
  | [], _ => rfl
  | a :: l, init => by
      rw [List.foldlM_cons, List.foldlM_cons, run_value_bind]
      congr 1
      funext b
      exact run_value_foldlM step l b

theorem bind_eq_ok {x : Except Fault α} {f : α → Except Fault β} {b : β} (run : x >>= f = .ok b) :
    ∃ a, x = .ok a ∧ f a = .ok b := by
  cases x with
  | error e => cases run
  | ok a => exact ⟨a, rfl, run⟩

/-- What every step of a run keeps, the run keeps: the invariant is indexed by
the part of the list already folded. -/
theorem foldlM_invariant {γ : Type} {step : β → γ → Except Fault β} (full : List γ)
    (Inv : List γ → β → Prop)
    (preserve : ∀ pre a post b b', pre ++ a :: post = full → Inv pre b → step b a = .ok b' →
      Inv (pre ++ [a]) b') :
    ∀ (pre post : List γ) (b b' : β), pre ++ post = full → Inv pre b →
      post.foldlM step b = .ok b' → Inv full b'
  | pre, [], b, b', split, holds, run => by
      rw [List.append_nil] at split
      cases run
      exact split ▸ holds
  | pre, a :: post, b, b', split, holds, run => by
      rw [List.foldlM_cons] at run
      obtain ⟨b₁, first, rest⟩ := bind_eq_ok run
      exact foldlM_invariant full Inv preserve (pre ++ [a]) post b₁ b' (by simp [split])
        (preserve pre a post b b₁ split holds first) rest

end Run

/-! ### Association lists set by key -/

section Entries

variable {κ α : Type} [BEq κ] [LawfulBEq κ]

theorem lookup_setEntry [DecidableEq κ] (xs : List (κ × α)) (k : κ) (a : α) (k' : κ) :
    (setEntry xs k a).lookup k' = if k' = k then some a else xs.lookup k' := by
  unfold setEntry
  split
  · rename_i present
    rw [DependencyGraph.lookup_map_update xs k k' fun _ => a]
    by_cases same : k' = k
    · subst same
      obtain ⟨v, found⟩ := Option.isSome_iff_exists.mp present
      simp [found]
    · simp [same]
  · rename_i absent
    rw [List.lookup_append]
    by_cases same : k' = k
    · subst same
      simp only [Bool.not_eq_true, Option.isSome_eq_false_iff, Option.isNone_iff_eq_none] at absent
      simp [absent]
    · cases xs.lookup k' <;> simp [same]

theorem isSome_lookup_iff (xs : List (κ × α)) (k : κ) :
    (xs.lookup k).isSome ↔ k ∈ xs.map Prod.fst := by
  simp only [List.lookup_isSome_iff, beq_iff_eq, List.mem_map]
  constructor
  · rintro ⟨p, member, rfl⟩
    exact ⟨p, member, rfl⟩
  · rintro ⟨p, member, rfl⟩
    exact ⟨p, member, rfl⟩

theorem keys_setEntry (xs : List (κ × α)) (k : κ) (a : α) :
    (setEntry xs k a).map Prod.fst =
      if k ∈ xs.map Prod.fst then xs.map Prod.fst else xs.map Prod.fst ++ [k] := by
  unfold setEntry
  split
  · rename_i found
    rw [if_pos ((isSome_lookup_iff xs k).mp found), List.map_map]
    exact List.map_congr_left fun p _ => by
      simp only [Function.comp_apply]
      split <;> rfl
  · rename_i missing
    rw [if_neg fun member => missing ((isSome_lookup_iff xs k).mpr member)]
    simp

theorem setEntry_keys_of_mem {xs : List (κ × α)} {k : κ} (member : k ∈ xs.map Prod.fst) (a : α) :
    (setEntry xs k a).map Prod.fst = xs.map Prod.fst := by
  rw [keys_setEntry, if_pos member]

end Entries

/-! ### Recording an outcome -/

/-- The failure an outcome records, if it is one. -/
def failedOf : Outcome → Option (ErrorCode × String)
  | .failure code message => some (code, message)
  | .success _ => none

/-- The failures of a task once the outcome of field `name` is recorded. -/
def noteFailure (failures : Failures) (name : String) : Outcome → Failures
  | .failure code message => setEntry failures name (code, message)
  | .success _ => failures

theorem lookup_noteFailure (failures : Failures) (name : String) (o : Outcome) (m : String) :
    (noteFailure failures name o).lookup m =
      if m = name then (failedOf o).or (failures.lookup m) else failures.lookup m := by
  cases o with
  | failure code message => simp [noteFailure, failedOf, lookup_setEntry]
  | success v => simp [noteFailure, failedOf]

/-- The failures by task once the outcome of field `name` on task `t` is recorded. -/
def failuresAfter (failures : List (Ident × Failures)) (t : Ident) (name : String) :
    Outcome → List (Ident × Failures)
  | .failure code message => setEntry failures t (setEntry ((failures.lookup t).getD []) name (code, message))
  | .success _ => failures

theorem record_ok {d d' : Derivation} {f : FieldDefinition} {t : Ident} {o : Outcome}
    (recorded : d.record f t o = .ok d') :
    ∃ v, storedOutcome f t o = .ok v ∧
      d'.working = setEntry d.working t (setEntry ((d.working.lookup t).getD []) f.id v) ∧
      d'.derived = setEntry d.derived t (setEntry ((d.derived.lookup t).getD []) f.id v) ∧
      d'.failures = failuresAfter d.failures t f.name o := by
  unfold Derivation.record at recorded
  obtain ⟨v, stored, built⟩ := bind_eq_ok recorded
  cases built
  refine ⟨v, stored, rfl, rfl, ?_⟩
  cases o <;> rfl

theorem lookup_failuresAfter (failures : List (Ident × Failures)) (t : Ident) (name : String)
    (o : Outcome) {current : Failures} (found : failures.lookup t = some current) (u : Ident) :
    (failuresAfter failures t name o).lookup u =
      if u = t then some (noteFailure current name o) else failures.lookup u := by
  cases o with
  | failure code message => simp [failuresAfter, noteFailure, lookup_setEntry, found]
  | success v =>
      by_cases same : u = t
      · simp [failuresAfter, noteFailure, same, found]
      · simp [failuresAfter, same]

/-- What the entries of one task hold once the fields `done` are recorded for it. -/
structure Entry (s : Service) (tasks : List TaskSnapshot) (index : ValuesIndex) (now : Int)
    (task : TaskSnapshot) (done : List FieldDefinition) (working derived : TaskValues)
    (failures : Failures) : Prop where
  keys : derived.map Prod.fst = done.map (·.id)
  pending : ∀ g ∈ s.catalog, g ∉ done →
    working.lookup g.id = index.get? task.id g.id ∧ failures.lookup g.name = none
  recorded : ∀ g ∈ done, ∃ o v, s.Derives tasks index now task g o ∧
    storedOutcome g task.id o = .ok v ∧ working.lookup g.id = some v ∧
      derived.lookup g.id = some v ∧ failures.lookup g.name = failedOf o

/-- The state holds the entries of `task` with the fields `done` recorded. -/
def TaskReflects (s : Service) (tasks : List TaskSnapshot) (index : ValuesIndex) (now : Int)
    (d : Derivation) (task : TaskSnapshot) (done : List FieldDefinition) : Prop :=
  ∃ working derived failures, d.working.lookup task.id = some working ∧
    d.derived.lookup task.id = some derived ∧ d.failures.lookup task.id = some failures ∧
      Entry s tasks index now task done working derived failures

/-- The state holds one entry of derived values per task, and the entries of
each task `u` with the fields `doneAt u` recorded. -/
def Reflects (s : Service) (tasks : List TaskSnapshot) (index : ValuesIndex) (now : Int)
    (d : Derivation) (doneAt : TaskSnapshot → List FieldDefinition) : Prop :=
  d.derived.map Prod.fst = tasks.map (·.id) ∧ ∀ u ∈ tasks, TaskReflects s tasks index now d u (doneAt u)

variable {s : Service} {tasks : List TaskSnapshot} {index : ValuesIndex} {now : Int}

theorem Derives.mem_catalog {task : TaskSnapshot} {f : FieldDefinition} {o : Outcome}
    (derives : s.Derives tasks index now task f o) : f ∈ s.catalog := by
  cases derives with
  | circular member => exact member
  | formula _ member => exact member
  | rollup _ _ member => exact member

theorem Derives.computed {task : TaskSnapshot} {f : FieldDefinition} {o : Outcome}
    (derives : s.Derives tasks index now task f o) : f.type.isComputed := by
  cases derives with
  | circular _ computed => exact computed
  | formula _ _ formula => rw [formula]; rfl
  | rollup _ _ _ rollup => rw [rollup]; rfl

section Entry

variable {task : TaskSnapshot} {done : List FieldDefinition} {working derived : TaskValues}
  {failures : Failures}

theorem Entry.recorded_of_derives (entry : Entry s tasks index now task done working derived failures)
    {g : FieldDefinition} (recorded : g ∈ done) {o : Outcome}
    (derives : s.Derives tasks index now task g o) :
    ∃ v, storedOutcome g task.id o = .ok v ∧ working.lookup g.id = some v ∧
      derived.lookup g.id = some v ∧ failures.lookup g.name = failedOf o := by
  obtain ⟨o', v, derives', stored, inWorking, inDerived, inFailures⟩ := entry.recorded g recorded
  obtain rfl := derives.unique derives'
  exact ⟨v, stored, inWorking, inDerived, inFailures⟩

theorem Entry.heldValue_eq_read (entry : Entry s tasks index now task done working derived failures)
    {g : FieldDefinition} (member : g ∈ s.catalog) {o : Outcome}
    (covered : g.type.isComputed → g ∈ done ∧ s.Derives tasks index now task g o) :
    heldValue index task.id g o = g.type.read (working.lookup g.id) := by
  unfold heldValue
  by_cases computed : g.type.isComputed
  · obtain ⟨recorded, derives⟩ := covered computed
    obtain ⟨v, stored, inWorking, -⟩ := entry.recorded_of_derives recorded derives
    rw [if_pos computed, stored, inWorking]
    rfl
  · have notDone : g ∉ done := fun recorded =>
      computed (entry.recorded g recorded).choose_spec.choose_spec.1.computed
    rw [if_neg computed, (entry.pending g member notDone).1]

end Entry

section Distinct

variable (ids : (s.catalog.map (·.id)).Nodup) (names : (s.catalog.map (·.name)).Nodup)

include ids names in
theorem Entry.record {task : TaskSnapshot} {done : List FieldDefinition}
    {working derived : TaskValues} {failures : Failures}
    (entry : Entry s tasks index now task done working derived failures) {f : FieldDefinition}
    (fresh : f ∉ done) {o : Outcome} (derives : s.Derives tasks index now task f o) {v : FieldValue}
    (stored : storedOutcome f task.id o = .ok v) :
    Entry s tasks index now task (done ++ [f]) (setEntry working f.id v) (setEntry derived f.id v)
      (noteFailure failures f.name o) := by
  have member := derives.mem_catalog
  have within : ∀ g ∈ done, g ∈ s.catalog := fun g recorded =>
    (entry.recorded g recorded).choose_spec.choose_spec.1.mem_catalog
  have otherId : ∀ g ∈ s.catalog, g ≠ f → g.id ≠ f.id := fun g gMember differs same =>
    differs (List.inj_on_of_nodup_map ids gMember member same)
  have otherName : ∀ g ∈ s.catalog, g ≠ f → g.name ≠ f.name := fun g gMember differs same =>
    differs (List.inj_on_of_nodup_map names gMember member same)
  have unpending := entry.pending f member fresh
  refine ⟨?_, ?_, ?_⟩
  · rw [keys_setEntry, entry.keys, if_neg, List.map_append, List.map_singleton]
    intro listed
    obtain ⟨g, recorded, same⟩ := List.mem_map.mp listed
    exact otherId g (within g recorded) (fun equal => fresh (equal ▸ recorded)) same
  · intro g gMember notDone
    have differs : g ≠ f := fun equal => notDone (by simp [equal])
    have kept := entry.pending g gMember fun recorded => notDone (List.mem_append_left _ recorded)
    rw [lookup_setEntry, if_neg (otherId g gMember differs), lookup_noteFailure,
      if_neg (otherName g gMember differs)]
    exact kept
  · intro g recorded
    rcases List.mem_append.mp recorded with old | now
    · have differs : g ≠ f := fun equal => fresh (equal ▸ old)
      obtain ⟨o', v', derives', stored', inWorking, inDerived, inFailures⟩ := entry.recorded g old
      refine ⟨o', v', derives', stored', ?_, ?_, ?_⟩
      · rw [lookup_setEntry, if_neg (otherId g (within g old) differs), inWorking]
      · rw [lookup_setEntry, if_neg (otherId g (within g old) differs), inDerived]
      · rw [lookup_noteFailure, if_neg (otherName g (within g old) differs), inFailures]
    · obtain rfl := List.mem_singleton.mp now
      refine ⟨o, v, derives, stored, by simp [lookup_setEntry], by simp [lookup_setEntry], ?_⟩
      rw [lookup_noteFailure, if_pos rfl, unpending.2]
      cases failedOf o <;> rfl

include ids names in
/-- Recording one more field for a task keeps the state, the other tasks'
entries untouched. -/
theorem Reflects.record (distinctTasks : (tasks.map (·.id)).Nodup)
    {d : Derivation} {doneAt : TaskSnapshot → List FieldDefinition}
    (reflects : Reflects s tasks index now d doneAt) {t : TaskSnapshot} (member : t ∈ tasks)
    {f : FieldDefinition} (fresh : f ∉ doneAt t) {o : Outcome}
    (derives : s.Derives tasks index now t f o) {d' : Derivation}
    (recorded : d.record f t.id o = .ok d') :
    Reflects s tasks index now d' fun u => if u.id = t.id then doneAt t ++ [f] else doneAt u := by
  obtain ⟨keys, entries⟩ := reflects
  obtain ⟨working, derived, failures, inWorking, inDerived, inFailures, entry⟩ := entries t member
  obtain ⟨v, stored, working', derived', failures'⟩ := record_ok recorded
  have listed : t.id ∈ d.derived.map Prod.fst := by
    rw [keys]
    exact List.mem_map_of_mem member
  refine ⟨by rw [derived', setEntry_keys_of_mem listed, keys], ?_⟩
  intro u uMember
  by_cases same : u.id = t.id
  · obtain rfl := List.inj_on_of_nodup_map distinctTasks uMember member same
    simp only [if_true]
    refine ⟨setEntry working f.id v, setEntry derived f.id v, noteFailure failures f.name o,
      ?_, ?_, ?_, entry.record ids names fresh derives stored⟩
    · rw [working', lookup_setEntry, if_pos rfl, inWorking, Option.getD_some]
    · rw [derived', lookup_setEntry, if_pos rfl, inDerived, Option.getD_some]
    · rw [failures', lookup_failuresAfter _ _ _ _ inFailures, if_pos rfl]
  · simp only [same, if_false]
    obtain ⟨uWorking, uDerived, uFailures, atWorking, atDerived, atFailures, uEntry⟩ :=
      entries u uMember
    refine ⟨uWorking, uDerived, uFailures, ?_, ?_, ?_, uEntry⟩
    · rw [working', lookup_setEntry, if_neg same, atWorking]
    · rw [derived', lookup_setEntry, if_neg same, atDerived]
    · rw [failures', lookup_failuresAfter _ _ _ _ inFailures, if_neg same, atFailures]

end Distinct

theorem Reflects.congr {d : Derivation} {doneAt doneAt' : TaskSnapshot → List FieldDefinition}
    (reflects : Reflects s tasks index now d doneAt) (same : ∀ u ∈ tasks, doneAt u = doneAt' u) :
    Reflects s tasks index now d doneAt' :=
  ⟨reflects.1, fun u member => same u member ▸ reflects.2 u member⟩

/-! ### The state a derivation starts from -/

theorem foldl_setEntry_fresh {γ : Type} (key : γ → Ident) (value : γ → α) :
    ∀ (l : List γ) (acc : List (Ident × α)), (l.map key).Nodup →
      (∀ t ∈ l, key t ∉ acc.map Prod.fst) →
        l.foldl (fun acc t => setEntry acc (key t) (value t)) acc = acc ++ l.map fun t => (key t, value t)
  | [], acc, _, _ => by simp
  | t :: l, acc, distinct, fresh => by
      have absent : (acc.lookup (key t)).isSome = false := by
        cases found : (acc.lookup (key t)).isSome
        · rfl
        · exact absurd ((isSome_lookup_iff acc (key t)).mp found) (fresh t List.mem_cons_self)
      rw [List.map_cons, List.nodup_cons] at distinct
      rw [List.foldl_cons, setEntry, if_neg (by simp [absent]),
        foldl_setEntry_fresh key value l _ distinct.2]
      · simp
      · intro u member listed
        simp only [List.map_append, List.map_cons, List.map_nil, List.mem_append,
          List.mem_singleton] at listed
        rcases listed with old | same
        · exact fresh u (List.mem_cons_of_mem t member) old
        · exact distinct.1 (same ▸ List.mem_map_of_mem member)

theorem lookup_map_of_nodup {γ : Type} (key : γ → Ident) (value : γ → α) {l : List γ}
    (distinct : (l.map key).Nodup) {t : γ} (member : t ∈ l) :
    (l.map fun u => (key u, value u)).lookup (key t) = some (value t) := by
  induction l with
  | nil => cases member
  | cons u l inductionHypothesis =>
      rw [List.map_cons, List.nodup_cons] at distinct
      rw [List.map_cons, List.lookup_cons]
      rcases List.mem_cons.mp member with rfl | later
      · simp
      · have differs : (key t == key u) = false :=
          beq_false_of_ne fun same => distinct.1 (same ▸ List.mem_map_of_mem later)
        rw [differs]
        exact inductionHypothesis distinct.2 later

/-- The state a derivation of `tasks` starts from. -/
def start (tasks : List TaskSnapshot) (index : ValuesIndex) : Derivation :=
  { working := tasks.foldl (fun acc t => setEntry acc t.id ((index.lookup t.id).getD [])) []
    derived := tasks.foldl (fun acc t => setEntry acc t.id []) []
    failures := tasks.foldl (fun acc t => setEntry acc t.id []) [] }

theorem reflects_start (distinctTasks : (tasks.map (·.id)).Nodup) :
    Reflects s tasks index now (start tasks index) fun _ => [] := by
  have build : ∀ {α : Type} (value : TaskSnapshot → α),
      tasks.foldl (fun acc t => setEntry acc t.id (value t)) [] = tasks.map fun t => (t.id, value t) :=
    fun value => by simpa using foldl_setEntry_fresh TaskSnapshot.id value tasks [] distinctTasks (by simp)
  refine ⟨by simp [start, build], fun u member => ?_⟩
  refine ⟨(index.lookup u.id).getD [], [], [], ?_, ?_, ?_, ?_⟩
  · simp only [start, build]
    exact lookup_map_of_nodup TaskSnapshot.id _ distinctTasks member
  · simp only [start, build]
    exact lookup_map_of_nodup TaskSnapshot.id (fun _ => ([] : TaskValues)) distinctTasks member
  · simp only [start, build]
    exact lookup_map_of_nodup TaskSnapshot.id (fun _ => ([] : Failures)) distinctTasks member
  · refine ⟨rfl, fun g _ _ => ⟨?_, rfl⟩, fun g recorded => by cases recorded⟩
    unfold ValuesIndex.get?
    cases index.lookup u.id <;> rfl

end FieldCalc.Service
