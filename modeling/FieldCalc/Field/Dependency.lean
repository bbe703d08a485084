import FieldCalc.Field.Basic
import FieldCalc.Log

/-!
The dependency graph of computed fields, by field name.

For each computed field the graph holds the fields it depends on, and for
each field the computed fields that depend on it; the second relation is
kept up to date as fields are added and replaced, while removing a field
drops its own entries and leaves it in the dependencies of others. A field
whose dependencies would close a cycle is not added.

Fields that depend on a changed field are found breadth first, nearest first
and in name order among neighbours. An evaluation order puts every field
after the fields it depends on among those asked for, and otherwise keeps
the order asked for; where they form a cycle there is no order.
-/

namespace FieldCalc

def insertName (s : List String) (n : String) : List String := if s.contains n then s else s ++ [n]

def sortNames (s : List String) : List String := s.mergeSort fun a b => decide (a ≤ b)

/-- The dependency graph of computed fields. -/
structure DependencyGraph where
  /-- For each field, the computed fields that depend on it. -/
  dependents : List (String × List String) := []
  /-- For each computed field, the fields it depends on. -/
  dependsOn : List (String × List String) := []
  /-- Computed fields left out because they close a cycle. -/
  cyclic : List String := []
  deriving Inhabited

namespace DependencyGraph

def dependenciesOf (g : DependencyGraph) (name : String) : List String :=
  (g.dependsOn.lookup name).getD []

def dependentsOf (g : DependencyGraph) (name : String) : List String :=
  (g.dependents.lookup name).getD []

/-- Change the set of a name in a relation, creating an empty one first. -/
def modify (rel : List (String × List String)) (name : String) (f : List String → List String) :
    List (String × List String) :=
  if (rel.lookup name).isSome then rel.map fun p => if p.1 == name then (p.1, f p.2) else p
  else rel ++ [(name, f [])]

def pairCount (rel : List (String × List String)) : Nat := rel.foldl (fun n p => n + p.2.length) 0

/-- Whether following dependencies from `start` reaches `target`; every
field is expanded once, which `fuel` bounds. -/
def reaches (g : DependencyGraph) (target : String) : Nat → List String → List String → Bool
  | 0, _, _ => false
  | _, [], _ => false
  | fuel + 1, current :: rest, visited =>
    if current == target then true
    else if visited.contains current then reaches g target fuel rest visited
    else reaches g target fuel (g.dependenciesOf current ++ rest) (current :: visited)

/-- Whether giving a field these dependencies would close a cycle. -/
def closesCycle (g : DependencyGraph) (name : String) (deps : List String) : Bool :=
  deps.contains name ||
    reaches g name (deps.length + pairCount g.dependsOn + 1) deps []

/-- Drop a field from the dependents of the fields it depends on. -/
def unlink (g : DependencyGraph) (name : String) : DependencyGraph :=
  let dependents := (g.dependenciesOf name).foldl (fun rel dep => modify rel dep (·.erase name))
    g.dependents
  { g with dependents }

/-- Add or replace a computed field with its dependencies; refused, with the
reason, when it would close a cycle. -/
def add (g : DependencyGraph) (name : String) (deps : List String) :
    (Option String) × DependencyGraph :=
  if g.closesCycle name deps then
    (some ("Circular reference detected for field '" ++ name ++ "'"), g)
  else
    let g := g.unlink name
    let deps := deps.foldl insertName []
    let dependsOn := if (g.dependsOn.lookup name).isSome then
        g.dependsOn.map fun p => if p.1 == name then (p.1, deps) else p
      else g.dependsOn ++ [(name, deps)]
    let dependents := deps.foldl (fun rel dep => modify rel dep (insertName · name)) g.dependents
    (none, { g with dependsOn, dependents })

def remove (g : DependencyGraph) (name : String) : DependencyGraph :=
  let g := g.unlink name
  { dependsOn := g.dependsOn.filter (·.1 != name), dependents := g.dependents.filter (·.1 != name),
    cyclic := g.cyclic.erase name }

/-- The fields to recompute after the given ones, breadth first. -/
def affectedFrom (g : DependencyGraph) : Nat → List String → List String → List String → List String
  | 0, _, _, found => found
  | _, [], _, found => found
  | fuel + 1, current :: queue, seen, found =>
    let fresh := (sortNames (g.dependentsOf current)).filter (!seen.contains ·)
    affectedFrom g fuel (queue ++ fresh) (seen ++ fresh) (found ++ fresh)

/-- The fields to recompute when a field changes, nearest first. -/
def affected (g : DependencyGraph) (changed : String) : List String :=
  affectedFrom g (pairCount g.dependents + 2) [changed] [changed] []

/-- The fields left out for closing a cycle and every field that depends on
them. -/
def unresolvable (g : DependencyGraph) : List String :=
  g.cyclic.foldl (fun acc n => (g.affected n).foldl insertName acc) g.cyclic

/-- Kahn's algorithm over the wanted fields, in the order asked for. -/
def orderFrom (g : DependencyGraph) (ordered : List String) :
    Nat → List String → List (String × Int) → List String → List String
  | 0, _, _, result => result
  | _, [], _, result => result
  | fuel + 1, name :: queue, degree, result =>
    let deps := g.dependentsOf name
    let (degree, ready) := ordered.foldl (fun (degree, ready) dependent =>
      if deps.contains dependent && dependent != name then
        let d := ((degree.lookup dependent).getD 0) - 1
        (degree.map (fun p => if p.1 == dependent then (p.1, d) else p),
          if d == 0 then ready ++ [dependent] else ready)
      else (degree, ready)) (degree, [])
    orderFrom g ordered fuel (queue ++ ready) degree (result ++ [name])

/-- An order to evaluate fields in, each after the wanted fields it depends
on; empty when they depend on each other in a cycle. -/
def evaluationOrder (g : DependencyGraph) (names : List String) : List String :=
  let ordered := names.foldl insertName []
  let degree := ordered.map fun n =>
    (n, (((g.dependenciesOf n).filter fun d => ordered.contains d && d != n).length : Int))
  let queue := ordered.filter fun n => (degree.lookup n) == some 0
  let result := orderFrom g ordered (ordered.length + 1) queue degree []
  if result.length == ordered.length then result else []

/-- The number of fields with dependencies and of dependent links. -/
def summary (g : DependencyGraph) : String :=
  "FormulaDependencyGraph(fields=" ++ Nat.repr g.dependsOn.length ++ ", edges=" ++
    Nat.repr (pairCount g.dependents) ++ ")"

def logger : String := "taskfields.formula.dependencies"

/-- The graph of a catalog: formula fields depend on the fields their formula
refers to and rollup fields on their source; a field that would close a
cycle is recorded as cyclic, with a warning. -/
def ofFields (catalog : List FieldDefinition) : Logged DependencyGraph :=
  catalog.foldlM (fun g f => do
    let deps? := match f.type, f.rollupConfig with
      | .formula, _ => some ((Formula.fieldReferences f.formula).foldl insertName [])
      | .rollup, some c => some [c.sourceFieldName]
      | _, _ => none
    match deps? with
    | none => pure g
    | some deps =>
      match g.add f.name deps with
      | (none, g) => pure g
      | (some err, g) => do
        Logged.emit ⟨.warning, logger, "Field '%s' not added to dependency graph: %s",
          [f.name, err], ⟨"dependencies", "from_fields", 62⟩, []⟩
        pure { g with cyclic := insertName g.cyclic f.name }) {}

end DependencyGraph

end FieldCalc
