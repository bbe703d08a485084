import Mathlib
import FieldCalc.Formula.Expr

/-!
# The walk of a formula is its pre-order

The nodes of a formula are walked with an explicit stack (`Expr.walkFrom`),
so that a deeply nested formula does not nest the walk. Each step pops the
top, visits it and pushes its children last first. Read from the top down,
the stack always lists the trees still to be walked in the order they will
be walked (`walkFrom_eq_flatMap`). So the walk of a formula is its recursive
pre-order, `Expr.nodes`: the node, then the pre-order of each child from left
to right (`walk_eq_nodes`). What is read off the walk, the field references and
the calls of a node, is its own followed by those of its children in order.
-/

namespace FieldCalc.Formula

namespace Expr

theorem nodesOf_eq_flatMap : ∀ es : List Expr, nodesOf es = es.flatMap nodes
  | [] => by simp [nodesOf]
  | e :: es => by simp [nodesOf, nodesOf_eq_flatMap es]

theorem nodes_eq_cons_children (e : Expr) : e.nodes = e :: e.children.flatMap nodes := by
  cases e <;> simp [nodes, children, nodesOf_eq_flatMap]

@[simp]
theorem walkFrom_nil : walkFrom [] = [] := by
  rw [walkFrom]
  simp

theorem walkFrom_concat (below : List Expr) (top : Expr) :
    walkFrom (below ++ [top]) = top :: walkFrom (below ++ top.children.reverse) := by
  rw [walkFrom]
  simp

theorem walkFrom_eq_flatMap (stack : List Expr) : walkFrom stack = stack.reverse.flatMap nodes := by
  -- induction on the total size of the pending trees, which each step lowers
  induction stack using walkFrom.induct with
  | case1 => simp
  | case2 stack nonempty top ih =>
    have popped : stack.dropLast ++ [top] = stack := List.dropLast_concat_getLast nonempty
    calc walkFrom stack
        = walkFrom (stack.dropLast ++ [top]) := by rw [popped]
      _ = top :: walkFrom (stack.dropLast ++ top.children.reverse) := walkFrom_concat _ _
      _ = (stack.dropLast ++ [top]).reverse.flatMap nodes := by
        rw [ih]
        simp [nodes_eq_cons_children top]
      _ = stack.reverse.flatMap nodes := by rw [popped]

theorem walk_eq_nodes (e : Expr) : e.walk = e.nodes := by
  simp [walk, walkFrom_eq_flatMap]

theorem walk_eq_cons_children (e : Expr) : e.walk = e :: e.children.flatMap walk := by
  have same : (walk : Expr → List Expr) = nodes := funext walk_eq_nodes
  rw [same, nodes_eq_cons_children]

theorem fieldRefs_eq_cons_children (e : Expr) :
    e.fieldRefs = e.fieldName?.toList ++ e.children.flatMap fieldRefs := by
  rw [fieldRefs, walk_eq_cons_children, List.filterMap_cons, List.filterMap_flatMap]
  cases e.fieldName? <;> rfl

theorem calls_eq_cons_children (e : Expr) :
    e.calls = e.callShape?.toList ++ e.children.flatMap calls := by
  rw [calls, walk_eq_cons_children, List.filterMap_cons, List.filterMap_flatMap]
  cases e.callShape? <;> rfl

end Expr

end FieldCalc.Formula
