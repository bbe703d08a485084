import FieldCalc.Number.Basic

/-!
The syntax tree of a formula.

A formula is a literal (number, text, truth value, null), a reference to a
field by name, a call of a function with arguments, a binary operation or a
unary operation. `Expr.walk` visits the nodes of a tree with a stack of the
subtrees still to visit, a node before its children and the children from
left to right; `Expr.nodes` is that order written by recursion, the pre-order.
Field references and calls are read off the walk, so they appear in the order
of their tokens in the source.
-/

namespace FieldCalc.Formula

/-- Binary operators, loosest first: `OR`, `AND`, comparisons, `&`, `+ -`,
`* / %`, `^`. -/
inductive BinOp where
  | or
  | and
  | eq
  | ne
  | lt
  | gt
  | le
  | ge
  | concat
  | add
  | sub
  | mul
  | div
  | mod
  | pow
  deriving Repr, DecidableEq

/-- Unary operators: negation, unary plus and logical `NOT`. -/
inductive UnOp where
  | neg
  | plus
  | not
  deriving Repr, DecidableEq

/-- A formula. -/
inductive Expr where
  | number (n : Number)
  | string (s : String)
  | boolean (b : Bool)
  | null
  | field (name : String)
  | call (name : String) (args : List Expr)
  | binary (op : BinOp) (left right : Expr)
  | unary (op : UnOp) (operand : Expr)
  deriving Inhabited

namespace Expr

mutual
def nodes : Expr → List Expr
  | e@(.call _ args) => e :: nodesOf args
  | e@(.binary _ l r) => e :: (nodes l ++ nodes r)
  | e@(.unary _ x) => e :: nodes x
  | e => [e]

/-- The nodes of a list of formulas in pre-order, one after the other. -/
def nodesOf : List Expr → List Expr
  | [] => []
  | e :: es => nodes e ++ nodesOf es
end

def fieldName? : Expr → Option String
  | .field n => some n
  | _ => none

def callShape? : Expr → Option (String × Nat)
  | .call n args => some (n, args.length)
  | _ => none

/-- The children of a node, left to right: the operands of an operator, the
arguments of a call. -/
def children : Expr → List Expr
  | .call _ args => args
  | .binary _ l r => [l, r]
  | .unary _ x => [x]
  | _ => []

mutual
def size : Expr → Nat
  | .call _ args => sizeAll args + 1
  | .binary _ l r => size l + size r + 1
  | .unary _ x => size x + 1
  | _ => 1

def sizeAll : List Expr → Nat
  | [] => 0
  | e :: es => size e + sizeAll es
end

theorem sizeAll_append (l m : List Expr) : sizeAll (l ++ m) = sizeAll l + sizeAll m := by
  induction l with
  | nil => simp [sizeAll]
  | cons e l ih => simp only [List.cons_append, sizeAll, ih]; omega

theorem sizeAll_reverse (l : List Expr) : sizeAll l.reverse = sizeAll l := by
  induction l with
  | nil => rfl
  | cons e l ih => simp only [List.reverse_cons, sizeAll_append, ih, sizeAll]; omega

/-- A node outnumbers its children together, so a walk that replaces a node by
its children on its stack ends. -/
theorem sizeAll_children_lt (e : Expr) : sizeAll e.children < e.size := by
  cases e <;> simp only [children, size, sizeAll] <;> omega

/-- The nodes visited from a stack of pending trees whose top is its last
entry: the top is popped and visited, and its children are pushed last child
first, so that the first child is visited next. The stack keeps the walk from
nesting as deeply as the tree does. -/
def walkFrom (stack : List Expr) : List Expr :=
  if h : stack = [] then []
  else
    let top := stack.getLast h
    top :: walkFrom (stack.dropLast ++ top.children.reverse)
termination_by sizeAll stack
decreasing_by
  have popped := List.dropLast_concat_getLast h
  have lighter := sizeAll_children_lt (stack.getLast h)
  conv => rhs; rw [← popped]
  simp only [sizeAll_append, sizeAll_reverse, sizeAll]
  omega

/-- The nodes of a formula, depth first and left to right, a node before its
children, walked with a stack that starts with the formula. -/
def walk (e : Expr) : List Expr := walkFrom [e]

/-- Field references in the order of their tokens, repeats included. -/
def fieldRefs (e : Expr) : List String := e.walk.filterMap fieldName?

def calls (e : Expr) : List (String × Nat) := e.walk.filterMap callShape?

end Expr

end FieldCalc.Formula
