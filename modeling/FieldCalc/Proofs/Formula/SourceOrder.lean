import Mathlib
import FieldCalc.Proofs.Formula.ParseComplete
import FieldCalc.Proofs.Formula.Provenance
import FieldCalc.Proofs.Graph.Schedule

/-!
# What is read off the walk follows the source

The field references and the calls of a formula are read off its walk, which
is its pre-order (`Expr.walk_eq_nodes`). The grammar keeps the tokens of a
phrase in the order of the tree it builds: operands, arguments and the operand
of a sign stand in the tree as they stand in the text. So the references come
in the order of their tokens (`Derives.referencedNames_append`), where a
reference token `{name}` names its field and a call of `FIELD` the trimmed
text inside it, and the calls come in the order of their names
(`Derives.calledNames_eq`), each directly before the calls nested in its
arguments (`Expr.calls_infix_of_mem_walk`).
Keeping the first occurrence of each reference is the library's
`List.eraseDups`.
-/

namespace FieldCalc.Formula

/-! ### References and calls read off the tokens -/

/-- The first text among some tokens. -/
def firstText : List Token → Option String
  | [] => none
  | .string s :: _ => some s
  | _ :: ts => firstText ts

/-- The fields some tokens refer to, in the order of the tokens: a reference
token names its field, and the name of a `FIELD` call the trimmed text that
follows it. -/
def referencedNames : List Token → List String
  | [] => []
  | .fieldRef n :: ts => n :: referencedNames ts
  | .name n :: ts =>
    if Text.toUpper n = "FIELD" then ((firstText ts).map Text.trim).toList ++ referencedNames ts
    else referencedNames ts
  | _ :: ts => referencedNames ts

/-- The function a token names, upper-cased; `FIELD` names a field, not a
function. -/
def Token.calledName? : Token → Option String
  | .name n => if Text.toUpper n = "FIELD" then none else some (Text.toUpper n)
  | _ => none

theorem referencedNames_of_operator {lv : Level} {t : Token} {o : BinOp}
    (op : lv.operator t = some o) (ts : List Token) : referencedNames (t :: ts) = referencedNames ts := by
  unfold Level.operator at op
  split at op <;> cases op <;> rfl

theorem calledName?_of_operator {lv : Level} {t : Token} {o : BinOp}
    (op : lv.operator t = some o) : t.calledName? = none := by
  unfold Level.operator at op
  split at op <;> cases op <;> rfl

/-! ### The calls nested in a node -/

namespace Expr

theorem size_le_sizeAll {x : Expr} {l : List Expr} (member : x ∈ l) : x.size ≤ sizeAll l := by
  induction l with
  | nil => cases member
  | cons e l ih =>
    simp only [sizeAll]
    rcases List.mem_cons.mp member with rfl | member
    · omega
    · have := ih member
      omega

theorem size_lt_of_mem_children {e x : Expr} (child : x ∈ e.children) : x.size < e.size :=
  calc x.size
      ≤ sizeAll e.children := size_le_sizeAll child
    _ < e.size := sizeAll_children_lt e

theorem calls_infix_of_mem_walk (e : Expr) {c : Expr} (visited : c ∈ e.walk) :
    c.calls <:+: e.calls := by
  rw [walk_eq_cons_children] at visited
  rcases List.mem_cons.mp visited with rfl | visited
  · exact List.infix_refl _
  · obtain ⟨x, child, inside⟩ := List.mem_flatMap.mp visited
    have nested := calls_infix_of_mem_walk x inside
    have ofChild : x.calls <:+: e.children.flatMap calls :=
      List.infix_of_mem_flatten (List.mem_map_of_mem child)
    rw [calls_eq_cons_children e]
    exact nested.trans (ofChild.trans (List.suffix_append _ _).isInfix)
termination_by e.size
decreasing_by exact size_lt_of_mem_children child

end Expr

/-! ### A sentence lists its references and calls in the order of its tokens -/

theorem Derives.firstText_append : ∀ {lv ts e}, Derives lv ts e → ∀ {s}, e = .string s → ∀ us,
    firstText (ts ++ us) = some s
  | _, _, _, .lift _ d, _, text, us => d.firstText_append text us
  | _, _, _, .string _, _, text, _ => by cases text; rfl
  | _, _, _, .paren d, _, text, us => by
    simp only [List.cons_append, List.append_assoc, firstText]
    exact d.firstText_append text _
  | _, _, _, .chain .., _, text, _ | _, _, _, .not _, _, text, _ | _, _, _, .pow .., _, text, _
  | _, _, _, .neg _, _, text, _ | _, _, _, .pos _, _, text, _ | _, _, _, .number _, _, text, _
  | _, _, _, .boolean _, _, text, _ | _, _, _, .null, _, text, _
  | _, _, _, .fieldRef _, _, text, _ | _, _, _, .callEmpty _, _, text, _
  | _, _, _, .call .., _, text, _ | _, _, _, .fieldCall .., _, text, _ => by cases text

theorem Arguments.firstText_append {ts : List Token} {s : String}
    (args : Arguments ts [.string s]) (us : List Token) : firstText (ts ++ us) = some s := by
  cases args with
  | single d => exact d.firstText_append rfl us
  | cons _ more => cases more

mutual

theorem Derives.referencedNames_append : ∀ {lv ts e}, Derives lv ts e → ∀ us,
    referencedNames (ts ++ us) = e.fieldRefs ++ referencedNames us
  | _, _, _, .lift _ d, us => d.referencedNames_append us
  | _, _, _, .chain d op r, us => by
    rw [List.append_assoc, d.referencedNames_append, List.cons_append,
      referencedNames_of_operator op, r.referencedNames_append, Expr.fieldRefs_binary,
      List.append_assoc]
  | _, _, _, .not d, us | _, _, _, .neg d, us | _, _, _, .pos d, us => by
    simp only [List.cons_append, referencedNames, d.referencedNames_append, Expr.fieldRefs_unary]
  | _, _, _, .pow d p, us => by
    simp only [List.append_assoc, d.referencedNames_append, List.cons_append, referencedNames,
      p.referencedNames_append, Expr.fieldRefs_binary]
  | _, _, _, .number _, us | _, _, _, .string _, us | _, _, _, .boolean _, us
  | _, _, _, .null, us => by
    simp [referencedNames, Expr.fieldRefs_eq_cons_children, Expr.fieldName?, Expr.children]
  | _, _, _, .fieldRef _, us => by simp [referencedNames]
  | _, _, _, .paren d, us => by
    simp only [List.cons_append, List.append_assoc, List.nil_append, referencedNames,
      d.referencedNames_append]
  | _, _, _, .callEmpty notField, us => by simp [referencedNames, notField]
  | _, _, _, .call notField args, us => by
    simp only [List.cons_append, List.append_assoc, List.nil_append, referencedNames,
      notField, if_false, args.referencedNames_append, Expr.fieldRefs_call]
  | _, _, _, .fieldCall field args, us => by
    simp only [List.cons_append, List.append_assoc, List.nil_append, referencedNames,
      field, if_true, firstText, args.firstText_append, args.referencedNames_append]
    simp [Expr.fieldRefs_eq_cons_children (.string _), Expr.fieldName?, Expr.children]

theorem Arguments.referencedNames_append : ∀ {ts es}, Arguments ts es → ∀ us,
    referencedNames (ts ++ us) = es.flatMap Expr.fieldRefs ++ referencedNames us
  | _, _, .single d, us => by rw [d.referencedNames_append, List.flatMap_singleton]
  | _, _, .cons d more, us => by
    simp only [List.append_assoc, d.referencedNames_append, List.cons_append, referencedNames,
      more.referencedNames_append, List.flatMap_cons]

end

mutual

theorem Derives.calledNames_eq : ∀ {lv ts e}, Derives lv ts e →
    ts.filterMap Token.calledName? = e.calls.map Prod.fst
  | _, _, _, .lift _ d => d.calledNames_eq
  | _, _, _, .chain d op r => by
    rw [List.filterMap_append, List.filterMap_cons_none (calledName?_of_operator op),
      d.calledNames_eq, r.calledNames_eq, Expr.calls_binary, List.map_append]
  | _, _, _, .not d | _, _, _, .neg d | _, _, _, .pos d => by
    rw [List.filterMap_cons_none rfl, d.calledNames_eq, Expr.calls_unary]
  | _, _, _, .pow d p => by
    rw [List.filterMap_append, List.filterMap_cons_none rfl, d.calledNames_eq,
      p.calledNames_eq, Expr.calls_binary, List.map_append]
  | _, _, _, .number _ | _, _, _, .string _ | _, _, _, .boolean _ | _, _, _, .null
  | _, _, _, .fieldRef _ => by
    simp [Token.calledName?, Expr.calls_eq_cons_children, Expr.callShape?, Expr.children]
  | _, _, _, .paren d => by
    simp only [List.filterMap_cons, List.filterMap_append, Token.calledName?, d.calledNames_eq,
      List.filterMap_nil, List.append_nil]
  | _, _, _, .callEmpty notField => by
    simp [Token.calledName?, notField, Expr.calls_call]
  | _, _, _, .call notField args => by
    simp only [List.filterMap_cons, List.filterMap_append, Token.calledName?, notField, if_false,
      args.calledNames_eq, List.filterMap_nil, List.append_nil, Expr.calls_call, List.map_cons]
  | _, _, _, .fieldCall field args => by
    simp only [List.filterMap_cons, List.filterMap_append, Token.calledName?, field, if_true,
      args.calledNames_eq, List.filterMap_nil, List.append_nil]
    simp [Expr.calls_eq_cons_children, Expr.callShape?, Expr.children]

theorem Arguments.calledNames_eq : ∀ {ts es}, Arguments ts es →
    ts.filterMap Token.calledName? = (es.flatMap Expr.calls).map Prod.fst
  | _, _, .single d => by rw [d.calledNames_eq, List.flatMap_singleton]
  | _, _, .cons d more => by
    rw [List.filterMap_append, List.filterMap_cons_none rfl, d.calledNames_eq,
      more.calledNames_eq, List.flatMap_cons, List.map_append]

end

theorem firstOccurrences_eq_eraseDups (names : List String) :
    firstOccurrences names = names.eraseDups :=
  DependencyGraph.foldl_insertName_eq_eraseDups names

/-- The walk of every formula is its pre-order, at any depth; and what is read
off the walk of a formula that parses follows its text. The field references
come in the order of their tokens, repeats included, and each once at its first
occurrence after deduplication. The calls come in the order of their names, a
call directly before the calls nested in its arguments. -/
theorem walk_follows_source :
    (∀ e : Expr, e.walk = e.nodes ∧ e.walk = e :: e.children.flatMap Expr.walk) ∧
    ∀ (src : String) (e : Expr), parse src = .ok e →
      e.fieldRefs = referencedNames ((lex src).1.map (·.token)) ∧
      firstOccurrences e.fieldRefs = (referencedNames ((lex src).1.map (·.token))).eraseDups ∧
      e.calls.map Prod.fst = ((lex src).1.map (·.token)).filterMap Token.calledName? ∧
      ∀ (name : String) (args : List Expr), .call name args ∈ e.walk →
        (name, args.length) :: args.flatMap Expr.calls <:+: e.calls := by
  refine ⟨fun e => ⟨Expr.walk_eq_nodes e, Expr.walk_eq_cons_children e⟩, ?_⟩
  intro src e parsed
  obtain ⟨-, sentence⟩ := (parse_eq_ok_iff src e).mp parsed
  have references := sentence.referencedNames_append []
  rw [List.append_nil, referencedNames, List.append_nil] at references
  refine ⟨references.symm, ?_, sentence.calledNames_eq.symm, ?_⟩
  · rw [firstOccurrences_eq_eraseDups, references]
  · intro name args visited
    simpa [Expr.calls_call] using Expr.calls_infix_of_mem_walk e visited

/-- The references of `{b} + {a} + field("b") + {{c}}` come in the order of
their tokens, and once each at their first occurrence. -/
theorem walk_follows_source_firstOccurrences :
    ∃ e, parse "{b} + {a} + field(\"b\") + {{c}}" = .ok e ∧
      e.fieldRefs = ["b", "a", "b", "c"] ∧ firstOccurrences e.fieldRefs = ["b", "a", "c"] := by
  have parses : (parse "{b} + {a} + field(\"b\") + {{c}}").isOk = true := by decide +kernel
  obtain ⟨e, parsed⟩ : ∃ e, parse "{b} + {a} + field(\"b\") + {{c}}" = .ok e := by
    cases parsing : parse "{b} + {a} + field(\"b\") + {{c}}" with
    | ok e => exact ⟨e, rfl⟩
    | error _ => simp [parsing, Except.isOk, Except.toBool] at parses
  have tokens : referencedNames ((lex "{b} + {a} + field(\"b\") + {{c}}").1.map (·.token)) =
      ["b", "a", "b", "c"] := by decide +kernel
  obtain ⟨references, firsts, -, -⟩ := walk_follows_source.2 _ e parsed
  refine ⟨e, parsed, references.trans tokens, ?_⟩
  rw [firsts, tokens]
  decide

end FieldCalc.Formula
