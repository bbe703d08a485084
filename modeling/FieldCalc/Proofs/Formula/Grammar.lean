import FieldCalc.Formula.Parser

/-!
# The grammar of formulas

`Derives lv ts e` says that the tokens `ts` form a phrase of level `lv` whose
tree is `e`. The levels run from the loosest, `OR`, to the atoms; a phrase of
a level is also a phrase of every looser one. The tree is the one the rules
build: every binary operator but `^` groups to the left, a call's name is
upper-cased, and a call of `FIELD` is a reference to the trimmed text of its
one text argument. A call of `FIELD` with anything else is no phrase at all.

The chain levels (`OR`, `AND`, comparisons, `&`, `+ -`, `* / %`) are written
left-recursively, as the grammar is. A parser reads such a chain from the
left, one operand after the other; `Tail` is that reading, and every chain
derivation has one (`Derives.chainForm`).
-/

namespace FieldCalc.Formula

/-- The precedence levels of the grammar, loosest first. -/
inductive Level where
  | or
  | and
  | not
  | comparison
  | concat
  | additive
  | term
  | power
  | unary
  | atom
  deriving DecidableEq, Repr

namespace Level

/-- The next tighter level. -/
def next : Level → Level
  | .or => .and
  | .and => .not
  | .not => .comparison
  | .comparison => .concat
  | .concat => .additive
  | .additive => .term
  | .term => .power
  | .power => .unary
  | .unary => .atom
  | .atom => .atom

/-- How far a level stands above the atoms. -/
def height : Level → Nat
  | .or => 9
  | .and => 8
  | .not => 7
  | .comparison => 6
  | .concat => 5
  | .additive => 4
  | .term => 3
  | .power => 2
  | .unary => 1
  | .atom => 0

/-- The levels whose phrases are left-associative chains of tighter phrases. -/
def chains : Level → Bool
  | .or | .and | .comparison | .concat | .additive | .term => true
  | _ => false

/-- The operator a token stands for between two operands of a chain level. -/
def operator : Level → Token → Option BinOp
  | .or, .kwOr => some .or
  | .and, .kwAnd => some .and
  | .comparison, .op .eq => some .eq
  | .comparison, .op .ne => some .ne
  | .comparison, .op .lt => some .lt
  | .comparison, .op .gt => some .gt
  | .comparison, .op .le => some .le
  | .comparison, .op .ge => some .ge
  | .concat, .op .concat => some .concat
  | .additive, .plus => some .add
  | .additive, .minus => some .sub
  | .term, .op .mul => some .mul
  | .term, .op .div => some .div
  | .term, .op .mod => some .mod
  | _, _ => none

/-- The tokens a phrase of a level can start with: `NOT` only above the
comparisons, a sign only above the atoms. -/
def Opens (lv : Level) : Token → Prop
  | .kwNot => Level.comparison.height < lv.height
  | .minus | .plus => Level.atom.height < lv.height
  | .number _ | .string _ | .boolean _ | .null | .fieldRef _ | .name _ | .lparen => True
  | _ => False

theorem height_next {lv : Level} (notAtom : lv ≠ .atom) : lv.next.height + 1 = lv.height := by
  cases lv
  case atom => exact absurd rfl notAtom
  all_goals rfl

theorem height_next_le (lv : Level) : lv.next.height ≤ lv.height := by
  cases lv <;> decide

theorem height_le (lv : Level) : lv.height ≤ 9 := by
  cases lv <;> decide

theorem Opens.mono {l lv : Level} (le : l.height ≤ lv.height) {t : Token} (opens : l.Opens t) :
    lv.Opens t := by
  cases t <;> simp only [Opens] at opens ⊢ <;> omega

end Level

/-- The level at which a token stands between two operands. -/
def bindingLevel : Token → Option Level
  | .kwOr => some .or
  | .kwAnd => some .and
  | .op .eq | .op .ne | .op .lt | .op .gt | .op .le | .op .ge => some .comparison
  | .op .concat => some .concat
  | .plus | .minus => some .additive
  | .op .mul | .op .div | .op .mod => some .term
  | .op .pow => some .power
  | _ => none

theorem bindingLevel_of_operator {lv : Level} {t : Token} {o : BinOp}
    (op : lv.operator t = some o) : bindingLevel t = some lv := by
  unfold Level.operator at op
  split at op <;> cases op <;> rfl

theorem chains_of_operator {lv : Level} {t : Token} {o : BinOp}
    (op : lv.operator t = some o) : lv.chains := by
  unfold Level.operator at op
  split at op <;> cases op <;> rfl

theorem Level.ne_atom_of_chains {lv : Level} (chains : lv.chains) : lv ≠ .atom := by
  rintro rfl
  cases chains

/-- The tokens after a phrase of level `lv` cannot continue it: the next one,
if any, is no operator of `lv` or of a tighter level. -/
def Stops (lv : Level) (rest : List Token) : Prop :=
  ∀ t ∈ rest.head?, ∀ l ∈ bindingLevel t, lv.height < l.height

namespace Stops

variable {lv : Level}

theorem nil : Stops lv [] := by
  simp [Stops]

theorem of_bindingLevel {t : Token} (inert : bindingLevel t = none) (rest : List Token) :
    Stops lv (t :: rest) := by
  simp [Stops, inert]

theorem next {rest : List Token} (stops : Stops lv rest) : Stops lv.next rest :=
  fun t first l operates => Nat.lt_of_le_of_lt (Level.height_next_le lv) (stops t first l operates)

theorem of_operator {t : Token} {o : BinOp} (op : lv.operator t = some o) (rest : List Token) :
    Stops lv.next (t :: rest) := by
  have notAtom := Level.ne_atom_of_chains (chains_of_operator op)
  intro t' first l operates
  simp only [List.head?_cons, Option.mem_def, Option.some.injEq] at first
  subst first
  rw [bindingLevel_of_operator op, Option.mem_def, Option.some.injEq] at operates
  subst operates
  have := Level.height_next notAtom
  omega

theorem operator_eq_none {t : Token} {rest : List Token} (stops : Stops lv (t :: rest)) :
    lv.operator t = none := by
  cases op : lv.operator t with
  | none => rfl
  | some o =>
      have := stops t rfl lv (bindingLevel_of_operator op)
      omega

end Stops

theorem stops_unary (rest : List Token) : Stops .unary rest := by
  intro t _ l operates
  unfold bindingLevel at operates
  split at operates <;> cases operates <;> decide

mutual

/-- `Derives lv ts e`: the tokens `ts` form a phrase of level `lv` with tree `e`. -/
inductive Derives : Level → List Token → Expr → Prop
  /-- A phrase of the next tighter level. -/
  | lift {lv ts e} : lv ≠ .atom → Derives lv.next ts e → Derives lv ts e
  /-- A chain, an operator of its level and one more tighter phrase. -/
  | chain {lv ts t us l o r} : Derives lv ts l → lv.operator t = some o →
      Derives lv.next us r → Derives lv (ts ++ t :: us) (.binary o l r)
  | not {ts e} : Derives .not ts e → Derives .not (.kwNot :: ts) (.unary .not e)
  /-- `^` groups to the right: its right operand is again a power. -/
  | pow {ts us u p} : Derives .unary ts u → Derives .power us p →
      Derives .power (ts ++ .op .pow :: us) (.binary .pow u p)
  | neg {ts e} : Derives .unary ts e → Derives .unary (.minus :: ts) (.unary .neg e)
  | pos {ts e} : Derives .unary ts e → Derives .unary (.plus :: ts) (.unary .plus e)
  | number (n : Number) : Derives .atom [.number n] (.number n)
  | string (s : String) : Derives .atom [.string s] (.string s)
  | boolean (b : Bool) : Derives .atom [.boolean b] (.boolean b)
  | null : Derives .atom [.null] .null
  | fieldRef (n : String) : Derives .atom [.fieldRef n] (.field n)
  | paren {ts e} : Derives .or ts e → Derives .atom (.lparen :: (ts ++ [.rparen])) e
  | callEmpty {n} : Text.toUpper n ≠ "FIELD" →
      Derives .atom [.name n, .lparen, .rparen] (.call (Text.toUpper n) [])
  | call {n ts es} : Text.toUpper n ≠ "FIELD" → Arguments ts es →
      Derives .atom (.name n :: .lparen :: (ts ++ [.rparen])) (.call (Text.toUpper n) es)
  /-- `FIELD` with one text argument names a field. -/
  | fieldCall {n ts s} : Text.toUpper n = "FIELD" → Arguments ts [.string s] →
      Derives .atom (.name n :: .lparen :: (ts ++ [.rparen])) (.field (Text.trim s))

/-- `Arguments ts es`: the tokens `ts` are the comma-separated arguments `es`
of a call. -/
inductive Arguments : List Token → List Expr → Prop
  | single {ts e} : Derives .or ts e → Arguments ts [e]
  | cons {ts us e es} : Derives .or ts e → Arguments us es →
      Arguments (ts ++ .comma :: us) (e :: es)

end

theorem Derives.opens : ∀ {lv ts e}, Derives lv ts e → ∃ t ∈ ts.head?, lv.Opens t
  | _, _, _, .lift notAtom d => by
      obtain ⟨t, first, opens⟩ := d.opens
      exact ⟨t, first, opens.mono (Level.height_next_le _)⟩
  | _, _, _, .chain d _ _ => by
      obtain ⟨t, first, opens⟩ := d.opens
      exact ⟨t, by simp [Option.mem_def.mp first], opens⟩
  | _, _, _, .pow d _ => by
      obtain ⟨t, first, opens⟩ := d.opens
      exact ⟨t, by simp [Option.mem_def.mp first], opens.mono (by decide)⟩
  | _, _, _, .not _ | _, _, _, .neg _ | _, _, _, .pos _ => ⟨_, rfl, by simp [Level.Opens, Level.height]⟩
  | _, _, _, .number _ | _, _, _, .string _ | _, _, _, .boolean _ | _, _, _, .null
  | _, _, _, .fieldRef _ | _, _, _, .paren _ | _, _, _, .callEmpty _ | _, _, _, .call ..
  | _, _, _, .fieldCall .. => ⟨_, rfl, trivial⟩

theorem Arguments.snoc : ∀ {ts es}, Arguments ts es → ∀ {us e}, Derives .or us e →
    Arguments (ts ++ .comma :: us) (es ++ [e])
  | _, _, .single d, _, _, last => .cons d (.single last)
  | _, _, .cons d more, _, _, last => by
      rw [List.append_assoc, List.cons_append]
      exact .cons d (more.snoc last)

/-- `Tail lv left us e`: the tokens `us` continue a chain of level `lv` whose
operands so far make `left`, and the whole chain makes `e`. -/
inductive Tail (lv : Level) : Expr → List Token → Expr → Prop
  | nil {left} : Tail lv left [] left
  | cons {left t o vs r ws e} : lv.operator t = some o → Derives lv.next vs r →
      Tail lv (.binary o left r) ws e → Tail lv left (t :: (vs ++ ws)) e

theorem Tail.snoc {lv : Level} {left : Expr} {us : List Token} {m : Expr}
    (tail : Tail lv left us m) {t : Token} {o : BinOp} {vs : List Token} {r : Expr}
    (op : lv.operator t = some o) (d : Derives lv.next vs r) :
    Tail lv left (us ++ t :: vs) (.binary o m r) := by
  induction tail with
  | nil => simpa using Tail.cons op d .nil
  | cons op' d' _ more =>
      rw [List.cons_append, List.append_assoc]
      exact .cons op' d' more

theorem Tail.stops {lv : Level} {left : Expr} {us : List Token} {e : Expr}
    (tail : Tail lv left us e) {rest : List Token} (stops : Stops lv rest) :
    Stops lv.next (us ++ rest) := by
  cases tail with
  | nil => exact stops.next
  | cons op _ _ => exact Stops.of_operator op _

theorem Derives.chainForm : ∀ {lv ts e}, lv.chains → Derives lv ts e →
    ∃ first e₀ more, ts = first ++ more ∧ Derives lv.next first e₀ ∧ Tail lv e₀ more e
  | _, ts, e, _, .lift _ d => ⟨ts, e, [], (List.append_nil ts).symm, d, .nil⟩
  | _, _, _, chains, .chain d op r => by
      obtain ⟨first, e₀, more, rfl, d₀, tail⟩ := d.chainForm chains
      exact ⟨first, e₀, _, List.append_assoc .., d₀, tail.snoc op r⟩
  | _, _, _, chains, .not _ | _, _, _, chains, .pow .. | _, _, _, chains, .neg _
  | _, _, _, chains, .pos _ => by cases chains
  | _, _, _, chains, .number _ | _, _, _, chains, .string _ | _, _, _, chains, .boolean _
  | _, _, _, chains, .null | _, _, _, chains, .fieldRef _ | _, _, _, chains, .paren _
  | _, _, _, chains, .callEmpty _ | _, _, _, chains, .call .. | _, _, _, chains, .fieldCall .. => by
      cases chains

end FieldCalc.Formula
