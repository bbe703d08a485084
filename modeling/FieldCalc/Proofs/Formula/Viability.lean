import FieldCalc.Proofs.Formula.ParseComplete

/-!
# Viable prefixes

The grammar of formulas admits a call of any name; only the parser gives a
call of `FIELD` a meaning of its own. `Token.shape` forgets the name of a
call, so the phrases of the grammar are the token lists whose shapes are
derived: a `Sentence`, and a `Viable` prefix that some sentence begins with.

Two facts about runs of the parser hold on every stream and at every fuel. A
parser stops only at a token that no operator of its level or a tighter one
continues (`StopsAt`, by induction on the fuel, as soundness). And what the
parser read once it reads again from the shaped lexemes, on a stream that is
not stuck, before any tokens that stop it (`parseAt_shape`).
-/

namespace FieldCalc.Formula

/-- A token as the grammar sees it: a call may have any name. -/
def Token.shape : Token → Token
  | .name _ => .name "CALL"
  | t => t

def Lexeme.shape (l : Lexeme) : Lexeme := ⟨l.token.shape, l.pos⟩

@[simp]
theorem Lexeme.shape_token (l : Lexeme) : l.shape.token = l.token.shape := rfl

@[simp]
theorem Lexeme.shape_pos (l : Lexeme) : l.shape.pos = l.pos := rfl

@[simp]
theorem Token.shape_shape (t : Token) : t.shape.shape = t.shape := by
  cases t <;> rfl

@[simp]
theorem bindingLevel_shape (t : Token) : bindingLevel t.shape = bindingLevel t := by
  cases t <;> rfl

@[simp]
theorem Level.operator_shape (lv : Level) (t : Token) : lv.operator t.shape = lv.operator t := by
  cases t
  case name => cases lv <;> rfl
  all_goals rfl

theorem tokens_shape (ls : List Lexeme) :
    (ls.map Lexeme.shape).map (·.token) = (ls.map (·.token)).map Token.shape := by
  simp [Function.comp_def]

theorem shape_name_ne_field : Text.toUpper "CALL" ≠ "FIELD" := by
  decide +kernel

/-! ### Sentences and viable prefixes -/

def Begins (lv : Level) (ts : List Token) : Prop :=
  ∃ us e, Derives lv ((ts ++ us).map Token.shape) e

def Sentence (ts : List Token) : Prop := ∃ e, Derives .or (ts.map Token.shape) e

def Viable (ts : List Token) : Prop := Begins .or ts

mutual

theorem Derives.shape : ∀ {lv ts e}, Derives lv ts e → ∃ e', Derives lv (ts.map Token.shape) e'
  | _, _, _, .lift notAtom d => by
      obtain ⟨e', d'⟩ := d.shape
      exact ⟨e', .lift notAtom d'⟩
  | _, _, _, .chain d op r => by
      obtain ⟨l', d'⟩ := d.shape
      obtain ⟨r', r''⟩ := r.shape
      exact ⟨_, by simpa using Derives.chain d' (by rwa [Level.operator_shape]) r''⟩
  | _, _, _, .not d => by
      obtain ⟨e', d'⟩ := d.shape
      exact ⟨_, Derives.not d'⟩
  | _, _, _, .pow d p => by
      obtain ⟨u', d'⟩ := d.shape
      obtain ⟨p', p''⟩ := p.shape
      exact ⟨_, by simpa [Token.shape] using Derives.pow d' p''⟩
  | _, _, _, .neg d => by
      obtain ⟨e', d'⟩ := d.shape
      exact ⟨_, Derives.neg d'⟩
  | _, _, _, .pos d => by
      obtain ⟨e', d'⟩ := d.shape
      exact ⟨_, Derives.pos d'⟩
  | _, _, _, .number n => ⟨_, .number n⟩
  | _, _, _, .string t => ⟨_, .string t⟩
  | _, _, _, .boolean b => ⟨_, .boolean b⟩
  | _, _, _, .null => ⟨_, .null⟩
  | _, _, _, .fieldRef n => ⟨_, .fieldRef n⟩
  | _, _, _, .paren d => by
      obtain ⟨e', d'⟩ := d.shape
      exact ⟨_, by simpa [Token.shape] using Derives.paren d'⟩
  | _, _, _, .callEmpty _ => ⟨_, .callEmpty shape_name_ne_field⟩
  | _, _, _, .call _ args => by
      obtain ⟨es', args'⟩ := args.shape
      exact ⟨_, by simpa [Token.shape] using Derives.call shape_name_ne_field args'⟩
  | _, _, _, .fieldCall _ args => by
      obtain ⟨es', args'⟩ := args.shape
      exact ⟨_, by simpa [Token.shape] using Derives.call shape_name_ne_field args'⟩

theorem Arguments.shape : ∀ {ts es}, Arguments ts es → ∃ es', Arguments (ts.map Token.shape) es'
  | _, _, .single d => by
      obtain ⟨e', d'⟩ := d.shape
      exact ⟨_, .single d'⟩
  | _, _, .cons d more => by
      obtain ⟨e', d'⟩ := d.shape
      obtain ⟨es', more'⟩ := more.shape
      exact ⟨_, by simpa [Token.shape] using Arguments.cons d' more'⟩

end

namespace Begins

variable {lv : Level} {ts : List Token}

theorem of_derives {e : Expr} (d : Derives lv ts e) : Begins lv ts := by
  obtain ⟨e', d'⟩ := d.shape
  exact ⟨[], e', by simpa using d'⟩

theorem congr {ts' : List Token} (same : ts.map Token.shape = ts'.map Token.shape)
    (begins : Begins lv ts) : Begins lv ts' := by
  obtain ⟨us, e, d⟩ := begins
  exact ⟨us, e, by simpa [← same] using d⟩

theorem lift (notAtom : lv ≠ .atom) (begins : Begins lv.next ts) : Begins lv ts := by
  obtain ⟨us, e, d⟩ := begins
  exact ⟨us, e, .lift notAtom d⟩

theorem atom_nil : Begins .atom [] := ⟨[.number (.int 0)], _, .number _⟩

theorem chain {xs : List Token} {l : Expr} {t : Token} {o : BinOp} (d : Derives lv xs l)
    (op : lv.operator t = some o) (begins : Begins lv.next ts) : Begins lv (xs ++ t :: ts) := by
  obtain ⟨l', d'⟩ := d.shape
  obtain ⟨us, r, operand⟩ := begins
  exact ⟨us, _, by simpa using Derives.chain d' (by rwa [Level.operator_shape]) operand⟩

theorem not (begins : Begins .not ts) : Begins .not (.kwNot :: ts) := by
  obtain ⟨us, e, d⟩ := begins
  exact ⟨us, _, Derives.not d⟩

theorem pow {xs : List Token} {u : Expr} (d : Derives .unary xs u) (begins : Begins .power ts) :
    Begins .power (xs ++ .op .pow :: ts) := by
  obtain ⟨u', d'⟩ := d.shape
  obtain ⟨us, p, exponent⟩ := begins
  exact ⟨us, _, by simpa [Token.shape] using Derives.pow d' exponent⟩

theorem neg (begins : Begins .unary ts) : Begins .unary (.minus :: ts) := by
  obtain ⟨us, e, d⟩ := begins
  exact ⟨us, _, Derives.neg d⟩

theorem pos (begins : Begins .unary ts) : Begins .unary (.plus :: ts) := by
  obtain ⟨us, e, d⟩ := begins
  exact ⟨us, _, Derives.pos d⟩

theorem paren (begins : Begins .or ts) : Begins .atom (.lparen :: ts) := by
  obtain ⟨us, e, d⟩ := begins
  exact ⟨us ++ [.rparen], e, by simpa [Token.shape] using Derives.paren d⟩

theorem name (n : String) : Begins .atom [.name n] :=
  ⟨[.lparen, .rparen], _, by simpa [Token.shape] using Derives.callEmpty shape_name_ne_field⟩

theorem call (n : String) (begins : Begins .or ts) : Begins .atom (.name n :: .lparen :: ts) := by
  obtain ⟨us, e, d⟩ := begins
  exact ⟨us ++ [.rparen], _, by simpa [Token.shape] using Derives.call shape_name_ne_field (.single d)⟩

theorem call_closed (n : String) {xs : List Token} {es : List Expr} (args : Arguments xs es) :
    Begins .atom (.name n :: .lparen :: (xs ++ [.rparen])) := by
  obtain ⟨es', args'⟩ := args.shape
  exact ⟨[], _, by simpa [Token.shape] using Derives.call shape_name_ne_field args'⟩

theorem call_open (n : String) {xs : List Token} {es : List Expr} (args : Arguments xs es) :
    Begins .atom (.name n :: .lparen :: xs) := by
  obtain ⟨us, e, d⟩ := call_closed n args
  exact ⟨.rparen :: us, e, by simpa using d⟩

theorem call_more (n : String) {xs : List Token} {es : List Expr} (args : Arguments xs es)
    (begins : Begins .or ts) : Begins .atom (.name n :: .lparen :: (xs ++ .comma :: ts)) := by
  obtain ⟨es', args'⟩ := args.shape
  obtain ⟨us, e, d⟩ := begins
  exact ⟨us ++ [.rparen], _, by
    simpa [Token.shape] using Derives.call shape_name_ne_field (args'.snoc d)⟩

end Begins

/-! ### Where the parser stops -/

theorem stops_atom (rest : List Token) : Stops .atom rest := by
  intro t _ l operates
  unfold bindingLevel at operates
  split at operates <;> cases operates <;> decide

theorem stops_cons_iff {lv : Level} {t : Token} {rest : List Token} :
    Stops lv (t :: rest) ↔ ∀ l ∈ bindingLevel t, lv.height < l.height := by
  simp [Stops]

theorem Stops.shape {lv : Level} {t : Token} {rest : List Token} (stops : Stops lv (t :: rest))
    (more : List Token) : Stops lv (t.shape :: more) := by
  rw [stops_cons_iff, bindingLevel_shape]
  exact stops_cons_iff.mp stops

theorem operator_of_bindingLevel {t : Token} {lv : Level} (binds : bindingLevel t = some lv) :
    (∃ o, lv.operator t = some o) ∨ (lv = .power ∧ t = .op .pow) := by
  unfold bindingLevel at binds
  split at binds <;> cases binds
  all_goals first | exact .inl ⟨_, rfl⟩ | exact .inr ⟨rfl, rfl⟩

theorem Level.height_inj {l lv : Level} (same : l.height = lv.height) : l = lv := by
  cases l <;> cases lv <;> first | rfl | cases same

/-- A chain that stops its tighter phrase before a token that is none of its
operators stops there too. -/
theorem Stops.of_next {lv : Level} (chains : lv.chains) {ts : List Token}
    (stops : Stops lv.next ts) (none : ∀ t ∈ ts.head?, lv.operator t = none) : Stops lv ts := by
  intro t first l binds
  have below := stops t first l binds
  have height := Level.height_next (Level.ne_atom_of_chains chains)
  rcases Nat.lt_or_ge lv.height l.height with above | notAbove
  · exact above
  · -- the token binds at the level of the chain itself
    have same : l = lv := Level.height_inj (by omega)
    subst same
    rcases operator_of_bindingLevel binds with ⟨o, op⟩ | ⟨rfl, -⟩
    · rw [none t first] at op
      cases op
    · cases chains

theorem Stops.not_of_comparison {ts : List Token} (stops : Stops .comparison ts) : Stops .not ts := by
  intro t first l binds
  have above := stops t first l binds
  -- no operator binds between the comparisons and `AND`
  rcases operator_of_bindingLevel binds with ⟨o, op⟩ | ⟨rfl, -⟩
  · have chains := chains_of_operator op
    cases l <;> first | decide | exact absurd above (by decide) | cases chains
  · exact absurd above (by decide)

theorem Stops.power_of_not_pow {t : Token} (notPow : Stream.isPow t = false) (rest : List Token) :
    Stops .power (t :: rest) := by
  rw [stops_cons_iff]
  intro l binds
  rcases operator_of_bindingLevel binds with ⟨o, op⟩ | ⟨rfl, rfl⟩
  · -- every chain is looser than the powers
    have chains := chains_of_operator op
    cases l <;> first | decide | cases chains
  · cases notPow

namespace Stream

variable (s : Stream)

/-- At one fuel, a parser returns only before a token that no operator of its
level or a tighter one continues; the rest of a chain does so once the
operand before it did. -/
structure StopsAt (fuel : Nat) : Prop where
  parse {lv : Level} {ls rest : List Lexeme} {e : Expr} :
    s.parseAt lv fuel ls = .ok (e, rest) → Stops lv (rest.map (·.token))
  rest {lv : Level} {left : Expr} {ls rest : List Lexeme} {e : Expr} : lv.chains →
    Stops lv.next (ls.map (·.token)) → s.restAt lv fuel left ls = .ok (e, rest) →
      Stops lv (rest.map (·.token))

theorem stopsAt_zero : s.StopsAt 0 where
  parse {lv} _ _ _ parsed := by cases lv <;> cases parsed
  rest chains _ returned := by
    rw [restAt_zero s chains] at returned
    cases returned

section Step

variable {s} {fuel : Nat} (ih : s.StopsAt fuel)
include ih

theorem parseAt_chain_stops {lv : Level} (chains : lv.chains) {ls rest : List Lexeme} {e : Expr}
    (parsed : s.parseAt lv (fuel + 1) ls = .ok (e, rest)) : Stops lv (rest.map (·.token)) := by
  rw [parseAt_chain s chains] at parsed
  obtain ⟨⟨l, mid⟩, first, more⟩ := bind_eq_ok parsed
  exact ih.rest chains (ih.parse first) more

theorem restAt_stops {lv : Level} (chains : lv.chains) {left : Expr} {ls rest : List Lexeme}
    {e : Expr} (stops : Stops lv.next (ls.map (·.token)))
    (returned : s.restAt lv (fuel + 1) left ls = .ok (e, rest)) : Stops lv (rest.map (·.token)) := by
  rw [restAt_succ s chains] at returned
  cases ls with
  | nil =>
      cases returned
      exact Stops.nil
  | cons l ls =>
      simp only [chainStep] at returned
      cases op : lv.operator l.token with
      | none =>
          rw [op] at returned
          cases returned
          exact Stops.of_next chains stops (by simpa using op)
      | some o =>
          rw [op] at returned
          obtain ⟨⟨r, mid⟩, operand, more⟩ := bind_eq_ok returned
          exact ih.rest chains (ih.parse operand) more

theorem notExpr_stops {ls rest : List Lexeme} {e : Expr}
    (parsed : s.notExpr (fuel + 1) ls = .ok (e, rest)) : Stops .not (rest.map (·.token)) := by
  by_cases negated : ∃ pos ls', ls = ⟨.kwNot, pos⟩ :: ls'
  · obtain ⟨pos, ls, rfl⟩ := negated
    rw [notExpr.eq_2] at parsed
    obtain ⟨⟨x, mid⟩, operand, returned⟩ := bind_eq_ok parsed
    cases returned
    exact ih.parse (show s.parseAt .not fuel ls = _ from operand)
  · rw [notExpr.eq_3 _ _ _ fun pos ls' first => negated ⟨pos, ls', first⟩] at parsed
    exact (parseAt_chain_stops ih (show Level.comparison.chains from rfl)
      (show s.parseAt .comparison (fuel + 1) ls = _ from parsed)).not_of_comparison

theorem power_stops {ls rest : List Lexeme} {e : Expr}
    (parsed : s.power (fuel + 1) ls = .ok (e, rest)) : Stops .power (rest.map (·.token)) := by
  rw [power.eq_2] at parsed
  obtain ⟨⟨u, mid⟩, operand, returned⟩ := bind_eq_ok parsed
  cases mid with
  | nil =>
      cases returned
      exact Stops.nil
  | cons l mid =>
      dsimp only at returned
      cases pow : isPow l.token
      · rw [pow] at returned
        cases returned
        exact Stops.power_of_not_pow pow _
      · rw [if_pos pow] at returned
        obtain ⟨⟨p, after⟩, exponent, done⟩ := bind_eq_ok returned
        cases done
        exact ih.parse (show s.parseAt .power fuel mid = _ from exponent)

theorem StopsAt.succ : s.StopsAt (fuel + 1) where
  parse {lv} _ _ _ parsed := by
    cases chains : lv.chains
    · cases lv
      case not => exact notExpr_stops ih parsed
      case power => exact power_stops ih parsed
      case unary => exact stops_unary _
      case atom => exact stops_atom _
      all_goals cases chains
    · exact parseAt_chain_stops ih chains parsed
  rest chains stops returned := restAt_stops ih chains stops returned

end Step

theorem stopsAt (fuel : Nat) : s.StopsAt fuel := by
  induction fuel with
  | zero => exact stopsAt_zero s
  | succ fuel ih => exact ih.succ

theorem parseAt_shape {s : Stream} (live : s.stuck = false) {lv : Level} {pre : List Lexeme}
    {e : Expr} (d : Derives lv (pre.map (·.token)) e) (rest : List Lexeme)
    (stops : Stops lv (rest.map (·.token))) (fuel : Nat) (enough : 16 * pre.length + lv.height < fuel) :
    ∃ e', s.parseAt lv fuel (pre.map Lexeme.shape ++ rest) = .ok (e', rest) := by
  obtain ⟨e', d'⟩ := d.shape
  rw [← tokens_shape] at d'
  exact ⟨e', parsesBelow live _ d' (Nat.lt_succ_self _) rfl stops
    (by simpa [Level.cost] using enough)⟩

end Stream

end FieldCalc.Formula
