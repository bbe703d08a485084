import FieldCalc.Proofs.Formula.Grammar

/-!
# What the parser returns is derived

The parser has one function per level of the grammar, except the comparisons,
which `notExpr` reads as a concatenation followed by the rest of a comparison
chain. `parseAt s lv` names the parser of the phrases of `lv`, and `restAt s lv`
the function that reads the rest of a chain of `lv` after its first operand.
Every chain rest takes the same step, `chainStep`, with its own operators.

Soundness holds at every fuel: what a parser returns is a phrase of its level
followed by the tokens it leaves (`SoundAt`, by induction on the fuel).
-/

namespace FieldCalc.Formula

theorem bind_eq_ok {ε α β : Type} {x : Except ε α} {f : α → Except ε β} {b : β}
    (run : x >>= f = .ok b) : ∃ a, x = .ok a ∧ f a = .ok b := by
  cases x with
  | error e => cases run
  | ok a => exact ⟨a, rfl, run⟩

@[simp]
theorem ok_bind {ε α β : Type} (a : α) (f : α → Except ε β) : (Except.ok a >>= f) = f a := rfl

namespace Stream

variable (s : Stream)

/-- The parser of the phrases of a level. -/
def parseAt : Level → Nat → List Lexeme → Parsed
  | .or => s.expression
  | .and => s.andExpr
  | .not => s.notExpr
  | .comparison => fun fuel ls =>
    match fuel with
    | 0 => .error (s.failAt ls)
    | fuel + 1 => do
      let (l, ls) ← s.concatExpr fuel ls
      s.comparisonRest fuel l ls
  | .concat => s.concatExpr
  | .additive => s.additive
  | .term => s.term
  | .power => s.power
  | .unary => s.unary
  | .atom => s.atom

/-- The rest of a chain of a level after its first operand; a level that is no
chain has no rest. -/
def restAt : Level → Nat → Expr → List Lexeme → Parsed
  | .or => s.orRest
  | .and => s.andRest
  | .comparison => s.comparisonRest
  | .concat => s.concatRest
  | .additive => s.additiveRest
  | .term => s.termRest
  | _ => fun _ left ls => .ok (left, ls)

/-- One step of the rest of a chain: an operator and the next operand, or the
end of the chain. -/
def chainStep (op : Token → Option BinOp) (next : List Lexeme → Parsed)
    (more : Expr → List Lexeme → Parsed) (left : Expr) : List Lexeme → Parsed
  | l :: rest =>
    match op l.token with
    | some o => do
      let (r, rest) ← next rest
      more (.binary o left r) rest
    | none => .ok (left, l :: rest)
  | [] => .ok (left, [])

/-! ### The operators of each chain -/

theorem comparisonOp?_eq (t : Token) : comparisonOp? t = Level.operator .comparison t := by
  cases t
  case op o => cases o <;> rfl
  all_goals rfl

theorem additiveOp?_eq (t : Token) : additiveOp? t = Level.operator .additive t := by
  cases t
  case op o => cases o <;> rfl
  all_goals rfl

theorem termOp?_eq (t : Token) : termOp? t = Level.operator .term t := by
  cases t
  case op o => cases o <;> rfl
  all_goals rfl

theorem eq_pow_of_isPow {t : Token} (pow : isPow t = true) : t = .op .pow := by
  unfold isPow at pow
  split at pow
  · rfl
  · cases pow

theorem fieldCall?_eq_some {args : List Expr} {e : Expr} (found : fieldCall? args = some e) :
    ∃ text, args = [.string text] ∧ e = .field (Text.trim text) := by
  unfold fieldCall? at found
  split at found
  · cases found
    exact ⟨_, rfl, rfl⟩
  · cases found

/-! ### Chains -/

section Chains

variable {lv : Level} (chains : lv.chains)
include chains

theorem parseAt_chain (fuel : Nat) (ls : List Lexeme) :
    s.parseAt lv (fuel + 1) ls = (do
      let (l, ls) ← s.parseAt lv.next fuel ls
      s.restAt lv fuel l ls) := by
  cases lv <;> cases chains <;> rfl

theorem restAt_zero (left : Expr) (ls : List Lexeme) :
    s.restAt lv 0 left ls = .error (s.failAt ls) := by
  cases lv <;> cases chains <;> rfl

theorem restAt_succ (fuel : Nat) (left : Expr) (ls : List Lexeme) :
    s.restAt lv (fuel + 1) left ls =
      chainStep lv.operator (s.parseAt lv.next fuel) (s.restAt lv fuel) left ls := by
  cases ls with
  | nil => cases lv <;> cases chains <;> rfl
  | cons l rest =>
      obtain ⟨t, pos⟩ := l
      cases lv <;> cases chains
      case or.refl | and.refl => cases t <;> rfl
      case comparison.refl =>
        simp only [restAt, comparisonRest, chainStep, comparisonOp?_eq]
        cases Level.operator .comparison t <;> rfl
      case additive.refl =>
        simp only [restAt, additiveRest, chainStep, additiveOp?_eq]
        cases Level.operator .additive t <;> rfl
      case term.refl =>
        simp only [restAt, termRest, chainStep, termOp?_eq]
        cases Level.operator .term t <;> rfl
      case concat.refl =>
        cases t
        case op o => cases o <;> rfl
        all_goals rfl

end Chains

theorem restAt_of_not_chains {lv : Level} (notChain : lv.chains = false) (fuel : Nat)
    (left : Expr) (ls : List Lexeme) : s.restAt lv fuel left ls = .ok (left, ls) := by
  cases lv <;> cases notChain <;> rfl

/-! ### Soundness -/

/-- What the parser returns at one fuel is derived. -/
structure SoundAt (fuel : Nat) : Prop where
  parse {lv : Level} {ls rest : List Lexeme} {e : Expr} :
    s.parseAt lv fuel ls = .ok (e, rest) →
      ∃ pre, ls = pre ++ rest ∧ Derives lv (pre.map (·.token)) e
  rest {lv : Level} {left : Expr} {ls rest : List Lexeme} {e : Expr} :
    s.restAt lv fuel left ls = .ok (e, rest) → ∀ {ts}, Derives lv ts left →
      ∃ pre, ls = pre ++ rest ∧ Derives lv (ts ++ pre.map (·.token)) e
  arguments {ls rest : List Lexeme} {es : List Expr} :
    s.callArguments fuel ls = .ok (es, rest) →
      ∃ pre, ls = pre ++ rest ∧ ((pre.map (·.token) = [.rparen] ∧ es = []) ∨
        ∃ ts, pre.map (·.token) = ts ++ [.rparen] ∧ Arguments ts es)
  more {acc : List Expr} {ls rest : List Lexeme} {es : List Expr} :
    s.argumentsRest fuel acc ls = .ok (es, rest) → ∀ {ts}, Arguments ts acc.reverse →
      ∃ pre, ls = pre ++ rest ∧ ∃ us, pre.map (·.token) = us ++ [.rparen] ∧ Arguments (ts ++ us) es

theorem soundAt_zero : s.SoundAt 0 where
  parse {lv} _ _ _ parsed := by cases lv <;> cases parsed
  rest {lv} _ _ _ _ returned _ d := by
    cases chains : lv.chains
    · rw [restAt_of_not_chains s chains] at returned
      cases returned
      exact ⟨[], by simp, by simpa using d⟩
    · rw [restAt_zero s chains] at returned
      cases returned
  arguments parsed := by cases parsed
  more parsed := by cases parsed

section Step

variable {s} {fuel : Nat} (ih : s.SoundAt fuel)
include ih

theorem parseAt_chain_sound {lv : Level} (chains : lv.chains) {ls rest : List Lexeme} {e : Expr}
    (parsed : s.parseAt lv (fuel + 1) ls = .ok (e, rest)) :
    ∃ pre, ls = pre ++ rest ∧ Derives lv (pre.map (·.token)) e := by
  rw [parseAt_chain s chains] at parsed
  obtain ⟨⟨l, mid⟩, first, more⟩ := bind_eq_ok parsed
  obtain ⟨pre₁, rfl, d₁⟩ := ih.parse first
  obtain ⟨pre₂, rfl, d₂⟩ := ih.rest more (.lift (Level.ne_atom_of_chains chains) d₁)
  exact ⟨pre₁ ++ pre₂, by simp, by simpa using d₂⟩

theorem restAt_sound {lv : Level} {left : Expr} {ls rest : List Lexeme} {e : Expr}
    (returned : s.restAt lv (fuel + 1) left ls = .ok (e, rest)) {ts : List Token}
    (d : Derives lv ts left) : ∃ pre, ls = pre ++ rest ∧ Derives lv (ts ++ pre.map (·.token)) e := by
  cases chains : lv.chains
  · rw [restAt_of_not_chains s chains] at returned
    cases returned
    exact ⟨[], by simp, by simpa using d⟩
  rw [restAt_succ s chains] at returned
  cases ls with
  | nil =>
      cases returned
      exact ⟨[], rfl, by simpa using d⟩
  | cons l ls =>
      simp only [chainStep] at returned
      cases op : lv.operator l.token with
      | none =>
          rw [op] at returned
          cases returned
          exact ⟨[], rfl, by simpa using d⟩
      | some o =>
          rw [op] at returned
          obtain ⟨⟨r, mid⟩, operand, more⟩ := bind_eq_ok returned
          obtain ⟨pre₁, rfl, d₁⟩ := ih.parse operand
          obtain ⟨pre₂, rfl, d₂⟩ := ih.rest more (.chain d op d₁)
          exact ⟨l :: (pre₁ ++ pre₂), by simp, by simpa using d₂⟩

theorem unaryOperand_sound {lv : Level} {tok : Token} {op : UnOp}
    (rule : ∀ {ts e}, Derives lv ts e → Derives lv (tok :: ts) (.unary op e))
    {pos : Nat} {ls rest : List Lexeme} {e : Expr}
    (parsed : (s.parseAt lv fuel ls >>= fun p => pure (Expr.unary op p.1, p.2)) = .ok (e, rest)) :
    ∃ pre, ⟨tok, pos⟩ :: ls = pre ++ rest ∧ Derives lv (pre.map (·.token)) e := by
  obtain ⟨⟨x, mid⟩, operand, returned⟩ := bind_eq_ok parsed
  cases returned
  obtain ⟨pre, rfl, d⟩ := ih.parse operand
  exact ⟨⟨tok, pos⟩ :: pre, rfl, rule d⟩

theorem notExpr_sound {ls rest : List Lexeme} {e : Expr}
    (parsed : s.notExpr (fuel + 1) ls = .ok (e, rest)) :
    ∃ pre, ls = pre ++ rest ∧ Derives .not (pre.map (·.token)) e := by
  by_cases negated : ∃ pos ls', ls = ⟨.kwNot, pos⟩ :: ls'
  · obtain ⟨pos, ls, rfl⟩ := negated
    rw [notExpr.eq_2] at parsed
    exact unaryOperand_sound ih Derives.not parsed
  · rw [notExpr.eq_3 _ _ _ fun pos ls' first => negated ⟨pos, ls', first⟩] at parsed
    obtain ⟨pre, rfl, d⟩ := parseAt_chain_sound ih (show Level.comparison.chains from rfl)
      (show s.parseAt .comparison (fuel + 1) ls = _ from parsed)
    exact ⟨pre, rfl, .lift (by decide) d⟩

theorem power_sound {ls rest : List Lexeme} {e : Expr}
    (parsed : s.power (fuel + 1) ls = .ok (e, rest)) :
    ∃ pre, ls = pre ++ rest ∧ Derives .power (pre.map (·.token)) e := by
  rw [power.eq_2] at parsed
  obtain ⟨⟨u, mid⟩, operand, returned⟩ := bind_eq_ok parsed
  obtain ⟨pre₁, rfl, d₁⟩ := ih.parse (show s.parseAt .unary fuel ls = _ from operand)
  cases mid with
  | nil =>
      cases returned
      exact ⟨pre₁, by simp, .lift (by decide) d₁⟩
  | cons l mid =>
      dsimp only at returned
      by_cases pow : isPow l.token = true
      · rw [if_pos pow] at returned
        obtain ⟨⟨p, after⟩, exponent, done⟩ := bind_eq_ok returned
        cases done
        obtain ⟨pre₂, rfl, d₂⟩ := ih.parse (show s.parseAt .power fuel mid = _ from exponent)
        refine ⟨pre₁ ++ l :: pre₂, by simp, ?_⟩
        simpa [eq_pow_of_isPow pow] using Derives.pow d₁ d₂
      · rw [if_neg pow] at returned
        cases returned
        exact ⟨pre₁, by simp, .lift (by decide) d₁⟩

theorem unary_sound {ls rest : List Lexeme} {e : Expr}
    (parsed : s.unary (fuel + 1) ls = .ok (e, rest)) :
    ∃ pre, ls = pre ++ rest ∧ Derives .unary (pre.map (·.token)) e := by
  by_cases negated : ∃ pos ls', ls = ⟨.minus, pos⟩ :: ls'
  · obtain ⟨pos, ls, rfl⟩ := negated
    rw [unary.eq_2] at parsed
    exact unaryOperand_sound ih Derives.neg parsed
  by_cases signed : ∃ pos ls', ls = ⟨.plus, pos⟩ :: ls'
  · obtain ⟨pos, ls, rfl⟩ := signed
    rw [unary.eq_3] at parsed
    exact unaryOperand_sound ih Derives.pos parsed
  rw [unary.eq_4 _ _ _ (fun pos ls' first => negated ⟨pos, ls', first⟩)
    (fun pos ls' first => signed ⟨pos, ls', first⟩)] at parsed
  obtain ⟨pre, rfl, d⟩ := ih.parse (show s.parseAt .atom fuel ls = _ from parsed)
  exact ⟨pre, rfl, .lift (by decide) d⟩

theorem callArguments_sound {ls rest : List Lexeme} {es : List Expr}
    (parsed : s.callArguments (fuel + 1) ls = .ok (es, rest)) :
    ∃ pre, ls = pre ++ rest ∧ ((pre.map (·.token) = [.rparen] ∧ es = []) ∨
      ∃ ts, pre.map (·.token) = ts ++ [.rparen] ∧ Arguments ts es) := by
  by_cases closed : ∃ pos ls', ls = ⟨.rparen, pos⟩ :: ls'
  · obtain ⟨pos, ls, rfl⟩ := closed
    rw [callArguments.eq_2] at parsed
    cases parsed
    exact ⟨[⟨.rparen, pos⟩], rfl, .inl ⟨rfl, rfl⟩⟩
  rw [callArguments.eq_3 _ _ _ fun pos ls' first => closed ⟨pos, ls', first⟩] at parsed
  obtain ⟨⟨x, mid⟩, first, more⟩ := bind_eq_ok parsed
  obtain ⟨pre₁, rfl, d₁⟩ := ih.parse (show s.parseAt .or fuel ls = _ from first)
  obtain ⟨pre₂, rfl, us, closing, args⟩ := ih.more more (Arguments.single d₁)
  exact ⟨pre₁ ++ pre₂, by simp, .inr ⟨_, by simp [closing], args⟩⟩

theorem argumentsRest_sound {acc : List Expr} {ls rest : List Lexeme} {es : List Expr}
    (returned : s.argumentsRest (fuel + 1) acc ls = .ok (es, rest)) {ts : List Token}
    (args : Arguments ts acc.reverse) :
    ∃ pre, ls = pre ++ rest ∧ ∃ us, pre.map (·.token) = us ++ [.rparen] ∧
      Arguments (ts ++ us) es := by
  by_cases closed : ∃ pos ls', ls = ⟨.rparen, pos⟩ :: ls'
  · obtain ⟨pos, ls, rfl⟩ := closed
    rw [argumentsRest.eq_2] at returned
    cases returned
    exact ⟨[⟨.rparen, pos⟩], rfl, [], rfl, by simpa using args⟩
  by_cases separated : ∃ pos ls', ls = ⟨.comma, pos⟩ :: ls'
  · obtain ⟨pos, ls, rfl⟩ := separated
    rw [argumentsRest.eq_3] at returned
    obtain ⟨⟨x, mid⟩, first, more⟩ := bind_eq_ok returned
    obtain ⟨pre₁, rfl, d₁⟩ := ih.parse (show s.parseAt .or fuel ls = _ from first)
    have grown : Arguments (ts ++ .comma :: pre₁.map (·.token)) (x :: acc).reverse := by
      rw [List.reverse_cons]
      exact args.snoc d₁
    obtain ⟨pre₂, rfl, us, closing, all⟩ := ih.more more grown
    exact ⟨⟨.comma, pos⟩ :: (pre₁ ++ pre₂), by simp, .comma :: (pre₁.map (·.token) ++ us),
      by simp [closing], by simpa using all⟩
  rw [argumentsRest.eq_4 _ _ _ _ (fun pos ls' first => closed ⟨pos, ls', first⟩)
    (fun pos ls' first => separated ⟨pos, ls', first⟩)] at returned
  cases returned

/-- A call: the name, `(`, the arguments and `)`. A call of `FIELD` stands for
its one text argument. -/
theorem call_sound {n : String} {pos : Nat} {ls rest : List Lexeme} {e : Expr}
    (parsed : s.atom (fuel + 1) (⟨.name n, pos⟩ :: ls) = .ok (e, rest)) :
    ∃ pre, ⟨.name n, pos⟩ :: ls = pre ++ rest ∧ Derives .atom (pre.map (·.token)) e := by
  by_cases opened : ∃ q ls', ls = ⟨.lparen, q⟩ :: ls'
  · obtain ⟨q, ls, rfl⟩ := opened
    rw [atom.eq_8] at parsed
    obtain ⟨⟨args, mid⟩, called, returned⟩ := bind_eq_ok parsed
    obtain ⟨pre, rfl, shape⟩ := ih.arguments called
    dsimp only at returned
    by_cases field : (Text.toUpper n == "FIELD") = true
    · rw [if_pos field] at returned
      split at returned
      · cases returned
      split at returned
      · rename_i found
        cases returned
        obtain ⟨text, rfl, rfl⟩ := fieldCall?_eq_some found
        rcases shape with ⟨-, empty⟩ | ⟨ts, closing, arguments⟩
        · cases empty
        · exact ⟨⟨.name n, pos⟩ :: ⟨.lparen, q⟩ :: pre, by simp,
            by simpa [closing] using Derives.fieldCall (beq_iff_eq.mp field) arguments⟩
      · cases returned
    · rw [if_neg field] at returned
      cases returned
      have notField : Text.toUpper n ≠ "FIELD" := fun same => field (beq_iff_eq.mpr same)
      rcases shape with ⟨closing, rfl⟩ | ⟨ts, closing, arguments⟩
      · exact ⟨⟨.name n, pos⟩ :: ⟨.lparen, q⟩ :: pre, by simp,
          by simpa [closing] using Derives.callEmpty notField⟩
      · exact ⟨⟨.name n, pos⟩ :: ⟨.lparen, q⟩ :: pre, by simp,
          by simpa [closing] using Derives.call notField arguments⟩
  · rw [atom.eq_9 _ _ _ _ _ fun q ls' first => opened ⟨q, ls', first⟩] at parsed
    cases parsed

theorem atom_sound {ls rest : List Lexeme} {e : Expr}
    (parsed : s.atom (fuel + 1) ls = .ok (e, rest)) :
    ∃ pre, ls = pre ++ rest ∧ Derives .atom (pre.map (·.token)) e := by
  cases ls with
  | nil => cases parsed
  | cons l ls =>
      obtain ⟨t, pos⟩ := l
      cases t
      case number n =>
        cases parsed
        exact ⟨[⟨.number n, pos⟩], rfl, .number n⟩
      case string text =>
        cases parsed
        exact ⟨[⟨.string text, pos⟩], rfl, .string text⟩
      case boolean b =>
        cases parsed
        exact ⟨[⟨.boolean b, pos⟩], rfl, .boolean b⟩
      case null =>
        cases parsed
        exact ⟨[⟨.null, pos⟩], rfl, .null⟩
      case fieldRef n =>
        cases parsed
        exact ⟨[⟨.fieldRef n, pos⟩], rfl, .fieldRef n⟩
      case lparen =>
        rw [atom.eq_7] at parsed
        obtain ⟨⟨x, mid⟩, inner, closing⟩ := bind_eq_ok parsed
        obtain ⟨pre, rfl, d⟩ := ih.parse (show s.parseAt .or fuel ls = _ from inner)
        dsimp only at closing
        split at closing
        · rename_i q after
          cases closing
          exact ⟨⟨.lparen, pos⟩ :: (pre ++ [⟨.rparen, q⟩]), by simp, by simpa using Derives.paren d⟩
        · cases closing
      case name n => exact call_sound ih parsed
      all_goals cases parsed

theorem SoundAt.succ : s.SoundAt (fuel + 1) where
  parse {lv} _ _ _ parsed := by
    cases chains : lv.chains
    · cases lv
      case not => exact notExpr_sound ih parsed
      case power => exact power_sound ih parsed
      case unary => exact unary_sound ih parsed
      case atom => exact atom_sound ih parsed
      all_goals cases chains
    · exact parseAt_chain_sound ih chains parsed
  rest returned _ d := restAt_sound ih returned d
  arguments parsed := callArguments_sound ih parsed
  more returned _ args := argumentsRest_sound ih returned args

end Step

theorem soundAt (fuel : Nat) : s.SoundAt fuel := by
  induction fuel with
  | zero => exact soundAt_zero s
  | succ fuel ih => exact ih.succ

end Stream

end FieldCalc.Formula
