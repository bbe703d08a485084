import FieldCalc.Proofs.Formula.ParseSound

/-!
# The parser reads every phrase

A phrase of the grammar, followed by tokens that cannot continue it (`Stops`),
is read by the parser of its level, which leaves those tokens, as long as it
has more fuel than the phrase costs: sixteen per token and the height of the
level. The induction is on that cost and not on the derivation, since a chain
is read from the left (`Derives.chainForm`) and the phrases the parser meets
are then no sub-derivations; each of them costs less than the whole.

With soundness this gives `parse_eq_ok_iff`: a formula parses exactly when the
lexer reads it to its end into the tokens of a sentence, and the tree returned
is the sentence's.
-/

namespace FieldCalc.Formula

/-- What reading a phrase of a level costs the parser: sixteen fuel per token,
and the height of the level. -/
def Level.cost (lv : Level) (ts : List Token) : Nat := 16 * ts.length + lv.height

namespace Stream

/-- Every phrase that costs less than `m` is read by the parser of its level. -/
def ParsesBelow (s : Stream) (m : Nat) : Prop :=
  ∀ ⦃lv ts e⦄, Derives lv ts e → lv.cost ts < m →
    ∀ ⦃pre rest : List Lexeme⦄ ⦃fuel : Nat⦄, pre.map (·.token) = ts →
      Stops lv (rest.map (·.token)) → lv.cost ts < fuel →
        s.parseAt lv fuel (pre ++ rest) = .ok (e, rest)

theorem ParsesBelow.mono {s : Stream} {m m' : Nat} (le : m ≤ m') (parses : s.ParsesBelow m') :
    s.ParsesBelow m :=
  fun _ _ _ d cheap => parses d (Nat.lt_of_lt_of_le cheap le)

theorem head_ne_of_opens {lv : Level} {ts : List Token} {e : Expr} (d : Derives lv ts e)
    {pre rest : List Lexeme} (tokens : pre.map (·.token) = ts) {tok : Token}
    (closed : ¬ lv.Opens tok) (pos : Nat) (after : List Lexeme)
    (first : pre ++ rest = ⟨tok, pos⟩ :: after) : False := by
  obtain ⟨t, head, opens⟩ := d.opens
  cases pre with
  | nil =>
      subst tokens
      simp at head
  | cons l pre =>
      cases first
      subst tokens
      simp only [List.map_cons, List.head?_cons, Option.mem_def, Option.some.injEq] at head
      subst head
      exact closed opens

theorem map_token_eq_cons_iff {pre : List Lexeme} {t : Token} {ts : List Token} :
    pre.map (·.token) = t :: ts ↔ ∃ pos pre', pre = ⟨t, pos⟩ :: pre' ∧ pre'.map (·.token) = ts := by
  constructor
  · intro tokens
    rw [List.map_eq_cons_iff] at tokens
    obtain ⟨⟨t', pos⟩, pre', rfl, rfl, tokens⟩ := tokens
    exact ⟨pos, pre', rfl, tokens⟩
  · rintro ⟨pos, pre', rfl, tokens⟩
    simp [tokens]

theorem map_token_eq_closed_iff {pre : List Lexeme} {ts : List Token} :
    pre.map (·.token) = ts ++ [.rparen] ↔
      ∃ inner q, pre = inner ++ [⟨.rparen, q⟩] ∧ inner.map (·.token) = ts := by
  constructor
  · intro tokens
    rw [List.map_eq_append_iff] at tokens
    obtain ⟨inner, closing, rfl, tokens, closed⟩ := tokens
    obtain ⟨⟨t, q⟩, rfl, rfl⟩ := List.map_eq_singleton_iff.mp closed
    exact ⟨inner, q, rfl, tokens⟩
  · rintro ⟨inner, q, rfl, tokens⟩
    simp [tokens]

section Complete

variable {s : Stream}

theorem argumentsRest_complete {m : Nat} (ih : s.ParsesBelow m) :
    ∀ {us es}, Arguments us es → 16 * us.length + 10 ≤ m →
      ∀ (acc : List Expr) (fuel : Nat) {pre rest : List Lexeme} {cpos q : Nat},
        pre.map (·.token) = us → 16 * us.length + 16 < fuel →
          s.argumentsRest fuel acc (⟨.comma, cpos⟩ :: (pre ++ ⟨.rparen, q⟩ :: rest)) =
            .ok (acc.reverse ++ es, rest) := by
  intro us es args
  -- on the expressions still to read; each is followed by a comma or the closing parenthesis
  induction es generalizing us with
  | nil => cases args
  | cons e es complete =>
  cases args with
  | single d =>
      intro bound acc fuel pre rest cpos q tokens enough
      obtain ⟨g, rfl⟩ : ∃ g, fuel = g + 1 + 1 := ⟨fuel - 2, by omega⟩
      have first : s.expression (g + 1) (pre ++ ⟨.rparen, q⟩ :: rest) =
          .ok (e, ⟨.rparen, q⟩ :: rest) :=
        ih d (by simp only [Level.cost, Level.height]; omega) tokens (Stops.of_bindingLevel rfl _)
          (show Level.or.cost _ < g + 1 by simp only [Level.cost, Level.height]; omega)
      rw [argumentsRest.eq_3, first, ok_bind]
      simp [argumentsRest.eq_2]
  | cons d more =>
      intro bound acc fuel pre rest cpos q tokens enough
      obtain ⟨pre₁, pre₂, rfl, tokens₁, tokens₂⟩ := List.map_eq_append_iff.mp tokens
      rw [map_token_eq_cons_iff] at tokens₂
      obtain ⟨cpos', preU, rfl, tokensU⟩ := tokens₂
      simp only [List.length_append, List.length_cons] at bound enough
      obtain ⟨g, rfl⟩ : ∃ g, fuel = g + 1 := ⟨fuel - 1, by omega⟩
      have first : s.expression g (pre₁ ++ ⟨.comma, cpos'⟩ :: (preU ++ ⟨.rparen, q⟩ :: rest)) =
          .ok (e, ⟨.comma, cpos'⟩ :: (preU ++ ⟨.rparen, q⟩ :: rest)) :=
        ih d (by simp only [Level.cost, Level.height]; omega) tokens₁ (Stops.of_bindingLevel rfl _)
          (by simp only [Level.cost, Level.height]; omega)
      rw [argumentsRest.eq_3, List.append_assoc, List.cons_append, first, ok_bind]
      dsimp only
      rw [complete more (by omega) (e :: acc) g tokensU (by omega)]
      simp

theorem callArguments_complete {ts : List Token} {es : List Expr} (args : Arguments ts es)
    (ih : s.ParsesBelow (16 * ts.length + 10)) {pre rest : List Lexeme} {fuel q : Nat}
    (tokens : pre.map (·.token) = ts) (enough : 16 * ts.length + 10 < fuel) :
    s.callArguments fuel (pre ++ ⟨.rparen, q⟩ :: rest) = .ok (es, rest) := by
  obtain ⟨g, rfl⟩ : ∃ g, fuel = g + 1 := ⟨fuel - 1, by omega⟩
  cases args with
  | @single ts e d =>
      rw [callArguments.eq_3 _ _ _ (head_ne_of_opens d tokens (by simp [Level.Opens]))]
      have first : s.expression g (pre ++ ⟨.rparen, q⟩ :: rest) = .ok (e, ⟨.rparen, q⟩ :: rest) :=
        ih d (by simp only [Level.cost, Level.height]; omega) tokens (Stops.of_bindingLevel rfl _)
          (by simp only [Level.cost, Level.height]; omega)
      obtain ⟨h, rfl⟩ : ∃ h, g = h + 1 := ⟨g - 1, by omega⟩
      rw [first, ok_bind]
      simp [argumentsRest.eq_2]
  | @cons ts us e es d more =>
      obtain ⟨pre₁, pre₂, rfl, tokens₁, tokens₂⟩ := List.map_eq_append_iff.mp tokens
      rw [map_token_eq_cons_iff] at tokens₂
      obtain ⟨cpos, preU, rfl, tokensU⟩ := tokens₂
      simp only [List.length_append, List.length_cons] at ih enough
      rw [List.append_assoc, List.cons_append, callArguments.eq_3 _ _ _
        (head_ne_of_opens d tokens₁ (by simp [Level.Opens]))]
      have first : s.expression g (pre₁ ++ ⟨.comma, cpos⟩ :: (preU ++ ⟨.rparen, q⟩ :: rest)) =
          .ok (e, ⟨.comma, cpos⟩ :: (preU ++ ⟨.rparen, q⟩ :: rest)) :=
        ih d (by simp only [Level.cost, Level.height]; omega) tokens₁ (Stops.of_bindingLevel rfl _)
          (by simp only [Level.cost, Level.height]; omega)
      rw [first, ok_bind]
      dsimp only
      rw [argumentsRest_complete ih more (by omega) [e] g tokensU (by omega)]
      rfl

theorem restAt_complete {lv : Level} {left : Expr} {us : List Token} {e : Expr}
    (tail : Tail lv left us e) (ih : s.ParsesBelow (16 * us.length)) {pre rest : List Lexeme}
    {fuel : Nat} (tokens : pre.map (·.token) = us) (stops : Stops lv (rest.map (·.token)))
    (enough : 16 * us.length < fuel) : s.restAt lv fuel left (pre ++ rest) = .ok (e, rest) := by
  induction tail generalizing pre fuel with
  | @nil left =>
      obtain rfl : pre = [] := List.map_eq_nil_iff.mp tokens
      rw [List.nil_append]
      cases chains : lv.chains
      · exact restAt_of_not_chains s chains fuel left rest
      obtain ⟨f, rfl⟩ : ∃ f, fuel = f + 1 := ⟨fuel - 1, by omega⟩
      rw [restAt_succ s chains]
      cases rest with
      | nil => rfl
      | cons l rest => simp [chainStep, stops.operator_eq_none]
  | @cons left t o vs r ws e op d more ihTail =>
      obtain ⟨l, pre, rfl, first, tokens⟩ := List.map_eq_cons_iff.mp tokens
      obtain ⟨preV, preW, rfl, tokensV, tokensW⟩ := List.map_eq_append_iff.mp tokens
      obtain ⟨f, rfl⟩ : ∃ f, fuel = f + 1 := ⟨fuel - 1, by omega⟩
      simp only [List.length_cons, List.length_append] at ih enough
      have operand : s.parseAt lv.next f (preV ++ (preW ++ rest)) = .ok (r, preW ++ rest) :=
        ih d (by have := lv.next.height_le; simp only [Level.cost]; omega) tokensV
          (by rw [List.map_append, tokensW]; exact more.stops stops)
          (by have := lv.next.height_le; simp only [Level.cost]; omega)
      rw [restAt_succ s (chains_of_operator op), List.cons_append, List.append_assoc]
      simp only [chainStep, first, op, operand, ok_bind]
      exact ihTail (ih.mono (by omega)) tokensW (by omega)

/-- A call with arguments: `atom` reads the name, `(` and the arguments, then
decides on the name. -/
theorem callArguments_read {n : String} {ts : List Token} {es : List Expr}
    (args : Arguments ts es)
    (ih : s.ParsesBelow (Level.atom.cost (.name n :: .lparen :: (ts ++ [.rparen]))))
    {pre rest : List Lexeme} {fuel : Nat}
    (tokens : pre.map (·.token) = .name n :: .lparen :: (ts ++ [.rparen]))
    (enough : Level.atom.cost (.name n :: .lparen :: (ts ++ [.rparen])) < fuel) :
    ∃ f p₁ p₂ ls, fuel = f + 1 ∧ pre ++ rest = ⟨.name n, p₁⟩ :: ⟨.lparen, p₂⟩ :: ls ∧
      s.callArguments f ls = .ok (es, rest) := by
  rw [map_token_eq_cons_iff] at tokens
  obtain ⟨p₁, pre, rfl, tokens⟩ := tokens
  rw [map_token_eq_cons_iff] at tokens
  obtain ⟨p₂, pre, rfl, tokens⟩ := tokens
  rw [map_token_eq_closed_iff] at tokens
  obtain ⟨inner, q, rfl, tokens⟩ := tokens
  simp only [Level.cost, Level.height, List.length_cons, List.length_append,
    List.length_nil] at ih enough
  obtain ⟨f, rfl⟩ : ∃ f, fuel = f + 1 := ⟨fuel - 1, by omega⟩
  refine ⟨f, p₁, p₂, inner ++ ⟨.rparen, q⟩ :: rest, rfl, by simp, ?_⟩
  exact callArguments_complete args (ih.mono (by omega)) tokens (by omega)

theorem unaryOperand_complete {lv : Level} {tok : Token} {op : UnOp} {ts : List Token} {e : Expr}
    (d : Derives lv ts e) (ih : s.ParsesBelow (lv.cost (tok :: ts))) {pre rest : List Lexeme}
    {fuel : Nat} (tokens : pre.map (·.token) = ts) (stops : Stops lv (rest.map (·.token)))
    (enough : lv.cost (tok :: ts) < fuel + 1) :
    (s.parseAt lv fuel (pre ++ rest) >>= fun p => pure (Expr.unary op p.1, p.2)) =
      .ok (.unary op e, rest) := by
  rw [ih d (by simp [Level.cost]) tokens stops
    (by simp only [Level.cost, List.length_cons] at enough ⊢; omega)]
  rfl

/-! ### One step for each level -/

section Step

variable {lv : Level} {ts : List Token} {e : Expr} (d : Derives lv ts e)
  (ih : s.ParsesBelow (lv.cost ts)) {pre rest : List Lexeme} {fuel : Nat}
  (tokens : pre.map (·.token) = ts) (stops : Stops lv (rest.map (·.token)))
  (enough : lv.cost ts < fuel)
include d ih tokens stops enough

theorem chain_complete (chains : lv.chains) : s.parseAt lv fuel (pre ++ rest) = .ok (e, rest) := by
  obtain ⟨first, e₀, more, rfl, d₀, tail⟩ := d.chainForm chains
  obtain ⟨pre₁, pre₂, rfl, tokens₁, tokens₂⟩ := List.map_eq_append_iff.mp tokens
  obtain ⟨f, rfl⟩ : ∃ f, fuel = f + 1 := ⟨fuel - 1, by omega⟩
  have height := Level.height_next (Level.ne_atom_of_chains chains)
  simp only [Level.cost, List.length_append] at ih enough
  have operand : s.parseAt lv.next f (pre₁ ++ (pre₂ ++ rest)) = .ok (e₀, pre₂ ++ rest) :=
    ih d₀ (by simp only [Level.cost]; omega) tokens₁
      (by rw [List.map_append, tokens₂]; exact tail.stops stops) (by simp only [Level.cost]; omega)
  rw [parseAt_chain s chains, List.append_assoc, operand, ok_bind]
  exact restAt_complete tail (ih.mono (by omega)) tokens₂ stops (by omega)

theorem not_complete (level : lv = .not) : s.parseAt lv fuel (pre ++ rest) = .ok (e, rest) := by
  subst level
  obtain ⟨f, rfl⟩ : ∃ f, fuel = f + 1 := ⟨fuel - 1, by omega⟩
  cases d with
  | lift _ d =>
      show s.notExpr (f + 1) (pre ++ rest) = _
      rw [notExpr.eq_3 _ _ _
        (head_ne_of_opens d tokens (by simp [Level.Opens, Level.height, Level.next]))]
      exact ih d (by simp [Level.cost, Level.height, Level.next]) tokens stops.next
        (show Level.comparison.cost ts < f + 1 by
          simp only [Level.cost, Level.height] at enough ⊢; omega)
  | not d =>
      rw [map_token_eq_cons_iff] at tokens
      obtain ⟨pos, pre, rfl, tokens⟩ := tokens
      exact (notExpr.eq_2 s f pos (pre ++ rest)).trans
        (unaryOperand_complete d ih tokens stops enough)
  | chain _ op _ => cases chains_of_operator op

theorem power_complete (level : lv = .power) : s.parseAt lv fuel (pre ++ rest) = .ok (e, rest) := by
  subst level
  obtain ⟨f, rfl⟩ : ∃ f, fuel = f + 1 := ⟨fuel - 1, by omega⟩
  show s.power (f + 1) (pre ++ rest) = _
  rw [power.eq_2]
  cases d with
  | lift _ d =>
      have operand : s.unary f (pre ++ rest) = .ok (e, rest) :=
        ih d (by simp [Level.cost, Level.height, Level.next]) tokens (stops_unary _)
          (by simp only [Level.cost, Level.height, Level.next] at enough ⊢; omega)
      rw [operand, ok_bind]
      cases rest with
      | nil => rfl
      | cons l rest =>
          have notPow : isPow l.token = false := by
            cases pow : isPow l.token
            · rfl
            · have := stops l.token rfl .power (by rw [eq_pow_of_isPow pow]; rfl)
              exact absurd this (Nat.lt_irrefl _)
          simp [notPow, pure, Except.pure]
  | @pow ts₁ ts₂ u p d₁ d₂ =>
      rw [List.map_eq_append_iff] at tokens
      obtain ⟨pre₁, pre₂, rfl, tokens₁, tokens₂⟩ := tokens
      rw [map_token_eq_cons_iff] at tokens₂
      obtain ⟨pos, pre₂, rfl, tokens₂⟩ := tokens₂
      simp only [Level.cost, List.length_append, List.length_cons] at ih enough
      have base : s.unary f (pre₁ ++ (⟨.op .pow, pos⟩ :: pre₂ ++ rest)) =
          .ok (u, ⟨.op .pow, pos⟩ :: pre₂ ++ rest) :=
        ih d₁ (by simp only [Level.cost, Level.height]; omega) tokens₁ (stops_unary _)
          (by simp only [Level.cost, Level.height]; omega)
      have exponent : s.power f (pre₂ ++ rest) = .ok (p, rest) :=
        ih d₂ (by simp only [Level.cost, Level.height]; omega) tokens₂ stops
          (by simp only [Level.cost, Level.height]; omega)
      rw [List.append_assoc, base, ok_bind]
      simp only [List.cons_append, isPow, if_true, exponent]
      rfl
  | chain _ op _ => cases chains_of_operator op

theorem unary_complete (level : lv = .unary) : s.parseAt lv fuel (pre ++ rest) = .ok (e, rest) := by
  subst level
  obtain ⟨f, rfl⟩ : ∃ f, fuel = f + 1 := ⟨fuel - 1, by omega⟩
  simp only [Level.cost, Level.height] at enough
  cases d with
  | lift _ d =>
      show s.unary (f + 1) (pre ++ rest) = _
      rw [unary.eq_4 _ _ _
        (head_ne_of_opens d tokens (by simp [Level.Opens, Level.height, Level.next]))
        (head_ne_of_opens d tokens (by simp [Level.Opens, Level.height, Level.next]))]
      exact ih d (by simp [Level.cost, Level.height, Level.next]) tokens stops.next
        (show Level.atom.cost ts < f by simp only [Level.cost, Level.height]; omega)
  | neg d =>
      rw [map_token_eq_cons_iff] at tokens
      obtain ⟨pos, pre, rfl, tokens⟩ := tokens
      exact (unary.eq_2 s f pos (pre ++ rest)).trans
        (unaryOperand_complete d ih tokens stops enough)
  | pos d =>
      rw [map_token_eq_cons_iff] at tokens
      obtain ⟨pos, pre, rfl, tokens⟩ := tokens
      exact (unary.eq_3 s f pos (pre ++ rest)).trans
        (unaryOperand_complete d ih tokens stops enough)
  | chain _ op _ => cases chains_of_operator op

theorem atom_complete (live : s.stuck = false) (level : lv = .atom) :
    s.parseAt lv fuel (pre ++ rest) = .ok (e, rest) := by
  subst level
  cases d with
  | number _ | string _ | boolean _ | fieldRef _ | null =>
      obtain ⟨⟨t, pos⟩, rfl, rfl⟩ := List.map_eq_singleton_iff.mp tokens
      obtain ⟨f, rfl⟩ : ∃ f, fuel = f + 1 := ⟨fuel - 1, by simp [Level.cost] at enough; omega⟩
      rfl
  | @paren ts e d =>
      rw [map_token_eq_cons_iff] at tokens
      obtain ⟨pos, pre, rfl, tokens⟩ := tokens
      rw [map_token_eq_closed_iff] at tokens
      obtain ⟨inner, q, rfl, tokens⟩ := tokens
      simp only [Level.cost, Level.height, List.length_cons, List.length_append,
        List.length_nil] at ih enough
      obtain ⟨f, rfl⟩ : ∃ f, fuel = f + 1 := ⟨fuel - 1, by omega⟩
      have operand : s.expression f (inner ++ ⟨.rparen, q⟩ :: rest) = .ok (e, ⟨.rparen, q⟩ :: rest) :=
        ih d (by simp only [Level.cost, Level.height]; omega) tokens (Stops.of_bindingLevel rfl _)
          (by simp only [Level.cost, Level.height]; omega)
      show s.atom (f + 1) (⟨.lparen, pos⟩ :: (inner ++ [⟨.rparen, q⟩]) ++ rest) = _
      rw [List.cons_append, List.append_assoc, List.singleton_append, atom.eq_7, operand, ok_bind]
      rfl
  | callEmpty notField =>
      rw [map_token_eq_cons_iff] at tokens
      obtain ⟨p₁, pre, rfl, tokens⟩ := tokens
      rw [map_token_eq_cons_iff] at tokens
      obtain ⟨p₂, pre, rfl, tokens⟩ := tokens
      obtain ⟨⟨t, p₃⟩, rfl, rfl⟩ := List.map_eq_singleton_iff.mp tokens
      obtain ⟨f, rfl⟩ : ∃ f, fuel = f + 1 + 1 := ⟨fuel - 2, by simp [Level.cost] at enough; omega⟩
      show s.atom (f + 1 + 1) (⟨.name _, p₁⟩ :: ⟨.lparen, p₂⟩ :: ⟨.rparen, p₃⟩ :: rest) = _
      rw [atom.eq_8, callArguments.eq_2, ok_bind]
      simp [notField, pure, Except.pure]
  | call notField args =>
      obtain ⟨f, p₁, p₂, ls, rfl, split, called⟩ := callArguments_read args ih tokens enough
      show s.atom (f + 1) (pre ++ rest) = _
      rw [split, atom.eq_8, called, ok_bind]
      simp [notField, pure, Except.pure]
  | fieldCall field args =>
      obtain ⟨f, p₁, p₂, ls, rfl, split, called⟩ := callArguments_read args ih tokens enough
      show s.atom (f + 1) (pre ++ rest) = _
      rw [split, atom.eq_8, called, ok_bind]
      simp [field, live, fieldCall?, pure, Except.pure]
  | lift notAtom _ => exact absurd rfl notAtom
  | chain _ op _ => cases chains_of_operator op

end Step

theorem ParsesBelow.succ (live : s.stuck = false) {m : Nat} (ih : s.ParsesBelow m) :
    s.ParsesBelow (m + 1) := by
  intro lv ts e d cheap pre rest fuel tokens stops enough
  -- the phrase costs at most `m`, so every phrase cheaper than it is read
  have below : s.ParsesBelow (lv.cost ts) := ih.mono (by omega)
  cases chains : lv.chains
  · cases lv
    case not => exact not_complete d below tokens stops enough rfl
    case power => exact power_complete d below tokens stops enough rfl
    case unary => exact unary_complete d below tokens stops enough rfl
    case atom => exact atom_complete d below tokens stops enough live rfl
    all_goals cases chains
  · exact chain_complete d below tokens stops enough chains

theorem parsesBelow (live : s.stuck = false) (m : Nat) : s.ParsesBelow m := by
  induction m with
  | zero => exact fun _ _ _ _ cheap => absurd cheap (Nat.not_lt_zero _)
  | succ m ih => exact ih.succ live

theorem expression_complete (live : s.stuck = false) {ls : List Lexeme} {e : Expr}
    (d : Derives .or (ls.map (·.token)) e) {fuel : Nat}
    (enough : Level.or.cost (ls.map (·.token)) < fuel) : s.expression fuel ls = .ok (e, []) := by
  have read : s.parseAt .or fuel (ls ++ []) = .ok (e, []) :=
    parsesBelow live _ d (Nat.lt_succ_self _) rfl Stops.nil enough
  rwa [List.append_nil] at read

end Complete

theorem expression_sound {s : Stream} {fuel : Nat} {ls rest : List Lexeme} {e : Expr}
    (parsed : s.expression fuel ls = .ok (e, rest)) :
    ∃ pre, ls = pre ++ rest ∧ Derives .or (pre.map (·.token)) e :=
  (soundAt s fuel).parse (show s.parseAt .or fuel ls = _ from parsed)

end Stream

/-- A formula parses exactly when the lexer reads it to its end into the tokens
of a sentence of the grammar, and the tree returned is the sentence's. -/
theorem parse_eq_ok_iff (src : String) (e : Expr) :
    parse src = .ok e ↔ (lex src).2 = .done ∧ Derives .or ((lex src).1.map (·.token)) e := by
  unfold parse
  cases lex src with
  | mk toks fin =>
    cases fin with
    | stuck p =>
        refine ⟨fun parsed => ?_, fun ⟨stuck, _⟩ => by cases stuck⟩
        dsimp only at parsed
        split at parsed
        · cases parsed
        · simp at parsed
    | done =>
        dsimp only
        constructor
        · intro parsed
          split at parsed
          · cases parsed
          · rename_i e' rest read
            split at parsed
            · rename_i finished
              cases parsed
              obtain rfl : rest = [] := by simpa using finished
              obtain ⟨pre, rfl, d⟩ := Stream.expression_sound read
              exact ⟨rfl, by simpa using d⟩
            · cases parsed
        · rintro ⟨-, d⟩
          rw [Stream.expression_complete rfl d (by simp only [Level.cost, Level.height, List.length_map]; omega)]
          rfl

/-- The error a text fails to parse with, `none` when it parses: the result of
a parse without its tree, so that the failure on a given text can be decided. -/
def parseError? (s : String) : Option ParseError :=
  match parse s with
  | .error e => some e
  | .ok _ => none

theorem parse_eq_error_of_parseError? {s : String} {e : ParseError}
    (reported : parseError? s = some e) : parse s = .error e := by
  unfold parseError? at reported
  cases parsed : parse s <;> simp_all

/-- `field(1)` is read to its end as a name called with one argument, the shape
in which `f(1)` parses, but a call of `FIELD` whose argument is no text does
not parse. -/
theorem field_call_of_number_fails :
    (lex "field(1)").2 = .done ∧
      (lex "field(1)").1.map (·.token) = [.name "field", .lparen, .number (.int 1), .rparen] ∧
      (lex "f(1)").1.map (·.token) = [.name "f", .lparen, .number (.int 1), .rparen] ∧
      parse "f(1)" = .ok (.call "F" [.number (.int 1)]) ∧
      parse "field(1)" = .error .fieldCall := by
  refine ⟨by decide +kernel, ?_, ?_, ?_, parse_eq_error_of_parseError? (by decide +kernel)⟩ <;>
    with_unfolding_all rfl

theorem Derives.tree_unique {ts : List Token} {e₁ e₂ : Expr} (d₁ : Derives .or ts e₁)
    (d₂ : Derives .or ts e₂) : e₁ = e₂ := by
  -- read the tokens as lexemes on a stream that is not stuck: the parser is a function
  have tokens : (ts.map fun t => (⟨t, 0⟩ : Lexeme)).map (·.token) = ts := by
    simp [Function.comp_def]
  have enough : Level.or.cost ((ts.map fun t => (⟨t, 0⟩ : Lexeme)).map (·.token)) <
      16 * ts.length + 10 := by
    simp [Level.cost, Level.height]
  rw [← tokens] at d₁ d₂
  have read := Stream.expression_complete (s := ⟨0, false⟩) rfl d₁ enough
  rw [Stream.expression_complete rfl d₂ enough] at read
  cases read
  rfl

end FieldCalc.Formula
