import FieldCalc.Proofs.Formula.Viability
import FieldCalc.Proofs.Formula.Balance
import FieldCalc.Formula.Engine

/-!
# Where a formula fails to parse

A formula that does not parse for a reason of the grammar fails at the first
token where its tokens stop being a viable prefix: the tokens before it begin a
sentence and the token itself cannot extend them. Tokens that do begin a
sentence but end too early fail at the last token, and a text with a
character where no token starts fails there.

The parser decides at each token from what it has read so far. A run that
fails is described by `Failure`: either the tokens ran out, and they all begin
the phrase being read; or the run failed at a token `t`, the tokens before `t`
begin the phrase, and every run on a list that starts with the same lexemes up
to `t`, names of calls forgotten, fails at `t` as well. That replay is what
shows that no sentence goes on past `t`: the parser reads every sentence
(`parse_eq_ok_iff`), so a sentence that began with those tokens would be read
and fail at once. `FailsAt` proves the description of every failing run, by
induction on the fuel, in one step for each function of the parser.
-/

namespace FieldCalc.Formula

theorem bind_eq_error {ε α β : Type} {x : Except ε α} {f : α → Except ε β} {e : ε}
    (run : x >>= f = .error e) : x = .error e ∨ ∃ a, x = .ok a ∧ f a = .error e := by
  cases x with
  | error e' =>
      injection run with same
      exact .inl (congrArg Except.error same)
  | ok a => exact .inr ⟨a, rfl, run⟩

@[simp]
theorem error_bind {ε α β : Type} (e : ε) (f : α → Except ε β) :
    (Except.error e >>= f) = .error e := rfl

theorem replay_head (pre : List Lexeme) (t : Lexeme) (post post' : List Lexeme) :
    (((pre ++ [t]).map Lexeme.shape ++ post').map (·.token)).head? =
      ((pre ++ t :: post).map (·.token)).head?.map Token.shape := by
  cases pre <;> simp

theorem Stops.of_head {lv : Level} {ts us : List Token} (stops : Stops lv ts)
    (head : us.head? = ts.head?.map Token.shape) : Stops lv us := by
  cases us with
  | nil => exact Stops.nil
  | cons u us =>
      cases ts with
      | nil => cases head
      | cons t ts =>
          simp only [List.head?_cons, Option.map_some, Option.some.injEq] at head
          rw [head]
          exact stops.shape us

theorem Token.eq_of_shape_eq {t tok : Token} (plain : ∀ n, tok ≠ .name n) (same : t.shape = tok) :
    t = tok := by
  cases t
  case name n => exact absurd same.symm (plain "CALL")
  all_goals exact same

theorem not_starts_of_replay {ls l' : List Lexeme}
    (head : (l'.map (·.token)).head? = (ls.map (·.token)).head?.map Token.shape) {tok : Token}
    (plain : ∀ n, tok ≠ .name n) (absent : ¬∃ pos rest, ls = ⟨tok, pos⟩ :: rest) :
    ∀ pos rest, l' = ⟨tok, pos⟩ :: rest → False := by
  rintro pos rest rfl
  cases ls with
  | nil => cases head
  | cons l ls =>
      simp only [List.map_cons, List.head?_cons, Option.map_some, Option.some.injEq] at head
      exact absent ⟨l.pos, ls, by rw [← Token.eq_of_shape_eq plain head.symm]⟩

namespace Stream

section Failure

variable (s s' : Stream)

/-- How a run on the lexemes `ls` fails at the position `p`. `begins` says
which tokens begin the phrase the run reads; `fails fuel ls' err` says that the
same run on the stream `s'`, with `fuel`, fails on `ls'` with `err`; `height`
is the fuel the run needs beyond sixteen for each token.

Either the tokens ran out: they all begin the phrase, and when `s` is not
stuck the run fails at the end of the shaped lexemes on `s'` too. Or the run
failed at a token `t`: the tokens before it begin the phrase, and on `s'` the
run fails at `t` on every list that starts with the shaped lexemes up to `t`. -/
def Failure (height : Nat) (begins : List Token → Prop)
    (fails : Nat → List Lexeme → ParseError → Prop) (ls : List Lexeme) (p : Nat) : Prop :=
  (p = s.endPos ∧ begins (ls.map (·.token)) ∧
    (s.stuck = false → ∀ fuel, 16 * ls.length + height < fuel →
      fails fuel (ls.map Lexeme.shape) (.at s'.endPos))) ∨
  ∃ pre t post, ls = pre ++ t :: post ∧ p = t.pos ∧ begins (pre.map (·.token)) ∧
    ∀ fuel post', 16 * (pre.length + 1 + post'.length) + height < fuel →
      fails fuel ((pre ++ [t]).map Lexeme.shape ++ post') (.at t.pos)

variable {s s'}

theorem Failure.at_end {h : Nat} {begins : List Token → Prop}
    {fails : Nat → List Lexeme → ParseError → Prop} {ls : List Lexeme} {p : Nat}
    (atEnd : p = s.endPos) (begun : begins (ls.map (·.token)))
    (replay : s.stuck = false → ∀ g, 16 * ls.length + h < g + 1 →
      fails (g + 1) (ls.map Lexeme.shape) (.at s'.endPos)) :
    Failure s s' h begins fails ls p :=
  .inl ⟨atEnd, begun, fun live f enough => by
    obtain ⟨g, rfl⟩ : ∃ g, f = g + 1 := ⟨f - 1, by omega⟩
    exact replay live g enough⟩

theorem Failure.at_token {h : Nat} {begins : List Token → Prop}
    {fails : Nat → List Lexeme → ParseError → Prop} {ls pre post : List Lexeme} {t : Lexeme}
    {p : Nat} (split : ls = pre ++ t :: post) (atToken : p = t.pos)
    (begun : begins (pre.map (·.token)))
    (replay : ∀ g post', 16 * (pre.length + 1 + post'.length) + h < g + 1 →
      fails (g + 1) ((pre ++ [t]).map Lexeme.shape ++ post') (.at t.pos)) :
    Failure s s' h begins fails ls p :=
  .inr ⟨pre, t, post, split, atToken, begun, fun f post' enough => by
    obtain ⟨g, rfl⟩ : ∃ g, f = g + 1 := ⟨f - 1, by omega⟩
    exact replay g post' enough⟩

/-- A failure of a run that comes after the lexemes `pre` is a failure of the
run that read them: the tokens of `pre` come first, and each replay of the
later run is part of a replay of the whole. -/
theorem Failure.after {h h' : Nat} {begins begins' : List Token → Prop}
    {fails fails' : Nat → List Lexeme → ParseError → Prop} {ls : List Lexeme} {p : Nat}
    (failure : Failure s s' h begins fails ls p) (pre : List Lexeme)
    (grow : ∀ ts, begins ts → begins' (pre.map (·.token) ++ ts))
    (step : ∀ fuel l err, (l.map (·.token)).head? = (ls.map (·.token)).head?.map Token.shape →
      16 * (pre.length + l.length) + h' < fuel →
        ∃ f, 16 * l.length + h < f ∧ (fails f l err → fails' fuel (pre.map Lexeme.shape ++ l) err)) :
    Failure s s' h' begins' fails' (pre ++ ls) p := by
  rcases failure with ⟨atEnd, begun, replay⟩ | ⟨pre₁, t, post, rfl, atToken, begun, replay⟩
  · refine .inl ⟨atEnd, by simpa using grow _ begun, fun live fuel enough => ?_⟩
    obtain ⟨f, adequate, lifted⟩ := step fuel (ls.map Lexeme.shape) (.at s'.endPos)
      (by cases ls <;> simp) (by simpa using enough)
    simpa using lifted (replay live f (by simpa using adequate))
  · refine .inr ⟨pre ++ pre₁, t, post, by simp, atToken, by simpa using grow _ begun,
      fun fuel post' enough => ?_⟩
    obtain ⟨f, adequate, lifted⟩ := step fuel ((pre₁ ++ [t]).map Lexeme.shape ++ post') (.at t.pos)
      (replay_head pre₁ t post post') (by simp only [List.length_append, List.length_map,
        List.length_cons, List.length_nil] at enough ⊢; omega)
    simpa using lifted (replay f post' (by simp only [List.length_append, List.length_map,
      List.length_cons, List.length_nil] at adequate ⊢; omega))

theorem Failure.within {h h' : Nat} {begins begins' : List Token → Prop}
    {fails fails' : Nat → List Lexeme → ParseError → Prop} {ls : List Lexeme} {p : Nat}
    (failure : Failure s s' h begins fails ls p) (grow : ∀ ts, begins ts → begins' ts)
    (step : ∀ fuel l err, (l.map (·.token)).head? = (ls.map (·.token)).head?.map Token.shape →
      16 * l.length + h' < fuel → ∃ f, 16 * l.length + h < f ∧ (fails f l err → fails' fuel l err)) :
    Failure s s' h' begins' fails' ls p :=
  failure.after [] grow (by simpa using step)

/-- `Failure.after` for a whole run that reads `pre` and then makes the later
run with one unit of fuel less: `margin` gives the later run its fuel, and what
is left to show is that the whole run fails wherever the later one does. -/
theorem Failure.after_succ {h h' : Nat} {begins begins' : List Token → Prop}
    {fails fails' : Nat → List Lexeme → ParseError → Prop} {ls : List Lexeme} {p : Nat}
    (failure : Failure s s' h begins fails ls p) (pre : List Lexeme)
    (grow : ∀ ts, begins ts → begins' (pre.map (·.token) ++ ts)) (margin : h < 16 * pre.length + h')
    (step : ∀ g l err, (l.map (·.token)).head? = (ls.map (·.token)).head?.map Token.shape →
      16 * (pre.length + l.length) + h' < g + 1 →
        fails g l err → fails' (g + 1) (pre.map Lexeme.shape ++ l) err) :
    Failure s s' h' begins' fails' (pre ++ ls) p :=
  failure.after pre grow fun f l err head enough => by
    obtain ⟨g, rfl⟩ : ∃ g, f = g + 1 := ⟨f - 1, by omega⟩
    exact ⟨g, by omega, step g l err head enough⟩

theorem Failure.within_succ {h h' : Nat} {begins begins' : List Token → Prop}
    {fails fails' : Nat → List Lexeme → ParseError → Prop} {ls : List Lexeme} {p : Nat}
    (failure : Failure s s' h begins fails ls p) (grow : ∀ ts, begins ts → begins' ts)
    (margin : h < h')
    (step : ∀ g l err, (l.map (·.token)).head? = (ls.map (·.token)).head?.map Token.shape →
      16 * l.length + h' < g + 1 → fails g l err → fails' (g + 1) l err) :
    Failure s s' h' begins' fails' ls p :=
  failure.after_succ [] grow (by simpa using margin) (by simpa using step)

end Failure

/-- At one fuel, every run of the parser with enough fuel that fails at a
position fails as `Failure` says: the parser of a level, the rest of a chain
after a phrase `xs`, and the arguments of a call, first and after some. -/
structure FailsAt (s s' : Stream) (fuel : Nat) : Prop where
  parse {lv : Level} {ls : List Lexeme} {p : Nat} : 16 * ls.length + lv.height < fuel →
    s.parseAt lv fuel ls = .error (.at p) →
      Failure s s' lv.height (Begins lv) (fun f l err => s'.parseAt lv f l = .error err) ls p
  rest {lv : Level} {left : Expr} {xs : List Token} {ls : List Lexeme} {p : Nat} : lv.chains →
    Derives lv xs left → 16 * ls.length + lv.height < fuel →
      s.restAt lv fuel left ls = .error (.at p) →
        Failure s s' lv.height (fun ts => Begins lv (xs ++ ts))
          (fun f l err => ∀ left', s'.restAt lv f left' l = .error err) ls p
  arguments {ls : List Lexeme} {p : Nat} : 16 * ls.length + 10 < fuel →
    s.callArguments fuel ls = .error (.at p) →
      Failure s s' 10 (fun ts => Begins .atom (.name "CALL" :: .lparen :: ts))
        (fun f l err => s'.callArguments f l = .error err) ls p
  more {acc : List Expr} {xs : List Token} {ls : List Lexeme} {p : Nat} :
    Arguments xs acc.reverse → 16 * ls.length + 10 < fuel →
      s.argumentsRest fuel acc ls = .error (.at p) →
        Failure s s' 10 (fun ts => Begins .atom (.name "CALL" :: .lparen :: (xs ++ ts)))
          (fun f l err => ∀ acc', s'.argumentsRest f acc' l = .error err) ls p

theorem failsAt_zero (s s' : Stream) : FailsAt s s' 0 where
  parse adequate := absurd adequate (Nat.not_lt_zero _)
  rest _ _ adequate := absurd adequate (Nat.not_lt_zero _)
  arguments adequate := absurd adequate (Nat.not_lt_zero _)
  more _ adequate := absurd adequate (Nat.not_lt_zero _)

theorem pre_ne_nil {lv : Level} {pre : List Lexeme} {e : Expr} (d : Derives lv (pre.map (·.token)) e) :
    pre ≠ [] := by
  rintro rfl
  obtain ⟨t, first, -⟩ := d.opens
  simp at first

section Step

variable {s s' : Stream} (live : s'.stuck = false) {fuel : Nat} (ih : FailsAt s s' fuel)
include live ih

theorem chain_fails {lv : Level} (chains : lv.chains) {ls : List Lexeme} {p : Nat}
    (adequate : 16 * ls.length + lv.height < fuel + 1)
    (failed : s.parseAt lv (fuel + 1) ls = .error (.at p)) :
    Failure s s' lv.height (Begins lv) (fun f l err => s'.parseAt lv f l = .error err) ls p := by
  have height := Level.height_next (Level.ne_atom_of_chains chains)
  rw [parseAt_chain s chains] at failed
  rcases bind_eq_error failed with first | ⟨⟨l, mid⟩, operand, more⟩
  · -- the first operand fails
    have failure := ih.parse (by omega) first
    refine failure.within_succ (fun ts begun => .lift (Level.ne_atom_of_chains chains) begun)
      (by omega) fun g l' err _ _ operandFails => ?_
    rw [parseAt_chain s' chains, operandFails, error_bind]
  · -- the operand is read, and the rest of the chain fails
    obtain ⟨pre, rfl, d⟩ := (soundAt s fuel).parse operand
    have stops := (stopsAt s fuel).parse operand
    have nonempty : pre.length ≠ 0 := by simpa using pre_ne_nil d
    have failure := ih.rest chains (.lift (Level.ne_atom_of_chains chains) d)
      (by simp at adequate; omega) more
    refine failure.after_succ pre (fun ts begun => begun) (by omega)
      fun g l' err head enough restFails => ?_
    obtain ⟨l'', read⟩ := parseAt_shape live d l' (stops.of_head head) g (by omega)
    rw [parseAt_chain s' chains, read, ok_bind]
    exact restFails l''

theorem restAt_fails {lv : Level} (chains : lv.chains) {left : Expr} {xs : List Token}
    (d : Derives lv xs left) {ls : List Lexeme} {p : Nat}
    (adequate : 16 * ls.length + lv.height < fuel + 1)
    (failed : s.restAt lv (fuel + 1) left ls = .error (.at p)) :
    Failure s s' lv.height (fun ts => Begins lv (xs ++ ts))
      (fun f l err => ∀ left', s'.restAt lv f left' l = .error err) ls p := by
  have height := Level.height_next (Level.ne_atom_of_chains chains)
  rw [restAt_succ s chains] at failed
  cases ls with
  | nil => cases failed
  | cons l ls =>
      simp only [chainStep] at failed
      cases op : lv.operator l.token with
      | none =>
          rw [op] at failed
          cases failed
      | some o =>
          rw [op] at failed
          have replayed (l' : List Lexeme) (left' : Expr) :
              s'.restAt lv (fuel + 1) left' (l.shape :: l') = chainStep lv.operator
                (s'.parseAt lv.next fuel) (s'.restAt lv fuel) left' (l.shape :: l') :=
            restAt_succ s' chains fuel left' _
          rcases bind_eq_error failed with first | ⟨⟨r, mid⟩, operand, more⟩
          · have failure := ih.parse (by simp at adequate; omega) first
            refine failure.after_succ [l]
              (fun ts begun => by simpa using Begins.chain d op begun)
              (by simp only [List.length_singleton]; omega) fun g l' err _ _ operandFails left' => ?_
            rw [restAt_succ s' chains]
            simp [chainStep, op, operandFails]
          · dsimp only at more
            obtain ⟨pre, rfl, dr⟩ := (soundAt s fuel).parse operand
            have stops := (stopsAt s fuel).parse operand
            have nonempty : pre.length ≠ 0 := by simpa using pre_ne_nil dr
            have failure := ih.rest chains (Derives.chain d op dr) (by simp at adequate; omega) more
            refine (show l :: (pre ++ mid) = (l :: pre) ++ mid by simp) ▸
              failure.after_succ (l :: pre) (fun ts begun => by simpa using begun)
                (by simp only [List.length_cons]; omega) fun g l' err head enough restFails left' => ?_
            obtain ⟨r', read⟩ := parseAt_shape live dr l' (stops.of_head head) g
              (by simp at enough; omega)
            rw [restAt_succ s' chains]
            simp only [List.map_cons, List.cons_append, chainStep, Lexeme.shape_token,
              Level.operator_shape, op, read, ok_bind]
            exact restFails _

theorem notExpr_fails {ls : List Lexeme} {p : Nat} (adequate : 16 * ls.length + 7 < fuel + 1)
    (failed : s.notExpr (fuel + 1) ls = .error (.at p)) :
    Failure s s' Level.not.height (Begins .not)
      (fun f l err => s'.parseAt .not f l = .error err) ls p := by
  by_cases negated : ∃ pos ls', ls = ⟨.kwNot, pos⟩ :: ls'
  · obtain ⟨pos, ls, rfl⟩ := negated
    rw [notExpr.eq_2] at failed
    rcases bind_eq_error failed with first | ⟨_, -, returned⟩
    · have failure := ih.parse
        (by simp only [Level.height, List.length_cons] at adequate ⊢; omega)
        (show s.parseAt .not fuel _ = _ from first)
      refine failure.after_succ [⟨.kwNot, pos⟩] (fun ts begun => Begins.not begun)
        (by simp [Level.height]) fun g l' err _ _ operandFails => ?_
      show s'.notExpr (g + 1) (⟨.kwNot, pos⟩ :: l') = _
      rw [notExpr.eq_2, show s'.notExpr g l' = _ from operandFails, error_bind]
    · cases returned
  · -- without `NOT`, the phrase is a comparison
    rw [notExpr.eq_3 _ _ _ fun pos ls' first => negated ⟨pos, ls', first⟩] at failed
    have failure := chain_fails live ih (by rfl) (by simp [Level.height]; omega)
      (show s.parseAt .comparison (fuel + 1) ls = _ from failed)
    refine failure.within (fun ts begun => .lift (by decide) begun) fun f l' err head enough => ?_
    refine ⟨f, by simp [Level.height] at enough ⊢; omega, fun comparisonFails => ?_⟩
    obtain ⟨g, rfl⟩ : ∃ g, f = g + 1 := ⟨f - 1, by simp [Level.height] at enough; omega⟩
    show s'.notExpr (g + 1) l' = _
    rw [notExpr.eq_3 _ _ _ (not_starts_of_replay head (fun _ => Token.noConfusion) negated)]
    exact comparisonFails

theorem power_fails {ls : List Lexeme} {p : Nat} (adequate : 16 * ls.length + 2 < fuel + 1)
    (failed : s.power (fuel + 1) ls = .error (.at p)) :
    Failure s s' Level.power.height (Begins .power)
      (fun f l err => s'.parseAt .power f l = .error err) ls p := by
  rw [power.eq_2] at failed
  rcases bind_eq_error failed with first | ⟨⟨u, mid⟩, operand, more⟩
  · -- the base fails
    have failure := ih.parse (by simp only [Level.height] at adequate ⊢; omega)
        (show s.parseAt .unary fuel _ = _ from first)
    refine failure.within_succ (fun ts begun => .lift (by decide) begun) (by decide)
      fun g l' err _ _ baseFails => ?_
    show s'.power (g + 1) l' = _
    rw [power.eq_2, show s'.unary g l' = _ from baseFails, error_bind]
  · -- the base is read, then `^`, and the exponent fails
    dsimp only at more
    obtain ⟨pre, rfl, du⟩ := (soundAt s fuel).parse (show s.parseAt .unary fuel ls = _ from operand)
    have nonempty : pre.length ≠ 0 := by simpa using pre_ne_nil du
    cases mid with
    | nil => cases more
    | cons l mid =>
        dsimp only at more
        cases pow : isPow l.token
        · rw [pow] at more
          cases more
        rw [if_pos pow] at more
        rcases bind_eq_error more with second | ⟨_, -, returned⟩
        · have powToken := eq_pow_of_isPow pow
          have failure := ih.parse
            (by simp only [Level.height, List.length_append, List.length_cons] at adequate ⊢; omega)
            (show s.parseAt .power fuel _ = _ from second)
          refine (show pre ++ l :: mid = (pre ++ [l]) ++ mid by simp) ▸
            failure.after_succ (pre ++ [l]) (fun ts begun => by simpa [powToken] using Begins.pow du begun)
              (by simp only [List.length_append, List.length_singleton]; omega)
              fun g l' err _ enough exponentFails => ?_
          obtain ⟨u', read⟩ := parseAt_shape live du (l.shape :: l') (stops_unary _) g
            (by simp only [Level.height, List.length_append, List.length_cons,
              List.length_nil] at enough ⊢; omega)
          show s'.power (g + 1) ((pre ++ [l]).map Lexeme.shape ++ l') = _
          rw [power.eq_2]
          simp only [List.map_append, List.map_cons, List.map_nil, List.append_assoc,
            List.singleton_append]
          rw [show s'.unary g (pre.map Lexeme.shape ++ l.shape :: l') = _ from read, ok_bind]
          dsimp only
          rw [if_pos (by simp [powToken, Token.shape, isPow]),
            show s'.power g l' = _ from exponentFails]
          rfl
        · cases returned

omit live in
theorem unary_fails {ls : List Lexeme} {p : Nat} (adequate : 16 * ls.length + 1 < fuel + 1)
    (failed : s.unary (fuel + 1) ls = .error (.at p)) :
    Failure s s' Level.unary.height (Begins .unary)
      (fun f l err => s'.parseAt .unary f l = .error err) ls p := by
  by_cases negated : ∃ pos ls', ls = ⟨.minus, pos⟩ :: ls'
  · obtain ⟨pos, ls, rfl⟩ := negated
    rw [unary.eq_2] at failed
    rcases bind_eq_error failed with first | ⟨_, -, returned⟩
    · have failure := ih.parse
        (by simp only [Level.height, List.length_cons] at adequate ⊢; omega)
        (show s.parseAt .unary fuel _ = _ from first)
      refine failure.after_succ [⟨.minus, pos⟩] (fun ts begun => Begins.neg begun)
        (by simp [Level.height]) fun g l' err _ _ operandFails => ?_
      show s'.unary (g + 1) (⟨.minus, pos⟩ :: l') = _
      rw [unary.eq_2, show s'.unary g l' = _ from operandFails, error_bind]
    · cases returned
  by_cases signed : ∃ pos ls', ls = ⟨.plus, pos⟩ :: ls'
  · obtain ⟨pos, ls, rfl⟩ := signed
    rw [unary.eq_3] at failed
    rcases bind_eq_error failed with first | ⟨_, -, returned⟩
    · have failure := ih.parse
        (by simp only [Level.height, List.length_cons] at adequate ⊢; omega)
        (show s.parseAt .unary fuel _ = _ from first)
      refine failure.after_succ [⟨.plus, pos⟩] (fun ts begun => Begins.pos begun)
        (by simp [Level.height]) fun g l' err _ _ operandFails => ?_
      show s'.unary (g + 1) (⟨.plus, pos⟩ :: l') = _
      rw [unary.eq_3, show s'.unary g l' = _ from operandFails, error_bind]
    · cases returned
  rw [unary.eq_4 _ _ _ (fun pos ls' first => negated ⟨pos, ls', first⟩)
    (fun pos ls' first => signed ⟨pos, ls', first⟩)] at failed
  have failure := ih.parse (by simp only [Level.height] at adequate ⊢; omega)
        (show s.parseAt .atom fuel _ = _ from failed)
  refine failure.within_succ (fun ts begun => .lift (by decide) begun) (by decide)
    fun g l' err head _ atomFails => ?_
  show s'.unary (g + 1) l' = _
  rw [unary.eq_4 _ _ _ (not_starts_of_replay head (fun _ => Token.noConfusion) negated)
    (not_starts_of_replay head (fun _ => Token.noConfusion) signed)]
  exact atomFails

theorem paren_fails {pos : Nat} {ls : List Lexeme} {p : Nat}
    (adequate : 16 * (ls.length + 1) < fuel + 1)
    (failed : s.atom (fuel + 1) (⟨.lparen, pos⟩ :: ls) = .error (.at p)) :
    Failure s s' Level.atom.height (Begins .atom)
      (fun f l err => s'.parseAt .atom f l = .error err) (⟨.lparen, pos⟩ :: ls) p := by
  rw [atom.eq_7] at failed
  rcases bind_eq_error failed with first | ⟨⟨e, mid⟩, inner, closing⟩
  · -- the expression inside fails
    have failure := ih.parse (by simp only [Level.height]; omega)
        (show s.parseAt .or fuel _ = _ from first)
    refine failure.after_succ [⟨.lparen, pos⟩] (fun ts begun => Begins.paren begun)
      (by simp [Level.height]) fun g l' err _ _ innerFails => ?_
    show s'.atom (g + 1) (⟨.lparen, pos⟩ :: l') = _
    rw [atom.eq_7, show s'.expression g l' = _ from innerFails, error_bind]
  · -- the expression inside is read and no `)` follows it
    dsimp only at closing
    obtain ⟨pre, rfl, d⟩ := (soundAt s fuel).parse (show s.parseAt .or fuel ls = _ from inner)
    have stops := (stopsAt s fuel).parse (show s.parseAt .or fuel (pre ++ mid) = _ from inner)
    split at closing
    · cases closing
    rename_i notClosed
    cases mid with
    | nil =>
        cases closing
        refine .at_end rfl (by simpa using Begins.paren (Begins.of_derives d)) fun _ g enough => ?_
        obtain ⟨e', read⟩ := parseAt_shape live d [] Stops.nil g
          (by simp only [Level.height, List.length_cons, List.length_append, List.length_nil]
            at enough ⊢; omega)
        show s'.atom (g + 1) (⟨.lparen, pos⟩ :: (pre ++ []).map Lexeme.shape) = _
        rw [List.append_nil, atom.eq_7]
        rw [List.append_nil] at read
        rw [show s'.expression g (pre.map Lexeme.shape) = _ from read, ok_bind]
        rfl
    | cons t post =>
        cases closing
        refine .at_token (show ⟨.lparen, pos⟩ :: (pre ++ t :: post) = (⟨.lparen, pos⟩ :: pre) ++ t :: post
          by simp) rfl (Begins.paren (Begins.of_derives d)) fun g post' enough => ?_
        obtain ⟨e', read⟩ := parseAt_shape live d (t.shape :: post') (stops.shape _) g
          (by simp only [Level.height, List.length_cons] at enough ⊢; omega)
        show s'.atom (g + 1) (⟨.lparen, pos⟩ :: ((pre ++ [t]).map Lexeme.shape ++ post')) = _
        simp only [List.map_append, List.map_cons, List.map_nil, List.append_assoc,
          List.singleton_append]
        rw [atom.eq_7, show s'.expression g (pre.map Lexeme.shape ++ t.shape :: post') = _ from read,
          ok_bind]
        obtain ⟨tok, q⟩ := t
        cases tok
        case rparen => exact (notClosed q post rfl).elim
        all_goals rfl

omit live in
theorem call_fails {n : String} {pos : Nat} {ls : List Lexeme} {p : Nat}
    (adequate : 16 * (ls.length + 1) < fuel + 1)
    (failed : s.atom (fuel + 1) (⟨.name n, pos⟩ :: ls) = .error (.at p)) :
    Failure s s' Level.atom.height (Begins .atom)
      (fun f l err => s'.parseAt .atom f l = .error err) (⟨.name n, pos⟩ :: ls) p := by
  by_cases opened : ∃ q ls', ls = ⟨.lparen, q⟩ :: ls'
  · obtain ⟨q, ls, rfl⟩ := opened
    rw [atom.eq_8] at failed
    rcases bind_eq_error failed with first | ⟨⟨args, mid⟩, called, decided⟩
    · -- the arguments fail
      have failure := ih.arguments (by simp only [List.length_cons] at adequate; omega) first
      refine failure.after_succ [⟨.name n, pos⟩, ⟨.lparen, q⟩]
        (fun ts begun => Begins.congr (by simp [Token.shape]) begun) (by simp [Level.height])
        fun g l' err _ _ argumentsFail => ?_
      show s'.atom (g + 1) (⟨.name "CALL", pos⟩ :: ⟨.lparen, q⟩ :: l') = _
      rw [atom.eq_8, argumentsFail, error_bind]
    · -- the call is read: it fails at a position only as a call of `FIELD` at the
      dsimp only at decided
      obtain ⟨pre, rfl, shape⟩ := (soundAt s fuel).arguments called
      by_cases field : (Text.toUpper n == "FIELD") = true
      · rw [if_pos field] at decided
        by_cases stuckEnd : (mid.isEmpty && s.stuck) = true
        · rw [if_pos stuckEnd] at decided
          obtain ⟨empty, stuck⟩ := Bool.and_eq_true_iff.mp stuckEnd
          obtain rfl : mid = [] := List.isEmpty_iff.mp empty
          cases decided
          refine .inl ⟨rfl, ?_, fun live' => absurd stuck (by simp [live'])⟩
          rcases shape with ⟨closing, -⟩ | ⟨ts, closing, arguments⟩
          · refine Begins.congr ?_ (Begins.of_derives (Derives.callEmpty shape_name_ne_field))
            simp [closing, Token.shape]
          · simpa [closing] using Begins.call_closed n arguments
        · rw [if_neg stuckEnd] at decided
          split at decided <;> cases decided
      · rw [if_neg field] at decided
        cases decided
  · -- no `(` follows the name
    rw [atom.eq_9 _ _ _ _ _ fun q ls' first => opened ⟨q, ls', first⟩] at failed
    cases ls with
    | nil =>
        cases failed
        exact .at_end rfl (by simpa using Begins.name n) fun _ _ _ => rfl
    | cons t post =>
        cases failed
        refine .at_token (show ⟨.name n, pos⟩ :: t :: post = [⟨.name n, pos⟩] ++ t :: post from rfl)
          rfl (by simpa using Begins.name n) fun g post' _ => ?_
        have replayed : ((t.shape :: post').map (·.token)).head? =
            ((t :: post).map (·.token)).head?.map Token.shape := by simp
        show s'.atom (g + 1) (⟨.name "CALL", pos⟩ :: t.shape :: post') = _
        rw [atom.eq_9 _ _ _ _ _ (not_starts_of_replay replayed (fun _ => Token.noConfusion) opened)]
        rfl

theorem atom_fails {ls : List Lexeme} {p : Nat} (adequate : 16 * ls.length + 0 < fuel + 1)
    (failed : s.atom (fuel + 1) ls = .error (.at p)) :
    Failure s s' Level.atom.height (Begins .atom)
      (fun f l err => s'.parseAt .atom f l = .error err) ls p := by
  cases ls with
  | nil =>
      cases failed
      exact .at_end rfl Begins.atom_nil fun _ _ _ => rfl
  | cons l ls =>
      obtain ⟨tok, pos⟩ := l
      simp only [List.length_cons] at adequate
      cases tok
      case number | string | boolean | null | fieldRef => cases failed
      case lparen => exact paren_fails live ih (by omega) failed
      case name n => exact call_fails ih (by omega) failed
      all_goals
        cases failed
        exact .at_token (List.nil_append _).symm rfl Begins.atom_nil fun _ _ _ => rfl

theorem callArguments_fails {ls : List Lexeme} {p : Nat} (adequate : 16 * ls.length + 10 < fuel + 1)
    (failed : s.callArguments (fuel + 1) ls = .error (.at p)) :
    Failure s s' 10 (fun ts => Begins .atom (.name "CALL" :: .lparen :: ts))
      (fun f l err => s'.callArguments f l = .error err) ls p := by
  by_cases closed : ∃ q ls', ls = ⟨.rparen, q⟩ :: ls'
  · obtain ⟨q, ls, rfl⟩ := closed
    rw [callArguments.eq_2] at failed
    cases failed
  rw [callArguments.eq_3 _ _ _ fun q ls' first => closed ⟨q, ls', first⟩] at failed
  rcases bind_eq_error failed with first | ⟨⟨e, mid⟩, argument, more⟩
  · -- the first argument fails
    have failure := ih.parse (by simp only [Level.height]; omega)
        (show s.parseAt .or fuel _ = _ from first)
    refine failure.within_succ (fun ts begun => Begins.call "CALL" begun) (by decide)
      fun g l' err head _ argumentFails => ?_
    show s'.callArguments (g + 1) l' = _
    rw [callArguments.eq_3 _ _ _ (not_starts_of_replay head (fun _ => Token.noConfusion) closed),
      show s'.expression g l' = _ from argumentFails, error_bind]
  · -- the first argument is read, and the arguments after it fail
    dsimp only at more
    obtain ⟨pre, rfl, d⟩ := (soundAt s fuel).parse (show s.parseAt .or fuel ls = _ from argument)
    have stops := (stopsAt s fuel).parse (show s.parseAt .or fuel (pre ++ mid) = _ from argument)
    have nonempty := pre_ne_nil d
    have failure := ih.more (show Arguments (pre.map (·.token)) [e].reverse from .single d)
      (by simp only [List.length_append] at adequate; have := List.length_pos_iff.mpr nonempty; omega)
      more
    have longer := List.length_pos_iff.mpr nonempty
    refine failure.after_succ pre (fun ts begun => begun) (by omega)
      fun g l' err head enough restFails => ?_
    obtain ⟨e', read⟩ := parseAt_shape live d l' (stops.of_head head) g
      (by simp only [Level.height]; omega)
    have first : ((pre.map Lexeme.shape ++ l').map (·.token)).head? =
        ((pre ++ mid).map (·.token)).head?.map Token.shape := by
      cases pre with
      | nil => exact absurd rfl nonempty
      | cons l pre => simp
    rw [callArguments.eq_3 _ _ _ (not_starts_of_replay first (fun _ => Token.noConfusion) closed),
      show s'.expression g (pre.map Lexeme.shape ++ l') = _ from read, ok_bind]
    exact restFails [e']

theorem argumentsRest_fails {acc : List Expr} {xs : List Token} (args : Arguments xs acc.reverse)
    {ls : List Lexeme} {p : Nat} (adequate : 16 * ls.length + 10 < fuel + 1)
    (failed : s.argumentsRest (fuel + 1) acc ls = .error (.at p)) :
    Failure s s' 10 (fun ts => Begins .atom (.name "CALL" :: .lparen :: (xs ++ ts)))
      (fun f l err => ∀ acc', s'.argumentsRest f acc' l = .error err) ls p := by
  by_cases closed : ∃ q ls', ls = ⟨.rparen, q⟩ :: ls'
  · obtain ⟨q, ls, rfl⟩ := closed
    rw [argumentsRest.eq_2] at failed
    cases failed
  by_cases separated : ∃ q ls', ls = ⟨.comma, q⟩ :: ls'
  · obtain ⟨q, ls, rfl⟩ := separated
    rw [argumentsRest.eq_3] at failed
    rcases bind_eq_error failed with first | ⟨⟨e, mid⟩, argument, more⟩
    · -- the argument after the comma fails
      have failure := ih.parse
        (by simp only [Level.height, List.length_cons] at adequate ⊢; omega)
        (show s.parseAt .or fuel _ = _ from first)
      refine failure.after_succ [⟨.comma, q⟩]
        (fun ts begun => by simpa using Begins.call_more "CALL" args begun) (by simp [Level.height])
        fun g l' err _ _ argumentFails acc' => ?_
      show s'.argumentsRest (g + 1) acc' (⟨.comma, q⟩ :: l') = _
      rw [argumentsRest.eq_3, show s'.expression g l' = _ from argumentFails, error_bind]
    · -- the argument is read, and the arguments after it fail
      dsimp only at more
      obtain ⟨pre, rfl, d⟩ := (soundAt s fuel).parse (show s.parseAt .or fuel ls = _ from argument)
      have stops := (stopsAt s fuel).parse (show s.parseAt .or fuel (pre ++ mid) = _ from argument)
      have longer := List.length_pos_iff.mpr (pre_ne_nil d)
      have grown : Arguments (xs ++ .comma :: pre.map (·.token)) (e :: acc).reverse := by
        rw [List.reverse_cons]
        exact args.snoc d
      have failure := ih.more grown
        (by simp only [List.length_cons, List.length_append] at adequate; omega) more
      refine (show ⟨.comma, q⟩ :: (pre ++ mid) = (⟨.comma, q⟩ :: pre) ++ mid by simp) ▸
        failure.after_succ (⟨.comma, q⟩ :: pre) (fun ts begun => by simpa using begun)
          (by simp only [List.length_cons]; omega) fun g l' err head enough restFails acc' => ?_
      obtain ⟨e', read⟩ := parseAt_shape live d l' (stops.of_head head) g
        (by simp only [Level.height, List.length_cons] at enough ⊢; omega)
      show s'.argumentsRest (g + 1) acc' (⟨.comma, q⟩ :: (pre.map Lexeme.shape ++ l')) = _
      rw [argumentsRest.eq_3, show s'.expression g (pre.map Lexeme.shape ++ l') = _ from read, ok_bind]
      exact restFails (e' :: acc')
  rw [argumentsRest.eq_4 _ _ _ _ (fun q ls' first => closed ⟨q, ls', first⟩)
    (fun q ls' first => separated ⟨q, ls', first⟩)] at failed
  cases ls with
  | nil =>
      cases failed
      exact .at_end rfl (by simpa using Begins.call_open "CALL" args) fun _ _ _ _ => rfl
  | cons t post =>
      cases failed
      refine .at_token (List.nil_append _).symm rfl (by simpa using Begins.call_open "CALL" args)
        fun g post' _ acc' => ?_
      have head : ((t.shape :: post').map (·.token)).head? =
          ((t :: post).map (·.token)).head?.map Token.shape := by simp
      show s'.argumentsRest (g + 1) acc' (t.shape :: post') = _
      rw [argumentsRest.eq_4 _ _ _ _ (not_starts_of_replay head (fun _ => Token.noConfusion) closed)
        (not_starts_of_replay head (fun _ => Token.noConfusion) separated)]
      rfl

theorem FailsAt.succ : FailsAt s s' (fuel + 1) where
  parse {lv} _ _ adequate failed := by
    cases chains : lv.chains
    · cases lv
      case not => exact notExpr_fails live ih adequate failed
      case power => exact power_fails live ih adequate failed
      case unary => exact unary_fails ih adequate failed
      case atom => exact atom_fails live ih adequate failed
      all_goals cases chains
    · exact chain_fails live ih chains adequate failed
  rest chains d adequate failed := restAt_fails live ih chains d adequate failed
  arguments adequate failed := callArguments_fails live ih adequate failed
  more args adequate failed := argumentsRest_fails live ih args adequate failed

end Step

theorem failsAt (s s' : Stream) (live : s'.stuck = false) (fuel : Nat) :
    FailsAt s s' fuel := by
  induction fuel with
  | zero => exact failsAt_zero s s'
  | succ fuel ih => exact ih.succ live

theorem replay_of_sentence {pre : List Lexeme} {t : Lexeme} {us : List Token} {e : Expr}
    (d : Derives .or (((pre ++ [t]).map (·.token) ++ us).map Token.shape) e) :
    ∃ post' : List Lexeme, post'.length = us.length ∧ ∀ fuel,
      16 * (pre.length + 1 + us.length) + 9 < fuel →
        (⟨0, false⟩ : Stream).expression fuel ((pre ++ [t]).map Lexeme.shape ++ post') = .ok (e, []) := by
  refine ⟨us.map fun u => ⟨u.shape, 0⟩, by simp, fun fuel enough => ?_⟩
  have tokens : ((pre ++ [t]).map Lexeme.shape ++ us.map fun u => (⟨u.shape, 0⟩ : Lexeme)).map
      (·.token) = (((pre ++ [t]).map (·.token) ++ us).map Token.shape) := by
    simp [Function.comp_def]
  rw [← tokens] at d
  exact expression_complete rfl d (by simp [Level.cost, Level.height]; omega)

/-- Where the expression parser leaves a formula that does not parse: at the
first token at which the tokens stop being a viable prefix, or at the end of
tokens that are a viable prefix, and then of no sentence unless the stream is
stuck. The parse fails when the parser fails, or when it leaves tokens or the
stream is stuck. -/
theorem expression_fails_where {s : Stream} {toks : List Lexeme} {p fuel : Nat}
    (enough : 16 * toks.length + 9 < fuel)
    (outcome : s.expression fuel toks = .error (.at p) ∨
      ∃ e rest, s.expression fuel toks = .ok (e, rest) ∧ (rest.isEmpty && !s.stuck) = false ∧
        s.failAt rest = .at p) :
    (∃ pre t post, toks = pre ++ t :: post ∧ p = t.pos ∧ Viable (pre.map (·.token)) ∧
      ¬ Viable ((pre ++ [t]).map (·.token))) ∨
    (p = s.endPos ∧ Viable (toks.map (·.token)) ∧
      (s.stuck = false → ¬ Sentence (toks.map (·.token)))) := by
  rcases outcome with failed | ⟨e, rest, read, leftOver, atRest⟩
  · rcases (failsAt s ⟨0, false⟩ rfl fuel).parse
      (by simp only [Level.height]; omega) (show s.parseAt .or fuel toks = _ from failed) with ⟨atEnd, begun, replay⟩ | ⟨pre, t, post, rfl, atToken, begun, replay⟩
    · -- the tokens ran out: a sentence would be read from its shaped lexemes, which fail
      refine .inr ⟨atEnd, begun, ?_⟩
      rintro live ⟨e, d⟩
      rw [← tokens_shape] at d
      have read : (⟨0, false⟩ : Stream).expression fuel (toks.map Lexeme.shape) = .ok (e, []) :=
        expression_complete rfl d (by simp [Level.cost, Level.height]; omega)
      have fails : (⟨0, false⟩ : Stream).expression fuel (toks.map Lexeme.shape) = .error (.at 0) :=
        replay live fuel (by simp only [Level.height]; omega)
      rw [read] at fails
      cases fails
    · -- a sentence that went on past `t` would be read, while its replay fails at `t`
      refine .inl ⟨pre, t, post, rfl, atToken, begun, ?_⟩
      rintro ⟨us, e, d⟩
      obtain ⟨post', length, sentence⟩ := replay_of_sentence d
      have fails : (⟨0, false⟩ : Stream).expression (16 * (pre.length + 1 + us.length) + 10)
          ((pre ++ [t]).map Lexeme.shape ++ post') = .error (.at t.pos) :=
        replay (16 * (pre.length + 1 + us.length) + 10) post'
          (by simp only [Level.height, length]; omega)
      rw [sentence _ (by omega)] at fails
      cases fails
  · obtain ⟨pre, rfl, d⟩ := expression_sound read
    cases rest with
    | nil =>
        have stuck : s.stuck = true := by simpa using leftOver
        refine .inr ⟨by simpa [failAt] using atRest.symm, Begins.of_derives (by simpa using d),
          fun live => absurd stuck (by simp [live])⟩
      | cons t post =>
        have stops := (stopsAt s fuel).parse (show s.parseAt .or fuel _ = _ from read)
        refine .inl ⟨pre, t, post, rfl, by cases atRest; rfl, Begins.of_derives d, ?_⟩
        rintro ⟨us, e', d'⟩
        obtain ⟨post', length, sentence⟩ := replay_of_sentence d'
        simp only [List.length_append, List.length_cons] at enough
        obtain ⟨e₁, part⟩ : ∃ e₁, (⟨0, false⟩ : Stream).parseAt .or
            (16 * (pre.length + 1 + us.length) + 10) (pre.map Lexeme.shape ++ t.shape :: post') =
              .ok (e₁, t.shape :: post') :=
          parseAt_shape rfl d (t.shape :: post') (stops.shape _) _
          (by simp only [Level.height]; omega)
        rw [show (pre ++ [t]).map Lexeme.shape ++ post' = pre.map Lexeme.shape ++ t.shape :: post'
          by simp] at sentence
        rw [show (⟨0, false⟩ : Stream).parseAt .or _ _ = _ from sentence _ (by omega)] at part
        cases part

end Stream

theorem lex_tokens_ne_nil {src : String} (filled : Text.isBlank src = false)
    (done : (lex src).2 = .done) : (lex src).1 ≠ [] := by
  intro empty
  have lexed : lexFrom none .expression src.toList 0 = ([], .done) := Prod.ext empty done
  rw [lexFrom] at lexed
  split at lexed
  · -- only separators are left, and they are blank
    rename_i rest
    have blank : src.toList.all Text.isSpace = true := by
      rw [List.all_eq_true]
      intro c mem
      rw [← takeWhile_append_drop_length isSeparator src.toList, rest, List.append_nil] at mem
      have separator := List.mem_takeWhile_imp mem
      simp only [isSeparator, Bool.or_eq_true, beq_iff_eq] at separator
      rcases separator with (((rfl | rfl) | rfl) | rfl) | rfl <;> decide
    exact absurd blank (by simpa [Text.isBlank] using filled)
  · split at lexed
    · cases lexed
    · split at lexed
      · cases lexed
      · cases lexed

/-- Where the first error of the tokens `toks`, read up to `fin`, stands: at the
first token at which they stop being a viable prefix; else, after tokens that
are a viable prefix, at the character where the lexer found no token; else, the
tokens being a viable prefix of no sentence, at the start of the last of them. -/
def FirstError (toks : List Lexeme) (fin : LexEnd) (p : Nat) : Prop :=
  (∃ pre t post, toks = pre ++ t :: post ∧ p = t.pos ∧
    Viable (pre.map (·.token)) ∧ ¬ Viable ((pre ++ [t]).map (·.token))) ∨
  (fin = .stuck p ∧ Viable (toks.map (·.token))) ∨
  (fin = .done ∧ Viable (toks.map (·.token)) ∧ ¬ Sentence (toks.map (·.token)) ∧
    ∃ pre t, toks = pre ++ [t] ∧ p = t.pos)

/-- What a parse makes of what it read from a stream: the expression, when it
took every token and the stream did not stop short; else an error at the first
token left. -/
def Stream.finish (s : Stream) : Except ParseError (Expr × List Lexeme) → Except ParseError Expr
  | .error e => .error e
  | .ok (e, rest) => if rest.isEmpty && !s.stuck then .ok e else .error (s.failAt rest)

/-- A parse fails at a position when reading the expression failed there, or when
the expression read left tokens, or a stream that stopped short, to fail at. -/
theorem Stream.finish_eq_error {s : Stream} {read : Except ParseError (Expr × List Lexeme)}
    {p : Nat} (failed : s.finish read = .error (.at p)) :
    read = .error (.at p) ∨
      ∃ e rest, read = .ok (e, rest) ∧ (rest.isEmpty && !s.stuck) = false ∧ s.failAt rest = .at p := by
  unfold finish at failed
  split at failed
  · cases failed
    exact .inl rfl
  · rename_i e rest
    split at failed
    · cases failed
    · rename_i leftOver
      injection failed with atRest
      exact .inr ⟨e, rest, rfl, by simpa using leftOver, atRest⟩

/-- A formula that is not blank and fails to parse at a position fails at the
first error of its tokens. -/
theorem parse_firstError {src : String} {p : Nat} (filled : Text.isBlank src = false)
    (failed : parse src = .error (.at p)) : FirstError (lex src).1 (lex src).2 p := by
  have nonempty := lex_tokens_ne_nil filled
  unfold parse at failed
  generalize (lex src) = lexed at failed nonempty ⊢
  obtain ⟨toks, fin⟩ := lexed
  dsimp only at failed nonempty ⊢
  -- the parse fails where the expression parser fails or stops short
  cases fin with
  | stuck q =>
      rcases Stream.expression_fails_where (by omega) (Stream.finish_eq_error failed) with
        atToken | ⟨atEnd, begun, -⟩
      · exact .inl atToken
      · exact .inr (.inl ⟨by rw [atEnd], begun⟩)
  | done =>
      rcases Stream.expression_fails_where (by omega) (Stream.finish_eq_error failed) with
        atToken | ⟨atEnd, begun, noSentence⟩
      · exact .inl atToken
      · obtain ⟨pre, t, rfl⟩ := List.eq_nil_or_concat toks |>.resolve_left (nonempty rfl)
        rw [List.concat_eq_append] at atEnd begun noSentence ⊢
        exact .inr (.inr ⟨rfl, begun, noSentence rfl, pre, t, rfl, by simpa using atEnd⟩)

theorem Begins.of_append {lv : Level} {ts us : List Token} (begins : Begins lv (ts ++ us)) :
    Begins lv ts := by
  obtain ⟨vs, e, d⟩ := begins
  exact ⟨us ++ vs, e, by simpa using d⟩

theorem Viable.upto {pre rest toks : List Lexeme} {t : Lexeme} (split : toks = pre ++ t :: rest)
    (viable : Viable (toks.map (·.token))) : Viable ((pre ++ [t]).map (·.token)) := by
  subst split
  unfold Viable at viable ⊢
  exact Begins.of_append
    (show Begins .or ((pre ++ [t]).map (·.token) ++ rest.map (·.token)) by simpa using viable)

theorem first_dead_unique {pre₁ pre₂ post₁ post₂ : List Lexeme} {t₁ t₂ : Lexeme}
    (same : pre₁ ++ t₁ :: post₁ = pre₂ ++ t₂ :: post₂)
    (alive₁ : Viable (pre₁.map (·.token))) (dead₁ : ¬ Viable ((pre₁ ++ [t₁]).map (·.token)))
    (alive₂ : Viable (pre₂.map (·.token))) (dead₂ : ¬ Viable ((pre₂ ++ [t₂]).map (·.token))) :
    pre₁ = pre₂ ∧ t₁ = t₂ := by
  -- the shorter of the two prefixes, with its token, is a prefix of the longer one
  rcases List.append_eq_append_iff.mp same with ⟨a, rfl, rest⟩ | ⟨c, rfl, rest⟩
  · cases a with
    | nil =>
        simp only [List.nil_append, List.cons.injEq] at rest
        exact ⟨by simp, rest.1⟩
    | cons x a =>
        simp only [List.cons_append, List.cons.injEq] at rest
        obtain ⟨rfl, -⟩ := rest
        exact absurd (Viable.upto rfl alive₂) dead₁
  · cases c with
    | nil =>
        simp only [List.nil_append, List.cons.injEq] at rest
        exact ⟨by simp, rest.1.symm⟩
    | cons x c =>
        simp only [List.cons_append, List.cons.injEq] at rest
        obtain ⟨rfl, -⟩ := rest
        exact absurd (Viable.upto rfl alive₁) dead₂

theorem FirstError.unique {toks : List Lexeme} {fin : LexEnd} {p q : Nat}
    (first : FirstError toks fin p) (second : FirstError toks fin q) : p = q := by
  rcases first with ⟨pre, t, post, split, atToken, alive, dead⟩ | ⟨stuck, viable⟩ |
    ⟨done, viable, -, pre, t, split, atLast⟩
  · rcases second with ⟨pre', t', post', split', atToken', alive', dead'⟩ | ⟨-, viable⟩ |
      ⟨-, viable, -⟩
    · obtain ⟨-, rfl⟩ := first_dead_unique (split.symm.trans split') alive dead alive' dead'
      rw [atToken, atToken']
    · exact absurd (Viable.upto split viable) dead
    · exact absurd (Viable.upto split viable) dead
  · rcases second with ⟨pre', t', post', split', -, -, dead'⟩ | ⟨stuck', -⟩ | ⟨done', -⟩
    · exact absurd (Viable.upto split' viable) dead'
    · rw [stuck] at stuck'
      injection stuck'
    · rw [stuck] at done'
      cases done'
  · rcases second with ⟨pre', t', post', split', -, -, dead'⟩ | ⟨stuck', -⟩ |
      ⟨-, -, -, pre', t', split', atLast'⟩
    · exact absurd (Viable.upto split' viable) dead'
    · rw [done] at stuck'
      cases stuck'
    · have last := (List.append_inj' (split.symm.trans split') rfl).2
      simp only [List.cons.injEq, and_true] at last
      rw [atLast, atLast', last]

/-- A formula that is not blank and fails to parse for a reason of the grammar
fails at the one position where the first error of its tokens stands:
evaluating it gives the message "Invalid formula syntax at position N" for that
position and, when its delimiters balance, the check reports the same position
as a syntax problem. -/
theorem syntax_error_at_first_error (src : String) {p : Nat} (filled : Text.isBlank src = false)
    (failed : parse src = .error (.at p)) :
    FirstError (lex src).1 (lex src).2 p ∧ (∀ q, FirstError (lex src).1 (lex src).2 q → q = p) ∧
    (src.length ≤ maxFormulaLength → ∀ ctx : Context,
      (evaluateFormula (some src) ctx).value =
        .ok (.failure .error ("Invalid formula syntax at position " ++ Nat.repr p))) ∧
    (src.length ≤ maxFormulaLength → checkBalance src = .ok () → ∀ known : Option (List String),
      checkFormula (some src) known =
        { valid := false, error := some ("Invalid formula syntax at position " ++ Nat.repr p),
          kind := some .malformed, position := some p }) := by
  have located := parse_firstError filled failed
  have fits (short : src.length ≤ maxFormulaLength) : lengthError src = none := by
    simp [lengthError, Nat.not_lt.mpr short]
  refine ⟨located, fun q other => other.unique located, fun short ctx => ?_,
    fun short balanced known => ?_⟩
  · have ran : run ctx src = .error (.formula (ParseError.at p).toFormulaError) := by
      simp [run, fits short, failed, Except.mapError, bind, Except.bind]
    unfold evaluateFormula
    simp only [filled, Bool.false_eq_true, if_false, ran]
    rfl
  · unfold checkFormula
    simp only [filled, Bool.false_eq_true, if_false, fits short, balanced, failed,
      Except.mapError, bind, Except.bind]
    rfl

/-- `(1))`: the second `)` closes nothing, so the formula fails at it. -/
theorem syntax_error_at_first_error_extraParen :
    Text.isBlank "(1))" = false ∧ parse "(1))" = .error (.at 3) ∧
      (FirstError (lex "(1))").1 (lex "(1))").2 3 ∧
        (∀ q, FirstError (lex "(1))").1 (lex "(1))").2 q → q = 3) ∧
        ("(1))".length ≤ maxFormulaLength → ∀ ctx : Context,
          (evaluateFormula (some "(1))") ctx).value =
            .ok (.failure .error ("Invalid formula syntax at position " ++ Nat.repr 3))) ∧
        ("(1))".length ≤ maxFormulaLength → checkBalance "(1))" = .ok () →
          ∀ known : Option (List String), checkFormula (some "(1))") known =
            { valid := false, error := some ("Invalid formula syntax at position " ++ Nat.repr 3),
              kind := some .malformed, position := some 3 })) := by
  have filled : Text.isBlank "(1))" = false := by decide
  have failed : parse "(1))" = .error (.at 3) := parse_eq_error_of_parseError? (by decide +kernel)
  exact ⟨filled, failed, syntax_error_at_first_error "(1))" filled failed⟩

end FieldCalc.Formula
