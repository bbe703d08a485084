import FieldCalc.Proofs.Formula.ParseComplete
import FieldCalc.Proofs.Formula.Locality
import FieldCalc.Formula.Check
import Mathlib.Data.List.TakeWhile

/-!
# Delimiters of a formula that parses

Before a formula is parsed, the check scans it for its delimiters: quotes
with their escapes, parentheses and braces. The lexer reads the same text as
tokens, and the scan of the characters of each token does what the token
does to the open parentheses (`scan_scans`): a `(` opens one, a `)` closes the
innermost, a text literal ends its own quote, and a field reference closes
its braces as long as its name holds no quote and no parenthesis
(`PlainName`). The tokens of a sentence of the grammar nest their
parentheses (`Derives.nested`), so every formula that parses and names its
fields plainly passes the scan (`checkBalance_of_parse`). A field name with a
quote does not: `{it's}` parses, and the scan reports an unterminated text
(`checkBalance_rejects_quoted_field_name`).
-/

namespace FieldCalc.Formula

/-! ### How tokens nest their parentheses -/

/-- The depth of open parentheses after a token, from `k` before it; `none`
when a `)` closes nothing. -/
def Token.nest (k : Nat) : Token → Option Nat
  | .lparen => some (k + 1)
  | .rparen => if k = 0 then none else some (k - 1)
  | _ => some k

/-- The depth of open parentheses after a list of tokens. -/
def nestAll (k : Nat) : List Token → Option Nat
  | [] => some k
  | t :: ts => (t.nest k).bind (nestAll · ts)

def Nested (ts : List Token) : Prop := ∀ k, nestAll k ts = some k

theorem nestAll_append (k : Nat) (ts us : List Token) :
    nestAll k (ts ++ us) = (nestAll k ts).bind (nestAll · us) := by
  induction ts generalizing k with
  | nil => rfl
  | cons t ts ih =>
    simp only [List.cons_append, nestAll]
    cases t.nest k <;> simp [ih]

namespace Nested

variable {ts us : List Token}

theorem append (nts : Nested ts) (nus : Nested us) : Nested (ts ++ us) := by
  intro k
  rw [nestAll_append, nts k]
  exact nus k

theorem single {t : Token} (notOpen : t ≠ .lparen) (notClose : t ≠ .rparen) : Nested [t] := by
  intro k
  cases t <;> simp_all [nestAll, Token.nest]

theorem cons {t : Token} (notOpen : t ≠ .lparen) (notClose : t ≠ .rparen) (nts : Nested ts) :
    Nested (t :: ts) :=
  (single notOpen notClose).append nts

theorem paren (nts : Nested ts) : Nested (.lparen :: (ts ++ [.rparen])) := by
  intro k
  simp [nestAll, Token.nest, nestAll_append, nts (k + 1)]

end Nested

theorem operator_ne_paren {lv : Level} {t : Token} {o : BinOp} (op : lv.operator t = some o) :
    t ≠ .lparen ∧ t ≠ .rparen := by
  constructor <;> rintro rfl <;> cases lv <;> cases op

mutual

theorem Derives.nested : ∀ {lv ts e}, Derives lv ts e → Nested ts
  | _, _, _, .lift _ d => d.nested
  | _, _, _, .chain d op r =>
    d.nested.append (.cons (operator_ne_paren op).1 (operator_ne_paren op).2 r.nested)
  | _, _, _, .not d => .cons nofun nofun d.nested
  | _, _, _, .pow d p => d.nested.append (.cons nofun nofun p.nested)
  | _, _, _, .neg d | _, _, _, .pos d => .cons nofun nofun d.nested
  | _, _, _, .number _ | _, _, _, .string _ | _, _, _, .boolean _ | _, _, _, .null
  | _, _, _, .fieldRef _ => .single nofun nofun
  | _, _, _, .paren d => d.nested.paren
  | _, _, _, .callEmpty _ => .cons nofun nofun (Nested.paren (fun _ => rfl : Nested []))
  | _, _, _, .call _ args | _, _, _, .fieldCall _ args => .cons nofun nofun args.nested.paren

theorem Arguments.nested : ∀ {ts es}, Arguments ts es → Nested ts
  | _, _, .single d => d.nested
  | _, _, .cons d more => d.nested.append (.cons nofun nofun more.nested)

end

/-! ### Field references among the tokens -/

mutual

theorem Derives.fieldRef_mem : ∀ {lv ts e}, Derives lv ts e → ∀ {n}, .fieldRef n ∈ ts → n ∈ e.fieldRefs
  | _, _, _, .lift _ d, _, mem => d.fieldRef_mem mem
  | _, _, _, .chain d op r, _, mem => by
    rw [Expr.fieldRefs_binary, List.mem_append]
    rcases List.mem_append.mp mem with mem | mem
    · exact .inl (d.fieldRef_mem mem)
    · rcases List.mem_cons.mp mem with same | mem
      · -- a field reference is no operator
        have binds := bindingLevel_of_operator op
        rw [← same] at binds
        simp [bindingLevel] at binds
      · exact .inr (r.fieldRef_mem mem)
  | _, _, _, .not d, _, mem | _, _, _, .neg d, _, mem | _, _, _, .pos d, _, mem => by
    rw [Expr.fieldRefs_unary]
    rcases List.mem_cons.mp mem with same | mem
    · cases same
    · exact d.fieldRef_mem mem
  | _, _, _, .pow d p, _, mem => by
    rw [Expr.fieldRefs_binary, List.mem_append]
    rcases List.mem_append.mp mem with mem | mem
    · exact .inl (d.fieldRef_mem mem)
    · rcases List.mem_cons.mp mem with same | mem
      · cases same
      · exact .inr (p.fieldRef_mem mem)
  | _, _, _, .number _, _, mem | _, _, _, .string _, _, mem | _, _, _, .boolean _, _, mem
  | _, _, _, .null, _, mem => by simp at mem
  | _, _, _, .fieldRef _, _, mem => by
    simp only [List.mem_singleton, Token.fieldRef.injEq] at mem
    simp [mem, Expr.fieldRefs_field]
  | _, _, _, .paren d, _, mem => by
    simp only [List.mem_cons, List.mem_append, reduceCtorEq, false_or, List.mem_nil_iff,
      or_false] at mem
    exact d.fieldRef_mem mem
  | _, _, _, .callEmpty _, _, mem => by simp at mem
  | _, _, _, .call _ args, _, mem => by
    simp only [List.mem_cons, List.mem_append, reduceCtorEq, false_or, List.mem_nil_iff,
      or_false] at mem
    rw [Expr.fieldRefs_call]
    exact args.fieldRef_mem mem
  | _, _, _, .fieldCall _ args, _, mem => by
    simp only [List.mem_cons, List.mem_append, reduceCtorEq, false_or, List.mem_nil_iff,
      or_false] at mem
    have inText := args.fieldRef_mem mem
    simp [Expr.fieldRefs, Expr.walk_eq_nodes, Expr.nodes, Expr.fieldName?] at inText

theorem Arguments.fieldRef_mem : ∀ {ts es}, Arguments ts es → ∀ {n}, .fieldRef n ∈ ts →
    n ∈ es.flatMap Expr.fieldRefs
  | _, _, .single d, _, mem => by simpa using d.fieldRef_mem mem
  | _, _, .cons d more, _, mem => by
    rw [List.flatMap_cons, List.mem_append]
    rcases List.mem_append.mp mem with mem | mem
    · exact .inl (d.fieldRef_mem mem)
    · rcases List.mem_cons.mp mem with same | mem
      · cases same
      · exact .inr (more.fieldRef_mem mem)

end

/-! ### The scan over plain characters, quotes and braces -/

/-- The characters the scan acts on outside quotes: the quotes, the openers
and the closers. -/
def isDelimiter (c : Char) : Bool :=
  c == '\'' || c == '"' || (closerOf? c).isSome || (openerOf? c).isSome

def PlainName (n : String) : Prop := ∀ c ∈ n.toList, c ≠ '\'' ∧ c ≠ '"' ∧ c ≠ '(' ∧ c ≠ ')'

-- bounded by the name's characters, not by all of `Char`
instance : DecidablePred PlainName := fun n => List.decidableBAll _ n.toList

theorem isDelimiter_cases {c : Char} (delimiter : isDelimiter c = true) :
    c = '\'' ∨ c = '"' ∨ c = '(' ∨ c = ')' ∨ c = '{' ∨ c = '}' := by
  simp only [isDelimiter, Bool.or_eq_true, beq_iff_eq, Option.isSome_iff_exists] at delimiter
  rcases delimiter with ((quote | quote) | ⟨_, closer⟩) | ⟨_, opener⟩
  · exact .inl quote
  · exact .inr (.inl quote)
  · unfold closerOf? at closer
    split at closer <;> simp_all
  · unfold openerOf? at opener
    split at opener <;> simp_all

theorem not_delimiter_of {p : Char → Bool}
    (none : ['\'', '"', '(', ')', '{', '}'].any p = false) {c : Char} (holds : p c = true) :
    isDelimiter c = false := by
  cases delimiter : isDelimiter c
  · rfl
  · rcases isDelimiter_cases delimiter with rfl | rfl | rfl | rfl | rfl | rfl <;>
      simp_all

def Parens (P : List (Char × Nat)) : Prop := ∀ p ∈ P, p.1 = '('

/-- Scanning `cs` up to `rest` takes `k` open parentheses to `j`, wherever the
scan starts. -/
def Scans (cs rest : List Char) (k j : Nat) : Prop :=
  ∀ P : List (Char × Nat), Parens P → P.length = k → ∀ pos, ∃ P' pos', Parens P' ∧ P'.length = j ∧
    balanceFrom (.outside P) cs pos = balanceFrom (.outside P') rest pos'

theorem Scans.trans {cs mid rest : List Char} {k j l : Nat} (first : Scans cs mid k j)
    (second : Scans mid rest j l) : Scans cs rest k l := by
  intro P parens length pos
  obtain ⟨P₁, pos₁, parens₁, length₁, scan₁⟩ := first P parens length pos
  obtain ⟨P₂, pos₂, parens₂, length₂, scan₂⟩ := second P₁ parens₁ length₁ pos₁
  exact ⟨P₂, pos₂, parens₂, length₂, scan₁.trans scan₂⟩

theorem balanceFrom_plain {c : Char} (plain : isDelimiter c = false) (P : List (Char × Nat))
    (rest : List Char) (pos : Nat) :
    balanceFrom (.outside P) (c :: rest) pos = balanceFrom (.outside P) rest (pos + 1) := by
  simp only [isDelimiter, Bool.or_eq_false_iff, beq_eq_false_iff_ne, Option.isSome_eq_false_iff,
    Option.isNone_iff_eq_none] at plain
  obtain ⟨⟨⟨notQuote, notDouble⟩, closer⟩, opener⟩ := plain
  simp [balanceFrom, notQuote, notDouble, closer, opener]

theorem balanceFrom_plains {pre : List Char} (plain : ∀ c ∈ pre, isDelimiter c = false)
    (P : List (Char × Nat)) (rest : List Char) (pos : Nat) :
    balanceFrom (.outside P) (pre ++ rest) pos = balanceFrom (.outside P) rest (pos + pre.length) := by
  induction pre generalizing pos with
  | nil => rfl
  | cons c pre ih =>
    rw [List.cons_append, balanceFrom_plain (plain c (by simp)),
      ih (fun d mem => plain d (by simp [mem])), List.length_cons]
    congr 1
    omega

def PlainPrefix (cs rest : List Char) : Prop :=
  ∃ pre, cs = pre ++ rest ∧ ∀ c ∈ pre, isDelimiter c = false

namespace PlainPrefix

theorem refl (cs : List Char) : PlainPrefix cs cs := ⟨[], rfl, by simp⟩

theorem trans {cs mid rest : List Char} (first : PlainPrefix cs mid) (second : PlainPrefix mid rest) :
    PlainPrefix cs rest := by
  obtain ⟨pre, rfl, plain⟩ := first
  obtain ⟨pre', rfl, plain'⟩ := second
  exact ⟨pre ++ pre', by simp, fun c mem => (List.mem_append.mp mem).elim (plain c) (plain' c)⟩

theorem cons {c : Char} (plain : isDelimiter c = false) {cs rest : List Char}
    (tail : PlainPrefix cs rest) : PlainPrefix (c :: cs) rest := by
  obtain ⟨pre, rfl, plainPre⟩ := tail
  exact ⟨c :: pre, rfl, by simp_all⟩

theorem takeWhile {p : Char → Bool} (plain : ∀ c, p c = true → isDelimiter c = false) :
    ∀ cs : List Char, PlainPrefix cs (cs.drop (cs.takeWhile p).length)
  | [] => refl []
  | c :: cs => by
    by_cases holds : p c = true
    · simp only [List.takeWhile_cons_of_pos holds, List.length_cons, List.drop_succ_cons]
      exact cons (plain c holds) (takeWhile plain cs)
    · simp only [List.takeWhile_cons_of_neg holds, List.length_nil, List.drop_zero]
      exact refl _

theorem scans {cs rest : List Char} (plain : PlainPrefix cs rest) (k : Nat) : Scans cs rest k k := by
  obtain ⟨pre, rfl, plainPre⟩ := plain
  intro P parens length pos
  exact ⟨P, _, parens, length, balanceFrom_plains plainPre P rest pos⟩

end PlainPrefix

/-- Inside a quote the scan runs to the end of the text literal the lexer
reads, escapes included. -/
theorem balanceFrom_scanQuoted {q : Char} (notEscape : q ≠ '\\') (P : List (Char × Nat))
    (start : Nat) : ∀ (r : List Char) {body rest : List Char}, scanQuoted q r = some (body, rest) →
      ∀ pos, ∃ pos', balanceFrom (.quoted q start false P) r pos = balanceFrom (.outside P) rest pos'
  | [], _, _, scanned, _ => by cases scanned
  | c :: r, body, rest, scanned, pos => by
    by_cases closing : c = q
    · subst closing
      unfold scanQuoted at scanned
      simp only [beq_self_eq_true, if_true, Option.some.injEq, Prod.mk.injEq] at scanned
      obtain ⟨-, rfl⟩ := scanned
      exact ⟨pos + 1, by simp [balanceFrom, notEscape]⟩
    · by_cases escape : c = '\\'
      · subst escape
        cases r with
        | nil => simp [scanQuoted, closing] at scanned
        | cons d more =>
          unfold scanQuoted at scanned
          simp only [beq_iff_eq, closing, if_false, if_true] at scanned
          split at scanned
          · cases scanned
          · obtain ⟨⟨body', rest'⟩, inner, same⟩ := Option.map_eq_some_iff.mp scanned
            simp only [Prod.mk.injEq] at same
            obtain ⟨-, rfl⟩ := same
            obtain ⟨pos', scan⟩ := balanceFrom_scanQuoted notEscape P start more inner (pos + 2)
            exact ⟨pos', by simpa [balanceFrom, closing] using scan⟩
      · unfold scanQuoted at scanned
        simp only [beq_iff_eq, closing, escape, if_false] at scanned
        obtain ⟨⟨body', rest'⟩, inner, same⟩ := Option.map_eq_some_iff.mp scanned
        simp only [Prod.mk.injEq] at same
        obtain ⟨-, rfl⟩ := same
        obtain ⟨pos', scan⟩ := balanceFrom_scanQuoted notEscape P start r inner (pos + 1)
        exact ⟨pos', by simpa [balanceFrom, closing, escape] using scan⟩

theorem scans_quoted {q : Char} (quote : q = '\'' ∨ q = '"') {r body rest : List Char}
    (scanned : scanQuoted q r = some (body, rest)) (k : Nat) : Scans (q :: r) rest k k := by
  intro P parens length pos
  have notEscape : q ≠ '\\' := by rcases quote with rfl | rfl <;> decide
  obtain ⟨pos', scan⟩ := balanceFrom_scanQuoted notEscape P pos r scanned (pos + 1)
  have opens : balanceFrom (.outside P) (q :: r) pos = balanceFrom (.quoted q pos false P) r (pos + 1) := by
    rcases quote with rfl | rfl <;> simp [balanceFrom]
  exact ⟨P, pos', parens, length, opens.trans scan⟩

theorem mem_trim {c : Char} {cs : List Char} (mem : c ∈ cs) (notSpace : Text.isSpace c = false) :
    c ∈ (Text.trim (String.ofList cs)).toList := by
  have kept : ∀ l : List Char, c ∈ l → c ∈ l.dropWhile Text.isSpace := by
    intro l
    induction l with
    | nil => simp
    | cons d l ih =>
      intro inList
      by_cases space : Text.isSpace d = true
      · rw [List.dropWhile_cons_of_pos space]
        rcases List.mem_cons.mp inList with rfl | inTail
        · simp_all
        · exact ih inTail
      · rw [List.dropWhile_cons_of_neg space]
        exact inList
  simp only [Text.trim, String.toList_ofList, List.mem_reverse]
  exact kept _ (List.mem_reverse.mpr (kept _ mem))

theorem balanceFrom_braced {b : List Char} (plain : ∀ c ∈ b, isDelimiter c = false)
    (P : List (Char × Nat)) (rest : List Char) (pos : Nat) :
    balanceFrom (.outside P) ('{' :: (b ++ '}' :: rest)) pos =
      balanceFrom (.outside P) rest (pos + 1 + b.length + 1) := by
  have opens : balanceFrom (.outside P) ('{' :: (b ++ '}' :: rest)) pos =
      balanceFrom (.outside (('{', pos) :: P)) (b ++ '}' :: rest) (pos + 1) := by
    simp [balanceFrom, closerOf?]
  rw [opens, balanceFrom_plains plain]
  simp [balanceFrom, closerOf?, openerOf?]

theorem takeWhile_append_drop_length (p : Char → Bool) :
    ∀ l : List Char, l.takeWhile p ++ l.drop (l.takeWhile p).length = l
  | [] => rfl
  | c :: l => by
    by_cases holds : p c = true
    · simp [List.takeWhile_cons_of_pos holds, takeWhile_append_drop_length p l]
    · simp [List.takeWhile_cons_of_neg holds]

theorem noBrace_of_mem_takeWhile {c : Char} {r : List Char}
    (mem : c ∈ r.takeWhile (fun c => c != '{' && c != '}')) : c ≠ '{' ∧ c ≠ '}' := by
  simpa using List.mem_takeWhile_imp mem

theorem scanSingle_shape {cs b rest : List Char} (scanned : scanFieldRef.scanSingle cs = some (b, rest)) :
    (∀ c ∈ b, c ≠ '{' ∧ c ≠ '}') ∧ cs = '{' :: (b ++ '}' :: rest) := by
  unfold scanFieldRef.scanSingle at scanned
  dsimp only at scanned
  split at scanned
  next r =>
    split at scanned
    next rest' dropped =>
      split at scanned
      · cases scanned
      · simp only [Option.some.injEq, Prod.mk.injEq] at scanned
        obtain ⟨rfl, rfl⟩ := scanned
        refine ⟨fun c mem => noBrace_of_mem_takeWhile mem, ?_⟩
        rw [← dropped, takeWhile_append_drop_length]
    next => cases scanned
  next => cases scanned

/-- A field reference is its name between single or double braces; the name
holds no brace. -/
theorem scanFieldRef_shape {cs b rest : List Char} (scanned : scanFieldRef cs = some (b, rest)) :
    (∀ c ∈ b, c ≠ '{' ∧ c ≠ '}') ∧
      (cs = '{' :: (b ++ '}' :: rest) ∨ cs = '{' :: '{' :: (b ++ '}' :: '}' :: rest)) := by
  unfold scanFieldRef at scanned
  dsimp only at scanned
  split at scanned
  next r =>
    split at scanned
    next rest' dropped =>
      split at scanned
      · cases scanned
      · simp only [Option.some.injEq, Prod.mk.injEq] at scanned
        obtain ⟨rfl, rfl⟩ := scanned
        refine ⟨fun c mem => noBrace_of_mem_takeWhile mem, .inr ?_⟩
        rw [← dropped, takeWhile_append_drop_length]
    next =>
      obtain ⟨noBrace, shape⟩ := scanSingle_shape scanned
      exact ⟨noBrace, .inl shape⟩
  next =>
    obtain ⟨noBrace, shape⟩ := scanSingle_shape scanned
    exact ⟨noBrace, .inl shape⟩

/-- A field reference whose name holds no quote and no parenthesis closes its
braces. -/
theorem scans_fieldRef {cs b rest : List Char} (scanned : scanFieldRef cs = some (b, rest))
    (plain : PlainName (Text.trim (String.ofList b))) (k : Nat) : Scans cs rest k k := by
  obtain ⟨noBrace, shape⟩ := scanFieldRef_shape scanned
  -- no character of the name is a delimiter: trimming keeps the quotes and parentheses
  have plainBody : ∀ c ∈ b, isDelimiter c = false := by
    intro c mem
    cases delimiter : isDelimiter c
    · rfl
    · exfalso
      rcases isDelimiter_cases delimiter with rfl | rfl | rfl | rfl | rfl | rfl
      · exact (plain _ (mem_trim mem (by decide))).1 rfl
      · exact (plain _ (mem_trim mem (by decide))).2.1 rfl
      · exact (plain _ (mem_trim mem (by decide))).2.2.1 rfl
      · exact (plain _ (mem_trim mem (by decide))).2.2.2 rfl
      · exact (noBrace _ mem).1 rfl
      · exact (noBrace _ mem).2 rfl
  intro P parens length pos
  rcases shape with rfl | rfl
  · exact ⟨P, _, parens, length, balanceFrom_braced plainBody P rest pos⟩
  · have opens : balanceFrom (.outside P) ('{' :: '{' :: (b ++ '}' :: '}' :: rest)) pos =
        balanceFrom (.outside (('{', pos) :: P)) ('{' :: (b ++ '}' :: '}' :: rest)) (pos + 1) := by
      simp [balanceFrom, closerOf?]
    have closes : balanceFrom (.outside P) ('{' :: '{' :: (b ++ '}' :: '}' :: rest)) pos =
        balanceFrom (.outside P) rest (pos + 1 + 1 + b.length + 1 + 1) := by
      rw [opens, balanceFrom_braced plainBody]
      simp [balanceFrom, closerOf?, openerOf?]
    exact ⟨P, _, parens, length, closes⟩

/-! ### The scan of each token -/

section Tokens

variable {cs rest : List Char} {k j : Nat}

theorem scans_of_plain {t : Token} (plain : PlainPrefix cs rest) (nest : t.nest k = some j)
    (notOpen : t ≠ .lparen) (notClose : t ≠ .rparen) : Scans cs rest k j := by
  have same : j = k := by
    cases t <;> simp_all [Token.nest]
  subst same
  exact plain.scans j

theorem scans_lparen (r : List Char) (nest : Token.lparen.nest k = some j) : Scans ('(' :: r) r k j := by
  simp only [Token.nest, Option.some.injEq] at nest
  subst nest
  intro P parens length pos
  refine ⟨('(', pos) :: P, pos + 1, ?_, by simp [length], by simp [balanceFrom, closerOf?]⟩
  intro p mem
  rcases List.mem_cons.mp mem with rfl | mem
  · rfl
  · exact parens p mem

theorem scans_rparen (r : List Char) (nest : Token.rparen.nest k = some j) : Scans (')' :: r) r k j := by
  simp only [Token.nest] at nest
  split at nest
  · cases nest
  next nonzero =>
    simp only [Option.some.injEq] at nest
    subst nest
    intro P parens length pos
    obtain ⟨⟨c, p⟩, P', rfl⟩ : ∃ top P', P = top :: P' := by
      cases P with
      | nil => simp at length; omega
      | cons top P' => exact ⟨top, P', rfl⟩
    have paren : c = '(' := parens (c, p) (by simp)
    subst paren
    refine ⟨P', pos + 1, fun q mem => parens q (by simp [mem]), by simp at length; omega, ?_⟩
    simp [balanceFrom, closerOf?, openerOf?]

theorem plain_of_decimal {c : Char} (digit : Text.isDecimal c = true) : isDelimiter c = false :=
  not_delimiter_of (by decide) digit

theorem scanNumber_plain {lexeme : List Char} (scanned : scanNumber cs = some (lexeme, rest)) :
    PlainPrefix cs rest := by
  unfold scanNumber at scanned
  obtain ⟨⟨m, r⟩, mantissa, exponent⟩ := Option.map_eq_some_iff.mp scanned
  have first : PlainPrefix cs r := by
    dsimp only at mantissa
    split at mantissa
    · split at mantissa
      next r2 dropped =>
        simp only [Option.some.injEq, Prod.mk.injEq] at mantissa
        obtain ⟨-, rfl⟩ := mantissa
        refine (PlainPrefix.takeWhile (fun c => plain_of_decimal) cs).trans ?_
        rw [dropped]
        exact .cons (by decide) (.takeWhile (fun c => plain_of_decimal) r2)
      · simp only [Option.some.injEq, Prod.mk.injEq] at mantissa
        obtain ⟨-, rfl⟩ := mantissa
        exact .takeWhile (fun c => plain_of_decimal) cs
    · split at mantissa
      next r2 _ =>
        split at mantissa
        · cases mantissa
        · simp only [Option.some.injEq, Prod.mk.injEq] at mantissa
          obtain ⟨-, rfl⟩ := mantissa
          exact .cons (by decide) (.takeWhile (fun c => plain_of_decimal) r2)
      · cases mantissa
  have second : PlainPrefix r rest := by
    dsimp only at exponent
    split at exponent
    next e r2 =>
      split at exponent
      next letter =>
        have plainLetter : isDelimiter e = false := by
          simp only [Bool.or_eq_true, beq_iff_eq] at letter
          rcases letter with rfl | rfl <;> decide
        have digits : ∀ t : List Char, PlainPrefix t (t.drop (t.takeWhile Text.isDecimal).length) :=
          .takeWhile fun c => plain_of_decimal
        split at exponent <;> split at exponent <;> simp only [Prod.mk.injEq] at exponent <;>
          obtain ⟨-, rfl⟩ := exponent
        · exact .refl _
        · exact .cons plainLetter (.cons (by decide) (digits _))
        · exact .refl _
        · exact .cons plainLetter (.cons (by decide) (digits _))
        · exact .refl _
        · exact .cons plainLetter (digits _)
      · simp only [Prod.mk.injEq] at exponent
        obtain ⟨-, rfl⟩ := exponent
        exact .refl _
    · simp only [Prod.mk.injEq] at exponent
      obtain ⟨-, rfl⟩ := exponent
      exact .refl _
  exact first.trans second

theorem matchWord_plain {w : List Char}
    (letters : (w.any fun l => ['\'', '"', '(', ')', '{', '}'].any (matchesLetter l)) = false) :
    ∀ {cs rest : List Char}, matchWord w cs = some rest → PlainPrefix cs rest := by
  induction w with
  | nil =>
    intro cs rest matched
    simp only [matchWord, Option.some.injEq] at matched
    subst matched
    exact .refl _
  | cons l ls ih =>
    intro cs rest matched
    cases cs with
    | nil => simp [matchWord] at matched
    | cons c cs =>
      simp only [matchWord] at matched
      rw [List.any_cons, Bool.or_eq_false_iff] at letters
      split at matched
      next same =>
        exact .cons (not_delimiter_of letters.1 same) (ih letters.2 matched)
      · cases matched

theorem matchWord_of_matchKeyword {w : String} {cs rest : List Char}
    (matched : matchKeyword w cs = some rest) : matchWord w.toList cs = some rest := by
  unfold matchKeyword at matched
  split at matched
  next rest' found =>
    rw [found]
    split at matched
    · split at matched
      · cases matched
      · exact matched
    · exact matched
  · cases matched

theorem scans_of_word {w : List Char} {t : Token}
    (letters : (w.any fun l => ['\'', '"', '(', ')', '{', '}'].any (matchesLetter l)) = false)
    (matched : matchWord w cs = some rest) (nest : t.nest k = some j)
    (notOpen : t ≠ .lparen) (notClose : t ≠ .rparen) : Scans cs rest k j :=
  scans_of_plain (matchWord_plain letters matched) nest notOpen notClose

theorem scanOperator_scans {t : Token} (scanned : scanOperator cs = some (t, rest))
    (nest : t.nest k = some j) : Scans cs rest k j := by
  unfold scanOperator at scanned
  iterate 2
    split at scanned
    next rest' matched =>
      cases scanned
      exact scans_of_word (by decide) matched nest Token.noConfusion Token.noConfusion
  split at scanned <;> cases scanned
  case h_16 => exact scans_rparen _ nest
  all_goals first
    | exact scans_of_plain (.cons (by decide) (.refl _)) nest Token.noConfusion Token.noConfusion
    | exact scans_of_plain (.cons (by decide) (.cons (by decide) (.refl _))) nest Token.noConfusion Token.noConfusion

/-- An operand is plain characters, a text literal, a field reference, or a
`(` that opens a parenthesis. -/
theorem scanOperand_scans {withNot : Bool} {t : Token} (scanned : scanOperand withNot cs = some (t, rest))
    (plain : ∀ n, t = .fieldRef n → PlainName n) (nest : t.nest k = some j) : Scans cs rest k j := by
  cases cs with
  | nil => simp [scanOperand, matchKeyword, matchWord, scanFieldRef, scanFieldRef.scanSingle] at scanned
  | cons q r =>
  unfold scanOperand at scanned
  iterate 4
    split at scanned
    next rest' matched =>
      cases scanned
      exact scans_of_word (by decide) (matchWord_of_matchKeyword matched) nest Token.noConfusion
        Token.noConfusion
  split at scanned
  next body rest' found =>
    cases scanned
    simp only [Token.nest, Option.some.injEq] at nest
    subst nest
    exact scans_fieldRef found (plain _ rfl) k
  dsimp only at scanned
  split at scanned
  next quote =>
    obtain ⟨⟨body, rest'⟩, quoted, same⟩ := Option.map_eq_some_iff.mp scanned
    cases same
    simp only [Token.nest, Option.some.injEq] at nest
    subst nest
    have quote' : q = '\'' ∨ q = '"' := by
      simp only [Bool.or_eq_true, beq_iff_eq] at quote
      exact quote.symm
    exact scans_quoted quote' quoted k
  split at scanned
  next lexeme rest' numbered =>
    cases scanned
    exact scans_of_plain (scanNumber_plain numbered) nest Token.noConfusion Token.noConfusion
  split at scanned
  next nameStart =>
    have word : PlainPrefix (q :: r) (r.drop (r.takeWhile isNameChar).length) :=
      .cons (not_delimiter_of (by decide) nameStart)
        (.takeWhile (fun c => not_delimiter_of (by decide)) r)
    split at scanned <;> cases scanned
    · exact scans_of_plain word nest Token.noConfusion Token.noConfusion
    · exact scans_of_plain word nest Token.noConfusion Token.noConfusion
  split at scanned
  next paren =>
    cases scanned
    simp only [beq_iff_eq] at paren
    subst paren
    exact scans_lparen _ nest
  split at scanned
  next sign =>
    cases scanned
    simp only [beq_iff_eq] at sign
    subst sign
    exact scans_of_plain (.cons (by decide) (.refl _)) nest Token.noConfusion Token.noConfusion
  split at scanned
  next sign =>
    cases scanned
    simp only [beq_iff_eq] at sign
    subst sign
    exact scans_of_plain (.cons (by decide) (.refl _)) nest Token.noConfusion Token.noConfusion
  cases scanned

/-- Every token the lexer reads does to the open parentheses what its
characters do to them in the scan. -/
theorem scan_scans {e : Expect} {t : Token} (scanned : scan e cs = some (t, rest))
    (plain : ∀ n, t = .fieldRef n → PlainName n) (nest : t.nest k = some j) : Scans cs rest k j := by
  cases e with
  | expression => exact scanOperand_scans scanned plain nest
  | operand => exact scanOperand_scans scanned plain nest
  | afterOperand => exact scanOperator_scans scanned nest
  | arguments =>
    simp only [scan] at scanned
    split at scanned
    · cases scanned
      exact scans_rparen _ nest
    · exact scanOperand_scans scanned plain nest
  | openParen =>
    simp only [scan] at scanned
    split at scanned
    · cases scanned
      exact scans_lparen _ nest
    · cases scanned

end Tokens

/-! ### The scan of a formula that parses -/

/-- The scan of a text that the lexer reads to its end does to the open
parentheses what its tokens do. -/
theorem lexFrom_scans {prev : Option Token} {e : Expect} {cs : List Char} {pos : Nat}
    {ls : List Lexeme} (lexed : lexFrom prev e cs pos = (ls, .done))
    (plain : ∀ l ∈ ls, ∀ n, l.token = .fieldRef n → PlainName n) {k j : Nat}
    (nest : nestAll k (ls.map (·.token)) = some j) : Scans cs [] k j := by
  have separators : ∀ cs : List Char, PlainPrefix cs (cs.drop (cs.takeWhile isSeparator).length) :=
    .takeWhile fun c => not_delimiter_of (by decide)
  induction prev, e, cs, pos using lexFrom.induct generalizing ls k j with
  | case1 prev e cs pos seps rest' =>
    rename_i empty
    have empty : cs.drop (cs.takeWhile isSeparator).length = [] := empty
    rw [lexFrom] at lexed
    simp only [empty, Prod.mk.injEq] at lexed
    obtain ⟨rfl, -⟩ := lexed
    simp only [List.map_nil, nestAll, Option.some.injEq] at nest
    subst nest
    have plainSeps := separators cs
    rw [empty] at plainSeps
    exact plainSeps.scans k
  | case2 prev e cs pos seps rest' none =>
    rename_i notEmpty
    have none : scan e (cs.drop (cs.takeWhile isSeparator).length) = Option.none := none
    rw [lexFrom] at lexed
    split at lexed
    · exact absurd ‹_› notEmpty
    · simp only [none] at lexed
      cases lexed
  | case3 prev e cs pos seps rest' pos' t rest scanned shorter ls' fin more notEmpty =>
    rename_i ih
    have scanned : scan e (cs.drop (cs.takeWhile isSeparator).length) = some (t, rest) := scanned
    rw [lexFrom] at lexed
    split at lexed
    · exact absurd ‹_› notEmpty
    · simp only [scanned, shorter, dif_pos] at lexed
      rw [more] at lexed
      simp only [Prod.mk.injEq] at lexed
      obtain ⟨rfl, rfl⟩ := lexed
      simp only [List.map_cons, nestAll] at nest
      obtain ⟨m, first, after⟩ := Option.bind_eq_some_iff.mp nest
      have tokenPlain : ∀ n, t = .fieldRef n → PlainName n := plain _ List.mem_cons_self
      exact ((separators cs).scans k).trans ((scan_scans scanned tokenPlain first).trans
        (ih more (fun l mem => plain l (List.mem_cons_of_mem _ mem)) after))
  | case4 prev e cs pos seps rest' t rest scanned longer =>
    rename_i notEmpty
    have scanned : scan e (cs.drop (cs.takeWhile isSeparator).length) = some (t, rest) := scanned
    rw [lexFrom] at lexed
    split at lexed
    · exact absurd ‹_› notEmpty
    · simp only [scanned, longer, dif_neg, not_false_eq_true] at lexed
      cases lexed

/-- Every formula that parses and names its fields without quotes and
parentheses passes the delimiter scan. -/
theorem checkBalance_of_parse {src : String} {e : Expr} (parsed : parse src = .ok e)
    (plain : ∀ n ∈ e.fieldRefs, PlainName n) : checkBalance src = .ok () := by
  obtain ⟨done, derives⟩ := (parse_eq_ok_iff src e).mp parsed
  have lexed : lexFrom none .expression src.toList 0 = ((lex src).1, .done) := by
    rw [← done]
    rfl
  have plainTokens : ∀ l ∈ (lex src).1, ∀ n, l.token = .fieldRef n → PlainName n := by
    intro l mem n token
    apply plain
    apply derives.fieldRef_mem
    rw [← token]
    exact List.mem_map_of_mem mem
  obtain ⟨P, pos, -, empty, scanned⟩ :=
    lexFrom_scans lexed plainTokens (derives.nested 0) [] (by simp [Parens]) rfl 0
  rw [List.length_eq_zero_iff] at empty
  subst empty
  simp [checkBalance, scanned, balanceFrom, bind, Except.bind]

/-- `SUM({price}, 2) * (1 + {tax})` parses, names its fields without quotes,
and passes the scan. -/
theorem checkBalance_of_parse_nested :
    (parse "SUM({price}, 2) * (1 + {tax})").isOk = true ∧
      (parse "SUM({price}, 2) * (1 + {tax})").toOption.map Expr.fieldRefs = some ["price", "tax"] ∧
      checkBalance "SUM({price}, 2) * (1 + {tax})" = .ok () := by
  have parses : (parse "SUM({price}, 2) * (1 + {tax})").isOk = true := by decide +kernel
  have names : (parse "SUM({price}, 2) * (1 + {tax})").toOption.map Expr.fieldRefs =
      some ["price", "tax"] := by decide +kernel
  obtain ⟨e, parsed⟩ : ∃ e, parse "SUM({price}, 2) * (1 + {tax})" = .ok e := by
    cases parsing : parse "SUM({price}, 2) * (1 + {tax})" with
    | ok e => exact ⟨e, rfl⟩
    | error _ => simp [parsing, Except.isOk, Except.toBool] at parses
  have refs : e.fieldRefs = ["price", "tax"] := by
    simpa [parsed, Except.toOption] using names
  refine ⟨parses, names, checkBalance_of_parse parsed ?_⟩
  rw [refs]
  decide

/-- A field name with a quote: `{it's}` parses, and the scan takes the quote
for the start of a text that never ends. -/
theorem checkBalance_rejects_quoted_field_name :
    parse "\x7bit's\x7d" = .ok (.field "it's") ∧
      checkBalance "\x7bit's\x7d" =
        .error (.malformed "Unterminated string starting at position 3" .unbalanced (some 3)) := by
  have tokens : (lex "\x7bit's\x7d").1.map (·.token) = [.fieldRef "it's"] := by
    rw [lex, lexFrom]
    simp [scan, scanOperand, matchKeyword, matchWord, matchesLetter, scanFieldRef,
      scanFieldRef.scanSingle, isSeparator]
    rw [lexFrom]
    exact ⟨by decide, by simp⟩
  refine ⟨(parse_eq_ok_iff _ _).mpr ⟨by decide +kernel, ?_⟩, rfl⟩
  rw [tokens]
  exact .lift nofun (.lift nofun (.lift nofun (.lift nofun (.lift nofun (.lift nofun (.lift nofun
    (.lift nofun (.lift nofun (.fieldRef "it's")))))))))

end FieldCalc.Formula
