import FieldCalc.Formula.Parser
import FieldCalc.Formula.Context

/-!
The custom fields a formula refers to.

A formula that parses refers to the fields of its reference nodes, in the
order of their tokens. A formula being typed may not parse yet; its text is
then scanned for the reference forms themselves: `{{name}}` or `{name}` with no
brace inside, and `field("name")` or `field('name')` with the word `field` in
any case, standing at the start of a word, and white space allowed around the
parentheses. Scanned names are trimmed and empty ones dropped.

Either way each name is listed once, at its first occurrence, and the built-in
attributes are left out.
-/

namespace FieldCalc.Formula

/-- A `{{name}}` reference at the start of a text: its name and the rest. -/
def scanDoubleBraced : List Char → Option (List Char × List Char)
  | '{' :: '{' :: rest =>
    let name := rest.takeWhile (fun c => c != '{' && c != '}')
    match rest.drop name.length with
    | '}' :: '}' :: more => if name.isEmpty then none else some (name, more)
    | _ => none
  | _ => none

/-- A `{name}` reference at the start of a text: its name and the rest. -/
def scanBraced : List Char → Option (List Char × List Char)
  | '{' :: rest =>
    let name := rest.takeWhile (fun c => c != '{' && c != '}')
    match rest.drop name.length with
    | '}' :: more => if name.isEmpty then none else some (name, more)
    | _ => none
  | _ => none

/-- Braced references found scanning from left to right, each with the
index where it starts; a match is not scanned again. -/
def scanBraces (cs : List Char) (pos : Nat) : List (Nat × String) :=
  match cs with
  | [] => []
  | c :: rest =>
    let found := match scanDoubleBraced (c :: rest) with
      | some r => some r
      | none => scanBraced (c :: rest)
    match found with
    | some (name, more) =>
      -- a reference spans at least three characters
      if h : more.length < rest.length + 1 then
        (pos, String.ofList name) :: scanBraces more (pos + (rest.length + 1 - more.length))
      else scanBraces rest (pos + 1)
    | none => scanBraces rest (pos + 1)
termination_by cs.length

/-- A `field("name")` or `field('name')` call at the start of a text: the
quoted name and the rest. -/
def scanFieldCall (cs : List Char) : Option (List Char × List Char) := do
  let rest ← matchWord "field".toList cs
  let rest := rest.dropWhile Text.isSpace
  let rest ← match rest with
    | '(' :: r => some (r.dropWhile Text.isSpace)
    | _ => none
  let (name, rest) ← match rest with
    | q :: r =>
      if q == '"' || q == '\'' then
        let name := r.takeWhile (· != q)
        match r.drop name.length with
        | _ :: more => some (name, more)
        | [] => none
      else none
    | [] => none
  match rest.dropWhile Text.isSpace with
  | ')' :: more => some (name, more)
  | _ => none

/-- `field(...)` calls found scanning from left to right, each with the index
where it starts; `prevWord` says whether the character before is a word
character. A call ends with `)`, so the scan goes on after it as after a
character that is no word character. -/
def scanFieldCalls (cs : List Char) (pos : Nat) (prevWord : Bool) : List (Nat × String) :=
  match cs with
  | [] => []
  | c :: rest =>
    match (if prevWord then none else scanFieldCall (c :: rest)) with
    | some (name, more) =>
      if h : more.length < rest.length + 1 then
        (pos, String.ofList name) ::
          scanFieldCalls more (pos + (rest.length + 1 - more.length)) false
      else scanFieldCalls rest (pos + 1) (Text.isWordChar c)
    | none => scanFieldCalls rest (pos + 1) (Text.isWordChar c)
termination_by cs.length

/-- The names found by scanning a text that does not parse, in the order of
their starts, trimmed, empty ones dropped. -/
def scanReferences (src : String) : List String :=
  let found := scanBraces src.toList 0 ++ scanFieldCalls src.toList 0 false
  let sorted := found.mergeSort fun a b => a.1 ≤ b.1
  (sorted.map fun p => Text.trim p.2).filter (!·.isEmpty)

def firstOccurrences (names : List String) : List String :=
  names.foldl (fun acc n => if acc.contains n then acc else acc ++ [n]) []

/-- The custom fields a formula refers to, each once, built-in attributes
left out; an unparsable formula is scanned instead. -/
def fieldReferences (source : Option String) : List String :=
  match source with
  | none => []
  | some src =>
    if src.isEmpty || Text.isBlank src then []
    else
      let names := match parse src with
        | .ok e => e.fieldRefs
        | .error _ => scanReferences src
      (firstOccurrences names).filter (!builtinNames.contains ·)

end FieldCalc.Formula
