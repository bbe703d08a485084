import FieldCalc.Field.Basic

/-!
Checking values entered for a field.

A URL needs a scheme (a letter, then letters, digits, `+`, `.` or `-`),
then `://`, then at least one character that is neither white space nor a
slash, and no white space anywhere after it. An email address is a local
part and a domain joined by one `@`: the local part of ASCII letters, digits
and `._%+-`, the domain of ASCII letters, digits, `.` and `-`, ending in a
dot and at least two ASCII letters. Both are trimmed first, and the empty
text is accepted. A rating is a whole number from 0 to 5. A select value must
be one of the field's options, when it has options, and a multiselect holds
no value twice and only option values.
-/

namespace FieldCalc

def isAsciiLetter (c : Char) : Bool := ('a' ≤ c && c ≤ 'z') || ('A' ≤ c && c ≤ 'Z')

def isAsciiAlnum (c : Char) : Bool := isAsciiLetter c || ('0' ≤ c && c ≤ '9')

def isUrl (s : String) : Bool :=
  match s.toList with
  | first :: rest =>
    let isSchemeChar := fun c => isAsciiAlnum c || c == '+' || c == '.' || c == '-'
    let afterScheme := rest.dropWhile isSchemeChar
    match afterScheme with
    | ':' :: '/' :: '/' :: host :: more =>
      isAsciiLetter first && !Text.isSpace host && host != '/' && !more.any Text.isSpace
    | _ => false
  | [] => false

/-- Whether a trimmed text has the form of an email address. -/
def isEmail (s : String) : Bool :=
  let cs := s.toList
  let isLocalChar := fun c => isAsciiAlnum c || "._%+-".toList.contains c
  let isDomainChar := fun c => isAsciiAlnum c || c == '.' || c == '-'
  let user := cs.takeWhile isLocalChar
  match cs.drop user.length with
  | '@' :: domain =>
    let top := (domain.reverse.takeWhile (· != '.')).reverse
    let host := domain.take (domain.length - top.length - 1)
    !user.isEmpty && domain.all isDomainChar && domain.contains '.' && !host.isEmpty &&
      top.length ≥ 2 && top.all isAsciiLetter
  | _ => false

namespace FieldType

/-- The stored value whose slot a check reads; a check that reads a slot of
no value at all fails, naming the slot. -/
def slotHolder (fv? : Option FieldValue) (slot : String) : Except Fault FieldValue :=
  match fv? with
  | some fv => .ok fv
  | none => .error (.noValue slot)

/-- Check a value entered for a field of the type; the definition gives the
options. Types without a rule accept anything, no value included. -/
def check (t : FieldType) (fv? : Option FieldValue) (field : Option FieldDefinition) :
    Except Fault Unit := do
  match t with
  | .url =>
    let fv ← slotHolder fv? "value"
    let url := Text.trim (fv.value.getD "")
    if url.isEmpty || isUrl url then .ok () else .error (.rejectedValue ("Invalid URL: " ++ url))
  | .email =>
    let fv ← slotHolder fv? "value"
    let email := Text.trim (fv.value.getD "")
    if email.isEmpty || isEmail email then .ok ()
    else .error (.rejectedValue ("Invalid email address: " ++ email))
  | .rating =>
    let fv ← slotHolder fv? "numeric_value"
    match fv.numericValue with
    | none => .ok ()
    | some r =>
      if !r.isIntegral then
        .error (.rejectedValue ("Rating must be a whole number, got " ++ r.toText))
      else if r.neg && r.coeff != 0 || Decimal.compareValue r (Decimal.ofInt maxRating) == .gt then
        .error (.rejectedValue ("Rating must be between 0 and " ++ Nat.repr maxRating ++
          ", got " ++ r.toText))
      else .ok ()
  | .select =>
    let fv ← slotHolder fv? "value"
    match fv.value, field with
    | some v, some f =>
      if v.isEmpty || f.options.isEmpty then .ok ()
      else
        let allowed := f.options.map (·.value)
        if allowed.contains v then .ok ()
        else
          let sorted := (allowed.eraseDups).mergeSort fun a b => decide (a ≤ b)
          .error (.rejectedValue ("Invalid option '" ++ v ++ "'. Allowed: " ++ ", ".intercalate sorted))
    | _, _ => .ok ()
  | .multiselect =>
    let fv ← slotHolder fv? "list_value"
    let selected := fv.listValue.getD []
    if selected.eraseDups.length != selected.length then
      .error (.rejectedValue "Multiselect values must be unique")
    else
      match field with
      | some f =>
        if f.options.isEmpty then .ok ()
        else
          let allowed := f.options.map (·.value)
          let invalid := selected.filter (!allowed.contains ·)
          if invalid.isEmpty then .ok ()
          else .error (.rejectedValue ("Invalid options: " ++ ", ".intercalate invalid))
      | none => .ok ()
  | _ => .ok ()

end FieldType

end FieldCalc
