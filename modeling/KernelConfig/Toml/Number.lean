import KernelConfig.Text.Digits
import KernelConfig.Toml.Value

/-!
Numbers, dates and times of day. What follows a scalar is left to the reader of the whole: here the
longest beginning that is a scalar is taken.
-/

set_option autoImplicit false

namespace KernelConfig.Toml

/-- Digits with single underscores between them; `ds` holds the first ones, last one first. -/
def digitRun (base : Nat) (ds : List Nat) : List Char → List Nat × List Char
  | [] => (ds.reverse, [])
  | c :: s => match Text.digitOf? base c with
    | some d => digitRun base (d :: ds) s
    | none =>
      if c = '_' && !ds.isEmpty && (s.head?.bind (Text.digitOf? base)).isSome then digitRun base ds s
      else (ds.reverse, c :: s)

/-- Digits behind the letter that names their base, if there are any. -/
def based? : List Char → Option (Value × List Char)
  | '0' :: letter :: s =>
    let base := if letter = 'x' then 16 else if letter = 'o' then 8 else if letter = 'b' then 2 else 0
    match digitRun base [] s with
    | ([], _) => none
    | (ds, rest) => some (.integer (Text.digitsValue base ds), rest)
  | _ => none

def signOf : List Char → Bool × List Char
  | '-' :: s => (true, s)
  | '+' :: s => (false, s)
  | s => (false, s)

/-- The digits before the point: a zero stands alone. -/
def wholeDigits : List Char → List Nat × List Char
  | '0' :: s => ([0], s)
  | s => digitRun 10 [] s

/-- A point with digits behind it, or nothing. -/
def fractionDigits (s : List Char) : List Nat × List Char :=
  match s with
  | '.' :: rest => match digitRun 10 [] rest with
    | ([], _) => ([], s)
    | taken => taken
  | _ => ([], s)

/-- An exponent, or nothing. -/
def exponent? : List Char → Option (Int × List Char)
  | e :: s =>
    if e = 'e' || e = 'E' then
      let (negative, s) := signOf s
      match digitRun 10 [] s with
      | ([], _) => none
      | (ds, rest) =>
        let n : Int := Text.digitsValue 10 ds
        some (if negative then -n else n, rest)
    else none
  | [] => none

/-- A decimal integer has at most 4300 digits. -/
def decimalInteger (negative : Bool) (ds : List Nat) : Except Defect Value :=
  if 4300 < ds.length then .error (.oversized ds.length)
  else
    let n : Int := Text.digitsValue 10 ds
    .ok (.integer (if negative then -n else n))

def decimal (s : List Char) : Except Defect (Taken Value) :=
  let (negative, s) := signOf s
  match wholeDigits s with
  | ([], _) => .error .malformed
  | (whole, s) =>
    let (fraction, s) := fractionDigits s
    match exponent? s with
    | none =>
      if fraction.isEmpty then (decimalInteger negative whole).map (·, s)
      else .ok (float negative whole fraction 0, s)
    | some (e, s) => .ok (float negative whole fraction e, s)
where
  float (negative : Bool) (whole fraction : List Nat) (e : Int) : Value :=
    let digits := Text.digitsValue 10 (whole ++ fraction)
    .float ((Double.ofDecimal digits (e - fraction.length)).withSign negative)

/-- Infinity and NaN, with an optional sign. -/
def special? (s : List Char) : Option (Value × List Char) :=
  let (negative, body) := signOf s
  match body with
  | 'i' :: 'n' :: 'f' :: rest => some (.float (Double.infinity.withSign negative), rest)
  | 'n' :: 'a' :: 'n' :: rest => some (.float (Double.nan.negate.withSign negative), rest)
  | _ => none

/-- A numeral of exactly so many digits, from `low` to `high`. -/
def field? (count low high : Nat) (s : List Char) : Option (Nat × List Char) :=
  match (s.take count).mapM (Text.digitOf? 10) with
  | some ds =>
    let n := Text.digitsValue 10 ds
    if ds.length = count && low ≤ n && n ≤ high then some (n, s.drop count) else none
  | none => none

def mark? (c : Char) : List Char → Option (List Char)
  | d :: s => if d = c then some s else none
  | [] => none

def daysIn (year month : Nat) : Nat :=
  if month = 2 then if year % 4 = 0 && (year % 100 ≠ 0 || year % 400 = 0) then 29 else 28
  else if [4, 6, 9, 11].contains month then 30 else 31

/-- The rest after a date. -/
def afterDate? (s : List Char) : Option (List Char) := do
  let (year, s) ← field? 4 1 9999 s
  let s ← mark? '-' s
  let (month, s) ← field? 2 1 12 s
  let s ← mark? '-' s
  let (_, s) ← field? 2 1 (daysIn year month) s
  return s

/-- The rest after a time of day with an optional fraction of a second. -/
def afterTime? (s : List Char) : Option (List Char) := do
  let (_, s) ← field? 2 0 23 s
  let s ← mark? ':' s
  let (_, s) ← field? 2 0 59 s
  let s ← mark? ':' s
  let (_, s) ← field? 2 0 59 s
  let isDigit (c : Char) := (Text.digitOf? 10 c).isSome
  return match s with
    | '.' :: d :: rest => if isDigit d then rest.dropWhile isDigit else s
    | _ => s

def afterOffset? : List Char → Option (List Char)
  | c :: s =>
    if c = 'Z' || c = 'z' then some s
    else if c = '+' || c = '-' then do
      let (_, s) ← field? 2 0 23 s
      let s ← mark? ':' s
      let (_, s) ← field? 2 0 59 s
      return s
    else none
  | [] => none

/-- The rest after the time of day that may follow a date. -/
def afterTimeOfDate (s : List Char) : List Char :=
  match s with
  | c :: rest =>
    if c = 'T' || c = 't' || c = ' ' then match afterTime? rest with
      | some rest => (afterOffset? rest).getD rest
      | none => s
    else s
  | [] => s

def moment? (s : List Char) : Option (Value × List Char) :=
  let rest := match afterDate? s with
    | some rest => some (afterTimeOfDate rest)
    | none => afterTime? s
  rest.map fun rest => (.moment (String.ofList (s.take (s.length - rest.length))), rest)

def word? (s : List Char) : Option (Value × List Char) :=
  match s with
  | 't' :: 'r' :: 'u' :: 'e' :: rest => some (.boolean true, rest)
  | 'f' :: 'a' :: 'l' :: 's' :: 'e' :: rest => some (.boolean false, rest)
  | _ => none

/-- A truth value, a date or time, or a number. -/
def scalar (s : List Char) : Except Defect (Taken Value) :=
  match word? s <|> moment? s <|> based? s with
  | some taken => .ok taken
  | none => match special? s with
    | some taken => .ok taken
    | none => decimal s

end KernelConfig.Toml
