import CommitStandard.Platform

/-!
# Numbers and moments in settings files

Whole numbers in four bases, numbers with a fraction or an exponent, dates and times of day. Each
reader takes the longest written form from the start of a text and gives the rest. A document that
cannot be read is malformed, or it goes beyond one of the limits that reading has.
-/
namespace CommitStandard.Toml

/-- How many arrays and inline tables a value may lie in. -/
def nestingLimit : Nat := 400

def keyPartLimit : Nat := 1000

/-- A value lies in too many arrays and inline tables. -/
def nestingExcess : Excess :=
  .depth ("TOML inline arrays/tables are nested more than the allowed ".toList ++
    Text.ofNat nestingLimit ++ " levels".toList)

/-- A key has too many parts. -/
def keyPartExcess : Excess :=
  .depth ("TOML key has more than the allowed ".toList ++ Text.ofNat keyPartLimit ++
    " parts".toList)

abbrev Reading (α : Type) := Except DocumentFault α

/-- Nothing stands for a malformed document. -/
def orMalformed {α : Type} : Option α → Reading α
  | some a => .ok a
  | none => .error .malformed

@[simp] theorem orMalformed_some {α : Type} (a : α) : orMalformed (some a) = .ok a := rfl

@[simp] theorem orMalformed_none {α : Type} :
    orMalformed (none : Option α) = .error .malformed := rfl

/-- The value of a digit in bases up to sixteen. -/
def digitValue (c : Char) : Nat :=
  if Text.asciiDigit c then c.toNat - '0'.toNat
  else if Text.asciiLower c then c.toNat - 'a'.toNat + 10
  else c.toNat - 'A'.toNat + 10

def digitsValue (base : Nat) (digits : Text) : Nat :=
  digits.foldl (fun n c => n * base + digitValue c) 0

def isDigitOf (base : Nat) (c : Char) : Bool := Text.asciiAlphanumeric c && digitValue c < base

/-- The longest run of digits, single underscores between them overlooked. -/
def takeDigits (isDigit : Char → Bool) : Text → Text × Text
  | [] => ([], [])
  | [c] => if isDigit c then ([c], []) else ([], [c])
  | '_' :: c :: rest => ([], '_' :: c :: rest)
  | c :: '_' :: d :: rest =>
    if isDigit c then
      if isDigit d then
        let (digits, left) := takeDigits isDigit (d :: rest)
        (c :: digits, left)
      else ([c], '_' :: d :: rest)
    else ([], c :: '_' :: d :: rest)
  | c :: d :: rest =>
    if isDigit c then
      let (digits, left) := takeDigits isDigit (d :: rest)
      (c :: digits, left)
    else ([], c :: d :: rest)

/-- Takes a whole number with a base prefix. -/
def takeBased? : Text → Option (Value × Text)
  | '0' :: mark :: rest =>
    let base := if mark = 'x' then 16 else if mark = 'o' then 8 else if mark = 'b' then 2 else 0
    match takeDigits (isDigitOf base) rest with
    | ([], _) => none
    | (digits, left) => some (.int (digitsValue base digits), left)
  | _ => none

/-- Takes a sign; it is negative for a minus. -/
def takeSign : Text → Bool × Text
  | '-' :: rest => (true, rest)
  | '+' :: rest => (false, rest)
  | s => (false, s)

/-- Takes a point and digits, or nothing. -/
def takeFraction (s : Text) : Text × Text :=
  match s with
  | '.' :: rest =>
    match takeDigits Text.asciiDigit rest with
    | ([], _) => ([], s)
    | (digits, left) => (digits, left)
  | _ => ([], s)

/-- Takes an exponent, or nothing. -/
def takeExponent (s : Text) : Option Int × Text :=
  match s with
  | c :: rest =>
    if c = 'e' ∨ c = 'E' then
      let (negative, rest) := takeSign rest
      match takeDigits Text.asciiDigit rest with
      | ([], _) => (none, s)
      | (digits, left) =>
        let n : Int := digitsValue 10 digits
        (some (if negative then -n else n), left)
    else (none, s)
  | [] => (none, s)

/-- Takes a decimal number. It is whole unless it has a fraction or an exponent; only then may it
have any number of digits. A leading zero stands alone. -/
def takeDecimal? (s : Text) : Option (Reading (Value × Text)) :=
  let (negative, rest) := takeSign s
  let (whole, rest) := match rest with
    | '0' :: left => (['0'], left)
    | _ => takeDigits Text.asciiDigit rest
  if whole.isEmpty then none
  else
    let (fraction, rest) := takeFraction rest
    let (exponent, rest) := takeExponent rest
    some <|
      if fraction.isEmpty && exponent.isNone then
        if Text.digitLimit < whole.length then .error (.beyond (.digits whole.length))
        else
          let n : Int := digitsValue 10 whole
          .ok (.int (if negative then -n else n), rest)
      else
        .ok (.float (Double.ofDecimal negative (digitsValue 10 (whole ++ fraction))
          (exponent.getD 0 - fraction.length)), rest)

/-- Takes infinity or the undefined number, with an optional sign. -/
def takeSpecial? (s : Text) : Option (Value × Text) :=
  let (negative, rest) := takeSign s
  match rest with
  | 'i' :: 'n' :: 'f' :: left => some (.float (.infinite negative), left)
  | 'n' :: 'a' :: 'n' :: left => some (.float .nan, left)
  | _ => none

/-- Takes a number of any kind. -/
def takeNumber? (s : Text) : Option (Reading (Value × Text)) :=
  (takeBased? s).map .ok <|> takeDecimal? s <|> (takeSpecial? s).map .ok

/-- Takes so many digits. -/
def takeFixed? (count : Nat) (s : Text) : Option (Nat × Text) :=
  let digits := s.take count
  if digits.length = count ∧ digits.all Text.asciiDigit then
    some (digitsValue 10 digits, s.drop count)
  else none

/-- Takes one character. -/
def takeChar? (c : Char) : Text → Option Text
  | d :: rest => if d = c then some rest else none
  | [] => none

/-- Takes a date with two-digit months and days that some calendar month has. -/
def takeDate? (s : Text) : Option (Date × Text) := do
  let (year, s) ← takeFixed? 4 s
  let (month, s) ← takeFixed? 2 (← takeChar? '-' s)
  let (day, s) ← takeFixed? 2 (← takeChar? '-' s)
  if 1 ≤ month ∧ month ≤ 12 ∧ 1 ≤ day ∧ day ≤ 31 then some (⟨year, month, day⟩, s) else none

/-- Takes a fraction of a second, kept to six places. -/
def takeMicros (s : Text) : Nat × Text :=
  match s with
  | '.' :: rest =>
    let digits := rest.takeWhile Text.asciiDigit
    if digits.isEmpty then (0, s)
    else
      let kept := digits.take 6
      (digitsValue 10 (kept ++ List.replicate (6 - kept.length) '0'),
        rest.dropWhile Text.asciiDigit)
  | _ => (0, s)

/-- Takes the seconds of a time of day and their fraction; without them both are zero. -/
def takeSeconds (s : Text) : Nat × Nat × Text :=
  match (takeChar? ':' s).bind (takeFixed? 2) with
  | some (second, rest) => if second < 60 then (second, takeMicros rest) else (0, 0, s)
  | none => (0, 0, s)

/-- Takes a time of day, which need not have seconds. -/
def takeTime? (s : Text) : Option (DayTime × Text) := do
  let (hour, s) ← takeFixed? 2 s
  let (minute, s) ← takeFixed? 2 (← takeChar? ':' s)
  if hour < 24 ∧ minute < 60 then
    let (second, micros, s) := takeSeconds s
    some (⟨hour, minute, second, micros⟩, s)
  else none

/-- Takes a distance from universal time, if there is one. -/
def takeOffset? (s : Text) : Option (Offset × Text) :=
  match s with
  | [] => none
  | sign :: rest =>
    if sign = 'Z' ∨ sign = 'z' then some (⟨false, 0⟩, rest)
    else if sign = '+' ∨ sign = '-' then do
      let (hour, s) ← takeFixed? 2 rest
      let (minute, s) ← takeFixed? 2 (← takeChar? ':' s)
      if hour < 24 ∧ minute < 60 then some (⟨sign = '-', hour * 60 + minute⟩, s) else none
    else none

/-- Takes the time of day after a date, if there is one. -/
def takeDayTime? (s : Text) : Option (DayTime × Text) :=
  match s with
  | c :: rest => if c = 'T' ∨ c = 't' ∨ c = ' ' then takeTime? rest else none
  | [] => none

/-- Takes a date, a date with a time of day, or a time of day, if there is one of them. A date that
does not exist is a fault. -/
def takeMoment? (s : Text) : Option (Reading (Value × Text)) :=
  match takeDate? s with
  | some (date, rest) =>
    some <|
      if date.isValid then
        match takeDayTime? rest with
        | some (time, rest) =>
          match takeOffset? rest with
          | some (offset, rest) => .ok (.moment (.both date time (some offset)), rest)
          | none => .ok (.moment (.both date time none), rest)
        | none => .ok (.moment (.date date), rest)
      else .error .malformed
  | none => (takeTime? s).map fun (time, rest) => .ok (.moment (.time time), rest)

end CommitStandard.Toml
