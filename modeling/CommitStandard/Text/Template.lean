import CommitStandard.Text.Literal

/-!
# Replacement templates

A template says what a stretch of text is replaced by. It is plain text but for its escapes: a
backslash with a letter stands for a control character, with digits for the character that an
octal number names, and `\g<0>` for the stretch itself. A backslash before a character that is
neither letter nor digit stays as it is. `Template.read` reads a template and `Template.expand`
replaces a stretch; a template without a backslash replaces every stretch by its own text
(`expand_of_read`).
-/
namespace CommitStandard

inductive Template.Piece where
  | plain (s : Text)
  /-- The stretch that is replaced. -/
  | stretch
deriving DecidableEq, Repr

/-- What a stretch of text is replaced by. -/
abbrev Template := List Template.Piece

/-- Why a text is no template, and where in the text this was found. -/
inductive TemplateFault where
  /-- Nothing follows the last backslash. -/
  | openEscape
  | badEscape (escape : Text) (position : Nat)
  | badOctal (escape : Text) (position : Nat)
  /-- A part of the stretch is referred to, and it has none. -/
  | noSuchGroup (index position : Nat)
  | noOpening (position : Nat)
  | noName (position : Nat)
  | noClosing (position : Nat)
  | badName (name : Text) (position : Nat)
  /-- A part of the stretch is referred to by a name. -/
  | unknownName (name : Text)
deriving DecidableEq, Repr

namespace TemplateFault

/-- Where in the text a fault was found. -/
def position? (template : Text) : TemplateFault → Option Nat
  | openEscape => some (template.length - 1)
  | badEscape _ p | badOctal _ p | noSuchGroup _ p | noOpening p | noName p | noClosing p
  | badName _ p => some p
  | unknownName _ => none

/-- What is wrong. -/
def reason : TemplateFault → Text
  | openEscape => "bad escape (end of pattern)".toList
  | badEscape escape _ => "bad escape ".toList ++ escape
  | badOctal escape _ =>
    "octal escape value ".toList ++ escape ++ " outside of range 0-0o377".toList
  | noSuchGroup index _ => "invalid group reference ".toList ++ Text.ofNat index
  | noOpening _ => "missing <".toList
  | noName _ => "missing group name".toList
  | noClosing _ => "missing >, unterminated name".toList
  | badName name _ => "bad character in group name ".toList ++ Text.literal name
  | unknownName name => "unknown group name ".toList ++ Text.literal name

/-- The wording of a fault. In a template of several lines it names the line and the column. -/
def message (template : Text) (e : TemplateFault) : Text :=
  match e.position? template with
  | none => e.reason
  | some p =>
    let place := e.reason ++ " at position ".toList ++ Text.ofNat p
    let before := template.take p
    let column := (before.reverse.takeWhile (· ≠ '\n')).length + 1
    if '\n' ∈ template then
      place ++ " (line ".toList ++ Text.ofNat (before.count '\n' + 1) ++ ", column ".toList ++
        Text.ofNat column ++ [')']
    else place

end TemplateFault

namespace Template

/-- The signs of a template: a backslash makes one sign with the character after it. -/
def signs : Text → List Text
  | '\\' :: c :: rest => ['\\', c] :: signs rest
  | c :: rest => [c] :: signs rest
  | [] => []

/-- Whether a sign is a single character of a class. -/
def isSingle (p : Char → Bool) : Text → Bool
  | [c] => p c
  | _ => false

def isOctal (c : Char) : Bool := '0' ≤ c && c ≤ '7'

/-- The digits that belong to an escape with a digit: up to two octal ones after a zero, two if
that makes three octal ones, and else one. -/
def moreDigits (c : Char) (rest : List Text) : Text :=
  let octals := ((rest.take 2).takeWhile (isSingle isOctal)).flatten
  if c = '0' || (isOctal c && octals.length == 2) then octals
  else ((rest.take 1).takeWhile (isSingle Text.asciiDigit)).flatten

/-- What an escape with digits means: after a zero, or if there are three, a character. -/
def ofDigits (position : Nat) (digits : Text) : Except TemplateFault Piece :=
  let code := digits.foldl (fun n c => n * 8 + (c.toNat - '0'.toNat)) 0
  if digits.head? = some '0' || digits.length == 3 then
    if code ≤ 0o377 then .ok (.plain [Char.ofNat code])
    else .error (.badOctal ('\\' :: digits) position)
  else .error (.noSuchGroup (Text.digitsValue digits) (position + 1))

/-- What an escape with a character other than a digit means. -/
def ofEscape (position : Nat) (c : Char) : Except TemplateFault Piece :=
  let controls := [('a', '\x07'), ('b', '\x08'), ('f', '\x0c'), ('n', '\n'), ('r', '\r'),
    ('t', '\t'), ('v', '\x0b'), ('\\', '\\')]
  match controls.lookup c with
  | some d => .ok (.plain [d])
  | none =>
    if Text.asciiLetter c then .error (.badEscape ['\\', c] position) else .ok (.plain ['\\', c])

def isName : Text → Bool
  | [] => false
  | c :: rest =>
    Text.isWord c && !Text.isDigit c && rest.all fun c => Text.isWord c || Text.isMark c

/-- What a reference means: the number zero stands for the stretch. -/
def ofReference (position : Nat) (name : Text) : Except TemplateFault Piece :=
  if name.isEmpty then .error (.noName position)
  else if isName name then .error (.unknownName name)
  else
    match Text.toInt? name with
    | some (.ofNat 0) => .ok .stretch
    | some (.ofNat n) => .error (.noSuchGroup n position)
    | _ => .error (.badName name position)

/-- A last backslash is found before what is wrong with the sign in front of it. -/
def orOpen (rest : List Text) (r : Except TemplateFault Piece) : Except TemplateFault Piece :=
  if rest = [['\\']] then .error .openEscape else r

/-- Reads signs, the first of which stands at the given position. -/
def readFrom (position : Nat) : List Text → Except TemplateFault Template
  | [] => .ok []
  | ['\\'] :: _ => .error .openEscape
  | ['\\', 'g'] :: ['<'] :: rest =>
    let name := rest.takeWhile (· ≠ ['>'])
    match h : rest.dropWhile (· ≠ ['>']) with
    | _ :: after => do
      have : after.length < rest.length := by
        have hl := (List.dropWhile_sublist (l := rest) (· ≠ ['>'])).length_le
        rw [h, List.length_cons] at hl
        omega
      let piece ← orOpen after (ofReference (position + 3) name.flatten)
      let pieces ← readFrom (position + name.flatten.length + 4) after
      return piece :: pieces
    | [] =>
      if name.getLast? = some ['\\'] then .error .openEscape
      else if name.isEmpty then .error (.noName (position + 3))
      else .error (.noClosing (position + 3))
  | ['\\', 'g'] :: rest =>
    if rest = [['\\']] then .error .openEscape else .error (.noOpening (position + 2))
  | ['\\', c] :: rest => do
    if Text.asciiDigit c then
      let digits := moreDigits c rest
      let rest := rest.drop digits.length
      let piece ← orOpen rest (ofDigits position (c :: digits))
      return piece :: (← readFrom (position + digits.length + 2) rest)
    else
      let piece ← orOpen rest (ofEscape position c)
      return piece :: (← readFrom (position + 2) rest)
  | sign :: rest => return .plain sign :: (← readFrom (position + sign.length) rest)
  termination_by signs => signs.length

def read (s : Text) : Except TemplateFault Template := readFrom 0 (signs s)

/-- What a template writes in the place of a stretch. -/
def expand (template : Template) (stretch : Text) : Text :=
  template.flatMap fun
    | .plain s => s
    | .stretch => stretch

theorem signs_of_notMem {s : Text} (h : '\\' ∉ s) : signs s = s.map fun c => [c] := by
  fun_induction signs s with
  | case1 => simp at h
  | case2 c rest hc ih => simp [ih fun hr => h (List.mem_cons_of_mem c hr)]
  | case3 => rfl

theorem readFrom_cons {c : Char} (h : c ≠ '\\') (position : Nat) (rest : List Text) :
    readFrom position ([c] :: rest) =
      (readFrom (position + 1) rest).map fun pieces => .plain [c] :: pieces := by
  rw [readFrom.eq_def]
  split <;> simp_all
  next hs =>
    obtain ⟨rfl, rfl⟩ := hs
    rfl

theorem readFrom_of_notMem {s : Text} (h : '\\' ∉ s) (position : Nat) :
    readFrom position (s.map fun c => [c]) = .ok (s.map fun c => .plain [c]) := by
  induction s generalizing position with
  | nil => simp [readFrom]
  | cons c rest ih =>
    simp only [List.mem_cons, not_or] at h
    rw [List.map_cons, readFrom_cons (Ne.symm h.1), ih h.2]
    rfl

/-- A template without a backslash puts its own text in the place of every stretch. -/
theorem expand_of_read {s : Text} (h : '\\' ∉ s) :
    ∃ template, read s = .ok template ∧ ∀ stretch, template.expand stretch = s := by
  refine ⟨_, by rw [read, signs_of_notMem h, readFrom_of_notMem h], fun stretch => ?_⟩
  simp [expand, List.flatMap_map]

end Template

end CommitStandard
