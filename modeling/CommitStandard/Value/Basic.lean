import CommitStandard.Value.Double
import CommitStandard.Value.Moment

/-!
# Configuration values

The values that settings hold: absent values, truth values, whole and binary numbers, texts,
moments, lists and tables. A table keeps its entries in the order in which they were written,
each key once. A value is shown on one line by `Value.display`, unless it holds a number with too
many digits, or lists and tables that lie too deep inside each other.
-/
namespace CommitStandard

/-- A value of a settings file. -/
inductive Value where
  /-- The absent value, which settings files cannot hold. -/
  | null
  | bool (b : Bool)
  | int (n : Int)
  | float (x : Double)
  | text (s : Text)
  | moment (m : Moment)
  | list (items : List Value)
  | table (entries : List (Text × Value))
deriving Inhabited

namespace Value

/-! Lists and tables lie inside values, so their equality is decided along with that of values. -/

mutual

/-- Whether two values are equal. -/
def beq : Value → Value → Bool
  | .null, .null => true
  | .bool a, .bool b => a = b
  | .int m, .int n => m = n
  | .float x, .float y => x = y
  | .text s, .text t => s = t
  | .moment m, .moment n => m = n
  | .list vs, .list ws => beqItems vs ws
  | .table es, .table fs => beqEntries es fs
  | _, _ => false

/-- Whether two lists of values are equal. -/
def beqItems : List Value → List Value → Bool
  | [], [] => true
  | v :: vs, w :: ws => beq v w && beqItems vs ws
  | _, _ => false

/-- Whether two tables are equal, the order of their entries included. -/
def beqEntries : List (Text × Value) → List (Text × Value) → Bool
  | [], [] => true
  | (k, v) :: es, (l, w) :: fs => k = l && beq v w && beqEntries es fs
  | _, _ => false

end

mutual

theorem beq_iff : ∀ v w : Value, beq v w ↔ v = w
  | .list vs, w => by cases w <;> simp [beq, beqItems_iff vs]
  | .table es, w => by cases w <;> simp [beq, beqEntries_iff es]
  | .null, w | .bool _, w | .int _, w | .float _, w | .text _, w | .moment _, w => by
    cases w <;> simp [beq]

theorem beqItems_iff : ∀ vs ws : List Value, beqItems vs ws ↔ vs = ws
  | [], ws => by cases ws <;> simp [beqItems]
  | v :: vs, ws => by cases ws <;> simp [beqItems, beq_iff v, beqItems_iff vs]

theorem beqEntries_iff : ∀ es fs : List (Text × Value), beqEntries es fs ↔ es = fs
  | [], fs => by cases fs <;> simp [beqEntries]
  | (k, v) :: es, fs => by
    rcases fs with _ | ⟨⟨l, w⟩, fs⟩ <;>
      simp [beqEntries, beq_iff v, beqEntries_iff es, Prod.ext_iff]

end

instance : DecidableEq Value := fun v w => decidable_of_iff _ (beq_iff v w)

end Value

/-- Why a value cannot be shown. -/
inductive DisplayFault where
  | digits (e : Text.DigitExcess)
  | tooDeep
deriving DecidableEq, Repr

/-- The wording of what is refused because values lie too deep inside each other. -/
def depthMessage : Text := "maximum recursion depth exceeded".toList

def DisplayFault.message : DisplayFault → Text
  | digits e => e.message
  | tooDeep => depthMessage

/-- Entries under text keys, in order, each key once. -/
abbrev Entries := List (Text × Value)

namespace Entries

def get? (key : Text) (entries : Entries) : Option Value := entries.lookup key

def has (key : Text) (entries : Entries) : Bool := entries.any fun e => e.1 == key

/-- Writes a value under a key: in place if the key is there, and at the end otherwise. -/
def put (key : Text) (value : Value) : Entries → Entries
  | [] => [(key, value)]
  | (k, v) :: rest => if k = key then (k, value) :: rest else (k, v) :: put key value rest

/-- The entries without the one under the key. -/
def erase (key : Text) (entries : Entries) : Entries := entries.filter fun e => e.1 != key

def keys (entries : Entries) : List Text := entries.map Prod.fst

@[simp] theorem get?_nil (key : Text) : get? key [] = none := rfl

theorem get?_put (key other : Text) (value : Value) (entries : Entries) :
    get? other (put key value entries) =
      if other = key then some value else get? other entries := by
  induction entries with
  | nil =>
    by_cases h : other = key <;> simp [get?, put, List.lookup_cons, h, beq_eq_false_iff_ne.2]
  | cons e rest ih =>
    obtain ⟨k, v⟩ := e
    simp only [get?] at ih ⊢
    by_cases hk : k = key
    · subst hk
      by_cases h : other = k
      · subst h
        simp [put]
      · simp [put, List.lookup_cons, h, beq_eq_false_iff_ne.2]
    · by_cases h : other = k
      · subst h
        simp [put, hk]
      · simp only [put, hk, if_false, List.lookup_cons, beq_eq_false_iff_ne.2 h]
        exact ih

end Entries

namespace Value

/-- Whether a value counts as given: everything but the absent value, falsehood, zero, and
empty texts, lists and tables. -/
def isGiven : Value → Bool
  | .null => false
  | .bool b => b
  | .int n => n != 0
  | .float x => !x.isZero
  | .text s => !s.isEmpty
  | .moment _ => true
  | .list items => !items.isEmpty
  | .table entries => !entries.isEmpty

def text? : Value → Option Text
  | .text s => some s
  | _ => none

/-- The texts of a list that holds nothing else. -/
def texts? : Value → Option (List Text)
  | .list items => items.mapM text?
  | _ => none

/-- The texts of a text or of a list of texts: a text stands for the list of it. -/
def oneOrMoreTexts? : Value → Option (List Text)
  | .text s => some [s]
  | value => value.texts?

def ofTexts (ts : List Text) : Value := .list (ts.map .text)

@[simp] theorem texts?_ofTexts (ts : List Text) : (ofTexts ts).texts? = some ts := by
  simp only [ofTexts, texts?]
  induction ts with
  | nil => rfl
  | cons t ts ih => simp [text?, ih]

mutual

/-- How many lists and tables lie inside each other. -/
def depth : Value → Nat
  | .list items => itemDepth items + 1
  | .table entries => entryDepth entries + 1
  | _ => 0

def itemDepth : List Value → Nat
  | [] => 0
  | v :: vs => max (depth v) (itemDepth vs)

def entryDepth : List (Text × Value) → Nat
  | [] => 0
  | (_, v) :: es => max (depth v) (entryDepth es)

end

mutual

/-- The literal form of a value: texts between quotation marks, lists between brackets, tables
between braces. There is room for so many lists and tables inside each other. -/
def literal (room : Nat) : Value → Except DisplayFault Text
  | .null => .ok "None".toList
  | .bool b => .ok (if b then "True".toList else "False".toList)
  | .int n => (Text.ofInt n).mapError .digits
  | .float x => .ok x.render
  | .text s => .ok (Text.literal s)
  | .moment m => .ok m.literal
  | .list items =>
    match room with
    | 0 => .error .tooDeep
    | room + 1 => do
      return '[' :: (Text.join ", ".toList (← itemLiterals room items) ++ [']'])
  | .table entries =>
    match room with
    | 0 => .error .tooDeep
    | room + 1 => do
      return '\x7b' :: (Text.join ", ".toList (← entryLiterals room entries) ++ ['\x7d'])

def itemLiterals (room : Nat) : List Value → Except DisplayFault (List Text)
  | [] => .ok []
  | v :: vs => do return (← literal room v) :: (← itemLiterals room vs)

def entryLiterals (room : Nat) : List (Text × Value) → Except DisplayFault (List Text)
  | [] => .ok []
  | (k, v) :: es => do
    return (Text.literal k ++ ": ".toList ++ (← literal room v)) :: (← entryLiterals room es)

end

/-- How a value is shown on its own: a text as it is, a moment in its canonical form, every other
value as a literal. -/
def display (room : Nat) : Value → Except DisplayFault Text
  | .text s => .ok s
  | .moment m => .ok m.render
  | v => v.literal room

end Value

end CommitStandard
