import Mathlib.Tactic
import CommitStandard.Toml.Reader
import CommitStandard.Toml.Writer

/-!
# What documents can hold

A document holds every value but the absent one. `Value.isStorable` says that the absent value
occurs nowhere in a value, and `DocumentFormat.IsNullFree` that a format reads no other values.
`Toml.isNullFree_format` shows that TOML is such a format.
-/
namespace CommitStandard

mutual

/-- Whether the absent value occurs nowhere in a value. -/
def Value.isStorable : Value → Bool
  | .null => false
  | .list items => Value.areStorable items
  | .table entries => Entries.isStorable entries
  | _ => true

/-- Whether the absent value occurs nowhere in the items of a list. -/
def Value.areStorable : List Value → Bool
  | [] => true
  | v :: vs => v.isStorable && Value.areStorable vs

/-- Whether the absent value occurs nowhere in the entries of a table. -/
def Entries.isStorable : List (Text × Value) → Bool
  | [] => true
  | (_, v) :: es => v.isStorable && Entries.isStorable es

end

namespace Value

@[simp] theorem isStorable_bool (b : Bool) : (Value.bool b).isStorable = true := by
  simp [isStorable]

@[simp] theorem isStorable_int (n : Int) : (Value.int n).isStorable = true := by
  simp [isStorable]

@[simp] theorem isStorable_float (x : Double) : (Value.float x).isStorable = true := by
  simp [isStorable]

@[simp] theorem isStorable_text (s : Text) : (Value.text s).isStorable = true := by
  simp [isStorable]

@[simp] theorem isStorable_moment (m : Moment) : (Value.moment m).isStorable = true := by
  simp [isStorable]

@[simp] theorem isStorable_list (vs : List Value) :
    (Value.list vs).isStorable = vs.all isStorable := by
  rw [isStorable]
  induction vs with
  | nil => simp [areStorable]
  | cons v vs ih => simp [areStorable, ih]

@[simp] theorem isStorable_table (es : Entries) :
    (Value.table es).isStorable = Entries.isStorable es := by
  rw [isStorable]

end Value

namespace Entries

theorem isStorable_eq_all (es : Entries) :
    isStorable es = es.all fun e => e.2.isStorable := by
  induction es with
  | nil => simp [isStorable]
  | cons e es ih => simp [isStorable, ih]

theorem isStorable_iff {es : Entries} : isStorable es ↔ ∀ e ∈ es, e.2.isStorable := by
  rw [isStorable_eq_all, List.all_eq_true]

@[simp] theorem isStorable_nil : isStorable [] := by simp [isStorable]

theorem mem_of_get? {key : Text} {v : Value} {es : Entries} (h : get? key es = some v) :
    (key, v) ∈ es := by
  obtain ⟨l₁, l₂, rfl, -⟩ := List.lookup_eq_some_iff.1 h
  simp

theorem isStorable_of_get? {key : Text} {v : Value} {es : Entries} (hs : isStorable es)
    (h : get? key es = some v) : v.isStorable :=
  isStorable_iff.1 hs _ (mem_of_get? h)

theorem isStorable_put {key : Text} {v : Value} {es : Entries} (hs : isStorable es)
    (hv : v.isStorable) : isStorable (put key v es) := by
  induction es with
  | nil => simpa [put, isStorable] using hv
  | cons e es ih =>
    obtain ⟨k, w⟩ := e
    simp only [isStorable, Bool.and_eq_true] at hs
    by_cases hk : k = key
    · simpa [put, hk, isStorable] using ⟨hv, hs.2⟩
    · simpa [put, hk, isStorable] using ⟨hs.1, ih hs.2⟩

end Entries

namespace Toml

/-! ## Reading yields no absent value -/

/-- Whatever the reading yields has the property. -/
def Yields {α : Type} (p : α → Prop) (r : Reading α) : Prop := ∀ a, r = .ok a → p a

namespace Yields

variable {α β : Type} {p : α → Prop} {q : β → Prop}

theorem ok {a : α} (h : p a) : Yields p (.ok a) := by
  rintro _ ⟨⟩
  exact h

theorem error (e : DocumentFault) : Yields p (.error e) := by
  rintro _ ⟨⟩

theorem bind {r : Reading α} {f : α → Reading β} (hr : Yields p r)
    (hf : ∀ a, p a → Yields q (f a)) : Yields q (r >>= f) := by
  intro b hb
  cases r with
  | error e => cases hb
  | ok a => exact hf a (hr a rfl) b hb

/-- What a step yields does not matter if every way to go on has the property. -/
theorem after {r : Reading α} {f : α → Reading β} (hf : ∀ a, Yields q (f a)) :
    Yields q (r >>= f) :=
  bind (p := fun _ => True) (fun _ _ => trivial) fun a _ => hf a

theorem orMalformed {o : Option α} (h : ∀ a, o = some a → p a) :
    Yields p (Toml.orMalformed o) := by
  cases o with
  | none => exact error _
  | some a => exact ok (h a rfl)

end Yields

/-- A value that was read is storable, whatever is left of the text. -/
abbrev FirstStorable (r : Value × Text) : Prop := r.1.isStorable

theorem yields_takeDecimal? {s : Text} {r : Reading (Value × Text)}
    (h : takeDecimal? s = some r) : Yields FirstStorable r := by
  revert h
  fun_cases takeDecimal? s with
  | case1 => rintro ⟨⟩
  | case2 =>
    rintro ⟨⟩
    split
    · split
      · exact .error _
      · exact .ok (Value.isStorable_int _)
    · exact .ok (Value.isStorable_float _)

theorem isStorable_of_takeBased? {s : Text} {r : Value × Text} (h : takeBased? s = some r) :
    r.1.isStorable := by
  revert h
  fun_cases takeBased? s <;> rintro ⟨⟩
  exact Value.isStorable_int _

theorem isStorable_of_takeSpecial? {s : Text} {r : Value × Text}
    (h : takeSpecial? s = some r) : r.1.isStorable := by
  revert h
  fun_cases takeSpecial? s <;> rintro ⟨⟩
  all_goals exact Value.isStorable_float _

theorem yields_takeNumber? {s : Text} {r : Reading (Value × Text)}
    (h : takeNumber? s = some r) : Yields FirstStorable r := by
  simp only [takeNumber?, Option.orElse_eq_some, Option.map_eq_some_iff] at h
  obtain ⟨v, hv, rfl⟩ | ⟨-, h | ⟨-, v, hv, rfl⟩⟩ := h
  · exact .ok (isStorable_of_takeBased? hv)
  · exact yields_takeDecimal? h
  · exact .ok (isStorable_of_takeSpecial? hv)

theorem yields_takeMoment? {s : Text} {r : Reading (Value × Text)}
    (h : takeMoment? s = some r) : Yields FirstStorable r := by
  revert h
  fun_cases takeMoment? s with
  | case1 =>
    rintro ⟨⟩
    repeat' split
    · exact .ok (Value.isStorable_moment _)
    · exact .ok (Value.isStorable_moment _)
    · exact .ok (Value.isStorable_moment _)
    · exact .error _
  | case2 =>
    intro h
    obtain ⟨⟨time, rest⟩, -, rfl⟩ := Option.map_eq_some_iff.1 h
    exact .ok (Value.isStorable_moment _)

theorem isStorable_of_updateAt {intoArrays : Bool} {f : Entries → Option Entries}
    (hf : ∀ es es', Entries.isStorable es → f es = some es' → Entries.isStorable es')
    {path : List Text} {es es' : Entries} (hs : Entries.isStorable es)
    (h : updateAt intoArrays f path es = some es') : Entries.isStorable es' := by
  fun_induction updateAt intoArrays f path es generalizing es' with
  | case1 es => exact hf _ _ hs h
  | case2 es key path hkey ih =>
    obtain ⟨inner, hinner, rfl⟩ := Option.map_eq_some_iff.1 h
    exact Entries.isStorable_put hs (by simpa using ih Entries.isStorable_nil hinner)
  | case3 es key path inner hkey ih =>
    obtain ⟨inner', hinner, rfl⟩ := Option.map_eq_some_iff.1 h
    have hstored := Entries.isStorable_of_get? hs hkey
    exact Entries.isStorable_put hs (by simpa using ih (by simpa using hstored) hinner)
  | case4 es key path items hkey inner hlast hinto ih =>
    obtain ⟨inner', hinner, rfl⟩ := Option.map_eq_some_iff.1 h
    have hstored : items.all Value.isStorable := by
      simpa using Entries.isStorable_of_get? hs hkey
    rw [← List.dropLast_append_getLast? _ hlast, List.all_append, Bool.and_eq_true] at hstored
    have hlater := ih (by simpa using hstored.2) (hinto ▸ hinner)
    refine Entries.isStorable_put hs ?_
    rw [Value.isStorable_list, List.all_append, hstored.1]
    simpa using hlater
  | case5 => cases h
  | case6 => cases h

theorem isStorable_of_insertNew {key : Text} {v : Value} {es es' : Entries} (hv : v.isStorable)
    (hs : Entries.isStorable es) (h : insertNew key v es = some es') : Entries.isStorable es' := by
  simp only [insertNew, Option.ite_none_left_eq_some, Option.some.injEq] at h
  rw [← h.2]
  exact Entries.isStorable_put hs hv

/-- With the given fuel, nothing that is read of a value holds the absent value. -/
structure ReadsStorable (fuel : Nat) : Prop where
  value : ∀ room s, Yields FirstStorable (takeValueFrom fuel room s)
  inner : ∀ room s, Yields FirstStorable (takeInnerFrom fuel room s)
  items : ∀ room s, Yields (fun r => r.1.all Value.isStorable) (takeItems fuel room s)
  fields : ∀ room es closed s, Entries.isStorable es →
    Yields (fun r => Entries.isStorable r.1) (takeFields fuel room es closed s)

theorem yields_takeValueFrom {fuel : Nat} (ih : ReadsStorable fuel) (room : Nat) (s : Text) :
    Yields FirstStorable (takeValueFrom (fuel + 1) room s) := by
  unfold takeValueFrom
  split
  · exact .ok (Value.isStorable_bool _)
  · exact .ok (Value.isStorable_bool _)
  · refine .after fun left => ?_
    split
    · exact .ok (Value.isStorable_list [])
    · exact (ih.items _ _).bind fun r hr => .ok ((Value.isStorable_list _).trans hr)
  · refine .after fun left => ?_
    split
    · exact .ok (Value.isStorable_table [])
    · exact (ih.fields _ _ _ _ Entries.isStorable_nil).bind fun r hr =>
        .ok ((Value.isStorable_table _).trans hr)
  · split
    · exact .after fun r => .ok (Value.isStorable_text _)
    · rename_i c rest _ _ _ _ _
      cases h : takeMoment? (c :: rest) <|> takeNumber? (c :: rest) with
      | none => exact .error _
      | some r =>
        obtain hr | ⟨-, hr⟩ := (Option.orElse_eq_some ..).1 h
        · exact yields_takeMoment? hr
        · exact yields_takeNumber? hr
  · exact .error _

theorem yields_takeInnerFrom {fuel : Nat} (ih : ReadsStorable fuel) (room : Nat) (s : Text) :
    Yields FirstStorable (takeInnerFrom (fuel + 1) room s) := by
  unfold takeInnerFrom
  cases room with
  | zero => exact .error _
  | succ room => exact ih.value room s

theorem yields_takeItems {fuel : Nat} (ih : ReadsStorable fuel) (room : Nat) (s : Text) :
    Yields (fun r => r.1.all Value.isStorable) (takeItems (fuel + 1) room s) := by
  unfold takeItems
  refine (ih.inner _ _).bind fun r hr => .after fun left => ?_
  split
  · exact .ok (by simpa using hr)
  · refine .after fun left => ?_
    split
    · exact .ok (by simpa using hr)
    · exact (ih.items _ _).bind fun rs hrs => .ok (by simpa using ⟨hr, by simpa using hrs⟩)
  · exact .error _

theorem yields_takeFields {fuel : Nat} (ih : ReadsStorable fuel) (room : Nat) {es : Entries}
    (hs : Entries.isStorable es) (closed : List (List Text)) (s : Text) :
    Yields (fun r => Entries.isStorable r.1) (takeFields (fuel + 1) room es closed s) := by
  unfold takeFields
  refine .after fun ⟨key, rest⟩ => .after fun rest => (ih.inner _ _).bind fun ⟨v, rest⟩ hv => ?_
  -- What follows once the key is known to be open.
  dsimp -zeta only
  extract_lets goOn
  have hgoOn : Yields (fun r => Entries.isStorable r.1) (goOn ()) := by
    refine (Yields.orMalformed fun es' h => isStorable_of_updateAt
      (fun _ _ => isStorable_of_insertNew hv) hs h).bind fun es' hs' => .after fun left => ?_
    split
    · exact .ok hs'
    · refine .after fun left => ?_
      split
      · exact .ok hs'
      · exact ih.fields _ _ _ _ hs'
    · exact .error _
  split
  · exact .error _
  · exact hgoOn

theorem readsStorable (fuel : Nat) : ReadsStorable fuel := by
  induction fuel with
  | zero =>
    constructor <;> intros <;>
      simp only [takeValueFrom, takeInnerFrom, takeItems, takeFields, Yields.error]
  | succ fuel ih =>
    exact ⟨yields_takeValueFrom ih, yields_takeInnerFrom ih, yields_takeItems ih,
      fun room _ closed s hs => yields_takeFields ih room hs closed s⟩

theorem yields_takeValue (s : Text) : Yields FirstStorable (takeValue s) :=
  (readsStorable _).value _ s

namespace Document

theorem isStorable_openTable {d d' : Document} {key : List Text} (hs : Entries.isStorable d.entries)
    (h : d.openTable key = some d') : Entries.isStorable d'.entries := by
  simp only [openTable, Option.ite_none_left_eq_some, Option.bind_eq_bind,
    Option.bind_eq_some_iff] at h
  obtain ⟨-, es, hes, ⟨⟩⟩ := h
  exact isStorable_of_updateAt (fun _ _ h hsome => Option.some_inj.1 hsome ▸ h) hs hes

theorem isStorable_of_growArray {stem : Text} {es es' : Entries} (hs : Entries.isStorable es)
    (h : growArray stem es = some es') : Entries.isStorable es' := by
  unfold growArray at h
  split at h
  · cases h
    exact Entries.isStorable_put hs (by simp)
  · rename_i items hget
    cases h
    have hitems := Entries.isStorable_of_get? hs hget
    refine Entries.isStorable_put hs ?_
    simpa using hitems
  · cases h

theorem isStorable_openItem {d d' : Document} {key : List Text} (hs : Entries.isStorable d.entries)
    (h : d.openItem key = some d') : Entries.isStorable d'.entries := by
  simp only [openItem, Option.ite_none_left_eq_some, Option.bind_eq_bind,
    Option.bind_eq_some_iff] at h
  obtain ⟨-, es, hes, ⟨⟩⟩ := h
  exact isStorable_of_updateAt (fun _ _ => isStorable_of_growArray) hs hes

theorem isStorable_write {d d' : Document} {key : List Text} {v : Value} (hv : v.isStorable)
    (hs : Entries.isStorable d.entries) (h : d.write key v = some d') :
    Entries.isStorable d'.entries := by
  simp only [write, Option.ite_none_left_eq_some, Option.bind_eq_bind,
    Option.bind_eq_some_iff] at h
  obtain ⟨-, es, hes, ⟨⟩⟩ := h
  exact isStorable_of_updateAt (fun _ _ => isStorable_of_insertNew hv) hs hes

theorem yields_readStatement {d : Document} (hs : Entries.isStorable d.entries) (s : Text) :
    Yields (fun r => Entries.isStorable r.1.entries) (d.readStatement s) := by
  unfold readStatement
  split
  · refine .after fun ⟨key, rest⟩ => .after fun rest => .after fun rest => ?_
    exact (Yields.orMalformed fun d' h => isStorable_openItem hs h).bind fun d' hs' => .ok hs'
  · refine .after fun ⟨key, rest⟩ => .after fun rest => ?_
    exact (Yields.orMalformed fun d' h => isStorable_openTable hs h).bind fun d' hs' => .ok hs'
  · split
    · refine .after fun ⟨key, rest⟩ => .after fun rest => ?_
      refine (yields_takeValue _).bind fun ⟨v, rest⟩ hv => ?_
      exact (Yields.orMalformed fun d' h => isStorable_write hv hs h).bind fun d' hs' => .ok hs'
    · exact .ok hs
  · exact .ok hs

theorem yields_readLines (fuel : Nat) {d : Document} (hs : Entries.isStorable d.entries)
    (s : Text) : Yields (fun d' => Entries.isStorable d'.entries) (readLines fuel d s) := by
  induction fuel generalizing d s with
  | zero => exact .error _
  | succ fuel ih =>
    refine (yields_readStatement hs _).bind fun ⟨d', rest⟩ hs' => .after fun left => ?_
    split
    · exact .ok hs'
    · exact ih hs' _
    · exact .error _

end Document

/-- The absent value occurs nowhere in what is read. -/
theorem isStorable_of_read {s : Text} {es : Entries} (h : read s = .ok es) :
    Entries.isStorable es := by
  unfold read at h
  cases hd : Document.readLines ((Text.unixLines s).length + 1) ⟨[], [], [], [], []⟩
      (Text.unixLines s) with
  | error e => simp [hd, Except.map] at h
  | ok d =>
    simp only [hd, Except.map, Except.ok.injEq] at h
    exact h ▸ Document.yields_readLines _ Entries.isStorable_nil _ _ hd

end Toml

/-- No absent value is read. -/
def DocumentFormat.IsNullFree (f : DocumentFormat) : Prop :=
  ∀ s es, f.read s = .ok es → Entries.isStorable es

theorem Toml.isNullFree_format : format.IsNullFree := fun _ _ => isStorable_of_read

end CommitStandard
