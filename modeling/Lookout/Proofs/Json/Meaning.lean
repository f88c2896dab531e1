import Lookout.Json.Shape
import Lookout.Proofs.Json.Wholes
/-!
# What a value means

A value has a meaning for whoever knows what to expect (`Shape.decode`), or it has none.  It is said
here for the value as a whole and by recursion on what is expected, with nothing about the order in
which a reader comes to see its parts.

The members of an object are looked up by the field: a field takes the one member with its name, and
members with no field's name take no part (`Fields.decodeMembers`).  A reader cannot do that, since
it comes across the members in their order; it keeps a slot for each field and fills them
(`Fields.fill`).  **Both ways come to the same** (`decodeMembers_eq_some_iff`).
-/

namespace Lookout.Json

/-- The text that a string stands for. -/
def textOf? (ps : List Piece) : Option String := (decodePieces ps).map String.ofList

/-- The one of some names that a string stands for. -/
def chosen? (names : List String) (ps : List Piece) : Option Datum :=
  (textOf? ps).bind fun name => (names.findIdx? (· == name)).map .choice

/-- The members of an object with their keys read.  A key has to stand for a text even if nothing
is done with it. -/
def namedMembers? (ms : List Member) : Option (List (String × Value)) :=
  ms.mapM fun m => (textOf? m.1.inner).map (·, m.2.inner)

/-- What the members with a field's name mean to the field. -/
def soleMember? (absence : Absence) (meaning : Value → Option Datum) :
    List (String × Value) → Option Datum
  | [] => if absence = .required then none else some .absent
  | [m] => meaning m.2
  | _ :: _ :: _ => none

namespace Value

/-- It is the word `null`. -/
def isNull : Value → Bool
  | .null => true
  | _ => false

/-- The number, if it is one. -/
def number? : Value → Option Number
  | .number token _ => numberOf? token
  | _ => none

/-- The whole number, if it is one. -/
def whole? : Value → Option Int
  | .number token _ => wholeOf? token
  | _ => none

/-- The whole number from `low` up to, but not including, `high`, if it is one. -/
def integer? (low high : Int) (v : Value) : Option Datum :=
  v.whole?.bind fun n => if low ≤ n ∧ n < high then some (.integer n) else none

/-- The number in single precision, if it is a number. -/
def real? (v : Value) : Option Datum := v.number?.map fun n => .real n.single

/-- The text, if it is one. -/
def text? : Value → Option String
  | .text ps => textOf? ps
  | _ => none

/-- The one of some names that it is: a string, or an object with the name as its only key and
`null` as the value. -/
def choice? (names : List String) : Value → Option Datum
  | .text ps => chosen? names ps
  | .object _ [(key, ⟨_, .null, _⟩)] => chosen? names key.inner
  | _ => none

/-- The elements, each with its own meaning, if it is a list. -/
def elements? (meaning : Value → Option Datum) : Value → Option (List Datum)
  | .list _ es => es.mapM fun e => meaning e.inner
  | _ => none

end Value

mutual

/-- What a value means to someone who expects the given shape. -/
def Shape.decode : Shape → Value → Option Datum
  | .int64, v => v.integer? (-0x8000000000000000) 0x8000000000000000
  | .nat32, v => v.integer? 0 0x100000000
  | .nat64, v => v.integer? 0 0x10000000000000000
  | .real32, v => v.real?
  | .text, v => v.text?.map .text
  | .path, v => v.text?.map .text
  | .choice names, v => v.choice? names
  | .optional of, v => if v.isNull then some .absent else of.decode v
  | .sequence of, v => (v.elements? fun v => of.decode v).map .list
  | .record _ fields, .object _ ms =>
    (namedMembers? ms).bind fun ms => (fields.decodeMembers ms).map .record
  | .record _ fields, .list _ es => (fields.decodeInOrder (es.map (·.inner))).map .record
  | .record _ _, _ => none

/-- What the members of an object mean to the fields of a record: to each the one with its name.  A
field may have no such member if it may be left out, and never has two. -/
def Fields.decodeMembers : Fields → List (String × Value) → Option (List Datum)
  | .nil, _ => some []
  | .cons name absence shape rest, ms =>
    (soleMember? absence (fun v => shape.decode v) (ms.filter (·.1 == name))).bind fun d =>
      (rest.decodeMembers (ms.filter (·.1 != name))).map (d :: ·)

/-- What the elements of a list mean to the fields of a record: to each its own.  There are no
further elements, and only fields with a default may be left out at the end. -/
def Fields.decodeInOrder : Fields → List Value → Option (List Datum)
  | .nil, [] => some []
  | .nil, _ :: _ => none
  | .cons _ absence _ rest, [] =>
    if absence = .defaulted then (rest.decodeInOrder []).map (.absent :: ·) else none
  | .cons _ _ shape rest, v :: vs =>
    (shape.decode v).bind fun d => (rest.decodeInOrder vs).map (d :: ·)

end

/-! ### Slots -/

/-- What one member does to the slots of the fields. -/
def Fields.put : Fields → String → Value → Slots → Option Slots
  | .cons name _ shape rest, key, v, slot :: slots =>
    if key == name then
      if slot.isSome then none else (shape.decode v).map fun d => some d :: slots
    else (rest.put key v slots).map (slot :: ·)
  | _, _, _, slots => some slots

/-- What some members do to the slots of the fields, one after the other. -/
def Fields.fill (fields : Fields) (slots : Slots) (ms : List (String × Value)) : Option Slots :=
  ms.foldlM (fun slots m => fields.put m.1 m.2 slots) slots

/-- What the values of the members with a field's name do to its slot. -/
def fillSlot (shape : Shape) (slot : Option Datum) (ms : List (String × Value)) :
    Option (Option Datum) :=
  ms.foldlM (fun slot m => if slot.isSome then none else (shape.decode m.2).map some) slot

/-- A field's slot is filled by the members with its name, and the slots after it by the others. -/
theorem fill_cons (name : String) (absence : Absence) (shape : Shape) (rest : Fields)
    (slot : Option Datum) (slots : Slots) (ms : List (String × Value)) :
    (Fields.cons name absence shape rest).fill (slot :: slots) ms =
      (fillSlot shape slot (ms.filter (·.1 == name))).bind fun own =>
        (rest.fill slots (ms.filter (·.1 != name))).map (own :: ·) := by
  induction ms generalizing slot slots with
  | nil => rfl
  | cons m ms ih =>
    unfold Fields.fill fillSlot at ih ⊢
    rw [List.foldlM_cons, Fields.put]
    by_cases hkey : (m.1 == name) = true
    · have hown : (m :: ms).filter (·.1 == name) = m :: ms.filter (·.1 == name) :=
        List.filter_cons_of_pos hkey
      have hothers : (m :: ms).filter (·.1 != name) = ms.filter (·.1 != name) :=
        List.filter_cons_of_neg (by simpa using hkey)
      rw [hown, hothers, List.foldlM_cons, if_pos hkey]
      split
      · rfl
      · cases shape.decode m.2 with
        | none => rfl
        | some d => exact ih (some d) slots
    · have hown : (m :: ms).filter (·.1 == name) = ms.filter (·.1 == name) :=
        List.filter_cons_of_neg hkey
      have hothers : (m :: ms).filter (·.1 != name) = m :: ms.filter (·.1 != name) :=
        List.filter_cons_of_pos (by simpa using hkey)
      rw [hown, hothers, List.foldlM_cons, if_neg hkey]
      cases rest.put m.1 m.2 slots with
      | none => simp
      | some slots => exact ih slot slots

theorem fillSlot_none (shape : Shape) (m : String × Value) :
    fillSlot shape none [m] = (shape.decode m.2).map some := by
  simp [fillSlot]

theorem fillSlot_none_cons_cons (shape : Shape) (m m' : String × Value)
    (ms : List (String × Value)) : fillSlot shape none (m :: m' :: ms) = none := by
  unfold fillSlot
  rw [List.foldlM_cons]
  cases h : shape.decode m.2 with
  | none => simp
  | some d => simp

theorem complete_cons_some {name : String} {absence : Absence} {shape : Shape} {rest : Fields}
    {d : Datum} {slots : Slots} :
    (Fields.cons name absence shape rest).complete (some d :: slots) =
      (rest.complete slots).map (d :: ·) := by
  rw [Fields.complete]
  cases rest.complete slots <;> rfl

theorem complete_cons_none {name : String} {absence : Absence} {shape : Shape} {rest : Fields}
    {slots : Slots} (h : absence ≠ .required) :
    (Fields.cons name absence shape rest).complete (none :: slots) =
      (rest.complete slots).map (.absent :: ·) := by
  rw [Fields.complete]
  · cases rest.complete slots <;> rfl
  · exact h

/-- **The members of an object mean to the fields what their slots hold in the end.** -/
theorem decodeMembers_eq_some_iff : ∀ {fields : Fields} {ms : List (String × Value)}
    {ds : List Datum}, fields.decodeMembers ms = some ds ↔
      ∃ slots, fields.fill fields.emptySlots ms = some slots ∧ fields.complete slots = .ok ds
  | .nil, ms, ds => by
    have hfill : Fields.nil.fill [] ms = some [] := by
      induction ms with
      | nil => rfl
      | cons m ms ih => exact ih
    simp [Fields.decodeMembers, Fields.emptySlots, hfill, Fields.complete]
  | .cons name absence shape rest, ms, ds => by
    have hothers {d : Datum} {own : Option Datum} (hown : ∀ slots,
        (Fields.cons name absence shape rest).complete (own :: slots) =
          (rest.complete slots).map (d :: ·)) :
        (rest.decodeMembers (ms.filter (·.1 != name))).map (d :: ·) = some ds ↔
          ∃ slots, (rest.fill rest.emptySlots (ms.filter (·.1 != name))).map (own :: ·) =
              some slots ∧
            (Fields.cons name absence shape rest).complete slots = .ok ds := by
      simp only [Option.map_eq_some_iff, decodeMembers_eq_some_iff]
      constructor
      · rintro ⟨ds, ⟨slots, hfill, hcomplete⟩, rfl⟩
        exact ⟨own :: slots, ⟨slots, hfill, rfl⟩, by rw [hown, hcomplete]; rfl⟩
      · rintro ⟨_, ⟨slots, hfill, rfl⟩, hcomplete⟩
        rw [hown, Results.map_eq_ok_iff] at hcomplete
        obtain ⟨ds, hcomplete, rfl⟩ := hcomplete
        exact ⟨ds, ⟨slots, hfill, hcomplete⟩, rfl⟩
    rw [Fields.emptySlots, fill_cons, Fields.decodeMembers]
    generalize ms.filter (·.1 == name) = own
    rcases own with _ | ⟨m, _ | ⟨m', more⟩⟩
    · by_cases habsence : absence = .required
      · subst habsence
        have hmissing (slots : Slots) :
            (Fields.cons name .required shape rest).complete (none :: slots) ≠ .ok ds := nofun
        simp [soleMember?, fillSlot, hmissing]
      · simpa [soleMember?, fillSlot, habsence] using hothers fun _ => complete_cons_none habsence
    · rw [fillSlot_none, soleMember?]
      cases shape.decode m.2 with
      | none => simp
      | some d => exact hothers fun _ => complete_cons_some
    · simp [soleMember?, fillSlot_none_cons_cons]

end Lookout.Json
