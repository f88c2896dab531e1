import Lookout.Proofs.Json.Values
/-!
# What is read from a text

Every shape is read as it should be (`readsAs_shape`): by recursion on the shape, a reader of values
is put together from those of its parts.  The fuel of a reader bounds the elements and members of
one list or object, and a value has fewer of them than characters.

* **A text is read exactly if it is a JSON document that means something to the shape**
  (`read_eq_ok_iff`), and what is read is what it means.
* **Behind a record that was read nothing but blanks may follow** (`read_append_eq_ok_iff`).
-/

namespace Lookout.Json

variable {cs rest : List Char}

/-! ### Lengths -/

theorem length_elementsChars (es : List (Padded Value)) : es.length ≤ (elementsChars es).length ∧
    ∀ e ∈ es, e.inner.chars.length < (elementsChars es).length := by
  induction es with
  | nil => exact ⟨Nat.le_refl 0, nofun⟩
  | cons e es ih =>
    simp only [elementsChars, List.length_append, List.length_cons, List.mem_cons]
    refine ⟨by omega, ?_⟩
    rintro d (rfl | hd)
    · omega
    · have := ih.2 d hd
      omega

theorem length_membersChars (ms : List Member) : ms.length ≤ (membersChars ms).length ∧
    ∀ m ∈ ms, m.2.inner.chars.length < (membersChars ms).length := by
  induction ms with
  | nil => exact ⟨Nat.le_refl 0, nofun⟩
  | cons m ms ih =>
    simp only [membersChars, List.length_append, List.length_cons, List.mem_cons]
    refine ⟨by omega, ?_⟩
    rintro d (rfl | hd)
    · omega
    · have := ih.2 d hd
      omega

/-- A list has fewer elements than characters, and its elements are shorter. -/
theorem lengths_of_list {inner : Blanks} {es : List (Padded Value)} {fuel : Nat}
    (h : (Value.list inner es).chars.length ≤ fuel) :
    es.length < fuel ∧ ∀ e ∈ es, e.inner.chars.length ≤ fuel := by
  obtain ⟨hlength, hall⟩ := length_elementsChars es
  simp only [Value.chars, List.length_append, List.length_cons, List.length_tail,
    List.length_nil] at h
  exact ⟨by omega, fun e he => by have := hall e he; omega⟩

/-- An object has fewer members than characters, and its values are shorter. -/
theorem lengths_of_object {inner : Blanks} {ms : List Member} {fuel : Nat}
    (h : (Value.object inner ms).chars.length ≤ fuel) :
    ms.length < fuel ∧ ∀ m ∈ ms, m.2.inner.chars.length ≤ fuel := by
  obtain ⟨hlength, hall⟩ := length_membersChars ms
  simp only [Value.chars, List.length_append, List.length_cons, List.length_tail,
    List.length_nil] at h
  exact ⟨by omega, fun m hm => by have := hall m hm; omega⟩

/-! ### Shapes -/

/-- The reader takes the elements of a list as the fields of a record, and then the list ends. -/
structure ReadsInOrder (fuel : Nat) (first : Bool) (meaning : List Value → Option (List Datum))
    (reader : List Char → Except Error (List Datum × List Char)) : Prop where
  /-- What is read is the elements' meaning. -/
  sound : ∀ {cs ds cs' rest}, reader cs = .ok (ds, cs') → endList cs' = .ok rest →
    ∃ (inner : Blanks) (es : List (Padded Value)),
      cs = inner.chars ++ (elementsFrom first es ++ ']' :: rest) ∧
        meaning (es.map (·.inner)) = some ds
  /-- The elements' meaning is read. -/
  complete : ∀ {inner : Blanks} {es : List (Padded Value)} {ds rest},
    meaning (es.map (·.inner)) = some ds → (∀ e ∈ es, e.inner.chars.length ≤ fuel) →
    ∃ cs', reader (inner.chars ++ (elementsFrom first es ++ ']' :: rest)) = .ok (ds, cs') ∧
      endList cs' = .ok rest

section shapes

variable {fuel : Nat} {shape : Shape} {fields : Fields}

/-- A value that starts like the word `null` is it. -/
theorem Value.isNull_of_chars {v : Value} {tail : List Char}
    (h : v.chars ++ rest = 'n' :: tail) : v.isNull = true := by
  cases v with
  | null => rfl
  | number token htoken =>
    have hunsigned {token : List Char} (hu : IsUnsigned token) : token ++ rest ≠ 'n' :: tail := by
      cases hu with
      | zero hu => nofun
      | digits hd hne hu =>
        intro h
        exact ne_of_isDigit hd (by decide : ('n').isDigit = false) (List.cons.inj h).1
    cases htoken with
    | positive hu => exact absurd h (hunsigned hu)
    | negative hu => cases h
  | boolean value => cases value <;> cases h
  | _ => cases h

theorem Value.eq_null_of_isNull {v : Value} (h : v.isNull = true) : v = .null := by
  cases v with
  | null => rfl
  | _ => cases h

theorem readsAs_optional (h : ReadsAs fuel shape.decode (readShape shape fuel)) :
    ReadsAs fuel (Shape.optional shape).decode (readShape (.optional shape) fuel) where
  sound := by
    intro cs x rest hread
    obtain ⟨b, hb⟩ := exists_blanks cs
    unfold readShape at hread
    split at hread
    · rename_i tail htail
      obtain ⟨rest', hword, hpair⟩ := Results.bind_eq_ok_iff.mp hread
      cases hpair
      rw [readWord_eq_ok_iff] at hword
      exact ⟨b, .null, by rw [hb, htail, hword]; rfl, rfl⟩
    · rename_i hno
      obtain ⟨b', v, htext, hv⟩ := h.sound hread
      refine ⟨b.append b', v, by rw [hb, htext]; simp, ?_⟩
      unfold Shape.decode
      split
      · rename_i hnull
        cases Value.eq_null_of_isNull hnull
        rw [← skipBlanks_skipBlanks, htext, skipBlanks_append, skipBlanks_value] at hno
        exact absurd rfl (hno _)
      · exact hv
  complete := by
    intro b v x rest hx hfuel hrest
    unfold Shape.decode at hx
    unfold readShape
    rw [skipBlanks_append, skipBlanks_value]
    split at hx
    · rename_i hnull
      cases Value.eq_null_of_isNull hnull
      cases hx
      have hword : readWord ['u', 'l', 'l'] ('u' :: 'l' :: 'l' :: rest) = .ok rest :=
        readWord_eq_ok_iff.mpr rfl
      simp only [Value.chars, List.cons_append, List.nil_append, bind, Except.bind, hword]
      rfl
    · rename_i hnull
      split
      · rename_i htail
        exact absurd (Value.isNull_of_chars htail) hnull
      · exact h.complete_value hx hfuel hrest

theorem readsAs_sequence (h : ReadsAs fuel shape.decode (readShape shape fuel)) :
    ReadsAs fuel (Shape.sequence shape).decode (readShape (.sequence shape) fuel) where
  sound := by
    intro cs x rest hread
    obtain ⟨b, hb⟩ := exists_blanks cs
    unfold readShape at hread
    split at hread
    · rename_i tail htail
      obtain ⟨⟨ds, rest'⟩, helements, hpair⟩ := Results.bind_eq_ok_iff.mp hread
      cases hpair
      obtain ⟨inner, es, found, htext, hes, hds⟩ := exists_of_readElements h helements
      refine ⟨b, .list inner es, by rw [hb, htail, htext]; simp [Value.chars, elementsFrom], ?_⟩
      rw [hds]
      simp [Shape.decode, Value.elements?, hes]
    · exact absurd hread wrongType_ne_ok
  complete := by
    intro b v x rest hx hfuel hrest
    unfold Shape.decode at hx
    obtain ⟨ds, hds, rfl⟩ := Option.map_eq_some_iff.mp hx
    cases v with
    | list inner es =>
      obtain ⟨hlength, hall⟩ := lengths_of_list hfuel
      have hskip : skipBlanks (b.chars ++ ((Value.list inner es).chars ++ rest)) =
          '[' :: (inner.chars ++ (elementsFrom true es ++ ']' :: rest)) := by
        simp [Value.chars, elementsFrom, skipBlanks_cons (rfl : isBlank '[' = false)]
      have hread : readElements (fun cs => readShape shape fuel cs) fuel true []
          (inner.chars ++ (elementsFrom true es ++ ']' :: rest)) = .ok (ds, rest) :=
        readElements_of_mapM h hds hall hlength
      unfold readShape
      rw [hskip]
      simp only [hread, bind, Except.bind]
      rfl
    | _ => cases hds

/-- A record is read whatever follows it, since it ends with a bracket of its own. -/
theorem readShape_record {name : String}
    (hmember : ReadsMember fuel fields.put (readMember fields fuel))
    (hlist : ReadsInOrder fuel true fields.decodeInOrder
      (readInOrder name fields.count fields fuel 0))
    {b : Blanks} {v : Value} {x : Datum} (hx : (Shape.record name fields).decode v = some x)
    (hfuel : v.chars.length ≤ fuel) :
    readShape (.record name fields) fuel (b.chars ++ (v.chars ++ rest)) = .ok (x, rest) := by
  unfold readShape
  cases v with
  | object inner ms =>
    obtain ⟨found, hms, hx⟩ := Option.bind_eq_some_iff.mp hx
    obtain ⟨ds, hds, rfl⟩ := Option.map_eq_some_iff.mp hx
    obtain ⟨slots, hslots, hcomplete⟩ := decodeMembers_eq_some_iff.mp hds
    obtain ⟨hlength, hall⟩ := lengths_of_object hfuel
    have hskip : skipBlanks (b.chars ++ ((Value.object inner ms).chars ++ rest)) =
        '\x7b' :: (inner.chars ++ (membersFrom true ms ++ '\x7d' :: rest)) := by
      simp [Value.chars, membersFrom, skipBlanks_cons (rfl : isBlank '\x7b' = false)]
    have hread : readMembers (fun key slots cs => readMember fields fuel key slots cs) fuel true
        fields.emptySlots (inner.chars ++ (membersFrom true ms ++ '\x7d' :: rest)) =
          .ok (slots, rest) :=
      readMembers_of_foldlM hmember hms hslots hall hlength
    rw [hskip]
    simp only [hread, hcomplete, bind, Except.bind]
    rfl
  | list inner es =>
    obtain ⟨ds, hds, rfl⟩ := Option.map_eq_some_iff.mp hx
    have hskip : skipBlanks (b.chars ++ ((Value.list inner es).chars ++ rest)) =
        '[' :: (inner.chars ++ (elementsFrom true es ++ ']' :: rest)) := by
      simp [Value.chars, elementsFrom, skipBlanks_cons (rfl : isBlank '[' = false)]
    obtain ⟨cs', hfields, hend⟩ : ∃ cs', readInOrder name fields.count fields fuel 0
        (inner.chars ++ (elementsFrom true es ++ ']' :: rest)) = .ok (ds, cs') ∧
          endList cs' = .ok rest := hlist.complete hds (lengths_of_list hfuel).2
    rw [hskip]
    simp only [hfields, hend, bind, Except.bind]
    rfl
  | _ => cases hx

theorem readsAs_record {name : String}
    (hmember : ReadsMember fuel fields.put (readMember fields fuel))
    (hlist : ReadsInOrder fuel true fields.decodeInOrder
      (readInOrder name fields.count fields fuel 0)) :
    ReadsAs fuel (Shape.record name fields).decode (readShape (.record name fields) fuel) where
  sound := by
    intro cs x rest hread
    obtain ⟨b, hb⟩ := exists_blanks cs
    unfold readShape at hread
    split at hread
    · rename_i tail htail
      obtain ⟨⟨slots, rest'⟩, hmembers, hcomplete⟩ := Results.bind_eq_ok_iff.mp hread
      obtain ⟨ds, hds, hpair⟩ := Results.bind_eq_ok_iff.mp hcomplete
      cases hpair
      obtain ⟨inner, ms, found, htext, hms, hslots⟩ := exists_of_readMembers hmember hmembers
      refine ⟨b, .object inner ms, by rw [hb, htail, htext]; simp [Value.chars, membersFrom], ?_⟩
      have hdecode := decodeMembers_eq_some_iff.mpr ⟨slots, hslots, hds⟩
      simp [Shape.decode, hms, hdecode]
    · rename_i tail htail
      obtain ⟨⟨ds, cs'⟩, hfields, hend⟩ := Results.bind_eq_ok_iff.mp hread
      obtain ⟨rest', hrest', hpair⟩ := Results.bind_eq_ok_iff.mp hend
      cases hpair
      obtain ⟨inner, es, htext, hes⟩ := hlist.sound hfields hrest'
      refine ⟨b, .list inner es, by rw [hb, htail, htext]; simp [Value.chars, elementsFrom], ?_⟩
      simp [Shape.decode, hes]
    · exact absurd hread wrongType_ne_ok
  complete hx hfuel _ := readShape_record hmember hlist hx hfuel

/-- Take a member's colon and pass over its value. -/
def passMember (slots : Slots) (cs : List Char) : Except Error (Slots × List Char) :=
  (readColon cs).bind fun cs => (skipValue cs).map (slots, ·)

theorem exists_of_passMember {slots slots' : Slots} (h : passMember slots cs = .ok (slots', rest)) :
    ∃ (after b : Blanks) (v : Value),
      cs = after.chars ++ ':' :: (b.chars ++ (v.chars ++ rest)) ∧ slots = slots' := by
  obtain ⟨cs₁, hcolon, hvalue⟩ := Results.bind_eq_ok_iff.mp h
  obtain ⟨rest', hskip, hpair⟩ := Results.map_eq_ok_iff.mp hvalue
  cases hpair
  obtain ⟨after, hcs⟩ := readColon_eq_ok hcolon
  obtain ⟨b, v, hcs₁⟩ := exists_of_skipValue hskip
  exact ⟨after, b, v, by rw [hcs, hcs₁], rfl⟩

theorem passMember_append {slots : Slots} (after b : Blanks) (v : Value) (hrest : Stops rest) :
    passMember slots (after.chars ++ ':' :: (b.chars ++ (v.chars ++ rest))) =
      .ok (slots, rest) := by
  unfold passMember
  rw [readColon_append]
  simp [Except.bind, skipValue_append b v hrest, Except.map]

theorem readsMember_nil : ReadsMember fuel Fields.nil.put (readMember .nil fuel) where
  sound := by
    intro key slots slots' cs rest h
    obtain ⟨after, b, v, hcs, hslots⟩ :=
      exists_of_passMember (show passMember slots cs = .ok (slots', rest) from h)
    exact ⟨after, b, v, hcs, congrArg some hslots⟩
  complete := by
    intro key slots slots' rest after b v h _ hrest
    cases h
    exact passMember_append after b v hrest

theorem readsMember_cons {name : String} {absence : Absence}
    (hshape : ReadsAs fuel shape.decode (readShape shape fuel))
    (hfields : ReadsMember fuel fields.put (readMember fields fuel)) :
    ReadsMember fuel (Fields.cons name absence shape fields).put
      (readMember (.cons name absence shape fields) fuel) where
  sound := by
    intro key slots slots' cs rest h
    cases slots with
    | nil =>
      obtain ⟨after, b, v, hcs, hslots⟩ :=
        exists_of_passMember (show passMember [] cs = .ok (slots', rest) from h)
      exact ⟨after, b, v, hcs, congrArg some hslots⟩
    | cons slot slots =>
      unfold readMember at h
      unfold Fields.put
      split at h
      · rename_i hkey
        split at h
        · cases h
        · rename_i hslot
          obtain ⟨cs₁, hcolon, hvalue⟩ := Results.bind_eq_ok_iff.mp h
          obtain ⟨⟨d, cs₂⟩, hd, hpair⟩ := Results.bind_eq_ok_iff.mp hvalue
          cases hpair
          obtain ⟨after, hcs⟩ := readColon_eq_ok hcolon
          obtain ⟨b, v, hcs₁, hv⟩ := hshape.sound hd
          exact ⟨after, b, v, by rw [hcs, hcs₁], by simp [hkey, hslot, hv]⟩
      · rename_i hkey
        obtain ⟨⟨slots₁, cs₁⟩, hmember, hpair⟩ := Results.bind_eq_ok_iff.mp h
        cases hpair
        obtain ⟨after, b, v, hcs, hput⟩ := hfields.sound hmember
        exact ⟨after, b, v, hcs, by simp [hkey, hput]⟩
  complete := by
    intro key slots slots' rest after b v h hfuel hrest
    cases slots with
    | nil =>
      cases h
      exact passMember_append after b v hrest
    | cons slot slots =>
      unfold Fields.put at h
      unfold readMember
      split at h
      · rename_i hkey
        split at h
        · cases h
        · rename_i hslot
          obtain ⟨d, hd, rfl⟩ := Option.map_eq_some_iff.mp h
          simp only [hkey, hslot, if_pos, readColon_append, hshape.complete hd hfuel hrest, bind,
            Except.bind]
          rfl
      · rename_i hkey
        obtain ⟨slots₁, hput, rfl⟩ := Option.map_eq_some_iff.mp h
        simp only [hkey, hfields.complete hput hfuel hrest, bind, Except.bind]
        rfl

/-- Where a list ends there is no further element, for no comma comes next. -/
theorem eq_nil_of_nextElement_none {first : Bool} {inner : Blanks} {es : List (Padded Value)}
    (hnext : nextElement first cs = .ok none)
    (hcs : cs = inner.chars ++ (elementsFrom false es ++ ']' :: rest)) : es = [] := by
  obtain ⟨b, tail, htail⟩ := exists_of_nextElement_none hnext
  cases es with
  | nil => rfl
  | cons e es =>
    have hskip := congrArg skipBlanks (htail.symm.trans hcs)
    rw [elementsFrom_cons, skipBlanks_append, skipBlanks_append, skipBlanks_cons rfl,
      show comma false = [','] from rfl, List.cons_append, List.cons_append,
      skipBlanks_cons rfl] at hskip
    cases hskip

theorem readsInOrder_nil {name : String} {total position : Nat} {first : Bool} :
    ReadsInOrder fuel first Fields.nil.decodeInOrder
      (readInOrder name total .nil fuel position) where
  sound := by
    intro cs ds cs' rest h hend
    cases h
    obtain ⟨b, hcs⟩ := endList_eq_ok_iff.mp hend
    exact ⟨b, [], by rw [hcs]; simp, rfl⟩
  complete := by
    intro inner es ds rest h _
    cases es with
    | nil =>
      cases h
      exact ⟨_, rfl, endList_eq_ok_iff.mpr ⟨inner, by simp⟩⟩
    | cons e es => cases h

theorem readsInOrder_cons {name : String} {total position : Nat} {field : String}
    {absence : Absence} (hshape : ReadsAs fuel shape.decode (readShape shape fuel))
    (hfields : ReadsInOrder fuel false fields.decodeInOrder
      (readInOrder name total fields fuel (position + 1))) :
    ReadsInOrder fuel (position == 0) (Fields.cons field absence shape fields).decodeInOrder
      (readInOrder name total (.cons field absence shape fields) fuel position) where
  sound := by
    intro cs ds cs' rest h hend
    unfold readInOrder at h
    obtain ⟨next, hnext, hread⟩ := Results.bind_eq_ok_iff.mp h
    cases next with
    | none =>
      dsimp only at hread
      split at hread
      · rename_i habsence
        obtain ⟨⟨ds', cs₁⟩, hds, hpair⟩ := Results.bind_eq_ok_iff.mp hread
        cases hpair
        obtain ⟨inner, es, hcs, hes⟩ := hfields.sound hds hend
        obtain rfl := eq_nil_of_nextElement_none hnext hcs
        have hnone : fields.decodeInOrder [] = some ds' := hes
        exact ⟨inner, [], by rw [hcs]; simp, by simp [Fields.decodeInOrder, habsence, hnone]⟩
      · cases hread
    | some next =>
      obtain ⟨⟨d, cs₁⟩, hd, hmore⟩ := Results.bind_eq_ok_iff.mp hread
      obtain ⟨⟨ds', cs₂⟩, hds, hpair⟩ := Results.bind_eq_ok_iff.mp hmore
      cases hpair
      obtain ⟨inner, before, hcs⟩ := exists_of_nextElement_some hnext
      obtain ⟨b, v, hv, hmeaning⟩ := hshape.sound hd
      obtain ⟨after, es, hcs₁, hes⟩ := hfields.sound hds hend
      refine ⟨inner, ⟨before.append b, v, after⟩ :: es, ?_, ?_⟩
      · rw [hcs, hv, hcs₁, elementsFrom_cons]
        simp [elementsFrom]
      · simp [Fields.decodeInOrder, hmeaning, hes]
  complete := by
    intro inner es ds rest h hfuel
    unfold readInOrder
    cases es with
    | nil =>
      rw [List.map_nil, Fields.decodeInOrder] at h
      split at h
      · rename_i habsence
        obtain ⟨ds', hds, rfl⟩ := Option.map_eq_some_iff.mp h
        obtain ⟨cs', hread, hend⟩ : ∃ cs', readInOrder name total fields fuel (position + 1)
            (inner.chars ++ (elementsFrom false [] ++ ']' :: rest)) = .ok (ds', cs') ∧
              endList cs' = .ok rest := hfields.complete hds (List.forall_mem_nil _)
        rw [elementsFrom_nil, List.nil_append] at hread ⊢
        refine ⟨cs', ?_, hend⟩
        simp only [nextElement_end, hread, bind, Except.bind, habsence, if_pos]
        rfl
      · cases h
    | cons e es =>
      obtain ⟨d, hd, h⟩ := Option.bind_eq_some_iff.mp h
      obtain ⟨ds', hds, rfl⟩ := Option.map_eq_some_iff.mp h
      have hread := hshape.complete_value hd (hfuel e List.mem_cons_self)
        (stops_elements e.after es rest)
      obtain ⟨cs', hmore, hend⟩ : ∃ cs', readInOrder name total fields fuel (position + 1)
          (e.after.chars ++ (elementsChars es ++ ']' :: rest)) = .ok (ds', cs') ∧
            endList cs' = .ok rest :=
        hfields.complete hds fun e he => hfuel e (List.mem_cons_of_mem _ he)
      refine ⟨cs', ?_, hend⟩
      rw [elementsFrom_cons]
      simp only [List.append_assoc, nextElement_value, hread, hmore, bind, Except.bind]
      rfl

end shapes

mutual

/-- **What is read as a shape is a value with a meaning**, and every such value is read. -/
theorem readsAs_shape : ∀ (shape : Shape) (fuel : Nat),
    ReadsAs fuel shape.decode (readShape shape fuel)
  | .int64, fuel => readsAs_integer fuel _ (by decide) (by decide)
  | .nat32, fuel => readsAs_integer fuel _ (by decide) (by decide)
  | .nat64, fuel => readsAs_integer fuel _ (by decide) (by decide)
  | .real32, fuel => readsAs_real fuel
  | .text, fuel => (readsAs_text fuel _).map Datum.text
  | .path, fuel => (readsAs_text fuel _).map Datum.text
  | .choice names, fuel => readsAs_choice fuel names
  | .optional of, fuel => readsAs_optional (readsAs_shape of fuel)
  | .sequence of, fuel => readsAs_sequence (readsAs_shape of fuel)
  | .record name fields, fuel =>
    readsAs_record (readsMember_fields fields fuel) (readsInOrder_fields fields fuel name _ 0)

/-- Members are read into the slots that they belong to. -/
theorem readsMember_fields : ∀ (fields : Fields) (fuel : Nat),
    ReadsMember fuel fields.put (readMember fields fuel)
  | .nil, _ => readsMember_nil
  | .cons _ _ shape rest, fuel =>
    readsMember_cons (readsAs_shape shape fuel) (readsMember_fields rest fuel)

/-- Elements are read as the fields that they stand for. -/
theorem readsInOrder_fields : ∀ (fields : Fields) (fuel : Nat) (name : String)
    (total position : Nat), ReadsInOrder fuel (position == 0) fields.decodeInOrder
      (readInOrder name total fields fuel position)
  | .nil, _, _, _, _ => readsInOrder_nil
  | .cons _ _ shape rest, fuel, name, total, position =>
    readsInOrder_cons (readsAs_shape shape fuel)
      (readsInOrder_fields rest fuel name total (position + 1))

end

/-! ### Documents -/

/-- A text is read if a value is read from its front and nothing but blanks follows. -/
theorem read_eq_ok_iff_readShape {shape : Shape} {text : String} {d : Datum} :
    read shape text = .ok d ↔ ∃ rest,
      readShape shape (text.toList.length + 1) text.toList = .ok (d, rest) ∧
        skipBlanks rest = [] := by
  constructor
  · intro h
    obtain ⟨⟨d', rest⟩, hread, hend⟩ := Results.bind_eq_ok_iff.mp h
    dsimp only at hend
    split at hend
    · rename_i hnil
      cases hend
      exact ⟨rest, hread, hnil⟩
    · cases hend
  · rintro ⟨rest, hread, hnil⟩
    refine Results.bind_eq_ok_iff.mpr ⟨(d, rest), hread, ?_⟩
    dsimp only
    rw [hnil]
    rfl

/-- Nothing is left of blanks, and of nothing else. -/
theorem skipBlanks_eq_nil_iff : skipBlanks cs = [] ↔ ∃ b : Blanks, cs = b.chars := by
  constructor
  · intro h
    obtain ⟨b, hb⟩ := exists_blanks cs
    exact ⟨b, by rw [hb, h, List.append_nil]⟩
  · rintro ⟨b, rfl⟩
    simpa [skipBlanks] using skipBlanks_append b []

/-- **A text is read exactly if it is a document that means something**, and what is read is what it
means. -/
theorem read_eq_ok_iff {shape : Shape} {text : String} {d : Datum} :
    read shape text = .ok d ↔
      ∃ doc : Padded Value, IsDocument text doc ∧ shape.decode doc.inner = some d := by
  have hshape := readsAs_shape shape (text.toList.length + 1)
  rw [read_eq_ok_iff_readShape]
  constructor
  · rintro ⟨rest, hread, hnil⟩
    obtain ⟨b, v, htext, hv⟩ := hshape.sound hread
    obtain ⟨b', rfl⟩ := skipBlanks_eq_nil_iff.mp hnil
    exact ⟨⟨b, v, b'⟩, by rw [IsDocument, htext, List.append_assoc], hv⟩
  · rintro ⟨⟨b, v, b'⟩, htext, hv⟩
    rw [IsDocument, List.append_assoc] at htext
    have hfuel : v.chars.length ≤ text.toList.length + 1 := by
      rw [htext]
      simp only [List.length_append]
      omega
    have hrest : Stops b'.chars := by simpa using stops_nil.blanks_append b'
    have hread := hshape.complete (b := b) hv hfuel hrest
    rw [← htext] at hread
    exact ⟨b'.chars, hread, skipBlanks_eq_nil_iff.mpr ⟨b', rfl⟩⟩

/-- A text means one thing, however it is taken apart. -/
theorem meaning_unique {shape : Shape} {text : String} {doc doc' : Padded Value} {d d' : Datum}
    (hdoc : IsDocument text doc) (hd : shape.decode doc.inner = some d)
    (hdoc' : IsDocument text doc') (hd' : shape.decode doc'.inner = some d') : d = d' := by
  have hread : read shape text = .ok d := read_eq_ok_iff.mpr ⟨doc, hdoc, hd⟩
  rw [read_eq_ok_iff.mpr ⟨doc', hdoc', hd'⟩] at hread
  exact (Except.ok.inj hread).symm

/-- **Behind a record that was read nothing but blanks may follow**, and then the same is read. -/
theorem read_append_eq_ok_iff {name : String} {fields : Fields} {text more : String} {d d' : Datum}
    (h : read (.record name fields) text = .ok d) :
    read (.record name fields) (text ++ more) = .ok d' ↔
      d' = d ∧ ∃ b : Blanks, more.toList = b.chars := by
  obtain ⟨⟨before, v, after⟩, htext, hv⟩ := read_eq_ok_iff.mp h
  have hwhole : (text ++ more).toList =
      before.chars ++ (v.chars ++ (after.chars ++ more.toList)) := by
    rw [String.toList_append, htext]
    simp
  have hfuel : v.chars.length ≤ (text ++ more).toList.length + 1 := by
    rw [hwhole]
    simp only [List.length_append]
    omega
  have hrecord : readShape (.record name fields) ((text ++ more).toList.length + 1)
      (before.chars ++ (v.chars ++ (after.chars ++ more.toList))) =
        .ok (d, after.chars ++ more.toList) :=
    readShape_record (readsMember_fields fields _) (readsInOrder_fields fields _ name _ 0) hv hfuel
  rw [← hwhole] at hrecord
  rw [read_eq_ok_iff_readShape, hrecord]
  constructor
  · rintro ⟨rest, hread, hnil⟩
    cases hread
    rw [skipBlanks_append, skipBlanks_eq_nil_iff] at hnil
    exact ⟨rfl, hnil⟩
  · rintro ⟨rfl, hblank⟩
    exact ⟨_, rfl, by rwa [skipBlanks_append, skipBlanks_eq_nil_iff]⟩

end Lookout.Json
