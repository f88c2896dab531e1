import Lookout.Proofs.Json.Meaning
import Lookout.Proofs.Json.Passing
/-!
# Reading a value for its meaning

A reader of values takes blanks and one value from the front of a text, gives what that value means,
and takes every value that means something (`ReadsAs`).  The readers of numbers, strings and choices
do so.  Those of lists and objects do if the reader of an element or of a member does
(`exists_of_readElements`, `readElements_of_mapM`, `exists_of_readMembers`,
`readMembers_of_foldlM`).
-/

namespace Lookout.Json

variable {α : Type} {cs rest : List Char}

/-- The reader takes blanks and a value from the front of a text and gives what the value means;
this it does with every value of at most `fuel` characters that means something. -/
structure ReadsAs (fuel : Nat) (meaning : Value → Option α)
    (reader : List Char → Except Error (α × List Char)) : Prop where
  /-- What is read is a value's meaning. -/
  sound : ∀ {cs x rest}, reader cs = .ok (x, rest) →
    ∃ (b : Blanks) (v : Value), cs = b.chars ++ (v.chars ++ rest) ∧ meaning v = some x
  /-- A value's meaning is read. -/
  complete : ∀ {b : Blanks} {v : Value} {x rest}, meaning v = some x → v.chars.length ≤ fuel →
    Stops rest → reader (b.chars ++ (v.chars ++ rest)) = .ok (x, rest)

/-- A value's meaning is read where it comes next. -/
theorem ReadsAs.complete_value {fuel : Nat} {meaning : Value → Option α}
    {reader : List Char → Except Error (α × List Char)} (h : ReadsAs fuel meaning reader)
    {v : Value} {x : α} (hx : meaning v = some x) (hfuel : v.chars.length ≤ fuel)
    (hrest : Stops rest) : reader (v.chars ++ rest) = .ok (x, rest) :=
  h.complete (b := .none) hx hfuel hrest

/-! ### The front of a text -/

/-- The first character of a value is no blank and ends no list. -/
theorem Value.exists_first (v : Value) :
    ∃ c cs, v.chars = c :: cs ∧ isBlank c = false ∧ c ≠ ']' := by
  cases h : v.chars with
  | nil => exact absurd h v.chars_ne_nil
  | cons c cs =>
    obtain ⟨hblank, hend, -⟩ := exists_startValue
      (show c :: cs = v.chars ++ [] by rw [h, List.append_nil]) (show Closes [] [] [] from rfl)
    exact ⟨c, cs, rfl, hblank, hend⟩

@[simp] theorem skipBlanks_value (v : Value) (cs : List Char) :
    skipBlanks (v.chars ++ cs) = v.chars ++ cs := by
  obtain ⟨c, tail, hv, hblank, -⟩ := v.exists_first
  rw [hv, List.cons_append, skipBlanks_cons hblank]

@[simp] theorem skipBlanks_skipBlanks (cs : List Char) :
    skipBlanks (skipBlanks cs) = skipBlanks cs := by
  obtain ⟨b, hb⟩ := exists_blanks cs
  calc skipBlanks (skipBlanks cs) = skipBlanks (b.chars ++ skipBlanks cs) :=
        (skipBlanks_append b _).symm
    _ = skipBlanks cs := by rw [← hb]

/-- Something that is not of the expected kind is never taken. -/
theorem wrongType_ne_ok {expected : String} {x : α} : wrongType expected cs ≠ .ok x := by
  unfold wrongType
  dsimp only
  split <;> nofun

theorem readWord_eq_ok_iff {word : List Char} :
    readWord word cs = .ok rest ↔ cs = word ++ rest := by
  induction word generalizing cs with
  | nil => simp [readWord]
  | cons w ws ih =>
    cases cs with
    | nil => simp [readWord]
    | cons c cs =>
      unfold readWord
      by_cases hc : c = w
      · simp [hc, ih]
      · simp [hc]

/-! ### Numbers -/

theorem startsNumber_of_isNumber {token : List Char} (h : IsNumber token) :
    startsNumber (token ++ rest) = true := by
  have hunsigned {token : List Char} (h : IsUnsigned token) :
      startsNumber (token ++ rest) = true := by
    cases h with
    | zero h => rfl
    | digits hd hne h => simp [startsNumber, hd]
  cases h with
  | positive h => exact hunsigned h
  | negative h => rfl

/-- A number that is read is a value. -/
theorem exists_number {n : Number} (h : readNumber (skipBlanks cs) = .ok (n, rest)) :
    ∃ (b : Blanks) (v : Value), cs = b.chars ++ (v.chars ++ rest) ∧ v.number? = some n := by
  obtain ⟨b, hb⟩ := exists_blanks cs
  obtain ⟨token, htext, htoken, hmore⟩ := reads_readNumber _ _ _ h
  have hnil := hmore [] stops_nil
  rw [List.append_nil] at hnil
  exact ⟨b, .number token htoken, by rw [hb, htext]; rfl, numberOf?_eq_some_iff.mpr hnil⟩

/-- A value that is a number is read. -/
theorem readNumber_value {v : Value} {n : Number} (h : v.number? = some n) (hrest : Stops rest) :
    startsNumber (v.chars ++ rest) = true ∧ readNumber (v.chars ++ rest) = .ok (n, rest) := by
  cases v with
  | number token htoken =>
    refine ⟨startsNumber_of_isNumber htoken, ?_⟩
    obtain ⟨token', htext, -, hmore⟩ := reads_readNumber _ _ _ (numberOf?_eq_some_iff.mp h)
    rw [List.append_nil] at htext
    subst htext
    exact hmore rest hrest
  | _ => cases h

theorem Value.number?_eq_whole_iff {v : Value} {n : Int} : v.number? = some (.whole n) ↔
    v.whole? = some n ∧ -0x8000000000000000 ≤ n ∧ n < 0x10000000000000000 := by
  cases v with
  | number token htoken => exact numberOf?_eq_whole_iff htoken
  | _ => simp [Value.number?, Value.whole?]

theorem readsAs_integer (fuel : Nat) (expected : String) {low high : Int}
    (hlow : -0x8000000000000000 ≤ low) (hhigh : high ≤ 0x10000000000000000) :
    ReadsAs fuel (Value.integer? low high) (readInteger expected low high) where
  sound := by
    intro cs x rest h
    unfold readInteger at h
    dsimp only at h
    split at h
    · obtain ⟨⟨n, rest'⟩, hread, h⟩ := Results.bind_eq_ok_iff.mp h
      obtain ⟨b, v, hcs, hn⟩ := exists_number hread
      cases n with
      | whole n =>
        dsimp only at h
        split at h
        · rename_i hrange
          cases h
          refine ⟨b, v, hcs, ?_⟩
          rw [Value.integer?, (Value.number?_eq_whole_iff.mp hn).1]
          exact if_pos hrange
        · cases h
      | real y => cases h
    · exact absurd h wrongType_ne_ok
  complete := by
    intro b v x rest h _ hrest
    obtain ⟨n, hn, h⟩ := Option.bind_eq_some_iff.mp h
    split at h
    · rename_i hrange
      cases h
      have hwhole : v.number? = some (.whole n) :=
        Value.number?_eq_whole_iff.mpr ⟨hn, by omega, by omega⟩
      obtain ⟨hstarts, hread⟩ := readNumber_value hwhole hrest
      unfold readInteger
      simp only [skipBlanks_append, skipBlanks_value, hstarts, hread, bind, Except.bind]
      exact if_pos hrange
    · cases h

theorem readsAs_real (fuel : Nat) : ReadsAs fuel Value.real? readReal where
  sound := by
    intro cs x rest h
    unfold readReal at h
    dsimp only at h
    split at h
    · obtain ⟨⟨n, rest'⟩, hread, h⟩ := Results.bind_eq_ok_iff.mp h
      obtain ⟨b, v, hcs, hn⟩ := exists_number hread
      cases h
      exact ⟨b, v, hcs, by rw [Value.real?, hn]; rfl⟩
    · exact absurd h wrongType_ne_ok
  complete := by
    intro b v x rest h _ hrest
    obtain ⟨n, hn, rfl⟩ := Option.map_eq_some_iff.mp h
    obtain ⟨hstarts, hread⟩ := readNumber_value hn hrest
    unfold readReal
    simp only [skipBlanks_append, skipBlanks_value, hstarts, hread, bind, Except.bind]
    rfl

/-! ### Strings -/

/-- A string that is read is its pieces up to the closing quote. -/
theorem readString_eq_ok_iff_textOf? {s : String} : readString cs = .ok (s, rest) ↔
    ∃ ps, cs = piecesChars ps ++ '"' :: rest ∧ textOf? ps = some s := by
  rw [readString_eq_ok_iff]
  constructor
  · rintro ⟨ps, t, hcs, ht, rfl⟩
    exact ⟨ps, hcs, by rw [textOf?, ht]; rfl⟩
  · rintro ⟨ps, hcs, h⟩
    obtain ⟨t, ht, rfl⟩ := Option.map_eq_some_iff.mp h
    exact ⟨ps, t, hcs, ht, rfl⟩

theorem exists_text {expected : String} {s : String} (h : readText expected cs = .ok (s, rest)) :
    ∃ (b : Blanks) (ps : List Piece),
      cs = b.chars ++ (quoted ps ++ rest) ∧ textOf? ps = some s := by
  obtain ⟨b, hb⟩ := exists_blanks cs
  unfold readText at h
  split at h
  · rename_i tail htail
    obtain ⟨ps, htext, hs⟩ := readString_eq_ok_iff_textOf?.mp h
    exact ⟨b, ps, by rw [hb, htail, htext]; simp [quoted], hs⟩
  · exact absurd h wrongType_ne_ok

theorem readText_quoted (expected : String) {b : Blanks} {ps : List Piece} {s : String}
    (h : textOf? ps = some s) :
    readText expected (b.chars ++ (quoted ps ++ rest)) = .ok (s, rest) := by
  have hskip : skipBlanks (b.chars ++ (quoted ps ++ rest)) =
      '"' :: (piecesChars ps ++ '"' :: rest) := by
    simp [quoted, skipBlanks_cons (show isBlank '"' = false from rfl)]
  unfold readText
  rw [hskip]
  exact readString_eq_ok_iff_textOf?.mpr ⟨ps, rfl, h⟩

theorem readsAs_text (fuel : Nat) (expected : String) :
    ReadsAs fuel Value.text? (readText expected) where
  sound h := by
    obtain ⟨b, ps, hcs, hs⟩ := exists_text h
    exact ⟨b, .text ps, hcs, hs⟩
  complete := by
    intro b v x rest h _ _
    cases v with
    | text ps => exact readText_quoted expected h
    | _ => cases h

/-- What is read is changed afterwards. -/
theorem ReadsAs.map {β : Type} {fuel : Nat} {meaning : Value → Option α}
    {reader : List Char → Except Error (α × List Char)} (h : ReadsAs fuel meaning reader)
    (f : α → β) : ReadsAs fuel (fun v => (meaning v).map f)
      (fun cs => (reader cs).map fun found => (f found.1, found.2)) where
  sound hread := by
    obtain ⟨⟨x, rest⟩, hx, hpair⟩ := Results.map_eq_ok_iff.mp hread
    cases hpair
    obtain ⟨b, v, hcs, hv⟩ := h.sound hx
    exact ⟨b, v, hcs, by rw [hv]; rfl⟩
  complete hx hfuel hrest := by
    obtain ⟨y, hy, rfl⟩ := Option.map_eq_some_iff.mp hx
    rw [h.complete hy hfuel hrest]
    rfl

/-! ### Choices -/

theorem findName_eq_ok_iff {names : List String} {name : String} {d : Datum} :
    findName names name = .ok d ↔ (names.findIdx? (· == name)).map .choice = some d := by
  unfold findName
  cases names.findIdx? (· == name) <;> simp

/-- The colon that is read stands behind blanks. -/
theorem readColon_eq_ok (h : readColon cs = .ok rest) :
    ∃ b : Blanks, cs = b.chars ++ ':' :: rest := by
  obtain ⟨b, hb⟩ := exists_blanks cs
  unfold readColon at h
  split at h
  · rename_i tail htail
    cases h
    exact ⟨b, htail ▸ hb⟩
  · cases h
  · cases h

theorem readColon_append (b : Blanks) (cs : List Char) :
    readColon (b.chars ++ ':' :: cs) = .ok cs := by
  unfold readColon
  rw [skipBlanks_append, skipBlanks_cons (show isBlank ':' = false from rfl)]
  rfl

/-- A name is chosen by itself. -/
theorem readChoice_text {names : List String} {name : String} {ps : List Piece} {x : Datum}
    (b : Blanks) (hname : textOf? ps = some name) (hx : findName names name = .ok x) :
    readChoice names (b.chars ++ ((Value.text ps).chars ++ rest)) = .ok (x, rest) := by
  have hskip : skipBlanks (b.chars ++ ((Value.text ps).chars ++ rest)) =
      '"' :: (piecesChars ps ++ '"' :: rest) := by
    simp [Value.chars, quoted, skipBlanks_cons (rfl : isBlank '"' = false)]
  have hread : readString (piecesChars ps ++ '"' :: rest) = .ok (name, rest) :=
    readString_eq_ok_iff_textOf?.mpr ⟨ps, rfl, hname⟩
  unfold readChoice
  rw [hskip]
  simp only [hread, hx, bind, Except.bind]
  rfl

/-- A name is chosen as the only key of an object, with nothing behind it. -/
theorem readChoice_object {names : List String} {name : String} {key : Padded (List Piece)}
    {x : Datum} (b inner before after : Blanks) (hname : textOf? key.inner = some name)
    (hx : findName names name = .ok x) :
    readChoice names (b.chars ++
      ((Value.object inner [(key, ⟨before, .null, after⟩)]).chars ++ rest)) = .ok (x, rest) := by
  have hskip : skipBlanks (b.chars ++
      ((Value.object inner [(key, ⟨before, .null, after⟩)]).chars ++ rest)) =
      '\x7b' :: ((inner.append key.before).chars ++ (quoted key.inner ++
        (key.after.chars ++ ':' :: (before.chars ++
          ('n' :: (['u', 'l', 'l'] ++ (after.chars ++ '\x7d' :: rest))))))) := by
    simp [Value.chars, membersChars, skipBlanks_cons (rfl : isBlank '\x7b' = false)]
  unfold readChoice
  rw [hskip]
  simp only [readText_quoted _ hname, hx, readColon_append, skipBlanks_append,
    skipBlanks_cons (rfl : isBlank 'n' = false), bind, Except.bind, readWord_eq_ok_iff.mpr rfl,
    skipBlanks_cons (rfl : isBlank '\x7d' = false)]
  rfl

theorem readsAs_choice (fuel : Nat) (names : List String) :
    ReadsAs fuel (Value.choice? names) (readChoice names) where
  sound := by
    intro cs x rest h
    obtain ⟨b, hb⟩ := exists_blanks cs
    unfold readChoice at h
    split at h
    · cases h
    · rename_i tail htail
      obtain ⟨⟨name, rest'⟩, hread, h⟩ := Results.bind_eq_ok_iff.mp h
      obtain ⟨d, hfound, h⟩ := Results.bind_eq_ok_iff.mp h
      cases h
      obtain ⟨ps, htext, hname⟩ := readString_eq_ok_iff_textOf?.mp hread
      refine ⟨b, .text ps, by rw [hb, htail, htext]; simp [Value.chars, quoted], ?_⟩
      rw [Value.choice?, chosen?, hname]
      exact findName_eq_ok_iff.mp hfound
    · rename_i tail htail
      obtain ⟨⟨name, rest₁⟩, hread, hkey⟩ := Results.bind_eq_ok_iff.mp h
      obtain ⟨d, hfound, hcolon⟩ := Results.bind_eq_ok_iff.mp hkey
      obtain ⟨rest₂, hrest₂, hvalue⟩ := Results.bind_eq_ok_iff.mp hcolon
      obtain ⟨before, ps, htext, hname⟩ := exists_text hread
      obtain ⟨after, hafter⟩ := readColon_eq_ok hrest₂
      obtain ⟨b₂, hb₂⟩ := exists_blanks rest₂
      split at hvalue
      · rename_i tail₂ htail₂
        obtain ⟨rest₃, hword, hend⟩ := Results.bind_eq_ok_iff.mp hvalue
        rw [readWord_eq_ok_iff] at hword
        obtain ⟨b₃, hb₃⟩ := exists_blanks rest₃
        split at hend
        · rename_i tail₃ htail₃
          cases hend
          refine ⟨b, .object .none [(⟨before, ps, after⟩, ⟨b₂, .null, b₃⟩)], ?_, ?_⟩
          · rw [hb, htail, htext, hafter, hb₂, htail₂, hword, hb₃, htail₃]
            simp [Value.chars, membersChars]
          · rw [Value.choice?, chosen?, hname]
            exact findName_eq_ok_iff.mp hfound
        · cases hend
        · cases hend
      · exact absurd hvalue wrongType_ne_ok
    · cases h
  complete := by
    rintro b v x rest h - -
    unfold Value.choice? at h
    split at h
    · obtain ⟨name, hname, hx⟩ := Option.bind_eq_some_iff.mp h
      exact readChoice_text b hname (findName_eq_ok_iff.mpr hx)
    · rename_i inner key before after
      obtain ⟨name, hname, hx⟩ := Option.bind_eq_some_iff.mp h
      exact readChoice_object b inner before after hname (findName_eq_ok_iff.mpr hx)
    · cases h

/-! ### Lists -/

/-- What stands before an element or a member: a comma, unless it is the first one. -/
def comma (first : Bool) : List Char := if first then [] else [',']

/-- The characters of some elements that come next in a list. -/
def elementsFrom (first : Bool) (es : List (Padded Value)) : List Char :=
  if first then (elementsChars es).tail else elementsChars es

@[simp] theorem elementsFrom_nil (first : Bool) : elementsFrom first [] = [] := by
  cases first <;> rfl

theorem elementsFrom_cons (first : Bool) (e : Padded Value) (es : List (Padded Value)) :
    elementsFrom first (e :: es) = comma first ++
      (e.before.chars ++ (e.inner.chars ++ (e.after.chars ++ elementsChars es))) := by
  cases first <;> simp [elementsFrom, elementsChars, comma]

/-- The list ends at its bracket. -/
theorem exists_of_nextElement_none {first : Bool} (h : nextElement first cs = .ok none) :
    ∃ (b : Blanks) (tail : List Char), cs = b.chars ++ ']' :: tail := by
  obtain ⟨b, hb⟩ := exists_blanks cs
  unfold nextElement at h
  split at h
  · cases h
  · rename_i c tail htail
    split at h
    · rename_i hend
      exact ⟨b, tail, by rw [hb, htail, (by simpa using hend : c = ']')]⟩
    · split at h
      · cases h
      · split at h
        · split at h <;> cases h
        · cases h

/-- An element comes behind its comma. -/
theorem exists_of_nextElement_some {first : Bool} {next : List Char}
    (h : nextElement first cs = .ok (some next)) :
    ∃ inner before : Blanks, cs = inner.chars ++ (comma first ++ (before.chars ++ next)) := by
  obtain ⟨b, hb⟩ := exists_blanks cs
  unfold nextElement at h
  split at h
  · cases h
  · rename_i c tail htail
    split at h
    · cases h
    · split at h
      · rename_i hfirst
        cases h
        exact ⟨b, .none, by rw [hb, htail, hfirst]; rfl⟩
      · rename_i hfirst
        split at h
        · rename_i hcomma
          obtain ⟨b', hb'⟩ := exists_blanks tail
          split at h
          · cases h
          · cases h
          · cases h
            refine ⟨b, b', ?_⟩
            rw [hb, htail, (by simpa using hcomma : c = ','),
              (by simpa using hfirst : first = false)]
            exact congrArg (b.chars ++ ',' :: ·) hb'
        · cases h

@[simp] theorem nextElement_end (first : Bool) (b : Blanks) (more : List Char) :
    nextElement first (b.chars ++ ']' :: more) = .ok none := by
  unfold nextElement
  rw [skipBlanks_append, skipBlanks_cons rfl]
  rfl

theorem nextElement_value (first : Bool) (inner before : Blanks) (v : Value) (more : List Char) :
    nextElement first (inner.chars ++ (comma first ++ (before.chars ++ (v.chars ++ more)))) =
      .ok (some (v.chars ++ more)) := by
  obtain ⟨c, tail, hv, hblank, hend⟩ := v.exists_first
  cases first with
  | true =>
    show nextElement true (inner.chars ++ (before.chars ++ (v.chars ++ more))) = _
    unfold nextElement
    rw [skipBlanks_append, skipBlanks_append, skipBlanks_value]
    simp [hv, hend]
  | false =>
    show nextElement false (inner.chars ++ ',' :: (before.chars ++ (v.chars ++ more))) = _
    unfold nextElement
    rw [skipBlanks_append, skipBlanks_cons rfl]
    simp only [skipBlanks_append, skipBlanks_value]
    simp [hv, hend]

theorem endList_eq_ok_iff : endList cs = .ok rest ↔ ∃ b : Blanks, cs = b.chars ++ ']' :: rest := by
  constructor
  · intro h
    obtain ⟨b, hb⟩ := exists_blanks cs
    unfold endList at h
    split at h
    · cases h
    · rename_i htail
      cases h
      exact ⟨b, htail ▸ hb⟩
    · split at h <;> cases h
    · cases h
  · rintro ⟨b, rfl⟩
    unfold endList
    rw [skipBlanks_append, skipBlanks_cons rfl]
    rfl

section lists

variable {fuel : Nat} {meaning : Value → Option Datum}
  {item : List Char → Except Error (Datum × List Char)} (hitem : ReadsAs fuel meaning item)
include hitem

/-- The elements that are read mean what is found. -/
theorem exists_of_readElements {n : Nat} {first : Bool} {acc ds : List Datum}
    (h : readElements item n first acc cs = .ok (ds, rest)) :
    ∃ (inner : Blanks) (es : List (Padded Value)) (found : List Datum),
      cs = inner.chars ++ (elementsFrom first es ++ ']' :: rest) ∧
        es.mapM (fun e => meaning e.inner) = some found ∧ ds = acc.reverse ++ found := by
  induction n generalizing first acc cs with
  | zero => cases h
  | succ n ih =>
    unfold readElements at h
    obtain ⟨next, hnext, hread⟩ := Results.bind_eq_ok_iff.mp h
    cases next with
    | none =>
      obtain ⟨rest', hend, hpair⟩ := Results.bind_eq_ok_iff.mp hread
      cases hpair
      obtain ⟨b, hcs⟩ := endList_eq_ok_iff.mp hend
      exact ⟨b, [], [], by rw [hcs]; simp, rfl, by simp⟩
    | some next =>
      obtain ⟨⟨d, cs'⟩, hd, hmore⟩ := Results.bind_eq_ok_iff.mp hread
      obtain ⟨inner, before, hcs⟩ := exists_of_nextElement_some hnext
      obtain ⟨b, v, hv, hmeaning⟩ := hitem.sound hd
      obtain ⟨after, es, found, hcs', hes, hds⟩ := ih hmore
      refine ⟨inner, ⟨before.append b, v, after⟩ :: es, d :: found, ?_, ?_, ?_⟩
      · rw [hcs, hv, hcs', elementsFrom_cons]
        simp [elementsFrom]
      · simp [List.mapM_cons, hmeaning, hes]
      · simpa using hds

/-- Elements that mean something are read. -/
theorem readElements_of_mapM {n : Nat} {first : Bool} {acc found : List Datum} {inner : Blanks}
    {es : List (Padded Value)} (hes : es.mapM (fun e => meaning e.inner) = some found)
    (hfuel : ∀ e ∈ es, e.inner.chars.length ≤ fuel) (hn : es.length < n) :
    readElements item n first acc (inner.chars ++ (elementsFrom first es ++ ']' :: rest)) =
      .ok (acc.reverse ++ found, rest) := by
  induction es generalizing n first acc found inner with
  | nil =>
    cases n with
    | zero => cases hn
    | succ n =>
      cases hes
      unfold readElements
      rw [elementsFrom_nil, List.nil_append, nextElement_end]
      simp [bind, Except.bind, pure, Except.pure, endList_eq_ok_iff.mpr ⟨inner, rfl⟩]
  | cons e es ih =>
    cases n with
    | zero => cases hn
    | succ n =>
      rw [List.mapM_cons] at hes
      obtain ⟨d, hd, hes⟩ := Option.bind_eq_some_iff.mp hes
      obtain ⟨ds, hds, hfound⟩ := Option.bind_eq_some_iff.mp hes
      cases hfound
      have hread := hitem.complete_value hd (hfuel e List.mem_cons_self)
        (stops_elements e.after es rest)
      have hmore : readElements item n false (d :: acc)
          (e.after.chars ++ (elementsChars es ++ ']' :: rest)) =
            .ok ((d :: acc).reverse ++ ds, rest) :=
        ih hds (fun e he => hfuel e (List.mem_cons_of_mem _ he)) (Nat.lt_of_succ_lt_succ hn)
      unfold readElements
      rw [elementsFrom_cons]
      simp only [List.append_assoc, nextElement_value, bind, Except.bind, hread]
      simpa using hmore

end lists

/-! ### Objects -/

/-- The characters of some members that come next in an object. -/
def membersFrom (first : Bool) (ms : List Member) : List Char :=
  if first then (membersChars ms).tail else membersChars ms

@[simp] theorem membersFrom_nil (first : Bool) : membersFrom first [] = [] := by
  cases first <;> rfl

theorem membersFrom_cons (first : Bool) (m : Member) (ms : List Member) :
    membersFrom first (m :: ms) = comma first ++ (m.1.before.chars ++ (quoted m.1.inner ++
      (m.1.after.chars ++ ':' :: (m.2.before.chars ++ (m.2.inner.chars ++
        (m.2.after.chars ++ membersChars ms)))))) := by
  cases first <;> simp [membersFrom, membersChars, comma]

/-- The object ends at its brace. -/
theorem skipBlanks_of_nextMember_none {first : Bool} (h : nextMember first cs = .ok none) :
    skipBlanks cs = '\x7d' :: (skipBlanks cs).tail := by
  unfold nextMember at h
  split at h
  · cases h
  · rename_i c tail htail
    split at h
    · rename_i hend
      rw [htail, (by simpa using hend : c = '\x7d')]
      rfl
    · split at h
      · split at h <;> cases h
      · split at h
        · split at h <;> cases h
        · cases h

/-- A key comes behind its comma and its opening quote. -/
theorem exists_of_nextMember_some {first : Bool} {next : List Char}
    (h : nextMember first cs = .ok (some next)) :
    ∃ inner before : Blanks,
      cs = inner.chars ++ (comma first ++ (before.chars ++ '"' :: next)) := by
  obtain ⟨b, hb⟩ := exists_blanks cs
  unfold nextMember at h
  split at h
  · cases h
  · rename_i c tail htail
    split at h
    · cases h
    · split at h
      · rename_i hfirst
        split at h
        · rename_i hquote
          cases h
          exact ⟨b, .none, by rw [hb, htail, hfirst, (by simpa using hquote : c = '"')]; rfl⟩
        · cases h
      · rename_i hfirst
        split at h
        · rename_i hcomma
          obtain ⟨b', hb'⟩ := exists_blanks tail
          split at h
          · cases h
          · rename_i hquote
            cases h
            refine ⟨b, b', ?_⟩
            rw [hb, htail, (by simpa using hcomma : c = ','),
              (by simpa using hfirst : first = false)]
            rw [hquote] at hb'
            exact congrArg (b.chars ++ ',' :: ·) hb'
          · cases h
          · cases h
        · cases h

theorem nextMember_end (first : Bool) (b : Blanks) (more : List Char) :
    nextMember first (b.chars ++ '\x7d' :: more) = .ok none := by
  unfold nextMember
  rw [skipBlanks_append, skipBlanks_cons rfl]
  rfl

theorem nextMember_key (first : Bool) (inner before : Blanks) (more : List Char) :
    nextMember first (inner.chars ++ (comma first ++ (before.chars ++ '"' :: more))) =
      .ok (some more) := by
  cases first with
  | true =>
    show nextMember true (inner.chars ++ (before.chars ++ '"' :: more)) = _
    unfold nextMember
    rw [skipBlanks_append, skipBlanks_append, skipBlanks_cons rfl]
    rfl
  | false =>
    show nextMember false (inner.chars ++ ',' :: (before.chars ++ '"' :: more)) = _
    unfold nextMember
    rw [skipBlanks_append, skipBlanks_cons rfl]
    simp only [skipBlanks_append, skipBlanks_cons (rfl : isBlank '"' = false)]
    rfl

/-- The reader takes the colon and the value of a member with the given key, and does to the slots
what the member does to them. -/
structure ReadsMember (fuel : Nat) (put : String → Value → Slots → Option Slots)
    (member : String → Slots → List Char → Except Error (Slots × List Char)) : Prop where
  /-- What is done to the slots is done by the member that was read. -/
  sound : ∀ {key slots slots' cs rest}, member key slots cs = .ok (slots', rest) →
    ∃ (after b : Blanks) (v : Value),
      cs = after.chars ++ ':' :: (b.chars ++ (v.chars ++ rest)) ∧ put key v slots = some slots'
  /-- What a member does to the slots is done. -/
  complete : ∀ {key slots slots' rest} {after b : Blanks} {v : Value},
    put key v slots = some slots' → v.chars.length ≤ fuel → Stops rest →
    member key slots (after.chars ++ ':' :: (b.chars ++ (v.chars ++ rest))) = .ok (slots', rest)

section members

variable {fuel : Nat} {put : String → Value → Slots → Option Slots}
  {member : String → Slots → List Char → Except Error (Slots × List Char)}
  (hmember : ReadsMember fuel put member)
include hmember

/-- The members that are read do to the slots what is done to them. -/
theorem exists_of_readMembers {n : Nat} {first : Bool} {slots slots' : Slots}
    (h : readMembers member n first slots cs = .ok (slots', rest)) :
    ∃ (inner : Blanks) (ms : List Member) (found : List (String × Value)),
      cs = inner.chars ++ (membersFrom first ms ++ '\x7d' :: rest) ∧
        namedMembers? ms = some found ∧
        found.foldlM (fun slots m => put m.1 m.2 slots) slots = some slots' := by
  induction n generalizing first slots cs with
  | zero => cases h
  | succ n ih =>
    unfold readMembers at h
    obtain ⟨next, hnext, hread⟩ := Results.bind_eq_ok_iff.mp h
    cases next with
    | none =>
      cases hread
      obtain ⟨b, hb⟩ := exists_blanks cs
      refine ⟨b, [], [], ?_, rfl, rfl⟩
      conv => lhs; rw [hb, skipBlanks_of_nextMember_none hnext]
      simp
    | some next =>
      obtain ⟨⟨key, cs₁⟩, hkey, hvalue⟩ := Results.bind_eq_ok_iff.mp hread
      obtain ⟨⟨slots₁, cs₂⟩, hput, hmore⟩ := Results.bind_eq_ok_iff.mp hvalue
      obtain ⟨inner, before, hcs⟩ := exists_of_nextMember_some hnext
      obtain ⟨ps, hnext, hname⟩ := readString_eq_ok_iff_textOf?.mp hkey
      obtain ⟨after, b, v, hcs₁, hslots⟩ := hmember.sound hput
      obtain ⟨after', ms, found, hcs₂, hms, hfound⟩ := ih hmore
      refine ⟨inner, (⟨before, ps, after⟩, ⟨b, v, after'⟩) :: ms, (key, v) :: found, ?_, ?_, ?_⟩
      · rw [hcs, hnext, hcs₁, hcs₂, membersFrom_cons]
        simp [membersFrom, quoted]
      · unfold namedMembers? at hms ⊢
        simp [List.mapM_cons, hname, hms]
      · simp [List.foldlM_cons, hslots, hfound]

/-- Members that can be put into the slots are read. -/
theorem readMembers_of_foldlM {n : Nat} {first : Bool} {slots slots' : Slots} {inner : Blanks}
    {ms : List Member} {found : List (String × Value)} (hms : namedMembers? ms = some found)
    (hslots : found.foldlM (fun slots m => put m.1 m.2 slots) slots = some slots')
    (hfuel : ∀ m ∈ ms, m.2.inner.chars.length ≤ fuel) (hn : ms.length < n) :
    readMembers member n first slots (inner.chars ++ (membersFrom first ms ++ '\x7d' :: rest)) =
      .ok (slots', rest) := by
  induction ms generalizing n first slots found inner with
  | nil =>
    cases n with
    | zero => cases hn
    | succ n =>
      cases hms
      cases hslots
      unfold readMembers
      rw [membersFrom_nil, List.nil_append, nextMember_end]
      simp [bind, Except.bind, pure, Except.pure, skipBlanks_cons (rfl : isBlank '\x7d' = false)]
  | cons m ms ih =>
    cases n with
    | zero => cases hn
    | succ n =>
      unfold namedMembers? at hms
      rw [List.mapM_cons] at hms
      obtain ⟨named, hnamed, hms⟩ := Option.bind_eq_some_iff.mp hms
      obtain ⟨key, hkey, rfl⟩ := Option.map_eq_some_iff.mp hnamed
      obtain ⟨more, hmore, hfound⟩ := Option.bind_eq_some_iff.mp hms
      cases hfound
      rw [List.foldlM_cons] at hslots
      obtain ⟨slots₁, hput, hrest⟩ := Option.bind_eq_some_iff.mp hslots
      have hname : readString (piecesChars m.1.inner ++ '"' :: (m.1.after.chars ++ ':' ::
          (m.2.before.chars ++ (m.2.inner.chars ++ (m.2.after.chars ++ (membersChars ms ++
            '\x7d' :: rest)))))) = .ok (key, _) :=
        readString_eq_ok_iff_textOf?.mpr ⟨m.1.inner, rfl, hkey⟩
      have hread : member key slots (m.1.after.chars ++ ':' :: (m.2.before.chars ++
          (m.2.inner.chars ++ (m.2.after.chars ++ (membersChars ms ++ '\x7d' :: rest))))) =
            .ok (slots₁, m.2.after.chars ++ (membersChars ms ++ '\x7d' :: rest)) :=
        hmember.complete hput (hfuel m List.mem_cons_self) (stops_members m.2.after ms rest)
      have hothers : readMembers member n false slots₁
          (m.2.after.chars ++ (membersChars ms ++ '\x7d' :: rest)) = .ok (slots', rest) :=
        ih hmore hrest (fun m hm => hfuel m (List.mem_cons_of_mem _ hm)) (Nat.lt_of_succ_lt_succ hn)
      unfold readMembers
      rw [membersFrom_cons]
      simp only [List.append_assoc, List.cons_append, List.nil_append, quoted, nextMember_key, bind,
        Except.bind, hname, hread]
      simpa using hothers

end members

end Lookout.Json
