import Lookout.Proofs.Json.Documents
/-!
# One text, one document

A text can be taken apart as a document in one way, up to the blanks in it
(`trimmed_eq_of_isDocument`): where a value, a string or a member ends is told by its characters.
Blanks mean nothing (`decode_trimmed`), and so what a text means is what any document of it means
(`read_eq_ok_iff_decode`).
-/

namespace Lookout.Json

mutual

/-- The value without its blanks. -/
def Value.trimmed : Value → Value
  | .null => .null
  | .boolean value => .boolean value
  | .number chars h => .number chars h
  | .text ps => .text ps
  | .list _ es => .list .none (trimmedElements es)
  | .object _ ms => .object .none (trimmedMembers ms)

/-- The elements without their blanks. -/
def trimmedElements : List (Padded Value) → List (Padded Value)
  | [] => []
  | e :: es => ⟨.none, e.inner.trimmed, .none⟩ :: trimmedElements es

/-- The members without their blanks. -/
def trimmedMembers : List Member → List Member
  | [] => []
  | m :: ms =>
    (⟨.none, m.1.inner, .none⟩, ⟨.none, m.2.inner.trimmed, .none⟩) :: trimmedMembers ms

end

/-! ### Where the parts end -/

variable {rest rest' : List Char}

/-- A value ends where its characters tell. -/
theorem value_extent {v v' : Value} (h : v.chars ++ rest = v'.chars ++ rest') (hrest : Stops rest)
    (hrest' : Stops rest') : v.chars = v'.chars ∧ rest = rest' := by
  have hskip : skipValue (v.chars ++ rest) = .ok rest := skipValue_append .none v hrest
  have hskip' : skipValue (v'.chars ++ rest') = .ok rest' := skipValue_append .none v' hrest'
  rw [h, hskip', Except.ok.injEq] at hskip
  subst hskip
  exact ⟨List.append_cancel_right h, rfl⟩

/-- A colon comes where it does, whatever blanks are before it. -/
theorem after_colon {b b' : Blanks} (h : b.chars ++ ':' :: rest = b'.chars ++ ':' :: rest') :
    rest = rest' := by
  have hcolon := readColon_append b rest
  rw [h, readColon_append, Except.ok.injEq] at hcolon
  exact hcolon.symm

/-- There are four digits in a unit. -/
theorem length_of_hexQuad? {digits : List Char} (h : (hexQuad? digits).isSome) :
    digits.length = 4 := by
  unfold hexQuad? at h
  split at h
  · rfl
  · cases h

/-- A piece is told by its characters, and so is where it ends. -/
theorem piece_unique {p p' : Piece} (h : p.chars ++ rest = p'.chars ++ rest') :
    p = p' ∧ rest = rest' := by
  have hu : (simpleEscape? 'u').isSome = false := rfl
  cases p with
  | plain c hc =>
    cases p' with
    | plain c' hc' =>
      cases h
      exact ⟨rfl, rfl⟩
    | escape c' hc' => exact absurd (List.cons.inj h).1 hc.2.1
    | unit digits hdigits => exact absurd (List.cons.inj h).1 hc.2.1
  | escape c hc =>
    cases p' with
    | plain c' hc' => exact absurd (List.cons.inj h).1.symm hc'.2.1
    | escape c' hc' =>
      cases h
      exact ⟨rfl, rfl⟩
    | unit digits hdigits =>
      cases h
      exact absurd hc (by rw [hu]; exact nofun)
  | unit digits hdigits =>
    cases p' with
    | plain c' hc' => exact absurd (List.cons.inj h).1.symm hc'.2.1
    | escape c' hc' =>
      cases h
      exact absurd hc' (by rw [hu]; exact nofun)
    | unit digits' hdigits' =>
      have hdrop : digits ++ rest = digits' ++ rest' := (List.cons.inj (List.cons.inj h).2).2
      have hlength : digits.length = digits'.length :=
        (length_of_hexQuad? hdigits).trans (length_of_hexQuad? hdigits').symm
      obtain ⟨rfl, rfl⟩ := List.append_inj hdrop hlength
      exact ⟨rfl, rfl⟩

/-- No piece begins like the end of a string. -/
theorem piece_ne_quote (p : Piece) (cs : List Char) : p.chars ++ cs ≠ '"' :: rest := by
  cases p with
  | plain c hc => exact fun h => hc.1 (List.cons.inj h).1
  | _ => nofun

/-- A string is told by its characters. -/
theorem pieces_unique {ps ps' : List Piece}
    (h : piecesChars ps ++ '"' :: rest = piecesChars ps' ++ '"' :: rest') :
    ps = ps' ∧ rest = rest' := by
  induction ps generalizing ps' with
  | nil =>
    cases ps' with
    | nil => exact ⟨rfl, (List.cons.inj h).2⟩
    | cons p' ps' =>
      rw [piecesChars_cons, List.append_assoc] at h
      exact absurd h.symm (piece_ne_quote p' _)
  | cons p ps ih =>
    rw [piecesChars_cons, List.append_assoc] at h
    cases ps' with
    | nil => exact absurd h (piece_ne_quote p _)
    | cons p' ps' =>
      rw [piecesChars_cons, List.append_assoc] at h
      obtain ⟨rfl, hmore⟩ := piece_unique h
      obtain ⟨rfl, rfl⟩ := ih hmore
      exact ⟨rfl, rfl⟩

/-! ### One way to take a value apart -/

/-- The kinds of values. -/
inductive Kind where
  /-- The word `null`. -/
  | null
  /-- The words `true` and `false`. -/
  | boolean
  /-- Numbers. -/
  | number
  /-- Strings. -/
  | text
  /-- Lists. -/
  | list
  /-- Objects. -/
  | object
  deriving DecidableEq

/-- The kind of a value. -/
def Value.kind : Value → Kind
  | .null => .null
  | .boolean _ => .boolean
  | .number _ _ => .number
  | .text _ => .text
  | .list _ _ => .list
  | .object _ _ => .object

/-- The kind of the values that begin with a character. -/
def kindFrom (c : Char) : Kind :=
  if c = 'n' then .null
  else if c = 't' ∨ c = 'f' then .boolean
  else if c = '"' then .text
  else if c = '[' then .list
  else if c = '\x7b' then .object
  else .number

/-- The first character of a value tells its kind. -/
theorem kind_eq_kindFrom {v : Value} {c : Char} {cs : List Char} (h : v.chars = c :: cs) :
    v.kind = kindFrom c := by
  have hdigit {c : Char} (hc : c.isDigit = true) : kindFrom c = .number := by
    have hne {d : Char} (hd : d.isDigit = false) : c ≠ d := ne_of_isDigit hc hd
    unfold kindFrom
    rw [if_neg (hne rfl), if_neg (not_or.mpr ⟨hne rfl, hne rfl⟩), if_neg (hne rfl),
      if_neg (hne rfl), if_neg (hne rfl)]
  have hunsigned {c : Char} {cs : List Char} (hu : IsUnsigned (c :: cs)) :
      kindFrom c = .number := by
    cases hu with
    | zero hu => rfl
    | digits hc hne hu => exact hdigit hc
  cases v with
  | boolean value => cases value <;> cases h <;> rfl
  | number token htoken =>
    obtain rfl : token = c :: cs := h
    cases htoken with
    | positive hu => exact (hunsigned hu).symm
    | negative hu => rfl
  | _ => cases h; rfl

/-- Values with the same characters are of one kind. -/
theorem kind_unique {v v' : Value} (h : v.chars = v'.chars) : v.kind = v'.kind := by
  cases hv : v.chars with
  | nil => exact absurd hv v.chars_ne_nil
  | cons c cs => rw [kind_eq_kindFrom hv, kind_eq_kindFrom (h.symm.trans hv)]

mutual

/-- **A value is told by its characters**, up to its blanks. -/
theorem trimmed_unique : ∀ {v v' : Value}, v.chars = v'.chars → v.trimmed = v'.trimmed
  | .null, v', h => by
    have hkind := kind_unique h
    cases v' with
    | null => rfl
    | _ => cases hkind
  | .boolean value, v', h => by
    have hkind := kind_unique h
    cases v' with
    | boolean value' => cases value <;> cases value' <;> first | rfl | cases h
    | _ => cases hkind
  | .number token htoken, v', h => by
    have hkind := kind_unique h
    cases v' with
    | number token' htoken' =>
      obtain rfl : token = token' := h
      rfl
    | _ => cases hkind
  | .text ps, v', h => by
    have hkind := kind_unique h
    cases v' with
    | text ps' =>
      rw [(pieces_unique (List.cons.inj h).2).1]
    | _ => cases hkind
  | .list inner es, v', h => by
    have hkind := kind_unique h
    cases v' with
    | list inner' es' =>
      have helements : inner.chars ++ (elementsFrom true es ++ [']']) =
          inner'.chars ++ (elementsFrom true es' ++ [']']) := by
        simpa [Value.chars, elementsFrom] using h
      unfold Value.trimmed
      rw [trimmedElements_unique helements]
    | _ => cases hkind
  | .object inner ms, v', h => by
    have hkind := kind_unique h
    cases v' with
    | object inner' ms' =>
      have hmembers : inner.chars ++ (membersFrom true ms ++ ['\x7d']) =
          inner'.chars ++ (membersFrom true ms' ++ ['\x7d']) := by
        simpa [Value.chars, membersFrom] using h
      unfold Value.trimmed
      rw [trimmedMembers_unique hmembers]
    | _ => cases hkind

/-- Elements are told by their characters up to the bracket. -/
theorem trimmedElements_unique : ∀ {es es' : List (Padded Value)} {first : Bool}
    {inner inner' : Blanks} {rest rest' : List Char},
    inner.chars ++ (elementsFrom first es ++ ']' :: rest) =
      inner'.chars ++ (elementsFrom first es' ++ ']' :: rest') →
    trimmedElements es = trimmedElements es'
  | [], [], _, _, _, _, _, _ => rfl
  | [], e' :: es', first, inner, inner', rest, rest', h => by
    have hnext := congrArg (nextElement first) h
    simp only [elementsFrom_nil, List.nil_append, nextElement_end, elementsFrom_cons,
      List.append_assoc, nextElement_value] at hnext
    cases hnext
  | e :: es, [], first, inner, inner', rest, rest', h => by
    have hnext := congrArg (nextElement first) h
    simp only [elementsFrom_nil, List.nil_append, nextElement_end, elementsFrom_cons,
      List.append_assoc, nextElement_value] at hnext
    cases hnext
  | e :: es, e' :: es', first, inner, inner', rest, rest', h => by
    have hnext := congrArg (nextElement first) h
    simp only [elementsFrom_cons, List.append_assoc, nextElement_value, Except.ok.injEq,
      Option.some.injEq] at hnext
    obtain ⟨hvalue, hmore⟩ := value_extent hnext (stops_elements e.after es rest)
      (stops_elements e'.after es' rest')
    have hfirst : e.inner.trimmed = e'.inner.trimmed := trimmed_unique hvalue
    have hends : e.after.chars ++ (elementsFrom false es ++ ']' :: rest) =
        e'.after.chars ++ (elementsFrom false es' ++ ']' :: rest') := hmore
    unfold trimmedElements
    rw [hfirst, trimmedElements_unique hends]

/-- Members are told by their characters up to the brace. -/
theorem trimmedMembers_unique : ∀ {ms ms' : List Member} {first : Bool}
    {inner inner' : Blanks} {rest rest' : List Char},
    inner.chars ++ (membersFrom first ms ++ '\x7d' :: rest) =
      inner'.chars ++ (membersFrom first ms' ++ '\x7d' :: rest') →
    trimmedMembers ms = trimmedMembers ms'
  | [], [], _, _, _, _, _, _ => rfl
  | [], m' :: ms', first, inner, inner', rest, rest', h => by
    have hnext := congrArg (nextMember first) h
    simp only [membersFrom_nil, List.nil_append, nextMember_end, membersFrom_cons, quoted,
      List.append_assoc, List.cons_append, nextMember_key] at hnext
    cases hnext
  | m :: ms, [], first, inner, inner', rest, rest', h => by
    have hnext := congrArg (nextMember first) h
    simp only [membersFrom_nil, List.nil_append, nextMember_end, membersFrom_cons, quoted,
      List.append_assoc, List.cons_append, nextMember_key] at hnext
    cases hnext
  | m :: ms, m' :: ms', first, inner, inner', rest, rest', h => by
    have hnext := congrArg (nextMember first) h
    simp only [membersFrom_cons, quoted, List.append_assoc, List.cons_append, List.nil_append,
      nextMember_key, Except.ok.injEq, Option.some.injEq] at hnext
    obtain ⟨hkey, hcolon⟩ := pieces_unique hnext
    have hskip := congrArg skipBlanks (after_colon hcolon)
    simp only [skipBlanks_append, skipBlanks_value] at hskip
    obtain ⟨hvalue, hmore⟩ := value_extent hskip (stops_members m.2.after ms rest)
      (stops_members m'.2.after ms' rest')
    have hfirst : m.2.inner.trimmed = m'.2.inner.trimmed := trimmed_unique hvalue
    have hends : m.2.after.chars ++ (membersFrom false ms ++ '\x7d' :: rest) =
        m'.2.after.chars ++ (membersFrom false ms' ++ '\x7d' :: rest') := hmore
    unfold trimmedMembers
    rw [hkey, hfirst, trimmedMembers_unique hends]

end

/-- **A text is a document in one way**, up to its blanks. -/
theorem trimmed_eq_of_isDocument {text : String} {doc doc' : Padded Value}
    (h : IsDocument text doc) (h' : IsDocument text doc') :
    doc.inner.trimmed = doc'.inner.trimmed := by
  have hstops (b : Blanks) : Stops b.chars := by simpa using stops_nil.blanks_append b
  have hskip := congrArg skipBlanks (h.symm.trans h')
  simp only [List.append_assoc, skipBlanks_append, skipBlanks_value] at hskip
  exact trimmed_unique (value_extent hskip (hstops _) (hstops _)).1

/-! ### Blanks mean nothing -/

theorem trimmedElements_eq_map (es : List (Padded Value)) :
    trimmedElements es = es.map fun e => ⟨.none, e.inner.trimmed, .none⟩ := by
  induction es with
  | nil => rfl
  | cons e es ih =>
    unfold trimmedElements
    rw [ih, List.map_cons]

/-- The members without blanks have the same names. -/
theorem namedMembers?_trimmedMembers (ms : List Member) : namedMembers? (trimmedMembers ms) =
    (namedMembers? ms).map fun found => found.map fun m => (m.1, m.2.trimmed) := by
  induction ms with
  | nil => rfl
  | cons m ms ih =>
    unfold namedMembers? at ih ⊢
    unfold trimmedMembers
    rw [List.mapM_cons, List.mapM_cons, ih]
    cases textOf? m.1.inner with
    | none => rfl
    | some key =>
      cases ms.mapM fun m => (textOf? m.1.inner).map (·, m.2.inner) with
      | none => rfl
      | some found => rfl

theorem choice?_trimmed (names : List String) (v : Value) :
    v.trimmed.choice? names = v.choice? names := by
  cases v with
  | object inner ms =>
    rcases ms with _ | ⟨⟨key, ⟨b, v, a⟩⟩, _ | ⟨m', ms⟩⟩
    · rfl
    · cases v <;> rfl
    · cases v <;> rfl
  | _ => rfl

theorem soleMember?_trimmed {absence : Absence} {meaning : Value → Option Datum}
    (h : ∀ v : Value, meaning v.trimmed = meaning v) (found : List (String × Value)) :
    soleMember? absence meaning (found.map fun m => (m.1, m.2.trimmed)) =
      soleMember? absence meaning found := by
  rcases found with _ | ⟨m, _ | ⟨m', found⟩⟩
  · rfl
  · exact h m.2
  · rfl

mutual

/-- **Blanks mean nothing.** -/
theorem decode_trimmed : ∀ (shape : Shape) (v : Value), shape.decode v.trimmed = shape.decode v
  | .int64, v | .nat32, v | .nat64, v | .real32, v | .text, v | .path, v => by
    cases v <;> rfl
  | .choice names, v => choice?_trimmed names v
  | .optional of, v => by
    have hnull : v.trimmed.isNull = v.isNull := by cases v <;> rfl
    unfold Shape.decode
    rw [hnull, decode_trimmed of v]
  | .sequence of, v => by
    unfold Shape.decode
    cases v with
    | list inner es =>
      have helements : (trimmedElements es).mapM (fun e => of.decode e.inner) =
          es.mapM (fun e => of.decode e.inner) := by
        simp only [trimmedElements_eq_map, List.mapM_map, Function.comp_def, decode_trimmed of]
      exact congrArg (Option.map Datum.list) helements
    | _ => rfl
  | .record name fields, v => by
    cases v with
    | object inner ms =>
      unfold Value.trimmed Shape.decode
      rw [namedMembers?_trimmedMembers]
      cases namedMembers? ms with
      | none => rfl
      | some found =>
        show (fields.decodeMembers _).map _ = (fields.decodeMembers found).map _
        rw [decodeMembers_trimmed fields found]
    | list inner es =>
      unfold Value.trimmed Shape.decode
      rw [trimmedElements_eq_map, List.map_map]
      have hvalues := decodeInOrder_trimmed fields (es.map (·.inner))
      rw [List.map_map] at hvalues
      exact congrArg _ hvalues
    | _ => rfl

/-- Blanks in members mean nothing. -/
theorem decodeMembers_trimmed : ∀ (fields : Fields) (found : List (String × Value)),
    fields.decodeMembers (found.map fun m => (m.1, m.2.trimmed)) = fields.decodeMembers found
  | .nil, _ => rfl
  | .cons name absence shape rest, found => by
    unfold Fields.decodeMembers
    rw [List.filter_map, List.filter_map,
      soleMember?_trimmed (fun v => decode_trimmed shape v), decodeMembers_trimmed rest]
    rfl

/-- Blanks in elements mean nothing. -/
theorem decodeInOrder_trimmed : ∀ (fields : Fields) (vs : List Value),
    fields.decodeInOrder (vs.map Value.trimmed) = fields.decodeInOrder vs
  | .nil, [] => rfl
  | .nil, _ :: _ => rfl
  | .cons _ _ _ _, [] => rfl
  | .cons _ _ shape rest, v :: vs => by
    rw [List.map_cons, Fields.decodeInOrder, Fields.decodeInOrder, decode_trimmed shape v,
      decodeInOrder_trimmed rest vs]

end

/-- Values that are the same up to blanks mean the same. -/
theorem decode_eq_of_trimmed {v v' : Value} (h : v.trimmed = v'.trimmed) (shape : Shape) :
    shape.decode v = shape.decode v' := by
  rw [← decode_trimmed shape v, h, decode_trimmed]

/-- **What a text means is told by every way to take it apart.** -/
theorem read_eq_ok_iff_decode {shape : Shape} {text : String} {doc : Padded Value} {d : Datum}
    (hdoc : IsDocument text doc) : read shape text = .ok d ↔ shape.decode doc.inner = some d := by
  rw [read_eq_ok_iff]
  constructor
  · rintro ⟨doc', hdoc', hd⟩
    rwa [decode_eq_of_trimmed (trimmed_eq_of_isDocument hdoc hdoc') shape]
  · intro hd
    exact ⟨doc, hdoc, hd⟩

end Lookout.Json
