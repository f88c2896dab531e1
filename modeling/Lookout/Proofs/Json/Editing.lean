import Mathlib.Logic.Relation
import Lookout.Proofs.Json.Spacing
/-!
# Edits that change nothing

Whoever expects a record as an object asks for members by their names, so that members may come in
any order, and members nobody asked for may be anywhere (`Edit`).  What is read is the same before
and after such edits, at whatever depth they are made (`Edit.decode_eq`,
`read_eq_ok_iff_of_edits`).

The name of a member has to stand for a text even if nobody asked for it: otherwise the whole object
means nothing (`decode_of_nameless`).  Its value may be any value at all.
-/

namespace Lookout.Json

/-- What is expected of the member with a name, if any is asked for. -/
def Fields.shapeOf? : Fields → String → Option Shape
  | .nil, _ => none
  | .cons name _ shape rest, key => if key == name then some shape else rest.shapeOf? key

/-- One value becomes another one by an edit that matters to nobody who expects the shape. -/
inductive Edit : Shape → Value → Value → Prop where
  /-- Blanks are put elsewhere. -/
  | respace {shape : Shape} {v v' : Value} (h : v.trimmed = v'.trimmed) : Edit shape v v'
  /-- A member that nobody asked for is put anywhere in an object. -/
  | insert {title : String} {fields : Fields} {inner : Blanks} {before after : List Member}
    {m : Member} {key : String} (hkey : textOf? m.1.inner = some key)
    (hforeign : fields.shapeOf? key = none) :
    Edit (.record title fields) (.object inner (before ++ after))
      (.object inner (before ++ m :: after))
  /-- The members of an object are put in another order. -/
  | permute {title : String} {fields : Fields} {inner : Blanks} {ms ms' : List Member}
    (h : ms.Perm ms') : Edit (.record title fields) (.object inner ms) (.object inner ms')
  /-- An edit is made in the value of a member that is asked for. -/
  | member {title : String} {fields : Fields} {inner b a : Blanks} {before after : List Member}
    {k : Padded (List Piece)} {key : String} {shape : Shape} {v v' : Value}
    (hkey : textOf? k.inner = some key) (hfield : fields.shapeOf? key = some shape)
    (h : Edit shape v v') :
    Edit (.record title fields) (.object inner (before ++ (k, ⟨b, v, a⟩) :: after))
      (.object inner (before ++ (k, ⟨b, v', a⟩) :: after))
  /-- An edit is made in an element of a list. -/
  | element {shape : Shape} {inner b a : Blanks} {before after : List (Padded Value)}
    {v v' : Value} (h : Edit shape v v') :
    Edit (.sequence shape) (.list inner (before ++ ⟨b, v, a⟩ :: after))
      (.list inner (before ++ ⟨b, v', a⟩ :: after))

/-! ### Members by their names -/

section members

variable {ms ms' before after : List Member} {m : Member} {found found' : List (String × Value)}

theorem namedMembers?_append : namedMembers? (before ++ after) =
    (namedMembers? before).bind fun xs => (namedMembers? after).map (xs ++ ·) := by
  unfold namedMembers?
  rw [List.mapM_append]
  cases before.mapM fun m => (textOf? m.1.inner).map (·, m.2.inner) with
  | none => rfl
  | some xs => cases after.mapM fun m => (textOf? m.1.inner).map (·, m.2.inner) <;> rfl

theorem namedMembers?_cons : namedMembers? (m :: ms) =
    (textOf? m.1.inner).bind fun key =>
      (namedMembers? ms).map ((key, m.2.inner) :: ·) := by
  unfold namedMembers?
  rw [List.mapM_cons]
  cases textOf? m.1.inner with
  | none => rfl
  | some key => cases ms.mapM fun m => (textOf? m.1.inner).map (·, m.2.inner) <;> rfl

/-- Members in another order have the same names in another order. -/
theorem namedMembers?_perm (h : ms.Perm ms') (hfound : namedMembers? ms = some found) :
    ∃ found', namedMembers? ms' = some found' ∧ found.Perm found' := by
  induction h generalizing found with
  | nil => exact ⟨found, hfound, .refl found⟩
  | cons m hperm ih =>
    rw [namedMembers?_cons] at hfound ⊢
    obtain ⟨key, hkey, hfound⟩ := Option.bind_eq_some_iff.mp hfound
    obtain ⟨more, hmore, rfl⟩ := Option.map_eq_some_iff.mp hfound
    obtain ⟨more', hmore', hperm'⟩ := ih hmore
    exact ⟨(key, m.2.inner) :: more', by rw [hkey, hmore']; rfl, hperm'.cons _⟩
  | swap m m' ms =>
    simp only [namedMembers?_cons] at hfound ⊢
    obtain ⟨key', hkey', hfound⟩ := Option.bind_eq_some_iff.mp hfound
    obtain ⟨more, hmore, rfl⟩ := Option.map_eq_some_iff.mp hfound
    obtain ⟨key, hkey, hmore⟩ := Option.bind_eq_some_iff.mp hmore
    obtain ⟨rest, hrest, rfl⟩ := Option.map_eq_some_iff.mp hmore
    exact ⟨_, by rw [hkey, hkey', hrest]; rfl, .swap _ _ _⟩
  | trans _ _ ih ih' =>
    obtain ⟨found₁, hfound₁, hperm₁⟩ := ih hfound
    obtain ⟨found₂, hfound₂, hperm₂⟩ := ih' hfound₁
    exact ⟨found₂, hfound₂, hperm₁.trans hperm₂⟩

theorem soleMember?_perm (absence : Absence) (meaning : Value → Option Datum)
    (h : found.Perm found') : soleMember? absence meaning found =
      soleMember? absence meaning found' := by
  have hlength := h.length_eq
  rcases found with _ | ⟨m, _ | ⟨m', found⟩⟩
  · rw [h.nil_eq]
  · rw [List.singleton_perm.mp h]
  · rcases found' with _ | ⟨n, _ | ⟨n', found'⟩⟩
    · cases hlength
    · cases hlength
    · rfl

/-- **The order of members means nothing.** -/
theorem decodeMembers_perm : ∀ (fields : Fields) {found found' : List (String × Value)},
    found.Perm found' → fields.decodeMembers found = fields.decodeMembers found'
  | .nil, _, _, _ => rfl
  | .cons name absence shape rest, found, found', h => by
    unfold Fields.decodeMembers
    rw [soleMember?_perm absence _ (h.filter _), decodeMembers_perm rest (h.filter _)]

/-- A member with a name is among those with that name, and only there. -/
theorem filter_of_eq {key name : String} (h : (key == name) = true) (v : Value)
    (ys : List (String × Value)) :
    ((key, v) :: ys).filter (·.1 == name) = (key, v) :: ys.filter (·.1 == name) ∧
      ((key, v) :: ys).filter (·.1 != name) = ys.filter (·.1 != name) :=
  ⟨List.filter_cons_of_pos h, List.filter_cons_of_neg (by simpa using h)⟩

/-- A member with another name is among the others. -/
theorem filter_of_ne {key name : String} (h : ¬(key == name) = true) (v : Value)
    (ys : List (String × Value)) :
    ((key, v) :: ys).filter (·.1 == name) = ys.filter (·.1 == name) ∧
      ((key, v) :: ys).filter (·.1 != name) = (key, v) :: ys.filter (·.1 != name) :=
  ⟨List.filter_cons_of_neg h, List.filter_cons_of_pos (by simpa using h)⟩

/-- **A member that nobody asked for means nothing.** -/
theorem decodeMembers_insert : ∀ (fields : Fields) (xs ys : List (String × Value)) {key : String}
    (v : Value), fields.shapeOf? key = none →
    fields.decodeMembers (xs ++ (key, v) :: ys) = fields.decodeMembers (xs ++ ys)
  | .nil, _, _, _, _, _ => rfl
  | .cons name absence shape rest, xs, ys, key, v, h => by
    unfold Fields.shapeOf? at h
    unfold Fields.decodeMembers
    split at h
    · cases h
    · rename_i hkey
      obtain ⟨hown, hothers⟩ := filter_of_ne hkey v ys
      simp only [List.filter_append, hown, hothers]
      rw [decodeMembers_insert rest _ _ v h]

/-- A member's value counts only for what it means. -/
theorem decodeMembers_replace : ∀ (fields : Fields) (xs ys : List (String × Value)) {key : String}
    {shape : Shape} {v v' : Value}, fields.shapeOf? key = some shape →
    shape.decode v = shape.decode v' →
    fields.decodeMembers (xs ++ (key, v) :: ys) = fields.decodeMembers (xs ++ (key, v') :: ys)
  | .nil, _, _, _, _, _, _, h, _ => nomatch h
  | .cons name absence own rest, xs, ys, key, shape, v, v', h, hv => by
    unfold Fields.shapeOf? at h
    unfold Fields.decodeMembers
    split at h
    · rename_i hkey
      cases h
      simp only [List.filter_append, (filter_of_eq hkey _ ys).1, (filter_of_eq hkey _ ys).2]
      generalize xs.filter (·.1 == name) = xs', ys.filter (·.1 == name) = ys'
      -- a second member with the name makes an error of both
      rcases xs' with _ | ⟨x, _ | ⟨x', xs'⟩⟩
      · rcases ys' with _ | ⟨y, ys'⟩
        · exact congrArg (Option.bind · _) hv
        · rfl
      · rfl
      · rfl
    · rename_i hkey
      simp only [List.filter_append, (filter_of_ne hkey _ ys).1, (filter_of_ne hkey _ ys).2,
        decodeMembers_replace rest _ _ h hv]

/-- The members with a name, by their keys. -/
theorem filter_namedMembers? (h : namedMembers? ms = some found) (name : String) :
    found.filter (·.1 == name) =
      (ms.filter (textOf? ·.1.inner == some name)).map fun m => (name, m.2.inner) := by
  induction ms generalizing found with
  | nil =>
    cases h
    rfl
  | cons m ms ih =>
    rw [namedMembers?_cons] at h
    obtain ⟨key, hkey, h⟩ := Option.bind_eq_some_iff.mp h
    obtain ⟨more, hmore, rfl⟩ := Option.map_eq_some_iff.mp h
    by_cases hname : key = name
    · subst hname
      rw [List.filter_cons_of_pos (by simp), List.filter_cons_of_pos (by simp [hkey]),
        List.map_cons, ih hmore]
    · rw [List.filter_cons_of_neg (by simpa using hname),
        List.filter_cons_of_neg (by simpa [hkey] using hname), ih hmore]

end members

/-! ### What edits keep -/

variable {shape : Shape} {v v' : Value}

/-- An object in which a name stands for no text means nothing, whatever is expected of it. -/
theorem decode_of_nameless {title : String} {fields : Fields} {inner : Blanks}
    {ms : List Member} {m : Member} (hm : m ∈ ms) (h : textOf? m.1.inner = none) :
    (Shape.record title fields).decode (.object inner ms) = none := by
  have hnone : namedMembers? ms = none := by
    rw [Option.eq_none_iff_forall_ne_some]
    intro found hfound
    obtain ⟨before, after, rfl⟩ := List.append_of_mem hm
    rw [namedMembers?_append] at hfound
    obtain ⟨xs, -, hfound⟩ := Option.bind_eq_some_iff.mp hfound
    obtain ⟨ys, hys, -⟩ := Option.map_eq_some_iff.mp hfound
    rw [namedMembers?_cons, h] at hys
    cases hys
  unfold Shape.decode
  rw [hnone]
  rfl

/-- **An edit changes no meaning.** -/
theorem Edit.decode_eq (h : Edit shape v v') : shape.decode v = shape.decode v' := by
  induction h with
  | respace h => exact decode_eq_of_trimmed h _
  | @insert title fields inner before after m key hkey hforeign =>
    unfold Shape.decode
    rw [namedMembers?_append, namedMembers?_append, namedMembers?_cons, hkey]
    cases namedMembers? before with
    | none => rfl
    | some xs =>
      cases namedMembers? after with
      | none => rfl
      | some ys =>
        exact congrArg (Option.map Datum.record)
          (decodeMembers_insert fields xs ys m.2.inner hforeign).symm
  | @permute title fields inner ms ms' hperm =>
    have hforward {ms ms' : List Member} (hperm : ms.Perm ms') {d : Datum}
        (hd : (Shape.record title fields).decode (.object inner ms) = some d) :
        (Shape.record title fields).decode (.object inner ms') = some d := by
      obtain ⟨found, hfound, hd⟩ := Option.bind_eq_some_iff.mp hd
      obtain ⟨found', hfound', hperm'⟩ := namedMembers?_perm hperm hfound
      unfold Shape.decode
      rw [hfound', ← hd, decodeMembers_perm fields hperm']
      rfl
    exact Option.ext fun d => ⟨hforward hperm, hforward hperm.symm⟩
  | @member title fields inner b a before after k key shape v v' hkey hfield _ ih =>
    unfold Shape.decode
    rw [namedMembers?_append, namedMembers?_append, namedMembers?_cons, namedMembers?_cons, hkey]
    cases namedMembers? before with
    | none => rfl
    | some xs =>
      cases namedMembers? after with
      | none => rfl
      | some ys =>
        exact congrArg (Option.map Datum.record)
          (decodeMembers_replace fields xs ys hfield ih)
  | @element shape inner b a before after v v' _ ih =>
    have helements : (before ++ ⟨b, v, a⟩ :: after).mapM (fun e => shape.decode e.inner) =
        (before ++ ⟨b, v', a⟩ :: after).mapM (fun e => shape.decode e.inner) := by
      rw [List.mapM_append, List.mapM_append, List.mapM_cons, List.mapM_cons, ih]
    exact congrArg (Option.map Datum.list) helements

/-- Any number of edits change no meaning. -/
theorem decode_eq_of_edits (h : Relation.ReflTransGen (Edit shape) v v') :
    shape.decode v = shape.decode v' := by
  induction h with
  | refl => rfl
  | tail _ hedit ih => exact ih.trans hedit.decode_eq

/-- **What is read is the same before and after any edits.** -/
theorem read_eq_ok_iff_of_edits {text text' : String} {doc doc' : Padded Value} {d : Datum}
    (hdoc : IsDocument text doc) (hdoc' : IsDocument text' doc')
    (h : Relation.ReflTransGen (Edit shape) doc.inner doc'.inner) :
    read shape text' = .ok d ↔ read shape text = .ok d := by
  rw [read_eq_ok_iff_decode hdoc, read_eq_ok_iff_decode hdoc', decode_eq_of_edits h]

end Lookout.Json
