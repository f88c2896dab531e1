import Mathlib.Data.List.Forall2
import Lookout.Detection.Result
import Lookout.Proofs.Json.Writing
/-!
# Answers with more in them than was asked for

A detection service may say more than the program wants to know, and it may say it in any order.
Whatever members it adds to an answer or to its boxes, and however it orders them, the program reads
the same (`read_of_edits`).  It finds one box for each element of the list of boxes, in order
(`Lists`).
-/

namespace Lookout.DetectionResult

open Json

/-- The boxes of an answer with some members: one for each element of the list in the one member
that is called so, in order, and none if there is no such member. -/
def Lists (ms : List Member) (boxes : List Detection) : Prop :=
  match ms.filter (textOf? ·.1.inner == some "detections") with
  | [] => boxes = []
  | [m] => ∃ inner es, m.2.inner = .list inner es ∧
    List.Forall₂ (fun e box => ∃ d, Detection.shape.decode e.inner = some d ∧
      Detection.ofDatum d = box) es boxes
  | _ => False

/-- Elements that mean something mean it one by one. -/
theorem forall₂_of_mapM {α β : Type} {f : α → Option β} {xs : List α} {ys : List β}
    (h : xs.mapM f = some ys) : List.Forall₂ (fun x y => f x = some y) xs ys := by
  induction xs generalizing ys with
  | nil =>
    cases h
    exact .nil
  | cons x xs ih =>
    rw [List.mapM_cons] at h
    obtain ⟨y, hy, h⟩ := Option.bind_eq_some_iff.mp h
    obtain ⟨more, hmore, h⟩ := Option.bind_eq_some_iff.mp h
    cases h
    exact .cons hy (ih hmore)

/-- An object that means an answer lists its boxes. -/
theorem lists_of_decode {inner : Blanks} {ms : List Member} {d : Datum}
    (h : shape.decode (.object inner ms) = some d) : Lists ms (ofDatum d).detections := by
  obtain ⟨found, hfound, h⟩ := Option.bind_eq_some_iff.mp h
  obtain ⟨ds, hds, rfl⟩ := Option.map_eq_some_iff.mp h
  obtain ⟨code, -, hds⟩ := Option.bind_eq_some_iff.mp hds
  obtain ⟨more, hmore, rfl⟩ := Option.map_eq_some_iff.mp hds
  obtain ⟨boxes, hboxes, hmore⟩ := Option.bind_eq_some_iff.mp hmore
  cases hmore
  have hnamed : (found.filter (·.1 != "error_code")).filter (·.1 == "detections") =
      found.filter (·.1 == "detections") := by
    rw [List.filter_filter]
    refine List.filter_congr fun m _ => ?_
    by_cases hname : m.1 = "detections"
    · simp [hname]
    · simp [hname]
  rw [hnamed, filter_namedMembers? hfound] at hboxes
  unfold Lists
  generalize ms.filter (textOf? ·.1.inner == some "detections") = named at hboxes
  rcases named with _ | ⟨m, _ | ⟨m', more⟩⟩
  · cases hboxes
    rfl
  · obtain ⟨found, hes, rfl⟩ := Option.map_eq_some_iff.mp (show
      (m.2.inner.elements? fun v => Detection.shape.decode v).map Datum.list = some boxes from
        hboxes)
    cases hm : m.2.inner with
    | list b elements =>
      rw [hm] at hes
      refine ⟨b, elements, hm, ?_⟩
      show List.Forall₂ _ elements (found.map Detection.ofDatum)
      rw [List.forall₂_map_right_iff]
      exact (forall₂_of_mapM hes).imp fun e d hd => ⟨d, hd, rfl⟩
    | _ =>
      rw [hm] at hes
      cases hes
  · cases hboxes

/-- **What an answer holds beyond what was asked for changes nothing.**  Take any text in the form
of an object from which a result is read, and edit it: put members that nobody asked for anywhere in
the object or in its boxes, with any values, put the members of these objects in another order, and
put blanks where you like.  The same result is read.  Its boxes are those of the elements of the
list, one for each and in order. -/
theorem read_of_edits {text : String} {r : DetectionResult} (hread : read text = .ok r)
    {doc : Padded Value} (hdoc : IsDocument text doc) {inner : Blanks} {ms : List Member}
    (hobject : doc.inner = .object inner ms) :
    (∀ text' doc', IsDocument text' doc' →
        Relation.ReflTransGen (Edit shape) doc.inner doc'.inner → read text' = .ok r) ∧
      Lists ms r.detections := by
  obtain ⟨d, hd, rfl⟩ := Results.map_eq_ok_iff.mp hread
  refine ⟨fun text' doc' hdoc' hedits => ?_, ?_⟩
  · have hd' : Json.read shape text' = .ok d :=
      (read_eq_ok_iff_of_edits hdoc hdoc' hedits).mpr hd
    exact Results.map_eq_ok_iff.mpr ⟨d, hd', rfl⟩
  · rw [read_eq_ok_iff_decode hdoc, hobject] at hd
    exact lists_of_decode hd

/-- A model, a note with half a character in it, and the side `y` in another place. -/
theorem read_of_note :
    let text := "\x7b\"detections\":[\x7b\"class\":7,\"x\":1,\"y\":2,\"width\":3,\"height\":4\x7d]\x7d"
    let text' := "\x7b\"model\":[null],\"detections\":[\x7b\"y\":2,\"note\":\"\\ud800\"," ++
      "\"class\":7,\"x\":1,\"width\":3,\"height\":4\x7d]\x7d"
    ∃ r, read text = .ok r ∧ read text' = .ok r ∧ r.detections.length = 1 := by
  intro text text'
  choose name hname using exists_written_string
  choose whole hwhole using exists_written_whole
  let member (key : String) (v : Value) : Member :=
    (⟨.none, name key, .none⟩, ⟨.none, v, .none⟩)
  let note : Member := member "note" (.text [.unit ['d', '8', '0', '0'] rfl])
  let model : Member := member "model" (.list .none [⟨.none, .null, .none⟩])
  let sides := [member "width" (whole 3), member "height" (whole 4)]
  let box : Value := .object .none ([member "class" (whole 7), member "x" (whole 1)] ++
    member "y" (whole 2) :: sides)
  let box' : Value := .object .none (member "y" (whole 2) :: note ::
    [member "class" (whole 7), member "x" (whole 1)] ++ sides)
  let answer (box : Value) : Member := member "detections" (.list .none [⟨.none, box, .none⟩])
  have hdoc : IsDocument text ⟨.none, .object .none [answer box], .none⟩ := by
    simp only [IsDocument, answer, box, member, sides, Value.chars, membersChars, elementsChars,
      ← (hname _).1, ← (hwhole _).1, List.cons_append, List.nil_append]
    decide +kernel
  have hdoc' : IsDocument text' ⟨.none, .object .none [model, answer box'], .none⟩ := by
    simp only [IsDocument, answer, model, note, box', member, sides, Value.chars, membersChars,
      elementsChars, ← (hname _).1, ← (hwhole _).1, List.cons_append, List.nil_append]
    decide +kernel
  obtain ⟨r, hread⟩ : ∃ r, read text = .ok r := by
    have hok : (read text).toBool = true := by decide +kernel
    cases hread : read text with
    | ok r => exact ⟨r, rfl⟩
    | error e => simp [hread, Except.toBool] at hok
  obtain ⟨hmore, hlists⟩ := read_of_edits hread hdoc rfl
  refine ⟨r, hread, hmore _ _ hdoc' ?_, ?_⟩
  · have hasked : Fields.shapeOf? (.ofList [("error_code", .defaulted, .optional .int64),
        ("detections", .defaulted, .sequence Detection.shape)]) "detections" =
        some (.sequence Detection.shape) := rfl
    have hinbox {v v' : Value} (h : Edit Detection.shape v v') :
        Edit shape (.object .none [model, answer v]) (.object .none [model, answer v']) :=
      @Edit.member _ _ _ _ _ [model] [] _ _ _ _ _ (hname "detections").2 hasked
        (@Edit.element _ _ _ _ [] [] _ _ h)
    refine .head (@Edit.insert _ _ _ [] _ model _ (hname "model").2 rfl) ?_
    refine .head (hinbox (.permute List.perm_middle)) (.head (hinbox ?_) .refl)
    exact @Edit.insert _ _ _ [member "y" (whole 2)] _ note _ (hname "note").2 rfl
  · have hnamed : [answer box].filter (textOf? ·.1.inner == some "detections") = [answer box] :=
      List.filter_cons_of_pos (by simp [answer, member, (hname "detections").2])
    unfold Lists at hlists
    rw [hnamed] at hlists
    obtain ⟨inner, es, hes, hboxes⟩ := hlists
    cases hes
    exact hboxes.length_eq.symm

/-- A member's name has to stand for a text, though: an answer with a name in it that stands for
none, because of a surrogate that is alone, is refused. -/
theorem not_read_of_nameless {text : String} {doc : Padded Value} (hdoc : IsDocument text doc)
    {inner : Blanks} {ms : List Member} (hobject : doc.inner = .object inner ms) {m : Member}
    (hm : m ∈ ms) (hname : textOf? m.1.inner = none) (r : DetectionResult) :
    read text ≠ .ok r := by
  intro hread
  obtain ⟨d, hd, -⟩ := Results.map_eq_ok_iff.mp hread
  rw [read_eq_ok_iff_decode hdoc, hobject] at hd
  cases (decode_of_nameless hm hname).symm.trans hd

end Lookout.DetectionResult
