import Lookout.Detection.Service
import Lookout.Proofs.Json.Documents
/-!
# Answers and their bodies

What a service found is read from the body of its answer, of which no more than `answerLimit` octets
are taken.  The first octets decide alone: what is found is what they spell (`ofBody_eq_ok_iff`),
whatever comes after them and whether or not it arrives.

An answer should hold as a whole: the complete body is one JSON document, with nothing but blanks
around it, and means what is found (`Net.Body.Holds`).

* **What is found holds as a whole if nothing but blanks follows the octets that are taken**, and
  then only (`Detector.found_holds_iff`).  For a body that is shorter than the limit, being found
  and holding as a whole are the same.
-/

namespace Lookout

/-- The octets are those of a JSON document that means the result. -/
def DetectionResult.IsSpelledBy (r : DetectionResult) (octets : ByteArray) : Prop :=
  ∃ (text : String) (doc : Json.Padded Json.Value) (d : Json.Datum), text.toUTF8 = octets ∧
    Json.IsDocument text doc ∧ DetectionResult.shape.decode doc.inner = some d ∧
      DetectionResult.ofDatum d = r

namespace Net.Body

/-- The body arrives completely, and as a whole it is a JSON document that means the result. -/
def Holds (body : Body) (r : DetectionResult) : Prop :=
  body.ending = .complete ∧ r.IsSpelledBy body.octets

/-- The body arrives completely, and there is nothing in it but blanks from a position on. -/
def BlankFrom (body : Body) (limit : Nat) : Prop :=
  body.ending = .complete ∧ ∃ blanks : Json.Blanks,
    (String.ofList blanks.chars).toUTF8 = body.octets.extract limit body.octets.size

end Net.Body

/-! ### Octets and texts -/

theorem fromUTF8?_eq_some_iff {octets : ByteArray} {text : String} :
    String.fromUTF8? octets = some text ↔ text.toUTF8 = octets := by
  rw [String.toUTF8_eq_toByteArray]
  unfold String.fromUTF8?
  constructor
  · intro h
    split at h
    · cases h
      rfl
    · cases h
  · rintro rfl
    rw [dif_pos text.isValidUTF8]
    rfl

/-- A text whose octets start with those of another goes on after it. -/
theorem exists_append_of_toUTF8 {s t : String} {more : ByteArray}
    (h : t.toUTF8 = s.toUTF8 ++ more) : ∃ u : String, t = s ++ u ∧ u.toUTF8 = more := by
  simp only [String.toUTF8_eq_toByteArray] at h ⊢
  have hlists : s.toList.utf8Encode ++ more = t.toList.utf8Encode := by
    rw [String.utf8Encode_toList, String.utf8Encode_toList, h]
  obtain ⟨cs, hcs⟩ := List.isPrefix_of_utf8Encode_append_eq_utf8Encode more hlists
  have ht : t = s ++ String.ofList cs := by
    rw [← String.ofList_toList (s := t), ← hcs, String.ofList_append, String.ofList_toList]
  refine ⟨String.ofList cs, ht, ?_⟩
  rw [ht, String.toByteArray_append] at h
  exact (ByteArray.append_right_inj _).mp h

/-! ### What is found -/

namespace Net.Body

/-- What is taken are the first octets, unless the body breaks off before. -/
theorem take_eq_some_iff {body : Body} {limit : Nat} {octets : ByteArray} :
    body.take limit = some octets ↔
      (limit ≤ body.octets.size ∨ body.ending = .complete) ∧
        body.octets.extract 0 limit = octets := by
  unfold take
  by_cases hlimit : limit ≤ body.octets.size
  · simp [hlimit]
  · have hall : body.octets.extract 0 limit = body.octets := by
      apply ByteArray.ext
      rw [ByteArray.data_extract]
      exact Array.extract_eq_self_of_le (Nat.le_of_not_le hlimit)
    cases hending : body.ending with
    | complete => simp [hlimit, hall]
    | cut => simp [hlimit]

end Net.Body

namespace DetectionResult

/-- The result is read exactly from the texts that spell it. -/
theorem isSpelledBy_iff {r : DetectionResult} {octets : ByteArray} :
    r.IsSpelledBy octets ↔ ∃ text : String, text.toUTF8 = octets ∧ read text = .ok r := by
  unfold IsSpelledBy read
  simp only [Results.map_eq_ok_iff, Json.read_eq_ok_iff]
  constructor
  · rintro ⟨text, doc, d, htext, hdoc, hd, hr⟩
    exact ⟨text, htext, d, ⟨doc, hdoc, hd⟩, hr⟩
  · rintro ⟨text, htext, d, ⟨doc, hdoc, hd⟩, hr⟩
    exact ⟨text, doc, d, htext, hdoc, hd, hr⟩

variable {body : Net.Body} {r : DetectionResult}

/-- **What is found is what the first octets spell**, unless the body breaks off before. -/
theorem ofBody_eq_ok_iff : ofBody body = .ok r ↔
    (answerLimit ≤ body.octets.size ∨ body.ending = .complete) ∧
      r.IsSpelledBy (body.octets.extract 0 answerLimit) := by
  have hread : ofBody body = .ok r ↔ ∃ octets, body.take answerLimit = some octets ∧
      ∃ text, String.fromUTF8? octets = some text ∧ read text = .ok r := by
    unfold ofBody
    cases body.take answerLimit with
    | none => simp
    | some octets =>
      cases htext : String.fromUTF8? octets with
      | none => simp [htext]
      | some text => simp [htext, Results.mapError_eq_ok_iff]
  simp only [hread, isSpelledBy_iff, Net.Body.take_eq_some_iff, fromUTF8?_eq_some_iff]
  constructor
  · rintro ⟨_, ⟨harrives, rfl⟩, htext⟩
    exact ⟨harrives, htext⟩
  · rintro ⟨harrives, htext⟩
    exact ⟨_, ⟨harrives, rfl⟩, htext⟩

/-- Behind a result that was read nothing but blanks may follow, and then the same is read. -/
theorem read_append_eq_ok_iff {text more : String} {r' : DetectionResult}
    (h : read text = .ok r) :
    read (text ++ more) = .ok r' ↔ r' = r ∧ ∃ b : Json.Blanks, more.toList = b.chars := by
  unfold read at h ⊢
  obtain ⟨d, hd, rfl⟩ := Results.map_eq_ok_iff.mp h
  rw [Results.map_eq_ok_iff]
  constructor
  · rintro ⟨d', hd', rfl⟩
    obtain ⟨rfl, hblank⟩ := (Json.read_append_eq_ok_iff hd).mp hd'
    exact ⟨rfl, hblank⟩
  · rintro ⟨rfl, hblank⟩
    exact ⟨d, (Json.read_append_eq_ok_iff hd).mpr ⟨rfl, hblank⟩, rfl⟩

/-- **What is found holds as a whole exactly if nothing but blanks follows what was taken**, and no
other result does. -/
theorem holds_iff_of_ofBody {r' : DetectionResult} (h : ofBody body = .ok r) :
    body.Holds r' ↔ r' = r ∧ body.BlankFrom answerLimit := by
  obtain ⟨-, hspelled⟩ := ofBody_eq_ok_iff.mp h
  obtain ⟨text, htext, hread⟩ := isSpelledBy_iff.mp hspelled
  have hwhole : body.octets =
      text.toUTF8 ++ body.octets.extract answerLimit body.octets.size := by
    rw [htext, ByteArray.extract_append_extract, Nat.min_eq_left (Nat.zero_le _),
      ByteArray.extract_zero_max_size]
  unfold Net.Body.Holds Net.Body.BlankFrom
  rw [isSpelledBy_iff]
  constructor
  · rintro ⟨hending, all, hall, hr'⟩
    obtain ⟨more, rfl, hmore⟩ := exists_append_of_toUTF8 (hall.trans hwhole)
    obtain ⟨rfl, b, hb⟩ := (read_append_eq_ok_iff hread).mp hr'
    exact ⟨rfl, hending, b, by rw [← hmore, ← hb, String.ofList_toList]⟩
  · rintro ⟨rfl, hending, b, hb⟩
    refine ⟨hending, text ++ String.ofList b.chars, ?_, ?_⟩
    · rw [hwhole, ← hb]
      exact String.toByteArray_append
    · exact (read_append_eq_ok_iff hread).mpr ⟨rfl, b, String.toList_ofList⟩

/-- A body that is shorter than what may be taken is taken as a whole. -/
theorem ofBody_eq_ok_iff_holds (hshort : body.octets.size < answerLimit) :
    ofBody body = .ok r ↔ body.Holds r := by
  have hall : body.octets.extract 0 answerLimit = body.octets := by
    apply ByteArray.ext
    rw [ByteArray.data_extract]
    exact Array.extract_eq_self_of_le (Nat.le_of_lt hshort)
  rw [ofBody_eq_ok_iff, hall, Net.Body.Holds]
  simp [Nat.not_le.mpr hshort]

end DetectionResult

/-! ### What a service found -/

namespace Detector

variable {ω : Type} [Net.Network ω] {settings : DetectionSettings} {payload : ByteArray}
  {contentType : String} {w w' : ω} {response : Net.Response}

/-- What is found is read from the body of an answer that is no failure. -/
theorem submit_eq_ofBody
    (hanswer : Net.post settings.url contentType payload (some settings.timeout) w =
      (.ok response, w')) (hsuccess : response.isSuccess = true) :
    (submit payload contentType (.remote settings) w).1 =
      DetectionResult.ofBody response.body := by
  simp [submit, post, hanswer, hsuccess]

/-- **What a service found and the body of its answer.**  Given an answer that is no failure, what
is found holds as a whole exactly if the body arrives completely with nothing but blanks behind its
first `answerLimit` octets.  Whatever comes there, those octets alone spell what is found.  If the
body is shorter, whatever holds is found and nothing else is. -/
theorem found_holds_iff
    (hanswer : Net.post settings.url contentType payload (some settings.timeout) w =
      (.ok response, w')) (hsuccess : response.isSuccess = true) :
    ((∀ r, (submit payload contentType (.remote settings) w).1 = .ok r → response.body.Holds r) ↔
        response.body.BlankFrom answerLimit ∨
          ∃ e, (submit payload contentType (.remote settings) w).1 = .error e) ∧
      (∀ r, (submit payload contentType (.remote settings) w).1 = .ok r ↔
        (answerLimit ≤ response.body.octets.size ∨ response.body.ending = .complete) ∧
          r.IsSpelledBy (response.body.octets.extract 0 answerLimit)) ∧
      (response.body.octets.size < answerLimit → ∀ r,
        (submit payload contentType (.remote settings) w).1 = .ok r ↔ response.body.Holds r) := by
  rw [submit_eq_ofBody hanswer hsuccess]
  refine ⟨?_, fun r => DetectionResult.ofBody_eq_ok_iff,
    fun hshort r => DetectionResult.ofBody_eq_ok_iff_holds hshort⟩
  constructor
  · intro hholds
    cases hfound : DetectionResult.ofBody response.body with
    | error e => exact Or.inr ⟨e, rfl⟩
    | ok r =>
      exact Or.inl ((DetectionResult.holds_iff_of_ofBody hfound).mp (hholds r hfound)).2
  · rintro (hblank | ⟨e, he⟩) r hfound
    · exact (DetectionResult.holds_iff_of_ofBody hfound).mpr ⟨rfl, hblank⟩
    · rw [he] at hfound
      cases hfound

/-! ### Two answers -/

/-- A world in which there is one answer to everything. -/
structure SoleAnswer where
  /-- The answer. -/
  response : Net.Response

instance : Net.Network SoleAnswer where
  exchange _ w := (.ok w.response, w)

/-- A service that can be reached. -/
def nearbyService : DetectionSettings := { url := "http://[::1]/" }

/-- A text of characters of one octet each has as many octets as characters. -/
theorem size_toUTF8_ofList {cs : List Char} (h : ∀ c ∈ cs, c.utf8Size = 1) :
    (String.ofList cs).toUTF8.size = cs.length := by
  rw [String.toUTF8_eq_toByteArray, String.size_toByteArray]
  induction cs with
  | nil => rfl
  | cons c cs ih =>
    have hcons : String.ofList (c :: cs) = String.singleton c ++ String.ofList cs := by
      rw [← List.singleton_append, String.ofList_append, String.singleton_eq_ofList]
    rw [hcons, String.utf8ByteSize_append, String.utf8ByteSize_singleton,
      h c List.mem_cons_self, ih fun d hd => h d (List.mem_cons_of_mem c hd), List.length_cons,
      Nat.add_comm]

/-- The text of an object without members, with some blanks after it. -/
def emptyAnswer (b : Json.Blanks) : String := String.ofList ('\x7b' :: '\x7d' :: b.chars)

/-- An object without members means that nothing was found. -/
theorem isSpelledBy_emptyAnswer (b : Json.Blanks) :
    DetectionResult.IsSpelledBy {} (emptyAnswer b).toUTF8 :=
  ⟨_, ⟨.none, .object .none [], b⟩, .record [.absent, .absent], rfl,
    by simp [Json.IsDocument, emptyAnswer, Json.Value.chars, Json.membersChars], rfl, rfl⟩

theorem size_emptyAnswer (b : Json.Blanks) :
    (emptyAnswer b).toUTF8.size = b.chars.length + 2 := by
  refine size_toUTF8_ofList fun c hc => ?_
  rcases List.mem_cons.mp hc with rfl | hc
  · rfl
  rcases List.mem_cons.mp hc with rfl | hc
  · rfl
  have hblank := b.2 c hc
  simp only [Json.isBlank, Bool.or_eq_true, beq_iff_eq] at hblank
  rcases hblank with ((rfl | rfl) | rfl) | rfl <;> rfl

/-- An answer that nothing was found, in one piece. -/
def shortAnswer : Net.Response where
  status := 200
  body := ⟨[(emptyAnswer (.cons '\n' rfl .none)).toUTF8], .complete⟩

/-- A short answer is found and holds as a whole. -/
theorem found_shortAnswer :
    (submit .empty "image/png" (.remote nearbyService) (SoleAnswer.mk shortAnswer)).1 = .ok {} ∧
      shortAnswer.body.Holds {} := by
  have hoctets : shortAnswer.body.octets = (emptyAnswer (.cons '\n' rfl .none)).toUTF8 :=
    ByteArray.empty_append
  have hholds : shortAnswer.body.Holds {} := ⟨rfl, hoctets ▸ isSpelledBy_emptyAnswer _⟩
  have hanswer : Net.post nearbyService.url "image/png" .empty (some nearbyService.timeout)
      (SoleAnswer.mk shortAnswer) = (.ok shortAnswer, SoleAnswer.mk shortAnswer) := rfl
  refine ⟨((found_holds_iff hanswer rfl).2.2 ?_ {}).mpr hholds, hholds⟩
  rw [hoctets, size_emptyAnswer]
  decide

/-- That many spaces. -/
def spaces (n : Nat) : Json.Blanks :=
  ⟨List.replicate n ' ', fun c hc => by rw [List.eq_of_mem_replicate hc]; rfl⟩

theorem length_spaces (n : Nat) : (spaces n).chars.length = n := List.length_replicate

/-- An answer that nothing was found, and that many spaces later something that does not belong
there. -/
def garbledAnswer (n : Nat) : Net.Response where
  status := 200
  body := ⟨[(emptyAnswer (spaces n)).toUTF8, "x".toUTF8], .complete⟩

/-- What does not belong there goes unnoticed if it is the first octet behind the limit. -/
theorem ofBody_garbledAnswer {n : Nat} (hn : n + 2 = answerLimit) :
    DetectionResult.ofBody (garbledAnswer n).body = .ok {} ∧
      ∀ r, ¬(garbledAnswer n).body.Holds r := by
  have hsize : answerLimit = (emptyAnswer (spaces n)).toUTF8.size := by
    rw [size_emptyAnswer, length_spaces, hn]
  have hoctets : (garbledAnswer n).body.octets =
      (emptyAnswer (spaces n)).toUTF8 ++ "x".toUTF8 := by
    show ByteArray.empty ++ _ ++ _ = _
    rw [ByteArray.empty_append]
  have hfound : DetectionResult.ofBody (garbledAnswer n).body = .ok {} := by
    refine DetectionResult.ofBody_eq_ok_iff.mpr ⟨Or.inr rfl, ?_⟩
    rw [hoctets, ByteArray.extract_append_eq_left hsize]
    exact isSpelledBy_emptyAnswer (spaces n)
  refine ⟨hfound, fun r hr => ?_⟩
  obtain ⟨-, -, b, hb⟩ := (DetectionResult.holds_iff_of_ofBody hfound).mp hr
  rw [hoctets, ByteArray.extract_append_eq_right hsize ByteArray.size_append] at hb
  have hx : b.chars = ['x'] := by
    have htext := congrArg String.toList (String.toByteArray_inj.mp hb)
    rwa [String.toList_ofList] at htext
  have hblank : Json.isBlank 'x' = true :=
    b.2 'x' (by rw [show b.1 = ['x'] from hx]; exact List.mem_cons_self)
  cases hblank

/-- A body with something else behind the limit is taken for an answer that nothing was found,
although as a whole it is no JSON document. -/
theorem found_garbledAnswer :
    (submit .empty "image/png" (.remote nearbyService)
        (SoleAnswer.mk (garbledAnswer (answerLimit - 2)))).1 = .ok {} ∧
      ∀ r, ¬(garbledAnswer (answerLimit - 2)).body.Holds r := by
  have hgarbled := ofBody_garbledAnswer (n := answerLimit - 2) (by decide)
  have hanswer : Net.post nearbyService.url "image/png" .empty (some nearbyService.timeout)
      (SoleAnswer.mk (garbledAnswer (answerLimit - 2))) =
        (.ok (garbledAnswer (answerLimit - 2)), SoleAnswer.mk (garbledAnswer (answerLimit - 2))) :=
    rfl
  rw [submit_eq_ofBody hanswer rfl]
  exact hgarbled

end Detector

end Lookout
