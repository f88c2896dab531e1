import Lookout.Capture.Camera
import Lookout.Detection.Service
import Lookout.Proofs.Results
/-!
# What an address is taken for

The scheme of an address decides three times: whether a configuration is accepted
(`Config.checkAddress`), which detection service is asked (`Detector.ofSettings`) and which source
delivers frames (`Camera.ofSettings`).  The first reads the scheme out of the address; the other two
look for `stub://` at the very start of the text, as it is written.

* **The readers agree on an address unless it means `stub` and is written otherwise**
  (`schemes_agree_iff`): the stand-ins are taken exactly where the scheme is `stub`, and the network
  exactly where it is `http` or `https`, if and only if a `stub` address starts with `stub://`.
* **What becomes of the others** (`stub_written_otherwise`): the address is accepted, the network is
  asked for detections, and no camera is opened, with the complaint that `stub` is not `stub`.  One
  such text is `STUB://detector` (`schemes_disagree_on_capitals`).

A text that starts with `stub://` does have the scheme `stub` (`scheme_of_startsWith`), since neither
the blanks around a text nor the breaks inside it belong to those characters.
-/

namespace Lookout

/-! ### The scheme of an address -/

namespace Url

/-- Query and fragment do not touch the scheme. -/
@[simp] theorem scheme_withTail (u : Url) (special : Bool) (query fragment : Option (List Char)) :
    (u.withTail special query fragment).scheme = u.scheme := rfl

/-- Only the scheme of files is of that kind. -/
theorem eq_file_of_schemeKind {scheme : String} (h : schemeKind scheme = .file) :
    scheme = "file" := by
  unfold schemeKind at h
  split at h <;> first | rfl | cases h

/-- An address with an authority keeps the scheme it is read for. -/
theorem scheme_of_readAuthority {scheme : String} {cs : List Char} {u : Url}
    (h : readAuthority scheme cs = .ok u) : u.scheme = scheme := by
  unfold readAuthority at h
  simp only [bind, Except.bind, pure, Except.pure] at h
  repeat' split at h
  -- where nothing went wrong, the address is put together with the scheme in it
  all_goals cases h
  all_goals rfl

/-- The address of a file has the scheme of files. -/
theorem scheme_of_readFile {cs : List Char} {u : Url} (h : readFile cs = .ok u) :
    u.scheme = "file" := by
  unfold readFile at h
  simp only [bind, Except.bind, pure, Except.pure] at h
  repeat' split at h
  all_goals cases h
  all_goals rfl

/-- An address of another kind keeps the scheme it is read for. -/
theorem scheme_of_readOther {scheme : String} {cs : List Char} {u : Url}
    (h : readOther scheme cs = .ok u) : u.scheme = scheme := by
  unfold readOther at h
  split at h
  · exact scheme_of_readAuthority h
  · cases h
    rfl

/-- The scheme of an address is what stands before the first colon, in lower case, whatever the
rest of the address turns out to be. -/
theorem scheme_of_parse {text : String} {u : Url} (h : parse text = .ok u) :
    ∃ rest, splitScheme (significant text) = some (u.scheme, rest) := by
  unfold parse at h
  split at h
  case h_1 => cases h
  case h_2 scheme rest hsplit =>
    have hscheme : u.scheme = scheme := by
      split at h
      case h_1 hkind => rw [scheme_of_readFile h, eq_file_of_schemeKind hkind]
      case h_2 => exact scheme_of_readAuthority h
      case h_3 => exact scheme_of_readOther h
    exact ⟨rest, by rw [hsplit, hscheme]⟩

/-! ### A text that starts with the scheme -/

/-- What the condition does not hold for is not dropped from the end of a list. -/
theorem suffix_dropWhile {α : Type} {p : α → Bool} {back : List α} (h : ∀ a ∈ back, p a = false)
    (front : List α) : back <:+ (front ++ back).dropWhile p := by
  induction front with
  | nil =>
    cases back with
    | nil => exact List.suffix_refl _
    | cons a back =>
      have hkept : (a :: back).dropWhile p = a :: back :=
        List.dropWhile_cons_of_neg (by simp [h a List.mem_cons_self])
      exact ⟨[], hkept.symm⟩
  | cons a front ih =>
    rw [List.cons_append, List.dropWhile_cons]
    split
    · exact ih
    · exact (List.suffix_append front back).trans (List.suffix_cons a _)

/-- Characters above the space at the start of a text all count. -/
theorem prefix_significant {text : String} {front : List Char} (hfront : front <+: text.toList)
    (hsolid : ∀ c ∈ front, 0x20 < c.toNat) : front <+: significant text := by
  have hkept : ∀ c ∈ front, decide (c.toNat ≤ 0x20) = false := by
    intro c hc
    exact decide_eq_false (Nat.not_le.mpr (hsolid c hc))
  obtain ⟨rest, hrest⟩ := hfront
  have hleft : front <+: text.toList.dropWhile (·.toNat ≤ 0x20) := by
    cases front with
    | nil => exact List.nil_prefix
    | cons c cs =>
      rw [← hrest, List.cons_append,
        List.dropWhile_cons_of_neg (by simp [hkept c List.mem_cons_self])]
      exact List.prefix_append (c :: cs) rest
  obtain ⟨rest, hrest⟩ := hleft
  have hright : front.reverse <:+
      (text.toList.dropWhile (·.toNat ≤ 0x20)).reverse.dropWhile (·.toNat ≤ 0x20) := by
    rw [← hrest, List.reverse_append]
    exact suffix_dropWhile (fun c hc => hkept c (List.mem_reverse.mp hc)) _
  have hinner := List.reverse_prefix.mpr hright
  rw [List.reverse_reverse] at hinner
  have hfilter : front.filter (fun c => c != '\t' && c != '\n' && c != '\r') = front := by
    rw [List.filter_eq_self]
    intro c hc
    have hne : ∀ d : Char, d.toNat ≤ 0x20 → c ≠ d := by
      rintro d hd rfl
      exact absurd hd (Nat.not_le.mpr (hsolid c hc))
    simp [hne '\t' (by decide), hne '\n' (by decide), hne '\r' (by decide)]
  unfold significant
  rw [← hfilter]
  exact hinner.filter _

/-- The scheme is cut off at its colon. -/
theorem splitScheme_stub (rest : List Char) :
    splitScheme ("stub:".toList ++ rest) = some ("stub", rest) := by
  show splitScheme ('s' :: 't' :: 'u' :: 'b' :: ':' :: rest) = some ("stub", rest)
  rfl

/-- An address that starts with `stub://` has the scheme `stub`. -/
theorem scheme_of_startsWith {text : String} {u : Url} (hparse : parse text = .ok u)
    (hstart : text.startsWith "stub://" = true) : u.scheme = "stub" := by
  have hstub : "stub:".toList <+: text.toList :=
    List.IsPrefix.trans (by decide) (String.startsWith_string_iff.mp hstart)
  obtain ⟨tail, htail⟩ := prefix_significant hstub (by simp)
  obtain ⟨rest, hsplit⟩ := scheme_of_parse hparse
  rw [← htail, splitScheme_stub] at hsplit
  exact (congrArg Prod.fst (Option.some.inj hsplit)).symm

end Url

/-! ### The three readers -/

/-- An address is accepted exactly if it is one and its scheme is served. -/
theorem Config.checkAddress_eq_ok_iff {field value : String} {schemes : List String} :
    checkAddress field value schemes = .ok () ↔ ∃ u, Url.parse value = .ok u ∧ u.scheme ∈ schemes := by
  unfold checkAddress
  rcases hparse : Url.parse value with cause | u
  · simp
  · by_cases hserved : u.scheme ∈ schemes
    · simp [hserved]
    · simp [hserved]

/-- The stand-in is asked for detections exactly if the address starts with `stub://`. -/
theorem Detector.ofSettings_eq_stub_iff {settings : DetectionSettings} :
    ofSettings settings = .stub 0 ↔ settings.url.startsWith "stub://" = true := by
  unfold ofSettings
  split
  case isTrue h => simp [h]
  case isFalse h => simp [h]

/-- The network is asked for detections exactly if the address does not start with `stub://`. -/
theorem Detector.ofSettings_eq_remote_iff {settings : DetectionSettings} :
    ofSettings settings = .remote settings ↔ settings.url.startsWith "stub://" = false := by
  unfold ofSettings
  split
  case isTrue h => simp [h]
  case isFalse h => simp [h]

namespace Camera

variable {τ : Type}

/-- Frames are made up for an address that starts with `stub://`. -/
theorem ofSettings_of_stub {settings : SourceSettings}
    (hstart : settings.url.startsWith "stub://" = true) :
    (ofSettings settings : Except AcquisitionError (Camera τ)) = .ok (.inl (.ofSettings settings)) :=
  if_pos hstart

/-- Of any other address the scheme decides. -/
theorem ofSettings_of_parse {settings : SourceSettings} {u : Url}
    (hstart : settings.url.startsWith "stub://" = false) (hparse : Url.parse settings.url = .ok u) :
    (ofSettings settings : Except AcquisitionError (Camera τ)) =
      if u.scheme = "http" ∨ u.scheme = "https" then .ok (.inr (.ofSettings settings))
      else .error (.unsupported s!"scheme '{u.scheme}'; expected stub, http or https") := by
  unfold ofSettings
  rw [if_neg (by simp [hstart]), hparse]
  simp

/-- Where the address can be read, frames are made up exactly if it starts with `stub://`. -/
theorem ofSettings_eq_inl_iff (settings : SourceSettings) {u : Url}
    (hparse : Url.parse settings.url = .ok u) :
    (∃ source, (ofSettings settings : Except AcquisitionError (Camera τ)) = .ok (.inl source)) ↔
      settings.url.startsWith "stub://" = true := by
  rcases hstart : settings.url.startsWith "stub://" with _ | _
  · rw [ofSettings_of_parse hstart hparse]
    by_cases hweb : u.scheme = "http" ∨ u.scheme = "https"
    · simp [hweb]
    · simp [hweb]
  · simp [ofSettings_of_stub hstart]

end Camera

/-! ### Whether they agree -/

/-- The readers of an address find the scheme that it has: the detector is the stand-in exactly for
`stub` and the network exactly for the schemes of the web, if the configuration accepts the address;
and a camera is opened exactly for those schemes, with made-up frames exactly for `stub`. -/
structure SchemesAgree (τ : Type) (text : String) : Prop where
  /-- The detector is the one that the scheme names. -/
  detector : Config.checkAddress "detection.url" text ["http", "https", "stub"] = .ok () →
    ∀ u, Url.parse text = .ok u → ∀ settings : DetectionSettings, settings.url = text →
      (Detector.ofSettings settings = .stub 0 ↔ u.scheme = "stub") ∧
      (Detector.ofSettings settings = .remote settings ↔ u.scheme = "http" ∨ u.scheme = "https")
  /-- The camera is the one that the scheme names, if the scheme names one. -/
  camera : ∀ u, Url.parse text = .ok u → ∀ settings : SourceSettings, settings.url = text →
    ((∃ camera, (Camera.ofSettings settings : Except AcquisitionError (Camera τ)) = .ok camera) ↔
      u.scheme = "stub" ∨ u.scheme = "http" ∨ u.scheme = "https") ∧
    ((∃ source, (Camera.ofSettings settings : Except AcquisitionError (Camera τ)) =
      .ok (.inl source)) ↔ u.scheme = "stub")

/-- An address whose scheme is `stub` and that starts otherwise is accepted, sent to the network,
and refused as a camera. -/
theorem stub_written_otherwise (τ : Type) {text : String} {u : Url}
    (hparse : Url.parse text = .ok u) (hscheme : u.scheme = "stub")
    (hstart : text.startsWith "stub://" = false) :
    Config.checkAddress "detection.url" text ["http", "https", "stub"] = .ok () ∧
      (∀ settings : DetectionSettings, settings.url = text →
        Detector.ofSettings settings = .remote settings) ∧
      ∀ settings : SourceSettings, settings.url = text →
        (Camera.ofSettings settings : Except AcquisitionError (Camera τ)) =
          .error (.unsupported "scheme 'stub'; expected stub, http or https") := by
  refine ⟨Config.checkAddress_eq_ok_iff.mpr ⟨u, hparse, by simp [hscheme]⟩, ?_, ?_⟩
  · rintro settings rfl
    exact Detector.ofSettings_eq_remote_iff.mpr hstart
  · rintro settings rfl
    rw [Camera.ofSettings_of_parse hstart hparse, hscheme]
    rfl

/-- **The readers agree on an address unless it means `stub` and is written otherwise.**  Whatever
the text, they find the same scheme if and only if it does not have the scheme `stub` or starts with
`stub://`. -/
theorem schemes_agree_iff (τ : Type) (text : String) :
    SchemesAgree τ text ↔
      ∀ u, Url.parse text = .ok u → u.scheme = "stub" → text.startsWith "stub://" = true := by
  constructor
  · intro hagree u hparse hscheme
    have hmade := ((hagree.camera u hparse { url := text } rfl).2).mpr hscheme
    exact (Camera.ofSettings_eq_inl_iff { url := text } hparse).mp hmade
  · intro hwritten
    -- the start of the text says what the scheme says
    have hstub : ∀ u, Url.parse text = .ok u →
        (text.startsWith "stub://" = true ↔ u.scheme = "stub") := fun u hparse =>
      ⟨Url.scheme_of_startsWith hparse, hwritten u hparse⟩
    constructor
    case detector =>
      rintro haccepted u hparse settings rfl
      rw [Detector.ofSettings_eq_stub_iff, Detector.ofSettings_eq_remote_iff, hstub u hparse,
        ← Bool.not_eq_true, hstub u hparse]
      obtain ⟨v, hv, hserved⟩ := Config.checkAddress_eq_ok_iff.mp haccepted
      cases hparse.symm.trans hv
      refine ⟨Iff.rfl, ?_, ?_⟩
      · intro hnot
        simpa [hnot] using hserved
      · rintro (hweb | hweb) <;> simp [hweb]
    case camera =>
      rintro u hparse settings rfl
      rw [Camera.ofSettings_eq_inl_iff settings hparse, hstub u hparse]
      refine ⟨?_, Iff.rfl⟩
      by_cases hscheme : u.scheme = "stub"
      · rw [Camera.ofSettings_of_stub ((hstub u hparse).mpr hscheme)]
        simp [hscheme]
      · have hstart : settings.url.startsWith "stub://" = false := by
          rw [← Bool.not_eq_true, hstub u hparse]
          exact hscheme
        rw [Camera.ofSettings_of_parse hstart hparse]
        by_cases hweb : u.scheme = "http" ∨ u.scheme = "https"
        · simp [hscheme, hweb]
        · simp [hscheme, hweb]

/-- **Capitals are enough to disagree on**: `STUB://detector` has the scheme `stub` and is accepted
for it, and yet the network is asked for detections, and a camera with that address is refused. -/
theorem schemes_disagree_on_capitals :
    (∃ u, Url.parse "STUB://detector" = .ok u ∧ u.scheme = "stub") ∧
      Config.checkAddress "detection.url" "STUB://detector" ["http", "https", "stub"] = .ok () ∧
      Detector.ofSettings { url := "STUB://detector" } = .remote { url := "STUB://detector" } ∧
      (Camera.ofSettings { url := "STUB://detector" } : Except AcquisitionError (Camera Unit)) =
        .error (.unsupported "scheme 'stub'; expected stub, http or https") ∧
      ¬SchemesAgree Unit "STUB://detector" := by
  obtain ⟨u, hparse, hscheme⟩ :
      ∃ u, Url.parse "STUB://detector" = .ok u ∧ u.scheme = "stub" := by
    refine ⟨{ scheme := "stub", host := some (.domain "detector") }, ?_, rfl⟩
    exact Results.eq_ok_of_toOption (by decide +kernel)
  have hstart : "STUB://detector".startsWith "stub://" = false := by decide +kernel
  obtain ⟨haccepted, hdetector, hrefused⟩ := stub_written_otherwise Unit hparse hscheme hstart
  refine ⟨⟨u, hparse, hscheme⟩, haccepted, hdetector _ rfl, hrefused _ rfl, ?_⟩
  intro hagree
  rw [(schemes_agree_iff Unit _).mp hagree u hparse hscheme] at hstart
  cases hstart

end Lookout
