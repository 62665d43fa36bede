import FeedOperator.Admission.Handler
import FeedOperator.Proofs.Admission.Review
import FeedOperator.Proofs.Json.Patch
import FeedOperator.Proofs.Resource.Distinct

/-!
# The patch that writes the defaults

The answer to a review of a HotNews comes with a patch if the HotNews does not say how many titles
to keep. The patch is the difference of two HotNews that were read and written again, so it replaces
a number that is always written. The platform applies it to the document that was submitted, where
the number may be missing.

* `titlesPatch`: the only patch that is ever sent.
* `AdmissionAnswer.Fits`: an answer that makes of a document what the defaults make of its HotNews.

Results:
* `HotNews.between_withDefaults`: the patch is `titlesPatch`, or empty.
* `HotNews.decode_replaced`: a document in which it goes through has the default.
* `defaults_fit_iff`: the answer fits exactly if there is nothing to be done or the number is there.
-/

namespace FeedOperator

/-! ## The patch -/

/-- The place of the number of titles. -/
def titlesPath : List String := ["spec", "summaryConfig", "titlesCount"]

/-- The patch that writes the usual number of titles. -/
def titlesPatch : Patch := [.replace titlesPath (.num defaultTitlesCount.toNat)]

theorem HotNews.withDefaults_of_ne_zero {h : HotNews}
    (given : h.spec.summaryConfig.titlesCount ≠ 0) : h.withDefaults = h := by
  simp [HotNews.withDefaults, HotNewsSpec.withDefaults, given]

theorem HotNews.withDefaults_of_eq_zero {h : HotNews}
    (unset : h.spec.summaryConfig.titlesCount = 0) : h.withDefaults =
      { h with spec := { h.spec with summaryConfig := ⟨defaultTitlesCount⟩ } } := by
  simp [HotNews.withDefaults, HotNewsSpec.withDefaults, unset]

theorem HotNews.withDefaults_eq_self_iff {h : HotNews} :
    h.withDefaults = h ↔ h.spec.summaryConfig.titlesCount ≠ 0 := by
  refine ⟨fun heq unset => ?_, HotNews.withDefaults_of_ne_zero⟩
  rw [HotNews.withDefaults_of_eq_zero unset] at heq
  have hcount := congrArg (fun h : HotNews => h.spec.summaryConfig.titlesCount) heq
  have given : defaultTitlesCount ≠ 0 := by decide
  exact given (hcount.trans unset)

/-- Another number of titles changes what is written at its place alone. -/
theorem HotNews.replaced_toJson (h : HotNews) (n : UInt32) :
    Json.Replaced (.num h.spec.summaryConfig.titlesCount.toNat) (.num n.toNat) titlesPath h.toJson
      (HotNews.toJson { h with spec := { h.spec with summaryConfig := ⟨n⟩ } }) := by
  have written : ∀ config : SummaryConfig,
      HotNews.toJson { h with spec := { h.spec with summaryConfig := config } } =
        .obj ([("apiVersion", .str HotNews.type.apiVersion), ("kind", .str HotNews.type.kind),
            ("metadata", h.metadata.toJson)] ++
          ("spec", .obj ([("keywords", .ofStrings h.spec.keywords),
              ("dateStart", .ofString? h.spec.dateStart), ("dateEnd", .ofString? h.spec.dateEnd),
              ("sources", .ofStrings h.spec.sources),
              ("feedGroups", .ofStrings h.spec.feedGroups)] ++
            ("summaryConfig", .obj ([] ++ ("titlesCount", .num config.titlesCount.toNat) :: [])) ::
            [])) ::
          (h.status.map fun s => ("status", s.toJson)).toList) := fun config => by
    cases h.status <;>
      simp [HotNews.toJson, Object.toJson, Json.ofPresent, HotNewsSpec.toJson, SummaryConfig.toJson]
  rw [written ⟨n⟩, (written h.spec.summaryConfig : h.toJson = _)]
  exact .member (by simp) (.member (by simp) (.member (by simp) .here))

/-- **The patch is the one patch, or empty.** -/
theorem HotNews.between_withDefaults {h : HotNews} (distinct : h.toJson.Distinct) :
    Patch.between h.toJson h.withDefaults.toJson =
      if h.spec.summaryConfig.titlesCount = 0 then titlesPatch else [] := by
  unfold Patch.between
  split
  · next unset =>
    have differ : (Json.num 0).same (.num defaultTitlesCount.toNat) = false := by decide +kernel
    have replaced := h.replaced_toJson defaultTitlesCount
    rw [unset] at replaced
    rw [HotNews.withDefaults_of_eq_zero unset, Patch.betweenAt_of_replaced replaced distinct]
    simp [Patch.betweenAt, differ, titlesPatch]
  · next given =>
    rw [HotNews.withDefaults_of_ne_zero given, Patch.betweenAt_self _ _ distinct]

/-- The place and the number of a patch that does no more than to write a number. -/
def Patch.number? : Patch → Option (List String × Int)
  | [.replace path (.num n)] => some (path, n)
  | _ => none

theorem Patch.eq_of_number? {patch : Patch} {path : List String} {n : Int}
    (h : patch.number? = some (path, n)) : patch = [.replace path (.num n)] := by
  unfold number? at h
  split at h
  · cases h
    rfl
  · cases h

/-- The patch that is sent is read as it was meant. -/
theorem ofOctets?_titlesPatch :
    Patch.ofOctets? (Text.Utf8.encode titlesPatch.toJson.chars) = some titlesPatch := by
  have read : (Patch.ofOctets? (Text.Utf8.encode titlesPatch.toJson.chars)).bind Patch.number? =
      some (titlesPath, (defaultTitlesCount.toNat : Int)) := by decide +kernel
  obtain ⟨patch, hpatch, hnumber⟩ := Option.bind_eq_some_iff.mp read
  rw [hpatch, Patch.eq_of_number? hnumber]
  rfl

/-! ## The document with the patch -/

/-- The number of titles among the members of a configuration. -/
theorem SummaryConfig.titlesCount_member :
    Reading.Member [.of "titlesCount" .defaulted Reading.asUInt32 fun v c =>
      { c with titlesCount := v }] "titlesCount" Reading.asUInt32
      fun v (c : SummaryConfig) => { c with titlesCount := v } where
  found := ⟨.defaulted, rfl⟩
  absorbs _ _ _ := rfl
  comm f hf hne := absurd (by rw [List.mem_singleton.mp hf]; rfl) hne

/-- The configuration among the members of a spec. -/
theorem HotNewsSpec.summaryConfig_member :
    Reading.Member HotNewsSpec.fields "summaryConfig" SummaryConfig.read
      fun v s => { s with summaryConfig := v } where
  found := ⟨.defaulted, by simp [HotNewsSpec.fields, Field.of]⟩
  absorbs _ _ _ := rfl
  comm := by
    simp only [HotNewsSpec.fields, List.forall_mem_cons]
    refine ⟨?_, ?_, ?_, ?_, ?_, fun hne => absurd rfl hne, by simp⟩
    all_goals exact fun _ _ _ hg _ => Field.comm_of hg fun _ _ => rfl

/-- The spec among the members of a HotNews. -/
theorem HotNews.spec_member :
    Reading.Member [
      .of "metadata" .required Meta.read fun v o => { o with metadata := v },
      .of "spec" .required HotNewsSpec.read fun v o => { o with spec := v },
      .of "status" .nullable (Reading.asOption HotNewsStatus.read) fun v o =>
        { o with status := v }] "spec" HotNewsSpec.read
      fun v (o : HotNews) => { o with spec := v } where
  found := ⟨.required, by simp [Field.of]⟩
  absorbs _ _ _ := rfl
  comm := by
    simp only [List.forall_mem_cons]
    refine ⟨?_, fun hne => absurd rfl hne, ?_, by simp⟩
    all_goals exact fun _ _ _ hg _ => Field.comm_of hg fun _ _ => rfl

section Documents

variable {old : Json} {d d' : Json}

theorem decode_usualTitles : (Json.num defaultTitlesCount.toNat).decode Reading.asUInt32 =
    .ok defaultTitlesCount := by
  decide +kernel

theorem SummaryConfig.decode_replaced {c : SummaryConfig}
    (replaced : Json.Replaced old (.num defaultTitlesCount.toNat) ["titlesCount"] d d')
    (h : d.decode SummaryConfig.read = .ok c) :
    d'.decode SummaryConfig.read = .ok ⟨defaultTitlesCount⟩ := by
  cases replaced with
  | member _ within =>
    cases within
    obtain ⟨_, -, -, swap⟩ := SummaryConfig.titlesCount_member.decode_split h
    exact swap _ _ decode_usualTitles

theorem HotNewsSpec.decode_replaced {s : HotNewsSpec}
    (replaced : Json.Replaced old (.num defaultTitlesCount.toNat) ["summaryConfig", "titlesCount"]
      d d')
    (h : d.decode HotNewsSpec.read = .ok s) :
    d'.decode HotNewsSpec.read = .ok { s with summaryConfig := ⟨defaultTitlesCount⟩ } := by
  cases replaced with
  | member _ within =>
    obtain ⟨_, hconfig, -, swap⟩ := HotNewsSpec.summaryConfig_member.decode_split h
    exact swap _ _ (SummaryConfig.decode_replaced within hconfig)

/-- **A document with the usual number at its place has the default.** -/
theorem HotNews.decode_replaced {h : HotNews}
    (replaced : Json.Replaced old (.num defaultTitlesCount.toNat) titlesPath d d')
    (hd : d.decode HotNews.read = .ok h) :
    d'.decode HotNews.read =
      .ok { h with spec := { h.spec with summaryConfig := ⟨defaultTitlesCount⟩ } } := by
  cases replaced with
  | member _ within =>
    obtain ⟨s, hspec, hput, swap⟩ := HotNews.spec_member.decode_split hd
    obtain rfl : s = h.spec := congrArg Object.spec hput
    exact swap _ _ (HotNewsSpec.decode_replaced within hspec)

end Documents

/-! ## Answers -/

/-- Whether an answer makes of a document what the defaults make of its HotNews: without a patch
there is nothing to be done, and a patch goes through and leaves a document of that HotNews. -/
def AdmissionAnswer.Fits (answer : AdmissionAnswer) (d : Json) (h : HotNews) : Prop :=
  match answer.patch with
  | none => h.withDefaults = h
  | some octets => ∃ patch d', Patch.ofOctets? octets = some patch ∧ patch.applyTo? d = some d' ∧
      d'.decode HotNews.read = .ok h.withDefaults

/-- A review with a request is answered without a call to anything. -/
theorem AdmissionEndpoint.mutateWith_eq {α : Type} {rules : AdmissionRules α} {body : Document}
    {review : AdmissionReview α} {request : AdmissionRequest α}
    (decodes : body.decode (AdmissionReview.read rules.read) = .ok review)
    (hrequest : review.request = some request) :
    mutateWith rules body = pure (.answered (rules.mutate review request)) := by
  unfold mutateWith answerWith
  rw [decodes]
  simp only [hrequest]
  rfl

/-- The answer to a review of a HotNews that was read. -/
theorem HotNews.mutate_eq {target : FeedGroupRef} {review : AdmissionReview HotNews}
    {request : AdmissionRequest HotNews} {h : HotNews} (object : request.object = some h)
    (distinct : h.toJson.Distinct) :
    (HotNews.rules target).mutate review request =
      if h.spec.summaryConfig.titlesCount = 0 then
        (AdmissionAnswer.allow review request).withPatch titlesPatch
      else AdmissionAnswer.allow review request := by
  unfold AdmissionRules.mutate HotNews.rules
  simp only [object, HotNews.between_withDefaults distinct]
  split
  · rfl
  · rfl

/-- The patch goes through exactly if the number is there. -/
theorem applyTo?_titlesPatch_iff {d d' : Json} :
    titlesPatch.applyTo? d = some d' ↔
      ∃ old, Json.Replaced old (.num defaultTitlesCount.toNat) titlesPath d d' := by
  have names : ∀ step ∈ titlesPath, ∀ n, Patch.position? n step = none := by
    simp only [titlesPath, List.forall_mem_cons]
    exact ⟨fun _ => rfl, fun _ => rfl, fun _ => rfl, by simp⟩
  rw [← Patch.change?_replace_iff names]
  simp [Patch.applyTo?, titlesPatch, Patch.applyOp?]

/-- **An answer with the patch fits exactly if the number is there.** -/
theorem AdmissionAnswer.fits_withPatch_iff {answer : AdmissionAnswer} {d : Json} {h : HotNews}
    (hd : d.decode HotNews.read = .ok h) (unset : h.spec.summaryConfig.titlesCount = 0) :
    (answer.withPatch titlesPatch).Fits d h ↔ (d.at? titlesPath).isSome = true := by
  have unfolded : (answer.withPatch titlesPatch).Fits d h ↔ ∃ patch d',
      Patch.ofOctets? (Text.Utf8.encode titlesPatch.toJson.chars) = some patch ∧
        patch.applyTo? d = some d' ∧ d'.decode HotNews.read = .ok h.withDefaults := Iff.rfl
  rw [unfolded, ofOctets?_titlesPatch]
  constructor
  · rintro ⟨patch, d', hpatch, happlied, -⟩
    cases hpatch
    obtain ⟨old, replaced⟩ := applyTo?_titlesPatch_iff.mp happlied
    rw [replaced.at?_eq, Option.isSome_some]
  · intro there
    obtain ⟨old, hold⟩ := Option.isSome_iff_exists.mp there
    obtain ⟨d', replaced⟩ := Json.exists_replaced (.num defaultTitlesCount.toNat) hold
    refine ⟨titlesPatch, d', rfl, applyTo?_titlesPatch_iff.mpr ⟨old, replaced⟩, ?_⟩
    rw [HotNews.withDefaults_of_eq_zero unset]
    exact HotNews.decode_replaced replaced hd

/-- **A review of a document is answered by what is read of the document.** -/
theorem HotNews.answer_eq (target : FeedGroupRef) {body : Document} {d : Json} {h : HotNews}
    {review : AdmissionReview HotNews}
    (decodes : body.decode (AdmissionReview.read HotNews.read) = .ok review)
    (carries : body.Carries d) (hd : d.decode HotNews.read = .ok h) :
    ∃ request, AdmissionEndpoint.answer target .mutateHotNews body = pure (.answered
      (if h.spec.summaryConfig.titlesCount = 0 then
        (AdmissionAnswer.allow review request).withPatch titlesPatch
      else AdmissionAnswer.allow review request)) := by
  have there : d ≠ .null := by
    rintro rfl
    cases hd
  obtain ⟨request, hrequest, hobject⟩ := AdmissionReview.object_of_carries carries there hd decodes
  refine ⟨request, ?_⟩
  rw [← HotNews.mutate_eq hobject (HotNews.distinct_toJson hd)]
  exact AdmissionEndpoint.mutateWith_eq decodes hrequest

/-- **When the answer fits what was submitted.** A review of a document that is read as a HotNews is
allowed, without a call to anything, and has a patch exactly if the defaults change the HotNews. The
answer does what the defaults do exactly if they change nothing or the document has the number of
titles in its place, if only as zero: in a document without it the patch does not go through. -/
theorem defaults_fit_iff (target : FeedGroupRef) {body : Document} {d : Json} {h : HotNews}
    {review : AdmissionReview HotNews}
    (decodes : body.decode (AdmissionReview.read HotNews.read) = .ok review)
    (carries : body.Carries d) (hd : d.decode HotNews.read = .ok h) :
    ∃ answer, AdmissionEndpoint.answer target .mutateHotNews body = pure (.answered answer) ∧
      answer.allowed = true ∧
      (answer.patch = none ↔ h.withDefaults = h) ∧
      (answer.Fits d h ↔ h.withDefaults = h ∨ (d.at? titlesPath).isSome = true) := by
  obtain ⟨request, hanswer⟩ := HotNews.answer_eq target decodes carries hd
  refine ⟨_, hanswer, ?_⟩
  split
  · next unset =>
    have changed : h.withDefaults ≠ h := fun heq => HotNews.withDefaults_eq_self_iff.mp heq unset
    refine ⟨rfl, by simp [AdmissionAnswer.withPatch, changed], ?_⟩
    rw [AdmissionAnswer.fits_withPatch_iff hd unset]
    simp [changed]
  · next given =>
    have same : h.withDefaults = h := HotNews.withDefaults_of_ne_zero given
    have fits : (AdmissionAnswer.allow review request).Fits d h := same
    refine ⟨rfl, by simp [AdmissionAnswer.allow, same], ?_⟩
    simp [fits, same]

/-! ## Two documents -/

/-- A document with the number of titles, if only as zero. -/
def titledDocument : Json :=
  .obj [("apiVersion", .str "newsaggregator.dev/v1"), ("kind", .str "HotNews"),
    ("metadata", .obj [("name", .str "tech")]),
    ("spec", .obj [("keywords", .arr [.str "rust"]),
      ("summaryConfig", .obj [("titlesCount", .num 0)])])]

/-- A document that says nothing of titles. -/
def untitledDocument : Json :=
  .obj [("apiVersion", .str "newsaggregator.dev/v1"), ("kind", .str "HotNews"),
    ("metadata", .obj [("name", .str "tech")]),
    ("spec", .obj [("keywords", .arr [.str "rust"])])]

/-- A request about a document. -/
def requestOf (d : Json) : List (String × Json) :=
  [("uid", .str "1"),
    ("kind", .obj [("group", .str "newsaggregator.dev"), ("version", .str "v1"),
      ("kind", .str "HotNews")]),
    ("resource", .obj [("group", .str "newsaggregator.dev"), ("version", .str "v1"),
      ("resource", .str "hotnews")]),
    ("operation", .str "CREATE"), ("userInfo", .obj []), ("object", d)]

/-- A review of a document. -/
def reviewOf (d : Json) : Document where
  root := .ofJson (.obj [("apiVersion", .str "admission.k8s.io/v1"),
    ("kind", .str "AdmissionReview"), ("request", .obj (requestOf d))])
  ended := true

theorem reviewOf_carries (d : Json) : (reviewOf d).Carries d := by
  have request : ("request", Json.obj (requestOf d)) ∈ [("apiVersion", .str "admission.k8s.io/v1"),
      ("kind", .str "AdmissionReview"), ("request", .obj (requestOf d))] := by simp
  have object : ("object", d) ∈ requestOf d := by simp [requestOf]
  exact ⟨_, _, rfl, Reading.mem_ofJsonMembers request, Reading.mem_ofJsonMembers object⟩

/-- Whether a document is read as a HotNews that does not say how many titles to keep. -/
def leavesTitlesOpen (d : Json) : Bool :=
  match d.decode HotNews.read with
  | .ok h => h.spec.summaryConfig.titlesCount = 0
  | .error _ => false

theorem exists_of_leavesTitlesOpen {d : Json} (h : leavesTitlesOpen d = true) :
    ∃ hotNews, d.decode HotNews.read = .ok hotNews ∧
      hotNews.spec.summaryConfig.titlesCount = 0 := by
  unfold leavesTitlesOpen at h
  split at h
  · next hotNews heq => exact ⟨hotNews, heq, of_decide_eq_true h⟩
  · cases h

/-- The answer to a review of a document with the number has a patch that fits. -/
theorem titledDocument_fits : ∃ h answer, titledDocument.decode HotNews.read = .ok h ∧
    AdmissionEndpoint.answer {} .mutateHotNews (reviewOf titledDocument) =
      pure (.answered answer) ∧
    answer.allowed = true ∧ answer.patch ≠ none ∧ answer.Fits titledDocument h := by
  obtain ⟨h, hd, unset⟩ := exists_of_leavesTitlesOpen
    (by decide +kernel : leavesTitlesOpen titledDocument = true)
  obtain ⟨review, decodes⟩ := Decoded.exists_of_isOk (by decide +kernel :
    ((reviewOf titledDocument).decode (AdmissionReview.read HotNews.read)).isOk = true)
  obtain ⟨answer, hanswer, allowed, patch, fits⟩ :=
    defaults_fit_iff {} decodes (reviewOf_carries titledDocument) hd
  exact ⟨h, answer, hd, hanswer, allowed,
    fun hnone => HotNews.withDefaults_eq_self_iff.mp (patch.mp hnone) unset, fits.mpr (.inr rfl)⟩

/-- The answer to a review of a document that says nothing of titles has a patch that does not go
through. -/
theorem untitledDocument_unfit : ∃ h answer, untitledDocument.decode HotNews.read = .ok h ∧
    (reviewOf untitledDocument).Carries untitledDocument ∧
    AdmissionEndpoint.answer {} .mutateHotNews (reviewOf untitledDocument) =
      pure (.answered answer) ∧
    answer.allowed = true ∧ ¬ answer.Fits untitledDocument h := by
  obtain ⟨h, hd, unset⟩ := exists_of_leavesTitlesOpen
    (by decide +kernel : leavesTitlesOpen untitledDocument = true)
  obtain ⟨review, decodes⟩ := Decoded.exists_of_isOk (by decide +kernel :
    ((reviewOf untitledDocument).decode (AdmissionReview.read HotNews.read)).isOk = true)
  have carries := reviewOf_carries untitledDocument
  obtain ⟨request, hanswer⟩ := HotNews.answer_eq {} decodes carries hd
  rw [if_pos unset] at hanswer
  refine ⟨h, _, hd, carries, hanswer, rfl, fun fits => ?_⟩
  cases (AdmissionAnswer.fits_withPatch_iff hd unset).mp fits

end FeedOperator
