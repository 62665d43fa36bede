import FeedOperator.Admission.FeedGroup
import FeedOperator.Admission.HotNews
import FeedOperator.Admission.Review
import FeedOperator.Admission.Source
import FeedOperator.Http.MediaType
import FeedOperator.Http.Target

/-!
# Answering admission reviews

Model of `mutate_handler`, `mutate`, `validate_handler`, `validate`, `parse_request`, `scoped` and
`webhook_router` (specification 10.5).

* `AdmissionRules`: what there is to say about objects of one type.
* `AdmissionRules.mutate`: answers with a patch that writes the defaults into the object.
* `AdmissionRules.validate`: answers with the verdict on what is to happen to the object. The
  namespace of the request is filled in where the object has none.
* `AdmissionEndpoint`: the five questions that are answered, each at a path of its own.
-/

namespace FeedOperator

/-- What there is to say about objects of one type. -/
structure AdmissionRules (α : Type) where
  read : Reading → Decoded α
  toJson : α → Json
  /-- The object with a namespace if it has none. -/
  placed : Option String → α → α
  withDefaults : α → α
  create : α → Pass Verdict
  update : (old new : α) → Pass Verdict
  delete : α → Pass Verdict

namespace AdmissionRules

variable {α : Type}

/-- Answers with a patch that writes the defaults into the object. -/
def mutate (rules : AdmissionRules α) (review : AdmissionReview α)
    (request : AdmissionRequest α) : AdmissionAnswer :=
  let answer := AdmissionAnswer.allow review request
  match request.object with
  | none => answer
  | some object =>
    let patch := Patch.between (rules.toJson object) (rules.toJson (rules.withDefaults object))
    if patch.isEmpty then answer else answer.withPatch patch

/-- The verdict on a request. One that says too little to be judged is allowed. -/
def verdict (rules : AdmissionRules α) (request : AdmissionRequest α) : Pass Verdict :=
  let placed := rules.placed request.ns
  match request.operation, request.object, request.oldObject with
  | .create, some object, _ => rules.create (placed object)
  | .update, some object, some old => rules.update (placed old) (placed object)
  | .delete, _, some old => rules.delete (placed old)
  | _, _, _ => return .ok []

/-- Answers with the verdict on a request. -/
def validate (rules : AdmissionRules α) (review : AdmissionReview α)
    (request : AdmissionRequest α) : Pass AdmissionAnswer := do
  let answer := AdmissionAnswer.allow review request
  match ← rules.verdict request with
  | .ok warnings =>
    return if warnings.isEmpty then answer else { answer with warnings := some warnings }
  | .error denial => return answer.deny denial.message

end AdmissionRules

/-- The metadata with a namespace if it has none. -/
def Meta.placed (ns : Option String) (m : Meta) : Meta :=
  { m with ns := m.ns <|> ns }

/-- The rules for Sources. -/
def Source.rules : AdmissionRules Source where
  read := Source.read
  toJson := Source.toJson
  placed ns s := { s with metadata := s.metadata.placed ns }
  withDefaults s := s
  create s := s.validate
  update _ s := s.validate
  delete _ := return .ok []

/-- The rules for HotNews. -/
def HotNews.rules (target : FeedGroupRef) : AdmissionRules HotNews where
  read := HotNews.read
  toJson := HotNews.toJson
  placed ns h := { h with metadata := h.metadata.placed ns }
  withDefaults h := h.withDefaults
  create h := h.validate target
  update _ h := h.validate target
  delete _ := return .ok []

/-- The rules for ConfigMaps. -/
def ConfigMap.rules (target : FeedGroupRef) : AdmissionRules ConfigMap where
  read := ConfigMap.read
  toJson := ConfigMap.toJson
  placed ns cm := { cm with metadata := cm.metadata.placed ns }
  withDefaults cm := cm
  create cm := cm.validate target
  update _ cm := cm.validate target
  delete cm := cm.validateDelete target

/-! ## Endpoints -/

/-- What a request over HTTP is answered with. -/
inductive AdmissionReply where
  /-- Nothing is at the path. -/
  | notFound
  /-- The method is another than POST. -/
  | methodNotAllowed
  /-- The content is not said to be JSON. -/
  | unsupportedMedia
  /-- The content is longer than any that is read. -/
  | tooLarge
  /-- The content is not JSON. -/
  | badRequest
  /-- The content is JSON of another shape. -/
  | unprocessable
  | answered (answer : AdmissionAnswer)

/-- The status of a reply. -/
def AdmissionReply.status : AdmissionReply → Nat
  | .notFound => 404
  | .methodNotAllowed => 405
  | .unsupportedMedia => 415
  | .tooLarge => 413
  | .badRequest => 400
  | .unprocessable => 422
  | .answered _ => 200

/-- A question that is answered. -/
inductive AdmissionEndpoint where
  | mutateSources
  | validateSources
  | mutateHotNews
  | validateHotNews
  | validateConfigMaps
  deriving DecidableEq

namespace AdmissionEndpoint

/-- The question at the path of a target. -/
def ofTarget? (target : String) : Option AdmissionEndpoint := do
  let target ← Target.parse? target.toList
  [("/mutate/sources", .mutateSources), ("/validate/sources", .validateSources),
    ("/mutate/hotnews", .mutateHotNews), ("/validate/hotnews", .validateHotNews),
    ("/validate/configmaps", .validateConfigMaps)].lookup (String.ofList target.path)

/-- Reads a review and answers it. -/
def answerWith {α : Type} (rules : AdmissionRules α)
    (answer : AdmissionReview α → AdmissionRequest α → Pass AdmissionAnswer) (body : Document) :
    Pass AdmissionReply := do
  match body.decode (AdmissionReview.read rules.read) with
  | .error .broken => return .badRequest
  | .error .mismatch => return .unprocessable
  | .ok review =>
    match review.request with
    | none => return .answered .withoutRequest
    | some request => return .answered (← answer review request)

/-- Reads a review and answers it with a patch. -/
def mutateWith {α : Type} (rules : AdmissionRules α) : Document → Pass AdmissionReply :=
  answerWith rules fun review request => return rules.mutate review request

/-- Reads a review and answers it with a verdict. -/
def validateWith {α : Type} (rules : AdmissionRules α) : Document → Pass AdmissionReply :=
  answerWith rules rules.validate

/-- Answers a question. -/
def answer (target : FeedGroupRef) : AdmissionEndpoint → Document → Pass AdmissionReply
  | .mutateSources => mutateWith Source.rules
  | .validateSources => validateWith Source.rules
  | .mutateHotNews => mutateWith (HotNews.rules target)
  | .validateHotNews => validateWith (HotNews.rules target)
  | .validateConfigMaps => validateWith (ConfigMap.rules target)

end AdmissionEndpoint

/-- Whether a content type is that of JSON. -/
def isJsonType (contentType : String) : Bool :=
  (MediaType.parse? contentType.toList).any (·.isJson)

/-- The greatest length of a content in octets. -/
def maxContent : Nat := 2097152

/-- Answers a request over HTTP. -/
def answerAdmission (target : FeedGroupRef) (path method : String) (contentType : Option String)
    (content : String) : Pass AdmissionReply :=
  match AdmissionEndpoint.ofTarget? path with
  | none => return .notFound
  | some endpoint =>
    if method ≠ "POST" then return .methodNotAllowed
    else if !contentType.any isJsonType then return .unsupportedMedia
    else if maxContent < content.utf8ByteSize then return .tooLarge
    else endpoint.answer target (.ofText content)

end FeedOperator
