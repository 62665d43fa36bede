import FeedOperator.Admission.Review
import FeedOperator.Proofs.Json.Record

/-!
# Reviews of a document

A review is read member by member, and what it holds is its request about an object.

* `Document.Carries`: a review with a document as the object of its request.

Results:
* `AdmissionReview.request_of_read`: the request of a review is what its member holds.
* `AdmissionReview.object_of_carries`: a review of a document asks about what is read of it.
-/

namespace FeedOperator

/-- Whether a review is about a document: it has a request, and that has the document as its
object. -/
def Document.Carries (body : Document) (d : Json) : Prop :=
  ∃ members request, body.root = .obj members ∧ (some "request", .obj request) ∈ members ∧
    (some "object", .ofJson d) ∈ request

namespace AdmissionReview

variable {α : Type} {read : Reading → Decoded α}

/-- What is read of the request of a review stays. -/
theorem request_step {parts parts' : Parts α} {member : Option String × Reading}
    {request : Option (AdmissionRequest α)} (there : parts.request = some request)
    (h : step read parts member = .ok parts') : parts'.request = some request := by
  unfold step at h
  split at h
  · cases h
  · rw [there] at h
    cases h
  · split at h
    · cases h
    · obtain ⟨_, -, h⟩ := Decoded.bind_eq_ok_iff.mp h
      cases h
      exact there
  · obtain ⟨_, -, h⟩ := Decoded.bind_eq_ok_iff.mp h
    cases h
    exact there

/-- The request of a review is what its member holds. -/
theorem request_of_read {members : List (Option String × Reading)} {v : Reading}
    {review : AdmissionReview α} (there : (some "request", v) ∈ members)
    (h : AdmissionReview.read read (.obj members) = .ok review) :
    v.asOption (asRequest read) = .ok review.request := by
  obtain ⟨front, back, rfl⟩ := List.append_of_mem there
  obtain ⟨parts, hparts, h⟩ := Decoded.bind_eq_ok_iff.mp h
  obtain ⟨before, -, hrest⟩ := Decoded.foldlM_append_eq_ok_iff.mp hparts
  obtain ⟨at_request, hstep, hback⟩ := Decoded.foldlM_cons_eq_ok_iff.mp hrest
  obtain ⟨request, hrequest, hput⟩ : ∃ request, v.asOption (asRequest read) = .ok request ∧
      at_request.request = some request := by
    change (if before.request.isSome then _ else _) = _ at hstep
    split at hstep
    · cases hstep
    · obtain ⟨request, hrequest, hstep⟩ := Decoded.bind_eq_ok_iff.mp hstep
      cases hstep
      exact ⟨request, hrequest, rfl⟩
  have kept : parts.request = some request :=
    Decoded.foldlM_keeps (I := fun parts : Parts α => parts.request = some request)
      (fun _ _ _ => request_step) hput hback
  have heq : review.request = request := by
    refine Reading.asRecord_keeps (I := fun r : AdmissionReview α => r.request = request) ?_ ?_ h
    · simp only [List.forall_mem_cons]
      exact ⟨Field.keeps_of fun _ _ _ _ hs => hs, Field.keeps_of fun _ _ _ _ hs => hs, by simp⟩
    · simp [kept]
  rw [heq]
  exact hrequest

/-- The object among the members of a request. -/
theorem object_member : ∃ fields start, asRequest read = Reading.asRecord fields start ∧
    Reading.Member fields "object" (Reading.asOption read)
      fun v (r : AdmissionRequest α) => { r with object := v } := by
  refine ⟨_, _, rfl, ⟨.nullable, by simp [Field.of, checked]⟩, fun _ _ _ => rfl, ?_⟩
  simp only [List.forall_mem_cons]
  refine ⟨?_, ?_, ?_, ?_, ?_, ?_, ?_, ?_, ?_, ?_, ?_, fun hne => absurd rfl hne, ?_, ?_, ?_,
    by simp⟩
  all_goals exact fun _ _ _ hg _ => Field.comm_of hg fun _ _ => rfl

/-- **A review of a document has a request about what is read of it.** -/
theorem object_of_carries {body : Document} {d : Json} {a : α} {review : AdmissionReview α}
    (carries : body.Carries d) (there : d ≠ .null) (ha : d.decode read = .ok a)
    (h : body.decode (AdmissionReview.read read) = .ok review) :
    ∃ request, review.request = some request ∧ request.object = some a := by
  obtain ⟨members, request, hroot, hrequest, hobject⟩ := carries
  obtain ⟨review', hreview, h⟩ := Decoded.bind_eq_ok_iff.mp h
  split at h
  · cases h
    rw [hroot] at hreview
    have hread := request_of_read hrequest hreview
    obtain ⟨asked, hasked, heq⟩ := Decoded.map_eq_ok_iff.mp hread
    obtain ⟨front, back, rfl⟩ := List.append_of_mem hobject
    obtain ⟨fields, start, hfields, member⟩ := @object_member _ read
    rw [hfields] at hasked
    obtain ⟨object, hread, hput⟩ := member.asRecord_eq hasked
    have hsome : object = some a := by
      cases d with
      | null => exact absurd rfl there
      | _ => exact (Except.ok.inj (hread.symm.trans (congrArg (some <$> ·) ha)))
    exact ⟨asked, heq.symm, (congrArg AdmissionRequest.object hput).symm.trans hsome⟩
  · cases h

end AdmissionReview

end FeedOperator
