import FeedOperator.Proofs.Json.Distinct
import FeedOperator.Proofs.Json.Record
import FeedOperator.Resource.Decode

/-!
# Resources with distinct names

Of the members of an object the last one of a name counts, where names are not fixed: among
annotations, labels and the fields that a client set. So what is read of a resource has distinct
names, and what is written of it has them too.

* `Meta.Distinct`: metadata that names everything once.

Results:
* `Meta.distinct_read`, `Meta.Distinct.toJson`: so it is read, and so it is written.
* `HotNews.distinct_toJson`: a HotNews that was read is written with distinct names.
-/

namespace FeedOperator

/-! ## What was read has distinct names -/

/-- Metadata that names every annotation, label and field once. -/
structure Meta.Distinct (m : Meta) : Prop where
  annotations : ∀ texts, m.annotations = some texts → (texts.map Prod.fst).Nodup
  labels : ∀ texts, m.labels = some texts → (texts.map Prod.fst).Nodup
  fields : ∀ owners, m.managedFields = some owners → ∀ f ∈ owners, ∀ v, f.fields = some v →
    v.Distinct

namespace Reading

theorem nodup_asTexts {r : Reading} {texts : List (String × String)}
    (h : r.asTexts = .ok texts) : (texts.map Prod.fst).Nodup := by
  unfold asTexts asTextMap at h
  split at h
  · refine Ascending.nodup
      (Decoded.foldlM_keeps (fun member entries entries' hs hstep => ?_) .nil h)
    unfold asTextMap.step at hstep
    split at hstep
    · cases hstep
    · obtain ⟨v, -, hstep⟩ := Decoded.bind_eq_ok_iff.mp hstep
      cases hstep
      exact hs.putEntry _ v
  · cases h

theorem nodup_asTexts? {r : Reading} {texts? : Option (List (String × String))}
    (h : r.asOption asTexts = .ok texts?) (texts : List (String × String))
    (htexts : texts? = some texts) : (texts.map Prod.fst).Nodup := by
  rcases asOption_eq_ok h with rfl | ⟨found, hfound, rfl⟩
  · cases htexts
  · cases htexts
    exact nodup_asTexts hfound

end Reading

/-- Which client set which fields is read with distinct names. -/
theorem FieldOwnership.distinct_read {r : Reading} {f : FieldOwnership}
    (h : FieldOwnership.read r = .ok f) (v : Json) (hv : f.fields = some v) : v.Distinct := by
  refine Reading.asLooseRecord_keeps
    (I := fun f : FieldOwnership => ∀ v, f.fields = some v → v.Distinct) ?_ (by simp) h v hv
  simp only [Field.loose, List.forall_mem_cons]
  refine ⟨?_, ?_, ?_, ?_, ?_, ?_, ?_, by simp⟩
  case refine_3 =>
    refine Field.keeps_of fun r x hx s _ v hv => ?_
    rcases Reading.asOption_eq_ok hx with rfl | ⟨w, hw, rfl⟩
    · cases hv
    · cases hv
      exact Reading.distinct_asJson r v hw
  all_goals exact Field.keeps_of fun _ _ _ _ hs => hs

/-- Metadata is read with distinct names. -/
theorem Meta.distinct_read {r : Reading} {m : Meta} (h : Meta.read r = .ok m) : m.Distinct := by
  refine Reading.asLooseRecord_keeps (I := Meta.Distinct) ?_ ⟨by simp, by simp, by simp⟩ h
  simp only [Field.loose, List.forall_mem_cons]
  refine ⟨?_, ?_, ?_, ?_, ?_, ?_, ?_, ?_, ?_, ?_, ?_, ?_, ?_, ?_, ?_, by simp⟩
  case refine_1 => exact Field.keeps_of fun r x hx s hs =>
    ⟨Reading.nodup_asTexts? hx, hs.labels, hs.fields⟩
  case refine_8 => exact Field.keeps_of fun r x hx s hs =>
    ⟨hs.annotations, Reading.nodup_asTexts? hx, hs.fields⟩
  case refine_9 =>
    refine Field.keeps_of fun r x hx s hs => ⟨hs.annotations, hs.labels, fun owners howners => ?_⟩
    rcases Reading.asOption_eq_ok hx with rfl | ⟨found, hfound, rfl⟩
    · cases howners
    · cases howners
      unfold Reading.asList at hfound
      split at hfound
      · intro f hf
        obtain ⟨r, -, hr⟩ := Decoded.mem_of_mapM hfound hf
        exact FieldOwnership.distinct_read hr
      · cases hfound
  all_goals exact Field.keeps_of fun _ _ _ _ hs => ⟨hs.annotations, hs.labels, hs.fields⟩

theorem HotNews.distinct_metadata {r : Reading} {h : HotNews} (hr : HotNews.read r = .ok h) :
    h.metadata.Distinct := by
  refine Reading.asRecord_keeps (I := fun o : HotNews => o.metadata.Distinct) ?_
    ⟨by simp, by simp, by simp⟩ hr
  simp only [List.forall_mem_cons]
  refine ⟨?_, ?_, ?_, by simp⟩
  · exact Field.keeps_of fun r m hm _ _ => Meta.distinct_read hm
  · exact Field.keeps_of fun _ _ _ _ hs => hs
  · exact Field.keeps_of fun _ _ _ _ hs => hs

/-! ## What is written of it has them too -/

namespace Json

theorem distinct_ofTexts {texts : List (String × String)} (names : (texts.map Prod.fst).Nodup) :
    (ofTexts texts).Distinct := by
  refine distinct_obj_iff.mpr ⟨by rwa [List.map_map], fun m hm => ?_⟩
  obtain ⟨_, -, rfl⟩ := List.mem_map.mp hm
  exact distinct_str _

/-- A list of values that are written with distinct names. -/
theorem distinct_arr_map {α : Type} {write : α → Json} {items : List α}
    (h : ∀ a ∈ items, (write a).Distinct) : (arr (items.map write)).Distinct := by
  refine distinct_arr_iff.mpr fun v hv => ?_
  obtain ⟨a, ha, rfl⟩ := List.mem_map.mp hv
  exact h a ha

/-- A member that may be missing. -/
theorem distinct_of_map {α : Type} {write : α → Json} {a? : Option α}
    (h : ∀ a, a? = some a → (write a).Distinct) (v : Json) (hv : a?.map write = some v) :
    v.Distinct := by
  obtain ⟨a, ha, rfl⟩ := Option.map_eq_some_iff.mp hv
  exact h a ha

end Json

theorem Condition.distinct_toJson (c : Condition) : c.toJson.Distinct := by
  simp [Condition.toJson, Json.distinct_obj_iff]

theorem OwnerReference.distinct_toJson (r : OwnerReference) : r.toJson.Distinct := by
  refine Json.distinct_ofPresent (by simp) ?_
  simp only [List.forall_mem_cons]
  exact ⟨by simp, Json.distinct_of_map (by simp), Json.distinct_of_map (by simp), by simp, by simp,
    by simp, by simp⟩

theorem FieldOwnership.distinct_toJson {f : FieldOwnership}
    (h : ∀ v, f.fields = some v → v.Distinct) : f.toJson.Distinct := by
  refine Json.distinct_ofPresent (by simp) ?_
  simp only [List.forall_mem_cons]
  refine ⟨?_, ?_, h, ?_, ?_, ?_, ?_, by simp⟩
  all_goals exact Json.distinct_of_map (by simp)

theorem Meta.Distinct.toJson {m : Meta} (h : m.Distinct) : m.toJson.Distinct := by
  refine Json.distinct_ofPresent (by simp) ?_
  simp only [List.forall_mem_cons]
  refine ⟨?_, ?_, ?_, ?_, ?_, ?_, ?_, ?_, ?_, ?_, ?_, ?_, ?_, ?_, ?_, by simp⟩
  case refine_1 =>
    exact Json.distinct_of_map fun texts ht => Json.distinct_ofTexts (h.annotations texts ht)
  case refine_8 =>
    exact Json.distinct_of_map fun texts ht => Json.distinct_ofTexts (h.labels texts ht)
  case refine_9 =>
    exact Json.distinct_of_map fun owners ho => Json.distinct_arr_map fun f hf =>
      FieldOwnership.distinct_toJson (h.fields owners ho f hf)
  case refine_12 =>
    exact Json.distinct_of_map fun _ _ => Json.distinct_arr_map fun r _ => r.distinct_toJson
  all_goals exact Json.distinct_of_map (by simp [Json.ofInt64])

theorem HotNewsSpec.distinct_toJson (s : HotNewsSpec) : s.toJson.Distinct := by
  simp [HotNewsSpec.toJson, SummaryConfig.toJson, Json.distinct_obj_iff]

theorem HotNewsStatus.distinct_toJson (s : HotNewsStatus) : s.toJson.Distinct := by
  simp [HotNewsStatus.toJson, Json.distinct_obj_iff, Json.distinct_arr_map,
    Condition.distinct_toJson]

/-- **A HotNews that was read is written with distinct names.** -/
theorem HotNews.distinct_toJson {r : Reading} {h : HotNews} (hr : HotNews.read r = .ok h) :
    h.toJson.Distinct := by
  refine Json.distinct_ofPresent (by simp) ?_
  simp only [List.forall_mem_cons]
  exact ⟨by simp, by simp, by simp [(HotNews.distinct_metadata hr).toJson],
    by simp [HotNewsSpec.distinct_toJson],
    Json.distinct_of_map fun s _ => s.distinct_toJson, by simp⟩

end FeedOperator
