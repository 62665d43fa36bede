import FeedOperator.Proofs.Store.Change

/-!
# Versions

Every write that is checked takes the next version, and what it stores carries that version. A
request to delete an object takes none.

* `Catalog.Renews`: a change after which every object is the same or carries a given version.
* `Store.Advances`: a change that takes the next version.
* `Store.Stamped`: every stored object carries a version that was given out.
* `Store.Onward`: a while in which the Source under a key stays the same or is written.

Results:
* `answer_advances`, `after_advances`: a call takes a version or leaves the objects alone.
* `Built.stamped`: every store that comes about is stamped.
* `Onward.of_after`: all that can happen to a store leads onward, requests to delete apart.
* `Onward.eq_of_version_eq`: a Source that has the version that was read is the one that was read.
-/

namespace FeedOperator

/-- Different numbers are different versions. -/
theorem Store.versionText_injective : Function.Injective Store.versionText := by
  intro m n h
  have hdigits : Nat.toDigits 10 m = Nat.toDigits 10 n := String.ofList_injective h
  calc m = Nat.ofDigitChars 10 (Nat.toDigits 10 m) 0 := Nat.ofDigitChars_ten_toDigits.symm
    _ = Nat.ofDigitChars 10 (Nat.toDigits 10 n) 0 := by rw [hdigits]
    _ = n := Nat.ofDigitChars_ten_toDigits

/-! ## Catalogs -/

namespace Catalog

variable {α σ τ : Type} {metadata : α → Meta} {version : String} {c d : Catalog α}

/-- Every object of the new catalog is the one that was there, or carries a version. -/
def Renews (metadata : α → Meta) (version : String) (c d : Catalog α) : Prop :=
  ∀ k, d.get? k = c.get? k ∨
    ∀ b, d.get? k = some b → (metadata b).resourceVersion = some version

theorem Renews.of_eq (h : d = c) : c.Renews metadata version d := by
  intro k
  rw [h]
  exact .inl rfl

theorem renews_insert (c : Catalog α) (key : ObjectKey) {a : α}
    (h : (metadata a).resourceVersion = some version) :
    c.Renews metadata version (c.insert key a) := by
  intro k
  rw [get?_insert]
  by_cases hk : k = key
  · right
    intro b hb
    rw [if_pos hk] at hb
    obtain rfl := Option.some.inj hb
    exact h
  · left
    rw [if_neg hk]

theorem renews_erase (c : Catalog α) (key : ObjectKey) :
    c.Renews metadata version (c.erase key) := by
  intro k
  rw [get?_erase]
  by_cases hk : k = key
  · right
    intro b hb
    rw [if_pos hk] at hb
    cases hb
  · left
    rw [if_neg hk]

theorem renews_replaceIn (c : Catalog (Object σ τ)) (version : String) (o : Object σ τ) :
    c.Renews Object.metadata version (Store.replaceIn c version o).2 := by
  unfold Store.replaceIn
  dsimp only
  split
  · exact .of_eq rfl
  · split
    · exact .of_eq rfl
    · dsimp only
      split
      · exact renews_erase c _
      · exact renews_insert c _ rfl

theorem renews_replaceStatusIn (c : Catalog (Object σ τ)) (version : String) (o : Object σ τ) :
    c.Renews Object.metadata version (Store.replaceStatusIn c version o).2 := by
  unfold Store.replaceStatusIn
  dsimp only
  split
  · exact .of_eq rfl
  · split
    · exact .of_eq rfl
    · exact renews_insert c _ rfl

/-- Every object carries a version out of the first so many. -/
def Stamped (metadata : α → Meta) (given : Nat) (c : Catalog α) : Prop :=
  ∀ k a, c.get? k = some a →
    ∃ n ≤ given, (metadata a).resourceVersion = some (Store.versionText n)

theorem Stamped.of_renews {given n : Nat} (h : c.Stamped metadata given) (hn : given ≤ n)
    (change : c.Renews metadata (Store.versionText n) d) : d.Stamped metadata n := by
  intro k b hb
  rcases change k with hsame | hnew
  · rw [hsame] at hb
    obtain ⟨m, hm, hversion⟩ := h k b hb
    exact ⟨m, hm.trans hn, hversion⟩
  · exact ⟨n, le_refl n, hnew b hb⟩

/-- No object carries the next version. -/
theorem Stamped.ne_next {given : Nat} (h : c.Stamped metadata given) {k : ObjectKey} {a : α}
    (ha : c.get? k = some a) :
    (metadata a).resourceVersion ≠ some (Store.versionText (given + 1)) := by
  intro hnext
  obtain ⟨n, hn, hversion⟩ := h k a ha
  have : n = given + 1 := Store.versionText_injective (Option.some.inj (hversion.symm.trans hnext))
  omega

theorem Stamped.markDeleted {given : Nat} {c : Catalog (Object σ τ)}
    (h : c.Stamped Object.metadata given) (key : ObjectKey) :
    (Store.markDeleted c key).Stamped Object.metadata given := by
  intro k b hb
  have hev := (Store.markDeleted_changes c key).evolves k
  rw [hb] at hev
  obtain ⟨a, ha, hab⟩ := hev.before
  obtain ⟨n, hn, hversion⟩ := h k a ha
  rcases hab with rfl | rfl
  · exact ⟨n, hn, hversion⟩
  · exact ⟨n, hn, hversion⟩

end Catalog

/-! ## Stores -/

namespace Store

variable {s t u : Store} {key : ObjectKey}

/-- A change that takes the next version, and after which every object is the same or carries that
version. -/
structure Advances (s t : Store) : Prop where
  version_eq : t.version = s.version + 1
  sources : s.sources.Renews Object.metadata (versionText t.version) t.sources
  hotNews : s.hotNews.Renews Object.metadata (versionText t.version) t.hotNews
  configMaps : s.configMaps.Renews ConfigMap.metadata (versionText t.version) t.configMaps

/-- A change that takes no version, and leaves the objects alone. -/
structure Rests (s t : Store) : Prop where
  version_eq : t.version = s.version
  same : s.SameObjects t

theorem rests_refl (s : Store) : s.Rests s := ⟨rfl, rfl, rfl, rfl⟩

theorem advances_insert (s : Store) (o : Resource) : s.Advances (s.insert o) := by
  cases o with
  | source o => exact ⟨rfl, Catalog.renews_insert _ _ rfl, .of_eq rfl, .of_eq rfl⟩
  | hotNews o => exact ⟨rfl, .of_eq rfl, Catalog.renews_insert _ _ rfl, .of_eq rfl⟩
  | configMap o => exact ⟨rfl, .of_eq rfl, .of_eq rfl, Catalog.renews_insert _ _ rfl⟩

/-- **A call takes the next version, or it leaves the objects alone.** -/
theorem answer_advances (s : Store) (c : StoreCall) :
    s.Advances (s.answer c).2 ∨ s.Rests (s.answer c).2 := by
  cases c with
  | replaceSource o =>
    simp only [answer, replaceSource]
    split
    · exact .inl ⟨rfl, Catalog.renews_replaceIn _ _ _, .of_eq rfl, .of_eq rfl⟩
    · exact .inr ⟨rfl, rfl, rfl, rfl⟩
  | replaceSourceStatus o =>
    simp only [answer, replaceSourceStatus]
    split
    · exact .inr (rests_refl s)
    · exact .inl ⟨rfl, Catalog.renews_replaceStatusIn _ _ _, .of_eq rfl, .of_eq rfl⟩
  | replaceHotNews o =>
    exact .inl ⟨rfl, .of_eq rfl, Catalog.renews_replaceIn _ _ _, .of_eq rfl⟩
  | replaceHotNewsStatus o =>
    simp only [answer, replaceHotNewsStatus]
    split
    · exact .inr (rests_refl s)
    · exact .inl ⟨rfl, .of_eq rfl, Catalog.renews_replaceStatusIn _ _ _, .of_eq rfl⟩
  | getSource | listSources | getHotNews | listHotNews | getConfigMap => exact .inr (rests_refl s)

/-- So does all that can happen to a store, requests to delete an object apart. -/
theorem after_advances (s : Store) (op : StoreOp) :
    s.Advances (s.after op) ∨ s.Rests (s.after op) ∨
      (∃ key, op = .deleteSource key) ∨ ∃ key, op = .deleteHotNews key := by
  cases op with
  | insert o => exact .inl (advances_insert s o)
  | deleteSource key => exact .inr (.inr (.inl ⟨key, rfl⟩))
  | deleteHotNews key => exact .inr (.inr (.inr ⟨key, rfl⟩))
  | call c => exact (answer_advances s c).imp_right .inl
  | faults => exact .inr (.inl ⟨rfl, rfl, rfl, rfl⟩)

/-- Every stored object carries a version that was given out. -/
structure Stamped (s : Store) : Prop where
  sources : s.sources.Stamped Object.metadata s.version
  hotNews : s.hotNews.Stamped Object.metadata s.version
  configMaps : s.configMaps.Stamped ConfigMap.metadata s.version

theorem stamped_after (h : s.Stamped) (op : StoreOp) : (s.after op).Stamped := by
  obtain ⟨sources, hotNews, configMaps⟩ := h
  rcases s.after_advances op with hadv | hrest | ⟨key, rfl⟩ | ⟨key, rfl⟩
  · have hle : s.version ≤ (s.after op).version := by
      rw [hadv.version_eq]
      exact Nat.le_succ _
    exact ⟨sources.of_renews hle hadv.sources, hotNews.of_renews hle hadv.hotNews,
      configMaps.of_renews hle hadv.configMaps⟩
  · obtain ⟨hversion, hsources, hhotNews, hconfigMaps⟩ := hrest
    constructor
    · rwa [hsources, hversion]
    · rwa [hhotNews, hversion]
    · rwa [hconfigMaps, hversion]
  · exact ⟨sources.markDeleted key, hotNews, configMaps⟩
  · exact ⟨sources, hotNews.markDeleted key, configMaps⟩

/-- **Every store that comes about is stamped.** -/
theorem Built.stamped (h : s.Built) : s.Stamped := by
  induction h with
  | empty => exact ⟨fun _ _ h => (nomatch h), fun _ _ h => (nomatch h), fun _ _ h => (nomatch h)⟩
  | after _ op ih => exact stamped_after ih op

/-- Whether some object carries a version. -/
def Carries (s : Store) (version : String) : Prop :=
  (∃ k a, s.sources.get? k = some a ∧ a.metadata.resourceVersion = some version) ∨
    (∃ k a, s.hotNews.get? k = some a ∧ a.metadata.resourceVersion = some version) ∨
      ∃ k a, s.configMaps.get? k = some a ∧ a.metadata.resourceVersion = some version

/-- **The next version is new.** -/
theorem Stamped.next_isNew (h : s.Stamped) : ¬ s.Carries (versionText (s.version + 1)) := by
  rintro (⟨k, a, ha, hversion⟩ | ⟨k, a, ha, hversion⟩ | ⟨k, a, ha, hversion⟩)
  · exact h.sources.ne_next ha hversion
  · exact h.hotNews.ne_next ha hversion
  · exact h.configMaps.ne_next ha hversion

/-! ## A while in which a Source is written -/

/-- A while after which the Source under a key is the same, or carries a version that was given out
meanwhile. -/
structure Onward (key : ObjectKey) (s t : Store) : Prop where
  version_le : s.version ≤ t.version
  same_or_newer : t.sources.get? key = s.sources.get? key ∨
    ∀ b, t.sources.get? key = some b →
      ∃ n, s.version < n ∧ b.metadata.resourceVersion = some (versionText n)

namespace Onward

theorem refl (key : ObjectKey) (s : Store) : s.Onward key s :=
  ⟨le_refl _, .inl rfl⟩

theorem trans (hst : s.Onward key t) (htu : t.Onward key u) : s.Onward key u := by
  refine ⟨hst.version_le.trans htu.version_le, ?_⟩
  rcases htu.same_or_newer with hsame | hnewer
  · rw [hsame]
    exact hst.same_or_newer
  · right
    intro b hb
    obtain ⟨n, hn, hversion⟩ := hnewer b hb
    exact ⟨n, hst.version_le.trans_lt hn, hversion⟩

/-- All that can happen to a store leads onward, but for a request to delete the Source. -/
theorem of_after {op : StoreOp} (h : op ≠ .deleteSource key) : s.Onward key (s.after op) := by
  rcases s.after_advances op with hadv | hrest | ⟨k, rfl⟩ | ⟨k, rfl⟩
  · have hversion := hadv.version_eq
    refine ⟨by omega, (hadv.sources key).imp_right fun hnew b hb => ?_⟩
    exact ⟨_, by omega, hnew b hb⟩
  · exact ⟨hrest.version_eq.ge, .inl (by rw [hrest.same.sources])⟩
  · have hk : key ≠ k := by
      rintro rfl
      exact h rfl
    exact ⟨le_refl _, .inl ((markDeleted_changes s.sources k).elsewhere key hk)⟩
  · exact ⟨le_refl _, .inl rfl⟩

/-- **A Source that has the version that was read is the one that was read.** -/
theorem eq_of_version_eq (h : s.Onward key t) (hs : s.Stamped) {a b : Source}
    (ha : s.sources.get? key = some a) (hb : t.sources.get? key = some b)
    (hversion : b.metadata.resourceVersion = a.metadata.resourceVersion) : b = a := by
  rcases h.same_or_newer with hsame | hnewer
  · rw [hsame, ha] at hb
    exact (Option.some.inj hb).symm
  · obtain ⟨m, hm, hread⟩ := hs.sources key a ha
    obtain ⟨n, hn, hnow⟩ := hnewer b hb
    rw [hnow, hread] at hversion
    have : n = m := versionText_injective (Option.some.inj hversion)
    omega

end Onward

end Store

end FeedOperator
