import FeedOperator.Proofs.Admission.Verdict
import FeedOperator.Proofs.Store.Change

/-!
# Sources that admission keeps apart

A Source that is accepted is well formed and apart from the other ones of its namespace. So are all
of them, as long as nothing but accepted Sources is stored.

* `Store.Tidy`: the Sources are well formed, and those of one namespace are apart.

Results:
* `Tidy.of_keepsSpecs`: a change that keeps specs keeps a store tidy.
* `Tidy.of_accepted`: so does a Source that was accepted and stored.
-/

namespace FeedOperator.Store

/-- The Sources are well formed, and those of one namespace are apart. -/
structure Tidy (s : Store) : Prop where
  formed : ∀ k a, s.sources.get? k = some a → a.formatErrors = []
  apart : ∀ k l a b, s.sources.get? k = some a → s.sources.get? l = some b → k.ns = l.ns →
    k ≠ l → a.Apart b

variable {s t : Store}

theorem tidy_empty : Tidy {} where
  formed _ _ h := nomatch h
  apart _ _ _ _ h := nomatch h

theorem Tidy.of_keepsSpecs (h : s.Tidy) (sources : s.sources.KeepsSpecs t.sources) : t.Tidy where
  formed k b hb := by
    obtain ⟨a, ha, hspec⟩ := sources k b hb
    rw [Source.formatErrors_congr hspec]
    exact h.formed k a ha
  apart k l b b' hb hb' hns hkl := by
    obtain ⟨a, ha, hspec⟩ := sources k b hb
    obtain ⟨a', ha', hspec'⟩ := sources l b' hb'
    exact (h.apart k l a a' ha ha' hns hkl).congr hspec hspec'

/-- Objects with one namespace and one name have one key. -/
theorem key_eq_of_names {σ τ : Type} {a b : Object σ τ} (hns : a.key.ns = b.key.ns)
    (hname : a.metadata.name = b.metadata.name) : a.key = b.key :=
  congrArg₂ ObjectKey.mk hns (congrArg (·.getD "") hname)

/-- A Source that was accepted is apart from those under other keys of its namespace. -/
theorem apart_of_accepted {new : Source} (hs : s.Sound)
    (accepted : ((Source.validate new).outcome s).isOk = true) {l : ObjectKey} {b : Source}
    (hb : s.sources.get? l = some b) (hns : l.ns = new.key.ns) (hl : l ≠ new.key) :
    new.Apart b := by
  obtain ⟨-, -, apart⟩ := Source.accepts_iff.mp accepted
  have hkey : b.key = l := hs.source_key hb
  refine apart b ((Catalog.mem_inNamespace_iff hs.sources.ordered).mpr ⟨l, hb, hns⟩) ?_
  rw [← hkey] at hns hl
  exact fun hname => hl (key_eq_of_names hns hname)

/-- **A Source that was accepted and stored** leaves all of them well formed and apart. -/
theorem Tidy.of_accepted {new : Source} (h : s.Tidy) (hs : s.Sound)
    (accepted : ((Source.validate new).outcome s).isOk = true)
    (elsewhere : ∀ k, k ≠ new.key → t.sources.get? k = s.sources.get? k)
    (here : ∀ b, t.sources.get? new.key = some b → b.spec = new.spec) : t.Tidy where
  formed k b hb := by
    by_cases hk : k = new.key
    · subst hk
      rw [Source.formatErrors_congr (here b hb)]
      exact (Source.accepts_iff.mp accepted).2.1
    · rw [elsewhere k hk] at hb
      exact h.formed k b hb
  apart k l a b ha hb hns hkl := by
    by_cases hk : k = new.key
    · subst hk
      rw [elsewhere l hkl.symm] at hb
      exact (apart_of_accepted hs accepted hb hns.symm hkl.symm).congr (here a ha) rfl
    · rw [elsewhere k hk] at ha
      by_cases hl : l = new.key
      · subst hl
        exact ((apart_of_accepted hs accepted ha hns hk).congr (here b hb) rfl).symm
      · rw [elsewhere l hl] at hb
        exact h.apart k l a b ha hb hns hkl

end FeedOperator.Store
