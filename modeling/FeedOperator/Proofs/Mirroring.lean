import FeedOperator.Proofs.Visit

/-!
# Runs over stores with other ConfigMaps

A pass that looks up no ConfigMap does not notice which ones are stored.

* `Store.withConfigMaps`: the store with other ConfigMaps.
* `Call.IsPlain`: a call that looks up no ConfigMap.
* `Pass.Mirrors`: two passes, one over a store and one over the same store with other ConfigMaps,
  make the same calls, come to the same result, and leave stores that differ as they did.

Results:
* `mirrors_of_within`: a pass that makes plain calls alone mirrors itself.
* `mirrors_andThen`, `Attempt.mirrors_bind`: passes in a row mirror if the parts do.
* `mirrors_lookup`: a lookup is mirrored if what follows is.
-/

namespace FeedOperator

/-- The store with other ConfigMaps. -/
def Store.withConfigMaps (s : Store) (m : Catalog ConfigMap) : Store :=
  { s with configMaps := m }

/-- Whether a call looks up no ConfigMap. -/
def Call.IsPlain : Call → Prop
  | .store (.getConfigMap _ _) => False
  | _ => True

/-- The answer to a plain call does not depend on the ConfigMaps. -/
theorem Store.answer_withConfigMaps {c : StoreCall} (plain : Call.IsPlain (.store c)) (s : Store)
    (m : Catalog ConfigMap) :
    (s.withConfigMaps m).answer c = ((s.answer c).1, (s.answer c).2.withConfigMaps m) := by
  cases c with
  | getConfigMap => exact plain.elim
  | replaceSource new =>
    change (s.withConfigMaps m).replaceSource new =
      ((s.replaceSource new).1, (s.replaceSource new).2.withConfigMaps m)
    unfold replaceSource
    by_cases h : s.sourceConflicts = 0
    · rw [if_pos h, if_pos (show (s.withConfigMaps m).sourceConflicts = 0 from h)]
      rfl
    · rw [if_neg h, if_neg (show ¬ (s.withConfigMaps m).sourceConflicts = 0 from h)]
      rfl
  | replaceSourceStatus new =>
    change (s.withConfigMaps m).replaceSourceStatus new =
      ((s.replaceSourceStatus new).1, (s.replaceSourceStatus new).2.withConfigMaps m)
    unfold replaceSourceStatus
    change (if s.failStatusWrites then _ else _) = _
    split <;> rfl
  | replaceHotNewsStatus new =>
    change (s.withConfigMaps m).replaceHotNewsStatus new =
      ((s.replaceHotNewsStatus new).1, (s.replaceHotNewsStatus new).2.withConfigMaps m)
    unfold replaceHotNewsStatus
    change (if s.failStatusWrites then _ else _) = _
    split <;> rfl
  | replaceHotNews | getSource | listSources | getHotNews | listHotNews => rfl

namespace Pass

variable {α β : Type} {f : Service} {m : Catalog ConfigMap} {s : Store}

/-- Two runs side by side, the second one over a store with other ConfigMaps: they make the same
calls, come to the same result, and leave stores that differ as they did. -/
structure Mirrors (f : Service) (m : Catalog ConfigMap) (s : Store) (p q : Pass α) : Prop where
  run_eq : q.run (environment f.reply) (s.withConfigMaps m, ()) =
    ((p.run (environment f.reply) (s, ())).1,
      (p.run (environment f.reply) (s, ())).2.1.withConfigMaps m, ())
  calls_eq : (q.journal f.reply (s.withConfigMaps m, ())).map Event.call =
    (p.journal f.reply (s, ())).map Event.call

theorem mirrors_done (a : α) : Mirrors f m s (.done a) (.done a) :=
  ⟨rfl, rfl⟩

/-- A plain call to the store is mirrored if what follows its answer is. -/
theorem mirrors_store {c : StoreCall} {next next' : c.Answer → Pass α}
    (plain : Call.IsPlain (.store c))
    (h : Mirrors f m (s.answer c).2 (next (s.answer c).1) (next' (s.answer c).1)) :
    Mirrors f m s (.ask (.store c) next) (.ask (.store c) next') := by
  have hanswer := s.answer_withConfigMaps plain m
  constructor
  · change (next' ((s.withConfigMaps m).answer c).1).run _
      (((s.withConfigMaps m).answer c).2, ()) = _
    rw [hanswer]
    exact h.run_eq
  · change Call.store c :: ((next' ((s.withConfigMaps m).answer c).1).journal _
      (((s.withConfigMaps m).answer c).2, ())).map Event.call = _
    rw [hanswer, h.calls_eq]
    rfl

/-- So is a request to the service. -/
theorem mirrors_service {c : ServiceCall} {next next' : c.Answer → Pass α}
    (h : Mirrors f m s (next (f c)) (next' (f c))) :
    Mirrors f m s (.ask (.service c) next) (.ask (.service c) next') :=
  ⟨h.run_eq, congrArg (Call.service c :: ·) h.calls_eq⟩

/-- A lookup is mirrored if what follows its two answers is. -/
theorem mirrors_lookup {ns name : String}
    {next next' : (StoreCall.getConfigMap ns name).Answer → Pass α}
    (h : Mirrors f m s (next (.ok (s.configMaps.get? ⟨ns, name⟩)))
      (next' (.ok (m.get? ⟨ns, name⟩)))) :
    Mirrors f m s (.ask (.store (.getConfigMap ns name)) next)
      (.ask (.store (.getConfigMap ns name)) next') :=
  ⟨h.run_eq, congrArg (Call.store (.getConfigMap ns name) :: ·) h.calls_eq⟩

/-- **A pass that makes plain calls alone mirrors itself.** -/
theorem mirrors_of_within {p : Pass α} (h : p.Within Call.IsPlain) : Mirrors f m s p p := by
  induction p generalizing s with
  | done a => exact mirrors_done a
  | ask c next ih =>
    cases c with
    | store c => exact mirrors_store h.1 (ih _ (h.2 _))
    | service c => exact mirrors_service (ih _ (h.2 _))

theorem journal_andThen (service : (c : ServiceCall) → Unit → c.Answer × Unit) (p : Pass α)
    (g : α → Pass β) (state : Store × Unit) :
    (p.andThen g).journal service state = p.journal service state ++
      (g (p.run (environment service) state).1).journal service
        (p.run (environment service) state).2 := by
  induction p generalizing state with
  | done a => rfl
  | ask c next ih => exact congrArg (_ :: ·) (ih _ _)

/-- **Passes in a row mirror if the parts do.** -/
theorem mirrors_andThen {p q : Pass α} {g k : α → Pass β} (h : Mirrors f m s p q)
    (hnext : Mirrors f m (p.run (environment f.reply) (s, ())).2.1
      (g (p.run (environment f.reply) (s, ())).1) (k (p.run (environment f.reply) (s, ())).1)) :
    Mirrors f m s (p.andThen g) (q.andThen k) := by
  constructor
  · rw [run_andThen, run_andThen, h.run_eq]
    exact hnext.run_eq
  · rw [journal_andThen, journal_andThen, List.map_append, List.map_append, h.calls_eq, h.run_eq]
    exact congrArg (_ ++ ·) hnext.calls_eq

theorem mirrors_map {p q : Pass α} (g : α → β) (h : Mirrors f m s p q) :
    Mirrors f m s (g <$> p) (g <$> q) := by
  rw [map_eq_pure_bind, map_eq_pure_bind]
  exact mirrors_andThen h (mirrors_done _)

end Pass

namespace Attempt

variable {ε α β : Type} {f : Service} {m : Catalog ConfigMap} {s : Store}

/-- Of passes that may fail, the second part matters only after results that the first part can
have. -/
theorem mirrors_bind {x y : Attempt ε α} {g k : α → Attempt ε β}
    (h : Pass.Mirrors f m s x.run y.run)
    (hnext : ∀ a t es, x.run.Leads s es (.ok a) t → Pass.Mirrors f m t (g a).run (k a).run) :
    Pass.Mirrors f m s (x >>= g).run (y >>= k).run := by
  rw [ExceptT.run_bind, ExceptT.run_bind]
  refine Pass.mirrors_andThen h ?_
  have hleads := Pass.leads_journal f.reply x.run (s, ())
  generalize (x.run.run (Pass.environment f.reply) (s, ())).1 = r at hleads ⊢
  cases r with
  | error e => exact Pass.mirrors_done _
  | ok a => exact hnext a _ _ hleads

end Attempt

end FeedOperator
