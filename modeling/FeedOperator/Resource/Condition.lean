/-!
# Conditions

What a status says of the outcome of the latest passes over an object.

Model of `Condition`, `ConditionType`, `ConditionStatus` and `set_condition` (specification 3).

* `Condition.Kind`: the first condition ever written is `added`, every later one `updated`,
  whether or not the pass went well.
* `Condition.put`: a list holds its condition of a kind at the place of the first of that kind. One
  with the same outcome keeps its time, so that repeating an outcome changes nothing.

Results:
* `put_put_of_sameOutcome`, `put_put`: putting an outcome twice is putting it once.
* `exists_mem_put`: an outcome that is put is there, under its kind.
* `put_eq_self_iff`: when putting leaves the list alone.
-/

namespace FeedOperator

namespace Condition

/-- Whether a condition is the first of its object or a later one. -/
inductive Kind where
  | added
  | updated
  deriving DecidableEq

/-- What a condition says. -/
inductive Status where
  | holds
  | fails
  | unknown
  deriving DecidableEq

end Condition

/-- The outcome of a pass. -/
structure Condition where
  kind : Condition.Kind
  status : Condition.Status
  /-- The time of the last change, in the words of the one who set it. -/
  lastUpdateTime : String
  /-- The outcome as one word. -/
  reason : String
  message : String
  deriving DecidableEq

namespace Condition

/-- The kind of the next condition that joins a list. -/
def Kind.next : List Condition → Kind
  | [] => .added
  | _ :: _ => .updated

theorem Kind.next_of_ne_nil {cs : List Condition} (h : cs ≠ []) : Kind.next cs = .updated := by
  cases cs with
  | nil => exact absurd rfl h
  | cons => rfl

/-- The condition of a pass that ended at `now`. -/
def make (kind : Kind) (success : Bool) (now reason message : String) : Condition :=
  ⟨kind, if success then .holds else .fails, now, reason, message⟩

/-- Whether the condition says that all is well. -/
def isTrue (c : Condition) : Bool :=
  c.status = .holds

/-- Whether two conditions tell of one outcome, kind and time apart. -/
def sameOutcome (a b : Condition) : Bool :=
  a.status = b.status && a.reason = b.reason && a.message = b.message

/-- Puts a condition at the place of the first one of its kind, or at the end. -/
def put (c : Condition) : List Condition → List Condition
  | [] => [c]
  | d :: rest =>
    if d.kind = c.kind then (if d.sameOutcome c then d else c) :: rest
    else d :: put c rest

theorem sameOutcome_refl (c : Condition) : c.sameOutcome c = true := by
  simp [sameOutcome]

theorem sameOutcome_iff {a b : Condition} :
    a.sameOutcome b = true ↔ a.status = b.status ∧ a.reason = b.reason ∧ a.message = b.message := by
  simp [sameOutcome, and_assoc]

theorem sameOutcome_trans {a b c : Condition} (hab : a.sameOutcome b = true)
    (hbc : b.sameOutcome c = true) : a.sameOutcome c = true := by
  rw [sameOutcome_iff] at *
  exact ⟨hab.1.trans hbc.1, hab.2.1.trans hbc.2.1, hab.2.2.trans hbc.2.2⟩

/-- Of two conditions in a row with one kind and one outcome the second changes nothing. -/
theorem put_put_of_sameOutcome {c d : Condition} (kind : d.kind = c.kind)
    (outcome : c.sameOutcome d = true) (cs : List Condition) : put d (put c cs) = put c cs := by
  induction cs with
  | nil => simp [put, kind, outcome]
  | cons e rest ih =>
    by_cases hk : e.kind = c.kind
    · by_cases ho : e.sameOutcome c = true
      · simp [put, hk, ho, kind, sameOutcome_trans ho outcome]
      · simp [put, hk, ho, kind, outcome]
    · simp [put, hk, kind, ih]

theorem put_put (c : Condition) (cs : List Condition) : put c (put c cs) = put c cs :=
  put_put_of_sameOutcome rfl (sameOutcome_refl c) cs

theorem put_ne_nil (c : Condition) (cs : List Condition) : put c cs ≠ [] := by
  cases cs with
  | nil => simp [put]
  | cons d rest =>
    unfold put
    split
    · simp
    · simp

/-- After putting a condition there is one of its kind with its outcome. -/
theorem exists_mem_put (c : Condition) (cs : List Condition) :
    ∃ d ∈ put c cs, d.kind = c.kind ∧ d.sameOutcome c = true := by
  induction cs with
  | nil => exact ⟨c, List.mem_singleton_self c, rfl, sameOutcome_refl c⟩
  | cons e rest ih =>
    by_cases hk : e.kind = c.kind
    · by_cases ho : e.sameOutcome c = true
      · exact ⟨e, by simp [put, hk, ho], hk, ho⟩
      · exact ⟨c, by simp [put, hk, ho], rfl, sameOutcome_refl c⟩
    · obtain ⟨d, hd, same⟩ := ih
      exact ⟨d, by simp [put, hk, hd], same⟩

/-- A list stays as it is exactly if its first condition of the kind has the outcome, or is the
condition itself. -/
theorem put_eq_self_iff (c : Condition) (cs : List Condition) :
    put c cs = cs ↔
      ∃ d, cs.find? (·.kind = c.kind) = some d ∧ (d.sameOutcome c = true ∨ d = c) := by
  induction cs with
  | nil => simp [put]
  | cons d rest ih =>
    by_cases hk : d.kind = c.kind
    · by_cases ho : d.sameOutcome c = true
      · simp [put, hk, ho]
      · simpa [put, hk, ho] using eq_comm
    · simp [put, hk, ih]

/-! ## Reasons -/

/-- The words for the outcomes of a pass. -/
inductive Reason where
  | successfulCreation
  | failedCreation
  | successfulUpdate
  | failedUpdate
  | configMapNotFound
  | ownerReferenceFailed
  | fetchArticlesFailed
  | updateStatusFailed
  | reconciled
  deriving DecidableEq

/-- The word as it stands in a condition. -/
def Reason.text : Reason → String
  | .successfulCreation => "SuccessfulCreation"
  | .failedCreation => "FailedCreation"
  | .successfulUpdate => "SuccessfulUpdate"
  | .failedUpdate => "FailedUpdate"
  | .configMapNotFound => "ConfigMapNotFound"
  | .ownerReferenceFailed => "OwnerReferenceFailed"
  | .fetchArticlesFailed => "FetchArticlesFailed"
  | .updateStatusFailed => "UpdateStatusFailed"
  | .reconciled => "Reconciled"

end Condition

end FeedOperator
