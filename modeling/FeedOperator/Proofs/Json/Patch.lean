import FeedOperator.Proofs.Json.Distinct
import FeedOperator.Text.Pieces

/-!
# Patches of one place

A value in which one place holds another value: the difference is one operation at that place, and
that operation makes the same change to every value in which the place is there.

* `Json.at?`: what stands at a place that a path of names leads to.
* `Json.Replaced`: a value, and the same with another value at a place.
* `Patch.ofOctets?`: reads a patch that was sent.

Results:
* `betweenAt_of_replaced`: the difference stands at the place.
* `change?_replace_iff`: a replace goes through exactly if the place is there, and does no more.
-/

namespace FeedOperator

namespace Json

/-- What stands at the place that a path of names leads to. -/
def at? : List String → Json → Option Json
  | [], v => some v
  | name :: path, v => (v.get? name).bind (at? path)

/-- Two values that are equal but for a place within, where the first one holds `old` and the second
one `new`. Of members with one name the first one counts. -/
inductive Replaced (old new : Json) : List String → Json → Json → Prop
  | here : Replaced old new [] old new
  | member {path : List String} {name : String} {v w : Json} {front back : List (String × Json)}
    (fresh : ∀ m ∈ front, name ≠ m.1) (within : Replaced old new path v w) :
    Replaced old new (name :: path) (.obj (front ++ (name, v) :: back))
      (.obj (front ++ (name, w) :: back))

variable {old new v w : Json} {path : List String}

theorem lookup_split {name : String} {v : Json} {front back : List (String × Json)}
    (fresh : ∀ m ∈ front, name ≠ m.1) :
    (front ++ (name, v) :: back).lookup name = some v :=
  List.lookup_eq_some_iff.mpr ⟨front, back, rfl, fun m hm => bne_iff_ne.mpr (fresh m hm)⟩

theorem putMember_split {name : String} {front back : List (String × Json)}
    (fresh : ∀ m ∈ front, name ≠ m.1) :
    putMember name w (front ++ (name, v) :: back) = front ++ (name, w) :: back := by
  induction front with
  | nil => simp [putMember]
  | cons m front ih =>
    obtain ⟨k, u⟩ := m
    have hk : name ≠ k := fresh (k, u) List.mem_cons_self
    rw [List.cons_append, putMember, if_neg hk, ih fun m hm => fresh m (List.mem_cons_of_mem _ hm)]
    rfl

theorem exists_split {name : String} {v : Json} {members : List (String × Json)}
    (h : members.lookup name = some v) :
    ∃ front back, members = front ++ (name, v) :: back ∧ ∀ m ∈ front, name ≠ m.1 := by
  obtain ⟨front, back, rfl, fresh⟩ := List.lookup_eq_some_iff.mp h
  exact ⟨front, back, rfl, fun m hm => bne_iff_ne.mp (fresh m hm)⟩

/-- What is replaced stands at the place. -/
theorem Replaced.at?_eq (h : Replaced old new path v w) : v.at? path = some old := by
  induction h with
  | here => rfl
  | member fresh _ ih =>
    rw [at?, get?, lookup_split fresh]
    exact ih

/-- What stands at a place can be replaced. -/
theorem exists_replaced (new : Json) (h : v.at? path = some old) :
    ∃ w, Replaced old new path v w := by
  induction path generalizing v with
  | nil =>
    cases h
    exact ⟨new, .here⟩
  | cons name path ih =>
    obtain ⟨inner, hinner, hold⟩ := Option.bind_eq_some_iff.mp h
    cases v with
    | obj members =>
      obtain ⟨front, back, rfl, fresh⟩ := exists_split hinner
      obtain ⟨w, hw⟩ := ih hold
      exact ⟨_, .member fresh hw⟩
    | _ => cases hinner

end Json

namespace Patch

variable {old new v w : Json} {path : List String}

/-! ## Differences -/

theorem memberChanges_eq_nil {place : List String} {news olds : List (String × Json)}
    (same : ∀ m ∈ olds, news.lookup m.1 = some m.2) (distinct : ∀ m ∈ olds, m.2.Distinct) :
    memberChanges place news olds = [] :=
  memberChanges_self place news olds same (Json.membersDistinct_iff.mpr distinct)

/-- **The difference stands at the place.** -/
theorem betweenAt_of_replaced (h : Json.Replaced old new path v w) (distinct : v.Distinct)
    (place : List String) : betweenAt place v w = betweenAt (place ++ path) old new := by
  induction h generalizing place with
  | here => rw [List.append_nil]
  | @member path name v w front back fresh within ih =>
    obtain ⟨names, distinct⟩ := Json.distinct_obj_iff.mp distinct
    have names' : ((front ++ (name, w) :: back).map Prod.fst).Nodup := by
      simpa using names
    have found : ∀ m ∈ front ++ (name, w) :: back,
        (front ++ (name, w) :: back).lookup m.1 = some m.2 := fun m hm => lookup_of_nodup names' hm
    have front_same : memberChanges place (front ++ (name, w) :: back) front = [] :=
      memberChanges_eq_nil (fun m hm => found m (by simp [hm]))
        fun m hm => distinct m (by simp [hm])
    have back_same : memberChanges place (front ++ (name, w) :: back) back = [] :=
      memberChanges_eq_nil (fun m hm => found m (by simp [hm]))
        fun m hm => distinct m (by simp [hm])
    have none_new : (front ++ (name, w) :: back).filter
        (fun m => ((front ++ (name, v) :: back).lookup m.1).isNone) = [] := by
      refine List.filter_eq_nil_iff.mpr fun m hm hnone => ?_
      have hnames : m.1 ∈ (front ++ (name, v) :: back).map Prod.fst := by
        have := List.mem_map_of_mem (f := Prod.fst) hm
        simpa using this
      obtain ⟨m', hm', heq⟩ := List.mem_map.mp hnames
      have := lookup_of_nodup names hm'
      rw [heq] at this
      rw [this] at hnone
      cases hnone
    rw [betweenAt, none_new, memberChanges_append, front_same, memberChanges,
      Json.lookup_split fresh, back_same]
    simp [ih (distinct (name, v) (by simp))]

/-! ## Application -/

/-- A replace at a place that is there goes through. -/
theorem change?_of_replaced (h : Json.Replaced old new path v w) :
    change? (.replace new) path v = some w := by
  induction h with
  | here => rfl
  | @member path name v w front back fresh within ih =>
    cases path with
    | nil =>
      cases within
      simp [change?, changeAt?, Json.lookup_split fresh, Json.putMember_split fresh]
    | cons step path =>
      simp [change?, Json.lookup_split fresh, ih, Json.putMember_split fresh]

/-- A replace that goes through finds the place, if no step is the number of an item. -/
theorem replaced_of_change? (names : ∀ step ∈ path, ∀ n, position? n step = none)
    (h : change? (.replace new) path v = some w) : ∃ old, Json.Replaced old new path v w := by
  induction path generalizing v w with
  | nil =>
    cases h
    exact ⟨v, .here⟩
  | cons step path ih =>
    have number : ∀ n, position? n step = none := names step List.mem_cons_self
    have names : ∀ s ∈ path, ∀ n, position? n s = none := fun s hs =>
      names s (List.mem_cons_of_mem _ hs)
    cases v with
    | obj members =>
      cases path with
      | nil =>
        rw [change?, changeAt?] at h
        split at h
        · next there =>
          obtain ⟨old, hold⟩ := Option.isSome_iff_exists.mp there
          obtain ⟨front, back, rfl, fresh⟩ := Json.exists_split hold
          rw [Json.putMember_split fresh] at h
          cases h
          exact ⟨old, .member fresh .here⟩
        · cases h
      | cons next path =>
        change (do
          let inner ← members.lookup step
          let changed ← change? (.replace new) (next :: path) inner
          return Json.obj (Json.putMember step changed members)) = some w at h
        obtain ⟨inner, hinner, h⟩ := Option.bind_eq_some_iff.mp h
        obtain ⟨changed, hchanged, h⟩ := Option.bind_eq_some_iff.mp h
        obtain ⟨front, back, rfl, fresh⟩ := Json.exists_split hinner
        obtain ⟨old, within⟩ := ih names hchanged
        rw [Json.putMember_split fresh] at h
        cases h
        exact ⟨old, .member fresh within⟩
    | arr items => cases path <;> simp [change?, changeAt?, number] at h
    | _ => cases path <;> simp [change?, changeAt?] at h

/-- **A replace goes through exactly if the place is there.** -/
theorem change?_replace_iff (names : ∀ step ∈ path, ∀ n, position? n step = none) :
    change? (.replace new) path v = some w ↔ ∃ old, Json.Replaced old new path v w :=
  ⟨replaced_of_change? names, fun ⟨_, h⟩ => change?_of_replaced h⟩

/-! ## Reading -/

/-- A step of a path without its escapes: a tilde stands before each zero or one that was a tilde or
a slash. -/
def unescape? : List Char → Option (List Char)
  | [] => some []
  | '~' :: '0' :: rest => ('~' :: ·) <$> unescape? rest
  | '~' :: '1' :: rest => ('/' :: ·) <$> unescape? rest
  | '~' :: _ => none
  | c :: rest => (c :: ·) <$> unescape? rest

/-- The steps of a path that was sent. -/
def stepsOf? (text : String) : Option (List String) :=
  match Text.pieces '/' text.toList with
  | [] :: steps => steps.mapM fun step => String.ofList <$> unescape? step
  | _ => none

/-- An operation that was sent. -/
def opOfJson? (v : Json) : Option PatchOp := do
  let .str op ← v.get? "op" | none
  let .str text ← v.get? "path" | none
  let path ← stepsOf? text
  if op = "add" then return .add path (← v.get? "value")
  else if op = "remove" then return .remove path
  else if op = "replace" then return .replace path (← v.get? "value")
  else none

/-- A patch that was sent. -/
def ofJson? : Json → Option Patch
  | .arr items => items.mapM opOfJson?
  | _ => none

/-- The patch that octets spell. -/
def ofOctets? (octets : List UInt8) : Option Patch :=
  match (Document.ofOctets octets).decode Reading.asJson with
  | .ok v => ofJson? v
  | .error _ => none

end Patch

end FeedOperator
