import FeedOperator.Affected

/-!
# Agendas

An agenda says when each object is due for its next pass. An object has one entry, and the earliest
time that was put down for it counts.

* `Agenda.note`: puts a time down.
* `Agenda.takeDue?`: takes the first entry that is due.

Results:
* `dueAt_note`: a note makes its object due no later, and leaves all others alone.
-/

namespace FeedOperator

/-- When objects are due, in seconds. -/
structure Agenda where
  entries : List (ObjectKey × Nat) := []

namespace Agenda

/-- When an object is due. -/
def dueAt (a : Agenda) (key : ObjectKey) : Option Nat :=
  a.entries.lookup key

/-- Puts a time down among some entries. -/
def noteIn (key : ObjectKey) (time : Nat) : List (ObjectKey × Nat) → List (ObjectKey × Nat)
  | [] => [(key, time)]
  | (k, t) :: rest =>
    if key = k then (k, min t time) :: rest else (k, t) :: noteIn key time rest

/-- Puts a time down. -/
def note (a : Agenda) (key : ObjectKey) (time : Nat) : Agenda :=
  ⟨noteIn key time a.entries⟩

/-- Puts one time down for many objects. -/
def noteAll (a : Agenda) (keys : List ObjectKey) (time : Nat) : Agenda :=
  keys.foldl (·.note · time) a

/-- Takes the first entry that is due out of some entries. -/
def takeDueFrom? (now : Nat) :
    List (ObjectKey × Nat) → Option (ObjectKey × List (ObjectKey × Nat))
  | [] => none
  | (k, t) :: rest =>
    if t ≤ now then some (k, rest)
    else (takeDueFrom? now rest).map fun (k', rest) => (k', (k, t) :: rest)

/-- Takes the first entry that is due. -/
def takeDue? (a : Agenda) (now : Nat) : Option (ObjectKey × Agenda) :=
  (takeDueFrom? now a.entries).map fun (k, rest) => (k, ⟨rest⟩)

theorem lookup_noteIn (key k : ObjectKey) (time : Nat) (entries : List (ObjectKey × Nat)) :
    (noteIn key time entries).lookup k =
      if k = key then some ((entries.lookup k).elim time (min · time)) else entries.lookup k := by
  induction entries with
  | nil =>
    by_cases h : k = key
    · simp [noteIn, h]
    · have hb : (k == key) = false := by simp [h]
      simp [noteIn, h, List.lookup_cons, hb]
  | cons e rest ih =>
    obtain ⟨k', t⟩ := e
    by_cases hk : key = k'
    · subst hk
      by_cases h : k = key
      · simp [noteIn, h]
      · have hb : (k == key) = false := by simp [h]
        simp [noteIn, h, List.lookup_cons, hb]
    · by_cases h : k = k'
      · subst h
        simp [noteIn, hk, Ne.symm hk]
      · have hb : (k == k') = false := by simp [h]
        simp [noteIn, hk, List.lookup_cons, hb, ih]

theorem dueAt_note (a : Agenda) (key k : ObjectKey) (time : Nat) :
    (a.note key time).dueAt k =
      if k = key then some ((a.dueAt k).elim time (min · time)) else a.dueAt k :=
  lookup_noteIn key k time a.entries

end Agenda

end FeedOperator
