/-!
# Separated text

`pieces sep s` cuts `s` at every `sep`; `joined sep` puts the pieces together again.

Results:
* `joined_pieces`: nothing is lost by cutting.
* `pieces_joined`: pieces without the separator come back as they were.
* `mem_joined`: nothing but the separator comes in between.
-/

namespace FeedOperator.Text

/-- The stretches between separators, always at least one. -/
def pieces (sep : Char) : List Char → List (List Char)
  | [] => [[]]
  | c :: rest =>
    if c = sep then [] :: pieces sep rest
    else match pieces sep rest with
      | [] => [[c]]
      | p :: ps => (c :: p) :: ps

/-- The pieces with one separator between any two. -/
def joined (sep : List Char) : List (List Char) → List Char
  | [] => []
  | [p] => p
  | p :: q :: ps => p ++ sep ++ joined sep (q :: ps)

theorem pieces_ne_nil (sep : Char) (s : List Char) : pieces sep s ≠ [] := by
  cases s with
  | nil => simp [pieces]
  | cons c r =>
    unfold pieces
    split
    · simp
    · split <;> simp

theorem joined_pieces (sep : Char) (s : List Char) : joined [sep] (pieces sep s) = s := by
  induction s with
  | nil => rfl
  | cons c r ih =>
    unfold pieces
    split
    · next h =>
      cases hp : pieces sep r with
      | nil => exact absurd hp (pieces_ne_nil sep r)
      | cons p ps => rw [hp] at ih; simp [joined, ih, h]
    · cases hp : pieces sep r with
      | nil => exact absurd hp (pieces_ne_nil sep r)
      | cons p ps =>
        rw [hp] at ih
        cases ps with
        | nil => simpa [joined] using ih
        | cons q qs => simpa [joined] using ih

/-- A text without the separator is one piece. -/
theorem pieces_of_notMem {sep : Char} {s : List Char} (h : sep ∉ s) : pieces sep s = [s] := by
  induction s with
  | nil => rfl
  | cons c r ih =>
    simp only [List.mem_cons, not_or] at h
    simp [pieces, Ne.symm h.1, ih h.2]

/-- Cutting goes piece by piece. -/
theorem pieces_append {sep : Char} {s : List Char} (h : sep ∉ s) (t : List Char) :
    pieces sep (s ++ sep :: t) = s :: pieces sep t := by
  induction s with
  | nil => simp [pieces]
  | cons c r ih =>
    simp only [List.mem_cons, not_or] at h
    simp [pieces, Ne.symm h.1, ih h.2]

theorem pieces_joined {sep : Char} (ps : List (List Char)) (hne : ps ≠ [])
    (h : ∀ p ∈ ps, sep ∉ p) : pieces sep (joined [sep] ps) = ps := by
  induction ps with
  | nil => exact absurd rfl hne
  | cons p qs ih =>
    cases qs with
    | nil => exact pieces_of_notMem (h p (by simp))
    | cons q rs =>
      have hp : sep ∉ p := h p (by simp)
      have := ih (by simp) (fun x hx => h x (by simp [List.mem_cons.1 hx]))
      simp only [joined, List.append_assoc, List.singleton_append]
      rw [pieces_append hp, this]

theorem mem_joined {sep : List Char} {ps : List (List Char)} {c : Char} (h : c ∈ joined sep ps) :
    c ∈ sep ∨ ∃ p ∈ ps, c ∈ p := by
  induction ps with
  | nil => cases h
  | cons p qs ih =>
    cases qs with
    | nil => exact .inr ⟨p, List.mem_cons_self, h⟩
    | cons q rs =>
      simp only [joined, List.mem_append] at h
      obtain (here | between) | later := h
      · exact .inr ⟨p, List.mem_cons_self, here⟩
      · exact .inl between
      · exact (ih later).imp_right fun ⟨r, mem, inside⟩ => ⟨r, List.mem_cons_of_mem _ mem, inside⟩

end FeedOperator.Text
