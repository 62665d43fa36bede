import FeedOperator.Proofs.Url.Form
import FeedOperator.Url.Parse

/-!
# The query of a URL

What putting another query into a URL does to the text of the URL. The characters of written values
and of the signs between them stand in a query as they are.

* `isQueryChar`: the characters of values and of what stands between them.
* `encode_eq_self`: a text of characters that a part holds is written as it is.

Results:
* `segments_of_parse`: a URL of the web that was read has a path of segments. Such a path takes no
  part in what happens to the query.
* `withQuery_eq`: a query of such characters is put in as it is, and nothing else changes.
* `query_of_text_eq`: the text of a URL tells the query.
-/

namespace FeedOperator.Url

open Text

/-! ## What a query holds -/

/-- Whether a character may stand in a query of values: in a value, or between two of them. -/
def isQueryChar (c : Char) : Bool :=
  isFormChar c || c ∈ ['&', '=', ',']

theorem isQueryChar_ascii {c : Char} (h : isQueryChar c = true) : c.toNat < 128 := by
  simp only [isQueryChar, Bool.or_eq_true, decide_eq_true_eq, List.mem_cons, List.not_mem_nil,
    or_false] at h
  obtain form | rfl | rfl | rfl := h
  · exact isFormChar_ascii form
  all_goals decide

theorem held_of_isQueryChar {c : Char} (h : isQueryChar c = true) :
    isControl c = false ∧ inSpecialQuery c = false :=
  forall_ascii (P := fun c => isQueryChar c = true → isControl c = false ∧ inSpecialQuery c = false)
    (by decide) (isQueryChar_ascii h) h

theorem encode_eq_self {cls : Char → Bool} {s : List Char}
    (h : ∀ c ∈ s, isControl c = false ∧ cls c = false) : encode cls s = s := by
  induction s with
  | nil => rfl
  | cons c s ih =>
    obtain ⟨control, outside⟩ := h c List.mem_cons_self
    have rest : encode cls s = s := ih fun d hd => h d (List.mem_cons_of_mem _ hd)
    rw [encode] at rest ⊢
    rw [List.flatMap_cons, rest, control, outside]
    rfl

/-! ## What was read -/

/-- The schemes that are requested over HTTP are known ones. -/
theorem isSpecial_of_isHttp {u : Url} (http : u.isHttp = true) : isSpecial u.scheme = true := by
  simp only [isHttp, Bool.or_eq_true, decide_eq_true_eq] at http
  obtain scheme | scheme := http <;> rw [scheme] <;> decide

section

variable {ε α β : Type} {P : β → Prop} {x y : Except ε β}

theorem forall_ok_bind {x : Except ε α} {f : α → Except ε β} (h : ∀ a b, f a = .ok b → P b) :
    ∀ b, x >>= f = .ok b → P b := by
  intro b eq
  cases x with
  | error e => cases eq
  | ok a => exact h a b eq

theorem forall_ok_throw {e : ε} {f : α → Except ε β} : ∀ b, (throw e >>= f) = .ok b → P b :=
  fun _ eq => nomatch eq

theorem forall_ok_ite {c : Prop} [Decidable c] (hx : ∀ b, x = .ok b → P b)
    (hy : ∀ b, y = .ok b → P b) : ∀ b, (if c then x else y) = .ok b → P b := by
  split <;> assumption

end

/-- What stands behind two slashes has the scheme in front of them and a path of segments. -/
theorem authority_ok {scheme s : List Char} :
    ∀ u, authority scheme s = .ok u → u.scheme = scheme ∧ ∃ names, u.path = .segments names := by
  unfold authority
  dsimp only
  refine forall_ok_ite forall_ok_throw (forall_ok_ite forall_ok_throw ?_)
  refine forall_ok_ite (forall_ok_bind fun host => ?_) (forall_ok_bind fun host => ?_)
  all_goals
    refine forall_ok_ite forall_ok_throw (forall_ok_bind fun port => ?_)
    refine forall_ok_ite forall_ok_throw ?_
    rintro u ⟨⟩
    exact ⟨rfl, _, rfl⟩

theorem file_ok {scheme s : List Char} :
    ∀ u, file scheme s = .ok u → ∃ names, u.path = .segments names := by
  unfold file
  refine forall_ok_bind fun place => ?_
  rintro u ⟨⟩
  exact ⟨_, rfl⟩

theorem other_ok {scheme s : List Char} : ∀ u, other scheme s = .ok u → u.scheme = scheme := by
  intro u read
  unfold other at read
  split at read
  · exact (authority_ok u read).1
  · cases read
    rfl

/-- **A URL of the web has a path of segments** if it was read. -/
theorem segments_of_parse {text : String} {u : Url} (read : parse none text = .ok u)
    (http : u.isHttp = true) : ∃ names, u.path = .segments names := by
  unfold parse at read
  dsimp only at read
  split at read
  · cases read
  next scheme rest _ =>
    split at read
    · exact file_ok u read
    split at read
    · exact (authority_ok u read).2
    next unknown =>
      have same : u.scheme = scheme := other_ok u read
      exact absurd (same ▸ isSpecial_of_isHttp http) unknown

/-! ## Another query -/

/-- A query of values is put in as it is, and nothing else of the URL changes. -/
theorem withQuery_eq {u : Url} {names : List (List Char)} (segments : u.path = .segments names)
    {query : Option (List Char)} (plain : ∀ q ∈ query, ∀ c ∈ q, isQueryChar c = true) :
    u.withQuery query = { u with query := query } := by
  cases query with
  | none =>
    rw [withQuery, tidyPath, segments]
  | some q =>
    have held : ∀ c ∈ q, isControl c = false ∧
        (if isSpecial u.scheme then inSpecialQuery else inQuery) c = false := by
      intro c mem
      obtain ⟨control, outside⟩ := held_of_isQueryChar (plain q rfl c mem)
      refine ⟨control, ?_⟩
      split
      · exact outside
      · exact (Bool.or_eq_false_iff.1 outside).1
    simp only [withQuery, encode_eq_self held]

/-- Two URLs with the same text, alike but for the query, have the same query. -/
theorem query_of_text_eq {u : Url} {query query' : Option (List Char)}
    (same : Url.text { u with query := query } = Url.text { u with query := query' }) :
    query = query' := by
  have chars : Url.chars { u with query := query } = Url.chars { u with query := query' } :=
    String.ofList_injective same
  have parts : partChars '?' query = partChars '?' query' :=
    List.append_cancel_left (List.append_cancel_right chars)
  cases query with
  | none => cases query' with
    | none => rfl
    | some q' => cases parts
  | some q => cases query' with
    | none => cases parts
    | some q' => exact congrArg some (List.cons.inj parts).2

end FeedOperator.Url
