import FeedOperator.Json.Decode
import FeedOperator.Proofs.Json.Number

/-!
# Values: what is written is read

The compact text of a value is read as that value, with numbers read as they were written and with
lists and objects that are nested too deep left unread. Nothing behind a value is taken for a part
of it, so items and members are read one after the other.

* `Json.seen`: a value as it is read from its text.

Results:
* `stringBody_escaped`: a string is read from its escaped text.
* `readsBack`: a value is read to its end.
* `ofText_compact`, `isSound_seen`: a text is read as a whole, and it is JSON.
-/

namespace FeedOperator

open Text Text.Utf8

/-! ## Strings -/

namespace Reading

/-- Four hexadecimal digits spell a control character. -/
theorem unit?_padded : ∀ n < 32,
    padded 4 (hexLower n) = ['0', '0', (n / 16).digitChar, (n % 16).digitChar] ∧
      unit? (some '0') (some '0') (some (n / 16).digitChar) (some (n % 16).digitChar) = some n ∧
      isHigh n = false ∧ isLow n = false := by
  decide

/-- One character is read from its escaped text. -/
theorem stringBody_escapeChar (c : Char) (sofar : List Char) (rest : List Symbol) :
    stringBody none (some sofar) ((Json.escapeChar c).map some ++ rest) =
      stringBody none (some (c :: sofar)) rest := by
  by_cases lettered : c ∈ ['\"', '\\', '\n', '\r', '\t', '\x08', '\x0c']
  · simp only [List.mem_cons, List.not_mem_nil, or_false] at lettered
    rcases lettered with rfl | rfl | rfl | rfl | rfl | rfl | rfl <;> rfl
  · simp only [List.mem_cons, List.not_mem_nil, or_false, not_or] at lettered
    by_cases control : c.toNat < 0x20
    · obtain ⟨hex, unit, high, low⟩ := unit?_padded c.toNat control
      simp [Json.escapeChar, lettered, control, hex, stringBody, unit, high, low, Spelled.add]
    · simp [Json.escapeChar, lettered, control, stringBody, Spelled.add]

/-- **A string is read from its escaped text.** -/
theorem stringBody_escaped (s sofar : List Char) (rest : List Symbol) :
    stringBody none (some sofar)
      ((s.flatMap Json.escapeChar).map some ++ some '\"' :: rest) =
      some (some (s.reverse ++ sofar), rest) := by
  induction s generalizing sofar with
  | nil => rfl
  | cons c s ih =>
    rw [List.flatMap_cons, List.map_append, List.append_assoc, stringBody_escapeChar, ih,
      List.reverse_cons, List.append_assoc, List.singleton_append]

theorem string?_quoted (s : String) (rest : List Symbol) :
    string? ((s.toList.flatMap Json.escapeChar).map some ++ some '\"' :: rest) =
      some (some s, rest) := by
  simp [string?, stringBody_escaped]

@[simp] theorem isSound_within (room : Nat) (v : Reading) :
    (within room v).isSound = v.isSound := by
  unfold within
  split <;> rfl

end Reading

/-! ## Values -/

namespace Json

mutual

/-- A value as it is read where `room` levels may be nested. -/
def seen (room : Nat) : Json → Reading
  | .null => .null
  | .bool b => .bool b
  | .num n => .ofNumeral (.ofInt n)
  | .real d => .ofNumeral d.numeral
  | .str s => .str (some s)
  | .arr items => .within room (.arr (seenItems (room - 1) items))
  | .obj members => .within room (.obj (seenMembers (room - 1) members))

/-- Items as they are read. -/
def seenItems (room : Nat) : List Json → List Reading
  | [] => []
  | v :: items => seen room v :: seenItems room items

/-- Members as they are read. -/
def seenMembers (room : Nat) : List (String × Json) → List (Option String × Reading)
  | [] => []
  | (k, v) :: members => (some k, seen room v) :: seenMembers room members

end

theorem seenItems_eq (room : Nat) (items : List Json) :
    seenItems room items = items.map (seen room) := by
  induction items with
  | nil => rfl
  | cons v items ih => rw [seenItems, ih, List.map_cons]

theorem seenMembers_eq (room : Nat) (members : List (String × Json)) :
    seenMembers room members = members.map fun m => (some m.1, m.2.seen room) := by
  induction members with
  | nil => rfl
  | cons m members ih => rw [seenMembers, ih, List.map_cons]

mutual

/-- What was written is JSON, whether or not it can be read. -/
theorem isSound_seen (room : Nat) : ∀ v : Json, (v.seen room).isSound = true
  | .null | .bool _ | .str _ => rfl
  | .num _ => by
    rw [seen]
    exact Reading.isSound_ofNumeral _
  | .real _ => by
    rw [seen]
    exact Reading.isSound_ofNumeral _
  | .arr items => by
    rw [seen, Reading.isSound_within, Reading.isSound, areSound_seen]
  | .obj members => by
    rw [seen, Reading.isSound_within, Reading.isSound, areSoundMembers_seen]

theorem areSound_seen (room : Nat) : ∀ items : List Json,
    Reading.areSound (seenItems room items) = true
  | [] => rfl
  | v :: items => by
    rw [seenItems, Reading.areSound, isSound_seen room v, areSound_seen room items, Bool.and_self]

theorem areSoundMembers_seen (room : Nat) : ∀ members : List (String × Json),
    Reading.areSoundMembers (seenMembers room members) = true
  | [] => rfl
  | (_, v) :: members => by
    rw [seenMembers, Reading.areSoundMembers, isSound_seen room v,
      areSoundMembers_seen room members, Bool.and_self]

end

end Json

/-! ## Beginnings and ends -/

namespace Reading

variable {c : Char} {rest : List Symbol}

/-- A character with which a value can begin. -/
def Opens (c : Char) : Prop :=
  isGap (some c) = false ∧ c ≠ ']'

theorem skipGaps_cons (h : isGap (some c) = false) (rest : List Symbol) :
    skipGaps (some c :: rest) = some c :: rest :=
  List.dropWhile_cons_of_neg (by simp [h])

/-- A digit begins nothing but a number. -/
theorem of_isDigit (h : isDigit c = true) :
    Opens c ∧ c ∉ ['n', 't', 'f', '\"', '[', '{', '-'] :=
  forall_ascii (P := fun c => isDigit c = true →
      (isGap (some c) = false ∧ c ≠ ']') ∧ c ∉ ['n', 't', 'f', '\"', '[', '{', '-'])
    (by decide) (isDigit_ascii h) h

theorem ends_cons (h : isDigit c = false ∧ c ≠ '.' ∧ c ≠ 'e' ∧ c ≠ 'E') (rest : List Symbol) :
    Ends (some c :: rest) := by
  intro d hd
  obtain rfl : c = d := by simpa using hd
  exact h

/-- A number is read to its end, with or without a sign. -/
theorem readValue_numeral {x : Numeral} (proper : x.Proper) (fuel room : Nat) (ends : Ends rest) :
    readValue (fuel + 1) room (x.chars.map some ++ rest) = (ofNumeral x, some rest) := by
  have reads := number_append proper ends
  unfold Numeral.chars
  cases sign : x.negative with
  | true =>
    rw [sign] at reads
    simpa [readValue, skipGaps_cons (c := '-') rfl] using reads
  | false =>
    obtain ⟨c, cs, eq⟩ := List.exists_cons_of_ne_nil proper.nonempty
    obtain ⟨opens, other⟩ := of_isDigit (proper.whole c (eq ▸ List.mem_cons_self))
    obtain ⟨tail, front⟩ : ∃ tail, x.unsigned = c :: tail :=
      ⟨_, by rw [Numeral.unsigned, eq, List.cons_append]⟩
    simp only [List.mem_cons, List.not_mem_nil, or_false, not_or] at other
    rw [sign, front] at reads
    simpa [readValue, front, skipGaps_cons opens.1, other] using reads

/-- A value that is read to its end from its text. Two steps for each character are enough: one
for the value that it may begin, and one for the items or members that go on behind it. -/
structure ReadsBack (v : Json) : Prop where
  eq : ∀ {fuel : Nat} (room : Nat) (rest : List Symbol), 2 * v.chars.length < fuel → Ends rest →
    readValue fuel room (v.chars.map some ++ rest) = (v.seen room, some rest)

/-- Any reading takes a step. -/
theorem ReadsBack.of_succ {v : Json} (h : ∀ (fuel room : Nat) (rest : List Symbol),
    2 * v.chars.length < fuel + 1 → Ends rest →
      readValue (fuel + 1) room (v.chars.map some ++ rest) = (v.seen room, some rest)) :
    ReadsBack v where
  eq {fuel} room rest enough ends := by
    cases fuel with
    | zero => cases enough
    | succ fuel => exact h fuel room rest enough ends

theorem readsBack_numeral {x : Numeral} (proper : x.Proper) {v : Json} (text : v.chars = x.chars)
    (seen : ∀ room, v.seen room = ofNumeral x) : ReadsBack v := by
  refine .of_succ fun _ room _ _ ends => ?_
  rw [text, seen]
  exact readValue_numeral proper _ room ends

/-! ## Items and members -/

section Items

variable {v : Json} {items : List Json} {fuel : Nat} (room : Nat) (rest : List Symbol)

theorem readItems_last (first : ReadsBack v) (enough : 2 * v.chars.length < fuel) :
    readItems (fuel + 1) room (v.chars.map some ++ some ']' :: rest) =
      ([v.seen room], some rest) := by
  rw [readItems, first.eq room _ enough (ends_cons (by decide) _)]
  rfl

theorem readItems_more (first : ReadsBack v) (enough : 2 * v.chars.length < fuel) :
    readItems (fuel + 1) room (v.chars.map some ++ some ',' :: rest) =
      (v.seen room :: (readItems fuel room rest).1, (readItems fuel room rest).2) := by
  rw [readItems, first.eq room _ enough (ends_cons (by decide) _)]
  rfl

/-- Items are read up to the closing bracket. -/
theorem readItems_chars (first : ReadsBack v) (others : ∀ w ∈ items, ReadsBack w)
    (enough : 2 * (v.chars.length + (Json.itemChars items).length) < fuel) :
    readItems fuel room (v.chars.map some ++ ((Json.itemChars items).map some ++ rest)) =
      (Json.seenItems room (v :: items), some rest) := by
  obtain ⟨fuel, rfl⟩ : ∃ n, fuel = n + 1 := ⟨fuel - 1, by omega⟩
  induction items generalizing v fuel with
  | nil =>
    simp only [Json.itemChars, List.length_singleton] at enough
    exact readItems_last room rest first (by omega)
  | cons w items ih =>
    obtain ⟨next, others⟩ := List.forall_mem_cons.mp others
    simp only [Json.itemChars, List.length_cons, List.length_append] at enough
    obtain ⟨fuel, rfl⟩ : ∃ n, fuel = n + 1 := ⟨fuel - 1, by omega⟩
    have tail := ih next others fuel (by omega)
    simp only [Json.itemChars, List.map_cons, List.map_append, List.cons_append, List.append_assoc]
    rw [readItems_more room _ first (by omega), tail]
    rfl

end Items

section Members

variable {k : String} {v : Json} {members : List (String × Json)} {fuel : Nat} (room : Nat)
  (rest : List Symbol)

/-- A member of an object with what stands behind it. -/
def memberText (k : String) (v : Json) (rest : List Symbol) : List Symbol :=
  (Json.quoted k).map some ++ some ':' :: (v.chars.map some ++ rest)

theorem readMembers_last (k : String) (first : ReadsBack v) (enough : 2 * v.chars.length < fuel) :
    readMembers (fuel + 1) room (memberText k v (some '}' :: rest)) =
      ([(some k, v.seen room)], some rest) := by
  have value := first.eq room (some '}' :: rest) enough (ends_cons (by decide) _)
  simp [memberText, readMembers, Json.quoted, skipGaps_cons (c := '\"') rfl,
    skipGaps_cons (c := ':') rfl, skipGaps_cons (c := '}') rfl, string?_quoted, value]

theorem readMembers_more (k : String) (first : ReadsBack v) (enough : 2 * v.chars.length < fuel) :
    readMembers (fuel + 1) room (memberText k v (some ',' :: rest)) =
      ((some k, v.seen room) :: (readMembers fuel room rest).1,
        (readMembers fuel room rest).2) := by
  have value := first.eq room (some ',' :: rest) enough (ends_cons (by decide) _)
  simp [memberText, readMembers, Json.quoted, skipGaps_cons (c := '\"') rfl,
    skipGaps_cons (c := ':') rfl, skipGaps_cons (c := ',') rfl, string?_quoted, value]

/-- Members are read up to the closing brace. -/
theorem readMembers_chars (first : ReadsBack v) (others : ∀ m ∈ members, ReadsBack m.2)
    (enough : 2 * (v.chars.length + (Json.memberChars members).length) < fuel) :
    readMembers fuel room (memberText k v ((Json.memberChars members).map some ++ rest)) =
      (Json.seenMembers room ((k, v) :: members), some rest) := by
  obtain ⟨fuel, rfl⟩ : ∃ n, fuel = n + 1 := ⟨fuel - 1, by omega⟩
  induction members generalizing k v fuel with
  | nil =>
    simp only [Json.memberChars, List.length_singleton] at enough
    exact readMembers_last room rest k first (by omega)
  | cons m members ih =>
    obtain ⟨l, w⟩ := m
    obtain ⟨next, others⟩ := List.forall_mem_cons.mp others
    simp only [Json.memberChars, List.length_cons, List.length_append] at enough
    obtain ⟨fuel, rfl⟩ : ∃ n, fuel = n + 1 := ⟨fuel - 1, by omega⟩
    have tail := ih (k := l) next others fuel (by dsimp only; omega)
    rw [memberText] at tail
    simp only [Json.memberChars, List.map_cons, List.map_append, List.cons_append,
      List.append_assoc]
    rw [readMembers_more room _ k first (by omega), tail]
    rfl

end Members

/-! ## All values -/

theorem readsBack_null : ReadsBack .null :=
  .of_succ fun _ _ _ _ _ => rfl

theorem readsBack_bool (b : Bool) : ReadsBack (.bool b) :=
  .of_succ fun _ _ _ _ _ => by cases b <;> rfl

theorem readsBack_str (s : String) : ReadsBack (.str s) := by
  refine .of_succ fun _ room rest _ _ => ?_
  simp [Json.chars, Json.quoted, Json.seen, readValue, skipGaps_cons (c := '\"') rfl,
    string?_quoted]

theorem exists_numeral_chars {x : Numeral} (proper : x.Proper) :
    ∃ c cs, x.chars = c :: cs ∧ Opens c := by
  unfold Numeral.chars
  cases x.negative with
  | true => exact ⟨'-', _, rfl, by decide, by decide⟩
  | false =>
    obtain ⟨c, cs, eq⟩ := List.exists_cons_of_ne_nil proper.nonempty
    exact ⟨c, _, by rw [Numeral.unsigned, eq]; rfl,
      (of_isDigit (proper.whole c (eq ▸ List.mem_cons_self))).1⟩

/-- No value begins with a blank or with the closing bracket of a list. -/
theorem exists_chars (v : Json) : ∃ c cs, v.chars = c :: cs ∧ Opens c := by
  cases v with
  | null => exact ⟨'n', _, rfl, by decide, by decide⟩
  | bool b => cases b <;> exact ⟨_, _, rfl, by decide, by decide⟩
  | num n =>
    rw [Json.chars, ← Numeral.chars_ofInt]
    exact exists_numeral_chars (Numeral.proper_ofInt n)
  | real d =>
    rw [Json.chars, d.jsonChars_eq]
    exact exists_numeral_chars d.proper_numeral
  | str s => exact ⟨'\"', _, rfl, by decide, by decide⟩
  | arr items => cases items <;> exact ⟨'[', _, rfl, by decide, by decide⟩
  | obj members => cases members <;> exact ⟨'{', _, rfl, by decide, by decide⟩

/-- A list with an item is read item by item. -/
theorem readValue_list (opens : Opens c) (fuel room : Nat) (s : List Symbol) :
    readValue (fuel + 1) room (some '[' :: some c :: s) =
      (within room (.arr (readItems fuel (room - 1) (some c :: s)).1),
        (readItems fuel (room - 1) (some c :: s)).2) := by
  simp [readValue, skipGaps_cons (c := '[') rfl, skipGaps_cons opens.1, opens.2]

/-- An object with a member is read member by member. -/
theorem readValue_object (fuel room : Nat) (s : List Symbol) :
    readValue (fuel + 1) room (some '{' :: some '\"' :: s) =
      (within room (.obj (readMembers fuel (room - 1) (some '\"' :: s)).1),
        (readMembers fuel (room - 1) (some '\"' :: s)).2) :=
  rfl

theorem readsBack_arr {items : List Json} (all : ∀ v ∈ items, ReadsBack v) :
    ReadsBack (.arr items) := by
  refine .of_succ fun fuel room rest enough _ => ?_
  cases items with
  | nil => rfl
  | cons v items =>
    obtain ⟨first, others⟩ := List.forall_mem_cons.mp all
    simp only [Json.chars, List.length_cons, List.length_append] at enough
    have left : 2 * (v.chars.length + (Json.itemChars items).length) < fuel := by omega
    have inner := readItems_chars (room - 1) rest first others left
    obtain ⟨c, cs, eq, opens⟩ := exists_chars v
    rw [eq, List.map_cons, List.cons_append] at inner
    simp only [Json.chars, eq, List.map_cons, List.map_append, List.cons_append, List.append_assoc]
    rw [readValue_list opens, inner]
    rfl

theorem readsBack_obj {members : List (String × Json)} (all : ∀ m ∈ members, ReadsBack m.2) :
    ReadsBack (.obj members) := by
  refine .of_succ fun fuel room rest enough _ => ?_
  cases members with
  | nil => rfl
  | cons m members =>
    obtain ⟨k, v⟩ := m
    obtain ⟨first, others⟩ := List.forall_mem_cons.mp all
    simp only [Json.chars, List.length_cons, List.length_append] at enough
    have left : 2 * (v.chars.length + (Json.memberChars members).length) < fuel := by omega
    have inner := readMembers_chars (room - 1) rest (k := k) first others left
    rw [memberText, Json.quoted] at inner
    simp only [Json.chars, Json.quoted, List.map_cons, List.map_append, List.cons_append,
      List.append_assoc] at inner ⊢
    rw [readValue_object, inner]
    rfl

mutual

/-- **A value is read to its end.** -/
theorem readsBack : ∀ v : Json, ReadsBack v
  | .null => readsBack_null
  | .bool b => readsBack_bool b
  | .num n => readsBack_numeral (v := .num n) (Numeral.proper_ofInt n)
    (Numeral.chars_ofInt n).symm fun _ => rfl
  | .real d => readsBack_numeral (v := .real d) d.proper_numeral d.jsonChars_eq fun _ => rfl
  | .str s => readsBack_str s
  | .arr items => readsBack_arr (readsBack_items items)
  | .obj members => readsBack_obj (readsBack_members members)

theorem readsBack_items : ∀ items : List Json, ∀ v ∈ items, ReadsBack v
  | [] => List.forall_mem_nil _
  | v :: items => List.forall_mem_cons.mpr ⟨readsBack v, readsBack_items items⟩

theorem readsBack_members : ∀ members : List (String × Json), ∀ m ∈ members, ReadsBack m.2
  | [] => List.forall_mem_nil _
  | (_, v) :: members => List.forall_mem_cons.mpr ⟨readsBack v, readsBack_members members⟩

end

end Reading

/-! ## Whole texts -/

/-- **A text is read as a whole**: the value that was written, and nothing behind it. -/
theorem Document.ofText_compact (v : Json) :
    ofText v.compact = ⟨v.seen Reading.levels, true⟩ := by
  have enough : 2 * v.chars.length < 2 * (v.chars.map some ++ []).length + 2 := by simp
  have value := (Reading.readsBack v).eq Reading.levels [] enough (fun c h => by cases h)
  rw [List.append_nil] at value
  rw [ofText, Json.compact, String.toList_ofList, ofSymbols, Reading.read, value]
  rfl

end FeedOperator
