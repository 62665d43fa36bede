import FeedOperator.Proofs.Json.Record
import FeedOperator.Proofs.Json.Text
import Mathlib.Data.List.Forall2
import Mathlib.Data.List.Nodup
import Mathlib.Data.List.Pairwise
import Mathlib.Data.List.Perm.Basic
import Mathlib.Logic.Relation

/-!
# The ways to spell a value

The text of a structure does not have to be the one that would be written. Its members stand in any
order, there may be others that the structure does not know, and one that holds its default may be
left out. The same goes for the structures within.

* `Layout`: what is known of the values that spell a type: the names of their members, the usual
  values of those that may be missing, and the layouts of what is within.
* `Respelling`: one change that a reader does not mind; `Respelled`: any number of them.
* `Reads`: what the members of an object put into a structure, whatever their order; `Assembles`:
  members that make up a whole one.

Results:
* `asRecord_obj_iff`: a structure is read iff its members put it together.
* `keeps_object`, `keeps_list`: a respelled value is read as the same.
-/

namespace FeedOperator

/-! ## Layouts -/

/-- How the values that spell a type are made up. -/
inductive Layout where
  /-- A value that is read as it stands. -/
  | plain
  /-- A list of values of one layout. -/
  | list (item : Layout)
  /-- An object: the names of its members, the value of one that is missing, and what a member is
  made up of. -/
  | object (members : List (String × Option Json × Layout))

/-- The members of an object, each with its usual value and its layout. -/
abbrev Layout.Table := List (String × Option Json × Layout)

/-- One change to the spelling of a value. Members are changed where they stand in front, since
they may be put in any order before. -/
inductive Respelling : Layout → Json → Json → Prop where
  /-- Members are put in another order. -/
  | order {table : Layout.Table} {members members' : List (String × Json)} :
    members.Perm members' → Respelling (.object table) (.obj members) (.obj members')
  /-- A member is added whose name is unknown. -/
  | add {table : Layout.Table} {members : List (String × Json)} {k : String} (v : Json) :
    k ∉ table.map Prod.fst → Respelling (.object table) (.obj members) (.obj ((k, v) :: members))
  /-- A member is left out that holds its usual value. -/
  | drop {table : Layout.Table} {members : List (String × Json)} {k : String} {v : Json}
      {inner : Layout} :
    (k, some v, inner) ∈ table →
      Respelling (.object table) (.obj ((k, v) :: members)) (.obj members)
  /-- A member is spelled in another way. -/
  | member {table : Layout.Table} {members : List (String × Json)} {k : String}
      {usual : Option Json} {inner : Layout} {v w : Json} :
    (k, usual, inner) ∈ table → Respelling inner v w →
      Respelling (.object table) (.obj ((k, v) :: members)) (.obj ((k, w) :: members))
  /-- An item is spelled in another way. -/
  | item {inner : Layout} {front back : List Json} {v w : Json} :
    Respelling inner v w →
      Respelling (.list inner) (.arr (front ++ v :: back)) (.arr (front ++ w :: back))

/-- Any number of changes to the spelling of a value. -/
def Respelled (layout : Layout) : Json → Json → Prop :=
  Relation.ReflTransGen (Respelling layout)

/-- Whether a reader reads a respelled value as the same. -/
def Keeps {α : Type} (layout : Layout) (read : Reading → Decoded α) : Prop :=
  ∀ ⦃v w : Json⦄, Respelling layout v w →
    ∀ (room : Nat) (x : α), read (v.seen room) = .ok x → read (w.seen room) = .ok x

variable {α σ : Type}

theorem keeps_plain (read : Reading → Decoded α) : Keeps .plain read := by
  intro v w respelling
  cases respelling

/-- What one change keeps, all of them do. -/
theorem Keeps.respelled {layout : Layout} {read : Reading → Decoded α} (keeps : Keeps layout read)
    {v w : Json} (respelled : Respelled layout v w) {room : Nat} {x : α}
    (h : read (v.seen room) = .ok x) : read (w.seen room) = .ok x := by
  induction respelled with
  | refl => exact h
  | tail _ respelling ih => exact keeps respelling room x ih

/-- Whether a value, where there is room for it, is read as a certain one. -/
def ReadOnlyAs {α : Type} (read : Reading → Decoded α) (v : Json) (x : α) : Prop :=
  ∀ ⦃room : Nat⦄ ⦃y : α⦄, read (v.seen room) = .ok y → y = x

theorem ReadOnlyAs.of_eq {read : Reading → Decoded α} {v : Json} {x : α}
    (h : ∀ room, read (v.seen room) = .ok x) : ReadOnlyAs read v x :=
  fun room _ hy => Except.ok.inj (hy.symm.trans (h room))

/-! ## What members put -/

/-- What a structure is made of: what each of some members puts. -/
abbrev Puts (σ : Type) := List (String × (σ → σ))

/-- The structure that members put together. -/
def Puts.onto (start : σ) (puts : Puts σ) : σ :=
  puts.foldl (fun s put => put.2 s) start

/-- Fields of which one can be put before or after the other. -/
def Field.Apart (f g : Field σ) : Prop :=
  ∀ ⦃r r' : Reading⦄ ⦃a b : σ → σ⦄, f.read r = .ok a → g.read r' = .ok b → ∀ s, a (b s) = b (a s)

instance : Std.Symm (Field.Apart (σ := σ)) where
  symm _ _ h _ _ _ _ ha hb s := (h hb ha s).symm

namespace Reading

/-- What the members of an object put into a structure. A member with an unknown name puts
nothing. -/
inductive Reads (fields : List (Field σ)) : List (Option String × Reading) → Puts σ → Prop where
  | nil : Reads fields [] []
  | unknown {k : String} {v : Reading} {members : List (Option String × Reading)} {puts : Puts σ} :
    fields.find? (·.name == k) = none → v.isSound = true → Reads fields members puts →
      Reads fields ((some k, v) :: members) puts
  | known {k : String} {v : Reading} {members : List (Option String × Reading)} {puts : Puts σ}
      {f : Field σ} {put : σ → σ} :
    fields.find? (·.name == k) = some f → f.read v = .ok put → Reads fields members puts →
      Reads fields ((some k, v) :: members) ((k, put) :: puts)

/-- Members that put a structure together: each known one once, and the required ones are there. -/
structure Assembles (fields : List (Field σ)) (start x : σ)
    (members : List (Option String × Reading)) (puts : Puts σ) : Prop where
  reads : Reads fields members puts
  once : (puts.map Prod.fst).Nodup
  required : ∀ f ∈ fields, f.presence = .required → f.name ∈ puts.map Prod.fst
  whole : puts.onto start = x

variable {fields : List (Field σ)} {members members' : List (Option String × Reading)}
  {puts puts' : Puts σ} {start x : σ}

/-- One member: either its name is unknown and it is skipped, or a field reads it that has not been
seen. -/
theorem recordStep_iff {seen : List String} {s : σ} {k : String} {v : Reading}
    {next : List String × σ} :
    recordStep fields (seen, s) (some k, v) = .ok next ↔
      (fields.find? (·.name == k) = none ∧ v.isSound = true ∧ next = (seen, s)) ∨
        ∃ f put, fields.find? (·.name == k) = some f ∧ k ∉ seen ∧ f.read v = .ok put ∧
          next = (k :: seen, put s) := by
  cases found : fields.find? (·.name == k) with
  | none =>
    simp only [recordStep, found, true_and, reduceCtorEq, false_and, exists_false, or_false]
    unfold skip
    split
    · next sound =>
      constructor
      · intro h
        exact ⟨sound, (Except.ok.inj h).symm⟩
      · rintro ⟨-, rfl⟩
        rfl
    · next unsound =>
      constructor
      · intro h
        cases h
      · rintro ⟨sound, -⟩
        exact absurd sound unsound
  | some f =>
    simp only [recordStep, found, reduceCtorEq, false_and, false_or, Option.some.injEq]
    by_cases again : k ∈ seen
    · rw [if_pos again]
      constructor
      · intro h
        cases h
      · rintro ⟨_, _, _, new, _⟩
        exact absurd again new
    · rw [if_neg again, Decoded.bind_eq_ok_iff]
      constructor
      · rintro ⟨put, read, eq⟩
        exact ⟨f, put, rfl, again, read, (Except.ok.inj eq).symm⟩
      · rintro ⟨_, put, rfl, -, read, rfl⟩
        exact ⟨put, read, rfl⟩

theorem foldlM_recordStep_iff {seen : List String} {s : σ} {state : List String × σ} :
    members.foldlM (recordStep fields) (seen, s) = .ok state ↔
      ∃ puts, Reads fields members puts ∧ (puts.map Prod.fst).Nodup ∧
        (∀ k ∈ puts.map Prod.fst, k ∉ seen) ∧
        state = ((puts.map Prod.fst).reverse ++ seen, puts.onto s) := by
  induction members generalizing seen s with
  | nil =>
    constructor
    · intro h
      cases h
      exact ⟨[], .nil, List.nodup_nil, List.forall_mem_nil _, rfl⟩
    · rintro ⟨puts, reads, -, -, rfl⟩
      cases reads
      rfl
  | cons m members ih =>
    rw [Decoded.foldlM_cons_eq_ok_iff]
    constructor
    · rintro ⟨next, step, rest⟩
      obtain ⟨_ | k, v⟩ := m
      · cases step
      obtain ⟨found, sound, rfl⟩ | ⟨f, put, found, new, read, rfl⟩ := recordStep_iff.mp step
      · obtain ⟨puts, reads, once, fresh, rfl⟩ := ih.mp rest
        exact ⟨puts, .unknown found sound reads, once, fresh, rfl⟩
      · obtain ⟨puts, reads, once, fresh, rfl⟩ := ih.mp rest
        have apart : k ∉ puts.map Prod.fst := fun hk => fresh k hk List.mem_cons_self
        refine ⟨(k, put) :: puts, .known found read reads, List.nodup_cons.mpr ⟨apart, once⟩,
          List.forall_mem_cons.mpr ⟨new, fun l hl => ?_⟩, by simp [Puts.onto]⟩
        exact fun seen => fresh l hl (List.mem_cons_of_mem k seen)
    · rintro ⟨puts, reads, once, fresh, rfl⟩
      cases reads with
      | unknown found sound reads =>
        exact ⟨_, recordStep_iff.mpr (.inl ⟨found, sound, rfl⟩),
          ih.mpr ⟨puts, reads, once, fresh, rfl⟩⟩
      | known found read reads =>
        obtain ⟨apart, once⟩ := List.nodup_cons.mp once
        obtain ⟨new, fresh⟩ := List.forall_mem_cons.mp fresh
        refine ⟨_, recordStep_iff.mpr (.inr ⟨_, _, found, new, read, rfl⟩),
          ih.mpr ⟨_, reads, once, fun l hl => ?_, by simp [Puts.onto]⟩⟩
        exact List.not_mem_cons_of_ne_of_not_mem (ne_of_mem_of_not_mem hl apart) (fresh l hl)

/-- **A structure is read iff its members put it together.** -/
theorem asRecord_obj_iff :
    asRecord fields start (.obj members) = .ok x ↔
      ∃ puts, Assembles fields start x members puts := by
  have complete : ∀ puts : Puts σ,
      (fields.all fun f => f.presence != .required ||
        ((puts.map Prod.fst).reverse ++ []).contains f.name) = true ↔
      ∀ f ∈ fields, f.presence = .required → f.name ∈ puts.map Prod.fst := fun puts => by
    simp [List.all_eq_true, or_iff_not_imp_left]
  unfold asRecord
  rw [Decoded.bind_eq_ok_iff]
  constructor
  · rintro ⟨⟨seen, value⟩, fold, all⟩
    obtain ⟨puts, reads, once, -, eq⟩ := foldlM_recordStep_iff.mp fold
    cases eq
    dsimp only at all
    split at all
    · next required =>
      exact ⟨puts, reads, once, (complete puts).mp required, Except.ok.inj all⟩
    · cases all
  · rintro ⟨puts, reads, once, required, rfl⟩
    refine ⟨_, foldlM_recordStep_iff.mpr ⟨puts, reads, once, by simp, rfl⟩, ?_⟩
    exact if_pos ((complete puts).mpr required)

/-- Nothing is read of an object for which there is no room. -/
theorem asRecord_seen_iff {room : Nat} {members : List (String × Json)} :
    asRecord fields start ((Json.obj members).seen room) = .ok x ↔
      room ≠ 0 ∧ ∃ puts, Assembles fields start x (Json.seenMembers (room - 1) members) puts := by
  rw [Json.seen, within, ← asRecord_obj_iff]
  by_cases deep : room = 0
  · rw [if_pos deep]
    exact ⟨fun h => (nomatch h), fun ⟨room_left, _⟩ => absurd deep room_left⟩
  · rw [if_neg deep]
    exact ⟨fun h => ⟨deep, h⟩, fun ⟨_, h⟩ => h⟩

theorem Reads.of_known {k : String} {v : Reading} {f : Field σ}
    (reads : Reads fields ((some k, v) :: members) puts)
    (known : fields.find? (·.name == k) = some f) :
    ∃ put puts', f.read v = .ok put ∧ Reads fields members puts' ∧ puts = (k, put) :: puts' := by
  cases reads with
  | unknown found _ _ => exact absurd (found.symm.trans known) (by simp)
  | known found read reads =>
    obtain rfl := Option.some.inj (found.symm.trans known)
    exact ⟨_, _, read, reads, rfl⟩

/-- In another order members put the same, in another order. -/
theorem Reads.perm (perm : members.Perm members') (reads : Reads fields members puts) :
    ∃ puts', puts.Perm puts' ∧ Reads fields members' puts' := by
  induction perm generalizing puts with
  | nil => exact ⟨puts, .refl puts, reads⟩
  | cons m _ ih =>
    cases reads with
    | unknown found sound reads =>
      obtain ⟨puts', perm, reads⟩ := ih reads
      exact ⟨puts', perm, .unknown found sound reads⟩
    | known found read reads =>
      obtain ⟨puts', perm, reads⟩ := ih reads
      exact ⟨_, perm.cons _, .known found read reads⟩
  | swap m m' _ =>
    cases reads with
    | unknown found sound reads =>
      cases reads with
      | unknown found' sound' reads =>
        exact ⟨_, .refl _, .unknown found' sound' (.unknown found sound reads)⟩
      | known found' read' reads =>
        exact ⟨_, .refl _, .known found' read' (.unknown found sound reads)⟩
    | known found read reads =>
      cases reads with
      | unknown found' sound' reads =>
        exact ⟨_, .refl _, .unknown found' sound' (.known found read reads)⟩
      | known found' read' reads =>
        exact ⟨_, .swap _ _ _, .known found' read' (.known found read reads)⟩
  | trans _ _ ih ih' =>
    obtain ⟨puts₁, perm₁, reads₁⟩ := ih reads
    obtain ⟨puts₂, perm₂, reads₂⟩ := ih' reads₁
    exact ⟨puts₂, perm₁.trans perm₂, reads₂⟩

/-- All that is put comes from a field of that name. -/
theorem Reads.exists_field (reads : Reads fields members puts) {put : String × (σ → σ)}
    (h : put ∈ puts) : ∃ f ∈ fields, f.name = put.1 ∧ ∃ r, f.read r = .ok put.2 := by
  induction reads with
  | nil => cases h
  | unknown _ _ _ ih => exact ih h
  | known found read _ ih =>
    rcases List.mem_cons.mp h with rfl | h
    · exact ⟨_, List.mem_of_find?_eq_some found, by simpa using List.find?_some found, _, read⟩
    · exact ih h

/-- What is put once for each name can be put in any order. -/
theorem Reads.onto_perm (apart : fields.Pairwise Field.Apart) (reads : Reads fields members puts)
    (once : (puts.map Prod.fst).Nodup) (perm : puts.Perm puts') (start : σ) :
    puts.onto start = puts'.onto start := by
  refine perm.foldl_eq' (fun p hp q hq s => ?_) start
  by_cases same : p = q
  · rw [same]
  · obtain ⟨f, hf, nameF, r, readF⟩ := reads.exists_field hp
    obtain ⟨g, hg, nameG, r', readG⟩ := reads.exists_field hq
    have other : f ≠ g := fun eq =>
      same (List.inj_on_of_nodup_map once hp hq (by rw [← nameF, ← nameG, eq]))
    exact apart.forall hg hf other.symm readG readF s

end Reading

/-! ## Respelled structures -/

/-- A field that reads what an entry of a layout says. -/
structure Lays (start : σ) (entry : String × Option Json × Layout) (f : Field σ) : Prop where
  name : f.name = entry.1
  usual : ∀ v, entry.2.1 = some v → f.presence ≠ .required ∧
    ∀ room put, f.read (v.seen room) = .ok put → put start = start
  inner : Keeps entry.2.2 f.read

/-- Fields that read what a layout says, each of its own name and apart from the others. -/
structure Spells (table : Layout.Table) (fields : List (Field σ)) (start : σ) : Prop where
  lays : List.Forall₂ (Lays start) table fields
  names : (table.map Prod.fst).Nodup
  apart : fields.Pairwise Field.Apart

section Fields

variable {table : Layout.Table} {fields : List (Field σ)} {start : σ}

theorem map_name (lays : List.Forall₂ (Lays start) table fields) :
    fields.map Field.name = table.map Prod.fst := by
  induction lays with
  | nil => rfl
  | cons first _ ih => rw [List.map_cons, List.map_cons, first.name, ih]

theorem find?_of_not_mem (lays : List.Forall₂ (Lays start) table fields) {k : String}
    (unknown : k ∉ table.map Prod.fst) : fields.find? (·.name == k) = none := by
  refine List.find?_eq_none.mpr fun f hf name => unknown ?_
  rw [← map_name lays]
  exact List.mem_map.mpr ⟨f, hf, by simpa using name⟩

theorem find?_of_mem (lays : List.Forall₂ (Lays start) table fields)
    (names : (table.map Prod.fst).Nodup) {entry : String × Option Json × Layout}
    (h : entry ∈ table) :
    ∃ f, fields.find? (·.name == entry.1) = some f ∧ Lays start entry f := by
  induction lays with
  | nil => cases h
  | cons first _ ih =>
    obtain ⟨apart, names⟩ := List.nodup_cons.mp names
    rcases List.mem_cons.mp h with rfl | h
    · exact ⟨_, List.find?_cons_of_pos (by simp [first.name]), first⟩
    · obtain ⟨f, found, lays⟩ := ih names h
      refine ⟨f, ?_, lays⟩
      rw [List.find?_cons_of_neg, found]
      rw [first.name, beq_iff_eq]
      exact (ne_of_mem_of_not_mem (List.mem_map_of_mem h) apart).symm

theorem Spells.eq_of_name (spells : Spells table fields start) {f g : Field σ} (hf : f ∈ fields)
    (hg : g ∈ fields) (same : f.name = g.name) : f = g := by
  refine List.inj_on_of_nodup_map ?_ hf hg same
  rw [map_name spells.lays]
  exact spells.names

/-- **A respelled object is read as the same structure.** -/
theorem keeps_object (spells : Spells table fields start) :
    Keeps (.object table) (Reading.asRecord fields start) := by
  intro v w respelling room x h
  cases respelling with
  | order perm =>
    obtain ⟨deep, puts, reads, once, required, rfl⟩ := Reading.asRecord_seen_iff.mp h
    rw [Json.seenMembers_eq] at reads
    obtain ⟨puts', perm', reads'⟩ := reads.perm (perm.map _)
    rw [← Json.seenMembers_eq] at reads'
    exact Reading.asRecord_seen_iff.mpr ⟨deep, puts', reads', (perm'.map _).nodup_iff.mp once,
      fun f hf need => (perm'.map _).mem_iff.mp (required f hf need),
      (reads.onto_perm spells.apart once perm' start).symm⟩
  | add v unknown =>
    obtain ⟨deep, puts, reads, once, required, rfl⟩ := Reading.asRecord_seen_iff.mp h
    have skipped := find?_of_not_mem spells.lays unknown
    exact Reading.asRecord_seen_iff.mpr
      ⟨deep, puts, .unknown skipped (v.isSound_seen _) reads, once, required, rfl⟩
  | drop usual =>
    obtain ⟨deep, puts, reads, once, required, rfl⟩ := Reading.asRecord_seen_iff.mp h
    obtain ⟨f, found, lays⟩ := find?_of_mem spells.lays spells.names usual
    obtain ⟨optional, same⟩ := lays.usual _ rfl
    obtain ⟨put, others, read, rest, rfl⟩ := reads.of_known found
    refine Reading.asRecord_seen_iff.mpr ⟨deep, others, rest, (List.nodup_cons.mp once).2,
      fun g hg need => ?_, congrArg others.onto (same _ put read).symm⟩
    refine (List.mem_cons.mp (required g hg need)).resolve_left fun name => optional ?_
    rw [← spells.eq_of_name hg (List.mem_of_find?_eq_some found) (name.trans lays.name.symm)]
    exact need
  | member entry inner =>
    obtain ⟨deep, puts, reads, once, required, rfl⟩ := Reading.asRecord_seen_iff.mp h
    obtain ⟨f, found, lays⟩ := find?_of_mem spells.lays spells.names entry
    obtain ⟨put, others, read, rest, rfl⟩ := reads.of_known found
    exact Reading.asRecord_seen_iff.mpr ⟨deep, _,
      .known found (lays.inner inner _ put read) rest, once, required, rfl⟩

end Fields

/-! ## Respelled lists, and values within -/

theorem Decoded.mapM_eq_ok_iff {β : Type} {f : β → Decoded α} {l : List β} {xs : List α} :
    l.mapM f = .ok xs ↔ List.Forall₂ (fun a x => f a = .ok x) l xs := by
  induction l generalizing xs with
  | nil =>
    rw [List.forall₂_nil_left_iff]
    exact ⟨fun h => (Except.ok.inj h).symm, fun h => h ▸ rfl⟩
  | cons a l ih =>
    rw [List.mapM_cons, Decoded.bind_eq_ok_iff, List.forall₂_cons_left_iff]
    constructor
    · rintro ⟨x, first, rest⟩
      obtain ⟨xs, rest, eq⟩ := Decoded.bind_eq_ok_iff.mp rest
      exact ⟨x, xs, first, ih.mp rest, (Except.ok.inj eq).symm⟩
    · rintro ⟨x, xs, first, rest, rfl⟩
      exact ⟨x, first, Decoded.bind_eq_ok_iff.mpr ⟨xs, ih.mpr rest, rfl⟩⟩

theorem Reading.asList_seen_iff {read : Reading → Decoded α} {room : Nat} {items : List Json}
    {xs : List α} :
    asList read ((Json.arr items).seen room) = .ok xs ↔
      room ≠ 0 ∧ List.Forall₂ (fun v x => read (v.seen (room - 1)) = .ok x) items xs := by
  rw [Json.seen, within, Json.seenItems_eq]
  by_cases deep : room = 0
  · rw [if_pos deep]
    exact ⟨fun h => (nomatch h), fun ⟨left, _⟩ => absurd deep left⟩
  · rw [if_neg deep, asList, Decoded.mapM_eq_ok_iff, List.forall₂_map_left_iff]
    exact ⟨fun h => ⟨deep, h⟩, fun ⟨_, h⟩ => h⟩

theorem readOnlyAs_nil {read : Reading → Decoded α} :
    ReadOnlyAs (Reading.asList read) (.arr []) [] := by
  intro room xs h
  exact List.forall₂_nil_left_iff.mp (Reading.asList_seen_iff.mp h).2

/-- **A respelled list is read as the same items.** -/
theorem keeps_list {item : Layout} {read : Reading → Decoded α} (keeps : Keeps item read) :
    Keeps (.list item) (Reading.asList read) := by
  intro v w respelling room xs h
  cases respelling with
  | @item _ front back v w inner =>
    obtain ⟨deep, items⟩ := Reading.asList_seen_iff.mp h
    refine Reading.asList_seen_iff.mpr ⟨deep, ?_⟩
    clear h
    induction front generalizing xs with
    | nil =>
      obtain ⟨x, xs, first, rest, rfl⟩ := List.forall₂_cons_left_iff.mp items
      exact .cons (keeps inner _ x first) rest
    | cons _ front ih =>
      obtain ⟨x, xs, first, rest, rfl⟩ := List.forall₂_cons_left_iff.mp items
      exact .cons first (ih xs rest)

section Of

variable {name : String} {presence : Presence} {read : Reading → Decoded α} {put : α → σ → σ}
  {layout : Layout} {start : σ}

theorem keeps_of (keeps : Keeps layout read) :
    Keeps layout (Field.of name presence read put).read := by
  intro v w respelling room update h
  obtain ⟨x, hx, rfl⟩ := Field.read_of_eq_ok_iff.mp h
  exact Field.read_of_eq_ok_iff.mpr ⟨x, keeps respelling room x hx, rfl⟩

/-- A member that has to be there. -/
theorem Lays.required (keeps : Keeps layout read) :
    Lays start (name, none, layout) (.of name presence read put) where
  name := rfl
  usual _ h := nomatch h
  inner := keeps_of keeps

/-- A member that may be left out if it holds what the structure starts with. -/
theorem Lays.optional {v : Json} {x : α} (presence_ne : presence ≠ .required)
    (usual : ReadOnlyAs read v x) (same : put x start = start) (keeps : Keeps layout read) :
    Lays start (name, some v, layout) (.of name presence read put) where
  name := rfl
  usual _ h := by
    cases h
    refine ⟨presence_ne, fun room update h => ?_⟩
    obtain ⟨y, hy, rfl⟩ := Field.read_of_eq_ok_iff.mp h
    rw [usual hy, same]
  inner := keeps_of keeps

/-- Two fields are apart if they put different parts. -/
@[simp] theorem Field.apart_of {β : Type} {name' : String} {presence' : Presence}
    {read' : Reading → Decoded β} {put' : β → σ → σ}
    (comm : ∀ x y s, put x (put' y s) = put' y (put x s)) :
    Field.Apart (.of name presence read put) (.of name' presence' read' put') := by
  intro r r' a b ha hb s
  obtain ⟨x, -, rfl⟩ := Field.read_of_eq_ok_iff.mp ha
  obtain ⟨y, -, rfl⟩ := Field.read_of_eq_ok_iff.mp hb
  exact comm x y s

end Of

end FeedOperator
