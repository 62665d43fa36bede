import FeedOperator.Json.Basic
import FeedOperator.Json.Reading

/-!
# Decoding typed values from a reading

A decoder judges a reading from left to right and stops at the first fault, of which there are two
kinds: the text stops being JSON there (`broken`), or a value is not of the wanted type
(`mismatch`). What a decoder does not want it skips, and skipping minds only whether the text is
JSON.

* `Reading.asString`, `asBool`, `asInt`, `asList`, `asOption`, `asTextMap`: the simple types.
* `Reading.asVariant`: a name out of a list, alone or as the only member of an object, with `null`.
* `Field`, `Reading.asRecord`: a structure with fixed members. Members come in any order, unknown
  ones are skipped, and a known one may not come twice. A list of the fields in their declared order
  is accepted too.
* `Reading.asLooseRecord`: a structure all of whose members may be missing or `null`, and the last
  one of a name counts.
-/

namespace FeedOperator

/-- Why a text does not decode. -/
inductive Fault where
  /-- The text is not JSON. -/
  | broken
  /-- The text is JSON of another shape. -/
  | mismatch
  deriving DecidableEq

/-- The result of decoding. -/
abbrev Decoded := Except Fault

namespace Reading

/-! ## Skipping -/

/-- Passes over a value without looking at it. -/
def skip (r : Reading) : Decoded Unit :=
  if r.isSound then .ok () else .error .broken

/-! ## Any value -/

/-- Puts an entry in the ascending order of the keys, in the place of one with the same key. -/
def putEntry {α : Type} (k : String) (v : α) : List (String × α) → List (String × α)
  | [] => [(k, v)]
  | (k', v') :: rest =>
    if k = k' then (k, v) :: rest
    else if k < k' then (k, v) :: (k', v') :: rest
    else (k', v') :: putEntry k v rest

mutual

/-- The value that was read. All strings have to be texts, no number too large, and lists and
objects not nested too deep. Members are in ascending order of their names, and the last one of a
name counts. -/
def asJson : Reading → Decoded Json
  | .null => .ok .null
  | .bool b => .ok (.bool b)
  | .int n => .ok (.num n)
  | .real d => .ok (.real d)
  | .str (some s) => .ok (.str s)
  | .arr items => .arr <$> asJsonItems items
  | .obj members => .obj <$> asJsonMembers [] members
  | .str none | .tooLarge | .tooDeep _ | .broken => .error .broken

/-- The items that were read. -/
def asJsonItems : List Reading → Decoded (List Json)
  | [] => .ok []
  | v :: items => do return (← asJson v) :: (← asJsonItems items)

/-- The members that were read, together with those before them. -/
def asJsonMembers (sofar : List (String × Json)) :
    List (Option String × Reading) → Decoded (List (String × Json))
  | [] => .ok sofar
  | (none, _) :: _ => .error .broken
  | (some k, v) :: members => do asJsonMembers (putEntry k (← asJson v) sofar) members

end

mutual

/-- A value as it is read. -/
def ofJson : Json → Reading
  | .null => .null
  | .bool b => .bool b
  | .num n => .int n
  | .real d => .real d
  | .str s => .str (some s)
  | .arr items => .arr (ofJsonItems items)
  | .obj members => .obj (ofJsonMembers members)

/-- Items as they are read. -/
def ofJsonItems : List Json → List Reading
  | [] => []
  | v :: items => ofJson v :: ofJsonItems items

/-- Members as they are read. -/
def ofJsonMembers : List (String × Json) → List (Option String × Reading)
  | [] => []
  | (k, v) :: members => (some k, ofJson v) :: ofJsonMembers members

end

/-- Reads a value in full and forgets it. -/
def readThrough (r : Reading) : Decoded Unit := do
  let _ ← r.asJson

/-! ## Simple types -/

/-- The fault of a value of another type. To say what it found instead, the reader has to read it,
as far as that is a matter of one token. -/
def offKind : Reading → Fault
  | .broken | .str none | .tooLarge => .broken
  | _ => .mismatch

/-- A string. -/
def asString : Reading → Decoded String
  | .str (some s) => .ok s
  | r => .error r.offKind

/-- A truth value. -/
def asBool : Reading → Decoded Bool
  | .bool b => .ok b
  | r => .error r.offKind

/-- An integer between two bounds. -/
def asInt (least most : Int) : Reading → Decoded Int
  | .int n => if least ≤ n ∧ n ≤ most then .ok n else .error .mismatch
  | r => .error r.offKind

/-- An integer of 64 bits with a sign. -/
def asInt64 (r : Reading) : Decoded Int64 :=
  Int64.ofInt <$> r.asInt (-9223372036854775808) 9223372036854775807

/-- An integer of 32 bits without a sign. -/
def asUInt32 (r : Reading) : Decoded UInt32 :=
  (fun n => UInt32.ofNat n.toNat) <$> r.asInt 0 4294967295

/-- An integer of 16 bits without a sign. -/
def asUInt16 (r : Reading) : Decoded UInt16 :=
  (fun n => UInt16.ofNat n.toNat) <$> r.asInt 0 65535

/-- A count that 64 bits hold. -/
def asCount (r : Reading) : Decoded Nat :=
  Int.toNat <$> r.asInt 0 18446744073709551615

/-- A value that may be `null`. -/
def asOption {α : Type} (read : Reading → Decoded α) : Reading → Decoded (Option α)
  | .null => .ok none
  | r => some <$> read r

/-- A list. -/
def asList {α : Type} (read : Reading → Decoded α) : Reading → Decoded (List α)
  | .arr items => items.mapM read
  | r => .error r.offKind

/-- A list of strings. -/
def asStrings : Reading → Decoded (List String) :=
  asList asString

/-- An object with one type of value. Its entries are kept in ascending order of the names, and the
last one of a name counts. -/
def asTextMap (read : Reading → Decoded String) : Reading → Decoded (List (String × String))
  | .obj members => members.foldlM step []
  | r => .error r.offKind
where
  /-- Reads one entry. -/
  step (entries : List (String × String)) (member : Option String × Reading) :
      Decoded (List (String × String)) :=
    match member with
    | (none, _) => .error .broken
    | (some k, v) => do return putEntry k (← read v) entries

/-- A name out of a list. -/
def asVariant {α : Type} (variants : List (String × α)) : Reading → Decoded α
  | .str (some s) => named s
  | .obj ((some s, v) :: more) => do
    let variant ← named s
    match v with
    | .null => if more.isEmpty then .ok variant else .error .broken
    | v => .error v.offKind
  | .obj [] => .error .broken
  | .obj ((none, _) :: _) => .error .broken
  | _ => .error .broken
where
  /-- The variant of a name. -/
  named (s : String) : Decoded α :=
    match variants.lookup s with
    | some variant => .ok variant
    | none => .error .mismatch

end Reading

/-! ## Structures -/

/-- What may be missing from a structure. -/
inductive Presence where
  /-- The member has to be there. -/
  | required
  /-- The member may be missing from an object, and not from a list. -/
  | nullable
  /-- The member may be missing. -/
  | defaulted
  deriving DecidableEq

/-- One member of a structure of type `σ`: how its value changes a structure that lacks it. -/
structure Field (σ : Type) where
  name : String
  presence : Presence
  read : Reading → Decoded (σ → σ)

namespace Field

variable {σ α : Type}

/-- A field that is read and then put. -/
def of (name : String) (presence : Presence) (read : Reading → Decoded α) (put : α → σ → σ) :
    Field σ :=
  ⟨name, presence, fun r => put <$> read r⟩

end Field

namespace Reading

variable {σ : Type}

/-- Reads one member of a structure: the names seen so far and the structure. -/
def recordStep (fields : List (Field σ)) (state : List String × σ)
    (member : Option String × Reading) : Decoded (List String × σ) :=
  match member with
  | (none, _) => .error .broken
  | (some k, v) =>
    match fields.find? (·.name == k) with
    | none => do v.skip; return state
    | some f =>
      if k ∈ state.1 then .error .mismatch
      else do return (k :: state.1, (← f.read v) state.2)

/-- Reads the items of a list into the fields in their order. -/
def recordItems : List (Field σ) → List Reading → σ → Decoded σ
  | [], [], value => .ok value
  | [], _ :: _, _ => .error .broken
  | f :: fields, [], value =>
    if f.presence = .defaulted then recordItems fields [] value else .error .mismatch
  | f :: fields, v :: items, value => do recordItems fields items ((← f.read v) value)

/-- Reads a structure, starting from the one in which every field has its default. -/
def asRecord (fields : List (Field σ)) (start : σ) : Reading → Decoded σ
  | .obj members => do
    let (seen, value) ← members.foldlM (recordStep fields) ([], start)
    if fields.all fun f => f.presence != .required || seen.contains f.name then .ok value
    else .error .mismatch
  | .arr items => recordItems fields items start
  | r => .error r.offKind

/-- Reads one member of a structure in which the last member of a name counts. -/
def looseStep (fields : List (Field σ)) (value : σ) (member : Option String × Reading) :
    Decoded σ :=
  match member with
  | (none, _) => .error .broken
  | (some k, v) =>
    match fields.find? (·.name == k) with
    | none => do v.skip; return value
    | some f => do return (← f.read v) value

/-- Reads a structure all of whose members may be missing. -/
def asLooseRecord (fields : List (Field σ)) (start : σ) : Reading → Decoded σ
  | .obj members => members.foldlM (looseStep fields) start
  | r => .error r.offKind

end Reading

/-! ## Whole texts -/

/-- Decodes a whole text. -/
def Document.decode {α : Type} (read : Reading → Decoded α) (d : Document) : Decoded α := do
  let value ← read d.root
  if d.ended then .ok value else .error .broken

/-- Decodes a value. -/
def Json.decode {α : Type} (read : Reading → Decoded α) (v : Json) : Decoded α :=
  read (.ofJson v)

end FeedOperator
