import FeedOperator.Text.Utf8

/-!
# Text without control sequences

An escape character begins a sequence that steers a terminal and shows nothing.

* `ControlMode`: where in a sequence a reader is, and `ControlMode.next` for one character.
* `plain`: the text that is left when sequences and controls are taken out. Of the controls, line
  ends and the other blanks of ASCII stay; in most sequences one of them ends the sequence.
* `firstLine`: a text up to its first line end.

Results:
* `plain_of_shown`: a text without controls stays as it is.
-/

namespace FeedOperator.Text

/-- Where in a sequence a reader is. -/
inductive ControlMode where
  /-- Outside of any. -/
  | ground
  /-- Behind the escape character. -/
  | escape
  /-- Behind the escape character and more that does not end the sequence. -/
  | escapeRest
  /-- In a sequence that a letter ends. -/
  | command
  /-- At the beginning of a device string. -/
  | device
  /-- In the numbers of a device string. -/
  | deviceNumbers
  /-- Between the numbers of a device string and its text. -/
  | deviceRest
  /-- In a text that the terminal does not show. -/
  | hidden
  /-- In a text that a bell ends, such as the title of a window. -/
  | title
  deriving DecidableEq

/-- Whether a character is a blank control of ASCII. -/
def isBlankControl (c : Char) : Bool :=
  c == '\t' || c == '\n' || c == '\x0c' || c == '\r'

/-- Whether a character outside of sequences is shown. -/
def isShown (c : Char) : Bool :=
  isBlankControl c || (' ' ≤ c && c != '\x7f')

/-- Whether a hidden text ends within a character: one of its octets is the end mark. -/
def endsHidden (c : Char) : Bool :=
  (String.utf8EncodeChar c).contains 0x9C

namespace ControlMode

/-- Whether a blank control ends a sequence here, and is kept. -/
def yields : ControlMode → Bool
  | .ground | .escape | .escapeRest | .command => true
  | _ => false

/-- The mode behind a visible character of ASCII that follows an escape character. -/
def behindEscape (c : Char) : ControlMode :=
  if c < '0' then .escapeRest
  else if c = '[' then .command
  else if c = ']' then .title
  else if c = 'P' then .device
  else if c = 'X' ∨ c = '^' ∨ c = '_' then .hidden
  else .ground

/-- The mode behind a visible character of ASCII. -/
def nextVisible (m : ControlMode) (c : Char) : ControlMode :=
  match m with
  | .ground => .ground
  | .escape => .behindEscape c
  | .escapeRest => if c < '0' then .escapeRest else .ground
  | .command => if c < '@' then .command else .ground
  | .device => if c < '0' then .deviceRest else if c < '@' then .deviceNumbers else .hidden
  | .deviceNumbers =>
    if c < '0' then .deviceRest else if c < '<' then .deviceNumbers else .hidden
  | .deviceRest => if c < '0' then .deviceRest else .hidden
  | .hidden => .hidden
  | .title => .title

/-- The mode behind a character, and whether the character is kept. -/
def next (m : ControlMode) (c : Char) : ControlMode × Bool :=
  if c = '\x1b' then (.escape, false)
  else if c = '\x18' ∨ c = '\x1a' then (.ground, false)
  else if m.yields && isBlankControl c then (.ground, true)
  else if m = .ground then (.ground, isShown c)
  else if m = .title ∧ c = '\x07' then (.ground, false)
  else if m = .hidden ∧ endsHidden c then (.ground, false)
  else if ' ' ≤ c ∧ c ≤ '~' then (m.nextVisible c, false)
  else (m, false)

end ControlMode

/-- What is left of a text from a mode on. -/
def plainFrom : ControlMode → List Char → List Char
  | _, [] => []
  | m, c :: rest =>
    let (m, kept) := m.next c
    if kept then c :: plainFrom m rest else plainFrom m rest

/-- A text without control sequences. -/
def plain (s : String) : String :=
  String.ofList (plainFrom .ground s.toList)

theorem next_ground_of_shown {c : Char} (h : isShown c = true) :
    ControlMode.ground.next c = (.ground, true) := by
  have h₁ : c ≠ '\x1b' := by rintro rfl; exact absurd h (by decide)
  have h₂ : c ≠ '\x18' := by rintro rfl; exact absurd h (by decide)
  have h₃ : c ≠ '\x1a' := by rintro rfl; exact absurd h (by decide)
  simp [ControlMode.next, ControlMode.yields, h, h₁, h₂, h₃]

theorem plainFrom_of_shown {s : List Char} (h : ∀ c ∈ s, isShown c = true) :
    plainFrom .ground s = s := by
  induction s with
  | nil => rfl
  | cons c rest ih =>
    rw [plainFrom, next_ground_of_shown (h c (by simp))]
    simp [ih fun d hd => h d (by simp [hd])]

theorem plain_of_shown {s : String} (h : ∀ c ∈ s.toList, isShown c = true) : plain s = s := by
  rw [plain, plainFrom_of_shown h, String.ofList_toList]

/-- A text up to its first line end, which a line feed makes, alone or behind a carriage return. -/
def firstLine (s : String) : String :=
  let line := s.toList.takeWhile (· != '\n')
  if line.length < s.toList.length ∧ line.getLast? = some '\r' then String.ofList line.dropLast
  else String.ofList line

end FeedOperator.Text
