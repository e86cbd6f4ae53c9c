/-!
What of a text is for the eye, and what would steer a terminal: controls, escape sequences, control
sequences and control strings.
-/

namespace CsvQuery.Text

/-- The controls that are white space: tab, line feed, form feed and carriage return. -/
def isLayout (c : Char) : Bool :=
  let n := c.toNat
  n == 0x9 || n == 0xA || n == 0xC || n == 0xD

/-- Whether a character is for the eye: every one but the controls of ASCII that are not white
space. -/
def isVisible (c : Char) : Bool :=
  isLayout c || (0x20 ≤ c.toNat && c.toNat != 0x7F)

inductive TerminalMode
  /-- Nothing: characters are text. -/
  | ground
  /-- An escape sequence. -/
  | escape
  /-- An escape sequence with an intermediate character. -/
  | intermediate
  /-- A control sequence. -/
  | control
  /-- The start of a device control string. -/
  | device
  /-- The parameters of a device control string. -/
  | deviceParameter
  /-- The intermediate characters of a device control string. -/
  | deviceIntermediate
  /-- The data of a device control string, or a string for an application. -/
  | data
  /-- A command to the operating system. -/
  | command
  deriving DecidableEq, Repr

namespace TerminalMode

/-- Whether the code point of a character is from `first` to `last`. -/
def isWithin (first last : Nat) (c : Char) : Bool :=
  first ≤ c.toNat && c.toNat ≤ last

/-- Whether a character is encoded with the byte that ends a string in an eight-bit code. -/
def hasTerminator (c : Char) : Bool :=
  (String.utf8EncodeChar c).contains 0x9C

def afterEscape (c : Char) : TerminalMode :=
  if isWithin 0x20 0x2F c then .intermediate
  else if c == '[' then .control
  else if c == 'P' then .device
  else if c == 'X' || c == '^' || c == '_' then .data
  else if c == ']' then .command
  else if isWithin 0x30 0x7E c then .ground
  else .escape

/-- The mode behind one more character. An escape starts a sequence and two controls, cancel and
substitute, end one in every mode. -/
def next (m : TerminalMode) (c : Char) : TerminalMode :=
  let n := c.toNat
  if n == 0x1B then .escape
  else if n == 0x18 || n == 0x1A then .ground
  else
    match m with
    | .ground => .ground
    | .escape => afterEscape c
    | .intermediate => if isWithin 0x30 0x7E c then .ground else .intermediate
    | .control => if isWithin 0x40 0x7E c then .ground else .control
    | .device =>
      if isWithin 0x20 0x2F c then .deviceIntermediate
      else if isWithin 0x30 0x3F c then .deviceParameter
      else if isWithin 0x40 0x7E c then .data
      else .device
    | .deviceParameter =>
      if isWithin 0x20 0x2F c then .deviceIntermediate
      else if isWithin 0x3C 0x7E c then .data
      else .deviceParameter
    | .deviceIntermediate => if isWithin 0x30 0x7E c then .data else .deviceIntermediate
    | .data => if hasTerminator c then .ground else .data
    | .command => if n == 0x7 then .ground else .command

def showsLayout : TerminalMode → Bool
  | .ground | .escape | .intermediate | .control => true
  | .device | .deviceParameter | .deviceIntermediate | .data | .command => false

def shows (m : TerminalMode) (c : Char) : Bool :=
  m == .ground || (m.showsLayout && isLayout c)

end TerminalMode

/-- A terminal without a screen: what it is in the middle of, and what it has shown. White space
inside a sequence shows and suspends it. The text behind shows until a control takes the sequence
up again or a character beyond ASCII ends it. -/
structure Terminal where
  mode : TerminalMode
  suspended : Bool
  /-- The shown characters, the last one first. -/
  shown : List Char
  deriving DecidableEq, Repr

namespace Terminal

def start : Terminal := ⟨.ground, false, []⟩

def step (x : Terminal) (c : Char) : Terminal :=
  if isVisible c && x.suspended then
    if c.toNat < 0x80 then { x with shown := c :: x.shown }
    else ⟨.ground, false, c :: x.shown⟩
  else
    let shows := isVisible c && x.mode.shows c
    ⟨x.mode.next c, shows && x.mode != .ground, if shows then c :: x.shown else x.shown⟩

end Terminal

def visibleChars (cs : List Char) : List Char :=
  (cs.foldl Terminal.step Terminal.start).shown.reverse

def visible (s : String) : String :=
  String.ofList (visibleChars s.toList)

end CsvQuery.Text
