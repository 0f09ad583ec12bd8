import LineShell.Script

/-!
The text of a script on the way to be read: what is left of it, and the line
that is reached.  A backslash at the end of a line joins the line with the next
one, except between single quotes and in texts that are quoted as a whole.
-/
namespace LineShell.Script

inductive Lexeme where
  | word (word : Word)
  | keyword (name : String)
  | newline
  | semicolon
  | caseEnd
  | background
  | both
  | either
  | pipe
  | opening
  | closing
  /-- A redirection of a descriptor up to its target. -/
  | toFile (descriptor : Nat) (opening : Opening)
  | toCopy (descriptor : Nat)
  /-- A redirection from a text below; with `strips` tabs at the start of its
  lines do not count. -/
  | fromText (descriptor : Nat) (strips : Bool)
  /-- The end of the text. -/
  | final

/-- A text below a command that its redirection has announced: its number, the
line that ends it, whether tabs at the start of its lines do not count, and
whether it is taken as it stands. -/
structure Announced where
  number : Nat
  ending : Text
  strips : Bool
  verbatim : Bool
  deriving DecidableEq, Repr

/-- The line that ends the text below a command which is being read, and what
follows it once it has been reached. -/
structure Fence where
  ending : Text
  strips : Bool
  beyond : Option Text
  deriving DecidableEq, Repr

/-- A text on the way to be read. -/
structure Source where
  rest : Text
  line : Nat
  /-- A lexeme that was read and put back. -/
  held : Option Lexeme
  announced : List Announced
  fence : Option Fence
  /-- The texts below commands, by number. -/
  texts : List (Nat × Word)
  /-- The texts that stand for names of commands. -/
  aliases : List (Text × Text)
  /-- The names whose texts are being read, with the length of what follows each
  text. -/
  active : List (Text × Nat)

/-- Reading: it goes on, or a flaw is found on a line. -/
abbrev Read := StateT Source (Except (Nat × Flaw))

namespace Source

def start (text : Text) : Source :=
  ⟨text.filter (· ≠ '\x00'), 1, none, [], none, [], [], []⟩

/-- The start of a text that is read like one below a command, but which no line
ends. -/
def below (text : Text) : Source :=
  { start text with fence := some ⟨['\x00'], false, none⟩ }

/-- Leaves out joined line ends; the answer tells how many. -/
def skipJoints : Text → Nat × Text
  | '\\' :: '\n' :: rest =>
    let (count, left) := skipJoints rest
    (count + 1, left)
  | text => (0, text)

end Source

namespace Read

def flawed {α : Type} (flaw : Flaw) : Read α := do throw ((← get).line, flaw)

/-- The next character, if there is one; joined line ends before it do not
count. -/
def peek : Read (Option Char) := do
  let source ← get
  let (joints, rest) := Source.skipJoints source.rest
  set { source with rest := rest, line := source.line + joints }
  return rest.head?

/-- Takes so many characters as they stand. -/
def advance (count : Nat) : Read Unit := modify fun source =>
  { source with
    rest := source.rest.drop count
    line := source.line + (source.rest.take count).count '\n' }

def next : Read (Option Char) := do
  let c ← peek
  advance 1
  return c

/-- The next character, which is taken without its line being counted. -/
def nextUncounted : Read (Option Char) := do
  let c ← peek
  modify fun source => { source with rest := source.rest.drop 1 }
  return c

/-- Takes the next character if it is this one; the answer tells whether it
is. -/
def accept (c : Char) : Read Bool := do
  if (← peek) = some c then
    advance 1
    return true
  else
    return false

/-- Takes characters as they stand as long as they satisfy `holds`. -/
def takeWhile (holds : Char → Bool) : Read Text := do
  let taken := (← get).rest.takeWhile holds
  advance taken.length
  return taken

/-- Takes characters as long as they satisfy `holds`, joined line ends left
out. -/
def takeJoined (holds : Char → Bool) : Read Text := do
  let rec loop : Nat → Text → Read Text
    | 0, taken => return taken
    | fuel + 1, taken => do
      match ← peek with
      | none => return taken
      | some c =>
        if holds c then
          advance 1
          loop fuel (taken ++ [c])
        else
          return taken
  loop (← get).rest.length []

/-- Puts the text that stands for a name in front of what follows, unless it is
being read. -/
def replace (name : Text) : Read Bool := do
  let source ← get
  let active := source.active.filter fun entry => entry.2 ≤ source.rest.length
  match if (active.lookup name).isSome then none
    else source.aliases.lookup name with
  | some text =>
    set { source with
      rest := text ++ source.rest
      active := (name, source.rest.length) :: active }
    return true
  | none =>
    set { source with active := active }
    return false

/-- Whether a lexeme, of which the start is given, follows a name that stands
for a text with a blank at its end. -/
def followsName (start : Source) : Read Bool := do
  let now ← get
  return start.active.any fun (name, length) =>
    length ≤ start.rest.length && now.rest.length < length &&
      ((start.aliases.lookup name).bind List.getLast?).any fun c =>
        c = ' ' || c = '\t'

def hold (lexeme : Lexeme) : Read Unit :=
  modify fun source => { source with held := some lexeme }

/-- At the start of a line in a text below a command: the text is at its end if
this is the line that ends it. -/
def crossLine : Read Unit := modify fun source =>
  match source.fence with
  | none => source
  | some fence =>
    let rest :=
      if fence.strips then source.rest.dropWhile (· = '\t') else source.rest
    let after := rest.drop fence.ending.length
    if fence.ending.isPrefixOf rest && after.head?.all (· = '\n') then
      { source with
        rest := []
        line := source.line + 1
        fence := some { fence with beyond := some (after.drop 1) } }
    else
      { source with rest := rest }

/-- Reads a text below a command up to the line that ends it.  Joined line ends
at its start do not count, unless it is taken as it stands. -/
def upToFence {α : Type} (ending : Text) (strips literal : Bool)
    (reading : Read α) : Read α := do
  let outer := (← get).fence
  modify fun source => { source with fence := some ⟨ending, strips, none⟩ }
  if !literal then discard peek
  crossLine
  let value ← reading
  modify fun source =>
    { source with
      rest := (source.fence.bind Fence.beyond).getD source.rest
      fence := outer }
  return value

/-- Reads commands inside a word.  A line that ends a text around them means
nothing in them, and the texts that wait for the end of a line do not wait for
one of theirs. -/
def apart {α : Type} (reading : Read α) : Read α := do
  let outer ← get
  set { outer with fence := none, announced := [] }
  let value ← reading
  modify fun source =>
    { source with fence := outer.fence, announced := outer.announced }
  return value

/-- Reads another text in between, which starts on a line. -/
def within {α : Type} (line : Nat) (text : Text) (reading : Read α) :
    Read α := do
  let outer ← get
  set { outer with
    rest := text
    line := line
    held := none
    announced := []
    fence := none
    active := [] }
  let value ← reading
  modify fun inner => { outer with texts := inner.texts }
  return value

end Read

end LineShell.Script
