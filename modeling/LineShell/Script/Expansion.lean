import LineShell.Script.Action
import LineShell.Script.Arithmetic
import LineShell.Script.Options
import LineShell.Script.Pattern.Series

/-!
Expanding the words of a script.  The pieces of a word become items; unquoted
values among them are cut into fields at the separators that the variable `IFS`
names, and a field with a pattern becomes the paths that fit it, if there are
any.

What runs a command whose output is a part of a word is handed over as
`perform`.
-/
namespace LineShell.Script

inductive Item where
  /-- A letter that parts no fields. -/
  | letter (letter : Letter)
  /-- Something that makes a field even where there is no letter. -/
  | mark
  /-- A stretch in which fields end at every border, which is written as `none`,
  and if it is `loose` also at separators. -/
  | stretch (loose : Bool) (content : List (Option Letter))
  /-- A place where the empty stretches directly before it do not count, unless
  there is no other.
  -/
  | clear
  deriving DecidableEq, Repr

namespace Item

/-- A text that stands for itself, or that is cut and can hold patterns. -/
def ofText (quoted : Bool) (text : Text) : List Item :=
  if quoted then text.map fun c => .letter ⟨c, true⟩
  else [.stretch true (text.map fun c => some ⟨c, false⟩)]

/-- The letters among items; a border is a space. -/
def letters (items : List Item) : List Letter :=
  items.flatMap fun item =>
    match item with
    | .letter found => [found]
    | .mark => []
    | .stretch _ content => content.map fun found? => found?.getD ⟨' ', true⟩
    | .clear => []

def text (items : List Item) : Text := (letters items).map Letter.char

end Item

namespace State

def separators (state : State) : Text :=
  (state.value? "IFS".toList).getD " \t\n".toList

/-- The arguments in one text, with the first separator between them. -/
def joinedArguments (state : State) : Text :=
  Text.joinWith (state.separators.take 1) state.arguments

def parameter? (state : State) (apart : Bool) : Parameter → Option Text
  | .positional 0 => some state.name
  | .positional (index + 1) => state.arguments[index]?
  | .joined | .each =>
    some (if apart then Text.joinWith [' '] state.arguments
      else state.joinedArguments)
  | .count => some (Nat.toDigits 10 state.arguments.length)
  | .status => some (Nat.toDigits 10 state.status)
  | .self => some (Nat.toDigits 10 selfNumber)
  | .background =>
    if state.launched = 0 then none
    else some (Nat.toDigits 10 state.backgroundNumber)
  | .options => some (Options.shown state.options)
  | .named name => state.value? name

end State

namespace Parameter

def name : Parameter → Text
  | .positional index => Nat.toDigits 10 index
  | .joined => ['*']
  | .each => ['@']
  | .count => ['#']
  | .status => ['?']
  | .self => ['$']
  | .background => ['!']
  | .options => ['-']
  | .named name => name

end Parameter

namespace Expansion

/-- The items of texts with borders between them. -/
def apart (quoted : Bool) (texts : List Text) : List Item :=
  if quoted && texts.isEmpty then []
  else
    let lettered :=
      texts.map fun text => text.map fun c => some (Letter.mk c quoted)
    [.stretch (!quoted) ([none].intercalate lettered)]

/-- Whether a parameter stands for arguments that stay apart.  They do not where
no fields are cut, on the `whole`, and outside quotes they have a space between
them where no separators are given. -/
def isApart (state : State) (whole quoted : Bool) : Parameter → Bool
  | .each => !whole && (quoted || (state.value? "IFS".toList).isSome)
  | .joined => !whole && !quoted && (state.value? "IFS".toList).isSome
  | _ => false

def ofValue (state : State) (whole quoted : Bool) (parameter : Parameter)
    (value : Text) : List Item :=
  if isApart state whole quoted parameter then apart quoted state.arguments
  else Item.ofText quoted value

def missing {α : Type} (parameter : Parameter) : Action α :=
  Action.refuse (parameter.name ++ ": parameter not set".toList)

/-- The value of a parameter, which is missed if the script asks for that. -/
def required (apart : Bool) (parameter : Parameter) : Action Text := do
  let state ← get
  match state.parameter? apart parameter with
  | some value => return value
  | none => if state.has 'u' then missing parameter else return []

def faulty {α : Type} (expression : Text) (fault : Arithmetic.Fault) :
    Action α :=
  Action.refuse ("arithmetic expression: ".toList ++ fault.words ++
    ": \"".toList ++ expression ++
    ['"'])

def numberOf (name : Text) : Action Int := do
  let value := ((← get).value? name).getD []
  match Arithmetic.whole? 0 value with
  | some number => return number
  | none => Action.refuse ("Illegal number: ".toList ++ value)

/-- Passes over a part of an expression that does not count; its faults do. -/
def passOver (text : Text) (expr : Arithmetic.Expr) : Action Unit :=
  match expr.fault? with
  | some fault => faulty text fault
  | none => return

def evaluate (text : Text) : Arithmetic.Expr → Action Int
  | .number value => return value
  | .name name => numberOf name
  | .negate operand => return Arithmetic.wrap (-(← evaluate text operand))
  | .complement operand =>
      return Arithmetic.wrap (-(← evaluate text operand) - 1)
  | .isZero operand => return Arithmetic.ofBool ((← evaluate text operand) = 0)
  | .apply operation first second => do
    let a ← evaluate text first
    let b ← evaluate text second
    match operation.value a b with
    | .ok value => return value
    | .error fault => faulty text fault
  | .both first second => do
    if (← evaluate text first) = 0 then
      passOver text second
      return 0
    else
      return Arithmetic.ofBool ((← evaluate text second) ≠ 0)
  | .either first second => do
    if (← evaluate text first) ≠ 0 then
      passOver text second
      return 1
    else
      return Arithmetic.ofBool ((← evaluate text second) ≠ 0)
  | .choice test yes no => do
    if (← evaluate text test) ≠ 0 then
      let value ← evaluate text yes
      passOver text no
      return value
    else
      passOver text yes
      evaluate text no
  | .assign name operation operand => do
    let value ← evaluate text operand
    let changed ←
      match operation with
      | none => pure value
      | some operation => do
        match operation.value (← numberOf name) value with
        | .ok changed => pure changed
        | .error fault => faulty text fault
    Action.assign name (Text.ofInt changed)
    return changed
  | .faulty before fault => do
    let _ ← evaluate text before
    faulty text fault

/-- The number that the text of an expression stands for, in digits. -/
def calculate (text : Text) : Action Text := do
  return Text.ofInt (← evaluate text (Arithmetic.read text))

/-- What stands for a tilde and a name at the start of a text, and the rest of
the text.  Without a name it is the home directory; the only user with a name
has one of their own.  The text must go on with a slash, or be a `whole`
word. -/
def home? (state : State) (whole : Bool) (text : Text) : Option (Text × Text) :=
  match text with
  | '~' :: written =>
    let user := written.takeWhile (· ≠ '/')
    let rest := written.drop user.length
    if rest.isEmpty && !whole then none
    else if user.isEmpty then (state.value? "HOME".toList).map fun home =>
      (home, rest)
    else if user = "root".toList then some ("/root".toList, rest)
    else none
  | _ => none

/-- The items of characters that can have a meaning in a pattern. -/
def ofBare (splits : Bool) (text : Text) : List Item :=
  if splits && !text.isEmpty then Item.ofText false text
  else text.map fun c => .letter ⟨c, false⟩

mutual

/-- The items that a piece becomes; `whole` tells that no fields are cut, and
`inside` that the piece stands in the braces of an unquoted parameter. -/
def ofPiece (perform : Tree → Action Text) (whole inside : Bool) :
    Piece → Action (List Item)
  | .bare text => return ofBare inside text
  | .quoted text =>
    return if text.isEmpty then [.mark] else Item.ofText true text
  | .value quoted parameter use => ofUse perform whole quoted parameter use
  | .output quoted command => do
    let output ← perform command
    return Item.ofText quoted
      (Text.dropEndWhile (· = '\n') (output.filter (· ≠ '\x00')))
  | .number quoted expression => do
    let text := Item.text (← ofPieces perform true false false expression)
    return Item.ofText quoted (← calculate text)
  | .flawed => Action.refuse "Bad substitution".toList
  | .ends => return []

def ofUse (perform : Tree → Action Text) (whole quoted : Bool)
    (parameter : Parameter) :
    Use → Action (List Item)
  | .plain => do
    let state ← get
    let parts := isApart state whole quoted parameter
    let value ← required parts parameter
    if (state.parameter? parts parameter).isNone then return []
    return ofValue state whole quoted parameter value
  | .size => do
    return Item.ofText quoted
      (Nat.toDigits 10 (← required false parameter).length)
  | .otherwise orEmpty word => do
    let state ← get
    let value? :=
      state.parameter? (isApart state whole quoted parameter) parameter
    match value?.filter fun value => !(orEmpty && value.isEmpty) with
    | some value => return ofValue state whole quoted parameter value
    | none => ofPieces perform whole (!quoted) (!quoted) word
  | .instead orEmpty word => do
    let state ← get
    let value? :=
      state.parameter? (isApart state whole quoted parameter) parameter
    match value?.filter fun value => !(orEmpty && value.isEmpty) with
    | some _ => ofPieces perform whole (!quoted) (!quoted) word
    | none => return Item.ofText quoted []
  | .assign orEmpty word => do
    let state ← get
    let value? :=
      state.parameter? (isApart state whole quoted parameter) parameter
    match value?.filter fun value => !(orEmpty && value.isEmpty) with
    | some value => return ofValue state whole quoted parameter value
    | none => do
      let value := Item.text (← ofPieces perform true (!quoted) (!quoted) word)
      match parameter with
      | .named name => Action.assign name value
      | _ => Action.refuse (parameter.name ++ ": bad variable name".toList)
      return .clear :: Item.ofText quoted value
  | .require orEmpty word => do
    let state ← get
    let value? :=
      state.parameter? (isApart state whole quoted parameter) parameter
    match value?.filter fun value => !(orEmpty && value.isEmpty) with
    | some value => return ofValue state whole quoted parameter value
    | none => do
      let words := Item.text (← ofPieces perform true (!quoted) (!quoted) word)
      if word.isEmpty then
        Action.refuse (parameter.name ++ ": parameter not set".toList ++
          if orEmpty then " or null".toList else [])
      else
        Action.refuse (parameter.name ++ ": ".toList ++ words)
  | .trim atEnd longest word => do
    let parts := isApart (← get) whole quoted parameter
    let value ← required parts parameter
    let arguments := (← get).arguments
    if ((← get).parameter? parts parameter).isNone then return []
    let pattern :=
      Item.letters (← ofPieces perform true (!quoted) (!quoted) word)
    if parts then
      return .clear ::
        apart quoted (Pattern.trimSeries quoted atEnd longest pattern arguments)
    else
      return .clear ::
        Item.ofText quoted (Pattern.trim atEnd longest pattern value)

/-- The items that pieces become, from the left; with `atHome` a tilde at their
start is replaced.
-/
def ofPieces (perform : Tree → Action Text) (whole inside atHome : Bool) :
    List Piece → Action (List Item)
  | [] => return []
  | .ends :: _ => return []
  | piece :: rest => do
    let state ← get
    let found? : Option (Text × Text) :=
      match piece with
      | .bare text => if atHome then home? state rest.isEmpty text else none
      | _ => none
    let first ←
      match found? with
      | some (home, after) =>
          pure (Item.ofText true home ++ ofBare inside after)
      | none => ofPiece perform whole inside piece
    return first ++ (← ofPieces perform whole inside false rest)

end

/-- A word with tildes at its start and after colons replaced. -/
def withHomes (state : State) (word : Word) : Word :=
  let replace (whole : Bool) (text : Text) : Word :=
    match home? state whole text with
    | some (home, rest) => [.quoted home, .bare rest]
    | none => [.bare text]
  let rec later (start : Bool) : Word → Word
    | [] => []
    | .bare text :: rest =>
      let pieces := Text.splitOn ':' text
      let parts := pieces.zipIdx.map fun (part, index) =>
        let whole := index + 1 < pieces.length || rest.head?.all Piece.isEnd
        if index = 0 && !start then [Piece.bare part] else replace whole part
      let parted := parts.zipIdx.flatMap fun (part, index) =>
        if index = 0 then part else .bare [':'] :: part
      parted ++ later false rest
    | piece :: rest => piece :: later false rest
  later true word

structure Fields where
  finished : List (List Letter)
  /-- The field in progress, if there is anything in it. -/
  current : Option (List Letter)
  /-- Whether the last stretch was not loose. -/
  firm : Bool
  /-- The same of the stretch before the empty ones directly before, if there
  was one. -/
  before : Option Bool
  /-- Whether there has been a stretch. -/
  started : Bool

namespace Fields

/-- Takes more of the field in progress. -/
def extend (fields : Fields) (letters : List Letter) : Fields :=
  { fields with
    current := some (fields.current.getD [] ++ letters)
    before := none }

/-- Ends the field in progress, even if there is nothing in it. -/
def cut (fields : Fields) : Fields :=
  { fields with
    finished := fields.finished ++ [fields.current.getD []]
    current := none }

/-- Whether a character is white space that parts fields. -/
def isGap : Option Letter → Bool
  | none => true
  | some letter => " \t\n".toList.contains letter.char

/-- Takes a stretch that is cut where `parts` holds.  If it is `tidy`, white
space before a field is passed over, and one other separator belongs to the
white space before it where that has `ended` a field. -/
def take (parts : Option Letter → Bool) (tidy : Bool) :
    Bool → Fields → List (Option Letter) → Fields
  | _, fields, [] => fields
  | ended, fields, part :: rest =>
    if !parts part then
      take parts tidy false (fields.extend part.toList) rest
    else if tidy && isGap part then
      if fields.current.isNone then take parts tidy ended fields rest
      else take parts tidy true fields.cut rest
    else if ended then
      take parts tidy false fields rest
    else
      take parts tidy false fields.cut rest

/-- Takes a stretch that is cut at its borders only. -/
def takeFirm : Fields → List (Option Letter) → Fields
  | fields, [] => fields
  | fields, none :: rest => takeFirm fields.cut rest
  | fields, some letter :: rest => takeFirm (fields.extend [letter]) rest

def add (separators : Text) (fields : Fields) : Item → Fields
  | .mark => fields.extend []
  | .letter letter => fields.extend [letter]
  | .clear =>
      { fields with firm := fields.before.getD fields.firm, before := none }
  | .stretch loose content =>
    let parts (part : Option Letter) :=
      part.all fun letter => separators.contains letter.char
    let taken :=
      if loose then take parts (!fields.firm) false fields content
      else takeFirm fields content
    { taken with
      firm := !loose
      before :=
        if content.isEmpty && fields.started then
          fields.before <|> some fields.firm
        else none
      started := true }

/-- The fields of items.  At the end of arguments that stay apart there is a
last one, even if there is nothing in it. -/
def ofItems (separators : Text) (items : List Item) : List (List Letter) :=
  let fields := items.foldl (add separators) ⟨[], none, false, none, false⟩
  if fields.firm || fields.current.isSome then fields.cut.finished
  else fields.finished

end Fields

def components : List Letter → List (List Letter)
  | [] => [[]]
  | letter :: rest =>
    if letter.char = '/' then
      [] :: components rest
    else
      match components rest with
      | [] => [[letter]]
      | first :: others => (letter :: first) :: others

/-- Whether there is anything at a path in bytes, links not followed. -/
def exists? (machine : Machine) (path : Text) : Bool :=
  match machine.locate .entry (Path.ofText (Text.Bytes.decode path)) with
  | .ok (.occupied _) => true
  | _ => false

/-- The names in a directory that fit a pattern; a dot at the start has to be
written. -/
def namesThatFit (machine : Machine) (directory : Text)
    (pattern : List Letter) : List Text :=
  let listed := machine.list (Path.ofText (Text.Bytes.decode directory))
  let names := (listed.toOption.getD []).map Text.Bytes.encode
  let dotted := pattern.head?.any fun letter => letter.char = '.'
  (['.'] :: ['.', '.'] :: names).filter fun name =>
    (dotted || name.head? ≠ some '.') && Pattern.fits pattern name

/-- The paths that fit patterns between slashes, after a path that has been
found. -/
def pathsThatFit (machine : Machine) : Text → List (List Letter) → List Text
  | found, [] => [found]
  | found, [last] =>
    if last.any Pattern.isActive then
      (namesThatFit machine found last).map (found ++ ·)
    else
      let path := found ++ last.map Letter.char
      if exists? machine path then [path] else []
  | found, part :: next :: rest =>
    if part.any Pattern.isActive then
      (namesThatFit machine found part).flatMap fun name =>
        let path := Path.ofText (Text.Bytes.decode (found ++ name))
        if (machine.isDirectory path).toOption = some true then
          pathsThatFit machine (found ++ name ++ ['/']) (next :: rest)
        else
          []
    else
      pathsThatFit machine
        (found ++ part.map Letter.char ++ ['/']) (next :: rest)

/-- Whether a text comes before another one or is the same, byte by byte. -/
def isOrdered : Text → Text → Bool
  | [], _ => true
  | _ :: _, [] => false
  | c :: rest, d :: others => if c = d then isOrdered rest others else c < d

def ofField (state : State) (field : List Letter) : List Text :=
  let plain := field.map Letter.char
  if !state.has 'f' && field.any Pattern.isActive then
    match (pathsThatFit state.machine [] (components field)).mergeSort isOrdered
      with
    | [] => [plain]
    | paths => paths
  else
    [plain]

def ofWord (perform : Tree → Action Text) (word : Word) :
    Action (List Text) := do
  let items ← ofPieces perform false false true word
  let state ← get
  return (Fields.ofItems state.separators items).flatMap (ofField state)

def ofWords (perform : Tree → Action Text) (words : List Word) :
    Action (List Text) := do
  return (← words.mapM (ofWord perform)).flatten

/-- The text that a word becomes where no fields are cut. -/
def textOf (perform : Tree → Action Text) (assigned : Bool) (word : Word) :
    Action Text := do
  let state ← get
  return Item.text
    (← ofPieces perform true false (!assigned)
      (if assigned then withHomes state word else word))

def patternOf (perform : Tree → Action Text) (word : Word) :
    Action (List Letter) := do
  return Item.letters (← ofPieces perform true false true word)

end Expansion

end LineShell.Script
