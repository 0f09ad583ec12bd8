import LineShell.Script.Arithmetic
import LineShell.Script.Source

/-!
Reading the words of a script.  A word ends at a blank or an operator outside
quotes.  Parts of a word can hold words and commands of their own; what reads
those is handed over as an `Inner`.
-/
namespace LineShell.Script

inductive Place where
  /-- In a word, outside quotes. -/
  | bare
  /-- Between double quotes. -/
  | double
  /-- Between the braces of a parameter, outside quotes. -/
  | braces
  /-- Between the braces of a parameter between double quotes. -/
  | doubleBraces
  /-- In an expression. -/
  | sum
  /-- In a text below a command. -/
  | text
  deriving DecidableEq, Repr

structure Inner where
  /-- A command. -/
  command : Read Tree
  /-- The commands up to something that ends them. -/
  list : Read Tree
  /-- What closes a list of commands between parentheses. -/
  close : Read Unit
  /-- The pieces in a place up to its end. -/
  pieces : Place → Read Word

namespace Place

def isQuoted : Place → Bool
  | .bare => false
  | .braces => false
  | _ => true

end Place

namespace Words

def isNameChar (c : Char) : Bool := c.isAlphanum || c = '_'

def isName (text : Text) : Bool :=
  text.all isNameChar && text.head?.any fun c => !c.isDigit

def endsWord (c : Char) : Bool := " \t\n;&|<>()".toList.contains c

def add (quoted : Bool) (text : Text) (word : Word) : Word :=
  match quoted, word.getLast? with
  | true, some (.quoted before) => word.dropLast ++ [.quoted (before ++ text)]
  | false, some (.bare before) => word.dropLast ++ [.bare (before ++ text)]
  | true, _ => word ++ [.quoted text]
  | false, _ => word ++ [.bare text]

/-- What stands between double quotes as a part of a word: even quotes around
nothing make a word, but quotes around all arguments make none where there are
no arguments. -/
def closed (inner : Word) : Word :=
  match inner with
  | [.value true .each .plain] => inner
  | _ => .quoted [] :: inner ++ [.quoted []]

/-- The parameter that a name or a single character means. -/
def parameterOf? (name : Text) : Option Parameter :=
  match name with
  | ['#'] => some .count
  | ['?'] => some .status
  | ['$'] => some .self
  | ['*'] => some .joined
  | ['@'] => some .each
  | ['!'] => some .background
  | ['-'] => some .options
  | _ =>
    if isName name then some (.named name)
    else (Arithmetic.natural? name).map .positional

/-- Whether a character is a parameter by itself. -/
def isSpecial (c : Char) : Bool := "#?$*@!-".toList.contains c || c.isDigit

/-- The name between braces, and whether the number of characters is asked
for. -/
def readName : Read (Text × Bool) := do
  let plain : Read Text := do
    match ← Read.peek with
    | none => return []
    | some c =>
      if c.isDigit then Read.takeJoined Char.isDigit
      else if isNameChar c then Read.takeJoined isNameChar
      else if isSpecial c then
        Read.advance 1
        return [c]
      else return []
  match ← Read.peek with
  | some '#' =>
    Read.advance 1
    match ← Read.peek with
    | none => return (['#'], false)
    | some c =>
      if isNameChar c then
        return (← Read.takeJoined (if c.isDigit then Char.isDigit
          else isNameChar), true)
      else
        let before ← get
        Read.advance 1
        if c ≠ '}' && (← Read.peek) = some '}' then
          return ([c], true)
        else
          set before
          return (['#'], false)
  | _ => return (← plain, false)

/-- Puts what stands between braces or parentheses into a piece.  If that ends
early, the rest of it follows the piece, and its end is one of what the piece
stands in. -/
def enclose (make : Word → Piece) (word : Word) : Word :=
  match word.span (!Piece.isEnd ·) with
  | (inside, []) => [make inside]
  | (inside, _ :: after) => make inside :: after ++ [.ends]

/-- What stands after the name between braces: what the text up to the closing
brace becomes, and where that text stands; nothing if the braces end.  A colon
with no sign asks for the value only, and what follows it is no part of what the
braces hold. -/
def readSign (place : Place) (make : Use → Piece) :
    Read (Option ((Word → Word) × Place)) := do
  let outer := if place.isQuoted then Place.doubleBraces else .braces
  let orEmpty ← Read.accept ':'
  let flawed : Option ((Word → Word) × Place) :=
    some (fun _ => [.flawed], outer)
  let use (found : Word → Use) : Option ((Word → Word) × Place) :=
    some (enclose fun word => make (found word), outer)
  let trim (c : Char) : Read (Option ((Word → Word) × Place)) := do
    let longest ← Read.accept c
    return some (enclose fun word => make (.trim (c = '%') longest word),
      .braces)
  match ← Read.nextUncounted with
  | some '-' => return use (.otherwise orEmpty)
  | some '+' => return use (.instead orEmpty)
  | some '=' => return use (.assign orEmpty)
  | some '?' => return use (.require orEmpty)
  | some '}' =>
    return if orEmpty then
      some (fun word => make .plain :: word ++ [.ends], outer)
    else none
  | some '%' => if orEmpty then return flawed else trim '%'
  | some '#' => if orEmpty then return flawed else trim '#'
  | _ => return flawed

def readBraces (inner : Inner) (place : Place) : Read Word := do
  let quoted := place.isQuoted
  let outer := if quoted then Place.doubleBraces else .braces
  let (name, counted) ← readName
  match parameterOf? name with
  | none =>
    if (← Read.peek) ≠ some '}' then
      let _ ← Read.nextUncounted
    let _ ← inner.pieces outer
    return [.flawed]
  | some parameter =>
    if counted then
      if (← Read.peek) = some '}' then
        Read.advance 1
        return [.value quoted parameter .size]
      else
        let _ ← inner.pieces outer
        return [.flawed]
    else
      match ← readSign place (.value quoted parameter) with
      | none => return [.value quoted parameter .plain]
      | some (become, body) => return become (← inner.pieces body)

/-- Reads commands between backquotes, whose text is taken out first: a
backslash before a character that has a meaning there is dropped. -/
def readBackquoted (inner : Inner) (quoted : Bool) : Read Piece := do
  let rec loop : Nat → Text → Read Text
    | 0, text => return text
    | fuel + 1, text => do
      match ← Read.next with
      | none => Read.flawed .openOutput
      | some '`' => return text
      | some '\\' =>
        match (← get).rest.head? with
        | none => Read.flawed .openOutput
        | some c =>
          Read.advance 1
          let dropped := c = '\\' || c = '`' || c = '$' || (quoted && c = '"')
          loop fuel (text ++ if dropped then [c] else ['\\', c])
      | some c => loop fuel (text ++ [c])
  let text ← loop ((← get).rest.length + 1) []
  return .output quoted (← Read.within 1 text inner.list)

def readDollar (inner : Inner) (place : Place) : Read Word := do
  let quoted := place.isQuoted
  let sign : Piece := if quoted then .quoted ['$'] else .bare ['$']
  match ← Read.peek with
  | none => return [sign]
  | some '(' =>
    Read.advance 1
    if ← Read.accept '(' then
      return enclose (.number quoted) (← inner.pieces .sum)
    else
      let command ← Read.apart do
        let command ← inner.list
        inner.close
        return command
      return [.output quoted command]
  | some '{' =>
    Read.advance 1
    readBraces inner place
  | some c =>
    if isSpecial c then
      Read.advance 1
      return [((parameterOf? [c]).map fun parameter =>
        .value quoted parameter .plain).getD sign]
    else if isNameChar c then
      return [.value quoted (.named (← Read.takeJoined isNameChar)) .plain]
    else
      return [sign]

/-- The flaw where what stands between quotes does not end; in a text below a
command it is missed that the braces around them do not. -/
def openEnd : Read Flaw := do
  return if (← get).fence.isSome then .openBrace else .openQuote

/-- Reads what stands between single quotes, after the first of them. -/
def readLiteral : Read Text := do
  let rec loop : Nat → Text → Read Text
    | 0, text => return text
    | fuel + 1, text => do
      match (← get).rest.head? with
      | none => Read.flawed (← openEnd)
      | some c =>
        Read.advance 1
        if c = '\'' then
          return text
        else
          if c = '\n' then Read.crossLine
          loop fuel (text ++ [c])
  loop ((← get).rest.length + 1) []

def addPiece (word : Word) : Piece → Word
  | .bare text => add false text word
  | .quoted text => add true text word
  | piece => word ++ [piece]

/-- Reads the pieces in a place up to its end.  `level` counts open parentheses
in an expression, and `inside` tells whether quotes are open between braces
between double quotes. -/
def readPieces (inner : Inner) (place : Place) :
    Nat → Nat → Bool → Word → Read Word
  | 0, _, _, word => return word
  | fuel + 1, level, inside, word => do
    let again (changed : Word) : Read Word :=
      readPieces inner place fuel level inside changed
    match ← Read.peek with
    | none =>
      match place with
      | .bare => return word
      | .braces => Read.flawed .openBrace
      | .sum => Read.flawed .openSum
      | .text => return word
      | _ => Read.flawed (← openEnd)
    | some c =>
      let quoted := place.isQuoted
      let plain : Read Word := do
        Read.advance 1
        if c = '\n' then Read.crossLine
        again (add quoted [c] word)
      if c = '$' then
        Read.advance 1
        again ((← readDollar inner place).foldl addPiece word)
      else if c = '`' then
        Read.advance 1
        again (word ++ [← readBackquoted inner quoted])
      else if c = '\\' then
        Read.advance 1
        match (← get).rest.head? with
        | none => again (add true ['\\'] word)
        | some next =>
          Read.advance 1
          let dropped := !quoted || "\\`$".toList.contains next ||
            (next = '"' && place ≠ .text) ||
              (next = '}' && place = .doubleBraces && !inside)
          again (add true (if dropped then [next] else ['\\', next]) word)
      else
        match place with
        | .bare =>
          if endsWord c then
            return word
          else if c = '"' then
            Read.advance 1
            again ((closed (← inner.pieces .double)).foldl addPiece word)
          else if c = '\'' then
            Read.advance 1
            again (add true (← readLiteral) word)
          else
            plain
        | .braces =>
          if c = '}' then
            Read.advance 1
            return word
          else if c = '"' then
            Read.advance 1
            again ((closed (← inner.pieces .double)).foldl addPiece word)
          else if c = '\'' then
            Read.advance 1
            again (add true (← readLiteral) word)
          else
            plain
        | .double =>
          if c = '"' then
            Read.advance 1
            return word
          else
            plain
        | .doubleBraces =>
          if c = '"' then
            Read.advance 1
            readPieces inner place fuel level (!inside) word
          else if c = '}' && !inside then
            Read.advance 1
            return word
          else
            plain
        | .sum =>
          if c = '(' then
            Read.advance 1
            readPieces inner place fuel (level + 1) inside (add quoted [c] word)
          else if c = ')' then
            Read.advance 1
            match level with
            | level + 1 =>
                readPieces inner place fuel level inside (add quoted [c] word)
            | 0 => if ← Read.accept ')' then
                return word else again (add quoted [c] word)
          else
            plain
        | .text => plain

/-- Reads the line that ends a text below a command as its redirection gives it,
where only quotes have a meaning; the answer tells whether there are any. -/
def readEnding : Nat → Text → Bool → Read (Text × Bool)
  | 0, ending, quoted => return (ending, quoted)
  | fuel + 1, ending, quoted => do
    match ← Read.peek with
    | none => return (ending, quoted)
    | some c =>
      if endsWord c then
        return (ending, quoted)
      else
        Read.advance 1
        if c = '\\' then
          let next := (← get).rest.take 1
          Read.advance 1
          readEnding fuel (ending ++ if next.isEmpty then [c] else next) true
        else if c = '\'' then
          readEnding fuel (ending ++ (← readLiteral)) true
        else if c = '"' then
          let rec between : Nat → Text → Read Text
            | 0, text => return text
            | more + 1, text => do
              match ← Read.next with
              | none => Read.flawed .openQuote
              | some '"' => return text
              | some '\\' =>
                let next := (← get).rest.take 1
                Read.advance 1
                let dropped := next.any fun c => "\\`$\"".toList.contains c
                between more (text ++ if dropped then next else '\\' :: next)
              | some c => between more (text ++ [c])
          readEnding fuel
            (ending ++ (← between ((← get).rest.length + 1) [])) true
        else
          readEnding fuel (ending ++ [c]) quoted

/-- Reads the pieces in a place from its start to its end. -/
def read (inner : Inner) (place : Place) : Read Word := do
  readPieces inner place ((← get).rest.length + 1) 0 false []

end Words

end LineShell.Script
