import LineShell.Script.Words

/-!
Reading a script command by command.  A command can stand inside another one to
any depth; the depth is bounded by a number that is greater than the length of
the text.
-/
namespace LineShell.Script

namespace Lexeme

def keywords : List String :=
  ["!", "case", "do", "done", "elif", "else", "esac", "fi", "for", "if", "in",
   "then", "until", "while", "\x7b", "\x7d"]

def name : Lexeme → Text
  | .word _ => "word".toList
  | .keyword name => '"' :: name.toList ++ ['"']
  | .newline => "newline".toList
  | .semicolon => "\";\"".toList
  | .caseEnd => "\";;\"".toList
  | .background => "\"&\"".toList
  | .both => "\"&&\"".toList
  | .either => "\"||\"".toList
  | .pipe => "\"|\"".toList
  | .opening => "\"(\"".toList
  | .closing => "\")\"".toList
  | .toFile _ _ => "redirection".toList
  | .toCopy _ => "redirection".toList
  | .fromText _ _ => "redirection".toList
  | .final => "end of file".toList

/-- Whether a list of commands inside another command ends before a lexeme. -/
def endsList : Lexeme → Bool
  | .closing => true
  | .caseEnd => true
  | .final => true
  | .keyword name =>
      ["do", "done", "elif", "else", "esac", "fi", "then", "\x7d"].contains name
  | _ => false

def isKeyword (lexeme : Lexeme) (name : String) : Bool :=
  match lexeme with
  | .keyword found => found = name
  | _ => false

/-- The keyword that a word is, or the word. -/
def ofWord (keywords : Bool) (word : Word) : Lexeme :=
  match word with
  | [.bare text] =>
    match if keywords then Lexeme.keywords.find? (·.toList = text)
      else none with
    | some name => .keyword name
    | none => .word word
  | _ => .word word

end Lexeme

namespace Read

/-- A number that no nesting and no repetition reaches. -/
def boundless : Nat := 0x4000000000000000

/-- Stops at a lexeme that cannot stand where it stands. -/
def refuse {α : Type} (found : Lexeme) : Read α :=
  flawed (.unexpected found.name none)

/-- Stops at a lexeme that stands in the place of another one. -/
def refuseFor {α : Type} (expected found : Lexeme) : Read α :=
  flawed (.unexpected found.name (some expected.name))

def redirection (descriptor : Option Nat) : Read Lexeme := do
  if ← accept '>' then
    let number := descriptor.getD 1
    if ← accept '>' then return .toFile number .append
    else if ← accept '&' then return .toCopy number
    else return .toFile number (if ← accept '|' then .force else .truncate)
  else
    let _ ← accept '<'
    let number := descriptor.getD 0
    if ← accept '<' then return .fromText number (← accept '-')
    else if ← accept '&' then return .toCopy number
    else return .toFile number (if ← accept '>' then .update else .read)

/-- The lines of a text up to the one that ends it, as they stand. -/
def verbatim : Nat → Text → Read Text
  | 0, found => return found
  | fuel + 1, found => do
    if (← get).rest.isEmpty then
      return found
    else
      let line ← takeWhile (· ≠ '\n')
      let ended := (← get).rest.isEmpty
      advance 1
      crossLine
      verbatim fuel (found ++ line ++ if ended then [] else ['\n'])

/-- Reads the texts below the line that ends here. -/
def texts (inner : Inner) : Read Unit := do
  let announced := (← get).announced
  modify fun source => { source with announced := [] }
  announced.forM fun text => do
    let word ← upToFence text.ending text.strips text.verbatim do
      if text.verbatim then
        return [.quoted (← verbatim ((← get).rest.length + 1) [])]
      else inner.pieces .text
    modify fun source =>
      { source with
        texts := source.texts.map fun entry =>
          if entry.1 = text.number then (text.number, word) else entry }

def scan (inner : Inner) : Nat → Read Lexeme
  | 0 => return .final
  | fuel + 1 => do
    match ← peek with
    | none => return .final
    | some c =>
      let single (lexeme : Lexeme) : Read Lexeme := do
        advance 1
        return lexeme
      let double (twice once : Lexeme) : Read Lexeme := do
        advance 1
        return if ← accept c then twice else once
      if c = ' ' || c = '\t' then
        advance 1
        scan inner fuel
      else if c = '#' then
        let _ ← takeWhile (· ≠ '\n')
        scan inner fuel
      else if c = '\n' then single .newline
      else if c = '&' then double .both .background
      else if c = '|' then double .either .pipe
      else if c = ';' then double .caseEnd .semicolon
      else if c = '(' then single .opening
      else if c = ')' then single .closing
      else
        let word ← inner.pieces .bare
        let bracket := (← peek).any fun c => c = '<' || c = '>'
        match word with
        | [] => if bracket then redirection none else return .word word
        | [.bare [digit]] =>
          if bracket && digit.isDigit then
            redirection (some (digit.toNat - '0'.toNat))
          else return .word word
        | _ => return .word word

/-- The next lexeme.  Words that are keywords are taken for them if `keywords`
is set, names that stand for texts are replaced if `names` is set, and empty
lines before the lexeme are left out if `skips` is set. -/
def nextLexeme (inner : Inner) (keywords names skips : Bool) : Read Lexeme := do
  let start ← get
  let one : Read Lexeme := do
    let source ← get
    match source.held with
    | some held =>
      set { source with held := none }
      return held
    | none => scan inner (source.rest.length + 1)
  let rec skip : Nat → Lexeme → Read Lexeme
    | fuel + 1, .newline => do
      if skips then
        texts inner
        skip fuel (← one)
      else
        return .newline
    | _, found => return found
  let rec settle : Nat → Lexeme → Read Lexeme
    | fuel + 1, .word [.bare name] => do
      match Lexeme.ofWord keywords [.bare name] with
      | .word word =>
        let replaced ←
          if names || (← followsName start) then replace name else pure false
        if replaced then settle fuel (← skip ((← get).rest.length + 1) (← one))
        else return .word word
      | found => return found
    | _, found => return found
  settle boundless (← skip ((← get).rest.length + 1) (← one))

/-- The next lexeme where a command can start, or anywhere else. -/
def lexeme (inner : Inner) (starts skips : Bool) : Read Lexeme :=
  nextLexeme inner starts starts skips

def expect (inner : Inner) (name : String) : Read Unit := do
  let found ← lexeme inner false false
  if !found.isKeyword name then refuseFor (.keyword name) found

/-- Lets a redirection announce a text below. -/
def announce (ending : Text) (strips verbatim : Bool) : Read Target := do
  let source ← get
  let number := source.texts.length
  set { source with
    announced :=
      source.announced ++ [Announced.mk number ending strips verbatim]
    texts := source.texts ++ [(number, [])] }
  return .text number

/-- Whether a text starts with a digit that belongs to a redirection. -/
def startsRedirection : Text → Bool
  | digit :: bracket :: _ => digit.isDigit && (bracket = '<' || bracket = '>')
  | _ => false

/-- The target of a redirection, of which the rest has been read. -/
def target (inner : Inner) (redirection : Lexeme) : Read (Nat × Target) := do
  match redirection with
  | .fromText descriptor strips =>
    let _ ← takeJoined fun c => c = ' ' || c = '\t'
    let plain := (← peek).any fun c => !Words.endsWord c && c ≠ '#'
    if plain && !startsRedirection (← get).rest then
      let (ending, quoted) ← Words.readEnding ((← get).rest.length + 1) [] false
      return (descriptor, ← announce ending strips quoted)
    else
      refuse (← lexeme inner false false)
  | _ =>
    match ← lexeme inner false false, redirection with
    | .word word, .toFile descriptor opening =>
        return (descriptor, .file opening word)
    | .word word, .toCopy descriptor => return (descriptor, .copy word)
    | other, _ => refuse other

/-- The redirections that come next.  What follows the first of them is not
taken for a keyword. -/
def targets (inner : Inner) :
    Nat → List (Nat × Target) → Read (List (Nat × Target))
  | 0, found => return found
  | fuel + 1, found => do
    match ← lexeme inner found.isEmpty false with
    | .toFile descriptor opening =>
      targets inner fuel
        (found ++ [← target inner (.toFile descriptor opening)])
    | .toCopy descriptor =>
        targets inner fuel (found ++ [← target inner (.toCopy descriptor)])
    | .fromText descriptor strips =>
      targets inner fuel
        (found ++ [← target inner (.fromText descriptor strips)])
    | other =>
      hold other
      return found

/-- The builtins whose names no function can have. -/
def specialNames : List String :=
  [".", ":", "break", "continue", "eval", "exec", "exit", "export", "local",
   "readonly", "return", "set", "shift", "times", "trap", "unset"]

def assignment? (word : Word) : Option (Text × Word) :=
  match word with
  | .bare text :: rest =>
    let name := text.takeWhile (· ≠ '=')
    if Words.isName name && name.length < text.length then
      let value := text.drop (name.length + 1)
      some (name, if value.isEmpty then rest else .bare value :: rest)
    else
      none
  | _ => none

/-- A simple command, or the definition of a function. -/
def simple (inner : Inner) : Read Tree := do
  let line := (← get).line
  let rec loop : Nat → List (Text × Word) → List Word → List (Nat × Target) →
    Read Tree
    | 0, assignments, words, targets =>
        return .simple line assignments words targets
    | fuel + 1, assignments, words, targets => do
      let redirect (found : Lexeme) : Read Tree := do
        loop fuel assignments words (targets ++ [← target inner found])
      match ← nextLexeme inner false words.isEmpty false with
      | .word word =>
        match if words.isEmpty then assignment? word else none with
        | some assignment =>
            loop fuel (assignments ++ [assignment]) words targets
        | none => loop fuel assignments (words ++ [word]) targets
      | .toFile descriptor opening => redirect (.toFile descriptor opening)
      | .toCopy descriptor => redirect (.toCopy descriptor)
      | .fromText descriptor strips => redirect (.fromText descriptor strips)
      | .opening =>
        match assignments, words, targets with
        | [], [word], [] =>
          match ← lexeme inner false false with
          | .closing =>
            match word with
            | [.bare name] =>
              if !Words.isName name || specialNames.any (·.toList = name) then
                flawed .badFunction
              match ← lexeme inner true true with
              | next =>
                hold next
                return .define name (← inner.command)
            | _ => flawed .badFunction
          | other => refuseFor .closing other
        | _, _, _ =>
          hold .opening
          return .simple line assignments words targets
      | other =>
        hold other
        return .simple line assignments words targets
  loop ((← get).rest.length + 2) [] [] []

/-- Commands parted by bars, of which the first lexeme is already there. -/
def pipeline (inner : Inner) (negated : Bool) : Read Tree := do
  let first ← inner.command
  let rec loop : Nat → List Tree → Read (List Tree)
    | 0, parts => return parts
    | fuel + 1, parts => do
      match ← lexeme inner false false with
      | .pipe =>
        hold (← lexeme inner true true)
        loop fuel (parts ++ [← inner.command])
      | other =>
        hold other
        return parts
  let parts ← loop ((← get).rest.length + 1) [first]
  let body := if parts.length = 1 then first else .pipe parts
  return if negated then .negated body else body

/-- Pipelines joined by signs that make a command depend on the one before. -/
def chain (inner : Inner) : Read Tree := do
  let part : Read Tree := do
    match ← lexeme inner false false with
    | .keyword "!" =>
      hold (← lexeme inner true false)
      pipeline inner true
    | other =>
      hold other
      pipeline inner false
  let rec loop : Nat → Tree → Read Tree
    | 0, tree => return tree
    | fuel + 1, tree => do
      match ← lexeme inner false false with
      | .both =>
        hold (← lexeme inner true true)
        loop fuel (.both tree (← part))
      | .either =>
        hold (← lexeme inner true true)
        loop fuel (.either tree (← part))
      | other =>
        hold other
        return tree
  loop ((← get).rest.length + 1) (← part)

/-- Commands one after the other.  With `skips` they may stand on several lines
and end where the command around them goes on; else they end with their line. -/
def list (inner : Inner) (skips : Bool) :
    Nat → Bool → Option Tree → Read (Option Tree)
  | 0, _, tree => return tree
  | fuel + 1, endable, tree => do
    let found ← lexeme inner true skips
    match found with
    | .newline =>
      texts inner
      return some (tree.getD .nothing)
    | .final =>
      texts inner
      hold .final
      return tree
    | _ =>
      hold found
      if endable && found.endsList then
        return tree
      else
        let one ← chain inner
        let sign ← lexeme inner false false
        let one :=
          match sign with
          | .background => .background one
          | _ => one
        let all :=
          match tree with
          | some before => .sequence before one
          | none => one
        match sign with
        | .final =>
          texts inner
          hold .final
          return some all
        | .newline =>
          hold .newline
          list inner skips fuel skips (some all)
        | .semicolon => list inner skips fuel skips (some all)
        | .background => list inner skips fuel skips (some all)
        | other =>
          if !skips then refuse other
          hold other
          return some all

/-- The commands inside another command, of which there has to be one. -/
def body (inner : Inner) : Read Tree := do
  return (← list inner true ((← get).rest.length + 2) false none).getD .nothing

/-- The branches of an `if` after its first test. -/
def branches (inner : Inner) (test : Tree) : Nat → Read Tree
  | 0 => return .nothing
  | fuel + 1 => do
    expect inner "then"
    let yes ← body inner
    match ← lexeme inner false false with
    | .keyword "elif" =>
      let next ← body inner
      return .choice test yes (← branches inner next fuel)
    | .keyword "else" => return .choice test yes (← body inner)
    | other =>
      hold other
      return .choice test yes .nothing

/-- The words of a loop after its name, and its body up to the end. -/
def loopWords (inner : Inner) (line : Nat) (name : Text) : Read Tree := do
  let rec words : Nat → List Word → Read (List Word × Lexeme)
    | 0, found => return (found, .final)
    | fuel + 1, found => do
      match ← lexeme inner false false with
      | .word word => words fuel (found ++ [word])
      | other => return (found, other)
  let all ←
    match ← lexeme inner true true with
    | .keyword "in" => do
      let (found, last) ← words ((← get).rest.length + 1) []
      match last with
      | .newline => pure found
      | .semicolon => pure found
      | other => refuse other
    | .semicolon => pure [[.value true .each .plain]]
    | other => do
      hold other
      pure [[.value true .each .plain]]
  match ← lexeme inner true true with
  | .keyword "do" => return .each line name all (← body inner)
  | other => refuseFor (.keyword "do") other

/-- A pattern that is read as a word, whatever the lexeme is. -/
def patternOf : Lexeme → Word
  | .word word => word
  | .keyword name => [.bare name.toList]
  | _ => []

/-- The branches of a `case` up to its end. -/
def cases (inner : Inner) :
    Nat → List (List Word × Tree) → Read (List (List Word × Tree))
  | 0, found => return found
  | fuel + 1, found => do
    let first ← lexeme inner true true
    if first.isKeyword "esac" then
      return found
    else
      let start ←
        match first with
        | .opening => lexeme inner false false
        | other => pure other
      let rec patterns : Nat → List Word → Read (List Word × Lexeme)
        | 0, all => return (all, .final)
        | more + 1, all => do
          match ← lexeme inner false false with
          | .pipe =>
              patterns more (all ++ [patternOf (← lexeme inner false false)])
          | other => return (all, other)
      let (all, last) ← patterns ((← get).rest.length + 1) [patternOf start]
      match last with
      | .closing => pure ()
      | other => refuseFor .closing other
      let body :=
        (← list inner true ((← get).rest.length + 2) true none).getD .nothing
      let next ← lexeme inner true true
      match next with
      | .caseEnd => cases inner fuel (found ++ [(all, body)])
      | .keyword "esac" => return found ++ [(all, body)]
      | other => refuseFor .caseEnd other

/-- A command, of which the first lexeme is already there. -/
def command (inner : Inner) : Read Tree := do
  let line := (← get).line
  let whole (tree : Tree) : Read Tree := do
    let found ← targets inner ((← get).rest.length + 1) []
    return if found.isEmpty then tree else .redirected line tree found
  match ← lexeme inner false false with
  | .keyword "if" =>
    let test ← body inner
    let tree ← branches inner test ((← get).rest.length + 1)
    expect inner "fi"
    whole tree
  | .keyword "while" =>
    let test ← body inner
    expect inner "do"
    let tree := .loop false test (← body inner)
    expect inner "done"
    whole tree
  | .keyword "until" =>
    let test ← body inner
    expect inner "do"
    let tree := .loop true test (← body inner)
    expect inner "done"
    whole tree
  | .keyword "for" =>
    match ← lexeme inner false false with
    | .word [.bare name] =>
      if !Words.isName name then flawed .badVariable
      let tree ← loopWords inner line name
      expect inner "done"
      whole tree
    | _ => flawed .badVariable
  | .keyword "case" =>
    match ← lexeme inner false false with
    | .word word =>
      match ← lexeme inner true true with
      | .keyword "in" =>
          whole (.select line word (← cases inner ((← get).rest.length + 1) []))
      | other => refuseFor (.keyword "in") other
    | other => refuseFor (.word []) other
  | .opening =>
    let tree := .subshell line (← body inner)
    match ← lexeme inner false false with
    | .closing => whole tree
    | other => refuseFor .closing other
  | .keyword "\x7b" =>
    let tree ← body inner
    expect inner "\x7d"
    whole tree
  | .word word =>
    hold (.word word)
    simple inner
  | .toFile descriptor opening =>
    hold (.toFile descriptor opening)
    simple inner
  | .toCopy descriptor =>
    hold (.toCopy descriptor)
    simple inner
  | .fromText descriptor strips =>
    hold (.fromText descriptor strips)
    simple inner
  | other => refuse other

/-- What reads the parts of a command that are nested at most so deep. -/
def inner : Nat → Inner
  | 0 => ⟨flawed .tooDeep, flawed .tooDeep, flawed .tooDeep, fun _ =>
      flawed .tooDeep⟩
  | depth + 1 =>
    let deeper := inner depth
    { command := command deeper
      list := do
        return (← list deeper true ((← get).rest.length + 2) true none).getD
          .nothing
      close := do
        match ← lexeme deeper false false with
        | .closing => pure ()
        | other => refuseFor .closing other
      pieces := Words.read deeper }

def depthLimit : Nat := 1000

def parts : Inner := inner depthLimit

/-- The next command of a script, on a line of its own or on several; none at
the end. -/
def line : Read (Option Tree) := do
  list parts false ((← get).rest.length + 2) false none

end Read

end LineShell.Script
