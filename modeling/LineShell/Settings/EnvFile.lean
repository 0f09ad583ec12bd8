import LineShell.Text.Blank

/-!
Environment files: one binding of a variable a line, with an optional `export`,
comments, and values that stand bare or between quotes.  A value may refer to
variables as `${NAME}` or `${NAME:-default}`.  A line that is no binding is
passed over with a complaint.
-/
namespace LineShell.EnvFile

structure Binding where
  name : Text
  value : Option Text
  deriving DecidableEq, Repr

inductive Statement where
  | binding (binding : Binding)
  /-- No binding can be read, where reading began on this line. -/
  | malformed (line : Nat)
  deriving DecidableEq, Repr

/-- A step of reading: what was read and the rest, or the place where the text
goes wrong. -/
abbrev Reading (α : Type) := Except Text (α × Text)

/-- All line ends as line feeds. -/
def unifyLineEnds : Text → Text
  | [] => []
  | '\r' :: '\n' :: rest => '\n' :: unifyLineEnds rest
  | '\r' :: rest => '\n' :: unifyLineEnds rest
  | c :: rest => c :: unifyLineEnds rest

/-- No carriage return is left. -/
theorem not_mem_unifyLineEnds (text : Text) : '\r' ∉ unifyLineEnds text := by
  fun_induction unifyLineEnds text with
  | case1 => simp
  | case2 rest ih => simp [ih]
  | case3 rest _ ih => simp [ih]
  | case4 c rest _ hc ih => simpa using ⟨fun heq => hc heq.symm, ih⟩

/-- A blank that ends no line. -/
def isGap (c : Char) : Bool := Text.isBlank c && c ≠ '\n' && c ≠ '\r'

def skipGap (text : Text) : Text := text.dropWhile isGap

/-- A text without `export` and the gap after it. -/
def skipExport (text : Text) : Text :=
  let word := "export".toList
  if word.isPrefixOf text && (text.drop word.length).head?.any isGap then
    skipGap (text.drop word.length)
  else
    text

def isNameChar (c : Char) : Bool := !(c = '=' || c = '#' || Text.isBlank c)

/-- Reads the name of a variable; a comment has none. -/
def readName (text : Text) : Reading (Option Text) :=
  match text with
  | '#' :: _ => .ok (none, text)
  | '\'' :: rest =>
    match rest.takeWhile (· ≠ '\''), rest.dropWhile (· ≠ '\'') with
    | first :: name, _ :: after => .ok (some (first :: name), after)
    | _, _ => .error text
  | _ =>
    match text.takeWhile isNameChar with
    | [] => .error text
    | name => .ok (some name, text.dropWhile isNameChar)

/-- Cuts a text at the first quote that no backslash escapes; `escaped` tells
whether one escapes the first character of the text. -/
def cutAtQuote (quote : Char) (escaped : Bool) : Text → Option (Text × Text)
  | [] => none
  | c :: rest =>
    if c = quote && !escaped then
      some ([], rest)
    else
      (cutAtQuote quote (c = '\\' && !escaped) rest).map fun (body, after) =>
        (c :: body, after)

/-- A body without quotes and backslashes is cut off as it is. -/
theorem cutAtQuote_append {quote : Char} {body : Text} (hquote : quote ∉ body)
    (hescape : '\\' ∉ body) (rest : Text) :
    cutAtQuote quote false (body ++ quote :: rest) = some (body, rest) := by
  induction body with
  | nil => simp [cutAtQuote]
  | cons c others ih =>
    simp only [List.mem_cons, not_or] at hquote hescape
    have hplain : decide (c = '\\') = false :=
      decide_eq_false (Ne.symm hescape.1)
    simp [cutAtQuote, Ne.symm hquote.1, hplain, ih hquote.2 hescape.2]

/-- Of a text that is cut at a quote nothing is lost. -/
theorem cutAtQuote_eq {quote : Char} {escaped : Bool} {text body rest : Text}
    (h : cutAtQuote quote escaped text = some (body, rest)) :
    text = body ++ quote :: rest := by
  induction text generalizing escaped body with
  | nil => simp [cutAtQuote] at h
  | cons c others ih =>
    unfold cutAtQuote at h
    split at h
    · rename_i hquote
      obtain ⟨rfl, rfl⟩ := Prod.mk.inj (Option.some.inj h)
      simp only [Bool.and_eq_true, decide_eq_true_eq] at hquote
      simp [hquote.1]
    · obtain ⟨⟨body', rest'⟩, hcut, heq⟩ := Option.map_eq_some_iff.1 h
      obtain ⟨rfl, rfl⟩ := Prod.mk.inj heq
      simp [ih hcut]

/-- What an escape in a value between double quotes stands for. -/
def escaped? : Char → Option Char
  | '\\' => some '\\'
  | '\'' => some '\''
  | '"' => some '"'
  | 'a' => some '\x07'
  | 'b' => some '\x08'
  | 'f' => some '\x0c'
  | 'n' => some '\n'
  | 'r' => some '\r'
  | 't' => some '\t'
  | 'v' => some '\x0b'
  | _ => none

/-- What an escape in a value between single quotes stands for. -/
def plainEscaped? (c : Char) : Option Char :=
  if c = '\\' || c = '\'' then some c else none

def unescape (value? : Char → Option Char) : Text → Text
  | [] => []
  | '\\' :: c :: rest =>
    match value? c with
    | some value => value :: unescape value? rest
    | none => '\\' :: unescape value? (c :: rest)
  | c :: rest => c :: unescape value? rest

def readQuoted (quote : Char) (value? : Char → Option Char) (text : Text) :
    Reading Text :=
  match cutAtQuote quote false text with
  | some (body, after) => .ok (unescape value? body, after)
  | none => .error (quote :: text)

/-- A bare value without the comment that may follow it after a blank. -/
def withoutComment : Text → Text
  | [] => []
  | c :: rest =>
    if Text.isBlank c && (rest.dropWhile Text.isBlank).head? = some '#' then []
    else c :: withoutComment rest

/-- Reads a bare value, which may start with a gap: a comment can follow right
after that. -/
def readBare (text : Text) : Reading Text :=
  .ok
    (Text.trimEnd (Text.trimStart (withoutComment (text.takeWhile (· ≠ '\n')))),
    text.dropWhile (· ≠ '\n'))

def readValue (text : Text) : Reading Text :=
  match skipGap text with
  | '\'' :: rest => readQuoted '\'' plainEscaped? rest
  | '"' :: rest => readQuoted '"' escaped? rest
  | _ => readBare text

/-- Reads the sign and the value that may follow a name. -/
def readAssignment (text : Text) : Reading (Option Text) :=
  match skipGap text with
  | '=' :: rest => (readValue rest).map fun (value, after) =>
      (some value, after)
  | rest => .ok (none, rest)

/-- A text without a comment and the gap before it. -/
def skipComment (text : Text) : Text :=
  match skipGap text with
  | '#' :: rest => rest.dropWhile (· ≠ '\n')
  | _ => text

def readLineEnd (text : Text) : Reading Unit :=
  match skipGap text with
  | [] => .ok ((), [])
  | '\n' :: rest => .ok ((), rest)
  | _ => .error text

/-- Reads one binding, or a comment. -/
def readBinding (text : Text) : Except Text (Option Binding × Text) := do
  let (name, afterName) ← readName (skipExport text)
  let (value, afterValue) ← readAssignment afterName
  let (_, rest) ← readLineEnd (skipComment afterValue)
  return (name.map fun name => ⟨name, value⟩, rest)

/-- Reads statements until the text, which begins on the given line, ends; at
most as many as the fuel allows. -/
def readAll : Nat → Nat → Text → List Statement
  | 0, _, _ => []
  | fuel + 1, line, text =>
    match Text.trimStart text with
    | [] => []
    | start =>
      let following (rest : Text) : List Statement :=
        readAll fuel (line + (text.count '\n' - rest.count '\n')) rest
      match readBinding start with
      | .ok (binding, rest) => binding.toList.map .binding ++ following rest
      | .error place =>
          .malformed line :: following ((place.dropWhile (· ≠ '\n')).drop 1)

/-- A text without the mark of byte order that may stand at its start. -/
def withoutOrderMark : Text → Text
  | '\ufeff' :: rest => rest
  | text => text

/-- The statements of a file, in order.  Every statement takes a character, so
that the length of the text is fuel enough. -/
def statements (content : Text) : List Statement :=
  let text := unifyLineEnds (withoutOrderMark content)
  readAll (text.length + 1) 1 text

def Statement.binding? : Statement → Option Binding
  | .binding found => some found
  | .malformed _ => none

def Statement.complaint? : Statement → Option Text
  | .binding _ => none
  | .malformed line =>
    some ("python-dotenv could not parse statement starting at line ".toList ++
      Nat.toDigits 10 line)

def complaints (content : Text) : List Text :=
  (statements content).filterMap Statement.complaint?

/-- The reference to a variable at the start of a text, after the dollar sign
and the brace: its name, what stands in for it, and the rest. -/
def reference? (text : Text) : Option (Text × Text × Text) :=
  let name := text.takeWhile fun c => c ≠ '}' && c ≠ ':'
  match text.drop name.length with
  | '}' :: rest => some (name, [], rest)
  | ':' :: '-' :: rest =>
    match rest.dropWhile (· ≠ '}') with
    | [] => none
    | _ :: after => some (name, rest.takeWhile (· ≠ '}'), after)
  | _ => none

/-- A value with the references to variables replaced, where `value?` says what
a variable holds if it is known at all. -/
def expand (value? : Text → Option (Option Text)) : Nat → Text → Text
  | 0, text => text
  | _, [] => []
  | fuel + 1, c :: rest =>
    if c = '$' && rest.head? = some '{' then
      match reference? (rest.drop 1) with
      | some (name, fallback, after) =>
        ((value? name).getD (some fallback)).getD [] ++ expand value? fuel after
      | none => c :: expand value? fuel rest
    else
      c :: expand value? fuel rest

/-- Sets a variable; a variable that was set before keeps its place. -/
def assign (name : Text) (value : Option Text) :
    List (Text × Option Text) → List (Text × Option Text)
  | [] => [(name, value)]
  | first :: rest =>
    if first.1 = name then (name, value) :: rest
    else first :: assign name value rest

/-- Sets one variable after another; a reference means a variable set before, or
else one of the environment. -/
def assignAll (environment : List (Text × Text))
    (known : List (Text × Option Text)) :
    List Binding → List (Text × Option Text)
  | [] => known
  | binding :: rest =>
    let value? (name : Text) : Option (Option Text) :=
      (known.lookup name).or ((environment.lookup name).map some)
    let value := binding.value.map fun text => expand value? text.length text
    assignAll environment (assign binding.name value known) rest

/-- The variables of a file, each once, in the order of their first lines; the
last line of a variable counts, even if it gives no value. -/
def values (environment : List (Text × Text)) (content : Text) :
    List (Text × Option Text) :=
  assignAll environment [] ((statements content).filterMap Statement.binding?)

example :
    values [] "# c\n\nexport A = 'x y' # z\nB=\"q\\n\"\nC\nA=b #c\n".toList =
    [(['A'], some ['b']), (['B'], some ['q', '\n']), (['C'], none)] := by
      decide +kernel

example : values [(['H'], ['h'])] "A=${H}${N:-n}\nB=$A${A}".toList =
    [(['A'], some ['h', 'n']), (['B'], some ['$', 'A', 'h', 'n'])] := by
      decide +kernel

example : values [] "A='x\\\\'\nB= # c\nC=#d\nD='e\\'".toList =
    [(['A'], some ['x', '\\']), (['B'], some []),
      (['C'], some ['#', 'd'])] := by decide +kernel

example : statements "A\n\n\n=b\nc d".toList =
    [.binding ⟨['A'], none⟩, .malformed 2, .malformed 5] := by decide +kernel

end LineShell.EnvFile
