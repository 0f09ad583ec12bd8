import LineShell.Text

/-!
Options: letters after a dash at the start of arguments, some of which have a
value.  Two dashes by themselves end the options.
-/
namespace LineShell.Script.Options

/-- The options that the letters of one argument mean, up to the first one that
means none; the last one may still want a value. -/
def ofLetters (plain valued : Text) :
    Text → List (Char × Text) × Except Text (Option Char)
  | [] => ([], .ok none)
  | letter :: rest =>
    if valued.contains letter then
      if rest.isEmpty then ([], .ok (some letter))
      else ([(letter, rest)], .ok none)
    else if plain.contains letter then
      let (found, pending) := ofLetters plain valued rest
      ((letter, []) :: found, pending)
    else
      ([], .error ("Illegal option -".toList ++ [letter]))

/-- The options at the start of arguments up to a mistake, where the option
before them may still want a value, and the arguments after them. -/
def upToMistake (plain valued : Text) :
    Option Char → List Text → List (Char × Text) × Except Text (List Text)
  | some letter, [] =>
      ([], .error ("No arg for -".toList ++ [letter] ++ " option".toList))
  | some letter, value :: rest =>
    let (found, left) := upToMistake plain valued none rest
    ((letter, value) :: found, left)
  | none, [] => ([], .ok [])
  | none, argument :: rest =>
    match argument with
    | ['-', '-'] => ([], .ok rest)
    | '-' :: letter :: letters =>
      match ofLetters plain valued (letter :: letters) with
      | (found, .error words) => (found, .error words)
      | (found, .ok pending) =>
        let (others, left) := upToMistake plain valued pending rest
        (found ++ others, left)
    | _ => ([], .ok (argument :: rest))

/-- The options at the start of arguments, and the arguments after them. -/
def read (plain valued : Text) (arguments : List Text) :
    Except Text (List (Char × Text) × List Text) :=
  let (found, rest) := upToMistake plain valued none arguments
  rest.map fun left => (found, left)

/-- The options of a script by name, with the letter that stands for each. -/
def settings : List (String × Char) :=
  [("errexit", 'e'), ("noglob", 'f'), ("ignoreeof", 'I'), ("interactive", 'i'),
   ("monitor", 'm'), ("noexec", 'n'), ("stdin", 's'), ("xtrace", 'x'),
   ("verbose", 'v'), ("vi", 'V'), ("emacs", 'E'), ("noclobber", 'C'),
   ("allexport", 'a'), ("notify", 'b'), ("nounset", 'u'), ("privileged", 'p'),
   ("nolog", '1'), ("debug", '2')]

def letters : Text :=
  (settings.map Prod.snd).filter fun letter => !letter.isDigit

def change (options : Text) (letter : Char) (value : Bool) : Text :=
  let kept := options.filter (· ≠ letter)
  let wanted := if value then letter :: kept else kept
  (settings.map Prod.snd).filter wanted.contains

/-- Options with one of them set or not by its letter; of the two for editing a
line, one that is set takes the place of the other. -/
def switch (options : Text) (letter : Char) (value : Bool) : Text :=
  let kept := options.filter fun c =>
    !(value && ((letter = 'V' && c = 'E') || (letter = 'E' && c = 'V')))
  change kept letter value

/-- The options that are set, by their letters, the last ones first. -/
def shown (options : Text) : Text :=
  (options.filter fun letter => !letter.isDigit).reverse

/-- A list of all options that a script reads back, or that tells about them. -/
def list (options : Text) (forReading : Bool) : Text :=
  if forReading then
    settings.flatMap fun (name, letter) =>
      (if options.contains letter then "set -o " else "set +o ").toList ++
        name.toList ++ ['\n']
  else
    "Current option settings\n".toList ++ settings.flatMap fun (name, letter) =>
      name.toList ++ List.replicate (16 - name.length) ' ' ++
        (if options.contains letter then "on\n" else "off\n").toList

example : read "ab".toList "o".toList ["-ao".toList, "x".toList, "y".toList] =
    .ok ([('a', []), ('o', ['x'])], [['y']]) := rfl

example : read [] [] ["-z".toList] = .error "Illegal option -z".toList := rfl

example : change (change [] 'u' true) 'e' true = ['e', 'u'] := rfl

end LineShell.Script.Options
