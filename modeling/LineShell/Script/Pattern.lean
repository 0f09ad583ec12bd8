import LineShell.Script

/-!
Patterns of scripts: a question mark fits any character, a star any text, and
brackets one of several characters; every character that is quoted fits itself.
-/
namespace LineShell.Script

/-- A character of an expanded word, and whether it stands for itself. -/
structure Letter where
  char : Char
  literal : Bool
  deriving DecidableEq, Repr

namespace Pattern

inductive Member where
  | range (first last : Char)
  | kind (name : Text)
  deriving DecidableEq, Repr

inductive Part where
  | char (c : Char)
  | any
  | many
  | oneOf (negated : Bool) (members : List Member)
  deriving DecidableEq, Repr

/-- Whether a letter is this character and has its meaning. -/
def means (letter : Letter) (c : Char) : Bool :=
  letter.char = c && !letter.literal

/-- Whether a character belongs to a class with a name. -/
def isOfKind (name : Text) (c : Char) : Bool :=
  match String.ofList name with
  | "alpha" => c.isAlpha
  | "digit" => c.isDigit
  | "alnum" => c.isAlphanum
  | "upper" => c.isUpper
  | "lower" => c.isLower
  | "space" => " \t\n\x0b\x0c\x0d".toList.contains c
  | "blank" => c = ' ' || c = '\t'
  | "punct" => '!' ≤ c && c ≤ '~' && !c.isAlphanum
  | "print" => ' ' ≤ c && c ≤ '~'
  | "graph" => '!' ≤ c && c ≤ '~'
  | "cntrl" => c < ' ' || c = '\x7f'
  | "xdigit" => c.isDigit || ('a' ≤ c && c ≤ 'f') || ('A' ≤ c && c ≤ 'F')
  | _ => false

def kinds : List Text :=
  ["alpha".toList, "digit".toList, "alnum".toList, "upper".toList,
   "lower".toList, "space".toList, "blank".toList, "punct".toList,
   "print".toList, "graph".toList, "cntrl".toList, "xdigit".toList]

/-- The class at the start of letters that follow a bracket: its name, and the
rest. -/
def kind? (letters : List Letter) : Option (Text × List Letter) :=
  let text := letters.map Letter.char
  kinds.findSome? fun name =>
    let written := ':' :: name ++ ":]".toList
    if written.isPrefixOf text then some (name, letters.drop written.length)
    else none

/-- The members between brackets, and the letters after them; none if the
brackets do not close.  The first letter never closes them. -/
def members? : Nat → Bool → List Letter → Option (List Member × List Letter)
  | 0, _, _ => none
  | _, _, [] => none
  | fuel + 1, first, letter :: rest =>
    if !first && letter.char = ']' && !letter.literal then
      some ([], rest)
    else
      match if means letter '[' then kind? rest else none with
      | some (name, after) =>
        (members? fuel false after).map fun (members, left) =>
          (.kind name :: members, left)
      | none =>
        let (low, after) :=
          match letter.char, rest with
          | '\\', next :: others => if letter.literal then ('\\', rest)
              else (next.char, others)
          | c, _ => (c, rest)
        match after with
        | dash :: high :: others =>
          if dash.char = '-' && !dash.literal && !means high ']' then
            (members? fuel false others).map fun (members, left) =>
              (.range low high.char :: members, left)
          else
            (members? fuel false after).map fun (members, left) =>
              (.range low low :: members, left)
        | _ =>
          (members? fuel false after).map fun (members, left) =>
            (.range low low :: members, left)

def parts : Nat → List Letter → List Part
  | 0, _ => []
  | _, [] => []
  | fuel + 1, letter :: rest =>
    if letter.literal then .char letter.char :: parts fuel rest
    else if letter.char = '?' then .any :: parts fuel rest
    else if letter.char = '*' then .many :: parts fuel rest
    else if letter.char = '\\' then
      match rest with
      | next :: others => .char next.char :: parts fuel others
      | [] => [.char '\\']
    else if letter.char = '[' then
      let negated := rest.head?.any fun next => means next '!'
      match members? (rest.length + 1) true (if negated then rest.drop 1
        else rest) with
      | some (members, others) => .oneOf negated members :: parts fuel others
      | none => .char '[' :: parts fuel rest
    else .char letter.char :: parts fuel rest

def Member.covers (c : Char) : Member → Bool
  | .range first last => first ≤ c && c ≤ last
  | .kind name => isOfKind name c

/-- The ends of a text, from the whole text to nothing. -/
def ends : Text → List Text
  | [] => [[]]
  | c :: rest => (c :: rest) :: ends rest

/-- Whether a text fits the parts of a pattern. -/
def fitsParts : List Part → Text → Bool
  | [], text => text.isEmpty
  | .many :: rest, text => (ends text).any (fitsParts rest)
  | _ :: _, [] => false
  | .char c :: rest, d :: others => c = d && fitsParts rest others
  | .any :: rest, _ :: others => fitsParts rest others
  | .oneOf negated members :: rest, d :: others =>
    (members.any (Member.covers d) != negated) && fitsParts rest others

def fits (pattern : List Letter) (text : Text) : Bool :=
  fitsParts (parts pattern.length pattern) text

/-- Whether a letter can make a pattern of a word. -/
def isActive (letter : Letter) : Bool :=
  !letter.literal && "*?[".toList.contains letter.char

/-- What is left of a text without the shortest or the longest match of a
pattern at one end. -/
def trim (atEnd longest : Bool) (pattern : List Letter) (text : Text) : Text :=
  let shared := parts pattern.length pattern
  let places := List.range (text.length + 1)
  let place? :=
    (if atEnd = longest then places else places.reverse).find? fun place =>
    fitsParts shared (if atEnd then text.drop place else text.take place)
  match place? with
  | none => text
  | some place => if atEnd then text.take place else text.drop place

def ofText (literal : Bool) (text : Text) : List Letter :=
  text.map fun c => ⟨c, literal⟩

/-- Quoted letters fit exactly their own text. -/
theorem fitsParts_char (text other : Text) :
    fitsParts (text.map Part.char) other = decide (text = other) := by
  induction text generalizing other with
  | nil => cases other <;> simp [fitsParts]
  | cons c rest ih =>
    cases other with
    | nil => simp [fitsParts]
    | cons d others => simp [fitsParts, ih]

example : fits (ofText false "a*[!c-e]?".toList) "abbfx".toList = true := by
    decide +kernel
example : fits (ofText true "a*".toList) "ab".toList = false := by
    decide +kernel
example : trim false false (ofText false "*b".toList) "abab".toList =
    "ab".toList := by
  decide +kernel
example :
    trim true true (ofText false "b*".toList) "abab".toList = "a".toList := by
  decide +kernel

end Pattern

end LineShell.Script
