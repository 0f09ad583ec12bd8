import LineShell.Settings.EnvFile

/-!
Settings: four fields, each taken from the first of these that has it: the
values given directly, the environment, the environment file, and the default.
-/
namespace LineShell

structure Settings where
  prompt : Text
  logLevel : Text
  strictHome : Bool
  builtinRedirection : Bool
  deriving DecidableEq, Repr

namespace Settings

/-- A value that is given for a field before it is known to suit it. -/
inductive Given where
  | text (text : Text)
  | flag (flag : Bool)
  | number (number : Int)
  /-- A value of any other kind. -/
  | other
  deriving DecidableEq, Repr

/-- Why a value does not suit a field. -/
inductive Mismatch where
  /-- The value can be no truth value. -/
  | notTruth
  /-- A value of this kind stands for no truth value. -/
  | noTruthKind
  /-- The value is no text. -/
  | noText
  deriving DecidableEq, Repr

/-- The fields that do not have a suitable value. -/
structure Invalid where
  mismatches : List (Text × Mismatch)
  deriving DecidableEq, Repr

/-- Where the values come from. -/
structure Sources where
  given : List (Text × Given)
  environment : List (Text × Text)
  /-- The variables of the environment file; some may have no value. -/
  file : List (Text × Option Text)

namespace Mismatch

def name : Mismatch → Text
  | .notTruth => "bool_parsing".toList
  | .noTruthKind => "bool_type".toList
  | .noText => "string_type".toList

end Mismatch

namespace Invalid

/-- The words of the error: every field with its mismatch. -/
def message (invalid : Invalid) : Text :=
  Text.joinWith "; ".toList
    (invalid.mismatches.map fun entry => entry.1 ++ ": ".toList ++ entry.2.name)

end Invalid

/-- How the variable of a field starts. -/
def variableStart : Text := "MINISH_".toList

/-- Lower case of the letters from A to Z, which are all that the names of the
variables have. -/
def lowered (text : Text) : Text := text.map Char.toLower

/-- The value of the variable of a field, whose name may be written in any case;
of several spellings the last one counts, even if it has no value. -/
def variableOf? (field : Text) (known : List (Text × Option Text)) :
    Option Text :=
  (known.filter fun entry =>
    lowered entry.1 = lowered (variableStart ++ field)).getLast?.bind Prod.snd

def yesWords : List Text :=
  ["1".toList, "true".toList, "t".toList, "yes".toList, "y".toList, "on".toList]

def noWords : List Text :=
  ["0".toList, "false".toList, "f".toList, "no".toList, "n".toList,
    "off".toList]

/-- The truth value that is given.  A number beyond 64 bits is not taken for one
that stands for any. -/
def Given.asFlag : Given → Except Mismatch Bool
  | .flag truth => .ok truth
  | .text word =>
    if yesWords.contains (lowered word) then .ok true
    else if noWords.contains (lowered word) then .ok false
    else .error .notTruth
  | .number value =>
    if value = 1 then .ok true
    else if value = 0 then .ok false
    else if -0x8000000000000000 ≤ value ∧ value < 0x8000000000000000 then
      .error .notTruth
    else .error .noTruthKind
  | .other => .error .noTruthKind

def Given.asText : Given → Except Mismatch Text
  | .text words => .ok words
  | _ => .error .noText

namespace Sources

/-- The value of a field, if there is one besides the default. -/
def value? (sources : Sources) (field : Text) : Option Given :=
  let environment :=
    sources.environment.map fun (name, value) => (name, some value)
  (sources.given.lookup field).or
    (((variableOf? field environment).or (variableOf? field sources.file)).map
      .text)

def read {α : Type}
    (sources : Sources) (field : Text) (reading : Given → Except Mismatch α)
    (default : α) : Except (Text × Mismatch) α :=
  match sources.value? field with
  | none => .ok default
  | some given => (reading given).mapError fun mismatch => (field, mismatch)

end Sources

def mismatchOf {α : Type} : Except (Text × Mismatch) α → List (Text × Mismatch)
  | .ok _ => []
  | .error mismatch => [mismatch]

/-- The settings, or all fields without a suitable value in the order of their
names. -/
def load (sources : Sources) : Except Invalid Settings :=
  let builtinRedirection :=
    sources.read "builtin_redirection".toList Given.asFlag true
  let logLevel := sources.read "log_level".toList Given.asText "WARNING".toList
  let prompt := sources.read "prompt".toList Given.asText "$ ".toList
  let strictHome := sources.read "strict_home".toList Given.asFlag false
  match builtinRedirection, logLevel, prompt, strictHome with
  | .ok builtinRedirection, .ok logLevel, .ok prompt, .ok strictHome =>
    .ok ⟨prompt, logLevel, strictHome, builtinRedirection⟩
  | _, _, _, _ =>
    .error ⟨mismatchOf builtinRedirection ++ mismatchOf logLevel ++
      mismatchOf prompt ++
      mismatchOf strictHome⟩

end Settings

end LineShell
