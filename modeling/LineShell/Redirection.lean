import LineShell.Text.Slice

/-!
Redirections: which of the two output streams goes to which file, and whether
the file is emptied first.  On a line a redirection is an operator followed by
its target.
-/
namespace LineShell

/-- The two streams that a command writes. -/
inductive Stream where
  | output
  | errors
  deriving DecidableEq, Repr

/-- Whether a file is emptied when it is opened or written at its end. -/
inductive WriteMode where
  | truncate
  | append
  deriving DecidableEq, Repr

/-- A redirection operator: an optional stream number before one or two angle
brackets. -/
structure Operator where
  descriptor : Option Stream
  mode : WriteMode
  deriving DecidableEq, Repr

/-- One stream routed to a file. -/
structure Redirection where
  stream : Stream
  mode : WriteMode
  target : Text
  deriving DecidableEq, Repr

namespace Operator

/-- The digit that names a stream in an operator. -/
def digit : Stream → Char
  | .output => '1'
  | .errors => '2'

def text (operator : Operator) : Text :=
  operator.descriptor.toList.map digit ++
    match operator.mode with
    | .truncate => ['>']
    | .append => ['>', '>']

def width (operator : Operator) : Nat := operator.text.length

/-- The stream that the operator redirects: standard output where none is
named. -/
def stream (operator : Operator) : Stream := operator.descriptor.getD .output

def all : List Operator :=
  [⟨some .output, .append⟩, ⟨some .errors, .append⟩, ⟨none, .append⟩,
   ⟨some .output, .truncate⟩, ⟨some .errors, .truncate⟩, ⟨none, .truncate⟩]

def ofText? (text : Text) : Option Operator :=
  all.find? fun operator => operator.text = text

/-- The longest operator among the given fragments, where `fragment width` is
the text of at most `width` characters at the place in question.  An operator
that names its stream counts at the start of a word only. -/
def longest? (wordStart : Bool) (fragment : Nat → Text) : Option Operator :=
  [3, 2, 1].findSome? fun width =>
    all.find? fun operator =>
      operator.width = width && operator.text = fragment width &&
        (wordStart || operator.descriptor.isNone)

/-- The operator at the start of a text. -/
def atStart? (wordStart : Bool) (text : Text) : Option Operator :=
  longest? wordStart fun width => text.take width

/-- The operator at a position of a line, negative positions counting from the
end. -/
def at? (line : Text) (index : Int) (wordStart : Bool) : Option Operator :=
  longest? wordStart fun width => Text.slice line index (index + width)

def toTarget (operator : Operator) (target : Text) : Redirection :=
  ⟨operator.stream, operator.mode, target⟩

theorem mem_all (operator : Operator) : operator ∈ all := by
  rcases operator with ⟨_ | _ | _, _ | _⟩ <;> decide

@[simp] theorem ofText?_text (operator : Operator) :
    ofText? operator.text = some operator := by
  rcases operator with ⟨_ | _ | _, _ | _⟩ <;> decide

theorem text_eq_of_ofText? {text : Text} {operator : Operator}
    (h : ofText? text = some operator) :
    operator.text = text := by
  simpa using List.find?_some h

theorem width_pos (operator : Operator) : 0 < operator.width := by
  rcases operator with ⟨_ | _ | _, _ | _⟩ <;> decide

/-- Position `index` from the left is the start of what is left after `index`
characters. -/
theorem at?_ofNat (line : Text) (index : Nat) (wordStart : Bool) :
    at? line index wordStart = atStart? wordStart (line.drop index) := by
  simp only [at?, atStart?, Text.slice_ofNat]

end Operator

namespace Redirection

/-- The redirections of a command in order of the first appearance of their
streams; a later redirection of a stream takes the place of the earlier one. -/
def insert (redirection : Redirection) : List Redirection → List Redirection
  | [] => [redirection]
  | first :: rest =>
    if first.stream = redirection.stream then
      redirection :: rest
    else
      first :: insert redirection rest

def of? (stream : Stream) (redirections : List Redirection) :
    Option Redirection :=
  redirections.find? fun redirection => redirection.stream = stream

/-- Looking a stream up after an insertion gives what was inserted for that
stream. -/
theorem of?_insert (stream : Stream) (redirection : Redirection)
    (redirections : List Redirection) :
    of? stream (insert redirection redirections) =
      if redirection.stream = stream then some redirection
      else of? stream redirections := by
  induction redirections with
  | nil =>
    by_cases h : redirection.stream = stream <;> simp [insert, of?, h]
  | cons first rest ih =>
    unfold insert
    by_cases hfirst : first.stream = redirection.stream
    · by_cases h : redirection.stream = stream
      · simp [of?, hfirst, h]
      · simp [of?, hfirst, h]
    · by_cases h : first.stream = stream
      · have hne : ¬ redirection.stream = stream :=
          fun heq => hfirst (h.trans heq.symm)
        rw [if_neg hfirst]
        simp [of?, h, hne]
      · simp only [hfirst, if_false]
        simpa [of?, h] using ih

/-- Inserting keeps the streams distinct. -/
theorem nodup_insert
    {redirection : Redirection} {redirections : List Redirection}
    (h : (redirections.map Redirection.stream).Nodup) :
    ((insert redirection redirections).map Redirection.stream).Nodup := by
  have hmem : ∀ (others : List Redirection) (stream : Stream),
      stream ∈ (insert redirection others).map Redirection.stream →
        stream = redirection.stream ∨
          stream ∈ others.map Redirection.stream := by
    intro others
    induction others with
    | nil => simp [insert]
    | cons first rest ih =>
      intro stream hstream
      unfold insert at hstream
      split at hstream
      · simp only [List.map_cons, List.mem_cons] at hstream ⊢
        rcases hstream with hstream | hstream
        · exact Or.inl hstream
        · exact Or.inr (Or.inr hstream)
      · simp only [List.map_cons, List.mem_cons] at hstream ⊢
        rcases hstream with hstream | hstream
        · exact Or.inr (Or.inl hstream)
        · rcases ih stream hstream with hrest | hrest
          · exact Or.inl hrest
          · exact Or.inr (Or.inr hrest)
  induction redirections with
  | nil => simp [insert]
  | cons first rest ih =>
    simp only [List.map_cons, List.nodup_cons] at h
    unfold insert
    split
    · rename_i heq
      simp only [List.map_cons, List.nodup_cons]
      exact ⟨heq ▸ h.1, h.2⟩
    · rename_i hne
      simp only [List.map_cons, List.nodup_cons]
      refine ⟨fun hin => ?_, ih h.2⟩
      rcases hmem rest first.stream hin with hsame | hrest
      · exact hne hsame
      · exact h.1 hrest

end Redirection

end LineShell
