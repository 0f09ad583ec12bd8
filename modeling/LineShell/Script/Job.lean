import LineShell.Script.Arithmetic

/-!
Jobs: commands that were left to run by themselves.  Each has a place, by which
it can be called, until it has been waited for and another command takes the
place.
-/
namespace LineShell.Script

/-- A command that was left to run by itself. -/
structure Job where
  /-- The number of its process. -/
  process : Nat
  status : Nat
  /-- Whether the script knows that it has ended. -/
  ended : Bool
  /-- Whether the script has waited for its end. -/
  awaited : Bool
  deriving DecidableEq, Repr

namespace Job

/-- The places of jobs after a command takes the first free one: a job that
stays there, or nothing where the script waits for the command at once. -/
def take (job : Option Job) : List (Option Job) → List (Option Job)
  | [] => [job]
  | none :: rest => job :: rest
  | some found :: rest => if found.awaited then job :: rest
      else some found :: take job rest

/-- The places of jobs after the script has waited for a command that takes a
place for as long as it runs.  The jobs have ended before it, which the script
has learned meanwhile. -/
def pass (jobs : List (Option Job)) : List (Option Job) :=
  take none (jobs.map (·.map fun job => { job with ended := true }))

/-- The places where there are jobs, that of the latest one first. -/
def places (jobs : List (Option Job)) : List Nat :=
  let found := jobs.zipIdx.filterMap fun (job, place) => job.map fun job =>
    (job.process, place)
  (found.mergeSort fun a b => b.1 ≤ a.1).map Prod.snd

/-- The place of a job that is called by its place, or as the current or the
previous one. -/
def find (jobs : List (Option Job)) (name : Text) : Except Text Nat :=
  let known (place? : Option Nat) (words : Text) : Except Text Nat :=
    match place? with
    | some place => .ok place
    | none => .error words
  match name with
  | '%' :: mark =>
    if mark.isEmpty || mark = ['+'] || mark = ['%'] then
      known (places jobs)[0]? "No current job".toList
    else if mark = ['-'] then
      known (places jobs)[1]? "No previous job".toList
    else
      let place? := (Arithmetic.natural? mark).bind fun number =>
        (places jobs).find? fun place => place + 1 = number
      known place? ("No such job: ".toList ++ name)
  | _ => .error ("No such job: ".toList ++ name)

def stateText (job : Job) : Text :=
  if !job.ended then "Running".toList
  else if job.status = 0 then "Done".toList
  else "Done(".toList ++ Nat.toDigits 10 job.status ++ [')']

def line (jobs : List (Option Job)) (numbered : Bool) (place : Nat)
    (job : Job) : Text :=
  let mark :=
    if (places jobs)[0]? = some place then '+'
    else if (places jobs)[1]? = some place then '-'
    else ' '
  let start := '[' :: Nat.toDigits 10 (place + 1) ++ [']', ' ', mark, ' '] ++
    (if numbered then Nat.toDigits 10 job.process ++ [' '] else []) ++
      job.stateText
  start ++ List.replicate (max 1 (33 - start.length)) ' ' ++ ['\n']

example : take (some ⟨9, 0, false, false⟩) [some ⟨7, 0, true, true⟩] =
    [some ⟨9, 0, false, false⟩] := rfl

end Job

end LineShell.Script
