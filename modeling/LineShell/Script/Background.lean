import LineShell.Script.Action
import LineShell.Script.Options

/-!
The builtins for jobs: waiting for them, telling about them, and the two that
would bring one back to a terminal, which the jobs of a script never had.
-/
namespace LineShell.Script.Background

def called (name : Text) : Action (Nat × Job) := do
  let jobs := (← get).jobs
  let place ← Action.demandOptions (Job.find jobs name)
  match (jobs[place]?).join with
  | some job => return (place, job)
  | none => Action.refuse ("No such job: ".toList ++ name)

/-- The job that an argument of `wait` means: one that is called, or that of a
process. -/
def meant? (argument : Text) : Action (Option Job) := do
  if argument.head? = some '%' then
    let (_, job) ← called argument
    return some job
  else
    let number ← Action.natural argument
    return ((← get).jobs.filterMap id).find? fun job => job.process = number

def await (arguments : List Text) : Action Nat := do
  let (_, names) ← Action.demandOptions (Options.read [] [] arguments)
  let waited (chosen : Job → Bool) : Action Unit := modify fun state =>
    let wait (job : Job) : Job :=
      if chosen job then { job with ended := true, awaited := true } else job
    { state with jobs := state.jobs.map (·.map wait) }
  if names.isEmpty then
    waited fun _ => true
    return 0
  else
    let mut status := 127
    for name in names do
      match ← meant? name with
      | some job =>
        waited (· = job)
        status := job.status
      | none => pure ()
    return status

/-- Tells about jobs.  What has been told to be over is forgotten. -/
def tell (arguments : List Text) : Action Nat := do
  let (options, names) ← Action.demandOptions
    (Options.read ['l', 'p'] [] arguments)
  let numbered := (options.getLast?.map Prod.fst)
  let tellOf (place : Nat) : Action Bool := do
    let jobs := (← get).jobs
    match (jobs[place]?).join with
    | none => return true
    | some job =>
      if numbered = some 'p' then
        Action.say (Nat.toDigits 10 job.process ++ ['\n'])
      else
        if job.ended then
          modify fun state => { state with jobs := jobs.set place none }
        Action.say (Job.line jobs (numbered = some 'l') place job)
  let written ←
    if names.isEmpty then (Job.places (← get).jobs).mapM tellOf
    else names.mapM fun name => do tellOf (← called name).1
  if written.all id then return 0 else Action.lose 0

/-- Brings a job back, which cannot be done. -/
def resume (arguments : List Text) : Action Nat := do
  let (_, names) ← Action.demandOptions (Options.read [] [] arguments)
  let _ ← called (names.headD "%%".toList)
  let name := names.headD "(null)".toList
  Action.refuse
    ("job ".toList ++ name ++ " not created under job control".toList)

end LineShell.Script.Background
