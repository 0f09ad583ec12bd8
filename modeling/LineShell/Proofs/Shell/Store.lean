import LineShell.Proofs.Shell.Output

/-!
Redirected output as a store of files, over any number of commands that run
inside the shell.

Main statement: after the commands a file holds what it held at first, or
nothing if one of them has emptied it, and then the outputs that have gone to it
since; an output that is not redirected goes to standard output; nothing else
changes but that directories above targets are made (`stores_of_orders`).
-/
namespace LineShell

namespace Shell

/-- The texts that commands add to a file, in order. -/
def outputs (location : Location) (done : List Execution) : Text :=
  done.flatMap fun execution => execution.output location

/-- What commands that were executed one after the other have come to. -/
structure Stores (done : List Execution) (first last : Shell) : Prop where
  /-- After the last command that empties it, a file holds the outputs from
  there on. -/
  emptied :
    ∀ location before execution later, done = before ++ execution :: later →
    execution.Empties location → (∀ other ∈ later, ¬ other.Empties location) →
    last.machine.volume.content location = outputs location (execution :: later)
  /-- A file that no command empties holds what it held, and all outputs. -/
  kept : ∀ location, (∀ execution ∈ done, ¬ execution.Empties location) →
    last.machine.volume.content location =
      first.machine.volume.content location ++ outputs location done
  files : ∀ location, last.machine.volume.IsFile location ↔
    first.machine.volume.IsFile location ∨
      ∃ execution ∈ done, execution.Targets location
  /-- Nothing else changes, but directories above targets may be made. -/
  frame : ∀ location, (∀ execution ∈ done, ¬ execution.Targets location) →
    Machine.Spares (fun path => ∃ execution ∈ done, Machine.aboveTargets
      execution.shell.session.cwd execution.command.redirections path)
      first.machine last.machine location
  grows : first.machine.Grows last.machine
  prints : Prints (done.flatMap fun execution =>
    execution.spoken ++ execution.complaint)
    (first.journal.text (done.flatMap Execution.events)) first last

namespace Stores

theorem refl (shell : Shell) : Stores [] shell shell := by
  have hnothing := shell.prints_nothing
  refine ⟨?_, ?_, ?_, fun _ _ => Or.inl rfl, .refl _, ?_⟩
  · intro location before execution later hsplit
    simp at hsplit
  · intro location _
    exact (List.append_nil _).symm
  · simp
  · rw [List.flatMap_nil, List.flatMap_nil, Journal.text_nil]
    exact hnothing

/-- One command before others. -/
theorem cons {execution : Execution} {rest : List Execution} {last : Shell}
    (h : execution.Proceeds)
    (hdistinct : (execution.command.redirections.map Redirection.stream).Nodup)
    (hrest : Stores rest execution.after last) :
    Stores (execution :: rest) execution.shell last := by
  have hcontent := h.content_after hdistinct
  refine ⟨?_, ?_, ?_, ?_, (h.grows hdistinct).trans hrest.grows, ?_⟩
  · -- The last command that empties the file is the first one here, or one of
    -- the others.
    intro location before other later hsplit hempties hlater
    rcases List.cons_eq_append_iff.1 hsplit
      with ⟨rfl, hsame⟩ | ⟨between, rfl, hbetween⟩
    · obtain ⟨rfl, rfl⟩ := List.cons.inj hsame
      rw [hrest.kept location hlater, hcontent, if_pos hempties,
        List.nil_append]
      rfl
    · exact hrest.emptied location between other later hbetween hempties hlater
  · intro location hnone
    have hfirst : ¬ execution.Empties location :=
      hnone execution List.mem_cons_self
    have hlater : ∀ other ∈ rest, ¬ other.Empties location :=
      fun other hmem => hnone other (List.mem_cons_of_mem _ hmem)
    rw [hrest.kept location hlater, hcontent, if_neg hfirst, List.append_assoc]
    rfl
  · intro location
    rw [hrest.files, h.isFile_after hdistinct, or_assoc]
    simp
  · intro location hnone
    have hfirst := h.spares_after hdistinct (hnone execution List.mem_cons_self)
    have hlater := hrest.frame location
      fun other hmem => hnone other (List.mem_cons_of_mem _ hmem)
    refine (hfirst.mono ?_).trans hrest.grows (hlater.mono ?_)
    · exact fun path habove => ⟨execution, List.mem_cons_self, habove⟩
    · rintro path ⟨other, hmem, habove⟩
      exact ⟨other, List.mem_cons_of_mem _ hmem, habove⟩
  · have hfirst := h.prints hdistinct
    have hboth := hfirst.trans hrest.prints
    rw [hfirst.journal, ← Journal.text_append] at hboth
    exact hboth

end Stores

/-- Commands that run inside the shell, with targets that are files, store their
outputs. -/
theorem stores_of_history {commands : List (Setup × Command)} {shell : Shell}
    (hdistinct : ∀ command ∈ commands,
      (command.2.redirections.map Redirection.stream).Nodup)
    (hproceeds : ∀ execution ∈ history commands shell, execution.Proceeds) :
    Stores (history commands shell) shell (executeAll commands shell) := by
  induction commands generalizing shell with
  | nil => exact .refl shell
  | cons command rest ih =>
      have hfirst := hproceeds ⟨shell, command.1, command.2⟩ List.mem_cons_self
      refine .cons hfirst (hdistinct command List.mem_cons_self) (ih ?_ ?_)
      · exact fun other hmem => hdistinct other (List.mem_cons_of_mem _ hmem)
      · exact fun execution hmem =>
          hproceeds execution (List.mem_cons_of_mem _ hmem)

end Shell

/-- A command as it is asked for: with any number of redirections, in the order
of the line. -/
structure Order where
  setup : Setup
  name : Text
  arguments : List Text
  redirections : List Redirection

namespace Order

def command (order : Order) : Command :=
  Command.withRedirections order.name order.arguments order.redirections

/-- The command with the setup under which it is executed. -/
def issued (order : Order) : Setup × Command := (order.setup, order.command)

end Order

namespace Shell

/-- Over any number of commands that run inside the shell, with targets that
open as files and take what is written to them, a file comes to hold the outputs
that go to it since it was last emptied, or all that it held and all outputs
that go to it; any other output goes to standard output; and no redirection
counts that is followed by another one of its stream. -/
theorem stores_of_orders (orders : List Order) (shell : Shell)
    (hproceeds : ∀ execution ∈ history (orders.map Order.issued) shell,
      execution.Proceeds) :
    Stores (history (orders.map Order.issued) shell) shell
        (executeAll (orders.map Order.issued) shell) ∧
      ∀ order ∈ orders, ∀ redirection,
        redirection ∈ order.command.redirections ↔
        Redirection.IsLast order.redirections redirection := by
  refine ⟨stores_of_history ?_ hproceeds, fun order _ redirection => ?_⟩
  · intro command hmem
    obtain ⟨order, -, rfl⟩ := List.mem_map.1 hmem
    exact Redirection.nodup_map_stream_keep order.redirections
  · exact Redirection.mem_keep_iff order.redirections

/-- A target that does not count, a file that is emptied for one stream and
written at its end for the other, and, from another directory, the same file
again and a new one that stays empty. -/
theorem stores_of_orders_three :
    let setup : Setup := ⟨⟨true, true⟩, .collected, []⟩
    let orders : List Order :=
      [⟨setup, "echo".toList, ["a".toList], [⟨.output, .truncate, "x".toList⟩,
          ⟨.errors, .truncate, "f".toList⟩, ⟨.output, .append, "f".toList⟩]⟩,
          ⟨setup, "cd".toList, ["/".toList], []⟩, ⟨setup,
          "echo".toList, ["b".toList], [⟨.output, .append, "home/f".toList⟩,
          ⟨.errors, .truncate, "d/e".toList⟩]⟩]
    let last := executeAll (orders.map Order.issued) fresh
    (∀ execution ∈ history (orders.map Order.issued) fresh,
      execution.Proceeds) ∧
      last.machine.volume.content ["home".toList, "f".toList] =
        "a\nb\n".toList ∧
      ¬ last.machine.volume.IsFile ["home".toList, "x".toList] ∧
      last.machine.volume.IsFile ["d".toList, "e".toList] ∧
      last.machine.volume.content ["d".toList, "e".toList] = [] ∧
      last.console.output = [] := by
  intro setup orders last
  have hproceeds : ∀ execution ∈ history (orders.map Order.issued) fresh,
      execution.Proceeds := by
    simp only [orders, List.map_cons, List.map_nil, history,
      List.forall_mem_cons]
    refine ⟨?_, ?_, ?_, by simp⟩
    · exact .of_places [["home".toList, "f".toList]] (by decide +kernel)
        (by decide)
        (by decide +kernel) (by decide +kernel) (by decide +kernel)
          (by decide +kernel)
    · exact .of_places [] (by decide +kernel) (by decide) (by decide +kernel)
        (by simp [Order.issued, Order.command, Command.withRedirections])
          (by simp) (by simp)
    · exact .of_places [["home".toList, "f".toList], ["d".toList, "e".toList]]
        (by decide +kernel) (by decide) (by decide +kernel) (by decide +kernel)
        (by decide +kernel) (by decide +kernel)
  obtain ⟨hstores, -⟩ := stores_of_orders orders fresh hproceeds
  refine ⟨hproceeds, ?_, ?_, ?_, ?_, ?_⟩
  · rw [hstores.emptied _ [] _ _ rfl (by decide +kernel) (by decide +kernel)]
    decide +kernel
  · rw [hstores.files]
    decide +kernel
  · rw [hstores.files]
    decide +kernel
  · rw [hstores.emptied _ ((history (orders.map Order.issued) fresh).take 2) _
      [] rfl
      (by decide +kernel) (by simp)]
    decide +kernel
  · rw [hstores.prints.output]
    decide +kernel

end Shell

end LineShell
