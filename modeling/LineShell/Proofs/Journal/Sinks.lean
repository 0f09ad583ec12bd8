import LineShell.Journal
import Mathlib.Data.List.Induction

/-!
The sinks behind a journal: the places that events are written to, each with the
severity from which on it shows them.  A change of the level removes all sinks,
then adds one, and then remembers the level.  So a level that does not exist
leaves no sink, beside the level that was remembered before.

Main statement: after any history of levels, asking for one that exists leaves
exactly one sink, with that level, unless a level that does not exist was asked
for while this one was remembered; then there is none (`configure_history`).
-/
namespace LineShell

namespace Severity

/-- The severity that a level names, in any case. -/
def ofLevel? (level : Text) : Option Severity := ofName? (Text.upper level)

theorem name_eq_of_ofLevel?
    {level : Text} {severity : Severity} (h : ofLevel? level = some severity) :
    severity.name = Text.upper level := by
  simpa using List.find?_some h

theorem name_injective {first second : Severity}
    (h : first.name = second.name) :
    first = second := by
  have hfirst := ofName?_name first
  rw [h, ofName?_name] at hfirst
  exact (Option.some.inj hfirst).symm

end Severity

def Journal.configureAll (journal : Journal) (levels : List Text) : Journal :=
  levels.foldl (fun journal level => (journal.configure level).2) journal

/-- The level that was asked for, and the sinks that are installed. -/
structure Sinks where
  configured : Option Text
  installed : List Severity
  deriving DecidableEq, Repr

namespace Sinks

def clear (sinks : Sinks) : Sinks := { sinks with installed := [] }

/-- Adds a sink for the severity with this name. -/
def add (sinks : Sinks) (name : Text) : Except UnknownLevel Sinks :=
  match Severity.ofName? name with
  | some severity =>
      .ok { sinks with installed := sinks.installed ++ [severity] }
  | none => .error ⟨name⟩

/-- Asks for a level, in any case. -/
def configure (sinks : Sinks) (level : Text) :
    Except UnknownLevel Unit × Sinks :=
  let name := Text.upper level
  if sinks.configured = some name then
    (.ok (), sinks)
  else
    match sinks.clear.add name with
    | .ok added => (.ok (), { added with configured := some name })
    | .error unknown => (.error unknown, sinks.clear)

def configureAll (sinks : Sinks) (levels : List Text) : Sinks :=
  levels.foldl (fun sinks level => (sinks.configure level).2) sinks

def shows (sinks : Sinks) (severity : Severity) : Bool :=
  sinks.installed.any fun threshold => threshold.isShownFrom severity

/-- What a journal knows of the sinks. -/
def journal (sinks : Sinks) : Journal :=
  ⟨sinks.configured, sinks.installed.head?⟩

theorem journal_configure (sinks : Sinks) (level : Text) :
    sinks.journal.configure level =
      ((sinks.configure level).1, (sinks.configure level).2.journal) := by
  simp only [Journal.configure, configure, journal]
  by_cases hsame : sinks.configured = some (Text.upper level)
  · simp [hsame]
  · cases hname :
      Severity.ofName? (Text.upper level) <;> simp [hsame, clear, add, hname]

theorem journal_configureAll (sinks : Sinks) (levels : List Text) :
    (sinks.configureAll levels).journal =
      sinks.journal.configureAll levels := by
  induction levels generalizing sinks with
  | nil => rfl
  | cons level rest ih =>
      have hlevel : (sinks.journal.configure level).2 =
          (sinks.configure level).2.journal :=
        congrArg Prod.snd (sinks.journal_configure level)
      have hrest := ih (sinks.configure level).2
      rw [← hlevel] at hrest
      exact hrest

theorem shows_journal {sinks : Sinks} (h : sinks.installed.length ≤ 1)
    (severity : Severity) :
    sinks.journal.shows severity = sinks.shows severity := by
  obtain ⟨configured, installed⟩ := sinks
  rcases installed with _ | ⟨threshold, _ | ⟨next, rest⟩⟩
  · rfl
  · simp [journal, Journal.shows, shows]
  · simp at h

theorem configure_eq_self {sinks : Sinks}
    {level : Text} (h : sinks.configured = some (Text.upper level)) :
    sinks.configure level = (.ok (), sinks) := by
  simp [configure, h]

theorem configure_known {sinks : Sinks} {level : Text} {severity : Severity}
    (h : sinks.configured ≠ some (Text.upper level))
    (hlevel : Severity.ofLevel? level = some severity) :
    sinks.configure level = (.ok (), ⟨some severity.name, [severity]⟩) := by
  have hname := Severity.name_eq_of_ofLevel? hlevel
  unfold Severity.ofLevel? at hlevel
  simp [configure, h, clear, add, hlevel, hname]

theorem configure_unknown {sinks : Sinks}
    {level : Text} (h : sinks.configured ≠ some (Text.upper level))
    (hlevel : Severity.ofLevel? level = none) :
    sinks.configure level = (.error ⟨Text.upper level⟩, sinks.clear) := by
  unfold Severity.ofLevel? at hlevel
  simp [configure, h, add, hlevel]

theorem configure_accepts {sinks : Sinks} {level : Text}
    {severity : Severity} (hlevel : Severity.ofLevel? level = some severity) :
    (sinks.configure level).1 = .ok () := by
  by_cases hsame : sinks.configured = some (Text.upper level)
  · rw [configure_eq_self hsame]
  · rw [configure_known hsame hlevel]

/-- The last level of a history that exists. -/
def lastKnown? (levels : List Text) : Option Severity :=
  (levels.filterMap Severity.ofLevel?).getLast?

/-- Whether a level that does not exist was asked for when the given one was the
last known level, and no other known one since. -/
def IsStale (severity : Severity) (levels : List Text) : Prop :=
  ∃ before unknown after, levels = before ++ unknown :: after ∧
    Severity.ofLevel? unknown = none ∧ lastKnown? before = some severity ∧
    ∀ level ∈ after, ∀ other, Severity.ofLevel? level = some other →
      other = severity

variable {severity : Severity} {levels : List Text} {level : Text}

theorem lastKnown?_append_known
    (hlevel : Severity.ofLevel? level = some severity) :
    lastKnown? (levels ++ [level]) = some severity := by
  simp [lastKnown?, List.filterMap_append, hlevel]

theorem lastKnown?_append_unknown (hlevel : Severity.ofLevel? level = none) :
    lastKnown? (levels ++ [level]) = lastKnown? levels := by
  simp [lastKnown?, List.filterMap_append, hlevel]

theorem IsStale.lastKnown?_eq (h : IsStale severity levels) :
    lastKnown? levels = some severity := by
  obtain ⟨before, unknown, after, rfl, hunknown, hbefore, hafter⟩ := h
  unfold lastKnown? at hbefore ⊢
  rw [List.filterMap_append, List.filterMap_cons_none hunknown,
    List.getLast?_append, hbefore]
  cases hlast : (after.filterMap Severity.ofLevel?).getLast? with
  | none => rfl
  | some other =>
      obtain ⟨level, hlevel, hother⟩ :=
        List.mem_filterMap.1 (List.mem_of_getLast? hlast)
      rw [hafter level hlevel other hother]
      rfl

theorem isStale_append_unknown (hlevel : Severity.ofLevel? level = none)
    (hlast : lastKnown? levels = some severity) :
    IsStale severity (levels ++ [level]) :=
  ⟨levels, level, [], rfl, hlevel, hlast, by simp⟩

theorem isStale_append_known_iff
    (hlevel : Severity.ofLevel? level = some severity) :
    IsStale severity (levels ++ [level]) ↔ IsStale severity levels := by
  constructor
  · rintro ⟨before, unknown, after, hlevels, hunknown, hbefore, hafter⟩
    induction after using List.reverseRecOn with
    | nil =>
        obtain ⟨-, hsame⟩ := List.append_inj' hlevels rfl
        cases hsame
        rw [hlevel] at hunknown
        cases hunknown
    | append_singleton after last _ =>
        rw [← List.cons_append, ← List.append_assoc] at hlevels
        obtain ⟨rfl, -⟩ := List.append_inj' hlevels rfl
        refine ⟨before, unknown, after, rfl, hunknown, hbefore, ?_⟩
        intro other hother
        exact hafter other (List.mem_append_left _ hother)
  · rintro ⟨before, unknown, after, rfl, hunknown, hbefore, hafter⟩
    refine ⟨before, unknown, after ++ [level], by simp, hunknown, hbefore, ?_⟩
    intro other hother found hfound
    rcases List.mem_append.1 hother with hother | hother
    · exact hafter other hother found hfound
    · rw [List.mem_singleton.1 hother, hlevel] at hfound
      exact (Option.some.inj hfound).symm

/-- What the sinks are after a history of levels, before which no level was
remembered. -/
structure Follows (levels : List Text) (sinks : Sinks) : Prop where
  configured : sinks.configured = (lastKnown? levels).map Severity.name
  stale : ∀ severity, IsStale severity levels → sinks.installed = []
  fresh : ∀ severity, lastKnown? levels = some severity →
    ¬ IsStale severity levels →
    sinks.installed = [severity]

namespace Follows

variable {sinks : Sinks}

theorem configured_eq_iff (h : Follows levels sinks)
    (hlevel : Severity.ofLevel? level = some severity) :
    sinks.configured = some (Text.upper level) ↔
      lastKnown? levels = some severity := by
  rw [h.configured, ← Severity.name_eq_of_ofLevel? hlevel,
    Option.map_eq_some_iff]
  constructor
  · rintro ⟨other, hlast, hname⟩
    rw [hlast, Severity.name_injective hname]
  · intro hlast
    exact ⟨severity, hlast, rfl⟩

theorem configured_ne (h : Follows levels sinks)
    (hlevel : Severity.ofLevel? level = none) :
    sinks.configured ≠ some (Text.upper level) := by
  rw [h.configured]
  intro hname
  obtain ⟨severity, -, hseverity⟩ := Option.map_eq_some_iff.1 hname
  rw [Severity.ofLevel?, ← hseverity, Severity.ofName?_name] at hlevel
  cases hlevel

theorem configure (h : Follows levels sinks) (level : Text) :
    Follows (levels ++ [level]) (sinks.configure level).2 := by
  cases hlevel : Severity.ofLevel? level with
  | none =>
      rw [configure_unknown (h.configured_ne hlevel) hlevel]
      constructor
      · rw [lastKnown?_append_unknown hlevel]
        exact h.configured
      · intro severity _
        rfl
      · intro severity hlast hfresh
        rw [lastKnown?_append_unknown hlevel] at hlast
        exact absurd (isStale_append_unknown hlevel hlast) hfresh
  | some known =>
      have hsame : ∀ severity, lastKnown? (levels ++ [level]) = some severity →
          severity = known := by
        intro severity hlast
        rw [lastKnown?_append_known hlevel] at hlast
        exact (Option.some.inj hlast).symm
      by_cases hlast : lastKnown? levels = some known
      · rw [configure_eq_self ((h.configured_eq_iff hlevel).2 hlast)]
        constructor
        · rw [lastKnown?_append_known hlevel, h.configured, hlast]
        · intro severity hstale
          cases hsame severity hstale.lastKnown?_eq
          exact h.stale known ((isStale_append_known_iff hlevel).1 hstale)
        · intro severity hknown hfresh
          cases hsame severity hknown
          rw [isStale_append_known_iff hlevel] at hfresh
          exact h.fresh known hlast hfresh
      · have hne := mt (h.configured_eq_iff hlevel).1 hlast
        rw [configure_known hne hlevel]
        constructor
        · rw [lastKnown?_append_known hlevel]
          rfl
        · intro severity hstale
          cases hsame severity hstale.lastKnown?_eq
          rw [isStale_append_known_iff hlevel] at hstale
          exact absurd hstale.lastKnown?_eq hlast
        · intro severity hknown hfresh
          rw [hsame severity hknown]

theorem configure_installed (h : Follows levels sinks)
    (hlevel : Severity.ofLevel? level = some severity) :
    (IsStale severity levels → (sinks.configure level).2.installed = []) ∧
      (¬ IsStale severity levels →
        (sinks.configure level).2.installed = [severity]) := by
  have hnext := h.configure level
  rw [← isStale_append_known_iff hlevel]
  exact ⟨hnext.stale severity,
    hnext.fresh severity (lastKnown?_append_known hlevel)⟩

theorem length_installed_le (h : Follows levels sinks) (level : Text) :
    (sinks.configure level).2.installed.length ≤ 1 := by
  cases hlevel : Severity.ofLevel? level with
  | none =>
      rw [configure_unknown (h.configured_ne hlevel) hlevel]
      exact Nat.zero_le 1
  | some severity =>
      obtain ⟨hstale, hfresh⟩ := h.configure_installed hlevel
      by_cases hcase : IsStale severity levels
      · rw [hstale hcase]
        exact Nat.zero_le 1
      · rw [hfresh hcase]
        exact Nat.le_refl 1

end Follows

theorem follows_configureAll (installed : List Severity) (levels : List Text) :
    Follows levels (configureAll ⟨none, installed⟩ levels) := by
  induction levels using List.reverseRecOn with
  | nil =>
      refine ⟨rfl, ?_, ?_⟩
      · rintro severity ⟨before, unknown, after, hlevels, -⟩
        simp at hlevels
      · intro severity hlast
        cases hlast
  | append_singleton levels level ih =>
      have hnext := ih.configure level
      rw [configureAll, List.foldl_append]
      exact hnext

/-- Asking for a level after a history of others, before which no level was
remembered.  The journal is what it knows of the sinks, and shows what they
show.  A level that does not exist is refused; the one that was remembered stays
remembered, and no sink stays.  A level that exists is accepted and remembered;
exactly one sink stays, with that level, unless the level is stale. -/
theorem configure_history (installed : List Severity) (levels : List Text)
    (level : Text) :
    let before := configureAll ⟨none, installed⟩ levels
    let result := (before.configure level).1
    let after := (before.configure level).2
    let journal := Journal.configureAll ⟨none, installed.head?⟩ levels
    (journal.configure level = (result, after.journal) ∧
      ∀ event, after.journal.shows event = after.shows event) ∧
    (Severity.ofLevel? level = none →
      result = .error ⟨Text.upper level⟩ ∧
      after.configured = before.configured ∧
        after.installed = []) ∧
    ∀ severity, Severity.ofLevel? level = some severity →
      result = .ok () ∧ after.configured = some severity.name ∧
        (IsStale severity levels → after.installed = []) ∧
        (¬ IsStale severity levels → after.installed = [severity] ∧
          ∀ event, after.shows event = true ↔ severity.rank ≤ event.rank) := by
  intro before result after journal
  have hfollows : Follows levels before := follows_configureAll installed levels
  have hjournal : journal = before.journal :=
    (journal_configureAll ⟨none, installed⟩ levels).symm
  refine ⟨⟨?_, ?_⟩, ?_, ?_⟩
  · rw [hjournal]
    exact journal_configure before level
  · intro event
    exact shows_journal (hfollows.length_installed_le level) event
  · intro hlevel
    have hrefused := configure_unknown (hfollows.configured_ne hlevel) hlevel
    exact ⟨congrArg Prod.fst hrefused,
      congrArg (fun outcome => outcome.2.configured) hrefused,
      congrArg (fun outcome => outcome.2.installed) hrefused⟩
  · intro severity hlevel
    obtain ⟨hstale, hfresh⟩ := hfollows.configure_installed hlevel
    refine ⟨configure_accepts hlevel, ?_, hstale, ?_⟩
    · rw [(hfollows.configure level).configured, lastKnown?_append_known hlevel]
      rfl
    · intro hnot
      refine ⟨hfresh hnot, ?_⟩
      intro event
      simp only [shows, after, hfresh hnot, List.any_cons, List.any_nil,
        Bool.or_false, Severity.isShownFrom, decide_eq_true_eq]

/-- After a level that does not exist, the one before it is accepted again and
has no sink, and another one has its sink. -/
theorem configure_history_bogus :
    let before := configureAll ⟨none, [.debug]⟩ ["info".toList, "bogus".toList]
    (before.configure "INFO".toList).1 = .ok () ∧
      (before.configure "INFO".toList).2.installed = [] ∧
      (before.configure "error".toList).2.installed = [.error] := by
  intro before
  have hbogus : Severity.ofLevel? "bogus".toList = none := rfl
  have hlast : lastKnown? ["info".toList] = some .info := rfl
  have hstale : IsStale .info ["info".toList, "bogus".toList] :=
    isStale_append_unknown hbogus hlast
  have hfresh : ¬ IsStale .error ["info".toList, "bogus".toList] := by
    intro herror
    cases hstale.lastKnown?_eq.symm.trans herror.lastKnown?_eq
  obtain ⟨-, -, hinfo⟩ :=
    configure_history [.debug] ["info".toList, "bogus".toList] "INFO".toList
  obtain ⟨-, -, herror⟩ :=
    configure_history [.debug] ["info".toList, "bogus".toList] "error".toList
  obtain ⟨hresult, -, hnone, -⟩ := hinfo .info rfl
  obtain ⟨-, -, -, hone⟩ := herror .error rfl
  exact ⟨hresult, hnone hstale, (hone hfresh).1⟩

end Sinks

end LineShell
