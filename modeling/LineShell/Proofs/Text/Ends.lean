import LineShell.Text
import Mathlib.Data.List.TakeWhile

/-!
Dropping characters at the ends of a text: nothing else is lost
(`exists_append_dropAround`), and what stands between two characters that are
kept stays as it is (`dropAround_append`).
-/
namespace LineShell.Text

variable {drops : Char → Bool}

theorem dropEndWhile_append {ends : Text} (h : ∀ c ∈ ends, drops c = true)
    (text : Text) :
    dropEndWhile drops (text ++ ends) = dropEndWhile drops text := by
  rw [dropEndWhile, List.reverse_append,
    List.dropWhile_append_of_pos fun c hc => h c (List.mem_reverse.1 hc)]
  rfl

theorem dropEndWhile_eq_self
    {text : Text} (h : ∀ c, text.getLast? = some c → drops c = false) :
    dropEndWhile drops text = text := by
  have hkept : text.reverse.dropWhile drops = text.reverse := by
    cases hreverse : text.reverse with
    | nil => rfl
    | cons c rest =>
        rw [List.dropWhile_cons_of_neg]
        rw [Bool.not_eq_true]
        refine h c ?_
        rw [← List.head?_reverse, hreverse]
        rfl
  rw [dropEndWhile, hkept, List.reverse_reverse]

theorem exists_append_dropAround (drops : Char → Bool) (text : Text) :
    ∃ before after, text = before ++ dropAround drops text ++ after ∧
      (∀ c ∈ before, drops c = true) ∧ ∀ c ∈ after, drops c = true := by
  have hfront := List.takeWhile_append_dropWhile (p := drops) (l := text)
  have hback := List.takeWhile_append_dropWhile (p := drops)
      (l := (text.dropWhile drops).reverse)
  refine ⟨text.takeWhile drops, ((text.dropWhile drops).reverse.takeWhile
    drops).reverse, ?_, fun c hc => List.mem_takeWhile_imp hc, fun c hc => ?_⟩
  · rw [dropAround, dropEndWhile, List.append_assoc, ← List.reverse_append,
      hback, List.reverse_reverse, hfront]
  · exact List.mem_takeWhile_imp (List.mem_reverse.1 hc)

theorem dropAround_append
    {before middle after : Text} (hbefore : ∀ c ∈ before, drops c = true)
    (hafter : ∀ c ∈ after, drops c = true)
    (hfirst : ∀ c, middle.head? = some c → drops c = false)
    (hlast : ∀ c, middle.getLast? = some c → drops c = false) :
    dropAround drops (before ++ middle ++ after) = middle := by
  cases middle with
  | nil =>
      have hall : ∀ c ∈ before ++ [] ++ after, drops c = true := by
        simpa [or_imp, forall_and] using ⟨hbefore, hafter⟩
      rw [dropAround, List.dropWhile_eq_nil_iff.2 hall]
      rfl
  | cons c rest =>
      have hdropped : (before ++ (c :: rest) ++ after).dropWhile drops =
          (c :: rest) ++ after := by
        rw [List.append_assoc, List.dropWhile_append_of_pos hbefore,
          List.cons_append, List.dropWhile_cons_of_neg (by simp [hfirst c rfl])]
      rw [dropAround, hdropped, dropEndWhile_append hafter,
        dropEndWhile_eq_self hlast]

end LineShell.Text
