import LineShell.Text

/-!
How similar two texts are: the characters in their longest common block, and in
the longest common blocks to the left and to the right of it, and so on.
-/
namespace LineShell.Text

/-- A block that two texts have in common: where it starts in each, and its
length. -/
structure CommonBlock where
  first : Nat
  second : Nat
  size : Nat
  deriving DecidableEq, Repr

def commonStart : Text → Text → Nat
  | c :: rest, d :: others => if c = d then commonStart rest others + 1 else 0
  | _, _ => 0

/-- The longest common block; of several the one that starts first in the first
text, and then first in the second. -/
def longestCommonBlock (first second : Text) : CommonBlock :=
  let blocks := (List.range first.length).flatMap fun i =>
    (List.range second.length).map fun j =>
      ⟨i, j, commonStart (first.drop i) (second.drop j)⟩
  blocks.foldl (fun best block => if best.size < block.size then block
    else best) ⟨0, 0, 0⟩

/-- The number of characters in common blocks, for at most `depth` levels of
blocks. -/
def matchCount : Nat → Text → Text → Nat
  | 0, _, _ => 0
  | depth + 1, first, second =>
    let block := longestCommonBlock first second
    if block.size = 0 then
      0
    else
      matchCount depth (first.take block.first) (second.take block.second) +
        block.size +
        matchCount depth (first.drop (block.first + block.size))
          (second.drop (block.second + block.size))

/-- Whether at least six tenths of the characters of two texts match. -/
def areSimilar (first second : Text) : Bool :=
  6 * (first.length + second.length) ≤ 20 * matchCount first.length first second

example : areSimilar "shell".toList "shel".toList = true := by decide
example : areSimilar "shell".toList "frob".toList = false := by decide

end LineShell.Text
