/-!
# Scripts of answers

Something that is asked again and again can be answered from a script: the answers are given one
after the other, and the last one repeats.
-/

namespace RestoreCheck.Script

/-- Takes the next answer of a script.  `otherwise` is the answer of an empty one. -/
def next {α : Type} (otherwise : α) : List α → α × List α
  | [] => (otherwise, [])
  | [a] => (a, [a])
  | a :: rest => (a, rest)

end RestoreCheck.Script
