/-!
# Trees

A tree has a label and any number of trees below it.  `scan` goes through a tree
from the top down and hands a value along: each label is listed with what has
come down to it.  Positions in space and depths are both handed down this way.

A tree is always gone through parent first, then its children in order, each with
all that is below it.  `find?` follows the same order and stops at the first
match.
-/

namespace Scenery

/-- A tree with a label at each place. -/
inductive Tree (β : Type) where
  /-- A label and the trees below it. -/
  | node (label : β) (children : List (Tree β))

namespace Tree

variable {β γ : Type}

/-- The label at the top. -/
def label : Tree β → β
  | node l _ => l

/-- The trees below the top. -/
def children : Tree β → List (Tree β)
  | node _ ts => ts

mutual

/-- The labels of a tree from the top down, each with what comes down to it. -/
def scan (f : γ → β → γ) (c : γ) : Tree β → List (β × γ)
  | node l ts => (l, f c l) :: scanAll f (f c l) ts

/-- The labels of several trees, one tree after another. -/
def scanAll (f : γ → β → γ) (c : γ) : List (Tree β) → List (β × γ)
  | [] => []
  | t :: ts => scan f c t ++ scanAll f c ts

end

mutual

/-- The first tree within a tree whose label has a property. -/
def find? (p : β → Bool) : Tree β → Option (Tree β)
  | node l ts => if p l then some (node l ts) else findAll? p ts

/-- The first tree within several trees whose label has a property. -/
def findAll? (p : β → Bool) : List (Tree β) → Option (Tree β)
  | [] => none
  | t :: ts =>
      match find? p t with
      | some found => some found
      | none => findAll? p ts

end

/-- The labels of several trees. -/
def labels (ts : List (Tree β)) : List β := (scanAll (fun _ _ => ()) () ts).map (·.1)

example : labels [node 1 [node 2 [node 3 []], node 4 []], node 5 []] = [1, 2, 3, 4, 5] := by
  decide +kernel

end Tree

end Scenery
