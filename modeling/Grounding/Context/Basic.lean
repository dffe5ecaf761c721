import Grounding.Number.Figures
import Grounding.Retrieval.Passage

/-!
# The context block

Passages reach a model as one block of text: a header, one numbered entry for each passage in the
given order, and a footer.  Sources and contents are inserted as they are.  No passages, no block.
-/

namespace Grounding.Context

def header : String := "[Retrieved Context]"

def footer : String := "[End Retrieved Context]"

/-- Relevance is shown with six significant figures. -/
def relevance (p : Passage) : String := p.similarity.significantText 6

def entry (number : Nat) (p : Passage) : String :=
  "\n[Source " ++ toString number ++ ": " ++ p.source ++ " (relevance: " ++ relevance p ++ ")]\n" ++
    p.content ++ "\n"

/-- The entries of passages numbered from `first` on. -/
def entries (first : Nat) : List Passage → String
  | [] => ""
  | p :: rest => entry first p ++ entries (first + 1) rest

def render : List Passage → String
  | [] => ""
  | passages => header ++ "\n" ++ entries 1 passages ++ "\n" ++ footer ++ "\n"

theorem render_eq_empty_iff {passages : List Passage} : render passages = "" ↔ passages = [] := by
  cases passages with
  | nil => simp [render]
  | cons p rest => simp [render]

end Grounding.Context
