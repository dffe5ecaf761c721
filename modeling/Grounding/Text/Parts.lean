/-!
# Texts between marks

A text with a mark in it is the row of the texts between the marks; there is always one more of them
than there are marks.
-/

namespace Grounding.Text

def splitAtEach (mark : Char) : List Char → List (List Char)
  | [] => [[]]
  | c :: rest =>
    match splitAtEach mark rest with
    | [] => [[]]
    | part :: parts => if c == mark then [] :: part :: parts else (c :: part) :: parts

end Grounding.Text
