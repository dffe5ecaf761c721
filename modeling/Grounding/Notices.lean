/-!
# Counted notices

Some steps go on in spite of something that an operator should know: a setting that is ignored, an
entry that is skipped.  They return how many such notices they gave beside their result.
-/

namespace Grounding

structure Noted (α : Type) where
  value : α
  notices : Nat

end Grounding
