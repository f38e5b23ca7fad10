import Pruner.Text.Blank

/-!
# Stray commas

What is left of a list when some of its items are gone: doubled commas, a comma after an opening
brace, a comma before a closing brace.
-/

namespace Pruner.Comma

open Text

/-- One pass from left to right that turns `first`, blanks and `last` into `image`. -/
def collapse (first last image : Char) (text : List Char) : List Char :=
  match text with
  | [] => []
  | c :: cs =>
    if c = first ∧ cs[blanks cs]? = some last then
      image :: collapse first last image (cs.drop (blanks cs + 1))
    else c :: collapse first last image cs
termination_by text.length
decreasing_by
  all_goals simp only [List.length_cons, List.length_drop]
  all_goals omega

def tidy (code : List Char) : List Char :=
  collapse ',' '}' '}' (collapse '{' ',' '{' (collapse ',' ',' ',' code))

end Pruner.Comma
