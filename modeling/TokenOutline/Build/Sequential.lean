import TokenOutline.Build.Basic

/-!
# The outline of a file, one token after the other

The plain way to the outline of a file: ask for each token in turn, stop at the first failure, and
put the item for the end of input in front. It is what a build comes to whose lookups are all
answered at once.
-/

namespace TokenOutline

/-- The items of the tokens that `reply` answers by key, one after the other. -/
def sequential (reply : String → Reply) (s : Settings) (tokens : List Token) : Outcome := do
  let items ← tokens.mapM fun t => resolve s t (reply t.key)
  return Item.eof s :: items

end TokenOutline
