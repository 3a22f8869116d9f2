/-!
# Fragments

Whether one text stands somewhere in another.
-/

namespace UserAccounts.Text

/-- Whether `part` stands somewhere in `whole`. -/
def occursIn (part : List Char) : List Char → Bool
  | [] => part.isEmpty
  | c :: rest => part.isPrefixOf (c :: rest) || occursIn part rest

/-- Whether a text contains a fragment. -/
def containsFragment (fragment whole : String) : Bool :=
  occursIn fragment.toList whole.toList

end UserAccounts.Text
