/-!
# Text — letter case

Words are compared after `fold`, which lowers the letters `A` to `Z` and leaves
every other character alone: `CAT` and `cat` name one tag, `É` and `é` name two. How the
store compares names that hold a NUL is said in `Text.Collation`.
The full Unicode mapping, which is used only on what a user types as tag input,
is `Text.lowerCase` in `Text.LowerCase`.
-/

namespace MediaLibrary.Text

/-- The text with the letters `A` to `Z` in lower case. -/
def fold (s : String) : String :=
  String.ofList (s.toList.map Char.toLower)

/-- Two texts that differ at most in the case of the letters `A` to `Z`. -/
def sameFolded (a b : String) : Bool :=
  fold a == fold b

@[simp] theorem toList_fold (s : String) : (fold s).toList = s.toList.map Char.toLower := by
  simp [fold]

end MediaLibrary.Text
