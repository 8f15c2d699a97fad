import MediaLibrary.Error

/-!
# Page — windows

A search asks for one page: how many media at most, and where the page begins.
The beginning is a value to compare ids with, never a row, so the medium that it
names may be gone by then.

* `Window.make` — the window of what a caller asks for.
-/

namespace MediaLibrary

/-- Where a page begins. -/
inductive Anchor where
  /-- With the first match. -/
  | first
  /-- After a number of matches. -/
  | offset (n : Int)
  /-- With the first match whose id is greater. -/
  | after (id : Int)
  /-- It ends with the last match whose id is smaller. -/
  | before (id : Int)
deriving DecidableEq

/-- The size of a page and its beginning. -/
structure Window where
  limit : Int
  anchor : Anchor
deriving DecidableEq

/-- The beginning that a caller asks for: at most one of the three ways, and no negative offset.
An offset of zero is the first page. -/
def Anchor.make (after before offset : Option Int) : Except InputFault Anchor :=
  match after, before, offset with
  | none, none, none => .ok .first
  | some id, none, none => .ok (.after id)
  | none, some id, none => .ok (.before id)
  | none, none, some n =>
    if n < 0 then .error (.offsetNegative n)
    else if n = 0 then .ok .first
    else .ok (.offset n)
  | _, _, _ => .error .severalAnchors

/-- The window that a caller asks for. A limit above the greatest page size is cut to it, and a
page size below one counts as one. -/
def Window.make (limit : Int) (after before offset : Option Int) (maxPageSize : Int) :
    Except InputFault Window := do
  if limit ≤ 0 then throw (.limitNotPositive limit)
  let anchor ← Anchor.make after before offset
  return ⟨min limit (max maxPageSize 1), anchor⟩

end MediaLibrary
