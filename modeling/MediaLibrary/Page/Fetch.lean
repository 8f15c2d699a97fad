import MediaLibrary.Page.Window
import MediaLibrary.Selection.Statement

/-!
# Page — fetching a page

A page is read in three steps that see one state of the store: the number of all
matches, the media of the page, and whether a match follows the page. Only the
rows of the page are decoded, in the order in which they are fetched; a page
before an id is fetched backwards and turned round. Each step has a statement of its own,
which the store may refuse to take; a page without media needs no third one.

* `Page.counting`, `Page.listing`, `Page.following` — the three statements;
* `Page.windowRows` — the rows of a window, in the order of fetching;
* `Page.fetch` — the page of a window.
-/

namespace MediaLibrary

/-- A page of the result of a search. -/
structure Page where
  /-- The media of the page, by id. -/
  media : List Media
  /-- The number of all matches. -/
  totalCount : Int
  firstId : Option Int
  lastId : Option Int
  /-- A match follows the last medium of the page. -/
  hasMore : Bool
deriving DecidableEq

namespace Page

open Selection

/-- A page without media. -/
def empty (totalCount : Int) : Page :=
  ⟨[], totalCount, none, none, false⟩

/-- The ids of the media of a page. -/
def ids (p : Page) : List Int :=
  p.media.map (·.id)

-- ---------------------------------------------------------------------------
-- Statements
-- ---------------------------------------------------------------------------

/-- The statement that counts all matches. -/
def counting (sel : Selection Condition) : Statement where
  opening := "SELECT COUNT(*) FROM media m"
  selection := sel

/-- The statement that lists matches by id, upwards or downwards. -/
def listed (sel : Selection Condition) (order : String) : Statement where
  opening := "SELECT m.* FROM media m"
  selection := sel
  closing := " ORDER BY m.id " ++ order ++ " LIMIT ?"
  closingPlaces := 1

/-- The statement that lists the matches of a window. -/
def listing (sel : Selection Condition) : Anchor → Statement
  | .first => listed sel "ASC"
  | .offset _ =>
    { listed sel "ASC" with
      closing := (listed sel "ASC").closing ++ " OFFSET ?"
      closingPlaces := 2 }
  | .after id => listed (sel.bounded (.compared .id .above) (.int id)) "ASC"
  | .before id => listed (sel.bounded (.compared .id .below) (.int id)) "DESC"

/-- The statement that looks for a match with an id greater than this one. -/
def following (sel : Selection Condition) (id : Int) : Statement where
  opening := "SELECT EXISTS(SELECT 1 FROM media m"
  selection := sel.bounded (.compared .id .above) (.int id)
  closing := ")"
  isNested := true

-- ---------------------------------------------------------------------------
-- Steps
-- ---------------------------------------------------------------------------

/-- The number of matches. -/
def countMatches (sel : Selection Condition) (s : Store) : Except Error Int := do
  (counting sel).prepare
  return (sel.rows s).length

/-- A match has an id greater than this one. -/
def existsAfter (sel : Selection Condition) (id : Int) (s : Store) : Except Error Bool := do
  (following sel id).prepare
  return !((sel.bounded (.compared .id .above) (.int id)).rows s).isEmpty

/-- The first rows, as many as the limit of a window allows. A negative limit is none. -/
def limited (w : Window) (rows : List MediaRow) : List MediaRow :=
  if w.limit < 0 then rows else rows.take w.limit.toNat

/-- The rows of a window, in the order in which they are fetched. -/
def windowRows (sel : Selection Condition) (w : Window) (s : Store) : List MediaRow :=
  match w.anchor with
  | .first => limited w (sel.rows s)
  | .offset n => limited w ((sel.rows s).drop n.toNat)
  | .after id => limited w ((sel.bounded (.compared .id .above) (.int id)).rows s)
  | .before id => limited w ((sel.bounded (.compared .id .below) (.int id)).rows s).reverse

/-- The media of a window, by id. -/
def windowMedia (sel : Selection Condition) (w : Window) (s : Store) : Except Error (List Media) := do
  (listing sel w.anchor).prepare
  let media ← (windowRows sel w s).mapM MediaRow.decode
  match w.anchor with
  | .before _ => return media.reverse
  | _ => return media

/-- The page of a window. -/
def fetch (sel : Selection Condition) (w : Window) (s : Store) : Except Error Page := do
  let totalCount ← countMatches sel s
  let media ← windowMedia sel w s
  match media.head?, media.getLast? with
  | some first, some last =>
    let hasMore ← existsAfter sel last.id s
    return ⟨media, totalCount, some first.id, some last.id, hasMore⟩
  | _, _ => return empty totalCount

end Page

end MediaLibrary
