import MediaLibrary.Database.Basic
import MediaLibrary.Page.Fetch
import MediaLibrary.Query.Parser
import MediaLibrary.Selection.Compile

/-!
# Search — one page

A search goes through fixed stages: its query is read, its window is made, both
become a selection, and the page is fetched from one state of the store. The first
stage that fails decides the error, and only the last one looks at the database.

* `SearchRequest.plan` — the stages before the database;
* `Database.search` — the page of a request.
-/

namespace MediaLibrary

/-- What a caller asks for. At most one of the two ids and the offset may be given. -/
structure SearchRequest where
  query : String := ""
  filters : Filters := {}
  limit : Int := 0
  afterId : Option Int := none
  beforeId : Option Int := none
  offset : Option Int := none
deriving DecidableEq

namespace SearchRequest

/-- The selection and the window of a request. -/
def plan (r : SearchRequest) (maxPageSize : Int) :
    Except Error (Selection Selection.Condition × Window) := do
  let query ← (Query.parse r.query).mapError Error.parse
  let window ←
    (Window.make r.limit r.afterId r.beforeId r.offset maxPageSize).mapError Error.input
  return (← Selection.compile query r.filters, window)

end SearchRequest

namespace Database

open Work

/-- The page of a request. A page never holds more than `maxPageSize` media. -/
def search (r : SearchRequest) (maxPageSize : Int) : Work Page := do
  let (selection, window) ← ofExcept (r.plan maxPageSize)
  transaction do
    -- the first statement is read before the tables are looked for
    let _ ← ofExcept (Page.counting selection).read
    ofExcept (Page.fetch selection window (← tables "media"))

end Database

end MediaLibrary
