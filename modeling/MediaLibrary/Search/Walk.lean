import MediaLibrary.Search.Basic

/-!
# Search — walks

A walk reads page after page. Forward, each page begins after the last medium of
the one before, until no match follows; backward, each page ends before the first
medium of the one before, until a page is empty. A walk moves only the anchor of
its own way, so one that sets out from the other anchor stops at its second page,
which would have two. A walk reads a limited number of pages.

* `SearchRequest.onward`, `SearchRequest.back` — the request for the next page;
* `Database.walk` — the pages of a walk.
-/

namespace MediaLibrary

/-- The way of a walk. -/
inductive Direction where
  | forward
  | backward
deriving DecidableEq

namespace SearchRequest

/-- The request for the page after this one. An anchor at the other end stays. -/
def onward (r : SearchRequest) (p : Page) : SearchRequest :=
  { r with afterId := p.lastId, offset := none }

/-- The request for the page before this one. An anchor at the other end stays. -/
def back (r : SearchRequest) (p : Page) : SearchRequest :=
  { r with beforeId := p.firstId, offset := none }

/-- The request for the next page of a walk, unless the walk ends with this one. -/
def next? (r : SearchRequest) (p : Page) : Direction → Option SearchRequest
  | .forward => if p.hasMore && !p.media.isEmpty then some (r.onward p) else none
  | .backward => if p.media.isEmpty then none else some (r.back p)

end SearchRequest

namespace Database

/-- The pages of a walk, at most this many. -/
def walk (way : Direction) (maxPageSize : Int) : Nat → SearchRequest → Work (List Page)
  | 0, _ => return []
  | n + 1, r => do
    let page ← search r maxPageSize
    match r.next? page way with
    | none => return [page]
    | some r => return page :: (← walk way maxPageSize n r)

end Database

end MediaLibrary
