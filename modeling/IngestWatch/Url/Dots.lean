/-!
Paths that say how to go: a part that goes up, a part that stays, and all others, which
go down by a name.
-/

namespace IngestWatch.Url

/-- How the parts of a path are followed. -/
structure Dots where
  isHere : String → Bool
  isUp : String → Bool
  /-- Goes up from the last of the parts. -/
  leave : List String → List String
  /-- Goes down by a name. -/
  enter : List String → String → List String

/-- The parts of a path without those that say how to go. A path that ends in one of them
ends in a slash, so an empty part stands behind the others. -/
def Dots.follow (d : Dots) : List String → List String → List String
  | done, [] => done
  | done, part :: rest =>
    let here := if d.isUp part then d.leave done else done
    if d.isUp part || d.isHere part then
      if rest.isEmpty then here ++ [""] else d.follow here rest
    else d.follow (d.enter done part) rest

end IngestWatch.Url
