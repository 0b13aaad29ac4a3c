import NestedSelect.Join.Spec
/-!
The joins that have been requested, at most one for each dotted path. They are kept in the order
of their paths by code point, so that what was requested in which order leaves no trace.
-/

namespace NestedSelect

/-- Requested joins in ascending order of their paths. -/
abbrev JoinRequests := List (String × JoinSpec)

namespace JoinRequests

/-- What has been requested at `path`. -/
def find? (requests : JoinRequests) (path : String) : Option JoinSpec :=
  requests.lookup path

/-- Request a join at `path`. An earlier request for the same path is replaced. -/
def set (path : String) (spec : JoinSpec) : JoinRequests → JoinRequests
  | [] => [(path, spec)]
  | (first, held) :: rest =>
    if path < first then (path, spec) :: (first, held) :: rest
    else if path = first then (path, spec) :: rest
    else (first, held) :: set path spec rest

/-- The requests of a list taken in order, where the last one for a path stands. -/
def ofList (requests : List (String × JoinSpec)) : JoinRequests :=
  requests.foldl (fun held request => held.set request.1 request.2) []

end JoinRequests

end NestedSelect
