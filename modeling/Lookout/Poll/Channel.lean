/-!
# Channels

A channel of the dashboard is named by a path, by convention its region and its name with a slash
between them.  Its picture lies at that path below the dashboard's base address.
-/

namespace Lookout

/-- The name of a channel. -/
structure ChannelId where
  /-- The path that names it. -/
  path : String
  deriving DecidableEq, Repr, Inhabited

namespace ChannelId

/-- What stands before and after the first slash, if there is one. -/
def atFirstSlash (cs : List Char) : Option (List Char × List Char) :=
  match cs.span (· != '/') with
  | (before, _ :: after) => some (before, after)
  | (_, []) => none

/-- The region, if the path has one. -/
def region (c : ChannelId) : Option String :=
  (atFirstSlash c.path.toList).map fun parts => String.ofList parts.1

/-- The name without the region. -/
def name (c : ChannelId) : String :=
  match atFirstSlash c.path.toList with
  | some (_, after) => String.ofList after
  | none => c.path

/-- A base address without the slashes at its end. -/
def trimBase (base : String) : String :=
  String.ofList (base.toList.reverse.dropWhile (· == '/')).reverse

/-- Where the channel's picture is, below a base address. -/
def address (base : String) (c : ChannelId) : String := trimBase base ++ "/" ++ c.path

end ChannelId

end Lookout
