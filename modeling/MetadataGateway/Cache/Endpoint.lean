import MetadataGateway.Net.Url

/-!
# Where a store is

The place of a store is written as a URL, or as the name of a machine and a port alone, which stand
for a TCP endpoint.
-/

namespace MetadataGateway.Cache

open Net

/-- Whether a text has a scheme. -/
def hasScheme (uri : String) : Bool :=
  hasMark uri.toList
where
  /-- Whether a colon with two slashes behind it stands in a text. -/
  hasMark : List Char → Bool
    | [] => false
    | c :: rest => "://".toList.isPrefixOf (c :: rest) || hasMark rest

/-- The source name of a store: the URL that a text stands for. -/
def sourceName (uri : String) : String :=
  if hasScheme uri then uri else "tcp://" ++ uri

/-- Whether a URL says where a store is: the path of a local socket, or a host and a port. -/
def isEndpoint (url : Url) : Bool :=
  if url.scheme = "unix" then url.path != ""
  else url.host.isSome && url.port.isSome

/-- Whether a text says where a store is. -/
def isEndpointText (uri : String) : Bool :=
  match Url.ofString (sourceName uri) with
  | .ok url => isEndpoint url
  | .error _ => false

end MetadataGateway.Cache
