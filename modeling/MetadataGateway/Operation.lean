/-!
# Operations

The operations that a request can select. A request selects one by naming its flag in the query; an
operation calls one function of the metadata database with a fixed list of typed parameters.
-/

namespace MetadataGateway

/-- The types that parameters have. -/
inductive Kind where
  | text
  | integer
  | float
  | timestamp
  | textList
  | json
deriving DecidableEq, Repr

/-- The database type that a parameter is cast to. -/
def Kind.sqlType : Kind → String
  | .text => "text"
  | .integer => "integer"
  | .float => "float8"
  | .timestamp => "timestamptz"
  | .textList => "text[]"
  | .json => "jsonb"

/-- Where the value of a parameter comes from: the path of the request, or the first value of a
name. -/
inductive Source where
  | path
  | form (name : String)
deriving DecidableEq, Repr

/-- A parameter of an operation. -/
structure Parameter where
  source : Source
  kind : Kind
deriving DecidableEq, Repr

namespace Parameter

/-- The parameter that takes the path. -/
def path : Parameter := ⟨.path, .text⟩

/-- The parameter that takes the value of a name. -/
def form (name : String) (kind : Kind) : Parameter := ⟨.form name, kind⟩

/-- The name of a parameter in messages. -/
def name (p : Parameter) : String :=
  match p.source with
  | .path => "gpath"
  | .form name => name

end Parameter

/-- An operation: the flag that selects it, the function it calls with its parameters, and whether
that function changes the state of the database. -/
structure Operation where
  flag : String
  function : String
  parameters : List Parameter
  mutatesState : Bool
deriving DecidableEq, Repr

namespace Operation

open Parameter

/-- The features that a geometry and a span of time meet. -/
def intersects : Operation where
  flag := "intersects"
  function := "mas_intersects"
  parameters :=
    [path, form "srs" .text, form "wkt" .text, form "nseg" .integer, form "time" .timestamp,
      form "until" .timestamp, form "namespace" .textList, form "metadata" .text,
      form "identitytol" .float, form "dptol" .float, form "limit" .integer]
  mutatesState := false

/-- The timestamps in a span of time. -/
def timestamps : Operation where
  flag := "timestamps"
  function := "mas_timestamps"
  parameters :=
    [path, form "time" .timestamp, form "until" .timestamp, form "namespace" .textList,
      form "token" .text]
  mutatesState := false

/-- The extents in space and time. -/
def extents : Operation where
  flag := "extents"
  function := "mas_spatial_temporal_extents"
  parameters := [path, form "namespace" .textList]
  mutatesState := false

/-- The paths at the root. -/
def listRootPaths : Operation where
  flag := "list_root_gpath"
  function := "mas_list_root_gpath"
  parameters := []
  mutatesState := false

/-- The paths below a path. -/
def listSubPaths : Operation where
  flag := "list_sub_gpath"
  function := "mas_list_sub_gpath"
  parameters := [path]
  mutatesState := false

/-- The layers of a path. -/
def generateLayers : Operation where
  flag := "generate_layers"
  function := "mas_generate_layers"
  parameters := [path]
  mutatesState := false

/-- Keep a document for a query. -/
def putOwsCache : Operation where
  flag := "put_ows_cache"
  function := "mas_put_ows_cache"
  parameters := [path, form "query" .text, form "value" .json]
  mutatesState := true

/-- The document kept for a query. -/
def getOwsCache : Operation where
  flag := "get_ows_cache"
  function := "mas_get_ows_cache"
  parameters := [path, form "query" .text]
  mutatesState := true

/-- All operations. Of several flags in one request the first in this order counts. -/
def table : List Operation :=
  [intersects, timestamps, extents, listRootPaths, listSubPaths, generateLayers, putOwsCache,
    getOwsCache]

/-- The first operation whose flag is present. -/
def find? (isPresent : String → Bool) : Option Operation :=
  table.find? fun op => isPresent op.flag

/-- The operation with this flag. -/
def withFlag? (flag : String) : Option Operation :=
  table.find? fun op => op.flag == flag

/-- The message for a request that selects no operation. -/
def unsupportedMessage : String :=
  "unknown operation; currently supported: ?intersects, ?timestamps, ?extents"

end Operation

end MetadataGateway
