/-!
# Documents

The members of a table have different names and stand in the order in which they were put there. A
date or time is only known to be one, since nothing that is configured is a date.

A document is a list of statements, each of which adds to a tree of tables. A pair puts a value
under a name; a header says which table the pairs behind it belong to. A table may be stated once
only: by a header or by braces, or piecemeal by the dotted names of pairs. The header of a table
states nothing about the tables around it, which are merely implied and may be stated later.
-/

namespace MetadataGateway.Toml

/-- A TOML value. -/
inductive Value where
  | string (s : String)
  | integer (n : Int)
  | float (x : Float)
  | boolean (b : Bool)
  /-- A date, a time, or both. -/
  | moment
  | array (items : List Value)
  | table (members : List (String × Value))
deriving Inhabited, Repr

/-- How a table has come about. -/
inductive Standing where
  /-- By a header or by braces. -/
  | stated
  /-- By the header of a table inside it. -/
  | implied
  /-- By dotted names. -/
  | dotted
deriving DecidableEq, Repr

/-- What a name stands for while a document is read. -/
inductive Node where
  | value (v : Value)
  | table (standing : Standing) (members : List (String × Node))
  /-- An array of tables, the last one first. -/
  | tables (reversed : List (List (String × Node)))

/-- The members of a table while a document is read. -/
abbrev Members := List (String × Node)

mutual

/-- The value that a node has become. -/
def Node.toValue : Node → Value
  | .value v => v
  | .table _ members => .table (membersToValue members)
  | .tables reversed => .array (tablesToValues reversed).reverse

/-- The values that the members of a table have become. -/
def membersToValue : List (String × Node) → List (String × Value)
  | [] => []
  | (name, node) :: rest => (name, node.toValue) :: membersToValue rest

/-- The values that tables have become. -/
def tablesToValues : List (List (String × Node)) → List Value
  | [] => []
  | members :: rest => .table (membersToValue members) :: tablesToValues rest

end

/-- A table: its standing and its members. -/
structure Table where
  standing : Standing
  members : Members

namespace Table

/-- A stated table without members. -/
def empty : Table := ⟨.stated, []⟩

/-- The node that a name stands for. -/
def get? (t : Table) (name : String) : Option Node :=
  t.members.lookup name

/-- The table with a node for a new name behind the others, or in the place of the old one. -/
def set (t : Table) (name : String) (node : Node) : Table :=
  { t with members := put t.members }
where
  /-- The members with the node put among them. -/
  put : Members → Members
    | [] => [(name, node)]
    | (n, v) :: rest => if n = name then (n, node) :: rest else (n, v) :: put rest

/-- The table without a name. -/
def erase (t : Table) (name : String) : Table :=
  { t with members := t.members.filter fun m => m.1 != name }

/-- Do `act` to the table at a path; tables that are missing on the way are made, and of an array of
tables the last is taken. With `dotted` the way is that of a dotted name, which leads through no
stated table. -/
def descend {α : Type} (dotted : Bool) (act : Table → Option (α × Table)) :
    List String → Table → Option (α × Table)
  | [], t => act t
  | name :: path, t =>
    match t.get? name with
    | none => do
      let (a, inner) ← descend dotted act path ⟨if dotted then .dotted else .implied, []⟩
      some (a, t.set name (.table inner.standing inner.members))
    | some (.value _) => none
    | some (.tables []) => none
    | some (.tables (last :: before)) => do
      let (a, inner) ← descend dotted act path ⟨.stated, last⟩
      some (a, t.set name (.tables (inner.members :: before)))
    | some (.table standing members) =>
      if dotted && standing = .stated then none
      else do
        let (a, inner) ← descend dotted act path ⟨standing, members⟩
        some (a, t.set name (.table inner.standing inner.members))

/-- Put a value under a dotted name. A table that has been stated by dotted names is open to dotted
names only, and any other is closed to them. -/
def putValue (path : List String) (name : String) (v : Value) (t : Table) : Option Table :=
  (descend true act path t).map Prod.snd
where
  /-- Put the value into the table at the end of the path. -/
  act (t : Table) : Option (Unit × Table) :=
    if (t.standing == .dotted) == path.isEmpty then none
    else if (t.get? name).isSome then none
    else some ((), t.set name (.value v))

/-- Take away the members of a table that is merely implied. A name that stands for anything else
has been stated before. -/
def takeImplied (name : String) (t : Table) : Option (Members × Table) :=
  match t.get? name with
  | none => some ([], t)
  | some (.table .implied members) => some (members, t.erase name)
  | some _ => none

/-- Put a table under a free name. -/
def putTable (name : String) (members : Members) (t : Table) : Option (Unit × Table) :=
  some ((), t.set name (.table .stated members))

/-- Make a name stand for an array of tables, if it is free. -/
def openTables (name : String) (t : Table) : Option (Unit × Table) :=
  match t.get? name with
  | none => some ((), t.set name (.tables []))
  | some (.tables _) => some ((), t)
  | some _ => none

/-- Put a table behind the others of an array of tables. -/
def pushTable (name : String) (members : Members) (t : Table) : Option (Unit × Table) :=
  match t.get? name with
  | some (.tables before) => some ((), t.set name (.tables (members :: before)))
  | _ => none

/-- The members of a table between braces. -/
def ofPairs (pairs : List (List String × String × Value)) : Option (List (String × Value)) :=
  (pairs.foldlM (fun t p => putValue p.1 p.2.1 p.2.2 t) empty).map fun t =>
    membersToValue t.members

end Table

/-- The statements of a document. The last name of a path stands apart. -/
inductive Statement where
  | pair (path : List String) (name : String) (v : Value)
  /-- The header of a table. -/
  | table (path : List String) (name : String)
  /-- The header of one more table of an array. -/
  | item (path : List String) (name : String)

/-- Where the pairs belong that are read. -/
inductive Header where
  | root
  | table (path : List String) (name : String)
  | item (path : List String) (name : String)

/-- What has been read of a document: the finished tables, and the table that is being read. -/
structure Draft where
  root : Table
  header : Header
  current : Table

namespace Draft

/-- Nothing read yet. -/
def empty : Draft := ⟨.empty, .root, .empty⟩

/-- The finished tables with the one that was being read. -/
def close (d : Draft) : Option Table :=
  match d.header with
  | .root => some d.current
  | .table path name =>
    (d.root.descend false (Table.putTable name d.current.members) path).map Prod.snd
  | .item path name =>
    (d.root.descend false (Table.pushTable name d.current.members) path).map Prod.snd

/-- Read one more statement. -/
def feed (d : Draft) : Statement → Option Draft
  | .pair path name v => do
    let current ← d.current.putValue path name v
    some { d with current }
  | .table path name => do
    let (members, root) ← (← d.close).descend false (Table.takeImplied name) path
    some ⟨root, .table path name, ⟨.stated, members⟩⟩
  | .item path name => do
    let (_, root) ← (← d.close).descend false (Table.openTables name) path
    some ⟨root, .item path name, .empty⟩

end Draft

/-- The members of the table that statements make, if they agree. -/
def ofStatements (statements : List Statement) : Option (List (String × Value)) := do
  let d ← statements.foldlM Draft.feed .empty
  let root ← d.close
  some (membersToValue root.members)

end MetadataGateway.Toml
