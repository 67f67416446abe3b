import Varsheet.Fault
import Varsheet.Files.Path

/-!
# Files

A store holds the files and directories below a working directory, and reads them by path.

* `Store` : files and directories by the names that lead to them
* `Store.write`, `Store.remove` : changes
* `Store.read` : the content of a file, or why there is none
-/

namespace Varsheet

/-- A file or a directory. -/
inductive Node where
  | directory
  | file (content : ByteArray)

/-- The files and directories below a working directory, each by the names that lead to it. -/
structure Store where
  nodes : List (List String × Node)

namespace Store

/-- The store in which there is only the working directory. -/
def empty : Store := ⟨[]⟩

/-- The node that names lead to. No names lead to the working directory itself. -/
def node? (store : Store) (names : List String) : Option Node :=
  match names with
  | [] => some .directory
  | _ => (store.nodes.find? fun entry => entry.1 = names).map Prod.snd

/-- Where a walk along a path has come to. Of what lies outside of the working directory only the
directories on the way are known. -/
inductive Place where
  | inside (names : List String)
  | outside
deriving DecidableEq, Repr

/-- The node at a place. -/
def nodeAt? (store : Store) : Place → Option Node
  | .inside names => store.node? names
  | .outside => some .directory

/-- The longest name that a file can have, in bytes. -/
def maxName : Nat := 255

/-- The longest path that can be read, in bytes. -/
def maxPath : Nat := 4095

/-- One step of a walk. Every step, even one that leads nowhere, has to start in a directory. -/
def step (store : Store) (place : Place) (piece : List Char) : Except FileKind Place :=
  match store.nodeAt? place with
  | none => .error .notFound
  | some (.file _) => .error .notDirectory
  | some .directory =>
    if Path.leadsNowhere piece then .ok place
    else if piece = ['.', '.'] then
      match place with
      | .inside [] => .ok .outside
      | .inside names => .ok (.inside names.dropLast)
      | .outside => .ok .outside
    else
      let name := String.ofList piece
      if maxName < name.utf8ByteSize then .error .nameTooLong
      else
        match place with
        | .outside => .error .notFound
        | .inside names =>
          match store.node? (names ++ [name]) with
          | none => .error .notFound
          | some _ => .ok (.inside (names ++ [name]))

/-- The place that a path leads to. -/
def walk (store : Store) (path : List Char) : Except FileKind Place :=
  (Path.pieces path).foldlM store.step
    (match path with
      | '/' :: _ => .outside
      | _ => .inside [])

/-- The content of a file. -/
def read (store : Store) (path : String) : Except FileKind ByteArray :=
  if '\x00' ∈ path.toList then .error .nulInName
  else if path = "" then .error .notFound
  else if maxPath < path.utf8ByteSize then .error .nameTooLong
  else
    match store.walk path.toList with
    | .error kind => .error kind
    | .ok place =>
      match store.nodeAt? place with
      | none => .error .notFound
      | some .directory => .error .isDirectory
      | some (.file content) => .ok content

/-! ## Changes -/

/-- Puts a node where names lead to. -/
def put (store : Store) (names : List String) (node : Node) : Store :=
  ⟨(names, node) :: store.nodes.filter fun entry => entry.1 ≠ names⟩

/-- Goes one piece further along a path and makes the directory there if it is missing. -/
def enter (reached : Store × List String) (piece : List Char) : Store × List String :=
  let (store, names) := reached
  if Path.leadsNowhere piece then reached
  else if piece = ['.', '.'] then (store, names.dropLast)
  else
    let inner := names ++ [String.ofList piece]
    match store.node? inner with
    | some _ => (store, inner)
    | none => (store.put inner .directory, inner)

/-- Puts a node at a path. Directories on the way are made if they are missing. -/
def write (store : Store) (path : String) (node : Node) : Store :=
  match (Path.core (Path.pieces path.toList)).getLast? with
  | none => store
  | some last =>
    let way := (Path.core (Path.pieces path.toList)).dropLast
    let (prepared, names) := way.foldl enter (store, [])
    if last = ['.', '.'] then prepared else prepared.put (names ++ [String.ofList last]) node

/-- Takes away the node at a path. -/
def remove (store : Store) (path : String) : Store :=
  match store.walk path.toList with
  | .ok (.inside names) => ⟨store.nodes.filter fun entry => entry.1 ≠ names⟩
  | _ => store

end Store

end Varsheet
