import Mathlib.Data.List.Basic

/-! # File trees

A directory holds named entries. A path leads from the root through the entries of
directories, and an operation that is not possible gives no tree.
-/

namespace RvcOrchestrator.Foundation

/-! ## Named entries -/

/-- The entry of a name, put in the place of an earlier one or at the end, or taken away. -/
def assignEntry {Value : Type} (entries : List (String × Value)) (name : String) :
    Option Value → List (String × Value)
  | none => entries.filter fun entry => entry.1 ≠ name
  | some value =>
      if name ∈ entries.map Prod.fst then
        entries.map fun entry => if entry.1 = name then (name, value) else entry
      else entries ++ [(name, value)]

/-! ## Paths -/

abbrev TreePath := List String

def PlainName (name : String) : Prop :=
  name ≠ "" ∧ name ≠ "." ∧ name ≠ ".." ∧ '/' ∉ name.toList

instance (name : String) : Decidable (PlainName name) :=
  inferInstanceAs (Decidable (_ ∧ _))

/-- The components of a text, without those that lead nowhere. -/
def pathComponents (text : String) : List String :=
  ((text.toList.splitOn '/').map String.ofList).filter fun component =>
    component ≠ "" && component ≠ "."

def stepInto (path : TreePath) (component : String) : TreePath :=
  if component = ".." then path.dropLast else path ++ [component]

/-- A text after a directory. A text with a leading slash starts from the root. -/
def joinPath (base : TreePath) (text : String) : TreePath :=
  (pathComponents text).foldl stepInto (if text.toList.head? = some '/' then [] else base)

/-! ## Trees -/

inductive FileNode where
  | file (content : List UInt8)
  | directory (entries : List (String × FileNode))
  /-- A link or a device. -/
  | special

namespace FileNode

def at? : FileNode → TreePath → Option FileNode
  | node, [] => some node
  | .directory entries, name :: rest => (entries.lookup name).bind fun child => child.at? rest
  | _, _ :: _ => none

/-- The tree with the given node at a path below the root, or with none there. -/
def put (value : Option FileNode) : FileNode → TreePath → FileNode
  | .directory entries, [name] => .directory (assignEntry entries name value)
  | .directory entries, name :: next :: rest =>
      match entries.lookup name with
      | none => .directory entries
      | some child => .directory (assignEntry entries name (some (child.put value (next :: rest))))
  | node, _ => node

/-! ## Operations -/

def isDirectory : FileNode → Bool
  | .directory _ => true
  | _ => false

/-- One node is changed inside a directory. `change` says what becomes of it, and whether that
is possible. -/
def revise (change : Option FileNode → Option (Option FileNode)) (root : FileNode)
    (path : TreePath) : Option FileNode :=
  if (root.at? path.dropLast).any isDirectory then
    (change (root.at? path)).map fun value => root.put value path
  else none

def add (root node : FileNode) : TreePath → Option FileNode :=
  root.revise fun
    | none => some (some node)
    | some _ => none

def append (bytes : List UInt8) : FileNode → TreePath → Option FileNode :=
  revise fun
    | some (.file content) => some (some (.file (content ++ bytes)))
    | _ => none

def unlink : FileNode → TreePath → Option FileNode :=
  revise fun
    | some (.file _) | some .special => some none
    | _ => none

def removeTree : FileNode → TreePath → Option FileNode :=
  revise fun
    | some (.directory _) => some none
    | _ => none

/-- What a rename may put in the place of what is there: a directory in the place of an empty
one, anything else in the place of anything but a directory. -/
def replaceable : FileNode → Option FileNode → Bool
  | _, none => true
  | .directory _, some (.directory []) => true
  | .directory _, some _ => false
  | _, some (.directory _) => false
  | _, some _ => true

def rename (root : FileNode) (source target : TreePath) : Option FileNode :=
  match root.at? source with
  | none => none
  | some node =>
      if source = target then some root
      else if source <+: target then none
      else if (root.at? target.dropLast).any isDirectory && replaceable node (root.at? target) then
        some ((root.put none source).put (some node) target)
      else none

end FileNode

end RvcOrchestrator.Foundation
