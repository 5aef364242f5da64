import FlowNet.Dict
import FlowNet.Text.Split

/-!
# File trees

A file tree holds files and directories under a root. A path is walked name by name: every name but the
last must be that of a directory. Operations that fail change nothing.
-/

namespace FlowNet

inductive FileError where
  | notFound
  | exists
  | notDirectory
  | isDirectory
  | nameTooLong
  /-- The file holds bytes that are no text. -/
  | notText
deriving DecidableEq

def FileError.message : FileError → String
  | notFound => "No such file or directory (os error 2)"
  | «exists» => "File exists (os error 17)"
  | notDirectory => "Not a directory (os error 20)"
  | isDirectory => "Is a directory (os error 21)"
  | nameTooLong => "File name too long (os error 36)"
  | notText => "stream did not contain valid UTF-8"

inductive FileNode where
  | file (content : ByteArray)
  | directory

structure FileTree where
  /-- By the full path, without the root. -/
  nodes : Dict FileNode

namespace FileTree

/-- The names on the way from the root. -/
abbrev Location := List String

def empty : FileTree := ⟨Dict.empty⟩

instance : Inhabited FileTree := ⟨empty⟩

def key (l : Location) : String := "/".intercalate l

def node? (t : FileTree) (l : Location) : Option FileNode := if l.isEmpty then some .directory else t.nodes.get? (key l)

def put (t : FileTree) (l : Location) (n : FileNode) : FileTree := ⟨t.nodes.insert (key l) n⟩

def isDirectoryAt (t : FileTree) (l : Location) : Bool :=
  match t.node? l with
  | some .directory => true
  | _ => false

/-! ## Walking along a path -/

def maxName : Nat := 255

def enter (t : FileTree) (dir : Location) (name : String) : Except FileError Location :=
  if name = "." then .ok dir
  else if name = ".." then .ok dir.dropLast
  else if maxName < name.utf8ByteSize then .error .nameTooLong
  else
    match t.node? (dir ++ [name]) with
    | some .directory => .ok (dir ++ [name])
    | some (.file _) => .error .notDirectory
    | none => .error .notFound

def names (path : String) : List String := (Text.splitAt '/' path).filter (· ≠ "")

/-- Where a path leads to, whether there is something or not. -/
def locateNames (t : FileTree) (names : List String) : Except FileError Location :=
  match names.getLast? with
  | none => .error .notFound
  | some last => do
    let dir ← names.dropLast.foldlM t.enter []
    if last = "." ∨ last = ".." then t.enter dir last
    else if maxName < last.utf8ByteSize then .error .nameTooLong
    else .ok (dir ++ [last])

def locate (t : FileTree) (path : String) : Except FileError Location := t.locateNames (names path)

/-! ## Files -/

/-- Only directories may have a path that ends with a slash. -/
def asksForDirectory (path : String) : Bool := path.endsWith "/"

def read (t : FileTree) (path : String) : Except FileError ByteArray := do
  match t.node? (← t.locate path) with
  | some (.file content) => if asksForDirectory path then .error .notDirectory else .ok content
  | some .directory => .error .isDirectory
  | none => .error .notFound

def readText (t : FileTree) (path : String) : Except FileError String := do
  match String.fromUTF8? (← t.read path) with
  | some text => .ok text
  | none => .error .notText

def write (t : FileTree) (path : String) (content : ByteArray) : Except FileError FileTree := do
  let l ← t.locate path
  if t.isDirectoryAt l || asksForDirectory path then .error .isDirectory else .ok (t.put l (.file content))

def append (t : FileTree) (path : String) (more : ByteArray) : Except FileError FileTree := do
  let l ← t.locate path
  match t.node? l with
  | some .directory => .error .isDirectory
  | some (.file content) => .ok (t.put l (.file (content ++ more)))
  | none => .ok (t.put l (.file more))

def remove (t : FileTree) (path : String) : Except FileError FileTree := do
  let l ← t.locate path
  match t.node? l with
  | some (.file _) => .ok ⟨t.nodes.erase (key l)⟩
  | some .directory => .error .isDirectory
  | none => .error .notFound

/-- Moves a file, over another one if need be. -/
def rename (t : FileTree) (source target : String) : Except FileError FileTree := do
  let l ← t.locate source
  match t.node? l with
  | some (.file content) => (⟨t.nodes.erase (key l)⟩ : FileTree).write target content
  | some .directory => .error .isDirectory
  | none => .error .notFound

/-! ## Directories -/

def makeDirectoryNames (t : FileTree) (names : List String) : Except FileError FileTree := do
  let l ← t.locateNames names
  match t.node? l with
  | some _ => .error .exists
  | none => .ok (t.put l .directory)

def ensureDirectory (t : FileTree) (names : List String) : Except FileError FileTree :=
  match t.makeDirectoryNames names with
  | .error .exists => do
    if t.isDirectoryAt (← t.locateNames names) then .ok t else .error .exists
  | result => result

/-- Makes a directory and those above it that are missing. The names are listed last first. -/
def makeDirectories (t : FileTree) : List String → Except FileError FileTree
  | [] => .ok t
  | name :: above =>
    let path := (name :: above).reverse
    match t.makeDirectoryNames path with
    | .error .notFound => do (← t.makeDirectories above).ensureDirectory path
    | _ => t.ensureDirectory path

def makeDirectoryPath (t : FileTree) (path : String) : Except FileError FileTree :=
  t.makeDirectories (names path).reverse

/-- The tree with a file in it, and with the directories above the file, where that can be. -/
def place (t : FileTree) (path : String) (content : ByteArray) : FileTree :=
  let tree := (t.makeDirectories (names path).dropLast.reverse).toOption.getD t
  (tree.write path content).toOption.getD tree

def childName? (l : Location) (path : String) : Option String :=
  match Text.splitAt '/' path with
  | names => if names.length = l.length + 1 && l.isPrefixOf names then names.getLast? else none

def list (t : FileTree) (path : String) : Except FileError (List String) := do
  let l ← t.locate path
  match t.node? l with
  | some .directory => .ok (t.nodes.keys.filterMap (childName? l))
  | some (.file _) => .error .notDirectory
  | none => .error .notFound

/-- What follows the last point of a name that does not start with it. -/
def extension? (name : String) : Option String :=
  let tail := name.toList.reverse.takeWhile (· ≠ '.')
  if tail.length + 1 < name.length then some (String.ofList tail.reverse) else none

def lastName? (path : String) : Option String := ((names path).filter (· ≠ ".")).getLast?

def join (dir path : String) : String :=
  if path.startsWith "/" || dir = "" then path
  else if dir.endsWith "/" then dir ++ path
  else dir ++ "/" ++ path

end FileTree

end FlowNet
