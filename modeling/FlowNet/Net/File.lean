import FlowNet.Net.Document
import FlowNet.FileTree

/-!
# Net files

The ending of a file's name tells how the net in it is written.
-/

namespace FlowNet.Net

inductive FileFault where
  | unreadable (path : String)
  | unsupported (path : String)
  | malformed (path : String)
deriving DecidableEq

def FileFault.message : FileFault → String
  | unreadable path => s!"failed to read {path}"
  | unsupported path => s!"unsupported net file extension for {path} (expected .json or .toml)"
  | malformed path => s!"failed to load {path}"

def Document.ofFile (files : FileTree) (path : String) : Except FileFault Document := do
  let .ok text := files.readText path | .error (.unreadable path)
  let document? ← match (FileTree.lastName? path).bind FileTree.extension? with
    | some "json" => .ok (Document.ofJson? text)
    | some "toml" => .ok (Document.ofToml? text)
    | _ => .error (.unsupported path)
  match document? with
  | some d => return d
  | none => .error (.malformed path)

end FlowNet.Net
