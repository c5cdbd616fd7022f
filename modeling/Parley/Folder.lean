import Parley.Error

/-! # The working folder

A folder that holds files and no folders of its own, as far as a session can tell: where a saved
transcript goes, and why it may not get there.
-/

namespace Parley

structure Folder where
  files : List (String × String) := []
  deriving DecidableEq, Repr, Inhabited

namespace Folder

inductive Target where
  | file (name : String)
  /-- A device that takes nothing. -/
  | fullDevice
  /-- A place outside the folder that takes everything. -/
  | elsewhere
  | nowhere
  deriving DecidableEq, Repr

def nameLimit : Nat := 255

/-- Where the last part of a path leads, from the folder or from outside. -/
def targetOf (outside : Bool) (name : String) : Target :=
  if name = "" ∨ name = "." ∨ name = ".." ∨ nameLimit < name.utf8ByteSize then .nowhere
  else if outside then .elsewhere
  else .file name

def follow (outside : Bool) : List String → Target
  | [] => .nowhere
  | [name] => targetOf outside name
  | part :: rest =>
    if part = "" ∨ part = "." then follow outside rest
    else if part = ".." then follow true rest
    else .nowhere

def splitPath (path : String) : List String :=
  (path.toList.splitOn '/').map String.ofList

def resolve (path : String) : Target :=
  if path = "/dev/full" then .fullDevice
  else if path = "/dev/null" then .elsewhere
  else if path.toList.contains '\x00' then .nowhere
  else
    match splitPath path with
    | "" :: _ => .nowhere
    | parts => follow false parts

def readFrom (name : String) (content : List UInt8) (path : String) : Option (List UInt8) :=
  if resolve path = .file name then some content
  else if path = "/dev/null" then some []
  else none

def put (f : Folder) (name content : String) : Folder :=
  { files := f.files.filter (·.1 ≠ name) ++ [(name, content)] }

def bufferSize : Nat := 8192

/-- Saves a JSON document. A device that takes nothing is noticed while the document is written if
it is longer than the buffer, and at its end otherwise. -/
def save (f : Folder) (path document : String) : Except Error Folder :=
  match resolve path with
  | .file name => .ok (f.put name document)
  | .elsewhere => .ok f
  | .nowhere => .error (.io ("could not create " ++ path) (.foreign "no such place"))
  | .fullDevice =>
    if bufferSize < document.utf8ByteSize then
      .error (.serialization "JSON error: no space left" (.foreign "no space left"))
    else .error (.io ("could not write " ++ path) (.foreign "no space left"))

end Folder

end Parley
