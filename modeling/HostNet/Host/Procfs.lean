import HostNet.Host.Files
/-!
Kernel parameters as files: a dotted key is a path below a root directory. The value is the
content without the blanks around it, and it is written only where it differs.
-/
namespace HostNet.Procfs

/-- The usual root of kernel parameters. -/
def defaultRoot : String := "/proc/sys"

/-- The path of a key below the root: its dots are slashes. -/
def keyPath (key : String) : String :=
  String.ofList (key.toList.map fun c => if c = '.' then '/' else c)

def path (root key : String) : String :=
  joinPath root (keyPath key)

variable {φ : Type}

def get (files : Files φ) (root key : String) (state : φ) : Except Fault String :=
  match files.read (path root key) state with
  | .error cause => .error (.sysctl key cause)
  | .ok content =>
    match Text.ofBytes? content with
    | none => .error (.sysctl key .illFormed)
    | some text => .ok (Text.trim text)

/-- Set the value of a key and give back the previous one. -/
def set (files : Files φ) (root key value : String) (state : φ) : Except Fault String × φ :=
  match get files root key state with
  | .error fault => (.error fault, state)
  | .ok previous =>
    if previous = value then (.ok previous, state)
    else
      match files.write (path root key) (Text.toBytes value) state with
      | .error cause => (.error (.sysctl key cause), state)
      | .ok state => (.ok previous, state)

end HostNet.Procfs
