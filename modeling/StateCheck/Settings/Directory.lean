import StateCheck.Fault
import StateCheck.Settings.Named

/-!
The directory that configuration files are looked up in.
-/

namespace StateCheck.Settings

abbrev Directory : Type := Named String

namespace Directory

def names (path : String) : List String :=
  ((path.toList.splitOn '/').map String.ofList).filter fun name => name ≠ "" && name ≠ "."

def root (path : String) : String :=
  match (path.toList.takeWhile (· = '/')).length with
  | 0 => ""
  | 2 => "//"
  | _ => "/"

def plainPath (path : String) : String :=
  let plain := root path ++ "/".intercalate (names path)
  if plain.isEmpty then "." else plain

def isAround (path : String) : Bool := (names path).all (· = "..")

def read (files : Directory) (path : String) : Except Fault (Option String) :=
  if isAround path then
    .error (.raised .os (SystemFault.isDirectory (plainPath path)))
  else .ok (files.lookup (plainPath path))

end Directory
end StateCheck.Settings
