import Chatflow.Keyed
import Chatflow.Text.Quoted

/-!
# Files

The files that a program sees: names with bytes, and directories.  Paths are brought into a normal form, in which they
appear in messages too (`Path.normalized`).  Reading a file as text is strict about UTF-8 and lets each kind of line
ending count as a line feed (`Files.decode?`).

A path is followed part by part: a part that is missing is told before a later one that is too long, and a path that is
too long as a whole before all else.
-/

namespace Chatflow

namespace Path

/-- The parts between the slashes of a path, empty ones and single points dropped. -/
def parts (path : String) : List String := (path.splitOn "/").filter fun part => part != "" && part != "."

/-- The slashes with which a path begins: one, or two when there are exactly two. -/
def root (path : String) : String :=
  match (path.toList.takeWhile (· == '/')).length with
  | 0 => ""
  | 2 => "//"
  | _ => "/"

/-- The normal form of a path. -/
def normalized (path : String) : String :=
  let body := String.intercalate "/" (parts path)
  if (root path ++ body).isEmpty then "." else root path ++ body

/-- The last part of a path without its ending, which begins at the last point unless that is its first or last
character. -/
def stem (path : String) : String :=
  let name := ((parts path).getLast?.getD "").toList
  let ending := name.reverse.takeWhile (· != '.')
  let start := name.length - ending.length - 1
  if ending.isEmpty || ending.length == name.length || start == 0 then String.ofList name
  else String.ofList (name.take start)

end Path

/-- How many bytes a part of a path may have. -/
def Path.longestPart : Nat := 255

/-- How many bytes a path may have. -/
def Path.longest : Nat := 4095

/-- Why a path leads to no file. -/
inductive FileFault where
  | missing
  | notDirectory
  | isDirectory
  | tooLong
  deriving DecidableEq, Repr

/-- The wording of a fault at a path. -/
def FileFault.message (fault : FileFault) (path : String) : String :=
  (match fault with
    | .missing => "[Errno 2] No such file or directory: "
    | .notDirectory => "[Errno 20] Not a directory: "
    | .isDirectory => "[Errno 21] Is a directory: "
    | .tooLong => "[Errno 36] File name too long: ") ++ Text.quote path

/-- The files that a program knows under their names: bytes, or a directory.  Names count from the directory where the
program runs. -/
structure Files where
  entries : Keyed (Option ByteArray) := []

namespace Files

/-- Where a path leads. -/
inductive Place where
  | file (bytes : ByteArray)
  | directory (parts : List String)
  | outside

/-- What is at a place below the starting directory. -/
def look (files : Files) (parts : List String) : Except FileFault Place :=
  match files.entries.find? fun (name, _) => Path.parts name == parts with
  | some (_, some bytes) => .ok (.file bytes)
  | some (_, none) => .ok (.directory parts)
  | none =>
    if files.entries.any fun (name, _) => parts.isPrefixOf (Path.parts name) then .ok (.directory parts)
    else .error .missing

/-- One step along a path; outside the starting directory nothing is there but directories above. -/
def enter (files : Files) (place : Place) (part : String) : Except FileFault Place :=
  match place with
  | .file _ => .error .notDirectory
  | .outside =>
    if part = ".." then .ok .outside
    else if Path.longestPart < part.utf8ByteSize then .error .tooLong
    else .error .missing
  | .directory parts =>
    if part = ".." then .ok (if parts.isEmpty then .outside else .directory parts.dropLast)
    else if Path.longestPart < part.utf8ByteSize then .error .tooLong
    else files.look (parts ++ [part])

/-- Follows a path part by part. -/
def follow (files : Files) (path : String) : Except FileFault Place :=
  if Path.longest < path.utf8ByteSize then .error .tooLong
  else (Path.parts path).foldlM files.enter (if Path.root path = "" then .directory [] else .outside)

/-- Where a path leads.  A path that is the name of a file leads there, even from outside the starting directory. -/
def find (files : Files) (path : String) : Except FileFault Place :=
  match files.entries.get? path with
  | some (some bytes) => .ok (.file bytes)
  | _ => files.follow path

/-- Whether a path leads anywhere. -/
def has (files : Files) (path : String) : Bool := (files.find path).isOk

/-- The bytes of a file. -/
def read (files : Files) (path : String) : Except FileFault ByteArray := do
  match ← files.find path with
  | .file bytes => return bytes
  | _ => throw .isDirectory

/-- A text in which each line ends in a line feed alone. -/
def withLineFeeds : List Char → List Char
  | '\r' :: '\n' :: cs => '\n' :: withLineFeeds cs
  | '\r' :: cs => '\n' :: withLineFeeds cs
  | c :: cs => c :: withLineFeeds cs
  | [] => []

/-- Bytes as a text; nothing when they are not UTF-8. -/
def decode? (bytes : ByteArray) : Option String :=
  (String.fromUTF8? bytes).map fun s => String.ofList (withLineFeeds s.toList)

end Files

end Chatflow
