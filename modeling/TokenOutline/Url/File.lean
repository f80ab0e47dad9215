import TokenOutline.Url.Parser

/-!
# The file that a URL names

Models `path_from_uri`, with the `to_file_path` that it calls. A URL whose path is cut into segments
and whose host is missing or the local machine names a file: the octets of its segments with their
`%` sequences decoded, each after a slash. A path that ends in a drive ends in a slash.

* **`Url.fileName`**: the name under which the file is known; a URL that names no file goes by its
  own text.
-/

namespace TokenOutline.Url

/-- Whether the host is missing or the local machine. -/
def isLocal (u : Url) : Bool :=
  match u.authority with
  | none => true
  | some a => a.host = .empty || a.host = .name "localhost"

/-- Whether octets longer than a drive end in a letter and a colon or a bar. -/
def endsInDrive (octets : List UInt8) : Bool :=
  2 < octets.length &&
    match octets.reverse with
    | mark :: letter :: _ =>
      ((65 ≤ letter && letter ≤ 90) || (97 ≤ letter && letter ≤ 122)) &&
        (mark = 58 || mark = 124)
    | _ => false

/-- The octets of the path of a local file (`to_file_path`). -/
def filePath? (u : Url) : Option (List UInt8) :=
  match u.path with
  | .segments (s :: ss) =>
    if u.isLocal then
      let octets := (s :: ss).flatMap fun s => 47 :: Percent.decode s
      some (if endsInDrive octets then octets ++ [47] else octets)
    else none
  | _ => none

/-- The name of the file (`path_from_uri`): its path as text, or the text of a URL that names
none. -/
def fileName (u : Url) : String :=
  match u.filePath? with
  | some octets => String.ofList (Utf8.decodeLossy octets)
  | none => u.text

end TokenOutline.Url
