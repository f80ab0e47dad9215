import TokenOutline.Url.Path

/-!
# Reading a URL

`Url.parse` reads an absolute URL and normalizes it. Control characters and blanks around the text
and tabs and line ends inside it do not count. Six schemes are special: they have hosts, a
backslash is a slash to them, and a missing path is a slash.

* **`Url.parse`**: the URL of a text, or why it is none.
-/

namespace TokenOutline.Url

/-- The kinds of scheme. -/
inductive Kind where
  | file
  | hosted
  | other
  deriving DecidableEq

/-- The kind of a scheme in lower case. -/
def Kind.ofScheme (scheme : String) : Kind :=
  if scheme = "file" then .file
  else if scheme ∈ ["http", "https", "ws", "wss", "ftp"] then .hosted
  else .other

/-- Whether a backslash is a slash. -/
def Kind.isSpecial (k : Kind) : Bool := k ≠ .other

/-- The port that a scheme implies. -/
def defaultPort? (scheme : String) : Option Nat :=
  [("http", 80), ("ws", 80), ("https", 443), ("wss", 443), ("ftp", 21)].lookup scheme

/-- A character that the text is cleaned of at its ends. -/
def isMargin (c : Char) : Bool := c.toNat ≤ 0x20

/-- The text without its margins, tabs and line ends. -/
def clean (cs : List Char) : List Char :=
  (((cs.dropWhile isMargin).reverse.dropWhile isMargin).reverse).filter fun c =>
    c ≠ '\t' && c ≠ '\n' && c ≠ '\r'

/-- Whether a character may stand in a scheme after its first letter. -/
def isSchemeChar (c : Char) : Bool := c.isAlphanum || c = '+' || c = '-' || c = '.'

/-- The scheme in lower case and the text after its colon. -/
def readScheme : List Char → Option (String × List Char)
  | c :: cs =>
    match c.isAlpha, (c :: cs).dropWhile isSchemeChar with
    | true, ':' :: rest =>
      some (String.ofList (((c :: cs).takeWhile isSchemeChar).map Char.toLower), rest)
    | _, _ => none
  | [] => none

/-! ## After the path -/

/-- Whether a character ends the path. -/
def endsPath (c : Char) : Bool := c = '?' || c = '#'

/-- The query and the fragment of the text that follows a path. -/
def readTail (k : Kind) (cs : List Char) : Option String × Option String :=
  let fragment (cs : List Char) : Option String :=
    match cs with
    | '#' :: cs => some (String.ofList (Percent.encode Percent.inFragment cs))
    | _ => none
  match cs with
  | '?' :: cs =>
    let set := if k.isSpecial then Percent.inSpecialQuery else Percent.inQuery
    (some (String.ofList (Percent.encode set (cs.takeWhile (· ≠ '#')))),
      fragment (cs.dropWhile (· ≠ '#')))
  | cs => (none, fragment cs)

/-- A URL of its parts, with the query and the fragment of the text after the path. -/
def build (scheme : String) (authority : Option Authority) (path : Path) (rest : List Char) : Url :=
  let tail := readTail (Kind.ofScheme scheme) rest
  ⟨scheme, authority, path, tail.1, tail.2⟩

/-! ## The authority -/

/-- Whether a character is a slash to a kind of scheme. -/
def isSlash (k : Kind) (c : Char) : Bool := c = '/' || (k.isSpecial && c = '\\')

/-- Whether a character ends the authority. -/
def endsAuthority (k : Kind) (c : Char) : Bool := isSlash k c || endsPath c

/-- The text before the last `@` and the text after it. -/
def splitAtSign (cs : List Char) : Option (List Char × List Char) :=
  match cs.reverse.dropWhile (· ≠ '@') with
  | _ :: before => some (before.reverse, (cs.reverse.takeWhile (· ≠ '@')).reverse)
  | [] => none

/-- Credentials encoded: the name, and the password after a colon if there is one. -/
def readCredentials (cs : List Char) : List Char :=
  let password := (cs.dropWhile (· ≠ ':')).drop 1
  Percent.encode Percent.inCredentials (cs.takeWhile (· ≠ ':')) ++
    (if password.isEmpty then [] else ':' :: Percent.encode Percent.inCredentials password)

/-- The characters of a host: up to a colon outside brackets. -/
def takeHost : (bracketed : Bool) → List Char → List Char × List Char
  | _, [] => ([], [])
  | bracketed, c :: cs =>
    if c = ':' && !bracketed then ([], c :: cs)
    else
      let inside := if c = '[' then true else if c = ']' then false else bracketed
      let (host, rest) := takeHost inside cs
      (c :: host, rest)

/-- The number of a port; `none` when it is missing or the one that the scheme implies. -/
def readPort (scheme : String) (cs : List Char) : Except Error (Option Nat) :=
  if !cs.all Char.isDigit then .error .invalidPort
  else
    let port := cs.foldl (fun n c => if 65535 < n then n else n * 10 + (c.toNat - 48)) 0
    if 65535 < port then .error .invalidPort
    else if cs.isEmpty || defaultPort? scheme = some port then .ok none
    else .ok (some port)

/-- The host of a scheme. -/
def readHost (k : Kind) (cs : List Char) : Except Error Host :=
  if k.isSpecial then (if cs.isEmpty then .error .emptyHost else readDomain cs) else readOpaque cs

/-- A host and the port after it; a backslash ends the port, and is left with what follows it. -/
def readHostAndPort (scheme : String) (cs : List Char) :
    Except Error (Host × Option Nat × List Char) := do
  let (name, rest) := takeHost false cs
  let host ← readHost (Kind.ofScheme scheme) name
  match rest with
  | [] => return (host, none, [])
  | _ :: rest =>
    if host = .empty then .error .emptyHost
    let port ← readPort scheme (rest.takeWhile (· ≠ '\\'))
    return (host, port, rest.dropWhile (· ≠ '\\'))

/-- The authority that a text begins with, after the two slashes, and the text that follows it. -/
def readAuthority (scheme : String) (cs : List Char) : Except Error (Authority × List Char) := do
  let k := Kind.ofScheme scheme
  let own := cs.takeWhile (!endsAuthority k ·)
  let after := cs.dropWhile (!endsAuthority k ·)
  let (before, own, signed) := match splitAtSign own with
    | some (before, own) => (before, own, true)
    | none => ([], own, false)
  if signed && before.isEmpty && own.isEmpty && !after.isEmpty then .error .emptyHost
  let credentials := readCredentials before
  let (host, port, left) ← readHostAndPort scheme own
  if host = .empty && !credentials.isEmpty then .error .emptyHost
  return (⟨String.ofList credentials, host, port⟩, left ++ after)

/-! ## The kinds of URL -/

/-- A URL after the two slashes before its authority. -/
def parseAuthority (scheme : String) (cs : List Char) : Except Error Url := do
  let k := Kind.ofScheme scheme
  let (authority, rest) ← readAuthority scheme cs
  let path : Path :=
    match rest.takeWhile (!endsPath ·) with
    | [] => if k.isSpecial then .segments [""] else .segments []
    | c :: cs => (readSegments false k.isSpecial (if isSlash k c then cs else c :: cs)).1
  return build scheme (some authority) path (rest.dropWhile (!endsPath ·))

/-- The host of a file URL; a drive and the name of the local machine are none. -/
def readFileHost (cs : List Char) : Except Error Host :=
  if cs.isEmpty then .ok .empty
  else match readDomain cs with
    | .ok (.name "localhost") => .ok .empty
    | r => r

/-- A file URL from its path on; a drive in the path makes the host go. -/
def fileUrl (host : Host) (cs : List Char) : Url :=
  let (path, drive) := readSegments true true (cs.takeWhile (!endsPath ·))
  build "file" (some ⟨"", if drive then .empty else host, none⟩) path (cs.dropWhile (!endsPath ·))

/-- A file URL after its scheme. Behind two slashes and no host the slash before the path stands for
an empty segment, so that no drive follows it at once. -/
def parseFile (cs : List Char) : Except Error Url :=
  match cs with
  | c :: d :: cs =>
    if isSlash .file c then
      if isSlash .file d then do
        let name := cs.takeWhile (!endsAuthority .file ·)
        let rest := cs.dropWhile (!endsAuthority .file ·)
        if isDrive name then return fileUrl .empty cs
        let host ← readFileHost name
        match host, rest with
        | .empty, rest => return fileUrl .empty rest
        | host, c :: after => return fileUrl host (if isSlash .file c then after else c :: after)
        | host, [] => return fileUrl host []
      else return fileUrl .empty (d :: cs)
    else return fileUrl .empty (c :: d :: cs)
  | [c] => return fileUrl .empty (if isSlash .file c then [] else [c])
  | [] => return fileUrl .empty []

/-- A URL of a scheme that is not special, after its colon. -/
def parseOther (scheme : String) (cs : List Char) : Except Error Url :=
  let path := cs.takeWhile (!endsPath ·)
  let tail := cs.dropWhile (!endsPath ·)
  match cs with
  | '/' :: '/' :: cs => parseAuthority scheme cs
  | '/' :: _ => .ok (build scheme none (readSegments false false (path.drop 1)).1 tail)
  | _ =>
    let text := String.ofList (Percent.encode Percent.isControl path)
    .ok (build scheme none (.opaqueText text) tail)

/-- The URL of a text, or why it is none. -/
def parse (s : String) : Except Error Url :=
  match readScheme (clean s.toList) with
  | none => .error .noScheme
  | some (scheme, rest) =>
    match Kind.ofScheme scheme with
    | .file => parseFile rest
    | .hosted => parseAuthority scheme (rest.dropWhile (isSlash .hosted ·))
    | .other => parseOther scheme rest

end TokenOutline.Url
