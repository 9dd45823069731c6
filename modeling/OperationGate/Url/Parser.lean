import OperationGate.Url.Basic

/-!
# Reading addresses

Web addresses, addresses of files, and others. `resolve` reads an address that may be relative to
another; `read` reads one that stands alone.
-/

namespace OperationGate.Url

/-- The sorts of schemes, which differ in the marks that take an address apart. -/
inductive SchemeSort where
  /-- A web address: a host is needed, and backslashes are slashes. -/
  | web
  | file
  | other
  deriving DecidableEq, Repr, Inhabited

/-- The sort of a scheme. -/
def SchemeSort.ofScheme (scheme : String) : SchemeSort :=
  if ["http", "https", "ws", "wss", "ftp"].contains scheme then .web
  else if scheme = "file" then .file
  else .other

/-- The usual port of a scheme. -/
def usualPort? (scheme : String) : Option Nat :=
  if scheme = "http" || scheme = "ws" then some 80
  else if scheme = "https" || scheme = "wss" then some 443
  else if scheme = "ftp" then some 21
  else none

/-- Tells whether a character is a slash in addresses of a sort. -/
def SchemeSort.isSlash (sort : SchemeSort) (c : Char) : Bool :=
  c = '/' || (sort ≠ .other && c = '\\')

/-- Tells whether a character ends the path. -/
def endsPath (c : Char) : Bool :=
  c = '?' || c = '#'

/-- A text without controls and blanks at its ends, and without tabs and line ends anywhere. -/
def cleaned (s : String) : List Char :=
  let trimmed := (s.toList.dropWhile (· ≤ ' ')).reverse.dropWhile (· ≤ ' ')
  trimmed.reverse.filter fun c => c ≠ '\t' && c ≠ '\n' && c ≠ '\r'

/-- Tells whether a character may be in a scheme. -/
def inScheme (c : Char) : Bool :=
  c.isAlphanum || c = '+' || c = '-' || c = '.'

/-- The scheme that starts an address, in lower case, and what follows its colon. -/
def splitScheme? (cs : List Char) : Option (String × List Char) :=
  match cs with
  | [] => none
  | c :: _ =>
    match cs.dropWhile inScheme with
    | ':' :: rest =>
      if c.isAlpha then some (String.ofList ((cs.takeWhile inScheme).map Char.toLower), rest)
      else none
    | _ => none

/-! ## Queries and fragments -/

/-- The query and the fragment at the end of an address. -/
def tailOf (sort : SchemeSort) (cs : List Char) : Option String × Option String :=
  let inQuery := if sort = .other then Percent.inQuery else Percent.inWebQuery
  let fragment (cs : List Char) := String.ofList (Percent.encode Percent.inFragment cs)
  match cs with
  | '?' :: rest =>
    let query := String.ofList (Percent.encode inQuery (rest.takeWhile (· ≠ '#')))
    match rest.dropWhile (· ≠ '#') with
    | _ :: rest => (some query, some (fragment rest))
    | [] => (some query, none)
  | _ :: rest => (none, some (fragment rest))
  | [] => (none, none)

/-! ## Paths -/

/-- A segment with encoded dots decoded, in lower case. -/
def dots : List Char → List Char
  | '%' :: '2' :: 'e' :: rest | '%' :: '2' :: 'E' :: rest => '.' :: dots rest
  | c :: rest => c :: dots rest
  | [] => []

/-- Tells whether a segment is a letter with a colon or a bar: a drive. -/
def isDrive (segment : List Char) : Bool :=
  match segment with
  | [c, d] => c.isAlpha && (d = ':' || d = '|')
  | _ => false

/-- The segments of the directory above. No way leads up out of a drive, wherever it stands. -/
def up (above : List (List Char)) : List (List Char) :=
  match above with
  | s :: rest => if isDrive (s.takeWhile (· ≠ '\\')) then above else rest
  | [] => []

/-- Follows segments from a directory: a dot stays and two dots go up. The segments that lead to
where one is are given from the last to the first. -/
def follow (sort : SchemeSort) (above : List (List Char)) : List (List Char) → List (List Char)
  | [] => above
  | s :: rest =>
    if dots s = ['.', '.'] then follow sort ((if rest.isEmpty then [[]] else []) ++ up above) rest
    else if dots s = ['.'] then follow sort ((if rest.isEmpty then [[]] else []) ++ above) rest
    else if sort = .file && above.isEmpty && isDrive s then follow sort [[s.headD ' ', ':']] rest
    else follow sort (Percent.encode Percent.inPath s :: above) rest

/-- The segments of a text, which has no slash at its front. -/
def segmentsOf (sort : SchemeSort) (cs : List Char) : List (List Char) :=
  cs.splitOnP sort.isSlash

/-- The path of segments. The path of a file does not start with two slashes. -/
def pathText (sort : SchemeSort) (segments : List (List Char)) : String :=
  let segments := if sort = .file then segments.dropWhile (·.isEmpty) else segments
  String.ofList ('/' :: List.intercalate ['/'] segments)

/-- The segments of the path at the front of a text, from those that lead to a directory. -/
def segmentsFrom (sort : SchemeSort) (dir : List (List Char)) (cs : List Char) : List (List Char) :=
  (follow sort dir.reverse (segmentsOf sort (cs.takeWhile fun c => !endsPath c))).reverse

/-- The path at the front of a text, from the segments of a directory, and what follows the path. -/
def pathFrom (sort : SchemeSort) (dir : List (List Char)) (cs : List Char) : String × List Char :=
  (pathText sort (segmentsFrom sort dir cs), cs.dropWhile fun c => !endsPath c)

/-- The path after an authority. It may be empty only in addresses that are no web addresses. -/
def pathAfterAuthority (sort : SchemeSort) (cs : List Char) : String × List Char :=
  match cs with
  | [] => (if sort = .other then "" else "/", [])
  | c :: rest =>
    if sort.isSlash c then pathFrom sort [] rest
    else if sort = .other && endsPath c then ("", cs)
    else pathFrom sort [] cs

/-! ## Authorities -/

/-- The text before and after the last `@`. -/
def splitCredentials? (cs : List Char) : Option (List Char × List Char) :=
  (Text.cutAt? '@' cs.reverse).map fun p => (p.2.reverse, p.1.reverse)

/-- The length of the host that starts a text: up to a colon outside brackets. -/
def hostLength (inside : Bool) : List Char → Nat
  | [] => 0
  | c :: rest =>
    if c = ':' && !inside then 0
    else 1 + hostLength (if c = '[' then true else if c = ']' then false else inside) rest

/-- The port that digits name, unless it is the usual one of the scheme; no digits name none. -/
def port? (scheme : String) (cs : List Char) : Except UrlFault (Option Nat) :=
  match Host.number? 10 cs with
  | none => .error .invalidPort
  | some n =>
    if n > 65535 then .error .invalidPort
    else if cs.isEmpty || usualPort? scheme = some n then .ok none
    else .ok (some n)

/-- The authority that a text stands for, and what is left of the text: a backslash ends a port.
`last` tells that the address ends with the text. -/
def authorityOf (scheme : String) (sort : SchemeSort) (last : Bool) (cs : List Char) :
    Except UrlFault (Authority × List Char) := do
  let (credentials, place) := (splitCredentials? cs).getD ([], cs)
  if place.isEmpty && place.length < cs.length && credentials.isEmpty && !last then
    throw .emptyHost
  let (user, password) := (Text.cutAt? ':' credentials).getD (credentials, [])
  let n := hostLength false place
  let name := place.take n
  if name.isEmpty && (sort = .web || n < place.length) then throw .emptyHost
  let host ← if sort = .web then Host.ofWeb name else Host.ofOther name
  let afterHost := place.drop (n + 1)
  let port ← port? scheme (afterHost.takeWhile (· ≠ '\\'))
  let authority : Authority :=
    { user := String.ofList (Percent.encode Percent.inCredentials user)
      password := String.ofList (Percent.encode Percent.inCredentials password)
      host := host
      port := port }
  if name.isEmpty && (authority.user ≠ "" || authority.password ≠ "") then throw .emptyHost
  return (authority, afterHost.dropWhile (· ≠ '\\'))

/-- Reads an address from its authority on. -/
def afterSlashes (scheme : String) (sort : SchemeSort) (cs : List Char) : Except UrlFault Url := do
  let ends (c : Char) := sort.isSlash c || endsPath c
  let rest := cs.dropWhile fun c => !ends c
  let (authority, left) ← authorityOf scheme sort rest.isEmpty (cs.takeWhile fun c => !ends c)
  let (path, rest) := pathAfterAuthority sort (left ++ rest)
  let (query, fragment) := tailOf sort rest
  return ⟨scheme, some authority, path, query, fragment⟩

/-! ## Files -/

/-- The host of a file; this machine has no name. -/
def fileHost (name : List Char) : Except UrlFault Host := do
  if name.isEmpty then return .domain ""
  let host ← Host.ofWeb name
  return if host = .domain "localhost" then .domain "" else host

/-- Reads the address of a file from its path on. A path on a drive has no host. -/
def filePath (host : Host) (cs : List Char) : Url :=
  let (path, rest) := pathFrom .file [] cs
  let (query, fragment) := tailOf .file rest
  let host := if isDrive ((segmentsFrom .file [] cs).headD []) then .domain "" else host
  ⟨"file", some ⟨"", "", host, none⟩, path, query, fragment⟩

/-- Reads the address of a file from what follows its scheme. The slash after a host is the one that
every path starts with. -/
def ofFile (cs : List Char) : Except UrlFault Url := do
  let isSlash := SchemeSort.file.isSlash
  match cs with
  | a :: b :: rest =>
    if isSlash a && isSlash b then
      let name := rest.takeWhile fun c => !(isSlash c || endsPath c)
      if isDrive name then return filePath (.domain "") rest
      let host ← fileHost name
      let rest := rest.drop name.length
      if host = .domain "" then return filePath host rest
      else return filePath host (if rest.head?.any isSlash then rest.drop 1 else rest)
    else return filePath (.domain "") (if isSlash a then b :: rest else cs)
  | [a] => return filePath (.domain "") (if isSlash a then [] else cs)
  | [] => return filePath (.domain "") []

/-! ## Addresses -/

/-- Reads an address that has no authority from what follows its scheme. A path that starts with a
slash has segments; any other is taken as it is. -/
def withoutAuthority (scheme : String) (cs : List Char) : Url :=
  match cs with
  | '/' :: rest =>
    let (path, rest) := pathFrom .other [] rest
    let (query, fragment) := tailOf .other rest
    ⟨scheme, none, path, query, fragment⟩
  | cs =>
    let (query, fragment) := tailOf .other (cs.dropWhile fun c => !endsPath c)
    let path := Percent.encode Percent.isPrintable (cs.takeWhile fun c => !endsPath c)
    ⟨scheme, none, String.ofList path, query, fragment⟩

/-- Tells whether other addresses can be relative to one. -/
def isBase (u : Url) : Bool :=
  u.authority.isSome || u.path.toList.head? = some '/'

/-- Reads an address that is relative to another. -/
def relative (base : Url) (cs : List Char) : Except UrlFault Url :=
  let sort := SchemeSort.ofScheme base.scheme
  match cs with
  | [] => .ok { base with fragment := none }
  | '?' :: _ =>
    let (query, fragment) := tailOf sort cs
    .ok { base with query := query, fragment := fragment }
  | '#' :: _ => .ok { base with fragment := (tailOf sort cs).2 }
  | c :: rest =>
    if sort.isSlash c then
      match rest with
      | d :: more =>
        if sort.isSlash d then
          let marks := cs.takeWhile sort.isSlash
          if marks.take 2 = ['/', '/'] then afterSlashes base.scheme sort more
          else afterSlashes base.scheme sort (cs.drop marks.length)
        else .ok (finish sort base [] rest)
      | [] => .ok (finish sort base [] rest)
    else
      let dir := ((base.path.toList.drop 1).splitOn '/').dropLast
      .ok (finish sort base dir cs)
where
  /-- Puts a path in place of the path of the base. -/
  finish (sort : SchemeSort) (base : Url) (dir : List (List Char)) (cs : List Char) : Url :=
    let (path, rest) := pathFrom sort dir cs
    let (query, fragment) := tailOf sort rest
    { base with path := path, query := query, fragment := fragment }

/-- Reads an address, which may be relative to another if there is one. -/
def resolve (base : Option Url) (s : String) : Except UrlFault Url :=
  let cs := cleaned s
  match splitScheme? cs, base with
  | some (scheme, rest), _ =>
    match SchemeSort.ofScheme scheme with
    | .file => ofFile rest
    | .web =>
      let isSlash := SchemeSort.web.isSlash
      match base with
      | some base =>
        if base.scheme = scheme && (rest.takeWhile isSlash).length < 2 then relative base rest
        else afterSlashes scheme .web (rest.dropWhile isSlash)
      | none => afterSlashes scheme .web (rest.dropWhile isSlash)
    | .other =>
      match rest with
      | '/' :: '/' :: rest => afterSlashes scheme .other rest
      | rest => .ok (withoutAuthority scheme rest)
  | none, none => .error .relativeWithoutBase
  | none, some base =>
    if cs.head? = some '#' || base.isBase then relative base cs
    else .error .relativeWithRootlessBase

/-- Reads an address that stands alone. -/
def read (s : String) : Except UrlFault Url :=
  resolve none s

end OperationGate.Url
