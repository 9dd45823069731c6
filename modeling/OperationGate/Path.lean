import OperationGate.Text.Cut

/-!
# Paths

Paths to files as texts with slashes. Two paths are the same when their components are: slashes may
be repeated, a `.` inside a path means nothing, and only a `.` at the front of a relative path
counts.
-/

namespace OperationGate

/-- A component of a path. -/
inductive Component where
  /-- The slash at the front. -/
  | root
  /-- A `.` at the front of a relative path. -/
  | here
  /-- A `..` anywhere. -/
  | up
  /-- A name. -/
  | name (s : String)
  deriving DecidableEq, Repr, Inhabited

/-- The text of a component. -/
def Component.text : Component → String
  | .root => "/"
  | .here => "."
  | .up => ".."
  | .name s => s

/-- A path to a file or directory. -/
structure Path where
  text : String
  deriving DecidableEq, Repr, Inhabited

namespace Path

/-- Tells whether a path starts at the root of the file system. -/
def isAbsolute (p : Path) : Bool :=
  p.text.toList.head? == some '/'

/-- The parts of a path between its slashes, as written. -/
def pieces (p : Path) : List String :=
  Text.splitAt '/' p.text

/-- Tells whether a part between slashes adds nothing to a path. -/
def isIdle (piece : String) : Bool :=
  piece = "" || piece = "."

/-- The component that a part between slashes makes, unless it is idle. -/
def component? (piece : String) : Option Component :=
  if isIdle piece then none else if piece = ".." then some .up else some (.name piece)

/-- The components of a path. -/
def components (p : Path) : List Component :=
  let body := p.pieces.filterMap component?
  if p.isAbsolute then .root :: body
  else if p.pieces.head? = some "." then .here :: body
  else body

/-- Two paths are the same if they have the same components. -/
def same (p q : Path) : Bool :=
  p.components == q.components

/-- Puts one path below another; an absolute path stands for itself. -/
def join (p q : Path) : Path :=
  if q.isAbsolute then q
  else if p.text = "" || p.text.toList.getLast? = some '/' then ⟨p.text ++ q.text⟩
  else ⟨p.text ++ "/" ++ q.text⟩

/-- The path of the directory that holds a path; none for the root and the empty path. -/
def parent? (p : Path) : Option Path :=
  if p.text = "" || p.components == [.root] then none
  else match (p.pieces.reverse.dropWhile isIdle).tail.dropWhile isIdle with
    | [] =>
      if p.isAbsolute then some ⟨"/"⟩
      else if p.components.length = 2 then some ⟨"."⟩
      else some ⟨""⟩
    | above => some ⟨Text.joinWith "/" above.reverse⟩

/-- Follows the components of a directory through the parts of a path: the parts left over. -/
def dropComponents : List Component → List String → Option (List String)
  | [], pieces => some pieces
  | _ :: _, [] => none
  | c :: cs, piece :: pieces =>
    match component? piece with
    | none => dropComponents (c :: cs) pieces
    | some d => if d = c then dropComponents cs pieces else none

/-- What remains of an absolute path below an absolute directory; idle parts inside it are kept. -/
def below? (p dir : Path) : Option Path :=
  if !p.isAbsolute then none
  else match dir.components with
    | [] => some ⟨trimEnd p.text⟩
    | .root :: cs =>
      (dropComponents cs p.pieces).map fun rest =>
        ⟨Text.joinWith "/" ((rest.dropWhile isIdle).reverse.dropWhile isIdle).reverse⟩
    | _ => none
where
  /-- Removes idle parts at the end of an absolute path. -/
  trimEnd (s : String) : String :=
    let ps := ((Text.splitAt '/' s).reverse.dropWhile isIdle).reverse
    match ps with
    | [] | [""] => "/"
    | ps => Text.joinWith "/" ps

/-- The components that lead from a directory to a target: up out of what the two do not share, then
down. -/
def relativeComponents (fromDir target : List Component) : List Component :=
  match fromDir, target with
  | a :: as, b :: bs =>
    if a = b then relativeComponents as bs else (a :: as).map (fun _ => .up) ++ b :: bs
  | as, bs => as.map (fun _ => .up) ++ bs

/-- The path made by pushing components one after the other. -/
def ofComponents (cs : List Component) : Path :=
  cs.foldl (fun p c => p.join ⟨c.text⟩) ⟨""⟩

end Path

/-- The path of a document as it is reported: an absolute path below the project root is given
relative to it. -/
def reportedPath (path : String) (root : Option Path) : String :=
  match root with
  | some root =>
    match Path.below? ⟨path⟩ root with
    | some rel => Text.replaceChar '\\' '/' rel.text
    | none => path
  | none => path

end OperationGate
