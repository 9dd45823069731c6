import OperationGate.Files.Forest
import OperationGate.Path
import OperationGate.Text.Utf8

/-!
# File trees

Directories and files by their addresses: the names that lead to them from the root. Paths are
followed part by part, as an operating system follows them.

Main statements: `node?_put` says what is where after something is put into a tree, and
`mem_filesBelow_iff` which files are below a directory.
-/

namespace OperationGate

/-- Where something is: the names that lead there from the root. -/
abbrev Address := List String

/-- What is at an address. -/
inductive FileNode where
  | directory
  | text (contents : String)
  /-- A file with bytes that are no text. -/
  | binary (bytes : List UInt8)
  deriving DecidableEq, Repr, Inhabited

/-- The file with some bytes. -/
def FileNode.ofBytes (bytes : List UInt8) : FileNode :=
  match Text.Utf8.decode? bytes with
  | some cs => .text (String.ofList cs)
  | none => .binary bytes

/-- Why something is not read or written. -/
inductive FileFault where
  | missing
  | notDirectory
  | isDirectory
  | nameTooLong
  | notText
  | nulInPath
  deriving DecidableEq, Repr, Inhabited

/-- The wording of a fault. -/
def FileFault.message : FileFault → String
  | .missing => "No such file or directory (os error 2)"
  | .notDirectory => "Not a directory (os error 20)"
  | .isDirectory => "Is a directory (os error 21)"
  | .nameTooLong => "File name too long (os error 36)"
  | .notText => "stream did not contain valid UTF-8"
  | .nulInPath => "file name contained an unexpected NUL byte"

/-- Directories and files; the root is a directory in every tree. -/
structure FileTree where
  /-- What is below the root. -/
  forest : Forest FileNode
  /-- One thing at each address. -/
  distinct : forest.Distinct := by trivial

namespace FileTree

/-- The tree with nothing but the root. -/
def empty : FileTree := ⟨.nil, trivial⟩

instance : EmptyCollection FileTree := ⟨empty⟩
instance : Inhabited FileTree := ⟨empty⟩

/-- What is at an address. -/
def node? (t : FileTree) (a : Address) : Option FileNode :=
  if a = [] then some .directory else t.forest.get? a

/-- All that is below the root, with its address. -/
def entries (t : FileTree) : List (Address × FileNode) :=
  t.forest.entries

/-- Puts something at an address in place of what is there. -/
def put (t : FileTree) (a : Address) (n : FileNode) : FileTree :=
  ⟨.insert n t.forest a, t.distinct.insert a n⟩

/-- Removes what is at an address or below it. -/
def remove (t : FileTree) (a : Address) : FileTree :=
  ⟨t.forest.erase a, t.distinct.erase a⟩

/-- What is left of an address below another. -/
def wayFrom? : Address → Address → Option Address
  | [], b => some b
  | x :: xs, y :: ys => if x = y then wayFrom? xs ys else none
  | _ :: _, [] => none

/-- After something is put at an address it is there, and all else is where it was. -/
theorem node?_put {t : FileTree} {a b : Address} {n : FileNode} (ha : a ≠ []) :
    (t.put a n).node? b = if a = b then some n else t.node? b := by
  by_cases hb : b = []
  · simp [node?, hb, ha]
  · simp [node?, put, hb, Forest.get?_insert ha]

/-- Something is listed if it is below the root. -/
theorem mem_entries_iff {t : FileTree} {a : Address} {n : FileNode} :
    (a, n) ∈ t.entries ↔ a ≠ [] ∧ t.node? a = some n := by
  unfold entries node?
  rw [Forest.mem_entries_iff t.distinct]
  by_cases ha : a = [] <;> simp [ha]

/-! ## Following paths -/

/-- The most bytes that a name may have. -/
def maxNameLength : Nat := 255

/-- The most bytes that a path may have. -/
def maxPathLength : Nat := 4095

/-- Why a path leads nowhere in any tree. -/
def pathFault? (p : Path) : Option FileFault :=
  if p.text.toList.contains '\x00' then some .nulInPath
  else if p.text.utf8ByteSize > maxPathLength then some .nameTooLong
  else none

/-- Follows one part of a path out of a directory. What the part leads to need not be there. -/
def enter (t : FileTree) (a : Address) (piece : String) : Except FileFault Address :=
  match t.node? a with
  | none => .error .missing
  | some .directory =>
    if Path.isIdle piece then .ok a
    else if piece = ".." then .ok a.dropLast
    else if piece.utf8ByteSize > maxNameLength then .error .nameTooLong
    else .ok (a ++ [piece])
  | some _ => .error .notDirectory

/-- The address that a path leads to from a directory, whether or not something is there. -/
def locate (t : FileTree) (here : Address) (p : Path) : Except FileFault Address :=
  match pathFault? p with
  | some f => .error f
  | none =>
    if p.text = "" then .error .missing
    else p.pieces.foldlM t.enter (if p.isAbsolute then [] else here)

/-- What a path leads to. -/
def at? (t : FileTree) (here : Address) (p : Path) : Except FileFault (Address × FileNode) := do
  let a ← t.locate here p
  match t.node? a with
  | some n => return (a, n)
  | none => throw .missing

/-- The text of a file. -/
def read (t : FileTree) (here : Address) (p : Path) : Except FileFault String := do
  match (← t.at? here p).2 with
  | .text s => return s
  | .binary _ => throw .notText
  | .directory => throw .isDirectory

/-- Tells whether a path leads to something. -/
def has (t : FileTree) (here : Address) (p : Path) : Bool :=
  match t.at? here p with
  | .ok _ => true
  | .error _ => false

/-- Writes a file, which need not be there; nothing if the path leads to no place for a file. -/
def write? (t : FileTree) (here : Address) (p : Path) (file : FileNode) : Option FileTree :=
  match t.locate here p with
  | .error _ => none
  | .ok a => if t.node? a = some .directory then none else some (t.put a file)

/-- Where a component of a path leads. -/
def follow (a : Address) : Component → Address
  | .root => []
  | .here => a
  | .up => a.dropLast
  | .name s => a ++ [s]

/-- Makes the directories that components lead through where there is nothing yet, and tells whether
the last is a directory now. -/
def makeDirectories (t : FileTree) (a : Address) : List Component → FileTree × Bool
  | [] => (t, true)
  | c :: cs =>
    let b := follow a c
    match t.node? b with
    | some .directory => t.makeDirectories b cs
    | some _ => (t, false)
    | none =>
      if c.text.utf8ByteSize > maxNameLength then (t, false)
      else (t.put b .directory).makeDirectories b cs

/-- Makes a directory and those that lead to it, and tells whether it is there now. The whole path
is tried first, so that nothing is made for one that leads nowhere in any tree. -/
def makeWay (t : FileTree) (here : Address) (dir : Path) : FileTree × Bool :=
  match pathFault? dir with
  | some _ => (t, false)
  | none => t.makeDirectories here dir.components

/-! ## Files below a directory -/

/-- The order of addresses, name by name. -/
def isBefore : Address → Address → Bool
  | [], _ => true
  | _ :: _, [] => false
  | x :: xs, y :: ys => if x = y then isBefore xs ys else decide (x < y)

/-- What is below an address, by the names that lead there from it; not the directories. -/
def below (t : FileTree) (a : Address) : List (Address × FileNode) :=
  t.entries.filterMap fun e =>
    if e.2 = .directory then none else (wayFrom? a e.1).map fun rest => (rest, e.2)

/-- The files below an address in the order of the names that lead to them. -/
def filesBelow (t : FileTree) (a : Address) : List (Address × FileNode) :=
  (t.below a).mergeSort fun e f => isBefore e.1 f.1

/-- What is left of an address leads from the other to it. -/
theorem wayFrom?_eq_some_iff {a b rest : Address} : wayFrom? a b = some rest ↔ b = a ++ rest := by
  induction a generalizing b with
  | nil => simp [wayFrom?]
  | cons x xs ih =>
    cases b with
    | nil => simp [wayFrom?]
    | cons y ys =>
      unfold wayFrom?
      by_cases hxy : x = y
      · simp [hxy, ih]
      · simp [hxy, Ne.symm hxy]

/-- The files below an address are those of the tree that it leads to. -/
theorem mem_filesBelow_iff {t : FileTree} {a rest : Address} {n : FileNode} :
    (rest, n) ∈ t.filesBelow a ↔ t.node? (a ++ rest) = some n ∧ n ≠ .directory := by
  have hroot : t.node? (a ++ rest) = some n ∧ n ≠ .directory → a ++ rest ≠ [] := by
    rintro ⟨h, hn⟩ hr
    rw [node?, if_pos hr] at h
    exact hn (Option.some.inj h).symm
  unfold filesBelow below
  rw [List.mem_mergeSort, List.mem_filterMap]
  constructor
  · rintro ⟨⟨b, m⟩, hb, h⟩
    split at h
    · cases h
    · next hm =>
      obtain ⟨r, hr, he⟩ := Option.map_eq_some_iff.1 h
      cases he
      exact ⟨wayFrom?_eq_some_iff.1 hr ▸ (mem_entries_iff.1 hb).2, hm⟩
  · intro h
    exact ⟨_, mem_entries_iff.2 ⟨hroot h, h.1⟩, by simp [h.2, wayFrom?_eq_some_iff.2 rfl]⟩

end FileTree

end OperationGate
