import OperationGate.Text.Cut
import OperationGate.Url.Domain
import OperationGate.Url.Fault
import OperationGate.Url.Percent

/-!
# Hosts

The host of an address: a domain, an address of four bytes, or one of eight groups. The host of a
web address is a domain in lower case unless its last part is a number; in other addresses it is any
text without the marks of an address.
-/

namespace OperationGate.Url

/-- A host. -/
inductive Host where
  | domain (name : String)
  | ipv4 (address : Nat)
  | ipv6 (groups : List Nat)
  deriving DecidableEq, Repr, Inhabited

namespace Host

/-! ## Addresses of four bytes -/

/-- The value of a digit of either case. -/
def digit? (c : Char) : Option Nat :=
  if c.isDigit then some (c.toNat - 48)
  else if 'a' ≤ c && c ≤ 'f' then some (c.toNat - 87)
  else if 'A' ≤ c && c ≤ 'F' then some (c.toNat - 55)
  else none

/-- The value of digits below a base. -/
def number? (base : Nat) (cs : List Char) : Option Nat :=
  cs.foldlM (fun n c => do
    let d ← digit? c
    if d < base then some (n * base + d) else none) 0

/-- The value of a part of an address: sixteen is the base after `0x`, eight after `0`, ten
otherwise. -/
def part? (cs : List Char) : Option Nat :=
  match cs with
  | [] => none
  | '0' :: 'x' :: rest | '0' :: 'X' :: rest => number? 16 rest
  | '0' :: c :: rest => number? 8 (c :: rest)
  | cs => number? 10 cs

/-- The parts of a name between its dots; a dot at the end ends the last part. -/
def parts (cs : List Char) : List (List Char) :=
  match (cs.splitOn '.').reverse with
  | [] :: before :: rest => (before :: rest).reverse
  | ps => ps.reverse

/-- Tells whether the last part of a name is a number, so that the name is an address. -/
def endsInNumber (cs : List Char) : Bool :=
  match (parts cs).getLast? with
  | none | some [] => false
  | some last => last.all Char.isDigit || (part? last).isSome

/-- The address that a name of one to four numbers stands for; the last one fills the bytes left
over. -/
def ipv4? (cs : List Char) : Option Nat := do
  let ps := parts cs
  if ps.length > 4 then none
  else
    let ns ← ps.mapM part?
    let last ← ns.getLast?
    let front := ns.dropLast
    if last ≥ Nat.pow 256 (4 - front.length) || front.any (· > 255) then none
    else some (front.zipIdx.foldl (fun n p => n + p.1 * Nat.pow 256 (3 - p.2)) last)

/-- The text of an address of four bytes. -/
def ipv4Text (n : Nat) : String :=
  Text.joinWith "." ([n / 16777216, n / 65536 % 256, n / 256 % 256, n % 256].map toString)

/-! ## Addresses of eight groups -/

/-- The value of a group of one to four digits. -/
def group? (cs : List Char) : Option Nat :=
  if cs.isEmpty || cs.length > 4 then none else number? 16 cs

/-- The value of a byte without leading zeros. -/
def byte? (cs : List Char) : Option Nat := do
  let n ← if cs.isEmpty then none else number? 10 cs
  if n > 255 || (cs.length > 1 && cs.head? = some '0') then none else some n

/-- The two groups that four bytes make. -/
def bytesAsGroups? (cs : List Char) : Option (List Nat) := do
  match ← (cs.splitOn '.').mapM byte? with
  | [a, b, c, d] => some [a * 256 + b, c * 256 + d]
  | _ => none

/-- The groups of one side of an address; the last may be four bytes if `bytes` says so. -/
def groups? (bytes : Bool) (cs : List Char) : Option (List Nat) := do
  if cs.isEmpty then some []
  else
    let ps := cs.splitOn ':'
    let front ← ps.dropLast.mapM group?
    let last ← ps.getLast?
    if bytes && last.contains '.' then return front ++ (← bytesAsGroups? last)
    else return front ++ [← group? last]

/-- The address of eight groups; a double colon stands for zeros, for one at least. -/
def ipv6? (cs : List Char) : Option (List Nat) := do
  match Text.cutAtText? [':', ':'] cs with
  | none =>
    let gs ← groups? true cs
    if gs.length = 8 then some gs else none
  | some (left, right) =>
    let ls ← groups? false left
    let rs ← groups? true right
    if ls.length + rs.length > 7 then none
    else some (ls ++ List.replicate (8 - ls.length - rs.length) 0 ++ rs)

/-- The length of the run of zeros that starts a list. -/
def zeros (gs : List Nat) : Nat :=
  (gs.takeWhile (· = 0)).length

/-- The place and the length of the first longest run of zeros, if one has at least two. -/
def longestZeros? (gs : List Nat) : Option (Nat × Nat) :=
  let runs := (List.range gs.length).map fun i => (i, zeros (gs.drop i))
  let longest := runs.foldl (fun n r => max n r.2) 0
  if longest < 2 then none else runs.find? fun r => r.2 = longest

/-- Groups with a colon between any two. -/
def groupsText (gs : List Nat) : String :=
  Text.joinWith ":" (gs.map fun g => String.ofList (Nat.toDigits 16 g))

/-- The text of an address of eight groups, with the first longest run of zeros left out. -/
def ipv6Text (gs : List Nat) : String :=
  match longestZeros? gs with
  | none => groupsText gs
  | some (i, n) => groupsText (gs.take i) ++ "::" ++ groupsText (gs.drop (i + n))

/-! ## Hosts -/

/-- The text of a host. -/
def text : Host → String
  | domain name => name
  | ipv4 n => ipv4Text n
  | ipv6 gs => "[" ++ ipv6Text gs ++ "]"

/-- The address within brackets. -/
def bracketed (cs : List Char) : Except UrlFault Host :=
  match if cs.getLast? = some ']' then ipv6? (cs.drop 1).dropLast else none with
  | some gs => .ok (.ipv6 gs)
  | none => .error .invalidIpv6

/-- The host of a web address. -/
def ofWeb (cs : List Char) : Except UrlFault Host :=
  if cs.head? = some '[' then bracketed cs
  else match Domain.read? cs with
    | none => .error .invalidInternationalDomain
    | some [] => .error .emptyHost
    | some name =>
      if endsInNumber name then
        match ipv4? name with
        | some n => .ok (.ipv4 n)
        | none => .error .invalidIpv4
      else .ok (.domain (String.ofList name))

/-- Tells whether a character may not be in the host of any address. -/
def isMark (c : Char) : Bool :=
  "\x00\t\n\r #/:<>?@[\\]^|".toList.contains c

/-- The host of an address that is no web address. -/
def ofOther (cs : List Char) : Except UrlFault Host :=
  if cs.head? = some '[' then bracketed cs
  else if cs.any isMark then .error .invalidDomainCharacter
  else .ok (.domain (String.ofList (Percent.encode Percent.isPrintable cs)))

end Host

end OperationGate.Url
