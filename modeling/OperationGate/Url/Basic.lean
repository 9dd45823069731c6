import OperationGate.Url.Form
import OperationGate.Url.Host

/-!
# Addresses

An address taken apart: scheme, authority, path, query and fragment. Its text is what is sent and
shown, and the same address has the same text however it was written.
-/

namespace OperationGate

namespace Url

/-- Who is addressed: a host, with a user and a port where they are given. -/
structure Authority where
  user : String
  password : String
  host : Host
  /-- The port, unless it is the usual one of the scheme. -/
  port : Option Nat
  deriving DecidableEq, Repr, Inhabited

/-- The text of an authority. -/
def Authority.text (a : Authority) : String :=
  let credentials :=
    if a.user = "" && a.password = "" then ""
    else a.user ++ (if a.password = "" then "" else ":" ++ a.password) ++ "@"
  credentials ++ a.host.text ++ a.port.elim "" fun p => ":" ++ toString p

end Url

/-- An address. -/
structure Url where
  scheme : String
  authority : Option Url.Authority
  /-- The path in its encoded form. -/
  path : String
  query : Option String
  fragment : Option String
  deriving DecidableEq, Repr, Inhabited

namespace Url

/-- The text of an address. A path that starts with two slashes is told from an authority by a
dot. -/
def text (u : Url) : String :=
  u.scheme ++ ":"
    ++ (match u.authority with
      | some a => "//" ++ a.text
      | none => if (Text.afterFront? "//" u.path).isSome then "/." else "")
    ++ u.path
    ++ u.query.elim "" ("?" ++ ·)
    ++ u.fragment.elim "" ("#" ++ ·)

/-- The pairs of the query. -/
def queryPairs (u : Url) : List (String × String) :=
  Form.read (u.query.getD "").toList

/-- Adds pairs at the end of the query. -/
def appendPairs (u : Url) (ps : List (String × String)) : Url :=
  { u with query := some (String.ofList (ps.foldl Form.append (u.query.getD "").toList)) }

/-- Leaves out a query that holds nothing. -/
def dropEmptyQuery (u : Url) : Url :=
  if u.query = some "" then { u with query := none } else u

end Url

end OperationGate
