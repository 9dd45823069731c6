import OperationGate.Document.Basic
import OperationGate.Number.Layout
import OperationGate.Text.Blank
import OperationGate.Text.Cut

/-!
# Printing documents

The laid-out text of operations and fragments: one selection a line, two spaces a level, arguments
and directives on the line of what they belong to. A text that goes over several lines is printed as
a block whose lines are indented one level deeper than the line it starts on.
-/

namespace OperationGate.Document

/-- The spaces at the front of a line at a depth. -/
def indent (depth : Nat) : List Char :=
  List.replicate (2 * depth) ' '

/-- The four decimal digits, or more, of a code point. -/
def decimalCode (c : Char) : List Char :=
  let ds := NumberLayout.digitsOf c.toNat
  List.replicate (4 - ds.length) '0' ++ ds

/-- Tells whether a quoted text shows a character as it is, the escaped ones apart. -/
def isPlain (c : Char) : Bool :=
  32 ≤ c.toNat && c.toNat ≤ 0xFFFF

/-- The characters that stand for one character of a quoted text. -/
def escape (c : Char) : List Char :=
  match c with
  | '\r' => ['\\', 'r']
  | '\n' => ['\\', 'n']
  | '\t' => ['\\', 't']
  | '"' => ['\\', '"']
  | '\\' => ['\\', '\\']
  | c => if isPlain c then [c] else '\\' :: 'u' :: decimalCode c

/-- Puts a backslash before three quotes. -/
def guardQuotes : List Char → List Char
  | '"' :: '"' :: '"' :: rest => '\\' :: '"' :: '"' :: '"' :: guardQuotes rest
  | c :: rest => c :: guardQuotes rest
  | [] => []

/-- Three quotes. -/
def blockMark : List Char :=
  ['"', '"', '"']

/-- A text: as a block if it holds a line feed and no character that a block cannot show, and quoted
otherwise. -/
def printText (depth : Nat) (cs : List Char) : List Char :=
  let isBlockable (c : Char) : Bool := isPlain c || c = '\n' || c = '\r' || c = '\t'
  if cs.contains '\n' && cs.all isBlockable then
    let line (l : List Char) : List Char :=
      if l.all Text.isBlank then ['\n'] else indent (depth + 1) ++ guardQuotes l ++ ['\n']
    blockMark ++ '\n' :: (Text.lines cs).flatMap line ++ indent depth ++ blockMark
  else
    '"' :: cs.flatMap escape ++ ['"']

mutual

/-- A value on a line at a depth. -/
def printValue (depth : Nat) : Value → List Char
  | .var n => '$' :: n.toList
  | .int n => NumberLayout.integerText n
  | .float d => NumberLayout.document.text d
  | .text s => printText depth s.toList
  | .bool true => ['t', 'r', 'u', 'e']
  | .bool false => ['f', 'a', 'l', 's', 'e']
  | .null => ['n', 'u', 'l', 'l']
  | .enum n => n.toList
  | .list items => '[' :: printItems depth items ++ [']']
  | .record members => '\x7b' :: printMembers depth members ++ ['\x7d']

/-- Items with commas between them. -/
def printItems (depth : Nat) : List Value → List Char
  | [] => []
  | [v] => printValue depth v
  | v :: rest => printValue depth v ++ ',' :: ' ' :: printItems depth rest

/-- Members or arguments with commas between them. -/
def printMembers (depth : Nat) : List (String × Value) → List Char
  | [] => []
  | [(n, v)] => n.toList ++ ':' :: ' ' :: printValue depth v
  | (n, v) :: rest =>
    n.toList ++ ':' :: ' ' :: printValue depth v ++ ',' :: ' ' :: printMembers depth rest

end

/-- Arguments in parentheses, if there are any. -/
def printArguments (depth : Nat) (as : Arguments) : List Char :=
  if as.isEmpty then [] else '(' :: printMembers depth as ++ [')']

/-- Directives, each after a space. -/
def printDirectives (depth : Nat) (ds : List Directive) : List Char :=
  ds.flatMap fun d => ' ' :: '@' :: d.name.toList ++ printArguments depth d.arguments

mutual

/-- A selection on lines of its own. -/
def printNode (depth : Nat) : Node → List Char
  | .field aliasName n as ds selections =>
    indent depth
      ++ (match aliasName with
        | none => []
        | some a => a.toList ++ [':', ' '])
      ++ n.toList ++ printArguments depth as ++ printDirectives depth ds
      ++ (match selections with
        | [] => ['\n']
        | s :: rest =>
          ' ' :: '\x7b' :: '\n' :: (printNode (depth + 1) s ++ printNodes (depth + 1) rest)
            ++ indent depth ++ ['\x7d', '\n'])
  | .spread f ds => indent depth ++ '.' :: '.' :: '.' :: f.toList ++
      printDirectives depth ds ++ ['\n']
  | .inline condition ds selections =>
    indent depth ++ ['.', '.', '.']
      ++ (match condition with
        | none => []
        | some t => ' ' :: 'o' :: 'n' :: ' ' :: t.toList)
      ++ printDirectives depth ds ++ [' ', '\x7b', '\n'] ++ printNodes (depth + 1) selections
      ++ indent depth ++ ['\x7d', '\n']

/-- Selections, one after the other. -/
def printNodes (depth : Nat) : List Node → List Char
  | [] => []
  | n :: rest => printNode depth n ++ printNodes depth rest

end

/-- A declared variable. -/
def printVariable (v : Variable) : List Char :=
  '$' :: v.name.toList ++ ':' :: ' ' :: v.type.text.toList
    ++ match v.default with
      | none => []
      | some d => ' ' :: '=' :: ' ' :: printValue 0 d

/-- Declared variables in parentheses, if there are any. Those of a subscription stand without
separators. -/
def printVariables (kind : OperationKind) (vs : List Variable) : List Char :=
  let separator := match kind with
    | .subscription => []
    | _ => [',', ' ']
  if vs.isEmpty then [] else '(' :: separator.intercalate (vs.map printVariable) ++ [')']

/-- Selections in braces at the end of a definition's first line. -/
def printBlock (selections : List Node) : List Char :=
  ' ' :: '\x7b' :: '\n' :: printNodes 1 selections ++ ['\x7d', '\n']

/-- The lines of a definition. -/
def Definition.lines : Definition → List Char
  | .bare selections => ['\x7b', '\n'] ++ printNodes 1 selections ++ ['\x7d', '\n']
  | .operation op =>
    op.kind.word.toList
      ++ (match op.name with
        | none => []
        | some n => ' ' :: n.toList ++ printVariables op.kind op.parameters)
      ++ printDirectives 0 op.directives ++ printBlock op.selections
  | .fragment f =>
    ("fragment " ++ f.name ++ " on " ++ f.condition).toList
      ++ printDirectives 0 f.directives ++ printBlock f.selections

/-- The text of a definition, without blanks at its end. -/
def Definition.print (d : Definition) : String :=
  String.ofList (Text.dropEndWhile Text.isBlank d.lines)

end OperationGate.Document
