import PathAudit.Drawing.Wrap
import PathAudit.Graph.Annotations
import PathAudit.Graph.CallGraph

/-! The drawing of an annotated path as a DOT document: one statement for each node, in the order
the nodes first appear, then one for each edge. Names stand in quoted strings, everything that is
known about a node in a table. -/
namespace PathAudit

structure PathView where
  entry : FunctionId
  sink : FunctionId
  graph : CallGraph
  annotations : Annotations

namespace Dot

def wrapWidth : Nat := 100

def quoteChar (c : Char) : List Char :=
  if c = '\\' then ['\\', '\\']
  else if c = '"' then ['\\', '"']
  else if c = '\n' then ['\\', 'n']
  else [c]

def quote (s : String) : List Char := '"' :: s.toList.flatMap quoteChar ++ ['"']

def markupChar (c : Char) : List Char :=
  if c = '&' then "&amp;".toList
  else if c = '<' then "&lt;".toList
  else if c = '>' then "&gt;".toList
  else if c = '"' then "&quot;".toList
  else [c]

def markup (s : List Char) : List Char := s.flatMap markupChar

def cellText (s : String) : List Char :=
  Text.join "<BR/>".toList (((Text.lines s.toList).flatMap (Text.wrap wrapWidth)).map markup)

def fillColor (findings : Option Findings) : String :=
  match findings with
  | none => "#EEEEEE"
  | some f =>
    if f.contains .vulnerableSink then "#FFA4A4"
    else if f.contains .attackSource || f.contains .taintPropagation then "#FFFFA9"
    else if f.contains .securitySanitizer then "#D5FFB8"
    else "#EEEEEE"

def findingText (kind : FindingKind) (text : String) : String :=
  match kind with
  | .keyCodes => "### Key Codes ###\n" ++ text
  | kind => kind.name ++ ": " ++ text

def findingRow (kind : FindingKind) (text : String) : List Char :=
  "<TR><TD ALIGN=\"LEFT\" BALIGN=\"LEFT\">".toList ++ cellText (findingText kind text) ++
    "</TD></TR>".toList

def nodeTable (node : FunctionId) (findings : Option Findings) : List Char :=
  ("<TABLE BORDER=\"0\" CELLBORDER=\"1\" CELLSPACING=\"0\" CELLPADDING=\"4\" BGCOLOR=\"" ++
    fillColor findings ++ "\"><TR><TD><B>").toList ++ markup node.toList ++
    "</B></TD></TR>".toList ++
    ((findings.getD .empty).toList.flatMap fun (kind, text) => findingRow kind text) ++
    "</TABLE>".toList

def title (v : PathView) : List Char :=
  markup ("Vulnerability Path: " ++ v.entry ++ " -> " ++ v.sink).toList

/-- The label of the whole drawing, with the remark in a table if there is one. -/
def heading (v : PathView) : Option String → List Char
  | some remark =>
    "  labelloc=\"b\";\n".toList ++
    ("  label=<<TABLE BORDER=\"1\" CELLBORDER=\"0\" CELLPADDING=\"6\" BGCOLOR=\"#F0F8FF\">" ++
      "<TR><TD BGCOLOR=\"#E6F3FF\"><B>").toList ++ title v ++
    ("</B></TD></TR>" ++ "<TR><TD ALIGN=\"LEFT\" BALIGN=\"LEFT\">").toList ++ cellText remark ++
    "</TD></TR></TABLE>>;\n".toList
  | none => "  labelloc=\"t\";\n".toList ++ "  label=<<B>".toList ++ title v ++ "</B>>;\n".toList

def nodeStatement (v : PathView) (node : FunctionId) : List Char :=
  "  ".toList ++ quote node ++ " [label=<".toList ++ nodeTable node (v.annotations.get? node) ++
    ">];\n".toList

def edgeStatement (e : CallEdge) : List Char :=
  "  ".toList ++ quote e.caller ++ " -> ".toList ++ quote e.callee ++ " [label=".toList ++
    quote e.label ++ "];\n".toList

def preamble : String :=
  "digraph attack_path \x7b\n" ++ "  rankdir=TB;\n" ++
  "  node [shape=plain, fontname=\"Helvetica\"];\n" ++
  "  edge [fontname=\"Helvetica\", fontsize=10];\n"

def source (v : PathView) (remark : Option String) : String :=
  String.ofList (preamble.toList ++ heading v remark ++ v.graph.nodes.flatMap (nodeStatement v) ++
    v.graph.edges.flatMap edgeStatement ++ "\x7d\n".toList)

def fileName (edgeCount : Nat) (key : String) : String :=
  let named := substituted FunctionId.moduleTail "._module_" key
  let safe := named.toList.map fun c => if c = '/' ∨ c = '\\' then '_' else c
  decimal edgeCount ++ "__" ++ String.ofList safe

end Dot

end PathAudit
