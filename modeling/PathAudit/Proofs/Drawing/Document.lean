import PathAudit.Proofs.Drawing.Lexis

/-! A drawing as it is read back. Whatever names, labels, findings and remarks say, the document
has its fixed settings, one caption, one statement for each node and one for each edge; the names
and labels in them are those of the graph, so that different edges never look the same. -/
namespace PathAudit.Dot

inductive Ident where
  | text (t : String)
  | markup (t : String)
  deriving DecidableEq, Repr, Inhabited

abbrev Attribute := Ident × Ident

inductive Statement where
  | setting (given : Attribute)
  | defaults (subject : String) (given : List Attribute)
  | node (name : Ident) (given : List Attribute)
  | edge (tail head : Ident) (given : List Attribute)
  deriving DecidableEq, Repr, Inhabited

structure Document where
  name : Ident
  statements : List Statement
  deriving DecidableEq, Repr, Inhabited

def subjects : List String := ["graph", "node", "edge"]

def keywords : List String := subjects ++ ["digraph", "subgraph", "strict"]

namespace Token

/-- A keyword is a name only in quotes. -/
def ident? : Token → Option Ident
  | .word t => if keywords.contains (lowered t) then none else some (.text t)
  | .quoted t => some (.text t)
  | .markup t => some (.markup t)
  | _ => none

def subject? : Token → Option String
  | .word t => if subjects.contains (lowered t) then some t else none
  | _ => none

end Token

def attribute? (name value : Token) : Option Attribute := do
  return (← name.ident?, ← value.ident?)

def attributes? : List Token → Option (List Attribute)
  | [name, .sign '=', value, .sign ']'] => do return [← attribute? name value]
  | name :: .sign '=' :: value :: .sign ',' :: rest => do
    return (← attribute? name value) :: (← attributes? rest)
  | _ => none

def statement? : List Token → Option Statement
  | [name, .sign '=', value] => (attribute? name value).map .setting
  | first :: .sign '[' :: rest => do
    let given ← attributes? rest
    match first.ident? with
    | some name => return .node name given
    | none => return .defaults (← first.subject?) given
  | tail :: .arrow :: head :: .sign '[' :: rest => do
    return .edge (← tail.ident?) (← head.ident?) (← attributes? rest)
  | _ => none

/-- Statements, each with a semicolon behind it, up to the brace that closes the document; `held`
has been read of the first of them. -/
def statements? (held : List Token) : List Token → Option (List Statement)
  | [] => none
  | token :: rest =>
    if token = .sign ';' then do
      return (← statement? held) :: (← statements? [] rest)
    else if token = .sign '\x7d' then
      if held.isEmpty && rest.isEmpty then some [] else none
    else statements? (held ++ [token]) rest

def document? : List Token → Option Document
  | .word kind :: name :: .sign '\x7b' :: rest =>
    if lowered kind = "digraph" then do return ⟨← name.ident?, ← statements? [] rest⟩ else none
  | _ => none

def read? (text : String) : Option Document := (tokens? text).bind document?

def caption (v : PathView) : Option String → List Char
  | some remark =>
    ("<TABLE BORDER=\"1\" CELLBORDER=\"0\" CELLPADDING=\"6\" BGCOLOR=\"#F0F8FF\">" ++
      "<TR><TD BGCOLOR=\"#E6F3FF\"><B>").toList ++ title v ++
      ("</B></TD></TR>" ++ "<TR><TD ALIGN=\"LEFT\" BALIGN=\"LEFT\">").toList ++
      cellText remark ++ "</TD></TR></TABLE>".toList
  | none => "<B>".toList ++ title v ++ "</B>".toList

def side : Option String → String
  | some _ => "b"
  | none => "t"

namespace Statement

def fixed : List Statement :=
  [.setting (.text "rankdir", .text "TB"),
    .defaults "node" [(.text "shape", .text "plain"), (.text "fontname", .text "Helvetica")],
    .defaults "edge" [(.text "fontname", .text "Helvetica"), (.text "fontsize", .text "10")]]

def ofHeading (v : PathView) (remark : Option String) : List Statement :=
  [.setting (.text "labelloc", .text (side remark)),
    .setting (.text "label", .markup (String.ofList (caption v remark)))]

def ofNode (v : PathView) (node : FunctionId) : Statement :=
  .node (.text node)
    [(.text "label", .markup (String.ofList (nodeTable node (v.annotations.get? node))))]

def ofEdge (e : CallEdge) : Statement :=
  .edge (.text e.caller) (.text e.callee) [(.text "label", .text e.label)]

def edge? : Statement → Option CallEdge
  | .edge (.text caller) (.text callee) [(.text "label", .text label)] =>
    some ⟨caller, callee, label⟩
  | _ => none

end Statement

def closed (tokens : List Token) : List Token := tokens ++ [.sign ';']

def fixedTokens : List Token :=
  closed [.word "rankdir", .sign '=', .word "TB"] ++
  closed [.word "node", .sign '[', .word "shape", .sign '=', .word "plain", .sign ',',
    .word "fontname", .sign '=', .quoted "Helvetica", .sign ']'] ++
  closed [.word "edge", .sign '[', .word "fontname", .sign '=', .quoted "Helvetica", .sign ',',
    .word "fontsize", .sign '=', .word "10", .sign ']']

def headingTokens (v : PathView) (remark : Option String) : List Token :=
  closed [.word "labelloc", .sign '=', .quoted (side remark)] ++
    closed [.word "label", .sign '=', .markup (String.ofList (caption v remark))]

def nodeTokens (v : PathView) (node : FunctionId) : List Token :=
  closed [.quoted node, .sign '[', .word "label", .sign '=',
    .markup (String.ofList (nodeTable node (v.annotations.get? node))), .sign ']']

def edgeTokens (e : CallEdge) : List Token :=
  closed [.quoted e.caller, .arrow, .quoted e.callee, .sign '[', .word "label", .sign '=',
    .quoted e.label, .sign ']']

section Writing
variable (v : PathView) (remark : Option String)

theorem balanced_caption : Balanced (caption v remark) := by
  have titled : Balanced (title v) := balanced_markup _
  cases remark with
  | none =>
    have bold : Balanced "<B>".toList := balanced_of_even (by decide)
    have plain : Balanced "</B>".toList := balanced_of_even (by decide)
    exact (bold.append titled).append plain
  | some remark =>
    have ends : Balanced "</TD></TR></TABLE>".toList := balanced_of_even (by decide)
    refine (((Balanced.append ?_ titled).append ?_).append (balanced_cellText remark)).append ends
    · exact balanced_of_even (by decide +kernel)
    · exact balanced_of_even (by decide +kernel)

theorem balanced_findingRow (kind : FindingKind) (text : String) :
    Balanced (findingRow kind text) := by
  have opens : Balanced "<TR><TD ALIGN=\"LEFT\" BALIGN=\"LEFT\">".toList :=
    balanced_of_even (by decide +kernel)
  have closes : Balanced "</TD></TR>".toList := balanced_of_even (by decide)
  exact (opens.append (balanced_cellText _)).append closes

theorem free_fillColor (findings : Option Findings) :
    ∀ c ∈ (fillColor findings).toList, c ≠ '<' ∧ c ≠ '>' := by
  unfold fillColor
  split
  · simp
  repeat' split
  all_goals simp

theorem balanced_nodeTable (node : FunctionId) (findings : Option Findings) :
    Balanced (nodeTable node findings) := by
  have closes : Balanced "</B></TD></TR>".toList := balanced_of_even (by decide)
  have ends : Balanced "</TABLE>".toList := balanced_of_even (by decide)
  refine (((Balanced.append (balanced_of_even ?_) (balanced_markup _)).append closes).append
    (.flatMap fun (kind, text) => balanced_findingRow kind text)).append ends
  -- The colour is all that varies in the table's first tags.
  rw [String.toList_append, String.toList_append, List.append_assoc,
    isEven_insert _ _ _ (free_fillColor findings)]
  decide +kernel

private def sideLine : Option String → String
  | some _ => "  labelloc=\"b\";\n"
  | none => "  labelloc=\"t\";\n"

private theorem heading_eq : heading v remark = (sideLine remark).toList ++
    ("  label=<".toList ++ (caption v remark ++ '>' :: ";\n".toList)) := by
  have last : ">;\n".toList = '>' :: ";\n".toList := rfl
  cases remark with
  | none =>
    have opens : "  label=<<B>" = "  label=<" ++ "<B>" := by decide
    have closes : "</B>>;\n" = "</B>" ++ ">;\n" := by decide
    unfold heading caption sideLine
    rw [opens, closes]
    simp only [String.toList_append, List.append_assoc, last]
  | some remark =>
    have opens :
        "  label=<<TABLE BORDER=\"1\" CELLBORDER=\"0\" CELLPADDING=\"6\" BGCOLOR=\"#F0F8FF\">" =
          "  label=<" ++
            "<TABLE BORDER=\"1\" CELLBORDER=\"0\" CELLPADDING=\"6\" BGCOLOR=\"#F0F8FF\">" := by
      decide
    have closes : "</TD></TR></TABLE>>;\n" = "</TD></TR></TABLE>" ++ ">;\n" := by decide
    unfold heading caption sideLine
    rw [opens, closes]
    simp only [String.toList_append, List.append_assoc, last]

theorem reads_preamble : Reads .between preamble.toList
    (.word "digraph" :: .word "attack_path" :: .sign '\x7b' :: fixedTokens) .between := by
  unfold Reads preamble
  decide +kernel

theorem reads_heading : Reads .between (heading v remark) (headingTokens v remark) .between := by
  have placed : Reads .between (sideLine remark).toList
      (closed [.word "labelloc", .sign '=', .quoted (side remark)]) .between := by
    cases remark with
    | none => exact (rfl : scan _ "  labelloc=\"t\";\n".toList = _)
    | some remark => exact (rfl : scan _ "  labelloc=\"b\";\n".toList = _)
  have labelled : Reads .between "  label=<".toList [.word "label", .sign '='] (.markup 0 []) := rfl
  have ends : Reads .between ";\n".toList [.sign ';'] .between := rfl
  rw [heading_eq]
  exact placed.append (labelled.append ((balanced_caption v remark).closed ends))

theorem reads_nodeStatement (node : FunctionId) :
    Reads .between (nodeStatement v node) (nodeTokens v node) .between := by
  have indented : Reads .between "  ".toList [] .between := rfl
  have labelled : Reads .between " [label=<".toList [.sign '[', .word "label", .sign '=']
      (.markup 0 []) := rfl
  have ends : Reads .between "];\n".toList [.sign ']', .sign ';'] .between := rfl
  have table := (balanced_nodeTable node (v.annotations.get? node)).closed ends
  rw [nodeStatement, List.append_assoc]
  exact ((indented.append (reads_quote node)).append labelled).append table

theorem reads_edgeStatement (e : CallEdge) :
    Reads .between (edgeStatement e) (edgeTokens e) .between := by
  have indented : Reads .between "  ".toList [] .between := rfl
  have arrow : Reads .between " -> ".toList [.arrow] .between := rfl
  have labelled : Reads .between " [label=".toList [.sign '[', .word "label", .sign '=']
      .between := rfl
  have ends : Reads .between "];\n".toList [.sign ']', .sign ';'] .between := rfl
  exact (((((indented.append (reads_quote e.caller)).append arrow).append
    (reads_quote e.callee)).append labelled).append (reads_quote e.label)).append ends

theorem tokens?_source : tokens? (source v remark) =
    some (.word "digraph" :: .word "attack_path" :: .sign '\x7b' :: (fixedTokens ++
      headingTokens v remark ++ v.graph.nodes.flatMap (nodeTokens v) ++
      v.graph.edges.flatMap edgeTokens ++ [.sign '\x7d'])) := by
  have ends : Reads .between "\x7d\n".toList [.sign '\x7d'] .between := rfl
  refine Reads.tokens? ?_
  rw [source, String.toList_ofList]
  exact (((reads_preamble.append (reads_heading v remark)).append
    (.flatMap fun node _ => reads_nodeStatement v node)).append
    (.flatMap fun e _ => reads_edgeStatement e)).append ends

end Writing

/-- The tokens give the statements, whatever follows them. -/
def Forms (tokens : List Token) (statements : List Statement) : Prop :=
  ∀ rest, statements? [] (tokens ++ rest) = (statements? [] rest).map (statements ++ ·)

section Forming

theorem statements?_close {held tokens : List Token} (rest : List Token)
    (plain : ∀ token ∈ tokens, token ≠ .sign ';' ∧ token ≠ .sign '\x7d') :
    statements? held (tokens ++ .sign ';' :: rest) =
      (statement? (held ++ tokens)).bind fun s => (statements? [] rest).map (s :: ·) := by
  induction tokens generalizing held with
  | nil =>
    rw [List.append_nil, List.nil_append, statements?, if_pos rfl]
    cases statement? held <;> cases statements? [] rest <;> rfl
  | cons token tokens ih =>
    obtain ⟨noClose, noEnd⟩ := plain token List.mem_cons_self
    rw [List.cons_append, statements?, if_neg noClose, if_neg noEnd,
      ih fun other member => plain other (List.mem_cons_of_mem _ member), List.append_assoc]
    rfl

theorem Forms.single {tokens : List Token} {s : Statement}
    (plain : ∀ token ∈ tokens, token ≠ .sign ';' ∧ token ≠ .sign '\x7d')
    (read : statement? tokens = some s) : Forms (closed tokens) [s] := by
  intro rest
  rw [closed, List.append_assoc, List.singleton_append, statements?_close rest plain,
    List.nil_append, read]
  rfl

theorem Forms.append {first second : List Token} {left right : List Statement}
    (one : Forms first left) (other : Forms second right) :
    Forms (first ++ second) (left ++ right) := by
  intro rest
  rw [List.append_assoc, one, other, Option.map_map]
  congr 1
  funext later
  exact (List.append_assoc ..).symm

theorem Forms.flatMap {α : Type} {items : List α} {write : α → List Token}
    {state : α → Statement} (each : ∀ item, Forms (write item) [state item]) :
    Forms (items.flatMap write) (items.map state) := by
  induction items with
  | nil =>
    intro rest
    exact (Option.map_id' ..).symm
  | cons item items ih => exact (each item).append ih

theorem forms_fixed : Forms fixedTokens Statement.fixed :=
  ((Forms.single (by decide) rfl).append (.single (by decide) rfl)).append
    (.single (by decide) rfl)

theorem forms_heading (v : PathView) (remark : Option String) :
    Forms (headingTokens v remark) (Statement.ofHeading v remark) :=
  (Forms.single (by simp) rfl).append (.single (by simp) rfl)

theorem forms_node (v : PathView) (node : FunctionId) :
    Forms (nodeTokens v node) [.ofNode v node] :=
  .single (by simp) rfl

theorem forms_edge (e : CallEdge) : Forms (edgeTokens e) [.ofEdge e] :=
  .single (by simp) rfl

end Forming

theorem read?_source (v : PathView) (remark : Option String) :
    read? (source v remark) = some ⟨.text "attack_path",
      Statement.fixed ++ Statement.ofHeading v remark ++ v.graph.nodes.map (.ofNode v) ++
        v.graph.edges.map .ofEdge⟩ := by
  have nodes : Forms (v.graph.nodes.flatMap (nodeTokens v)) (v.graph.nodes.map (.ofNode v)) :=
    .flatMap (forms_node v)
  have edges : Forms (v.graph.edges.flatMap edgeTokens) (v.graph.edges.map .ofEdge) :=
    .flatMap forms_edge
  have body := ((forms_fixed.append (forms_heading v remark)).append nodes).append edges
    [.sign '\x7d']
  have ends : statements? [] [.sign '\x7d'] = some [] := rfl
  have kind : lowered "digraph" = "digraph" := by decide
  have name : (Token.word "attack_path").ident? = some (.text "attack_path") := by decide
  rw [ends, Option.map_some, List.append_nil] at body
  rw [read?, tokens?_source, Option.bind_some, document?, if_pos kind, name, body]
  rfl

theorem filterMap_edge? (v : PathView) (remark : Option String) :
    (Statement.fixed ++ Statement.ofHeading v remark ++ v.graph.nodes.map (Statement.ofNode v) ++
      v.graph.edges.map Statement.ofEdge).filterMap Statement.edge? = v.graph.edges := by
  have nodes : (v.graph.nodes.map (Statement.ofNode v)).filterMap Statement.edge? = [] := by
    rw [List.filterMap_map]
    exact List.filterMap_eq_nil_iff.mpr fun _ _ => rfl
  have edges : (v.graph.edges.map Statement.ofEdge).filterMap Statement.edge? = v.graph.edges := by
    rw [List.filterMap_map]
    exact List.filterMap_some
  rw [List.filterMap_append, List.filterMap_append, nodes, edges]
  rfl

/-- Whatever a view and its remark hold, the document says what is drawn and nothing else: after
the fixed settings and one caption each node in the order of first appearance, under its own name,
then each edge in order, between its own ends and with its own label. Different edges give
different documents. -/
theorem source_read_back (v w : PathView) (remark other : Option String) :
    read? (source v remark) = some ⟨.text "attack_path",
      [.setting (.text "rankdir", .text "TB"),
        .defaults "node" [(.text "shape", .text "plain"), (.text "fontname", .text "Helvetica")],
        .defaults "edge" [(.text "fontname", .text "Helvetica"), (.text "fontsize", .text "10")],
        .setting (.text "labelloc", .text (side remark)),
        .setting (.text "label", .markup (String.ofList (caption v remark)))] ++
      v.graph.nodes.map (fun f => .node (.text f)
        [(.text "label", .markup (String.ofList (nodeTable f (v.annotations.get? f))))]) ++
      v.graph.edges.map (fun e => .edge (.text e.caller) (.text e.callee)
        [(.text "label", .text e.label)])⟩ ∧
    (v.graph.edges ≠ w.graph.edges → source v remark ≠ source w other) := by
  refine ⟨read?_source v remark, fun differ same => differ ?_⟩
  have read := read?_source v remark
  rw [same, read?_source w other] at read
  have statements := (Document.mk.inj (Option.some.inj read)).2
  rw [← filterMap_edge? v remark, ← statements, filterMap_edge?]

def marked : PathView where
  entry := "<a> \"&\\"
  sink := "b\n];"
  graph := ⟨[⟨"<a> \"&\\", "b\n];", "\\\" -> \x7d"⟩]⟩
  annotations := Annotations.set .empty "b\n];" .keyCodes "</TABLE>>];\n\x7d"

theorem source_read_back_marked :
    let bare : PathView := { marked with graph := ⟨[.calls "<a> \"&\\" "b\n];"]⟩ }
    (∃ caption a b, read? (source marked (some ">")) = some ⟨.text "attack_path",
      Statement.fixed ++ [.setting (.text "labelloc", .text "b"),
        .setting (.text "label", .markup caption),
        .node (.text "<a> \"&\\") [(.text "label", .markup a)],
        .node (.text "b\n];") [(.text "label", .markup b)],
        .edge (.text "<a> \"&\\") (.text "b\n];") [(.text "label", .text "\\\" -> \x7d")]]⟩) ∧
      marked.graph.edges ≠ bare.graph.edges ∧ source marked (some ">") ≠ source bare none := by
  intro bare
  have differ : marked.graph.edges ≠ bare.graph.edges := by decide
  obtain ⟨read, apart⟩ := source_read_back marked bare (some ">") none
  exact ⟨⟨_, _, _, read⟩, differ, apart differ⟩

end PathAudit.Dot
