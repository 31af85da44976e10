import PathAudit.ModuleCode.Phrase

/-! The grammar of Python source. It takes every statement of the language and some that the
language has given up, asks less of clauses and targets than the language does, and leaves it to the
ranks which of several readings of an expression is meant. -/
namespace PathAudit.ModuleCode

inductive Rule where
  | module
  | statement
  | line
  | importing
  | leadingStops
  | relativeSource
  | futureImport
  | importingFrom
  | importList
  | renamedImport
  | everything
  | printing
  | printTarget
  | asserting
  | evaluating
  | namedExpression
  | newName
  | returning
  | deleting
  | raising
  | passing
  | breaking
  | continuing
  | choosing
  | elseIf
  | otherwise
  | matching
  | matchBlock
  | caseClause
  | iterating
  | looping
  | trying
  | exceptClause
  | finallyClause
  | entering
  | contexts
  | context
  | functionDefinition
  | parameters
  | lambdaParameters
  | spreadValues
  | spreadMembers
  | globalNames
  | outerNames
  | executing
  | typeAlias
  | classDefinition
  | typeParameters
  | wrappedSpread
  | arguments
  | decorated
  | decorator
  | block
  | expressionList
  | dottedName
  | casePattern
  | simpleCase
  | boundCase
  | caseUnion
  | caseList
  | caseTuple
  | caseMembers
  | caseMember
  | caseKeyword
  | caseRest
  | caseClass
  | caseComplex
  | parameterList
  | targetList
  | parameter
  | target
  | targetTuple
  | targetBrackets
  | defaultParameter
  | typedDefaultParameter
  | restTarget
  | restMembersTarget
  | boundExpression
  | expressionInClause
  | expression
  | primary
  | ellipsis
  | negation
  | connection
  | operation
  | sign
  | notIn
  | isNot
  | comparison
  | lambda
  | lambdaInClause
  | assignment
  | updating
  | targets
  | rightSide
  | yielding
  | member
  | subscript
  | slice
  | call
  | typedParameter
  | type
  | spreadType
  | genericType
  | unionType
  | boundedType
  | memberType
  | keywordArgument
  | listDisplay
  | setDisplay
  | tupleDisplay
  | dictionary
  | pair
  | listComprehension
  | dictionaryComprehension
  | setComprehension
  | generator
  | comprehensionClauses
  | bracketed
  | elements
  | forClause
  | ifClause
  | conditional
  | adjacentTexts
  | text
  | textContent
  | interpolation
  | interpolated
  | valueLayout
  | awaiting
  | positionalMarker
  | keywordMarker
  deriving DecidableEq, Repr, Inhabited

namespace Rule

def number (r : Rule) : Nat := r.ctorIdx

end Rule

namespace Grammar

open Phrase

abbrev Piece := Phrase Rule

/-- The ranks of operators, from the loosest to the tightest. -/
inductive Tier where
  | disjunction
  | conjunction
  | negation
  | comparison
  | union
  | intersection
  | difference
  | shift
  | sum
  | product
  | sign
  | power
  | access
  deriving DecidableEq, Repr

def Tier.rank (t : Tier) : Int := 10 + t.ctorIdx

def ref (r : Rule) : Piece := .rule r

def name : Piece := .token .name

/-- Words that are also names, though a statement that they start comes first. -/
def nameWord : Piece :=
  .either (ranked (-3) (anyWord ["print", "exec", "async", "await"])) (anyWord ["type", "match"])

def anyName : Piece := .either name nameWord

def expression : Piece := ref .expression

def primary : Piece := ref .primary

def expressions : Piece := .either expression (ref .expressionList)

def leftSide : Piece := .either (ref .target) (ref .targets)

def simpleStatement : Piece :=
  any ([.futureImport, .importing, .importingFrom, .printing, .asserting, .evaluating, .returning,
    .deleting, .raising, .passing, .breaking, .continuing, .globalNames, .outerNames, .executing,
    .typeAlias].map ref)

def compoundStatement : Piece :=
  any ([.choosing, .iterating, .looping, .trying, .entering, .functionDefinition, .classDefinition,
    .decorated, .matching].map ref)

/-- What belongs to the head of a compound statement. A line without a block is an empty one. -/
def suite : Piece :=
  any [ref .line, .pair (.token .indent) (ref .block), .token .newline]

def body : Piece := .pair (mark ":") suite

def importNames : Piece := .either (ref .importList) (between "(" ")" (ref .importList))

def operator (tier : Tier) (text : String) : Piece :=
  leftward tier.rank (all [primary, mark text, primary])

def comparing : Piece :=
  any [anyMark ["<", "<=", "==", "!=", ">=", ">", "<>"], word "in", ref .notIn, word "is",
    ref .isNot]

def caseItems : Piece := opt (list (ref .casePattern))

def place : Piece := any [name, nameWord, ref .subscript, ref .member]

def numeral : Piece := .token .number

def furtherItems (p : Piece) : Piece :=
  .either (mark ",") (.pair (.many (.pair (mark ",") p)) (opt (mark ",")))

def phrase : Rule → Piece
  | .module => repeated (ref .statement)
  | .statement => .either (ref .line) compoundStatement
  | .line => all [divided ";" simpleStatement, opt (mark ";"), .token .newline]
  | .importing => .pair (word "import") (ref .importList)
  | .leadingStops => .many (mark ".")
  | .relativeSource => .pair (ref .leadingStops) (opt (ref .dottedName))
  | .futureImport => all [word "from", word "__future__", word "import", importNames]
  | .importingFrom =>
    all [word "from", .either (ref .relativeSource) (ref .dottedName), word "import",
      .either (ref .everything) importNames]
  | .importList => list (.either (ref .dottedName) (ref .renamedImport))
  | .renamedImport => all [ref .dottedName, word "as", name]
  | .everything => mark "*"
  | .printing =>
    .either
      (ranked 1 (all [word "print", ref .printTarget, repeated (.pair (mark ",") expression),
        opt (mark ",")]))
      (ranked (-3) (.weighing (-1) (.pair (word "print") (list expression))))
  | .printTarget => .pair (mark ">>") expression
  | .asserting => .pair (word "assert") (series expression)
  | .evaluating =>
    any [expression, list expression, ref .assignment, ref .updating, ref .yielding]
  | .namedExpression => all [ref .newName, mark ":=", expression]
  | .newName => anyName
  | .returning => .pair (word "return") (opt expressions)
  | .deleting => .pair (word "del") expressions
  | .raising =>
    all [word "raise", opt expressions, opt (.pair (word "from") expression)]
  | .passing => leftward 0 (word "pass")
  | .breaking => leftward 0 (word "break")
  | .continuing => leftward 0 (word "continue")
  | .choosing =>
    all [word "if", expression, body, repeated (ref .elseIf), opt (ref .otherwise)]
  | .elseIf => all [word "elif", expression, body]
  | .otherwise => .pair (word "else") body
  | .matching => all [word "match", list expression, mark ":", ref .matchBlock]
  | .matchBlock =>
    .either (all [.token .indent, repeated (ref .caseClause), .token .dedent]) (.token .newline)
  | .caseClause => all [word "case", list (ref .casePattern), opt (ref .ifClause), body]
  | .iterating =>
    all [opt (word "async"), word "for", leftSide, word "in", expressions, body,
      opt (ref .otherwise)]
  | .looping => all [word "while", expression, body, opt (ref .otherwise)]
  | .trying =>
    all [word "try", body, repeated (ref .exceptClause), opt (ref .otherwise),
      opt (ref .finallyClause)]
  | .exceptClause => all [word "except", opt (mark "*"), opt (series expression), body]
  | .finallyClause => .pair (word "finally") body
  | .entering => all [opt (word "async"), word "with", ref .contexts, body]
  | .contexts => .either (list (ref .context)) (between "(" ")" (list (ref .context)))
  | .context => .weighing 1 expression
  | .functionDefinition =>
    all [opt (word "async"), word "def", name, opt (ref .typeParameters), ref .parameters,
      opt (.pair (mark "->") (ref .type)), body]
  | .parameters => between "(" ")" (opt (ref .parameterList))
  | .lambdaParameters => ref .parameterList
  | .spreadValues => .pair (mark "*") expression
  | .spreadMembers => .pair (mark "**") expression
  | .globalNames => .pair (word "global") (series name)
  | .outerNames => .pair (word "nonlocal") (series name)
  | .executing =>
    all [word "exec", .either (ref .text) name, opt (.pair (word "in") (series expression))]
  | .typeAlias => .weighing 1 (all [word "type", ref .type, mark "=", ref .type])
  | .classDefinition =>
    all [word "class", name, opt (ref .typeParameters), opt (ref .arguments), body]
  | .typeParameters => between "[" "]" (list (ref .type))
  | .wrappedSpread =>
    ranked 1 (between "(" ")" (.either (ref .wrappedSpread) (ref .spreadValues)))
  | .arguments =>
    between "(" ")"
      (.pair
        (opt (series (any [expression, ref .spreadValues, ref .spreadMembers, ref .wrappedSpread,
          ref .keywordArgument])))
        (opt (mark ",")))
  | .decorated =>
    .pair (.many (ref .decorator)) (.either (ref .classDefinition) (ref .functionDefinition))
  | .decorator => all [mark "@", expression, .token .newline]
  | .block => .pair (repeated (ref .statement)) (.token .dedent)
  | .expressionList => rightward 0 (.pair expression (furtherItems expression))
  | .dottedName => ranked 1 (divided "." name)
  | .casePattern => ranked 1 (any [ref .boundCase, ref .caseKeyword, ref .simpleCase])
  | .simpleCase =>
    ranked 1 (any [ref .caseClass, ref .caseRest, ref .caseUnion, ref .caseList, ref .caseTuple,
      ref .caseMembers, ref .text, ref .adjacentTexts, anyWord ["True", "False", "None"],
      .pair (opt (mark "-")) numeral, ref .caseComplex, ref .dottedName, word "_"])
  | .boundCase => all [ref .casePattern, word "as", name]
  | .caseUnion =>
    rightward 0 (.pair (ref .simpleCase)
      (.many (leftward 0 (.pair (mark "|") (ref .simpleCase)))))
  | .caseList => between "[" "]" caseItems
  | .caseTuple => between "(" ")" caseItems
  | .caseMembers =>
    between "\x7b" "\x7d" (opt (list (.either (ref .caseMember) (ref .caseRest))))
  | .caseMember => all [ref .simpleCase, mark ":", ref .casePattern]
  | .caseKeyword => all [name, mark "=", ref .simpleCase]
  | .caseRest => ranked 1 (.pair (anyMark ["*", "**"]) (.either name (word "_")))
  | .caseClass => .pair (ref .dottedName) (between "(" ")" caseItems)
  | .caseComplex =>
    ranked 1 (all [opt (mark "-"), numeral, anyMark ["+", "-"], numeral])
  | .parameterList => list (ref .parameter)
  | .targetList => list (ref .target)
  | .parameter =>
    any (name :: ([.typedParameter, .defaultParameter, .typedDefaultParameter, .restTarget,
      .targetTuple, .keywordMarker, .positionalMarker, .restMembersTarget].map ref))
  | .target =>
    any [name, nameWord, ref .subscript, ref .member, ref .restTarget, ref .targetTuple,
      ref .targetBrackets]
  | .targetTuple => between "(" ")" (opt (ref .targetList))
  | .targetBrackets => between "[" "]" (opt (ref .targetList))
  | .defaultParameter => all [.either name (ref .targetTuple), mark "=", expression]
  | .typedDefaultParameter =>
    ranked (-1) (all [name, mark ":", ref .type, mark "=", expression])
  | .restTarget => .pair (mark "*") place
  | .restMembersTarget => .pair (mark "**") place
  | .boundExpression => leftward 0 (all [expression, word "as", expression])
  | .expressionInClause => .either expression (ref .lambdaInClause)
  | .expression =>
    any ([.comparison, .negation, .connection, .lambda, .primary, .conditional, .namedExpression,
      .boundExpression].map ref)
  | .primary =>
    any [ref .awaiting, ref .operation, name, nameWord, ref .text, ref .adjacentTexts, numeral,
      anyWord ["True", "False", "None"], ref .sign, ref .member, ref .subscript, ref .call,
      ref .listDisplay, ref .listComprehension, ref .dictionary, ref .dictionaryComprehension,
      ref .setDisplay, ref .setComprehension, ref .tupleDisplay, ref .bracketed, ref .generator,
      ref .ellipsis, ref .restTarget]
  | .ellipsis => mark "..."
  | .negation => ranked Tier.negation.rank (.pair (word "not") expression)
  | .connection =>
    .either (leftward Tier.conjunction.rank (all [expression, word "and", expression]))
      (leftward Tier.disjunction.rank (all [expression, word "or", expression]))
  | .operation =>
    any [operator .sum "+", operator .sum "-", operator .product "*", operator .product "@",
      operator .product "/", operator .product "%", operator .product "//",
      rightward Tier.power.rank (all [primary, mark "**", primary]), operator .union "|",
      operator .intersection "&", operator .difference "^", operator .shift "<<",
      operator .shift ">>"]
  | .sign => ranked Tier.sign.rank (.pair (anyMark ["+", "-", "~"]) primary)
  | .notIn => .pair (word "not") (word "in")
  | .isNot => .pair (word "is") (word "not")
  | .comparison =>
    leftward Tier.comparison.rank (.pair primary (.many (.pair comparing primary)))
  | .lambda =>
    ranked (-2) (all [word "lambda", opt (ref .lambdaParameters), mark ":", expression])
  | .lambdaInClause =>
    all [word "lambda", opt (ref .lambdaParameters), mark ":", ref .expressionInClause]
  | .assignment =>
    .pair leftSide
      (any [.pair (mark "=") (ref .rightSide), .pair (mark ":") (ref .type),
        all [mark ":", ref .type, mark "=", ref .rightSide]])
  | .updating =>
    all [leftSide,
      anyMark ["+=", "-=", "*=", "/=", "@=", "//=", "%=", "**=", ">>=", "<<=", "&=", "^=", "|="],
      ref .rightSide]
  | .targets => .pair (ref .target) (furtherItems (ref .target))
  | .rightSide =>
    any [expression, ref .expressionList, ref .assignment, ref .updating, ref .targets,
      ref .yielding]
  | .yielding =>
    rightward 0 (.pair (word "yield") (.either (.pair (word "from") expression) (opt expressions)))
  | .member => ranked Tier.access.rank (all [primary, mark ".", name])
  | .subscript =>
    ranked Tier.access.rank
      (.pair primary (between "[" "]" (list (.either expression (ref .slice)))))
  | .slice =>
    all [opt expression, mark ":", opt expression, opt (.pair (mark ":") (opt expression))]
  | .call =>
    ranked Tier.access.rank (.pair primary (.either (ref .generator) (ref .arguments)))
  | .typedParameter =>
    ranked (-1) (all [any [name, ref .restTarget, ref .restMembersTarget], mark ":", ref .type])
  | .type =>
    any [ranked 1 expression, ref .spreadType, ref .genericType, ref .unionType, ref .boundedType,
      ref .memberType]
  | .spreadType => ranked 1 (.pair (anyMark ["*", "**"]) name)
  | .genericType => ranked 1 (.pair (.either name (word "type")) (ref .typeParameters))
  | .unionType => leftward 0 (all [ref .type, mark "|", ref .type])
  | .boundedType => rightward 0 (all [ref .type, mark ":", ref .type])
  | .memberType => all [ref .type, mark ".", name]
  | .keywordArgument => all [anyName, mark "=", expression]
  | .listDisplay => between "[" "]" (opt (ref .elements))
  | .setDisplay => between "\x7b" "\x7d" (ref .elements)
  | .tupleDisplay => between "(" ")" (opt (ref .elements))
  | .dictionary =>
    between "\x7b" "\x7d"
      (.pair (opt (series (.either (ref .pair) (ref .spreadMembers)))) (opt (mark ",")))
  | .pair => all [expression, mark ":", expression]
  | .listComprehension => between "[" "]" (.pair expression (ref .comprehensionClauses))
  | .dictionaryComprehension =>
    between "\x7b" "\x7d" (.pair (ref .pair) (ref .comprehensionClauses))
  | .setComprehension => between "\x7b" "\x7d" (.pair expression (ref .comprehensionClauses))
  | .generator => between "(" ")" (.pair expression (ref .comprehensionClauses))
  | .comprehensionClauses =>
    .pair (ref .forClause) (repeated (.either (ref .forClause) (ref .ifClause)))
  | .bracketed => ranked 1 (between "(" ")" (.either expression (ref .yielding)))
  | .elements =>
    list (any [expression, ref .yielding, ref .spreadValues, ref .wrappedSpread])
  | .forClause =>
    leftward 0 (all [opt (word "async"), word "for", leftSide, word "in",
      list (ref .expressionInClause)])
  | .ifClause => .pair (word "if") expression
  | .conditional =>
    rightward (-1) (all [expression, word "if", expression, word "else", expression])
  | .adjacentTexts => .pair (ref .text) (.many (ref .text))
  | .text =>
    all [.token .quoteStart, repeated (.either (ref .interpolation) (ref .textContent)),
      .token .quoteEnd]
  | .textContent =>
    rightward 0 (.many (any [.token .doubledBrace, .token .escape, .token .backslash,
      .token .quoteText]))
  | .interpolation =>
    between "\x7b" "\x7d"
      (all [ref .interpolated, opt (mark "="), opt (.token .conversion), opt (ref .valueLayout)])
  | .interpolated => any [expression, ref .expressionList, ref .targets, ref .yielding]
  | .valueLayout =>
    .pair (mark ":") (repeated (.either (.token .layout) (ref .interpolation)))
  | .awaiting => ranked Tier.sign.rank (.pair (word "await") primary)
  | .positionalMarker => mark "/"
  | .keywordMarker => mark "*"

def rules : List Rule := (List.range (Rule.keywordMarker.number + 1)).map Rule.ofNat

def productions : Array Production := (Production.ofRules Rule.number (rules.map phrase)).toArray

end Grammar

end PathAudit.ModuleCode
