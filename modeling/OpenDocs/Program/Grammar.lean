import OpenDocs.Program.Pattern

/-!
# The grammar of Python programs

Every expression yields one tree. Of statements only classes, functions and assignments keep
what is in them.
-/

namespace OpenDocs.Program

inductive Rule where
  | file | statements | statement | simpleStatements | simpleStatement | compoundStatement
  | assignment | annotatedValue | augmented | importFrom | importAsName | dottedAsName | dottedName
  | block | decorators | classDef | functionDef
  | parameters | plain | plainWithDefault | plainMaybeDefault | starParameters | keywordParameters
  | lambdaParameters | lambdaPlain | lambdaWithDefault | lambdaMaybeDefault | lambdaStar
  | lambdaKeywords
  | ifRest | elseBlock | withItem | exceptBlock | exceptStarBlock | finallyBlock
  | matchStatement | subject | caseBlock | patterns | pattern | orPattern | closedPattern
  | literalPattern | captureTarget | dottedPattern | dottedOrName | groupPattern | sequencePattern
  | openSequence | maybeSequence | maybeStar | starPattern | mappingPattern | keyValue
  | doubleStarPattern | classPattern | keywordPattern
  | expressions | expression | yieldExpression | starExpressions | starExpression
  | starNamedExpressions | starNamedExpression | assignmentExpression | namedExpression
  | disjunction | conjunction | inversion | comparison | bitOr | bitXor | bitAnd | shift | sum
  | term | factor | power | awaitPrimary | primary | suffix | slices | slice | atom | group
  | lambda | strings | list | tuple | set | dict | pair | forClauses | forClause | listComprehension
  | setComprehension | generator | dictComprehension | arguments | args | kwargs | starredArgument
  | keywordOrStarred | keywordOrDouble | name
  | starTargets | starTarget | targetWithStarAtom | starAtom | singleTarget | placeTarget
  | targetPrimary | targetAhead | deleteTarget
  deriving DecidableEq, Hashable

namespace Rule

open Pattern

abbrev P := Pattern Rule

instance : Coe Rule P := ⟨.rule⟩

def commaList (p : P) : P := .seq [sep "," p, opt ","]

/-- A single item, or a tuple if there is a comma. -/
def maybeTuple (p : P) : P :=
  .alt [.node .tuple (.seq [p, many1 (.seq [",", p]), opt ","]), .node .tuple (.seq [p, ","]), p]

def leftAssociative (p : P) (operators : List String) : P :=
  .fold .other (.seq [p, .many (.seq [.alt (operators.map .word), p])])

def silentOther (p : P) : P := .node .other (.silent p)

def statementOf (p : P) : P := .node .statement (.silent p)

/-- The parameters before any star: those without a default come first, and a slash may follow
some of them. `close` ends the list. -/
def parameterList (plain withDefault star : P) (close : String) : P :=
  let slash : P := .alt [.seq ["/", ","], .seq ["/", .ahead (.word close)]]
  .alt [
    .seq [many1 plain, slash, .many plain, .many withDefault, opt star],
    .seq [.many plain, many1 withDefault, slash, .many withDefault, opt star],
    .seq [many1 plain, .many withDefault, opt star],
    .seq [many1 withDefault, opt star],
    star]

/-- A parameter ends in a comma, or before the end of the list. -/
def parameterEnd (close : String) : P := .alt [",", .ahead (.word close)]

def annotation : P := opt (.seq [":", expression])

def defaultValue : P := .seq ["=", expression]

def asName : P := opt (.seq ["as", name])

def pattern? : Rule → P
  | file => .seq [opt statements, .kind .last]
  | statements => many1 statement
  | statement => .alt [compoundStatement, simpleStatements]
  | simpleStatements => .alt [
      .seq [simpleStatement, .notAhead ";", .kind .newline],
      .seq [sep ";" simpleStatement, opt ";", .kind .newline]]
  | simpleStatement => .alt [
      assignment,
      statementOf starExpressions,
      statementOf (.seq ["return", opt starExpressions]),
      statementOf (.seq ["import", sep "," dottedAsName]),
      statementOf importFrom,
      statementOf (.seq ["raise", expression, opt (.seq ["from", expression])]),
      statementOf "raise",
      statementOf "pass",
      statementOf (.seq ["del", commaList deleteTarget, .ahead (.alt [";", .kind .newline])]),
      statementOf yieldExpression,
      statementOf (.seq ["assert", expression, opt (.seq [",", expression])]),
      statementOf "break",
      statementOf "continue",
      statementOf (.seq ["global", sep "," name]),
      statementOf (.seq ["nonlocal", sep "," name])]
  | compoundStatement => .alt [
      functionDef,
      statementOf (.seq ["if", ifRest]),
      classDef,
      statementOf (.seq [opt "async", "with",
        .alt [.seq ["(", commaList withItem, ")", ":", block],
          .seq [sep "," withItem, ":", block]]]),
      statementOf (.seq [opt "async", "for", starTargets, "in", starExpressions, ":", block,
        opt elseBlock]),
      statementOf (.seq ["try", ":", block, .alt [
        finallyBlock,
        .seq [many1 exceptBlock, opt elseBlock, opt finallyBlock],
        .seq [many1 exceptStarBlock, opt elseBlock, opt finallyBlock]]]),
      statementOf (.seq ["while", namedExpression, ":", block, opt elseBlock]),
      statementOf matchStatement]
  | assignment => .alt [
      .node .annotated (.seq [name, .silent (.seq [":", expression, opt annotatedValue])]),
      .node .annotated (.seq [.alt [.seq ["(", singleTarget, ")"], placeTarget],
        .silent (.seq [":", expression, opt annotatedValue])]),
      .node .assignment (.seq [many1 (.seq [starTargets, "="]),
        .silent (.seq [.alt [yieldExpression, starExpressions], .notAhead "="])]),
      statementOf (.seq [singleTarget, augmented, .alt [yieldExpression, starExpressions]])]
  | annotatedValue => .seq ["=", .alt [yieldExpression, starExpressions]]
  | augmented => .alt (["+=", "-=", "*=", "@=", "/=", "%=", "&=", "|=", "^=", "<<=", ">>=", "**=",
      "//="].map .word)
  | importFrom => .seq ["from",
      .alt [.seq [.many (.alt [".", "..."]), dottedName], many1 (.alt [".", "..."])], "import",
      .alt [.seq ["(", commaList importAsName, ")"],
        .seq [sep "," importAsName, .notAhead ","], "*"]]
  | importAsName => .seq [name, asName]
  | dottedAsName => .seq [dottedName, asName]
  | dottedName => sep "." name
  | block => .alt [.seq [.kind .newline, .kind .indent, statements, .kind .dedent],
      simpleStatements]
  | decorators => .node .decorators (many1 (.seq ["@", namedExpression, .kind .newline]))
  | classDef => .seq [opt (.silent decorators),
      .node .classDef (.seq ["class", name, .silent (opt (.seq ["(", opt arguments, ")"])), ":",
        block])]
  | functionDef =>
    let definition : P := .node .functionDef (.seq [opt "async", "def", name,
      .silent (.seq ["(", opt parameters, ")", opt (.seq ["->", expression])]), ":", block])
    .alt [.node .decorated (.seq [decorators, definition]), definition]
  | parameters => parameterList plain plainWithDefault starParameters ")"
  | plain => .seq [name, annotation, parameterEnd ")"]
  | plainWithDefault => .seq [name, annotation, defaultValue, parameterEnd ")"]
  | plainMaybeDefault => .seq [name, annotation, opt defaultValue, parameterEnd ")"]
  | starParameters => .alt [
      .seq ["*", plain, .many plainMaybeDefault, opt keywordParameters],
      .seq ["*", name, ":", starExpression, parameterEnd ")", .many plainMaybeDefault,
        opt keywordParameters],
      .seq ["*", ",", many1 plainMaybeDefault, opt keywordParameters],
      keywordParameters]
  | keywordParameters => .seq ["**", plain]
  | lambdaParameters => parameterList lambdaPlain lambdaWithDefault lambdaStar ":"
  | lambdaPlain => .seq [name, parameterEnd ":"]
  | lambdaWithDefault => .seq [name, defaultValue, parameterEnd ":"]
  | lambdaMaybeDefault => .seq [name, opt defaultValue, parameterEnd ":"]
  | lambdaStar => .alt [
      .seq ["*", lambdaPlain, .many lambdaMaybeDefault, opt lambdaKeywords],
      .seq ["*", ",", many1 lambdaMaybeDefault, opt lambdaKeywords],
      lambdaKeywords]
  | lambdaKeywords => .seq ["**", lambdaPlain]
  | ifRest => .seq [namedExpression, ":", block,
      opt (.alt [.seq ["elif", ifRest], elseBlock])]
  | elseBlock => .seq ["else", ":", block]
  | withItem => .alt [
      .seq [expression, "as", starTarget, .ahead (.alt [",", ")", ":"])],
      expression]
  | exceptBlock => .alt [
      .seq ["except", expression, asName, ":", block],
      .seq ["except", ":", block]]
  | exceptStarBlock => .seq ["except", "*", expression, asName, ":", block]
  | finallyBlock => .seq ["finally", ":", block]
  | matchStatement => .seq [.soft "match", subject, ":", .kind .newline, .kind .indent,
      many1 caseBlock, .kind .dedent]
  | subject => .alt [.seq [starNamedExpression, ",", opt starNamedExpressions], namedExpression]
  | caseBlock => .seq [.soft "case", patterns, opt (.seq ["if", namedExpression]), ":", block]
  | patterns => .alt [openSequence, pattern]
  | pattern => .alt [.seq [orPattern, "as", captureTarget], orPattern]
  | orPattern => sep "|" closedPattern
  | closedPattern => .alt [literalPattern, captureTarget, .soft "_",
      .seq [dottedPattern, .notAhead (.alt [".", "(", "="])], groupPattern, sequencePattern,
      mappingPattern, classPattern]
  | literalPattern => .alt [
      .seq [opt "-", .kind .number, .notAhead (.alt ["+", "-"])],
      .seq [opt "-", .imaginary false, .alt ["+", "-"], .imaginary true],
      strings, "None", "True", "False"]
  | captureTarget => .seq [.notAhead (.soft "_"), name, .notAhead (.alt [".", "(", "="])]
  | dottedPattern => .seq [name, many1 (.seq [".", name])]
  | dottedOrName => sep "." name
  | groupPattern => .seq ["(", pattern, ")"]
  | sequencePattern => .alt [.seq ["[", opt maybeSequence, "]"], .seq ["(", opt openSequence, ")"]]
  | openSequence => .seq [maybeStar, ",", opt maybeSequence]
  | maybeSequence => commaList maybeStar
  | maybeStar => .alt [starPattern, pattern]
  | starPattern => .seq ["*", .alt [captureTarget, .soft "_"]]
  | mappingPattern => .alt [
      .seq [.word "\x7b", .word "\x7d"],
      .seq [.word "\x7b", doubleStarPattern, opt ",", .word "\x7d"],
      .seq [.word "\x7b", sep "," keyValue, ",", doubleStarPattern, opt ",", .word "\x7d"],
      .seq [.word "\x7b", commaList keyValue, .word "\x7d"]]
  | keyValue => .seq [.alt [literalPattern, dottedPattern], ":", pattern]
  | doubleStarPattern => .seq ["**", captureTarget]
  | classPattern => .alt [
      .seq [dottedOrName, "(", ")"],
      .seq [dottedOrName, "(", commaList pattern, ")"],
      .seq [dottedOrName, "(", commaList keywordPattern, ")"],
      .seq [dottedOrName, "(", sep "," pattern, ",", commaList keywordPattern, ")"]]
  | keywordPattern => .seq [name, "=", pattern]
  | expressions => maybeTuple expression
  | expression => .alt [
      .fold .other (.seq [disjunction, "if", disjunction, "else", expression]),
      disjunction,
      lambda]
  | yieldExpression => silentOther (.alt [
      .seq ["yield", "from", expression],
      .seq ["yield", opt starExpressions]])
  | starExpressions => maybeTuple starExpression
  | starExpression => .alt [.node .starred (.seq ["*", bitOr]), expression]
  | starNamedExpressions => commaList starNamedExpression
  | starNamedExpression => .alt [.node .starred (.seq ["*", bitOr]), namedExpression]
  | assignmentExpression => silentOther (.seq [name, ":=", expression])
  | namedExpression => .alt [assignmentExpression, .seq [expression, .notAhead ":="]]
  | disjunction => leftAssociative conjunction ["or"]
  | conjunction => leftAssociative inversion ["and"]
  | inversion => .alt [silentOther (.seq ["not", inversion]), comparison]
  | comparison => .fold .other (.seq [bitOr, .many (.seq [
      .alt ["==", "!=", "<=", "<", ">=", ">", .seq ["not", "in"], "in", .seq ["is", "not"], "is"],
      bitOr])])
  | bitOr => leftAssociative bitXor ["|"]
  | bitXor => leftAssociative bitAnd ["^"]
  | bitAnd => leftAssociative shift ["&"]
  | shift => leftAssociative sum ["<<", ">>"]
  | sum => leftAssociative term ["+", "-"]
  | term => leftAssociative factor ["*", "/", "//", "%", "@"]
  | factor => .alt [silentOther (.seq [.alt ["+", "-", "~"], factor]), power]
  | power => .fold .other (.seq [awaitPrimary, opt (.seq ["**", factor])])
  | awaitPrimary => .alt [silentOther (.seq ["await", primary]), primary]
  | primary => .fold .primary (.seq [atom, .many suffix])
  | suffix => .alt [
      .node .attribute (.seq [".", name]),
      .node .call (.silent generator),
      .node .call (.silent (.seq ["(", opt arguments, ")"])),
      .node .subscript (.silent (.seq ["[", slices, "]"]))]
  | slices => .alt [.seq [slice, .notAhead ","], commaList (.alt [slice, starredArgument])]
  | slice => .alt [
      .seq [opt expression, ":", opt expression, opt (.seq [":", opt expression])],
      namedExpression]
  | atom => .alt [name, silentOther (.alt ["True", "False", "None", strings, .kind .number]),
      tuple, group, silentOther generator, list,
      silentOther (.alt [listComprehension, dict, set, dictComprehension, setComprehension, "..."])]
  | group => .seq ["(", .alt [yieldExpression, namedExpression], ")"]
  | lambda => silentOther (.seq ["lambda", opt lambdaParameters, ":", expression])
  | strings => many1 (.kind .string)
  | list => .node .list (.seq ["[", opt starNamedExpressions, "]"])
  | tuple => .node .tuple (.seq ["(",
      opt (.seq [starNamedExpression, ",", opt starNamedExpressions]), ")"])
  | set => .seq [.word "\x7b", starNamedExpressions, .word "\x7d"]
  | dict => .seq [.word "\x7b", opt (commaList (.alt [.seq ["**", bitOr], pair])), .word "\x7d"]
  | pair => .seq [expression, ":", expression]
  | forClauses => many1 forClause
  | forClause => .seq [opt "async", "for", starTargets, "in", disjunction,
      .many (.seq ["if", disjunction])]
  | listComprehension => .seq ["[", namedExpression, forClauses, "]"]
  | setComprehension => .seq [.word "\x7b", namedExpression, forClauses, .word "\x7d"]
  | generator => .seq ["(", .alt [assignmentExpression, .seq [expression, .notAhead ":="]],
      forClauses, ")"]
  | dictComprehension => .seq [.word "\x7b", pair, forClauses, .word "\x7d"]
  | arguments => .seq [args, opt ",", .ahead ")"]
  | args => .alt [
      .seq [sep "," (.alt [starredArgument,
          .seq [.alt [assignmentExpression, .seq [expression, .notAhead ":="]], .notAhead "="]]),
        opt (.seq [",", kwargs])],
      kwargs]
  | kwargs => .alt [
      .seq [sep "," keywordOrStarred, ",", sep "," keywordOrDouble],
      sep "," keywordOrStarred,
      sep "," keywordOrDouble]
  | starredArgument => .seq ["*", expression]
  | keywordOrStarred => .alt [.seq [name, "=", expression], starredArgument]
  | keywordOrDouble => .alt [.seq [name, "=", expression], .seq ["**", expression]]
  | name => .node .identifier (.kind .name)
  | starTargets => .alt [
      .seq [starTarget, .notAhead ","],
      .node .tuple (commaList starTarget)]
  | starTarget => .alt [
      .node .starred (.seq ["*", .notAhead "*", starTarget]),
      targetWithStarAtom]
  | targetWithStarAtom => .alt [placeTarget, starAtom]
  | starAtom => .alt [
      name,
      .seq ["(", targetWithStarAtom, ")"],
      .node .tuple (.seq ["(", opt (.alt [
        .seq [starTarget, many1 (.seq [",", starTarget]), opt ","], .seq [starTarget, ","]]), ")"]),
      .node .list (.seq ["[", opt (commaList starTarget), "]"])]
  | singleTarget => .alt [placeTarget, name, .seq ["(", singleTarget, ")"]]
  | placeTarget => .node .primary (.seq [targetPrimary, .alt [
      .node .attribute (.seq [".", name]),
      .node .subscript (.silent (.seq ["[", slices, "]"]))], .notAhead targetAhead])
  | targetPrimary => .seq [atom, .ahead targetAhead, .many (.seq [suffix, .ahead targetAhead])]
  | targetAhead => .alt ["(", "[", "."]
  | deleteTarget => .alt [placeTarget, name, .seq ["(", deleteTarget, ")"],
      .seq ["(", opt (commaList deleteTarget), ")"],
      .seq ["[", opt (commaList deleteTarget), "]"]]

end Rule

end OpenDocs.Program
