import Playscript.Feature.Dialect
import Playscript.Reader
import Playscript.Text.Words

/-!
# Feature documents

What a feature file says, as far as it matters here: the title, the
scenarios with their steps, and the backgrounds whose steps come before
those of the scenarios they cover. Descriptions, tags, tables, quoted
documents and examples are read over; they must be well formed all the
same.

A line break is a line feed, with or without a carriage return before it.
Comments run from a `#` to the end of the line and are read over between
the parts of a document, and nowhere inside a line that has a part.
-/

namespace Playscript

/-- **A scenario as it is written.** -/
structure Scenario where
  /-- The name. -/
  name : String
  /-- The sentences of its steps, without the words they begin by. -/
  steps : List String
deriving Repr, DecidableEq

/-- **Scenarios that share a background.** -/
structure ScenarioGroup where
  /-- The steps of the background. -/
  background : Option (List String)
  /-- The scenarios. -/
  scenarios : List Scenario
deriving Repr, DecidableEq

/-- **What a feature file says.** -/
structure Document where
  /-- The title of the feature. -/
  title : String
  /-- The background of the feature and the scenarios outside its rules. -/
  main : ScenarioGroup
  /-- The rules, each with the background and the scenarios of its own. -/
  rules : List ScenarioGroup
deriving Repr, DecidableEq

namespace Document

open Reader

/-! ## Lines and blanks -/

/-- Whether a character is a blank within a line. -/
def isSpace (c : Char) : Bool :=
  c = ' ' || c = '\t'

/-- Blanks, if there are any. -/
def spaces : Reader Unit := do
  let _ ← run isSpace

/-- A line break. -/
def newline : Reader Unit
  | '\n' :: rest => .done () rest
  | '\r' :: '\n' :: rest => .done () rest
  | _ => .refused

/-- A text up to its first line break, and the rest. -/
def splitLine : List Char → List Char × List Char
  | [] => ([], [])
  | '\n' :: rest => ([], '\n' :: rest)
  | '\r' :: '\n' :: rest => ([], '\r' :: '\n' :: rest)
  | c :: rest =>
    let (line, rest) := splitLine rest
    (c :: line, rest)

/-- What is left of a line; there must be something. -/
def restOfLine : Reader String := fun input =>
  match splitLine input with
  | ([], _) => .refused
  | (line, rest) => .done (String.ofList line) rest

/-- A comment up to the end of its line. -/
def comment : Reader Unit := do
  spaces
  phrase "#"
  let _ ← optional restOfLine

/-- A line break, with a comment before it or not. -/
def lineBreak : Reader Unit := do
  let _ ← optional comment
  newline

/-- Line breaks, if there are any. -/
def lineBreaks : Reader Unit := do
  let _ ← many lineBreak

/-- Blanks, line breaks and comments, if there are any. -/
def gap : Reader Unit := do
  let _ ← many ((do let _ ← one isSpace) <|> lineBreak)

/-- The end of a line, with all that is blank behind it, or of the text. -/
def lineEnd : Reader Unit :=
  (do let _ ← someOf (lineBreak <|> do let _ ← one isSpace)) <|> ended

/-- Comments with the ends of their lines, if there are any. -/
def comments : Reader Unit := do
  let _ ← many (do comment; lineEnd)

/-- A word by which a part begins, and the comments before it. -/
def keyword (words : List String) : Reader Unit := do
  comments
  phraseOf words

/-- A word by which a part begins, with its colon. -/
def heading (words : List String) : Reader Unit := do
  keyword words
  phrase ":"
  spaces

/-- A text without the white space at its end. -/
def trimmed (text : String) : String :=
  String.ofList (Text.trimEnd Text.isBlank text.toList)

/-- What stands behind a heading, to the end of the line. -/
def name : Reader String := do
  let text ← optional restOfLine
  spaces
  lineEnd
  return trimmed (text.getD "")

/-! ## What is read over -/

/-- The line that names the language of a feature, and its dialect. A name
nobody knows makes the text wrong. -/
def language : Reader Dialect := do
  let _ ← many ((do let _ ← one isSpace) <|> newline)
  phrase "#"
  spaces
  phrase "language"
  spaces
  phrase ":"
  spaces
  let code ← restOfLine
  lineBreak
  match Dialect.named? code with
  | some dialect => return dialect
  | none => abort

/-- A quoted document between two fences. -/
def quotedBetween (fence : String) : Reader Unit := do
  phrase fence
  let _ ← many (do
    absent (phrase fence)
    lineBreak <|> do let _ ← one fun _ => true)
  phrase fence
  lineEnd

/-- A quoted document. -/
def quoted : Reader Unit :=
  quotedBetween "\"\"\"" <|> quotedBetween "```"

/-- The content of a cell up to the bar or the line break that ends it. -/
def splitCell : List Char → List Char
  | [] => []
  | '\n' :: rest => '\n' :: rest
  | '\r' :: '\n' :: rest => '\r' :: '\n' :: rest
  | '|' :: rest => '|' :: rest
  | _ :: rest => splitCell rest

/-- A cell of a table: a bar and the content behind it. The bar that ends a
row begins no cell. -/
def cell : Reader Unit := do
  phrase "|"
  spaces
  absent (newline <|> ended)
  fun input => .done () (splitCell input)

/-- A row of a table, as the number of its cells. -/
def row : Reader Nat := do
  let cells ← separated cell spaces
  spaces
  phrase "|"
  spaces
  lineEnd
  return cells.length

/-- A table. Rows may have more cells than the first one; fewer make the
text wrong. -/
def table : Reader Unit := do
  spaces
  let rows ← separated row spaces
  match rows with
  | [] => refuse
  | first :: others => if others.any (· < first) then abort else return ()

/-- A line of a description that none of the words ends. -/
def descriptionLine (words : List String) : Reader Unit := do
  spaces
  absent (phrase "@")
  absent (keyword words)
  spaces
  let _ ← restOfLine
  lineEnd

/-- A description up to one of the words. -/
def description (words : List String) : Reader Unit := do
  let _ ← separated (descriptionLine words) spaces
  gap

/-- A tag. -/
def tag : Reader Unit := do
  phrase "@"
  let _ ← someOf (one fun c => !Text.isBlank c && c != '@')

/-- Tags, if there are any. -/
def tags : Reader Unit := do
  let _ ← separated tag gap
  spaces
  lineBreaks

/-! ## Parts of a document -/

/-- A step that begins by one of the words. -/
def stepBy (words : List String) : Reader String := do
  keyword words
  spaces
  let text ← restOfLine
  lineEnd
  spaces
  let _ ← optional quoted
  let _ ← optional table
  return trimmed text

/-- **A step.** One that adds to another needs one before it; `follows`
tells whether there is, and the answer tells it for the next step. -/
def step (d : Dialect) (follows : Bool) : Reader (String × Bool) := do
  let text ← stepBy d.context <|> stepBy d.event <|> stepBy d.outcome
    <|> (if follows then stepBy d.conjunction <|> stepBy d.contrast else refuse)
  return (text, true)

/-- Steps, if there are any. -/
def steps (d : Dialect) : Reader (List String) :=
  manyBetween (step d) spaces false

/-- A background. -/
def background (d : Dialect) : Reader (List String) := do
  comments
  spaces
  heading d.background
  let _ ← name
  description d.afterScenario
  steps d

/-- Examples of a scenario. -/
def examples (d : Dialect) : Reader Unit := do
  comments
  spaces
  tags
  spaces
  heading d.examples
  let _ ← name
  description d.afterExamples
  let _ ← optional table

/-- A scenario that begins by one of the words. -/
def scenarioBy (d : Dialect) (words : List String) : Reader Scenario := do
  comments
  spaces
  tags
  spaces
  heading words
  let name ← name
  description d.afterScenario
  let steps ← steps d
  let _ ← many (examples d)
  return ⟨name, steps⟩

/-- **A scenario**, plain or with examples. -/
def scenario (d : Dialect) : Reader Scenario :=
  scenarioBy d d.scenario <|> scenarioBy d d.outline

/-- A background, if there is one, and the scenarios behind it. -/
def group (d : Dialect) : Reader ScenarioGroup := do
  let background ← optional (background d)
  lineBreaks
  spaces
  let scenarios ← separated (scenario d) spaces
  lineBreaks
  return ⟨background, scenarios⟩

/-- A rule. -/
def rule (d : Dialect) : Reader ScenarioGroup := do
  spaces
  tags
  spaces
  heading d.rule
  let _ ← name
  description d.afterRule
  group d

/-- **A document**, to the end of the text. -/
def document : Reader Document := do
  spaces
  let dialect := (← optional language).getD Dialect.english
  lineBreaks
  tags
  heading dialect.feature
  let title ← name
  description dialect.afterFeature
  let main ← group dialect
  spaces
  let rules ← separated (rule dialect) spaces
  lineBreaks
  ended
  return ⟨title, main, rules⟩

/-- A text with a line break at its end. -/
def ending (cs : List Char) : List Char :=
  if cs.getLast? = some '\n' then cs else cs ++ ['\n']

/-- **Reads a text as a document.** -/
def parse? (text : String) : Option Document :=
  match document (ending text.toList) with
  | .done document _ => some document
  | _ => none

end Document

end Playscript
