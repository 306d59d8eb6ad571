import Playscript.Json.Text
import Playscript.StepMap.Basic

/-!
# Writing step maps

The written form of a step map: two spaces of indentation per level, one
member of a step per line, the fallbacks of a step on one line. A missing
argument is written as an empty note.
-/

namespace Playscript

namespace Step

/-- Texts as JSON strings with a comma and a blank between them. -/
def writeTexts : List String → List Char
  | [] => []
  | [text] => Json.quote text
  | text :: rest => Json.quote text ++ ", ".toList ++ writeTexts rest

/-- The fallbacks of a step on one line. -/
def writeFallbacks : List String → List Char
  | [] => "[]".toList
  | texts => "[ ".toList ++ writeTexts texts ++ " ]".toList

/-- **A step as it is written**, its last line not ended. -/
def write (step : Step) : List Char :=
  "    \x7b\n      \"action\": ".toList ++ Json.quote step.action.name
    ++ ",\n      \"selectorName\": ".toList ++ Json.quote step.selectorName
    ++ ",\n      \"selector\": ".toList ++ Json.quote step.selector
    ++ ",\n      \"fallbackSelector\": ".toList ++ writeFallbacks step.fallbacks
    ++ ",\n      \"note\": ".toList ++ Json.quote step.argumentText
    ++ "\n    \x7d".toList

/-- Steps as they are written, a comma behind each but the last. -/
def writeAll : List Step → List Char
  | [] => []
  | [step] => step.write ++ ['\n']
  | step :: rest => step.write ++ ",\n".toList ++ writeAll rest

end Step

namespace StepMap

/-- The steps of a scenario as they are written. -/
def writeSteps : List Step → List Char
  | [] => "[]".toList
  | steps => "[\n".toList ++ Step.writeAll steps ++ "  ]".toList

/-- Scenarios as they are written, a comma behind each but the last. -/
def writeScenarios : List (String × List Step) → List Char
  | [] => []
  | [(name, steps)] => "  ".toList ++ Json.quote name ++ ": ".toList ++ writeSteps steps ++ ['\n']
  | (name, steps) :: rest =>
    "  ".toList ++ Json.quote name ++ ": ".toList ++ writeSteps steps ++ ",\n".toList
      ++ writeScenarios rest

/-- The characters of the written form. -/
def writeChars : List (String × List Step) → List Char
  | [] => "\x7b\x7d\n".toList
  | scenarios => "\x7b\n".toList ++ writeScenarios scenarios ++ "\x7d\n".toList

/-- **A step map as it is written.** -/
def write (map : StepMap) : String :=
  String.ofList (writeChars map.scenarios)

end StepMap

end Playscript
