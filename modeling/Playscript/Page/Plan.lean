import Playscript.Clue
import Playscript.Naming
import Playscript.Script.Fresh
import Playscript.StepMap.Basic

/-!
# What a page object consists of

Before anything is written, a step map becomes a plan: the name of the
class, the path it opens, an accessor per selector name and a method per
scenario. Selector names come in the order in which the steps first use
them and all of them before the scenarios, so what is added behind a map
takes no name away from what was there.

Accessors and methods draw their identifiers from one supply, which the
members of the base class have used already; so no two of them share a
name and none hides a member it inherits.
-/

namespace Playscript.Page

open Script (Identifier)

/-- **The members that every page object has from its base class.** -/
def baseMembers : List String := ["constructor", "page", "open", "getLocatorChain"]

/-- **An accessor**: a selector name, the identifier of the getter for it,
and the locators it tries. -/
structure Accessor where
  /-- The selector name. -/
  selectorName : String
  /-- The identifier of the getter. -/
  name : Identifier
  /-- The locators in the order of trial. -/
  locators : List String
deriving Repr, DecidableEq

/-- **A method**: the identifier for a scenario, and its steps. -/
structure Method where
  /-- The identifier. -/
  name : Identifier
  /-- The steps in order. -/
  steps : List Step
deriving Repr, DecidableEq

/-- **What the page object and the test script of a feature are written
from.** -/
structure Plan where
  /-- The name of the class. -/
  className : String
  /-- The path that is opened when none is given. -/
  defaultPath : String
  /-- The accessors in order. -/
  accessors : List Accessor
  /-- The methods in order. -/
  methods : List Method
deriving Repr, DecidableEq

/-- The name of the page object class of a feature. -/
def classNameOf (base : String) : String :=
  (Identifier.legalize (Naming.capitalize base ++ "Page")).text

/-- What tells that the argument of a step is a place to go to, to be
matched without regard to case. -/
def navigation : Rule Unit :=
  ⟨[.phrase ["navigate", "go to", "open"]], ()⟩

/-- Whether a text speaks of a place to go to. -/
def isNavigation (text : String) : Bool :=
  navigation.recognises Edge.anywhere (text.toList.map foldAscii)

/-- **The path a page object opens by default**: the leading noun of the
first argument that speaks of a place to go to and has one, and the name
of the feature when there is none. -/
def defaultPathOf (nouns : NounFinder) (base : String) (map : StepMap) : String :=
  let arguments := (map.steps.map Step.argumentText).filter isNavigation
  match arguments.findSome? fun argument => (nouns argument).head? with
  | some noun => Naming.slug noun
  | none => Naming.slug base

/-- The first step for each selector name, in order. -/
def firstSteps : List String → List Step → List Step
  | _, [] => []
  | seen, step :: rest =>
    if seen.contains step.selectorName then firstSteps seen rest
    else step :: firstSteps (step.selectorName :: seen) rest

/-- The accessors for the first steps of their selector names, and the
names in use after them. -/
def accessorsFor (used : List String) (steps : List Step) : List Accessor × List String :=
  let (names, used) := Identifier.freshAll used (steps.map (·.selectorName))
  ((steps.zip names).map fun (step, name) => ⟨step.selectorName, name, step.candidates⟩, used)

/-- The methods for scenarios. -/
def methodsFor (nouns : NounFinder) (used : List String)
    (scenarios : List (String × List Step)) : List Method :=
  let (names, _) := Identifier.freshAll used (scenarios.map fun s => Naming.shortName nouns s.1)
  (scenarios.zip names).map fun (scenario, name) => ⟨name, scenario.2⟩

/-- **The plan of a page object.** -/
def Plan.of (nouns : NounFinder) (base : String) (map : StepMap) : Plan :=
  let (accessors, used) := accessorsFor baseMembers (firstSteps [] map.steps)
  { className := classNameOf base
    defaultPath := defaultPathOf nouns base map
    accessors
    methods := methodsFor nouns used map.scenarios }

/-- The identifier of the getter for a selector name. Every selector name
of the map a plan was made for has an accessor; any other is mended. -/
def Plan.accessor (plan : Plan) (selectorName : String) : Identifier :=
  match plan.accessors.find? (·.selectorName = selectorName) with
  | some accessor => accessor.name
  | none => Identifier.legalize selectorName

end Playscript.Page
