import TextTemplate.Config
import TextTemplate.Library.Chance
import TextTemplate.Library.Clock
import TextTemplate.Library.Counting
import TextTemplate.Library.FileLines
import TextTemplate.Library.Letters
import TextTemplate.Library.Samples
import TextTemplate.Library.Surroundings

/-!
# Library

The routines that come with the library, and the registries made of them. Their keys start with
two underscores, so that they do not meet the names of variables.
-/

namespace TextTemplate.Library

/-- All routines of the library. -/
def routines : List Routine :=
  [counter, random, randomString, uuid, time, intSum, changeCase, urlEncode, urlDecode, char,
    variableValue, logMessage, threadNumber, stringFromFile]

/-- The routine of the library that a key calls. -/
def routine? (key : String) : Option Routine := routines.find? (·.name = key)

/-- The changes that make a registry with the routines of the library. -/
def routineChanges : List Registry.Change := routines.map .register

/-- The changes that make the standard registry: the routines of the library and the default
aliases. -/
def standardChanges : List Registry.Change :=
  routineChanges ++ RegistryConfig.changes {}

/-- The changes that make the standard registry with the samples added. -/
def sampleChanges : List Registry.Change := standardChanges ++ Samples.all.map .register

/-- The registry with the routines of the library and the default aliases. -/
def standardRegistry : Registry := (Registry.empty.changeAll standardChanges).registry

end TextTemplate.Library
