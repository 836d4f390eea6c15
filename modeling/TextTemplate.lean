import TextTemplate.FileTree
import TextTemplate.Main
import TextTemplate.Proofs.Caching
import TextTemplate.Proofs.Compilation
import TextTemplate.Proofs.Evaluation
import TextTemplate.Proofs.Ownership
import TextTemplate.Session
import TextTemplate.Proofs.BadPrefixes
import TextTemplate.Proofs.Concatenation
import TextTemplate.Proofs.Rendering
import TextTemplate.Proofs.ShallowFamilies
import TextTemplate.Proofs.OwnState
import TextTemplate.Proofs.Renaming
import TextTemplate.Proofs.DeepCopies
import TextTemplate.Proofs.Layout
import TextTemplate.Proofs.ErrorPositions
import TextTemplate.Proofs.Escaping
import TextTemplate.Proofs.Quoting
import TextTemplate.Proofs.ArgumentTexts
import TextTemplate.Proofs.NestingLimit
import TextTemplate.Proofs.MentionedNames
import TextTemplate.Proofs.NamedVariables
import TextTemplate.Proofs.OctetOrder
import TextTemplate.Proofs.CallCounts
import TextTemplate.Proofs.RegistryCoherence
import TextTemplate.Proofs.CacheStates
import TextTemplate.Proofs.MachineRuns
import TextTemplate.Proofs.CounterTallies
import TextTemplate.Proofs.CounterFamilies
import TextTemplate.Proofs.FileReading
import TextTemplate.Proofs.AliasTargets
import TextTemplate.Proofs.Configuring
import TextTemplate.Proofs.FormRoundTrip
import TextTemplate.Proofs.IntegerSums
import TextTemplate.Proofs.UrlRoutines
import TextTemplate.Proofs.Utf8RoundTrip
import TextTemplate.Proofs.Tokenization
import TextTemplate.Proofs.CodePoints
import TextTemplate.Proofs.ClockTexts
import TextTemplate.Proofs.ConfigurationTexts
import TextTemplate.Proofs.Addresses
