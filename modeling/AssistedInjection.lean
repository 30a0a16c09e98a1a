import AssistedInjection.Output.Filer
import AssistedInjection.Proofs.Validation.Supply
import AssistedInjection.Proofs.Rounds.Recovery
import AssistedInjection.Proofs.Rounds.Schedule
import AssistedInjection.Proofs.Validation.FirstFailure
import AssistedInjection.Proofs.Output.Place
import AssistedInjection.Proofs.Output.Overwriting
import AssistedInjection.Proofs.Output.Dependencies
import AssistedInjection.Proofs.Kotlin.Lexing
import AssistedInjection.Proofs.Kotlin.Names
import AssistedInjection.Proofs.Kotlin.Parts
import AssistedInjection.Proofs.Kotlin.Layout
import AssistedInjection.Proofs.Kotlin.Rules
import AssistedInjection.Proofs.Kotlin.Derivation
import AssistedInjection.Proofs.Kotlin.Completeness
import AssistedInjection.Proofs.Kotlin.Rereading
import AssistedInjection.Proofs.Kotlin.Reprinting
import AssistedInjection.Proofs.Kotlin.RoundTrip
import AssistedInjection.Proofs.Kotlin.Composition
import AssistedInjection.Proofs.Source.Resolution
import AssistedInjection.Proofs.Source.Rendering
import AssistedInjection.Proofs.Source.ParameterLines
import AssistedInjection.Proofs.Source.Importing
import AssistedInjection.Proofs.Validation.Dependence
import AssistedInjection.Proofs.Rounds.Deferral
import AssistedInjection.Proofs.Rounds.Pointwise
import AssistedInjection.Proofs.Json.Rereading
import AssistedInjection.Proofs.Json.Forms
import AssistedInjection.Proofs.Declaration.References
import AssistedInjection.Proofs.Manifest
import AssistedInjection.Proofs.Validation.Reordering
import AssistedInjection.Proofs.Matching.Positions
import AssistedInjection.Proofs.Kotlin.Characters
import AssistedInjection.Proofs.Kotlin.NamesFromParts
import AssistedInjection.Proofs.Kotlin.NamesInJson
import AssistedInjection.Proofs.Kotlin.Convention
import AssistedInjection.Proofs.Kotlin.Spacing
import AssistedInjection.Proofs.Source.Escaping
import AssistedInjection.Proofs.Output.Confinement
import AssistedInjection.Proofs.Source.Mentions
