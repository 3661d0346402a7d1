import LayeredConfig.Main
import LayeredConfig.Proofs.Acceptance
import LayeredConfig.Proofs.AnswerText
import LayeredConfig.Proofs.DepthShift
import LayeredConfig.Proofs.DirectoryImport
import LayeredConfig.Proofs.DistinctReferences
import LayeredConfig.Proofs.ExitStatus
import LayeredConfig.Proofs.HiddenKeys
import LayeredConfig.Proofs.ImportCalls
import LayeredConfig.Proofs.ImportedKeys
import LayeredConfig.Proofs.ListEntries
import LayeredConfig.Proofs.NotFound
import LayeredConfig.Proofs.Payloads
import LayeredConfig.Proofs.Pool.Cap
import LayeredConfig.Proofs.Pool.Waking
import LayeredConfig.Proofs.ReferenceGrammar
import LayeredConfig.Proofs.ScopeAgreement
import LayeredConfig.Proofs.ScopeOptions
import LayeredConfig.Proofs.SearchPath
import LayeredConfig.Proofs.Settings.OverriddenPaths
import LayeredConfig.Proofs.Settings.Untagged
import LayeredConfig.Proofs.TypedEntries
