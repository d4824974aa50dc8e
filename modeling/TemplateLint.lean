import TemplateLint.Main
import TemplateLint.Proofs.CallSequences
import TemplateLint.Proofs.CommandRun
import TemplateLint.Proofs.CompiledBlacklist
import TemplateLint.Proofs.IndependentEntries
import TemplateLint.Proofs.LexicalScope
import TemplateLint.Proofs.Locations
import TemplateLint.Proofs.Passages
import TemplateLint.Proofs.Reference
import TemplateLint.Proofs.RoundTrip
import TemplateLint.Proofs.RuleReuse
import TemplateLint.Proofs.ScopeDiscipline
import TemplateLint.Proofs.ViolationOrder
import TemplateLint.Syntax.Encode
import TemplateLint.Files.World
import TemplateLint.Proofs.FileContents
import TemplateLint.Proofs.LogSessions
import TemplateLint.Proofs.RunOutcomes
import TemplateLint.Proofs.ConfigFiles
import TemplateLint.Proofs.RuleNames
import TemplateLint.Proofs.SpannedText
import TemplateLint.Proofs.AcceptedSettings
import TemplateLint.Proofs.BlacklistContents
import TemplateLint.Proofs.ErrorStream
import TemplateLint.Proofs.RunRecords
import TemplateLint.Proofs.Verbosity
import TemplateLint.Proofs.CoupledRuns
import TemplateLint.Proofs.PartialVisitors
import TemplateLint.Proofs.SourceTexts
import TemplateLint.Proofs.Checks
import TemplateLint.Proofs.MilderTrees
import TemplateLint.Proofs.MilderRuns
