import PluginRecovery.Main
import PluginRecovery.Proofs.Analysis.FunctionBody
import PluginRecovery.Proofs.Analysis.FunctionLocality
import PluginRecovery.Proofs.Analysis.JoinCalls
import PluginRecovery.Proofs.Analysis.KeywordAgreement
import PluginRecovery.Proofs.Analysis.ListingSigns
import PluginRecovery.Proofs.Analysis.PluginName
import PluginRecovery.Proofs.Analysis.SelectorAccount
import PluginRecovery.Proofs.Analysis.SelectorChoice
import PluginRecovery.Proofs.Analysis.WellFormed
import PluginRecovery.Proofs.Json.Exchange
import PluginRecovery.Proofs.Script.BraceLocality
import PluginRecovery.Proofs.Script.BraceMatching
import PluginRecovery.Proofs.Script.BraceNesting
import PluginRecovery.Proofs.Script.ClassBody
import PluginRecovery.Proofs.Script.CommentRemoval
import PluginRecovery.Proofs.Script.DeclarationPlaces
import PluginRecovery.Proofs.Script.DeclarationPrecedence
import PluginRecovery.Proofs.Script.Division
import PluginRecovery.Proofs.Script.EscapePasses
import PluginRecovery.Proofs.Script.JsonReading
import PluginRecovery.Proofs.Script.Layouts
import PluginRecovery.Proofs.Script.LiteralEnds
import PluginRecovery.Proofs.Script.MetadataAcceptance
import PluginRecovery.Proofs.Script.MetadataOffsets
import PluginRecovery.Proofs.Script.ParameterRows
import PluginRecovery.Proofs.Script.QuotedLiterals
import PluginRecovery.Proofs.Script.ReadingEnds
import PluginRecovery.Proofs.Script.UnfinishedTokens
import PluginRecovery.Proofs.Settings.Precedence
import PluginRecovery.Proofs.Source.ChapterText
import PluginRecovery.Proofs.Source.EmptyScripts
import PluginRecovery.Proofs.Source.Enrichment
import PluginRecovery.Proofs.Source.ListedChapters
import PluginRecovery.Proofs.Source.ListedWorks
import PluginRecovery.Proofs.Source.Refetching
import PluginRecovery.Proofs.Source.Requests
import PluginRecovery.Proofs.Source.SearchAddress
import PluginRecovery.Proofs.WebPage.Candidates
import PluginRecovery.Proofs.WebPage.FruitlessCandidates
