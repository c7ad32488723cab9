import AmdBundler.Files.Tree.Lemmas
import AmdBundler.Json.Text.Lemmas
import AmdBundler.Main
import AmdBundler.Project.Settings
import AmdBundler.SourceMap.Decode
import AmdBundler.Proofs.CacheDiscipline
import AmdBundler.Proofs.RegistryRun
import AmdBundler.Proofs.BundleContents
import AmdBundler.Proofs.CodecRoundTrip
import AmdBundler.Proofs.RecordRoundTrip
import AmdBundler.Proofs.MappingsDecoding
import AmdBundler.Proofs.SourceMapRoundTrip
import AmdBundler.Proofs.IdentityArtifact
import AmdBundler.Proofs.MappingsInverse
import AmdBundler.Proofs.LineReading
import AmdBundler.Proofs.FileChanges
import AmdBundler.Proofs.FileReplacement
import AmdBundler.Proofs.BundleCommand
import AmdBundler.Proofs.ReaderExtension
import AmdBundler.Proofs.CompilerProtocol
import AmdBundler.Proofs.WireRoundTrip
import AmdBundler.Proofs.PathSubstitution
import AmdBundler.Proofs.PathJoin
import AmdBundler.Proofs.SourceDiscovery
import AmdBundler.Proofs.SourceLoading
import AmdBundler.Proofs.UrlResolution
import AmdBundler.Proofs.Occurrences
import AmdBundler.Proofs.DefineSearch
import AmdBundler.Proofs.DirectiveRecovery
import AmdBundler.Proofs.DefineNaming
import AmdBundler.Proofs.ShortestWords
import AmdBundler.Proofs.MapEncoding
import AmdBundler.Proofs.NamedDirectives
import AmdBundler.Proofs.PathsInStep
import AmdBundler.Proofs.FirstKept
import AmdBundler.Proofs.SourceListing
import AmdBundler.Proofs.ReplacementStates
import AmdBundler.Proofs.ScalarSkipping
import AmdBundler.Proofs.ValueSkipping
import AmdBundler.Proofs.LaidObjects
import AmdBundler.Proofs.ConfigOverlay
