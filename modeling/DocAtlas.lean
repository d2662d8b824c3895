import DocAtlas.Manifest.Source
import DocAtlas.Tree
import DocAtlas.Tree.OpenBranch
import DocAtlas.Search.Query
import DocAtlas.Settings.Sources
import DocAtlas.Generation
import DocAtlas.Reporting
import DocAtlas.Command.Run
import DocAtlas.Main
import DocAtlas.Proofs.Tree.ClassTree
import DocAtlas.Proofs.Search.Ranking
import DocAtlas.Proofs.Generation.OrderIndependence
import DocAtlas.Proofs.Manifest.Refusal
import DocAtlas.Proofs.Text.LastSegment
import DocAtlas.Proofs.Manifest.Acceptance
import DocAtlas.Proofs.Tree.Additions
import DocAtlas.Proofs.Tree.FileLeaves
import DocAtlas.Proofs.Tree.FileNodes
import DocAtlas.Proofs.Tree.FileTree
import DocAtlas.Proofs.Generation.Navigation
import DocAtlas.Proofs.Settings.Layout
import DocAtlas.Proofs.Settings.Containment
import DocAtlas.Proofs.Settings.Precedence
import DocAtlas.Proofs.Generation.Noninterference
import DocAtlas.Proofs.Generation.Endings
import DocAtlas.Proofs.Artifact.Decoding
import DocAtlas.Proofs.Tree.WireForm
import DocAtlas.Proofs.Tree.NodeCount
import DocAtlas.Proofs.Tree.Climbing
import DocAtlas.Proofs.Tree.OpenBranch
import DocAtlas.Proofs.Search.Pieces
import DocAtlas.Proofs.Tree.Nesting
import DocAtlas.Proofs.Manifest.CycleReport
import DocAtlas.Proofs.Manifest.RecordedLinks
import DocAtlas.Proofs.Search.Records
import DocAtlas.Proofs.Search.NameCoverage
import DocAtlas.Proofs.Generation.MainPage
import DocAtlas.Proofs.Tree.FileBranch
import DocAtlas.Proofs.Search.Spelling
import DocAtlas.Proofs.Entity.Adoption
import DocAtlas.Proofs.Generation.Rehearsal
import DocAtlas.Proofs.Command.BuildReport
