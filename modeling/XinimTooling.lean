import XinimTooling.Python.Dict
import XinimTooling.Python.Text
import XinimTooling.Python.Regex
import XinimTooling.Python.Sorted
import XinimTooling.Python.Str
import XinimTooling.Python.Format
import XinimTooling.Python.Float
import XinimTooling.AstDependencies.Fallback
import XinimTooling.AstDependencies.Graph
import XinimTooling.AstDependencies.Strategy
import XinimTooling.AstDependencies.Scan
import XinimTooling.AstDependencies.Run
import XinimTooling.AstDependencies.Summary
import XinimTooling.Tools.ModernizeKrFile
import XinimTooling.ClassifyStyle
import XinimTooling.Tools.FindKnr
import XinimTooling.Tools.AsciiTree
import XinimTooling.Networkx.DiGraph
import XinimTooling.Networkx.TopologicalSort
import XinimTooling.Tools.MigrationDashboard
import XinimTooling.Tools.MigrationReport
import XinimTooling.Tools.RepoInventory
import XinimTooling.Tools.ArchScan
import XinimTooling.Specs.VerifyAll
import XinimTooling.Tools.DocumentationCoverage
import XinimTooling.Testing.ChaosRunner
