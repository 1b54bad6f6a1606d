import TemplateCatalog.Cache.Provider
import TemplateCatalog.Cache.Session
import TemplateCatalog.Catalog.Service
import TemplateCatalog.CommandLine.Program
import TemplateCatalog.Item.Document
import TemplateCatalog.Item.Schema
import TemplateCatalog.Json.Printer
import TemplateCatalog.Main
import TemplateCatalog.Proofs.Cache.FurtherSweeps
import TemplateCatalog.Proofs.Cache.LiveEntries
import TemplateCatalog.Proofs.Cache.Ranking
import TemplateCatalog.Proofs.Cache.SweepLifeCycle
import TemplateCatalog.Proofs.Catalog.Discovery
import TemplateCatalog.Proofs.Catalog.MarkupIds
import TemplateCatalog.Proofs.Catalog.Queries
import TemplateCatalog.Proofs.Catalog.RelocatedCatalog
import TemplateCatalog.Proofs.Catalog.Rendering
import TemplateCatalog.Proofs.Catalog.Resolution
import TemplateCatalog.Proofs.CommandLine.Arguments
import TemplateCatalog.Proofs.Item.Classification
import TemplateCatalog.Proofs.Item.NullFields
import TemplateCatalog.Proofs.Item.WrittenIds
import TemplateCatalog.Proofs.Settings.Environment
import TemplateCatalog.Registry.File
import TemplateCatalog.Settings.File
import TemplateCatalog.Template.Execution
import TemplateCatalog.Tree.Edit
import TemplateCatalog.Yaml.Reader
