import ContainerBuild.Application
import ContainerBuild.Arguments
import ContainerBuild.Arguments.Grammar
import ContainerBuild.Arguments.Reading
import ContainerBuild.Decimal.Binary64
import ContainerBuild.Decimal.Shortest
import ContainerBuild.Disk
import ContainerBuild.Disk.Tree
import ContainerBuild.Document
import ContainerBuild.Draft
import ContainerBuild.Draft.Build
import ContainerBuild.Environment
import ContainerBuild.Host
import ContainerBuild.Host.Program
import ContainerBuild.Host.Shell
import ContainerBuild.Host.Shell.Line
import ContainerBuild.Image
import ContainerBuild.Journal
import ContainerBuild.Journal.LogSettings
import ContainerBuild.Json.Basic
import ContainerBuild.Json.Printer
import ContainerBuild.Json.Reader
import ContainerBuild.Main
import ContainerBuild.Manifest
import ContainerBuild.Path
import ContainerBuild.Program
import ContainerBuild.Recipe
import ContainerBuild.Recipe.Procedure
import ContainerBuild.Rehearsal
import ContainerBuild.Report
import ContainerBuild.Run.Child
import ContainerBuild.Run.Command
import ContainerBuild.Run.Options
import ContainerBuild.Run.Outcome
import ContainerBuild.Run.Script
import ContainerBuild.Settings
import ContainerBuild.Store.Fault
import ContainerBuild.Store.Memory
import ContainerBuild.Text.Blank
import ContainerBuild.Text.CodePoints
import ContainerBuild.Text.Lines
import ContainerBuild.Text.LowerCase
import ContainerBuild.Text.Printable
import ContainerBuild.Text.Quoted
import ContainerBuild.Text.Utf8
import ContainerBuild.Workspace
import ContainerBuild.Yaml.Printer
import ContainerBuild.Yaml.Scalar
import ContainerBuild.Proofs.Observed
import ContainerBuild.Proofs.Draft.Call
import ContainerBuild.Proofs.Draft.Course
import ContainerBuild.Proofs.Draft.LifeCycle
import ContainerBuild.Proofs.Recipe.Steps
import ContainerBuild.Proofs.Recipe.Staging
import ContainerBuild.Proofs.Manifest.Synthesis
import ContainerBuild.Proofs.Manifest.ReadBack
import ContainerBuild.Proofs.Application.Describe
import ContainerBuild.Proofs.Application.DryRun
import ContainerBuild.Proofs.Text.Splitting
import ContainerBuild.Proofs.Path.Joining
import ContainerBuild.Proofs.Image.Name
import ContainerBuild.Proofs.Path.Order
import ContainerBuild.Proofs.Store.Entries
import ContainerBuild.Proofs.Store.Confinement
import ContainerBuild.Proofs.Store.Agreement
import ContainerBuild.Proofs.Draft.Confinement
import ContainerBuild.Proofs.Draft.Session
import ContainerBuild.Proofs.Draft.Independence
import ContainerBuild.Proofs.Path.Parts
import ContainerBuild.Proofs.Store.Growth
import ContainerBuild.Proofs.Store.Copying
import ContainerBuild.Proofs.Store.Invariants
import ContainerBuild.Proofs.Draft.Content
import ContainerBuild.Proofs.Application.ExitCode
import ContainerBuild.Proofs.Text.Lossy
import ContainerBuild.Proofs.Path.Display
import ContainerBuild.Proofs.Draft.ToolDirectory
import ContainerBuild.Proofs.Store.Tree
import ContainerBuild.Proofs.Store.Room
import ContainerBuild.Proofs.Store.Subtree
import ContainerBuild.Proofs.Disk.Locations
import ContainerBuild.Proofs.Disk.Walking
import ContainerBuild.Proofs.Disk.Writing
import ContainerBuild.Proofs.Disk.Soundness
import ContainerBuild.Proofs.Disk.Copying
import ContainerBuild.Proofs.Disk.CopyDir
import ContainerBuild.Proofs.Run.Answer
import ContainerBuild.Proofs.Draft.ManifestPath
import ContainerBuild.Proofs.Draft.Rejection
import ContainerBuild.Proofs.Run.History
import ContainerBuild.Proofs.Run.Message
import ContainerBuild.Proofs.Application.Manifest
