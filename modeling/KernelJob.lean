import KernelJob.Main
import KernelJob.Proofs.Command.Source
import KernelJob.Proofs.Run.Account
import KernelJob.Proofs.Run.LetGo
import KernelJob.Run.ReportInput
import KernelJob.Proofs.Output.Unlimited
import KernelJob.Proofs.Session.Answer
import KernelJob.Proofs.Session.Cancel
import KernelJob.Proofs.Run.Course
import KernelJob.Proofs.Run.Cancel
import KernelJob.Proofs.Elementary
import KernelJob.Proofs.Agree
import KernelJob.Proofs.Output.Abridged
import KernelJob.Proofs.Session.Limit
import KernelJob.Proofs.Run.Limit
import KernelJob.Proofs.Source.Parts
import KernelJob.Proofs.Json.Reader
import KernelJob.Proofs.Source.Document
import KernelJob.Proofs.Source.Items
import KernelJob.Proofs.Source.Notebook
import KernelJob.Proofs.Source.Note
import KernelJob.Proofs.Session.Plain
import KernelJob.Proofs.Session.Lines
import KernelJob.Proofs.Run.JobLog
import KernelJob.Proofs.Session.Started
import KernelJob.Proofs.Run.Work
import KernelJob.Proofs.Run.Order
import KernelJob.Proofs.Session.Life
import KernelJob.Proofs.Output.Collected
import KernelJob.Proofs.Numeral
import KernelJob.Proofs.Json.Fields
import KernelJob.Proofs.Json.RoundTrip
import KernelJob.Proofs.Text.Utf8
import KernelJob.Proofs.Text.Utf8.Valid
import KernelJob.Proofs.FileTree
import KernelJob.Proofs.FileTree.Opening
import KernelJob.Proofs.Run.Stored
import KernelJob.Proofs.Run.Submitted
import KernelJob.Proofs.Run.Verbatim
import KernelJob.Proofs.Toml.Distinct
import KernelJob.Proofs.Settings.Merge
import KernelJob.Proofs.Settings.Leaf
import KernelJob.Proofs.Settings.Sources
import KernelJob.Proofs.Text.Case
import KernelJob.Proofs.Settings.Variables
import KernelJob.Proofs.Settings.Loading
import KernelJob.Proofs.Session.ResultLines
import KernelJob.Proofs.Artifact.Numbered
import KernelJob.Proofs.Artifact.Apart
import KernelJob.Proofs.Artifact.Enclosed
import KernelJob.Proofs.Artifact.Picture
import KernelJob.Proofs.Session.Capture
import KernelJob.Proofs.Session.RichOutput
import KernelJob.Proofs.Session.Turns
import KernelJob.Proofs.Session.Unhurried
import KernelJob.Proofs.Session.CaughtUp
import KernelJob.Proofs.Session.Deadline
import KernelJob.Proofs.Source.FileFormat
import KernelJob.Proofs.Job.Config
import KernelJob.Proofs.Job.Spelling
import KernelJob.Proofs.Command.Exit
import KernelJob.Proofs.Session.Traceback
import KernelJob.Proofs.Session.Ending
import KernelJob.Proofs.Command.Listing
