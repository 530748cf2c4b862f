import ImageStages.Main
import ImageStages.Proofs.Catalog.Batch
import ImageStages.Proofs.Document.Keys
import ImageStages.Proofs.Layout.Plan
import ImageStages.Proofs.Layout.Devices
import ImageStages.Proofs.Account.Provision
import ImageStages.Proofs.Boot.Loader
import ImageStages.Proofs.Boot.Partition
import ImageStages.Proofs.Catalog.Documented
import ImageStages.Proofs.Catalog.Refusals
import ImageStages.Proofs.Build.Boundary
import ImageStages.Proofs.Document.Reading
import ImageStages.Proofs.Layout.Reading
import ImageStages.Proofs.Blueprint.Reading
import ImageStages.Proofs.Build.Reading
import ImageStages.Proofs.Agreement
import ImageStages.Proofs.Document.Alike
import ImageStages.Proofs.Account.Secrecy
import ImageStages.Proofs.Catalog.Secrecy
import ImageStages.Proofs.Build.Secrecy
import ImageStages.Proofs.Catalog.Validation
import ImageStages.Proofs.Layout.Description
import ImageStages.Proofs.Build.Selection
import ImageStages.Proofs.Document.Spelling
import ImageStages.Proofs.Document.Throughout
import ImageStages.Proofs.Document.RoundTrip
import ImageStages.Proofs.Document.Readable
import ImageStages.Proofs.Numeral.Magnitude
import ImageStages.Proofs.Document.MadeOf
import ImageStages.Proofs.Stage.MadeOf
import ImageStages.Proofs.Catalog.MadeOf
import ImageStages.Proofs.Stage.Writable
import ImageStages.Proofs.Catalog.Writable
import ImageStages.Proofs.Document.Change
import ImageStages.Proofs.Build.Writable
import ImageStages.Proofs.Build.Severity
import ImageStages.Proofs.Files
import ImageStages.Proofs.Command.Writable
import ImageStages.Proofs.Command.Output
import ImageStages.Proofs.Settings.Loading
import ImageStages.Proofs.Settings.Emission
import ImageStages.Proofs.Settings.Run
import ImageStages.Proofs.Journal.Course
import ImageStages.Proofs.Journal.Place
import ImageStages.Proofs.Journal.Operation
import ImageStages.Proofs.Catalog.Unset
import ImageStages.Proofs.Journal.Masked
import ImageStages.Proofs.Journal.Verbosity
import ImageStages.Proofs.Command.Flags
import ImageStages.Proofs.Files.SameBut
import ImageStages.Proofs.Catalog.Jobs
import ImageStages.Proofs.Catalog.Dumps
import ImageStages.Proofs.Command.Logs
import ImageStages.Proofs.Command.Jobs
import ImageStages.Proofs.Command.Verbosity
import ImageStages.Proofs.Layout.Order
import ImageStages.Proofs.Text.Segments
import ImageStages.Proofs.Text.ShellWords
import ImageStages.Proofs.Account.FirstBoot
import ImageStages.Proofs.Account.Names
import ImageStages.Proofs.Document.Restored
import ImageStages.Proofs.Account.Projection
import ImageStages.Proofs.Text.Search
import ImageStages.Proofs.Numeral.Hexadecimal
import ImageStages.Proofs.Identifier
import ImageStages.Proofs.Boot.RootIdentifier
import ImageStages.Proofs.Text.Utf8
import ImageStages.Proofs.Files.Contents
import ImageStages.Proofs.Settings.Fallback
import ImageStages.Proofs.Command.Unreadable
import ImageStages.Proofs.Build.WrittenForm
import ImageStages.Proofs.Catalog.NullParameter
import ImageStages.Proofs.Text.Runs
import ImageStages.Proofs.Numeral.Written
import ImageStages.Proofs.Identifier.Digits
import ImageStages.Proofs.Template.Directive
import ImageStages.Proofs.Template.Place
import ImageStages.Proofs.Medium.Label
import ImageStages.Proofs.Layout.DeviceNames
