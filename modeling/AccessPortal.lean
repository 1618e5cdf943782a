import AccessPortal.Access.Codec
import AccessPortal.Access.Lookup
import AccessPortal.Access.Permission
import AccessPortal.Access.Role
import AccessPortal.Account.Codec
import AccessPortal.Account.User
import AccessPortal.Calendar
import AccessPortal.Console.Command
import AccessPortal.Console.CommandLine
import AccessPortal.Console.Grammar
import AccessPortal.Console.Lines
import AccessPortal.Console.Report
import AccessPortal.Console.Run
import AccessPortal.Console.Task
import AccessPortal.Detail
import AccessPortal.Environment.Assignment
import AccessPortal.Environment.File
import AccessPortal.ErrorCode
import AccessPortal.Forms.Codec
import AccessPortal.Forms.Display
import AccessPortal.Forms.Error
import AccessPortal.Forms.Field
import AccessPortal.Forms.Form
import AccessPortal.Forms.FormSet
import AccessPortal.Forms.Merging
import AccessPortal.Forms.Saving
import AccessPortal.Forms.Shipped
import AccessPortal.Forms.Snapshot
import AccessPortal.Forms.WorkingCopy
import AccessPortal.Http.Client
import AccessPortal.Http.Message
import AccessPortal.Http.PreparedServer
import AccessPortal.Http.Status
import AccessPortal.Http.Url
import AccessPortal.Json.Canonical
import AccessPortal.Json.Reader
import AccessPortal.Json.Record
import AccessPortal.Json.Value
import AccessPortal.Json.Writer
import AccessPortal.Log.Directive
import AccessPortal.Log.Filter
import AccessPortal.Log.Pattern
import AccessPortal.Log.Record
import AccessPortal.Main
import AccessPortal.Navigation.Codec
import AccessPortal.Navigation.Item
import AccessPortal.Navigation.PortalTree
import AccessPortal.Program
import AccessPortal.Session.Cache
import AccessPortal.Session.Error
import AccessPortal.Session.Lifecycle
import AccessPortal.Session.State
import AccessPortal.Settings
import AccessPortal.Storage.Choice
import AccessPortal.Storage.Directory
import AccessPortal.Storage.Faulty
import AccessPortal.Storage.InDirectory
import AccessPortal.Storage.InMemory
import AccessPortal.Storage.Key
import AccessPortal.Storage.Path
import AccessPortal.Storage.SystemFault
import AccessPortal.Storage.Table
import AccessPortal.Text.Alphabetic
import AccessPortal.Text.Alphanumeric
import AccessPortal.Text.Blank
import AccessPortal.Text.Bytes
import AccessPortal.Text.Column
import AccessPortal.Text.Invisible
import AccessPortal.Text.Numeral
import AccessPortal.Text.Quoted
import AccessPortal.Proofs.Json.RoundTrip
import AccessPortal.Proofs.Json.Lossless
import AccessPortal.Proofs.Program.Events
import AccessPortal.Proofs.Json.Records
import AccessPortal.Proofs.Storage.Contents
import AccessPortal.Proofs.Session.Calls
import AccessPortal.Proofs.Session.Cache
import AccessPortal.Proofs.Session.OneSignIn
import AccessPortal.Proofs.Session.Outcomes
import AccessPortal.Proofs.Session.Mirror
import AccessPortal.Proofs.Session.Standing
import AccessPortal.Proofs.Forms.Normal
import AccessPortal.Proofs.Forms.Reload
import AccessPortal.Proofs.Session.Ended
import AccessPortal.Proofs.Navigation.Levels
import AccessPortal.Proofs.Forms.Lossless
import AccessPortal.Proofs.Json.ReadBack
import AccessPortal.Proofs.Storage.OnDisk
import AccessPortal.Proofs.Forms.Reread
import AccessPortal.Proofs.Console.Restarts
import AccessPortal.Proofs.Program.Since
import AccessPortal.Proofs.Forms.Attempts
import AccessPortal.Proofs.Navigation.Listing
import AccessPortal.Proofs.Forms.Unsaved
import AccessPortal.Proofs.Http.Answers
import AccessPortal.Proofs.Session.SignIn
import AccessPortal.Proofs.Storage.Calm
import AccessPortal.Proofs.Session.Reconciled
import AccessPortal.Proofs.Forms.Upgrade
import AccessPortal.Proofs.Storage.Committed
import AccessPortal.Proofs.Storage.Agree
import AccessPortal.Proofs.Storage.Shared
import AccessPortal.Proofs.Program.Confined
import AccessPortal.Proofs.Forms.Refused
import AccessPortal.Proofs.Forms.Sorted
import AccessPortal.Proofs.Forms.Moves
import AccessPortal.Proofs.Forms.Adding
import AccessPortal.Proofs.Forms.Keyed
import AccessPortal.Proofs.Console.OrderValues
import AccessPortal.Proofs.Session.BesideForms
import AccessPortal.Proofs.Http.Wire
import AccessPortal.Proofs.Session.Requests
import AccessPortal.Proofs.Navigation.Narrowed
import AccessPortal.Proofs.Forms.Displays
import AccessPortal.Proofs.Forms.Rearranged
import AccessPortal.Proofs.Session.AnyCache
import AccessPortal.Proofs.Navigation.Paths
import AccessPortal.Proofs.Forms.Patches
import AccessPortal.Proofs.Forms.Commuting
import AccessPortal.Proofs.Access.Agreement
import AccessPortal.Proofs.Http.Address
