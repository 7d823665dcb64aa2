import ChatRouter.Unicode.Property
import ChatRouter.Unicode.Script
import ChatRouter.Unicode.Fold
import ChatRouter.Text.Blank
import ChatRouter.Text.Quoted
import ChatRouter.Text.Words
import ChatRouter.SortedMap
import ChatRouter.Unicode.Named
import ChatRouter.Regex.Parser
import ChatRouter.DataError
import ChatRouter.Catalog.Version
import ChatRouter.Catalog.Bundle
import ChatRouter.Access.Directory
import ChatRouter.Request
import ChatRouter.Layered
import ChatRouter.Store.Call
import ChatRouter.Resolution
import ChatRouter.Access.Rules
import ChatRouter.Access.Provisioning
import ChatRouter.Chat.Registry
import ChatRouter.Configuration.Placeholders
import ChatRouter.Configuration.Check
import ChatRouter.Dispatch.Settings
import ChatRouter.Dispatch.Connection
import ChatRouter.Dispatch.Notices
import ChatRouter.Dispatch.Handling
import ChatRouter.Dispatch.Routing
import ChatRouter.Dispatch.Host
import ChatRouter.Hash.Argon2id
import ChatRouter.Access.Credentials
import ChatRouter.Format.Json
import ChatRouter.Configuration.Fields
import ChatRouter.Host.Echo
import ChatRouter.Catalog.Manifest
import ChatRouter.Configuration.Load
import ChatRouter.Metrics.Exposition
import ChatRouter.Host.Help
import ChatRouter.Host.Console
import ChatRouter.Host.Session
import ChatRouter.Host.Startup
import ChatRouter.Host.Program
import ChatRouter.Main
import ChatRouter.Proofs.SortedMap
import ChatRouter.Proofs.Store.Edits
import ChatRouter.Proofs.Store.History
import ChatRouter.Proofs.Store.Directory
import ChatRouter.Proofs.Store.Edges
import ChatRouter.Proofs.Store.Enabling
import ChatRouter.Proofs.Exchanges
import ChatRouter.Proofs.Store.Chronicle
import ChatRouter.Proofs.Resolution
import ChatRouter.Proofs.Access.Authorization
import ChatRouter.Proofs.Access.Provisioning
import ChatRouter.Proofs.Dispatch.Courses
import ChatRouter.Proofs.Dispatch.World
import ChatRouter.Proofs.Dispatch.Outcomes
import ChatRouter.Proofs.Dispatch.Emissions
import ChatRouter.Proofs.Dispatch.Runs
import ChatRouter.Proofs.Access.Keywords
import ChatRouter.Proofs.Access.Effective
import ChatRouter.Proofs.Access.Writing
import ChatRouter.Proofs.Interleaving
import ChatRouter.Proofs.Access.Races
import ChatRouter.Proofs.Access.Attempts
import ChatRouter.Proofs.Access.Bootstrap
import ChatRouter.Proofs.Text.Words
import ChatRouter.Proofs.Naming
import ChatRouter.Proofs.Store.Triggers
import ChatRouter.Proofs.Invocation
import ChatRouter.Proofs.Text.Bytes
import ChatRouter.Proofs.Access.Permissions
import ChatRouter.Proofs.Access.Refusals
import ChatRouter.Proofs.Access.Policy
import ChatRouter.Proofs.Dispatch.Duties
import ChatRouter.Proofs.Dispatch.Moves
import ChatRouter.Proofs.Dispatch.FanIn
import ChatRouter.Proofs.Host.Progress
import ChatRouter.Proofs.Host.Settlement
import ChatRouter.Proofs.Access.Strangers
import ChatRouter.Proofs.Store.Administrators
import ChatRouter.Proofs.Access.Administration
import ChatRouter.Proofs.Store.Atomicity
import ChatRouter.Proofs.Store.Trail
import ChatRouter.Proofs.Store.Secrecy
import ChatRouter.Proofs.Access.Emails
import ChatRouter.Proofs.Dispatch.Reports
import ChatRouter.Proofs.Access.Queries
import ChatRouter.Proofs.Meanings
import ChatRouter.Proofs.Dispatch.Replies
import ChatRouter.Proofs.Dispatch.Connections
import ChatRouter.Proofs.Access.Repetition
import ChatRouter.Proofs.Text.Pieces
import ChatRouter.Proofs.Catalog.Spelling
import ChatRouter.Proofs.Catalog.Printing
import ChatRouter.Proofs.Catalog.Precedence
import ChatRouter.Proofs.Catalog.Listing
import ChatRouter.Proofs.Access.Scanning
import ChatRouter.Proofs.Text.Splitting
import ChatRouter.Proofs.Configuration.Cutting
import ChatRouter.Proofs.Configuration.Openings
import ChatRouter.Proofs.Store.Addresses
