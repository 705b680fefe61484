import EngineHost.Bridge.Basic
import EngineHost.Bridge.Error
import EngineHost.Bridge.Status
import EngineHost.CommandLine.Options
import EngineHost.Disk.Basic
import EngineHost.Disk.Creation
import EngineHost.Disk.PathText
import EngineHost.Disk.Program
import EngineHost.Float.Format
import EngineHost.Float.Shortest
import EngineHost.Guest.Basic
import EngineHost.Guest.Catalog
import EngineHost.Guest.Conversion
import EngineHost.Guest.Imports
import EngineHost.Guest.Memory
import EngineHost.Guest.Value
import EngineHost.Host.Basic
import EngineHost.Host.Error
import EngineHost.Host.Platform
import EngineHost.Host.World
import EngineHost.Json.Basic
import EngineHost.Json.Mismatch
import EngineHost.Json.Reader
import EngineHost.Location.Address
import EngineHost.Location.Domain
import EngineHost.Location.Domain.Composition
import EngineHost.Location.Domain.Direction
import EngineHost.Location.Domain.Joining
import EngineHost.Location.Domain.Mapping
import EngineHost.Location.Domain.Punycode
import EngineHost.Location.Percent
import EngineHost.Location.Source
import EngineHost.Location.Url
import EngineHost.Main
import EngineHost.Message.Request
import EngineHost.Message.Response
import EngineHost.Proofs.Attempt
import EngineHost.Proofs.Bridge.Absence
import EngineHost.Proofs.Bridge.Contents
import EngineHost.Proofs.Bridge.Entry
import EngineHost.Proofs.Bridge.Exclusion
import EngineHost.Proofs.Bridge.Fleet
import EngineHost.Proofs.Bridge.InMemory
import EngineHost.Proofs.Bridge.Naming
import EngineHost.Proofs.Bridge.Operation
import EngineHost.Proofs.Bridge.Walk
import EngineHost.Proofs.Host.Answer
import EngineHost.Proofs.Lookup
import EngineHost.Proofs.Storage.Holding
import EngineHost.Proofs.Storage.Keeps
import EngineHost.Proofs.Storage.Memory
import EngineHost.Proofs.Trace
import EngineHost.Proofs.Tree.Bytes
import EngineHost.Proofs.Tree.Lock
import EngineHost.Proofs.Tree.Naming
import EngineHost.Proofs.Tree.Node
import EngineHost.Proofs.Tree.Quota
import EngineHost.Proofs.Tree.Session
import EngineHost.Proofs.Tree.Shape
import EngineHost.Proofs.Tree.Step
import EngineHost.Proofs.Worker.Interleaving
import EngineHost.Settings.Basic
import EngineHost.Settings.File
import EngineHost.Storage.Basic
import EngineHost.Storage.Content
import EngineHost.Storage.Error
import EngineHost.Storage.Memory
import EngineHost.Storage.OnDisk
import EngineHost.Storage.Path
import EngineHost.Storage.Sabotaged
import EngineHost.Storage.Tree
import EngineHost.Text.CharTable
import EngineHost.Text.Hidden
import EngineHost.Text.Lossy
import EngineHost.Text.Quoted
import EngineHost.Text.Segments
import EngineHost.Toml.Basic
import EngineHost.Toml.Lexeme
import EngineHost.Toml.Reader
import EngineHost.Worker.Basic
import EngineHost.Worker.Lines
import EngineHost.Worker.Threaded
import EngineHost.Proofs.Host.Inert
import EngineHost.Proofs.Disk.OpenFile
import EngineHost.Proofs.Storage.Agreement
import EngineHost.Proofs.Json.Text
import EngineHost.Proofs.Text.Utf8
import EngineHost.Proofs.Worker.Lines
import EngineHost.Proofs.Worker.Serving
import EngineHost.Proofs.Bridge.Descriptors
import EngineHost.Proofs.Tree.Stale
import EngineHost.Proofs.Text.Segments
import EngineHost.Proofs.Bridge.Way
import EngineHost.Proofs.Bridge.Opening
import EngineHost.Proofs.Bridge.Removal
import EngineHost.Proofs.Json.Fields
import EngineHost.Proofs.Message.Wire
import EngineHost.Proofs.Message.Grammar
import EngineHost.Proofs.Storage.Matching
import EngineHost.Proofs.Bridge.Matching
import EngineHost.Proofs.Bridge.Spelling
import EngineHost.Disk.Player
import EngineHost.Storage.Played
import EngineHost.Proofs.Disk.Player
import EngineHost.Proofs.Disk.Confinement
import EngineHost.Proofs.Bridge.Confinement
import EngineHost.Proofs.Disk.Table
import EngineHost.Proofs.Disk.Process
import EngineHost.Proofs.Bridge.Statuses
import EngineHost.Proofs.Guest.Read
import EngineHost.Proofs.Tree.Altered
import EngineHost.Proofs.Bridge.Commuting
import EngineHost.Proofs.Guest.Imports
import EngineHost.Proofs.Bridge.Capability
import EngineHost.Proofs.Tree.Handles
import EngineHost.Proofs.Tree.InPlace
import EngineHost.Proofs.Guest.Arguments
import EngineHost.Proofs.Float.Exact
import EngineHost.Proofs.Guest.Results
import EngineHost.Proofs.Tree.Kept
import EngineHost.Proofs.Bridge.Loss
import EngineHost.Proofs.Guest.Numerals
import EngineHost.Storage.Shared
import EngineHost.Proofs.Disk.Locks
import EngineHost.Proofs.Disk.Holds
import EngineHost.Proofs.Disk.Effect
import EngineHost.Proofs.Storage.Shared
import EngineHost.Proofs.Worker.Unreadable
import EngineHost.Proofs.Settings.File
import EngineHost.Proofs.CommandLine.Options
import EngineHost.Proofs.Storage.Path
