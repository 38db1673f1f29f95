import AlertSound.Text.Blank
import AlertSound.Text.Decimal
import AlertSound.Text.Quoted
import AlertSound.Url.Parse
import AlertSound.Attributes
import AlertSound.Config
import AlertSound.Locator.Basic
import AlertSound.Json.Reader
import AlertSound.Codec
import AlertSound.Json.Dictionary
import AlertSound.Index.Cursor
import AlertSound.Program
import AlertSound.Log
import AlertSound.File.Tree
import AlertSound.Collaborators
import AlertSound.Index.DataPath
import AlertSound.Remote.Worker
import AlertSound.Session
import AlertSound.Asset
import AlertSound.Index.Directory
import AlertSound.Playback.Engine
import AlertSound.Settings.Store
import AlertSound.Volume
import AlertSound.Host.Step
import AlertSound.Tally.Step
import AlertSound.Command.Run
import AlertSound.Main
import AlertSound.Proofs.Trace
import AlertSound.Proofs.Playback.Custody
import AlertSound.Proofs.Playback.Player
import AlertSound.Proofs.Session.Passage
import AlertSound.Proofs.Session.History
import AlertSound.Proofs.Remote.Serving
import AlertSound.Proofs.Session.Sharing
import AlertSound.Proofs.Resolution
import AlertSound.Proofs.Session.Sourced
import AlertSound.Proofs.Remote.Service
import AlertSound.Proofs.Remote.Filing
import AlertSound.Proofs.Remote.Duty
import AlertSound.Proofs.Remote.Progress
import AlertSound.Proofs.Remote.Protocol
import AlertSound.Proofs.Remote.Hosted
import AlertSound.Proofs.Session.Silence
import AlertSound.Proofs.Session.Muting
import AlertSound.Proofs.Session.Delegation
import AlertSound.Proofs.Session.Overlap
import AlertSound.Proofs.Session.Departure
import AlertSound.Proofs.Session.Apart
import AlertSound.Proofs.Url.Domain
import AlertSound.Proofs.Locator.Canonical
import AlertSound.Proofs.Index.Closing
import AlertSound.Proofs.Settings.Reload
import AlertSound.Proofs.Session.Takeover
import AlertSound.Proofs.Session.Ladder
import AlertSound.Proofs.Settings.Refusal
import AlertSound.Proofs.Settings.Mending
import AlertSound.Proofs.Session.Writing
import AlertSound.Proofs.Command.Writing
import AlertSound.Proofs.Index.Paths
import AlertSound.Proofs.Settings.Playable
import AlertSound.Proofs.Locator.NormalForm
import AlertSound.Proofs.Locator.Rereading
import AlertSound.Proofs.Settings.Entries
import AlertSound.Proofs.Config.Checks
import AlertSound.Proofs.Title
import AlertSound.Proofs.Session.Titles
import AlertSound.Proofs.Session.Arranging
import AlertSound.Proofs.Config.Reading
import AlertSound.Proofs.Command.Spelling
import AlertSound.Proofs.Command.Ending
import AlertSound.Proofs.Command.Completion
import AlertSound.Proofs.Command.Variables
