import StoryGraph.Main
import StoryGraph.Terminal.Launch
import StoryGraph.Terminal.Arguments
import StoryGraph.Terminal.Config
import StoryGraph.Terminal.Render
import StoryGraph.Story.Library
import StoryGraph.Story.Shape
import StoryGraph.Files.Basic
import StoryGraph.Session.Basic
import StoryGraph.Json.Reader
import StoryGraph.Comparison
import StoryGraph.Value
import StoryGraph.Number.Basic
import StoryGraph.Number.Shortest
import StoryGraph.Table
import StoryGraph.Text.LineFill
import StoryGraph.Text.Numeral
import StoryGraph.Text.Quoted
import StoryGraph.Text.Utf8
import StoryGraph.Proofs.Dispatch
import StoryGraph.Proofs.Walk
import StoryGraph.Proofs.Calls
import StoryGraph.Proofs.Budget
import StoryGraph.Proofs.Places
import StoryGraph.Proofs.Layers
import StoryGraph.Proofs.Graph
import StoryGraph.Proofs.Requests
import StoryGraph.Proofs.Reach
import StoryGraph.Proofs.Retry
import StoryGraph.Proofs.Telling
import StoryGraph.Proofs.Upcoming
import StoryGraph.Proofs.Sessions
import StoryGraph.Proofs.Scenes
import StoryGraph.Proofs.Ledger
import StoryGraph.Proofs.Waiting
import StoryGraph.Proofs.Configuration
import StoryGraph.Proofs.Loops
import StoryGraph.Proofs.LoopFree
import StoryGraph.Proofs.Replay
import StoryGraph.Proofs.Influence
import StoryGraph.Proofs.Endings
import StoryGraph.Proofs.Outset
import StoryGraph.Proofs.SideBySide
import StoryGraph.Proofs.HeldConditions
import StoryGraph.Proofs.Recognized
import StoryGraph.Proofs.Noticing
import StoryGraph.Proofs.Resuming
import StoryGraph.Proofs.StrictTypes
import StoryGraph.Proofs.Refusals
import StoryGraph.Proofs.Faults
import StoryGraph.Proofs.Grammar
import StoryGraph.Proofs.Demands
import StoryGraph.Proofs.Readers
import StoryGraph.Proofs.Loading
import StoryGraph.Proofs.Loaded
import StoryGraph.Proofs.Snapshot
import StoryGraph.Proofs.Answering
import StoryGraph.Proofs.Pointing
import StoryGraph.Proofs.Driving
import StoryGraph.Proofs.Sittings
import StoryGraph.Proofs.Progress
import StoryGraph.Proofs.Comparing
import StoryGraph.Proofs.Words
import StoryGraph.Proofs.OperatorTexts
import StoryGraph.Proofs.Wrapping
import StoryGraph.Proofs.Margins
import StoryGraph.Proofs.SpelledOut
import StoryGraph.Proofs.KeptSettings
import StoryGraph.Proofs.Numerals
import StoryGraph.Proofs.SettingsText
import StoryGraph.Proofs.Writing
import StoryGraph.Proofs.SavedSettings
