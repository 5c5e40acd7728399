import BranchingStory.Case.Directory
import BranchingStory.Main
import BranchingStory.Proofs.Addresses
import BranchingStory.Proofs.Success
import BranchingStory.Playback.Run
import BranchingStory.Proofs.LoadedTree
import BranchingStory.Proofs.Walk
import BranchingStory.Proofs.Calls
import BranchingStory.Proofs.Perform
import BranchingStory.Proofs.Settled
import BranchingStory.Proofs.Itinerary
import BranchingStory.Proofs.Foreseen
import BranchingStory.Proofs.Reviewed
import BranchingStory.Proofs.LoadedSteps
import BranchingStory.Proofs.Failures
import BranchingStory.Proofs.Picture
import BranchingStory.Proofs.Restart
import BranchingStory.Proofs.ByteOrder
import BranchingStory.Proofs.Display
import BranchingStory.Proofs.Listing
import BranchingStory.Proofs.Locations
import BranchingStory.Proofs.Topics
import BranchingStory.Proofs.Dangling
import BranchingStory.Proofs.DeadCode
import BranchingStory.Proofs.FallingThrough
import BranchingStory.Proofs.Demands
import BranchingStory.Proofs.StepDemands
import BranchingStory.Proofs.Mirrored
import BranchingStory.Proofs.ScriptPlaces
import BranchingStory.Proofs.Replay
import BranchingStory.Proofs.VariableNames
import BranchingStory.Proofs.StepLimit
import BranchingStory.Proofs.ScriptValues
import BranchingStory.Proofs.Omissions
import BranchingStory.Proofs.Sessions
import BranchingStory.Proofs.Verdicts
import BranchingStory.Proofs.CaseRuns
import BranchingStory.Proofs.Actions
import BranchingStory.Proofs.Digits
import BranchingStory.Proofs.ScriptedSessions
import BranchingStory.Proofs.JsonTexts
import BranchingStory.Proofs.Recordings
import BranchingStory.Proofs.Warrants
import BranchingStory.Proofs.Strides
import BranchingStory.Proofs.SignalLimit
import BranchingStory.Proofs.Unread
import BranchingStory.Proofs.Updates
import BranchingStory.Proofs.Linear
import BranchingStory.Proofs.NodeSplit
import BranchingStory.Proofs.Prompting
import BranchingStory.Proofs.Resolving
import BranchingStory.Proofs.Judging
import BranchingStory.Proofs.FilePaths
import BranchingStory.Proofs.CaseSearch
