import MeetingRoom.Main
import MeetingRoom.Proofs.Feed.Interleaving
import MeetingRoom.Proofs.Session.LiveStep
import MeetingRoom.Proofs.Session.PlanArrival
import MeetingRoom.Proofs.Session.Activity
import MeetingRoom.Proofs.Session.Progress
import MeetingRoom.Proofs.Json.ReadBack
import MeetingRoom.Proofs.Session.Tally
import MeetingRoom.Proofs.Event.Stability
import MeetingRoom.Proofs.Session.Requests
import MeetingRoom.Proofs.Session.Transcript
import MeetingRoom.Proofs.Session.Streams
import MeetingRoom.Proofs.Watch.Opening
import MeetingRoom.Proofs.Session.Pumping
import MeetingRoom.Proofs.Feed.Forwarding
import MeetingRoom.Proofs.Event.Contents
import MeetingRoom.Proofs.Event.Compatibility
import MeetingRoom.Proofs.Server.BaseAddress
import MeetingRoom.Proofs.Server.Parameters
import MeetingRoom.Proofs.Watch.Printing
import MeetingRoom.Proofs.Event.TextForm
import MeetingRoom.Proofs.Config.Environment
import MeetingRoom.Proofs.Session.Redeclaration
