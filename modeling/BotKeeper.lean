import BotKeeper.CommandLine.Transcript
import BotKeeper.Machine.Setup
import BotKeeper.Main
import BotKeeper.Process.TaskKill
import BotKeeper.Rehearsal.Basic
import BotKeeper.Proofs.Contact
import BotKeeper.Proofs.Run
import BotKeeper.Proofs.Timeline.Basic
import BotKeeper.Proofs.Timeline.Wait
import BotKeeper.Proofs.Timeline.Schedule
import BotKeeper.Proofs.Timeline.Poll
import BotKeeper.Proofs.Timeline.Stop
import BotKeeper.Proofs.Timeline.Drive
import BotKeeper.Proofs.Timeline.Law
import BotKeeper.Proofs.Timeline.Escalation
import BotKeeper.Proofs.Lockstep
import BotKeeper.Proofs.Observed
import BotKeeper.Proofs.Trace
import BotKeeper.Proofs.SessionTrace
import BotKeeper.Proofs.Following
import BotKeeper.Proofs.Lifecycle
import BotKeeper.Proofs.Course
import BotKeeper.Proofs.StrayTargets
import BotKeeper.Proofs.Honest
import BotKeeper.Proofs.Sweep
import BotKeeper.Proofs.Moments
import BotKeeper.Proofs.Interruption
import BotKeeper.Proofs.Json.Reads
import BotKeeper.Proofs.Json.Spelling
import BotKeeper.Proofs.Register
import BotKeeper.Proofs.Guard
import BotKeeper.Proofs.OldRecord
import BotKeeper.Proofs.Farewell
import BotKeeper.Proofs.RecordUse
import BotKeeper.Proofs.Neighbours
import BotKeeper.Proofs.Json.Accepted
import BotKeeper.Proofs.Json.Covering
import BotKeeper.Proofs.Settings.Files
import BotKeeper.Proofs.Settings.Decoding
import BotKeeper.Proofs.Disk.Walk
import BotKeeper.Proofs.Disk.File
import BotKeeper.Proofs.Disk.Entries
import BotKeeper.Proofs.RecordFile
import BotKeeper.Proofs.Json.Advance
import BotKeeper.Proofs.Json.Skipping
import BotKeeper.Proofs.Json.Lookup
import BotKeeper.Proofs.Settings.Keys
import BotKeeper.Proofs.Settings.Priority
import BotKeeper.Proofs.Settings.Emptied
import BotKeeper.Proofs.Project.Calls
import BotKeeper.Proofs.Project.Prerequisites
import BotKeeper.Proofs.Project.Rebuilding
import BotKeeper.Proofs.Project.Ownership
import BotKeeper.Proofs.Project.Listing
import BotKeeper.Proofs.Project.Installing
import BotKeeper.Proofs.Project.Rechecking
import BotKeeper.Proofs.Project.Unfinished
import BotKeeper.Proofs.Project.CheckedNpm
import BotKeeper.Proofs.Outcomes
import BotKeeper.Proofs.Tally
import BotKeeper.Proofs.Unlaunched
import BotKeeper.Proofs.ExitCodes
import BotKeeper.Proofs.RecordAside
import BotKeeper.Proofs.Pattern.Places
import BotKeeper.Proofs.Pattern.Matching
import BotKeeper.Proofs.Pattern.Escaping
import BotKeeper.Proofs.Pattern.Managed
import BotKeeper.Proofs.Pattern.EntryLines
import BotKeeper.Proofs.Recognition
import BotKeeper.Proofs.Text.Blanks
