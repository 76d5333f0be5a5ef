import CallAudio.Files.Folder
import CallAudio.Json.Read
import CallAudio.Main
import CallAudio.Proofs.Alarm
import CallAudio.Proofs.Log
import CallAudio.Stack.Scripted
import CallAudio.Proofs.Notices
import CallAudio.Proofs.Retry
import CallAudio.Proofs.Provenance
import CallAudio.Proofs.Serial
import CallAudio.Proofs.Listed
import CallAudio.Proofs.Cause
import CallAudio.Proofs.Rest
import CallAudio.Proofs.Replay
import CallAudio.Proofs.Settling
import CallAudio.Proofs.Covered
import CallAudio.Proofs.Succession
import CallAudio.Proofs.Renaming
import CallAudio.Proofs.Availability
import CallAudio.Proofs.Refusal
import CallAudio.Proofs.Request
import CallAudio.Proofs.Spared
import CallAudio.Proofs.Atomic
import CallAudio.Proofs.Blame
import CallAudio.Proofs.Latest
import CallAudio.Proofs.Repeated
import CallAudio.Proofs.Audience
import CallAudio.Proofs.Splitting
import CallAudio.Proofs.Reading
import CallAudio.Proofs.Output
import CallAudio.Proofs.Settings
import CallAudio.Proofs.Waits
