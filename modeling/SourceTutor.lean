import SourceTutor.Main
import SourceTutor.Proofs.Queue.Calls
import SourceTutor.Proofs.Queue.BatchSize
import SourceTutor.Proofs.Chat.Asking
import SourceTutor.Proofs.Json.RoundTrip
import SourceTutor.Proofs.Queue.Document
import SourceTutor.Proofs.FileName
import SourceTutor.Proofs.FileTree.Nodes
import SourceTutor.Proofs.FileTree.Walk
import SourceTutor.Proofs.FileTree.Resolve
import SourceTutor.Proofs.FileTree.Effects
import SourceTutor.Proofs.FileTree.Making
import SourceTutor.Proofs.Queue.Register
import SourceTutor.Proofs.Queue.Partition
import SourceTutor.Proofs.FileTree.Finds
import SourceTutor.Proofs.Queue.History
import SourceTutor.Proofs.Queue.Rescan
import SourceTutor.Proofs.Queue.Refilling
import SourceTutor.Proofs.Queue.Resumption
import SourceTutor.Proofs.Queue.AtomicRegister
import SourceTutor.Proofs.Queue.Interruption
import SourceTutor.Proofs.Queue.Advance
import SourceTutor.Proofs.Queue.Rounds
import SourceTutor.Proofs.FileTree.LinkFree
import SourceTutor.Proofs.Lesson.Answers
import SourceTutor.Proofs.Lesson.ArtifactKeys
import SourceTutor.Proofs.Lesson.Explaining
import SourceTutor.Proofs.Lesson.Lasting
import SourceTutor.Proofs.FileTree.Room
import SourceTutor.Proofs.Lesson.Completing
import SourceTutor.Proofs.Queue.Stopping
import SourceTutor.Proofs.Chat.Sending
import SourceTutor.Proofs.Lesson.Dialogue
import SourceTutor.Proofs.FileTree.Below
import SourceTutor.Proofs.Lesson.Finding
import SourceTutor.Proofs.Lesson.Listed
import SourceTutor.Proofs.FileTree.Growing
import SourceTutor.Proofs.Lesson.Surviving
import SourceTutor.Proofs.FileTree.Listing
import SourceTutor.Proofs.Lesson.Grouping
import SourceTutor.Proofs.Lesson.Linking
import SourceTutor.Proofs.Lesson.Arranging
import SourceTutor.Proofs.Lesson.Rebuilding
import SourceTutor.Proofs.FileTree.Siblings
import SourceTutor.Proofs.Lesson.Naming
import SourceTutor.Proofs.Binary.Rounding
import SourceTutor.Proofs.CommandLine.Values
import SourceTutor.Proofs.Settings.Loaded
import SourceTutor.Proofs.Settings.Waits
import SourceTutor.Proofs.FileTree.Gaining
import SourceTutor.Proofs.Lesson.Unbroken
import SourceTutor.Proofs.Program.Refusing
import SourceTutor.Proofs.Program.Running
import SourceTutor.Proofs.Chat.Backoff
import SourceTutor.Proofs.Chat.Counting
import SourceTutor.Proofs.Settings.Safety
import SourceTutor.Proofs.Text.Pattern
import SourceTutor.Proofs.Lesson.Definitions
import SourceTutor.Proofs.Lesson.Excerpts
import SourceTutor.Proofs.FileTree.Changing
import SourceTutor.Proofs.Lesson.Outcomes
import SourceTutor.Proofs.Lesson.Condensing
import SourceTutor.Proofs.Json.Grammar
import SourceTutor.Proofs.Json.Editing
import SourceTutor.Proofs.Chat.Tolerance
import SourceTutor.Proofs.Settings.Keys
import SourceTutor.Proofs.Text.Utf8
import SourceTutor.Proofs.Lesson.Reading
