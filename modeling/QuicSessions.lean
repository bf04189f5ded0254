import QuicSessions.Release
import QuicSessions.Scenario.Isolated
import QuicSessions.Scenario.Lone
import QuicSessions.Scenario.Pair
import QuicSessions.Scenario.Runners
import QuicSessions.Proofs.Dispatchers.Stranding
import QuicSessions.Proofs.Dispatchers.Tables
import QuicSessions.Proofs.Instances.Handles
import QuicSessions.Proofs.Sessions.Chronicles
import QuicSessions.Proofs.Sessions.Tolls
import QuicSessions.Proofs.Sessions.Farewells
import QuicSessions.Proofs.Sessions.Goodbyes
import QuicSessions.Proofs.Sessions.Outcomes
import QuicSessions.Proofs.Sessions.Reading
import QuicSessions.Proofs.Streams.Monitor
import QuicSessions.Proofs.Streams.Sending
import QuicSessions.Proofs.Dispatchers.Lives
import QuicSessions.Proofs.Sessions.Voices
import QuicSessions.Proofs.Dispatchers.Shares
import QuicSessions.Proofs.Dispatchers.Biographies
import QuicSessions.Proofs.Dispatchers.Announcements
import QuicSessions.Proofs.Dispatchers.Partings
import QuicSessions.Proofs.Dispatchers.Verdicts
import QuicSessions.Proofs.Sessions.Faultless
import QuicSessions.Proofs.Dispatchers.Shutdowns
import QuicSessions.Proofs.Dispatchers.Attendance
import QuicSessions.Proofs.Dispatchers.Isolation
import QuicSessions.Proofs.Sessions.Numbers
import QuicSessions.Proofs.Runners.Interleavings
import QuicSessions.Proofs.Dispatchers.Admission
import QuicSessions.Proofs.Sessions.Credit
import QuicSessions.Proofs.Sessions.Grants
import QuicSessions.Proofs.Sessions.Introductions
import QuicSessions.Proofs.Sessions.Lookups
import QuicSessions.Proofs.Sessions.Refusals
import QuicSessions.Proofs.Sessions.Terminations
import QuicSessions.Proofs.Dispatchers.Reclaiming
import QuicSessions.Proofs.Sessions.Pings
import QuicSessions.Proofs.Streams.Buffering
import QuicSessions.Proofs.Sessions.Endings
import QuicSessions.Proofs.Instances.Overflows
import QuicSessions.Proofs.Instances.Silences
import QuicSessions.Proofs.Streams.Counting
import QuicSessions.Proofs.Sessions.Agreements
import QuicSessions.Proofs.Dispatchers.Mistakes
import QuicSessions.Proofs.Config.Rereading
import QuicSessions.Proofs.Runners.Slots
import QuicSessions.Proofs.Sessions.Wakeups
