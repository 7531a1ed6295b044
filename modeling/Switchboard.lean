import Switchboard.Admin
import Switchboard.Main
import Switchboard.Scenario.Isolation
import Switchboard.Scenario.Machine
import Switchboard.Scenario.Registry
import Switchboard.Scenario.Report
import Switchboard.Wire.Reader
import Switchboard.Proofs.Change
import Switchboard.Proofs.ConnectionKey
import Switchboard.Proofs.Registration
import Switchboard.Proofs.Seats
import Switchboard.Proofs.Tenancy
import Switchboard.Proofs.Holding
import Switchboard.Proofs.Ledger
import Switchboard.Proofs.Run
import Switchboard.Proofs.Delivery
import Switchboard.Proofs.Stall
import Switchboard.Proofs.Routing
import Switchboard.Proofs.Slots
import Switchboard.Proofs.Posting
import Switchboard.Proofs.Replies
import Switchboard.Proofs.Ownership
import Switchboard.Proofs.Ending
import Switchboard.Proofs.Freshness
import Switchboard.Proofs.Pending
import Switchboard.Proofs.Deadline
import Switchboard.Proofs.Codes
import Switchboard.Proofs.Encoding
import Switchboard.Proofs.Framing
import Switchboard.Proofs.Fields
import Switchboard.Proofs.Streams
import Switchboard.Proofs.Abandonment
import Switchboard.Proofs.Stranding
import Switchboard.Proofs.Directory
import Switchboard.Proofs.Closing
import Switchboard.Proofs.Restart
import Switchboard.Proofs.Grammar
import Switchboard.Proofs.Admission
import Switchboard.Proofs.Shutdown
import Switchboard.Proofs.Containment
import Switchboard.Proofs.Reuse
import Switchboard.Proofs.Breakdown
import Switchboard.Proofs.Course
import Switchboard.Proofs.Placement
import Switchboard.Proofs.Calls
import Switchboard.Proofs.Relay
import Switchboard.Proofs.Takeover
import Switchboard.Proofs.Trail
import Switchboard.Proofs.Handshake
import Switchboard.Proofs.Beat
import Switchboard.Proofs.JsonText
import Switchboard.Proofs.Metadata
import Switchboard.Proofs.Judgement
import Switchboard.Proofs.Validity
import Switchboard.Proofs.Occurrence
import Switchboard.Proofs.KeySequence
import Switchboard.Proofs.Meters
import Switchboard.Proofs.Reporting
import Switchboard.Proofs.Attendance
import Switchboard.Proofs.Balance
import Switchboard.Proofs.PendingGauge
