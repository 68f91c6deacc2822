import ConntrackCm.Lib.Run
import ConntrackCm.Lib.Store
import ConntrackCm.Lib.Sharing
import ConntrackCm.Lib.Bytes
import ConntrackCm.Lib.Bits
import ConntrackCm.Lib.Refinement
import ConntrackCm.Lib.Bisimulation
import ConntrackCm.Wire
import ConntrackCm.Tracker
import ConntrackCm.Machine
import ConntrackCm.Message
import ConntrackCm.Index
import ConntrackCm.Lookup
import ConntrackCm.Step
import ConntrackCm.View
import ConntrackCm.Keys
import ConntrackCm.Ownership
import ConntrackCm.Lifetime
import ConntrackCm.History
import ConntrackCm.Agreement
import ConntrackCm.Connections
import ConntrackCm.Independence
import ConntrackCm.Assertions
import ConntrackCm.Isolation
import ConntrackCm.Establishment
import ConntrackCm.Retransmission
import ConntrackCm.Equivalence
import ConntrackCm.Opening
import ConntrackCm.ActiveOpen
import ConntrackCm.PassiveOpen
import ConntrackCm.Lifecycle
import ConntrackCm.Progress
import ConntrackCm.Unexpected
import ConntrackCm.Rejection
import ConntrackCm.Network
import ConntrackCm.Rendezvous
import ConntrackCm.Parser
import ConntrackCm.Acceptance
import ConntrackCm.Annotation
import ConntrackCm.Bounds
import ConntrackCm.Recovery
import ConntrackCm.Cnp
import ConntrackCm.Icrc
import ConntrackCm.Format
import ConntrackCm.Pipeline
import ConntrackCm.Dynfields
import ConntrackCm.Notify
import ConntrackCm.Bth
