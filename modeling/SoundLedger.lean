import SoundLedger.Main
import SoundLedger.Proofs.Ledger.Append
import SoundLedger.Proofs.Ledger.Warn
import SoundLedger.Proofs.Session.Frame
import SoundLedger.Proofs.Session.Lookup
import SoundLedger.Proofs.CommandLine.Rendering
import SoundLedger.Proofs.Equality
import SoundLedger.Proofs.Fingerprint
import SoundLedger.Proofs.Measurement
import SoundLedger.Proofs.Position
import SoundLedger.Proofs.Record.History
