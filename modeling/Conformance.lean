import Conformance.Analysis
import Conformance.CommandLine.Parse
import Conformance.Factory
import Conformance.Invocation
import Conformance.Main
import Conformance.Outputs
import Conformance.Program
import Conformance.Run
import Conformance.Suite.Standard
import Conformance.Volume.Standard
import Conformance.Proofs.Agreement
import Conformance.Proofs.Plan
import Conformance.Proofs.FirstFailure
import Conformance.Proofs.Records
import Conformance.Proofs.Truncation
import Conformance.Proofs.Verdict
import Conformance.Proofs.FalseAlarms
import Conformance.Proofs.Encoding
import Conformance.Proofs.Transcript
import Conformance.Proofs.JsonReader
import Conformance.Proofs.JsonLines
import Conformance.Proofs.MismatchLines
import Conformance.Proofs.Regrouping
import Conformance.Proofs.FactoryHistory
import Conformance.Proofs.Forwarding
import Conformance.Proofs.RefusedEvents
import Conformance.Proofs.MismatchEntries
import Conformance.Proofs.DelayGrammar
import Conformance.Proofs.Quoting
import Conformance.Proofs.FullPeriod
import Conformance.Proofs.ExactRange
import Conformance.Proofs.Descriptions
import Conformance.Proofs.LineReading
import Conformance.Proofs.ErrorChains
import Conformance.Proofs.GuardedCalls
import Conformance.Proofs.ExitCodes
