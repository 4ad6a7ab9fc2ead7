import AttributeArguments.Description
import AttributeArguments.Pass.Combined
import AttributeArguments.Recorder.Bound
import AttributeArguments.Recorder.Paired
import AttributeArguments.Recorder.Written
import AttributeArguments.Proofs.Delivery
import AttributeArguments.Proofs.Merge
import AttributeArguments.Proofs.Alignment
import AttributeArguments.Proofs.SplitAgreement
import AttributeArguments.Proofs.Accounting
import AttributeArguments.Proofs.Initialization
import AttributeArguments.Proofs.Ledger
import AttributeArguments.Proofs.Absence
import AttributeArguments.Proofs.Coverage
import AttributeArguments.Proofs.Fitting
import AttributeArguments.Proofs.Product
import AttributeArguments.Proofs.Interference
import AttributeArguments.Proofs.Verdict
import AttributeArguments.Proofs.Relabelling
import AttributeArguments.Proofs.Service
import AttributeArguments.Proofs.Shuffle
import AttributeArguments.Proofs.Wrapping
import AttributeArguments.Proofs.Freezing
import AttributeArguments.Proofs.Bulk
import AttributeArguments.Proofs.Interruption
import AttributeArguments.Proofs.Rearrangement
import AttributeArguments.Proofs.Spelling
import AttributeArguments.Proofs.Arity
import AttributeArguments.Proofs.Handover
import AttributeArguments.Proofs.Misfit
import AttributeArguments.Proofs.Parentheses
import AttributeArguments.Proofs.Observation
import AttributeArguments.Proofs.Stripping
