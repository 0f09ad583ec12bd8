import LineShell.Completion
import LineShell.Main
import LineShell.Proofs.Command.Faults
import LineShell.Proofs.Command.Understood
import LineShell.Proofs.CommandLine.Levels
import LineShell.Proofs.Completion.Accepting
import LineShell.Proofs.Lookup.Agreement
import LineShell.Proofs.Lookup.First
import LineShell.Proofs.Session.Stages
import LineShell.Proofs.Shell.Coherence
import LineShell.Proofs.Shell.Ending
import LineShell.Proofs.Shell.Fold
import LineShell.Proofs.Shell.Moving
import LineShell.Proofs.Shell.Policies
import LineShell.Proofs.Shell.Report
import LineShell.Proofs.Shell.Returning
import LineShell.Proofs.Shell.Store
import LineShell.Proofs.Shell.Survival
import LineShell.Proofs.Shell.Wording
import LineShell.Proofs.Token.Runs
import LineShell.Proofs.Token.Writing
import LineShell.Proofs.Volume.Filing
