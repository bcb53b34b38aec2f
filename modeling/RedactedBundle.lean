import RedactedBundle.Main
import RedactedBundle.Session.Operation
import RedactedBundle.CommandLine.Run
import RedactedBundle.App.Press
import RedactedBundle.App.Draw
import RedactedBundle.Settings.Layers
import RedactedBundle.Redaction
import RedactedBundle.Source.OfText
import RedactedBundle.Source.Outline
import RedactedBundle.Proofs.Text.Edited
import RedactedBundle.Proofs.Source.WellFormed
import RedactedBundle.Proofs.Redaction.EditScript
import RedactedBundle.Proofs.Redaction.Concealment
import RedactedBundle.Proofs.Source.Lowering
import RedactedBundle.Proofs.Source.Outline
import RedactedBundle.Proofs.Source.ExpressionBody
import RedactedBundle.Proofs.Document.Delivery
import RedactedBundle.Proofs.Session.Coherence
import RedactedBundle.Proofs.App.Coherence
import RedactedBundle.Proofs.Document.Determined
import RedactedBundle.Proofs.CommandLine.Agreement
import RedactedBundle.Proofs.CommandLine.AllOrNothing
import RedactedBundle.Proofs.Redaction.Kept
import RedactedBundle.Proofs.Session.Snapshots
import RedactedBundle.Proofs.App.Scroll
import RedactedBundle.Proofs.CommandLine.WholeFolder
import RedactedBundle.Proofs.Session.Hiding
import RedactedBundle.Proofs.App.Failures
import RedactedBundle.Proofs.App.Effects
import RedactedBundle.Proofs.CommandLine.Rerun
import RedactedBundle.Proofs.Redaction.Offered
import RedactedBundle.Proofs.Redaction.Collapsed
import RedactedBundle.Proofs.Files.Reading
import RedactedBundle.Proofs.Files.Scan
import RedactedBundle.Proofs.Preview
