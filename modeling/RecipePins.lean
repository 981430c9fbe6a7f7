import RecipePins.Main
import RecipePins.Shell.Launch
import RecipePins.Proofs.Rewrite.Frame
import RecipePins.Proofs.Rewrite.Spans
import RecipePins.Proofs.Pin.Coverage
import RecipePins.Proofs.Resolution.Snapshot
import RecipePins.Proofs.History.Filter
import RecipePins.Proofs.History.Account
import RecipePins.Proofs.Config.Layering
import RecipePins.Proofs.Text.ByteOrder
import RecipePins.Proofs.Version.Order
import RecipePins.Proofs.Update.Recipe
import RecipePins.Proofs.History.Choice
import RecipePins.Proofs.History.Restamp
import RecipePins.Proofs.History.Written
import RecipePins.Proofs.History.Blur
import RecipePins.Proofs.History.Numeric
import RecipePins.Proofs.Version.Floor
import RecipePins.Proofs.Config.Loading
import RecipePins.Proofs.Rewrite.Failures
import RecipePins.Proofs.History.Gaps
import RecipePins.Proofs.Version.Beginning
