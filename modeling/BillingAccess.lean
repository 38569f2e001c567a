import BillingAccess.Billing.Catalogue
import BillingAccess.Main
import BillingAccess.Proofs.Billing.Nulls
import BillingAccess.Proofs.Billing.Payloads
import BillingAccess.Proofs.Billing.Records
import BillingAccess.Proofs.Client.Amounts
import BillingAccess.Proofs.Client.Credentials
import BillingAccess.Proofs.Client.Parameters
import BillingAccess.Proofs.Command.KnownUser
import BillingAccess.Proofs.Command.Listening
import BillingAccess.Proofs.Network.Body
import BillingAccess.Proofs.Session.Expiry
import BillingAccess.Proofs.Session.Failures
import BillingAccess.Proofs.Settings.ClientToken
import BillingAccess.Proofs.Settings.Validated
import BillingAccess.Proofs.SignIn.Announcement
import BillingAccess.Proofs.SignIn.Challenge
import BillingAccess.Proofs.SignIn.FirstValues
import BillingAccess.Proofs.SignIn.Gate
import BillingAccess.Proofs.SignIn.Identity
import BillingAccess.Proofs.SignIn.Randomness
import BillingAccess.Proofs.SignIn.RefreshToken
import BillingAccess.Proofs.SignIn.Restart
import BillingAccess.Proofs.SignIn.ReturnedUser
import BillingAccess.Proofs.SignIn.SingleUse
import BillingAccess.Proofs.SignIn.Stage
import BillingAccess.Proofs.Storage.Handles
import BillingAccess.Proofs.Storage.Removal
