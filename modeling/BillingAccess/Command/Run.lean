/-
Running a command.
-/
import BillingAccess.Command.Billing
import BillingAccess.Command.SignIn

namespace BillingAccess.Command

/-- What each command does. -/
def run (setting : Setting) : Command → Step Unit
  | login _ listen patience => runLogin setting listen patience
  | callback url => runCallback setting url
  | whoami => runWhoami setting
  | status => runStatus setting
  | logout => runLogout setting
  | refresh => runRefresh setting
  | balance user currency json => runBalance setting user currency json
  | plans json => runPlans setting json
  | subscriptions user json => runSubscriptions setting user json
  | transactions user query json => runTransactions setting user query json
  | usage user json => runUsage setting user json
  | invoices user page json => runInvoices setting user page json

end BillingAccess.Command
