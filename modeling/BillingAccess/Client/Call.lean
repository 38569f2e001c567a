/-
A call of the billing interface, before it is known where the interface is.
-/
import BillingAccess.Network.Message

namespace BillingAccess

structure Call where
  method : Method
  /-- Read against the base URL of the interface, as a link on its page. -/
  path : String
  /-- Segments that are added to the path, each as one. -/
  segments : List String := []
  /-- The parameters, each name once. -/
  params : List (String × String) := []
  body : Option Json.Value := none
  /-- A token for this call alone. -/
  token : Option String := none
deriving Repr

namespace Call

def get (path : String) : Call := { method := .get, path := path }
def post (path : String) : Call := { method := .post, path := path }
def patch (path : String) : Call := { method := .patch, path := path }
def delete (path : String) : Call := { method := .delete, path := path }

/-- Adds a segment. -/
def segment (call : Call) (text : String) : Call :=
  { call with segments := call.segments ++ [text] }

/-- Sets a parameter; an earlier value is dropped, and the parameter moves to
the end. -/
def param (call : Call) (name value : String) : Call :=
  { call with params := call.params.filter (·.1 != name) ++ [(name, value)] }

/-- Sets a parameter if there is a value for it. -/
def param? (call : Call) (name : String) (value : Option String) : Call :=
  match value with
  | some value => call.param name value
  | none => call

def json (call : Call) (body : Json.Value) : Call :=
  { call with body := some body }

def withToken (call : Call) (token : String) : Call :=
  { call with token := some token }

end Call

end BillingAccess
