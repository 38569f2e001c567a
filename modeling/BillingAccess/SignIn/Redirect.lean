/-
Waiting for the browser to come back.

The program listens at the redirect URI, if its machine lets it, and reads what
each visitor sends up to the first empty line.  A visitor that asks for the path of
the redirect URI has come back from the identity server; any other is told that
nothing is there, and one that cannot be understood gets no answer.  Either way
the program goes on waiting.
-/
import BillingAccess.Text.Blank
import BillingAccess.Text.Utf8
import BillingAccess.World

namespace BillingAccess.SignIn

/-- What is made of a visitor. -/
inductive Visit
  /-- It has come back, with this address. -/
  | back (url : Url)
  | elsewhere
  | garbled
deriving Repr, DecidableEq

namespace Visit

/-- What a visitor is answered. -/
def reply : Visit → String
  | .back _ =>
      "HTTP/1.1 200 OK\r\nContent-Type: text/plain\r\nConnection: close\r\n\r\n"
        ++ "Signed in to Hanzo. You may close this tab."
  | .elsewhere => "HTTP/1.1 404 Not Found\r\nContent-Length: 0\r\nConnection: close\r\n\r\n"
  | .garbled => ""

/-- A line without the carriage return before its end. -/
def dropReturn (line : List UInt8) : List UInt8 :=
  if line.getLast? = some 0x0D then line.dropLast else line

/-- The lines that a visitor sends up to the first empty one, or to the end. -/
def headLines (bytes : List UInt8) : List (List UInt8) :=
  ((bytes.splitOn 0x0A).map dropReturn).takeWhile (· ≠ [])

/-- What a visitor asks for: the second word of its first line, if there is one.
All lines have to be text. -/
def target? (bytes : List UInt8) : Option (Option (List Char)) :=
  ((headLines bytes).mapM Utf8.decode?).map fun lines =>
    (lines.head?.bind fun line => (Text.words line)[1]?)

/-- What is made of a visitor at the redirect URI `base`. -/
def ofBytes (base : Url) (bytes : List UInt8) : Visit :=
  match target? bytes with
  | none => .garbled
  | some none => .elsewhere
  | some (some target) =>
      match base.join (String.ofList target) with
      | .error _ => .garbled
      | .ok url => if url.path.text = base.path.text then .back url else .elsewhere

end Visit

/-- Receives visitors in their order until one has come back: the replies, the
address of that one, and the visitors after it. -/
def receive (base : Url) : List (List UInt8) → List String × Option Url × List (List UInt8)
  | [] => ([], none, [])
  | bytes :: rest =>
      match Visit.ofBytes base bytes with
      | .back url => ([(Visit.back url).reply], some url, rest)
      | visit =>
          let (replies, url, left) := receive base rest
          (visit.reply :: replies, url, left)

/-- A place where visitors are received. -/
structure Listener where
  base : Url
  address : String
deriving Repr

/-- Listens at a redirect URI, if the machine lets the program. -/
def listen (uri : String) (ports : Ports := .offline) : Except Fault Listener := do
  let base ← (Url.parse uri).mapError Fault.url
  match base.hostText?, base.portOrKnown? with
  | none, _ => throw (.settings (.redirectWithoutHost uri))
  | some _, none => throw (.settings (.redirectWithoutPort uri))
  | some host, some port =>
      return ⟨base, ← (ports.bind host port).mapError Fault.disk⟩

/-- Waits until a visitor has come back, if one does. -/
def awaitBrowser {σ : Type} (listener : Listener) : StateM (World σ) (Option Url) := fun w =>
  let (replies, url, left) := receive listener.base w.visitors
  (url, { w with visitors := left, replies := w.replies ++ replies })

example : Visit.target? (Utf8.ofString "GET  /x?y HTTP/1.1\r\n\r\nrest")
    = some (some "/x?y".toList) := by
  decide +kernel
example : Visit.target? (Utf8.ofString "\r\nGET /x") = some none := by decide +kernel
example : Visit.target? [0x47, 0xFF] = none := by decide +kernel

end BillingAccess.SignIn
