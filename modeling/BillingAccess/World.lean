/-
What the program touches: a store of tokens, a clock, a source of random
bytes, the net, the ports of its machine, the browsers that call on it, and its
own output.

Every request that is made is noted with the store as it was at that moment.
-/
import BillingAccess.Network.Message
import BillingAccess.Network.Ports
import BillingAccess.SignIn.Pkce
import BillingAccess.Storage.TokenStore

namespace BillingAccess

/-- The way to the peers, and what they reply, one reply for each request. -/
structure Network where
  /-- Whether there is a way at all. -/
  connected : Bool := true
  /-- Whether peers are met with encryption as well as without. -/
  encrypted : Bool := false
  reply : Nat → Reply
  /-- How many replies have been used. -/
  used : Nat := 0

namespace Network

/-- Whether a request to an address comes to its peer. -/
def delivers (network : Network) (url : Url) : Bool :=
  network.connected &&
    (url.scheme == "http" || network.encrypted && url.scheme == "https")

/-- What the net makes of a request that can be sent. -/
def exchange (network : Network) (url : Url) : Outcome × Network :=
  if network.delivers url then
    let outcome : Outcome :=
      match network.reply network.used with
      | .answer status body => .answered status body
      | .hangUp => .failed (.closed (Request.publicUrl url).text)
      | .silence => .unanswered
    (outcome, { network with used := network.used + 1 })
  else (.failed (.unreachable (Request.publicUrl url).text), network)

end Network

/-- A request that was made, by one call of the HTTP client.  It is delivered
unless it could not be sent. -/
structure Attempt (σ : Type) where
  request : Request
  delivered : Bool
  /-- The store when the request was made. -/
  store : σ

/-- Where a sign-in stands. -/
inductive Stage
  | idle
  | authorizing
  | callbackPending
  | authenticated
  | failed
deriving Repr, DecidableEq

def Stage.name : Stage → String
  | .idle => "Idle"
  | .authorizing => "Authorizing"
  | .callbackPending => "CallbackPending"
  | .authenticated => "Authenticated"
  | .failed => "Failed"

/-- The last sign-in or refresh has come to an end. -/
def Stage.isTerminal : Stage → Bool
  | .authenticated | .failed => true
  | _ => false

structure World (σ : Type) where
  store : σ
  /-- The time in milliseconds. -/
  now : Int64
  /-- The times that the clock shows afterwards, a new one whenever it has been
  read, until it stands still. -/
  later : List Int64 := []
  random : SignIn.RandomSource
  network : Network
  /-- Where the machine lets the program listen. -/
  ports : Ports := .offline
  stage : Stage := .idle
  attempts : List (Attempt σ) := []
  /-- What browsers send while the program waits for them, one after another. -/
  visitors : List (List UInt8) := []
  /-- What the browsers were answered. -/
  replies : List String := []
  /-- Everything that was printed. -/
  printed : String := ""

namespace World

variable {σ : Type}

/-- A step on the store alone. -/
def onStore {α : Type} (action : Action σ α) : Action (World σ) α :=
  ExceptT.mk (Action.within World.store (fun s w => { w with store := s }) action.run)

/-- A reading of the store that cannot fail. -/
def readStore {α : Type} (reading : StateM σ α) : StateM (World σ) α :=
  Action.within World.store (fun s w => { w with store := s }) reading

/-- Makes a request.  The outcome is what the HTTP client gives back in the end,
so redirects that it follows by itself are all inside the one attempt. -/
def send (request : Request) : StateM (World σ) Outcome := fun w =>
  match request.destination with
  | .ok url =>
      let (outcome, network) := w.network.exchange url
      (outcome, { w with
        attempts := w.attempts ++ [⟨request, w.network.delivers url, w.store⟩]
        network := network })
  | .error fault =>
      (.failed fault, { w with attempts := w.attempts ++ [⟨request, false, w.store⟩] })

/-- Reads the clock.  It may have moved when it is read again. -/
def readClock : StateM (World σ) Int64 := fun w =>
  match w.later with
  | [] => (w.now, w)
  | time :: later => (w.now, { w with now := time, later := later })

def setStage (stage : Stage) : StateM (World σ) Unit :=
  modify fun w => { w with stage := stage }

/-- Prints a text and ends the line. -/
def printLine (text : String) : StateM (World σ) Unit :=
  modify fun w => { w with printed := w.printed ++ text ++ "\n" }

end World

end BillingAccess
