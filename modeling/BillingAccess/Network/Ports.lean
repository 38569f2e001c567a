/-
Where a program can listen.

A program asks its machine by the name of a host and a port.  What the name
stands for, which addresses are the machine's own and who may have which port is
for the machine to say.
-/
import BillingAccess.Fault
import BillingAccess.Text.Case
import BillingAccess.Url.Host

namespace BillingAccess

/-- The ports of a machine. -/
structure Ports where
  /-- The address at which the program then listens by a name and a port, unless
  the machine refuses. -/
  bind : String → Nat → Except DiskFault String

namespace Ports

/-- Whether a machine without a net can listen at an address: its own ones, and
those of groups and of all machines. -/
def isOwn (address : UInt32) : Bool :=
  let n := address.toNat
  n == 0 || n / 0x1000000 == 127 || n / 0x10000000 == 0xE || n == 0xFFFFFFFF

/-- The address that a name stands for there, in its short forms as well. -/
def addressOf? (name : String) : Option UInt32 :=
  if Text.lower name = "localhost" then some 0x7F000001
  else if name.toList.getLast? = some '.' then none
  else Url.readIpv4? name.toList

/-- A machine without a net, whose user has the ports from 1024 on.  It chooses
a port itself if that is zero. -/
def offline : Ports where
  bind host port :=
    match addressOf? host with
    | none => .error .unclassified
    | some address =>
        if !isOwn address then .error .addressUnavailable
        else if 0 < port ∧ port < 1024 then .error .permissionDenied
        else .ok (Url.Host.ipv4 address).text

end Ports

end BillingAccess
