import SourceTutor.Address.Reader
import SourceTutor.Chat.Fault

/-!
# The address of the service

Requests go to one path below the base address and bear the key. A request fails as it is put
together when the address cannot be read, has no host or has a scheme other than `http` and `https`,
and when the key cannot stand in one line. Otherwise it is sent, and a service that cannot be
reached answers it with a network failure that names the address.
-/

set_option autoImplicit false

namespace SourceTutor.Chat

/-- Where requests go, and with which key. -/
structure Endpoint where
  address : String
  key : String
  deriving DecidableEq

namespace Endpoint

/-- The text without the slashes at its end. -/
def trimSlashes (s : String) : String :=
  String.ofList (s.toList.reverse.dropWhile (· == '/')).reverse

/-- The endpoint below a base address. -/
def ofBase (base key : String) : Endpoint := ⟨trimSlashes base ++ "/chat/completions", key⟩

/-- Whether a key can stand in one line: it has no control character but the tab. -/
def isUsableKey (key : String) : Bool :=
  key.toList.all fun c => c == '\t' || (0x20 ≤ c.toNat && c.toNat != 0x7F)

/-- The greatest length of an address to which a request can be sent. -/
def longestAddress : Nat := 65534

/-- Whether a request can be sent to an address: its scheme is `http` or `https`, its host has no
double quote, backquote or brace, and it is not too long. -/
def isUsable (a : Address) : Bool :=
  (a.scheme == "http".toList || a.scheme == "https".toList) &&
    ((a.host.map Address.Host.text).getD []).all (· ∉ ['"', '\x60', '\x7b', '\x7d']) &&
    a.text.length ≤ longestAddress

/-- What becomes of a request when the service is not reached. The user that an address names goes
into the request and is not shown. -/
def unreachable (e : Endpoint) : Reply :=
  match Address.parse? e.address with
  | none => .error (.network "builder error")
  | some a =>
    if !a.hasHost then .error (.network ("builder error for url (" ++ a.text ++ ")"))
    else if !isUsableKey e.key then .error (.network "builder error")
    else
      let shown := a.withoutUser
      if isUsable shown then
        .error (.network ("error sending request for url (" ++ shown.text ++ ")"))
      else .error (.network ("builder error for url (" ++ shown.text ++ ")"))

end Endpoint

end SourceTutor.Chat
