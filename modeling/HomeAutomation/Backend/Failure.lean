import HomeAutomation.Backend.Transport
import HomeAutomation.Text.Blank
import HomeAutomation.Text.CodePoint
import HomeAutomation.Text.Part
import HomeAutomation.Url

/-!
# Errors of the backends

Why the platform or the hub did not do what it was asked. An error keeps its cause; `message` says
it in words and `status?` gives the status that came with it. What goes wrong inside the transport
and is not the network's fault is kept apart (`Failure`). One case of it counts as an error all the
same: an error of a backend that the transport itself raises on the way to the platform
(`PlatformError.raised`).

The id of an automation becomes a part of an address. An id with a surrogate in it cannot, and the
attempt ends before anything is asked (`Dialogue.addressed`).
-/

namespace HomeAutomation

open Text

inductive PlatformError where
  | notConfigured
  | unreachable (fault : Fault)
  | sessionExpired (status : Int)
  | declined (status : Int) (detail : String)
  /-- The platform answered well but says that it failed, and perhaps why. -/
  | reported (status : Int) (detail : Option String)
  /-- The transport itself raised an error of a backend, whichever backend that is. -/
  | raised (whose : Option Backend) (status : Option Int) (detail : String)
  deriving DecidableEq, Repr

namespace PlatformError

def message : PlatformError → String
  | notConfigured => "Platform API is not configured. Set PLATFORM_API_URL."
  | unreachable _ => "Unable to reach the platform. Please try again."
  | sessionExpired _ => "Session expired, please log in again."
  | declined status detail =>
    if detail.isEmpty then "Request failed (" ++ toString status ++ ")" else detail
  | reported _ detail => detail.getD "Request failed"
  | raised _ _ detail => detail

def status? : PlatformError → Option Int
  | notConfigured | unreachable _ => none
  | sessionExpired status | declined status _ | reported status _ => some status
  | raised _ status _ => status

def fault? : PlatformError → Option Fault
  | unreachable fault => some fault
  | _ => none

end PlatformError

inductive HubError where
  | unreachable (url : String) (fault : Fault)
  | declined (status : Int) (detail : String)
  deriving DecidableEq, Repr

namespace HubError

def localNameHint : String :=
  "Some devices cannot resolve .local hostnames; use the hub's IP address " ++
    "(e.g. http://192.168.1.10:8123) instead."

def sameNetworkHint : String :=
  "Make sure you are on the same Wi-Fi as the hub."

def isLocalName (host : String) : Bool :=
  ".local".toList.isSuffixOf host.toList

def hints (url : String) : List String :=
  match Url.parse? url with
  | some parts =>
    (if isLocalName parts.host then [localNameHint] else []) ++
      (if parts.scheme = "http" then [sameNetworkHint] else [])
  | none => []

def networkMessage (url detail : String) : String :=
  let advice := (hints url).map (" " ++ ·)
  "Hub network issue: " ++ detail ++ "." ++ String.join advice ++ " Please try again."

def message : HubError → String
  | unreachable url fault => networkMessage url fault.message
  | declined status detail =>
    "Hub could not complete that request (" ++ toString status ++ "). " ++
      (if detail.isEmpty then "Please try again." else detail)

def status? : HubError → Option Int
  | unreachable .. => none
  | declined status _ => some status

def fault? : HubError → Option Fault
  | unreachable _ fault => some fault
  | declined .. => none

end HubError

/-- Why an attempt failed: an error of the backend, or a fault inside the transport. -/
inductive Failure (ε : Type) where
  | told (error : ε)
  | foreign (fault : Fault)
  deriving DecidableEq, Repr

def Failure.ofFault {ε : Type} (unreachable : Fault → ε) (fault : Fault) : Failure ε :=
  if fault.kind.isNetwork then .told (unreachable fault) else .foreign fault

/-- The failure that a fault of the transport to the platform means. -/
def PlatformError.ofFault (fault : Fault) : Failure PlatformError :=
  match fault.kind with
  | .backend whose status => .told (.raised whose status fault.message)
  | _ => .ofFault unreachable fault

theorem PlatformError.ofFault_of_isNetwork {fault : Fault} (h : fault.kind.isNetwork = true) :
    ofFault fault = .told (unreachable fault) := by
  obtain ⟨kind, message⟩ := fault
  cases kind <;> first | rfl | cases h

def Fault.unencodable (id : WideText) : Fault :=
  ⟨.other "UnicodeEncodeError", id.encodingMessage⟩

/-- An attempt with an id that stands in the address. An id that has no encoding ends it before
anything is asked. -/
def Dialogue.addressed {ε α : Type} (id : WideText)
    (attempt : String → Dialogue (Except (Failure ε) α)) : Dialogue (Except (Failure ε) α) :=
  match id.text? with
  | some s => attempt s
  | none => .done (.error (.foreign (.unencodable id)))

@[simp] theorem Dialogue.addressed_ofString {ε α : Type} (s : String)
    (attempt : String → Dialogue (Except (Failure ε) α)) :
    addressed (.ofString s) attempt = attempt s := by
  rw [addressed, WideText.text?_ofString]

theorem Dialogue.addressed_of_none {ε α : Type} {id : WideText} (h : id.text? = none)
    (attempt : String → Dialogue (Except (Failure ε) α)) :
    addressed id attempt = done (.error (.foreign (.unencodable id))) := by
  rw [addressed, h]

end HomeAutomation
