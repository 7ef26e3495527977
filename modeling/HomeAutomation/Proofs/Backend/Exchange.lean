import HomeAutomation.Backend.Hub
import HomeAutomation.Backend.Platform

/-!
# Attempts as exchanges

An exchange sends one request and reads the reply. Every attempt on the hub is an exchange, and so
is every attempt on the platform unless the platform has no address; then nothing is sent at all
(`Platform.tried`). Both forms are kept when only the outcome is mapped, so an attempt is known by
its order and by how it reads the reply. An order is what a backend is asked to do, and the backend
adds where it is reached and how long to wait (`Platform.requestOf`, `Hub.requestOf`).
-/

namespace HomeAutomation

/-- What a backend is asked to do. -/
structure Order where
  method : String
  /-- The place below the address of the backend. -/
  path : String
  body : Json

namespace Dialogue

variable {α β σ : Type}

/-- One request, and what the reply to it comes to. -/
def exchange (request : Request) (read : Reply → α) : Dialogue α :=
  .ask request fun reply => .done (read reply)

theorem run_exchange (transport : σ → Request → Reply × σ) (request : Request)
    (read : Reply → α) (s : σ) :
    (exchange request read).run transport s =
      (read (transport s request).1, [request], (transport s request).2) := rfl

@[simp] theorem map_exchange (f : α → β) (request : Request) (read : Reply → α) :
    (exchange request read).map f = exchange request fun reply => f (read reply) := rfl

end Dialogue

namespace Platform

variable {α β σ : Type}

def requestOf (platform : Platform) (order : Order) : Request :=
  ⟨order.method, platform.url ++ order.path, [("Content-Type", "application/json")], order.body,
    platform.timeout⟩

/-- An attempt of one exchange. Without an address of the platform nothing is sent. -/
def tried (platform : Platform) (order : Order)
    (read : Reply → Except (Failure PlatformError) α) : Attempt α :=
  if platform.url.isEmpty then .done (.error (.told .notConfigured))
  else .exchange (platform.requestOf order) read

theorem request_eq_tried (platform : Platform) (method path : String) (body : Json) :
    platform.request method path body = platform.tried ⟨method, path, body⟩ conclude := rfl

theorem map_tried (platform : Platform) (order : Order)
    (read : Reply → Except (Failure PlatformError) α) (f : α → β) :
    (platform.tried order read).map (fun r => r.map f) =
      platform.tried order fun reply => (read reply).map f := by
  unfold tried
  split
  · rfl
  · rfl

/-- The run of an attempt: without an address there is a failure and no request. -/
theorem run_tried (platform : Platform) (order : Order)
    (read : Reply → Except (Failure PlatformError) α)
    (transport : σ → Request → Reply × σ) (s : σ) :
    (platform.tried order read).run transport s =
      if platform.url = "" then (.error (.told .notConfigured), [], s)
      else
        (read (transport s (platform.requestOf order)).1, [platform.requestOf order],
          (transport s (platform.requestOf order)).2) := by
  unfold tried
  by_cases h : platform.url = ""
  · rw [if_pos h, if_pos (by simp [h])]
    rfl
  · rw [if_neg h, if_neg (by simpa using h)]
    rfl

end Platform

namespace Hub

def requestOf (hub : Hub) (order : Order) : Request :=
  ⟨order.method, hub.url ++ order.path, hub.headers, order.body, hub.timeout⟩

theorem rooted_append {path : String} (h : Text.beginsWith "/" path = true) (rest : String) :
    rooted (path ++ rest) = path ++ rest := by
  obtain ⟨tail, htail⟩ := Text.beginsWith_iff.mp h
  have hroot : Text.beginsWith "/" (path ++ rest) = true :=
    Text.beginsWith_iff.mpr ⟨tail ++ rest.toList, by simp [htail]⟩
  rw [rooted, if_pos hroot]

/-- On a path with a slash in front the hub is asked as the path stands. -/
theorem request_eq_exchange (hub : Hub) {path : String} (h : rooted path = path)
    (method : String) (body : Json) :
    hub.request method path body =
      .exchange (hub.requestOf ⟨method, path, body⟩) hub.conclude := by
  rw [request, h]
  rfl

end Hub

end HomeAutomation
