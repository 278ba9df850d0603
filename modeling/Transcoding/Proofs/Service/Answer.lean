import Transcoding.Proofs.Exchange
import Transcoding.Service

/-!
How the service answers. A request that leads somewhere is answered by what is there, and a failure
on the way becomes an answer that names it. Whatever a provider is needed for is up to the provider
once it is found.
-/

namespace Transcoding.Service

/-- The answer that tells of an error by its name, with a message. -/
def errorAnswer (status : Nat) (error detail : String) : Response :=
  ⟨status, .object [("error", .string error), ("detail", .string detail)]⟩

/-- What a caller gets of what came of a call: failures become answers, defects stay. -/
def settle : Except Problem Response × Exchange → Except Defect Response × Exchange
  | (.ok response, e) => (.ok response, e)
  | (.error (.failure f), e) => (.ok (reportFailure f), e)
  | (.error (.defect d), e) => (.error d, e)

theorem handle_of_route {s : Service} {method target : String} {body : Body} {endpoint : Endpoint}
    (hmethod : String.ofList (Text.toUpper method.toList) = method) (hhead : method ≠ "HEAD")
    (hroute : route method (pathOf target.toList) = .found endpoint) (e : Exchange) :
    s.handle ⟨method, target, body⟩ e = settle (s.serve body endpoint e) := by
  have responded : s.respond ⟨method, target, body⟩ method e = s.serve body endpoint e := by
    rw [respond, hroute]
  simp only [handle, hmethod, responded, beq_eq_false_iff_ne.2 hhead]
  rcases s.serve body endpoint e with ⟨(_ | _) | response, e'⟩ <;> rfl

theorem provider_eq (s : Service) (name : String) :
    s.provider name =
      match s.registry.find? name with
      | some factory => factory s.settings
      | none => .error (.providerNotFound name) := by
  rw [provider, Registry.get]
  cases s.registry.find? name with
  | none | some _ => rfl

/-- What comes of asking a provider by name for something. -/
theorem ask_apply (s : Service) (name : String) (asked : Provider → Call Response)
    (e : Exchange) :
    s.ask name asked e =
      match s.provider name with
      | .ok p => asked p e
      | .error f => (.error (.failure f), e) := by
  rw [ask, Call.bind_apply, Call.ofExcept_apply]
  cases s.provider name with
  | ok p | error f => rfl

/-- What comes of telling of the result of a call. -/
theorem tell_apply {α : Type} (x : Call α) (told : α → Response) (e : Exchange) :
    (do return told (← x) : Call Response) e = ((x e).1.map told, (x e).2) := by
  rw [Call.bind_apply]
  rcases x e with ⟨_ | _, _⟩ <;> rfl

theorem examine_apply (name : String) (p : Provider) (e : Exchange) :
    examine name p e =
      match p.healthcheck e with
      | (.ok _, e') => (.ok ⟨200, healthJson name none⟩, e')
      | (.error (.failure (.capacity required found)), e') =>
          (.ok ⟨503, healthJson name (some (Failure.capacity required found).message)⟩, e')
      | (.error problem, e') => (.error problem, e') := by
  simp only [examine, tryCatchThe, tryCatch, MonadExceptOf.tryCatch, ExceptT.tryCatch, bind,
    ExceptT.bind, ExceptT.mk, StateT.bind, ExceptT.bindCont]
  rcases p.healthcheck e with ⟨(f | d) | u, e'⟩
  · cases f <;> rfl
  · rfl
  · rfl

end Transcoding.Service
