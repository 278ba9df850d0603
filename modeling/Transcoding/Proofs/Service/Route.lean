import Mathlib.Data.List.TakeWhile
import Transcoding.Proofs.Url.Escape

/-!
Which paths lead to a provider: that of each of its jobs, and that of its health. The names in them
may be any that are not empty and have no slash. Every path can be asked for, by a target in which
everything but its slashes is escaped.
-/

namespace Transcoding.Service

/-- A target that asks for a path. -/
def targetOf (path : List Char) : List Char :=
  Url.escape (· == '/') path

theorem pathOf_targetOf (path : List Char) : pathOf (targetOf path) = path := by
  have noQuestion : '?' ∉ targetOf path :=
    Url.not_mem_escape (fun _ => rfl) (by decide) (by decide)
  have whole : (targetOf path).takeWhile (· != '?') = targetOf path :=
    List.takeWhile_eq_self_iff.2 fun c hc => bne_iff_ne.2 fun h => noQuestion (h ▸ hc)
  rw [pathOf, whole, targetOf, Url.unescape_escape_of_percent rfl]

/-- The path of a job of a provider. -/
def jobPath (name jobId : List Char) : List Char :=
  "/jobs/".toList ++ (name ++ '/' :: jobId)

/-- The path of the health of a provider. -/
def healthPath (name : List Char) : List Char :=
  "/providers/".toList ++ (name ++ "/health".toList)

variable {name jobId : List Char}

private theorem splitOn_three {first second third : List Char} (hfirst : '/' ∉ first)
    (hsecond : '/' ∉ second) (hthird : '/' ∉ third) :
    (first ++ '/' :: (second ++ '/' :: third)).splitOn '/' = [first, second, third] := by
  have joined : first ++ '/' :: (second ++ '/' :: third) =
      ['/'].intercalate [first, second, third] := by
    rw [List.intercalate_cons_cons, List.intercalate_cons_cons, List.intercalate_singleton,
      List.append_assoc, List.append_assoc]
    rfl
  rw [joined, List.splitOn_intercalate '/' (by simp [hfirst, hsecond, hthird])
    (List.cons_ne_nil _ _)]

theorem lookup?_of_segments {rest : List Char} {endpoint : Endpoint}
    (h : endpoint? (rest.splitOn '/') = some endpoint) :
    lookup? ('/' :: rest) = some endpoint := by
  rw [lookup?, h]
  rfl

theorem route_of_lookup? {method : String} {path : List Char} {endpoint : Endpoint}
    (h : lookup? path = some endpoint) (hmethod : method ∈ endpoint.methods) :
    route method path = .found endpoint := by
  rw [route, h]
  exact if_pos (List.contains_iff_mem.2 hmethod)

theorem route_jobPath (hname : name ≠ []) (hslash : '/' ∉ name) (hid : jobId ≠ [])
    (hidSlash : '/' ∉ jobId) :
    route "GET" (jobPath name jobId) = .found (.jobStatus name jobId) := by
  have path : jobPath name jobId = '/' :: ("jobs".toList ++ '/' :: (name ++ '/' :: jobId)) := rfl
  have there : endpoint? ["jobs".toList, name, jobId] = some (.jobStatus name jobId) := by
    rw [endpoint?, if_neg (by simpa using hname), if_pos ⟨rfl, hid⟩]
  rw [path]
  refine route_of_lookup? (lookup?_of_segments ?_) (List.mem_singleton_self _)
  rw [splitOn_three (by decide) hslash hidSlash]
  exact there

theorem route_healthPath (hname : name ≠ []) (hslash : '/' ∉ name) :
    route "GET" (healthPath name) = .found (.providerHealth name) := by
  have path : healthPath name =
    '/' :: ("providers".toList ++ '/' :: (name ++ '/' :: "health".toList)) := rfl
  have other : ¬("providers".toList = "jobs".toList ∧ "health".toList ≠ []) := by decide
  have there : endpoint? ["providers".toList, name, "health".toList] =
      some (.providerHealth name) := by
    rw [endpoint?, if_neg (by simpa using hname), if_neg other, if_pos ⟨rfl, rfl⟩]
  rw [path]
  refine route_of_lookup? (lookup?_of_segments ?_) (List.mem_singleton_self _)
  rw [splitOn_three (by decide) hslash (by decide)]
  exact there

end Transcoding.Service
