import Transcoding.Proofs.Conductor.Answer

/-!
Where a call failed is told by its fault. Without an answer there is no status and no text, and the
outage is passed on; an answer with an error status is told by these two alone, and its body is not
read; every other fault passes on why the body cannot be read. Each comes after one request.
-/

namespace Transcoding

/-- The backend with another answer as the reply to the next request. -/
def Exchange.answered (e : Exchange) (a : Answer) : Exchange :=
  { e with replies := .answer a :: e.replies.tail }

namespace Conductor

open Client Client.Operation

variable {α : Type}

/-- Every reason but an unknown encoding is of a kind that is reported, and is reported. -/
theorem unreadable_cases (reason : ResponseFault) :
    (∃ name, reason = .document (.unknownEncoding name)) ∨
      (reason.kind = .malformed ∨ reason.kind.isValueError = true) ∧
        ∀ a, unreadable a reason = .failure (.transport (.undecodable a.status a.text reason)) := by
  cases reason with
  | document f =>
      cases f with
      | malformed _ _ => exact .inr ⟨.inl rfl, fun _ => rfl⟩
      | unknownEncoding name => exact .inl ⟨name, rfl⟩
      | unfitEncoding _ unfitness =>
          cases unfitness with
          | noReplacement | noText | asciiOnly => exact .inr ⟨.inr rfl, fun _ => rfl⟩
      | multiByteEncoding => exact .inr ⟨.inr rfl, fun _ => rfl⟩
  | numeral _ | timestamp _ => exact .inr ⟨.inr rfl, fun _ => rfl⟩

/-- The three ways in which a reply gives a fault. -/
theorem interpret_fault_cases {read : List UInt8 → Except ResponseFault α} {reply : Reply}
    {fault : TransportFault} (h : interpret read reply = .error (.failure (.transport fault))) :
    (∃ o, reply = .outage o ∧ fault = .unreachable o) ∨
      (∃ a, reply = .answer a ∧ a.isError = true ∧ fault = .refused a.status a.text) ∨
      ∃ a reason, reply = .answer a ∧ a.isError = false ∧ read a.body = .error reason ∧
        (reason.kind = .malformed ∨ reason.kind.isValueError = true) ∧
        fault = .undecodable a.status a.text reason := by
  cases reply with
  | outage o =>
      cases h
      exact .inl ⟨o, rfl, rfl⟩
  | answer a =>
      cases hE : a.isError with
      | true =>
          simp only [interpret, accept, hE, if_true] at h
          cases h
          exact .inr (.inl ⟨a, rfl, hE, rfl⟩)
      | false =>
          simp only [interpret, accept, hE] at h
          change (read a.body).mapError (unreadable a) = _ at h
          cases hread : read a.body with
          | ok value =>
              rw [hread] at h
              cases h
          | error reason =>
              rw [hread] at h
              obtain ⟨name, rfl⟩ | ⟨hkind, hunreadable⟩ := unreadable_cases reason
              · cases h
              · rw [Except.mapError, hunreadable] at h
                cases h
                exact .inr (.inr ⟨a, reason, rfl, hE, hread, hkind, rfl⟩)

section Call

variable {op : Operation α} {c : Client} {e : Exchange}

/-- A fault comes after one request, from the reply to it. -/
theorem call_fault {fault : TransportFault}
    (h : (op.call c e).1 = .error (.failure (.transport fault))) :
    ∃ r, op.request c e.now = .ok r ∧ (op.call c e).2 = e.after r ∧
      interpret op.read e.reply = .error (.failure (.transport fault)) := by
  rw [call_apply] at h ⊢
  cases hr : op.request c e.now with
  | error d =>
      rw [hr] at h
      cases h
  | ok r =>
      rw [hr] at h
      exact ⟨r, rfl, rfl, h⟩

/-- Answers with an error status and the same text have the same outcome, whatever their bodies. -/
theorem call_answered {r : Request} {a b : Answer} (hr : op.request c e.now = .ok r)
    (ha : e.reply = .answer a) (hE : a.isError = true) (hstatus : b.status = a.status)
    (htext : b.text = a.text) : op.call c (e.answered b) = op.call c e := by
  have hb : b.isError = true := by
    rw [Answer.isError, hstatus]
    exact hE
  have reply : (e.answered b).reply = .answer b := rfl
  have outcome : (op.call c (e.answered b)).1 = (op.call c e).1 := by
    rw [call_refused (e := e.answered b) hr reply hb, call_refused hr ha hE, hstatus, htext]
  have left : (op.call c (e.answered b)).2 = (op.call c e).2 := by
    have now : (e.answered b).now = e.now := rfl
    rw [call_apply, call_apply, now, hr]
    rfl
  exact Prod.ext outcome left

/-- A fault tells where the call failed: without an answer it has neither status nor text and passes
on the outage, whose text ends its own; with an error status it has the status and the text of the
answer and nothing else, whatever the body; otherwise it has these and passes on why the body cannot
be read. -/
theorem fault_matches_reply {fault : TransportFault}
    (h : (op.call c e).1 = .error (.failure (.transport fault))) :
    (∃ r, op.request c e.now = .ok r ∧ (op.call c e).2 = e.after r) ∧
      (fault.status? = none ∧ fault.details = .null ↔ ∃ o, e.reply = .outage o) ∧
      (∀ o, e.reply = .outage o →
        fault.cause? = some (.outage o) ∧ o.message.toList <:+ fault.message.toList) ∧
      ∀ a, e.reply = .answer a →
        fault.status? = some a.status ∧ fault.details = .string a.text ∧
        (400 ≤ a.status ∧ a.status ≤ 599 → fault.cause? = none ∧
          ∀ b, b.status = a.status → b.text = a.text →
            op.call c (e.answered b) = op.call c e) ∧
        (¬(400 ≤ a.status ∧ a.status ≤ 599) → ∃ reason, op.read a.body = .error reason ∧
          fault.cause? = some (.response reason) ∧
          (reason.kind = .malformed ∨ reason.kind.isValueError = true)) := by
  obtain ⟨r, hr, hafter, hfault⟩ := call_fault h
  refine ⟨⟨r, hr, hafter⟩, ?_⟩
  obtain ⟨o, hreply, rfl⟩ | ⟨a, hreply, hE, rfl⟩ | ⟨a, reason, hreply, hE, hread, hkind, rfl⟩ :=
    interpret_fault_cases hfault
  · have told : o.message.toList <:+ (TransportFault.unreachable o).message.toList := by
      have text : (TransportFault.unreachable o).message =
          "Failed to connect to Elemental Conductor: " ++ o.message := rfl
      rw [text, String.toList_append]
      exact List.suffix_append _ _
    rw [hreply]
    refine ⟨⟨fun _ => ⟨o, rfl⟩, fun _ => ⟨rfl, rfl⟩⟩, ?_, fun _ answer => absurd answer nofun⟩
    rintro _ ⟨⟩
    exact ⟨rfl, told⟩
  · rw [hreply]
    refine ⟨⟨fun none => absurd none.1 nofun, fun ⟨_, outage⟩ => absurd outage nofun⟩, nofun, ?_⟩
    rintro _ ⟨⟩
    refine ⟨rfl, rfl, fun _ => ⟨rfl, fun b hstatus htext => ?_⟩, fun fine => ?_⟩
    · exact call_answered hr hreply hE hstatus htext
    · exact absurd (isError_iff.1 hE) fine
  · rw [hreply]
    refine ⟨⟨fun none => absurd none.1 nofun, fun ⟨_, outage⟩ => absurd outage nofun⟩, nofun, ?_⟩
    rintro _ ⟨⟩
    refine ⟨rfl, rfl, fun failed => ?_, fun _ => ⟨reason, hread, rfl, hkind⟩⟩
    rw [isError_iff.2 failed] at hE
    cases hE

end Call

/-- Two bodies that are no text at all, and so have the same. -/
theorem fault_matches_reply_brokenText :
    ∃ fault, (getNodes.call exampleClient
        ⟨1000000, [.answer ⟨503, [0xFF]⟩], []⟩).1 = .error (.failure (.transport fault)) ∧
      fault.status? = some 503 ∧ fault.details = .string "\ufffd" ∧ fault.cause? = none ∧
      getNodes.call exampleClient ⟨1000000, [.answer ⟨503, [0xFE]⟩], []⟩ =
        getNodes.call exampleClient ⟨1000000, [.answer ⟨503, [0xFF]⟩], []⟩ := by
  let a : Answer := ⟨503, [0xFF]⟩
  let b : Answer := ⟨503, [0xFE]⟩
  let e : Exchange := ⟨1000000, [.answer a], []⟩
  have sendable : exampleClient.CanSend "/nodes".toList e.now :=
    exampleClient_canSend (by decide +kernel)
  obtain ⟨_, _, _, _, hprepare⟩ := sendable.exists_prepare
  have refused : (getNodes.call exampleClient e).1 =
      .error (.failure (.transport (.refused a.status a.text))) :=
    call_refused (hprepare .get none) rfl rfl
  have text : a.text = "\ufffd" ∧ b.text = a.text := by decide +kernel
  obtain ⟨-, -, -, told⟩ := fault_matches_reply refused
  obtain ⟨hstatus, hdetails, failed, -⟩ := told a rfl
  obtain ⟨hcause, same⟩ := failed (by decide)
  exact ⟨_, refused, hstatus, hdetails.trans (congrArg _ text.1), hcause, same b rfl text.2⟩

end Conductor
end Transcoding
