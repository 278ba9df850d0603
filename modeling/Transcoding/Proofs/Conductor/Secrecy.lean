import Transcoding.Conductor.Provider
import Transcoding.Proofs.Conductor.Client
import Transcoding.Proofs.SideBySide

/-!
What a Conductor's credentials have an effect on. The key of the interface shows only in the header
that proves who sends a request; the credentials to the storage show only as texts in the documents
that submit jobs. What callers are told is the same with any of them.
-/

namespace Transcoding

open Conductor
open Xml (Outline)

namespace Xml.Outline

/-- Whether two outlines have the same elements and the same texts, but for hidden texts. What is
hidden depends on the tags of the element and of those around it, the innermost first. -/
inductive Alike (hidden : List (List Char) → Prop) : List (List Char) → Outline → Outline → Prop
  | nil {around} : Alike hidden around .nil .nil
  | leaf {around tag text text' next next'} (text_eq : text = text' ∨ hidden (tag :: around))
      (rest : Alike hidden around next next') :
      Alike hidden around (.leaf tag text next) (.leaf tag text' next')
  | branch {around tag inner inner' next next'} (inside : Alike hidden (tag :: around) inner inner')
      (rest : Alike hidden around next next') :
      Alike hidden around (.branch tag inner next) (.branch tag inner' next')

namespace Alike

variable {hidden : List (List Char) → Prop} {around : List (List Char)} {o o' p p' : Outline}

theorem refl (around : List (List Char)) (o : Outline) : Alike hidden around o o := by
  induction o generalizing around with
  | nil => exact .nil
  | leaf tag text next ih => exact .leaf (.inl rfl) (ih around)
  | branch tag inner next ihInner ih => exact .branch (ihInner _) (ih around)

theorem append (h : Alike hidden around o o') (hp : Alike hidden around p p') :
    Alike hidden around (o ++ p) (o' ++ p') := by
  induction h with
  | nil => exact hp
  | leaf text_eq _ ih => exact .leaf text_eq (ih hp)
  | branch inside _ _ ih => exact .branch inside (ih hp)

theorem group {tag : String} (h : Alike hidden (tag.toList :: around) o o') :
    Alike hidden around (.group tag o) (.group tag o') :=
  .branch h .nil

theorem text {tag : String} {cs cs' : List Char} (h : cs = cs' ∨ hidden (tag.toList :: around)) :
    Alike hidden around (.text tag cs) (.text tag cs') :=
  .leaf h .nil

end Alike
end Xml.Outline

namespace Conductor

/-- The tags of a credential. -/
def IsCredentialTag (tag : List Char) : Prop :=
  tag = "username".toList ∨ tag = "password".toList

/-- The places of the credentials to the input and to the destination of a job. -/
inductive IsCredential : List (List Char) → Prop
  | input {tag} (h : IsCredentialTag tag) :
      IsCredential [tag, "file_input".toList, "input".toList, "job".toList]
  | destination {tag} (h : IsCredentialTag tag) (type : OutputGroupType) :
      IsCredential [tag, "destination".toList, type.name.toList, "output_group".toList,
        "job".toList]

def Location.withCredentials (l : Location) (username password : String) : Location :=
  { l with username, password }

def Job.withCredentials (j : Job) (username password : String) : Job :=
  { j with
    input := j.input.withCredentials username password
    outputGroup := { j.outputGroup with
      destination := j.outputGroup.destination.withCredentials username password } }

variable {hidden : List (List Char) → Prop} {around : List (List Char)}

theorem Location.alike_outline (l : Location) (username password : String) {tag : String}
    (h : ∀ t, IsCredentialTag t → hidden (t :: tag.toList :: around)) :
    Outline.Alike hidden around (l.outline tag)
      ((l.withCredentials username password).outline tag) :=
  .group <| .append
    (.append (.text (.inl rfl)) (.text (.inr (h _ (.inl rfl))))) (.text (.inr (h _ (.inr rfl))))

theorem OutputGroup.alike_outline (g : OutputGroup) (username password : String) :
    AlikeOutcomes (Outline.Alike IsCredential ["job".toList]) g.outline
      ({ g with destination := g.destination.withCredentials username password }).outline := by
  refine .bind (.refl (fun _ => Eq.refl _) _) ?_
  rintro order _ rfl
  refine .bind (.refl (fun _ => Eq.refl _) _) ?_
  rintro outputs _ rfl
  have destination := g.destination.alike_outline username password
    fun _ ht => IsCredential.destination ht g.type
  exact Outline.Alike.group <|
    .append (.append (.append (.refl _ _) (.group destination)) (.refl _ _)) (.refl _ _)

theorem Job.alike_outline (j : Job) (username password : String) :
    AlikeOutcomes (Outline.Alike IsCredential []) j.outline
      (j.withCredentials username password).outline := by
  refine .bind (.refl (fun _ => Eq.refl _) _) ?_
  rintro priority _ rfl
  refine .bind (j.outputGroup.alike_outline username password) fun group group' hgroup => ?_
  have input := j.input.alike_outline username password fun _ ht => IsCredential.input ht
  exact Outline.Alike.group <|
    .append (.append (.append (.group input) (.refl _ _)) hgroup) (.refl _ _)

/-- Other credentials to the storage make the same job but for the credentials in it. -/
theorem Job.alike_ofPresets (s : Storage) (username password source : String)
    (presets : List Preset) :
    AlikeOutcomes (fun j j' => j' = j.withCredentials username password)
      (Job.ofPresets s source presets)
      (Job.ofPresets { s with username, password } source presets) := by
  simp only [Job.ofPresets, mapPresets]
  cases Rendition.listOfPresets 0 presets with
  | error f => exact rfl
  | ok renditions => exact rfl

/-- Whether two requests have the same headers but for the key, and are the same otherwise. -/
structure SameButKey (r r' : Request) : Prop where
  method : r.method = r'.method
  url : r.url = r'.url
  headers : r.headers.filter (·.1 != "X-Auth-Key") = r'.headers.filter (·.1 != "X-Auth-Key")
  body : r.body = r'.body

/-- Whether two requests are the same, or submit documents that differ only in credentials. -/
inductive SameButCredentials (c : Client) : Request → Request → Prop
  | same (r : Request) : SameButCredentials c r r
  | submission {url : Url} {signature : Signature} {o o' : Outline}
      (address : Url.parse (c.host.toList ++ "/api".toList ++ "/jobs".toList) = .ok url)
      (alike : Outline.Alike IsCredential [] o o') :
      SameButCredentials c
        ⟨.post, String.ofList url.target.text, signature, some (String.ofList o.document)⟩
        ⟨.post, String.ofList url.target.text, signature, some (String.ofList o'.document)⟩

namespace Client

variable {rel : Request → Request → Prop} {α : Type}

/-- Operations that make requests that are alike and read answers alike are alike. -/
theorem Operation.alike_call {op op' : Operation α} {c c' : Client}
    (hrequest : ∀ now, AlikeOutcomes rel (op.request c now) (op'.request c' now))
    (hread : op'.read = op.read) : Call.Alike rel Eq (op.call c) (op'.call c') := by
  intro e e' he
  rw [call_apply, call_apply, hread, ← he.now, ← he.reply_eq]
  have made := hrequest e.now
  generalize op.request c e.now = x at made ⊢
  generalize op'.request c' e.now = x' at made ⊢
  match x, x', made with
  | .ok _, .ok _, h => exact ⟨.refl (fun _ => Eq.refl _) _, he.after h⟩
  | .error _, .error _, h => exact ⟨congrArg Problem.defect h, he⟩

theorem alike_sign (c : Client) (key : String) (path : List Char) (now : Int) :
    AlikeOutcomes (fun s s' => s.user = s'.user ∧ s.expires = s'.expires) (c.sign path now)
      (({ c with apiKey := key } : Client).sign path now) := by
  refine .bind (.refl (fun _ => Eq.refl _) _) ?_
  rintro expires _ rfl
  exact ⟨rfl, rfl⟩

theorem alike_prepare (c : Client) (key : String) (method : Method) (path : List Char)
    (body : Option (List Char)) (now : Int) :
    AlikeOutcomes SameButKey (c.prepare method path body now)
      (({ c with apiKey := key } : Client).prepare method path body now) := by
  refine .bind ((c.alike_sign key path now).mapError _) fun s s' hs => ?_
  refine .bind (.refl (fun _ => Eq.refl _) _) ?_
  rintro url _ rfl
  dsimp only
  split
  · exact rfl
  · refine ⟨rfl, rfl, ?_, rfl⟩
    simp [Request.headers, hs.1, hs.2]

theorem Operation.alike_request_key (op : Operation α) (c : Client) (key : String) (now : Int) :
    AlikeOutcomes SameButKey (op.request c now) (op.request { c with apiKey := key } now) := by
  cases op with
  | postJob j =>
      rw [request, request]
      cases j.document with
      | error f => exact rfl
      | ok document => exact c.alike_prepare key _ _ _ _
  | getJob _ | getNodes | getCloudConfig => exact c.alike_prepare key _ _ _ _

theorem alike_prepare_jobs (c : Client) (now : Int) {o o' : Outline}
    (h : Outline.Alike IsCredential [] o o') :
    AlikeOutcomes (SameButCredentials c) (c.prepare .post "/jobs".toList (some o.document) now)
      (c.prepare .post "/jobs".toList (some o'.document) now) := by
  rw [prepare, prepare]
  cases c.sign "/jobs".toList now with
  | error f => exact rfl
  | ok signature =>
      cases hurl : Url.parse (c.host.toList ++ "/api".toList ++ "/jobs".toList) with
      | error f => exact rfl
      | ok url =>
          cases Header.fault? c.userLogin.toList with
          | some fault => exact rfl
          | none => exact .submission hurl h

/-- A client does not use the credentials to the storage to make a request. -/
theorem Operation.alike_request_credentials (c : Client) (username password : String) (j : Job)
    (now : Int) :
    AlikeOutcomes (SameButCredentials c) ((Operation.postJob j).request c now)
      ((Operation.postJob (j.withCredentials username password)).request
        { c with accessKeyId := username, secretAccessKey := password } now) := by
  have outlines := j.alike_outline username password
  simp only [request, Job.document]
  generalize j.outline = x at outlines ⊢
  generalize (j.withCredentials username password).outline = x' at outlines ⊢
  cases x with
  | ok inner =>
      cases x' with
      | ok inner' => exact c.alike_prepare_jobs now outlines
      | error e => exact outlines.elim
  | error e =>
      cases x' with
      | ok inner' => exact outlines.elim
      | error e' => exact congrArg Defect.numeral outlines

end Client
end Conductor

/-- What can be asked of a provider. -/
inductive Ask
  | transcode (source : String) (presets : List Preset)
  | jobStatus (jobId : String)
  | healthcheck

namespace Provider

/-- The answer to what a provider is asked, if there is more to say than that it is healthy. -/
def ask (p : Provider) : Ask → Call (Option JobStatus)
  | .transcode source presets => do return some (← p.transcode source presets)
  | .jobStatus jobId => do return some (← p.jobStatus jobId)
  | .healthcheck => do
      p.healthcheck
      return none

/-- What comes of asking a provider one thing after the other, each at its time. -/
def run (p : Provider) (e : Exchange) :
    List (Int × Ask) → List (Except Problem (Option JobStatus)) × Exchange
  | [] => ([], e)
  | (now, a) :: rest =>
      let asked := p.ask a { e with now := now }
      let others := run p asked.2 rest
      (asked.1 :: others.1, others.2)

/-- Providers that are alike in all that can be asked once are alike in every run. -/
theorem run_alike {rel : Request → Request → Prop} {p p' : Provider}
    (h : ∀ a, Call.Alike rel Eq (p.ask a) (p'.ask a)) (asks : List (Int × Ask)) {e e' : Exchange}
    (he : e.Alike rel e') :
    (p.run e asks).1 = (p'.run e' asks).1 ∧ (p.run e asks).2.Alike rel (p'.run e' asks).2 := by
  induction asks generalizing e e' with
  | nil => exact ⟨rfl, he⟩
  | cons first rest ih =>
      obtain ⟨now, a⟩ := first
      obtain ⟨houtcome, hnext⟩ := h a _ _ (he.at_now now)
      obtain ⟨hothers, hend⟩ := ih hnext
      exact ⟨congrArg₂ List.cons houtcome.eq hothers, hend⟩

end Provider

namespace Conductor.Client

variable {rel : Request → Request → Prop} {c c' : Client}

/-- What a provider is asked comes down to the operations of its client. -/
theorem alike_ask
    (htranscode : ∀ source presets,
      Call.Alike rel Eq (c.transcode source presets) (c'.transcode source presets))
    (hjob : ∀ id, Call.Alike rel Eq (c.getJob id) (c'.getJob id))
    (hnodes : Call.Alike rel Eq c.getNodes c'.getNodes)
    (hconfig : Call.Alike rel Eq c.getCloudConfig c'.getCloudConfig) (a : Ask) :
    Call.Alike rel Eq (c.provider.ask a) (c'.provider.ask a) := by
  cases a with
  | transcode source presets =>
      refine .bind (htranscode source presets) ?_
      rintro status _ rfl
      exact .pure rfl
  | jobStatus id =>
      refine .bind (R := Eq) (.bind (hjob id) ?_) ?_
      · rintro report _ rfl
        exact .pure rfl
      · rintro status _ rfl
        exact .pure rfl
  | healthcheck =>
      refine .bind (R := Eq) (.bind hnodes ?_) fun _ _ _ => .pure rfl
      rintro nodes _ rfl
      refine .bind hconfig ?_
      rintro config _ rfl
      dsimp only
      split
      · exact .fail _
      · exact .pure rfl

theorem alike_ask_key (c : Client) (key : String) (a : Ask) :
    Call.Alike SameButKey Eq (c.provider.ask a)
      (({ c with apiKey := key } : Client).provider.ask a) := by
  have alike {α : Type} (op : Operation α) :
      Call.Alike SameButKey Eq (op.call c) (op.call { c with apiKey := key }) :=
    Operation.alike_call (op.alike_request_key c key) rfl
  refine alike_ask (fun source presets => ?_) (fun id => alike (.getJob id)) (alike .getNodes)
    (alike .getCloudConfig) a
  refine .bind (.ofExcept _ (.refl (fun _ => Eq.refl _) _)) ?_
  rintro job _ rfl
  refine .bind (alike (.postJob job)) ?_
  rintro report _ rfl
  exact .pure rfl

theorem alike_ask_credentials (c : Client) (username password : String) (a : Ask) :
    Call.Alike (SameButCredentials c) Eq (c.provider.ask a)
      (({ c with accessKeyId := username, secretAccessKey := password } : Client).provider.ask
        a) := by
  -- Only a job that is submitted holds the credentials.
  have alike {α : Type} (op : Operation α)
      (h : ∀ now, op.request { c with accessKeyId := username, secretAccessKey := password } now =
        op.request c now) :
      Call.Alike (SameButCredentials c) Eq (op.call c)
        (op.call { c with accessKeyId := username, secretAccessKey := password }) :=
    Operation.alike_call (fun now => h now ▸ .refl .same _) rfl
  refine alike_ask (fun source presets => ?_) (fun id => alike (.getJob id) fun _ => rfl)
    (alike .getNodes fun _ => rfl) (alike .getCloudConfig fun _ => rfl) a
  refine .bind (.ofExcept _ (Job.alike_ofPresets c.storage username password source presets)) ?_
  rintro job _ rfl
  refine .bind (Operation.alike_call
    (Operation.alike_request_credentials c username password job) rfl) ?_
  rintro report _ rfl
  exact .pure rfl

/-- Whatever is asked of a provider and whatever its backend replies, callers are told the same with
another key and with other credentials to the storage. The requests are the same too, but for the
header that holds the key, and for the credentials in the documents that submit jobs. -/
theorem run_hides_secrets (c : Client) (e : Exchange) (asks : List (Int × Ask)) :
    (∀ key,
      let other : Client := { c with apiKey := key }
      (c.provider.run e asks).1 = (other.provider.run e asks).1 ∧
        List.Forall₂ SameButKey (c.provider.run e asks).2.sent
          (other.provider.run e asks).2.sent) ∧
      ∀ username password,
        let other : Client := { c with accessKeyId := username, secretAccessKey := password }
        (c.provider.run e asks).1 = (other.provider.run e asks).1 ∧
          List.Forall₂ (SameButCredentials c) (c.provider.run e asks).2.sent
            (other.provider.run e asks).2.sent := by
  constructor
  · intro key other
    have same (r : Request) : SameButKey r r := ⟨rfl, rfl, rfl, rfl⟩
    obtain ⟨houtcomes, hend⟩ := Provider.run_alike (c.alike_ask_key key) asks (.refl same e)
    exact ⟨houtcomes, hend.sent⟩
  · intro username password other
    obtain ⟨houtcomes, hend⟩ :=
      Provider.run_alike (c.alike_ask_credentials username password) asks (.refl .same e)
    exact ⟨houtcomes, hend.sent⟩

end Conductor.Client
end Transcoding
