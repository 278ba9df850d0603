import Transcoding.Proofs.Conductor.Configuration

/-!
What the signature of a request is good for. It counts for one path and until one time: unless the
digest takes two texts for one, no other path and no other time of as many digits has the same
signature. The time is later than now as long as the minutes that are set are positive, which nobody
checks.
-/

namespace Transcoding.Conductor

open Digest (md5Hex)
open Numeral (Fits ofInt)

namespace Client

variable {c : Client} {path path' expires expires' : List Char}

theorem signedText_inj (width : expires.length = expires'.length) :
    c.signedText path expires = c.signedText path' expires' ↔
      path = path' ∧ expires = expires' := by
  constructor
  · intro same
    -- Texts of one length at the end are the same, and so is what stands in front of them.
    obtain ⟨front, rfl⟩ := List.append_inj' same width
    exact ⟨List.append_cancel_right (List.append_cancel_right front), rfl⟩
  · rintro ⟨rfl, rfl⟩
    rfl

/-- What is hashed with the digest of the signed text to make a key. -/
def keyText (c : Client) (path expires : List Char) : List Char :=
  c.apiKey.toList ++ md5Hex (c.signedText path expires)

/-- The key by which a backend knows who asks for a path, and until when that counts. -/
def keyFor (c : Client) (path expires : List Char) : List Char :=
  md5Hex (c.keyText path expires)

/-- Whether the digest takes two texts for one. -/
def Collide (text text' : List Char) : Prop :=
  text ≠ text' ∧ md5Hex text = md5Hex text'

theorem keyFor_inj (width : expires.length = expires'.length)
    (same : c.keyFor path expires = c.keyFor path' expires') :
    path = path' ∧ expires = expires' ∨
      Collide (c.signedText path expires) (c.signedText path' expires') ∨
      Collide (c.keyText path expires) (c.keyText path' expires') := by
  by_cases keys : c.keyText path expires = c.keyText path' expires'
  · by_cases texts : c.signedText path expires = c.signedText path' expires'
    · exact .inl ((signedText_inj width).1 texts)
    · exact .inr (.inl ⟨texts, List.append_cancel_left keys⟩)
  · exact .inr (.inr ⟨keys, same⟩)

/-- What is hashed tells path and expiry, among all expiries of one width, whatever login and key
there are. So a key that is issued for a path and an expiry is no key for any other path or expiry
of that width, unless the digest takes two of the texts that are hashed for one. -/
theorem key_binds_path_and_expiry (c : Client) :
    (∀ (path path' : List Char) (now now' : Int),
      (ofInt (c.expiry now)).length = (ofInt (c.expiry now')).length →
        (c.signedText path (ofInt (c.expiry now)) = c.signedText path' (ofInt (c.expiry now')) ↔
          path = path' ∧ c.expiry now = c.expiry now')) ∧
      ∀ (path : List Char) (now : Int), Fits (c.expiry now) →
        ∃ expires key,
          c.sign path now = .ok ⟨c.userLogin, String.ofList expires, String.ofList key⟩ ∧
          expires = ofInt (c.expiry now) ∧ key = c.keyFor path expires ∧
          ∀ path' expires', expires.length = expires'.length → key = c.keyFor path' expires' →
            path = path' ∧ expires = expires' ∨
              Collide (c.signedText path expires) (c.signedText path' expires') ∨
              Collide (c.keyText path expires) (c.keyText path' expires') := by
  constructor
  · intro path path' now now' width
    rw [signedText_inj width, Numeral.ofInt_inj]
  · intro path now fits
    refine ⟨_, _, sign_eq_ok_iff.2 ⟨fits, rfl⟩, rfl, rfl, ?_⟩
    intro path' expires' width same
    exact keyFor_inj width same

/-- A client whose login and key are digits, like the end of a path and the expiry. -/
def digitClient : Client :=
  { exampleClient with userLogin := "1", apiKey := "11", authExpires := 0 }

theorem key_binds_path_and_expiry_digits :
    digitClient.signedText "/jobs/1".toList (ofInt (digitClient.expiry 1111)) ≠
        digitClient.signedText "/jobs/11".toList (ofInt (digitClient.expiry 9111)) ∧
      ∃ key, digitClient.sign "/jobs/1".toList 1111 = .ok ⟨"1", "1111", String.ofList key⟩ ∧
        (key = digitClient.keyFor "/jobs/11".toList "9111".toList →
          Collide (digitClient.signedText "/jobs/1".toList "1111".toList)
              (digitClient.signedText "/jobs/11".toList "9111".toList) ∨
            Collide (digitClient.keyText "/jobs/1".toList "1111".toList)
              (digitClient.keyText "/jobs/11".toList "9111".toList)) := by
  obtain ⟨texts, keys⟩ := key_binds_path_and_expiry digitClient
  constructor
  · intro same
    exact absurd ((texts _ _ 1111 9111 (by decide +kernel)).1 same).1 (by decide)
  · obtain ⟨expires, key, signed, hexpires, -, unique⟩ :=
      keys "/jobs/1".toList 1111 (by decide +kernel)
    have digits : ofInt (digitClient.expiry 1111) = "1111".toList := by decide +kernel
    rw [digits] at hexpires
    subst hexpires
    refine ⟨key, signed, fun same => ?_⟩
    obtain ⟨paths, -⟩ | collision := unique _ _ (by decide) same
    · exact absurd paths (by decide)
    · exact collision

/-- Expiries of different widths can make one text of different paths. -/
example : digitClient.signedText "/jobs/1".toList (ofInt (digitClient.expiry 11)) =
    digitClient.signedText "/jobs/11".toList (ofInt (digitClient.expiry 1)) := by decide +kernel

end Client

/-- Whether the header of a request that says until when it counts holds a time. -/
def ExpiresAt (r : Request) (time : Int) : Prop :=
  r.headers.lookup "X-Auth-Expires" = some (String.ofList (ofInt time))

theorem ExpiresAt.unique {r : Request} {time time' : Int} (h : ExpiresAt r time)
    (h' : ExpiresAt r time') : time = time' :=
  Numeral.ofInt_inj.1 (String.ofList_injective (Option.some.inj (h.symm.trans h')))

theorem IsSigned.expiresAt {s : ConductorSettings} {now : Int} {path : List Char} {r : Request}
    (h : IsSigned s now path r) : ExpiresAt r (now + s.authExpires * 60) := by
  rw [ExpiresAt, ← h.expires]
  rfl

/-- Every request of a provider that is made from settings counts for the minutes that are set. -/
theorem sent_expiresAt {s : Settings} {p : Provider} (made : factory s = .ok p) (a : Ask)
    (e : Exchange) :
    ∃ new, (p.ask a e).2.sent = new ++ e.sent ∧
      ∀ r ∈ new, ExpiresAt r (e.now + s.conductor.authExpires * 60) := by
  obtain ⟨c, hc, rfl⟩ := factory_ok made
  obtain ⟨new, hnew, serves⟩ := ((Client.ofSettings_carries hc).ask_sends a e).sent
  refine ⟨new, hnew, fun r hr => ?_⟩
  obtain ⟨path, -, signed⟩ := serves r hr
  exact signed.expiresAt

/-- Whatever is asked of a provider that is made from settings, each request that it sends says
until when it counts: a time that is later than now if and only if the minutes that are set are
positive. -/
theorem sent_before_expiry_iff {s : Settings} {p : Provider} (made : factory s = .ok p) (a : Ask)
    (e : Exchange) :
    ∃ new, (p.ask a e).2.sent = new ++ e.sent ∧ ∀ r ∈ new, ∃ time, ExpiresAt r time ∧
      (e.now < time ↔ 0 < s.conductor.authExpires) := by
  obtain ⟨new, hnew, expires⟩ := sent_expiresAt made a e
  refine ⟨new, hnew, fun r hr => ⟨_, expires r hr, ?_⟩⟩
  omega

/-- Settings with all that is asked for, and some number of minutes. -/
def settingsFor (minutes : Int) : Settings where
  conductor := {
    host := "https://conductor.example.com"
    userLogin := "myuser"
    apiKey := "secret-key"
    authExpires := minutes
    awsAccessKeyId := "access"
    awsSecretAccessKey := "secret"
    destination := "s3://out" }

/-- A backend that does not reply. -/
def silentBackend : Exchange :=
  ⟨1000000, [], []⟩

theorem exists_sent_of_settingsFor (minutes : Int)
    (h : (factory (settingsFor minutes)).toOption.any (fun p =>
      !(p.ask .healthcheck silentBackend).2.sent.isEmpty) = true) :
    ∃ p r, factory (settingsFor minutes) = .ok p ∧
      r ∈ (p.ask .healthcheck silentBackend).2.sent := by
  obtain ⟨p, made, nonempty⟩ := exists_of_any h
  obtain ⟨r, hr⟩ := List.exists_mem_of_ne_nil _ (by simpa using nonempty)
  exact ⟨p, r, made, hr⟩

theorem sent_before_expiry_half_hour :
    ∃ p r, factory (settingsFor 30) = .ok p ∧
      r ∈ (p.ask .healthcheck silentBackend).2.sent ∧
      ∃ time, ExpiresAt r time ∧ 1000000 < time := by
  obtain ⟨p, r, made, hr⟩ := exists_sent_of_settingsFor 30 (by decide +kernel)
  obtain ⟨new, hnew, expires⟩ := sent_before_expiry_iff made .healthcheck silentBackend
  have sent : r ∈ new ++ [] := hnew ▸ hr
  rw [List.append_nil] at sent
  obtain ⟨time, expiry, later⟩ := expires r sent
  exact ⟨p, r, made, hr, time, expiry, later.2 (by decide)⟩

/-- Settings with a negative number of minutes are accepted, and what is sent with them is expired
already. -/
theorem sent_after_expiry :
    ¬∀ p, factory (settingsFor (-5)) = .ok p →
      ∀ r ∈ (p.ask .healthcheck silentBackend).2.sent, ∃ time, ExpiresAt r time ∧
        1000000 < time := by
  intro later
  obtain ⟨p, r, made, hr⟩ := exists_sent_of_settingsFor (-5) (by decide +kernel)
  obtain ⟨time, expiry, after⟩ := later p made r hr
  obtain ⟨new, hnew, expires⟩ := sent_expiresAt made .healthcheck silentBackend
  have sent : r ∈ new ++ [] := hnew ▸ hr
  rw [List.append_nil] at sent
  obtain rfl := expiry.unique (expires r sent)
  exact absurd after (by decide)

end Transcoding.Conductor
