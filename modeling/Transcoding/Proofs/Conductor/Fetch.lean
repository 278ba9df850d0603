import Transcoding.Proofs.Conductor.Client
import Transcoding.Proofs.Url.PlainHost

/-!
Asking for a job by its identifier, which becomes part of the address as it is. That is the address
of the job as long as nothing in the identifier has a meaning in addresses; otherwise the client
asks for something else than what it signs, or cannot ask at all.
-/

namespace Transcoding

open Numeral (Fits)

theorem Header.fault?_eq_none {value : List Char} (h : ∀ c ∈ value, c.toNat < 0x80) :
    Header.fault? value = none := by
  rw [Header.fault?, List.span_eq_takeWhile_dropWhile,
    List.dropWhile_eq_nil_iff.2 fun c hc => decide_eq_true (h c hc)]
  rfl

theorem Exchange.after_inj {e : Exchange} {r r' : Request} : e.after r = e.after r' ↔ r = r' :=
  ⟨fun h => (List.cons.inj (congrArg Exchange.sent h)).1, congrArg e.after⟩

theorem Exchange.ne_after (e : Exchange) (r : Request) : e ≠ e.after r :=
  fun h => List.ne_cons_self (congrArg Exchange.sent h)

namespace Conductor.Client

open Url (PlainHost NumbersFine HasEscape below pathPart)

theorem prepare_eq_ok_iff {c : Client} {method : Method} {path : List Char}
    {body : Option (List Char)} {now : Int} (hlogin : Header.fault? c.userLogin.toList = none)
    {r : Request} : c.prepare method path body now = .ok r ↔
      ∃ signature url, c.sign path now = .ok signature ∧
        Url.parse (c.host.toList ++ "/api".toList ++ path) = .ok url ∧
        r = ⟨method, String.ofList url.target.text, signature, body.map String.ofList⟩ := by
  simp only [prepare, bind_eq_ok_iff, mapError_eq_ok_iff, hlogin]
  constructor
  · rintro ⟨signature, hsign, url, hurl, hr⟩
    exact ⟨signature, url, hsign, hurl, pure_eq_ok_iff.1 hr⟩
  · rintro ⟨signature, url, hsign, hurl, hr⟩
    exact ⟨signature, hsign, url, hurl, pure_eq_ok_iff.2 hr⟩

/-- What is sent when a job is asked for is the request that can be made, if one can be. -/
theorem getJob_sends_iff {c : Client} {id : String} {e : Exchange} {r : Request} :
    (c.getJob id e).2 = e.after r ↔
      c.prepare .get ("/jobs/".toList ++ id.toList) none e.now = .ok r := by
  have called := Operation.call_apply (.getJob id) c e
  rw [Operation.call, Operation.request] at called
  rw [called]
  cases c.prepare .get ("/jobs/".toList ++ id.toList) none e.now with
  | error d =>
      constructor
      · intro h
        exact absurd h (e.ne_after r)
      · intro h
        cases h
  | ok r' => rw [Exchange.after_inj, Except.ok.injEq]

/-- The path that the identifier of a job leads to. -/
def jobPath (id : List Char) : List Char :=
  "/api/jobs/".toList ++ id

/-- Whether asking for a job sends one request, to a URL: its path is that of the job once escapes
are read, nothing follows the path, and what is signed is the path too. -/
def Fetches (c : Client) (id : String) (e : Exchange) (url : String) : Prop :=
  ∃ path signature,
    (c.getJob id e).2 = e.after ⟨.get, url, signature, none⟩ ∧
    url = String.ofList (c.host.toList.map Char.toLower ++ path) ∧
    path.head? = some '/' ∧ '?' ∉ path ∧ '#' ∉ path ∧
    Service.unescape path = jobPath id.toList ∧
    c.sign ("/jobs/".toList ++ id.toList) e.now = .ok signature

/-- What it takes for the address of a job to be made of its identifier as it is. -/
structure Addressable (c : Client) (name : List Char) (id : String) (now : Int) : Prop where
  expiry : Fits (c.expiry now)
  numbers : NumbersFine name
  length : (c.host.toList ++ jobPath id.toList).length ≤ Url.maxLength
  control : ∀ d ∈ id.toList, Url.isControl d = false
  question : '?' ∉ id.toList
  fragment : '#' ∉ id.toList
  dots : id.toList ≠ ['.'] ∧ id.toList ≠ ['.', '.']
  escapes : ¬HasEscape id.toList

theorem normalPath_jobPath {id : List Char} (h : '/' ∉ id) :
    Url.normalPath (jobPath id) =
      if id = ['.'] then "/api/jobs".toList
      else if id = ['.', '.'] then "/api".toList
      else jobPath id := by
  have segments : jobPath id = ['/'].intercalate [[], "api".toList, "jobs".toList, id] := by
    rw [List.intercalate_cons_cons, List.intercalate_cons_cons, List.intercalate_cons_cons,
      List.intercalate_singleton]
    rfl
  have bare : ∀ segment ∈ [[], "api".toList, "jobs".toList, id], '/' ∉ segment := by
    rw [List.forall_mem_cons, List.forall_mem_cons, List.forall_mem_cons, List.forall_mem_singleton]
    exact ⟨by decide, by decide, by decide, h⟩
  have front (rest : List (List Char)) :
      Url.dropDots [] ([] :: "api".toList :: "jobs".toList :: rest) =
        Url.dropDots ["jobs".toList, "api".toList, []] rest := rfl
  rw [segments, Url.normalPath_intercalate bare (List.cons_ne_nil _ _), front]
  by_cases one : id = ['.']
  · rw [if_pos one, Url.dropDots, if_pos one]
    rfl
  by_cases two : id = ['.', '.']
  · rw [if_neg one, if_pos two, Url.dropDots, if_neg one, if_pos two]
    rfl
  · rw [if_neg one, if_neg two, Url.dropDots, if_neg one, if_neg two]
    rfl

theorem hasEscape_jobPath_iff {id : List Char} : HasEscape (jobPath id) ↔ HasEscape id := by
  change HasEscape ('/' :: 'a' :: 'p' :: 'i' :: '/' :: 'j' :: 'o' :: 'b' :: 's' :: '/' :: id) ↔ _
  simp [Url.hasEscape_cons_iff]

theorem escape_jobPath (id : List Char) :
    Url.escape Url.isPathSafe (jobPath id) =
      "/api/jobs/".toList ++ Url.escape Url.isPathSafe id := by
  have root : Url.escape Url.isPathSafe "/api/jobs/".toList = "/api/jobs/".toList := by
    decide +kernel
  exact (Url.escape_append _ _ _).trans (congrArg (· ++ Url.escape Url.isPathSafe id) root)

theorem mem_jobPath_iff {id : List Char} {d : Char} (h : d ∉ "/api/jobs/".toList) :
    d ∈ jobPath id ↔ d ∈ id :=
  ⟨fun hd => (List.mem_append.1 hd).resolve_left h, List.mem_append_right _⟩

section Addresses

variable {c : Client} {scheme name : List Char} {id : String} {e : Exchange}

/-- The request for a job below a plain host. -/
theorem getJob_sends_below_iff (hplain : PlainHost scheme name)
    (hhost : c.host.toList = scheme ++ "://".toList ++ name)
    (hlogin : Header.fault? c.userLogin.toList = none) {url : String} {signature : Signature} :
    (c.getJob id e).2 = e.after ⟨.get, url, signature, none⟩ ↔
      c.sign ("/jobs/".toList ++ id.toList) e.now = .ok signature ∧
      ((c.host.toList ++ jobPath id.toList).length ≤ Url.maxLength ∧
        (∀ d ∈ id.toList, Url.isControl d = false) ∧ NumbersFine name) ∧
      url = String.ofList (below scheme name (jobPath id.toList)).text := by
  have shape : c.host.toList ++ "/api".toList ++ ("/jobs/".toList ++ id.toList) =
      scheme ++ "://".toList ++ name ++ jobPath id.toList := by
    rw [hhost, List.append_assoc]
    rfl
  have control : (∀ d ∈ jobPath id.toList, Url.isControl d = false) ↔
      ∀ d ∈ id.toList, Url.isControl d = false := by
    have root : ∀ d ∈ "/api/jobs/".toList, Url.isControl d = false :=
      Text.forall_of_all (by decide +kernel)
    exact ⟨fun h => (List.forall_mem_append.1 h).2, fun h => List.forall_mem_append.2 ⟨root, h⟩⟩
  have rooted : (jobPath id.toList).head? = some '/' := rfl
  rw [getJob_sends_iff, prepare_eq_ok_iff hlogin]
  simp only [shape, hplain.parse_eq_ok_iff rooted, control]
  rw [← hhost]
  constructor
  · rintro ⟨signature', u, hsign, ⟨⟨⟨hlength, hcontrol⟩, hnumbers⟩, rfl⟩, hr⟩
    cases hr
    rw [hplain.target_below]
    exact ⟨hsign, ⟨hlength, hcontrol, hnumbers⟩, rfl⟩
  · rintro ⟨hsign, ⟨hlength, hcontrol, hnumbers⟩, rfl⟩
    refine ⟨signature, _, hsign, ⟨⟨⟨hlength, hcontrol⟩, hnumbers⟩, rfl⟩, ?_⟩
    rw [hplain.target_below]
    rfl

/-- What the address of a job is made of, and that nothing follows its path. -/
theorem below_jobPath {c : Client} (hplain : PlainHost scheme name)
    (hhost : c.host.toList = scheme ++ "://".toList ++ name) {id : List Char}
    (hquestion : '?' ∉ id) (hfragment : '#' ∉ id) :
    (below scheme name (jobPath id)).text = c.host.toList.map Char.toLower ++
      Url.escape Url.isPathSafe (Url.normalPath (jobPath id)) := by
  have noQuestion : '?' ∉ jobPath id := fun h => hquestion ((mem_jobPath_iff (by decide)).1 h)
  have noFragment : '#' ∉ jobPath id := fun h => hfragment ((mem_jobPath_iff (by decide)).1 h)
  rw [hplain.text_below, ← hhost, (Url.below_query_eq_none_iff noFragment).2 noQuestion,
    Url.below_fragment_eq_none_iff.2 noFragment]
  change _ ++ (Url.escape Url.isPathSafe (Url.normalPath (pathPart (jobPath id))) ++ []) = _
  rw [List.append_nil, Url.pathPart_eq_self noQuestion noFragment]

/-- A job below a plain host is asked for at its own address exactly if its identifier can stand in
one as it is. -/
theorem exists_fetches_iff (hplain : PlainHost scheme name)
    (hhost : c.host.toList = scheme ++ "://".toList ++ name)
    (hlogin : Header.fault? c.userLogin.toList = none) (hslash : '/' ∉ id.toList) :
    (∃ url, c.Fetches id e url) ↔ c.Addressable name id e.now := by
  constructor
  · rintro ⟨_, path, signature, hsends, rfl, hhead, hquestion, hfragment, hpath, hsign⟩
    obtain ⟨-, ⟨hlength, hcontrol, hnumbers⟩, hurl⟩ :=
      (getJob_sends_below_iff hplain hhost hlogin).1 hsends
    rw [String.ofList_inj] at hurl
    obtain ⟨noQuestion, noFragment⟩ :=
      hplain.not_mem_of_text_below (by rw [← hurl, hhost]) hquestion hfragment
    rw [mem_jobPath_iff (by decide)] at noFragment noQuestion
    rw [below_jobPath hplain hhost noQuestion noFragment] at hurl
    rw [List.append_cancel_left hurl, Url.unescape_escape Url.keepsEscapes_isPathSafe,
      normalPath_jobPath hslash] at hpath
    have dots : id.toList ≠ ['.'] ∧ id.toList ≠ ['.', '.'] := by
      constructor <;> intro hid <;> rw [hid] at hpath <;> revert hpath <;> decide +kernel
    rw [if_neg dots.1, if_neg dots.2, Url.unescape_eq_self_iff, hasEscape_jobPath_iff] at hpath
    exact ⟨exists_sign_iff.1 ⟨_, hsign⟩, hnumbers, hlength, hcontrol, noQuestion, noFragment, dots,
      hpath⟩
  · intro h
    obtain ⟨signature, hsign⟩ := exists_sign_iff.2 h.expiry
    have normal : Url.normalPath (jobPath id.toList) = jobPath id.toList := by
      rw [normalPath_jobPath hslash, if_neg h.dots.1, if_neg h.dots.2]
    refine ⟨_, Url.escape Url.isPathSafe (jobPath id.toList), signature,
      (getJob_sends_below_iff hplain hhost hlogin).2
        ⟨hsign, ⟨h.length, h.control, h.numbers⟩, rfl⟩, ?_, rfl, ?_, ?_, ?_, hsign⟩
    · rw [below_jobPath hplain hhost h.question h.fragment, normal]
    · exact Url.not_mem_escape (fun _ => rfl) (by decide) (by decide)
    · exact Url.not_mem_escape (fun _ => rfl) (by decide) (by decide)
    · rw [Url.unescape_escape Url.keepsEscapes_isPathSafe, Url.unescape_eq_self_iff,
        hasEscape_jobPath_iff]
      exact h.escapes

/-- An identifier that can stand in an address stays in its place there. -/
theorem Fetches.url_eq (hplain : PlainHost scheme name)
    (hhost : c.host.toList = scheme ++ "://".toList ++ name)
    (hlogin : Header.fault? c.userLogin.toList = none) (hslash : '/' ∉ id.toList) {url : String}
    (h : c.Fetches id e url) :
    url = String.ofList (c.host.toList.map Char.toLower ++
      ("/api/jobs/".toList ++ Url.escape Url.isPathSafe id.toList)) := by
  have address := (exists_fetches_iff hplain hhost hlogin hslash).1 ⟨url, h⟩
  obtain ⟨_, _, hsends, _⟩ := h
  obtain ⟨-, -, hurl⟩ := (getJob_sends_below_iff hplain hhost hlogin).1 hsends
  rw [hurl, below_jobPath hplain hhost address.question address.fragment,
    normalPath_jobPath hslash, if_neg address.dots.1, if_neg address.dots.2, escape_jobPath]

theorem Fetches.unique {id' : String} {e' : Exchange} {url : String} (h : c.Fetches id e url)
    (h' : c.Fetches id' e' url) : id' = id := by
  obtain ⟨path, _, _, hurl, _, _, _, hpath, _⟩ := h
  obtain ⟨path', _, _, hurl', _, _, _, hpath', _⟩ := h'
  rw [hurl, String.ofList_inj] at hurl'
  rw [List.append_cancel_left hurl', hpath'] at hpath
  exact String.toList_inj.1 (List.append_cancel_left hpath)

end Addresses

/-- Below a plain host a job is asked for at its own address if and only if its identifier can stand
in an address as it is. Then its address is one segment below that of all jobs, and no other job has
it. -/
theorem getJob_fetches_iff {c : Client} {scheme name : List Char} (hplain : PlainHost scheme name)
    (hhost : c.host.toList = scheme ++ "://".toList ++ name)
    (hlogin : ∀ d ∈ c.userLogin.toList, d.toNat < 0x80) {id : String} (hid : id ≠ "")
    (hslash : '/' ∉ id.toList) (e : Exchange) :
    ((∃ url, c.Fetches id e url) ↔ c.Addressable name id e.now) ∧
      ∀ url, c.Fetches id e url →
        (∃ segment, segment ≠ [] ∧ '/' ∉ segment ∧ url = String.ofList
          (c.host.toList.map Char.toLower ++ ("/api/jobs/".toList ++ segment))) ∧
        ∀ id' e', c.Fetches id' e' url → id' = id := by
  have ascii := Header.fault?_eq_none hlogin
  refine ⟨exists_fetches_iff hplain hhost ascii hslash, fun url h => ⟨?_, fun id' e' => h.unique⟩⟩
  refine ⟨_, Url.escape_ne_nil ?_, ?_, h.url_eq hplain hhost ascii hslash⟩
  · exact fun hnil => hid (String.toList_eq_nil_iff.1 hnil)
  · exact Url.not_mem_escape (fun hmem => absurd hmem hslash) (by decide) (by decide)

theorem exampleClient_plainHost : PlainHost "https".toList "conductor.example.com".toList where
  letter := by decide
  scheme := Text.forall_of_all (by decide)
  nonempty := by decide
  name := Text.forall_of_all (by decide +kernel)

theorem getJob_fetches_accented :
    PlainHost "https".toList "conductor.example.com".toList ∧
      exampleClient.host.toList = "https".toList ++ "://".toList ++ "conductor.example.com".toList ∧
      ∃ url, exampleClient.Fetches "caf\u00e9 1" (answering 200 "<job/>") url := by
  have hhost : exampleClient.host.toList =
    "https".toList ++ "://".toList ++ "conductor.example.com".toList := by decide +kernel
  have hslash : '/' ∉ "caf\u00e9 1".toList := by decide +kernel
  have hlogin : ∀ d ∈ exampleClient.userLogin.toList, d.toNat < 0x80 :=
    Text.forall_of_all (by decide +kernel)
  have found := getJob_fetches_iff exampleClient_plainHost hhost hlogin (by decide +kernel) hslash
    (answering 200 "<job/>")
  refine ⟨exampleClient_plainHost, hhost, found.1.2 ?_⟩
  exact {
    expiry := by decide +kernel
    numbers := by decide +kernel
    length := by decide +kernel
    control := Text.forall_of_all (by decide +kernel)
    question := by decide +kernel
    fragment := by decide +kernel
    dots := by decide +kernel
    escapes := by decide +kernel }

/-- A question mark in an identifier begins a query: what is asked for is another job than the one
that is signed. -/
theorem question_mark_begins_query :
    PlainHost "https".toList "conductor.example.com".toList ∧
      exampleClient.host.toList = "https".toList ++ "://".toList ++ "conductor.example.com".toList ∧
      '/' ∉ "a?b".toList ∧
      ((exampleClient.getJob "a?b" (answering 200 "<job/>")).2.sent.map Request.url =
        ["https://conductor.example.com/api/jobs/a?b"]) ∧
      ¬∃ url, exampleClient.Fetches "a?b" (answering 200 "<job/>") url := by
  have hhost : exampleClient.host.toList =
    "https".toList ++ "://".toList ++ "conductor.example.com".toList := by decide +kernel
  refine ⟨exampleClient_plainHost, hhost, by decide +kernel, by decide +kernel, fun h => ?_⟩
  have address := (exists_fetches_iff exampleClient_plainHost hhost (by decide +kernel)
    (by decide +kernel)).1 h
  exact address.question (by decide +kernel)

end Conductor.Client
end Transcoding
