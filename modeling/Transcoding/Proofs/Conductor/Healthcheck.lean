import Transcoding.Conductor.Provider
import Transcoding.Proofs.Conductor.Client
import Transcoding.Proofs.Url.PlainHost

/-!
The healthcheck asks for the nodes and then for the configuration, each once, and stops at the first
call that fails. If both are there, it passes exactly if the active servers among the nodes are as
many as the configuration requires; nothing else of the nodes has a part in it.
-/

namespace Transcoding.Conductor

open Xml (Element)

/-- Whether the element of a node is that of a server that is active. -/
def IsActive (node : Element) : Prop :=
  Text.trim (node.childText (.plain "product")) = "Server".toList ∧
    Text.trim (node.childText (.plain "status")) = "active".toList

instance : DecidablePred IsActive :=
  fun _ => inferInstanceAs (Decidable (_ ∧ _))

/-- The elements of the nodes that stand directly in the root of a document. -/
def nodesOf (root : Element) : List Element :=
  root.content.children (.plain "node")

/-- Whether the root of a configuration requires a number of nodes; none are required if it does not
say. -/
def Requires (root : Element) (m : Int) : Prop :=
  let text := Text.trim (root.childText (.plain "min_nodes"))
  (text = [] ∧ m = 0) ∨ (text ≠ [] ∧ Numeral.read text = .ok m)

theorem isActiveServer_ofElement (e : Element) :
    (Node.ofElement e).isActiveServer = decide (IsActive e) := by
  have same (cs : List Char) (s : String) : (String.ofList cs == s) = decide (cs = s.toList) := by
    rw [Bool.eq_iff_iff, beq_iff_eq, decide_eq_true_iff, ← String.toList_inj, String.toList_ofList]
  rw [Node.isActiveServer, Node.ofElement, same, same, ← Bool.decide_and]
  rfl

theorem requires_of_integer {root : Element} {m : Int}
    (h : Response.integer root "min_nodes" = .ok m) : Requires root m := by
  rw [Response.integer] at h
  split at h
  · next blank =>
      cases h
      exact .inl ⟨blank, rfl⟩
  · next written => exact .inr ⟨written, mapError_eq_ok_iff.1 h⟩

theorem ofBytes_eq_ok_iff {bytes : List UInt8} {config : CloudConfig} :
    CloudConfig.ofBytes bytes = .ok config ↔
      ∃ root, Element.ofBytes bytes = .ok root ∧ CloudConfig.ofElement root = .ok config := by
  simp only [CloudConfig.ofBytes, Response.ofDocument, bind_eq_ok_iff, mapError_eq_ok_iff]

theorem requires_of_ofElement {root : Element} {config : CloudConfig}
    (h : CloudConfig.ofElement root = .ok config) : Requires root config.minNodes := by
  obtain ⟨_, _, h⟩ := bind_eq_ok_iff.1 h
  obtain ⟨m, hm, h⟩ := bind_eq_ok_iff.1 h
  obtain ⟨_, _, hconfig⟩ := bind_eq_ok_iff.1 h
  cases hconfig
  exact requires_of_integer hm

theorem Requires.unique {root : Element} {m m' : Int} (h : Requires root m)
    (h' : Requires root m') : m = m' := by
  obtain ⟨blank, rfl⟩ | ⟨written, hread⟩ := h
  · obtain ⟨_, rfl⟩ | ⟨written, _⟩ := h'
    · rfl
    · exact absurd blank written
  · obtain ⟨blank, _⟩ | ⟨_, hread'⟩ := h'
    · exact absurd blank written
    · rw [hread] at hread'
      cases hread'
      rfl

/-- Whether the next reply is an answer that is no error and is the document of a root. -/
def Delivers (e : Exchange) (root : Element) : Prop :=
  ∃ a, e.reply = .answer a ∧ a.isError = false ∧ Element.ofBytes a.body = .ok root

theorem delivers_of_ofBytes {now : Int} {body : List UInt8} {rest : List Reply}
    {sent : List Request} {root : Element} (h : Element.ofBytes body = .ok root) :
    Delivers ⟨now, .answer ⟨200, body⟩ :: rest, sent⟩ root :=
  ⟨⟨200, body⟩, rfl, rfl, h⟩

theorem Delivers.unique {e : Exchange} {root root' : Element} (h : Delivers e root)
    (h' : Delivers e root') : root = root' := by
  obtain ⟨a, ha, -, hroot⟩ := h
  obtain ⟨a', ha', -, hroot'⟩ := h'
  rw [ha] at ha'
  cases ha'
  rw [hroot] at hroot'
  cases hroot'
  rfl

/-- Whether a backend is going to tell, in its next two replies, of the nodes and of the number that
is required: how many that is, and how many active servers there are. -/
def Shows (e : Exchange) (required : Int) (active : Nat) : Prop :=
  ∃ root config, Delivers e root ∧ Delivers { e with replies := e.replies.tail } config ∧
    Requires config required ∧ (nodesOf root).countP IsActive = active

theorem Shows.unique {e : Exchange} {m m' : Int} {k k' : Nat} (h : Shows e m k)
    (h' : Shows e m' k') : m = m' ∧ k = k' := by
  obtain ⟨root, config, hroot, hconfig, hm, rfl⟩ := h
  obtain ⟨root', config', hroot', hconfig', hm', rfl⟩ := h'
  obtain rfl := hroot.unique hroot'
  obtain rfl := hconfig.unique hconfig'
  exact ⟨hm.unique hm', rfl⟩

/-- What a healthcheck says of a number of active servers where some number is required. -/
def verdict (m : Int) (k : Nat) : Except Problem Unit :=
  if (k : Int) < m then .error (.failure (.capacity m k)) else .ok ()

namespace Client

/-- Whether all that happened between two states of a backend is one request without a body: it asks
for what is at a path. -/
def AskedOnce (c : Client) (path : String) (e e' : Exchange) : Prop :=
  ∃ url signature, Url.parse (c.host.toList ++ "/api".toList ++ path.toList) = .ok url ∧
    c.sign path.toList e.now = .ok signature ∧
    e' = e.after ⟨.get, String.ofList url.target.text, signature, none⟩

/-- The address of a path below the interface at a plain host. -/
theorem AskedOnce.address {c : Client} {path : String} {e e' : Exchange}
    (h : c.AskedOnce path e e') {scheme name : List Char} (plain : Url.PlainHost scheme name)
    (hhost : c.host.toList = scheme ++ "://".toList ++ name)
    (settled : Url.IsSettled ("/api".toList ++ path.toList)) :
    ∃ signature, e' = e.after ⟨.get,
      String.ofList (c.host.toList.map Char.toLower ++ ("/api".toList ++ path.toList)), signature,
      none⟩ := by
  obtain ⟨url, signature, hurl, -, rfl⟩ := h
  rw [hhost, List.append_assoc (_ ++ _)] at hurl
  rw [hhost]
  exact ⟨signature, by rw [plain.target_text settled hurl]⟩

/-- The paths that a healthcheck asks for. -/
theorem isSettled_healthcheck : Url.IsSettled ("/api".toList ++ "/nodes".toList) ∧
    Url.IsSettled ("/api".toList ++ "/configs/cloud".toList) :=
  ⟨⟨rfl, by decide, by decide +kernel⟩, ⟨rfl, by decide, by decide +kernel⟩⟩

theorem prepare_asked {c : Client} {path : String} {e : Exchange}
    (h : c.CanSend path.toList e.now) :
    ∃ r, c.prepare .get path.toList none e.now = .ok r ∧ c.AskedOnce path e (e.after r) := by
  obtain ⟨url, signature, hurl, hsign, hprepare⟩ := h.exists_prepare
  exact ⟨_, hprepare .get none, url, signature, hurl, hsign, rfl⟩

theorem getNodes_apply {c : Client} {e : Exchange} (h : c.CanSend "/nodes".toList e.now) :
    ∃ e', c.AskedOnce "/nodes" e e' ∧ c.getNodes e = (interpret Node.listOfBytes e.reply, e') := by
  obtain ⟨r, hr, hasked⟩ := prepare_asked h
  have called := Operation.getNodes.call_apply c e
  rw [Operation.request, hr] at called
  exact ⟨_, hasked, called⟩

theorem getCloudConfig_apply {c : Client} {e : Exchange}
    (h : c.CanSend "/configs/cloud".toList e.now) :
    ∃ e', c.AskedOnce "/configs/cloud" e e' ∧
      c.getCloudConfig e = (interpret CloudConfig.ofBytes e.reply, e') := by
  obtain ⟨r, hr, hasked⟩ := prepare_asked h
  have called := Operation.getCloudConfig.call_apply c e
  rw [Operation.request, hr] at called
  exact ⟨_, hasked, called⟩

theorem healthcheck_apply (c : Client) (e : Exchange) :
    c.healthcheck e =
      match c.getNodes e with
      | (.error p, e₁) => (.error p, e₁)
      | (.ok nodes, e₁) =>
          match c.getCloudConfig e₁ with
          | (.error p, e₂) => (.error p, e₂)
          | (.ok config, e₂) =>
              (verdict config.minNodes (nodes.countP Node.isActiveServer), e₂) := by
  rw [healthcheck, Call.bind_apply]
  rcases c.getNodes e with ⟨p | nodes, e₁⟩
  · rfl
  · dsimp only
    rw [Call.bind_apply]
    rcases c.getCloudConfig e₁ with ⟨p | config, e₂⟩
    · rfl
    · simp only [verdict]
      split <;> rfl

theorem interpret_ofDocument_iff {α : Type} {read : Element → Except ResponseFault α} {e : Exchange}
    {value : α} :
    interpret (fun bytes => Response.ofDocument read (Element.ofBytes bytes)) e.reply = .ok value ↔
      ∃ root, Delivers e root ∧ read root = .ok value := by
  simp only [interpret_eq_ok_iff, Response.ofDocument, bind_eq_ok_iff, mapError_eq_ok_iff, Delivers]
  constructor
  · rintro ⟨a, ha, hstatus, root, hroot, hread⟩
    exact ⟨root, ⟨a, ha, hstatus, hroot⟩, hread⟩
  · rintro ⟨root, ⟨a, ha, hstatus, hroot⟩, hread⟩
    exact ⟨a, ha, hstatus, root, hroot, hread⟩

theorem interpret_listOfBytes_of_delivers {e : Exchange} {root : Element} (h : Delivers e root) :
    interpret Node.listOfBytes e.reply = .ok ((nodesOf root).map Node.ofElement) :=
  interpret_ofDocument_iff.2 ⟨root, h, rfl⟩

theorem countP_isActiveServer (nodes : List Element) :
    (nodes.map Node.ofElement).countP Node.isActiveServer = nodes.countP IsActive := by
  rw [List.countP_map]
  exact List.countP_congr fun node _ => by
    rw [Function.comp_apply, isActiveServer_ofElement]

/-- What a healthcheck asks for: the nodes and then the configuration. -/
def survey (c : Client) : Call (List Node × CloudConfig) := do
  let nodes ← c.getNodes
  let config ← c.getCloudConfig
  return (nodes, config)

theorem survey_apply (c : Client) (e : Exchange) :
    c.survey e =
      match c.getNodes e with
      | (.error p, e₁) => (.error p, e₁)
      | (.ok nodes, e₁) =>
          match c.getCloudConfig e₁ with
          | (.error p, e₂) => (.error p, e₂)
          | (.ok config, e₂) => (.ok (nodes, config), e₂) := by
  rw [survey, Call.bind_apply]
  rcases c.getNodes e with ⟨p | nodes, e₁⟩
  · rfl
  · dsimp only
    rw [Call.bind_apply]
    rcases c.getCloudConfig e₁ with ⟨p | config, e₂⟩
    · rfl
    · rfl

/-- The outcome of a healthcheck is known from what it asks for. -/
theorem healthcheck_of_survey (c : Client) (e : Exchange) :
    c.healthcheck e =
      match c.survey e with
      | (.error p, e') => (.error p, e')
      | (.ok (nodes, config), e') =>
          (verdict config.minNodes (nodes.countP Node.isActiveServer), e') := by
  rw [healthcheck_apply, survey_apply]
  rcases c.getNodes e with ⟨p | nodes, e₁⟩
  · rfl
  · dsimp only
    rcases c.getCloudConfig e₁ with ⟨p | config, e₂⟩
    · rfl
    · rfl

theorem healthcheck_of_survey_error {c : Client} {e : Exchange} {problem : Problem}
    (h : (c.survey e).1 = .error problem) : c.healthcheck e = (.error problem, (c.survey e).2) := by
  rw [healthcheck_of_survey]
  generalize c.survey e = ran at h ⊢
  obtain ⟨_, e'⟩ := ran
  cases h
  rfl

theorem survey_error {c : Client} {e : Exchange} {problem : Problem}
    (h : (c.survey e).1 = .error problem) :
    (∃ fault, problem = .failure (.transport fault)) ∨ ∃ d, problem = .defect d := by
  rw [survey_apply] at h
  rcases hnodes : c.getNodes e with ⟨p | nodes, e₁⟩
  · rw [hnodes] at h
    cases h
    exact Operation.getNodes.call_error (congrArg Prod.fst hnodes)
  · rw [hnodes] at h
    dsimp only at h
    rcases hconfig : c.getCloudConfig e₁ with ⟨p | config, e₂⟩
    · rw [hconfig] at h
      cases h
      exact Operation.getCloudConfig.call_error (congrArg Prod.fst hconfig)
    · rw [hconfig] at h
      cases h

theorem shows_of_survey {c : Client} {e : Exchange} {nodes : List Node} {config : CloudConfig}
    (h : (c.survey e).1 = .ok (nodes, config)) :
    Shows e config.minNodes (nodes.countP Node.isActiveServer) := by
  rw [survey_apply] at h
  rcases hnodes : c.getNodes e with ⟨p | nodes', e₁⟩
  · rw [hnodes] at h
    cases h
  · rw [hnodes] at h
    dsimp only at h
    rcases hconfig : c.getCloudConfig e₁ with ⟨p | config', e₂⟩
    · rw [hconfig] at h
      cases h
    · rw [hconfig] at h
      cases h
      obtain ⟨⟨r, rfl⟩, nodesRead⟩ := Operation.getNodes.call_ok hnodes
      obtain ⟨-, configRead⟩ := Operation.getCloudConfig.call_ok hconfig
      obtain ⟨root, hroot, hlist⟩ := interpret_ofDocument_iff.1 nodesRead
      cases hlist
      obtain ⟨root₂, hroot₂, helement⟩ := interpret_ofDocument_iff.1 configRead
      exact ⟨root, root₂, hroot, hroot₂, requires_of_ofElement helement,
        (countP_isActiveServer _).symm⟩

/-- Once both calls succeed, what the backend showed decides. -/
theorem healthcheck_of_shows {c : Client} {e : Exchange} {found : List Node × CloudConfig}
    (h : (c.survey e).1 = .ok found) {m : Int} {k : Nat} (hshows : Shows e m k) :
    c.healthcheck e = (verdict m k, (c.survey e).2) := by
  obtain ⟨rfl, rfl⟩ := hshows.unique (shows_of_survey h)
  rw [healthcheck_of_survey]
  generalize c.survey e = ran at h ⊢
  obtain ⟨_, e'⟩ := ran
  cases h
  rfl

theorem verdict_eq_ok_iff {m : Int} {k : Nat} : verdict m k = .ok () ↔ m ≤ k := by
  rw [verdict]
  split
  · next short => exact iff_of_false nofun (Int.not_le.2 short)
  · next enough => exact iff_of_true rfl (Int.not_lt.1 enough)

/-- A healthcheck passes only if both calls succeed and there are enough active servers. -/
theorem healthcheck_eq_ok_iff {c : Client} {e : Exchange} :
    (c.healthcheck e).1 = .ok () ↔
      (∃ found, (c.survey e).1 = .ok found) ∧ ∃ m k, Shows e m k ∧ m ≤ k := by
  constructor
  · intro passed
    cases hsurvey : (c.survey e).1 with
    | error problem =>
        rw [healthcheck_of_survey_error hsurvey] at passed
        cases passed
    | ok found =>
        have shows := shows_of_survey hsurvey
        rw [healthcheck_of_shows hsurvey shows] at passed
        exact ⟨⟨found, rfl⟩, _, _, shows, verdict_eq_ok_iff.1 passed⟩
  · rintro ⟨⟨found, hsurvey⟩, m, k, shows, enough⟩
    rw [healthcheck_of_shows hsurvey shows]
    exact verdict_eq_ok_iff.2 enough

/-- With the nodes there, the outcome is that of the other call and the number of active servers. -/
theorem healthcheck_of_delivers {c : Client} {e : Exchange} (hn : c.CanSend "/nodes".toList e.now)
    (hc : c.CanSend "/configs/cloud".toList e.now) {root : Element} (hd : Delivers e root) :
    (c.healthcheck e).1 =
      interpret CloudConfig.ofBytes (e.replies.tail.head?.getD (.outage .silence)) >>=
        fun config => verdict config.minNodes ((nodesOf root).countP IsActive) := by
  obtain ⟨e₁, ⟨_, _, _, _, rfl⟩, hnodes⟩ := getNodes_apply hn
  obtain ⟨e₂, _, hconfig⟩ := getCloudConfig_apply (e := e.after _) hc
  rw [interpret_listOfBytes_of_delivers hd] at hnodes
  rw [healthcheck_apply, hnodes]
  dsimp only
  rw [hconfig, countP_isActiveServer]
  change (match (interpret CloudConfig.ofBytes (e.replies.tail.head?.getD _), e₂) with
    | (.error p, e₂) => _
    | (.ok config, e₂) => _ : Except Problem Unit × Exchange).1 = _
  cases interpret CloudConfig.ofBytes (e.replies.tail.head?.getD (.outage .silence)) with
  | error p => rfl
  | ok config => rfl

theorem verdict_mono {m : Int} {k l : Nat} (hkl : k ≤ l) (h : verdict m k = .ok ()) :
    verdict m l = .ok () := by
  rw [verdict_eq_ok_iff] at h ⊢
  omega

/-- More nodes in any order make no difference, unless they are active servers: then a healthcheck
that passed passes all the more. -/
theorem healthcheck_of_perm {c : Client} {e e' : Exchange} (hn : c.CanSend "/nodes".toList e.now)
    (hc : c.CanSend "/configs/cloud".toList e.now) (hnow : e'.now = e.now)
    (hrest : e'.replies.tail = e.replies.tail) {root root' : Element} (hd : Delivers e root)
    (hd' : Delivers e' root') {extra : List Element}
    (hperm : (nodesOf root').Perm (nodesOf root ++ extra)) :
    ((∀ node ∈ extra, ¬IsActive node) → (c.healthcheck e').1 = (c.healthcheck e).1) ∧
      ((c.healthcheck e).1 = .ok () → (c.healthcheck e').1 = .ok ()) := by
  have count : (nodesOf root').countP IsActive =
      (nodesOf root).countP IsActive + extra.countP IsActive := by
    rw [hperm.countP_eq, List.countP_append]
  rw [healthcheck_of_delivers hn hc hd,
    healthcheck_of_delivers (e := e') (by rwa [hnow]) (by rwa [hnow]) hd', hrest, count]
  constructor
  · intro inactive
    have none : extra.countP IsActive = 0 :=
      List.countP_eq_zero.2 fun node hnode => by simpa using inactive node hnode
    rw [none, Nat.add_zero]
  · intro passed
    obtain ⟨config, hconfig, hverdict⟩ := bind_eq_ok_iff.1 passed
    exact bind_eq_ok_iff.2 ⟨config, hconfig, verdict_mono (Nat.le_add_right _ _) hverdict⟩

/-- The healthcheck stops at the first call that fails; otherwise it asks for the nodes and the
configuration, each once, and compares the active servers among the nodes with what is required.
Neither the order of the nodes nor those that are not active servers matter, and more nodes of any
kind, active servers included, never make it fail. -/
theorem healthcheck_counts {c : Client} {e : Exchange} (hn : c.CanSend "/nodes".toList e.now)
    (hc : c.CanSend "/configs/cloud".toList e.now) :
    (∃ e₁, c.AskedOnce "/nodes" e e₁ ∧
      match (c.getNodes e).1 with
      | .error p => c.healthcheck e = (.error p, e₁)
      | .ok _ =>
          ∃ e₂, c.AskedOnce "/configs/cloud" e₁ e₂ ∧
            match (c.getCloudConfig e₁).1 with
            | .error p => c.healthcheck e = (.error p, e₂)
            | .ok _ =>
                ∃ root config m, Delivers e root ∧ Delivers e₁ config ∧ Requires config m ∧
                  c.healthcheck e = (verdict m ((nodesOf root).countP IsActive), e₂)) ∧
      ∀ e' root root' extra, e'.now = e.now → e'.replies.tail = e.replies.tail →
        Delivers e root → Delivers e' root' → (nodesOf root').Perm (nodesOf root ++ extra) →
        ((∀ node ∈ extra, ¬IsActive node) → (c.healthcheck e').1 = (c.healthcheck e).1) ∧
        ((c.healthcheck e).1 = .ok () → (c.healthcheck e').1 = .ok ()) := by
  constructor
  · obtain ⟨e₁, hasked, hnodes⟩ := getNodes_apply hn
    refine ⟨e₁, hasked, ?_⟩
    have same : e₁.now = e.now := by
      obtain ⟨_, _, _, _, rfl⟩ := hasked
      rfl
    rw [healthcheck_apply, hnodes]
    cases hread : interpret Node.listOfBytes e.reply with
    | error p => rfl
    | ok nodes =>
        dsimp only
        obtain ⟨root, hroot, hlist⟩ := interpret_ofDocument_iff.1 hread
        cases hlist
        obtain ⟨e₂, hasked₂, hconfig⟩ := getCloudConfig_apply (e := e₁) (by rwa [same])
        refine ⟨e₂, hasked₂, ?_⟩
        rw [hconfig]
        cases hread₂ : interpret CloudConfig.ofBytes e₁.reply with
        | error p => rfl
        | ok config =>
            obtain ⟨root₂, hroot₂, helement⟩ := interpret_ofDocument_iff.1 hread₂
            refine ⟨root, root₂, config.minNodes, hroot, hroot₂, requires_of_ofElement helement, ?_⟩
            dsimp only
            rw [nodesOf, ← countP_isActiveServer]
  · intro e' root root' extra hnow hrest hd hd' hperm
    exact healthcheck_of_perm hn hc hnow hrest hd hd' hperm

/-- Three servers that say they are active, one of them in upper case and one inside a group. -/
def exampleNodes : String :=
  "<nodes><node><product>Server</product><status> active\n</status></node>" ++
    "<node><product>Server</product><status>Active</status></node>" ++
    "<group><node><product>Server</product><status>active</status></node></group></nodes>"

def exampleConfig : String :=
  "<config><min_nodes>2</min_nodes></config>"

theorem healthcheck_counts_exampleNodes :
    let e : Exchange := ⟨1000000, [.answer ⟨200, Text.toUtf8 exampleNodes.toList⟩,
      .answer ⟨200, Text.toUtf8 exampleConfig.toList⟩], []⟩
    exampleClient.CanSend "/nodes".toList 1000000 ∧
      exampleClient.CanSend "/configs/cloud".toList 1000000 ∧
      (exampleClient.healthcheck e).1 = .error (.failure (.capacity 2 1)) := by
  intro e
  have hn : exampleClient.CanSend "/nodes".toList 1000000 :=
    exampleClient_canSend (by decide +kernel)
  have hc : exampleClient.CanSend "/configs/cloud".toList 1000000 :=
    exampleClient_canSend (by decide +kernel)
  refine ⟨hn, hc, ?_⟩
  obtain ⟨root, hroot, hcount⟩ := exists_of_any
    (x := Element.ofBytes (Text.toUtf8 exampleNodes.toList))
    (p := fun root => (nodesOf root).countP IsActive == 1) (by decide +kernel)
  obtain ⟨read, hread, hmin⟩ := exists_of_any
    (x := CloudConfig.ofBytes (Text.toUtf8 exampleConfig.toList))
    (p := fun read => read.minNodes == 2) (by decide +kernel)
  obtain ⟨config, hconfig, helement⟩ := ofBytes_eq_ok_iff.1 hread
  have requires := requires_of_ofElement helement
  obtain ⟨⟨e₁, ⟨url, signature, _, _, rfl⟩, h⟩, -⟩ := healthcheck_counts (e := e) hn hc
  have showsNodes : Delivers e root := delivers_of_ofBytes hroot
  have showsConfig : Delivers (e.after ⟨.get, String.ofList url.target.text, signature, none⟩)
      config := delivers_of_ofBytes hconfig
  obtain ⟨_, _, nodesRead⟩ := getNodes_apply (e := e) hn
  obtain ⟨_, _, configRead⟩ := getCloudConfig_apply (e := e.after _) hc
  rw [nodesRead, interpret_listOfBytes_of_delivers showsNodes] at h
  obtain ⟨e₂, _, h⟩ := h
  rw [configRead, show interpret CloudConfig.ofBytes _ = .ok read from
    interpret_ofDocument_iff.2 ⟨config, showsConfig, helement⟩] at h
  obtain ⟨root', config', m, hroot', hconfig', hm, h⟩ := h
  rw [← showsNodes.unique hroot', beq_iff_eq.1 hcount] at h
  rw [← showsConfig.unique hconfig'] at hm
  rw [h, hm.unique requires, beq_iff_eq.1 hmin]
  rfl

end Client
end Transcoding.Conductor
