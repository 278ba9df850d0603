import Transcoding.Conductor.Cluster
import Transcoding.Proofs.Conductor.Response
import Transcoding.Proofs.Xml.Writable

/-!
The inventory of a cluster is read back from every document that shows it. Only elements directly
inside the root count: nodes inside elements of other names are none of the cluster. Each list of
nodes and each configuration that a document can hold has one.
-/

namespace Transcoding.Conductor

open Xml (Content Element Outline)

namespace Node

def values (n : Node) : List (String × List Char) :=
  [("name", n.name.toList), ("product", n.product.toList), ("status", n.status.toList)]

/-- Whether an element says what a node says: its address in an attribute, each value in a child,
in any order. -/
structure Describes (n : Node) (e : Element) : Prop where
  href : e.attributes.filter (·.name = .plain "href") = [⟨.plain "href", n.href.toList⟩]
  values : ∃ values, HoldsValues ["name", "product", "status"] e.content values ∧
    values.Perm n.values

/-- Whether content holds an element for each node, in order, and no other of their name. -/
def AreListed (nodes : List Node) (content : Content) : Prop :=
  Holds ["node"] (fun _ => "node") (fun e n => n.Describes e) content nodes

/-- Whether no value has a blank at either end. -/
def IsTrimmed (n : Node) : Prop :=
  ∀ v ∈ n.values, Text.IsTrimmed v.2

instance : DecidablePred IsTrimmed :=
  fun n => inferInstanceAs (Decidable (∀ v ∈ n.values, Text.IsTrimmed v.2))

variable {n : Node} {e root : Element} {nodes : List Node}

theorem Describes.href_eq (h : n.Describes e) : Response.href e = n.href := by
  rw [Response.href, Element.attribute?, ← List.head?_filter, h.href, List.head?_cons,
    Option.map_some, Option.getD_some, String.ofList_toList]

theorem Describes.text_eq (h : n.Describes e) (htrimmed : n.IsTrimmed) {name text : String}
    (hname : name ∈ ["name", "product", "status"])
    (hvalue : n.values.filter (·.1 = name) = [(name, text.toList)]) :
    String.ofList (Response.text e name) = text := by
  obtain ⟨values, hvalues, hperm⟩ := h.values
  have member : (name, text.toList) ∈ n.values :=
    List.mem_of_mem_filter (by rw [hvalue]; exact List.mem_singleton_self _)
  have shown := hperm.filter (·.1 = name)
  rw [hvalue] at shown
  rw [(hvalues.hasValue hname shown).text_eq (htrimmed _ member), String.ofList_toList]

/-- What describes a node is read as the node. -/
theorem Describes.ofElement_eq (h : n.Describes e) (htrimmed : n.IsTrimmed) : ofElement e = n := by
  have name : String.ofList (Response.text e "name") = n.name :=
    h.text_eq htrimmed (by simp) rfl
  have product : String.ofList (Response.text e "product") = n.product :=
    h.text_eq htrimmed (by simp) rfl
  have status : String.ofList (Response.text e "status") = n.status :=
    h.text_eq htrimmed (by simp) rfl
  rw [ofElement, h.href_eq, name, product, status]

theorem map_ofElement_eq {elements : List Element}
    (h : List.Forall₂ (fun e n => n.Describes e) elements nodes)
    (htrimmed : ∀ n ∈ nodes, n.IsTrimmed) : elements.map ofElement = nodes := by
  induction h with
  | nil => rfl
  | cons hdescribes _ ih =>
      obtain ⟨hnode, hothers⟩ := List.forall_mem_cons.1 htrimmed
      rw [List.map_cons, hdescribes.ofElement_eq hnode, ih hothers]

theorem AreListed.listOfElement_eq (h : AreListed nodes root.content)
    (htrimmed : ∀ n ∈ nodes, n.IsTrimmed) : listOfElement root = .ok nodes := by
  have shown := Holds.children h (List.mem_singleton_self "node")
  have all : nodes.filter (fun _ => decide ("node" = "node")) = nodes :=
    List.filter_eq_self.2 fun _ _ => rfl
  rw [all] at shown
  rw [listOfElement, map_ofElement_eq shown htrimmed]

end Node

namespace CloudConfig

/-- Whether an element says what a configuration says, each number in its own way and all of them in
any order. -/
def Describes (c : CloudConfig) (e : Element) : Prop :=
  ∃ values authorized min max,
    HoldsValues ["authorized_node_count", "min_nodes", "max_nodes"] e.content values ∧
      values.Perm (authorized ++ (min ++ max)) ∧
      Quantity "authorized_node_count" c.authorizedNodeCount authorized ∧
      Quantity "min_nodes" c.minNodes min ∧ Quantity "max_nodes" c.maxNodes max

variable {c : CloudConfig} {e : Element}

/-- What describes a configuration is read as the configuration. -/
theorem Describes.ofElement_eq (h : c.Describes e) : ofElement e = .ok c := by
  obtain ⟨values, authorized, min, max, hvalues, hperm, hauthorized, hmin, hmax⟩ := h
  -- Each number is given in values of its own name, so a filter for one name leaves just these.
  have shown (name : String) := hperm.filter (·.1 = name)
  simp only [List.filter_append, hauthorized.filter_eq, hmin.filter_eq, hmax.filter_eq] at shown
  have authorized := hvalues.integer_eq (by simp) hauthorized
    (by simpa using shown "authorized_node_count")
  have min := hvalues.integer_eq (by simp) hmin (by simpa using shown "min_nodes")
  have max := hvalues.integer_eq (by simp) hmax (by simpa using shown "max_nodes")
  rw [ofElement, authorized, min, max]
  rfl

end CloudConfig

/-- Every document that lists nodes is read as just those nodes, in their order, and every document
that describes a configuration as just that configuration, whatever else they hold. -/
theorem inventory_read_back :
    (∀ (nodes : List Node) (root : Element), (∀ n ∈ nodes, n.IsTrimmed) →
      Node.AreListed nodes root.content → Decodes Node.listOfBytes root nodes) ∧
    ∀ (c : CloudConfig) (root : Element), c.Describes root → Decodes CloudConfig.ofBytes root c :=
  ⟨fun _ _ htrimmed hlisted => decodes_of_element (hlisted.listOfElement_eq htrimmed),
    fun _ _ hdescribes => decodes_of_element hdescribes.ofElement_eq⟩

/-- Two nodes, in front of their document. -/
def pair : List Node :=
  [⟨"/nodes/1?a&b\nc", "one < two", "Server", "active"⟩, ⟨"", "", "Conductor", "]]>"⟩]

def pairDocument : List Char :=
  "<?xml version='1.0' encoding='utf-8'?>\n".toList ++
  "<node_list>\n  <!-- the cluster -->".toList ++
  "<group><node href='/nodes/9'><name>nine</name></node></group>".toList ++
  "<node id='1' href = '/nodes/1?a&amp;b&#10;c'>".toList ++
  "<status>active</status>\n<name>one &lt; two</name>".toList ++
  "<nodes><status>other</status></nodes>".toList ++
  "<product>\t<![CDATA[Server]]>\n</product></node>and".toList ++
  "<node href=\"\"><product>Conductor</product><status>]]&gt;</status><name/></node>".toList ++
  "</node_list>".toList

def firstContent : Content :=
  let rest := Outline.text "name" "one < two".toList ++
    Outline.group "nodes" (Outline.text "status" "other".toList) ++
    Outline.text "product" "\tServer\n".toList
  (Outline.text "status" "active".toList).content.append (.char '\n' rest.content)

def secondContent : Content :=
  let values := Outline.text "product" "Conductor".toList ++ Outline.text "status" "]]>".toList ++
    Outline.text "name" []
  values.content

def pairRoot : Element :=
  let node (attributes : List Xml.Attribute) (inner next : Content) : Content :=
    .element (.plain "node") attributes inner next
  let nine := node [⟨.plain "href", "/nodes/9".toList⟩]
    (Outline.text "name" "nine".toList).content .nil
  let second := node [⟨.plain "href", []⟩] secondContent .nil
  let first := node [⟨.plain "id", ['1']⟩, ⟨.plain "href", "/nodes/1?a&b\nc".toList⟩] firstContent
    ((Content.ofText "and".toList).append second)
  ⟨.plain "node_list", [], (Content.ofText "\n  ".toList).append
    (.element (.plain "group") [] nine first)⟩

theorem pair_areListed : Node.AreListed pair pairRoot.content := by
  have first : HoldsValues ["name", "product", "status"] firstContent [("status", "active".toList),
      ("name", "one < two".toList), ("product", "Server".toList)] := by
    refine Holds.item (a := ("status", _)) ⟨[], [], nofun, nofun, rfl⟩ (.char ?_)
    refine Holds.item (a := ("name", _)) ⟨[], [], nofun, nofun, rfl⟩ (.other (by decide) ?_)
    exact Holds.item (a := ("product", _)) ⟨['\t'], ['\n'], List.forall_mem_singleton.2 rfl,
      List.forall_mem_singleton.2 rfl, rfl⟩ .nil
  have second : HoldsValues ["name", "product", "status"] secondContent
      [("product", "Conductor".toList), ("status", "]]>".toList), ("name", [])] := by
    refine Holds.item (a := ("product", _)) ⟨[], [], nofun, nofun, rfl⟩ ?_
    refine Holds.item (a := ("status", _)) ⟨[], [], nofun, nofun, rfl⟩ ?_
    exact Holds.item (a := ("name", _)) ⟨[], [], nofun, nofun, rfl⟩ .nil
  refine Holds.ofText_append (.other (by decide) (.item ⟨by decide, _, first, by decide⟩ ?_)) _
  exact Holds.ofText_append (.item ⟨by decide, _, second, by decide⟩ .nil) _

def configDocument : List Char :=
  "<cloud_config>\n<max_nodes> +0012 </max_nodes>".toList ++
  "<limits><min_nodes>4</min_nodes></limits>".toList ++
  "<min_nodes>\n</min_nodes></cloud_config>".toList

def configRoot : Element :=
  ⟨.plain "cloud_config", [], .char '\n' (Outline.text "max_nodes" " +0012 ".toList ++
    Outline.group "limits" (Outline.text "min_nodes" ['4']) ++
    Outline.text "min_nodes" ['\n']).content⟩

theorem config_describes : CloudConfig.Describes ⟨0, 0, 12⟩ configRoot := by
  have values : HoldsValues ["authorized_node_count", "min_nodes", "max_nodes"] configRoot.content
      [("max_nodes", "+0012".toList), ("min_nodes", [])] := by
    refine .char (Holds.item (a := ("max_nodes", _)) ⟨[' '], [' '], List.forall_mem_singleton.2 rfl,
      List.forall_mem_singleton.2 rfl, rfl⟩ (.other (by decide) ?_))
    exact Holds.item (a := ("min_nodes", _)) ⟨['\n'], [], List.forall_mem_singleton.2 rfl, nofun,
      rfl⟩ .nil
  have digits : Numeral.IsDigits [0, 0, 1, 2] := ⟨by decide, by decide, by decide⟩
  exact ⟨_, _, _, _, values, by decide, .absent, .blank, .numeral (.plus digits)⟩

theorem inventory_read_back_pair :
    Node.listOfBytes (Text.toUtf8 pairDocument) = .ok pair ∧
      CloudConfig.ofBytes (Text.toUtf8 configDocument) = .ok ⟨0, 0, 12⟩ := by
  have nodes : Element.ofBytes (Text.toUtf8 pairDocument) = .ok pairRoot := by decide +kernel
  have config : Element.ofBytes (Text.toUtf8 configDocument) = .ok configRoot := by decide +kernel
  have trimmed : ∀ n ∈ pair, n.IsTrimmed := by decide +kernel
  exact ⟨(inventory_read_back.1 _ _ trimmed pair_areListed).2 _ nodes,
    (inventory_read_back.2 _ _ config_describes).2 _ config⟩

/-- Named values, each in an element of its own. -/
def valuesOutline (values : List (String × List Char)) : Outline :=
  .join (values.map fun v => .text v.1 v.2)

theorem holdsValues_outline (names : List String) (values : List (String × List Char)) :
    HoldsValues names (valuesOutline values).content values := by
  induction values with
  | nil => exact .nil
  | cons v values ih =>
      have shown : ShowsValue ⟨.plain v.1, [], .ofText v.2⟩ v :=
        ⟨[], [], nofun, nofun, by rw [List.append_nil, List.nil_append]⟩
      exact Holds.item shown ih

theorem isWritable_valuesOutline {values : List (String × List Char)}
    (hnames : ∀ v ∈ values, Xml.isPlainName v.1.toList = true)
    (hchars : ∀ v ∈ values, v.2.all Xml.isXmlChar = true) :
    (valuesOutline values).content.IsWritable := by
  apply Outline.isWritable_content
  · rw [valuesOutline, Outline.wellNamed_join, List.all_map, List.all_eq_true]
    exact fun v hv => (Outline.wellNamed_text _ _).trans (hnames v hv)
  · rw [valuesOutline, Outline.legal_join, List.all_map, List.all_eq_true]
    exact fun v hv => (Outline.legal_text _ _).trans (hchars v hv)

namespace Node

/-- Whether a document can hold a node, and hold it so that nothing of it is lost. -/
structure IsWritable (n : Node) : Prop where
  trimmed : n.IsTrimmed
  chars : ∀ v ∈ ("href", n.href.toList) :: n.values, v.2.all Xml.isXmlChar = true

def listing (nodes : List Node) : Content :=
  nodes.foldr (fun n next => .element (.plain "node") [⟨.plain "href", n.href.toList⟩]
    (valuesOutline n.values).content next) .nil

theorem areListed_listing (nodes : List Node) : AreListed nodes (listing nodes) := by
  induction nodes with
  | nil => exact .nil
  | cons n nodes ih =>
      have values := holdsValues_outline ["name", "product", "status"] n.values
      exact .item ⟨by simp, _, values, .refl _⟩ ih

theorem isWritable_listing {nodes : List Node} (h : ∀ n ∈ nodes, n.IsWritable) :
    (listing nodes).IsWritable := by
  induction nodes with
  | nil => trivial
  | cons n nodes ih =>
      obtain ⟨hnode, hothers⟩ := List.forall_mem_cons.1 h
      obtain ⟨href, chars⟩ := List.forall_mem_cons.1 hnode.chars
      have attributes : Xml.AreWritable [⟨.plain "href", n.href.toList⟩] :=
        Xml.areWritable_singleton rfl (by decide) href
      have names : ∀ v ∈ n.values, Xml.isPlainName v.1.toList = true := by
        simp only [values, List.forall_mem_cons]
        exact ⟨rfl, rfl, rfl, nofun⟩
      exact ⟨⟨rfl, rfl⟩, attributes, isWritable_valuesOutline names chars, ih hothers⟩

/-- All nodes that a document can hold are what some bytes are read as. -/
theorem exists_listOfBytes_eq {nodes : List Node} (h : ∀ n ∈ nodes, n.IsWritable) :
    ∃ bytes, listOfBytes bytes = .ok nodes := by
  let root : Element := ⟨.plain "node_list", [], listing nodes⟩
  have writable : root.IsWritable := ⟨⟨rfl, rfl⟩, Xml.areWritable_nil, isWritable_listing h⟩
  have listed : AreListed nodes root.content := areListed_listing nodes
  obtain ⟨bytes, hbytes⟩ := writable.exists_ofBytes_eq
  have read := listed.listOfElement_eq fun n hn => (h n hn).trimmed
  exact ⟨bytes, (decodes_of_element read).2 bytes hbytes⟩

end Node

/-- Every configuration of numbers that can be written is what some bytes are read as. -/
theorem CloudConfig.exists_ofBytes_eq {c : CloudConfig}
    (h : ∀ i ∈ [c.authorizedNodeCount, c.minNodes, c.maxNodes], Numeral.Fits i) :
    ∃ bytes, ofBytes bytes = .ok c := by
  simp only [List.forall_mem_cons] at h
  obtain ⟨authorized, min, max, -⟩ := h
  let values := [("authorized_node_count", Numeral.ofInt c.authorizedNodeCount),
    ("min_nodes", Numeral.ofInt c.minNodes), ("max_nodes", Numeral.ofInt c.maxNodes)]
  let root : Element := ⟨.plain "cloud_config", [], (valuesOutline values).content⟩
  have writable : root.IsWritable := by
    refine ⟨⟨rfl, rfl⟩, Xml.areWritable_nil, isWritable_valuesOutline ?_ ?_⟩
    · simp only [values, List.forall_mem_cons]
      exact ⟨rfl, rfl, rfl, nofun⟩
    · simp only [values, List.forall_mem_cons]
      have chars := Xml.all_isXmlChar_ofInt
      exact ⟨chars _, chars _, chars _, nofun⟩
  have describes : c.Describes root :=
    ⟨values, _, _, _, holdsValues_outline _ _, .refl _, .numeral (Numeral.writes_ofInt authorized),
      .numeral (Numeral.writes_ofInt min), .numeral (Numeral.writes_ofInt max)⟩
  obtain ⟨bytes, hbytes⟩ := writable.exists_ofBytes_eq
  exact ⟨bytes, (decodes_of_element describes.ofElement_eq).2 bytes hbytes⟩

end Transcoding.Conductor
