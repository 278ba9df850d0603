import Transcoding.Conductor.Response

/-!
The cluster that a Conductor runs on: its nodes, and how many of them there should be.
-/

namespace Transcoding.Conductor

structure Node where
  href : String := ""
  name : String := ""
  product : String := ""
  status : String := ""
  deriving DecidableEq, Repr

namespace Node

def ofElement (e : Xml.Element) : Node where
  href := Response.href e
  name := String.ofList (Response.text e "name")
  product := String.ofList (Response.text e "product")
  status := String.ofList (Response.text e "status")

/-- The nodes directly inside an element. -/
def listOfElement (root : Xml.Element) : Except ResponseFault (List Node) :=
  .ok ((root.content.children (.plain "node")).map ofElement)

def listOfText (document : String) : Except ResponseFault (List Node) :=
  Response.ofDocument listOfElement (Xml.Element.ofText document.toList)

def listOfBytes (document : List UInt8) : Except ResponseFault (List Node) :=
  Response.ofDocument listOfElement (Xml.Element.ofBytes document)

/-- Whether jobs can be processed on the node. -/
def isActiveServer (n : Node) : Bool :=
  n.product == "Server" && n.status == "active"

end Node

structure CloudConfig where
  authorizedNodeCount : Int := 0
  minNodes : Int := 0
  maxNodes : Int := 0
  deriving DecidableEq, Repr

namespace CloudConfig

def ofElement (root : Xml.Element) : Except ResponseFault CloudConfig := do
  let authorizedNodeCount ← Response.integer root "authorized_node_count"
  let minNodes ← Response.integer root "min_nodes"
  let maxNodes ← Response.integer root "max_nodes"
  return ⟨authorizedNodeCount, minNodes, maxNodes⟩

def ofText (document : String) : Except ResponseFault CloudConfig :=
  Response.ofDocument ofElement (Xml.Element.ofText document.toList)

def ofBytes (document : List UInt8) : Except ResponseFault CloudConfig :=
  Response.ofDocument ofElement (Xml.Element.ofBytes document)

end CloudConfig
end Transcoding.Conductor
