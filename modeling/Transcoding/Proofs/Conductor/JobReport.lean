import Transcoding.Conductor.JobReport
import Transcoding.Proofs.Conductor.Response
import Transcoding.Proofs.Outcome
import Transcoding.Proofs.Xml.Writable

/-!
Reports on jobs are read back from every document that describes them. What counts is the one child
of each name; the order of the children, blanks around the texts and elements of other names make no
difference, and neither does how the document is written. No report that a document can hold is out
of reach.
-/

namespace Transcoding.Conductor

open Xml (Element Content Outline)

namespace JobReport

/-- Whether a root element says what a report says: its address in an attribute, each value in a
child, and each message in an error among the error messages, in order. -/
structure Describes (r : JobReport) (root : Element) : Prop where
  href : root.attribute? (.plain "href") = some r.href.toList
  state : HasValue root "status" r.state.toList
  percentComplete : HasValue root "pct_complete" (Numeral.ofInt r.percentComplete)
  submitted : HasMoment root "submitted" r.submitted
  started : HasMoment root "start_time" r.started
  completed : HasMoment root "complete_time" r.completed
  errored : HasMoment root "errored_time" r.errored
  errors : ∃ list, root.content.children (.plain "error_messages") = [list] ∧
    List.Forall₂ (fun error message => HasValue error "message" message.toList)
      (list.content.children (.plain "error")) r.errorMessages

variable {r : JobReport} {root : Element}

/-- Each message is read from its own error. -/
theorem map_message_eq {errors : List Element} {messages : List String}
    (h : List.Forall₂ (fun error message => HasValue error "message" message.toList) errors
      messages) (htrimmed : ∀ m ∈ messages, Text.IsTrimmed m.toList) :
    errors.map (fun e => String.ofList (Response.text e "message")) = messages := by
  induction h with
  | nil => rfl
  | cons hvalue _ ih =>
      obtain ⟨hmessage, hothers⟩ := List.forall_mem_cons.1 htrimmed
      rw [List.map_cons, hvalue.text_eq hmessage, String.ofList_toList, ih hothers]

theorem Describes.messages_eq (h : r.Describes root)
    (htrimmed : ∀ m ∈ r.errorMessages, Text.IsTrimmed m.toList) :
    messages root = r.errorMessages := by
  obtain ⟨list, hlist, herrors⟩ := h.errors
  rw [messages, hlist, List.flatMap_singleton]
  exact map_message_eq herrors htrimmed

/-- What describes a report is read as the report. -/
theorem Describes.ofElement_eq (h : r.Describes root) (hfits : Numeral.Fits r.percentComplete)
    (hstate : Text.IsTrimmed r.state.toList)
    (hmessages : ∀ m ∈ r.errorMessages, Text.IsTrimmed m.toList) : ofElement root = .ok r := by
  have href : Response.href root = r.href := by
    rw [Response.href, h.href, Option.getD_some, String.ofList_toList]
  have percent := h.percentComplete.integer_eq (Numeral.writes_ofInt hfits)
  simp only [ofElement, percent, h.submitted.timestamp_eq, h.started.timestamp_eq,
    h.completed.timestamp_eq, h.errored.timestamp_eq, href, h.state.text_eq hstate,
    String.ofList_toList, h.messages_eq hmessages, bind, Except.bind]
  rfl

theorem ofBytes_of_root {bytes : List UInt8} (hroot : Element.ofBytes bytes = .ok root) :
    ofBytes bytes = ofElement root := by
  rw [ofBytes, Response.ofDocument, hroot]
  rfl

/-- Every document that describes a report is read as just that report, whatever else it holds: so
are bytes that are the document of a root that describes it, and so is every text of such a root in
UTF-8. -/
theorem ofBytes_describes (h : r.Describes root) (hfits : Numeral.Fits r.percentComplete)
    (hstate : Text.IsTrimmed r.state.toList)
    (hmessages : ∀ m ∈ r.errorMessages, Text.IsTrimmed m.toList) :
    (∀ text, Xml.WritesDocument root text → ofBytes (Text.toUtf8 text) = .ok r) ∧
      ∀ bytes, Element.ofBytes bytes = .ok root → ofBytes bytes = .ok r := by
  have read (bytes : List UInt8) (hroot : Element.ofBytes bytes = .ok root) :
      ofBytes bytes = .ok r := by
    rw [ofBytes_of_root hroot, h.ofElement_eq hfits hstate hmessages]
  exact ⟨fun text hwrites => read _ hwrites.ofBytes_eq, read⟩

/-- A job that failed, in front of its document. -/
def failed : JobReport where
  href := "/jobs/1?a&b"
  state := "Error"
  percentComplete := 23
  submitted := none
  started := none
  completed := none
  errored := some ⟨⟨2015, 11, 18, by decide, by decide, by decide⟩,
    ⟨17, 30, 0, by decide, by decide, by decide⟩, ⟨-18000000000, by decide⟩⟩
  errorMessages := ["a < b", "", "c & d"]

def failedDocument : List Char :=
  "<?xml version='1.0' encoding='utf-8'?>\n".toList ++
  "<!-- one job -->\n".toList ++
  "<job href = '/jobs/1?a&amp;b'>".toList ++
  "<errored_time>2015-11-18 17:30:00 -0500 ".toList ++
  "</errored_time><note><status>other</status>".toList ++
  "</note><pct_complete>23</pct_complete>".toList ++
  "<status>\t&#69;rror\n</status>".toList ++
  "<error_messages><count>3</count>".toList ++
  "<error><code>1</code><message>".toList ++
  "<![CDATA[a < b]]></message></error>".toList ++
  "<error><message/></error><error>".toList ++
  "<message>c &amp; d</message></error>".toList ++
  "</error_messages></job>".toList

def failedRoot : Element :=
  let error (o : Outline) := Outline.group "error" o
  let errors := Outline.text "count" "3".toList ++
    error (Outline.text "code" "1".toList ++ Outline.text "message" "a < b".toList) ++
    error (Outline.text "message" []) ++ error (Outline.text "message" "c & d".toList)
  let values := Outline.text "errored_time" "2015-11-18 17:30:00 -0500 ".toList ++
    Outline.group "note" (Outline.text "status" "other".toList) ++
    Outline.text "pct_complete" "23".toList ++ Outline.text "status" "\tError\n".toList ++
    Outline.group "error_messages" errors
  ⟨.plain "job", [⟨.plain "href", "/jobs/1?a&b".toList⟩], values.content⟩

theorem failed_describes : failed.Describes failedRoot where
  href := by decide +kernel
  state := ⟨_, ['\t'], ['\n'], rfl, List.forall_mem_singleton.2 rfl,
    List.forall_mem_singleton.2 rfl, rfl⟩
  percentComplete := ⟨_, [], [], rfl, nofun, nofun, by decide +kernel⟩
  submitted := rfl
  started := rfl
  completed := rfl
  errored := ⟨"2015-11-18 17:30:00 -0500".toList,
    ⟨_, ⟨true, 5, 0, by decide, by decide, rfl, rfl⟩, by decide +kernel⟩,
    ⟨_, [], [' '], rfl, nofun, List.forall_mem_singleton.2 rfl, rfl⟩⟩
  errors := ⟨_, rfl, .cons ⟨_, [], [], rfl, nofun, nofun, rfl⟩
    (.cons ⟨_, [], [], rfl, nofun, nofun, rfl⟩ (.cons ⟨_, [], [], rfl, nofun, nofun, rfl⟩ .nil))⟩

theorem ofBytes_describes_failed :
    JobReport.ofBytes (Text.toUtf8 failedDocument) = .ok failed := by
  have root : Element.ofBytes (Text.toUtf8 failedDocument) = .ok failedRoot := by
    decide +kernel
  have fits : Numeral.Fits failed.percentComplete := by decide +kernel
  have state : Text.IsTrimmed failed.state.toList := by decide +kernel
  have messages : ∀ m ∈ failed.errorMessages, Text.IsTrimmed m.toList := by decide +kernel
  exact (ofBytes_describes failed_describes fits state messages).2 _ root

/-- Whether a document can hold a report, and hold it so that nothing of it is lost. -/
structure IsWritable (r : JobReport) : Prop where
  fits : Numeral.Fits r.percentComplete
  state : Text.IsTrimmed r.state.toList
  messages : ∀ m ∈ r.errorMessages, Text.IsTrimmed m.toList
  chars : ∀ s ∈ r.href :: r.state :: r.errorMessages, s.toList.all Xml.isXmlChar = true
  minutes : ∀ t ∈ [r.submitted, r.started, r.completed, r.errored], ∀ s ∈ t,
    60000000 ∣ s.offset.micros

def moment (name : String) : Option Timestamp → Outline
  | none => .nil
  | some t => .text name t.plainText

def error (message : String) : Outline :=
  .group "error" (.text "message" message.toList)

/-- The values of a report but its address. -/
def outline (r : JobReport) : Outline :=
  .text "status" r.state.toList ++ .text "pct_complete" (Numeral.ofInt r.percentComplete) ++
    moment "submitted" r.submitted ++ moment "start_time" r.started ++
    moment "complete_time" r.completed ++ moment "errored_time" r.errored ++
    .group "error_messages" (.join (r.errorMessages.map error))

/-- A root element that says what a report says. -/
def element (r : JobReport) : Element :=
  ⟨.plain "job", [⟨.plain "href", r.href.toList⟩], r.outline.content⟩

theorem hasMoment_of_children {e : Element} {name : String} {t : Option Timestamp}
    (h : e.content.children (.plain name) = (moment name t).content.children (.plain name))
    (hminutes : ∀ s ∈ t, 60000000 ∣ s.offset.micros) : HasMoment e name t := by
  cases t with
  | none => exact h
  | some t =>
      rw [moment, Outline.children_text, if_pos rfl] at h
      exact ⟨_, Timestamp.writes_plainText (hminutes t rfl), hasValue_of_children h⟩

@[simp] theorem children_moment (name other : String) (t : Option Timestamp) :
    (moment name t).content.children (.plain other) =
      if name = other then (t.map fun t => ⟨.plain name, [], .ofText t.plainText⟩).toList
      else [] := by
  cases t with
  | none => exact (ite_self _).symm
  | some t => exact Outline.children_text name t.plainText other

theorem wellNamed_moment {name : String} (h : Xml.isPlainName name.toList = true)
    (t : Option Timestamp) : (moment name t).wellNamed = true := by
  cases t with
  | none => rfl
  | some t => exact (Outline.wellNamed_text _ _).trans h

theorem legal_moment (name : String) (t : Option Timestamp) : (moment name t).legal = true := by
  cases t with
  | none => rfl
  | some t =>
      refine (Outline.legal_text _ _).trans (List.all_eq_true.2 ?_)
      exact t.forall_mem_plainText (p := (Xml.isXmlChar · = true)) (by decide) (by decide)

theorem wellNamed_outline (r : JobReport) : r.outline.wellNamed = true := by
  have errors : (Outline.join (r.errorMessages.map error)).wellNamed = true := by
    rw [Outline.wellNamed_join, List.all_map, List.all_eq_true]
    exact fun m _ => rfl
  have moment (name : String) (h : Xml.isPlainName name.toList = true) := wellNamed_moment h
  simp only [outline, Outline.wellNamed_append, Outline.wellNamed_text,
    Outline.wellNamed_group, errors, moment "submitted" rfl, moment "start_time" rfl,
    moment "complete_time" rfl, moment "errored_time" rfl]
  rfl

theorem legal_outline (h : r.IsWritable) : r.outline.legal = true := by
  obtain ⟨state, messages⟩ := List.forall_mem_cons.1 (List.forall_mem_cons.1 h.chars).2
  have errors : (Outline.join (r.errorMessages.map error)).legal = true := by
    rw [Outline.legal_join, List.all_map, List.all_eq_true]
    intro m hm
    rw [Function.comp_apply, error, Outline.legal_group, Outline.legal_text, messages m hm]
  simp only [outline, Outline.legal_append, Outline.legal_text, Outline.legal_group,
    legal_moment, state, Xml.all_isXmlChar_ofInt, errors, Bool.and_self]

theorem isWritable_element (h : r.IsWritable) : r.element.IsWritable where
  left := ⟨rfl, rfl⟩
  right := by
    have href := (List.forall_mem_cons.1 h.chars).1
    exact ⟨Xml.areWritable_singleton rfl (by decide) href,
      Outline.isWritable_content r.wellNamed_outline (legal_outline h)⟩

/-- Each message has an error of its own, in order. -/
theorem forall₂_errors (messages : List String) :
    List.Forall₂ (fun error message => HasValue error "message" message.toList)
      ((Outline.join (messages.map error)).content.children (.plain "error")) messages := by
  induction messages with
  | nil => exact .nil
  | cons m messages ih =>
      have first : (error m).content.children (.plain "error") =
          [Outline.root "error" (.text "message" m.toList)] :=
        (Outline.children_group _ _ _).trans (if_pos rfl)
      rw [Outline.children_join] at ih ⊢
      rw [List.map_cons, List.flatMap_cons, first]
      exact .cons (hasValue_of_children (by simp [Outline.root])) ih

theorem describes_element (h : r.IsWritable) : r.Describes r.element where
  href := by simp [element, Element.attribute?]
  state := hasValue_of_children (by simp [element, outline])
  percentComplete := hasValue_of_children (by simp [element, outline])
  submitted := hasMoment_of_children (by simp [element, outline]) (h.minutes _ (by simp))
  started := hasMoment_of_children (by simp [element, outline]) (h.minutes _ (by simp))
  completed := hasMoment_of_children (by simp [element, outline]) (h.minutes _ (by simp))
  errored := hasMoment_of_children (by simp [element, outline]) (h.minutes _ (by simp))
  errors := ⟨Outline.root "error_messages" (.join (r.errorMessages.map error)),
    by simp [element, outline], forall₂_errors r.errorMessages⟩

/-- Every report that a document can hold is what some bytes are read as. -/
theorem exists_ofBytes_eq (h : r.IsWritable) : ∃ bytes, ofBytes bytes = .ok r := by
  obtain ⟨bytes, hbytes⟩ := (isWritable_element h).exists_ofBytes_eq
  refine ⟨bytes, ?_⟩
  rw [ofBytes_of_root hbytes, (describes_element h).ofElement_eq h.fits h.state h.messages]

end JobReport
end Transcoding.Conductor
