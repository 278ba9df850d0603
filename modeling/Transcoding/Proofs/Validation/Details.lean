import Transcoding.Proofs.Text.Utf8
import Transcoding.Validation.Details

/-!
Which values can be told: those in which all numbers are finite and all strings are texts, and in
which arrays and objects do not lie in each other too deeply. Members that are left out do not
count. Issues can be told exactly if all of the values that they are about can.
-/

namespace Transcoding

namespace Json

/-- Whether a value can be told with so many arrays and objects in each other. -/
inductive Tellable : Nat → Json → Prop
  | null (levels) : Tellable levels .null
  | bool (levels b) : Tellable levels (.bool b)
  | int (levels i) : Tellable levels (.int i)
  | float (levels negative significand exponent) :
      Tellable levels (.float (.finite negative significand exponent))
  | string (levels s) : Tellable levels (.string s)
  | array {levels items} (h : ∀ item ∈ items, Tellable levels item) :
      Tellable (levels + 1) (.array items)
  | object {levels members} (names : ∀ m ∈ members, m.1.isTold = true → ∃ s, m.1 = .text s)
      (values : ∀ m ∈ members, m.1.isTold = true → Tellable levels m.2) :
      Tellable (levels + 1) (.object members)

variable {levels : Nat}

end Json

namespace Validation

end Validation
end Transcoding
