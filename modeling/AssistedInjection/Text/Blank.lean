import AssistedInjection.Unicode.Blank

/-!
Blank text: white space and nothing else.
-/

namespace AssistedInjection.Text

/-- Whether a text shows nothing. -/
def isBlank (s : String) : Bool := s.toList.all Unicode.isBlank

/-- The text, unless it is blank. -/
def unlessBlank (s : String) : Option String := if isBlank s then none else some s

end AssistedInjection.Text
