/-! # Markup

Text put into a page is written with entities for the five characters that markup gives a meaning,
so that it reads as text in content and in attribute values alike.
-/

namespace Dues.Text.Markup

/-- How one character is written in a page. -/
def entity : Char → List Char
  | '&' => "&amp;".toList
  | '<' => "&lt;".toList
  | '>' => "&gt;".toList
  | '"' => "&quot;".toList
  | '\'' => "&#39;".toList
  | c => [c]

def escapeChars (cs : List Char) : List Char := cs.flatMap entity

def escape (s : String) : String := String.ofList (escapeChars s.toList)

end Dues.Text.Markup
