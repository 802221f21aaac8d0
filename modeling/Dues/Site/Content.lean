import Dues.Text.Markup

/-! # Page content

A page is a sequence of pieces: markup, which is written as it stands, and text, which comes from
customers and settings and is escaped. Nothing else turns content into a page.
-/

namespace Dues.Site

inductive Piece where
  | markup (s : String)
  | text (s : String)
  deriving Repr, DecidableEq

def Piece.chars : Piece → List Char
  | .markup s => s.toList
  | .text s => Text.Markup.escapeChars s.toList

abbrev Content : Type := List Piece

def Content.chars (content : Content) : List Char := content.flatMap Piece.chars

def Content.render (content : Content) : String := String.ofList content.chars

end Dues.Site
