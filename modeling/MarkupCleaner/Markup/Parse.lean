import MarkupCleaner.Markup.Draft
import MarkupCleaner.Markup.Tokenize

/-!
# Parsing markup

A text as a document: its tokens, then the tree that they build.
-/

namespace MarkupCleaner

/-- Parses a text. -/
def parse (text : String) : Except ParseError Markup.Document :=
  Markup.Document.ofTokens <$> Markup.tokens text.toList

/-- The tree of a text. -/
def parseFragment (text : String) : Except ParseError Fragment :=
  Markup.Document.fragment <$> parse text

end MarkupCleaner
