/-!
# Names of characters

Names that Unicode 14 gives to characters: whole stretches of consecutive code points, and single
names and aliases beside them. Scripts and signs outside these stretches are not listed.
-/

namespace MarkupCleaner.Unicode

/-- The names of letters, digits and signs of ASCII, from U+0020 on. -/
def basicLatinNames : List String :=
  ["SPACE", "EXCLAMATION MARK", "QUOTATION MARK", "NUMBER SIGN", "DOLLAR SIGN", "PERCENT SIGN",
   "AMPERSAND", "APOSTROPHE", "LEFT PARENTHESIS", "RIGHT PARENTHESIS", "ASTERISK", "PLUS SIGN",
   "COMMA", "HYPHEN-MINUS", "FULL STOP", "SOLIDUS", "DIGIT ZERO", "DIGIT ONE", "DIGIT TWO",
   "DIGIT THREE", "DIGIT FOUR", "DIGIT FIVE", "DIGIT SIX", "DIGIT SEVEN", "DIGIT EIGHT",
   "DIGIT NINE", "COLON", "SEMICOLON", "LESS-THAN SIGN", "EQUALS SIGN", "GREATER-THAN SIGN",
   "QUESTION MARK", "COMMERCIAL AT", "LATIN CAPITAL LETTER A", "LATIN CAPITAL LETTER B",
   "LATIN CAPITAL LETTER C", "LATIN CAPITAL LETTER D", "LATIN CAPITAL LETTER E",
   "LATIN CAPITAL LETTER F", "LATIN CAPITAL LETTER G", "LATIN CAPITAL LETTER H",
   "LATIN CAPITAL LETTER I", "LATIN CAPITAL LETTER J", "LATIN CAPITAL LETTER K",
   "LATIN CAPITAL LETTER L", "LATIN CAPITAL LETTER M", "LATIN CAPITAL LETTER N",
   "LATIN CAPITAL LETTER O", "LATIN CAPITAL LETTER P", "LATIN CAPITAL LETTER Q",
   "LATIN CAPITAL LETTER R", "LATIN CAPITAL LETTER S", "LATIN CAPITAL LETTER T",
   "LATIN CAPITAL LETTER U", "LATIN CAPITAL LETTER V", "LATIN CAPITAL LETTER W",
   "LATIN CAPITAL LETTER X", "LATIN CAPITAL LETTER Y", "LATIN CAPITAL LETTER Z",
   "LEFT SQUARE BRACKET", "REVERSE SOLIDUS", "RIGHT SQUARE BRACKET", "CIRCUMFLEX ACCENT",
   "LOW LINE", "GRAVE ACCENT", "LATIN SMALL LETTER A", "LATIN SMALL LETTER B",
   "LATIN SMALL LETTER C", "LATIN SMALL LETTER D", "LATIN SMALL LETTER E", "LATIN SMALL LETTER F",
   "LATIN SMALL LETTER G", "LATIN SMALL LETTER H", "LATIN SMALL LETTER I", "LATIN SMALL LETTER J",
   "LATIN SMALL LETTER K", "LATIN SMALL LETTER L", "LATIN SMALL LETTER M", "LATIN SMALL LETTER N",
   "LATIN SMALL LETTER O", "LATIN SMALL LETTER P", "LATIN SMALL LETTER Q", "LATIN SMALL LETTER R",
   "LATIN SMALL LETTER S", "LATIN SMALL LETTER T", "LATIN SMALL LETTER U", "LATIN SMALL LETTER V",
   "LATIN SMALL LETTER W", "LATIN SMALL LETTER X", "LATIN SMALL LETTER Y", "LATIN SMALL LETTER Z",
   "LEFT CURLY BRACKET", "VERTICAL LINE", "RIGHT CURLY BRACKET", "TILDE"]

/-- The names of Latin letters and signs beyond ASCII, from U+00A0 on. -/
def latinNames : List String :=
  ["NO-BREAK SPACE", "INVERTED EXCLAMATION MARK", "CENT SIGN", "POUND SIGN", "CURRENCY SIGN",
   "YEN SIGN", "BROKEN BAR", "SECTION SIGN", "DIAERESIS", "COPYRIGHT SIGN",
   "FEMININE ORDINAL INDICATOR", "LEFT-POINTING DOUBLE ANGLE QUOTATION MARK", "NOT SIGN",
   "SOFT HYPHEN", "REGISTERED SIGN", "MACRON", "DEGREE SIGN", "PLUS-MINUS SIGN", "SUPERSCRIPT TWO",
   "SUPERSCRIPT THREE", "ACUTE ACCENT", "MICRO SIGN", "PILCROW SIGN", "MIDDLE DOT", "CEDILLA",
   "SUPERSCRIPT ONE", "MASCULINE ORDINAL INDICATOR", "RIGHT-POINTING DOUBLE ANGLE QUOTATION MARK",
   "VULGAR FRACTION ONE QUARTER", "VULGAR FRACTION ONE HALF", "VULGAR FRACTION THREE QUARTERS",
   "INVERTED QUESTION MARK", "LATIN CAPITAL LETTER A WITH GRAVE",
   "LATIN CAPITAL LETTER A WITH ACUTE", "LATIN CAPITAL LETTER A WITH CIRCUMFLEX",
   "LATIN CAPITAL LETTER A WITH TILDE", "LATIN CAPITAL LETTER A WITH DIAERESIS",
   "LATIN CAPITAL LETTER A WITH RING ABOVE", "LATIN CAPITAL LETTER AE",
   "LATIN CAPITAL LETTER C WITH CEDILLA", "LATIN CAPITAL LETTER E WITH GRAVE",
   "LATIN CAPITAL LETTER E WITH ACUTE", "LATIN CAPITAL LETTER E WITH CIRCUMFLEX",
   "LATIN CAPITAL LETTER E WITH DIAERESIS", "LATIN CAPITAL LETTER I WITH GRAVE",
   "LATIN CAPITAL LETTER I WITH ACUTE", "LATIN CAPITAL LETTER I WITH CIRCUMFLEX",
   "LATIN CAPITAL LETTER I WITH DIAERESIS", "LATIN CAPITAL LETTER ETH",
   "LATIN CAPITAL LETTER N WITH TILDE", "LATIN CAPITAL LETTER O WITH GRAVE",
   "LATIN CAPITAL LETTER O WITH ACUTE", "LATIN CAPITAL LETTER O WITH CIRCUMFLEX",
   "LATIN CAPITAL LETTER O WITH TILDE", "LATIN CAPITAL LETTER O WITH DIAERESIS",
   "MULTIPLICATION SIGN", "LATIN CAPITAL LETTER O WITH STROKE", "LATIN CAPITAL LETTER U WITH GRAVE",
   "LATIN CAPITAL LETTER U WITH ACUTE", "LATIN CAPITAL LETTER U WITH CIRCUMFLEX",
   "LATIN CAPITAL LETTER U WITH DIAERESIS", "LATIN CAPITAL LETTER Y WITH ACUTE",
   "LATIN CAPITAL LETTER THORN", "LATIN SMALL LETTER SHARP S", "LATIN SMALL LETTER A WITH GRAVE",
   "LATIN SMALL LETTER A WITH ACUTE", "LATIN SMALL LETTER A WITH CIRCUMFLEX",
   "LATIN SMALL LETTER A WITH TILDE", "LATIN SMALL LETTER A WITH DIAERESIS",
   "LATIN SMALL LETTER A WITH RING ABOVE", "LATIN SMALL LETTER AE",
   "LATIN SMALL LETTER C WITH CEDILLA", "LATIN SMALL LETTER E WITH GRAVE",
   "LATIN SMALL LETTER E WITH ACUTE", "LATIN SMALL LETTER E WITH CIRCUMFLEX",
   "LATIN SMALL LETTER E WITH DIAERESIS", "LATIN SMALL LETTER I WITH GRAVE",
   "LATIN SMALL LETTER I WITH ACUTE", "LATIN SMALL LETTER I WITH CIRCUMFLEX",
   "LATIN SMALL LETTER I WITH DIAERESIS", "LATIN SMALL LETTER ETH",
   "LATIN SMALL LETTER N WITH TILDE", "LATIN SMALL LETTER O WITH GRAVE",
   "LATIN SMALL LETTER O WITH ACUTE", "LATIN SMALL LETTER O WITH CIRCUMFLEX",
   "LATIN SMALL LETTER O WITH TILDE", "LATIN SMALL LETTER O WITH DIAERESIS", "DIVISION SIGN",
   "LATIN SMALL LETTER O WITH STROKE", "LATIN SMALL LETTER U WITH GRAVE",
   "LATIN SMALL LETTER U WITH ACUTE", "LATIN SMALL LETTER U WITH CIRCUMFLEX",
   "LATIN SMALL LETTER U WITH DIAERESIS", "LATIN SMALL LETTER Y WITH ACUTE",
   "LATIN SMALL LETTER THORN", "LATIN SMALL LETTER Y WITH DIAERESIS",
   "LATIN CAPITAL LETTER A WITH MACRON", "LATIN SMALL LETTER A WITH MACRON",
   "LATIN CAPITAL LETTER A WITH BREVE", "LATIN SMALL LETTER A WITH BREVE",
   "LATIN CAPITAL LETTER A WITH OGONEK", "LATIN SMALL LETTER A WITH OGONEK",
   "LATIN CAPITAL LETTER C WITH ACUTE", "LATIN SMALL LETTER C WITH ACUTE",
   "LATIN CAPITAL LETTER C WITH CIRCUMFLEX", "LATIN SMALL LETTER C WITH CIRCUMFLEX",
   "LATIN CAPITAL LETTER C WITH DOT ABOVE", "LATIN SMALL LETTER C WITH DOT ABOVE",
   "LATIN CAPITAL LETTER C WITH CARON", "LATIN SMALL LETTER C WITH CARON",
   "LATIN CAPITAL LETTER D WITH CARON", "LATIN SMALL LETTER D WITH CARON",
   "LATIN CAPITAL LETTER D WITH STROKE", "LATIN SMALL LETTER D WITH STROKE",
   "LATIN CAPITAL LETTER E WITH MACRON", "LATIN SMALL LETTER E WITH MACRON",
   "LATIN CAPITAL LETTER E WITH BREVE", "LATIN SMALL LETTER E WITH BREVE",
   "LATIN CAPITAL LETTER E WITH DOT ABOVE", "LATIN SMALL LETTER E WITH DOT ABOVE",
   "LATIN CAPITAL LETTER E WITH OGONEK", "LATIN SMALL LETTER E WITH OGONEK",
   "LATIN CAPITAL LETTER E WITH CARON", "LATIN SMALL LETTER E WITH CARON",
   "LATIN CAPITAL LETTER G WITH CIRCUMFLEX", "LATIN SMALL LETTER G WITH CIRCUMFLEX",
   "LATIN CAPITAL LETTER G WITH BREVE", "LATIN SMALL LETTER G WITH BREVE",
   "LATIN CAPITAL LETTER G WITH DOT ABOVE", "LATIN SMALL LETTER G WITH DOT ABOVE",
   "LATIN CAPITAL LETTER G WITH CEDILLA", "LATIN SMALL LETTER G WITH CEDILLA",
   "LATIN CAPITAL LETTER H WITH CIRCUMFLEX", "LATIN SMALL LETTER H WITH CIRCUMFLEX",
   "LATIN CAPITAL LETTER H WITH STROKE", "LATIN SMALL LETTER H WITH STROKE",
   "LATIN CAPITAL LETTER I WITH TILDE", "LATIN SMALL LETTER I WITH TILDE",
   "LATIN CAPITAL LETTER I WITH MACRON", "LATIN SMALL LETTER I WITH MACRON",
   "LATIN CAPITAL LETTER I WITH BREVE", "LATIN SMALL LETTER I WITH BREVE",
   "LATIN CAPITAL LETTER I WITH OGONEK", "LATIN SMALL LETTER I WITH OGONEK",
   "LATIN CAPITAL LETTER I WITH DOT ABOVE", "LATIN SMALL LETTER DOTLESS I",
   "LATIN CAPITAL LIGATURE IJ", "LATIN SMALL LIGATURE IJ", "LATIN CAPITAL LETTER J WITH CIRCUMFLEX",
   "LATIN SMALL LETTER J WITH CIRCUMFLEX", "LATIN CAPITAL LETTER K WITH CEDILLA",
   "LATIN SMALL LETTER K WITH CEDILLA", "LATIN SMALL LETTER KRA",
   "LATIN CAPITAL LETTER L WITH ACUTE", "LATIN SMALL LETTER L WITH ACUTE",
   "LATIN CAPITAL LETTER L WITH CEDILLA", "LATIN SMALL LETTER L WITH CEDILLA",
   "LATIN CAPITAL LETTER L WITH CARON", "LATIN SMALL LETTER L WITH CARON",
   "LATIN CAPITAL LETTER L WITH MIDDLE DOT", "LATIN SMALL LETTER L WITH MIDDLE DOT",
   "LATIN CAPITAL LETTER L WITH STROKE", "LATIN SMALL LETTER L WITH STROKE",
   "LATIN CAPITAL LETTER N WITH ACUTE", "LATIN SMALL LETTER N WITH ACUTE",
   "LATIN CAPITAL LETTER N WITH CEDILLA", "LATIN SMALL LETTER N WITH CEDILLA",
   "LATIN CAPITAL LETTER N WITH CARON", "LATIN SMALL LETTER N WITH CARON",
   "LATIN SMALL LETTER N PRECEDED BY APOSTROPHE", "LATIN CAPITAL LETTER ENG",
   "LATIN SMALL LETTER ENG", "LATIN CAPITAL LETTER O WITH MACRON",
   "LATIN SMALL LETTER O WITH MACRON", "LATIN CAPITAL LETTER O WITH BREVE",
   "LATIN SMALL LETTER O WITH BREVE", "LATIN CAPITAL LETTER O WITH DOUBLE ACUTE",
   "LATIN SMALL LETTER O WITH DOUBLE ACUTE", "LATIN CAPITAL LIGATURE OE", "LATIN SMALL LIGATURE OE",
   "LATIN CAPITAL LETTER R WITH ACUTE", "LATIN SMALL LETTER R WITH ACUTE",
   "LATIN CAPITAL LETTER R WITH CEDILLA", "LATIN SMALL LETTER R WITH CEDILLA",
   "LATIN CAPITAL LETTER R WITH CARON", "LATIN SMALL LETTER R WITH CARON",
   "LATIN CAPITAL LETTER S WITH ACUTE", "LATIN SMALL LETTER S WITH ACUTE",
   "LATIN CAPITAL LETTER S WITH CIRCUMFLEX", "LATIN SMALL LETTER S WITH CIRCUMFLEX",
   "LATIN CAPITAL LETTER S WITH CEDILLA", "LATIN SMALL LETTER S WITH CEDILLA",
   "LATIN CAPITAL LETTER S WITH CARON", "LATIN SMALL LETTER S WITH CARON",
   "LATIN CAPITAL LETTER T WITH CEDILLA", "LATIN SMALL LETTER T WITH CEDILLA",
   "LATIN CAPITAL LETTER T WITH CARON", "LATIN SMALL LETTER T WITH CARON",
   "LATIN CAPITAL LETTER T WITH STROKE", "LATIN SMALL LETTER T WITH STROKE",
   "LATIN CAPITAL LETTER U WITH TILDE", "LATIN SMALL LETTER U WITH TILDE",
   "LATIN CAPITAL LETTER U WITH MACRON", "LATIN SMALL LETTER U WITH MACRON",
   "LATIN CAPITAL LETTER U WITH BREVE", "LATIN SMALL LETTER U WITH BREVE",
   "LATIN CAPITAL LETTER U WITH RING ABOVE", "LATIN SMALL LETTER U WITH RING ABOVE",
   "LATIN CAPITAL LETTER U WITH DOUBLE ACUTE", "LATIN SMALL LETTER U WITH DOUBLE ACUTE",
   "LATIN CAPITAL LETTER U WITH OGONEK", "LATIN SMALL LETTER U WITH OGONEK",
   "LATIN CAPITAL LETTER W WITH CIRCUMFLEX", "LATIN SMALL LETTER W WITH CIRCUMFLEX",
   "LATIN CAPITAL LETTER Y WITH CIRCUMFLEX", "LATIN SMALL LETTER Y WITH CIRCUMFLEX",
   "LATIN CAPITAL LETTER Y WITH DIAERESIS", "LATIN CAPITAL LETTER Z WITH ACUTE",
   "LATIN SMALL LETTER Z WITH ACUTE", "LATIN CAPITAL LETTER Z WITH DOT ABOVE",
   "LATIN SMALL LETTER Z WITH DOT ABOVE", "LATIN CAPITAL LETTER Z WITH CARON",
   "LATIN SMALL LETTER Z WITH CARON", "LATIN SMALL LETTER LONG S"]

/-- The names of Greek letters, from U+0370 on. -/
def greekNames : List String :=
  ["GREEK CAPITAL LETTER HETA", "GREEK SMALL LETTER HETA", "GREEK CAPITAL LETTER ARCHAIC SAMPI",
   "GREEK SMALL LETTER ARCHAIC SAMPI", "GREEK NUMERAL SIGN", "GREEK LOWER NUMERAL SIGN",
   "GREEK CAPITAL LETTER PAMPHYLIAN DIGAMMA", "GREEK SMALL LETTER PAMPHYLIAN DIGAMMA", "", "",
   "GREEK YPOGEGRAMMENI", "GREEK SMALL REVERSED LUNATE SIGMA SYMBOL",
   "GREEK SMALL DOTTED LUNATE SIGMA SYMBOL", "GREEK SMALL REVERSED DOTTED LUNATE SIGMA SYMBOL",
   "GREEK QUESTION MARK", "GREEK CAPITAL LETTER YOT", "", "", "", "", "GREEK TONOS",
   "GREEK DIALYTIKA TONOS", "GREEK CAPITAL LETTER ALPHA WITH TONOS", "GREEK ANO TELEIA",
   "GREEK CAPITAL LETTER EPSILON WITH TONOS", "GREEK CAPITAL LETTER ETA WITH TONOS",
   "GREEK CAPITAL LETTER IOTA WITH TONOS", "", "GREEK CAPITAL LETTER OMICRON WITH TONOS", "",
   "GREEK CAPITAL LETTER UPSILON WITH TONOS", "GREEK CAPITAL LETTER OMEGA WITH TONOS",
   "GREEK SMALL LETTER IOTA WITH DIALYTIKA AND TONOS", "GREEK CAPITAL LETTER ALPHA",
   "GREEK CAPITAL LETTER BETA", "GREEK CAPITAL LETTER GAMMA", "GREEK CAPITAL LETTER DELTA",
   "GREEK CAPITAL LETTER EPSILON", "GREEK CAPITAL LETTER ZETA", "GREEK CAPITAL LETTER ETA",
   "GREEK CAPITAL LETTER THETA", "GREEK CAPITAL LETTER IOTA", "GREEK CAPITAL LETTER KAPPA",
   "GREEK CAPITAL LETTER LAMDA", "GREEK CAPITAL LETTER MU", "GREEK CAPITAL LETTER NU",
   "GREEK CAPITAL LETTER XI", "GREEK CAPITAL LETTER OMICRON", "GREEK CAPITAL LETTER PI",
   "GREEK CAPITAL LETTER RHO", "", "GREEK CAPITAL LETTER SIGMA", "GREEK CAPITAL LETTER TAU",
   "GREEK CAPITAL LETTER UPSILON", "GREEK CAPITAL LETTER PHI", "GREEK CAPITAL LETTER CHI",
   "GREEK CAPITAL LETTER PSI", "GREEK CAPITAL LETTER OMEGA",
   "GREEK CAPITAL LETTER IOTA WITH DIALYTIKA", "GREEK CAPITAL LETTER UPSILON WITH DIALYTIKA",
   "GREEK SMALL LETTER ALPHA WITH TONOS", "GREEK SMALL LETTER EPSILON WITH TONOS",
   "GREEK SMALL LETTER ETA WITH TONOS", "GREEK SMALL LETTER IOTA WITH TONOS",
   "GREEK SMALL LETTER UPSILON WITH DIALYTIKA AND TONOS", "GREEK SMALL LETTER ALPHA",
   "GREEK SMALL LETTER BETA", "GREEK SMALL LETTER GAMMA", "GREEK SMALL LETTER DELTA",
   "GREEK SMALL LETTER EPSILON", "GREEK SMALL LETTER ZETA", "GREEK SMALL LETTER ETA",
   "GREEK SMALL LETTER THETA", "GREEK SMALL LETTER IOTA", "GREEK SMALL LETTER KAPPA",
   "GREEK SMALL LETTER LAMDA", "GREEK SMALL LETTER MU", "GREEK SMALL LETTER NU",
   "GREEK SMALL LETTER XI", "GREEK SMALL LETTER OMICRON", "GREEK SMALL LETTER PI",
   "GREEK SMALL LETTER RHO", "GREEK SMALL LETTER FINAL SIGMA", "GREEK SMALL LETTER SIGMA",
   "GREEK SMALL LETTER TAU", "GREEK SMALL LETTER UPSILON", "GREEK SMALL LETTER PHI",
   "GREEK SMALL LETTER CHI", "GREEK SMALL LETTER PSI", "GREEK SMALL LETTER OMEGA",
   "GREEK SMALL LETTER IOTA WITH DIALYTIKA", "GREEK SMALL LETTER UPSILON WITH DIALYTIKA",
   "GREEK SMALL LETTER OMICRON WITH TONOS", "GREEK SMALL LETTER UPSILON WITH TONOS",
   "GREEK SMALL LETTER OMEGA WITH TONOS", "GREEK CAPITAL KAI SYMBOL", "GREEK BETA SYMBOL",
   "GREEK THETA SYMBOL", "GREEK UPSILON WITH HOOK SYMBOL",
   "GREEK UPSILON WITH ACUTE AND HOOK SYMBOL", "GREEK UPSILON WITH DIAERESIS AND HOOK SYMBOL",
   "GREEK PHI SYMBOL", "GREEK PI SYMBOL", "GREEK KAI SYMBOL", "GREEK LETTER ARCHAIC KOPPA",
   "GREEK SMALL LETTER ARCHAIC KOPPA", "GREEK LETTER STIGMA", "GREEK SMALL LETTER STIGMA",
   "GREEK LETTER DIGAMMA", "GREEK SMALL LETTER DIGAMMA", "GREEK LETTER KOPPA",
   "GREEK SMALL LETTER KOPPA", "GREEK LETTER SAMPI", "GREEK SMALL LETTER SAMPI",
   "COPTIC CAPITAL LETTER SHEI", "COPTIC SMALL LETTER SHEI", "COPTIC CAPITAL LETTER FEI",
   "COPTIC SMALL LETTER FEI", "COPTIC CAPITAL LETTER KHEI", "COPTIC SMALL LETTER KHEI",
   "COPTIC CAPITAL LETTER HORI", "COPTIC SMALL LETTER HORI", "COPTIC CAPITAL LETTER GANGIA",
   "COPTIC SMALL LETTER GANGIA", "COPTIC CAPITAL LETTER SHIMA", "COPTIC SMALL LETTER SHIMA",
   "COPTIC CAPITAL LETTER DEI", "COPTIC SMALL LETTER DEI", "GREEK KAPPA SYMBOL", "GREEK RHO SYMBOL",
   "GREEK LUNATE SIGMA SYMBOL", "GREEK LETTER YOT", "GREEK CAPITAL THETA SYMBOL",
   "GREEK LUNATE EPSILON SYMBOL", "GREEK REVERSED LUNATE EPSILON SYMBOL",
   "GREEK CAPITAL LETTER SHO", "GREEK SMALL LETTER SHO", "GREEK CAPITAL LUNATE SIGMA SYMBOL",
   "GREEK CAPITAL LETTER SAN", "GREEK SMALL LETTER SAN", "GREEK RHO WITH STROKE SYMBOL",
   "GREEK CAPITAL REVERSED LUNATE SIGMA SYMBOL", "GREEK CAPITAL DOTTED LUNATE SIGMA SYMBOL",
   "GREEK CAPITAL REVERSED DOTTED LUNATE SIGMA SYMBOL"]

/-- The names of Cyrillic letters, from U+0400 on. -/
def cyrillicNames : List String :=
  ["CYRILLIC CAPITAL LETTER IE WITH GRAVE", "CYRILLIC CAPITAL LETTER IO",
   "CYRILLIC CAPITAL LETTER DJE", "CYRILLIC CAPITAL LETTER GJE",
   "CYRILLIC CAPITAL LETTER UKRAINIAN IE", "CYRILLIC CAPITAL LETTER DZE",
   "CYRILLIC CAPITAL LETTER BYELORUSSIAN-UKRAINIAN I", "CYRILLIC CAPITAL LETTER YI",
   "CYRILLIC CAPITAL LETTER JE", "CYRILLIC CAPITAL LETTER LJE", "CYRILLIC CAPITAL LETTER NJE",
   "CYRILLIC CAPITAL LETTER TSHE", "CYRILLIC CAPITAL LETTER KJE",
   "CYRILLIC CAPITAL LETTER I WITH GRAVE", "CYRILLIC CAPITAL LETTER SHORT U",
   "CYRILLIC CAPITAL LETTER DZHE", "CYRILLIC CAPITAL LETTER A", "CYRILLIC CAPITAL LETTER BE",
   "CYRILLIC CAPITAL LETTER VE", "CYRILLIC CAPITAL LETTER GHE", "CYRILLIC CAPITAL LETTER DE",
   "CYRILLIC CAPITAL LETTER IE", "CYRILLIC CAPITAL LETTER ZHE", "CYRILLIC CAPITAL LETTER ZE",
   "CYRILLIC CAPITAL LETTER I", "CYRILLIC CAPITAL LETTER SHORT I", "CYRILLIC CAPITAL LETTER KA",
   "CYRILLIC CAPITAL LETTER EL", "CYRILLIC CAPITAL LETTER EM", "CYRILLIC CAPITAL LETTER EN",
   "CYRILLIC CAPITAL LETTER O", "CYRILLIC CAPITAL LETTER PE", "CYRILLIC CAPITAL LETTER ER",
   "CYRILLIC CAPITAL LETTER ES", "CYRILLIC CAPITAL LETTER TE", "CYRILLIC CAPITAL LETTER U",
   "CYRILLIC CAPITAL LETTER EF", "CYRILLIC CAPITAL LETTER HA", "CYRILLIC CAPITAL LETTER TSE",
   "CYRILLIC CAPITAL LETTER CHE", "CYRILLIC CAPITAL LETTER SHA", "CYRILLIC CAPITAL LETTER SHCHA",
   "CYRILLIC CAPITAL LETTER HARD SIGN", "CYRILLIC CAPITAL LETTER YERU",
   "CYRILLIC CAPITAL LETTER SOFT SIGN", "CYRILLIC CAPITAL LETTER E", "CYRILLIC CAPITAL LETTER YU",
   "CYRILLIC CAPITAL LETTER YA", "CYRILLIC SMALL LETTER A", "CYRILLIC SMALL LETTER BE",
   "CYRILLIC SMALL LETTER VE", "CYRILLIC SMALL LETTER GHE", "CYRILLIC SMALL LETTER DE",
   "CYRILLIC SMALL LETTER IE", "CYRILLIC SMALL LETTER ZHE", "CYRILLIC SMALL LETTER ZE",
   "CYRILLIC SMALL LETTER I", "CYRILLIC SMALL LETTER SHORT I", "CYRILLIC SMALL LETTER KA",
   "CYRILLIC SMALL LETTER EL", "CYRILLIC SMALL LETTER EM", "CYRILLIC SMALL LETTER EN",
   "CYRILLIC SMALL LETTER O", "CYRILLIC SMALL LETTER PE", "CYRILLIC SMALL LETTER ER",
   "CYRILLIC SMALL LETTER ES", "CYRILLIC SMALL LETTER TE", "CYRILLIC SMALL LETTER U",
   "CYRILLIC SMALL LETTER EF", "CYRILLIC SMALL LETTER HA", "CYRILLIC SMALL LETTER TSE",
   "CYRILLIC SMALL LETTER CHE", "CYRILLIC SMALL LETTER SHA", "CYRILLIC SMALL LETTER SHCHA",
   "CYRILLIC SMALL LETTER HARD SIGN", "CYRILLIC SMALL LETTER YERU",
   "CYRILLIC SMALL LETTER SOFT SIGN", "CYRILLIC SMALL LETTER E", "CYRILLIC SMALL LETTER YU",
   "CYRILLIC SMALL LETTER YA", "CYRILLIC SMALL LETTER IE WITH GRAVE", "CYRILLIC SMALL LETTER IO",
   "CYRILLIC SMALL LETTER DJE", "CYRILLIC SMALL LETTER GJE", "CYRILLIC SMALL LETTER UKRAINIAN IE",
   "CYRILLIC SMALL LETTER DZE", "CYRILLIC SMALL LETTER BYELORUSSIAN-UKRAINIAN I",
   "CYRILLIC SMALL LETTER YI", "CYRILLIC SMALL LETTER JE", "CYRILLIC SMALL LETTER LJE",
   "CYRILLIC SMALL LETTER NJE", "CYRILLIC SMALL LETTER TSHE", "CYRILLIC SMALL LETTER KJE",
   "CYRILLIC SMALL LETTER I WITH GRAVE", "CYRILLIC SMALL LETTER SHORT U",
   "CYRILLIC SMALL LETTER DZHE"]

/-- The names of spaces and punctuation, from U+2000 on. -/
def punctuationNames : List String :=
  ["EN QUAD", "EM QUAD", "EN SPACE", "EM SPACE", "THREE-PER-EM SPACE", "FOUR-PER-EM SPACE",
   "SIX-PER-EM SPACE", "FIGURE SPACE", "PUNCTUATION SPACE", "THIN SPACE", "HAIR SPACE",
   "ZERO WIDTH SPACE", "ZERO WIDTH NON-JOINER", "ZERO WIDTH JOINER", "LEFT-TO-RIGHT MARK",
   "RIGHT-TO-LEFT MARK", "HYPHEN", "NON-BREAKING HYPHEN", "FIGURE DASH", "EN DASH", "EM DASH",
   "HORIZONTAL BAR", "DOUBLE VERTICAL LINE", "DOUBLE LOW LINE", "LEFT SINGLE QUOTATION MARK",
   "RIGHT SINGLE QUOTATION MARK", "SINGLE LOW-9 QUOTATION MARK",
   "SINGLE HIGH-REVERSED-9 QUOTATION MARK", "LEFT DOUBLE QUOTATION MARK",
   "RIGHT DOUBLE QUOTATION MARK", "DOUBLE LOW-9 QUOTATION MARK",
   "DOUBLE HIGH-REVERSED-9 QUOTATION MARK", "DAGGER", "DOUBLE DAGGER", "BULLET",
   "TRIANGULAR BULLET", "ONE DOT LEADER", "TWO DOT LEADER", "HORIZONTAL ELLIPSIS",
   "HYPHENATION POINT", "LINE SEPARATOR", "PARAGRAPH SEPARATOR", "LEFT-TO-RIGHT EMBEDDING",
   "RIGHT-TO-LEFT EMBEDDING", "POP DIRECTIONAL FORMATTING", "LEFT-TO-RIGHT OVERRIDE",
   "RIGHT-TO-LEFT OVERRIDE", "NARROW NO-BREAK SPACE", "PER MILLE SIGN", "PER TEN THOUSAND SIGN",
   "PRIME", "DOUBLE PRIME", "TRIPLE PRIME", "REVERSED PRIME", "REVERSED DOUBLE PRIME",
   "REVERSED TRIPLE PRIME", "CARET", "SINGLE LEFT-POINTING ANGLE QUOTATION MARK",
   "SINGLE RIGHT-POINTING ANGLE QUOTATION MARK", "REFERENCE MARK", "DOUBLE EXCLAMATION MARK",
   "INTERROBANG", "OVERLINE", "UNDERTIE", "CHARACTER TIE", "CARET INSERTION POINT", "ASTERISM",
   "HYPHEN BULLET", "FRACTION SLASH", "LEFT SQUARE BRACKET WITH QUILL",
   "RIGHT SQUARE BRACKET WITH QUILL", "DOUBLE QUESTION MARK", "QUESTION EXCLAMATION MARK",
   "EXCLAMATION QUESTION MARK", "TIRONIAN SIGN ET", "REVERSED PILCROW SIGN",
   "BLACK LEFTWARDS BULLET", "BLACK RIGHTWARDS BULLET", "LOW ASTERISK", "REVERSED SEMICOLON",
   "CLOSE UP", "TWO ASTERISKS ALIGNED VERTICALLY", "COMMERCIAL MINUS SIGN", "SWUNG DASH",
   "INVERTED UNDERTIE", "FLOWER PUNCTUATION MARK", "THREE DOT PUNCTUATION", "QUADRUPLE PRIME",
   "FOUR DOT PUNCTUATION", "FIVE DOT PUNCTUATION", "TWO DOT PUNCTUATION", "FOUR DOT MARK",
   "DOTTED CROSS", "TRICOLON", "VERTICAL FOUR DOTS", "MEDIUM MATHEMATICAL SPACE", "WORD JOINER",
   "FUNCTION APPLICATION", "INVISIBLE TIMES", "INVISIBLE SEPARATOR", "INVISIBLE PLUS", "",
   "LEFT-TO-RIGHT ISOLATE", "RIGHT-TO-LEFT ISOLATE", "FIRST STRONG ISOLATE",
   "POP DIRECTIONAL ISOLATE", "INHIBIT SYMMETRIC SWAPPING", "ACTIVATE SYMMETRIC SWAPPING",
   "INHIBIT ARABIC FORM SHAPING", "ACTIVATE ARABIC FORM SHAPING", "NATIONAL DIGIT SHAPES",
   "NOMINAL DIGIT SHAPES"]

/-- The names of currency signs, from U+20A0 on. -/
def currencyNames : List String :=
  ["EURO-CURRENCY SIGN", "COLON SIGN", "CRUZEIRO SIGN", "FRENCH FRANC SIGN", "LIRA SIGN",
   "MILL SIGN", "NAIRA SIGN", "PESETA SIGN", "RUPEE SIGN", "WON SIGN", "NEW SHEQEL SIGN",
   "DONG SIGN", "EURO SIGN", "KIP SIGN", "TUGRIK SIGN", "DRACHMA SIGN", "GERMAN PENNY SIGN",
   "PESO SIGN", "GUARANI SIGN", "AUSTRAL SIGN", "HRYVNIA SIGN", "CEDI SIGN", "LIVRE TOURNOIS SIGN",
   "SPESMILO SIGN", "TENGE SIGN", "INDIAN RUPEE SIGN", "TURKISH LIRA SIGN", "NORDIC MARK SIGN",
   "MANAT SIGN", "RUBLE SIGN", "LARI SIGN", "BITCOIN SIGN", "SOM SIGN"]

/-- The names of signs made of letters, from U+2100 on. -/
def letterlikeNames : List String :=
  ["ACCOUNT OF", "ADDRESSED TO THE SUBJECT", "DOUBLE-STRUCK CAPITAL C", "DEGREE CELSIUS",
   "CENTRE LINE SYMBOL", "CARE OF", "CADA UNA", "EULER CONSTANT", "SCRUPLE", "DEGREE FAHRENHEIT",
   "SCRIPT SMALL G", "SCRIPT CAPITAL H", "BLACK-LETTER CAPITAL H", "DOUBLE-STRUCK CAPITAL H",
   "PLANCK CONSTANT", "PLANCK CONSTANT OVER TWO PI", "SCRIPT CAPITAL I", "BLACK-LETTER CAPITAL I",
   "SCRIPT CAPITAL L", "SCRIPT SMALL L", "L B BAR SYMBOL", "DOUBLE-STRUCK CAPITAL N", "NUMERO SIGN",
   "SOUND RECORDING COPYRIGHT", "SCRIPT CAPITAL P", "DOUBLE-STRUCK CAPITAL P",
   "DOUBLE-STRUCK CAPITAL Q", "SCRIPT CAPITAL R", "BLACK-LETTER CAPITAL R",
   "DOUBLE-STRUCK CAPITAL R", "PRESCRIPTION TAKE", "RESPONSE", "SERVICE MARK", "TELEPHONE SIGN",
   "TRADE MARK SIGN", "VERSICLE", "DOUBLE-STRUCK CAPITAL Z", "OUNCE SIGN", "OHM SIGN",
   "INVERTED OHM SIGN", "BLACK-LETTER CAPITAL Z", "TURNED GREEK SMALL LETTER IOTA", "KELVIN SIGN",
   "ANGSTROM SIGN", "SCRIPT CAPITAL B", "BLACK-LETTER CAPITAL C", "ESTIMATED SYMBOL",
   "SCRIPT SMALL E", "SCRIPT CAPITAL E", "SCRIPT CAPITAL F", "TURNED CAPITAL F", "SCRIPT CAPITAL M",
   "SCRIPT SMALL O", "ALEF SYMBOL", "BET SYMBOL", "GIMEL SYMBOL", "DALET SYMBOL",
   "INFORMATION SOURCE", "ROTATED CAPITAL Q", "FACSIMILE SIGN", "DOUBLE-STRUCK SMALL PI",
   "DOUBLE-STRUCK SMALL GAMMA", "DOUBLE-STRUCK CAPITAL GAMMA", "DOUBLE-STRUCK CAPITAL PI",
   "DOUBLE-STRUCK N-ARY SUMMATION", "TURNED SANS-SERIF CAPITAL G", "TURNED SANS-SERIF CAPITAL L",
   "REVERSED SANS-SERIF CAPITAL L", "TURNED SANS-SERIF CAPITAL Y", "DOUBLE-STRUCK ITALIC CAPITAL D",
   "DOUBLE-STRUCK ITALIC SMALL D", "DOUBLE-STRUCK ITALIC SMALL E", "DOUBLE-STRUCK ITALIC SMALL I",
   "DOUBLE-STRUCK ITALIC SMALL J", "PROPERTY LINE", "TURNED AMPERSAND", "PER SIGN", "AKTIESELSKAB",
   "TURNED SMALL F", "SYMBOL FOR SAMARITAN SOURCE"]

/-- The names of arrows, from U+2190 on. -/
def arrowNames : List String :=
  ["LEFTWARDS ARROW", "UPWARDS ARROW", "RIGHTWARDS ARROW", "DOWNWARDS ARROW", "LEFT RIGHT ARROW",
   "UP DOWN ARROW", "NORTH WEST ARROW", "NORTH EAST ARROW", "SOUTH EAST ARROW", "SOUTH WEST ARROW",
   "LEFTWARDS ARROW WITH STROKE", "RIGHTWARDS ARROW WITH STROKE", "LEFTWARDS WAVE ARROW",
   "RIGHTWARDS WAVE ARROW", "LEFTWARDS TWO HEADED ARROW", "UPWARDS TWO HEADED ARROW",
   "RIGHTWARDS TWO HEADED ARROW", "DOWNWARDS TWO HEADED ARROW", "LEFTWARDS ARROW WITH TAIL",
   "RIGHTWARDS ARROW WITH TAIL", "LEFTWARDS ARROW FROM BAR", "UPWARDS ARROW FROM BAR",
   "RIGHTWARDS ARROW FROM BAR", "DOWNWARDS ARROW FROM BAR", "UP DOWN ARROW WITH BASE",
   "LEFTWARDS ARROW WITH HOOK", "RIGHTWARDS ARROW WITH HOOK", "LEFTWARDS ARROW WITH LOOP",
   "RIGHTWARDS ARROW WITH LOOP", "LEFT RIGHT WAVE ARROW", "LEFT RIGHT ARROW WITH STROKE",
   "DOWNWARDS ZIGZAG ARROW", "UPWARDS ARROW WITH TIP LEFTWARDS",
   "UPWARDS ARROW WITH TIP RIGHTWARDS", "DOWNWARDS ARROW WITH TIP LEFTWARDS",
   "DOWNWARDS ARROW WITH TIP RIGHTWARDS", "RIGHTWARDS ARROW WITH CORNER DOWNWARDS",
   "DOWNWARDS ARROW WITH CORNER LEFTWARDS", "ANTICLOCKWISE TOP SEMICIRCLE ARROW",
   "CLOCKWISE TOP SEMICIRCLE ARROW", "NORTH WEST ARROW TO LONG BAR",
   "LEFTWARDS ARROW TO BAR OVER RIGHTWARDS ARROW TO BAR", "ANTICLOCKWISE OPEN CIRCLE ARROW",
   "CLOCKWISE OPEN CIRCLE ARROW", "LEFTWARDS HARPOON WITH BARB UPWARDS",
   "LEFTWARDS HARPOON WITH BARB DOWNWARDS", "UPWARDS HARPOON WITH BARB RIGHTWARDS",
   "UPWARDS HARPOON WITH BARB LEFTWARDS", "RIGHTWARDS HARPOON WITH BARB UPWARDS",
   "RIGHTWARDS HARPOON WITH BARB DOWNWARDS", "DOWNWARDS HARPOON WITH BARB RIGHTWARDS",
   "DOWNWARDS HARPOON WITH BARB LEFTWARDS", "RIGHTWARDS ARROW OVER LEFTWARDS ARROW",
   "UPWARDS ARROW LEFTWARDS OF DOWNWARDS ARROW", "LEFTWARDS ARROW OVER RIGHTWARDS ARROW",
   "LEFTWARDS PAIRED ARROWS", "UPWARDS PAIRED ARROWS", "RIGHTWARDS PAIRED ARROWS",
   "DOWNWARDS PAIRED ARROWS", "LEFTWARDS HARPOON OVER RIGHTWARDS HARPOON",
   "RIGHTWARDS HARPOON OVER LEFTWARDS HARPOON", "LEFTWARDS DOUBLE ARROW WITH STROKE",
   "LEFT RIGHT DOUBLE ARROW WITH STROKE", "RIGHTWARDS DOUBLE ARROW WITH STROKE",
   "LEFTWARDS DOUBLE ARROW", "UPWARDS DOUBLE ARROW", "RIGHTWARDS DOUBLE ARROW",
   "DOWNWARDS DOUBLE ARROW", "LEFT RIGHT DOUBLE ARROW", "UP DOWN DOUBLE ARROW",
   "NORTH WEST DOUBLE ARROW", "NORTH EAST DOUBLE ARROW", "SOUTH EAST DOUBLE ARROW",
   "SOUTH WEST DOUBLE ARROW", "LEFTWARDS TRIPLE ARROW", "RIGHTWARDS TRIPLE ARROW",
   "LEFTWARDS SQUIGGLE ARROW", "RIGHTWARDS SQUIGGLE ARROW", "UPWARDS ARROW WITH DOUBLE STROKE",
   "DOWNWARDS ARROW WITH DOUBLE STROKE", "LEFTWARDS DASHED ARROW", "UPWARDS DASHED ARROW",
   "RIGHTWARDS DASHED ARROW", "DOWNWARDS DASHED ARROW", "LEFTWARDS ARROW TO BAR",
   "RIGHTWARDS ARROW TO BAR", "LEFTWARDS WHITE ARROW", "UPWARDS WHITE ARROW",
   "RIGHTWARDS WHITE ARROW", "DOWNWARDS WHITE ARROW", "UPWARDS WHITE ARROW FROM BAR",
   "UPWARDS WHITE ARROW ON PEDESTAL", "UPWARDS WHITE ARROW ON PEDESTAL WITH HORIZONTAL BAR",
   "UPWARDS WHITE ARROW ON PEDESTAL WITH VERTICAL BAR", "UPWARDS WHITE DOUBLE ARROW",
   "UPWARDS WHITE DOUBLE ARROW ON PEDESTAL", "RIGHTWARDS WHITE ARROW FROM WALL",
   "NORTH WEST ARROW TO CORNER", "SOUTH EAST ARROW TO CORNER", "UP DOWN WHITE ARROW",
   "RIGHT ARROW WITH SMALL CIRCLE", "DOWNWARDS ARROW LEFTWARDS OF UPWARDS ARROW",
   "THREE RIGHTWARDS ARROWS", "LEFTWARDS ARROW WITH VERTICAL STROKE",
   "RIGHTWARDS ARROW WITH VERTICAL STROKE", "LEFT RIGHT ARROW WITH VERTICAL STROKE",
   "LEFTWARDS ARROW WITH DOUBLE VERTICAL STROKE", "RIGHTWARDS ARROW WITH DOUBLE VERTICAL STROKE",
   "LEFT RIGHT ARROW WITH DOUBLE VERTICAL STROKE", "LEFTWARDS OPEN-HEADED ARROW",
   "RIGHTWARDS OPEN-HEADED ARROW", "LEFT RIGHT OPEN-HEADED ARROW"]

/-- The names of mathematical operators, from U+2200 on. -/
def operatorNames : List String :=
  ["FOR ALL", "COMPLEMENT", "PARTIAL DIFFERENTIAL", "THERE EXISTS", "THERE DOES NOT EXIST",
   "EMPTY SET", "INCREMENT", "NABLA", "ELEMENT OF", "NOT AN ELEMENT OF", "SMALL ELEMENT OF",
   "CONTAINS AS MEMBER", "DOES NOT CONTAIN AS MEMBER", "SMALL CONTAINS AS MEMBER", "END OF PROOF",
   "N-ARY PRODUCT", "N-ARY COPRODUCT", "N-ARY SUMMATION", "MINUS SIGN", "MINUS-OR-PLUS SIGN",
   "DOT PLUS", "DIVISION SLASH", "SET MINUS", "ASTERISK OPERATOR", "RING OPERATOR",
   "BULLET OPERATOR", "SQUARE ROOT", "CUBE ROOT", "FOURTH ROOT", "PROPORTIONAL TO", "INFINITY",
   "RIGHT ANGLE", "ANGLE", "MEASURED ANGLE", "SPHERICAL ANGLE", "DIVIDES", "DOES NOT DIVIDE",
   "PARALLEL TO", "NOT PARALLEL TO", "LOGICAL AND", "LOGICAL OR", "INTERSECTION", "UNION",
   "INTEGRAL", "DOUBLE INTEGRAL", "TRIPLE INTEGRAL", "CONTOUR INTEGRAL", "SURFACE INTEGRAL",
   "VOLUME INTEGRAL", "CLOCKWISE INTEGRAL", "CLOCKWISE CONTOUR INTEGRAL",
   "ANTICLOCKWISE CONTOUR INTEGRAL", "THEREFORE", "BECAUSE", "RATIO", "PROPORTION", "DOT MINUS",
   "EXCESS", "GEOMETRIC PROPORTION", "HOMOTHETIC", "TILDE OPERATOR", "REVERSED TILDE",
   "INVERTED LAZY S", "SINE WAVE", "WREATH PRODUCT", "NOT TILDE", "MINUS TILDE",
   "ASYMPTOTICALLY EQUAL TO", "NOT ASYMPTOTICALLY EQUAL TO", "APPROXIMATELY EQUAL TO",
   "APPROXIMATELY BUT NOT ACTUALLY EQUAL TO", "NEITHER APPROXIMATELY NOR ACTUALLY EQUAL TO",
   "ALMOST EQUAL TO", "NOT ALMOST EQUAL TO", "ALMOST EQUAL OR EQUAL TO", "TRIPLE TILDE",
   "ALL EQUAL TO", "EQUIVALENT TO", "GEOMETRICALLY EQUIVALENT TO", "DIFFERENCE BETWEEN",
   "APPROACHES THE LIMIT", "GEOMETRICALLY EQUAL TO", "APPROXIMATELY EQUAL TO OR THE IMAGE OF",
   "IMAGE OF OR APPROXIMATELY EQUAL TO", "COLON EQUALS", "EQUALS COLON", "RING IN EQUAL TO",
   "RING EQUAL TO", "CORRESPONDS TO", "ESTIMATES", "EQUIANGULAR TO", "STAR EQUALS",
   "DELTA EQUAL TO", "EQUAL TO BY DEFINITION", "MEASURED BY", "QUESTIONED EQUAL TO", "NOT EQUAL TO",
   "IDENTICAL TO", "NOT IDENTICAL TO", "STRICTLY EQUIVALENT TO", "LESS-THAN OR EQUAL TO",
   "GREATER-THAN OR EQUAL TO", "LESS-THAN OVER EQUAL TO", "GREATER-THAN OVER EQUAL TO",
   "LESS-THAN BUT NOT EQUAL TO", "GREATER-THAN BUT NOT EQUAL TO", "MUCH LESS-THAN",
   "MUCH GREATER-THAN", "BETWEEN", "NOT EQUIVALENT TO", "NOT LESS-THAN", "NOT GREATER-THAN",
   "NEITHER LESS-THAN NOR EQUAL TO", "NEITHER GREATER-THAN NOR EQUAL TO",
   "LESS-THAN OR EQUIVALENT TO", "GREATER-THAN OR EQUIVALENT TO",
   "NEITHER LESS-THAN NOR EQUIVALENT TO", "NEITHER GREATER-THAN NOR EQUIVALENT TO",
   "LESS-THAN OR GREATER-THAN", "GREATER-THAN OR LESS-THAN", "NEITHER LESS-THAN NOR GREATER-THAN",
   "NEITHER GREATER-THAN NOR LESS-THAN", "PRECEDES", "SUCCEEDS", "PRECEDES OR EQUAL TO",
   "SUCCEEDS OR EQUAL TO", "PRECEDES OR EQUIVALENT TO", "SUCCEEDS OR EQUIVALENT TO",
   "DOES NOT PRECEDE", "DOES NOT SUCCEED", "SUBSET OF", "SUPERSET OF", "NOT A SUBSET OF",
   "NOT A SUPERSET OF", "SUBSET OF OR EQUAL TO", "SUPERSET OF OR EQUAL TO",
   "NEITHER A SUBSET OF NOR EQUAL TO", "NEITHER A SUPERSET OF NOR EQUAL TO",
   "SUBSET OF WITH NOT EQUAL TO", "SUPERSET OF WITH NOT EQUAL TO", "MULTISET",
   "MULTISET MULTIPLICATION", "MULTISET UNION"]

/-- The names of geometric shapes, from U+25A0 on. -/
def shapeNames : List String :=
  ["BLACK SQUARE", "WHITE SQUARE", "WHITE SQUARE WITH ROUNDED CORNERS",
   "WHITE SQUARE CONTAINING BLACK SMALL SQUARE", "SQUARE WITH HORIZONTAL FILL",
   "SQUARE WITH VERTICAL FILL", "SQUARE WITH ORTHOGONAL CROSSHATCH FILL",
   "SQUARE WITH UPPER LEFT TO LOWER RIGHT FILL", "SQUARE WITH UPPER RIGHT TO LOWER LEFT FILL",
   "SQUARE WITH DIAGONAL CROSSHATCH FILL", "BLACK SMALL SQUARE", "WHITE SMALL SQUARE",
   "BLACK RECTANGLE", "WHITE RECTANGLE", "BLACK VERTICAL RECTANGLE", "WHITE VERTICAL RECTANGLE",
   "BLACK PARALLELOGRAM", "WHITE PARALLELOGRAM", "BLACK UP-POINTING TRIANGLE",
   "WHITE UP-POINTING TRIANGLE", "BLACK UP-POINTING SMALL TRIANGLE",
   "WHITE UP-POINTING SMALL TRIANGLE", "BLACK RIGHT-POINTING TRIANGLE",
   "WHITE RIGHT-POINTING TRIANGLE", "BLACK RIGHT-POINTING SMALL TRIANGLE",
   "WHITE RIGHT-POINTING SMALL TRIANGLE", "BLACK RIGHT-POINTING POINTER",
   "WHITE RIGHT-POINTING POINTER", "BLACK DOWN-POINTING TRIANGLE", "WHITE DOWN-POINTING TRIANGLE",
   "BLACK DOWN-POINTING SMALL TRIANGLE", "WHITE DOWN-POINTING SMALL TRIANGLE",
   "BLACK LEFT-POINTING TRIANGLE", "WHITE LEFT-POINTING TRIANGLE",
   "BLACK LEFT-POINTING SMALL TRIANGLE", "WHITE LEFT-POINTING SMALL TRIANGLE",
   "BLACK LEFT-POINTING POINTER", "WHITE LEFT-POINTING POINTER", "BLACK DIAMOND", "WHITE DIAMOND",
   "WHITE DIAMOND CONTAINING BLACK SMALL DIAMOND", "FISHEYE", "LOZENGE", "WHITE CIRCLE",
   "DOTTED CIRCLE", "CIRCLE WITH VERTICAL FILL", "BULLSEYE", "BLACK CIRCLE",
   "CIRCLE WITH LEFT HALF BLACK", "CIRCLE WITH RIGHT HALF BLACK", "CIRCLE WITH LOWER HALF BLACK",
   "CIRCLE WITH UPPER HALF BLACK", "CIRCLE WITH UPPER RIGHT QUADRANT BLACK",
   "CIRCLE WITH ALL BUT UPPER LEFT QUADRANT BLACK", "LEFT HALF BLACK CIRCLE",
   "RIGHT HALF BLACK CIRCLE", "INVERSE BULLET", "INVERSE WHITE CIRCLE",
   "UPPER HALF INVERSE WHITE CIRCLE", "LOWER HALF INVERSE WHITE CIRCLE",
   "UPPER LEFT QUADRANT CIRCULAR ARC", "UPPER RIGHT QUADRANT CIRCULAR ARC",
   "LOWER RIGHT QUADRANT CIRCULAR ARC", "LOWER LEFT QUADRANT CIRCULAR ARC", "UPPER HALF CIRCLE",
   "LOWER HALF CIRCLE", "BLACK LOWER RIGHT TRIANGLE", "BLACK LOWER LEFT TRIANGLE",
   "BLACK UPPER LEFT TRIANGLE", "BLACK UPPER RIGHT TRIANGLE", "WHITE BULLET",
   "SQUARE WITH LEFT HALF BLACK", "SQUARE WITH RIGHT HALF BLACK",
   "SQUARE WITH UPPER LEFT DIAGONAL HALF BLACK", "SQUARE WITH LOWER RIGHT DIAGONAL HALF BLACK",
   "WHITE SQUARE WITH VERTICAL BISECTING LINE", "WHITE UP-POINTING TRIANGLE WITH DOT",
   "UP-POINTING TRIANGLE WITH LEFT HALF BLACK", "UP-POINTING TRIANGLE WITH RIGHT HALF BLACK",
   "LARGE CIRCLE", "WHITE SQUARE WITH UPPER LEFT QUADRANT", "WHITE SQUARE WITH LOWER LEFT QUADRANT",
   "WHITE SQUARE WITH LOWER RIGHT QUADRANT", "WHITE SQUARE WITH UPPER RIGHT QUADRANT",
   "WHITE CIRCLE WITH UPPER LEFT QUADRANT", "WHITE CIRCLE WITH LOWER LEFT QUADRANT",
   "WHITE CIRCLE WITH LOWER RIGHT QUADRANT", "WHITE CIRCLE WITH UPPER RIGHT QUADRANT",
   "UPPER LEFT TRIANGLE", "UPPER RIGHT TRIANGLE", "LOWER LEFT TRIANGLE", "WHITE MEDIUM SQUARE",
   "BLACK MEDIUM SQUARE", "WHITE MEDIUM SMALL SQUARE", "BLACK MEDIUM SMALL SQUARE",
   "LOWER RIGHT TRIANGLE"]

/-- The names of miscellaneous symbols, from U+2600 on. -/
def symbolNames : List String :=
  ["BLACK SUN WITH RAYS", "CLOUD", "UMBRELLA", "SNOWMAN", "COMET", "BLACK STAR", "WHITE STAR",
   "LIGHTNING", "THUNDERSTORM", "SUN", "ASCENDING NODE", "DESCENDING NODE", "CONJUNCTION",
   "OPPOSITION", "BLACK TELEPHONE", "WHITE TELEPHONE", "BALLOT BOX", "BALLOT BOX WITH CHECK",
   "BALLOT BOX WITH X", "SALTIRE", "UMBRELLA WITH RAIN DROPS", "HOT BEVERAGE", "WHITE SHOGI PIECE",
   "BLACK SHOGI PIECE", "SHAMROCK", "REVERSED ROTATED FLORAL HEART BULLET",
   "BLACK LEFT POINTING INDEX", "BLACK RIGHT POINTING INDEX", "WHITE LEFT POINTING INDEX",
   "WHITE UP POINTING INDEX", "WHITE RIGHT POINTING INDEX", "WHITE DOWN POINTING INDEX",
   "SKULL AND CROSSBONES", "CAUTION SIGN", "RADIOACTIVE SIGN", "BIOHAZARD SIGN", "CADUCEUS", "ANKH",
   "ORTHODOX CROSS", "CHI RHO", "CROSS OF LORRAINE", "CROSS OF JERUSALEM", "STAR AND CRESCENT",
   "FARSI SYMBOL", "ADI SHAKTI", "HAMMER AND SICKLE", "PEACE SYMBOL", "YIN YANG",
   "TRIGRAM FOR HEAVEN", "TRIGRAM FOR LAKE", "TRIGRAM FOR FIRE", "TRIGRAM FOR THUNDER",
   "TRIGRAM FOR WIND", "TRIGRAM FOR WATER", "TRIGRAM FOR MOUNTAIN", "TRIGRAM FOR EARTH",
   "WHEEL OF DHARMA", "WHITE FROWNING FACE", "WHITE SMILING FACE", "BLACK SMILING FACE",
   "WHITE SUN WITH RAYS", "FIRST QUARTER MOON", "LAST QUARTER MOON", "MERCURY", "FEMALE SIGN",
   "EARTH", "MALE SIGN", "JUPITER", "SATURN", "URANUS", "NEPTUNE", "PLUTO", "ARIES", "TAURUS",
   "GEMINI", "CANCER", "LEO", "VIRGO", "LIBRA", "SCORPIUS", "SAGITTARIUS", "CAPRICORN", "AQUARIUS",
   "PISCES", "WHITE CHESS KING", "WHITE CHESS QUEEN", "WHITE CHESS ROOK", "WHITE CHESS BISHOP",
   "WHITE CHESS KNIGHT", "WHITE CHESS PAWN", "BLACK CHESS KING", "BLACK CHESS QUEEN",
   "BLACK CHESS ROOK", "BLACK CHESS BISHOP", "BLACK CHESS KNIGHT", "BLACK CHESS PAWN",
   "BLACK SPADE SUIT", "WHITE HEART SUIT", "WHITE DIAMOND SUIT", "BLACK CLUB SUIT",
   "WHITE SPADE SUIT", "BLACK HEART SUIT", "BLACK DIAMOND SUIT", "WHITE CLUB SUIT", "HOT SPRINGS",
   "QUARTER NOTE", "EIGHTH NOTE", "BEAMED EIGHTH NOTES", "BEAMED SIXTEENTH NOTES",
   "MUSIC FLAT SIGN", "MUSIC NATURAL SIGN", "MUSIC SHARP SIGN", "WEST SYRIAC CROSS",
   "EAST SYRIAC CROSS", "UNIVERSAL RECYCLING SYMBOL", "RECYCLING SYMBOL FOR TYPE-1 PLASTICS",
   "RECYCLING SYMBOL FOR TYPE-2 PLASTICS", "RECYCLING SYMBOL FOR TYPE-3 PLASTICS",
   "RECYCLING SYMBOL FOR TYPE-4 PLASTICS", "RECYCLING SYMBOL FOR TYPE-5 PLASTICS",
   "RECYCLING SYMBOL FOR TYPE-6 PLASTICS", "RECYCLING SYMBOL FOR TYPE-7 PLASTICS",
   "RECYCLING SYMBOL FOR GENERIC MATERIALS", "BLACK UNIVERSAL RECYCLING SYMBOL",
   "RECYCLED PAPER SYMBOL", "PARTIALLY-RECYCLED PAPER SYMBOL", "PERMANENT PAPER SIGN",
   "WHEELCHAIR SYMBOL", "DIE FACE-1", "DIE FACE-2", "DIE FACE-3", "DIE FACE-4", "DIE FACE-5",
   "DIE FACE-6", "WHITE CIRCLE WITH DOT RIGHT", "WHITE CIRCLE WITH TWO DOTS",
   "BLACK CIRCLE WITH WHITE DOT RIGHT", "BLACK CIRCLE WITH TWO WHITE DOTS", "MONOGRAM FOR YANG",
   "MONOGRAM FOR YIN", "DIGRAM FOR GREATER YANG", "DIGRAM FOR LESSER YIN", "DIGRAM FOR LESSER YANG",
   "DIGRAM FOR GREATER YIN", "WHITE FLAG", "BLACK FLAG", "HAMMER AND PICK", "ANCHOR",
   "CROSSED SWORDS", "STAFF OF AESCULAPIUS", "SCALES", "ALEMBIC", "FLOWER", "GEAR",
   "STAFF OF HERMES", "ATOM SYMBOL", "FLEUR-DE-LIS", "OUTLINED WHITE STAR",
   "THREE LINES CONVERGING RIGHT", "THREE LINES CONVERGING LEFT", "WARNING SIGN",
   "HIGH VOLTAGE SIGN", "DOUBLED FEMALE SIGN", "DOUBLED MALE SIGN",
   "INTERLOCKED FEMALE AND MALE SIGN", "MALE AND FEMALE SIGN", "MALE WITH STROKE SIGN",
   "MALE WITH STROKE AND MALE AND FEMALE SIGN", "VERTICAL MALE WITH STROKE SIGN",
   "HORIZONTAL MALE WITH STROKE SIGN", "MEDIUM WHITE CIRCLE", "MEDIUM BLACK CIRCLE",
   "MEDIUM SMALL WHITE CIRCLE", "MARRIAGE SYMBOL", "DIVORCE SYMBOL", "UNMARRIED PARTNERSHIP SYMBOL",
   "COFFIN", "FUNERAL URN", "NEUTER", "CERES", "PALLAS", "JUNO", "VESTA", "CHIRON",
   "BLACK MOON LILITH", "SEXTILE", "SEMISEXTILE", "QUINCUNX", "SESQUIQUADRATE", "SOCCER BALL",
   "BASEBALL", "SQUARED KEY", "WHITE DRAUGHTS MAN", "WHITE DRAUGHTS KING", "BLACK DRAUGHTS MAN",
   "BLACK DRAUGHTS KING", "SNOWMAN WITHOUT SNOW", "SUN BEHIND CLOUD", "RAIN", "BLACK SNOWMAN",
   "THUNDER CLOUD AND RAIN", "TURNED WHITE SHOGI PIECE", "TURNED BLACK SHOGI PIECE",
   "WHITE DIAMOND IN SQUARE", "CROSSING LANES", "DISABLED CAR", "OPHIUCHUS", "PICK", "CAR SLIDING",
   "HELMET WITH WHITE CROSS", "CIRCLED CROSSING LANES", "CHAINS", "NO ENTRY",
   "ALTERNATE ONE-WAY LEFT WAY TRAFFIC", "BLACK TWO-WAY LEFT WAY TRAFFIC",
   "WHITE TWO-WAY LEFT WAY TRAFFIC", "BLACK LEFT LANE MERGE", "WHITE LEFT LANE MERGE",
   "DRIVE SLOW SIGN", "HEAVY WHITE DOWN-POINTING TRIANGLE", "LEFT CLOSED ENTRY", "SQUARED SALTIRE",
   "FALLING DIAGONAL IN WHITE CIRCLE IN BLACK SQUARE", "BLACK TRUCK", "RESTRICTED LEFT ENTRY-1",
   "RESTRICTED LEFT ENTRY-2", "ASTRONOMICAL SYMBOL FOR URANUS",
   "HEAVY CIRCLE WITH STROKE AND TWO DOTS ABOVE", "PENTAGRAM", "RIGHT-HANDED INTERLACED PENTAGRAM",
   "LEFT-HANDED INTERLACED PENTAGRAM", "INVERTED PENTAGRAM", "BLACK CROSS ON SHIELD",
   "SHINTO SHRINE", "CHURCH", "CASTLE", "HISTORIC SITE", "GEAR WITHOUT HUB", "GEAR WITH HANDLES",
   "MAP SYMBOL FOR LIGHTHOUSE", "MOUNTAIN", "UMBRELLA ON GROUND", "FOUNTAIN", "FLAG IN HOLE",
   "FERRY", "SAILBOAT", "SQUARE FOUR CORNERS", "SKIER", "ICE SKATE", "PERSON WITH BALL", "TENT",
   "JAPANESE BANK SYMBOL", "HEADSTONE GRAVEYARD SYMBOL", "FUEL PUMP", "CUP ON BLACK SQUARE",
   "WHITE FLAG WITH HORIZONTAL MIDDLE BLACK STRIPE"]

/-- The names of dingbats, from U+2700 on. -/
def dingbatNames : List String :=
  ["BLACK SAFETY SCISSORS", "UPPER BLADE SCISSORS", "BLACK SCISSORS", "LOWER BLADE SCISSORS",
   "WHITE SCISSORS", "WHITE HEAVY CHECK MARK", "TELEPHONE LOCATION SIGN", "TAPE DRIVE", "AIRPLANE",
   "ENVELOPE", "RAISED FIST", "RAISED HAND", "VICTORY HAND", "WRITING HAND", "LOWER RIGHT PENCIL",
   "PENCIL", "UPPER RIGHT PENCIL", "WHITE NIB", "BLACK NIB", "CHECK MARK", "HEAVY CHECK MARK",
   "MULTIPLICATION X", "HEAVY MULTIPLICATION X", "BALLOT X", "HEAVY BALLOT X",
   "OUTLINED GREEK CROSS", "HEAVY GREEK CROSS", "OPEN CENTRE CROSS", "HEAVY OPEN CENTRE CROSS",
   "LATIN CROSS", "SHADOWED WHITE LATIN CROSS", "OUTLINED LATIN CROSS", "MALTESE CROSS",
   "STAR OF DAVID", "FOUR TEARDROP-SPOKED ASTERISK", "FOUR BALLOON-SPOKED ASTERISK",
   "HEAVY FOUR BALLOON-SPOKED ASTERISK", "FOUR CLUB-SPOKED ASTERISK", "BLACK FOUR POINTED STAR",
   "WHITE FOUR POINTED STAR", "SPARKLES", "STRESS OUTLINED WHITE STAR", "CIRCLED WHITE STAR",
   "OPEN CENTRE BLACK STAR", "BLACK CENTRE WHITE STAR", "OUTLINED BLACK STAR",
   "HEAVY OUTLINED BLACK STAR", "PINWHEEL STAR", "SHADOWED WHITE STAR", "HEAVY ASTERISK",
   "OPEN CENTRE ASTERISK", "EIGHT SPOKED ASTERISK", "EIGHT POINTED BLACK STAR",
   "EIGHT POINTED PINWHEEL STAR", "SIX POINTED BLACK STAR", "EIGHT POINTED RECTILINEAR BLACK STAR",
   "HEAVY EIGHT POINTED RECTILINEAR BLACK STAR", "TWELVE POINTED BLACK STAR",
   "SIXTEEN POINTED ASTERISK", "TEARDROP-SPOKED ASTERISK", "OPEN CENTRE TEARDROP-SPOKED ASTERISK",
   "HEAVY TEARDROP-SPOKED ASTERISK", "SIX PETALLED BLACK AND WHITE FLORETTE", "BLACK FLORETTE",
   "WHITE FLORETTE", "EIGHT PETALLED OUTLINED BLACK FLORETTE",
   "CIRCLED OPEN CENTRE EIGHT POINTED STAR", "HEAVY TEARDROP-SPOKED PINWHEEL ASTERISK", "SNOWFLAKE",
   "TIGHT TRIFOLIATE SNOWFLAKE", "HEAVY CHEVRON SNOWFLAKE", "SPARKLE", "HEAVY SPARKLE",
   "BALLOON-SPOKED ASTERISK", "EIGHT TEARDROP-SPOKED PROPELLER ASTERISK",
   "HEAVY EIGHT TEARDROP-SPOKED PROPELLER ASTERISK", "CROSS MARK", "SHADOWED WHITE CIRCLE",
   "NEGATIVE SQUARED CROSS MARK", "LOWER RIGHT DROP-SHADOWED WHITE SQUARE",
   "UPPER RIGHT DROP-SHADOWED WHITE SQUARE", "LOWER RIGHT SHADOWED WHITE SQUARE",
   "UPPER RIGHT SHADOWED WHITE SQUARE", "BLACK QUESTION MARK ORNAMENT",
   "WHITE QUESTION MARK ORNAMENT", "WHITE EXCLAMATION MARK ORNAMENT", "BLACK DIAMOND MINUS WHITE X",
   "HEAVY EXCLAMATION MARK SYMBOL", "LIGHT VERTICAL BAR", "MEDIUM VERTICAL BAR",
   "HEAVY VERTICAL BAR", "HEAVY SINGLE TURNED COMMA QUOTATION MARK ORNAMENT",
   "HEAVY SINGLE COMMA QUOTATION MARK ORNAMENT",
   "HEAVY DOUBLE TURNED COMMA QUOTATION MARK ORNAMENT",
   "HEAVY DOUBLE COMMA QUOTATION MARK ORNAMENT", "HEAVY LOW SINGLE COMMA QUOTATION MARK ORNAMENT",
   "HEAVY LOW DOUBLE COMMA QUOTATION MARK ORNAMENT", "CURVED STEM PARAGRAPH SIGN ORNAMENT",
   "HEAVY EXCLAMATION MARK ORNAMENT", "HEAVY HEART EXCLAMATION MARK ORNAMENT", "HEAVY BLACK HEART",
   "ROTATED HEAVY BLACK HEART BULLET", "FLORAL HEART", "ROTATED FLORAL HEART BULLET",
   "MEDIUM LEFT PARENTHESIS ORNAMENT", "MEDIUM RIGHT PARENTHESIS ORNAMENT",
   "MEDIUM FLATTENED LEFT PARENTHESIS ORNAMENT", "MEDIUM FLATTENED RIGHT PARENTHESIS ORNAMENT",
   "MEDIUM LEFT-POINTING ANGLE BRACKET ORNAMENT", "MEDIUM RIGHT-POINTING ANGLE BRACKET ORNAMENT",
   "HEAVY LEFT-POINTING ANGLE QUOTATION MARK ORNAMENT",
   "HEAVY RIGHT-POINTING ANGLE QUOTATION MARK ORNAMENT",
   "HEAVY LEFT-POINTING ANGLE BRACKET ORNAMENT", "HEAVY RIGHT-POINTING ANGLE BRACKET ORNAMENT",
   "LIGHT LEFT TORTOISE SHELL BRACKET ORNAMENT", "LIGHT RIGHT TORTOISE SHELL BRACKET ORNAMENT",
   "MEDIUM LEFT CURLY BRACKET ORNAMENT", "MEDIUM RIGHT CURLY BRACKET ORNAMENT",
   "DINGBAT NEGATIVE CIRCLED DIGIT ONE", "DINGBAT NEGATIVE CIRCLED DIGIT TWO",
   "DINGBAT NEGATIVE CIRCLED DIGIT THREE", "DINGBAT NEGATIVE CIRCLED DIGIT FOUR",
   "DINGBAT NEGATIVE CIRCLED DIGIT FIVE", "DINGBAT NEGATIVE CIRCLED DIGIT SIX",
   "DINGBAT NEGATIVE CIRCLED DIGIT SEVEN", "DINGBAT NEGATIVE CIRCLED DIGIT EIGHT",
   "DINGBAT NEGATIVE CIRCLED DIGIT NINE", "DINGBAT NEGATIVE CIRCLED NUMBER TEN",
   "DINGBAT CIRCLED SANS-SERIF DIGIT ONE", "DINGBAT CIRCLED SANS-SERIF DIGIT TWO",
   "DINGBAT CIRCLED SANS-SERIF DIGIT THREE", "DINGBAT CIRCLED SANS-SERIF DIGIT FOUR",
   "DINGBAT CIRCLED SANS-SERIF DIGIT FIVE", "DINGBAT CIRCLED SANS-SERIF DIGIT SIX",
   "DINGBAT CIRCLED SANS-SERIF DIGIT SEVEN", "DINGBAT CIRCLED SANS-SERIF DIGIT EIGHT",
   "DINGBAT CIRCLED SANS-SERIF DIGIT NINE", "DINGBAT CIRCLED SANS-SERIF NUMBER TEN",
   "DINGBAT NEGATIVE CIRCLED SANS-SERIF DIGIT ONE", "DINGBAT NEGATIVE CIRCLED SANS-SERIF DIGIT TWO",
   "DINGBAT NEGATIVE CIRCLED SANS-SERIF DIGIT THREE",
   "DINGBAT NEGATIVE CIRCLED SANS-SERIF DIGIT FOUR",
   "DINGBAT NEGATIVE CIRCLED SANS-SERIF DIGIT FIVE",
   "DINGBAT NEGATIVE CIRCLED SANS-SERIF DIGIT SIX",
   "DINGBAT NEGATIVE CIRCLED SANS-SERIF DIGIT SEVEN",
   "DINGBAT NEGATIVE CIRCLED SANS-SERIF DIGIT EIGHT",
   "DINGBAT NEGATIVE CIRCLED SANS-SERIF DIGIT NINE",
   "DINGBAT NEGATIVE CIRCLED SANS-SERIF NUMBER TEN", "HEAVY WIDE-HEADED RIGHTWARDS ARROW",
   "HEAVY PLUS SIGN", "HEAVY MINUS SIGN", "HEAVY DIVISION SIGN", "HEAVY SOUTH EAST ARROW",
   "HEAVY RIGHTWARDS ARROW", "HEAVY NORTH EAST ARROW", "DRAFTING POINT RIGHTWARDS ARROW",
   "HEAVY ROUND-TIPPED RIGHTWARDS ARROW", "TRIANGLE-HEADED RIGHTWARDS ARROW",
   "HEAVY TRIANGLE-HEADED RIGHTWARDS ARROW", "DASHED TRIANGLE-HEADED RIGHTWARDS ARROW",
   "HEAVY DASHED TRIANGLE-HEADED RIGHTWARDS ARROW", "BLACK RIGHTWARDS ARROW",
   "THREE-D TOP-LIGHTED RIGHTWARDS ARROWHEAD", "THREE-D BOTTOM-LIGHTED RIGHTWARDS ARROWHEAD",
   "BLACK RIGHTWARDS ARROWHEAD", "HEAVY BLACK CURVED DOWNWARDS AND RIGHTWARDS ARROW",
   "HEAVY BLACK CURVED UPWARDS AND RIGHTWARDS ARROW", "SQUAT BLACK RIGHTWARDS ARROW",
   "HEAVY CONCAVE-POINTED BLACK RIGHTWARDS ARROW", "RIGHT-SHADED WHITE RIGHTWARDS ARROW",
   "LEFT-SHADED WHITE RIGHTWARDS ARROW", "BACK-TILTED SHADOWED WHITE RIGHTWARDS ARROW",
   "FRONT-TILTED SHADOWED WHITE RIGHTWARDS ARROW",
   "HEAVY LOWER RIGHT-SHADOWED WHITE RIGHTWARDS ARROW",
   "HEAVY UPPER RIGHT-SHADOWED WHITE RIGHTWARDS ARROW",
   "NOTCHED LOWER RIGHT-SHADOWED WHITE RIGHTWARDS ARROW", "CURLY LOOP",
   "NOTCHED UPPER RIGHT-SHADOWED WHITE RIGHTWARDS ARROW", "CIRCLED HEAVY WHITE RIGHTWARDS ARROW",
   "WHITE-FEATHERED RIGHTWARDS ARROW", "BLACK-FEATHERED SOUTH EAST ARROW",
   "BLACK-FEATHERED RIGHTWARDS ARROW", "BLACK-FEATHERED NORTH EAST ARROW",
   "HEAVY BLACK-FEATHERED SOUTH EAST ARROW", "HEAVY BLACK-FEATHERED RIGHTWARDS ARROW",
   "HEAVY BLACK-FEATHERED NORTH EAST ARROW", "TEARDROP-BARBED RIGHTWARDS ARROW",
   "HEAVY TEARDROP-SHANKED RIGHTWARDS ARROW", "WEDGE-TAILED RIGHTWARDS ARROW",
   "HEAVY WEDGE-TAILED RIGHTWARDS ARROW", "OPEN-OUTLINED RIGHTWARDS ARROW", "DOUBLE CURLY LOOP"]

/-- The names of faces and gestures, from U+1F600 on. -/
def faceNames : List String :=
  ["GRINNING FACE", "GRINNING FACE WITH SMILING EYES", "FACE WITH TEARS OF JOY",
   "SMILING FACE WITH OPEN MOUTH", "SMILING FACE WITH OPEN MOUTH AND SMILING EYES",
   "SMILING FACE WITH OPEN MOUTH AND COLD SWEAT",
   "SMILING FACE WITH OPEN MOUTH AND TIGHTLY-CLOSED EYES", "SMILING FACE WITH HALO",
   "SMILING FACE WITH HORNS", "WINKING FACE", "SMILING FACE WITH SMILING EYES",
   "FACE SAVOURING DELICIOUS FOOD", "RELIEVED FACE", "SMILING FACE WITH HEART-SHAPED EYES",
   "SMILING FACE WITH SUNGLASSES", "SMIRKING FACE", "NEUTRAL FACE", "EXPRESSIONLESS FACE",
   "UNAMUSED FACE", "FACE WITH COLD SWEAT", "PENSIVE FACE", "CONFUSED FACE", "CONFOUNDED FACE",
   "KISSING FACE", "FACE THROWING A KISS", "KISSING FACE WITH SMILING EYES",
   "KISSING FACE WITH CLOSED EYES", "FACE WITH STUCK-OUT TONGUE",
   "FACE WITH STUCK-OUT TONGUE AND WINKING EYE",
   "FACE WITH STUCK-OUT TONGUE AND TIGHTLY-CLOSED EYES", "DISAPPOINTED FACE", "WORRIED FACE",
   "ANGRY FACE", "POUTING FACE", "CRYING FACE", "PERSEVERING FACE", "FACE WITH LOOK OF TRIUMPH",
   "DISAPPOINTED BUT RELIEVED FACE", "FROWNING FACE WITH OPEN MOUTH", "ANGUISHED FACE",
   "FEARFUL FACE", "WEARY FACE", "SLEEPY FACE", "TIRED FACE", "GRIMACING FACE",
   "LOUDLY CRYING FACE", "FACE WITH OPEN MOUTH", "HUSHED FACE",
   "FACE WITH OPEN MOUTH AND COLD SWEAT", "FACE SCREAMING IN FEAR", "ASTONISHED FACE",
   "FLUSHED FACE", "SLEEPING FACE", "DIZZY FACE", "FACE WITHOUT MOUTH", "FACE WITH MEDICAL MASK",
   "GRINNING CAT FACE WITH SMILING EYES", "CAT FACE WITH TEARS OF JOY",
   "SMILING CAT FACE WITH OPEN MOUTH", "SMILING CAT FACE WITH HEART-SHAPED EYES",
   "CAT FACE WITH WRY SMILE", "KISSING CAT FACE WITH CLOSED EYES", "POUTING CAT FACE",
   "CRYING CAT FACE", "WEARY CAT FACE", "SLIGHTLY FROWNING FACE", "SLIGHTLY SMILING FACE",
   "UPSIDE-DOWN FACE", "FACE WITH ROLLING EYES", "FACE WITH NO GOOD GESTURE",
   "FACE WITH OK GESTURE", "PERSON BOWING DEEPLY", "SEE-NO-EVIL MONKEY", "HEAR-NO-EVIL MONKEY",
   "SPEAK-NO-EVIL MONKEY", "HAPPY PERSON RAISING ONE HAND",
   "PERSON RAISING BOTH HANDS IN CELEBRATION", "PERSON FROWNING", "PERSON WITH POUTING FACE",
   "PERSON WITH FOLDED HANDS"]

/-- Stretches of named code points: the first code point of each and the names from there on. A code
    point without a name has an empty one. -/
def namedStretches : List (Nat × List String) :=
  [(0x20, basicLatinNames),
   (0xA0, latinNames),
   (0x370, greekNames),
   (0x400, cyrillicNames),
   (0x2000, punctuationNames),
   (0x20A0, currencyNames),
   (0x2100, letterlikeNames),
   (0x2190, arrowNames),
   (0x2200, operatorNames),
   (0x25A0, shapeNames),
   (0x2600, symbolNames),
   (0x2700, dingbatNames),
   (0x1F600, faceNames)]

/-- Single names and aliases. -/
def singleNames : List (Nat × String) :=
  [(0x0, "NULL"), (0x0, "NUL"), (0x1, "START OF HEADING"), (0x1, "SOH"), (0x2, "START OF TEXT"),
   (0x2, "STX"), (0x3, "END OF TEXT"), (0x3, "ETX"), (0x4, "END OF TRANSMISSION"), (0x4, "EOT"),
   (0x5, "ENQUIRY"), (0x5, "ENQ"), (0x6, "ACKNOWLEDGE"), (0x6, "ACK"), (0x7, "ALERT"), (0x7, "BEL"),
   (0x8, "BACKSPACE"), (0x8, "BS"), (0x9, "CHARACTER TABULATION"), (0x9, "HORIZONTAL TABULATION"),
   (0x9, "HT"), (0x9, "TAB"), (0xA, "LINE FEED"), (0xA, "NEW LINE"), (0xA, "END OF LINE"),
   (0xA, "LF"), (0xA, "NL"), (0xA, "EOL"), (0xB, "LINE TABULATION"), (0xB, "VERTICAL TABULATION"),
   (0xB, "VT"), (0xC, "FORM FEED"), (0xC, "FF"), (0xD, "CARRIAGE RETURN"), (0xD, "CR"),
   (0xE, "SHIFT OUT"), (0xE, "LOCKING-SHIFT ONE"), (0xE, "SO"), (0xF, "SHIFT IN"),
   (0xF, "LOCKING-SHIFT ZERO"), (0xF, "SI"), (0x10, "DATA LINK ESCAPE"), (0x10, "DLE"),
   (0x11, "DEVICE CONTROL ONE"), (0x11, "DC1"), (0x12, "DEVICE CONTROL TWO"), (0x12, "DC2"),
   (0x13, "DEVICE CONTROL THREE"), (0x13, "DC3"), (0x14, "DEVICE CONTROL FOUR"), (0x14, "DC4"),
   (0x15, "NEGATIVE ACKNOWLEDGE"), (0x15, "NAK"), (0x16, "SYNCHRONOUS IDLE"), (0x16, "SYN"),
   (0x17, "END OF TRANSMISSION BLOCK"), (0x17, "ETB"), (0x18, "CANCEL"), (0x18, "CAN"),
   (0x19, "END OF MEDIUM"), (0x19, "EOM"), (0x1A, "SUBSTITUTE"), (0x1A, "SUB"), (0x1B, "ESCAPE"),
   (0x1B, "ESC"), (0x1C, "INFORMATION SEPARATOR FOUR"), (0x1C, "FILE SEPARATOR"), (0x1C, "FS"),
   (0x1D, "INFORMATION SEPARATOR THREE"), (0x1D, "GROUP SEPARATOR"), (0x1D, "GS"),
   (0x1E, "INFORMATION SEPARATOR TWO"), (0x1E, "RECORD SEPARATOR"), (0x1E, "RS"),
   (0x1F, "INFORMATION SEPARATOR ONE"), (0x1F, "UNIT SEPARATOR"), (0x1F, "US"), (0x20, "SP"),
   (0x7F, "DELETE"), (0x7F, "DEL"), (0x80, "PADDING CHARACTER"), (0x80, "PAD"),
   (0x81, "HIGH OCTET PRESET"), (0x81, "HOP"), (0x82, "BREAK PERMITTED HERE"), (0x82, "BPH"),
   (0x83, "NO BREAK HERE"), (0x83, "NBH"), (0x84, "INDEX"), (0x84, "IND"), (0x85, "NEXT LINE"),
   (0x85, "NEL"), (0x86, "START OF SELECTED AREA"), (0x86, "SSA"), (0x87, "END OF SELECTED AREA"),
   (0x87, "ESA"), (0x88, "CHARACTER TABULATION SET"), (0x88, "HORIZONTAL TABULATION SET"),
   (0x88, "HTS"), (0x89, "CHARACTER TABULATION WITH JUSTIFICATION"),
   (0x89, "HORIZONTAL TABULATION WITH JUSTIFICATION"), (0x89, "HTJ"), (0x8A, "LINE TABULATION SET"),
   (0x8A, "VERTICAL TABULATION SET"), (0x8A, "VTS"), (0x8B, "PARTIAL LINE FORWARD"),
   (0x8B, "PARTIAL LINE DOWN"), (0x8B, "PLD"), (0x8C, "PARTIAL LINE BACKWARD"),
   (0x8C, "PARTIAL LINE UP"), (0x8C, "PLU"), (0x8D, "REVERSE LINE FEED"), (0x8D, "REVERSE INDEX"),
   (0x8D, "RI"), (0x8E, "SINGLE SHIFT TWO"), (0x8E, "SINGLE-SHIFT-2"), (0x8E, "SS2"),
   (0x8F, "SINGLE SHIFT THREE"), (0x8F, "SINGLE-SHIFT-3"), (0x8F, "SS3"),
   (0x90, "DEVICE CONTROL STRING"), (0x90, "DCS"), (0x91, "PRIVATE USE ONE"),
   (0x91, "PRIVATE USE-1"), (0x91, "PU1"), (0x92, "PRIVATE USE TWO"), (0x92, "PRIVATE USE-2"),
   (0x92, "PU2"), (0x93, "SET TRANSMIT STATE"), (0x93, "STS"), (0x94, "CANCEL CHARACTER"),
   (0x94, "CCH"), (0x95, "MESSAGE WAITING"), (0x95, "MW"), (0x96, "START OF GUARDED AREA"),
   (0x96, "START OF PROTECTED AREA"), (0x96, "SPA"), (0x97, "END OF GUARDED AREA"),
   (0x97, "END OF PROTECTED AREA"), (0x97, "EPA"), (0x98, "START OF STRING"), (0x98, "SOS"),
   (0x99, "SINGLE GRAPHIC CHARACTER INTRODUCER"), (0x99, "SGC"),
   (0x9A, "SINGLE CHARACTER INTRODUCER"), (0x9A, "SCI"), (0x9B, "CONTROL SEQUENCE INTRODUCER"),
   (0x9B, "CSI"), (0x9C, "STRING TERMINATOR"), (0x9C, "ST"), (0x9D, "OPERATING SYSTEM COMMAND"),
   (0x9D, "OSC"), (0x9E, "PRIVACY MESSAGE"), (0x9E, "PM"), (0x9F, "APPLICATION PROGRAM COMMAND"),
   (0x9F, "APC"), (0xA0, "NBSP"), (0xAD, "SHY"), (0x300, "COMBINING GRAVE ACCENT"),
   (0x301, "COMBINING ACUTE ACCENT"), (0x302, "COMBINING CIRCUMFLEX ACCENT"),
   (0x303, "COMBINING TILDE"), (0x304, "COMBINING MACRON"), (0x308, "COMBINING DIAERESIS"),
   (0x327, "COMBINING CEDILLA"), (0x34F, "COMBINING GRAPHEME JOINER"), (0x34F, "CGJ"),
   (0x5D0, "HEBREW LETTER ALEF"), (0x61C, "ALM"), (0x61C, "ARABIC LETTER MARK"),
   (0x627, "ARABIC LETTER ALEF"), (0x660, "ARABIC-INDIC DIGIT ZERO"),
   (0x661, "ARABIC-INDIC DIGIT ONE"), (0x966, "DEVANAGARI DIGIT ZERO"),
   (0x967, "DEVANAGARI DIGIT ONE"), (0x1680, "OGHAM SPACE MARK"),
   (0x180E, "MONGOLIAN VOWEL SEPARATOR"), (0x1E9E, "LATIN CAPITAL LETTER SHARP S"),
   (0x200B, "ZWSP"), (0x200C, "ZWNJ"), (0x200D, "ZWJ"), (0x200E, "LRM"), (0x200F, "RLM"),
   (0x202A, "LRE"), (0x202B, "RLE"), (0x202C, "PDF"), (0x202D, "LRO"), (0x202E, "RLO"),
   (0x202F, "NNBSP"), (0x205F, "MMSP"), (0x2060, "WJ"), (0x2066, "LRI"), (0x2067, "RLI"),
   (0x2068, "FSI"), (0x2069, "PDI"), (0x2118, "WEIERSTRASS ELLIPTIC FUNCTION"),
   (0x2B50, "WHITE MEDIUM STAR"), (0x3000, "IDEOGRAPHIC SPACE"), (0x3042, "HIRAGANA LETTER A"),
   (0x30A2, "KATAKANA LETTER A"), (0xFE0E, "VARIATION SELECTOR-15"), (0xFE0E, "VS15"),
   (0xFE0F, "VARIATION SELECTOR-16"), (0xFE0F, "VS16"), (0xFEFF, "ZERO WIDTH NO-BREAK SPACE"),
   (0xFEFF, "BYTE ORDER MARK"), (0xFEFF, "BOM"), (0xFEFF, "ZWNBSP"),
   (0xFF10, "FULLWIDTH DIGIT ZERO"), (0xFF11, "FULLWIDTH DIGIT ONE"),
   (0xFF21, "FULLWIDTH LATIN CAPITAL LETTER A"), (0xFF41, "FULLWIDTH LATIN SMALL LETTER A"),
   (0xFFFC, "OBJECT REPLACEMENT CHARACTER"), (0xFFFD, "REPLACEMENT CHARACTER"),
   (0x1F389, "PARTY POPPER"), (0x1F44D, "THUMBS UP SIGN"), (0x1F514, "BELL"), (0x1F525, "FIRE"),
   (0x1F680, "ROCKET")]

end MarkupCleaner.Unicode
