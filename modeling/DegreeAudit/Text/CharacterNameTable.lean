namespace DegreeAudit
namespace Text

/-!
The names of the characters of Latin, Greek and Cyrillic script, of punctuation, currency signs,
letterlike symbols and number forms, after version 14 of the Unicode character database. Characters
without a name of their own are known by further names.
-/

/-- The names of consecutive characters from a code point on; the empty name is none. -/
def nameRuns : List (Nat × List String) :=
  [
    (0x20, [
      "SPACE", "EXCLAMATION MARK", "QUOTATION MARK", "NUMBER SIGN", "DOLLAR SIGN", "PERCENT SIGN",
      "AMPERSAND", "APOSTROPHE", "LEFT PARENTHESIS", "RIGHT PARENTHESIS", "ASTERISK", "PLUS SIGN",
      "COMMA", "HYPHEN-MINUS", "FULL STOP", "SOLIDUS", "DIGIT ZERO", "DIGIT ONE", "DIGIT TWO",
      "DIGIT THREE", "DIGIT FOUR", "DIGIT FIVE", "DIGIT SIX", "DIGIT SEVEN", "DIGIT EIGHT",
      "DIGIT NINE", "COLON", "SEMICOLON", "LESS-THAN SIGN", "EQUALS SIGN", "GREATER-THAN SIGN",
      "QUESTION MARK", "COMMERCIAL AT", "LATIN CAPITAL LETTER A", "LATIN CAPITAL LETTER B",
      "LATIN CAPITAL LETTER C", "LATIN CAPITAL LETTER D", "LATIN CAPITAL LETTER E",
      "LATIN CAPITAL LETTER F", "LATIN CAPITAL LETTER G", "LATIN CAPITAL LETTER H",
      "LATIN CAPITAL LETTER I", "LATIN CAPITAL LETTER J", "LATIN CAPITAL LETTER K",
      "LATIN CAPITAL LETTER L", "LATIN CAPITAL LETTER M", "LATIN CAPITAL LETTER N",
      "LATIN CAPITAL LETTER O", "LATIN CAPITAL LETTER P", "LATIN CAPITAL LETTER Q",
      "LATIN CAPITAL LETTER R", "LATIN CAPITAL LETTER S", "LATIN CAPITAL LETTER T",
      "LATIN CAPITAL LETTER U", "LATIN CAPITAL LETTER V", "LATIN CAPITAL LETTER W",
      "LATIN CAPITAL LETTER X", "LATIN CAPITAL LETTER Y", "LATIN CAPITAL LETTER Z",
      "LEFT SQUARE BRACKET", "REVERSE SOLIDUS", "RIGHT SQUARE BRACKET", "CIRCUMFLEX ACCENT",
      "LOW LINE", "GRAVE ACCENT", "LATIN SMALL LETTER A", "LATIN SMALL LETTER B",
      "LATIN SMALL LETTER C", "LATIN SMALL LETTER D", "LATIN SMALL LETTER E",
      "LATIN SMALL LETTER F", "LATIN SMALL LETTER G", "LATIN SMALL LETTER H",
      "LATIN SMALL LETTER I", "LATIN SMALL LETTER J", "LATIN SMALL LETTER K",
      "LATIN SMALL LETTER L", "LATIN SMALL LETTER M", "LATIN SMALL LETTER N",
      "LATIN SMALL LETTER O", "LATIN SMALL LETTER P", "LATIN SMALL LETTER Q",
      "LATIN SMALL LETTER R", "LATIN SMALL LETTER S", "LATIN SMALL LETTER T",
      "LATIN SMALL LETTER U", "LATIN SMALL LETTER V", "LATIN SMALL LETTER W",
      "LATIN SMALL LETTER X", "LATIN SMALL LETTER Y", "LATIN SMALL LETTER Z", "LEFT CURLY BRACKET",
      "VERTICAL LINE", "RIGHT CURLY BRACKET", "TILDE"
    ]),
    (0xA0, [
      "NO-BREAK SPACE", "INVERTED EXCLAMATION MARK", "CENT SIGN", "POUND SIGN", "CURRENCY SIGN",
      "YEN SIGN", "BROKEN BAR", "SECTION SIGN", "DIAERESIS", "COPYRIGHT SIGN",
      "FEMININE ORDINAL INDICATOR", "LEFT-POINTING DOUBLE ANGLE QUOTATION MARK", "NOT SIGN",
      "SOFT HYPHEN", "REGISTERED SIGN", "MACRON", "DEGREE SIGN", "PLUS-MINUS SIGN",
      "SUPERSCRIPT TWO", "SUPERSCRIPT THREE", "ACUTE ACCENT", "MICRO SIGN", "PILCROW SIGN",
      "MIDDLE DOT", "CEDILLA", "SUPERSCRIPT ONE", "MASCULINE ORDINAL INDICATOR",
      "RIGHT-POINTING DOUBLE ANGLE QUOTATION MARK", "VULGAR FRACTION ONE QUARTER",
      "VULGAR FRACTION ONE HALF", "VULGAR FRACTION THREE QUARTERS", "INVERTED QUESTION MARK",
      "LATIN CAPITAL LETTER A WITH GRAVE", "LATIN CAPITAL LETTER A WITH ACUTE",
      "LATIN CAPITAL LETTER A WITH CIRCUMFLEX", "LATIN CAPITAL LETTER A WITH TILDE",
      "LATIN CAPITAL LETTER A WITH DIAERESIS", "LATIN CAPITAL LETTER A WITH RING ABOVE",
      "LATIN CAPITAL LETTER AE", "LATIN CAPITAL LETTER C WITH CEDILLA",
      "LATIN CAPITAL LETTER E WITH GRAVE", "LATIN CAPITAL LETTER E WITH ACUTE",
      "LATIN CAPITAL LETTER E WITH CIRCUMFLEX", "LATIN CAPITAL LETTER E WITH DIAERESIS",
      "LATIN CAPITAL LETTER I WITH GRAVE", "LATIN CAPITAL LETTER I WITH ACUTE",
      "LATIN CAPITAL LETTER I WITH CIRCUMFLEX", "LATIN CAPITAL LETTER I WITH DIAERESIS",
      "LATIN CAPITAL LETTER ETH", "LATIN CAPITAL LETTER N WITH TILDE",
      "LATIN CAPITAL LETTER O WITH GRAVE", "LATIN CAPITAL LETTER O WITH ACUTE",
      "LATIN CAPITAL LETTER O WITH CIRCUMFLEX", "LATIN CAPITAL LETTER O WITH TILDE",
      "LATIN CAPITAL LETTER O WITH DIAERESIS", "MULTIPLICATION SIGN",
      "LATIN CAPITAL LETTER O WITH STROKE", "LATIN CAPITAL LETTER U WITH GRAVE",
      "LATIN CAPITAL LETTER U WITH ACUTE", "LATIN CAPITAL LETTER U WITH CIRCUMFLEX",
      "LATIN CAPITAL LETTER U WITH DIAERESIS", "LATIN CAPITAL LETTER Y WITH ACUTE",
      "LATIN CAPITAL LETTER THORN", "LATIN SMALL LETTER SHARP S", "LATIN SMALL LETTER A WITH GRAVE",
      "LATIN SMALL LETTER A WITH ACUTE", "LATIN SMALL LETTER A WITH CIRCUMFLEX",
      "LATIN SMALL LETTER A WITH TILDE", "LATIN SMALL LETTER A WITH DIAERESIS",
      "LATIN SMALL LETTER A WITH RING ABOVE", "LATIN SMALL LETTER AE",
      "LATIN SMALL LETTER C WITH CEDILLA", "LATIN SMALL LETTER E WITH GRAVE",
      "LATIN SMALL LETTER E WITH ACUTE", "LATIN SMALL LETTER E WITH CIRCUMFLEX",
      "LATIN SMALL LETTER E WITH DIAERESIS", "LATIN SMALL LETTER I WITH GRAVE",
      "LATIN SMALL LETTER I WITH ACUTE", "LATIN SMALL LETTER I WITH CIRCUMFLEX",
      "LATIN SMALL LETTER I WITH DIAERESIS", "LATIN SMALL LETTER ETH",
      "LATIN SMALL LETTER N WITH TILDE", "LATIN SMALL LETTER O WITH GRAVE",
      "LATIN SMALL LETTER O WITH ACUTE", "LATIN SMALL LETTER O WITH CIRCUMFLEX",
      "LATIN SMALL LETTER O WITH TILDE", "LATIN SMALL LETTER O WITH DIAERESIS", "DIVISION SIGN",
      "LATIN SMALL LETTER O WITH STROKE", "LATIN SMALL LETTER U WITH GRAVE",
      "LATIN SMALL LETTER U WITH ACUTE", "LATIN SMALL LETTER U WITH CIRCUMFLEX",
      "LATIN SMALL LETTER U WITH DIAERESIS", "LATIN SMALL LETTER Y WITH ACUTE",
      "LATIN SMALL LETTER THORN", "LATIN SMALL LETTER Y WITH DIAERESIS",
      "LATIN CAPITAL LETTER A WITH MACRON", "LATIN SMALL LETTER A WITH MACRON",
      "LATIN CAPITAL LETTER A WITH BREVE", "LATIN SMALL LETTER A WITH BREVE",
      "LATIN CAPITAL LETTER A WITH OGONEK", "LATIN SMALL LETTER A WITH OGONEK",
      "LATIN CAPITAL LETTER C WITH ACUTE", "LATIN SMALL LETTER C WITH ACUTE",
      "LATIN CAPITAL LETTER C WITH CIRCUMFLEX", "LATIN SMALL LETTER C WITH CIRCUMFLEX",
      "LATIN CAPITAL LETTER C WITH DOT ABOVE", "LATIN SMALL LETTER C WITH DOT ABOVE",
      "LATIN CAPITAL LETTER C WITH CARON", "LATIN SMALL LETTER C WITH CARON",
      "LATIN CAPITAL LETTER D WITH CARON", "LATIN SMALL LETTER D WITH CARON",
      "LATIN CAPITAL LETTER D WITH STROKE", "LATIN SMALL LETTER D WITH STROKE",
      "LATIN CAPITAL LETTER E WITH MACRON", "LATIN SMALL LETTER E WITH MACRON",
      "LATIN CAPITAL LETTER E WITH BREVE", "LATIN SMALL LETTER E WITH BREVE",
      "LATIN CAPITAL LETTER E WITH DOT ABOVE", "LATIN SMALL LETTER E WITH DOT ABOVE",
      "LATIN CAPITAL LETTER E WITH OGONEK", "LATIN SMALL LETTER E WITH OGONEK",
      "LATIN CAPITAL LETTER E WITH CARON", "LATIN SMALL LETTER E WITH CARON",
      "LATIN CAPITAL LETTER G WITH CIRCUMFLEX", "LATIN SMALL LETTER G WITH CIRCUMFLEX",
      "LATIN CAPITAL LETTER G WITH BREVE", "LATIN SMALL LETTER G WITH BREVE",
      "LATIN CAPITAL LETTER G WITH DOT ABOVE", "LATIN SMALL LETTER G WITH DOT ABOVE",
      "LATIN CAPITAL LETTER G WITH CEDILLA", "LATIN SMALL LETTER G WITH CEDILLA",
      "LATIN CAPITAL LETTER H WITH CIRCUMFLEX", "LATIN SMALL LETTER H WITH CIRCUMFLEX",
      "LATIN CAPITAL LETTER H WITH STROKE", "LATIN SMALL LETTER H WITH STROKE",
      "LATIN CAPITAL LETTER I WITH TILDE", "LATIN SMALL LETTER I WITH TILDE",
      "LATIN CAPITAL LETTER I WITH MACRON", "LATIN SMALL LETTER I WITH MACRON",
      "LATIN CAPITAL LETTER I WITH BREVE", "LATIN SMALL LETTER I WITH BREVE",
      "LATIN CAPITAL LETTER I WITH OGONEK", "LATIN SMALL LETTER I WITH OGONEK",
      "LATIN CAPITAL LETTER I WITH DOT ABOVE", "LATIN SMALL LETTER DOTLESS I",
      "LATIN CAPITAL LIGATURE IJ", "LATIN SMALL LIGATURE IJ",
      "LATIN CAPITAL LETTER J WITH CIRCUMFLEX", "LATIN SMALL LETTER J WITH CIRCUMFLEX",
      "LATIN CAPITAL LETTER K WITH CEDILLA", "LATIN SMALL LETTER K WITH CEDILLA",
      "LATIN SMALL LETTER KRA", "LATIN CAPITAL LETTER L WITH ACUTE",
      "LATIN SMALL LETTER L WITH ACUTE", "LATIN CAPITAL LETTER L WITH CEDILLA",
      "LATIN SMALL LETTER L WITH CEDILLA", "LATIN CAPITAL LETTER L WITH CARON",
      "LATIN SMALL LETTER L WITH CARON", "LATIN CAPITAL LETTER L WITH MIDDLE DOT",
      "LATIN SMALL LETTER L WITH MIDDLE DOT", "LATIN CAPITAL LETTER L WITH STROKE",
      "LATIN SMALL LETTER L WITH STROKE", "LATIN CAPITAL LETTER N WITH ACUTE",
      "LATIN SMALL LETTER N WITH ACUTE", "LATIN CAPITAL LETTER N WITH CEDILLA",
      "LATIN SMALL LETTER N WITH CEDILLA", "LATIN CAPITAL LETTER N WITH CARON",
      "LATIN SMALL LETTER N WITH CARON", "LATIN SMALL LETTER N PRECEDED BY APOSTROPHE",
      "LATIN CAPITAL LETTER ENG", "LATIN SMALL LETTER ENG", "LATIN CAPITAL LETTER O WITH MACRON",
      "LATIN SMALL LETTER O WITH MACRON", "LATIN CAPITAL LETTER O WITH BREVE",
      "LATIN SMALL LETTER O WITH BREVE", "LATIN CAPITAL LETTER O WITH DOUBLE ACUTE",
      "LATIN SMALL LETTER O WITH DOUBLE ACUTE", "LATIN CAPITAL LIGATURE OE",
      "LATIN SMALL LIGATURE OE", "LATIN CAPITAL LETTER R WITH ACUTE",
      "LATIN SMALL LETTER R WITH ACUTE", "LATIN CAPITAL LETTER R WITH CEDILLA",
      "LATIN SMALL LETTER R WITH CEDILLA", "LATIN CAPITAL LETTER R WITH CARON",
      "LATIN SMALL LETTER R WITH CARON", "LATIN CAPITAL LETTER S WITH ACUTE",
      "LATIN SMALL LETTER S WITH ACUTE", "LATIN CAPITAL LETTER S WITH CIRCUMFLEX",
      "LATIN SMALL LETTER S WITH CIRCUMFLEX", "LATIN CAPITAL LETTER S WITH CEDILLA",
      "LATIN SMALL LETTER S WITH CEDILLA", "LATIN CAPITAL LETTER S WITH CARON",
      "LATIN SMALL LETTER S WITH CARON", "LATIN CAPITAL LETTER T WITH CEDILLA",
      "LATIN SMALL LETTER T WITH CEDILLA", "LATIN CAPITAL LETTER T WITH CARON",
      "LATIN SMALL LETTER T WITH CARON", "LATIN CAPITAL LETTER T WITH STROKE",
      "LATIN SMALL LETTER T WITH STROKE", "LATIN CAPITAL LETTER U WITH TILDE",
      "LATIN SMALL LETTER U WITH TILDE", "LATIN CAPITAL LETTER U WITH MACRON",
      "LATIN SMALL LETTER U WITH MACRON", "LATIN CAPITAL LETTER U WITH BREVE",
      "LATIN SMALL LETTER U WITH BREVE", "LATIN CAPITAL LETTER U WITH RING ABOVE",
      "LATIN SMALL LETTER U WITH RING ABOVE", "LATIN CAPITAL LETTER U WITH DOUBLE ACUTE",
      "LATIN SMALL LETTER U WITH DOUBLE ACUTE", "LATIN CAPITAL LETTER U WITH OGONEK",
      "LATIN SMALL LETTER U WITH OGONEK", "LATIN CAPITAL LETTER W WITH CIRCUMFLEX",
      "LATIN SMALL LETTER W WITH CIRCUMFLEX", "LATIN CAPITAL LETTER Y WITH CIRCUMFLEX",
      "LATIN SMALL LETTER Y WITH CIRCUMFLEX", "LATIN CAPITAL LETTER Y WITH DIAERESIS",
      "LATIN CAPITAL LETTER Z WITH ACUTE", "LATIN SMALL LETTER Z WITH ACUTE",
      "LATIN CAPITAL LETTER Z WITH DOT ABOVE", "LATIN SMALL LETTER Z WITH DOT ABOVE",
      "LATIN CAPITAL LETTER Z WITH CARON", "LATIN SMALL LETTER Z WITH CARON",
      "LATIN SMALL LETTER LONG S"
    ]),
    (0x370, [
      "GREEK CAPITAL LETTER HETA", "GREEK SMALL LETTER HETA", "GREEK CAPITAL LETTER ARCHAIC SAMPI",
      "GREEK SMALL LETTER ARCHAIC SAMPI", "GREEK NUMERAL SIGN", "GREEK LOWER NUMERAL SIGN",
      "GREEK CAPITAL LETTER PAMPHYLIAN DIGAMMA", "GREEK SMALL LETTER PAMPHYLIAN DIGAMMA", "", "",
      "GREEK YPOGEGRAMMENI", "GREEK SMALL REVERSED LUNATE SIGMA SYMBOL",
      "GREEK SMALL DOTTED LUNATE SIGMA SYMBOL", "GREEK SMALL REVERSED DOTTED LUNATE SIGMA SYMBOL",
      "GREEK QUESTION MARK", "GREEK CAPITAL LETTER YOT", "", "", "", "", "GREEK TONOS",
      "GREEK DIALYTIKA TONOS", "GREEK CAPITAL LETTER ALPHA WITH TONOS", "GREEK ANO TELEIA",
      "GREEK CAPITAL LETTER EPSILON WITH TONOS", "GREEK CAPITAL LETTER ETA WITH TONOS",
      "GREEK CAPITAL LETTER IOTA WITH TONOS", "", "GREEK CAPITAL LETTER OMICRON WITH TONOS", "",
      "GREEK CAPITAL LETTER UPSILON WITH TONOS", "GREEK CAPITAL LETTER OMEGA WITH TONOS",
      "GREEK SMALL LETTER IOTA WITH DIALYTIKA AND TONOS", "GREEK CAPITAL LETTER ALPHA",
      "GREEK CAPITAL LETTER BETA", "GREEK CAPITAL LETTER GAMMA", "GREEK CAPITAL LETTER DELTA",
      "GREEK CAPITAL LETTER EPSILON", "GREEK CAPITAL LETTER ZETA", "GREEK CAPITAL LETTER ETA",
      "GREEK CAPITAL LETTER THETA", "GREEK CAPITAL LETTER IOTA", "GREEK CAPITAL LETTER KAPPA",
      "GREEK CAPITAL LETTER LAMDA", "GREEK CAPITAL LETTER MU", "GREEK CAPITAL LETTER NU",
      "GREEK CAPITAL LETTER XI", "GREEK CAPITAL LETTER OMICRON", "GREEK CAPITAL LETTER PI",
      "GREEK CAPITAL LETTER RHO", "", "GREEK CAPITAL LETTER SIGMA", "GREEK CAPITAL LETTER TAU",
      "GREEK CAPITAL LETTER UPSILON", "GREEK CAPITAL LETTER PHI", "GREEK CAPITAL LETTER CHI",
      "GREEK CAPITAL LETTER PSI", "GREEK CAPITAL LETTER OMEGA",
      "GREEK CAPITAL LETTER IOTA WITH DIALYTIKA", "GREEK CAPITAL LETTER UPSILON WITH DIALYTIKA",
      "GREEK SMALL LETTER ALPHA WITH TONOS", "GREEK SMALL LETTER EPSILON WITH TONOS",
      "GREEK SMALL LETTER ETA WITH TONOS", "GREEK SMALL LETTER IOTA WITH TONOS",
      "GREEK SMALL LETTER UPSILON WITH DIALYTIKA AND TONOS", "GREEK SMALL LETTER ALPHA",
      "GREEK SMALL LETTER BETA", "GREEK SMALL LETTER GAMMA", "GREEK SMALL LETTER DELTA",
      "GREEK SMALL LETTER EPSILON", "GREEK SMALL LETTER ZETA", "GREEK SMALL LETTER ETA",
      "GREEK SMALL LETTER THETA", "GREEK SMALL LETTER IOTA", "GREEK SMALL LETTER KAPPA",
      "GREEK SMALL LETTER LAMDA", "GREEK SMALL LETTER MU", "GREEK SMALL LETTER NU",
      "GREEK SMALL LETTER XI", "GREEK SMALL LETTER OMICRON", "GREEK SMALL LETTER PI",
      "GREEK SMALL LETTER RHO", "GREEK SMALL LETTER FINAL SIGMA", "GREEK SMALL LETTER SIGMA",
      "GREEK SMALL LETTER TAU", "GREEK SMALL LETTER UPSILON", "GREEK SMALL LETTER PHI",
      "GREEK SMALL LETTER CHI", "GREEK SMALL LETTER PSI", "GREEK SMALL LETTER OMEGA",
      "GREEK SMALL LETTER IOTA WITH DIALYTIKA", "GREEK SMALL LETTER UPSILON WITH DIALYTIKA",
      "GREEK SMALL LETTER OMICRON WITH TONOS", "GREEK SMALL LETTER UPSILON WITH TONOS",
      "GREEK SMALL LETTER OMEGA WITH TONOS", "GREEK CAPITAL KAI SYMBOL", "GREEK BETA SYMBOL",
      "GREEK THETA SYMBOL", "GREEK UPSILON WITH HOOK SYMBOL",
      "GREEK UPSILON WITH ACUTE AND HOOK SYMBOL", "GREEK UPSILON WITH DIAERESIS AND HOOK SYMBOL",
      "GREEK PHI SYMBOL", "GREEK PI SYMBOL", "GREEK KAI SYMBOL", "GREEK LETTER ARCHAIC KOPPA",
      "GREEK SMALL LETTER ARCHAIC KOPPA", "GREEK LETTER STIGMA", "GREEK SMALL LETTER STIGMA",
      "GREEK LETTER DIGAMMA", "GREEK SMALL LETTER DIGAMMA", "GREEK LETTER KOPPA",
      "GREEK SMALL LETTER KOPPA", "GREEK LETTER SAMPI", "GREEK SMALL LETTER SAMPI",
      "COPTIC CAPITAL LETTER SHEI", "COPTIC SMALL LETTER SHEI", "COPTIC CAPITAL LETTER FEI",
      "COPTIC SMALL LETTER FEI", "COPTIC CAPITAL LETTER KHEI", "COPTIC SMALL LETTER KHEI",
      "COPTIC CAPITAL LETTER HORI", "COPTIC SMALL LETTER HORI", "COPTIC CAPITAL LETTER GANGIA",
      "COPTIC SMALL LETTER GANGIA", "COPTIC CAPITAL LETTER SHIMA", "COPTIC SMALL LETTER SHIMA",
      "COPTIC CAPITAL LETTER DEI", "COPTIC SMALL LETTER DEI", "GREEK KAPPA SYMBOL",
      "GREEK RHO SYMBOL", "GREEK LUNATE SIGMA SYMBOL", "GREEK LETTER YOT",
      "GREEK CAPITAL THETA SYMBOL", "GREEK LUNATE EPSILON SYMBOL",
      "GREEK REVERSED LUNATE EPSILON SYMBOL", "GREEK CAPITAL LETTER SHO", "GREEK SMALL LETTER SHO",
      "GREEK CAPITAL LUNATE SIGMA SYMBOL", "GREEK CAPITAL LETTER SAN", "GREEK SMALL LETTER SAN",
      "GREEK RHO WITH STROKE SYMBOL", "GREEK CAPITAL REVERSED LUNATE SIGMA SYMBOL",
      "GREEK CAPITAL DOTTED LUNATE SIGMA SYMBOL",
      "GREEK CAPITAL REVERSED DOTTED LUNATE SIGMA SYMBOL"
    ]),
    (0x400, [
      "CYRILLIC CAPITAL LETTER IE WITH GRAVE", "CYRILLIC CAPITAL LETTER IO",
      "CYRILLIC CAPITAL LETTER DJE", "CYRILLIC CAPITAL LETTER GJE",
      "CYRILLIC CAPITAL LETTER UKRAINIAN IE", "CYRILLIC CAPITAL LETTER DZE",
      "CYRILLIC CAPITAL LETTER BYELORUSSIAN-UKRAINIAN I", "CYRILLIC CAPITAL LETTER YI",
      "CYRILLIC CAPITAL LETTER JE", "CYRILLIC CAPITAL LETTER LJE", "CYRILLIC CAPITAL LETTER NJE",
      "CYRILLIC CAPITAL LETTER TSHE", "CYRILLIC CAPITAL LETTER KJE",
      "CYRILLIC CAPITAL LETTER I WITH GRAVE", "CYRILLIC CAPITAL LETTER SHORT U",
      "CYRILLIC CAPITAL LETTER DZHE", "CYRILLIC CAPITAL LETTER A", "CYRILLIC CAPITAL LETTER BE",
      "CYRILLIC CAPITAL LETTER VE", "CYRILLIC CAPITAL LETTER GHE", "CYRILLIC CAPITAL LETTER DE",
      "CYRILLIC CAPITAL LETTER IE", "CYRILLIC CAPITAL LETTER ZHE", "CYRILLIC CAPITAL LETTER ZE",
      "CYRILLIC CAPITAL LETTER I", "CYRILLIC CAPITAL LETTER SHORT I", "CYRILLIC CAPITAL LETTER KA",
      "CYRILLIC CAPITAL LETTER EL", "CYRILLIC CAPITAL LETTER EM", "CYRILLIC CAPITAL LETTER EN",
      "CYRILLIC CAPITAL LETTER O", "CYRILLIC CAPITAL LETTER PE", "CYRILLIC CAPITAL LETTER ER",
      "CYRILLIC CAPITAL LETTER ES", "CYRILLIC CAPITAL LETTER TE", "CYRILLIC CAPITAL LETTER U",
      "CYRILLIC CAPITAL LETTER EF", "CYRILLIC CAPITAL LETTER HA", "CYRILLIC CAPITAL LETTER TSE",
      "CYRILLIC CAPITAL LETTER CHE", "CYRILLIC CAPITAL LETTER SHA", "CYRILLIC CAPITAL LETTER SHCHA",
      "CYRILLIC CAPITAL LETTER HARD SIGN", "CYRILLIC CAPITAL LETTER YERU",
      "CYRILLIC CAPITAL LETTER SOFT SIGN", "CYRILLIC CAPITAL LETTER E",
      "CYRILLIC CAPITAL LETTER YU", "CYRILLIC CAPITAL LETTER YA", "CYRILLIC SMALL LETTER A",
      "CYRILLIC SMALL LETTER BE", "CYRILLIC SMALL LETTER VE", "CYRILLIC SMALL LETTER GHE",
      "CYRILLIC SMALL LETTER DE", "CYRILLIC SMALL LETTER IE", "CYRILLIC SMALL LETTER ZHE",
      "CYRILLIC SMALL LETTER ZE", "CYRILLIC SMALL LETTER I", "CYRILLIC SMALL LETTER SHORT I",
      "CYRILLIC SMALL LETTER KA", "CYRILLIC SMALL LETTER EL", "CYRILLIC SMALL LETTER EM",
      "CYRILLIC SMALL LETTER EN", "CYRILLIC SMALL LETTER O", "CYRILLIC SMALL LETTER PE",
      "CYRILLIC SMALL LETTER ER", "CYRILLIC SMALL LETTER ES", "CYRILLIC SMALL LETTER TE",
      "CYRILLIC SMALL LETTER U", "CYRILLIC SMALL LETTER EF", "CYRILLIC SMALL LETTER HA",
      "CYRILLIC SMALL LETTER TSE", "CYRILLIC SMALL LETTER CHE", "CYRILLIC SMALL LETTER SHA",
      "CYRILLIC SMALL LETTER SHCHA", "CYRILLIC SMALL LETTER HARD SIGN",
      "CYRILLIC SMALL LETTER YERU", "CYRILLIC SMALL LETTER SOFT SIGN", "CYRILLIC SMALL LETTER E",
      "CYRILLIC SMALL LETTER YU", "CYRILLIC SMALL LETTER YA", "CYRILLIC SMALL LETTER IE WITH GRAVE",
      "CYRILLIC SMALL LETTER IO", "CYRILLIC SMALL LETTER DJE", "CYRILLIC SMALL LETTER GJE",
      "CYRILLIC SMALL LETTER UKRAINIAN IE", "CYRILLIC SMALL LETTER DZE",
      "CYRILLIC SMALL LETTER BYELORUSSIAN-UKRAINIAN I", "CYRILLIC SMALL LETTER YI",
      "CYRILLIC SMALL LETTER JE", "CYRILLIC SMALL LETTER LJE", "CYRILLIC SMALL LETTER NJE",
      "CYRILLIC SMALL LETTER TSHE", "CYRILLIC SMALL LETTER KJE",
      "CYRILLIC SMALL LETTER I WITH GRAVE", "CYRILLIC SMALL LETTER SHORT U",
      "CYRILLIC SMALL LETTER DZHE"
    ]),
    (0x2000, [
      "EN QUAD", "EM QUAD", "EN SPACE", "EM SPACE", "THREE-PER-EM SPACE", "FOUR-PER-EM SPACE",
      "SIX-PER-EM SPACE", "FIGURE SPACE", "PUNCTUATION SPACE", "THIN SPACE", "HAIR SPACE",
      "ZERO WIDTH SPACE", "ZERO WIDTH NON-JOINER", "ZERO WIDTH JOINER", "LEFT-TO-RIGHT MARK",
      "RIGHT-TO-LEFT MARK", "HYPHEN", "NON-BREAKING HYPHEN", "FIGURE DASH", "EN DASH", "EM DASH",
      "HORIZONTAL BAR", "DOUBLE VERTICAL LINE", "DOUBLE LOW LINE", "LEFT SINGLE QUOTATION MARK",
      "RIGHT SINGLE QUOTATION MARK", "SINGLE LOW-9 QUOTATION MARK",
      "SINGLE HIGH-REVERSED-9 QUOTATION MARK", "LEFT DOUBLE QUOTATION MARK",
      "RIGHT DOUBLE QUOTATION MARK", "DOUBLE LOW-9 QUOTATION MARK",
      "DOUBLE HIGH-REVERSED-9 QUOTATION MARK", "DAGGER", "DOUBLE DAGGER", "BULLET",
      "TRIANGULAR BULLET", "ONE DOT LEADER", "TWO DOT LEADER", "HORIZONTAL ELLIPSIS",
      "HYPHENATION POINT", "LINE SEPARATOR", "PARAGRAPH SEPARATOR", "LEFT-TO-RIGHT EMBEDDING",
      "RIGHT-TO-LEFT EMBEDDING", "POP DIRECTIONAL FORMATTING", "LEFT-TO-RIGHT OVERRIDE",
      "RIGHT-TO-LEFT OVERRIDE", "NARROW NO-BREAK SPACE", "PER MILLE SIGN", "PER TEN THOUSAND SIGN",
      "PRIME", "DOUBLE PRIME", "TRIPLE PRIME", "REVERSED PRIME", "REVERSED DOUBLE PRIME",
      "REVERSED TRIPLE PRIME", "CARET", "SINGLE LEFT-POINTING ANGLE QUOTATION MARK",
      "SINGLE RIGHT-POINTING ANGLE QUOTATION MARK", "REFERENCE MARK", "DOUBLE EXCLAMATION MARK",
      "INTERROBANG", "OVERLINE", "UNDERTIE", "CHARACTER TIE", "CARET INSERTION POINT", "ASTERISM",
      "HYPHEN BULLET", "FRACTION SLASH", "LEFT SQUARE BRACKET WITH QUILL",
      "RIGHT SQUARE BRACKET WITH QUILL", "DOUBLE QUESTION MARK", "QUESTION EXCLAMATION MARK",
      "EXCLAMATION QUESTION MARK", "TIRONIAN SIGN ET", "REVERSED PILCROW SIGN",
      "BLACK LEFTWARDS BULLET", "BLACK RIGHTWARDS BULLET", "LOW ASTERISK", "REVERSED SEMICOLON",
      "CLOSE UP", "TWO ASTERISKS ALIGNED VERTICALLY", "COMMERCIAL MINUS SIGN", "SWUNG DASH",
      "INVERTED UNDERTIE", "FLOWER PUNCTUATION MARK", "THREE DOT PUNCTUATION", "QUADRUPLE PRIME",
      "FOUR DOT PUNCTUATION", "FIVE DOT PUNCTUATION", "TWO DOT PUNCTUATION", "FOUR DOT MARK",
      "DOTTED CROSS", "TRICOLON", "VERTICAL FOUR DOTS", "MEDIUM MATHEMATICAL SPACE", "WORD JOINER",
      "FUNCTION APPLICATION", "INVISIBLE TIMES", "INVISIBLE SEPARATOR", "INVISIBLE PLUS", "",
      "LEFT-TO-RIGHT ISOLATE", "RIGHT-TO-LEFT ISOLATE", "FIRST STRONG ISOLATE",
      "POP DIRECTIONAL ISOLATE", "INHIBIT SYMMETRIC SWAPPING", "ACTIVATE SYMMETRIC SWAPPING",
      "INHIBIT ARABIC FORM SHAPING", "ACTIVATE ARABIC FORM SHAPING", "NATIONAL DIGIT SHAPES",
      "NOMINAL DIGIT SHAPES"
    ]),
    (0x2070, [
      "SUPERSCRIPT ZERO", "SUPERSCRIPT LATIN SMALL LETTER I", "", "", "SUPERSCRIPT FOUR",
      "SUPERSCRIPT FIVE", "SUPERSCRIPT SIX", "SUPERSCRIPT SEVEN", "SUPERSCRIPT EIGHT",
      "SUPERSCRIPT NINE", "SUPERSCRIPT PLUS SIGN", "SUPERSCRIPT MINUS", "SUPERSCRIPT EQUALS SIGN",
      "SUPERSCRIPT LEFT PARENTHESIS", "SUPERSCRIPT RIGHT PARENTHESIS",
      "SUPERSCRIPT LATIN SMALL LETTER N", "SUBSCRIPT ZERO", "SUBSCRIPT ONE", "SUBSCRIPT TWO",
      "SUBSCRIPT THREE", "SUBSCRIPT FOUR", "SUBSCRIPT FIVE", "SUBSCRIPT SIX", "SUBSCRIPT SEVEN",
      "SUBSCRIPT EIGHT", "SUBSCRIPT NINE", "SUBSCRIPT PLUS SIGN", "SUBSCRIPT MINUS",
      "SUBSCRIPT EQUALS SIGN", "SUBSCRIPT LEFT PARENTHESIS", "SUBSCRIPT RIGHT PARENTHESIS", "",
      "LATIN SUBSCRIPT SMALL LETTER A", "LATIN SUBSCRIPT SMALL LETTER E",
      "LATIN SUBSCRIPT SMALL LETTER O", "LATIN SUBSCRIPT SMALL LETTER X",
      "LATIN SUBSCRIPT SMALL LETTER SCHWA", "LATIN SUBSCRIPT SMALL LETTER H",
      "LATIN SUBSCRIPT SMALL LETTER K", "LATIN SUBSCRIPT SMALL LETTER L",
      "LATIN SUBSCRIPT SMALL LETTER M", "LATIN SUBSCRIPT SMALL LETTER N",
      "LATIN SUBSCRIPT SMALL LETTER P", "LATIN SUBSCRIPT SMALL LETTER S",
      "LATIN SUBSCRIPT SMALL LETTER T"
    ]),
    (0x20A0, [
      "EURO-CURRENCY SIGN", "COLON SIGN", "CRUZEIRO SIGN", "FRENCH FRANC SIGN", "LIRA SIGN",
      "MILL SIGN", "NAIRA SIGN", "PESETA SIGN", "RUPEE SIGN", "WON SIGN", "NEW SHEQEL SIGN",
      "DONG SIGN", "EURO SIGN", "KIP SIGN", "TUGRIK SIGN", "DRACHMA SIGN", "GERMAN PENNY SIGN",
      "PESO SIGN", "GUARANI SIGN", "AUSTRAL SIGN", "HRYVNIA SIGN", "CEDI SIGN",
      "LIVRE TOURNOIS SIGN", "SPESMILO SIGN", "TENGE SIGN", "INDIAN RUPEE SIGN",
      "TURKISH LIRA SIGN", "NORDIC MARK SIGN", "MANAT SIGN", "RUBLE SIGN", "LARI SIGN",
      "BITCOIN SIGN", "SOM SIGN"
    ]),
    (0x2100, [
      "ACCOUNT OF", "ADDRESSED TO THE SUBJECT", "DOUBLE-STRUCK CAPITAL C", "DEGREE CELSIUS",
      "CENTRE LINE SYMBOL", "CARE OF", "CADA UNA", "EULER CONSTANT", "SCRUPLE", "DEGREE FAHRENHEIT",
      "SCRIPT SMALL G", "SCRIPT CAPITAL H", "BLACK-LETTER CAPITAL H", "DOUBLE-STRUCK CAPITAL H",
      "PLANCK CONSTANT", "PLANCK CONSTANT OVER TWO PI", "SCRIPT CAPITAL I",
      "BLACK-LETTER CAPITAL I", "SCRIPT CAPITAL L", "SCRIPT SMALL L", "L B BAR SYMBOL",
      "DOUBLE-STRUCK CAPITAL N", "NUMERO SIGN", "SOUND RECORDING COPYRIGHT", "SCRIPT CAPITAL P",
      "DOUBLE-STRUCK CAPITAL P", "DOUBLE-STRUCK CAPITAL Q", "SCRIPT CAPITAL R",
      "BLACK-LETTER CAPITAL R", "DOUBLE-STRUCK CAPITAL R", "PRESCRIPTION TAKE", "RESPONSE",
      "SERVICE MARK", "TELEPHONE SIGN", "TRADE MARK SIGN", "VERSICLE", "DOUBLE-STRUCK CAPITAL Z",
      "OUNCE SIGN", "OHM SIGN", "INVERTED OHM SIGN", "BLACK-LETTER CAPITAL Z",
      "TURNED GREEK SMALL LETTER IOTA", "KELVIN SIGN", "ANGSTROM SIGN", "SCRIPT CAPITAL B",
      "BLACK-LETTER CAPITAL C", "ESTIMATED SYMBOL", "SCRIPT SMALL E", "SCRIPT CAPITAL E",
      "SCRIPT CAPITAL F", "TURNED CAPITAL F", "SCRIPT CAPITAL M", "SCRIPT SMALL O", "ALEF SYMBOL",
      "BET SYMBOL", "GIMEL SYMBOL", "DALET SYMBOL", "INFORMATION SOURCE", "ROTATED CAPITAL Q",
      "FACSIMILE SIGN", "DOUBLE-STRUCK SMALL PI", "DOUBLE-STRUCK SMALL GAMMA",
      "DOUBLE-STRUCK CAPITAL GAMMA", "DOUBLE-STRUCK CAPITAL PI", "DOUBLE-STRUCK N-ARY SUMMATION",
      "TURNED SANS-SERIF CAPITAL G", "TURNED SANS-SERIF CAPITAL L", "REVERSED SANS-SERIF CAPITAL L",
      "TURNED SANS-SERIF CAPITAL Y", "DOUBLE-STRUCK ITALIC CAPITAL D",
      "DOUBLE-STRUCK ITALIC SMALL D", "DOUBLE-STRUCK ITALIC SMALL E",
      "DOUBLE-STRUCK ITALIC SMALL I", "DOUBLE-STRUCK ITALIC SMALL J", "PROPERTY LINE",
      "TURNED AMPERSAND", "PER SIGN", "AKTIESELSKAB", "TURNED SMALL F",
      "SYMBOL FOR SAMARITAN SOURCE"
    ]),
    (0x2150, [
      "VULGAR FRACTION ONE SEVENTH", "VULGAR FRACTION ONE NINTH", "VULGAR FRACTION ONE TENTH",
      "VULGAR FRACTION ONE THIRD", "VULGAR FRACTION TWO THIRDS", "VULGAR FRACTION ONE FIFTH",
      "VULGAR FRACTION TWO FIFTHS", "VULGAR FRACTION THREE FIFTHS", "VULGAR FRACTION FOUR FIFTHS",
      "VULGAR FRACTION ONE SIXTH", "VULGAR FRACTION FIVE SIXTHS", "VULGAR FRACTION ONE EIGHTH",
      "VULGAR FRACTION THREE EIGHTHS", "VULGAR FRACTION FIVE EIGHTHS",
      "VULGAR FRACTION SEVEN EIGHTHS", "FRACTION NUMERATOR ONE", "ROMAN NUMERAL ONE",
      "ROMAN NUMERAL TWO", "ROMAN NUMERAL THREE", "ROMAN NUMERAL FOUR", "ROMAN NUMERAL FIVE",
      "ROMAN NUMERAL SIX", "ROMAN NUMERAL SEVEN", "ROMAN NUMERAL EIGHT", "ROMAN NUMERAL NINE",
      "ROMAN NUMERAL TEN", "ROMAN NUMERAL ELEVEN", "ROMAN NUMERAL TWELVE", "ROMAN NUMERAL FIFTY",
      "ROMAN NUMERAL ONE HUNDRED", "ROMAN NUMERAL FIVE HUNDRED", "ROMAN NUMERAL ONE THOUSAND",
      "SMALL ROMAN NUMERAL ONE", "SMALL ROMAN NUMERAL TWO", "SMALL ROMAN NUMERAL THREE",
      "SMALL ROMAN NUMERAL FOUR", "SMALL ROMAN NUMERAL FIVE", "SMALL ROMAN NUMERAL SIX",
      "SMALL ROMAN NUMERAL SEVEN", "SMALL ROMAN NUMERAL EIGHT", "SMALL ROMAN NUMERAL NINE",
      "SMALL ROMAN NUMERAL TEN", "SMALL ROMAN NUMERAL ELEVEN", "SMALL ROMAN NUMERAL TWELVE",
      "SMALL ROMAN NUMERAL FIFTY", "SMALL ROMAN NUMERAL ONE HUNDRED",
      "SMALL ROMAN NUMERAL FIVE HUNDRED", "SMALL ROMAN NUMERAL ONE THOUSAND",
      "ROMAN NUMERAL ONE THOUSAND C D", "ROMAN NUMERAL FIVE THOUSAND", "ROMAN NUMERAL TEN THOUSAND",
      "ROMAN NUMERAL REVERSED ONE HUNDRED", "LATIN SMALL LETTER REVERSED C",
      "ROMAN NUMERAL SIX LATE FORM", "ROMAN NUMERAL FIFTY EARLY FORM",
      "ROMAN NUMERAL FIFTY THOUSAND", "ROMAN NUMERAL ONE HUNDRED THOUSAND",
      "VULGAR FRACTION ZERO THIRDS", "TURNED DIGIT TWO", "TURNED DIGIT THREE"
    ])
  ]

/-- Further names of characters, of controls above all. -/
def furtherNames : List (Nat × String) :=
  [
    (0x0, "NULL"), (0x0, "NUL"), (0x1, "START OF HEADING"), (0x1, "SOH"), (0x2, "START OF TEXT"),
    (0x2, "STX"), (0x3, "END OF TEXT"), (0x3, "ETX"), (0x4, "END OF TRANSMISSION"), (0x4, "EOT"),
    (0x5, "ENQUIRY"), (0x5, "ENQ"), (0x6, "ACKNOWLEDGE"), (0x6, "ACK"), (0x7, "ALERT"),
    (0x7, "BEL"), (0x8, "BACKSPACE"), (0x8, "BS"), (0x9, "CHARACTER TABULATION"),
    (0x9, "HORIZONTAL TABULATION"), (0x9, "HT"), (0x9, "TAB"), (0xA, "LINE FEED"),
    (0xA, "NEW LINE"), (0xA, "END OF LINE"), (0xA, "LF"), (0xA, "NL"), (0xA, "EOL"),
    (0xB, "LINE TABULATION"), (0xB, "VERTICAL TABULATION"), (0xB, "VT"), (0xC, "FORM FEED"),
    (0xC, "FF"), (0xD, "CARRIAGE RETURN"), (0xD, "CR"), (0xE, "SHIFT OUT"),
    (0xE, "LOCKING-SHIFT ONE"), (0xE, "SO"), (0xF, "SHIFT IN"), (0xF, "LOCKING-SHIFT ZERO"),
    (0xF, "SI"), (0x10, "DATA LINK ESCAPE"), (0x10, "DLE"), (0x11, "DEVICE CONTROL ONE"),
    (0x11, "DC1"), (0x12, "DEVICE CONTROL TWO"), (0x12, "DC2"), (0x13, "DEVICE CONTROL THREE"),
    (0x13, "DC3"), (0x14, "DEVICE CONTROL FOUR"), (0x14, "DC4"), (0x15, "NEGATIVE ACKNOWLEDGE"),
    (0x15, "NAK"), (0x16, "SYNCHRONOUS IDLE"), (0x16, "SYN"), (0x17, "END OF TRANSMISSION BLOCK"),
    (0x17, "ETB"), (0x18, "CANCEL"), (0x18, "CAN"), (0x19, "END OF MEDIUM"), (0x19, "EOM"),
    (0x1A, "SUBSTITUTE"), (0x1A, "SUB"), (0x1B, "ESCAPE"), (0x1B, "ESC"),
    (0x1C, "INFORMATION SEPARATOR FOUR"), (0x1C, "FILE SEPARATOR"), (0x1C, "FS"),
    (0x1D, "INFORMATION SEPARATOR THREE"), (0x1D, "GROUP SEPARATOR"), (0x1D, "GS"),
    (0x1E, "INFORMATION SEPARATOR TWO"), (0x1E, "RECORD SEPARATOR"), (0x1E, "RS"),
    (0x1F, "INFORMATION SEPARATOR ONE"), (0x1F, "UNIT SEPARATOR"), (0x1F, "US"), (0x20, "SP"),
    (0x7F, "DELETE"), (0x7F, "DEL"), (0x85, "NEXT LINE"), (0x85, "NEL"), (0xA0, "NBSP"),
    (0xAD, "SHY"), (0x200B, "ZWSP"), (0x200C, "ZWNJ"), (0x200D, "ZWJ"), (0x200E, "LRM"),
    (0x200F, "RLM"), (0x202F, "NNBSP"), (0x205F, "MMSP"), (0x2060, "WJ"),
    (0xFEFF, "BYTE ORDER MARK"), (0xFEFF, "BOM"), (0xFEFF, "ZWNBSP")
  ]

end Text
end DegreeAudit
