import DiagnosticCheck.Text.Basic
import DiagnosticCheck.Text.Unicode.Ranges

/-!
# Character names

The names of Unicode 14.0 and their aliases, and the lookup of a character by name. Two families
are named by rule rather than listed: the unified ideographs, `CJK UNIFIED IDEOGRAPH-` and the code
point in four or five uppercase hexadecimal digits, and the Hangul syllables, `HANGUL SYLLABLE`
and the short names of the syllable's leading consonant, vowel and trailing consonant. Those two
prefixes must be written in capitals; any other name is found whatever the case of its ASCII
letters. A named sequence of several characters names no character.

The listed names are kept in code point order, each written as the length of the part it shares
with the name before it and the rest, which makes the table small and the lookup a single pass:
a line `@` and hexadecimal digits moves to that code point, any other line `k:rest` names the
next code point.
-/

namespace DiagnosticCheck.Text.Unicode

/-- The listed character names, front-coded in code point order. -/
def nameLines : String := "@20
0:SPACE
0:EXCLAMATION MARK
0:QUOTATION MARK
0:NUMBER SIGN
0:DOLLAR SIGN
0:PERCENT SIGN
0:AMPERSAND
1:POSTROPHE
0:LEFT PARENTHESIS
0:RIGHT PARENTHESIS
0:ASTERISK
0:PLUS SIGN
0:COMMA
0:HYPHEN-MINUS
0:FULL STOP
0:SOLIDUS
0:DIGIT ZERO
6:ONE
6:TWO
7:HREE
6:FOUR
7:IVE
6:SIX
7:EVEN
6:EIGHT
6:NINE
0:COLON
0:SEMICOLON
0:LESS-THAN SIGN
0:EQUALS SIGN
0:GREATER-THAN SIGN
0:QUESTION MARK
0:COMMERCIAL AT
0:LATIN CAPITAL LETTER A
21:B
21:C
21:D
21:E
21:F
21:G
21:H
21:I
21:J
21:K
21:L
21:M
21:N
21:O
21:P
21:Q
21:R
21:S
21:T
21:U
21:V
21:W
21:X
21:Y
21:Z
1:EFT SQUARE BRACKET
0:REVERSE SOLIDUS
1:IGHT SQUARE BRACKET
0:CIRCUMFLEX ACCENT
0:LOW LINE
0:GRAVE ACCENT
0:LATIN SMALL LETTER A
19:B
19:C
19:D
19:E
19:F
19:G
19:H
19:I
19:J
19:K
19:L
19:M
19:N
19:O
19:P
19:Q
19:R
19:S
19:T
19:U
19:V
19:W
19:X
19:Y
19:Z
1:EFT CURLY BRACKET
0:VERTICAL LINE
0:RIGHT CURLY BRACKET
0:TILDE
@A0
0:NO-BREAK SPACE
0:INVERTED EXCLAMATION MARK
0:CENT SIGN
0:POUND SIGN
0:CURRENCY SIGN
0:YEN SIGN
0:BROKEN BAR
0:SECTION SIGN
0:DIAERESIS
0:COPYRIGHT SIGN
0:FEMININE ORDINAL INDICATOR
0:LEFT-POINTING DOUBLE ANGLE QUOTATION MARK
0:NOT SIGN
0:SOFT HYPHEN
0:REGISTERED SIGN
0:MACRON
0:DEGREE SIGN
0:PLUS-MINUS SIGN
0:SUPERSCRIPT TWO
13:HREE
0:ACUTE ACCENT
0:MICRO SIGN
0:PILCROW SIGN
0:MIDDLE DOT
0:CEDILLA
0:SUPERSCRIPT ONE
0:MASCULINE ORDINAL INDICATOR
0:RIGHT-POINTING DOUBLE ANGLE QUOTATION MARK
0:VULGAR FRACTION ONE QUARTER
20:HALF
16:THREE QUARTERS
0:INVERTED QUESTION MARK
0:LATIN CAPITAL LETTER A WITH GRAVE
28:ACUTE
28:CIRCUMFLEX
28:TILDE
28:DIAERESIS
28:RING ABOVE
22:E
21:C WITH CEDILLA
21:E WITH GRAVE
28:ACUTE
28:CIRCUMFLEX
28:DIAERESIS
21:I WITH GRAVE
28:ACUTE
28:CIRCUMFLEX
28:DIAERESIS
21:ETH
21:N WITH TILDE
21:O WITH GRAVE
28:ACUTE
28:CIRCUMFLEX
28:TILDE
28:DIAERESIS
0:MULTIPLICATION SIGN
0:LATIN CAPITAL LETTER O WITH STROKE
21:U WITH GRAVE
28:ACUTE
28:CIRCUMFLEX
28:DIAERESIS
21:Y WITH ACUTE
21:THORN
6:SMALL LETTER SHARP S
19:A WITH GRAVE
26:ACUTE
26:CIRCUMFLEX
26:TILDE
26:DIAERESIS
26:RING ABOVE
20:E
19:C WITH CEDILLA
19:E WITH GRAVE
26:ACUTE
26:CIRCUMFLEX
26:DIAERESIS
19:I WITH GRAVE
26:ACUTE
26:CIRCUMFLEX
26:DIAERESIS
19:ETH
19:N WITH TILDE
19:O WITH GRAVE
26:ACUTE
26:CIRCUMFLEX
26:TILDE
26:DIAERESIS
0:DIVISION SIGN
0:LATIN SMALL LETTER O WITH STROKE
19:U WITH GRAVE
26:ACUTE
26:CIRCUMFLEX
26:DIAERESIS
19:Y WITH ACUTE
19:THORN
19:Y WITH DIAERESIS
6:CAPITAL LETTER A WITH MACRON
6:SMALL LETTER A WITH MACRON
6:CAPITAL LETTER A WITH BREVE
6:SMALL LETTER A WITH BREVE
6:CAPITAL LETTER A WITH OGONEK
6:SMALL LETTER A WITH OGONEK
6:CAPITAL LETTER C WITH ACUTE
6:SMALL LETTER C WITH ACUTE
6:CAPITAL LETTER C WITH CIRCUMFLEX
6:SMALL LETTER C WITH CIRCUMFLEX
6:CAPITAL LETTER C WITH DOT ABOVE
6:SMALL LETTER C WITH DOT ABOVE
6:CAPITAL LETTER C WITH CARON
6:SMALL LETTER C WITH CARON
6:CAPITAL LETTER D WITH CARON
6:SMALL LETTER D WITH CARON
6:CAPITAL LETTER D WITH STROKE
6:SMALL LETTER D WITH STROKE
6:CAPITAL LETTER E WITH MACRON
6:SMALL LETTER E WITH MACRON
6:CAPITAL LETTER E WITH BREVE
6:SMALL LETTER E WITH BREVE
6:CAPITAL LETTER E WITH DOT ABOVE
6:SMALL LETTER E WITH DOT ABOVE
6:CAPITAL LETTER E WITH OGONEK
6:SMALL LETTER E WITH OGONEK
6:CAPITAL LETTER E WITH CARON
6:SMALL LETTER E WITH CARON
6:CAPITAL LETTER G WITH CIRCUMFLEX
6:SMALL LETTER G WITH CIRCUMFLEX
6:CAPITAL LETTER G WITH BREVE
6:SMALL LETTER G WITH BREVE
6:CAPITAL LETTER G WITH DOT ABOVE
6:SMALL LETTER G WITH DOT ABOVE
6:CAPITAL LETTER G WITH CEDILLA
6:SMALL LETTER G WITH CEDILLA
6:CAPITAL LETTER H WITH CIRCUMFLEX
6:SMALL LETTER H WITH CIRCUMFLEX
6:CAPITAL LETTER H WITH STROKE
6:SMALL LETTER H WITH STROKE
6:CAPITAL LETTER I WITH TILDE
6:SMALL LETTER I WITH TILDE
6:CAPITAL LETTER I WITH MACRON
6:SMALL LETTER I WITH MACRON
6:CAPITAL LETTER I WITH BREVE
6:SMALL LETTER I WITH BREVE
6:CAPITAL LETTER I WITH OGONEK
6:SMALL LETTER I WITH OGONEK
6:CAPITAL LETTER I WITH DOT ABOVE
6:SMALL LETTER DOTLESS I
6:CAPITAL LIGATURE IJ
6:SMALL LIGATURE IJ
6:CAPITAL LETTER J WITH CIRCUMFLEX
6:SMALL LETTER J WITH CIRCUMFLEX
6:CAPITAL LETTER K WITH CEDILLA
6:SMALL LETTER K WITH CEDILLA
20:RA
6:CAPITAL LETTER L WITH ACUTE
6:SMALL LETTER L WITH ACUTE
6:CAPITAL LETTER L WITH CEDILLA
6:SMALL LETTER L WITH CEDILLA
6:CAPITAL LETTER L WITH CARON
6:SMALL LETTER L WITH CARON
6:CAPITAL LETTER L WITH MIDDLE DOT
6:SMALL LETTER L WITH MIDDLE DOT
6:CAPITAL LETTER L WITH STROKE
6:SMALL LETTER L WITH STROKE
6:CAPITAL LETTER N WITH ACUTE
6:SMALL LETTER N WITH ACUTE
6:CAPITAL LETTER N WITH CEDILLA
6:SMALL LETTER N WITH CEDILLA
6:CAPITAL LETTER N WITH CARON
6:SMALL LETTER N WITH CARON
21:PRECEDED BY APOSTROPHE
6:CAPITAL LETTER ENG
6:SMALL LETTER ENG
6:CAPITAL LETTER O WITH MACRON
6:SMALL LETTER O WITH MACRON
6:CAPITAL LETTER O WITH BREVE
6:SMALL LETTER O WITH BREVE
6:CAPITAL LETTER O WITH DOUBLE ACUTE
6:SMALL LETTER O WITH DOUBLE ACUTE
6:CAPITAL LIGATURE OE
6:SMALL LIGATURE OE
6:CAPITAL LETTER R WITH ACUTE
6:SMALL LETTER R WITH ACUTE
6:CAPITAL LETTER R WITH CEDILLA
6:SMALL LETTER R WITH CEDILLA
6:CAPITAL LETTER R WITH CARON
6:SMALL LETTER R WITH CARON
6:CAPITAL LETTER S WITH ACUTE
6:SMALL LETTER S WITH ACUTE
6:CAPITAL LETTER S WITH CIRCUMFLEX
6:SMALL LETTER S WITH CIRCUMFLEX
6:CAPITAL LETTER S WITH CEDILLA
6:SMALL LETTER S WITH CEDILLA
6:CAPITAL LETTER S WITH CARON
6:SMALL LETTER S WITH CARON
6:CAPITAL LETTER T WITH CEDILLA
6:SMALL LETTER T WITH CEDILLA
6:CAPITAL LETTER T WITH CARON
6:SMALL LETTER T WITH CARON
6:CAPITAL LETTER T WITH STROKE
6:SMALL LETTER T WITH STROKE
6:CAPITAL LETTER U WITH TILDE
6:SMALL LETTER U WITH TILDE
6:CAPITAL LETTER U WITH MACRON
6:SMALL LETTER U WITH MACRON
6:CAPITAL LETTER U WITH BREVE
6:SMALL LETTER U WITH BREVE
6:CAPITAL LETTER U WITH RING ABOVE
6:SMALL LETTER U WITH RING ABOVE
6:CAPITAL LETTER U WITH DOUBLE ACUTE
6:SMALL LETTER U WITH DOUBLE ACUTE
6:CAPITAL LETTER U WITH OGONEK
6:SMALL LETTER U WITH OGONEK
6:CAPITAL LETTER W WITH CIRCUMFLEX
6:SMALL LETTER W WITH CIRCUMFLEX
6:CAPITAL LETTER Y WITH CIRCUMFLEX
6:SMALL LETTER Y WITH CIRCUMFLEX
6:CAPITAL LETTER Y WITH DIAERESIS
21:Z WITH ACUTE
6:SMALL LETTER Z WITH ACUTE
6:CAPITAL LETTER Z WITH DOT ABOVE
6:SMALL LETTER Z WITH DOT ABOVE
6:CAPITAL LETTER Z WITH CARON
6:SMALL LETTER Z WITH CARON
19:LONG S
19:B WITH STROKE
6:CAPITAL LETTER B WITH HOOK
28:TOPBAR
6:SMALL LETTER B WITH TOPBAR
6:CAPITAL LETTER TONE SIX
6:SMALL LETTER TONE SIX
6:CAPITAL LETTER OPEN O
21:C WITH HOOK
6:SMALL LETTER C WITH HOOK
6:CAPITAL LETTER AFRICAN D
21:D WITH HOOK
28:TOPBAR
6:SMALL LETTER D WITH TOPBAR
19:TURNED DELTA
6:CAPITAL LETTER REVERSED E
21:SCHWA
21:OPEN E
21:F WITH HOOK
6:SMALL LETTER F WITH HOOK
6:CAPITAL LETTER G WITH HOOK
22:AMMA
6:SMALL LETTER HV
6:CAPITAL LETTER IOTA
22: WITH STROKE
21:K WITH HOOK
6:SMALL LETTER K WITH HOOK
19:L WITH BAR
20:AMBDA WITH STROKE
6:CAPITAL LETTER TURNED M
21:N WITH LEFT HOOK
6:SMALL LETTER N WITH LONG RIGHT LEG
6:CAPITAL LETTER O WITH MIDDLE TILDE
28:HORN
6:SMALL LETTER O WITH HORN
6:CAPITAL LETTER OI
6:SMALL LETTER OI
6:CAPITAL LETTER P WITH HOOK
6:SMALL LETTER P WITH HOOK
6:LETTER YR
6:CAPITAL LETTER TONE TWO
6:SMALL LETTER TONE TWO
6:CAPITAL LETTER ESH
6:LETTER REVERSED ESH LOOP
6:SMALL LETTER T WITH PALATAL HOOK
6:CAPITAL LETTER T WITH HOOK
6:SMALL LETTER T WITH HOOK
6:CAPITAL LETTER T WITH RETROFLEX HOOK
21:U WITH HORN
6:SMALL LETTER U WITH HORN
6:CAPITAL LETTER UPSILON
21:V WITH HOOK
21:Y WITH HOOK
6:SMALL LETTER Y WITH HOOK
6:CAPITAL LETTER Z WITH STROKE
6:SMALL LETTER Z WITH STROKE
6:CAPITAL LETTER EZH
24: REVERSED
6:SMALL LETTER EZH REVERSED
23:WITH TAIL
6:LETTER TWO WITH STROKE
6:CAPITAL LETTER TONE FIVE
6:SMALL LETTER TONE FIVE
6:LETTER INVERTED GLOTTAL STOP WITH STROKE
13:WYNN
13:DENTAL CLICK
13:LATERAL CLICK
13:ALVEOLAR CLICK
13:RETROFLEX CLICK
6:CAPITAL LETTER DZ WITH CARON
22: WITH SMALL LETTER Z WITH CARON
6:SMALL LETTER DZ WITH CARON
6:CAPITAL LETTER LJ
22: WITH SMALL LETTER J
6:SMALL LETTER LJ
6:CAPITAL LETTER NJ
22: WITH SMALL LETTER J
6:SMALL LETTER NJ
6:CAPITAL LETTER A WITH CARON
6:SMALL LETTER A WITH CARON
6:CAPITAL LETTER I WITH CARON
6:SMALL LETTER I WITH CARON
6:CAPITAL LETTER O WITH CARON
6:SMALL LETTER O WITH CARON
6:CAPITAL LETTER U WITH CARON
6:SMALL LETTER U WITH CARON
6:CAPITAL LETTER U WITH DIAERESIS AND MACRON
6:SMALL LETTER U WITH DIAERESIS AND MACRON
6:CAPITAL LETTER U WITH DIAERESIS AND ACUTE
6:SMALL LETTER U WITH DIAERESIS AND ACUTE
6:CAPITAL LETTER U WITH DIAERESIS AND CARON
6:SMALL LETTER U WITH DIAERESIS AND CARON
6:CAPITAL LETTER U WITH DIAERESIS AND GRAVE
6:SMALL LETTER U WITH DIAERESIS AND GRAVE
19:TURNED E
6:CAPITAL LETTER A WITH DIAERESIS AND MACRON
6:SMALL LETTER A WITH DIAERESIS AND MACRON
6:CAPITAL LETTER A WITH DOT ABOVE AND MACRON
6:SMALL LETTER A WITH DOT ABOVE AND MACRON
6:CAPITAL LETTER AE WITH MACRON
6:SMALL LETTER AE WITH MACRON
6:CAPITAL LETTER G WITH STROKE
6:SMALL LETTER G WITH STROKE
6:CAPITAL LETTER G WITH CARON
6:SMALL LETTER G WITH CARON
6:CAPITAL LETTER K WITH CARON
6:SMALL LETTER K WITH CARON
6:CAPITAL LETTER O WITH OGONEK
6:SMALL LETTER O WITH OGONEK
6:CAPITAL LETTER O WITH OGONEK AND MACRON
6:SMALL LETTER O WITH OGONEK AND MACRON
6:CAPITAL LETTER EZH WITH CARON
6:SMALL LETTER EZH WITH CARON
19:J WITH CARON
6:CAPITAL LETTER DZ
22: WITH SMALL LETTER Z
6:SMALL LETTER DZ
6:CAPITAL LETTER G WITH ACUTE
6:SMALL LETTER G WITH ACUTE
6:CAPITAL LETTER HWAIR
21:WYNN
21:N WITH GRAVE
6:SMALL LETTER N WITH GRAVE
6:CAPITAL LETTER A WITH RING ABOVE AND ACUTE
6:SMALL LETTER A WITH RING ABOVE AND ACUTE
6:CAPITAL LETTER AE WITH ACUTE
6:SMALL LETTER AE WITH ACUTE
6:CAPITAL LETTER O WITH STROKE AND ACUTE
6:SMALL LETTER O WITH STROKE AND ACUTE
6:CAPITAL LETTER A WITH DOUBLE GRAVE
6:SMALL LETTER A WITH DOUBLE GRAVE
6:CAPITAL LETTER A WITH INVERTED BREVE
6:SMALL LETTER A WITH INVERTED BREVE
6:CAPITAL LETTER E WITH DOUBLE GRAVE
6:SMALL LETTER E WITH DOUBLE GRAVE
6:CAPITAL LETTER E WITH INVERTED BREVE
6:SMALL LETTER E WITH INVERTED BREVE
6:CAPITAL LETTER I WITH DOUBLE GRAVE
6:SMALL LETTER I WITH DOUBLE GRAVE
6:CAPITAL LETTER I WITH INVERTED BREVE
6:SMALL LETTER I WITH INVERTED BREVE
6:CAPITAL LETTER O WITH DOUBLE GRAVE
6:SMALL LETTER O WITH DOUBLE GRAVE
6:CAPITAL LETTER O WITH INVERTED BREVE
6:SMALL LETTER O WITH INVERTED BREVE
6:CAPITAL LETTER R WITH DOUBLE GRAVE
6:SMALL LETTER R WITH DOUBLE GRAVE
6:CAPITAL LETTER R WITH INVERTED BREVE
6:SMALL LETTER R WITH INVERTED BREVE
6:CAPITAL LETTER U WITH DOUBLE GRAVE
6:SMALL LETTER U WITH DOUBLE GRAVE
6:CAPITAL LETTER U WITH INVERTED BREVE
6:SMALL LETTER U WITH INVERTED BREVE
6:CAPITAL LETTER S WITH COMMA BELOW
6:SMALL LETTER S WITH COMMA BELOW
6:CAPITAL LETTER T WITH COMMA BELOW
6:SMALL LETTER T WITH COMMA BELOW
6:CAPITAL LETTER YOGH
6:SMALL LETTER YOGH
6:CAPITAL LETTER H WITH CARON
6:SMALL LETTER H WITH CARON
6:CAPITAL LETTER N WITH LONG RIGHT LEG
6:SMALL LETTER D WITH CURL
6:CAPITAL LETTER OU
6:SMALL LETTER OU
6:CAPITAL LETTER Z WITH HOOK
6:SMALL LETTER Z WITH HOOK
6:CAPITAL LETTER A WITH DOT ABOVE
6:SMALL LETTER A WITH DOT ABOVE
6:CAPITAL LETTER E WITH CEDILLA
6:SMALL LETTER E WITH CEDILLA
6:CAPITAL LETTER O WITH DIAERESIS AND MACRON
6:SMALL LETTER O WITH DIAERESIS AND MACRON
6:CAPITAL LETTER O WITH TILDE AND MACRON
6:SMALL LETTER O WITH TILDE AND MACRON
6:CAPITAL LETTER O WITH DOT ABOVE
6:SMALL LETTER O WITH DOT ABOVE
6:CAPITAL LETTER O WITH DOT ABOVE AND MACRON
6:SMALL LETTER O WITH DOT ABOVE AND MACRON
6:CAPITAL LETTER Y WITH MACRON
6:SMALL LETTER Y WITH MACRON
19:L WITH CURL
19:N WITH CURL
19:T WITH CURL
19:DOTLESS J
20:B DIGRAPH
19:QP DIGRAPH
6:CAPITAL LETTER A WITH STROKE
21:C WITH STROKE
6:SMALL LETTER C WITH STROKE
6:CAPITAL LETTER L WITH BAR
21:T WITH DIAGONAL STROKE
6:SMALL LETTER S WITH SWASH TAIL
19:Z WITH SWASH TAIL
6:CAPITAL LETTER GLOTTAL STOP
6:SMALL LETTER GLOTTAL STOP
6:CAPITAL LETTER B WITH STROKE
21:U BAR
21:TURNED V
21:E WITH STROKE
6:SMALL LETTER E WITH STROKE
6:CAPITAL LETTER J WITH STROKE
6:SMALL LETTER J WITH STROKE
6:CAPITAL LETTER SMALL Q WITH HOOK TAIL
6:SMALL LETTER Q WITH HOOK TAIL
6:CAPITAL LETTER R WITH STROKE
6:SMALL LETTER R WITH STROKE
6:CAPITAL LETTER Y WITH STROKE
6:SMALL LETTER Y WITH STROKE
19:TURNED A
19:ALPHA
19:TURNED ALPHA
19:B WITH HOOK
19:OPEN O
19:C WITH CURL
19:D WITH TAIL
26:HOOK
19:REVERSED E
19:SCHWA
24: WITH HOOK
19:OPEN E
19:REVERSED OPEN E
34: WITH HOOK
19:CLOSED REVERSED OPEN E
19:DOTLESS J WITH STROKE
19:G WITH HOOK
19:SCRIPT G
6:LETTER SMALL CAPITAL G
6:SMALL LETTER GAMMA
19:RAMS HORN
19:TURNED H
19:H WITH HOOK
20:ENG WITH HOOK
19:I WITH STROKE
20:OTA
6:LETTER SMALL CAPITAL I
6:SMALL LETTER L WITH MIDDLE TILDE
26:BELT
26:RETROFLEX HOOK
20:EZH
19:TURNED M
27: WITH LONG LEG
19:M WITH HOOK
19:N WITH LEFT HOOK
26:RETROFLEX HOOK
6:LETTER SMALL CAPITAL N
6:SMALL LETTER BARRED O
6:LETTER SMALL CAPITAL OE
6:SMALL LETTER CLOSED OMEGA
19:PHI
19:TURNED R
27: WITH LONG LEG
33:HOOK
19:R WITH LONG LEG
26:TAIL
26:FISHHOOK
20:EVERSED R WITH FISHHOOK
6:LETTER SMALL CAPITAL R
27:INVERTED R
6:SMALL LETTER S WITH HOOK
19:ESH
19:DOTLESS J WITH STROKE AND HOOK
19:SQUAT REVERSED ESH
19:ESH WITH CURL
19:TURNED T
20: WITH RETROFLEX HOOK
19:U BAR
20:PSILON
19:V WITH HOOK
19:TURNED V
26:W
26:Y
6:LETTER SMALL CAPITAL Y
6:SMALL LETTER Z WITH RETROFLEX HOOK
26:CURL
19:EZH
22: WITH CURL
6:LETTER GLOTTAL STOP
13:PHARYNGEAL VOICED FRICATIVE
13:INVERTED GLOTTAL STOP
13:STRETCHED C
13:BILABIAL CLICK
13:SMALL CAPITAL B
6:SMALL LETTER CLOSED OPEN E
6:LETTER SMALL CAPITAL G WITH HOOK
27:H
6:SMALL LETTER J WITH CROSSED-TAIL
19:TURNED K
6:LETTER SMALL CAPITAL L
6:SMALL LETTER Q WITH HOOK
6:LETTER GLOTTAL STOP WITH STROKE
13:REVERSED GLOTTAL STOP WITH STROKE
6:SMALL LETTER DZ DIGRAPH
20:EZH DIGRAPH
20:Z DIGRAPH WITH CURL
19:TS DIGRAPH
20:ESH DIGRAPH
20:C DIGRAPH WITH CURL
19:FENG DIGRAPH
19:LS DIGRAPH
20:Z DIGRAPH
6:LETTER BILABIAL PERCUSSIVE
15:DENTAL PERCUSSIVE
6:SMALL LETTER TURNED H WITH FISHHOOK
41: AND TAIL
0:MODIFIER LETTER SMALL H
23: WITH HOOK
22:J
22:R
22:TURNED R
30: WITH HOOK
22:CAPITAL INVERTED R
22:W
22:Y
16:PRIME
16:DOUBLE PRIME
16:TURNED COMMA
16:APOSTROPHE
16:REVERSED COMMA
17:IGHT HALF RING
16:LEFT HALF RING
16:GLOTTAL STOP
16:REVERSED GLOTTAL STOP
16:LEFT ARROWHEAD
16:RIGHT ARROWHEAD
16:UP ARROWHEAD
16:DOWN ARROWHEAD
16:CIRCUMFLEX ACCENT
0:CARON
0:MODIFIER LETTER VERTICAL LINE
16:MACRON
16:ACUTE ACCENT
16:GRAVE ACCENT
16:LOW VERTICAL LINE
20:MACRON
20:GRAVE ACCENT
20:ACUTE ACCENT
16:TRIANGULAR COLON
16:HALF TRIANGULAR COLON
16:CENTRED RIGHT HALF RING
24:LEFT HALF RING
16:UP TACK
16:DOWN TACK
16:PLUS SIGN
16:MINUS SIGN
0:BREVE
0:DOT ABOVE
0:RING ABOVE
0:OGONEK
0:SMALL TILDE
0:DOUBLE ACUTE ACCENT
0:MODIFIER LETTER RHOTIC HOOK
16:CROSS ACCENT
16:SMALL GAMMA
22:L
22:S
22:X
22:REVERSED GLOTTAL STOP
16:EXTRA-HIGH TONE BAR
16:HIGH TONE BAR
16:MID TONE BAR
16:LOW TONE BAR
16:EXTRA-LOW TONE BAR
16:YIN DEPARTING TONE MARK
17:ANG DEPARTING TONE MARK
16:VOICING
16:UNASPIRATED
16:DOUBLE APOSTROPHE
16:LOW DOWN ARROWHEAD
20:UP ARROWHEAD
20:LEFT ARROWHEAD
20:RIGHT ARROWHEAD
22:NG
16:MIDDLE GRAVE ACCENT
23:DOUBLE GRAVE ACCENT
30:ACUTE ACCENT
16:LOW TILDE
16:RAISED COLON
16:BEGIN HIGH TONE
16:END HIGH TONE
16:BEGIN LOW TONE
16:END LOW TONE
16:SHELF
16:OPEN SHELF
16:LOW LEFT ARROW
0:COMBINING GRAVE ACCENT
10:ACUTE ACCENT
10:CIRCUMFLEX ACCENT
10:TILDE
10:MACRON
10:OVERLINE
10:BREVE
10:DOT ABOVE
11:IAERESIS
10:HOOK ABOVE
10:RING ABOVE
10:DOUBLE ACUTE ACCENT
10:CARON
10:VERTICAL LINE ABOVE
10:DOUBLE VERTICAL LINE ABOVE
17:GRAVE ACCENT
10:CANDRABINDU
10:INVERTED BREVE
10:TURNED COMMA ABOVE
10:COMMA ABOVE
10:REVERSED COMMA ABOVE
10:COMMA ABOVE RIGHT
10:GRAVE ACCENT BELOW
10:ACUTE ACCENT BELOW
10:LEFT TACK BELOW
10:RIGHT TACK BELOW
10:LEFT ANGLE ABOVE
10:HORN
10:LEFT HALF RING BELOW
10:UP TACK BELOW
10:DOWN TACK BELOW
10:PLUS SIGN BELOW
10:MINUS SIGN BELOW
10:PALATALIZED HOOK BELOW
10:RETROFLEX HOOK BELOW
10:DOT BELOW
11:IAERESIS BELOW
10:RING BELOW
10:COMMA BELOW
11:EDILLA
10:OGONEK
10:VERTICAL LINE BELOW
10:BRIDGE BELOW
10:INVERTED DOUBLE ARCH BELOW
10:CARON BELOW
11:IRCUMFLEX ACCENT BELOW
10:BREVE BELOW
10:INVERTED BREVE BELOW
10:TILDE BELOW
10:MACRON BELOW
10:LOW LINE
10:DOUBLE LOW LINE
10:TILDE OVERLAY
10:SHORT STROKE OVERLAY
10:LONG STROKE OVERLAY
10:SHORT SOLIDUS OVERLAY
10:LONG SOLIDUS OVERLAY
10:RIGHT HALF RING BELOW
10:INVERTED BRIDGE BELOW
10:SQUARE BELOW
11:EAGULL BELOW
10:X ABOVE
10:VERTICAL TILDE
10:DOUBLE OVERLINE
10:GRAVE TONE MARK
10:ACUTE TONE MARK
10:GREEK PERISPOMENI
16:KORONIS
16:DIALYTIKA TONOS
16:YPOGEGRAMMENI
10:BRIDGE ABOVE
10:EQUALS SIGN BELOW
10:DOUBLE VERTICAL LINE BELOW
10:LEFT ANGLE BELOW
10:NOT TILDE ABOVE
10:HOMOTHETIC ABOVE
10:ALMOST EQUAL TO ABOVE
10:LEFT RIGHT ARROW BELOW
10:UPWARDS ARROW BELOW
10:GRAPHEME JOINER
10:RIGHT ARROWHEAD ABOVE
10:LEFT HALF RING ABOVE
10:FERMATA
10:X BELOW
10:LEFT ARROWHEAD BELOW
10:RIGHT ARROWHEAD BELOW
26:AND UP ARROWHEAD BELOW
16:HALF RING ABOVE
10:DOT ABOVE RIGHT
10:ASTERISK BELOW
10:DOUBLE RING BELOW
10:ZIGZAG ABOVE
10:DOUBLE BREVE BELOW
22:
17:MACRON
23: BELOW
17:TILDE
17:INVERTED BREVE
17:RIGHTWARDS ARROW BELOW
10:LATIN SMALL LETTER A
29:E
29:I
29:O
29:U
29:C
29:D
29:H
29:M
29:R
29:T
29:V
29:X
0:GREEK CAPITAL LETTER HETA
6:SMALL LETTER HETA
6:CAPITAL LETTER ARCHAIC SAMPI
6:SMALL LETTER ARCHAIC SAMPI
6:NUMERAL SIGN
6:LOWER NUMERAL SIGN
6:CAPITAL LETTER PAMPHYLIAN DIGAMMA
6:SMALL LETTER PAMPHYLIAN DIGAMMA
@37A
6:YPOGEGRAMMENI
6:SMALL REVERSED LUNATE SIGMA SYMBOL
12:DOTTED LUNATE SIGMA SYMBOL
12:REVERSED DOTTED LUNATE SIGMA SYMBOL
6:QUESTION MARK
6:CAPITAL LETTER YOT
@384
6:TONOS
6:DIALYTIKA TONOS
6:CAPITAL LETTER ALPHA WITH TONOS
6:ANO TELEIA
6:CAPITAL LETTER EPSILON WITH TONOS
22:TA WITH TONOS
21:IOTA WITH TONOS
@38C
21:OMICRON WITH TONOS
@38E
21:UPSILON WITH TONOS
21:OMEGA WITH TONOS
6:SMALL LETTER IOTA WITH DIALYTIKA AND TONOS
6:CAPITAL LETTER ALPHA
21:BETA
21:GAMMA
21:DELTA
21:EPSILON
21:ZETA
21:ETA
21:THETA
21:IOTA
21:KAPPA
21:LAMDA
21:MU
21:NU
21:XI
21:OMICRON
21:PI
21:RHO
@3A3
21:SIGMA
21:TAU
21:UPSILON
21:PHI
21:CHI
21:PSI
21:OMEGA
21:IOTA WITH DIALYTIKA
21:UPSILON WITH DIALYTIKA
6:SMALL LETTER ALPHA WITH TONOS
19:EPSILON WITH TONOS
20:TA WITH TONOS
19:IOTA WITH TONOS
19:UPSILON WITH DIALYTIKA AND TONOS
19:ALPHA
19:BETA
19:GAMMA
19:DELTA
19:EPSILON
19:ZETA
19:ETA
19:THETA
19:IOTA
19:KAPPA
19:LAMDA
19:MU
19:NU
19:XI
19:OMICRON
19:PI
19:RHO
19:FINAL SIGMA
19:SIGMA
19:TAU
19:UPSILON
19:PHI
19:CHI
19:PSI
19:OMEGA
19:IOTA WITH DIALYTIKA
19:UPSILON WITH DIALYTIKA
19:OMICRON WITH TONOS
19:UPSILON WITH TONOS
19:OMEGA WITH TONOS
6:CAPITAL KAI SYMBOL
6:BETA SYMBOL
6:THETA SYMBOL
6:UPSILON WITH HOOK SYMBOL
19:ACUTE AND HOOK SYMBOL
19:DIAERESIS AND HOOK SYMBOL
6:PHI SYMBOL
7:I SYMBOL
6:KAI SYMBOL
6:LETTER ARCHAIC KOPPA
6:SMALL LETTER ARCHAIC KOPPA
6:LETTER STIGMA
6:SMALL LETTER STIGMA
6:LETTER DIGAMMA
6:SMALL LETTER DIGAMMA
6:LETTER KOPPA
6:SMALL LETTER KOPPA
6:LETTER SAMPI
6:SMALL LETTER SAMPI
0:COPTIC CAPITAL LETTER SHEI
7:SMALL LETTER SHEI
7:CAPITAL LETTER FEI
7:SMALL LETTER FEI
7:CAPITAL LETTER KHEI
7:SMALL LETTER KHEI
7:CAPITAL LETTER HORI
7:SMALL LETTER HORI
7:CAPITAL LETTER GANGIA
7:SMALL LETTER GANGIA
7:CAPITAL LETTER SHIMA
7:SMALL LETTER SHIMA
7:CAPITAL LETTER DEI
7:SMALL LETTER DEI
0:GREEK KAPPA SYMBOL
6:RHO SYMBOL
6:LUNATE SIGMA SYMBOL
7:ETTER YOT
6:CAPITAL THETA SYMBOL
6:LUNATE EPSILON SYMBOL
6:REVERSED LUNATE EPSILON SYMBOL
6:CAPITAL LETTER SHO
6:SMALL LETTER SHO
6:CAPITAL LUNATE SIGMA SYMBOL
15:ETTER SAN
6:SMALL LETTER SAN
6:RHO WITH STROKE SYMBOL
6:CAPITAL REVERSED LUNATE SIGMA SYMBOL
14:DOTTED LUNATE SIGMA SYMBOL
14:REVERSED DOTTED LUNATE SIGMA SYMBOL
0:CYRILLIC CAPITAL LETTER IE WITH GRAVE
25:O
24:DJE
24:GJE
24:UKRAINIAN IE
24:DZE
24:BYELORUSSIAN-UKRAINIAN I
24:YI
24:JE
24:LJE
24:NJE
24:TSHE
24:KJE
24:I WITH GRAVE
24:SHORT U
24:DZHE
24:A
24:BE
24:VE
24:GHE
24:DE
24:IE
24:ZHE
25:E
24:I
24:SHORT I
24:KA
24:EL
25:M
25:N
24:O
24:PE
24:ER
25:S
24:TE
24:U
24:EF
24:HA
24:TSE
24:CHE
24:SHA
26:CHA
24:HARD SIGN
24:YERU
24:SOFT SIGN
24:E
24:YU
25:A
9:SMALL LETTER A
22:BE
22:VE
22:GHE
22:DE
22:IE
22:ZHE
23:E
22:I
22:SHORT I
22:KA
22:EL
23:M
23:N
22:O
22:PE
22:ER
23:S
22:TE
22:U
22:EF
22:HA
22:TSE
22:CHE
22:SHA
24:CHA
22:HARD SIGN
22:YERU
22:SOFT SIGN
22:E
22:YU
23:A
22:IE WITH GRAVE
23:O
22:DJE
22:GJE
22:UKRAINIAN IE
22:DZE
22:BYELORUSSIAN-UKRAINIAN I
22:YI
22:JE
22:LJE
22:NJE
22:TSHE
22:KJE
22:I WITH GRAVE
22:SHORT U
22:DZHE
9:CAPITAL LETTER OMEGA
9:SMALL LETTER OMEGA
9:CAPITAL LETTER YAT
9:SMALL LETTER YAT
9:CAPITAL LETTER IOTIFIED E
9:SMALL LETTER IOTIFIED E
9:CAPITAL LETTER LITTLE YUS
9:SMALL LETTER LITTLE YUS
9:CAPITAL LETTER IOTIFIED LITTLE YUS
9:SMALL LETTER IOTIFIED LITTLE YUS
9:CAPITAL LETTER BIG YUS
9:SMALL LETTER BIG YUS
9:CAPITAL LETTER IOTIFIED BIG YUS
9:SMALL LETTER IOTIFIED BIG YUS
9:CAPITAL LETTER KSI
9:SMALL LETTER KSI
9:CAPITAL LETTER PSI
9:SMALL LETTER PSI
9:CAPITAL LETTER FITA
9:SMALL LETTER FITA
9:CAPITAL LETTER IZHITSA
9:SMALL LETTER IZHITSA
9:CAPITAL LETTER IZHITSA WITH DOUBLE GRAVE ACCENT
9:SMALL LETTER IZHITSA WITH DOUBLE GRAVE ACCENT
9:CAPITAL LETTER UK
9:SMALL LETTER UK
9:CAPITAL LETTER ROUND OMEGA
9:SMALL LETTER ROUND OMEGA
9:CAPITAL LETTER OMEGA WITH TITLO
9:SMALL LETTER OMEGA WITH TITLO
9:CAPITAL LETTER OT
9:SMALL LETTER OT
9:CAPITAL LETTER KOPPA
9:SMALL LETTER KOPPA
9:THOUSANDS SIGN
1:OMBINING CYRILLIC TITLO
19:PALATALIZATION
19:DASIA PNEUMATA
19:PSILI PNEUMATA
20:OKRYTIE
19:HUNDRED THOUSANDS SIGN
19:MILLIONS SIGN
1:YRILLIC CAPITAL LETTER SHORT I WITH TAIL
9:SMALL LETTER SHORT I WITH TAIL
9:CAPITAL LETTER SEMISOFT SIGN
9:SMALL LETTER SEMISOFT SIGN
9:CAPITAL LETTER ER WITH TICK
9:SMALL LETTER ER WITH TICK
9:CAPITAL LETTER GHE WITH UPTURN
9:SMALL LETTER GHE WITH UPTURN
9:CAPITAL LETTER GHE WITH STROKE
9:SMALL LETTER GHE WITH STROKE
9:CAPITAL LETTER GHE WITH MIDDLE HOOK
9:SMALL LETTER GHE WITH MIDDLE HOOK
9:CAPITAL LETTER ZHE WITH DESCENDER
9:SMALL LETTER ZHE WITH DESCENDER
9:CAPITAL LETTER ZE WITH DESCENDER
9:SMALL LETTER ZE WITH DESCENDER
9:CAPITAL LETTER KA WITH DESCENDER
9:SMALL LETTER KA WITH DESCENDER
9:CAPITAL LETTER KA WITH VERTICAL STROKE
9:SMALL LETTER KA WITH VERTICAL STROKE
9:CAPITAL LETTER KA WITH STROKE
9:SMALL LETTER KA WITH STROKE
9:CAPITAL LETTER BASHKIR KA
9:SMALL LETTER BASHKIR KA
9:CAPITAL LETTER EN WITH DESCENDER
9:SMALL LETTER EN WITH DESCENDER
9:CAPITAL LIGATURE EN GHE
9:SMALL LIGATURE EN GHE
9:CAPITAL LETTER PE WITH MIDDLE HOOK
9:SMALL LETTER PE WITH MIDDLE HOOK
9:CAPITAL LETTER ABKHASIAN HA
9:SMALL LETTER ABKHASIAN HA
9:CAPITAL LETTER ES WITH DESCENDER
9:SMALL LETTER ES WITH DESCENDER
9:CAPITAL LETTER TE WITH DESCENDER
9:SMALL LETTER TE WITH DESCENDER
9:CAPITAL LETTER STRAIGHT U
9:SMALL LETTER STRAIGHT U
9:CAPITAL LETTER STRAIGHT U WITH STROKE
9:SMALL LETTER STRAIGHT U WITH STROKE
9:CAPITAL LETTER HA WITH DESCENDER
9:SMALL LETTER HA WITH DESCENDER
9:CAPITAL LIGATURE TE TSE
9:SMALL LIGATURE TE TSE
9:CAPITAL LETTER CHE WITH DESCENDER
9:SMALL LETTER CHE WITH DESCENDER
9:CAPITAL LETTER CHE WITH VERTICAL STROKE
9:SMALL LETTER CHE WITH VERTICAL STROKE
9:CAPITAL LETTER SHHA
9:SMALL LETTER SHHA
9:CAPITAL LETTER ABKHASIAN CHE
9:SMALL LETTER ABKHASIAN CHE
9:CAPITAL LETTER ABKHASIAN CHE WITH DESCENDER
9:SMALL LETTER ABKHASIAN CHE WITH DESCENDER
9:LETTER PALOCHKA
9:CAPITAL LETTER ZHE WITH BREVE
9:SMALL LETTER ZHE WITH BREVE
9:CAPITAL LETTER KA WITH HOOK
9:SMALL LETTER KA WITH HOOK
9:CAPITAL LETTER EL WITH TAIL
9:SMALL LETTER EL WITH TAIL
9:CAPITAL LETTER EN WITH HOOK
9:SMALL LETTER EN WITH HOOK
9:CAPITAL LETTER EN WITH TAIL
9:SMALL LETTER EN WITH TAIL
9:CAPITAL LETTER KHAKASSIAN CHE
9:SMALL LETTER KHAKASSIAN CHE
9:CAPITAL LETTER EM WITH TAIL
9:SMALL LETTER EM WITH TAIL
22:PALOCHKA
9:CAPITAL LETTER A WITH BREVE
9:SMALL LETTER A WITH BREVE
9:CAPITAL LETTER A WITH DIAERESIS
9:SMALL LETTER A WITH DIAERESIS
9:CAPITAL LIGATURE A IE
9:SMALL LIGATURE A IE
9:CAPITAL LETTER IE WITH BREVE
9:SMALL LETTER IE WITH BREVE
9:CAPITAL LETTER SCHWA
9:SMALL LETTER SCHWA
9:CAPITAL LETTER SCHWA WITH DIAERESIS
9:SMALL LETTER SCHWA WITH DIAERESIS
9:CAPITAL LETTER ZHE WITH DIAERESIS
9:SMALL LETTER ZHE WITH DIAERESIS
9:CAPITAL LETTER ZE WITH DIAERESIS
9:SMALL LETTER ZE WITH DIAERESIS
9:CAPITAL LETTER ABKHASIAN DZE
9:SMALL LETTER ABKHASIAN DZE
9:CAPITAL LETTER I WITH MACRON
9:SMALL LETTER I WITH MACRON
9:CAPITAL LETTER I WITH DIAERESIS
9:SMALL LETTER I WITH DIAERESIS
9:CAPITAL LETTER O WITH DIAERESIS
9:SMALL LETTER O WITH DIAERESIS
9:CAPITAL LETTER BARRED O
9:SMALL LETTER BARRED O
9:CAPITAL LETTER BARRED O WITH DIAERESIS
9:SMALL LETTER BARRED O WITH DIAERESIS
9:CAPITAL LETTER E WITH DIAERESIS
9:SMALL LETTER E WITH DIAERESIS
9:CAPITAL LETTER U WITH MACRON
9:SMALL LETTER U WITH MACRON
9:CAPITAL LETTER U WITH DIAERESIS
9:SMALL LETTER U WITH DIAERESIS
9:CAPITAL LETTER U WITH DOUBLE ACUTE
9:SMALL LETTER U WITH DOUBLE ACUTE
9:CAPITAL LETTER CHE WITH DIAERESIS
9:SMALL LETTER CHE WITH DIAERESIS
9:CAPITAL LETTER GHE WITH DESCENDER
9:SMALL LETTER GHE WITH DESCENDER
9:CAPITAL LETTER YERU WITH DIAERESIS
9:SMALL LETTER YERU WITH DIAERESIS
9:CAPITAL LETTER GHE WITH STROKE AND HOOK
9:SMALL LETTER GHE WITH STROKE AND HOOK
9:CAPITAL LETTER HA WITH HOOK
9:SMALL LETTER HA WITH HOOK
9:CAPITAL LETTER HA WITH STROKE
9:SMALL LETTER HA WITH STROKE
9:CAPITAL LETTER KOMI DE
9:SMALL LETTER KOMI DE
9:CAPITAL LETTER KOMI DJE
9:SMALL LETTER KOMI DJE
9:CAPITAL LETTER KOMI ZJE
9:SMALL LETTER KOMI ZJE
9:CAPITAL LETTER KOMI DZJE
9:SMALL LETTER KOMI DZJE
9:CAPITAL LETTER KOMI LJE
9:SMALL LETTER KOMI LJE
9:CAPITAL LETTER KOMI NJE
9:SMALL LETTER KOMI NJE
9:CAPITAL LETTER KOMI SJE
9:SMALL LETTER KOMI SJE
9:CAPITAL LETTER KOMI TJE
9:SMALL LETTER KOMI TJE
9:CAPITAL LETTER REVERSED ZE
9:SMALL LETTER REVERSED ZE
9:CAPITAL LETTER EL WITH HOOK
9:SMALL LETTER EL WITH HOOK
9:CAPITAL LETTER LHA
9:SMALL LETTER LHA
9:CAPITAL LETTER RHA
9:SMALL LETTER RHA
9:CAPITAL LETTER YAE
9:SMALL LETTER YAE
9:CAPITAL LETTER QA
9:SMALL LETTER QA
9:CAPITAL LETTER WE
9:SMALL LETTER WE
9:CAPITAL LETTER ALEUT KA
9:SMALL LETTER ALEUT KA
9:CAPITAL LETTER EL WITH MIDDLE HOOK
9:SMALL LETTER EL WITH MIDDLE HOOK
9:CAPITAL LETTER EN WITH MIDDLE HOOK
9:SMALL LETTER EN WITH MIDDLE HOOK
9:CAPITAL LETTER PE WITH DESCENDER
9:SMALL LETTER PE WITH DESCENDER
9:CAPITAL LETTER SHHA WITH DESCENDER
9:SMALL LETTER SHHA WITH DESCENDER
9:CAPITAL LETTER EN WITH LEFT HOOK
9:SMALL LETTER EN WITH LEFT HOOK
9:CAPITAL LETTER DZZHE
9:SMALL LETTER DZZHE
9:CAPITAL LETTER DCHE
9:SMALL LETTER DCHE
9:CAPITAL LETTER EL WITH DESCENDER
9:SMALL LETTER EL WITH DESCENDER
@531
0:ARMENIAN CAPITAL LETTER AYB
24:BEN
24:GIM
24:DA
24:ECH
24:ZA
24:EH
25:T
24:TO
24:ZHE
24:INI
24:LIWN
24:XEH
24:CA
24:KEN
24:HO
24:JA
24:GHAD
24:CHEH
24:MEN
24:YI
24:NOW
24:SHA
24:VO
24:CHA
24:PEH
24:JHEH
24:RA
24:SEH
24:VEW
24:TIWN
24:REH
24:CO
24:YIWN
24:PIWR
24:KEH
24:OH
24:FEH
@559
9:MODIFIER LETTER LEFT HALF RING
9:APOSTROPHE
9:EMPHASIS MARK
10:XCLAMATION MARK
9:COMMA
9:QUESTION MARK
9:ABBREVIATION MARK
9:SMALL LETTER TURNED AYB
22:AYB
22:BEN
22:GIM
22:DA
22:ECH
22:ZA
22:EH
23:T
22:TO
22:ZHE
22:INI
22:LIWN
22:XEH
22:CA
22:KEN
22:HO
22:JA
22:GHAD
22:CHEH
22:MEN
22:YI
22:NOW
22:SHA
22:VO
22:CHA
22:PEH
22:JHEH
22:RA
22:SEH
22:VEW
22:TIWN
22:REH
22:CO
22:YIWN
22:PIWR
22:KEH
22:OH
22:FEH
16:IGATURE ECH YIWN
16:ETTER YI WITH STROKE
9:FULL STOP
9:HYPHEN
@58D
0:RIGHT-FACING ARMENIAN ETERNITY SIGN
0:LEFT-FACING ARMENIAN ETERNITY SIGN
0:ARMENIAN DRAM SIGN
@591
0:HEBREW ACCENT ETNAHTA
14:SEGOL
15:HALSHELET
14:ZAQEF QATAN
20:GADOL
14:TIPEHA
14:REVIA
14:ZARQA
14:PASHTA
14:YETIV
14:TEVIR
14:GERESH
20: MUQDAM
17:SHAYIM
14:QARNEY PARA
14:TELISHA GEDOLA
14:PAZER
14:ATNAH HAFUKH
14:MUNAH
15:AHAPAKH
15:ERKHA
20: KEFULA
14:DARGA
14:QADMA
14:TELISHA QETANA
14:YERAH BEN YOMO
14:OLE
14:ILUY
14:DEHI
14:ZINOR
7:MARK MASORA CIRCLE
7:POINT SHEVA
13:HATAF SEGOL
19:PATAH
19:QAMATS
14:IRIQ
13:TSERE
13:SEGOL
13:PATAH
13:QAMATS
13:HOLAM
18: HASER FOR VAV
13:QUBUTS
13:DAGESH OR MAPIQ
13:METEG
8:UNCTUATION MAQAF
8:OINT RAFE
8:UNCTUATION PASEQ
8:OINT SHIN DOT
14:IN DOT
8:UNCTUATION SOF PASUQ
7:MARK UPPER DOT
12:LOWER DOT
7:PUNCTUATION NUN HAFUKHA
8:OINT QAMATS QATAN
@5D0
7:LETTER ALEF
14:BET
14:GIMEL
14:DALET
14:HE
14:VAV
14:ZAYIN
14:HET
14:TET
14:YOD
14:FINAL KAF
14:KAF
14:LAMED
14:FINAL MEM
14:MEM
14:FINAL NUN
14:NUN
14:SAMEKH
14:AYIN
14:FINAL PE
14:PE
14:FINAL TSADI
14:TSADI
14:QOF
14:RESH
14:SHIN
14:TAV
@5EF
7:YOD TRIANGLE
7:LIGATURE YIDDISH DOUBLE VAV
24:VAV YOD
24:DOUBLE YOD
7:PUNCTUATION GERESH
22:SHAYIM
@600
0:ARABIC NUMBER SIGN
7:SIGN SANAH
7:FOOTNOTE MARKER
7:SIGN SAFHA
14:MVAT
7:NUMBER MARK ABOVE
6:-INDIC CUBE ROOT
13:FOURTH ROOT
6: RAY
6:-INDIC PER MILLE SIGN
17:TEN THOUSAND SIGN
1:FGHANI SIGN
1:RABIC COMMA
7:DATE SEPARATOR
7:POETIC VERSE SIGN
7:SIGN MISRA
12:SALLALLAHOU ALAYHE WASSALLAM
12:ALAYHE ASSALLAM
12:RAHMATULLAH ALAYHE
14:DI ALLAHOU ANHU
12:TAKHALLUS
8:MALL HIGH TAH
18:LIGATURE ALEF WITH LAM WITH YEH
18:ZAIN
13:FATHA
13:DAMMA
13:KASRA
8:EMICOLON
7:LETTER MARK
7:END OF TEXT MARK
7:TRIPLE DOT PUNCTUATION MARK
7:QUESTION MARK
7:LETTER KASHMIRI YEH
14:HAMZA
14:ALEF WITH MADDA ABOVE
24:HAMZA ABOVE
14:WAW WITH HAMZA ABOVE
14:ALEF WITH HAMZA BELOW
14:YEH WITH HAMZA ABOVE
14:ALEF
14:BEH
14:TEH MARBUTA
17:
15:HEH
14:JEEM
14:HAH
14:KHAH
14:DAL
14:THAL
14:REH
14:ZAIN
14:SEEN
15:HEEN
15:AD
14:DAD
14:TAH
14:ZAH
14:AIN
14:GHAIN
14:KEHEH WITH TWO DOTS ABOVE
26:HREE DOTS BELOW
14:FARSI YEH WITH INVERTED V
29:TWO DOTS ABOVE
30:HREE DOTS ABOVE
7:TATWEEL
7:LETTER FEH
14:QAF
14:KAF
14:LAM
14:MEEM
14:NOON
14:HEH
14:WAW
14:ALEF MAKSURA
14:YEH
7:FATHATAN
7:DAMMATAN
7:KASRATAN
7:FATHA
7:DAMMA
7:KASRA
7:SHADDA
8:UKUN
7:MADDAH ABOVE
7:HAMZA ABOVE
13:BELOW
7:SUBSCRIPT ALEF
7:INVERTED DAMMA
7:MARK NOON GHUNNA
7:ZWARAKAY
7:VOWEL SIGN SMALL V ABOVE
18:INVERTED SMALL V ABOVE
18:DOT BELOW
7:REVERSED DAMMA
7:FATHA WITH TWO DOTS
7:WAVY HAMZA BELOW
6:-INDIC DIGIT ZERO
19:ONE
19:TWO
20:HREE
19:FOUR
20:IVE
19:SIX
20:EVEN
19:EIGHT
19:NINE
6: PERCENT SIGN
7:DECIMAL SEPARATOR
7:THOUSANDS SEPARATOR
7:FIVE POINTED STAR
7:LETTER DOTLESS BEH
22:QAF
14:SUPERSCRIPT ALEF
14:ALEF WASLA
20:ITH WAVY HAMZA ABOVE
35:BELOW
14:HIGH HAMZA
24: ALEF
25:WAW
14:U WITH HAMZA ABOVE
14:HIGH HAMZA YEH
14:TTEH
18:EH
14:BEEH
14:TEH WITH RING
23:THREE DOTS ABOVE DOWNWARDS
14:PEH
14:TEHEH
14:BEHEH
14:HAH WITH HAMZA ABOVE
23:TWO DOTS VERTICAL ABOVE
14:NYEH
14:DYEH
14:HAH WITH THREE DOTS ABOVE
14:TCHEH
19:EH
14:DDAL
15:AL WITH RING
23:DOT BELOW
32: AND SMALL TAH
16:HAL
15:DAHAL
15:UL
15:AL WITH THREE DOTS ABOVE DOWNWARDS
23:FOUR DOTS ABOVE
14:RREH
15:EH WITH SMALL V
23:RING
23:DOT BELOW
23:SMALL V BELOW
23:DOT BELOW AND DOT ABOVE
23:TWO DOTS ABOVE
14:JEH
14:REH WITH FOUR DOTS ABOVE
14:SEEN WITH DOT BELOW AND DOT ABOVE
24:THREE DOTS BELOW
40: AND THREE DOTS ABOVE
15:AD WITH TWO DOTS BELOW
24:HREE DOTS ABOVE
14:TAH WITH THREE DOTS ABOVE
14:AIN WITH THREE DOTS ABOVE
14:DOTLESS FEH
14:FEH WITH DOT MOVED BELOW
27:BELOW
14:VEH
14:FEH WITH THREE DOTS BELOW
14:PEHEH
14:QAF WITH DOT ABOVE
23:THREE DOTS ABOVE
14:KEHEH
14:SWASH KAF
14:KAF WITH RING
23:DOT ABOVE
14:NG
14:KAF WITH THREE DOTS BELOW
14:GAF
17: WITH RING
14:NGOEH
14:GAF WITH TWO DOTS BELOW
15:UEH
15:AF WITH THREE DOTS ABOVE
14:LAM WITH SMALL V
23:DOT ABOVE
23:THREE DOTS ABOVE
34:BELOW
14:NOON WITH DOT BELOW
19:GHUNNA
14:RNOON
14:NOON WITH RING
24:THREE DOTS ABOVE
14:HEH DOACHASHMEE
14:TCHEH WITH DOT ABOVE
14:HEH WITH YEH ABOVE
18:GOAL
22: WITH HAMZA ABOVE
14:TEH MARBUTA GOAL
14:WAW WITH RING
14:KIRGHIZ OE
14:OE
14:U
14:YU
14:KIRGHIZ YU
14:WAW WITH TWO DOTS ABOVE
14:VE
14:FARSI YEH
14:YEH WITH TAIL
23:SMALL V
14:WAW WITH DOT ABOVE
14:E
14:YEH WITH THREE DOTS BELOW
18:BARREE
24: WITH HAMZA ABOVE
7:FULL STOP
7:LETTER AE
7:SMALL HIGH LIGATURE SAD WITH LAM WITH ALEF MAKSURA
27:QAF WITH LAM WITH ALEF MAKSURA
18:MEEM INITIAL FORM
18:LAM ALEF
18:JEEM
18:THREE DOTS
18:SEEN
7:END OF AYAH
7:START OF RUB EL HIZB
8:MALL HIGH ROUNDED ZERO
18:UPRIGHT RECTANGULAR ZERO
18:DOTLESS HEAD OF KHAH
18:MEEM ISOLATED FORM
13:LOW SEEN
13:HIGH MADDA
13:WAW
13:YEH
13:HIGH YEH
18:NOON
7:PLACE OF SAJDAH
7:EMPTY CENTRE LOW STOP
20:HIGH STOP
7:ROUNDED HIGH STOP WITH FILLED CENTRE
7:SMALL LOW MEEM
7:LETTER DAL WITH INVERTED V
14:REH WITH INVERTED V
0:EXTENDED ARABIC-INDIC DIGIT ZERO
28:ONE
28:TWO
29:HREE
28:FOUR
29:IVE
28:SIX
29:EVEN
28:EIGHT
28:NINE
0:ARABIC LETTER SHEEN WITH DOT BELOW
14:DAD WITH DOT BELOW
14:GHAIN WITH DOT BELOW
7:SIGN SINDHI AMPERSAND
19:POSTPOSITION MEN
7:LETTER HEH WITH INVERTED V
0:SYRIAC END OF PARAGRAPH
7:SUPRALINEAR FULL STOP
9:BLINEAR FULL STOP
9:PRALINEAR COLON
9:BLINEAR COLON
7:HORIZONTAL COLON
7:COLON SKEWED LEFT
20:RIGHT
7:SUPRALINEAR COLON SKEWED LEFT
9:BLINEAR COLON SKEWED RIGHT
7:CONTRACTION
7:HARKLEAN OBELUS
16:METOBELUS
16:ASTERISCUS
@70F
7:ABBREVIATION MARK
7:LETTER ALAPH
14:SUPERSCRIPT ALAPH
14:BETH
14:GAMAL
19: GARSHUNI
14:DALATH
15:OTLESS DALATH RISH
14:HE
14:WAW
14:ZAIN
14:HETH
14:TETH
18: GARSHUNI
14:YUDH
18: HE
14:KAPH
14:LAMADH
14:MIM
14:NUN
14:SEMKATH
14:FINAL SEMKATH
14:E
14:PE
14:REVERSED PE
14:SADHE
14:QAPH
14:RISH
14:SHIN
14:TAW
14:PERSIAN BHETH
22:GHAMAL
22:DHALATH
7:PTHAHA ABOVE
14:BELOW
14:DOTTED
7:ZQAPHA ABOVE
14:BELOW
14:DOTTED
7:RBASA ABOVE
13:BELOW
7:DOTTED ZLAMA HORIZONTAL
20:ANGULAR
7:HBASA ABOVE
13:BELOW
12:-ESASA DOTTED
7:ESASA ABOVE
13:BELOW
7:RWAHA
7:FEMININE DOT
7:QUSHSHAYA
7:RUKKAKHA
7:TWO VERTICAL DOTS ABOVE
25:BELOW
8:HREE DOTS ABOVE
18:BELOW
7:OBLIQUE LINE ABOVE
20:BELOW
7:MUSIC
7:BARREKH
@74D
7:LETTER SOGDIAN ZHAIN
22:KHAPH
22:FE
0:ARABIC LETTER BEH WITH THREE DOTS HORIZONTALLY BELOW
23:DOT BELOW AND THREE DOTS ABOVE
23:THREE DOTS POINTING UPWARDS BELOW
56: AND TWO DOTS ABOVE
24:WO DOTS BELOW AND DOT ABOVE
23:INVERTED SMALL V BELOW
23:SMALL V
14:HAH WITH TWO DOTS ABOVE
24:HREE DOTS POINTING UPWARDS BELOW
14:DAL WITH TWO DOTS VERTICALLY BELOW AND SMALL TAH
23:INVERTED SMALL V BELOW
14:REH WITH STROKE
14:SEEN WITH FOUR DOTS ABOVE
14:AIN WITH TWO DOTS ABOVE
24:HREE DOTS POINTING DOWNWARDS ABOVE
24:WO DOTS VERTICALLY ABOVE
14:FEH WITH TWO DOTS BELOW
24:HREE DOTS POINTING UPWARDS BELOW
14:KEHEH WITH DOT ABOVE
25:THREE DOTS ABOVE
36:POINTING UPWARDS BELOW
14:MEEM WITH DOT ABOVE
28:BELOW
14:NOON WITH TWO DOTS BELOW
24:SMALL TAH
30:V
14:LAM WITH BAR
14:REH WITH TWO DOTS VERTICALLY ABOVE
23:HAMZA ABOVE
14:SEEN WITH TWO DOTS VERTICALLY ABOVE
14:HAH WITH SMALL ARABIC LETTER TAH BELOW
47:AND TWO DOTS
14:SEEN WITH SMALL ARABIC LETTER TAH AND TWO DOTS
14:REH WITH SMALL ARABIC LETTER TAH AND TWO DOTS
14:HAH WITH SMALL ARABIC LETTER TAH ABOVE
14:ALEF WITH EXTENDED ARABIC-INDIC DIGIT TWO ABOVE
53:HREE ABOVE
14:FARSI YEH WITH EXTENDED ARABIC-INDIC DIGIT TWO ABOVE
58:HREE ABOVE
57:FOUR BELOW
14:WAW WITH EXTENDED ARABIC-INDIC DIGIT TWO ABOVE
52:HREE ABOVE
14:YEH BARREE WITH EXTENDED ARABIC-INDIC DIGIT TWO ABOVE
59:HREE ABOVE
14:HAH WITH EXTENDED ARABIC-INDIC DIGIT FOUR BELOW
14:SEEN WITH EXTENDED ARABIC-INDIC DIGIT FOUR ABOVE
24:INVERTED V
14:KAF WITH TWO DOTS ABOVE
0:THAANA LETTER HAA
14:SHAVIYANI
14:NOONU
14:RAA
14:BAA
14:LHAVIYANI
14:KAAFU
14:ALIFU
14:VAAVU
14:MEEMU
14:FAAFU
14:DHAALU
14:THAA
14:LAAMU
14:GAAFU
15:NAVIYANI
14:SEENU
14:DAVIYANI
14:ZAVIYANI
14:TAVIYANI
14:YAA
14:PAVIYANI
14:JAVIYANI
14:CHAVIYANI
14:TTAA
14:HHAA
14:KHAA
14:THAALU
14:ZAA
14:SHEENU
15:AADHU
14:DAADHU
14:TO
14:ZO
14:AINU
14:GHAINU
14:QAAFU
14:WAAVU
7:ABAFILI
8:ABAAFILI
7:IBIFILI
7:EEBEEFILI
7:UBUFILI
7:OOBOOFILI
7:EBEFILI
8:YBEYFILI
7:OBOFILI
8:ABOAFILI
7:SUKUN
7:LETTER NAA
@7C0
0:NKO DIGIT ZERO
10:ONE
10:TWO
11:HREE
10:FOUR
11:IVE
10:SIX
11:EVEN
10:EIGHT
10:NINE
4:LETTER A
11:EE
11:I
11:E
11:U
11:OO
12:
11:DAGBASINNA
11:N
11:BA
11:PA
11:TA
11:JA
11:CHA
11:DA
11:RA
12:RA
11:SA
11:GBA
11:FA
11:KA
11:LA
11:NA WOLOSO
11:MA
11:NYA
12:A
11:HA
11:WA
11:YA
11:NYA WOLOSO
11:JONA JA
16:CHA
16:RA
4:COMBINING SHORT HIGH TONE
20:LOW TONE
20:RISING TONE
14:LONG DESCENDING TONE
19:HIGH TONE
19:LOW TONE
19:RISING TONE
14:NASALIZATION MARK
14:DOUBLE DOT ABOVE
4:HIGH TONE APOSTROPHE
4:LOW TONE APOSTROPHE
4:SYMBOL OO DENNEN
11:GBAKURUNEN
4:COMMA
4:EXCLAMATION MARK
4:LAJANYALAN
@7FD
4:DANTAYALAN
5:OROME SIGN
4:TAMAN SIGN
0:SAMARITAN LETTER ALAF
17:BIT
17:GAMAN
17:DALAT
17:IY
17:BAA
17:ZEN
17:IT
17:TIT
17:YUT
17:KAAF
17:LABAT
17:MIM
17:NUN
17:SINGAAT
17:IN
17:FI
17:TSAADIY
17:QUF
17:RISH
17:SHAN
17:TAAF
10:MARK IN
17:-ALAF
15:OCCLUSION
15:DAGESH
11:ODIFIER LETTER EPENTHETIC YUT
11:ARK EPENTHETIC YUT
10:VOWEL SIGN LONG E
21:E
21:OVERLONG AA
21:LONG AA
21:AA
21:OVERLONG A
21:LONG A
21:A
10:MODIFIER LETTER SHORT A
10:VOWEL SIGN SHORT A
21:LONG U
21:U
10:MODIFIER LETTER I
10:VOWEL SIGN LONG I
21:I
21:O
21:SUKUN
10:MARK NEQUDAA
@830
10:PUNCTUATION NEQUDAA
22:AFSAAQ
23:NGED
22:BAU
22:ATMAAU
22:SHIYYAALAA
10:ABBREVIATION MARK
10:PUNCTUATION MELODIC QITSA
22:ZIQAA
22:QITSA
22:ZAEF
22:TURU
22:ARKAANU
22:SOF MASHFAAT
22:ANNAAU
@840
0:MANDAIC LETTER HALQA
15:AB
16:G
16:D
16:H
15:USHENNA
15:AZ
15:IT
15:ATT
16:KSA
17:
16:L
16:M
16:N
16:S
15:IN
15:AP
16:SZ
16:Q
16:R
16:SH
16:T
15:DUSHENNA
15:KAD
15:AIN
8:AFFRICATION MARK
8:VOCALIZATION MARK
8:GEMINATION MARK
@85E
8:PUNCTUATION
@860
0:SYRIAC LETTER MALAYALAM NGA
24:JA
24:NYA
24:TTA
24:NNA
26:NA
24:BHA
24:RA
24:LLA
26:LA
24:SSA
@870
0:ARABIC LETTER ALEF WITH ATTACHED FATHA
33:TOP RIGHT FATHA
24:RIGHT MIDDLE STROKE
24:LEFT MIDDLE STROKE
24:ATTACHED KASRA
33:BOTTOM RIGHT KASRA
33:ROUND DOT ABOVE
34:IGHT ROUND DOT
33:LEFT ROUND DOT
33:ROUND DOT BELOW
24:DOT ABOVE
24:ATTACHED TOP RIGHT FATHA AND DOT ABOVE
24:RIGHT MIDDLE STROKE AND DOT ABOVE
24:ATTACHED BOTTOM RIGHT KASRA AND DOT ABOVE
33:TOP RIGHT FATHA AND LEFT RING
24:RIGHT MIDDLE STROKE AND LEFT RING
24:ATTACHED BOTTOM RIGHT KASRA AND LEFT RING
33:RIGHT HAMZA
33:LEFT HAMZA
7:TATWEEL WITH OVERSTRUCK HAMZA
31:WAW
20:TWO DOTS BELOW
7:LETTER THIN YEH
7:BASELINE ROUND DOT
7:RAISED ROUND DOT
7:LETTER NOON WITH INVERTED SMALL V
14:HAH WITH INVERTED SMALL V BELOW
14:TAH WITH DOT BELOW
23:THREE DOTS BELOW
14:KEHEH WITH TWO DOTS VERTICALLY BELOW
7:VERTICAL TAIL
@890
7:POUND MARK ABOVE
8:IASTRE MARK ABOVE
@898
7:SMALL HIGH WORD AL-JUZ
13:LOW WORD ISHMAAM
23:MAALA
22:TASHEEL
7:MADDA WAAJIB
7:SUPERSCRIPT ALEF MOKHASSAS
7:DOUBLED MADDA
7:HALF MADDA OVER MADDA
7:LETTER BEH WITH SMALL V BELOW
23:HAMZA ABOVE
14:JEEM WITH TWO DOTS ABOVE
14:TAH WITH TWO DOTS ABOVE
14:FEH WITH DOT BELOW AND THREE DOTS ABOVE
14:QAF WITH DOT BELOW
14:LAM WITH DOUBLE BAR
14:MEEM WITH THREE DOTS ABOVE
14:YEH WITH TWO DOTS BELOW AND HAMZA ABOVE
42:DOT ABOVE
14:REH WITH LOOP
14:WAW WITH DOT WITHIN
14:ROHINGYA YEH
14:LOW ALEF
14:DAL WITH THREE DOTS BELOW
14:SAD WITH THREE DOTS BELOW
14:GAF WITH INVERTED STROKE
14:STRAIGHT WAW
14:ZAIN WITH INVERTED V ABOVE
14:AIN WITH THREE DOTS BELOW
14:KAF WITH DOT BELOW
14:QAF WITH DOT BELOW AND NO DOTS ABOVE
14:BEH WITH SMALL MEEM ABOVE
14:PEH WITH SMALL MEEM ABOVE
14:TEH WITH SMALL TEH ABOVE
14:REH WITH SMALL NOON ABOVE
14:YEH WITH TWO DOTS BELOW AND SMALL NOON ABOVE
14:AFRICAN FEH
22:QAF
22:NOON
14:PEH WITH SMALL V
14:TEH WITH SMALL V
15:TEH WITH SMALL V
15:CHEH WITH SMALL V
14:KEHEH WITH SMALL V
14:GHAIN WITH THREE DOTS ABOVE
14:AFRICAN QAF WITH THREE DOTS ABOVE
14:JEEM WITH THREE DOTS ABOVE
35:BELOW
14:LAM WITH SMALL ARABIC LETTER TAH ABOVE
14:GRAF
7:SMALL FARSI YEH
13:HIGH FARSI YEH
18:YEH BARREE WITH TWO DOTS BELOW
18:WORD SAH
18:ZAH
7:LARGE ROUND DOT ABOVE
23:BELOW
7:SUKUN BELOW
7:LARGE CIRCLE BELOW
13:ROUND DOT INSIDE CIRCLE BELOW
7:SMALL LOW WAW
13:HIGH WORD AR-RUB
18:SAD
18:AIN
18:QAF
18:NOON WITH KASRA
13:LOW NOON WITH KASRA
13:HIGH WORD ATH-THALATHA
24:S-SAJDA
24:N-NISF
23:SAKTA
23:QIF
23:WAQFA
18:FOOTNOTE MARKER
18:SIGN SAFHA
7:DISPUTED END OF AYAH
7:TURNED DAMMA BELOW
7:CURLY FATHA
13:DAMMA
13:KASRA
13:FATHATAN
13:DAMMATAN
13:KASRATAN
7:TONE ONE DOT ABOVE
12:TWO DOTS ABOVE
12:LOOP ABOVE
12:ONE DOT BELOW
12:TWO DOTS BELOW
12:LOOP BELOW
7:OPEN FATHATAN
12:DAMMATAN
12:KASRATAN
7:SMALL HIGH WAW
7:FATHA WITH RING
18:DOT ABOVE
7:KASRA WITH DOT BELOW
7:LEFT ARROWHEAD ABOVE
7:RIGHT ARROWHEAD ABOVE
7:LEFT ARROWHEAD BELOW
7:RIGHT ARROWHEAD BELOW
7:DOUBLE RIGHT ARROWHEAD ABOVE
35: WITH DOT
7:RIGHT ARROWHEAD ABOVE WITH DOT
7:DAMMA WITH DOT
7:MARK SIDEWAYS NOON GHUNNA
0:DEVANAGARI SIGN INVERTED CANDRABINDU
16:CANDRABINDU
16:ANUSVARA
16:VISARGA
11:LETTER SHORT A
18:A
19:A
18:I
19:I
18:U
19:U
18:VOCALIC R
26:L
18:CANDRA E
18:SHORT E
18:E
18:AI
18:CANDRA O
18:SHORT O
18:O
18:AU
18:KA
19:HA
18:GA
19:HA
18:NGA
18:CA
19:HA
18:JA
19:HA
18:NYA
18:TTA
20:HA
18:DDA
20:HA
18:NNA
18:TA
19:HA
18:DA
19:HA
18:NA
19:NNA
18:PA
19:HA
18:BA
19:HA
18:MA
18:YA
18:RA
19:RA
18:LA
19:LA
20:LA
18:VA
18:SHA
19:SA
19:A
18:HA
11:VOWEL SIGN OE
23:OE
11:SIGN NUKTA
16:AVAGRAHA
11:VOWEL SIGN AA
22:I
23:I
22:U
23:U
22:VOCALIC R
31:R
22:CANDRA E
22:SHORT E
22:E
22:AI
22:CANDRA O
22:SHORT O
22:O
22:AU
11:SIGN VIRAMA
11:VOWEL SIGN PRISHTHAMATRA E
22:AW
11:OM
11:STRESS SIGN UDATTA
23:ANUDATTA
11:GRAVE ACCENT
11:ACUTE ACCENT
11:VOWEL SIGN CANDRA LONG E
22:UE
23:UE
11:LETTER QA
18:KHHA
18:GHHA
18:ZA
18:DDDHA
18:RHA
18:FA
18:YYA
18:VOCALIC RR
26:LL
11:VOWEL SIGN VOCALIC L
31:L
11:DANDA
12:OUBLE DANDA
12:IGIT ZERO
17:ONE
17:TWO
18:HREE
17:FOUR
18:IVE
17:SIX
18:EVEN
17:EIGHT
17:NINE
11:ABBREVIATION SIGN
11:SIGN HIGH SPACING DOT
11:LETTER CANDRA A
18:OE
19:OE
18:AW
18:UE
19:UE
18:MARWARI DDA
18:ZHA
18:HEAVY YA
18:GGA
18:JJA
18:GLOTTAL STOP
18:DDDA
18:BBA
0:BENGALI ANJI
8:SIGN CANDRABINDU
13:ANUSVARA
13:VISARGA
@985
8:LETTER A
16:A
15:I
16:I
15:U
16:U
15:VOCALIC R
23:L
@98F
15:E
15:AI
@993
15:O
15:AU
15:KA
16:HA
15:GA
16:HA
15:NGA
15:CA
16:HA
15:JA
16:HA
15:NYA
15:TTA
17:HA
15:DDA
17:HA
15:NNA
15:TA
16:HA
15:DA
16:HA
15:NA
@9AA
15:PA
16:HA
15:BA
16:HA
15:MA
15:YA
15:RA
@9B2
15:LA
@9B6
15:SHA
16:SA
16:A
15:HA
@9BC
8:SIGN NUKTA
13:AVAGRAHA
8:VOWEL SIGN AA
19:I
20:I
19:U
20:U
19:VOCALIC R
28:R
@9C7
19:E
19:AI
@9CB
19:O
19:AU
8:SIGN VIRAMA
8:LETTER KHANDA TA
@9D7
8:AU LENGTH MARK
@9DC
8:LETTER RRA
16:HA
@9DF
15:YYA
15:VOCALIC RR
23:LL
8:VOWEL SIGN VOCALIC L
28:L
@9E6
8:DIGIT ZERO
14:ONE
14:TWO
15:HREE
14:FOUR
15:IVE
14:SIX
15:EVEN
14:EIGHT
14:NINE
8:LETTER RA WITH MIDDLE DIAGONAL
23:LOWER DIAGONAL
8:RUPEE MARK
14:SIGN
8:CURRENCY NUMERATOR ONE
27:TWO
28:HREE
27:FOUR
27:ONE LESS THAN THE DENOMINATOR
17:DENOMINATOR SIXTEEN
8:ISSHAR
8:GANDA MARK
8:LETTER VEDIC ANUSVARA
8:ABBREVIATION SIGN
8:SANDHI MARK
@A01
0:GURMUKHI SIGN ADAK BINDI
14:BINDI
14:VISARGA
@A05
9:LETTER A
17:A
16:I
17:I
16:U
17:U
@A0F
16:EE
16:AI
@A13
16:OO
16:AU
16:KA
17:HA
16:GA
17:HA
16:NGA
16:CA
17:HA
16:JA
17:HA
16:NYA
16:TTA
18:HA
16:DDA
18:HA
16:NNA
16:TA
17:HA
16:DA
17:HA
16:NA
@A2A
16:PA
17:HA
16:BA
17:HA
16:MA
16:YA
16:RA
@A32
16:LA
17:LA
@A35
16:VA
16:SHA
@A38
17:A
16:HA
@A3C
9:SIGN NUKTA
@A3E
9:VOWEL SIGN AA
20:I
21:I
20:U
21:U
@A47
20:EE
20:AI
@A4B
20:OO
20:AU
9:SIGN VIRAMA
@A51
14:UDAAT
@A59
9:LETTER KHHA
16:GHHA
16:ZA
16:RRA
@A5E
16:FA
@A66
9:DIGIT ZERO
15:ONE
15:TWO
16:HREE
15:FOUR
16:IVE
15:SIX
16:EVEN
15:EIGHT
15:NINE
9:TIPPI
9:ADDAK
9:IRI
9:URA
9:EK ONKAR
9:SIGN YAKASH
9:ABBREVIATION SIGN
@A81
2:JARATI SIGN CANDRABINDU
14:ANUSVARA
14:VISARGA
@A85
9:LETTER A
17:A
16:I
17:I
16:U
17:U
16:VOCALIC R
24:L
9:VOWEL CANDRA E
@A8F
9:LETTER E
16:AI
9:VOWEL CANDRA O
@A93
9:LETTER O
16:AU
16:KA
17:HA
16:GA
17:HA
16:NGA
16:CA
17:HA
16:JA
17:HA
16:NYA
16:TTA
18:HA
16:DDA
18:HA
16:NNA
16:TA
17:HA
16:DA
17:HA
16:NA
@AAA
16:PA
17:HA
16:BA
17:HA
16:MA
16:YA
16:RA
@AB2
16:LA
17:LA
@AB5
16:VA
16:SHA
17:SA
17:A
16:HA
@ABC
9:SIGN NUKTA
14:AVAGRAHA
9:VOWEL SIGN AA
20:I
21:I
20:U
21:U
20:VOCALIC R
29:R
20:CANDRA E
@AC7
20:E
20:AI
20:CANDRA O
@ACB
20:O
20:AU
9:SIGN VIRAMA
@AD0
9:OM
@AE0
9:LETTER VOCALIC RR
24:LL
9:VOWEL SIGN VOCALIC L
29:L
@AE6
9:DIGIT ZERO
15:ONE
15:TWO
16:HREE
15:FOUR
16:IVE
15:SIX
16:EVEN
15:EIGHT
15:NINE
9:ABBREVIATION SIGN
9:RUPEE SIGN
@AF9
9:LETTER ZHA
9:SIGN SUKUN
15:HADDA
14:MADDAH
14:THREE-DOT NUKTA ABOVE
14:CIRCLE NUKTA ABOVE
14:TWO-CIRCLE NUKTA ABOVE
@B01
0:ORIYA SIGN CANDRABINDU
11:ANUSVARA
11:VISARGA
@B05
6:LETTER A
14:A
13:I
14:I
13:U
14:U
13:VOCALIC R
21:L
@B0F
13:E
13:AI
@B13
13:O
13:AU
13:KA
14:HA
13:GA
14:HA
13:NGA
13:CA
14:HA
13:JA
14:HA
13:NYA
13:TTA
15:HA
13:DDA
15:HA
13:NNA
13:TA
14:HA
13:DA
14:HA
13:NA
@B2A
13:PA
14:HA
13:BA
14:HA
13:MA
13:YA
13:RA
@B32
13:LA
14:LA
@B35
13:VA
13:SHA
14:SA
14:A
13:HA
@B3C
6:SIGN NUKTA
11:AVAGRAHA
6:VOWEL SIGN AA
17:I
18:I
17:U
18:U
17:VOCALIC R
26:R
@B47
17:E
17:AI
@B4B
17:O
17:AU
6:SIGN VIRAMA
@B55
11:OVERLINE
6:AI LENGTH MARK
7:U LENGTH MARK
@B5C
6:LETTER RRA
14:HA
@B5F
13:YYA
13:VOCALIC RR
21:LL
6:VOWEL SIGN VOCALIC L
26:L
@B66
6:DIGIT ZERO
12:ONE
12:TWO
13:HREE
12:FOUR
13:IVE
12:SIX
13:EVEN
12:EIGHT
12:NINE
6:ISSHAR
6:LETTER WA
6:FRACTION ONE QUARTER
19:HALF
15:THREE QUARTERS
15:ONE SIXTEENTH
19:EIGHTH
15:THREE SIXTEENTHS
@B82
0:TAMIL SIGN ANUSVARA
11:VISARGA
@B85
6:LETTER A
14:A
13:I
14:I
13:U
14:U
@B8E
13:E
14:E
13:AI
@B92
13:O
14:O
13:AU
13:KA
@B99
13:NGA
13:CA
@B9C
13:JA
@B9E
13:NYA
13:TTA
@BA3
13:NNA
13:TA
@BA8
13:NA
14:NNA
13:PA
@BAE
13:MA
13:YA
13:RA
14:RA
13:LA
14:LA
15:LA
13:VA
13:SHA
14:SA
14:A
13:HA
@BBE
6:VOWEL SIGN AA
17:I
18:I
17:U
18:U
@BC6
17:E
18:E
17:AI
@BCA
17:O
18:O
17:AU
6:SIGN VIRAMA
@BD0
6:OM
@BD7
6:AU LENGTH MARK
@BE6
6:DIGIT ZERO
12:ONE
12:TWO
13:HREE
12:FOUR
13:IVE
12:SIX
13:EVEN
12:EIGHT
12:NINE
6:NUMBER TEN
13:ONE HUNDRED
17:THOUSAND
6:DAY SIGN
6:MONTH SIGN
6:YEAR SIGN
6:DEBIT SIGN
6:CREDIT SIGN
6:AS ABOVE SIGN
6:RUPEE SIGN
6:NUMBER SIGN
@C00
1:ELUGU SIGN COMBINING CANDRABINDU ABOVE
13:ANDRABINDU
12:ANUSVARA
12:VISARGA
12:COMBINING ANUSVARA ABOVE
7:LETTER A
15:A
14:I
15:I
14:U
15:U
14:VOCALIC R
22:L
@C0E
14:E
15:E
14:AI
@C12
14:O
15:O
14:AU
14:KA
15:HA
14:GA
15:HA
14:NGA
14:CA
15:HA
14:JA
15:HA
14:NYA
14:TTA
16:HA
14:DDA
16:HA
14:NNA
14:TA
15:HA
14:DA
15:HA
14:NA
@C2A
14:PA
15:HA
14:BA
15:HA
14:MA
14:YA
14:RA
15:RA
14:LA
15:LA
16:LA
14:VA
14:SHA
15:SA
15:A
14:HA
@C3C
7:SIGN NUKTA
12:AVAGRAHA
7:VOWEL SIGN AA
18:I
19:I
18:U
19:U
18:VOCALIC R
27:R
@C46
18:E
19:E
18:AI
@C4A
18:O
19:O
18:AU
7:SIGN VIRAMA
@C55
7:LENGTH MARK
7:AI LENGTH MARK
@C58
7:LETTER TSA
14:DZA
14:RRRA
@C5D
14:NAKAARA POLLU
@C60
14:VOCALIC RR
22:LL
7:VOWEL SIGN VOCALIC L
27:L
@C66
7:DIGIT ZERO
13:ONE
13:TWO
14:HREE
13:FOUR
14:IVE
13:SIX
14:EVEN
13:EIGHT
13:NINE
@C77
7:SIGN SIDDHAM
7:FRACTION DIGIT ZERO FOR ODD POWERS OF FOUR
22:ONE FOR ODD POWERS OF FOUR
22:TWO FOR ODD POWERS OF FOUR
23:HREE FOR ODD POWERS OF FOUR
22:ONE FOR EVEN POWERS OF FOUR
22:TWO FOR EVEN POWERS OF FOUR
23:HREE FOR EVEN POWERS OF FOUR
7:SIGN TUUMU
0:KANNADA SIGN SPACING CANDRABINDU
13:CANDRABINDU
13:ANUSVARA
13:VISARGA
13:SIDDHAM
8:LETTER A
16:A
15:I
16:I
15:U
16:U
15:VOCALIC R
23:L
@C8E
15:E
16:E
15:AI
@C92
15:O
16:O
15:AU
15:KA
16:HA
15:GA
16:HA
15:NGA
15:CA
16:HA
15:JA
16:HA
15:NYA
15:TTA
17:HA
15:DDA
17:HA
15:NNA
15:TA
16:HA
15:DA
16:HA
15:NA
@CAA
15:PA
16:HA
15:BA
16:HA
15:MA
15:YA
15:RA
16:RA
15:LA
16:LA
@CB5
15:VA
15:SHA
16:SA
16:A
15:HA
@CBC
8:SIGN NUKTA
13:AVAGRAHA
8:VOWEL SIGN AA
19:I
20:I
19:U
20:U
19:VOCALIC R
28:R
@CC6
19:E
20:E
19:AI
@CCA
19:O
20:O
19:AU
8:SIGN VIRAMA
@CD5
8:LENGTH MARK
8:AI LENGTH MARK
@CDD
8:LETTER NAKAARA POLLU
15:FA
@CE0
15:VOCALIC RR
23:LL
8:VOWEL SIGN VOCALIC L
28:L
@CE6
8:DIGIT ZERO
14:ONE
14:TWO
15:HREE
14:FOUR
15:IVE
14:SIX
15:EVEN
14:EIGHT
14:NINE
@CF1
8:SIGN JIHVAMULIYA
13:UPADHMANIYA
@D00
0:MALAYALAM SIGN COMBINING ANUSVARA ABOVE
16:ANDRABINDU
15:ANUSVARA
15:VISARGA
10:LETTER VEDIC ANUSVARA
17:A
18:A
17:I
18:I
17:U
18:U
17:VOCALIC R
25:L
@D0E
17:E
18:E
17:AI
@D12
17:O
18:O
17:AU
17:KA
18:HA
17:GA
18:HA
17:NGA
17:CA
18:HA
17:JA
18:HA
17:NYA
17:TTA
19:HA
17:DDA
19:HA
17:NNA
17:TA
18:HA
17:DA
18:HA
17:NA
18:NNA
17:PA
18:HA
17:BA
18:HA
17:MA
17:YA
17:RA
18:RA
17:LA
18:LA
19:LA
17:VA
17:SHA
18:SA
18:A
17:HA
17:TTTA
10:SIGN VERTICAL BAR VIRAMA
15:CIRCULAR VIRAMA
15:AVAGRAHA
10:VOWEL SIGN AA
21:I
22:I
21:U
22:U
21:VOCALIC R
30:R
@D46
21:E
22:E
21:AI
@D4A
21:O
22:O
21:AU
10:SIGN VIRAMA
10:LETTER DOT REPH
10:SIGN PARA
@D54
10:LETTER CHILLU M
24:Y
24:LLL
10:AU LENGTH MARK
10:FRACTION ONE ONE-HUNDRED-AND-SIXTIETH
23:FORTIETH
19:THREE EIGHTIETHS
19:ONE TWENTIETH
24:ENTH
19:THREE TWENTIETHS
19:ONE FIFTH
10:LETTER ARCHAIC II
17:VOCALIC RR
25:LL
10:VOWEL SIGN VOCALIC L
30:L
@D66
10:DIGIT ZERO
16:ONE
16:TWO
17:HREE
16:FOUR
17:IVE
16:SIX
17:EVEN
16:EIGHT
16:NINE
10:NUMBER TEN
17:ONE HUNDRED
21:THOUSAND
10:FRACTION ONE QUARTER
23:HALF
19:THREE QUARTERS
19:ONE SIXTEENTH
23:EIGHTH
19:THREE SIXTEENTHS
10:DATE MARK
10:LETTER CHILLU NN
25:
24:RR
24:L
25:L
24:K
@D81
0:SINHALA SIGN CANDRABINDU
13:ANUSVARAYA
13:VISARGAYA
@D85
8:LETTER AYANNA
16:AYANNA
16:EYANNA
17:EYANNA
15:IYANNA
16:IYANNA
15:UYANNA
16:UYANNA
15:IRUYANNA
18:UYANNA
16:LUYANNA
18:UYANNA
15:EYANNA
16:EYANNA
15:AIYANNA
15:OYANNA
16:OYANNA
15:AUYANNA
@D9A
16:LPAPRAANA KAYANNA
15:MAHAAPRAANA KAYANNA
15:ALPAPRAANA GAYANNA
15:MAHAAPRAANA GAYANNA
15:KANTAJA NAASIKYAYA
15:SANYAKA GAYANNA
15:ALPAPRAANA CAYANNA
15:MAHAAPRAANA CAYANNA
15:ALPAPRAANA JAYANNA
15:MAHAAPRAANA JAYANNA
15:TAALUJA NAASIKYAYA
23:SANYOOGA NAAKSIKYAYA
15:SANYAKA JAYANNA
15:ALPAPRAANA TTAYANNA
15:MAHAAPRAANA TTAYANNA
15:ALPAPRAANA DDAYANNA
15:MAHAAPRAANA DDAYANNA
16:UURDHAJA NAYANNA
15:SANYAKA DDAYANNA
15:ALPAPRAANA TAYANNA
15:MAHAAPRAANA TAYANNA
15:ALPAPRAANA DAYANNA
15:MAHAAPRAANA DAYANNA
15:DANTAJA NAYANNA
@DB3
15:SANYAKA DAYANNA
15:ALPAPRAANA PAYANNA
15:MAHAAPRAANA PAYANNA
15:ALPAPRAANA BAYANNA
15:MAHAAPRAANA BAYANNA
17:YANNA
15:AMBA BAYANNA
15:YAYANNA
15:RAYANNA
@DBD
15:DANTAJA LAYANNA
@DC0
15:VAYANNA
15:TAALUJA SAYANNA
15:MUURDHAJA SAYANNA
15:DANTAJA SAYANNA
15:HAYANNA
15:MUURDHAJA LAYANNA
15:FAYANNA
@DCA
8:SIGN AL-LAKUNA
@DCF
8:VOWEL SIGN AELA-PILLA
19:KETTI AEDA-PILLA
19:DIGA AEDA-PILLA
19:KETTI IS-PILLA
19:DIGA IS-PILLA
19:KETTI PAA-PILLA
@DD6
19:DIGA PAA-PILLA
@DD8
19:GAETTA-PILLA
19:KOMBUVA
19:DIGA KOMBUVA
19:KOMBU DEKA
24:VA HAA AELA-PILLA
31:DIGA AELA-PILLA
31:GAYANUKITTA
19:GAYANUKITTA
@DE6
8:LITH DIGIT ZERO
19:ONE
19:TWO
20:HREE
19:FOUR
20:IVE
19:SIX
20:EVEN
19:EIGHT
19:NINE
@DF2
8:VOWEL SIGN DIGA GAETTA-PILLA
26:YANUKITTA
8:PUNCTUATION KUNDDALIYA
@E01
0:THAI CHARACTER KO KAI
16:HO KHAI
21:UAT
21:WAI
21:ON
19:RAKHANG
15:NGO NGU
15:CHO CHAN
21:ING
21:ANG
15:SO SO
15:CHO CHOE
15:YO YING
15:DO CHADA
15:TO PATAK
16:HO THAN
19:NANGMONTHO
19:PHUTHAO
15:NO NEN
15:DO DEK
15:TO TAO
16:HO THUNG
21:AHAN
21:ONG
15:NO NU
15:BO BAIMAI
15:PO PLA
16:HO PHUNG
15:FO FA
15:PHO PHAN
15:FO FAN
15:PHO SAMPHAO
15:MO MA
15:YO YAK
15:RO RUA
16:U
15:LO LING
16:U
15:WO WAEN
15:SO SALA
18:RUSI
18:SUA
15:HO HIP
15:LO CHULA
15:O ANG
15:HO NOKHUK
15:PAIYANNOI
15:SARA A
15:MAI HAN-AKAT
15:SARA AA
21:M
20:I
21:I
20:UE
22:E
21:
21:U
15:PHINTHU
@E3F
6:URRENCY SYMBOL BAHT
6:HARACTER SARA E
20:AE
20:O
20:AI MAIMUAN
27:ALAI
15:LAKKHANGYAO
15:MAIYAMOK
18:TAIKHU
18: EK
19:THO
20:RI
19:CHATTAWA
15:THANTHAKHAT
15:NIKHAHIT
15:YAMAKKAN
15:FONGMAN
5:DIGIT ZERO
11:ONE
11:TWO
12:HREE
11:FOUR
12:IVE
11:SIX
12:EVEN
11:EIGHT
11:NINE
5:CHARACTER ANGKHANKHU
15:KHOMUT
@E81
0:LAO LETTER KO
12:HO SUNG
@E84
15:TAM
@E86
11:PALI GHA
11:NGO
11:CO
11:PALI CHA
11:SO TAM
@E8C
11:PALI JHA
11:NYO
11:PALI NYA
16:TTA
18:HA
16:DDA
18:HA
16:NNA
11:DO
11:TO
12:HO SUNG
15:TAM
11:PALI DHA
11:NO
11:BO
11:PO
12:HO SUNG
11:FO TAM
11:PHO TAM
11:FO SUNG
11:PALI BHA
11:MO
11:YO
11:LO LING
@EA5
15:OOT
@EA7
11:WO
11:SANSKRIT SHA
21:SA
12:O SUNG
11:HO SUNG
11:PALI LLA
11:O
11:HO TAM
4:ELLIPSIS
4:VOWEL SIGN A
15:MAI KAN
15:AA
16:M
15:I
16:I
15:Y
16:Y
15:U
16:U
4:SIGN PALI VIRAMA
4:VOWEL SIGN MAI KON
4:SEMIVOWEL SIGN LO
19:NYO
@EC0
4:VOWEL SIGN E
16:I
15:O
15:AY
16:I
@EC6
4:KO LA
@EC8
4:TONE MAI EK
13:THO
14:I
13:CATAWA
4:CANCELLATION MARK
4:NIGGAHITA
@ED0
4:DIGIT ZERO
10:ONE
10:TWO
11:HREE
10:FOUR
11:IVE
10:SIX
11:EVEN
10:EIGHT
10:NINE
@EDC
4:HO NO
7:MO
4:LETTER KHMU GO
16:NYO
@F00
0:TIBETAN SYLLABLE OM
8:MARK GTER YIG MGO TRUNCATED A
26:-UM RNAM BCAD MA
30:GTER TSHEG MA
13:INITIAL YIG MGO MDUN MA
13:CLOSING YIG MGO SGAB MA
14:ARET YIG MGO PHUR SHAD MA
13:YIG MGO TSHEG SHAD MA
13:SBRUL SHAD
13:BSKUR YIG MGO
14:KA- SHOG YIG MGO
13:INTERSYLLABIC TSHEG
13:DELIMITER TSHEG BSTAR
13:SHAD
13:NYIS SHAD
13:TSHEG SHAD
13:NYIS TSHEG SHAD
13:RIN CHEN SPUNGS SHAD
14:GYA GRAM SHAD
13:CARET -DZUD RTAGS ME LONG CAN
13:GTER TSHEG
8:LOGOTYPE SIGN CHAD RTAGS
22:LHAG RTAGS
8:ASTROLOGICAL SIGN SGRA GCAN -CHAR RTAGS
26:-KHYUD PA
26:SDONG TSHUGS
8:SIGN RDEL DKAR GCIG
24:NYIS
24:SUM
18:NAG GCIG
23:NYIS
18:DKAR RDEL NAG
8:DIGIT ZERO
14:ONE
14:TWO
15:HREE
14:FOUR
15:IVE
14:SIX
15:EVEN
14:EIGHT
14:NINE
14:HALF ONE
19:TWO
20:HREE
19:FOUR
20:IVE
19:SIX
20:EVEN
19:EIGHT
19:NINE
19:ZERO
8:MARK BSDUS RTAGS
13:NGAS BZUNG NYI ZLA
13:CARET -DZUD RTAGS BZHI MIG CAN
13:NGAS BZUNG SGOR RTAGS
13:CHE MGO
13:TSA -PHRU
13:GUG RTAGS GYON
25:AS
13:ANG KHANG GYON
25:AS
8:SIGN YAR TSHES
13:MAR TSHES
8:LETTER KA
16:HA
15:GA
16:HA
15:NGA
15:CA
16:HA
15:JA
@F49
15:NYA
15:TTA
17:HA
15:DDA
17:HA
15:NNA
15:TA
16:HA
15:DA
16:HA
15:NA
15:PA
16:HA
15:BA
16:HA
15:MA
15:TSA
17:HA
15:DZA
17:HA
15:WA
15:ZHA
16:A
15:-A
15:YA
15:RA
15:LA
15:SHA
16:SA
16:A
15:HA
15:A
15:KSSA
15:FIXED-FORM RA
15:KKA
15:RRA
@F71
8:VOWEL SIGN AA
19:I
20:I
19:U
20:U
19:VOCALIC R
28:R
27:L
28:L
19:E
20:E
19:O
20:O
8:SIGN RJES SU NGA RO
14:NAM BCAD
8:VOWEL SIGN REVERSED I
29:I
8:SIGN NYI ZLA NAA DA
13:SNA LDAN
8:MARK HALANTA
13:PALUTA
8:SIGN LCI RTAGS
13:YANG RTAGS
13:LCE TSA CAN
13:MCHU CAN
13:GRU CAN RGYINGS
17:MED RGYINGS
13:INVERTED MCHU CAN
9:UBJOINED SIGN LCE TSA CAN
23:MCHU CAN
23:INVERTED MCHU CAN
18:LETTER KA
26:HA
25:GA
26:HA
25:NGA
25:CA
26:HA
25:JA
@F99
25:NYA
25:TTA
27:HA
25:DDA
27:HA
25:NNA
25:TA
26:HA
25:DA
26:HA
25:NA
25:PA
26:HA
25:BA
26:HA
25:MA
25:TSA
27:HA
25:DZA
27:HA
25:WA
25:ZHA
26:A
25:-A
25:YA
25:RA
25:LA
25:SHA
26:SA
26:A
25:HA
25:A
25:KSSA
25:FIXED-FORM WA
36:YA
36:RA
@FBE
8:KU RU KHA
17: BZHI MIG CAN
8:CANTILLATION SIGN HEAVY BEAT
26:LIGHT BEAT
26:CANG TE-U
26:SBUB -CHAL
8:SYMBOL DRIL BU
15:RDO RJE
15:PADMA GDAN
15:RDO RJE RGYA GRAM
15:PHUR PA
15:NOR BU
21: NYIS -KHYIL
22:GSUM -KHYIL
22:BZHI -KHYIL
@FCE
9:IGN RDEL NAG RDEL DKAR
22:GSUM
8:MARK BSKA- SHOG GI MGO RGYAN
13:MNYAM YIG GI MGO RGYAN
13:NYIS TSHEG
13:INITIAL BRDA RNYING YIG MGO MDUN MA
13:CLOSING BRDA RNYING YIG MGO SGAB MA
0:RIGHT-FACING SVASTI SIGN
0:LEFT-FACING SVASTI SIGN
0:RIGHT-FACING SVASTI SIGN WITH DOTS
0:LEFT-FACING SVASTI SIGN WITH DOTS
0:TIBETAN MARK LEADING MCHAN RTAGS
13:TRAILING MCHAN RTAGS
@1000
0:MYANMAR LETTER KA
16:HA
15:GA
16:HA
15:NGA
15:CA
16:HA
15:JA
16:HA
15:NYA
16:NYA
15:TTA
17:HA
15:DDA
17:HA
15:NNA
15:TA
16:HA
15:DA
16:HA
15:NA
15:PA
16:HA
15:BA
16:HA
15:MA
15:YA
15:RA
15:LA
15:WA
15:SA
15:HA
15:LLA
15:A
15:SHAN A
15:I
16:I
15:U
16:U
15:E
15:MON E
15:O
15:AU
8:VOWEL SIGN TALL AA
19:AA
19:I
20:I
19:U
20:U
19:E
19:AI
19:MON II
23:O
19:E ABOVE
8:SIGN ANUSVARA
13:DOT BELOW
13:VISARGA
15:RAMA
13:ASAT
8:CONSONANT SIGN MEDIAL YA
30:RA
30:WA
30:HA
8:LETTER GREAT SA
8:DIGIT ZERO
14:ONE
14:TWO
15:HREE
14:FOUR
15:IVE
14:SIX
15:EVEN
14:EIGHT
14:NINE
8:SIGN LITTLE SECTION
13:SECTION
9:YMBOL LOCATIVE
15:COMPLETED
15:AFOREMENTIONED
15:GENITIVE
8:LETTER SHA
16:SA
15:VOCALIC R
24:R
23:L
24:L
8:VOWEL SIGN VOCALIC R
28:R
27:L
28:L
8:LETTER MON NGA
19:JHA
19:BBA
21:E
8:CONSONANT SIGN MON MEDIAL NA
34:MA
34:LA
8:LETTER SGAW KAREN SHA
8:VOWEL SIGN SGAW KAREN EU
8:TONE MARK SGAW KAREN HATHI
29:KE PHO
8:LETTER WESTERN PWO KAREN THA
33:PWA
8:VOWEL SIGN WESTERN PWO KAREN EU
37:UE
8:SIGN WESTERN PWO KAREN TONE-1
36:2
36:3
36:4
36:5
8:LETTER EASTERN PWO KAREN NNA
33:YWA
33:GHWA
8:VOWEL SIGN GEBA KAREN I
19:KAYAH OE
25:U
25:EE
8:LETTER SHAN KA
21:HA
20:GA
20:CA
20:ZA
20:NYA
20:DA
20:NA
20:PHA
20:FA
20:BA
20:THA
20:HA
8:CONSONANT SIGN SHAN MEDIAL WA
8:VOWEL SIGN SHAN AA
24:E
25: ABOVE
24:FINAL Y
8:SIGN SHAN TONE-2
23:3
23:5
23:6
18:COUNCIL TONE-2
31:3
26:EMPHATIC TONE
8:LETTER RUMAI PALAUNG FA
8:SIGN RUMAI PALAUNG TONE-5
9:HAN DIGIT ZERO
19:ONE
19:TWO
20:HREE
19:FOUR
20:IVE
19:SIX
20:EVEN
19:EIGHT
19:NINE
9:IGN KHAMTI TONE-1
25:3
8:VOWEL SIGN AITON A
26:I
8:SYMBOL SHAN ONE
20:EXCLAMATION
0:GEORGIAN CAPITAL LETTER AN
24:BAN
24:GAN
24:DON
24:EN
24:VIN
24:ZEN
24:TAN
24:IN
24:KAN
24:LAS
24:MAN
24:NAR
24:ON
24:PAR
24:ZHAR
24:RAE
24:SAN
24:TAR
24:UN
24:PHAR
24:KHAR
24:GHAN
24:QAR
24:SHIN
24:CHIN
25:AN
24:JIL
24:CIL
25:HAR
24:XAN
24:JHAN
24:HAE
25:E
25:IE
24:WE
24:HAR
25:OE
@10C7
24:YN
@10CD
24:AEN
@10D0
9:LETTER AN
16:BAN
16:GAN
16:DON
16:EN
16:VIN
16:ZEN
16:TAN
16:IN
16:KAN
16:LAS
16:MAN
16:NAR
16:ON
16:PAR
16:ZHAR
16:RAE
16:SAN
16:TAR
16:UN
16:PHAR
16:KHAR
16:GHAN
16:QAR
16:SHIN
16:CHIN
17:AN
16:JIL
16:CIL
17:HAR
16:XAN
16:JHAN
16:HAE
17:E
17:IE
16:WE
16:HAR
17:OE
16:FI
16:YN
16:ELIFI
16:TURNED GAN
16:AIN
9:PARAGRAPH SEPARATOR
0:MODIFIER LETTER GEORGIAN NAR
0:GEORGIAN LETTER AEN
16:HARD SIGN
16:LABIAL SIGN
0:HANGUL CHOSEONG KIYEOK
16:SSANGKIYEOK
16:NIEUN
16:TIKEUT
16:SSANGTIKEUT
16:RIEUL
16:MIEUM
16:PIEUP
16:SSANGPIEUP
17:IOS
17:SANGSIOS
16:IEUNG
16:CIEUC
16:SSANGCIEUC
16:CHIEUCH
16:KHIEUKH
16:THIEUTH
16:PHIEUPH
16:HIEUH
16:NIEUN-KIYEOK
16:SSANGNIEUN
16:NIEUN-TIKEUT
22:PIEUP
16:TIKEUT-KIYEOK
16:RIEUL-NIEUN
16:SSANGRIEUL
16:RIEUL-HIEUH
16:KAPYEOUNRIEUL
16:MIEUM-PIEUP
16:KAPYEOUNMIEUM
16:PIEUP-KIYEOK
22:NIEUN
22:TIKEUT
22:SIOS
26:-KIYEOK
27:TIKEUT
27:PIEUP
23:SANGSIOS
23:IOS-CIEUC
22:CIEUC
23:HIEUCH
22:THIEUTH
22:PHIEUPH
16:KAPYEOUNPIEUP
24:SSANGPIEUP
16:SIOS-KIYEOK
21:NIEUN
21:TIKEUT
21:RIEUL
21:MIEUM
21:PIEUP
26:-KIYEOK
21:SSANGSIOS
21:IEUNG
21:CIEUC
22:HIEUCH
21:KHIEUKH
21:THIEUTH
21:PHIEUPH
21:HIEUH
16:CHITUEUMSIOS
25:SANGSIOS
17:EONGCHIEUMSIOS
28:SANGSIOS
16:PANSIOS
16:IEUNG-KIYEOK
22:TIKEUT
22:MIEUM
22:PIEUP
22:SIOS
22:PANSIOS
16:SSANGIEUNG
16:IEUNG-CIEUC
23:HIEUCH
22:THIEUTH
22:PHIEUPH
16:YESIEUNG
16:CIEUC-IEUNG
17:HITUEUMCIEUC
24:SSANGCIEUC
17:EONGCHIEUMCIEUC
27:SSANGCIEUC
17:HIEUCH-KHIEUKH
24:HIEUH
19:TUEUMCHIEUCH
17:EONGCHIEUMCHIEUCH
16:PHIEUPH-PIEUP
16:KAPYEOUNPHIEUPH
16:SSANGHIEUH
16:YEORINHIEUH
16:KIYEOK-TIKEUT
16:NIEUN-SIOS
22:CIEUC
22:HIEUH
16:TIKEUT-RIEUL
16:FILLER
7:JUNGSEONG FILLER
17:A
18:E
17:YA
19:E
17:EO
18:
17:YEO
19:
17:O
17:WA
19:E
17:OE
17:YO
17:U
17:WEO
19:
18:I
17:YU
17:EU
17:YI
17:I
17:A-O
19:U
17:YA-O
20:YO
17:EO-O
20:U
20:EU
17:YEO-O
21:U
17:O-EO
20:
19:YE
19:O
19:U
17:YO-YA
22:E
21:EO
20:O
20:I
17:U-A
20:E
19:EO-EU
19:YE
19:U
17:YU-A
20:EO
21:
20:YEO
22:
20:U
20:I
17:EU-U
20:EU
17:YI-U
17:I-A
19:YA
19:O
19:U
19:EU
19:ARAEA
17:ARAEA
22:-EO
23:U
23:I
17:SSANGARAEA
17:A-EU
17:YA-U
18:EO-YA
17:O-YA
21:E
8:ONGSEONG KIYEOK
17:SSANGKIYEOK
17:KIYEOK-SIOS
17:NIEUN
22:-CIEUC
23:HIEUH
17:TIKEUT
17:RIEUL
22:-KIYEOK
23:MIEUM
23:PIEUP
23:SIOS
23:THIEUTH
23:PHIEUPH
23:HIEUH
17:MIEUM
17:PIEUP
22:-SIOS
17:SIOS
18:SANGSIOS
17:IEUNG
17:CIEUC
18:HIEUCH
17:KHIEUKH
17:THIEUTH
17:PHIEUPH
17:HIEUH
17:KIYEOK-RIEUL
24:SIOS-KIYEOK
17:NIEUN-KIYEOK
23:TIKEUT
23:SIOS
23:PANSIOS
23:THIEUTH
17:TIKEUT-KIYEOK
24:RIEUL
17:RIEUL-KIYEOK-SIOS
23:NIEUN
23:TIKEUT
29:-HIEUH
17:SSANGRIEUL
17:RIEUL-MIEUM-KIYEOK
29:SIOS
23:PIEUP-SIOS
29:HIEUH
23:KAPYEOUNPIEUP
23:SSANGSIOS
23:PANSIOS
23:KHIEUKH
23:YEORINHIEUH
17:MIEUM-KIYEOK
23:RIEUL
23:PIEUP
23:SIOS
24:SANGSIOS
23:PANSIOS
23:CHIEUCH
23:HIEUH
17:KAPYEOUNMIEUM
17:PIEUP-RIEUL
23:PHIEUPH
23:HIEUH
17:KAPYEOUNPIEUP
17:SIOS-KIYEOK
22:TIKEUT
22:RIEUL
22:PIEUP
17:PANSIOS
17:IEUNG-KIYEOK
23:SSANGKIYEOK
17:SSANGIEUNG
17:IEUNG-KHIEUKH
17:YESIEUNG
25:-SIOS
26:PANSIOS
17:PHIEUPH-PIEUP
17:KAPYEOUNPHIEUPH
17:HIEUH-NIEUN
23:RIEUL
23:MIEUM
23:PIEUP
17:YEORINHIEUH
17:KIYEOK-NIEUN
24:PIEUP
24:CHIEUCH
24:KHIEUKH
24:HIEUH
17:SSANGNIEUN
0:ETHIOPIC SYLLABLE HA
19:U
19:I
19:AA
19:EE
20:
19:O
20:A
18:LA
19:U
19:I
19:AA
19:EE
20:
19:O
19:WA
18:HHA
20:U
20:I
20:AA
20:EE
21:
20:O
20:WA
18:MA
19:U
19:I
19:AA
19:EE
20:
19:O
19:WA
18:SZA
20:U
20:I
20:AA
20:EE
21:
20:O
20:WA
18:RA
19:U
19:I
19:AA
19:EE
20:
19:O
19:WA
18:SA
19:U
19:I
19:AA
19:EE
20:
19:O
19:WA
19:HA
20:U
20:I
20:AA
20:EE
21:
20:O
20:WA
18:QA
19:U
19:I
19:AA
19:EE
20:
19:O
20:A
19:WA
@124A
20:I
20:AA
20:EE
21:
@1250
19:HA
20:U
20:I
20:AA
20:EE
21:
20:O
@1258
20:WA
@125A
21:I
21:AA
21:EE
22:
@1260
18:BA
19:U
19:I
19:AA
19:EE
20:
19:O
19:WA
18:VA
19:U
19:I
19:AA
19:EE
20:
19:O
19:WA
18:TA
19:U
19:I
19:AA
19:EE
20:
19:O
19:WA
18:CA
19:U
19:I
19:AA
19:EE
20:
19:O
19:WA
18:XA
19:U
19:I
19:AA
19:EE
20:
19:O
20:A
19:WA
@128A
20:I
20:AA
20:EE
21:
@1290
18:NA
19:U
19:I
19:AA
19:EE
20:
19:O
19:WA
19:YA
20:U
20:I
20:AA
20:EE
21:
20:O
20:WA
18:GLOTTAL A
26:U
26:I
26:AA
26:EE
27:
26:O
26:WA
18:KA
19:U
19:I
19:AA
19:EE
20:
19:O
20:A
19:WA
@12B2
20:I
20:AA
20:EE
21:
@12B8
19:XA
20:U
20:I
20:AA
20:EE
21:
20:O
@12C0
20:WA
@12C2
21:I
21:AA
21:EE
22:
@12C8
18:WA
19:U
19:I
19:AA
19:EE
20:
19:O
20:A
18:PHARYNGEAL A
29:U
29:I
29:AA
29:EE
30:
29:O
@12D8
18:ZA
19:U
19:I
19:AA
19:EE
20:
19:O
19:WA
19:HA
20:U
20:I
20:AA
20:EE
21:
20:O
20:WA
18:YA
19:U
19:I
19:AA
19:EE
20:
19:O
20:A
18:DA
19:U
19:I
19:AA
19:EE
20:
19:O
19:WA
19:DA
20:U
20:I
20:AA
20:EE
21:
20:O
20:WA
18:JA
19:U
19:I
19:AA
19:EE
20:
19:O
19:WA
18:GA
19:U
19:I
19:AA
19:EE
20:
19:O
20:A
19:WA
@1312
20:I
20:AA
20:EE
21:
@1318
19:GA
20:U
20:I
20:AA
20:EE
21:
20:O
20:WAA
18:THA
20:U
20:I
20:AA
20:EE
21:
20:O
20:WA
18:CHA
20:U
20:I
20:AA
20:EE
21:
20:O
20:WA
18:PHA
20:U
20:I
20:AA
20:EE
21:
20:O
20:WA
18:TSA
20:U
20:I
20:AA
20:EE
21:
20:O
20:WA
19:ZA
20:U
20:I
20:AA
20:EE
21:
20:O
21:A
18:FA
19:U
19:I
19:AA
19:EE
20:
19:O
19:WA
18:PA
19:U
19:I
19:AA
19:EE
20:
19:O
19:WA
18:RYA
18:MYA
18:FYA
@135D
9:COMBINING GEMINATION AND VOWEL LENGTH MARK
19:VOWEL LENGTH MARK
19:GEMINATION MARK
9:SECTION MARK
9:WORDSPACE
9:FULL STOP
9:COMMA
9:SEMICOLON
9:COLON
9:PREFACE COLON
9:QUESTION MARK
9:PARAGRAPH SEPARATOR
9:DIGIT ONE
15:TWO
16:HREE
15:FOUR
16:IVE
15:SIX
16:EVEN
15:EIGHT
15:NINE
9:NUMBER TEN
17:WENTY
17:HIRTY
16:FORTY
17:IFTY
16:SIXTY
17:EVENTY
16:EIGHTY
16:NINETY
16:HUNDRED
16:TEN THOUSAND
@1380
9:SYLLABLE SEBATBEIT MWA
18:MWI
20:EE
21:
18:SEBATBEIT BWA
18:BWI
20:EE
21:
18:SEBATBEIT FWA
18:FWI
20:EE
21:
18:SEBATBEIT PWA
18:PWI
20:EE
21:
9:TONAL MARK YIZET
20:DERET
20:RIKRIK
20:SHORT RIKRIK
20:DIFAT
20:KENAT
20:CHIRET
20:HIDET
20:DERET-HIDET
20:KURT
@13A0
0:CHEROKEE LETTER A
16:E
16:I
16:O
16:U
16:V
16:GA
16:KA
16:GE
17:I
17:O
17:U
17:V
16:HA
17:E
17:I
17:O
17:U
17:V
16:LA
17:E
17:I
17:O
17:U
17:V
16:MA
17:E
17:I
17:O
17:U
16:NA
16:HNA
16:NAH
17:E
17:I
17:O
17:U
17:V
16:QUA
18:E
18:I
18:O
18:U
18:V
16:SA
17:
17:E
17:I
17:O
17:U
17:V
16:DA
16:TA
16:DE
16:TE
16:DI
16:TI
16:DO
17:U
17:V
17:LA
16:TLA
18:E
18:I
18:O
18:U
18:V
17:SA
18:E
18:I
18:O
18:U
18:V
16:WA
17:E
17:I
17:O
17:U
17:V
16:YA
17:E
17:I
17:O
17:U
17:V
16:MV
@13F8
9:SMALL LETTER YE
23:I
23:O
23:U
23:V
22:MV
@1400
1:ANADIAN SYLLABICS HYPHEN
19:E
19:AAI
19:I
20:I
19:O
20:O
19:Y-CREE OO
19:CARRIER EE
27:I
19:A
20:A
19:WE
21:ST-CREE WE
20:I
20:EST-CREE WI
20:II
20:EST-CREE WII
20:O
20:EST-CREE WO
20:OO
20:EST-CREE WOO
19:NASKAPI WOO
19:WA
20:EST-CREE WA
20:AA
20:EST-CREE WAA
19:NASKAPI WAA
19:AI
19:Y-CREE W
19:GLOTTAL STOP
19:FINAL ACUTE
25:GRAVE
25:BOTTOM HALF RING
25:TOP HALF RING
25:RIGHT HALF RING
27:NG
25:DOUBLE ACUTE
32:SHORT VERTICAL STROKES
25:MIDDLE DOT
25:SHORT HORIZONTAL STROKE
25:PLUS
25:DOWN TACK
19:EN
19:IN
19:ON
19:AN
19:PE
20:AAI
20:I
21:I
20:O
21:O
19:Y-CREE POO
19:CARRIER HEE
28:I
19:PA
21:A
20:WE
19:WEST-CREE PWE
19:PWI
19:WEST-CREE PWI
19:PWII
19:WEST-CREE PWII
19:PWO
19:WEST-CREE PWO
19:PWOO
19:WEST-CREE PWOO
19:PWA
19:WEST-CREE PWA
19:PWAA
19:WEST-CREE PWAA
19:Y-CREE PWAA
19:P
19:WEST-CREE P
19:CARRIER H
19:TE
20:AAI
20:I
21:I
20:O
21:O
19:Y-CREE TOO
19:CARRIER DEE
28:I
19:TA
21:A
20:WE
19:WEST-CREE TWE
19:TWI
19:WEST-CREE TWI
19:TWII
19:WEST-CREE TWII
19:TWO
19:WEST-CREE TWO
19:TWOO
19:WEST-CREE TWOO
19:TWA
19:WEST-CREE TWA
19:TWAA
19:WEST-CREE TWAA
19:NASKAPI TWAA
19:T
20:TE
21:I
21:O
21:A
19:KE
20:AAI
20:I
21:I
20:O
21:O
19:Y-CREE KOO
19:KA
21:A
20:WE
19:WEST-CREE KWE
19:KWI
19:WEST-CREE KWI
19:KWII
19:WEST-CREE KWII
19:KWO
19:WEST-CREE KWO
19:KWOO
19:WEST-CREE KWOO
19:KWA
19:WEST-CREE KWA
19:KWAA
19:WEST-CREE KWAA
19:NASKAPI KWAA
19:K
20:W
19:SOUTH-SLAVEY KEH
33:IH
33:OH
33:AH
19:CE
20:AAI
20:I
21:I
20:O
21:O
19:Y-CREE COO
19:CA
21:A
20:WE
19:WEST-CREE CWE
19:CWI
19:WEST-CREE CWI
19:CWII
19:WEST-CREE CWII
19:CWO
19:WEST-CREE CWO
19:CWOO
19:WEST-CREE CWOO
19:CWA
19:WEST-CREE CWA
19:CWAA
19:WEST-CREE CWAA
19:NASKAPI CWAA
19:C
19:SAYISI TH
19:ME
20:AAI
20:I
21:I
20:O
21:O
19:Y-CREE MOO
19:MA
21:A
20:WE
19:WEST-CREE MWE
19:MWI
19:WEST-CREE MWI
19:MWII
19:WEST-CREE MWII
19:MWO
19:WEST-CREE MWO
19:MWOO
19:WEST-CREE MWOO
19:MWA
19:WEST-CREE MWA
19:MWAA
19:WEST-CREE MWAA
19:NASKAPI MWAA
19:M
19:WEST-CREE M
19:MH
19:ATHAPASCAN M
19:SAYISI M
19:NE
20:AAI
20:I
21:I
20:O
21:O
19:Y-CREE NOO
19:NA
21:A
20:WE
19:WEST-CREE NWE
19:NWA
19:WEST-CREE NWA
19:NWAA
19:WEST-CREE NWAA
19:NASKAPI NWAA
20:
19:CARRIER NG
19:NH
19:LE
20:AAI
20:I
21:I
20:O
21:O
19:Y-CREE LOO
19:LA
21:A
20:WE
19:WEST-CREE LWE
19:LWI
19:WEST-CREE LWI
19:LWII
19:WEST-CREE LWII
19:LWO
19:WEST-CREE LWO
19:LWOO
19:WEST-CREE LWOO
19:LWA
19:WEST-CREE LWA
19:LWAA
19:WEST-CREE LWAA
19:L
19:WEST-CREE L
19:MEDIAL L
19:SE
20:AAI
20:I
21:I
20:O
21:O
19:Y-CREE SOO
19:SA
21:A
20:WE
19:WEST-CREE SWE
19:SWI
19:WEST-CREE SWI
19:SWII
19:WEST-CREE SWII
19:SWO
19:WEST-CREE SWO
19:SWOO
19:WEST-CREE SWOO
19:SWA
19:WEST-CREE SWA
19:SWAA
19:WEST-CREE SWAA
19:NASKAPI SWAA
19:S
19:ATHAPASCAN S
19:SW
19:BLACKFOOT S
19:MOOSE-CREE SK
19:NASKAPI SKW
28:-W
28:PWA
28:TWA
28:KWA
28:CWA
19:SHE
21:I
22:I
21:O
22:O
21:A
22:A
21:WE
19:WEST-CREE SHWE
19:SHWI
19:WEST-CREE SHWI
19:SHWII
19:WEST-CREE SHWII
19:SHWO
19:WEST-CREE SHWO
19:SHWOO
19:WEST-CREE SHWOO
19:SHWA
19:WEST-CREE SHWA
19:SHWAA
19:WEST-CREE SHWAA
19:SH
19:YE
20:AAI
20:I
21:I
20:O
21:O
20:-CREE YOO
20:A
21:A
20:WE
19:WEST-CREE YWE
19:YWI
19:WEST-CREE YWI
19:YWII
19:WEST-CREE YWII
19:YWO
19:WEST-CREE YWO
19:YWOO
19:WEST-CREE YWOO
19:YWA
19:WEST-CREE YWA
19:YWAA
19:WEST-CREE YWAA
19:NASKAPI YWAA
19:Y
19:BIBLE-CREE Y
19:WEST-CREE Y
19:SAYISI YI
19:RE
20:-CREE RE
19:WEST-CREE LE
19:RAAI
20:I
21:I
20:O
21:O
19:WEST-CREE LO
19:RA
21:A
19:WEST-CREE LA
19:RWAA
19:WEST-CREE RWAA
19:R
19:WEST-CREE R
19:MEDIAL R
19:FE
20:AAI
20:I
21:I
20:O
21:O
20:A
21:A
20:WAA
19:WEST-CREE FWAA
19:F
19:THE
19:N-CREE THE
19:THI
19:N-CREE THI
19:THII
19:N-CREE THII
19:THO
22:O
21:A
22:A
21:WAA
19:WEST-CREE THWAA
19:TH
20:THE
22:I
22:O
22:A
22:
20:YE
21:I
21:O
21:A
19:NUNAVIK HE
28:I
29:I
28:O
29:O
28:A
29:A
28:
24:UT H
19:HK
19:QAAI
20:I
21:I
20:O
21:O
20:A
21:A
20:
19:TLHE
22:I
22:O
22:A
19:WEST-CREE RE
30:I
30:O
30:A
19:NGAAI
21:I
22:I
21:O
22:O
21:A
22:A
21:
20:NG
19:SAYISI SHE
28:I
28:O
28:A
19:WOODS-CREE THE
32:I
32:O
32:A
32:
19:LHI
22:I
21:O
22:O
21:A
22:A
21:
19:TH-CREE THE
29:I
30:I
29:O
30:O
29:A
30:A
29:
19:AIVILIK B
19:BLACKFOOT E
29:I
29:O
29:A
29:WE
30:I
30:O
30:A
29:NE
30:I
30:O
30:A
29:KE
30:I
30:O
30:A
19:SAYISI HE
27:I
27:O
27:A
19:CARRIER GHU
29:O
29:E
30:E
29:I
29:A
27:RU
28:O
28:E
29:E
28:I
28:A
27:WU
28:O
28:E
29:E
28:I
28:A
27:HWU
29:O
29:E
30:E
29:I
29:A
27:THU
29:O
29:E
30:E
29:I
29:A
28:TU
29:O
29:E
30:E
29:I
29:A
27:PU
28:O
28:E
29:E
28:I
28:A
28:
27:GU
28:O
28:E
29:E
28:I
28:A
27:KHU
29:O
29:E
30:E
29:I
29:A
28:KU
29:O
29:E
30:E
29:I
29:A
29:
27:NU
28:O
28:E
29:E
28:I
28:A
27:MU
28:O
28:E
29:E
28:I
28:A
27:YU
28:O
28:E
29:E
28:I
28:A
27:JU
19:SAYISI JU
19:CARRIER JO
28:E
29:E
28:I
19:SAYISI JI
19:CARRIER JA
28:JU
29:O
29:E
30:E
29:I
29:A
27:LU
28:O
28:E
29:E
28:I
28:A
27:DLU
29:O
29:E
30:E
29:I
29:A
27:LHU
29:O
29:E
30:E
29:I
29:A
27:TLHU
30:O
30:E
31:E
30:I
30:A
29:U
29:O
29:E
30:E
29:I
29:A
27:ZU
28:O
28:E
29:E
28:I
28:A
28:
27:INITIAL Z
27:DZU
29:O
29:E
30:E
29:I
29:A
27:SU
28:O
28:E
29:E
28:I
28:A
28:HU
29:O
29:E
30:E
29:I
29:A
29:
27:TSU
29:O
29:E
30:E
29:I
29:A
27:CHU
29:O
29:E
30:E
29:I
29:A
27:TTSU
30:O
30:E
31:E
30:I
30:A
20:HI SIGN
19:FULL STOP
19:QAI
19:NGAI
20:NGI
23:I
22:O
23:O
22:A
23:A
19:WOODS-CREE THWEE
33:I
34:I
33:O
34:O
33:A
34:A
30:FINAL TH
19:BLACKFOOT W
0:OGHAM SPACE MARK
6:LETTER BEITH
13:LUIS
13:FEARN
13:SAIL
13:NION
13:UATH
13:DAIR
13:TINNE
13:COLL
14:EIRT
13:MUIN
13:GORT
13:NGEADAL
13:STRAIF
13:RUIS
13:AILM
13:ONN
13:UR
13:EADHADH
13:IODHADH
13:EABHADH
13:OR
13:UILLEANN
13:IFIN
13:EAMHANCHOLL
13:PEITH
6:FEATHER MARK
6:REVERSED FEATHER MARK
@16A0
0:RUNIC LETTER FEHU FEOH FE F
13:V
13:URUZ UR U
13:YR
14:
13:W
13:THURISAZ THURS THORN
13:ETH
13:ANSUZ A
13:OS O
13:AC A
14:ESC
13:LONG-BRANCH-OSS O
13:SHORT-TWIG-OSS O
13:O
14:E
14:N
13:RAIDO RAD REID R
13:KAUNA
13:CEN
13:KAUN K
13:G
13:ENG
13:GEBO GYFU G
14:AR
13:WUNJO WYNN W
13:HAGLAZ H
15:EGL H
13:LONG-BRANCH-HAGALL H
13:SHORT-TWIG-HAGALL H
13:NAUDIZ NYD NAUD N
13:SHORT-TWIG-NAUD N
13:DOTTED-N
13:ISAZ IS ISS I
13:E
13:JERAN J
13:GER
13:LONG-BRANCH-AR AE
13:SHORT-TWIG-AR A
13:IWAZ EOH
13:PERTHO PEORTH P
13:ALGIZ EOLHX
13:SOWILO S
14:IGEL LONG-BRANCH-SOL S
14:HORT-TWIG-SOL S
13:C
13:Z
13:TIWAZ TIR TYR T
13:SHORT-TWIG-TYR T
13:D
13:BERKANAN BEORC BJARKAN B
13:SHORT-TWIG-BJARKAN B
13:DOTTED-P
13:OPEN-P
13:EHWAZ EH E
13:MANNAZ MAN M
13:LONG-BRANCH-MADR M
13:SHORT-TWIG-MADR M
13:LAUKAZ LAGU LOGR L
13:DOTTED-L
13:INGWAZ
16:
13:DAGAZ DAEG D
13:OTHALAN ETHEL O
13:EAR
13:IOR
13:CWEORTH
14:ALC
14:EALC
13:STAN
13:LONG-BRANCH-YR
13:SHORT-TWIG-YR
13:ICELANDIC-YR
13:Q
13:X
6:SINGLE PUNCTUATION
6:MULTIPLE PUNCTUATION
6:CROSS PUNCTUATION
6:ARLAUG SYMBOL
6:TVIMADUR SYMBOL
6:BELGTHOR SYMBOL
6:LETTER K
13:SH
13:OO
13:FRANKS CASKET OS
27:IS
27:EH
27:AC
28:ESC
@1700
0:TAGALOG LETTER A
15:I
15:U
15:KA
15:GA
15:NGA
15:TA
15:DA
15:NA
15:PA
15:BA
15:MA
15:YA
15:RA
15:LA
15:WA
15:SA
15:HA
8:VOWEL SIGN I
19:U
8:SIGN VIRAMA
13:PAMUDPOD
@171F
8:LETTER ARCHAIC RA
0:HANUNOO LETTER A
15:I
15:U
15:KA
15:GA
15:NGA
15:TA
15:DA
15:NA
15:PA
15:BA
15:MA
15:YA
15:RA
15:LA
15:WA
15:SA
15:HA
8:VOWEL SIGN I
19:U
8:SIGN PAMUDPOD
0:PHILIPPINE SINGLE PUNCTUATION
11:DOUBLE PUNCTUATION
@1740
0:BUHID LETTER A
13:I
13:U
13:KA
13:GA
13:NGA
13:TA
13:DA
13:NA
13:PA
13:BA
13:MA
13:YA
13:RA
13:LA
13:WA
13:SA
13:HA
6:VOWEL SIGN I
17:U
@1760
0:TAGBANWA LETTER A
16:I
16:U
16:KA
16:GA
16:NGA
16:TA
16:DA
16:NA
16:PA
16:BA
16:MA
16:YA
@176E
16:LA
16:WA
16:SA
@1772
9:VOWEL SIGN I
20:U
@1780
0:KHMER LETTER KA
14:HA
14:O
14:HO
13:NGO
13:CA
14:HA
14:O
14:HO
13:NYO
13:DA
13:TTHA
13:DO
13:TTHO
13:NNO
13:TA
14:HA
14:O
14:HO
13:NO
13:BA
13:PHA
14:O
14:HO
13:MO
13:YO
13:RO
13:LO
13:VO
13:SHA
14:SO
14:A
13:HA
13:LA
13:QA
6:INDEPENDENT VOWEL QAQ
26:A
25:I
26:I
25:U
26:K
26:U
27:V
24:RY
26:Y
24:LY
26:Y
24:QE
25:AI
25:OO TYPE ONE
33:TWO
25:AU
6:VOWEL INHERENT AQ
22:A
12:SIGN AA
17:I
18:I
17:Y
18:Y
17:U
18:U
18:A
17:OE
17:YA
17:IE
17:E
17:AE
18:I
17:OO
17:AU
6:SIGN NIKAHIT
11:REAHMUK
11:YUUKALEAPINTU
11:MUUSIKATOAN
11:TRIISAP
11:BANTOC
11:ROBAT
11:TOANDAKHIAT
11:KAKABAT
11:AHSDA
11:SAMYOK SANNYA
11:VIRIAM
11:COENG
11:BATHAMASAT
11:KHAN
11:BARIYOOSAN
11:CAMNUC PII KUUH
11:LEK TOO
11:BEYYAL
11:PHNAEK MUAN
11:KOOMUUT
6:CURRENCY SYMBOL RIEL
6:SIGN AVAKRAHASANYA
12:TTHACAN
@17E0
6:DIGIT ZERO
12:ONE
12:TWO
13:HREE
12:FOUR
13:IVE
12:SIX
13:EVEN
12:EIGHT
12:NINE
@17F0
6:SYMBOL LEK ATTAK SON
23:MUOY
23:PII
23:BEI
24:UON
23:PRAM
27:-MUOY
28:PII
28:BEI
29:UON
@1800
0:MONGOLIAN BIRGA
10:ELLIPSIS
10:COMMA
10:FULL STOP
10:COLON
10:FOUR DOTS
10:TODO SOFT HYPHEN
10:SIBE SYLLABLE BOUNDARY MARKER
10:MANCHU COMMA
17:FULL STOP
10:NIRUGU
10:FREE VARIATION SELECTOR ONE
34:TWO
35:HREE
10:VOWEL SEPARATOR
10:FREE VARIATION SELECTOR FOUR
10:DIGIT ZERO
16:ONE
16:TWO
17:HREE
16:FOUR
17:IVE
16:SIX
17:EVEN
16:EIGHT
16:NINE
@1820
10:LETTER A
17:E
17:I
17:O
17:U
17:OE
17:UE
17:EE
17:NA
17:ANG
17:BA
17:PA
17:QA
17:GA
17:MA
17:LA
17:SA
18:HA
17:TA
17:DA
17:CHA
17:JA
17:YA
17:RA
17:WA
17:FA
17:KA
18:HA
17:TSA
17:ZA
17:HAA
17:ZRA
17:LHA
17:ZHI
17:CHI
17:TODO LONG VOWEL SIGN
22:E
22:I
22:O
22:U
22:OE
22:UE
22:ANG
22:BA
22:PA
22:QA
22:GA
22:MA
22:TA
22:DA
22:CHA
22:JA
22:TSA
22:YA
22:WA
22:KA
22:GAA
22:HAA
22:JIA
22:NIA
22:DZA
17:SIBE E
22:I
23:Y
22:UE
23:
22:ANG
22:KA
22:GA
22:HA
22:PA
22:SHA
22:TA
22:DA
22:JA
22:FA
22:GAA
22:HAA
22:TSA
22:ZA
22:RAA
22:CHA
22:ZHA
17:MANCHU I
24:KA
24:RA
24:FA
24:ZHA
17:CHA WITH TWO DOTS
@1880
17:ALI GALI ANUSVARA ONE
26:VISARGA ONE
26:DAMARU
26:UBADAMA
26:INVERTED UBADAMA
26:BALUDA
26:THREE BALUDA
26:A
26:I
26:KA
26:NGA
26:CA
26:TTA
28:HA
26:DDA
26:NNA
26:TA
26:DA
26:PA
27:HA
26:SSA
26:ZHA
27:A
26:AH
17:TODO ALI GALI TA
31:ZHA
17:MANCHU ALI GALI GHA
33:NGA
33:CA
33:JHA
33:TTA
33:DDHA
33:TA
33:DHA
33:SSA
33:CYA
33:ZHA
34:A
17:ALI GALI HALF U
31:YA
17:MANCHU ALI GALI BHA
17:ALI GALI DAGALGA
17:MANCHU ALI GALI LHA
@18B0
0:CANADIAN SYLLABICS OY
19:AY
20:AY
19:WAY
19:POY
20:AY
20:WOY
19:TAY
19:KAY
20:WAY
19:MAY
19:NOY
20:AY
19:LAY
19:SOY
20:AY
20:HOY
21:AY
21:WOY
19:YOY
20:AY
19:RAY
19:NWI
19:OJIBWAY NWI
19:NWII
19:OJIBWAY NWII
19:NWO
19:OJIBWAY NWO
19:NWOO
19:OJIBWAY NWOO
19:RWEE
21:I
22:I
21:O
22:O
21:A
19:OJIBWAY P
27:T
27:K
27:C
27:M
27:N
27:S
28:H
19:EASTERN W
19:WESTERN W
19:FINAL SMALL RING
25:RAISED DOT
19:R-CREE RWE
19:WEST-CREE LOO
30:AA
19:THWE
22:A
20:THWE
22:OO
22:AA
20:LHWE
22:OO
19:SAYISI SHWE
28:OO
26:HOO
19:CARRIER GWU
27:DENE GEE
27:GAA
28:WA
19:SAYISI JUU
19:CARRIER JWA
19:BEAVER DENE L
31:R
19:CARRIER DENTAL S
@1900
0:LIMBU VOWEL-CARRIER LETTER
6:LETTER KA
14:HA
13:GA
14:HA
13:NGA
13:CA
14:HA
13:JA
14:HA
13:YAN
13:TA
14:HA
13:DA
14:HA
13:NA
13:PA
14:HA
13:BA
14:HA
13:MA
13:YA
13:RA
13:LA
13:WA
13:SHA
14:SA
14:A
13:HA
13:GYAN
13:TRA
@1920
6:VOWEL SIGN A
17:I
17:U
17:EE
17:AI
17:OO
17:AU
17:E
17:O
6:SUBJOINED LETTER YA
23:RA
23:WA
@1930
7:MALL LETTER KA
19:NGA
19:ANUSVARA
19:TA
19:NA
19:PA
19:MA
19:RA
19:LA
7:IGN MUKPHRENG
11:KEMPHRENG
11:SA-I
@1940
11:LOO
@1944
6:EXCLAMATION MARK
6:QUESTION MARK
6:DIGIT ZERO
12:ONE
12:TWO
13:HREE
12:FOUR
13:IVE
12:SIX
13:EVEN
12:EIGHT
12:NINE
0:TAI LE LETTER KA
14:XA
14:NGA
14:TSA
14:SA
14:YA
14:TA
15:HA
14:LA
14:PA
15:HA
14:MA
14:FA
14:VA
14:HA
14:QA
14:KHA
14:TSHA
14:NA
14:A
14:I
14:EE
15:H
14:U
14:OO
15:
14:UE
14:E
14:AUE
15:I
@1970
14:TONE-2
19:3
19:4
19:5
19:6
@1980
0:NEW TAI LUE LETTER HIGH QA
19:LOW QA
19:HIGH KA
24:XA
24:NGA
19:LOW KA
23:XA
23:NGA
19:HIGH TSA
24:SA
24:YA
19:LOW TSA
23:SA
23:YA
19:HIGH TA
25:HA
24:NA
19:LOW TA
24:HA
23:NA
19:HIGH PA
25:HA
24:MA
19:LOW PA
24:HA
23:MA
19:HIGH FA
24:VA
24:LA
19:LOW FA
23:VA
23:LA
19:HIGH HA
24:DA
24:BA
19:LOW HA
23:DA
23:BA
19:HIGH KVA
24:XVA
19:LOW KVA
23:XVA
19:HIGH SUA
19:LOW SUA
@19B0
12:VOWEL SIGN VOWEL SHORTENER
23:AA
23:II
23:U
24:U
23:E
23:AE
23:O
24:A
23:UE
23:AY
24:AY
23:UY
23:OY
24:AY
23:UEY
23:IY
12:LETTER FINAL V
25:NG
26:
25:M
25:K
25:D
25:B
12:TONE MARK-1
22:2
@19D0
12:DIGIT ZERO
18:ONE
18:TWO
19:HREE
18:FOUR
19:IVE
18:SIX
19:EVEN
18:EIGHT
18:NINE
12:THAM DIGIT ONE
@19DE
12:SIGN LAE
20:V
0:KHMER SYMBOL PATHAMASAT
13:MUOY KOET
13:PII KOET
13:BEI KOET
14:UON KOET
13:PRAM KOET
17:-MUOY KOET
18:PII KOET
18:BEI KOET
19:UON KOET
13:DAP KOET
16:-MUOY KOET
17:PII KOET
17:BEI KOET
18:UON KOET
17:PRAM KOET
13:TUTEYASAT
13:MUOY ROC
13:PII ROC
13:BEI ROC
14:UON ROC
13:PRAM ROC
17:-MUOY ROC
18:PII ROC
18:BEI ROC
19:UON ROC
13:DAP ROC
16:-MUOY ROC
17:PII ROC
17:BEI ROC
18:UON ROC
17:PRAM ROC
0:BUGINESE LETTER KA
16:GA
16:NGA
18:KA
16:PA
16:BA
16:MA
17:PA
16:TA
16:DA
16:NA
17:RA
16:CA
16:JA
16:NYA
18:CA
16:YA
16:RA
16:LA
16:VA
16:SA
16:A
16:HA
9:VOWEL SIGN I
20:U
20:E
20:O
20:AE
@1A1E
9:PALLAWA
9:END OF SECTION
0:TAI THAM LETTER HIGH KA
22:HA
22:XA
16:LOW KA
21:XA
21:HA
16:NGA
16:HIGH CA
22:HA
16:LOW CA
20:SA
20:CHA
16:NYA
16:RATA
16:HIGH RATHA
16:DA
16:LOW RATHA
16:RANA
16:HIGH TA
22:HA
16:LOW TA
21:HA
16:NA
16:BA
16:HIGH PA
22:HA
21:FA
16:LOW PA
20:FA
20:PHA
16:MA
16:LOW YA
16:HIGH YA
16:RA
17:UE
16:LA
17:UE
16:WA
16:HIGH SHA
22:SA
22:A
21:HA
16:LLA
16:A
16:LOW HA
16:I
17:I
16:U
17:U
16:EE
16:OO
16:LAE
16:GREAT SA
9:CONSONANT SIGN MEDIAL RA
31:LA
24:LA TANG LAI
9:SIGN MAI KANG LAI
9:CONSONANT SIGN FINAL NGA
24:LOW PA
24:HIGH RATHA OR LOW PA
24:MA
24:BA
24:SA
@1A60
9:SIGN SAKOT
9:VOWEL SIGN A
20:MAI SAT
20:AA
20:TALL AA
20:I
21:I
20:UE
21:UE
21:
21:U
20:O
21:A BELOW
21:Y
20:E
20:AE
20:OO
20:AI
20:THAM AI
20:OA ABOVE
9:SIGN MAI KANG
14:TONE-1
19:2
14:KHUEN TONE-3
25:4
25:5
14:RA HAAM
14:MAI SAM
14:KHUEN-LUE KARAN
@1A7F
9:COMBINING CRYPTOGRAMMIC DOT
9:HORA DIGIT ZERO
20:ONE
20:TWO
21:HREE
20:FOUR
21:IVE
20:SIX
21:EVEN
20:EIGHT
20:NINE
@1A90
9:THAM DIGIT ZERO
20:ONE
20:TWO
21:HREE
20:FOUR
21:IVE
20:SIX
21:EVEN
20:EIGHT
20:NINE
@1AA0
9:SIGN WIANG
19:WAAK
14:SAWAN
14:KEOW
14:HOY
14:DOKMAI
14:REVERSED ROTATED RANA
14:MAI YAMOK
14:KAAN
18:KUU
14:SATKAAN
21:KUU
14:HANG
14:CAANG
@1AB0
0:COMBINING DOUBLED CIRCUMFLEX ACCENT
11:IAERESIS-RING
10:INFINITY
10:DOWNWARDS ARROW
10:TRIPLE DOT
10:X-X BELOW
10:WIGGLY LINE BELOW
10:OPEN MARK BELOW
10:DOUBLE OPEN MARK BELOW
10:LIGHT CENTRALIZATION STROKE BELOW
10:STRONG CENTRALIZATION STROKE BELOW
10:PARENTHESES ABOVE
10:DOUBLE PARENTHESES ABOVE
10:PARENTHESES BELOW
22:OVERLAY
10:LATIN SMALL LETTER W BELOW
29:TURNED W BELOW
11:EFT PARENTHESIS ABOVE LEFT
10:RIGHT PARENTHESIS ABOVE RIGHT
10:LEFT PARENTHESIS BELOW LEFT
10:RIGHT PARENTHESIS BELOW RIGHT
10:SQUARE BRACKETS ABOVE
10:NUMBER SIGN ABOVE
10:INVERTED DOUBLE ARCH ABOVE
10:PLUS SIGN ABOVE
10:DOUBLE PLUS SIGN ABOVE
27:BELOW
10:TRIPLE ACUTE ACCENT
10:LATIN SMALL LETTER INSULAR G
37:R
37:T
@1B00
0:BALINESE SIGN ULU RICEM
18:CANDRA
14:CECEK
14:SURANG
14:BISAH
9:LETTER AKARA
21: TEDUNG
16:IKARA
21: TEDUNG
16:UKARA
21: TEDUNG
16:RA REPA
23: TEDUNG
16:LA LENGA
24: TEDUNG
16:EKARA
16:AIKARA
16:OKARA
21: TEDUNG
16:KA
18: MAHAPRANA
16:GA
18: GORA
16:NGA
16:CA
18: LACA
16:JA
18: JERA
16:NYA
16:TA LATIK
19:MURDA MAHAPRANA
16:DA MURDA ALPAPRANA
25:MAHAPRANA
16:NA RAMBAT
16:TA
18: TAWA
16:DA
18: MADU
16:NA
16:PA
18: KAPAL
16:BA
18: KEMBANG
16:MA
16:YA
16:RA
16:LA
16:WA
16:SA SAGA
21:PA
18:
16:HA
9:SIGN REREKAN
9:VOWEL SIGN TEDUNG
20:ULU
23: SARI
20:SUKU
24: ILUT
20:RA REPA
27: TEDUNG
20:LA LENGA
28: TEDUNG
20:TALING
26: REPA
27:TEDUNG
27:REPA TEDUNG
20:PEPET
25: TEDUNG
9:ADEG ADEG
9:LETTER KAF SASAK
17:HOT SASAK
16:TZIR SASAK
16:EF SASAK
16:VE SASAK
16:ZAL SASAK
16:ASYURA SASAK
17:RCHAIC JNYA
@1B50
9:DIGIT ZERO
15:ONE
15:TWO
16:HREE
15:FOUR
16:IVE
15:SIX
16:EVEN
15:EIGHT
15:NINE
9:PANTI
11:MADA
9:WINDU
9:CARIK PAMUNGKAH
15:SIKI
15:PAREREN
9:PAMENENG
9:MUSICAL SYMBOL DONG
25:ENG
25:UNG
25:ANG
28: SURANG
25:ING
25:AENG
25:EUNG
25:AING
26:NG GEDE
24:COMBINING TEGEH
34:ENDEP
34:KEMPUL
38:LI
34:JEGOGAN
34:KEMPUL WITH JEGOGAN
38:LI WITH JEGOGAN
34:BENDE
34:GONG
24:RIGHT-HAND OPEN DUG
41:AG
35:CLOSED TUK
43:AK
24:LEFT-HAND OPEN PANG
40:UNG
34:CLOSED PLAK
43:UK
34:OPEN PING
9:PANTI LANTANG
11:MADA LANTANG
@1B80
0:SUNDANESE SIGN PANYECEK
18:GLAYAR
19:WISAD
10:LETTER A
17:I
17:U
17:AE
17:O
17:E
18:U
17:KA
17:QA
17:GA
17:NGA
17:CA
17:JA
17:ZA
17:NYA
17:TA
17:DA
17:NA
17:PA
17:FA
17:VA
17:BA
17:MA
17:YA
17:RA
17:LA
17:WA
17:SA
17:XA
17:HA
10:CONSONANT SIGN PAMINGKAL
27:NYAKRA
29:IKU
10:VOWEL SIGN PANGHULU
24:YUKU
24:AELAENG
24:OLONG
23:MEPET
23:NEULEUNG
10:SIGN PAMAAEH
15:VIRAMA
10:CONSONANT SIGN PASANGAN MA
34:WA
10:LETTER KHA
17:SYA
10:DIGIT ZERO
16:ONE
16:TWO
17:HREE
16:FOUR
17:IVE
16:SIX
17:EVEN
16:EIGHT
16:NINE
10:AVAGRAHA
10:LETTER REU
17:LEU
17:BHA
17:FINAL K
23:M
0:BATAK LETTER A
13:SIMALUNGUN A
13:HA
13:SIMALUNGUN HA
13:MANDAILING HA
13:BA
13:KARO BA
13:PA
13:SIMALUNGUN PA
13:NA
13:MANDAILING NA
13:WA
13:SIMALUNGUN WA
13:PAKPAK WA
13:GA
13:SIMALUNGUN GA
13:JA
13:DA
13:RA
13:SIMALUNGUN RA
13:MA
13:SIMALUNGUN MA
14:OUTHERN TA
13:NORTHERN TA
13:SA
14:IMALUNGUN SA
13:MANDAILING SA
13:YA
13:SIMALUNGUN YA
13:NGA
13:LA
13:SIMALUNGUN LA
13:NYA
13:CA
13:NDA
13:MBA
13:I
13:U
6:SIGN TOMPI
6:VOWEL SIGN E
17:PAKPAK E
17:EE
17:I
17:KARO I
17:O
17:KARO O
17:U
18: FOR SIMALUNGUN SA
6:CONSONANT SIGN NG
21:H
6:PANGOLAT
9:ONGONAN
@1BFC
6:SYMBOL BINDU NA METEK
19:PINARBORAS
19:JUDUL
19:PANGOLAT
0:LEPCHA LETTER KA
15:LA
15:HA
14:GA
15:LA
14:NGA
14:CA
15:HA
14:JA
14:NYA
14:TA
15:HA
14:DA
14:NA
14:PA
15:LA
15:HA
14:FA
15:LA
14:BA
15:LA
14:MA
15:LA
14:TSA
16:HA
14:DZA
14:YA
14:RA
14:LA
14:HA
15:LA
14:VA
14:SA
15:HA
14:WA
14:A
7:SUBJOINED LETTER YA
24:RA
7:VOWEL SIGN AA
18:I
18:O
19:O
18:U
19:U
18:E
7:CONSONANT SIGN K
22:M
22:L
22:N
22:P
22:R
22:T
22:NYIN-DO
22:KANG
7:SIGN RAN
12:NUKTA
@1C3B
7:PUNCTUATION TA-ROL
19:NYET THYOOM TA-ROL
19:CER-WA
19:TSHOOK CER-WA
25:
7:DIGIT ZERO
13:ONE
13:TWO
14:HREE
13:FOUR
14:IVE
13:SIX
14:EVEN
13:EIGHT
13:NINE
@1C4D
7:LETTER TTA
16:HA
14:DDA
0:OL CHIKI DIGIT ZERO
15:ONE
15:TWO
16:HREE
15:FOUR
16:IVE
15:SIX
16:EVEN
15:EIGHT
15:NINE
9:LETTER LA
16:AT
17:G
17:NG
17:L
16:LAA
16:AAK
18:J
18:M
18:W
16:LI
16:IS
17:H
17:NY
17:R
16:LU
16:UC
17:D
17:NN
17:Y
16:LE
16:EP
17:DD
17:N
17:RR
16:LO
16:OTT
17:B
17:V
17:H
9:MU TTUDDAG
9:GAAHLAA TTUDDAAG
9:MU-GAAHLAA TTUDDAAG
9:RELAA
9:PHAARKAA
9:AHAD
9:PUNCTUATION MUCAAD
21:DOUBLE MUCAAD
0:CYRILLIC SMALL LETTER ROUNDED VE
22:LONG-LEGGED DE
22:NARROW O
22:WIDE ES
22:TALL TE
23:HREE-LEGGED TE
23:ALL HARD SIGN
27:YAT
22:UNBLENDED UK
@1C90
0:GEORGIAN MTAVRULI CAPITAL LETTER AN
33:BAN
33:GAN
33:DON
33:EN
33:VIN
33:ZEN
33:TAN
33:IN
33:KAN
33:LAS
33:MAN
33:NAR
33:ON
33:PAR
33:ZHAR
33:RAE
33:SAN
33:TAR
33:UN
33:PHAR
33:KHAR
33:GHAN
33:QAR
33:SHIN
33:CHIN
34:AN
33:JIL
33:CIL
34:HAR
33:XAN
33:JHAN
33:HAE
34:E
34:IE
33:WE
33:HAR
34:OE
33:FI
33:YN
33:ELIFI
33:TURNED GAN
33:AIN
@1CBD
34:EN
33:HARD SIGN
33:LABIAL SIGN
0:SUNDANESE PUNCTUATION BINDU SURYA
28:PANGLONG
29:URNAMA
28:CAKRA
28:LEU SATANGA
28:KA SATANGA
28:DA SATANGA
28:BA SATANGA
@1CD0
0:VEDIC TONE KARSHANA
11:SHARA
11:PRENKHA
6:SIGN NIHSHVASA
11:YAJURVEDIC MIDLINE SVARITA
6:TONE YAJURVEDIC AGGRAVATED INDEPENDENT SVARITA
22:INDEPENDENT SVARITA
22:KATHAKA INDEPENDENT SVARITA
11:CANDRA BELOW
11:YAJURVEDIC KATHAKA INDEPENDENT SVARITA SCHROEDER
11:DOUBLE SVARITA
11:TRIPLE SVARITA
11:KATHAKA ANUDATTA
11:DOT BELOW
11:TWO DOTS BELOW
12:HREE DOTS BELOW
11:RIGVEDIC KASHMIRI INDEPENDENT SVARITA
11:ATHARVAVEDIC INDEPENDENT SVARITA
6:SIGN VISARGA SVARITA
19:UDATTA
11:REVERSED VISARGA UDATTA
11:VISARGA ANUDATTA
11:REVERSED VISARGA ANUDATTA
11:VISARGA UDATTA WITH TAIL
19:ANUDATTA WITH TAIL
11:ANUSVARA ANTARGOMUKHA
20:BAHIRGOMUKHA
20:VAMAGOMUKHA
31: WITH TAIL
11:TIRYAK
11:HEXIFORM LONG ANUSVARA
11:LONG ANUSVARA
11:RTHANG LONG ANUSVARA
11:ANUSVARA UBHAYATO MUKHA
12:RDHAVISARGA
11:ROTATED ARDHAVISARGA
6:TONE CANDRA ABOVE
6:SIGN JIHVAMULIYA
11:UPADHMANIYA
11:ATIKRAMA
6:TONE RING ABOVE
11:DOUBLE RING ABOVE
6:SIGN DOUBLE ANUSVARA ANTARGOMUKHA
@1D00
0:LATIN LETTER SMALL CAPITAL A
28:E
6:SMALL LETTER TURNED AE
6:LETTER SMALL CAPITAL BARRED B
27:C
27:D
27:ETH
28:
6:SMALL LETTER TURNED OPEN E
26:I
6:LETTER SMALL CAPITAL J
27:K
27:L WITH STROKE
27:M
27:REVERSED N
27:O
28:PEN O
6:SMALL LETTER SIDEWAYS O
29:PEN O
29: WITH STROKE
19:TURNED OE
6:LETTER SMALL CAPITAL OU
6:SMALL LETTER TOP HALF O
19:BOTTOM HALF O
6:LETTER SMALL CAPITAL P
27:REVERSED R
27:TURNED R
28:
27:U
6:SMALL LETTER SIDEWAYS U
28:DIAERESIZED U
28:TURNED M
6:LETTER SMALL CAPITAL V
27:W
27:Z
27:EZH
13:VOICED LARYNGEAL SPIRANT
13:AIN
0:GREEK LETTER SMALL CAPITAL GAMMA
27:LAMDA
27:PI
27:RHO
27:PSI
0:CYRILLIC LETTER SMALL CAPITAL EL
0:MODIFIER LETTER CAPITAL A
25:E
24:B
25:ARRED B
24:D
24:E
24:REVERSED E
24:G
24:H
24:I
24:J
24:K
24:L
24:M
24:N
24:REVERSED N
24:O
25:U
24:P
24:R
24:T
24:U
24:W
16:SMALL A
22:TURNED A
22:ALPHA
22:TURNED AE
22:B
22:D
22:E
22:SCHWA
22:OPEN E
22:TURNED OPEN E
22:G
22:TURNED I
22:K
22:M
22:ENG
22:O
23:PEN O
22:TOP HALF O
22:BOTTOM HALF O
22:P
22:T
22:U
22:SIDEWAYS U
22:TURNED M
22:V
22:AIN
22:BETA
22:GREEK GAMMA
22:DELTA
22:GREEK PHI
22:CHI
0:LATIN SUBSCRIPT SMALL LETTER I
29:R
29:U
29:V
0:GREEK SUBSCRIPT SMALL LETTER BETA
29:GAMMA
29:RHO
29:PHI
29:CHI
0:LATIN SMALL LETTER UE
19:B WITH MIDDLE TILDE
19:D WITH MIDDLE TILDE
19:F WITH MIDDLE TILDE
19:M WITH MIDDLE TILDE
19:N WITH MIDDLE TILDE
19:P WITH MIDDLE TILDE
19:R WITH MIDDLE TILDE
26:FISHHOOK AND MIDDLE TILDE
19:S WITH MIDDLE TILDE
19:T WITH MIDDLE TILDE
19:Z WITH MIDDLE TILDE
19:TURNED G
0:MODIFIER LETTER CYRILLIC EN
0:LATIN SMALL LETTER INSULAR G
19:TH WITH STRIKETHROUGH
12:CAPITAL LETTER I WITH STROKE
12:LETTER IOTA WITH STROKE
19:P WITH STROKE
12:CAPITAL LETTER U WITH STROKE
12:LETTER UPSILON WITH STROKE
19:B WITH PALATAL HOOK
19:D WITH PALATAL HOOK
19:F WITH PALATAL HOOK
19:G WITH PALATAL HOOK
19:K WITH PALATAL HOOK
19:L WITH PALATAL HOOK
19:M WITH PALATAL HOOK
19:N WITH PALATAL HOOK
19:P WITH PALATAL HOOK
19:R WITH PALATAL HOOK
19:S WITH PALATAL HOOK
19:ESH WITH PALATAL HOOK
19:V WITH PALATAL HOOK
19:X WITH PALATAL HOOK
19:Z WITH PALATAL HOOK
19:A WITH RETROFLEX HOOK
20:LPHA WITH RETROFLEX HOOK
19:D WITH HOOK AND TAIL
19:E WITH RETROFLEX HOOK
19:OPEN E WITH RETROFLEX HOOK
19:REVERSED OPEN E WITH RETROFLEX HOOK
19:SCHWA WITH RETROFLEX HOOK
19:I WITH RETROFLEX HOOK
19:OPEN O WITH RETROFLEX HOOK
19:ESH WITH RETROFLEX HOOK
19:U WITH RETROFLEX HOOK
19:EZH WITH RETROFLEX HOOK
0:MODIFIER LETTER SMALL TURNED ALPHA
22:C
23: WITH CURL
22:ETH
22:REVERSED OPEN E
22:F
22:DOTLESS J WITH STROKE
22:SCRIPT G
22:TURNED H
22:I WITH STROKE
23:OTA
22:CAPITAL I
31: WITH STROKE
22:J WITH CROSSED-TAIL
22:L WITH RETROFLEX HOOK
29:PALATAL HOOK
22:CAPITAL L
22:M WITH HOOK
22:TURNED M WITH LONG LEG
22:N WITH LEFT HOOK
29:RETROFLEX HOOK
22:CAPITAL N
22:BARRED O
22:PHI
22:S WITH HOOK
22:ESH
22:T WITH PALATAL HOOK
22:U BAR
23:PSILON
22:CAPITAL U
22:V WITH HOOK
22:TURNED V
22:Z
23: WITH RETROFLEX HOOK
29:CURL
22:EZH
22:THETA
0:COMBINING DOTTED GRAVE ACCENT
17:ACUTE ACCENT
10:SNAKE BELOW
11:USPENSION MARK
10:MACRON-ACUTE
10:GRAVE-MACRON
10:MACRON-GRAVE
10:ACUTE-MACRON
10:GRAVE-ACUTE-GRAVE
10:ACUTE-GRAVE-ACUTE
10:LATIN SMALL LETTER R BELOW
10:BREVE-MACRON
10:MACRON-BREVE
10:DOUBLE CIRCUMFLEX ABOVE
10:OGONEK ABOVE
10:ZIGZAG BELOW
10:IS BELOW
10:UR ABOVE
11:S ABOVE
10:LATIN SMALL LETTER FLATTENED OPEN A ABOVE
29:AE
30:O
30:V
29:C CEDILLA
29:INSULAR D
29:ETH
29:G
16:LETTER SMALL CAPITAL G
16:SMALL LETTER K
29:L
16:LETTER SMALL CAPITAL L
37:M
16:SMALL LETTER N
16:LETTER SMALL CAPITAL N
37:R
16:SMALL LETTER R ROTUNDA
29:S
29:LONG S
29:Z
29:ALPHA
29:B
30:ETA
29:SCHWA
29:F
29:L WITH DOUBLE MIDDLE TILDE
29:O WITH LIGHT CENTRALIZATION STROKE
29:P
29:ESH
29:U WITH LIGHT CENTRALIZATION STROKE
29:W
29:A WITH DIAERESIS
29:O WITH DIAERESIS
29:U WITH DIAERESIS
10:UP TACK ABOVE
10:KAVYKA ABOVE RIGHT
23:LEFT
10:DOT ABOVE LEFT
10:WIDE INVERTED BRIDGE BELOW
10:DOT BELOW LEFT
11:ELETION MARK
11:OUBLE INVERTED BREVE BELOW
10:ALMOST EQUAL TO BELOW
10:LEFT ARROWHEAD ABOVE
10:RIGHT ARROWHEAD AND DOWN ARROWHEAD BELOW
0:LATIN CAPITAL LETTER A WITH RING BELOW
6:SMALL LETTER A WITH RING BELOW
6:CAPITAL LETTER B WITH DOT ABOVE
6:SMALL LETTER B WITH DOT ABOVE
6:CAPITAL LETTER B WITH DOT BELOW
6:SMALL LETTER B WITH DOT BELOW
6:CAPITAL LETTER B WITH LINE BELOW
6:SMALL LETTER B WITH LINE BELOW
6:CAPITAL LETTER C WITH CEDILLA AND ACUTE
6:SMALL LETTER C WITH CEDILLA AND ACUTE
6:CAPITAL LETTER D WITH DOT ABOVE
6:SMALL LETTER D WITH DOT ABOVE
6:CAPITAL LETTER D WITH DOT BELOW
6:SMALL LETTER D WITH DOT BELOW
6:CAPITAL LETTER D WITH LINE BELOW
6:SMALL LETTER D WITH LINE BELOW
6:CAPITAL LETTER D WITH CEDILLA
6:SMALL LETTER D WITH CEDILLA
6:CAPITAL LETTER D WITH CIRCUMFLEX BELOW
6:SMALL LETTER D WITH CIRCUMFLEX BELOW
6:CAPITAL LETTER E WITH MACRON AND GRAVE
6:SMALL LETTER E WITH MACRON AND GRAVE
6:CAPITAL LETTER E WITH MACRON AND ACUTE
6:SMALL LETTER E WITH MACRON AND ACUTE
6:CAPITAL LETTER E WITH CIRCUMFLEX BELOW
6:SMALL LETTER E WITH CIRCUMFLEX BELOW
6:CAPITAL LETTER E WITH TILDE BELOW
6:SMALL LETTER E WITH TILDE BELOW
6:CAPITAL LETTER E WITH CEDILLA AND BREVE
6:SMALL LETTER E WITH CEDILLA AND BREVE
6:CAPITAL LETTER F WITH DOT ABOVE
6:SMALL LETTER F WITH DOT ABOVE
6:CAPITAL LETTER G WITH MACRON
6:SMALL LETTER G WITH MACRON
6:CAPITAL LETTER H WITH DOT ABOVE
6:SMALL LETTER H WITH DOT ABOVE
6:CAPITAL LETTER H WITH DOT BELOW
6:SMALL LETTER H WITH DOT BELOW
6:CAPITAL LETTER H WITH DIAERESIS
6:SMALL LETTER H WITH DIAERESIS
6:CAPITAL LETTER H WITH CEDILLA
6:SMALL LETTER H WITH CEDILLA
6:CAPITAL LETTER H WITH BREVE BELOW
6:SMALL LETTER H WITH BREVE BELOW
6:CAPITAL LETTER I WITH TILDE BELOW
6:SMALL LETTER I WITH TILDE BELOW
6:CAPITAL LETTER I WITH DIAERESIS AND ACUTE
6:SMALL LETTER I WITH DIAERESIS AND ACUTE
6:CAPITAL LETTER K WITH ACUTE
6:SMALL LETTER K WITH ACUTE
6:CAPITAL LETTER K WITH DOT BELOW
6:SMALL LETTER K WITH DOT BELOW
6:CAPITAL LETTER K WITH LINE BELOW
6:SMALL LETTER K WITH LINE BELOW
6:CAPITAL LETTER L WITH DOT BELOW
6:SMALL LETTER L WITH DOT BELOW
6:CAPITAL LETTER L WITH DOT BELOW AND MACRON
6:SMALL LETTER L WITH DOT BELOW AND MACRON
6:CAPITAL LETTER L WITH LINE BELOW
6:SMALL LETTER L WITH LINE BELOW
6:CAPITAL LETTER L WITH CIRCUMFLEX BELOW
6:SMALL LETTER L WITH CIRCUMFLEX BELOW
6:CAPITAL LETTER M WITH ACUTE
6:SMALL LETTER M WITH ACUTE
6:CAPITAL LETTER M WITH DOT ABOVE
6:SMALL LETTER M WITH DOT ABOVE
6:CAPITAL LETTER M WITH DOT BELOW
6:SMALL LETTER M WITH DOT BELOW
6:CAPITAL LETTER N WITH DOT ABOVE
6:SMALL LETTER N WITH DOT ABOVE
6:CAPITAL LETTER N WITH DOT BELOW
6:SMALL LETTER N WITH DOT BELOW
6:CAPITAL LETTER N WITH LINE BELOW
6:SMALL LETTER N WITH LINE BELOW
6:CAPITAL LETTER N WITH CIRCUMFLEX BELOW
6:SMALL LETTER N WITH CIRCUMFLEX BELOW
6:CAPITAL LETTER O WITH TILDE AND ACUTE
6:SMALL LETTER O WITH TILDE AND ACUTE
6:CAPITAL LETTER O WITH TILDE AND DIAERESIS
6:SMALL LETTER O WITH TILDE AND DIAERESIS
6:CAPITAL LETTER O WITH MACRON AND GRAVE
6:SMALL LETTER O WITH MACRON AND GRAVE
6:CAPITAL LETTER O WITH MACRON AND ACUTE
6:SMALL LETTER O WITH MACRON AND ACUTE
6:CAPITAL LETTER P WITH ACUTE
6:SMALL LETTER P WITH ACUTE
6:CAPITAL LETTER P WITH DOT ABOVE
6:SMALL LETTER P WITH DOT ABOVE
6:CAPITAL LETTER R WITH DOT ABOVE
6:SMALL LETTER R WITH DOT ABOVE
6:CAPITAL LETTER R WITH DOT BELOW
6:SMALL LETTER R WITH DOT BELOW
6:CAPITAL LETTER R WITH DOT BELOW AND MACRON
6:SMALL LETTER R WITH DOT BELOW AND MACRON
6:CAPITAL LETTER R WITH LINE BELOW
6:SMALL LETTER R WITH LINE BELOW
6:CAPITAL LETTER S WITH DOT ABOVE
6:SMALL LETTER S WITH DOT ABOVE
6:CAPITAL LETTER S WITH DOT BELOW
6:SMALL LETTER S WITH DOT BELOW
6:CAPITAL LETTER S WITH ACUTE AND DOT ABOVE
6:SMALL LETTER S WITH ACUTE AND DOT ABOVE
6:CAPITAL LETTER S WITH CARON AND DOT ABOVE
6:SMALL LETTER S WITH CARON AND DOT ABOVE
6:CAPITAL LETTER S WITH DOT BELOW AND DOT ABOVE
6:SMALL LETTER S WITH DOT BELOW AND DOT ABOVE
6:CAPITAL LETTER T WITH DOT ABOVE
6:SMALL LETTER T WITH DOT ABOVE
6:CAPITAL LETTER T WITH DOT BELOW
6:SMALL LETTER T WITH DOT BELOW
6:CAPITAL LETTER T WITH LINE BELOW
6:SMALL LETTER T WITH LINE BELOW
6:CAPITAL LETTER T WITH CIRCUMFLEX BELOW
6:SMALL LETTER T WITH CIRCUMFLEX BELOW
6:CAPITAL LETTER U WITH DIAERESIS BELOW
6:SMALL LETTER U WITH DIAERESIS BELOW
6:CAPITAL LETTER U WITH TILDE BELOW
6:SMALL LETTER U WITH TILDE BELOW
6:CAPITAL LETTER U WITH CIRCUMFLEX BELOW
6:SMALL LETTER U WITH CIRCUMFLEX BELOW
6:CAPITAL LETTER U WITH TILDE AND ACUTE
6:SMALL LETTER U WITH TILDE AND ACUTE
6:CAPITAL LETTER U WITH MACRON AND DIAERESIS
6:SMALL LETTER U WITH MACRON AND DIAERESIS
6:CAPITAL LETTER V WITH TILDE
6:SMALL LETTER V WITH TILDE
6:CAPITAL LETTER V WITH DOT BELOW
6:SMALL LETTER V WITH DOT BELOW
6:CAPITAL LETTER W WITH GRAVE
6:SMALL LETTER W WITH GRAVE
6:CAPITAL LETTER W WITH ACUTE
6:SMALL LETTER W WITH ACUTE
6:CAPITAL LETTER W WITH DIAERESIS
6:SMALL LETTER W WITH DIAERESIS
6:CAPITAL LETTER W WITH DOT ABOVE
6:SMALL LETTER W WITH DOT ABOVE
6:CAPITAL LETTER W WITH DOT BELOW
6:SMALL LETTER W WITH DOT BELOW
6:CAPITAL LETTER X WITH DOT ABOVE
6:SMALL LETTER X WITH DOT ABOVE
6:CAPITAL LETTER X WITH DIAERESIS
6:SMALL LETTER X WITH DIAERESIS
6:CAPITAL LETTER Y WITH DOT ABOVE
6:SMALL LETTER Y WITH DOT ABOVE
6:CAPITAL LETTER Z WITH CIRCUMFLEX
6:SMALL LETTER Z WITH CIRCUMFLEX
6:CAPITAL LETTER Z WITH DOT BELOW
6:SMALL LETTER Z WITH DOT BELOW
6:CAPITAL LETTER Z WITH LINE BELOW
6:SMALL LETTER Z WITH LINE BELOW
19:H WITH LINE BELOW
19:T WITH DIAERESIS
19:W WITH RING ABOVE
19:Y WITH RING ABOVE
19:A WITH RIGHT HALF RING
19:LONG S WITH DOT ABOVE
32:IAGONAL STROKE
31:HIGH STROKE
6:CAPITAL LETTER SHARP S
6:SMALL LETTER DELTA
6:CAPITAL LETTER A WITH DOT BELOW
6:SMALL LETTER A WITH DOT BELOW
6:CAPITAL LETTER A WITH HOOK ABOVE
6:SMALL LETTER A WITH HOOK ABOVE
6:CAPITAL LETTER A WITH CIRCUMFLEX AND ACUTE
6:SMALL LETTER A WITH CIRCUMFLEX AND ACUTE
6:CAPITAL LETTER A WITH CIRCUMFLEX AND GRAVE
6:SMALL LETTER A WITH CIRCUMFLEX AND GRAVE
6:CAPITAL LETTER A WITH CIRCUMFLEX AND HOOK ABOVE
6:SMALL LETTER A WITH CIRCUMFLEX AND HOOK ABOVE
6:CAPITAL LETTER A WITH CIRCUMFLEX AND TILDE
6:SMALL LETTER A WITH CIRCUMFLEX AND TILDE
6:CAPITAL LETTER A WITH CIRCUMFLEX AND DOT BELOW
6:SMALL LETTER A WITH CIRCUMFLEX AND DOT BELOW
6:CAPITAL LETTER A WITH BREVE AND ACUTE
6:SMALL LETTER A WITH BREVE AND ACUTE
6:CAPITAL LETTER A WITH BREVE AND GRAVE
6:SMALL LETTER A WITH BREVE AND GRAVE
6:CAPITAL LETTER A WITH BREVE AND HOOK ABOVE
6:SMALL LETTER A WITH BREVE AND HOOK ABOVE
6:CAPITAL LETTER A WITH BREVE AND TILDE
6:SMALL LETTER A WITH BREVE AND TILDE
6:CAPITAL LETTER A WITH BREVE AND DOT BELOW
6:SMALL LETTER A WITH BREVE AND DOT BELOW
6:CAPITAL LETTER E WITH DOT BELOW
6:SMALL LETTER E WITH DOT BELOW
6:CAPITAL LETTER E WITH HOOK ABOVE
6:SMALL LETTER E WITH HOOK ABOVE
6:CAPITAL LETTER E WITH TILDE
6:SMALL LETTER E WITH TILDE
6:CAPITAL LETTER E WITH CIRCUMFLEX AND ACUTE
6:SMALL LETTER E WITH CIRCUMFLEX AND ACUTE
6:CAPITAL LETTER E WITH CIRCUMFLEX AND GRAVE
6:SMALL LETTER E WITH CIRCUMFLEX AND GRAVE
6:CAPITAL LETTER E WITH CIRCUMFLEX AND HOOK ABOVE
6:SMALL LETTER E WITH CIRCUMFLEX AND HOOK ABOVE
6:CAPITAL LETTER E WITH CIRCUMFLEX AND TILDE
6:SMALL LETTER E WITH CIRCUMFLEX AND TILDE
6:CAPITAL LETTER E WITH CIRCUMFLEX AND DOT BELOW
6:SMALL LETTER E WITH CIRCUMFLEX AND DOT BELOW
6:CAPITAL LETTER I WITH HOOK ABOVE
6:SMALL LETTER I WITH HOOK ABOVE
6:CAPITAL LETTER I WITH DOT BELOW
6:SMALL LETTER I WITH DOT BELOW
6:CAPITAL LETTER O WITH DOT BELOW
6:SMALL LETTER O WITH DOT BELOW
6:CAPITAL LETTER O WITH HOOK ABOVE
6:SMALL LETTER O WITH HOOK ABOVE
6:CAPITAL LETTER O WITH CIRCUMFLEX AND ACUTE
6:SMALL LETTER O WITH CIRCUMFLEX AND ACUTE
6:CAPITAL LETTER O WITH CIRCUMFLEX AND GRAVE
6:SMALL LETTER O WITH CIRCUMFLEX AND GRAVE
6:CAPITAL LETTER O WITH CIRCUMFLEX AND HOOK ABOVE
6:SMALL LETTER O WITH CIRCUMFLEX AND HOOK ABOVE
6:CAPITAL LETTER O WITH CIRCUMFLEX AND TILDE
6:SMALL LETTER O WITH CIRCUMFLEX AND TILDE
6:CAPITAL LETTER O WITH CIRCUMFLEX AND DOT BELOW
6:SMALL LETTER O WITH CIRCUMFLEX AND DOT BELOW
6:CAPITAL LETTER O WITH HORN AND ACUTE
6:SMALL LETTER O WITH HORN AND ACUTE
6:CAPITAL LETTER O WITH HORN AND GRAVE
6:SMALL LETTER O WITH HORN AND GRAVE
6:CAPITAL LETTER O WITH HORN AND HOOK ABOVE
6:SMALL LETTER O WITH HORN AND HOOK ABOVE
6:CAPITAL LETTER O WITH HORN AND TILDE
6:SMALL LETTER O WITH HORN AND TILDE
6:CAPITAL LETTER O WITH HORN AND DOT BELOW
6:SMALL LETTER O WITH HORN AND DOT BELOW
6:CAPITAL LETTER U WITH DOT BELOW
6:SMALL LETTER U WITH DOT BELOW
6:CAPITAL LETTER U WITH HOOK ABOVE
6:SMALL LETTER U WITH HOOK ABOVE
6:CAPITAL LETTER U WITH HORN AND ACUTE
6:SMALL LETTER U WITH HORN AND ACUTE
6:CAPITAL LETTER U WITH HORN AND GRAVE
6:SMALL LETTER U WITH HORN AND GRAVE
6:CAPITAL LETTER U WITH HORN AND HOOK ABOVE
6:SMALL LETTER U WITH HORN AND HOOK ABOVE
6:CAPITAL LETTER U WITH HORN AND TILDE
6:SMALL LETTER U WITH HORN AND TILDE
6:CAPITAL LETTER U WITH HORN AND DOT BELOW
6:SMALL LETTER U WITH HORN AND DOT BELOW
6:CAPITAL LETTER Y WITH GRAVE
6:SMALL LETTER Y WITH GRAVE
6:CAPITAL LETTER Y WITH DOT BELOW
6:SMALL LETTER Y WITH DOT BELOW
6:CAPITAL LETTER Y WITH HOOK ABOVE
6:SMALL LETTER Y WITH HOOK ABOVE
6:CAPITAL LETTER Y WITH TILDE
6:SMALL LETTER Y WITH TILDE
6:CAPITAL LETTER MIDDLE-WELSH LL
6:SMALL LETTER MIDDLE-WELSH LL
6:CAPITAL LETTER MIDDLE-WELSH V
6:SMALL LETTER MIDDLE-WELSH V
6:CAPITAL LETTER Y WITH LOOP
6:SMALL LETTER Y WITH LOOP
0:GREEK SMALL LETTER ALPHA WITH PSILI
30:DASIA
30:PSILI AND VARIA
30:DASIA AND VARIA
30:PSILI AND OXIA
30:DASIA AND OXIA
30:PSILI AND PERISPOMENI
30:DASIA AND PERISPOMENI
6:CAPITAL LETTER ALPHA WITH PSILI
32:DASIA
32:PSILI AND VARIA
32:DASIA AND VARIA
32:PSILI AND OXIA
32:DASIA AND OXIA
32:PSILI AND PERISPOMENI
32:DASIA AND PERISPOMENI
6:SMALL LETTER EPSILON WITH PSILI
32:DASIA
32:PSILI AND VARIA
32:DASIA AND VARIA
32:PSILI AND OXIA
32:DASIA AND OXIA
@1F18
6:CAPITAL LETTER EPSILON WITH PSILI
34:DASIA
34:PSILI AND VARIA
34:DASIA AND VARIA
34:PSILI AND OXIA
34:DASIA AND OXIA
@1F20
6:SMALL LETTER ETA WITH PSILI
28:DASIA
28:PSILI AND VARIA
28:DASIA AND VARIA
28:PSILI AND OXIA
28:DASIA AND OXIA
28:PSILI AND PERISPOMENI
28:DASIA AND PERISPOMENI
6:CAPITAL LETTER ETA WITH PSILI
30:DASIA
30:PSILI AND VARIA
30:DASIA AND VARIA
30:PSILI AND OXIA
30:DASIA AND OXIA
30:PSILI AND PERISPOMENI
30:DASIA AND PERISPOMENI
6:SMALL LETTER IOTA WITH PSILI
29:DASIA
29:PSILI AND VARIA
29:DASIA AND VARIA
29:PSILI AND OXIA
29:DASIA AND OXIA
29:PSILI AND PERISPOMENI
29:DASIA AND PERISPOMENI
6:CAPITAL LETTER IOTA WITH PSILI
31:DASIA
31:PSILI AND VARIA
31:DASIA AND VARIA
31:PSILI AND OXIA
31:DASIA AND OXIA
31:PSILI AND PERISPOMENI
31:DASIA AND PERISPOMENI
6:SMALL LETTER OMICRON WITH PSILI
32:DASIA
32:PSILI AND VARIA
32:DASIA AND VARIA
32:PSILI AND OXIA
32:DASIA AND OXIA
@1F48
6:CAPITAL LETTER OMICRON WITH PSILI
34:DASIA
34:PSILI AND VARIA
34:DASIA AND VARIA
34:PSILI AND OXIA
34:DASIA AND OXIA
@1F50
6:SMALL LETTER UPSILON WITH PSILI
32:DASIA
32:PSILI AND VARIA
32:DASIA AND VARIA
32:PSILI AND OXIA
32:DASIA AND OXIA
32:PSILI AND PERISPOMENI
32:DASIA AND PERISPOMENI
@1F59
6:CAPITAL LETTER UPSILON WITH DASIA
@1F5B
39: AND VARIA
@1F5D
44:OXIA
@1F5F
44:PERISPOMENI
6:SMALL LETTER OMEGA WITH PSILI
30:DASIA
30:PSILI AND VARIA
30:DASIA AND VARIA
30:PSILI AND OXIA
30:DASIA AND OXIA
30:PSILI AND PERISPOMENI
30:DASIA AND PERISPOMENI
6:CAPITAL LETTER OMEGA WITH PSILI
32:DASIA
32:PSILI AND VARIA
32:DASIA AND VARIA
32:PSILI AND OXIA
32:DASIA AND OXIA
32:PSILI AND PERISPOMENI
32:DASIA AND PERISPOMENI
6:SMALL LETTER ALPHA WITH VARIA
30:OXIA
19:EPSILON WITH VARIA
32:OXIA
20:TA WITH VARIA
28:OXIA
19:IOTA WITH VARIA
29:OXIA
19:OMICRON WITH VARIA
32:OXIA
19:UPSILON WITH VARIA
32:OXIA
19:OMEGA WITH VARIA
30:OXIA
@1F80
19:ALPHA WITH PSILI AND YPOGEGRAMMENI
30:DASIA AND YPOGEGRAMMENI
30:PSILI AND VARIA AND YPOGEGRAMMENI
30:DASIA AND VARIA AND YPOGEGRAMMENI
30:PSILI AND OXIA AND YPOGEGRAMMENI
30:DASIA AND OXIA AND YPOGEGRAMMENI
30:PSILI AND PERISPOMENI AND YPOGEGRAMMENI
30:DASIA AND PERISPOMENI AND YPOGEGRAMMENI
6:CAPITAL LETTER ALPHA WITH PSILI AND PROSGEGRAMMENI
32:DASIA AND PROSGEGRAMMENI
32:PSILI AND VARIA AND PROSGEGRAMMENI
32:DASIA AND VARIA AND PROSGEGRAMMENI
32:PSILI AND OXIA AND PROSGEGRAMMENI
32:DASIA AND OXIA AND PROSGEGRAMMENI
32:PSILI AND PERISPOMENI AND PROSGEGRAMMENI
32:DASIA AND PERISPOMENI AND PROSGEGRAMMENI
6:SMALL LETTER ETA WITH PSILI AND YPOGEGRAMMENI
28:DASIA AND YPOGEGRAMMENI
28:PSILI AND VARIA AND YPOGEGRAMMENI
28:DASIA AND VARIA AND YPOGEGRAMMENI
28:PSILI AND OXIA AND YPOGEGRAMMENI
28:DASIA AND OXIA AND YPOGEGRAMMENI
28:PSILI AND PERISPOMENI AND YPOGEGRAMMENI
28:DASIA AND PERISPOMENI AND YPOGEGRAMMENI
6:CAPITAL LETTER ETA WITH PSILI AND PROSGEGRAMMENI
30:DASIA AND PROSGEGRAMMENI
30:PSILI AND VARIA AND PROSGEGRAMMENI
30:DASIA AND VARIA AND PROSGEGRAMMENI
30:PSILI AND OXIA AND PROSGEGRAMMENI
30:DASIA AND OXIA AND PROSGEGRAMMENI
30:PSILI AND PERISPOMENI AND PROSGEGRAMMENI
30:DASIA AND PERISPOMENI AND PROSGEGRAMMENI
6:SMALL LETTER OMEGA WITH PSILI AND YPOGEGRAMMENI
30:DASIA AND YPOGEGRAMMENI
30:PSILI AND VARIA AND YPOGEGRAMMENI
30:DASIA AND VARIA AND YPOGEGRAMMENI
30:PSILI AND OXIA AND YPOGEGRAMMENI
30:DASIA AND OXIA AND YPOGEGRAMMENI
30:PSILI AND PERISPOMENI AND YPOGEGRAMMENI
30:DASIA AND PERISPOMENI AND YPOGEGRAMMENI
6:CAPITAL LETTER OMEGA WITH PSILI AND PROSGEGRAMMENI
32:DASIA AND PROSGEGRAMMENI
32:PSILI AND VARIA AND PROSGEGRAMMENI
32:DASIA AND VARIA AND PROSGEGRAMMENI
32:PSILI AND OXIA AND PROSGEGRAMMENI
32:DASIA AND OXIA AND PROSGEGRAMMENI
32:PSILI AND PERISPOMENI AND PROSGEGRAMMENI
32:DASIA AND PERISPOMENI AND PROSGEGRAMMENI
6:SMALL LETTER ALPHA WITH VRACHY
30:MACRON
30:VARIA AND YPOGEGRAMMENI
30:YPOGEGRAMMENI
30:OXIA AND YPOGEGRAMMENI
@1FB6
30:PERISPOMENI
41: AND YPOGEGRAMMENI
6:CAPITAL LETTER ALPHA WITH VRACHY
32:MACRON
32:VARIA
32:OXIA
32:PROSGEGRAMMENI
6:KORONIS
6:PROSGEGRAMMENI
7:SILI
7:ERISPOMENI
6:DIALYTIKA AND PERISPOMENI
6:SMALL LETTER ETA WITH VARIA AND YPOGEGRAMMENI
28:YPOGEGRAMMENI
28:OXIA AND YPOGEGRAMMENI
@1FC6
28:PERISPOMENI
39: AND YPOGEGRAMMENI
6:CAPITAL LETTER EPSILON WITH VARIA
34:OXIA
22:TA WITH VARIA
30:OXIA
30:PROSGEGRAMMENI
6:PSILI AND VARIA
16:OXIA
16:PERISPOMENI
6:SMALL LETTER IOTA WITH VRACHY
29:MACRON
29:DIALYTIKA AND VARIA
43:OXIA
@1FD6
29:PERISPOMENI
29:DIALYTIKA AND PERISPOMENI
6:CAPITAL LETTER IOTA WITH VRACHY
31:MACRON
31:VARIA
31:OXIA
@1FDD
6:DASIA AND VARIA
16:OXIA
16:PERISPOMENI
6:SMALL LETTER UPSILON WITH VRACHY
32:MACRON
32:DIALYTIKA AND VARIA
46:OXIA
19:RHO WITH PSILI
28:DASIA
19:UPSILON WITH PERISPOMENI
32:DIALYTIKA AND PERISPOMENI
6:CAPITAL LETTER UPSILON WITH VRACHY
34:MACRON
34:VARIA
34:OXIA
21:RHO WITH DASIA
6:DIALYTIKA AND VARIA
20:OXIA
6:VARIA
@1FF2
6:SMALL LETTER OMEGA WITH VARIA AND YPOGEGRAMMENI
30:YPOGEGRAMMENI
30:OXIA AND YPOGEGRAMMENI
@1FF6
30:PERISPOMENI
41: AND YPOGEGRAMMENI
6:CAPITAL LETTER OMICRON WITH VARIA
34:OXIA
23:EGA WITH VARIA
32:OXIA
32:PROSGEGRAMMENI
6:OXIA
6:DASIA
@2000
0:EN QUAD
1:M QUAD
1:N SPACE
1:M SPACE
0:THREE-PER-EM SPACE
0:FOUR-PER-EM SPACE
0:SIX-PER-EM SPACE
0:FIGURE SPACE
0:PUNCTUATION SPACE
0:THIN SPACE
0:HAIR SPACE
0:ZERO WIDTH SPACE
11:NON-JOINER
11:JOINER
0:LEFT-TO-RIGHT MARK
0:RIGHT-TO-LEFT MARK
0:HYPHEN
0:NON-BREAKING HYPHEN
0:FIGURE DASH
0:EN DASH
1:M DASH
0:HORIZONTAL BAR
0:DOUBLE VERTICAL LINE
7:LOW LINE
0:LEFT SINGLE QUOTATION MARK
0:RIGHT SINGLE QUOTATION MARK
0:SINGLE LOW-9 QUOTATION MARK
7:HIGH-REVERSED-9 QUOTATION MARK
0:LEFT DOUBLE QUOTATION MARK
0:RIGHT DOUBLE QUOTATION MARK
0:DOUBLE LOW-9 QUOTATION MARK
7:HIGH-REVERSED-9 QUOTATION MARK
1:AGGER
1:OUBLE DAGGER
0:BULLET
0:TRIANGULAR BULLET
0:ONE DOT LEADER
0:TWO DOT LEADER
0:HORIZONTAL ELLIPSIS
1:YPHENATION POINT
0:LINE SEPARATOR
0:PARAGRAPH SEPARATOR
0:LEFT-TO-RIGHT EMBEDDING
0:RIGHT-TO-LEFT EMBEDDING
0:POP DIRECTIONAL FORMATTING
0:LEFT-TO-RIGHT OVERRIDE
0:RIGHT-TO-LEFT OVERRIDE
0:NARROW NO-BREAK SPACE
0:PER MILLE SIGN
4:TEN THOUSAND SIGN
1:RIME
0:DOUBLE PRIME
0:TRIPLE PRIME
0:REVERSED PRIME
9:DOUBLE PRIME
9:TRIPLE PRIME
0:CARET
0:SINGLE LEFT-POINTING ANGLE QUOTATION MARK
7:RIGHT-POINTING ANGLE QUOTATION MARK
0:REFERENCE MARK
0:DOUBLE EXCLAMATION MARK
0:INTERROBANG
0:OVERLINE
0:UNDERTIE
0:CHARACTER TIE
1:ARET INSERTION POINT
0:ASTERISM
0:HYPHEN BULLET
0:FRACTION SLASH
0:LEFT SQUARE BRACKET WITH QUILL
0:RIGHT SQUARE BRACKET WITH QUILL
0:DOUBLE QUESTION MARK
0:QUESTION EXCLAMATION MARK
0:EXCLAMATION QUESTION MARK
0:TIRONIAN SIGN ET
0:REVERSED PILCROW SIGN
0:BLACK LEFTWARDS BULLET
6:RIGHTWARDS BULLET
0:LOW ASTERISK
0:REVERSED SEMICOLON
0:CLOSE UP
0:TWO ASTERISKS ALIGNED VERTICALLY
0:COMMERCIAL MINUS SIGN
0:SWUNG DASH
0:INVERTED UNDERTIE
0:FLOWER PUNCTUATION MARK
0:THREE DOT PUNCTUATION
0:QUADRUPLE PRIME
0:FOUR DOT PUNCTUATION
1:IVE DOT PUNCTUATION
0:TWO DOT PUNCTUATION
0:FOUR DOT MARK
0:DOTTED CROSS
0:TRICOLON
0:VERTICAL FOUR DOTS
0:MEDIUM MATHEMATICAL SPACE
0:WORD JOINER
0:FUNCTION APPLICATION
0:INVISIBLE TIMES
10:SEPARATOR
10:PLUS
@2066
0:LEFT-TO-RIGHT ISOLATE
0:RIGHT-TO-LEFT ISOLATE
0:FIRST STRONG ISOLATE
0:POP DIRECTIONAL ISOLATE
0:INHIBIT SYMMETRIC SWAPPING
0:ACTIVATE SYMMETRIC SWAPPING
0:INHIBIT ARABIC FORM SHAPING
0:ACTIVATE ARABIC FORM SHAPING
0:NATIONAL DIGIT SHAPES
1:OMINAL DIGIT SHAPES
0:SUPERSCRIPT ZERO
12:LATIN SMALL LETTER I
@2074
12:FOUR
13:IVE
12:SIX
13:EVEN
12:EIGHT
12:NINE
12:PLUS SIGN
12:MINUS
12:EQUALS SIGN
12:LEFT PARENTHESIS
12:RIGHT PARENTHESIS
12:LATIN SMALL LETTER N
2:BSCRIPT ZERO
10:ONE
10:TWO
11:HREE
10:FOUR
11:IVE
10:SIX
11:EVEN
10:EIGHT
10:NINE
10:PLUS SIGN
10:MINUS
10:EQUALS SIGN
10:LEFT PARENTHESIS
10:RIGHT PARENTHESIS
@2090
0:LATIN SUBSCRIPT SMALL LETTER A
29:E
29:O
29:X
29:SCHWA
29:H
29:K
29:L
29:M
29:N
29:P
29:S
29:T
@20A0
0:EURO-CURRENCY SIGN
0:COLON SIGN
1:RUZEIRO SIGN
0:FRENCH FRANC SIGN
0:LIRA SIGN
0:MILL SIGN
0:NAIRA SIGN
0:PESETA SIGN
0:RUPEE SIGN
0:WON SIGN
0:NEW SHEQEL SIGN
0:DONG SIGN
0:EURO SIGN
0:KIP SIGN
0:TUGRIK SIGN
0:DRACHMA SIGN
0:GERMAN PENNY SIGN
0:PESO SIGN
0:GUARANI SIGN
0:AUSTRAL SIGN
0:HRYVNIA SIGN
0:CEDI SIGN
0:LIVRE TOURNOIS SIGN
0:SPESMILO SIGN
0:TENGE SIGN
0:INDIAN RUPEE SIGN
0:TURKISH LIRA SIGN
0:NORDIC MARK SIGN
0:MANAT SIGN
0:RUBLE SIGN
0:LARI SIGN
0:BITCOIN SIGN
0:SOM SIGN
@20D0
0:COMBINING LEFT HARPOON ABOVE
10:RIGHT HARPOON ABOVE
10:LONG VERTICAL LINE OVERLAY
10:SHORT VERTICAL LINE OVERLAY
10:ANTICLOCKWISE ARROW ABOVE
10:CLOCKWISE ARROW ABOVE
10:LEFT ARROW ABOVE
10:RIGHT ARROW ABOVE
12:NG OVERLAY
10:CLOCKWISE RING OVERLAY
10:ANTICLOCKWISE RING OVERLAY
10:THREE DOTS ABOVE
10:FOUR DOTS ABOVE
10:ENCLOSING CIRCLE
20:SQUARE
20:DIAMOND
20:CIRCLE BACKSLASH
10:LEFT RIGHT ARROW ABOVE
10:ENCLOSING SCREEN
20:KEYCAP
20:UPWARD POINTING TRIANGLE
10:REVERSE SOLIDUS OVERLAY
10:DOUBLE VERTICAL STROKE OVERLAY
10:ANNUITY SYMBOL
10:TRIPLE UNDERDOT
10:WIDE BRIDGE ABOVE
10:LEFTWARDS ARROW OVERLAY
11:ONG DOUBLE SOLIDUS OVERLAY
10:RIGHTWARDS HARPOON WITH BARB DOWNWARDS
10:LEFTWARDS HARPOON WITH BARB DOWNWARDS
14: ARROW BELOW
10:RIGHT ARROW BELOW
10:ASTERISK ABOVE
@2100
0:ACCOUNT OF
1:DDRESSED TO THE SUBJECT
0:DOUBLE-STRUCK CAPITAL C
1:EGREE CELSIUS
0:CENTRE LINE SYMBOL
1:ARE OF
2:DA UNA
0:EULER CONSTANT
0:SCRUPLE
0:DEGREE FAHRENHEIT
0:SCRIPT SMALL G
7:CAPITAL H
0:BLACK-LETTER CAPITAL H
0:DOUBLE-STRUCK CAPITAL H
0:PLANCK CONSTANT
15: OVER TWO PI
0:SCRIPT CAPITAL I
0:BLACK-LETTER CAPITAL I
0:SCRIPT CAPITAL L
7:SMALL L
0:L B BAR SYMBOL
0:DOUBLE-STRUCK CAPITAL N
0:NUMERO SIGN
0:SOUND RECORDING COPYRIGHT
1:CRIPT CAPITAL P
0:DOUBLE-STRUCK CAPITAL P
22:Q
0:SCRIPT CAPITAL R
0:BLACK-LETTER CAPITAL R
0:DOUBLE-STRUCK CAPITAL R
0:PRESCRIPTION TAKE
0:RESPONSE
0:SERVICE MARK
0:TELEPHONE SIGN
1:RADE MARK SIGN
0:VERSICLE
0:DOUBLE-STRUCK CAPITAL Z
0:OUNCE SIGN
1:HM SIGN
0:INVERTED OHM SIGN
0:BLACK-LETTER CAPITAL Z
0:TURNED GREEK SMALL LETTER IOTA
0:KELVIN SIGN
0:ANGSTROM SIGN
0:SCRIPT CAPITAL B
0:BLACK-LETTER CAPITAL C
0:ESTIMATED SYMBOL
0:SCRIPT SMALL E
7:CAPITAL E
15:F
0:TURNED CAPITAL F
0:SCRIPT CAPITAL M
7:SMALL O
0:ALEF SYMBOL
0:BET SYMBOL
0:GIMEL SYMBOL
0:DALET SYMBOL
0:INFORMATION SOURCE
0:ROTATED CAPITAL Q
0:FACSIMILE SIGN
0:DOUBLE-STRUCK SMALL PI
20:GAMMA
14:CAPITAL GAMMA
22:PI
14:N-ARY SUMMATION
0:TURNED SANS-SERIF CAPITAL G
26:L
0:REVERSED SANS-SERIF CAPITAL L
0:TURNED SANS-SERIF CAPITAL Y
0:DOUBLE-STRUCK ITALIC CAPITAL D
21:SMALL D
27:E
27:I
27:J
0:PROPERTY LINE
0:TURNED AMPERSAND
0:PER SIGN
0:AKTIESELSKAB
0:TURNED SMALL F
0:SYMBOL FOR SAMARITAN SOURCE
0:VULGAR FRACTION ONE SEVENTH
20:NINTH
20:TENTH
21:HIRD
16:TWO THIRDS
16:ONE FIFTH
16:TWO FIFTHS
17:HREE FIFTHS
16:FOUR FIFTHS
16:ONE SIXTH
16:FIVE SIXTHS
16:ONE EIGHTH
16:THREE EIGHTHS
16:FIVE EIGHTHS
16:SEVEN EIGHTHS
0:FRACTION NUMERATOR ONE
0:ROMAN NUMERAL ONE
14:TWO
15:HREE
14:FOUR
15:IVE
14:SIX
15:EVEN
14:EIGHT
14:NINE
14:TEN
14:ELEVEN
14:TWELVE
14:FIFTY
14:ONE HUNDRED
14:FIVE HUNDRED
14:ONE THOUSAND
0:SMALL ROMAN NUMERAL ONE
20:TWO
21:HREE
20:FOUR
21:IVE
20:SIX
21:EVEN
20:EIGHT
20:NINE
20:TEN
20:ELEVEN
20:TWELVE
20:FIFTY
20:ONE HUNDRED
20:FIVE HUNDRED
20:ONE THOUSAND
0:ROMAN NUMERAL ONE THOUSAND C D
14:FIVE THOUSAND
14:TEN THOUSAND
14:REVERSED ONE HUNDRED
0:LATIN SMALL LETTER REVERSED C
0:ROMAN NUMERAL SIX LATE FORM
14:FIFTY EARLY FORM
20:THOUSAND
14:ONE HUNDRED THOUSAND
0:VULGAR FRACTION ZERO THIRDS
0:TURNED DIGIT TWO
14:HREE
@2190
0:LEFTWARDS ARROW
0:UPWARDS ARROW
0:RIGHTWARDS ARROW
0:DOWNWARDS ARROW
0:LEFT RIGHT ARROW
0:UP DOWN ARROW
0:NORTH WEST ARROW
6:EAST ARROW
0:SOUTH EAST ARROW
6:WEST ARROW
0:LEFTWARDS ARROW WITH STROKE
0:RIGHTWARDS ARROW WITH STROKE
0:LEFTWARDS WAVE ARROW
0:RIGHTWARDS WAVE ARROW
0:LEFTWARDS TWO HEADED ARROW
0:UPWARDS TWO HEADED ARROW
0:RIGHTWARDS TWO HEADED ARROW
0:DOWNWARDS TWO HEADED ARROW
0:LEFTWARDS ARROW WITH TAIL
0:RIGHTWARDS ARROW WITH TAIL
0:LEFTWARDS ARROW FROM BAR
0:UPWARDS ARROW FROM BAR
0:RIGHTWARDS ARROW FROM BAR
0:DOWNWARDS ARROW FROM BAR
0:UP DOWN ARROW WITH BASE
0:LEFTWARDS ARROW WITH HOOK
0:RIGHTWARDS ARROW WITH HOOK
0:LEFTWARDS ARROW WITH LOOP
0:RIGHTWARDS ARROW WITH LOOP
0:LEFT RIGHT WAVE ARROW
11:ARROW WITH STROKE
0:DOWNWARDS ZIGZAG ARROW
0:UPWARDS ARROW WITH TIP LEFTWARDS
23:RIGHTWARDS
0:DOWNWARDS ARROW WITH TIP LEFTWARDS
25:RIGHTWARDS
0:RIGHTWARDS ARROW WITH CORNER DOWNWARDS
0:DOWNWARDS ARROW WITH CORNER LEFTWARDS
0:ANTICLOCKWISE TOP SEMICIRCLE ARROW
0:CLOCKWISE TOP SEMICIRCLE ARROW
0:NORTH WEST ARROW TO LONG BAR
0:LEFTWARDS ARROW TO BAR OVER RIGHTWARDS ARROW TO BAR
0:ANTICLOCKWISE OPEN CIRCLE ARROW
0:CLOCKWISE OPEN CIRCLE ARROW
0:LEFTWARDS HARPOON WITH BARB UPWARDS
28:DOWNWARDS
0:UPWARDS HARPOON WITH BARB RIGHTWARDS
26:LEFTWARDS
0:RIGHTWARDS HARPOON WITH BARB UPWARDS
29:DOWNWARDS
0:DOWNWARDS HARPOON WITH BARB RIGHTWARDS
28:LEFTWARDS
0:RIGHTWARDS ARROW OVER LEFTWARDS ARROW
0:UPWARDS ARROW LEFTWARDS OF DOWNWARDS ARROW
0:LEFTWARDS ARROW OVER RIGHTWARDS ARROW
10:PAIRED ARROWS
0:UPWARDS PAIRED ARROWS
0:RIGHTWARDS PAIRED ARROWS
0:DOWNWARDS PAIRED ARROWS
0:LEFTWARDS HARPOON OVER RIGHTWARDS HARPOON
0:RIGHTWARDS HARPOON OVER LEFTWARDS HARPOON
0:LEFTWARDS DOUBLE ARROW WITH STROKE
4: RIGHT DOUBLE ARROW WITH STROKE
0:RIGHTWARDS DOUBLE ARROW WITH STROKE
0:LEFTWARDS DOUBLE ARROW
0:UPWARDS DOUBLE ARROW
0:RIGHTWARDS DOUBLE ARROW
0:DOWNWARDS DOUBLE ARROW
0:LEFT RIGHT DOUBLE ARROW
0:UP DOWN DOUBLE ARROW
0:NORTH WEST DOUBLE ARROW
6:EAST DOUBLE ARROW
0:SOUTH EAST DOUBLE ARROW
6:WEST DOUBLE ARROW
0:LEFTWARDS TRIPLE ARROW
0:RIGHTWARDS TRIPLE ARROW
0:LEFTWARDS SQUIGGLE ARROW
0:RIGHTWARDS SQUIGGLE ARROW
0:UPWARDS ARROW WITH DOUBLE STROKE
0:DOWNWARDS ARROW WITH DOUBLE STROKE
0:LEFTWARDS DASHED ARROW
0:UPWARDS DASHED ARROW
0:RIGHTWARDS DASHED ARROW
0:DOWNWARDS DASHED ARROW
0:LEFTWARDS ARROW TO BAR
0:RIGHTWARDS ARROW TO BAR
0:LEFTWARDS WHITE ARROW
0:UPWARDS WHITE ARROW
0:RIGHTWARDS WHITE ARROW
0:DOWNWARDS WHITE ARROW
0:UPWARDS WHITE ARROW FROM BAR
20:ON PEDESTAL
31: WITH HORIZONTAL BAR
37:VERTICAL BAR
14:DOUBLE ARROW
26: ON PEDESTAL
0:RIGHTWARDS WHITE ARROW FROM WALL
0:NORTH WEST ARROW TO CORNER
0:SOUTH EAST ARROW TO CORNER
0:UP DOWN WHITE ARROW
0:RIGHT ARROW WITH SMALL CIRCLE
0:DOWNWARDS ARROW LEFTWARDS OF UPWARDS ARROW
0:THREE RIGHTWARDS ARROWS
0:LEFTWARDS ARROW WITH VERTICAL STROKE
0:RIGHTWARDS ARROW WITH VERTICAL STROKE
0:LEFT RIGHT ARROW WITH VERTICAL STROKE
4:WARDS ARROW WITH DOUBLE VERTICAL STROKE
0:RIGHTWARDS ARROW WITH DOUBLE VERTICAL STROKE
0:LEFT RIGHT ARROW WITH DOUBLE VERTICAL STROKE
4:WARDS OPEN-HEADED ARROW
0:RIGHTWARDS OPEN-HEADED ARROW
0:LEFT RIGHT OPEN-HEADED ARROW
0:FOR ALL
0:COMPLEMENT
0:PARTIAL DIFFERENTIAL
0:THERE EXISTS
6:DOES NOT EXIST
0:EMPTY SET
0:INCREMENT
0:NABLA
0:ELEMENT OF
0:NOT AN ELEMENT OF
0:SMALL ELEMENT OF
0:CONTAINS AS MEMBER
0:DOES NOT CONTAIN AS MEMBER
0:SMALL CONTAINS AS MEMBER
0:END OF PROOF
0:N-ARY PRODUCT
6:COPRODUCT
6:SUMMATION
0:MINUS SIGN
5:-OR-PLUS SIGN
0:DOT PLUS
1:IVISION SLASH
0:SET MINUS
0:ASTERISK OPERATOR
0:RING OPERATOR
0:BULLET OPERATOR
0:SQUARE ROOT
0:CUBE ROOT
0:FOURTH ROOT
0:PROPORTIONAL TO
0:INFINITY
0:RIGHT ANGLE
0:ANGLE
0:MEASURED ANGLE
0:SPHERICAL ANGLE
0:DIVIDES
1:OES NOT DIVIDE
0:PARALLEL TO
0:NOT PARALLEL TO
0:LOGICAL AND
8:OR
0:INTERSECTION
0:UNION
0:INTEGRAL
0:DOUBLE INTEGRAL
0:TRIPLE INTEGRAL
0:CONTOUR INTEGRAL
0:SURFACE INTEGRAL
0:VOLUME INTEGRAL
0:CLOCKWISE INTEGRAL
10:CONTOUR INTEGRAL
0:ANTICLOCKWISE CONTOUR INTEGRAL
0:THEREFORE
0:BECAUSE
0:RATIO
0:PROPORTION
0:DOT MINUS
0:EXCESS
0:GEOMETRIC PROPORTION
0:HOMOTHETIC
0:TILDE OPERATOR
0:REVERSED TILDE
0:INVERTED LAZY S
0:SINE WAVE
0:WREATH PRODUCT
0:NOT TILDE
0:MINUS TILDE
0:ASYMPTOTICALLY EQUAL TO
0:NOT ASYMPTOTICALLY EQUAL TO
0:APPROXIMATELY EQUAL TO
14:BUT NOT ACTUALLY EQUAL TO
0:NEITHER APPROXIMATELY NOR ACTUALLY EQUAL TO
0:ALMOST EQUAL TO
0:NOT ALMOST EQUAL TO
0:ALMOST EQUAL OR EQUAL TO
0:TRIPLE TILDE
0:ALL EQUAL TO
0:EQUIVALENT TO
0:GEOMETRICALLY EQUIVALENT TO
0:DIFFERENCE BETWEEN
0:APPROACHES THE LIMIT
0:GEOMETRICALLY EQUAL TO
0:APPROXIMATELY EQUAL TO OR THE IMAGE OF
0:IMAGE OF OR APPROXIMATELY EQUAL TO
0:COLON EQUALS
0:EQUALS COLON
0:RING IN EQUAL TO
5:EQUAL TO
0:CORRESPONDS TO
0:ESTIMATES
1:QUIANGULAR TO
0:STAR EQUALS
0:DELTA EQUAL TO
0:EQUAL TO BY DEFINITION
0:MEASURED BY
0:QUESTIONED EQUAL TO
0:NOT EQUAL TO
0:IDENTICAL TO
0:NOT IDENTICAL TO
0:STRICTLY EQUIVALENT TO
0:LESS-THAN OR EQUAL TO
0:GREATER-THAN OR EQUAL TO
0:LESS-THAN OVER EQUAL TO
0:GREATER-THAN OVER EQUAL TO
0:LESS-THAN BUT NOT EQUAL TO
0:GREATER-THAN BUT NOT EQUAL TO
0:MUCH LESS-THAN
5:GREATER-THAN
0:BETWEEN
0:NOT EQUIVALENT TO
4:LESS-THAN
4:GREATER-THAN
1:EITHER LESS-THAN NOR EQUAL TO
8:GREATER-THAN NOR EQUAL TO
0:LESS-THAN OR EQUIVALENT TO
0:GREATER-THAN OR EQUIVALENT TO
0:NEITHER LESS-THAN NOR EQUIVALENT TO
8:GREATER-THAN NOR EQUIVALENT TO
0:LESS-THAN OR GREATER-THAN
0:GREATER-THAN OR LESS-THAN
0:NEITHER LESS-THAN NOR GREATER-THAN
8:GREATER-THAN NOR LESS-THAN
0:PRECEDES
0:SUCCEEDS
0:PRECEDES OR EQUAL TO
0:SUCCEEDS OR EQUAL TO
0:PRECEDES OR EQUIVALENT TO
0:SUCCEEDS OR EQUIVALENT TO
0:DOES NOT PRECEDE
9:SUCCEED
0:SUBSET OF
2:PERSET OF
0:NOT A SUBSET OF
8:PERSET OF
0:SUBSET OF OR EQUAL TO
2:PERSET OF OR EQUAL TO
0:NEITHER A SUBSET OF NOR EQUAL TO
12:PERSET OF NOR EQUAL TO
0:SUBSET OF WITH NOT EQUAL TO
2:PERSET OF WITH NOT EQUAL TO
0:MULTISET
8: MULTIPLICATION
9:UNION
0:SQUARE IMAGE OF
7:ORIGINAL OF
7:IMAGE OF OR EQUAL TO
7:ORIGINAL OF OR EQUAL TO
7:CAP
8:UP
0:CIRCLED PLUS
8:MINUS
8:TIMES
8:DIVISION SLASH
9:OT OPERATOR
8:RING OPERATOR
8:ASTERISK OPERATOR
8:EQUALS
8:DASH
0:SQUARED PLUS
8:MINUS
8:TIMES
8:DOT OPERATOR
0:RIGHT TACK
0:LEFT TACK
0:DOWN TACK
0:UP TACK
0:ASSERTION
0:MODELS
0:TRUE
0:FORCES
0:TRIPLE VERTICAL BAR RIGHT TURNSTILE
0:DOUBLE VERTICAL BAR DOUBLE RIGHT TURNSTILE
2:ES NOT PROVE
0:NOT TRUE
0:DOES NOT FORCE
0:NEGATED DOUBLE VERTICAL BAR DOUBLE RIGHT TURNSTILE
0:PRECEDES UNDER RELATION
0:SUCCEEDS UNDER RELATION
0:NORMAL SUBGROUP OF
0:CONTAINS AS NORMAL SUBGROUP
0:NORMAL SUBGROUP OF OR EQUAL TO
0:CONTAINS AS NORMAL SUBGROUP OR EQUAL TO
0:ORIGINAL OF
0:IMAGE OF
0:MULTIMAP
0:HERMITIAN CONJUGATE MATRIX
0:INTERCALATE
0:XOR
0:NAND
1:OR
0:RIGHT ANGLE WITH ARC
6:TRIANGLE
0:N-ARY LOGICAL AND
14:OR
6:INTERSECTION
6:UNION
0:DIAMOND OPERATOR
1:OT OPERATOR
0:STAR OPERATOR
0:DIVISION TIMES
0:BOWTIE
0:LEFT NORMAL FACTOR SEMIDIRECT PRODUCT
0:RIGHT NORMAL FACTOR SEMIDIRECT PRODUCT
0:LEFT SEMIDIRECT PRODUCT
0:RIGHT SEMIDIRECT PRODUCT
1:EVERSED TILDE EQUALS
0:CURLY LOGICAL OR
14:AND
0:DOUBLE SUBSET
9:PERSET
7:INTERSECTION
7:UNION
0:PITCHFORK
0:EQUAL AND PARALLEL TO
0:LESS-THAN WITH DOT
0:GREATER-THAN WITH DOT
0:VERY MUCH LESS-THAN
10:GREATER-THAN
0:LESS-THAN EQUAL TO OR GREATER-THAN
0:GREATER-THAN EQUAL TO OR LESS-THAN
0:EQUAL TO OR LESS-THAN
12:GREATER-THAN
12:PRECEDES
12:SUCCEEDS
0:DOES NOT PRECEDE OR EQUAL
9:SUCCEED OR EQUAL
0:NOT SQUARE IMAGE OF OR EQUAL TO
11:ORIGINAL OF OR EQUAL TO
0:SQUARE IMAGE OF OR NOT EQUAL TO
7:ORIGINAL OF OR NOT EQUAL TO
0:LESS-THAN BUT NOT EQUIVALENT TO
0:GREATER-THAN BUT NOT EQUIVALENT TO
0:PRECEDES BUT NOT EQUIVALENT TO
0:SUCCEEDS BUT NOT EQUIVALENT TO
0:NOT NORMAL SUBGROUP OF
0:DOES NOT CONTAIN AS NORMAL SUBGROUP
0:NOT NORMAL SUBGROUP OF OR EQUAL TO
0:DOES NOT CONTAIN AS NORMAL SUBGROUP OR EQUAL
0:VERTICAL ELLIPSIS
0:MIDLINE HORIZONTAL ELLIPSIS
0:UP RIGHT DIAGONAL ELLIPSIS
0:DOWN RIGHT DIAGONAL ELLIPSIS
0:ELEMENT OF WITH LONG HORIZONTAL STROKE
16:VERTICAL BAR AT END OF HORIZONTAL STROKE
0:SMALL ELEMENT OF WITH VERTICAL BAR AT END OF HORIZONTAL STROKE
0:ELEMENT OF WITH DOT ABOVE
16:OVERBAR
0:SMALL ELEMENT OF WITH OVERBAR
0:ELEMENT OF WITH UNDERBAR
16:TWO HORIZONTAL STROKES
0:CONTAINS WITH LONG HORIZONTAL STROKE
14:VERTICAL BAR AT END OF HORIZONTAL STROKE
0:SMALL CONTAINS WITH VERTICAL BAR AT END OF HORIZONTAL STROKE
0:CONTAINS WITH OVERBAR
0:SMALL CONTAINS WITH OVERBAR
0:Z NOTATION BAG MEMBERSHIP
0:DIAMETER SIGN
0:ELECTRIC ARROW
0:HOUSE
0:UP ARROWHEAD
0:DOWN ARROWHEAD
0:PROJECTIVE
1:ERSPECTIVE
0:WAVY LINE
0:LEFT CEILING
0:RIGHT CEILING
0:LEFT FLOOR
0:RIGHT FLOOR
0:BOTTOM RIGHT CROP
7:LEFT CROP
0:TOP RIGHT CROP
4:LEFT CROP
0:REVERSED NOT SIGN
0:SQUARE LOZENGE
0:ARC
0:SEGMENT
2:CTOR
0:TELEPHONE RECORDER
0:POSITION INDICATOR
0:VIEWDATA SQUARE
0:PLACE OF INTEREST SIGN
0:TURNED NOT SIGN
0:WATCH
0:HOURGLASS
0:TOP LEFT CORNER
4:RIGHT CORNER
0:BOTTOM LEFT CORNER
7:RIGHT CORNER
0:TOP HALF INTEGRAL
0:BOTTOM HALF INTEGRAL
0:FROWN
0:SMILE
0:UP ARROWHEAD BETWEEN TWO HORIZONTAL BARS
0:OPTION KEY
0:ERASE TO THE RIGHT
0:X IN A RECTANGLE BOX
0:KEYBOARD
0:LEFT-POINTING ANGLE BRACKET
0:RIGHT-POINTING ANGLE BRACKET
0:ERASE TO THE LEFT
0:BENZENE RING
0:CYLINDRICITY
0:ALL AROUND-PROFILE
0:SYMMETRY
0:TOTAL RUNOUT
0:DIMENSION ORIGIN
0:CONICAL TAPER
0:SLOPE
0:COUNTERBORE
7:SINK
0:APL FUNCTIONAL SYMBOL I-BEAM
22:SQUISH QUAD
22:QUAD EQUAL
27:DIVIDE
29:AMOND
27:JOT
27:CIRCLE
22:CIRCLE STILE
29:JOT
22:SLASH BAR
22:BACKSLASH BAR
22:QUAD SLASH
27:BACKSLASH
27:LESS-THAN
27:GREATER-THAN
22:LEFTWARDS VANE
22:RIGHTWARDS VANE
22:QUAD LEFTWARDS ARROW
27:RIGHTWARDS ARROW
22:CIRCLE BACKSLASH
22:DOWN TACK UNDERBAR
23:ELTA STILE
22:QUAD DOWN CARET
28:ELTA
22:DOWN TACK JOT
22:UPWARDS VANE
22:QUAD UPWARDS ARROW
22:UP TACK OVERBAR
22:DEL STILE
22:QUAD UP CARET
27:DEL
22:UP TACK JOT
22:DOWNWARDS VANE
22:QUAD DOWNWARDS ARROW
24:OTE UNDERBAR
22:DELTA UNDERBAR
23:IAMOND UNDERBAR
22:JOT UNDERBAR
22:CIRCLE UNDERBAR
22:UP SHOE JOT
22:QUOTE QUAD
22:CIRCLE STAR
22:QUAD COLON
22:UP TACK DIAERESIS
22:DEL DIAERESIS
22:STAR DIAERESIS
22:JOT DIAERESIS
22:CIRCLE DIAERESIS
22:DOWN SHOE STILE
22:LEFT SHOE STILE
22:TILDE DIAERESIS
22:GREATER-THAN DIAERESIS
22:COMMA BAR
22:DEL TILDE
22:ZILDE
22:STILE TILDE
23:EMICOLON UNDERBAR
22:QUAD NOT EQUAL
27:QUESTION
22:DOWN CARET TILDE
22:UP CARET TILDE
22:IOTA
22:RHO
22:OMEGA
22:ALPHA UNDERBAR
22:EPSILON UNDERBAR
22:IOTA UNDERBAR
22:OMEGA UNDERBAR
22:ALPHA
0:NOT CHECK MARK
0:RIGHT ANGLE WITH DOWNWARDS ZIGZAG ARROW
0:SHOULDERED OPEN BOX
0:BELL SYMBOL
0:VERTICAL LINE WITH MIDDLE DOT
0:INSERTION SYMBOL
0:CONTINUOUS UNDERLINE SYMBOL
0:DISCONTINUOUS UNDERLINE SYMBOL
0:EMPHASIS SYMBOL
0:COMPOSITION SYMBOL
0:WHITE SQUARE WITH CENTRE VERTICAL LINE
0:ENTER SYMBOL
0:ALTERNATIVE KEY SYMBOL
0:HELM SYMBOL
0:CIRCLED HORIZONTAL BAR WITH NOTCH
8:TRIANGLE DOWN
0:BROKEN CIRCLE WITH NORTHWEST ARROW
0:UNDO SYMBOL
0:MONOSTABLE SYMBOL
0:HYSTERESIS SYMBOL
0:OPEN-CIRCUIT-OUTPUT H-TYPE SYMBOL
20:L-TYPE SYMBOL
0:PASSIVE-PULL-DOWN-OUTPUT SYMBOL
13:UP-OUTPUT SYMBOL
0:DIRECT CURRENT SYMBOL FORM TWO
0:SOFTWARE-FUNCTION SYMBOL
0:APL FUNCTIONAL SYMBOL QUAD
0:DECIMAL SEPARATOR KEY SYMBOL
0:PREVIOUS PAGE
0:NEXT PAGE
0:PRINT SCREEN SYMBOL
0:CLEAR SCREEN SYMBOL
0:LEFT PARENTHESIS UPPER HOOK
17:EXTENSION
17:LOWER HOOK
0:RIGHT PARENTHESIS UPPER HOOK
18:EXTENSION
18:LOWER HOOK
0:LEFT SQUARE BRACKET UPPER CORNER
20:EXTENSION
20:LOWER CORNER
0:RIGHT SQUARE BRACKET UPPER CORNER
21:EXTENSION
21:LOWER CORNER
0:LEFT CURLY BRACKET UPPER HOOK
19:MIDDLE PIECE
19:LOWER HOOK
0:CURLY BRACKET EXTENSION
0:RIGHT CURLY BRACKET UPPER HOOK
20:MIDDLE PIECE
20:LOWER HOOK
0:INTEGRAL EXTENSION
0:HORIZONTAL LINE EXTENSION
0:UPPER LEFT OR LOWER RIGHT CURLY BRACKET SECTION
6:RIGHT OR LOWER LEFT CURLY BRACKET SECTION
0:SUMMATION TOP
10:BOTTOM
0:TOP SQUARE BRACKET
0:BOTTOM SQUARE BRACKET
21: OVER TOP SQUARE BRACKET
0:RADICAL SYMBOL BOTTOM
0:LEFT VERTICAL BOX LINE
0:RIGHT VERTICAL BOX LINE
0:HORIZONTAL SCAN LINE-1
21:3
21:7
21:9
0:DENTISTRY SYMBOL LIGHT VERTICAL AND TOP RIGHT
36:BOTTOM RIGHT
32:WITH CIRCLE
23:DOWN AND HORIZONTAL WITH CIRCLE
23:UP AND HORIZONTAL WITH CIRCLE
23:VERTICAL WITH TRIANGLE
23:DOWN AND HORIZONTAL WITH TRIANGLE
23:UP AND HORIZONTAL WITH TRIANGLE
23:VERTICAL AND WAVE
23:DOWN AND HORIZONTAL WITH WAVE
23:UP AND HORIZONTAL WITH WAVE
23:DOWN AND HORIZONTAL
23:UP AND HORIZONTAL
23:VERTICAL AND TOP LEFT
36:BOTTOM LEFT
0:SQUARE FOOT
0:RETURN SYMBOL
0:EJECT SYMBOL
0:VERTICAL LINE EXTENSION
0:METRICAL BREVE
9:LONG OVER SHORT
9:SHORT OVER LONG
9:LONG OVER TWO SHORTS
9:TWO SHORTS OVER LONG
20:JOINED
10:RISEME
10:ETRASEME
9:PENTASEME
0:EARTH GROUND
0:FUSE
0:TOP PARENTHESIS
0:BOTTOM PARENTHESIS
0:TOP CURLY BRACKET
0:BOTTOM CURLY BRACKET
0:TOP TORTOISE SHELL BRACKET
0:BOTTOM TORTOISE SHELL BRACKET
0:WHITE TRAPEZIUM
0:BENZENE RING WITH CIRCLE
0:STRAIGHTNESS
0:FLATNESS
0:AC CURRENT
0:ELECTRICAL INTERSECTION
0:DECIMAL EXPONENT SYMBOL
0:BLACK RIGHT-POINTING DOUBLE TRIANGLE
6:LEFT-POINTING DOUBLE TRIANGLE
6:UP-POINTING DOUBLE TRIANGLE
6:DOWN-POINTING DOUBLE TRIANGLE
6:RIGHT-POINTING DOUBLE TRIANGLE WITH VERTICAL BAR
6:LEFT-POINTING DOUBLE TRIANGLE WITH VERTICAL BAR
6:RIGHT-POINTING TRIANGLE WITH DOUBLE VERTICAL BAR
0:ALARM CLOCK
0:STOPWATCH
0:TIMER CLOCK
0:HOURGLASS WITH FLOWING SAND
0:BLACK MEDIUM LEFT-POINTING TRIANGLE
13:RIGHT-POINTING TRIANGLE
13:UP-POINTING TRIANGLE
13:DOWN-POINTING TRIANGLE
0:DOUBLE VERTICAL BAR
0:BLACK SQUARE FOR STOP
6:CIRCLE FOR RECORD
0:POWER SYMBOL
6:ON-OFF SYMBOL
8: SYMBOL
6:SLEEP SYMBOL
0:OBSERVER EYE SYMBOL
0:SYMBOL FOR NULL
11:START OF HEADING
20:TEXT
11:END OF TEXT
19:RANSMISSION
13:QUIRY
11:ACKNOWLEDGE
11:BELL
12:ACKSPACE
11:HORIZONTAL TABULATION
11:LINE FEED
11:VERTICAL TABULATION
11:FORM FEED
11:CARRIAGE RETURN
11:SHIFT OUT
17:IN
11:DATA LINK ESCAPE
12:EVICE CONTROL ONE
26:TWO
27:HREE
26:FOUR
11:NEGATIVE ACKNOWLEDGE
11:SYNCHRONOUS IDLE
11:END OF TRANSMISSION BLOCK
11:CANCEL
11:END OF MEDIUM
11:SUBSTITUTE
11:ESCAPE
11:FILE SEPARATOR
11:GROUP SEPARATOR
11:RECORD SEPARATOR
11:UNIT SEPARATOR
11:SPACE
11:DELETE
0:BLANK SYMBOL
0:OPEN BOX
0:SYMBOL FOR NEWLINE
11:DELETE FORM TWO
11:SUBSTITUTE FORM TWO
@2440
0:OCR HOOK
4:CHAIR
4:FORK
4:INVERTED FORK
4:BELT BUCKLE
5:OW TIE
5:RANCH BANK IDENTIFICATION
4:AMOUNT OF CHECK
4:DASH
4:CUSTOMER ACCOUNT NUMBER
4:DOUBLE BACKSLASH
@2460
0:CIRCLED DIGIT ONE
14:TWO
15:HREE
14:FOUR
15:IVE
14:SIX
15:EVEN
14:EIGHT
14:NINE
8:NUMBER TEN
15:ELEVEN
15:TWELVE
16:HIRTEEN
15:FOURTEEN
16:IFTEEN
15:SIXTEEN
16:EVENTEEN
15:EIGHTEEN
15:NINETEEN
15:TWENTY
0:PARENTHESIZED DIGIT ONE
20:TWO
21:HREE
20:FOUR
21:IVE
20:SIX
21:EVEN
20:EIGHT
20:NINE
14:NUMBER TEN
21:ELEVEN
21:TWELVE
22:HIRTEEN
21:FOURTEEN
22:IFTEEN
21:SIXTEEN
22:EVENTEEN
21:EIGHTEEN
21:NINETEEN
21:TWENTY
0:DIGIT ONE FULL STOP
6:TWO FULL STOP
7:HREE FULL STOP
6:FOUR FULL STOP
7:IVE FULL STOP
6:SIX FULL STOP
7:EVEN FULL STOP
6:EIGHT FULL STOP
6:NINE FULL STOP
0:NUMBER TEN FULL STOP
7:ELEVEN FULL STOP
7:TWELVE FULL STOP
8:HIRTEEN FULL STOP
7:FOURTEEN FULL STOP
8:IFTEEN FULL STOP
7:SIXTEEN FULL STOP
8:EVENTEEN FULL STOP
7:EIGHTEEN FULL STOP
7:NINETEEN FULL STOP
7:TWENTY FULL STOP
0:PARENTHESIZED LATIN SMALL LETTER A
33:B
33:C
33:D
33:E
33:F
33:G
33:H
33:I
33:J
33:K
33:L
33:M
33:N
33:O
33:P
33:Q
33:R
33:S
33:T
33:U
33:V
33:W
33:X
33:Y
33:Z
0:CIRCLED LATIN CAPITAL LETTER A
29:B
29:C
29:D
29:E
29:F
29:G
29:H
29:I
29:J
29:K
29:L
29:M
29:N
29:O
29:P
29:Q
29:R
29:S
29:T
29:U
29:V
29:W
29:X
29:Y
29:Z
14:SMALL LETTER A
27:B
27:C
27:D
27:E
27:F
27:G
27:H
27:I
27:J
27:K
27:L
27:M
27:N
27:O
27:P
27:Q
27:R
27:S
27:T
27:U
27:V
27:W
27:X
27:Y
27:Z
8:DIGIT ZERO
0:NEGATIVE CIRCLED NUMBER ELEVEN
24:TWELVE
25:HIRTEEN
24:FOURTEEN
25:IFTEEN
24:SIXTEEN
25:EVENTEEN
24:EIGHTEEN
24:NINETEEN
24:TWENTY
0:DOUBLE CIRCLED DIGIT ONE
21:TWO
22:HREE
21:FOUR
22:IVE
21:SIX
22:EVEN
21:EIGHT
21:NINE
15:NUMBER TEN
0:NEGATIVE CIRCLED DIGIT ZERO
0:BOX DRAWINGS LIGHT HORIZONTAL
13:HEAVY HORIZONTAL
13:LIGHT VERTICAL
13:HEAVY VERTICAL
13:LIGHT TRIPLE DASH HORIZONTAL
13:HEAVY TRIPLE DASH HORIZONTAL
13:LIGHT TRIPLE DASH VERTICAL
13:HEAVY TRIPLE DASH VERTICAL
13:LIGHT QUADRUPLE DASH HORIZONTAL
13:HEAVY QUADRUPLE DASH HORIZONTAL
13:LIGHT QUADRUPLE DASH VERTICAL
13:HEAVY QUADRUPLE DASH VERTICAL
13:LIGHT DOWN AND RIGHT
13:DOWN LIGHT AND RIGHT HEAVY
18:HEAVY AND RIGHT LIGHT
13:HEAVY DOWN AND RIGHT
13:LIGHT DOWN AND LEFT
13:DOWN LIGHT AND LEFT HEAVY
18:HEAVY AND LEFT LIGHT
13:HEAVY DOWN AND LEFT
13:LIGHT UP AND RIGHT
13:UP LIGHT AND RIGHT HEAVY
16:HEAVY AND RIGHT LIGHT
13:HEAVY UP AND RIGHT
13:LIGHT UP AND LEFT
13:UP LIGHT AND LEFT HEAVY
16:HEAVY AND LEFT LIGHT
13:HEAVY UP AND LEFT
13:LIGHT VERTICAL AND RIGHT
13:VERTICAL LIGHT AND RIGHT HEAVY
13:UP HEAVY AND RIGHT DOWN LIGHT
13:DOWN HEAVY AND RIGHT UP LIGHT
13:VERTICAL HEAVY AND RIGHT LIGHT
13:DOWN LIGHT AND RIGHT UP HEAVY
13:UP LIGHT AND RIGHT DOWN HEAVY
13:HEAVY VERTICAL AND RIGHT
13:LIGHT VERTICAL AND LEFT
13:VERTICAL LIGHT AND LEFT HEAVY
13:UP HEAVY AND LEFT DOWN LIGHT
13:DOWN HEAVY AND LEFT UP LIGHT
13:VERTICAL HEAVY AND LEFT LIGHT
13:DOWN LIGHT AND LEFT UP HEAVY
13:UP LIGHT AND LEFT DOWN HEAVY
13:HEAVY VERTICAL AND LEFT
13:LIGHT DOWN AND HORIZONTAL
14:EFT HEAVY AND RIGHT DOWN LIGHT
13:RIGHT HEAVY AND LEFT DOWN LIGHT
13:DOWN LIGHT AND HORIZONTAL HEAVY
18:HEAVY AND HORIZONTAL LIGHT
13:RIGHT LIGHT AND LEFT DOWN HEAVY
13:LEFT LIGHT AND RIGHT DOWN HEAVY
13:HEAVY DOWN AND HORIZONTAL
13:LIGHT UP AND HORIZONTAL
14:EFT HEAVY AND RIGHT UP LIGHT
13:RIGHT HEAVY AND LEFT UP LIGHT
13:UP LIGHT AND HORIZONTAL HEAVY
16:HEAVY AND HORIZONTAL LIGHT
13:RIGHT LIGHT AND LEFT UP HEAVY
13:LEFT LIGHT AND RIGHT UP HEAVY
13:HEAVY UP AND HORIZONTAL
13:LIGHT VERTICAL AND HORIZONTAL
14:EFT HEAVY AND RIGHT VERTICAL LIGHT
13:RIGHT HEAVY AND LEFT VERTICAL LIGHT
13:VERTICAL LIGHT AND HORIZONTAL HEAVY
13:UP HEAVY AND DOWN HORIZONTAL LIGHT
13:DOWN HEAVY AND UP HORIZONTAL LIGHT
13:VERTICAL HEAVY AND HORIZONTAL LIGHT
13:LEFT UP HEAVY AND RIGHT DOWN LIGHT
13:RIGHT UP HEAVY AND LEFT DOWN LIGHT
13:LEFT DOWN HEAVY AND RIGHT UP LIGHT
13:RIGHT DOWN HEAVY AND LEFT UP LIGHT
13:DOWN LIGHT AND UP HORIZONTAL HEAVY
13:UP LIGHT AND DOWN HORIZONTAL HEAVY
13:RIGHT LIGHT AND LEFT VERTICAL HEAVY
13:LEFT LIGHT AND RIGHT VERTICAL HEAVY
13:HEAVY VERTICAL AND HORIZONTAL
13:LIGHT DOUBLE DASH HORIZONTAL
13:HEAVY DOUBLE DASH HORIZONTAL
13:LIGHT DOUBLE DASH VERTICAL
13:HEAVY DOUBLE DASH VERTICAL
13:DOUBLE HORIZONTAL
20:VERTICAL
15:WN SINGLE AND RIGHT DOUBLE
18:DOUBLE AND RIGHT SINGLE
15:UBLE DOWN AND RIGHT
15:WN SINGLE AND LEFT DOUBLE
18:DOUBLE AND LEFT SINGLE
15:UBLE DOWN AND LEFT
13:UP SINGLE AND RIGHT DOUBLE
16:DOUBLE AND RIGHT SINGLE
13:DOUBLE UP AND RIGHT
13:UP SINGLE AND LEFT DOUBLE
16:DOUBLE AND LEFT SINGLE
13:DOUBLE UP AND LEFT
13:VERTICAL SINGLE AND RIGHT DOUBLE
22:DOUBLE AND RIGHT SINGLE
13:DOUBLE VERTICAL AND RIGHT
13:VERTICAL SINGLE AND LEFT DOUBLE
22:DOUBLE AND LEFT SINGLE
13:DOUBLE VERTICAL AND LEFT
15:WN SINGLE AND HORIZONTAL DOUBLE
18:DOUBLE AND HORIZONTAL SINGLE
15:UBLE DOWN AND HORIZONTAL
13:UP SINGLE AND HORIZONTAL DOUBLE
16:DOUBLE AND HORIZONTAL SINGLE
13:DOUBLE UP AND HORIZONTAL
13:VERTICAL SINGLE AND HORIZONTAL DOUBLE
22:DOUBLE AND HORIZONTAL SINGLE
13:DOUBLE VERTICAL AND HORIZONTAL
13:LIGHT ARC DOWN AND RIGHT
32:LEFT
23:UP AND LEFT
30:RIGHT
19:DIAGONAL UPPER RIGHT TO LOWER LEFT
34:LEFT TO LOWER RIGHT
28:CROSS
19:LEFT
19:UP
19:RIGHT
19:DOWN
13:HEAVY LEFT
19:UP
19:RIGHT
19:DOWN
13:LIGHT LEFT AND HEAVY RIGHT
19:UP AND HEAVY DOWN
13:HEAVY LEFT AND LIGHT RIGHT
19:UP AND LIGHT DOWN
0:UPPER HALF BLOCK
0:LOWER ONE EIGHTH BLOCK
10:QUARTER BLOCK
6:THREE EIGHTHS BLOCK
6:HALF BLOCK
6:FIVE EIGHTHS BLOCK
6:THREE QUARTERS BLOCK
6:SEVEN EIGHTHS BLOCK
0:FULL BLOCK
0:LEFT SEVEN EIGHTHS BLOCK
5:THREE QUARTERS BLOCK
5:FIVE EIGHTHS BLOCK
5:HALF BLOCK
5:THREE EIGHTHS BLOCK
5:ONE QUARTER BLOCK
9:EIGHTH BLOCK
0:RIGHT HALF BLOCK
0:LIGHT SHADE
0:MEDIUM SHADE
0:DARK SHADE
0:UPPER ONE EIGHTH BLOCK
0:RIGHT ONE EIGHTH BLOCK
0:QUADRANT LOWER LEFT
15:RIGHT
9:UPPER LEFT
19: AND LOWER LEFT AND LOWER RIGHT
30:RIGHT
24:UPPER RIGHT AND LOWER LEFT
46:RIGHT
15:RIGHT
20: AND LOWER LEFT
35: AND LOWER RIGHT
0:BLACK SQUARE
0:WHITE SQUARE
12: WITH ROUNDED CORNERS
13:CONTAINING BLACK SMALL SQUARE
0:SQUARE WITH HORIZONTAL FILL
12:VERTICAL FILL
12:ORTHOGONAL CROSSHATCH FILL
12:UPPER LEFT TO LOWER RIGHT FILL
18:RIGHT TO LOWER LEFT FILL
12:DIAGONAL CROSSHATCH FILL
0:BLACK SMALL SQUARE
0:WHITE SMALL SQUARE
0:BLACK RECTANGLE
0:WHITE RECTANGLE
0:BLACK VERTICAL RECTANGLE
0:WHITE VERTICAL RECTANGLE
0:BLACK PARALLELOGRAM
0:WHITE PARALLELOGRAM
0:BLACK UP-POINTING TRIANGLE
0:WHITE UP-POINTING TRIANGLE
0:BLACK UP-POINTING SMALL TRIANGLE
0:WHITE UP-POINTING SMALL TRIANGLE
0:BLACK RIGHT-POINTING TRIANGLE
0:WHITE RIGHT-POINTING TRIANGLE
0:BLACK RIGHT-POINTING SMALL TRIANGLE
0:WHITE RIGHT-POINTING SMALL TRIANGLE
0:BLACK RIGHT-POINTING POINTER
0:WHITE RIGHT-POINTING POINTER
0:BLACK DOWN-POINTING TRIANGLE
0:WHITE DOWN-POINTING TRIANGLE
0:BLACK DOWN-POINTING SMALL TRIANGLE
0:WHITE DOWN-POINTING SMALL TRIANGLE
0:BLACK LEFT-POINTING TRIANGLE
0:WHITE LEFT-POINTING TRIANGLE
0:BLACK LEFT-POINTING SMALL TRIANGLE
0:WHITE LEFT-POINTING SMALL TRIANGLE
0:BLACK LEFT-POINTING POINTER
0:WHITE LEFT-POINTING POINTER
0:BLACK DIAMOND
0:WHITE DIAMOND
13: CONTAINING BLACK SMALL DIAMOND
0:FISHEYE
0:LOZENGE
0:WHITE CIRCLE
0:DOTTED CIRCLE
0:CIRCLE WITH VERTICAL FILL
0:BULLSEYE
1:LACK CIRCLE
0:CIRCLE WITH LEFT HALF BLACK
12:RIGHT HALF BLACK
12:LOWER HALF BLACK
12:UPPER HALF BLACK
18:RIGHT QUADRANT BLACK
12:ALL BUT UPPER LEFT QUADRANT BLACK
0:LEFT HALF BLACK CIRCLE
0:RIGHT HALF BLACK CIRCLE
0:INVERSE BULLET
8:WHITE CIRCLE
0:UPPER HALF INVERSE WHITE CIRCLE
0:LOWER HALF INVERSE WHITE CIRCLE
0:UPPER LEFT QUADRANT CIRCULAR ARC
6:RIGHT QUADRANT CIRCULAR ARC
0:LOWER RIGHT QUADRANT CIRCULAR ARC
6:LEFT QUADRANT CIRCULAR ARC
0:UPPER HALF CIRCLE
0:LOWER HALF CIRCLE
0:BLACK LOWER RIGHT TRIANGLE
12:LEFT TRIANGLE
6:UPPER LEFT TRIANGLE
12:RIGHT TRIANGLE
0:WHITE BULLET
0:SQUARE WITH LEFT HALF BLACK
12:RIGHT HALF BLACK
12:UPPER LEFT DIAGONAL HALF BLACK
12:LOWER RIGHT DIAGONAL HALF BLACK
0:WHITE SQUARE WITH VERTICAL BISECTING LINE
6:UP-POINTING TRIANGLE WITH DOT
0:UP-POINTING TRIANGLE WITH LEFT HALF BLACK
26:RIGHT HALF BLACK
0:LARGE CIRCLE
0:WHITE SQUARE WITH UPPER LEFT QUADRANT
18:LOWER LEFT QUADRANT
24:RIGHT QUADRANT
18:UPPER RIGHT QUADRANT
6:CIRCLE WITH UPPER LEFT QUADRANT
18:LOWER LEFT QUADRANT
24:RIGHT QUADRANT
18:UPPER RIGHT QUADRANT
0:UPPER LEFT TRIANGLE
6:RIGHT TRIANGLE
0:LOWER LEFT TRIANGLE
0:WHITE MEDIUM SQUARE
0:BLACK MEDIUM SQUARE
0:WHITE MEDIUM SMALL SQUARE
0:BLACK MEDIUM SMALL SQUARE
0:LOWER RIGHT TRIANGLE
0:BLACK SUN WITH RAYS
0:CLOUD
0:UMBRELLA
0:SNOWMAN
0:COMET
0:BLACK STAR
0:WHITE STAR
0:LIGHTNING
0:THUNDERSTORM
0:SUN
0:ASCENDING NODE
0:DESCENDING NODE
0:CONJUNCTION
0:OPPOSITION
0:BLACK TELEPHONE
0:WHITE TELEPHONE
0:BALLOT BOX
10: WITH CHECK
16:X
0:SALTIRE
0:UMBRELLA WITH RAIN DROPS
0:HOT BEVERAGE
0:WHITE SHOGI PIECE
0:BLACK SHOGI PIECE
0:SHAMROCK
0:REVERSED ROTATED FLORAL HEART BULLET
0:BLACK LEFT POINTING INDEX
6:RIGHT POINTING INDEX
0:WHITE LEFT POINTING INDEX
6:UP POINTING INDEX
6:RIGHT POINTING INDEX
6:DOWN POINTING INDEX
0:SKULL AND CROSSBONES
0:CAUTION SIGN
0:RADIOACTIVE SIGN
0:BIOHAZARD SIGN
0:CADUCEUS
0:ANKH
0:ORTHODOX CROSS
0:CHI RHO
1:ROSS OF LORRAINE
9:JERUSALEM
0:STAR AND CRESCENT
0:FARSI SYMBOL
0:ADI SHAKTI
0:HAMMER AND SICKLE
0:PEACE SYMBOL
0:YIN YANG
0:TRIGRAM FOR HEAVEN
12:LAKE
12:FIRE
12:THUNDER
12:WIND
13:ATER
12:MOUNTAIN
12:EARTH
0:WHEEL OF DHARMA
2:ITE FROWNING FACE
6:SMILING FACE
0:BLACK SMILING FACE
0:WHITE SUN WITH RAYS
0:FIRST QUARTER MOON
0:LAST QUARTER MOON
0:MERCURY
0:FEMALE SIGN
0:EARTH
0:MALE SIGN
0:JUPITER
0:SATURN
0:URANUS
0:NEPTUNE
0:PLUTO
0:ARIES
0:TAURUS
0:GEMINI
0:CANCER
0:LEO
0:VIRGO
0:LIBRA
0:SCORPIUS
1:AGITTARIUS
0:CAPRICORN
0:AQUARIUS
0:PISCES
0:WHITE CHESS KING
12:QUEEN
12:ROOK
12:BISHOP
12:KNIGHT
12:PAWN
0:BLACK CHESS KING
12:QUEEN
12:ROOK
12:BISHOP
12:KNIGHT
12:PAWN
6:SPADE SUIT
0:WHITE HEART SUIT
6:DIAMOND SUIT
0:BLACK CLUB SUIT
0:WHITE SPADE SUIT
0:BLACK HEART SUIT
6:DIAMOND SUIT
0:WHITE CLUB SUIT
0:HOT SPRINGS
0:QUARTER NOTE
0:EIGHTH NOTE
0:BEAMED EIGHTH NOTES
7:SIXTEENTH NOTES
0:MUSIC FLAT SIGN
6:NATURAL SIGN
6:SHARP SIGN
0:WEST SYRIAC CROSS
0:EAST SYRIAC CROSS
0:UNIVERSAL RECYCLING SYMBOL
0:RECYCLING SYMBOL FOR TYPE-1 PLASTICS
26:2 PLASTICS
26:3 PLASTICS
26:4 PLASTICS
26:5 PLASTICS
26:6 PLASTICS
26:7 PLASTICS
21:GENERIC MATERIALS
0:BLACK UNIVERSAL RECYCLING SYMBOL
0:RECYCLED PAPER SYMBOL
0:PARTIALLY-RECYCLED PAPER SYMBOL
1:ERMANENT PAPER SIGN
0:WHEELCHAIR SYMBOL
0:DIE FACE-1
9:2
9:3
9:4
9:5
9:6
0:WHITE CIRCLE WITH DOT RIGHT
18:TWO DOTS
0:BLACK CIRCLE WITH WHITE DOT RIGHT
18:TWO WHITE DOTS
0:MONOGRAM FOR YANG
14:IN
0:DIGRAM FOR GREATER YANG
11:LESSER YIN
19:ANG
11:GREATER YIN
0:WHITE FLAG
0:BLACK FLAG
0:HAMMER AND PICK
0:ANCHOR
0:CROSSED SWORDS
0:STAFF OF AESCULAPIUS
1:CALES
0:ALEMBIC
0:FLOWER
0:GEAR
0:STAFF OF HERMES
0:ATOM SYMBOL
0:FLEUR-DE-LIS
0:OUTLINED WHITE STAR
0:THREE LINES CONVERGING RIGHT
23:LEFT
0:WARNING SIGN
0:HIGH VOLTAGE SIGN
0:DOUBLED FEMALE SIGN
8:MALE SIGN
0:INTERLOCKED FEMALE AND MALE SIGN
0:MALE AND FEMALE SIGN
5:WITH STROKE SIGN
17:AND MALE AND FEMALE SIGN
0:VERTICAL MALE WITH STROKE SIGN
0:HORIZONTAL MALE WITH STROKE SIGN
0:MEDIUM WHITE CIRCLE
7:BLACK CIRCLE
7:SMALL WHITE CIRCLE
1:ARRIAGE SYMBOL
0:DIVORCE SYMBOL
0:UNMARRIED PARTNERSHIP SYMBOL
0:COFFIN
0:FUNERAL URN
0:NEUTER
0:CERES
0:PALLAS
0:JUNO
0:VESTA
0:CHIRON
0:BLACK MOON LILITH
0:SEXTILE
2:MISEXTILE
0:QUINCUNX
0:SESQUIQUADRATE
1:OCCER BALL
0:BASEBALL
0:SQUARED KEY
0:WHITE DRAUGHTS MAN
15:KING
0:BLACK DRAUGHTS MAN
15:KING
0:SNOWMAN WITHOUT SNOW
1:UN BEHIND CLOUD
0:RAIN
0:BLACK SNOWMAN
0:THUNDER CLOUD AND RAIN
1:URNED WHITE SHOGI PIECE
7:BLACK SHOGI PIECE
0:WHITE DIAMOND IN SQUARE
0:CROSSING LANES
0:DISABLED CAR
0:OPHIUCHUS
0:PICK
0:CAR SLIDING
0:HELMET WITH WHITE CROSS
0:CIRCLED CROSSING LANES
1:HAINS
0:NO ENTRY
0:ALTERNATE ONE-WAY LEFT WAY TRAFFIC
0:BLACK TWO-WAY LEFT WAY TRAFFIC
0:WHITE TWO-WAY LEFT WAY TRAFFIC
0:BLACK LEFT LANE MERGE
0:WHITE LEFT LANE MERGE
0:DRIVE SLOW SIGN
0:HEAVY WHITE DOWN-POINTING TRIANGLE
0:LEFT CLOSED ENTRY
0:SQUARED SALTIRE
0:FALLING DIAGONAL IN WHITE CIRCLE IN BLACK SQUARE
0:BLACK TRUCK
0:RESTRICTED LEFT ENTRY-1
22:2
0:ASTRONOMICAL SYMBOL FOR URANUS
0:HEAVY CIRCLE WITH STROKE AND TWO DOTS ABOVE
0:PENTAGRAM
0:RIGHT-HANDED INTERLACED PENTAGRAM
0:LEFT-HANDED INTERLACED PENTAGRAM
0:INVERTED PENTAGRAM
0:BLACK CROSS ON SHIELD
0:SHINTO SHRINE
0:CHURCH
1:ASTLE
0:HISTORIC SITE
0:GEAR WITHOUT HUB
9: HANDLES
0:MAP SYMBOL FOR LIGHTHOUSE
1:OUNTAIN
0:UMBRELLA ON GROUND
0:FOUNTAIN
1:LAG IN HOLE
1:ERRY
0:SAILBOAT
1:QUARE FOUR CORNERS
1:KIER
0:ICE SKATE
0:PERSON WITH BALL
0:TENT
0:JAPANESE BANK SYMBOL
0:HEADSTONE GRAVEYARD SYMBOL
0:FUEL PUMP
0:CUP ON BLACK SQUARE
0:WHITE FLAG WITH HORIZONTAL MIDDLE BLACK STRIPE
0:BLACK SAFETY SCISSORS
0:UPPER BLADE SCISSORS
0:BLACK SCISSORS
0:LOWER BLADE SCISSORS
0:WHITE SCISSORS
6:HEAVY CHECK MARK
0:TELEPHONE LOCATION SIGN
1:APE DRIVE
0:AIRPLANE
0:ENVELOPE
0:RAISED FIST
7:HAND
0:VICTORY HAND
0:WRITING HAND
0:LOWER RIGHT PENCIL
0:PENCIL
0:UPPER RIGHT PENCIL
0:WHITE NIB
0:BLACK NIB
0:CHECK MARK
0:HEAVY CHECK MARK
0:MULTIPLICATION X
0:HEAVY MULTIPLICATION X
0:BALLOT X
0:HEAVY BALLOT X
0:OUTLINED GREEK CROSS
0:HEAVY GREEK CROSS
0:OPEN CENTRE CROSS
0:HEAVY OPEN CENTRE CROSS
0:LATIN CROSS
0:SHADOWED WHITE LATIN CROSS
0:OUTLINED LATIN CROSS
0:MALTESE CROSS
0:STAR OF DAVID
0:FOUR TEARDROP-SPOKED ASTERISK
5:BALLOON-SPOKED ASTERISK
0:HEAVY FOUR BALLOON-SPOKED ASTERISK
0:FOUR CLUB-SPOKED ASTERISK
0:BLACK FOUR POINTED STAR
0:WHITE FOUR POINTED STAR
0:SPARKLES
1:TRESS OUTLINED WHITE STAR
0:CIRCLED WHITE STAR
0:OPEN CENTRE BLACK STAR
0:BLACK CENTRE WHITE STAR
0:OUTLINED BLACK STAR
0:HEAVY OUTLINED BLACK STAR
0:PINWHEEL STAR
0:SHADOWED WHITE STAR
0:HEAVY ASTERISK
0:OPEN CENTRE ASTERISK
0:EIGHT SPOKED ASTERISK
6:POINTED BLACK STAR
14:PINWHEEL STAR
0:SIX POINTED BLACK STAR
0:EIGHT POINTED RECTILINEAR BLACK STAR
0:HEAVY EIGHT POINTED RECTILINEAR BLACK STAR
0:TWELVE POINTED BLACK STAR
0:SIXTEEN POINTED ASTERISK
0:TEARDROP-SPOKED ASTERISK
0:OPEN CENTRE TEARDROP-SPOKED ASTERISK
0:HEAVY TEARDROP-SPOKED ASTERISK
0:SIX PETALLED BLACK AND WHITE FLORETTE
0:BLACK FLORETTE
0:WHITE FLORETTE
0:EIGHT PETALLED OUTLINED BLACK FLORETTE
0:CIRCLED OPEN CENTRE EIGHT POINTED STAR
0:HEAVY TEARDROP-SPOKED PINWHEEL ASTERISK
0:SNOWFLAKE
0:TIGHT TRIFOLIATE SNOWFLAKE
0:HEAVY CHEVRON SNOWFLAKE
0:SPARKLE
0:HEAVY SPARKLE
0:BALLOON-SPOKED ASTERISK
0:EIGHT TEARDROP-SPOKED PROPELLER ASTERISK
0:HEAVY EIGHT TEARDROP-SPOKED PROPELLER ASTERISK
0:CROSS MARK
0:SHADOWED WHITE CIRCLE
0:NEGATIVE SQUARED CROSS MARK
0:LOWER RIGHT DROP-SHADOWED WHITE SQUARE
0:UPPER RIGHT DROP-SHADOWED WHITE SQUARE
0:LOWER RIGHT SHADOWED WHITE SQUARE
0:UPPER RIGHT SHADOWED WHITE SQUARE
0:BLACK QUESTION MARK ORNAMENT
0:WHITE QUESTION MARK ORNAMENT
6:EXCLAMATION MARK ORNAMENT
0:BLACK DIAMOND MINUS WHITE X
0:HEAVY EXCLAMATION MARK SYMBOL
0:LIGHT VERTICAL BAR
0:MEDIUM VERTICAL BAR
0:HEAVY VERTICAL BAR
6:SINGLE TURNED COMMA QUOTATION MARK ORNAMENT
13:COMMA QUOTATION MARK ORNAMENT
6:DOUBLE TURNED COMMA QUOTATION MARK ORNAMENT
13:COMMA QUOTATION MARK ORNAMENT
6:LOW SINGLE COMMA QUOTATION MARK ORNAMENT
10:DOUBLE COMMA QUOTATION MARK ORNAMENT
0:CURVED STEM PARAGRAPH SIGN ORNAMENT
0:HEAVY EXCLAMATION MARK ORNAMENT
6:HEART EXCLAMATION MARK ORNAMENT
6:BLACK HEART
0:ROTATED HEAVY BLACK HEART BULLET
0:FLORAL HEART
0:ROTATED FLORAL HEART BULLET
0:MEDIUM LEFT PARENTHESIS ORNAMENT
7:RIGHT PARENTHESIS ORNAMENT
7:FLATTENED LEFT PARENTHESIS ORNAMENT
17:RIGHT PARENTHESIS ORNAMENT
7:LEFT-POINTING ANGLE BRACKET ORNAMENT
7:RIGHT-POINTING ANGLE BRACKET ORNAMENT
0:HEAVY LEFT-POINTING ANGLE QUOTATION MARK ORNAMENT
6:RIGHT-POINTING ANGLE QUOTATION MARK ORNAMENT
6:LEFT-POINTING ANGLE BRACKET ORNAMENT
6:RIGHT-POINTING ANGLE BRACKET ORNAMENT
0:LIGHT LEFT TORTOISE SHELL BRACKET ORNAMENT
6:RIGHT TORTOISE SHELL BRACKET ORNAMENT
0:MEDIUM LEFT CURLY BRACKET ORNAMENT
7:RIGHT CURLY BRACKET ORNAMENT
0:DINGBAT NEGATIVE CIRCLED DIGIT ONE
31:TWO
32:HREE
31:FOUR
32:IVE
31:SIX
32:EVEN
31:EIGHT
31:NINE
25:NUMBER TEN
8:CIRCLED SANS-SERIF DIGIT ONE
33:TWO
34:HREE
33:FOUR
34:IVE
33:SIX
34:EVEN
33:EIGHT
33:NINE
27:NUMBER TEN
8:NEGATIVE CIRCLED SANS-SERIF DIGIT ONE
42:TWO
43:HREE
42:FOUR
43:IVE
42:SIX
43:EVEN
42:EIGHT
42:NINE
36:NUMBER TEN
0:HEAVY WIDE-HEADED RIGHTWARDS ARROW
6:PLUS SIGN
6:MINUS SIGN
6:DIVISION SIGN
6:SOUTH EAST ARROW
6:RIGHTWARDS ARROW
6:NORTH EAST ARROW
0:DRAFTING POINT RIGHTWARDS ARROW
0:HEAVY ROUND-TIPPED RIGHTWARDS ARROW
0:TRIANGLE-HEADED RIGHTWARDS ARROW
0:HEAVY TRIANGLE-HEADED RIGHTWARDS ARROW
0:DASHED TRIANGLE-HEADED RIGHTWARDS ARROW
0:HEAVY DASHED TRIANGLE-HEADED RIGHTWARDS ARROW
0:BLACK RIGHTWARDS ARROW
0:THREE-D TOP-LIGHTED RIGHTWARDS ARROWHEAD
8:BOTTOM-LIGHTED RIGHTWARDS ARROWHEAD
0:BLACK RIGHTWARDS ARROWHEAD
0:HEAVY BLACK CURVED DOWNWARDS AND RIGHTWARDS ARROW
19:UPWARDS AND RIGHTWARDS ARROW
0:SQUAT BLACK RIGHTWARDS ARROW
0:HEAVY CONCAVE-POINTED BLACK RIGHTWARDS ARROW
0:RIGHT-SHADED WHITE RIGHTWARDS ARROW
0:LEFT-SHADED WHITE RIGHTWARDS ARROW
0:BACK-TILTED SHADOWED WHITE RIGHTWARDS ARROW
0:FRONT-TILTED SHADOWED WHITE RIGHTWARDS ARROW
0:HEAVY LOWER RIGHT-SHADOWED WHITE RIGHTWARDS ARROW
6:UPPER RIGHT-SHADOWED WHITE RIGHTWARDS ARROW
0:NOTCHED LOWER RIGHT-SHADOWED WHITE RIGHTWARDS ARROW
0:CURLY LOOP
0:NOTCHED UPPER RIGHT-SHADOWED WHITE RIGHTWARDS ARROW
0:CIRCLED HEAVY WHITE RIGHTWARDS ARROW
0:WHITE-FEATHERED RIGHTWARDS ARROW
0:BLACK-FEATHERED SOUTH EAST ARROW
16:RIGHTWARDS ARROW
16:NORTH EAST ARROW
0:HEAVY BLACK-FEATHERED SOUTH EAST ARROW
22:RIGHTWARDS ARROW
22:NORTH EAST ARROW
0:TEARDROP-BARBED RIGHTWARDS ARROW
0:HEAVY TEARDROP-SHANKED RIGHTWARDS ARROW
0:WEDGE-TAILED RIGHTWARDS ARROW
0:HEAVY WEDGE-TAILED RIGHTWARDS ARROW
0:OPEN-OUTLINED RIGHTWARDS ARROW
0:DOUBLE CURLY LOOP
0:THREE DIMENSIONAL ANGLE
0:WHITE TRIANGLE CONTAINING SMALL WHITE TRIANGLE
0:PERPENDICULAR
0:OPEN SUBSET
7:PERSET
0:LEFT S-SHAPED BAG DELIMITER
0:RIGHT S-SHAPED BAG DELIMITER
0:OR WITH DOT INSIDE
0:REVERSE SOLIDUS PRECEDING SUBSET
0:SUPERSET PRECEDING SOLIDUS
0:VERTICAL BAR WITH HORIZONTAL STROKE
0:MATHEMATICAL RISING DIAGONAL
0:LONG DIVISION
0:MATHEMATICAL FALLING DIAGONAL
0:SQUARED LOGICAL AND
16:OR
0:WHITE DIAMOND WITH CENTRED DOT
0:AND WITH DOT
0:ELEMENT OF OPENING UPWARDS
0:LOWER RIGHT CORNER WITH DOT
0:UPPER LEFT CORNER WITH DOT
0:LEFT OUTER JOIN
0:RIGHT OUTER JOIN
0:FULL OUTER JOIN
0:LARGE UP TACK
6:DOWN TACK
1:EFT AND RIGHT DOUBLE TURNSTILE
15:TACK
5:MULTIMAP
1:ONG RIGHT TACK
5:LEFT TACK
0:UP TACK WITH CIRCLE ABOVE
0:LOZENGE DIVIDED BY HORIZONTAL RULE
0:WHITE CONCAVE-SIDED DIAMOND
27: WITH LEFTWARDS TICK
33:RIGHTWARDS TICK
6:SQUARE WITH LEFTWARDS TICK
18:RIGHTWARDS TICK
0:MATHEMATICAL LEFT WHITE SQUARE BRACKET
13:RIGHT WHITE SQUARE BRACKET
13:LEFT ANGLE BRACKET
13:RIGHT ANGLE BRACKET
13:LEFT DOUBLE ANGLE BRACKET
13:RIGHT DOUBLE ANGLE BRACKET
13:LEFT WHITE TORTOISE SHELL BRACKET
13:RIGHT WHITE TORTOISE SHELL BRACKET
13:LEFT FLATTENED PARENTHESIS
13:RIGHT FLATTENED PARENTHESIS
0:UPWARDS QUADRUPLE ARROW
0:DOWNWARDS QUADRUPLE ARROW
0:ANTICLOCKWISE GAPPED CIRCLE ARROW
0:CLOCKWISE GAPPED CIRCLE ARROW
0:RIGHT ARROW WITH CIRCLED PLUS
0:LONG LEFTWARDS ARROW
5:RIGHTWARDS ARROW
5:LEFT RIGHT ARROW
9:WARDS DOUBLE ARROW
5:RIGHTWARDS DOUBLE ARROW
5:LEFT RIGHT DOUBLE ARROW
9:WARDS ARROW FROM BAR
5:RIGHTWARDS ARROW FROM BAR
5:LEFTWARDS DOUBLE ARROW FROM BAR
5:RIGHTWARDS DOUBLE ARROW FROM BAR
16:SQUIGGLE ARROW
0:BRAILLE PATTERN BLANK
16:DOTS-1
21:2
21:12
21:3
21:13
21:23
21:123
21:4
21:14
21:24
21:124
21:34
21:134
21:234
21:1234
21:5
21:15
21:25
21:125
21:35
21:135
21:235
21:1235
21:45
21:145
21:245
21:1245
21:345
21:1345
21:2345
21:12345
21:6
21:16
21:26
21:126
21:36
21:136
21:236
21:1236
21:46
21:146
21:246
21:1246
21:346
21:1346
21:2346
21:12346
21:56
21:156
21:256
21:1256
21:356
21:1356
21:2356
21:12356
21:456
21:1456
21:2456
21:12456
21:3456
21:13456
21:23456
21:123456
21:7
21:17
21:27
21:127
21:37
21:137
21:237
21:1237
21:47
21:147
21:247
21:1247
21:347
21:1347
21:2347
21:12347
21:57
21:157
21:257
21:1257
21:357
21:1357
21:2357
21:12357
21:457
21:1457
21:2457
21:12457
21:3457
21:13457
21:23457
21:123457
21:67
21:167
21:267
21:1267
21:367
21:1367
21:2367
21:12367
21:467
21:1467
21:2467
21:12467
21:3467
21:13467
21:23467
21:123467
21:567
21:1567
21:2567
21:12567
21:3567
21:13567
21:23567
21:123567
21:4567
21:14567
21:24567
21:124567
21:34567
21:134567
21:234567
21:1234567
21:8
21:18
21:28
21:128
21:38
21:138
21:238
21:1238
21:48
21:148
21:248
21:1248
21:348
21:1348
21:2348
21:12348
21:58
21:158
21:258
21:1258
21:358
21:1358
21:2358
21:12358
21:458
21:1458
21:2458
21:12458
21:3458
21:13458
21:23458
21:123458
21:68
21:168
21:268
21:1268
21:368
21:1368
21:2368
21:12368
21:468
21:1468
21:2468
21:12468
21:3468
21:13468
21:23468
21:123468
21:568
21:1568
21:2568
21:12568
21:3568
21:13568
21:23568
21:123568
21:4568
21:14568
21:24568
21:124568
21:34568
21:134568
21:234568
21:1234568
21:78
21:178
21:278
21:1278
21:378
21:1378
21:2378
21:12378
21:478
21:1478
21:2478
21:12478
21:3478
21:13478
21:23478
21:123478
21:578
21:1578
21:2578
21:12578
21:3578
21:13578
21:23578
21:123578
21:4578
21:14578
21:24578
21:124578
21:34578
21:134578
21:234578
21:1234578
21:678
21:1678
21:2678
21:12678
21:3678
21:13678
21:23678
21:123678
21:4678
21:14678
21:24678
21:124678
21:34678
21:134678
21:234678
21:1234678
21:5678
21:15678
21:25678
21:125678
21:35678
21:135678
21:235678
21:1235678
21:45678
21:145678
21:245678
21:1245678
21:345678
21:1345678
21:2345678
21:12345678
0:RIGHTWARDS TWO-HEADED ARROW WITH VERTICAL STROKE
33:DOUBLE VERTICAL STROKE
0:LEFTWARDS DOUBLE ARROW WITH VERTICAL STROKE
0:RIGHTWARDS DOUBLE ARROW WITH VERTICAL STROKE
0:LEFT RIGHT DOUBLE ARROW WITH VERTICAL STROKE
0:RIGHTWARDS TWO-HEADED ARROW FROM BAR
0:LEFTWARDS DOUBLE ARROW FROM BAR
0:RIGHTWARDS DOUBLE ARROW FROM BAR
0:DOWNWARDS ARROW WITH HORIZONTAL STROKE
0:UPWARDS ARROW WITH HORIZONTAL STROKE
8:TRIPLE ARROW
0:DOWNWARDS TRIPLE ARROW
0:LEFTWARDS DOUBLE DASH ARROW
0:RIGHTWARDS DOUBLE DASH ARROW
0:LEFTWARDS TRIPLE DASH ARROW
0:RIGHTWARDS TRIPLE DASH ARROW
12:WO-HEADED TRIPLE DASH ARROW
11:ARROW WITH DOTTED STEM
0:UPWARDS ARROW TO BAR
0:DOWNWARDS ARROW TO BAR
0:RIGHTWARDS ARROW WITH TAIL WITH VERTICAL STROKE
32:DOUBLE VERTICAL STROKE
11:TWO-HEADED ARROW WITH TAIL
37: WITH VERTICAL STROKE
43:DOUBLE VERTICAL STROKE
0:LEFTWARDS ARROW-TAIL
0:RIGHTWARDS ARROW-TAIL
0:LEFTWARDS DOUBLE ARROW-TAIL
0:RIGHTWARDS DOUBLE ARROW-TAIL
0:LEFTWARDS ARROW TO BLACK DIAMOND
0:RIGHTWARDS ARROW TO BLACK DIAMOND
0:LEFTWARDS ARROW FROM BAR TO BLACK DIAMOND
0:RIGHTWARDS ARROW FROM BAR TO BLACK DIAMOND
0:NORTH WEST AND SOUTH EAST ARROW
6:EAST AND SOUTH WEST ARROW
6:WEST ARROW WITH HOOK
6:EAST ARROW WITH HOOK
0:SOUTH EAST ARROW WITH HOOK
6:WEST ARROW WITH HOOK
0:NORTH WEST ARROW AND NORTH EAST ARROW
6:EAST ARROW AND SOUTH EAST ARROW
0:SOUTH EAST ARROW AND SOUTH WEST ARROW
6:WEST ARROW AND NORTH WEST ARROW
0:RISING DIAGONAL CROSSING FALLING DIAGONAL
0:FALLING DIAGONAL CROSSING RISING DIAGONAL
0:SOUTH EAST ARROW CROSSING NORTH EAST ARROW
0:NORTH EAST ARROW CROSSING SOUTH EAST ARROW
0:FALLING DIAGONAL CROSSING NORTH EAST ARROW
0:RISING DIAGONAL CROSSING SOUTH EAST ARROW
0:NORTH EAST ARROW CROSSING NORTH WEST ARROW
6:WEST ARROW CROSSING NORTH EAST ARROW
0:WAVE ARROW POINTING DIRECTLY RIGHT
0:ARROW POINTING RIGHTWARDS THEN CURVING UPWARDS
39:DOWNWARDS
15:DOWNWARDS THEN CURVING LEFTWARDS
38:RIGHTWARDS
0:RIGHT-SIDE ARC CLOCKWISE ARROW
0:LEFT-SIDE ARC ANTICLOCKWISE ARROW
0:TOP ARC ANTICLOCKWISE ARROW
0:BOTTOM ARC ANTICLOCKWISE ARROW
0:TOP ARC CLOCKWISE ARROW WITH MINUS
8:ANTICLOCKWISE ARROW WITH PLUS
0:LOWER RIGHT SEMICIRCULAR CLOCKWISE ARROW
6:LEFT SEMICIRCULAR ANTICLOCKWISE ARROW
0:ANTICLOCKWISE CLOSED CIRCLE ARROW
0:CLOCKWISE CLOSED CIRCLE ARROW
0:RIGHTWARDS ARROW ABOVE SHORT LEFTWARDS ARROW
0:LEFTWARDS ARROW ABOVE SHORT RIGHTWARDS ARROW
0:SHORT RIGHTWARDS ARROW ABOVE LEFTWARDS ARROW
0:RIGHTWARDS ARROW WITH PLUS BELOW
0:LEFTWARDS ARROW WITH PLUS BELOW
0:RIGHTWARDS ARROW THROUGH X
0:LEFT RIGHT ARROW THROUGH SMALL CIRCLE
0:UPWARDS TWO-HEADED ARROW FROM SMALL CIRCLE
0:LEFT BARB UP RIGHT BARB DOWN HARPOON
10:DOWN RIGHT BARB UP HARPOON
0:UP BARB RIGHT DOWN BARB LEFT HARPOON
8:LEFT DOWN BARB RIGHT HARPOON
0:LEFT BARB UP RIGHT BARB UP HARPOON
0:UP BARB RIGHT DOWN BARB RIGHT HARPOON
0:LEFT BARB DOWN RIGHT BARB DOWN HARPOON
0:UP BARB LEFT DOWN BARB LEFT HARPOON
0:LEFTWARDS HARPOON WITH BARB UP TO BAR
0:RIGHTWARDS HARPOON WITH BARB UP TO BAR
0:UPWARDS HARPOON WITH BARB RIGHT TO BAR
0:DOWNWARDS HARPOON WITH BARB RIGHT TO BAR
0:LEFTWARDS HARPOON WITH BARB DOWN TO BAR
0:RIGHTWARDS HARPOON WITH BARB DOWN TO BAR
0:UPWARDS HARPOON WITH BARB LEFT TO BAR
0:DOWNWARDS HARPOON WITH BARB LEFT TO BAR
0:LEFTWARDS HARPOON WITH BARB UP FROM BAR
0:RIGHTWARDS HARPOON WITH BARB UP FROM BAR
0:UPWARDS HARPOON WITH BARB RIGHT FROM BAR
0:DOWNWARDS HARPOON WITH BARB RIGHT FROM BAR
0:LEFTWARDS HARPOON WITH BARB DOWN FROM BAR
0:RIGHTWARDS HARPOON WITH BARB DOWN FROM BAR
0:UPWARDS HARPOON WITH BARB LEFT FROM BAR
0:DOWNWARDS HARPOON WITH BARB LEFT FROM BAR
0:LEFTWARDS HARPOON WITH BARB UP ABOVE LEFTWARDS HARPOON WITH BARB DOWN
0:UPWARDS HARPOON WITH BARB LEFT BESIDE UPWARDS HARPOON WITH BARB RIGHT
0:RIGHTWARDS HARPOON WITH BARB UP ABOVE RIGHTWARDS HARPOON WITH BARB DOWN
0:DOWNWARDS HARPOON WITH BARB LEFT BESIDE DOWNWARDS HARPOON WITH BARB RIGHT
0:LEFTWARDS HARPOON WITH BARB UP ABOVE RIGHTWARDS HARPOON WITH BARB UP
28:DOWN ABOVE RIGHTWARDS HARPOON WITH BARB DOWN
0:RIGHTWARDS HARPOON WITH BARB UP ABOVE LEFTWARDS HARPOON WITH BARB UP
29:DOWN ABOVE LEFTWARDS HARPOON WITH BARB DOWN
0:LEFTWARDS HARPOON WITH BARB UP ABOVE LONG DASH
28:DOWN BELOW LONG DASH
0:RIGHTWARDS HARPOON WITH BARB UP ABOVE LONG DASH
29:DOWN BELOW LONG DASH
0:UPWARDS HARPOON WITH BARB LEFT BESIDE DOWNWARDS HARPOON WITH BARB RIGHT
0:DOWNWARDS HARPOON WITH BARB LEFT BESIDE UPWARDS HARPOON WITH BARB RIGHT
0:RIGHT DOUBLE ARROW WITH ROUNDED HEAD
0:EQUALS SIGN ABOVE RIGHTWARDS ARROW
0:TILDE OPERATOR ABOVE RIGHTWARDS ARROW
0:LEFTWARDS ARROW ABOVE TILDE OPERATOR
0:RIGHTWARDS ARROW ABOVE TILDE OPERATOR
23:ALMOST EQUAL TO
0:LESS-THAN ABOVE LEFTWARDS ARROW
2:FTWARDS ARROW THROUGH LESS-THAN
0:GREATER-THAN ABOVE RIGHTWARDS ARROW
0:SUBSET ABOVE RIGHTWARDS ARROW
0:LEFTWARDS ARROW THROUGH SUBSET
0:SUPERSET ABOVE LEFTWARDS ARROW
0:LEFT FISH TAIL
0:RIGHT FISH TAIL
0:UP FISH TAIL
0:DOWN FISH TAIL
0:TRIPLE VERTICAL BAR DELIMITER
0:Z NOTATION SPOT
11:TYPE COLON
0:LEFT WHITE CURLY BRACKET
0:RIGHT WHITE CURLY BRACKET
0:LEFT WHITE PARENTHESIS
0:RIGHT WHITE PARENTHESIS
0:Z NOTATION LEFT IMAGE BRACKET
11:RIGHT IMAGE BRACKET
11:LEFT BINDING BRACKET
11:RIGHT BINDING BRACKET
0:LEFT SQUARE BRACKET WITH UNDERBAR
0:RIGHT SQUARE BRACKET WITH UNDERBAR
0:LEFT SQUARE BRACKET WITH TICK IN TOP CORNER
0:RIGHT SQUARE BRACKET WITH TICK IN BOTTOM CORNER
0:LEFT SQUARE BRACKET WITH TICK IN BOTTOM CORNER
0:RIGHT SQUARE BRACKET WITH TICK IN TOP CORNER
0:LEFT ANGLE BRACKET WITH DOT
0:RIGHT ANGLE BRACKET WITH DOT
0:LEFT ARC LESS-THAN BRACKET
0:RIGHT ARC GREATER-THAN BRACKET
0:DOUBLE LEFT ARC GREATER-THAN BRACKET
7:RIGHT ARC LESS-THAN BRACKET
0:LEFT BLACK TORTOISE SHELL BRACKET
0:RIGHT BLACK TORTOISE SHELL BRACKET
0:DOTTED FENCE
0:VERTICAL ZIGZAG LINE
0:MEASURED ANGLE OPENING LEFT
0:RIGHT ANGLE VARIANT WITH SQUARE
0:MEASURED RIGHT ANGLE WITH DOT
0:ANGLE WITH S INSIDE
1:CUTE ANGLE
0:SPHERICAL ANGLE OPENING LEFT
24:UP
0:TURNED ANGLE
0:REVERSED ANGLE
0:ANGLE WITH UNDERBAR
0:REVERSED ANGLE WITH UNDERBAR
0:OBLIQUE ANGLE OPENING UP
22:DOWN
0:MEASURED ANGLE WITH OPEN ARM ENDING IN ARROW POINTING UP AND RIGHT
61:LEFT
54:DOWN AND RIGHT
63:LEFT
54:RIGHT AND UP
54:LEFT AND UP
54:RIGHT AND DOWN
54:LEFT AND DOWN
0:REVERSED EMPTY SET
0:EMPTY SET WITH OVERBAR
15:SMALL CIRCLE ABOVE
15:RIGHT ARROW ABOVE
15:LEFT ARROW ABOVE
0:CIRCLE WITH HORIZONTAL BAR
6:D VERTICAL BAR
8:PARALLEL
8:REVERSE SOLIDUS
8:PERPENDICULAR
6: DIVIDED BY HORIZONTAL BAR AND TOP HALF DIVIDED BY VERTICAL BAR
7:WITH SUPERIMPOSED X
6:D ANTICLOCKWISE-ROTATED DIVISION SIGN
0:UP ARROW THROUGH CIRCLE
0:CIRCLED WHITE BULLET
8:BULLET
8:LESS-THAN
8:GREATER-THAN
6: WITH SMALL CIRCLE TO THE RIGHT
12:TWO HORIZONTAL STROKES TO THE RIGHT
0:SQUARED RISING DIAGONAL SLASH
8:FALLING DIAGONAL SLASH
8:ASTERISK
8:SMALL CIRCLE
9:QUARE
0:TWO JOINED SQUARES
1:RIANGLE WITH DOT ABOVE
14:UNDERBAR
0:S IN TRIANGLE
0:TRIANGLE WITH SERIFS AT BOTTOM
0:RIGHT TRIANGLE ABOVE LEFT TRIANGLE
0:LEFT TRIANGLE BESIDE VERTICAL BAR
0:VERTICAL BAR BESIDE RIGHT TRIANGLE
0:BOWTIE WITH LEFT HALF BLACK
12:RIGHT HALF BLACK
1:LACK BOWTIE
0:TIMES WITH LEFT HALF BLACK
11:RIGHT HALF BLACK
0:WHITE HOURGLASS
0:BLACK HOURGLASS
0:LEFT WIGGLY FENCE
0:RIGHT WIGGLY FENCE
0:LEFT DOUBLE WIGGLY FENCE
0:RIGHT DOUBLE WIGGLY FENCE
0:INCOMPLETE INFINITY
0:TIE OVER INFINITY
0:INFINITY NEGATED WITH VERTICAL BAR
0:DOUBLE-ENDED MULTIMAP
0:SQUARE WITH CONTOURED OUTLINE
0:INCREASES AS
0:SHUFFLE PRODUCT
0:EQUALS SIGN AND SLANTED PARALLEL
32: WITH TILDE ABOVE
0:IDENTICAL TO AND SLANTED PARALLEL
0:GLEICH STARK
0:THERMODYNAMIC
0:DOWN-POINTING TRIANGLE WITH LEFT HALF BLACK
28:RIGHT HALF BLACK
0:BLACK DIAMOND WITH DOWN ARROW
6:LOZENGE
0:WHITE CIRCLE WITH DOWN ARROW
0:BLACK CIRCLE WITH DOWN ARROW
0:ERROR-BARRED WHITE SQUARE
13:BLACK SQUARE
13:WHITE DIAMOND
13:BLACK DIAMOND
13:WHITE CIRCLE
13:BLACK CIRCLE
0:RULE-DELAYED
1:EVERSE SOLIDUS OPERATOR
0:SOLIDUS WITH OVERBAR
0:REVERSE SOLIDUS WITH HORIZONTAL STROKE
0:BIG SOLIDUS
4:REVERSE SOLIDUS
0:DOUBLE PLUS
0:TRIPLE PLUS
0:LEFT-POINTING CURVED ANGLE BRACKET
0:RIGHT-POINTING CURVED ANGLE BRACKET
0:TINY
0:MINY
0:N-ARY CIRCLED DOT OPERATOR
14:PLUS OPERATOR
14:TIMES OPERATOR
6:UNION OPERATOR WITH DOT
26:PLUS
6:SQUARE INTERSECTION OPERATOR
13:UNION OPERATOR
0:TWO LOGICAL AND OPERATOR
12:OR OPERATOR
0:N-ARY TIMES OPERATOR
0:MODULO TWO SUM
0:SUMMATION WITH INTEGRAL
0:QUADRUPLE INTEGRAL OPERATOR
0:FINITE PART INTEGRAL
0:INTEGRAL WITH DOUBLE STROKE
9:AVERAGE WITH SLASH
0:CIRCULATION FUNCTION
0:ANTICLOCKWISE INTEGRATION
0:LINE INTEGRATION WITH RECTANGULAR PATH AROUND POLE
22:SEMICIRCULAR PATH AROUND POLE
17:NOT INCLUDING THE POLE
0:INTEGRAL AROUND A POINT OPERATOR
0:QUATERNION INTEGRAL OPERATOR
0:INTEGRAL WITH LEFTWARDS ARROW WITH HOOK
14:TIMES SIGN
14:INTERSECTION
14:UNION
14:OVERBAR
14:UNDERBAR
0:JOIN
0:LARGE LEFT TRIANGLE OPERATOR
0:Z NOTATION SCHEMA COMPOSITION
18:PIPING
19:ROJECTION
0:PLUS SIGN WITH SMALL CIRCLE ABOVE
15:CIRCUMFLEX ACCENT ABOVE
15:TILDE ABOVE
15:DOT BELOW
15:TILDE BELOW
15:SUBSCRIPT TWO
15:BLACK TRIANGLE
0:MINUS SIGN WITH COMMA ABOVE
16:DOT BELOW
16:FALLING DOTS
16:RISING DOTS
0:PLUS SIGN IN LEFT HALF CIRCLE
13:RIGHT HALF CIRCLE
0:VECTOR OR CROSS PRODUCT
0:MULTIPLICATION SIGN WITH DOT ABOVE
25:UNDERBAR
0:SEMIDIRECT PRODUCT WITH BOTTOM CLOSED
1:MASH PRODUCT
0:MULTIPLICATION SIGN IN LEFT HALF CIRCLE
23:RIGHT HALF CIRCLE
0:CIRCLED MULTIPLICATION SIGN WITH CIRCUMFLEX ACCENT
0:MULTIPLICATION SIGN IN DOUBLE CIRCLE
0:CIRCLED DIVISION SIGN
0:PLUS SIGN IN TRIANGLE
0:MINUS SIGN IN TRIANGLE
1:ULTIPLICATION SIGN IN TRIANGLE
0:INTERIOR PRODUCT
0:RIGHTHAND INTERIOR PRODUCT
0:Z NOTATION RELATIONAL COMPOSITION
0:AMALGAMATION OR COPRODUCT
0:INTERSECTION WITH DOT
0:UNION WITH MINUS SIGN
11:OVERBAR
0:INTERSECTION WITH OVERBAR
18:LOGICAL AND
0:UNION WITH LOGICAL OR
6:ABOVE INTERSECTION
0:INTERSECTION ABOVE UNION
0:UNION ABOVE BAR ABOVE INTERSECTION
0:INTERSECTION ABOVE BAR ABOVE UNION
0:UNION BESIDE AND JOINED WITH UNION
0:INTERSECTION BESIDE AND JOINED WITH INTERSECTION
0:CLOSED UNION WITH SERIFS
7:INTERSECTION WITH SERIFS
0:DOUBLE SQUARE INTERSECTION
14:UNION
0:CLOSED UNION WITH SERIFS AND SMASH PRODUCT
0:LOGICAL AND WITH DOT ABOVE
8:OR WITH DOT ABOVE
0:DOUBLE LOGICAL AND
15:OR
0:TWO INTERSECTING LOGICAL AND
25:OR
0:SLOPING LARGE OR
14:AND
0:LOGICAL OR OVERLAPPING LOGICAL AND
8:AND WITH MIDDLE STEM
8:OR WITH MIDDLE STEM
8:AND WITH HORIZONTAL DASH
8:OR WITH HORIZONTAL DASH
8:AND WITH DOUBLE OVERBAR
17:UNDERBAR
17:DOUBLE UNDERBAR
0:SMALL VEE WITH UNDERBAR
0:LOGICAL OR WITH DOUBLE OVERBAR
23:UNDERBAR
0:Z NOTATION DOMAIN ANTIRESTRICTION
11:RANGE ANTIRESTRICTION
0:EQUALS SIGN WITH DOT BELOW
0:IDENTICAL WITH DOT ABOVE
0:TRIPLE HORIZONTAL BAR WITH DOUBLE VERTICAL STROKE
27:TRIPLE VERTICAL STROKE
1:ILDE OPERATOR WITH DOT ABOVE
20:RISING DOTS
0:SIMILAR MINUS SIMILAR
0:CONGRUENT WITH DOT ABOVE
0:EQUALS WITH ASTERISK
0:ALMOST EQUAL TO WITH CIRCUMFLEX ACCENT
1:PPROXIMATELY EQUAL OR EQUAL TO
0:EQUALS SIGN ABOVE PLUS SIGN
0:PLUS SIGN ABOVE EQUALS SIGN
0:EQUALS SIGN ABOVE TILDE OPERATOR
0:DOUBLE COLON EQUAL
0:TWO CONSECUTIVE EQUALS SIGNS
1:HREE CONSECUTIVE EQUALS SIGNS
0:EQUALS SIGN WITH TWO DOTS ABOVE AND TWO DOTS BELOW
3:IVALENT WITH FOUR DOTS ABOVE
0:LESS-THAN WITH CIRCLE INSIDE
0:GREATER-THAN WITH CIRCLE INSIDE
0:LESS-THAN WITH QUESTION MARK ABOVE
0:GREATER-THAN WITH QUESTION MARK ABOVE
0:LESS-THAN OR SLANTED EQUAL TO
0:GREATER-THAN OR SLANTED EQUAL TO
0:LESS-THAN OR SLANTED EQUAL TO WITH DOT INSIDE
0:GREATER-THAN OR SLANTED EQUAL TO WITH DOT INSIDE
0:LESS-THAN OR SLANTED EQUAL TO WITH DOT ABOVE
0:GREATER-THAN OR SLANTED EQUAL TO WITH DOT ABOVE
0:LESS-THAN OR SLANTED EQUAL TO WITH DOT ABOVE RIGHT
0:GREATER-THAN OR SLANTED EQUAL TO WITH DOT ABOVE LEFT
0:LESS-THAN OR APPROXIMATE
0:GREATER-THAN OR APPROXIMATE
0:LESS-THAN AND SINGLE-LINE NOT EQUAL TO
0:GREATER-THAN AND SINGLE-LINE NOT EQUAL TO
0:LESS-THAN AND NOT APPROXIMATE
0:GREATER-THAN AND NOT APPROXIMATE
0:LESS-THAN ABOVE DOUBLE-LINE EQUAL ABOVE GREATER-THAN
0:GREATER-THAN ABOVE DOUBLE-LINE EQUAL ABOVE LESS-THAN
0:LESS-THAN ABOVE SIMILAR OR EQUAL
0:GREATER-THAN ABOVE SIMILAR OR EQUAL
0:LESS-THAN ABOVE SIMILAR ABOVE GREATER-THAN
0:GREATER-THAN ABOVE SIMILAR ABOVE LESS-THAN
0:LESS-THAN ABOVE GREATER-THAN ABOVE DOUBLE-LINE EQUAL
0:GREATER-THAN ABOVE LESS-THAN ABOVE DOUBLE-LINE EQUAL
0:LESS-THAN ABOVE SLANTED EQUAL ABOVE GREATER-THAN ABOVE SLANTED EQUAL
0:GREATER-THAN ABOVE SLANTED EQUAL ABOVE LESS-THAN ABOVE SLANTED EQUAL
0:SLANTED EQUAL TO OR LESS-THAN
20:GREATER-THAN
20:LESS-THAN WITH DOT INSIDE
20:GREATER-THAN WITH DOT INSIDE
0:DOUBLE-LINE EQUAL TO OR LESS-THAN
24:GREATER-THAN
12:SLANTED EQUAL TO OR LESS-THAN
32:GREATER-THAN
0:SIMILAR OR LESS-THAN
11:GREATER-THAN
8:ABOVE LESS-THAN ABOVE EQUALS SIGN
14:GREATER-THAN ABOVE EQUALS SIGN
0:DOUBLE NESTED LESS-THAN
14:GREATER-THAN
14:LESS-THAN WITH UNDERBAR
0:GREATER-THAN OVERLAPPING LESS-THAN
13:BESIDE LESS-THAN
0:LESS-THAN CLOSED BY CURVE
0:GREATER-THAN CLOSED BY CURVE
0:LESS-THAN CLOSED BY CURVE ABOVE SLANTED EQUAL
0:GREATER-THAN CLOSED BY CURVE ABOVE SLANTED EQUAL
0:SMALLER THAN
0:LARGER THAN
0:SMALLER THAN OR EQUAL TO
0:LARGER THAN OR EQUAL TO
0:EQUALS SIGN WITH BUMPY ABOVE
0:PRECEDES ABOVE SINGLE-LINE EQUALS SIGN
0:SUCCEEDS ABOVE SINGLE-LINE EQUALS SIGN
0:PRECEDES ABOVE SINGLE-LINE NOT EQUAL TO
0:SUCCEEDS ABOVE SINGLE-LINE NOT EQUAL TO
0:PRECEDES ABOVE EQUALS SIGN
0:SUCCEEDS ABOVE EQUALS SIGN
0:PRECEDES ABOVE NOT EQUAL TO
0:SUCCEEDS ABOVE NOT EQUAL TO
0:PRECEDES ABOVE ALMOST EQUAL TO
0:SUCCEEDS ABOVE ALMOST EQUAL TO
0:PRECEDES ABOVE NOT ALMOST EQUAL TO
0:SUCCEEDS ABOVE NOT ALMOST EQUAL TO
0:DOUBLE PRECEDES
7:SUCCEEDS
0:SUBSET WITH DOT
2:PERSET WITH DOT
2:BSET WITH PLUS SIGN BELOW
2:PERSET WITH PLUS SIGN BELOW
2:BSET WITH MULTIPLICATION SIGN BELOW
2:PERSET WITH MULTIPLICATION SIGN BELOW
2:BSET OF OR EQUAL TO WITH DOT ABOVE
2:PERSET OF OR EQUAL TO WITH DOT ABOVE
2:BSET OF ABOVE EQUALS SIGN
2:PERSET OF ABOVE EQUALS SIGN
2:BSET OF ABOVE TILDE OPERATOR
2:PERSET OF ABOVE TILDE OPERATOR
2:BSET OF ABOVE ALMOST EQUAL TO
2:PERSET OF ABOVE ALMOST EQUAL TO
2:BSET OF ABOVE NOT EQUAL TO
2:PERSET OF ABOVE NOT EQUAL TO
1:QUARE LEFT OPEN BOX OPERATOR
7:RIGHT OPEN BOX OPERATOR
0:CLOSED SUBSET
9:PERSET
9:BSET OR EQUAL TO
9:PERSET OR EQUAL TO
0:SUBSET ABOVE SUPERSET
2:PERSET ABOVE SUBSET
2:BSET ABOVE SUBSET
2:PERSET ABOVE SUPERSET
9:BESIDE SUBSET
16:AND JOINED BY DASH WITH SUBSET
0:ELEMENT OF OPENING DOWNWARDS
0:PITCHFORK WITH TEE TOP
0:TRANSVERSAL INTERSECTION
0:FORKING
0:NONFORKING
0:SHORT LEFT TACK
6:DOWN TACK
6:UP TACK
0:PERPENDICULAR WITH S
0:VERTICAL BAR TRIPLE RIGHT TURNSTILE
0:DOUBLE VERTICAL BAR LEFT TURNSTILE
0:VERTICAL BAR DOUBLE LEFT TURNSTILE
0:DOUBLE VERTICAL BAR DOUBLE LEFT TURNSTILE
0:LONG DASH FROM LEFT MEMBER OF DOUBLE VERTICAL
0:SHORT DOWN TACK WITH OVERBAR
6:UP TACK WITH UNDERBAR
14:ABOVE SHORT DOWN TACK
0:DOUBLE DOWN TACK
7:UP TACK
7:STROKE NOT SIGN
0:REVERSED DOUBLE STROKE NOT SIGN
0:DOES NOT DIVIDE WITH REVERSED NEGATION SLASH
0:VERTICAL LINE WITH CIRCLE ABOVE
26:BELOW
0:DOWN TACK WITH CIRCLE BELOW
0:PARALLEL WITH HORIZONTAL STROKE
14:TILDE OPERATOR
0:TRIPLE VERTICAL BAR BINARY RELATION
20:WITH HORIZONTAL STROKE
7:COLON OPERATOR
7:NESTED LESS-THAN
14:GREATER-THAN
0:DOUBLE-LINE SLANTED LESS-THAN OR EQUAL TO
20:GREATER-THAN OR EQUAL TO
0:TRIPLE SOLIDUS BINARY RELATION
0:LARGE TRIPLE VERTICAL BAR OPERATOR
0:DOUBLE SOLIDUS OPERATOR
0:WHITE VERTICAL BAR
0:N-ARY WHITE VERTICAL BAR
1:ORTH EAST WHITE ARROW
6:WEST WHITE ARROW
0:SOUTH EAST WHITE ARROW
6:WEST WHITE ARROW
0:LEFT RIGHT WHITE ARROW
4:WARDS BLACK ARROW
0:UPWARDS BLACK ARROW
0:DOWNWARDS BLACK ARROW
0:NORTH EAST BLACK ARROW
6:WEST BLACK ARROW
0:SOUTH EAST BLACK ARROW
6:WEST BLACK ARROW
0:LEFT RIGHT BLACK ARROW
0:UP DOWN BLACK ARROW
0:RIGHTWARDS ARROW WITH TIP DOWNWARDS
26:UPWARDS
0:LEFTWARDS ARROW WITH TIP DOWNWARDS
25:UPWARDS
0:SQUARE WITH TOP HALF BLACK
12:BOTTOM HALF BLACK
12:UPPER RIGHT DIAGONAL HALF BLACK
12:LOWER LEFT DIAGONAL HALF BLACK
0:DIAMOND WITH LEFT HALF BLACK
13:RIGHT HALF BLACK
13:TOP HALF BLACK
13:BOTTOM HALF BLACK
1:OTTED SQUARE
0:BLACK LARGE SQUARE
0:WHITE LARGE SQUARE
0:BLACK VERY SMALL SQUARE
0:WHITE VERY SMALL SQUARE
0:BLACK PENTAGON
0:WHITE PENTAGON
6:HEXAGON
0:BLACK HEXAGON
0:HORIZONTAL BLACK HEXAGON
0:BLACK LARGE CIRCLE
6:MEDIUM DIAMOND
0:WHITE MEDIUM DIAMOND
0:BLACK MEDIUM LOZENGE
0:WHITE MEDIUM LOZENGE
0:BLACK SMALL DIAMOND
12:LOZENGE
0:WHITE SMALL LOZENGE
0:BLACK HORIZONTAL ELLIPSE
0:WHITE HORIZONTAL ELLIPSE
0:BLACK VERTICAL ELLIPSE
0:WHITE VERTICAL ELLIPSE
0:LEFT ARROW WITH SMALL CIRCLE
0:THREE LEFTWARDS ARROWS
0:LEFT ARROW WITH CIRCLED PLUS
1:ONG LEFTWARDS SQUIGGLE ARROW
1:EFTWARDS TWO-HEADED ARROW WITH VERTICAL STROKE
32:DOUBLE VERTICAL STROKE
27:FROM BAR
21:TRIPLE DASH ARROW
10:ARROW WITH DOTTED STEM
21:TAIL WITH VERTICAL STROKE
31:DOUBLE VERTICAL STROKE
10:TWO-HEADED ARROW WITH TAIL
36: WITH VERTICAL STROKE
42:DOUBLE VERTICAL STROKE
10:ARROW THROUGH X
0:WAVE ARROW POINTING DIRECTLY LEFT
0:EQUALS SIGN ABOVE LEFTWARDS ARROW
0:REVERSE TILDE OPERATOR ABOVE LEFTWARDS ARROW
0:LEFTWARDS ARROW ABOVE REVERSE ALMOST EQUAL TO
0:RIGHTWARDS ARROW THROUGH GREATER-THAN
25:SUPERSET
0:LEFTWARDS QUADRUPLE ARROW
0:RIGHTWARDS QUADRUPLE ARROW
1:EVERSE TILDE OPERATOR ABOVE RIGHTWARDS ARROW
1:IGHTWARDS ARROW ABOVE REVERSE ALMOST EQUAL TO
0:TILDE OPERATOR ABOVE LEFTWARDS ARROW
0:LEFTWARDS ARROW ABOVE ALMOST EQUAL TO
22:REVERSE TILDE OPERATOR
0:RIGHTWARDS ARROW ABOVE REVERSE TILDE OPERATOR
0:DOWNWARDS TRIANGLE-HEADED ZIGZAG ARROW
0:SHORT SLANTED NORTH ARROW
6:BACKSLANTED SOUTH ARROW
0:WHITE MEDIUM STAR
0:BLACK SMALL STAR
0:WHITE SMALL STAR
0:BLACK RIGHT-POINTING PENTAGON
0:WHITE RIGHT-POINTING PENTAGON
0:HEAVY LARGE CIRCLE
6:OVAL WITH OVAL INSIDE
6:CIRCLE WITH CIRCLE INSIDE
12:
12:D SALTIRE
0:SLANTED NORTH ARROW WITH HOOKED HEAD
0:BACKSLANTED SOUTH ARROW WITH HOOKED TAIL
0:SLANTED NORTH ARROW WITH HORIZONTAL TAIL
0:BACKSLANTED SOUTH ARROW WITH HORIZONTAL TAIL
1:ENT ARROW POINTING DOWNWARDS THEN NORTH EAST
0:SHORT BENT ARROW POINTING DOWNWARDS THEN NORTH EAST
0:LEFTWARDS TRIANGLE-HEADED ARROW
0:UPWARDS TRIANGLE-HEADED ARROW
0:RIGHTWARDS TRIANGLE-HEADED ARROW
0:DOWNWARDS TRIANGLE-HEADED ARROW
0:LEFT RIGHT TRIANGLE-HEADED ARROW
0:UP DOWN TRIANGLE-HEADED ARROW
0:NORTH WEST TRIANGLE-HEADED ARROW
6:EAST TRIANGLE-HEADED ARROW
0:SOUTH EAST TRIANGLE-HEADED ARROW
6:WEST TRIANGLE-HEADED ARROW
0:LEFTWARDS TRIANGLE-HEADED DASHED ARROW
0:UPWARDS TRIANGLE-HEADED DASHED ARROW
0:RIGHTWARDS TRIANGLE-HEADED DASHED ARROW
0:DOWNWARDS TRIANGLE-HEADED DASHED ARROW
0:CLOCKWISE TRIANGLE-HEADED OPEN CIRCLE ARROW
0:ANTICLOCKWISE TRIANGLE-HEADED OPEN CIRCLE ARROW
0:LEFTWARDS TRIANGLE-HEADED ARROW TO BAR
0:UPWARDS TRIANGLE-HEADED ARROW TO BAR
0:RIGHTWARDS TRIANGLE-HEADED ARROW TO BAR
0:DOWNWARDS TRIANGLE-HEADED ARROW TO BAR
@2B76
0:NORTH WEST TRIANGLE-HEADED ARROW TO BAR
6:EAST TRIANGLE-HEADED ARROW TO BAR
0:SOUTH EAST TRIANGLE-HEADED ARROW TO BAR
6:WEST TRIANGLE-HEADED ARROW TO BAR
0:LEFTWARDS TRIANGLE-HEADED ARROW WITH DOUBLE HORIZONTAL STROKE
0:UPWARDS TRIANGLE-HEADED ARROW WITH DOUBLE HORIZONTAL STROKE
0:RIGHTWARDS TRIANGLE-HEADED ARROW WITH DOUBLE HORIZONTAL STROKE
0:DOWNWARDS TRIANGLE-HEADED ARROW WITH DOUBLE HORIZONTAL STROKE
0:HORIZONTAL TAB KEY
0:VERTICAL TAB KEY
0:LEFTWARDS TRIANGLE-HEADED ARROW OVER RIGHTWARDS TRIANGLE-HEADED ARROW
0:UPWARDS TRIANGLE-HEADED ARROW LEFTWARDS OF DOWNWARDS TRIANGLE-HEADED ARROW
0:RIGHTWARDS TRIANGLE-HEADED ARROW OVER LEFTWARDS TRIANGLE-HEADED ARROW
0:DOWNWARDS TRIANGLE-HEADED ARROW LEFTWARDS OF UPWARDS TRIANGLE-HEADED ARROW
0:LEFTWARDS TRIANGLE-HEADED PAIRED ARROWS
0:UPWARDS TRIANGLE-HEADED PAIRED ARROWS
0:RIGHTWARDS TRIANGLE-HEADED PAIRED ARROWS
0:DOWNWARDS TRIANGLE-HEADED PAIRED ARROWS
0:LEFTWARDS BLACK CIRCLED WHITE ARROW
0:UPWARDS BLACK CIRCLED WHITE ARROW
0:RIGHTWARDS BLACK CIRCLED WHITE ARROW
0:DOWNWARDS BLACK CIRCLED WHITE ARROW
0:ANTICLOCKWISE TRIANGLE-HEADED RIGHT U-SHAPED ARROW
30:BOTTOM U-SHAPED ARROW
30:LEFT U-SHAPED ARROW
30:TOP U-SHAPED ARROW
0:RETURN LEFT
7:RIGHT
0:NEWLINE LEFT
8:RIGHT
0:FOUR CORNER ARROWS CIRCLING ANTICLOCKWISE
0:RIGHTWARDS BLACK ARROW
@2B97
0:SYMBOL FOR TYPE A ELECTRONICS
0:THREE-D TOP-LIGHTED LEFTWARDS EQUILATERAL ARROWHEAD
8:RIGHT-LIGHTED UPWARDS EQUILATERAL ARROWHEAD
8:TOP-LIGHTED RIGHTWARDS EQUILATERAL ARROWHEAD
8:LEFT-LIGHTED DOWNWARDS EQUILATERAL ARROWHEAD
0:BLACK LEFTWARDS EQUILATERAL ARROWHEAD
6:UPWARDS EQUILATERAL ARROWHEAD
6:RIGHTWARDS EQUILATERAL ARROWHEAD
6:DOWNWARDS EQUILATERAL ARROWHEAD
0:DOWNWARDS TRIANGLE-HEADED ARROW WITH LONG TIP LEFTWARDS
46:RIGHTWARDS
0:UPWARDS TRIANGLE-HEADED ARROW WITH LONG TIP LEFTWARDS
44:RIGHTWARDS
0:LEFTWARDS TRIANGLE-HEADED ARROW WITH LONG TIP UPWARDS
0:RIGHTWARDS TRIANGLE-HEADED ARROW WITH LONG TIP UPWARDS
0:LEFTWARDS TRIANGLE-HEADED ARROW WITH LONG TIP DOWNWARDS
0:RIGHTWARDS TRIANGLE-HEADED ARROW WITH LONG TIP DOWNWARDS
0:BLACK CURVED DOWNWARDS AND LEFTWARDS ARROW
27:RIGHTWARDS ARROW
13:UPWARDS AND LEFTWARDS ARROW
25:RIGHTWARDS ARROW
13:LEFTWARDS AND UPWARDS ARROW
13:RIGHTWARDS AND UPWARDS ARROW
13:LEFTWARDS AND DOWNWARDS ARROW
13:RIGHTWARDS AND DOWNWARDS ARROW
0:RIBBON ARROW DOWN LEFT
18:RIGHT
13:UP LEFT
16:RIGHT
13:LEFT UP
13:RIGHT UP
13:LEFT DOWN
13:RIGHT DOWN
0:UPWARDS WHITE ARROW FROM BAR WITH HORIZONTAL BAR
2: ARROWHEAD IN A RECTANGLE BOX
0:OVERLAPPING WHITE SQUARES
18:AND BLACK SQUARES
12:BLACK SQUARES
0:BALLOT BOX WITH LIGHT X
0:CIRCLED X
8:BOLD X
0:BLACK SQUARE CENTRED
6:DIAMOND CENTRED
0:TURNED BLACK PENTAGON
0:HORIZONTAL BLACK OCTAGON
0:BLACK OCTAGON
6:MEDIUM UP-POINTING TRIANGLE CENTRED
13:DOWN-POINTING TRIANGLE CENTRED
13:LEFT-POINTING TRIANGLE CENTRED
13:RIGHT-POINTING TRIANGLE CENTRED
0:NEPTUNE FORM TWO
0:TOP HALF BLACK CIRCLE
0:BOTTOM HALF BLACK CIRCLE
0:LIGHT FOUR POINTED BLACK CUSP
0:ROTATED LIGHT FOUR POINTED BLACK CUSP
0:WHITE FOUR POINTED CUSP
0:ROTATED WHITE FOUR POINTED CUSP
0:SQUARE POSITION INDICATOR
0:UNCERTAINTY SIGN
0:GROUP MARK
0:PLUTO FORM TWO
12:HREE
11:FOUR
12:IVE
0:TRANSPLUTO
0:PROSERPINA
0:ASTRAEA
0:HYGIEA
0:PHOLUS
0:NESSUS
0:WHITE MOON SELENA
0:BLACK DIAMOND ON CROSS
0:TRUE LIGHT MOON ARTA
0:CUPIDO
0:HADES
0:ZEUS
0:KRONOS
0:APOLLON
1:DMETOS
0:VULCANUS
0:POSEIDON
0:LEFT HALF BLACK STAR
0:RIGHT HALF BLACK STAR
0:STAR WITH LEFT HALF BLACK
10:RIGHT HALF BLACK
0:LEFTWARDS TWO-HEADED ARROW WITH TRIANGLE ARROWHEADS
0:UPWARDS TWO-HEADED ARROW WITH TRIANGLE ARROWHEADS
0:RIGHTWARDS TWO-HEADED ARROW WITH TRIANGLE ARROWHEADS
0:DOWNWARDS TWO-HEADED ARROW WITH TRIANGLE ARROWHEADS
0:ERIS FORM ONE
10:TWO
0:SEDNA
0:RUSSIAN ASTROLOGICAL SYMBOL VIGINTILE
28:NOVILE
28:QUINTILE
28:BINOVILE
28:SENTAGON
28:TREDECILE
0:EQUALS SIGN WITH INFINITY BELOW
0:UNITED SYMBOL
0:SEPARATED SYMBOL
0:DOUBLED SYMBOL
0:PASSED SYMBOL
0:REVERSED RIGHT ANGLE
0:HELLSCHREIBER PAUSE SYMBOL
0:GLAGOLITIC CAPITAL LETTER AZU
26:BUKY
26:VEDE
26:GLAGOLI
26:DOBRO
26:YESTU
26:ZHIVETE
26:DZELO
26:ZEMLJA
26:IZHE
27:NITIAL IZHE
27:
26:DJERVI
26:KAKO
26:LJUDIJE
26:MYSLITE
26:NASHI
26:ONU
26:POKOJI
26:RITSI
26:SLOVO
26:TVRIDO
26:UKU
26:FRITU
26:HERU
26:OTU
26:PE
26:SHTA
26:TSI
26:CHRIVI
26:SHA
26:YERU
29:I
27:ATI
26:SPIDERY HA
26:YU
26:SMALL YUS
35: WITH TAIL
26:YO
26:IOTATED SMALL YUS
26:BIG YUS
26:IOTATED BIG YUS
26:FITA
26:IZHITSA
26:SHTAPIC
26:TROKUTASTI A
26:LATINATE MYSLITE
26:CAUDATE CHRIVI
11:SMALL LETTER AZU
24:BUKY
24:VEDE
24:GLAGOLI
24:DOBRO
24:YESTU
24:ZHIVETE
24:DZELO
24:ZEMLJA
24:IZHE
25:NITIAL IZHE
25:
24:DJERVI
24:KAKO
24:LJUDIJE
24:MYSLITE
24:NASHI
24:ONU
24:POKOJI
24:RITSI
24:SLOVO
24:TVRIDO
24:UKU
24:FRITU
24:HERU
24:OTU
24:PE
24:SHTA
24:TSI
24:CHRIVI
24:SHA
24:YERU
27:I
25:ATI
24:SPIDERY HA
24:YU
24:SMALL YUS
33: WITH TAIL
24:YO
24:IOTATED SMALL YUS
24:BIG YUS
24:IOTATED BIG YUS
24:FITA
24:IZHITSA
24:SHTAPIC
24:TROKUTASTI A
24:LATINATE MYSLITE
24:CAUDATE CHRIVI
0:LATIN CAPITAL LETTER L WITH DOUBLE BAR
6:SMALL LETTER L WITH DOUBLE BAR
6:CAPITAL LETTER L WITH MIDDLE TILDE
21:P WITH STROKE
21:R WITH TAIL
6:SMALL LETTER A WITH STROKE
19:T WITH DIAGONAL STROKE
6:CAPITAL LETTER H WITH DESCENDER
6:SMALL LETTER H WITH DESCENDER
6:CAPITAL LETTER K WITH DESCENDER
6:SMALL LETTER K WITH DESCENDER
6:CAPITAL LETTER Z WITH DESCENDER
6:SMALL LETTER Z WITH DESCENDER
6:CAPITAL LETTER ALPHA
21:M WITH HOOK
21:TURNED A
29:LPHA
6:SMALL LETTER V WITH RIGHT HOOK
6:CAPITAL LETTER W WITH HOOK
6:SMALL LETTER W WITH HOOK
19:V WITH CURL
6:CAPITAL LETTER HALF H
6:SMALL LETTER HALF H
19:TAILLESS PHI
19:E WITH NOTCH
19:TURNED R WITH TAIL
19:O WITH LOW RING INSIDE
6:LETTER SMALL CAPITAL TURNED E
6:SUBSCRIPT SMALL LETTER J
0:MODIFIER LETTER CAPITAL V
0:LATIN CAPITAL LETTER S WITH SWASH TAIL
21:Z WITH SWASH TAIL
0:COPTIC CAPITAL LETTER ALFA
7:SMALL LETTER ALFA
7:CAPITAL LETTER VIDA
7:SMALL LETTER VIDA
7:CAPITAL LETTER GAMMA
7:SMALL LETTER GAMMA
7:CAPITAL LETTER DALDA
7:SMALL LETTER DALDA
7:CAPITAL LETTER EIE
7:SMALL LETTER EIE
7:CAPITAL LETTER SOU
7:SMALL LETTER SOU
7:CAPITAL LETTER ZATA
7:SMALL LETTER ZATA
7:CAPITAL LETTER HATE
7:SMALL LETTER HATE
7:CAPITAL LETTER THETHE
7:SMALL LETTER THETHE
7:CAPITAL LETTER IAUDA
7:SMALL LETTER IAUDA
7:CAPITAL LETTER KAPA
7:SMALL LETTER KAPA
7:CAPITAL LETTER LAULA
7:SMALL LETTER LAULA
7:CAPITAL LETTER MI
7:SMALL LETTER MI
7:CAPITAL LETTER NI
7:SMALL LETTER NI
7:CAPITAL LETTER KSI
7:SMALL LETTER KSI
7:CAPITAL LETTER O
7:SMALL LETTER O
7:CAPITAL LETTER PI
7:SMALL LETTER PI
7:CAPITAL LETTER RO
7:SMALL LETTER RO
7:CAPITAL LETTER SIMA
7:SMALL LETTER SIMA
7:CAPITAL LETTER TAU
7:SMALL LETTER TAU
7:CAPITAL LETTER UA
7:SMALL LETTER UA
7:CAPITAL LETTER FI
7:SMALL LETTER FI
7:CAPITAL LETTER KHI
7:SMALL LETTER KHI
7:CAPITAL LETTER PSI
7:SMALL LETTER PSI
7:CAPITAL LETTER OOU
7:SMALL LETTER OOU
7:CAPITAL LETTER DIALECT-P ALEF
7:SMALL LETTER DIALECT-P ALEF
7:CAPITAL LETTER OLD COPTIC AIN
7:SMALL LETTER OLD COPTIC AIN
7:CAPITAL LETTER CRYPTOGRAMMIC EIE
7:SMALL LETTER CRYPTOGRAMMIC EIE
7:CAPITAL LETTER DIALECT-P KAPA
7:SMALL LETTER DIALECT-P KAPA
7:CAPITAL LETTER DIALECT-P NI
7:SMALL LETTER DIALECT-P NI
7:CAPITAL LETTER CRYPTOGRAMMIC NI
7:SMALL LETTER CRYPTOGRAMMIC NI
7:CAPITAL LETTER OLD COPTIC OOU
7:SMALL LETTER OLD COPTIC OOU
7:CAPITAL LETTER SAMPI
7:SMALL LETTER SAMPI
7:CAPITAL LETTER CROSSED SHEI
7:SMALL LETTER CROSSED SHEI
7:CAPITAL LETTER OLD COPTIC SHEI
7:SMALL LETTER OLD COPTIC SHEI
7:CAPITAL LETTER OLD COPTIC ESH
7:SMALL LETTER OLD COPTIC ESH
7:CAPITAL LETTER AKHMIMIC KHEI
7:SMALL LETTER AKHMIMIC KHEI
7:CAPITAL LETTER DIALECT-P HORI
7:SMALL LETTER DIALECT-P HORI
7:CAPITAL LETTER OLD COPTIC HORI
7:SMALL LETTER OLD COPTIC HORI
7:CAPITAL LETTER OLD COPTIC HA
7:SMALL LETTER OLD COPTIC HA
7:CAPITAL LETTER L-SHAPED HA
7:SMALL LETTER L-SHAPED HA
7:CAPITAL LETTER OLD COPTIC HEI
7:SMALL LETTER OLD COPTIC HEI
7:CAPITAL LETTER OLD COPTIC HAT
7:SMALL LETTER OLD COPTIC HAT
7:CAPITAL LETTER OLD COPTIC GANGIA
7:SMALL LETTER OLD COPTIC GANGIA
7:CAPITAL LETTER OLD COPTIC DJA
7:SMALL LETTER OLD COPTIC DJA
7:CAPITAL LETTER OLD COPTIC SHIMA
7:SMALL LETTER OLD COPTIC SHIMA
7:CAPITAL LETTER OLD NUBIAN SHIMA
7:SMALL LETTER OLD NUBIAN SHIMA
7:CAPITAL LETTER OLD NUBIAN NGI
7:SMALL LETTER OLD NUBIAN NGI
7:CAPITAL LETTER OLD NUBIAN NYI
7:SMALL LETTER OLD NUBIAN NYI
7:CAPITAL LETTER OLD NUBIAN WAU
7:SMALL LETTER OLD NUBIAN WAU
8:YMBOL KAI
14:MI RO
14:PI RO
14:STAUROS
14:TAU RO
14:KHI RO
14:SHIMA SIMA
7:CAPITAL LETTER CRYPTOGRAMMIC SHEI
7:SMALL LETTER CRYPTOGRAMMIC SHEI
7:CAPITAL LETTER CRYPTOGRAMMIC GANGIA
7:SMALL LETTER CRYPTOGRAMMIC GANGIA
7:COMBINING NI ABOVE
17:SPIRITUS ASPER
26:LENIS
8:APITAL LETTER BOHAIRIC KHEI
7:SMALL LETTER BOHAIRIC KHEI
@2CF9
7:OLD NUBIAN FULL STOP
18:DIRECT QUESTION MARK
18:INDIRECT QUESTION MARK
18:VERSE DIVIDER
7:FRACTION ONE HALF
8:ULL STOP
7:MORPHOLOGICAL DIVIDER
0:GEORGIAN SMALL LETTER AN
22:BAN
22:GAN
22:DON
22:EN
22:VIN
22:ZEN
22:TAN
22:IN
22:KAN
22:LAS
22:MAN
22:NAR
22:ON
22:PAR
22:ZHAR
22:RAE
22:SAN
22:TAR
22:UN
22:PHAR
22:KHAR
22:GHAN
22:QAR
22:SHIN
22:CHIN
23:AN
22:JIL
22:CIL
23:HAR
22:XAN
22:JHAN
22:HAE
23:E
23:IE
22:WE
22:HAR
23:OE
@2D27
22:YN
@2D2D
22:AEN
@2D30
0:TIFINAGH LETTER YA
18:B
19:H
18:G
19:HH
16:BERBER ACADEMY YAJ
16:YAJ
18:D
19:H
19:D
20:H
17:EY
17:AF
18:K
16:TUAREG YAK
16:YAKHH
18:H
16:BERBER ACADEMY YAH
16:TUAREG YAH
16:YAHH
18:A
18:KH
16:TUAREG YAKH
16:YAQ
16:TUAREG YAQ
16:YI
17:AZH
16:AHAGGAR YAZH
16:TUAREG YAZH
16:YAL
18:M
18:N
16:TUAREG YAGN
25:NG
16:YAP
17:U
17:AR
19:R
18:GH
16:TUAREG YAGH
16:AYER YAGH
16:YAS
19:S
19:H
18:T
19:H
18:CH
18:TT
18:V
18:W
18:Y
18:Z
16:TAWELLEMET YAZ
16:YAZZ
17:E
17:O
@2D6F
9:MODIFIER LETTER LABIALIZATION MARK
9:SEPARATOR MARK
@2D7F
9:CONSONANT JOINER
0:ETHIOPIC SYLLABLE LOA
18:MOA
18:ROA
18:SOA
19:HOA
18:BOA
18:TOA
18:COA
18:NOA
19:YOA
18:GLOTTAL OA
18:ZOA
18:DOA
19:DOA
18:JOA
18:THOA
18:CHOA
18:PHOA
19:OA
18:GGWA
21:I
21:EE
22:
@2DA0
18:SSA
20:U
20:I
20:AA
20:EE
21:
20:O
@2DA8
18:CCA
20:U
20:I
20:AA
20:EE
21:
20:O
@2DB0
18:ZZA
20:U
20:I
20:AA
20:EE
21:
20:O
@2DB8
18:CCHA
21:U
21:I
21:AA
21:EE
22:
21:O
@2DC0
18:QYA
20:U
20:I
20:AA
20:EE
21:
20:O
@2DC8
18:KYA
20:U
20:I
20:AA
20:EE
21:
20:O
@2DD0
18:XYA
20:U
20:I
20:AA
20:EE
21:
20:O
@2DD8
18:GYA
20:U
20:I
20:AA
20:EE
21:
20:O
@2DE0
0:COMBINING CYRILLIC LETTER BE
26:VE
26:GHE
26:DE
26:ZHE
27:E
26:KA
26:EL
27:M
27:N
26:O
26:PE
26:ER
27:S
26:TE
26:HA
26:TSE
26:CHE
26:SHA
28:CHA
26:FITA
26:ES-TE
26:A
26:IE
26:DJERV
26:MONOGRAPH UK
26:YAT
27:U
26:IOTIFIED A
26:LITTLE YUS
26:BIG YUS
26:IOTIFIED BIG YUS
0:RIGHT ANGLE SUBSTITUTION MARKER
12:DOTTED SUBSTITUTION MARKER
0:LEFT SUBSTITUTION BRACKET
0:RIGHT SUBSTITUTION BRACKET
0:LEFT DOTTED SUBSTITUTION BRACKET
0:RIGHT DOTTED SUBSTITUTION BRACKET
1:AISED INTERPOLATION MARKER
7:DOTTED INTERPOLATION MARKER
0:DOTTED TRANSPOSITION MARKER
0:LEFT TRANSPOSITION BRACKET
0:RIGHT TRANSPOSITION BRACKET
1:AISED SQUARE
0:LEFT RAISED OMISSION BRACKET
0:RIGHT RAISED OMISSION BRACKET
0:EDITORIAL CORONIS
0:PARAGRAPHOS
0:FORKED PARAGRAPHOS
0:REVERSED FORKED PARAGRAPHOS
0:HYPODIASTOLE
0:DOTTED OBELOS
2:WNWARDS ANCORA
0:UPWARDS ANCORA
0:DOTTED RIGHT-POINTING ANGLE
2:UBLE OBLIQUE HYPHEN
0:INVERTED INTERROBANG
0:PALM BRANCH
0:HYPHEN WITH DIAERESIS
0:TILDE WITH RING ABOVE
0:LEFT LOW PARAPHRASE BRACKET
0:RIGHT LOW PARAPHRASE BRACKET
0:TILDE WITH DOT ABOVE
15:BELOW
0:LEFT VERTICAL BAR WITH QUILL
0:RIGHT VERTICAL BAR WITH QUILL
0:TOP LEFT HALF BRACKET
4:RIGHT HALF BRACKET
0:BOTTOM LEFT HALF BRACKET
7:RIGHT HALF BRACKET
0:LEFT SIDEWAYS U BRACKET
0:RIGHT SIDEWAYS U BRACKET
0:LEFT DOUBLE PARENTHESIS
0:RIGHT DOUBLE PARENTHESIS
0:TWO DOTS OVER ONE DOT PUNCTUATION
0:ONE DOT OVER TWO DOTS PUNCTUATION
0:SQUARED FOUR DOT PUNCTUATION
0:FIVE DOT MARK
0:REVERSED QUESTION MARK
0:VERTICAL TILDE
0:RING POINT
0:WORD SEPARATOR MIDDLE DOT
0:TURNED COMMA
0:RAISED DOT
7:COMMA
0:TURNED SEMICOLON
0:DAGGER WITH LEFT GUARD
12:RIGHT GUARD
0:TURNED DAGGER
1:OP HALF SECTION SIGN
1:WO-EM DASH
1:HREE-EM DASH
0:STENOGRAPHIC FULL STOP
0:VERTICAL SIX DOTS
0:WIGGLY VERTICAL LINE
0:CAPITULUM
0:DOUBLE HYPHEN
0:REVERSED COMMA
0:DOUBLE LOW-REVERSED-9 QUOTATION MARK
1:ASH WITH LEFT UPTURN
1:OUBLE SUSPENSION MARK
0:INVERTED LOW KAVYKA
19: WITH KAVYKA ABOVE
0:LOW KAVYKA
10: WITH DOT
0:DOUBLE STACKED COMMA
2:TTED SOLIDUS
0:TRIPLE DAGGER
0:MEDIEVAL COMMA
0:PARAGRAPHUS MARK
1:UNCTUS ELEVATUS MARK
0:CORNISH VERSE DIVIDER
1:ROSS PATTY WITH RIGHT CROSSBAR
17:LEFT CROSSBAR
0:TIRONIAN SIGN CAPITAL ET
0:MEDIEVAL EXCLAMATION MARK
9:QUESTION MARK
0:LEFT SQUARE BRACKET WITH STROKE
0:RIGHT SQUARE BRACKET WITH STROKE
0:LEFT SQUARE BRACKET WITH DOUBLE STROKE
0:RIGHT SQUARE BRACKET WITH DOUBLE STROKE
0:TOP HALF LEFT PARENTHESIS
9:RIGHT PARENTHESIS
0:BOTTOM HALF LEFT PARENTHESIS
12:RIGHT PARENTHESIS
0:OBLIQUE HYPHEN
@2E80
0:CJK RADICAL REPEAT
12:CLIFF
12:SECOND ONE
19:TWO
20:HREE
12:PERSON
12:BOX
12:TABLE
12:KNIFE ONE
18:TWO
12:DIVINATION
12:SEAL
13:MALL ONE
18:TWO
12:LAME ONE
17:TWO
18:HREE
17:FOUR
12:SNAKE
12:THREAD
12:SNOUT ONE
18:TWO
12:HEART ONE
18:TWO
13:AND
12:RAP
@2E9B
12:CHOKE
12:SUN
12:MOON
12:DEATH
12:MOTHER
12:CIVILIAN
12:WATER ONE
18:TWO
12:FIRE
12:PAW ONE
16:TWO
12:SIMPLIFIED HALF TREE TRUNK
12:COW
12:DOG
12:JADE
12:BOLT OF CLOTH
12:EYE
12:SPIRIT ONE
19:TWO
12:BAMBOO
12:SILK
12:C-SIMPLIFIED SILK
12:NET ONE
16:TWO
17:HREE
16:FOUR
12:MESH
12:SHEEP
12:RAM
12:EWE
12:OLD
12:BRUSH ONE
18:TWO
12:MEAT
13:ORTAR
12:GRASS ONE
18:TWO
19:HREE
12:TIGER
12:CLOTHES
12:WEST ONE
17:TWO
12:C-SIMPLIFIED SEE
12:SIMPLIFIED HORN
12:HORN
12:C-SIMPLIFIED SPEECH
26:HELL
12:FOOT
12:C-SIMPLIFIED CART
12:SIMPLIFIED WALK
12:WALK ONE
17:TWO
12:CITY
13:-SIMPLIFIED GOLD
12:LONG ONE
17:TWO
12:C-SIMPLIFIED LONG
25:GATE
12:MOUND ONE
18:TWO
12:RAIN
12:BLUE
12:C-SIMPLIFIED TANNED LEATHER
25:LEAF
25:WIND
25:FLY
12:EAT ONE
16:TWO
17:HREE
12:C-SIMPLIFIED EAT
12:HEAD
12:C-SIMPLIFIED HORSE
12:BONE
12:GHOST
12:C-SIMPLIFIED FISH
25:BIRD
25:SALT
12:SIMPLIFIED WHEAT
23:YELLOW
12:C-SIMPLIFIED FROG
12:J-SIMPLIFIED EVEN
12:C-SIMPLIFIED EVEN
12:J-SIMPLIFIED TOOTH
12:C-SIMPLIFIED TOOTH
12:J-SIMPLIFIED DRAGON
12:C-SIMPLIFIED DRAGON
12:TURTLE
12:J-SIMPLIFIED TURTLE
12:C-SIMPLIFIED TURTLE
@2F00
0:KANGXI RADICAL ONE
15:LINE
15:DOT
15:SLASH
16:ECOND
15:HOOK
15:TWO
15:LID
15:MAN
15:LEGS
15:ENTER
16:IGHT
15:DOWN BOX
15:COVER
15:ICE
15:TABLE
15:OPEN BOX
15:KNIFE
15:POWER
15:WRAP
15:SPOON
15:RIGHT OPEN BOX
15:HIDING ENCLOSURE
15:TEN
15:DIVINATION
15:SEAL
15:CLIFF
15:PRIVATE
15:AGAIN
15:MOUTH
15:ENCLOSURE
16:ARTH
15:SCHOLAR
15:GO
17: SLOWLY
15:EVENING
15:BIG
15:WOMAN
15:CHILD
15:ROOF
15:INCH
15:SMALL
15:LAME
15:CORPSE
15:SPROUT
15:MOUNTAIN
15:RIVER
15:WORK
15:ONESELF
15:TURBAN
15:DRY
15:SHORT THREAD
15:DOTTED CLIFF
15:LONG STRIDE
15:TWO HANDS
15:SHOOT
15:BOW
15:SNOUT
15:BRISTLE
15:STEP
15:HEART
16:ALBERD
15:DOOR
15:HAND
15:BRANCH
15:RAP
15:SCRIPT
15:DIPPER
15:AXE
15:SQUARE
15:NOT
15:SUN
16:AY
15:MOON
15:TREE
15:LACK
15:STOP
15:DEATH
15:WEAPON
15:DO NOT
15:COMPARE
15:FUR
15:CLAN
15:STEAM
15:WATER
15:FIRE
15:CLAW
15:FATHER
15:DOUBLE X
15:HALF TREE TRUNK
15:SLICE
15:FANG
15:COW
15:DOG
15:PROFOUND
15:JADE
15:MELON
15:TILE
15:SWEET
15:LIFE
15:USE
15:FIELD
15:BOLT OF CLOTH
15:SICKNESS
15:DOTTED TENT
15:WHITE
15:SKIN
15:DISH
15:EYE
15:SPEAR
15:ARROW
15:STONE
16:PIRIT
15:TRACK
15:GRAIN
15:CAVE
15:STAND
15:BAMBOO
15:RICE
15:SILK
15:JAR
15:NET
15:SHEEP
15:FEATHER
15:OLD
15:AND
15:PLOW
15:EAR
15:BRUSH
15:MEAT
16:INISTER
15:SELF
15:ARRIVE
15:MORTAR
15:TONGUE
15:OPPOSE
15:BOAT
15:STOPPING
15:COLOR
15:GRASS
15:TIGER
15:INSECT
15:BLOOD
15:WALK ENCLOSURE
15:CLOTHES
15:WEST
15:SEE
15:HORN
15:SPEECH
15:VALLEY
15:BEAN
15:PIG
15:BADGER
15:SHELL
15:RED
16:UN
15:FOOT
15:BODY
15:CART
15:BITTER
15:MORNING
15:WALK
15:CITY
15:WINE
15:DISTINGUISH
15:VILLAGE
15:GOLD
15:LONG
15:GATE
15:MOUND
15:SLAVE
16:HORT TAILED BIRD
15:RAIN
15:BLUE
15:WRONG
15:FACE
15:LEATHER
15:TANNED LEATHER
15:LEEK
15:SOUND
15:LEAF
15:WIND
15:FLY
15:EAT
15:HEAD
15:FRAGRANT
15:HORSE
15:BONE
15:TALL
15:HAIR
15:FIGHT
15:SACRIFICIAL WINE
15:CAULDRON
15:GHOST
15:FISH
15:BIRD
15:SALT
15:DEER
15:WHEAT
15:HEMP
15:YELLOW
15:MILLET
15:BLACK
15:EMBROIDERY
15:FROG
15:TRIPOD
15:DRUM
15:RAT
15:NOSE
15:EVEN
15:TOOTH
15:DRAGON
15:TURTLE
15:FLUTE
@2FF0
0:IDEOGRAPHIC DESCRIPTION CHARACTER LEFT TO RIGHT
34:ABOVE TO BELOW
34:LEFT TO MIDDLE AND RIGHT
34:ABOVE TO MIDDLE AND BELOW
34:FULL SURROUND
34:SURROUND FROM ABOVE
48:BELOW
48:LEFT
48:UPPER LEFT
54:RIGHT
48:LOWER LEFT
34:OVERLAID
@3000
12:SPACE
12:COMMA
12:FULL STOP
0:DITTO MARK
0:JAPANESE INDUSTRIAL STANDARD SYMBOL
0:IDEOGRAPHIC ITERATION MARK
12:CLOSING MARK
12:NUMBER ZERO
0:LEFT ANGLE BRACKET
0:RIGHT ANGLE BRACKET
0:LEFT DOUBLE ANGLE BRACKET
0:RIGHT DOUBLE ANGLE BRACKET
0:LEFT CORNER BRACKET
0:RIGHT CORNER BRACKET
0:LEFT WHITE CORNER BRACKET
0:RIGHT WHITE CORNER BRACKET
0:LEFT BLACK LENTICULAR BRACKET
0:RIGHT BLACK LENTICULAR BRACKET
0:POSTAL MARK
0:GETA MARK
0:LEFT TORTOISE SHELL BRACKET
0:RIGHT TORTOISE SHELL BRACKET
0:LEFT WHITE LENTICULAR BRACKET
0:RIGHT WHITE LENTICULAR BRACKET
0:LEFT WHITE TORTOISE SHELL BRACKET
0:RIGHT WHITE TORTOISE SHELL BRACKET
0:LEFT WHITE SQUARE BRACKET
0:RIGHT WHITE SQUARE BRACKET
0:WAVE DASH
0:REVERSED DOUBLE PRIME QUOTATION MARK
0:DOUBLE PRIME QUOTATION MARK
0:LOW DOUBLE PRIME QUOTATION MARK
0:POSTAL MARK FACE
0:HANGZHOU NUMERAL ONE
17:TWO
18:HREE
17:FOUR
18:IVE
17:SIX
18:EVEN
17:EIGHT
17:NINE
0:IDEOGRAPHIC LEVEL TONE MARK
12:RISING TONE MARK
12:DEPARTING TONE MARK
12:ENTERING TONE MARK
0:HANGUL SINGLE DOT TONE MARK
7:DOUBLE DOT TONE MARK
0:WAVY DASH
0:VERTICAL KANA REPEAT MARK
21:WITH VOICED SOUND MARK
21:MARK UPPER HALF
21:WITH VOICED SOUND MARK UPPER HALF
21:MARK LOWER HALF
0:CIRCLED POSTAL MARK
0:IDEOGRAPHIC TELEGRAPH LINE FEED SEPARATOR SYMBOL
0:HANGZHOU NUMERAL TEN
18:WENTY
18:HIRTY
0:VERTICAL IDEOGRAPHIC ITERATION MARK
0:MASU MARK
0:PART ALTERNATION MARK
0:IDEOGRAPHIC VARIATION INDICATOR
12:HALF FILL SPACE
@3041
0:HIRAGANA LETTER SMALL A
16:A
16:SMALL I
16:I
16:SMALL U
16:U
16:SMALL E
16:E
16:SMALL O
16:O
16:KA
16:GA
16:KI
16:GI
16:KU
16:GU
16:KE
16:GE
16:KO
16:GO
16:SA
16:ZA
16:SI
16:ZI
16:SU
16:ZU
16:SE
16:ZE
16:SO
16:ZO
16:TA
16:DA
16:TI
16:DI
16:SMALL TU
16:TU
16:DU
16:TE
16:DE
16:TO
16:DO
16:NA
17:I
17:U
17:E
17:O
16:HA
16:BA
16:PA
16:HI
16:BI
16:PI
16:HU
16:BU
16:PU
16:HE
16:BE
16:PE
16:HO
16:BO
16:PO
16:MA
17:I
17:U
17:E
17:O
16:SMALL YA
16:YA
16:SMALL YU
16:YU
16:SMALL YO
16:YO
16:RA
17:I
17:U
17:E
17:O
16:SMALL WA
16:WA
17:I
17:E
17:O
16:N
16:VU
16:SMALL KA
23:E
@3099
0:COMBINING KATAKANA-HIRAGANA VOICED SOUND MARK
28:SEMI-VOICED SOUND MARK
0:KATAKANA-HIRAGANA VOICED SOUND MARK
18:SEMI-VOICED SOUND MARK
0:HIRAGANA ITERATION MARK
9:VOICED ITERATION MARK
9:DIGRAPH YORI
0:KATAKANA-HIRAGANA DOUBLE HYPHEN
8: LETTER SMALL A
16:A
16:SMALL I
16:I
16:SMALL U
16:U
16:SMALL E
16:E
16:SMALL O
16:O
16:KA
16:GA
16:KI
16:GI
16:KU
16:GU
16:KE
16:GE
16:KO
16:GO
16:SA
16:ZA
16:SI
16:ZI
16:SU
16:ZU
16:SE
16:ZE
16:SO
16:ZO
16:TA
16:DA
16:TI
16:DI
16:SMALL TU
16:TU
16:DU
16:TE
16:DE
16:TO
16:DO
16:NA
17:I
17:U
17:E
17:O
16:HA
16:BA
16:PA
16:HI
16:BI
16:PI
16:HU
16:BU
16:PU
16:HE
16:BE
16:PE
16:HO
16:BO
16:PO
16:MA
17:I
17:U
17:E
17:O
16:SMALL YA
16:YA
16:SMALL YU
16:YU
16:SMALL YO
16:YO
16:RA
17:I
17:U
17:E
17:O
16:SMALL WA
16:WA
17:I
17:E
17:O
16:N
16:VU
16:SMALL KA
23:E
16:VA
17:I
17:E
17:O
9:MIDDLE DOT
8:-HIRAGANA PROLONGED SOUND MARK
8: ITERATION MARK
9:VOICED ITERATION MARK
9:DIGRAPH KOTO
@3105
0:BOPOMOFO LETTER B
16:P
16:M
16:F
16:D
16:T
16:N
16:L
16:G
16:K
16:H
16:J
16:Q
16:X
16:ZH
16:CH
16:SH
16:R
16:Z
16:C
16:S
16:A
16:O
16:E
17:H
16:AI
16:EI
16:AU
16:OU
16:AN
16:EN
16:ANG
16:ENG
17:R
16:I
16:U
16:IU
16:V
16:NG
16:GN
16:IH
16:O WITH DOT ABOVE
16:NN
@3131
0:HANGUL LETTER KIYEOK
14:SSANGKIYEOK
14:KIYEOK-SIOS
14:NIEUN
19:-CIEUC
20:HIEUH
14:TIKEUT
14:SSANGTIKEUT
14:RIEUL
19:-KIYEOK
20:MIEUM
20:PIEUP
20:SIOS
20:THIEUTH
20:PHIEUPH
20:HIEUH
14:MIEUM
14:PIEUP
14:SSANGPIEUP
14:PIEUP-SIOS
14:SIOS
15:SANGSIOS
14:IEUNG
14:CIEUC
14:SSANGCIEUC
14:CHIEUCH
14:KHIEUKH
14:THIEUTH
14:PHIEUPH
14:HIEUH
14:A
15:E
14:YA
16:E
14:EO
15:
14:YEO
16:
14:O
14:WA
16:E
14:OE
14:YO
14:U
14:WEO
16:
15:I
14:YU
14:EU
14:YI
14:I
7:FILLER
7:LETTER SSANGNIEUN
14:NIEUN-TIKEUT
20:SIOS
20:PANSIOS
14:RIEUL-KIYEOK-SIOS
20:TIKEUT
20:PIEUP-SIOS
21:ANSIOS
20:YEORINHIEUH
14:MIEUM-PIEUP
20:SIOS
20:PANSIOS
14:KAPYEOUNMIEUM
14:PIEUP-KIYEOK
20:TIKEUT
20:SIOS-KIYEOK
25:TIKEUT
20:CIEUC
20:THIEUTH
14:KAPYEOUNPIEUP
22:SSANGPIEUP
14:SIOS-KIYEOK
19:NIEUN
19:TIKEUT
19:PIEUP
19:CIEUC
14:PANSIOS
14:SSANGIEUNG
14:YESIEUNG
22:-SIOS
23:PANSIOS
14:KAPYEOUNPHIEUPH
14:SSANGHIEUH
14:YEORINHIEUH
15:O-YA
19:E
17:I
15:U-YEO
19:
17:I
14:ARAEA
19:E
@3190
0:IDEOGRAPHIC ANNOTATION LINKING MARK
23:REVERSE MARK
23:ONE MARK
23:TWO MARK
24:HREE MARK
23:FOUR MARK
23:TOP MARK
23:MIDDLE MARK
23:BOTTOM MARK
23:FIRST MARK
23:SECOND MARK
23:THIRD MARK
23:FOURTH MARK
23:HEAVEN MARK
23:EARTH MARK
23:MAN MARK
0:BOPOMOFO LETTER BU
16:ZI
16:JI
16:GU
16:EE
17:NN
16:OO
17:NN
16:IR
16:ANN
16:INN
16:UNN
16:IM
16:NGG
16:AINN
17:UNN
17:M
16:OM
17:NG
16:INNN
9:FINAL LETTER P
22:T
22:K
22:H
9:LETTER GH
16:LH
16:ZY
9:FINAL LETTER G
9:LETTER GW
16:KW
16:OE
16:AH
0:CJK STROKE T
11:WG
11:XG
11:BXG
11:SW
11:HZZ
13:G
12:P
12:ZWG
11:SZWG
11:HZT
13:ZP
12:PWG
12:ZW
13:ZZ
11:N
11:H
11:S
11:P
11:SP
11:D
11:HZ
12:G
11:SZ
12:WZ
12:T
12:G
11:PD
12:Z
11:TN
11:SZZ
12:WG
11:HXWG
12:ZZZG
11:PG
11:Q
@31F0
0:KATAKANA LETTER SMALL KU
22:SI
23:U
22:TO
22:NU
22:HA
23:I
23:U
23:E
23:O
22:MU
22:RA
23:I
23:U
23:E
23:O
0:PARENTHESIZED HANGUL KIYEOK
21:NIEUN
21:TIKEUT
21:RIEUL
21:MIEUM
21:PIEUP
21:SIOS
21:IEUNG
21:CIEUC
22:HIEUCH
21:KHIEUKH
21:THIEUTH
21:PHIEUPH
21:HIEUH
21:KIYEOK A
21:NIEUN A
21:TIKEUT A
21:RIEUL A
21:MIEUM A
21:PIEUP A
21:SIOS A
21:IEUNG A
21:CIEUC A
22:HIEUCH A
21:KHIEUKH A
21:THIEUTH A
21:PHIEUPH A
21:HIEUH A
21:CIEUC U
14:KOREAN CHARACTER OJEON
32: HU
@3220
14:IDEOGRAPH ONE
24:TWO
25:HREE
24:FOUR
25:IVE
24:SIX
25:EVEN
24:EIGHT
24:NINE
24:TEN
24:MOON
24:FIRE
24:WATER
25:OOD
24:METAL
24:EARTH
24:SUN
25:TOCK
24:HAVE
24:SOCIETY
24:NAME
24:SPECIAL
24:FINANCIAL
24:CONGRATULATION
24:LABOR
24:REPRESENT
24:CALL
24:STUDY
25:UPERVISE
24:ENTERPRISE
24:RESOURCE
24:ALLIANCE
24:FESTIVAL
24:REST
24:SELF
24:REACH
0:CIRCLED IDEOGRAPH QUESTION
18:KINDERGARTEN
18:SCHOOL
18:KOTO
8:NUMBER TEN ON BLACK SQUARE
16:WENTY ON BLACK SQUARE
16:HIRTY ON BLACK SQUARE
15:FORTY ON BLACK SQUARE
16:IFTY ON BLACK SQUARE
15:SIXTY ON BLACK SQUARE
16:EVENTY ON BLACK SQUARE
15:EIGHTY ON BLACK SQUARE
0:PARTNERSHIP SIGN
0:CIRCLED NUMBER TWENTY ONE
22:TWO
23:HREE
22:FOUR
23:IVE
22:SIX
23:EVEN
22:EIGHT
22:NINE
16:HIRTY
21: ONE
22:TWO
23:HREE
22:FOUR
23:IVE
8:HANGUL KIYEOK
15:NIEUN
15:TIKEUT
15:RIEUL
15:MIEUM
15:PIEUP
15:SIOS
15:IEUNG
15:CIEUC
16:HIEUCH
15:KHIEUKH
15:THIEUTH
15:PHIEUPH
15:HIEUH
15:KIYEOK A
15:NIEUN A
15:TIKEUT A
15:RIEUL A
15:MIEUM A
15:PIEUP A
15:SIOS A
15:IEUNG A
15:CIEUC A
16:HIEUCH A
15:KHIEUKH A
15:THIEUTH A
15:PHIEUPH A
15:HIEUH A
8:KOREAN CHARACTER CHAMKO
25:JUEUI
8:HANGUL IEUNG U
0:KOREAN STANDARD SYMBOL
0:CIRCLED IDEOGRAPH ONE
18:TWO
19:HREE
18:FOUR
19:IVE
18:SIX
19:EVEN
18:EIGHT
18:NINE
18:TEN
18:MOON
18:FIRE
18:WATER
19:OOD
18:METAL
18:EARTH
18:SUN
19:TOCK
18:HAVE
18:SOCIETY
18:NAME
18:SPECIAL
18:FINANCIAL
18:CONGRATULATION
18:LABOR
18:SECRET
18:MALE
18:FEMALE
18:SUITABLE
18:EXCELLENT
18:PRINT
18:ATTENTION
18:ITEM
18:REST
18:COPY
20:RRECT
18:HIGH
18:CENTRE
18:LOW
19:EFT
18:RIGHT
18:MEDICINE
18:RELIGION
18:STUDY
19:UPERVISE
18:ENTERPRISE
18:RESOURCE
18:ALLIANCE
18:NIGHT
8:NUMBER THIRTY SIX
23:EVEN
22:EIGHT
22:NINE
15:FORTY
20: ONE
21:TWO
22:HREE
21:FOUR
22:IVE
21:SIX
22:EVEN
21:EIGHT
21:NINE
16:IFTY
0:IDEOGRAPHIC TELEGRAPH SYMBOL FOR JANUARY
33:FEBRUARY
33:MARCH
33:APRIL
33:MAY
33:JUNE
35:LY
33:AUGUST
33:SEPTEMBER
33:OCTOBER
33:NOVEMBER
33:DECEMBER
0:SQUARE HG
7:ERG
8:V
0:LIMITED LIABILITY SIGN
0:CIRCLED KATAKANA A
17:I
17:U
17:E
17:O
17:KA
18:I
18:U
18:E
18:O
17:SA
18:I
18:U
18:E
18:O
17:TA
18:I
18:U
18:E
18:O
17:NA
18:I
18:U
18:E
18:O
17:HA
18:I
18:U
18:E
18:O
17:MA
18:I
18:U
18:E
18:O
17:YA
18:U
18:O
17:RA
18:I
18:U
18:E
18:O
17:WA
18:I
18:E
18:O
0:SQUARE ERA NAME REIWA
7:APAATO
8:RUHUA
8:NPEA
8:ARU
7:ININGU
9:TI
7:UON
7:ESUKUUDO
8:EKAA
7:ONSU
8:OMU
7:KAIRI
9:RATTO
10:ORII
7:GARON
9:NMA
8:IGA
9:NII
7:KYURII
7:GIRUDAA
7:KIRO
11:GURAMU
11:MEETORU
11:WATTO
7:GURAMU
13:TON
7:KURUZEIRO
10:OONE
8:EESU
8:ORUNA
9:OPO
7:SAIKURU
9:NTIIMU
8:IRINGU
8:ENTI
11:O
7:DAASU
8:ESI
8:ORU
7:TON
7:NANO
8:OTTO
7:HAITU
7:PAASENTO
10:TU
7:BAARERU
7:PIASUTORU
9:KURU
10:O
7:BIRU
7:HUARADDO
9:IITO
7:BUSSYERU
7:HURAN
8:EKUTAARU
7:PESO
9:NIHI
7:HERUTU
7:PENSU
9:EZI
7:BEETA
7:POINTO
7:BORUTO
7:HON
7:PONDO
7:HOORU
10:N
7:MAIKURO
10:RU
9:HHA
9:RUKU
9:NSYON
8:IKURON
9:RI
11:BAARU
8:EGA
11:TON
9:ETORU
7:YAADO
10:RU
8:UAN
7:RITTORU
9:RA
8:UPII
9:UBURU
8:EMU
9:NTOGEN
7:WATTO
0:IDEOGRAPHIC TELEGRAPH SYMBOL FOR HOUR ZERO
38:ONE
38:TWO
39:HREE
38:FOUR
39:IVE
38:SIX
39:EVEN
38:EIGHT
38:NINE
38:TEN
38:ELEVEN
38:TWELVE
39:HIRTEEN
38:FOURTEEN
39:IFTEEN
38:SIXTEEN
39:EVENTEEN
38:EIGHTEEN
38:NINETEEN
38:TWENTY
44:-ONE
45:TWO
46:HREE
45:FOUR
0:SQUARE HPA
7:DA
7:AU
7:BAR
7:OV
7:PC
7:DM
9: SQUARED
10:CUBED
7:IU
7:ERA NAME HEISEI
16:SYOUWA
16:TAISYOU
16:MEIZI
7:CORPORATION
7:PA AMPS
7:NA
7:MU A
8:A
7:KA
8:B
7:MB
7:GB
7:CAL
7:KCAL
7:PF
7:NF
7:MU F
10:G
8:G
7:KG
7:HZ
7:KHZ
7:MHZ
7:GHZ
7:THZ
7:MU L
8:L
7:DL
7:KL
7:FM
7:NM
7:MU M
8:M
7:CM
7:KM
7:MM SQUARED
7:CM SQUARED
7:M SQUARED
7:KM SQUARED
7:MM CUBED
7:CM CUBED
7:M CUBED
7:KM CUBED
7:M OVER S
15: SQUARED
7:PA
7:KPA
7:MPA
7:GPA
7:RAD
10: OVER S
17: SQUARED
7:PS
7:NS
7:MU S
8:S
7:PV
7:NV
7:MU V
8:V
7:KV
7:MV MEGA
7:PW
7:NW
7:MU W
8:W
7:KW
7:MW MEGA
7:K OHM
7:M OHM
7:AM
7:BQ
7:CC
8:D
8: OVER KG
8:O
7:DB
7:GY
7:HA
8:P
7:IN
7:KK
8:M CAPITAL
8:T
7:LM
8:N
8:OG
8:X
7:MB SMALL
8:IL
8:OL
7:PH
8:M
8:PM
8:R
7:SR
8:V
7:WB
7:V OVER M
7:A OVER M
0:IDEOGRAPHIC TELEGRAPH SYMBOL FOR DAY ONE
37:TWO
38:HREE
37:FOUR
38:IVE
37:SIX
38:EVEN
37:EIGHT
37:NINE
37:TEN
37:ELEVEN
37:TWELVE
38:HIRTEEN
37:FOURTEEN
38:IFTEEN
37:SIXTEEN
38:EVENTEEN
37:EIGHTEEN
37:NINETEEN
37:TWENTY
43:-ONE
44:TWO
45:HREE
44:FOUR
45:IVE
44:SIX
45:EVEN
44:EIGHT
44:NINE
38:HIRTY
43:-ONE
0:SQUARE GAL
@4DC0
0:HEXAGRAM FOR THE CREATIVE HEAVEN
17:RECEPTIVE EARTH
13:DIFFICULTY AT THE BEGINNING
13:YOUTHFUL FOLLY
13:WAITING
13:CONFLICT
13:THE ARMY
13:HOLDING TOGETHER
13:SMALL TAMING
13:TREADING
13:PEACE
13:STANDSTILL
13:FELLOWSHIP
13:GREAT POSSESSION
13:MODESTY
13:ENTHUSIASM
13:FOLLOWING
13:WORK ON THE DECAYED
13:APPROACH
13:CONTEMPLATION
13:BITING THROUGH
13:GRACE
13:SPLITTING APART
13:RETURN
13:INNOCENCE
13:GREAT TAMING
13:MOUTH CORNERS
13:GREAT PREPONDERANCE
13:THE ABYSMAL WATER
17:CLINGING FIRE
13:INFLUENCE
13:DURATION
13:RETREAT
13:GREAT POWER
13:PROGRESS
13:DARKENING OF THE LIGHT
13:THE FAMILY
13:OPPOSITION
14:BSTRUCTION
13:DELIVERANCE
15:CREASE
13:INCREASE
13:BREAKTHROUGH
13:COMING TO MEET
13:GATHERING TOGETHER
13:PUSHING UPWARD
13:OPPRESSION
13:THE WELL
13:REVOLUTION
13:THE CAULDRON
17:AROUSING THUNDER
17:KEEPING STILL MOUNTAIN
13:DEVELOPMENT
13:THE MARRYING MAIDEN
13:ABUNDANCE
13:THE WANDERER
17:GENTLE WIND
17:JOYOUS LAKE
13:DISPERSION
13:LIMITATION
13:INNER TRUTH
13:SMALL PREPONDERANCE
13:AFTER COMPLETION
13:BEFORE COMPLETION
@A000
0:YI SYLLABLE IT
13:X
13:
13:P
13:ET
14:X
14:
14:P
12:AT
13:X
13:
13:P
12:UOX
14:
14:P
12:OT
13:X
13:
13:P
12:EX
13:
12:WU
12:BIT
14:X
14:
14:P
14:ET
15:X
15:
15:P
13:AT
14:X
14:
14:P
13:UOX
15:
15:P
13:OT
14:X
14:
14:P
13:EX
14:
14:P
13:UT
14:X
14:
14:P
14:RX
15:
13:YT
14:X
14:
14:P
14:RX
15:
12:PIT
14:X
14:
14:P
14:EX
15:
15:P
13:AT
14:X
14:
14:P
13:UOX
15:
15:P
13:OT
14:X
14:
14:P
13:UT
14:X
14:
14:P
14:RX
15:
13:YT
14:X
14:
14:P
14:RX
15:
12:BBIT
15:X
15:
15:P
15:ET
16:X
16:
16:P
14:AT
15:X
15:
15:P
14:UOX
16:
16:P
14:OT
15:X
15:
15:P
14:EX
15:
15:P
14:UT
15:X
15:
15:P
15:RX
16:
14:YT
15:X
15:
15:P
12:NBIT
15:X
15:
15:P
15:EX
16:
16:P
14:AT
15:X
15:
15:P
14:OT
15:X
15:
15:P
14:UT
15:X
15:
15:P
15:RX
16:
14:YT
15:X
15:
15:P
15:RX
16:
12:HMIT
15:X
15:
15:P
15:EX
16:
16:P
14:AT
15:X
15:
15:P
14:UOX
16:
16:P
14:OT
15:X
15:
15:P
14:UT
15:X
15:
15:P
15:RX
16:
14:YX
15:
15:P
15:RX
16:
12:MIT
14:X
14:
14:P
14:EX
15:
15:P
13:AT
14:X
14:
14:P
13:UOT
15:X
15:
15:P
13:OT
14:X
14:
14:P
13:EX
14:
13:UT
14:X
14:
14:P
14:RX
15:
13:YT
14:X
14:
14:P
12:FIT
14:X
14:
14:P
13:AT
14:X
14:
14:P
13:OX
14:
14:P
13:UT
14:X
14:
14:P
14:RX
15:
13:YT
14:X
14:
14:P
12:VIT
14:X
14:
14:P
14:ET
15:X
15:
15:P
13:AT
14:X
14:
14:P
13:OT
14:X
14:
14:P
13:EX
14:P
13:UT
14:X
14:
14:P
14:RX
15:
13:YT
14:X
14:
14:P
14:RX
15:
12:DIT
14:X
14:
14:P
14:EX
15:
15:P
13:AT
14:X
14:
14:P
13:UOX
15:
13:OT
14:X
14:
14:P
13:EX
14:
14:P
13:UT
14:X
14:
14:P
14:RX
15:
12:TIT
14:X
14:
14:P
14:EX
15:
15:P
13:AT
14:X
14:
14:P
13:UOT
15:X
15:
15:P
13:OT
14:X
14:
14:P
13:EX
14:
14:P
13:UT
14:X
14:
14:P
14:RX
15:
12:DDIT
15:X
15:
15:P
15:EX
16:
16:P
14:AT
15:X
15:
15:P
14:UOX
16:
16:P
14:OT
15:X
15:
15:P
14:EX
15:
15:P
14:UT
15:X
15:
15:P
15:RX
16:
12:NDIT
15:X
15:
15:P
15:EX
16:
14:AT
15:X
15:
15:P
14:OT
15:X
15:
15:P
14:EX
15:
15:P
14:UT
15:X
15:
15:P
15:RX
16:
12:HNIT
15:X
15:
15:P
15:ET
16:X
16:
16:P
14:AT
15:X
15:
15:P
14:UOX
16:
14:OT
15:X
15:P
14:EX
15:
15:P
14:UT
12:NIT
14:X
14:
14:P
14:EX
15:
15:P
13:AX
14:
14:P
13:UOX
15:
15:P
13:OT
14:X
14:
14:P
13:EX
14:
14:P
13:UT
14:X
14:
14:P
14:RX
15:
12:HLIT
15:X
15:
15:P
15:EX
16:
16:P
14:AT
15:X
15:
15:P
14:UOX
16:
16:P
14:OX
15:
15:P
14:EX
15:
15:P
14:UT
15:X
15:
15:P
15:RX
16:
14:YT
15:X
15:
15:P
15:RX
16:
12:LIT
14:X
14:
14:P
14:ET
15:X
15:
15:P
13:AT
14:X
14:
14:P
13:UOT
15:X
15:
15:P
13:OT
14:X
14:
14:P
13:EX
14:
14:P
13:UT
14:X
14:
14:P
14:RX
15:
13:YT
14:X
14:
14:P
14:RX
15:
12:GIT
14:X
14:
14:P
14:ET
15:X
15:
15:P
13:AT
14:X
14:
14:P
13:UOT
15:X
15:
15:P
13:OT
14:X
14:
14:P
13:ET
14:X
14:
14:P
13:UT
14:X
14:
14:P
14:RX
15:
12:KIT
14:X
14:
14:P
14:EX
15:
15:P
13:AT
14:X
14:
14:P
13:UOX
15:
15:P
13:OT
14:X
14:
14:P
13:ET
14:X
14:
14:P
13:UT
14:X
14:
14:P
14:RX
15:
12:GGIT
15:X
15:
15:EX
16:
16:P
14:AT
15:X
15:
15:P
14:UOT
16:X
16:
16:P
14:OT
15:X
15:
15:P
14:ET
15:X
15:
15:P
14:UT
15:X
15:
15:P
15:RX
16:
12:MGIEX
16:
14:AT
15:X
15:
15:P
14:UOX
16:
16:P
14:OT
15:X
15:
15:P
14:EX
15:
15:P
14:UT
15:X
15:
15:P
15:RX
16:
12:HXIT
15:X
15:
15:P
15:ET
16:X
16:
16:P
14:AT
15:X
15:
15:P
14:UOT
16:X
16:
16:P
14:OT
15:X
15:
15:P
14:EX
15:
15:P
12:NGIEX
16:
16:P
14:AT
15:X
15:
15:P
14:UOT
16:X
16:
14:OT
15:X
15:
15:P
14:EX
15:
15:P
12:HIT
14:EX
15:
13:AT
14:X
14:
14:P
13:UOT
15:X
15:
15:P
13:OT
14:X
14:
14:P
13:EX
14:
14:P
12:WAT
14:X
14:
14:P
13:UOX
15:
15:P
13:OX
14:
14:P
13:EX
14:
14:P
12:ZIT
14:X
14:
14:P
14:EX
15:
15:P
13:AT
14:X
14:
14:P
13:UOX
15:
15:P
13:OT
14:X
14:
14:P
13:EX
14:
14:P
13:UT
14:X
14:
14:P
14:RX
15:
13:YT
14:X
14:
14:P
14:RX
15:
12:CIT
14:X
14:
14:P
14:ET
15:X
15:
15:P
13:AT
14:X
14:
14:P
13:UOX
15:
15:P
13:OT
14:X
14:
14:P
13:EX
14:
14:P
13:UT
14:X
14:
14:P
14:RX
15:
13:YT
14:X
14:
14:P
14:RX
15:
12:ZZIT
15:X
15:
15:P
15:ET
16:X
16:
16:P
14:AT
15:X
15:
15:P
14:OX
15:
15:P
14:EX
15:
15:P
14:UX
15:
15:P
15:RX
16:
14:YT
15:X
15:
15:P
15:RX
16:
12:NZIT
15:X
15:
15:P
15:EX
16:
16:P
14:AT
15:X
15:
15:P
14:UOX
16:
14:OX
15:P
14:EX
15:
14:UX
15:
15:P
15:RX
16:
14:YT
15:X
15:
15:P
15:RX
16:
12:SIT
14:X
14:
14:P
14:EX
15:
15:P
13:AT
14:X
14:
14:P
13:UOX
15:
15:P
13:OT
14:X
14:
14:P
13:EX
14:
14:P
13:UT
14:X
14:
14:P
14:RX
15:
13:YT
14:X
14:
14:P
14:RX
15:
13:SIT
15:X
15:
15:P
15:EX
16:
16:P
14:AT
15:X
15:
15:P
14:OT
15:X
15:
15:P
14:EX
15:
15:P
14:UT
15:X
15:
15:P
14:YT
15:X
15:
15:P
15:RX
16:
12:ZHAT
15:X
15:
15:P
14:UOX
16:
16:P
14:OT
15:X
15:
15:P
14:ET
15:X
15:
15:P
14:UT
15:X
15:
15:P
15:RX
16:
14:YT
15:X
15:
15:P
15:RX
16:
12:CHAT
15:X
15:
15:P
14:UOT
16:X
16:
16:P
14:OT
15:X
15:
15:P
14:ET
15:X
15:
15:P
14:UX
15:
15:P
15:RX
16:
14:YT
15:X
15:
15:P
15:RX
16:
12:RRAX
15:
14:UOX
16:
14:OT
15:X
15:
15:P
14:ET
15:X
15:
15:P
14:UT
15:X
15:
15:P
15:RX
16:
14:YT
15:X
15:
15:P
15:RX
16:
12:NRAT
15:X
15:
15:P
14:OX
15:
15:P
14:ET
15:X
15:
15:P
14:UT
15:X
15:
15:P
15:RX
16:
14:YT
15:X
15:
15:P
15:RX
16:
12:SHAT
15:X
15:
15:P
14:UOX
16:
16:P
14:OT
15:X
15:
15:P
14:ET
15:X
15:
15:P
14:UT
15:X
15:
15:P
15:RX
16:
14:YT
15:X
15:
15:P
15:RX
16:
12:RAT
14:X
14:
14:P
13:UOX
15:
15:P
13:OT
14:X
14:
14:P
13:EX
14:
14:P
13:UT
14:X
14:
14:P
14:RX
15:
13:YT
14:X
14:
14:P
14:RX
15:
12:JIT
14:X
14:
14:P
14:ET
15:X
15:
15:P
13:UOT
15:X
15:
15:P
13:OT
14:X
14:
14:P
13:UT
14:X
14:
14:P
14:RX
15:
13:YT
14:X
14:
14:P
14:RX
15:
12:QIT
14:X
14:
14:P
14:ET
15:X
15:
15:P
13:UOT
15:X
15:
15:P
13:OT
14:X
14:
14:P
13:UT
14:X
14:
14:P
14:RX
15:
13:YT
14:X
14:
14:P
14:RX
15:
12:JJIT
15:X
15:
15:P
15:ET
16:X
16:
16:P
14:UOX
16:
16:P
14:OT
15:X
15:
15:P
14:UT
15:X
15:
15:P
15:RX
16:
14:YT
15:X
15:
15:P
12:NJIT
15:X
15:
15:P
15:ET
16:X
16:
16:P
14:UOX
16:
14:OT
15:X
15:
15:P
14:UX
15:
15:P
15:RX
16:
14:YT
15:X
15:
15:P
15:RX
16:
13:YIT
15:X
15:
15:P
15:ET
16:X
16:
16:P
14:UOX
16:
16:P
14:OT
15:X
15:
15:P
14:UT
15:X
15:
15:P
12:XIT
14:X
14:
14:P
14:ET
15:X
15:
15:P
13:UOX
15:
13:OT
14:X
14:
14:P
13:YT
14:X
14:
14:P
14:RX
15:
12:YIT
14:X
14:
14:P
14:ET
15:X
15:
15:P
13:UOT
15:X
15:
15:P
13:OT
14:X
14:
14:P
13:UT
14:X
14:
14:P
14:RX
15:
13:YT
14:X
14:
14:P
14:RX
15:
@A490
3:RADICAL QOT
11:LI
11:KIT
11:NYIP
11:CYP
11:SSI
11:GGOP
12:EP
11:MI
11:HXIT
11:LYR
11:BBUT
11:MOP
11:YO
11:PUT
11:HXUO
11:TAT
11:GA
11:ZUP
11:CYT
11:DDUR
11:BUR
11:GGUO
11:NYOP
11:TU
11:OP
11:JJUT
11:ZOT
11:PYT
11:HMO
11:YIT
11:VUR
11:SHY
11:VEP
11:ZA
11:JO
11:NZUP
11:JJY
11:GOT
11:JJIE
11:WO
11:DU
11:SHUR
11:LIE
11:CY
12:UOP
12:IP
11:HXOP
11:SHAT
11:ZUR
11:SHOP
11:CHE
11:ZZIET
11:NBIE
11:KE
@A4D0
0:LISU LETTER BA
12:PA
13:HA
12:DA
12:TA
13:HA
12:GA
12:KA
13:HA
12:JA
12:CA
13:HA
12:DZA
12:TSA
14:HA
12:MA
12:NA
12:LA
12:SA
12:ZHA
13:A
12:NGA
12:HA
12:XA
12:HHA
12:FA
12:WA
12:SHA
12:YA
12:GHA
12:A
13:E
12:E
13:U
12:I
12:O
12:U
13:E
13:H
12:OE
12:TONE MYA TI
17:NA PO
17:MYA CYA
21:BO
21:NA
21:JEU
5:PUNCTUATION COMMA
17:FULL STOP
0:VAI SYLLABLE EE
15:N
13:HEE
13:WEE
16:N
13:PEE
13:BHEE
14:EE
13:MBEE
13:KPEE
13:MGBEE
13:GBEE
13:FEE
13:VEE
13:TEE
14:HEE
13:DHEE
15:HEE
13:LEE
13:REE
13:DEE
13:NDEE
13:SEE
14:HEE
13:ZEE
14:HEE
13:CEE
13:JEE
13:NJEE
13:YEE
13:KEE
13:NGGEE
13:GEE
13:MEE
13:NEE
14:YEE
13:I
14:N
13:HI
15:N
13:WI
15:N
13:PI
13:BHI
14:I
13:MBI
13:KPI
13:MGBI
13:GBI
13:FI
13:VI
13:TI
14:HI
13:DHI
15:HI
13:LI
13:RI
13:DI
13:NDI
13:SI
14:HI
13:ZI
14:HI
13:CI
13:JI
13:NJI
13:YI
13:KI
13:NGGI
13:GI
13:MI
13:NI
14:YI
13:A
14:N
13:NGAN
13:HA
15:N
13:WA
15:N
13:PA
13:BHA
14:A
13:MBA
13:KPA
16:N
13:MGBA
13:GBA
13:FA
13:VA
13:TA
14:HA
13:DHA
15:HA
13:LA
13:RA
13:DA
13:NDA
13:SA
14:HA
13:ZA
14:HA
13:CA
13:JA
13:NJA
13:YA
13:KA
15:N
13:NGGA
13:GA
13:MA
13:NA
14:YA
13:OO
15:N
13:HOO
13:WOO
16:N
13:POO
13:BHOO
14:OO
13:MBOO
13:KPOO
13:MGBOO
13:GBOO
13:FOO
13:VOO
13:TOO
14:HOO
13:DHOO
15:HOO
13:LOO
13:ROO
13:DOO
13:NDOO
13:SOO
14:HOO
13:ZOO
14:HOO
13:COO
13:JOO
13:NJOO
13:YOO
13:KOO
13:NGGOO
13:GOO
13:MOO
13:NOO
14:YOO
13:U
14:N
13:HU
15:N
13:WU
15:N
13:PU
13:BHU
14:U
13:MBU
13:KPU
13:MGBU
13:GBU
13:FU
13:VU
13:TU
14:HU
13:DHU
15:HU
13:LU
13:RU
13:DU
13:NDU
13:SU
14:HU
13:ZU
14:HU
13:CU
13:JU
13:NJU
13:YU
13:KU
13:NGGU
13:GU
13:MU
13:NU
14:YU
13:O
14:N
13:NGON
13:HO
15:N
13:WO
15:N
13:PO
13:BHO
14:O
13:MBO
13:KPO
13:MGBO
13:GBO
16:N
13:FO
13:VO
13:TO
14:HO
13:DHO
15:HO
13:LO
13:RO
13:DO
13:NDO
13:SO
14:HO
13:ZO
14:HO
13:CO
13:JO
13:NJO
13:YO
13:KO
13:NGGO
13:GO
13:MO
13:NO
14:YO
13:E
14:N
13:NGEN
13:HE
15:N
13:WE
15:N
13:PE
13:BHE
14:E
13:MBE
13:KPE
16:N
13:MGBE
13:GBE
16:N
13:FE
13:VE
13:TE
14:HE
13:DHE
15:HE
13:LE
13:RE
13:DE
13:NDE
13:SE
14:HE
13:ZE
14:HE
13:CE
13:JE
13:NJE
13:YE
13:KE
13:NGGE
17:N
13:GE
15:N
13:ME
13:NE
14:YE
14:G
13:LENGTHENER
4:COMMA
4:FULL STOP
4:QUESTION MARK
4:SYLLABLE NDOLE FA
19:KA
19:SOO
6:MBOL FEENG
11:KEENG
11:TING
11:NII
11:BANG
11:FAA
11:TAA
11:DANG
12:OONG
11:KUNG
11:TONG
11:DO-O
11:JONG
4:DIGIT ZERO
10:ONE
10:TWO
11:HREE
10:FOUR
11:IVE
10:SIX
11:EVEN
10:EIGHT
10:NINE
4:SYLLABLE NDOLE MA
19:DO
@A640
0:CYRILLIC CAPITAL LETTER ZEMLYA
9:SMALL LETTER ZEMLYA
9:CAPITAL LETTER DZELO
9:SMALL LETTER DZELO
9:CAPITAL LETTER REVERSED DZE
9:SMALL LETTER REVERSED DZE
9:CAPITAL LETTER IOTA
9:SMALL LETTER IOTA
9:CAPITAL LETTER DJERV
9:SMALL LETTER DJERV
9:CAPITAL LETTER MONOGRAPH UK
9:SMALL LETTER MONOGRAPH UK
9:CAPITAL LETTER BROAD OMEGA
9:SMALL LETTER BROAD OMEGA
9:CAPITAL LETTER NEUTRAL YER
9:SMALL LETTER NEUTRAL YER
9:CAPITAL LETTER YERU WITH BACK YER
9:SMALL LETTER YERU WITH BACK YER
9:CAPITAL LETTER IOTIFIED YAT
9:SMALL LETTER IOTIFIED YAT
9:CAPITAL LETTER REVERSED YU
9:SMALL LETTER REVERSED YU
9:CAPITAL LETTER IOTIFIED A
9:SMALL LETTER IOTIFIED A
9:CAPITAL LETTER CLOSED LITTLE YUS
9:SMALL LETTER CLOSED LITTLE YUS
9:CAPITAL LETTER BLENDED YUS
9:SMALL LETTER BLENDED YUS
9:CAPITAL LETTER IOTIFIED CLOSED LITTLE YUS
9:SMALL LETTER IOTIFIED CLOSED LITTLE YUS
9:CAPITAL LETTER YN
9:SMALL LETTER YN
9:CAPITAL LETTER REVERSED TSE
9:SMALL LETTER REVERSED TSE
9:CAPITAL LETTER SOFT DE
9:SMALL LETTER SOFT DE
9:CAPITAL LETTER SOFT EL
9:SMALL LETTER SOFT EL
9:CAPITAL LETTER SOFT EM
9:SMALL LETTER SOFT EM
9:CAPITAL LETTER MONOCULAR O
9:SMALL LETTER MONOCULAR O
9:CAPITAL LETTER BINOCULAR O
9:SMALL LETTER BINOCULAR O
9:CAPITAL LETTER DOUBLE MONOCULAR O
9:SMALL LETTER DOUBLE MONOCULAR O
9:LETTER MULTIOCULAR O
1:OMBINING CYRILLIC VZMET
19:TEN MILLIONS SIGN
19:HUNDRED MILLIONS SIGN
19:THOUSAND MILLIONS SIGN
0:SLAVONIC ASTERISK
0:COMBINING CYRILLIC LETTER UKRAINIAN IE
26:I
26:YI
26:U
26:HARD SIGN
26:YERU
26:SOFT SIGN
26:OMEGA
19:KAVYKA
19:PAYEROK
1:YRILLIC KAVYKA
9:PAYEROK
9:CAPITAL LETTER DWE
9:SMALL LETTER DWE
9:CAPITAL LETTER DZWE
9:SMALL LETTER DZWE
9:CAPITAL LETTER ZHWE
9:SMALL LETTER ZHWE
9:CAPITAL LETTER CCHE
9:SMALL LETTER CCHE
9:CAPITAL LETTER DZZE
9:SMALL LETTER DZZE
9:CAPITAL LETTER TE WITH MIDDLE HOOK
9:SMALL LETTER TE WITH MIDDLE HOOK
9:CAPITAL LETTER TWE
9:SMALL LETTER TWE
9:CAPITAL LETTER TSWE
9:SMALL LETTER TSWE
9:CAPITAL LETTER TSSE
9:SMALL LETTER TSSE
9:CAPITAL LETTER TCHE
9:SMALL LETTER TCHE
9:CAPITAL LETTER HWE
9:SMALL LETTER HWE
9:CAPITAL LETTER SHWE
9:SMALL LETTER SHWE
9:CAPITAL LETTER DOUBLE O
9:SMALL LETTER DOUBLE O
9:CAPITAL LETTER CROSSED O
9:SMALL LETTER CROSSED O
0:MODIFIER LETTER CYRILLIC HARD SIGN
25:SOFT SIGN
0:COMBINING CYRILLIC LETTER EF
26:IOTIFIED E
0:BAMUM LETTER A
13:KA
13:U
13:KU
13:EE
13:REE
13:TAE
13:O
13:NYI
13:I
13:LA
13:PA
13:RII
15:EE
13:LEEEE
13:MEEEE
13:TAA
13:NDAA
14:JAEM
13:M
13:SUU
13:MU
13:SHII
14:I
14:HEUX
14:EUX
13:KYEE
14:ET
13:NUAE
15:
14:JUAE
13:YOQ
13:SHU
13:YUQ
14:A
13:NSHA
13:KEUX
13:PEUX
13:NJEE
14:TEE
13:PUE
13:WUE
13:PEE
13:FEE
13:RU
13:LU
13:MI
13:NI
13:REUX
14:AE
13:KEN
13:NGKWAEN
15:GA
15:A
13:SHO
13:PUAE
13:FU
14:OM
13:WA
13:NA
13:LI
13:PI
13:LOQ
13:KO
13:MBEN
13:REN
13:MEN
14:A
13:TI
13:KI
13:MO
14:BAA
13:TET
13:KPA
13:TEN
13:NTUU
13:SAMBA
13:FAAMAE
13:KOVUU
15:GHOM
6:COMBINING MARK KOQNDON
21:TUKWENTIS
6:NJAEMLI
6:FULL STOP
6:COLON
8:MMA
6:SEMICOLON
6:QUESTION MARK
@A700
0:MODIFIER LETTER CHINESE TONE YIN PING
30:ANG PING
30:IN SHANG
30:ANG SHANG
30:IN QU
30:ANG QU
30:IN RU
30:ANG RU
16:EXTRA-HIGH DOTTED TONE BAR
16:HIGH DOTTED TONE BAR
16:MID DOTTED TONE BAR
16:LOW DOTTED TONE BAR
16:EXTRA-LOW DOTTED TONE BAR
22:HIGH DOTTED LEFT-STEM TONE BAR
16:HIGH DOTTED LEFT-STEM TONE BAR
16:MID DOTTED LEFT-STEM TONE BAR
16:LOW DOTTED LEFT-STEM TONE BAR
16:EXTRA-LOW DOTTED LEFT-STEM TONE BAR
22:HIGH LEFT-STEM TONE BAR
16:HIGH LEFT-STEM TONE BAR
16:MID LEFT-STEM TONE BAR
16:LOW LEFT-STEM TONE BAR
16:EXTRA-LOW LEFT-STEM TONE BAR
16:DOT VERTICAL BAR
20:SLASH
20:HORIZONTAL BAR
16:LOWER RIGHT CORNER ANGLE
16:RAISED UP ARROW
23:DOWN ARROW
23:EXCLAMATION MARK
23:INVERTED EXCLAMATION MARK
16:LOW INVERTED EXCLAMATION MARK
16:STRESS AND HIGH TONE
27:LOW TONE
0:LATIN CAPITAL LETTER EGYPTOLOGICAL ALEF
6:SMALL LETTER EGYPTOLOGICAL ALEF
6:CAPITAL LETTER EGYPTOLOGICAL AIN
6:SMALL LETTER EGYPTOLOGICAL AIN
6:CAPITAL LETTER HENG
6:SMALL LETTER HENG
6:CAPITAL LETTER TZ
6:SMALL LETTER TZ
6:CAPITAL LETTER TRESILLO
6:SMALL LETTER TRESILLO
6:CAPITAL LETTER CUATRILLO
6:SMALL LETTER CUATRILLO
6:CAPITAL LETTER CUATRILLO WITH COMMA
6:SMALL LETTER CUATRILLO WITH COMMA
6:LETTER SMALL CAPITAL F
27:S
6:CAPITAL LETTER AA
6:SMALL LETTER AA
6:CAPITAL LETTER AO
6:SMALL LETTER AO
6:CAPITAL LETTER AU
6:SMALL LETTER AU
6:CAPITAL LETTER AV
6:SMALL LETTER AV
6:CAPITAL LETTER AV WITH HORIZONTAL BAR
6:SMALL LETTER AV WITH HORIZONTAL BAR
6:CAPITAL LETTER AY
6:SMALL LETTER AY
6:CAPITAL LETTER REVERSED C WITH DOT
6:SMALL LETTER REVERSED C WITH DOT
6:CAPITAL LETTER K WITH STROKE
6:SMALL LETTER K WITH STROKE
6:CAPITAL LETTER K WITH DIAGONAL STROKE
6:SMALL LETTER K WITH DIAGONAL STROKE
6:CAPITAL LETTER K WITH STROKE AND DIAGONAL STROKE
6:SMALL LETTER K WITH STROKE AND DIAGONAL STROKE
6:CAPITAL LETTER BROKEN L
6:SMALL LETTER BROKEN L
6:CAPITAL LETTER L WITH HIGH STROKE
6:SMALL LETTER L WITH HIGH STROKE
6:CAPITAL LETTER O WITH LONG STROKE OVERLAY
6:SMALL LETTER O WITH LONG STROKE OVERLAY
6:CAPITAL LETTER O WITH LOOP
6:SMALL LETTER O WITH LOOP
6:CAPITAL LETTER OO
6:SMALL LETTER OO
6:CAPITAL LETTER P WITH STROKE THROUGH DESCENDER
6:SMALL LETTER P WITH STROKE THROUGH DESCENDER
6:CAPITAL LETTER P WITH FLOURISH
6:SMALL LETTER P WITH FLOURISH
6:CAPITAL LETTER P WITH SQUIRREL TAIL
6:SMALL LETTER P WITH SQUIRREL TAIL
6:CAPITAL LETTER Q WITH STROKE THROUGH DESCENDER
6:SMALL LETTER Q WITH STROKE THROUGH DESCENDER
6:CAPITAL LETTER Q WITH DIAGONAL STROKE
6:SMALL LETTER Q WITH DIAGONAL STROKE
6:CAPITAL LETTER R ROTUNDA
6:SMALL LETTER R ROTUNDA
6:CAPITAL LETTER RUM ROTUNDA
6:SMALL LETTER RUM ROTUNDA
6:CAPITAL LETTER V WITH DIAGONAL STROKE
6:SMALL LETTER V WITH DIAGONAL STROKE
6:CAPITAL LETTER VY
6:SMALL LETTER VY
6:CAPITAL LETTER VISIGOTHIC Z
6:SMALL LETTER VISIGOTHIC Z
6:CAPITAL LETTER THORN WITH STROKE
6:SMALL LETTER THORN WITH STROKE
6:CAPITAL LETTER THORN WITH STROKE THROUGH DESCENDER
6:SMALL LETTER THORN WITH STROKE THROUGH DESCENDER
6:CAPITAL LETTER VEND
6:SMALL LETTER VEND
6:CAPITAL LETTER ET
6:SMALL LETTER ET
6:CAPITAL LETTER IS
6:SMALL LETTER IS
6:CAPITAL LETTER CON
6:SMALL LETTER CON
0:MODIFIER LETTER US
0:LATIN SMALL LETTER DUM
19:LUM
19:MUM
19:NUM
19:RUM
6:LETTER SMALL CAPITAL RUM
6:SMALL LETTER TUM
19:UM
6:CAPITAL LETTER INSULAR D
6:SMALL LETTER INSULAR D
6:CAPITAL LETTER INSULAR F
6:SMALL LETTER INSULAR F
6:CAPITAL LETTER INSULAR G
21:TURNED INSULAR G
6:SMALL LETTER TURNED INSULAR G
6:CAPITAL LETTER TURNED L
6:SMALL LETTER TURNED L
6:CAPITAL LETTER INSULAR R
6:SMALL LETTER INSULAR R
6:CAPITAL LETTER INSULAR S
6:SMALL LETTER INSULAR S
6:CAPITAL LETTER INSULAR T
6:SMALL LETTER INSULAR T
0:MODIFIER LETTER LOW CIRCUMFLEX ACCENT
16:COLON
16:SHORT EQUALS SIGN
0:LATIN CAPITAL LETTER SALTILLO
6:SMALL LETTER SALTILLO
6:CAPITAL LETTER TURNED H
6:SMALL LETTER L WITH RETROFLEX HOOK AND BELT
6:LETTER SINOLOGICAL DOT
6:CAPITAL LETTER N WITH DESCENDER
6:SMALL LETTER N WITH DESCENDER
6:CAPITAL LETTER C WITH BAR
6:SMALL LETTER C WITH BAR
26:PALATAL HOOK
19:H WITH PALATAL HOOK
6:CAPITAL LETTER B WITH FLOURISH
6:SMALL LETTER B WITH FLOURISH
6:CAPITAL LETTER F WITH STROKE
6:SMALL LETTER F WITH STROKE
6:CAPITAL LETTER VOLAPUK AE
6:SMALL LETTER VOLAPUK AE
6:CAPITAL LETTER VOLAPUK OE
6:SMALL LETTER VOLAPUK OE
6:CAPITAL LETTER VOLAPUK UE
6:SMALL LETTER VOLAPUK UE
6:CAPITAL LETTER G WITH OBLIQUE STROKE
6:SMALL LETTER G WITH OBLIQUE STROKE
6:CAPITAL LETTER K WITH OBLIQUE STROKE
6:SMALL LETTER K WITH OBLIQUE STROKE
6:CAPITAL LETTER N WITH OBLIQUE STROKE
6:SMALL LETTER N WITH OBLIQUE STROKE
6:CAPITAL LETTER R WITH OBLIQUE STROKE
6:SMALL LETTER R WITH OBLIQUE STROKE
6:CAPITAL LETTER S WITH OBLIQUE STROKE
6:SMALL LETTER S WITH OBLIQUE STROKE
6:CAPITAL LETTER H WITH HOOK
21:REVERSED OPEN E
21:SCRIPT G
21:L WITH BELT
21:SMALL CAPITAL I
6:LETTER SMALL CAPITAL Q
6:CAPITAL LETTER TURNED K
28:T
21:J WITH CROSSED-TAIL
21:CHI
21:BETA
6:SMALL LETTER BETA
6:CAPITAL LETTER OMEGA
6:SMALL LETTER OMEGA
6:CAPITAL LETTER U WITH STROKE
6:SMALL LETTER U WITH STROKE
6:CAPITAL LETTER GLOTTAL A
6:SMALL LETTER GLOTTAL A
6:CAPITAL LETTER GLOTTAL I
6:SMALL LETTER GLOTTAL I
6:CAPITAL LETTER GLOTTAL U
6:SMALL LETTER GLOTTAL U
6:CAPITAL LETTER OLD POLISH O
6:SMALL LETTER OLD POLISH O
6:CAPITAL LETTER ANGLICANA W
6:SMALL LETTER ANGLICANA W
6:CAPITAL LETTER C WITH PALATAL HOOK
21:S WITH HOOK
21:Z WITH PALATAL HOOK
21:D WITH SHORT STROKE OVERLAY
6:SMALL LETTER D WITH SHORT STROKE OVERLAY
6:CAPITAL LETTER S WITH SHORT STROKE OVERLAY
6:SMALL LETTER S WITH SHORT STROKE OVERLAY
@A7D0
6:CAPITAL LETTER CLOSED INSULAR G
6:SMALL LETTER CLOSED INSULAR G
@A7D3
19:DOUBLE THORN
@A7D5
26:WYNN
6:CAPITAL LETTER MIDDLE SCOTS S
6:SMALL LETTER MIDDLE SCOTS S
6:CAPITAL LETTER SIGMOID S
6:SMALL LETTER SIGMOID S
@A7F2
0:MODIFIER LETTER CAPITAL C
24:F
24:Q
0:LATIN CAPITAL LETTER REVERSED HALF H
6:SMALL LETTER REVERSED HALF H
6:EPIGRAPHIC LETTER SIDEWAYS I
0:MODIFIER LETTER CAPITAL H WITH STROKE
16:SMALL LIGATURE OE
0:LATIN LETTER SMALL CAPITAL TURNED M
6:EPIGRAPHIC LETTER REVERSED F
33:P
24:INVERTED M
25: LONGA
24:ARCHAIC M
0:SYLOTI NAGRI LETTER A
20:I
13:SIGN DVISVARA
13:LETTER U
20:E
20:O
13:SIGN HASANTA
13:LETTER KO
21:HO
20:GO
21:HO
13:SIGN ANUSVARA
13:LETTER CO
21:HO
20:JO
21:HO
20:TTO
22:HO
20:DDO
22:HO
20:TO
21:HO
20:DO
21:HO
20:NO
20:PO
21:HO
20:BO
21:HO
20:MO
20:RO
20:LO
20:RRO
20:SO
20:HO
13:VOWEL SIGN A
24:I
24:U
24:E
24:OO
13:POETRY MARK-1
25:2
25:3
25:4
13:SIGN ALTERNATE HASANTA
@A830
0:NORTH INDIC FRACTION ONE QUARTER
25:HALF
21:THREE QUARTERS
21:ONE SIXTEENTH
25:EIGHTH
21:THREE SIXTEENTHS
12:QUARTER MARK
12:PLACEHOLDER MARK
12:RUPEE MARK
12:QUANTITY MARK
@A840
0:PHAGS-PA LETTER KA
17:HA
16:GA
16:NGA
16:CA
17:HA
16:JA
16:NYA
16:TA
17:HA
16:DA
16:NA
16:PA
17:HA
16:BA
16:MA
16:TSA
18:HA
16:DZA
16:WA
16:ZHA
17:A
16:SMALL A
16:YA
16:RA
16:LA
16:SHA
17:A
16:HA
16:A
16:I
16:U
16:E
16:O
16:QA
16:XA
16:FA
16:GGA
16:EE
9:SUBJOINED LETTER WA
26:YA
9:LETTER TTA
18:HA
16:DDA
16:NNA
16:ALTERNATE YA
16:VOICELESS SHA
21:D HA
16:ASPIRATED FA
9:SUBJOINED LETTER RA
11:PERFIXED LETTER RA
9:LETTER CANDRABINDU
9:SINGLE HEAD MARK
9:DOUBLE HEAD MARK
9:MARK SHAD
14:DOUBLE SHAD
@A880
0:SAURASHTRA SIGN ANUSVARA
16:VISARGA
11:LETTER A
19:A
18:I
19:I
18:U
19:U
18:VOCALIC R
27:R
26:L
27:L
18:E
19:E
18:AI
18:O
19:O
18:AU
18:KA
19:HA
18:GA
19:HA
18:NGA
18:CA
19:HA
18:JA
19:HA
18:NYA
18:TTA
20:HA
18:DDA
20:HA
18:NNA
18:TA
19:HA
18:DA
19:HA
18:NA
18:PA
19:HA
18:BA
19:HA
18:MA
18:YA
18:RA
18:LA
18:VA
18:SHA
19:SA
19:A
18:HA
18:LLA
11:CONSONANT SIGN HAARU
11:VOWEL SIGN AA
22:I
23:I
22:U
23:U
22:VOCALIC R
31:R
30:L
31:L
22:E
23:E
22:AI
22:O
23:O
22:AU
11:SIGN VIRAMA
16:CANDRABINDU
@A8CE
11:DANDA
12:OUBLE DANDA
12:IGIT ZERO
17:ONE
17:TWO
18:HREE
17:FOUR
18:IVE
17:SIX
18:EVEN
17:EIGHT
17:NINE
@A8E0
0:COMBINING DEVANAGARI DIGIT ZERO
27:ONE
27:TWO
28:HREE
27:FOUR
28:IVE
27:SIX
28:EVEN
27:EIGHT
27:NINE
21:LETTER A
28:U
28:KA
28:NA
28:PA
28:RA
28:VI
21:SIGN AVAGRAHA
0:DEVANAGARI SIGN SPACING CANDRABINDU
16:CANDRABINDU VIRAMA
16:DOUBLE CANDRABINDU VIRAMA
16:CANDRABINDU TWO
29:HREE
28:AVAGRAHA
16:PUSHPIKA
11:GAP FILLER
11:CARET
11:HEADSTROKE
11:SIGN SIDDHAM
11:JAIN OM
11:LETTER AY
11:VOWEL SIGN AY
0:KAYAH LI DIGIT ZERO
15:ONE
15:TWO
16:HREE
15:FOUR
16:IVE
15:SIX
16:EVEN
15:EIGHT
15:NINE
9:LETTER KA
17:HA
16:GA
16:NGA
16:SA
17:HA
16:ZA
16:NYA
16:TA
16:HTA
16:NA
16:PA
17:HA
16:MA
16:DA
16:BA
16:RA
16:YA
16:LA
16:WA
16:THA
16:HA
16:VA
16:CA
16:A
16:OE
16:I
16:OO
9:VOWEL UE
15:E
15:U
15:EE
15:O
9:TONE PLOPHU
14:CALYA
19: PLOPHU
9:SIGN CWI
14:SHYA
0:REJANG LETTER KA
14:GA
14:NGA
14:TA
14:DA
14:NA
14:PA
14:BA
14:MA
14:CA
14:JA
14:NYA
14:SA
14:RA
14:LA
14:YA
14:WA
14:HA
14:MBA
14:NGGA
15:DA
15:YJA
14:A
7:VOWEL SIGN I
18:U
18:E
18:AI
18:O
18:AU
18:EU
19:A
7:CONSONANT SIGN NG
23:
22:R
22:H
7:VIRAMA
@A95F
7:SECTION MARK
0:HANGUL CHOSEONG TIKEUT-MIEUM
23:PIEUP
23:SIOS
23:CIEUC
16:RIEUL-KIYEOK
22:SSANGKIYEOK
22:TIKEUT
22:SSANGTIKEUT
22:MIEUM
22:PIEUP
22:SSANGPIEUP
22:KAPYEOUNPIEUP
22:SIOS
22:CIEUC
22:KHIEUKH
16:MIEUM-KIYEOK
22:TIKEUT
22:SIOS
16:PIEUP-SIOS-THIEUTH
22:KHIEUKH
22:HIEUH
16:SSANGSIOS-PIEUP
16:IEUNG-RIEUL
22:HIEUH
16:SSANGCIEUC-HIEUH
21:THIEUTH
16:PHIEUPH-HIEUH
16:HIEUH-SIOS
16:SSANGYEORINHIEUH
@A980
0:JAVANESE SIGN PANYANGGA
14:CECAK
14:LAYAR
14:WIGNYAN
9:LETTER A
16:I KAWI
17:
17:I
16:U
16:PA CEREK
16:NGA LELET
25: RASWADI
16:E
16:AI
16:O
16:KA
18: SASAK
19:MURDA
16:GA
18: MURDA
16:NGA
16:CA
18: MURDA
16:JA
16:NYA MURDA
16:JA MAHAPRANA
16:NYA
16:TTA
19: MAHAPRANA
16:DDA
19: MAHAPRANA
16:NA MURDA
16:TA
18: MURDA
16:DA
18: MAHAPRANA
16:NA
16:PA
18: MURDA
16:BA
18: MURDA
16:MA
16:YA
16:RA
18: AGUNG
16:LA
16:WA
16:SA MURDA
20:AHAPRANA
18:
16:HA
9:SIGN CECAK TELU
9:VOWEL SIGN TARUNG
21:OLONG
20:WULU
24: MELIK
20:SUKU
24: MENDUT
20:TALING
20:DIRGA MURE
20:PEPET
9:CONSONANT SIGN KERET
24:PENGKAL
24:CAKRA
9:PANGKON
9:LEFT RERENGGAN
9:RIGHT RERENGGAN
9:PADA ANDAP
14:MADYA
14:LUHUR
14:WINDU
14:PANGKAT
14:LINGSA
15:UNGSI
14:ADEG
18: ADEG
14:PISELEH
9:TURNED PADA PISELEH
@A9CF
9:PANGRANGKEP
9:DIGIT ZERO
15:ONE
15:TWO
16:HREE
15:FOUR
16:IVE
15:SIX
16:EVEN
15:EIGHT
15:NINE
@A9DE
9:PADA TIRTA TUMETES
14:ISEN-ISEN
0:MYANMAR LETTER SHAN GHA
20:CHA
20:JHA
20:NNA
20:BHA
8:SIGN SHAN SAW
8:MODIFIER LETTER SHAN REDUPLICATION
8:LETTER TAI LAING NYA
25:FA
25:GA
26:HA
25:JA
26:HA
25:DDA
27:HA
25:NNA
8:TAI LAING DIGIT ZERO
24:ONE
24:TWO
25:HREE
24:FOUR
25:IVE
24:SIX
25:EVEN
24:EIGHT
24:NINE
8:LETTER TAI LAING LLA
25:DA
26:HA
25:BA
26:HA
@AA00
0:CHAM LETTER A
12:I
12:U
12:E
12:AI
12:O
12:KA
13:HA
12:GA
13:HA
12:NGUE
14:A
12:CHA
14:HA
12:JA
13:HA
12:NHUE
14:A
14:JA
12:TA
13:HA
12:DA
13:HA
12:NUE
13:A
12:DDA
12:PA
13:PA
13:HA
12:BA
13:HA
12:MUE
13:A
12:BBA
12:YA
12:RA
12:LA
12:VA
12:SSA
13:A
12:HA
5:VOWEL SIGN AA
16:I
17:I
16:EI
16:U
16:OE
17:
16:AI
17:U
16:UE
5:CONSONANT SIGN YA
20:RA
20:LA
20:WA
@AA40
5:LETTER FINAL K
18:G
18:NG
5:CONSONANT SIGN FINAL NG
5:LETTER FINAL CH
18:T
18:N
18:P
18:Y
18:R
18:L
18:SS
5:CONSONANT SIGN FINAL M
26:H
@AA50
5:DIGIT ZERO
11:ONE
11:TWO
12:HREE
11:FOUR
12:IVE
11:SIX
12:EVEN
11:EIGHT
11:NINE
@AA5C
5:PUNCTUATION SPIRAL
17:DANDA
18:OUBLE DANDA
17:TRIPLE DANDA
0:MYANMAR LETTER KHAMTI GA
22:CA
23:HA
22:JA
23:HA
22:NYA
22:TTA
24:HA
22:DDA
24:HA
23:HA
22:NA
22:SA
22:HA
23:HA
22:FA
8:MODIFIER LETTER KHAMTI REDUPLICATION
8:LETTER KHAMTI XA
22:ZA
22:RA
9:OGOGRAM KHAMTI OAY
24:QN
24:HM
8:SYMBOL AITON EXCLAMATION
21:ONE
21:TWO
8:LETTER AITON RA
8:SIGN PAO KAREN TONE
13:TAI LAING TONE-2
28:5
8:LETTER SHWE PALAUNG CHA
28:SHA
0:TAI VIET LETTER LOW KO
16:HIGH KO
16:LOW KHO
16:HIGH KHO
16:LOW KHHO
16:HIGH KHHO
16:LOW GO
16:HIGH GO
16:LOW NGO
16:HIGH NGO
16:LOW CO
16:HIGH CO
16:LOW CHO
16:HIGH CHO
16:LOW SO
16:HIGH SO
16:LOW NYO
16:HIGH NYO
16:LOW DO
16:HIGH DO
16:LOW TO
16:HIGH TO
16:LOW THO
16:HIGH THO
16:LOW NO
16:HIGH NO
16:LOW BO
16:HIGH BO
16:LOW PO
16:HIGH PO
16:LOW PHO
16:HIGH PHO
16:LOW FO
16:HIGH FO
16:LOW MO
16:HIGH MO
16:LOW YO
16:HIGH YO
16:LOW RO
16:HIGH RO
16:LOW LO
16:HIGH LO
16:LOW VO
16:HIGH VO
16:LOW HO
16:HIGH HO
16:LOW O
16:HIGH O
9:MAI KANG
9:VOWEL AA
15:I
15:UE
16:
15:E
15:O
9:MAI KHIT
9:VOWEL IA
15:UEA
16:A
15:AUE
16:Y
16:N
16:M
9:TONE MAI EK
18:NUENG
18:THO
18:SONG
@AADB
9:SYMBOL KON
16:NUENG
16:SAM
16:HO HOI
16:KOI KOI
0:MEETEI MAYEK LETTER E
20:O
20:CHA
20:NYA
20:TTA
22:HA
20:DDA
22:HA
20:NNA
20:SHA
21:SA
13:VOWEL SIGN II
24:UU
24:AAI
25:U
25:AU
13:CHEIKHAN
13:AHANG KHUDAM
14:NJI
13:SYLLABLE REPETITION MARK
13:WORD REPETITION MARK
13:VOWEL SIGN VISARGA
14:IRAMA
@AB01
0:ETHIOPIC SYLLABLE TTHU
21:I
21:AA
21:EE
22:
21:O
@AB09
18:DDHU
21:I
21:AA
21:EE
22:
21:O
@AB11
19:ZU
20:I
20:AA
20:EE
21:
20:O
@AB20
18:CCHHA
22:U
22:I
22:AA
22:EE
23:
22:O
@AB28
18:BBA
20:U
20:I
20:AA
20:EE
21:
20:O
@AB30
0:LATIN SMALL LETTER BARRED ALPHA
19:A REVERSED-SCHWA
19:BLACKLETTER E
20:ARRED E
19:E WITH FLOURISH
19:LENIS F
19:SCRIPT G WITH CROSSED-TAIL
19:L WITH INVERTED LAZY S
26:DOUBLE MIDDLE TILDE
26:MIDDLE RING
19:M WITH CROSSED-TAIL
19:N WITH CROSSED-TAIL
19:ENG WITH CROSSED-TAIL
19:BLACKLETTER O
32: WITH STROKE
19:OPEN O WITH STROKE
19:INVERTED OE
19:TURNED OE WITH STROKE
34:HORIZONTAL STROKE
27: OPEN-O
34: WITH STROKE
19:STIRRUP R
6:LETTER SMALL CAPITAL R WITH RIGHT LEG
6:SMALL LETTER R WITHOUT HANDLE
19:DOUBLE R
19:R WITH CROSSED-TAIL
19:DOUBLE R WITH CROSSED-TAIL
19:SCRIPT R
27: WITH RING
19:BASELINE ESH
19:U WITH SHORT RIGHT LEG
21:BAR WITH SHORT RIGHT LEG
20:I
19:TURNED UI
19:U WITH LEFT HOOK
19:CHI
22: WITH LOW RIGHT RING
32:LEFT SERIF
19:X WITH LOW RIGHT RING
28:NG LEFT LEG
39: AND LOW RIGHT RING
40:WITH SERIF
19:Y WITH SHORT RIGHT LEG
0:MODIFIER BREVE WITH INVERTED BREVE
9:LETTER SMALL HENG
22:L WITH INVERTED LAZY S
29:MIDDLE TILDE
22:U WITH LEFT HOOK
0:LATIN SMALL LETTER SAKHA YAT
19:IOTIFIED E
19:OPEN OE
19:UO
19:INVERTED ALPHA
0:GREEK LETTER SMALL CAPITAL OMEGA
0:LATIN SMALL LETTER DZ DIGRAPH WITH RETROFLEX HOOK
19:TS DIGRAPH WITH RETROFLEX HOOK
20:URNED R WITH MIDDLE TILDE
0:MODIFIER LETTER SMALL TURNED W
16:LEFT TACK
16:RIGHT TACK
@AB70
0:CHEROKEE SMALL LETTER A
22:E
22:I
22:O
22:U
22:V
22:GA
22:KA
22:GE
23:I
23:O
23:U
23:V
22:HA
23:E
23:I
23:O
23:U
23:V
22:LA
23:E
23:I
23:O
23:U
23:V
22:MA
23:E
23:I
23:O
23:U
22:NA
22:HNA
22:NAH
23:E
23:I
23:O
23:U
23:V
22:QUA
24:E
24:I
24:O
24:U
24:V
22:SA
23:
23:E
23:I
23:O
23:U
23:V
22:DA
22:TA
22:DE
22:TE
22:DI
22:TI
22:DO
23:U
23:V
23:LA
22:TLA
24:E
24:I
24:O
24:U
24:V
23:SA
24:E
24:I
24:O
24:U
24:V
22:WA
23:E
23:I
23:O
23:U
23:V
22:YA
0:MEETEI MAYEK LETTER KOK
20:SAM
20:LAI
20:MIT
20:PA
20:NA
20:CHIL
20:TIL
20:KHOU
20:NGOU
20:THOU
20:WAI
20:YANG
20:HUK
20:UN
20:I
20:PHAM
20:ATIYA
20:GOK
20:JHAM
20:RAI
20:BA
20:JIL
20:DIL
20:GHOU
20:DHOU
20:BHAM
20:KOK LONSUM
20:LAI LONSUM
20:MIT LONSUM
20:PA LONSUM
20:NA LONSUM
20:TIL LONSUM
20:NGOU LONSUM
20:I LONSUM
13:VOWEL SIGN ONAP
24:INAP
24:ANAP
24:YENAP
24:SOUNAP
24:UNAP
24:CHEINAP
24:NUNG
13:CHEIKHEI
13:LUM IYEK
13:APUN IYEK
@ABF0
13:DIGIT ZERO
19:ONE
19:TWO
20:HREE
19:FOUR
20:IVE
19:SIX
20:EVEN
19:EIGHT
19:NINE
@D7B0
0:HANGUL JUNGSEONG O-YEO
19:O-I
17:YO-A
21:E
20:EO
17:U-YEO
19:I-I
17:YU-AE
20:O
17:EU-A
20:EO
21:
20:O
17:I-YA-O
21:E
20:EO
21:
19:O-I
19:YO
20:U
19:I
17:ARAEA-A
23:E
@D7CB
8:ONGSEONG NIEUN-RIEUL
23:CHIEUCH
17:SSANGTIKEUT
28:-PIEUP
17:TIKEUT-PIEUP
24:SIOS
28:-KIYEOK
24:CIEUC
25:HIEUCH
24:THIEUTH
17:RIEUL-SSANGKIYEOK
23:KIYEOK-HIEUH
17:SSANGRIEUL-KHIEUKH
17:RIEUL-MIEUM-HIEUH
23:PIEUP-TIKEUT
29:PHIEUPH
23:YESIEUNG
25:ORINHIEUH-HIEUH
17:KAPYEOUNRIEUL
17:MIEUM-NIEUN
23:SSANGNIEUN
17:SSANGMIEUM
17:MIEUM-PIEUP-SIOS
23:CIEUC
17:PIEUP-TIKEUT
23:RIEUL-PHIEUPH
23:MIEUM
17:SSANGPIEUP
17:PIEUP-SIOS-TIKEUT
23:CIEUC
24:HIEUCH
17:SIOS-MIEUM
22:KAPYEOUNPIEUP
18:SANGSIOS-KIYEOK
27:TIKEUT
18:IOS-PANSIOS
22:CIEUC
23:HIEUCH
22:THIEUTH
22:HIEUH
17:PANSIOS-PIEUP
25:KAPYEOUNPIEUP
17:YESIEUNG-MIEUM
26:HIEUH
17:CIEUC-PIEUP
23:SSANGPIEUP
17:SSANGCIEUC
17:PHIEUPH-SIOS
25:THIEUTH
@F900
0:CJK COMPATIBILITY IDEOGRAPH-F900
31:1
31:2
31:3
31:4
31:5
31:6
31:7
31:8
31:9
31:A
31:B
31:C
31:D
31:E
31:F
30:10
31:1
31:2
31:3
31:4
31:5
31:6
31:7
31:8
31:9
31:A
31:B
31:C
31:D
31:E
31:F
30:20
31:1
31:2
31:3
31:4
31:5
31:6
31:7
31:8
31:9
31:A
31:B
31:C
31:D
31:E
31:F
30:30
31:1
31:2
31:3
31:4
31:5
31:6
31:7
31:8
31:9
31:A
31:B
31:C
31:D
31:E
31:F
30:40
31:1
31:2
31:3
31:4
31:5
31:6
31:7
31:8
31:9
31:A
31:B
31:C
31:D
31:E
31:F
30:50
31:1
31:2
31:3
31:4
31:5
31:6
31:7
31:8
31:9
31:A
31:B
31:C
31:D
31:E
31:F
30:60
31:1
31:2
31:3
31:4
31:5
31:6
31:7
31:8
31:9
31:A
31:B
31:C
31:D
31:E
31:F
30:70
31:1
31:2
31:3
31:4
31:5
31:6
31:7
31:8
31:9
31:A
31:B
31:C
31:D
31:E
31:F
30:80
31:1
31:2
31:3
31:4
31:5
31:6
31:7
31:8
31:9
31:A
31:B
31:C
31:D
31:E
31:F
30:90
31:1
31:2
31:3
31:4
31:5
31:6
31:7
31:8
31:9
31:A
31:B
31:C
31:D
31:E
31:F
30:A0
31:1
31:2
31:3
31:4
31:5
31:6
31:7
31:8
31:9
31:A
31:B
31:C
31:D
31:E
31:F
30:B0
31:1
31:2
31:3
31:4
31:5
31:6
31:7
31:8
31:9
31:A
31:B
31:C
31:D
31:E
31:F
30:C0
31:1
31:2
31:3
31:4
31:5
31:6
31:7
31:8
31:9
31:A
31:B
31:C
31:D
31:E
31:F
30:D0
31:1
31:2
31:3
31:4
31:5
31:6
31:7
31:8
31:9
31:A
31:B
31:C
31:D
31:E
31:F
30:E0
31:1
31:2
31:3
31:4
31:5
31:6
31:7
31:8
31:9
31:A
31:B
31:C
31:D
31:E
31:F
30:F0
31:1
31:2
31:3
31:4
31:5
31:6
31:7
31:8
31:9
31:A
31:B
31:C
31:D
31:E
31:F
29:A00
31:1
31:2
31:3
31:4
31:5
31:6
31:7
31:8
31:9
31:A
31:B
31:C
31:D
31:E
31:F
30:10
31:1
31:2
31:3
31:4
31:5
31:6
31:7
31:8
31:9
31:A
31:B
31:C
31:D
31:E
31:F
30:20
31:1
31:2
31:3
31:4
31:5
31:6
31:7
31:8
31:9
31:A
31:B
31:C
31:D
31:E
31:F
30:30
31:1
31:2
31:3
31:4
31:5
31:6
31:7
31:8
31:9
31:A
31:B
31:C
31:D
31:E
31:F
30:40
31:1
31:2
31:3
31:4
31:5
31:6
31:7
31:8
31:9
31:A
31:B
31:C
31:D
31:E
31:F
30:50
31:1
31:2
31:3
31:4
31:5
31:6
31:7
31:8
31:9
31:A
31:B
31:C
31:D
31:E
31:F
30:60
31:1
31:2
31:3
31:4
31:5
31:6
31:7
31:8
31:9
31:A
31:B
31:C
31:D
@FA70
30:70
31:1
31:2
31:3
31:4
31:5
31:6
31:7
31:8
31:9
31:A
31:B
31:C
31:D
31:E
31:F
30:80
31:1
31:2
31:3
31:4
31:5
31:6
31:7
31:8
31:9
31:A
31:B
31:C
31:D
31:E
31:F
30:90
31:1
31:2
31:3
31:4
31:5
31:6
31:7
31:8
31:9
31:A
31:B
31:C
31:D
31:E
31:F
30:A0
31:1
31:2
31:3
31:4
31:5
31:6
31:7
31:8
31:9
31:A
31:B
31:C
31:D
31:E
31:F
30:B0
31:1
31:2
31:3
31:4
31:5
31:6
31:7
31:8
31:9
31:A
31:B
31:C
31:D
31:E
31:F
30:C0
31:1
31:2
31:3
31:4
31:5
31:6
31:7
31:8
31:9
31:A
31:B
31:C
31:D
31:E
31:F
30:D0
31:1
31:2
31:3
31:4
31:5
31:6
31:7
31:8
31:9
@FB00
0:LATIN SMALL LIGATURE FF
22:I
22:L
22:FI
23:L
21:LONG S T
21:ST
@FB13
0:ARMENIAN SMALL LIGATURE MEN NOW
28:ECH
28:INI
24:VEW NOW
24:MEN XEH
@FB1D
0:HEBREW LETTER YOD WITH HIRIQ
7:POINT JUDEO-SPANISH VARIKA
7:LIGATURE YIDDISH YOD YOD PATAH
8:ETTER ALTERNATIVE AYIN
14:WIDE ALEF
19:DALET
19:HE
19:KAF
19:LAMED
19:FINAL MEM
19:RESH
19:TAV
14:ALTERNATIVE PLUS SIGN
14:SHIN WITH SHIN DOT
25:IN DOT
24:DAGESH AND SHIN DOT
36:IN DOT
14:ALEF WITH PATAH
24:QAMATS
24:MAPIQ
14:BET WITH DAGESH
14:GIMEL WITH DAGESH
14:DALET WITH DAGESH
14:HE WITH MAPIQ
14:VAV WITH DAGESH
14:ZAYIN WITH DAGESH
@FB38
14:TET WITH DAGESH
14:YOD WITH DAGESH
14:FINAL KAF WITH DAGESH
14:KAF WITH DAGESH
14:LAMED WITH DAGESH
@FB3E
14:MEM WITH DAGESH
@FB40
14:NUN WITH DAGESH
14:SAMEKH WITH DAGESH
@FB43
14:FINAL PE WITH DAGESH
14:PE WITH DAGESH
@FB46
14:TSADI WITH DAGESH
14:QOF WITH DAGESH
14:RESH WITH DAGESH
14:SHIN WITH DAGESH
14:TAV WITH DAGESH
14:VAV WITH HOLAM
14:BET WITH RAFE
14:KAF WITH RAFE
14:PE WITH RAFE
8:IGATURE ALEF LAMED
0:ARABIC LETTER ALEF WASLA ISOLATED FORM
25:FINAL FORM
14:BEEH ISOLATED FORM
19:FINAL FORM
19:INITIAL FORM
19:MEDIAL FORM
14:PEH ISOLATED FORM
18:FINAL FORM
18:INITIAL FORM
18:MEDIAL FORM
14:BEHEH ISOLATED FORM
20:FINAL FORM
20:INITIAL FORM
20:MEDIAL FORM
14:TTEHEH ISOLATED FORM
21:FINAL FORM
21:INITIAL FORM
21:MEDIAL FORM
15:EHEH ISOLATED FORM
20:FINAL FORM
20:INITIAL FORM
20:MEDIAL FORM
15:TEH ISOLATED FORM
19:FINAL FORM
19:INITIAL FORM
19:MEDIAL FORM
14:VEH ISOLATED FORM
18:FINAL FORM
18:INITIAL FORM
18:MEDIAL FORM
14:PEHEH ISOLATED FORM
20:FINAL FORM
20:INITIAL FORM
20:MEDIAL FORM
14:DYEH ISOLATED FORM
19:FINAL FORM
19:INITIAL FORM
19:MEDIAL FORM
14:NYEH ISOLATED FORM
19:FINAL FORM
19:INITIAL FORM
19:MEDIAL FORM
14:TCHEH ISOLATED FORM
20:FINAL FORM
20:INITIAL FORM
20:MEDIAL FORM
19:EH ISOLATED FORM
22:FINAL FORM
22:INITIAL FORM
22:MEDIAL FORM
14:DDAHAL ISOLATED FORM
21:FINAL FORM
15:AHAL ISOLATED FORM
20:FINAL FORM
15:UL ISOLATED FORM
18:FINAL FORM
15:DAL ISOLATED FORM
19:FINAL FORM
14:JEH ISOLATED FORM
18:FINAL FORM
14:RREH ISOLATED FORM
19:FINAL FORM
14:KEHEH ISOLATED FORM
20:FINAL FORM
20:INITIAL FORM
20:MEDIAL FORM
14:GAF ISOLATED FORM
18:FINAL FORM
18:INITIAL FORM
18:MEDIAL FORM
15:UEH ISOLATED FORM
19:FINAL FORM
19:INITIAL FORM
19:MEDIAL FORM
14:NGOEH ISOLATED FORM
20:FINAL FORM
20:INITIAL FORM
20:MEDIAL FORM
15:OON GHUNNA ISOLATED FORM
26:FINAL FORM
14:RNOON ISOLATED FORM
20:FINAL FORM
20:INITIAL FORM
20:MEDIAL FORM
14:HEH WITH YEH ABOVE ISOLATED FORM
33:FINAL FORM
18:GOAL ISOLATED FORM
23:FINAL FORM
23:INITIAL FORM
23:MEDIAL FORM
18:DOACHASHMEE ISOLATED FORM
30:FINAL FORM
30:INITIAL FORM
30:MEDIAL FORM
14:YEH BARREE ISOLATED FORM
25:FINAL FORM
25:WITH HAMZA ABOVE ISOLATED FORM
42:FINAL FORM
7:SYMBOL DOT ABOVE
18:BELOW
14:TWO DOTS ABOVE
23:BELOW
15:HREE DOTS ABOVE
25:BELOW
25:POINTING DOWNWARDS ABOVE
44:BELOW
14:FOUR DOTS ABOVE
24:BELOW
14:DOUBLE VERTICAL BAR BELOW
14:TWO DOTS VERTICALLY ABOVE
34:BELOW
14:RING
14:SMALL TAH ABOVE
24:BELOW
14:WASLA ABOVE
@FBD3
7:LETTER NG ISOLATED FORM
17:FINAL FORM
17:INITIAL FORM
17:MEDIAL FORM
14:U ISOLATED FORM
16:FINAL FORM
14:OE ISOLATED FORM
17:FINAL FORM
14:YU ISOLATED FORM
17:FINAL FORM
14:U WITH HAMZA ABOVE ISOLATED FORM
14:VE ISOLATED FORM
17:FINAL FORM
14:KIRGHIZ OE ISOLATED FORM
25:FINAL FORM
22:YU ISOLATED FORM
25:FINAL FORM
14:E ISOLATED FORM
16:FINAL FORM
16:INITIAL FORM
16:MEDIAL FORM
14:UIGHUR KAZAKH KIRGHIZ ALEF MAKSURA INITIAL FORM
49:MEDIAL FORM
8:IGATURE YEH WITH HAMZA ABOVE WITH ALEF ISOLATED FORM
47:FINAL FORM
43:E ISOLATED FORM
45:FINAL FORM
42:WAW ISOLATED FORM
46:FINAL FORM
42:U ISOLATED FORM
44:FINAL FORM
42:OE ISOLATED FORM
45:FINAL FORM
42:YU ISOLATED FORM
45:FINAL FORM
42:E ISOLATED FORM
44:FINAL FORM
44:INITIAL FORM
16:UIGHUR KIRGHIZ YEH WITH HAMZA ABOVE WITH ALEF MAKSURA ISOLATED FORM
70:FINAL FORM
70:INITIAL FORM
8:ETTER FARSI YEH ISOLATED FORM
24:FINAL FORM
24:INITIAL FORM
24:MEDIAL FORM
8:IGATURE YEH WITH HAMZA ABOVE WITH JEEM ISOLATED FORM
42:HAH ISOLATED FORM
42:MEEM ISOLATED FORM
42:ALEF MAKSURA ISOLATED FORM
42:YEH ISOLATED FORM
16:BEH WITH JEEM ISOLATED FORM
25:HAH ISOLATED FORM
25:KHAH ISOLATED FORM
25:MEEM ISOLATED FORM
25:ALEF MAKSURA ISOLATED FORM
25:YEH ISOLATED FORM
16:TEH WITH JEEM ISOLATED FORM
25:HAH ISOLATED FORM
25:KHAH ISOLATED FORM
25:MEEM ISOLATED FORM
25:ALEF MAKSURA ISOLATED FORM
25:YEH ISOLATED FORM
17:HEH WITH JEEM ISOLATED FORM
26:MEEM ISOLATED FORM
26:ALEF MAKSURA ISOLATED FORM
26:YEH ISOLATED FORM
16:JEEM WITH HAH ISOLATED FORM
26:MEEM ISOLATED FORM
16:HAH WITH JEEM ISOLATED FORM
25:MEEM ISOLATED FORM
16:KHAH WITH JEEM ISOLATED FORM
26:HAH ISOLATED FORM
26:MEEM ISOLATED FORM
16:SEEN WITH JEEM ISOLATED FORM
26:HAH ISOLATED FORM
26:KHAH ISOLATED FORM
26:MEEM ISOLATED FORM
17:AD WITH HAH ISOLATED FORM
25:MEEM ISOLATED FORM
16:DAD WITH JEEM ISOLATED FORM
25:HAH ISOLATED FORM
25:KHAH ISOLATED FORM
25:MEEM ISOLATED FORM
16:TAH WITH HAH ISOLATED FORM
25:MEEM ISOLATED FORM
16:ZAH WITH MEEM ISOLATED FORM
16:AIN WITH JEEM ISOLATED FORM
25:MEEM ISOLATED FORM
16:GHAIN WITH JEEM ISOLATED FORM
27:MEEM ISOLATED FORM
16:FEH WITH JEEM ISOLATED FORM
25:HAH ISOLATED FORM
25:KHAH ISOLATED FORM
25:MEEM ISOLATED FORM
25:ALEF MAKSURA ISOLATED FORM
25:YEH ISOLATED FORM
16:QAF WITH HAH ISOLATED FORM
25:MEEM ISOLATED FORM
25:ALEF MAKSURA ISOLATED FORM
25:YEH ISOLATED FORM
16:KAF WITH ALEF ISOLATED FORM
25:JEEM ISOLATED FORM
25:HAH ISOLATED FORM
25:KHAH ISOLATED FORM
25:LAM ISOLATED FORM
25:MEEM ISOLATED FORM
25:ALEF MAKSURA ISOLATED FORM
25:YEH ISOLATED FORM
16:LAM WITH JEEM ISOLATED FORM
25:HAH ISOLATED FORM
25:KHAH ISOLATED FORM
25:MEEM ISOLATED FORM
25:ALEF MAKSURA ISOLATED FORM
25:YEH ISOLATED FORM
16:MEEM WITH JEEM ISOLATED FORM
26:HAH ISOLATED FORM
26:KHAH ISOLATED FORM
26:MEEM ISOLATED FORM
26:ALEF MAKSURA ISOLATED FORM
26:YEH ISOLATED FORM
16:NOON WITH JEEM ISOLATED FORM
26:HAH ISOLATED FORM
26:KHAH ISOLATED FORM
26:MEEM ISOLATED FORM
26:ALEF MAKSURA ISOLATED FORM
26:YEH ISOLATED FORM
16:HEH WITH JEEM ISOLATED FORM
25:MEEM ISOLATED FORM
25:ALEF MAKSURA ISOLATED FORM
25:YEH ISOLATED FORM
16:YEH WITH JEEM ISOLATED FORM
25:HAH ISOLATED FORM
25:KHAH ISOLATED FORM
25:MEEM ISOLATED FORM
25:ALEF MAKSURA ISOLATED FORM
25:YEH ISOLATED FORM
16:THAL WITH SUPERSCRIPT ALEF ISOLATED FORM
16:REH WITH SUPERSCRIPT ALEF ISOLATED FORM
16:ALEF MAKSURA WITH SUPERSCRIPT ALEF ISOLATED FORM
16:SHADDA WITH DAMMATAN ISOLATED FORM
28:KASRATAN ISOLATED FORM
28:FATHA ISOLATED FORM
28:DAMMA ISOLATED FORM
28:KASRA ISOLATED FORM
28:SUPERSCRIPT ALEF ISOLATED FORM
16:YEH WITH HAMZA ABOVE WITH REH FINAL FORM
42:ZAIN FINAL FORM
42:MEEM FINAL FORM
42:NOON FINAL FORM
42:ALEF MAKSURA FINAL FORM
42:YEH FINAL FORM
16:BEH WITH REH FINAL FORM
25:ZAIN FINAL FORM
25:MEEM FINAL FORM
25:NOON FINAL FORM
25:ALEF MAKSURA FINAL FORM
25:YEH FINAL FORM
16:TEH WITH REH FINAL FORM
25:ZAIN FINAL FORM
25:MEEM FINAL FORM
25:NOON FINAL FORM
25:ALEF MAKSURA FINAL FORM
25:YEH FINAL FORM
17:HEH WITH REH FINAL FORM
26:ZAIN FINAL FORM
26:MEEM FINAL FORM
26:NOON FINAL FORM
26:ALEF MAKSURA FINAL FORM
26:YEH FINAL FORM
16:FEH WITH ALEF MAKSURA FINAL FORM
25:YEH FINAL FORM
16:QAF WITH ALEF MAKSURA FINAL FORM
25:YEH FINAL FORM
16:KAF WITH ALEF FINAL FORM
25:LAM FINAL FORM
25:MEEM FINAL FORM
25:ALEF MAKSURA FINAL FORM
25:YEH FINAL FORM
16:LAM WITH MEEM FINAL FORM
25:ALEF MAKSURA FINAL FORM
25:YEH FINAL FORM
16:MEEM WITH ALEF FINAL FORM
26:MEEM FINAL FORM
16:NOON WITH REH FINAL FORM
26:ZAIN FINAL FORM
26:MEEM FINAL FORM
26:NOON FINAL FORM
26:ALEF MAKSURA FINAL FORM
26:YEH FINAL FORM
16:ALEF MAKSURA WITH SUPERSCRIPT ALEF FINAL FORM
16:YEH WITH REH FINAL FORM
25:ZAIN FINAL FORM
25:MEEM FINAL FORM
25:NOON FINAL FORM
25:ALEF MAKSURA FINAL FORM
25:YEH FINAL FORM
25:HAMZA ABOVE WITH JEEM INITIAL FORM
42:HAH INITIAL FORM
42:KHAH INITIAL FORM
42:MEEM INITIAL FORM
42:HEH INITIAL FORM
16:BEH WITH JEEM INITIAL FORM
25:HAH INITIAL FORM
25:KHAH INITIAL FORM
25:MEEM INITIAL FORM
25:HEH INITIAL FORM
16:TEH WITH JEEM INITIAL FORM
25:HAH INITIAL FORM
25:KHAH INITIAL FORM
25:MEEM INITIAL FORM
25:HEH INITIAL FORM
17:HEH WITH MEEM INITIAL FORM
16:JEEM WITH HAH INITIAL FORM
26:MEEM INITIAL FORM
16:HAH WITH JEEM INITIAL FORM
25:MEEM INITIAL FORM
16:KHAH WITH JEEM INITIAL FORM
26:MEEM INITIAL FORM
16:SEEN WITH JEEM INITIAL FORM
26:HAH INITIAL FORM
26:KHAH INITIAL FORM
26:MEEM INITIAL FORM
17:AD WITH HAH INITIAL FORM
25:KHAH INITIAL FORM
25:MEEM INITIAL FORM
16:DAD WITH JEEM INITIAL FORM
25:HAH INITIAL FORM
25:KHAH INITIAL FORM
25:MEEM INITIAL FORM
16:TAH WITH HAH INITIAL FORM
16:ZAH WITH MEEM INITIAL FORM
16:AIN WITH JEEM INITIAL FORM
25:MEEM INITIAL FORM
16:GHAIN WITH JEEM INITIAL FORM
27:MEEM INITIAL FORM
16:FEH WITH JEEM INITIAL FORM
25:HAH INITIAL FORM
25:KHAH INITIAL FORM
25:MEEM INITIAL FORM
16:QAF WITH HAH INITIAL FORM
25:MEEM INITIAL FORM
16:KAF WITH JEEM INITIAL FORM
25:HAH INITIAL FORM
25:KHAH INITIAL FORM
25:LAM INITIAL FORM
25:MEEM INITIAL FORM
16:LAM WITH JEEM INITIAL FORM
25:HAH INITIAL FORM
25:KHAH INITIAL FORM
25:MEEM INITIAL FORM
25:HEH INITIAL FORM
16:MEEM WITH JEEM INITIAL FORM
26:HAH INITIAL FORM
26:KHAH INITIAL FORM
26:MEEM INITIAL FORM
16:NOON WITH JEEM INITIAL FORM
26:HAH INITIAL FORM
26:KHAH INITIAL FORM
26:MEEM INITIAL FORM
26:HEH INITIAL FORM
16:HEH WITH JEEM INITIAL FORM
25:MEEM INITIAL FORM
25:SUPERSCRIPT ALEF INITIAL FORM
16:YEH WITH JEEM INITIAL FORM
25:HAH INITIAL FORM
25:KHAH INITIAL FORM
25:MEEM INITIAL FORM
25:HEH INITIAL FORM
26:AMZA ABOVE WITH MEEM MEDIAL FORM
42:HEH MEDIAL FORM
16:BEH WITH MEEM MEDIAL FORM
25:HEH MEDIAL FORM
16:TEH WITH MEEM MEDIAL FORM
25:HEH MEDIAL FORM
17:HEH WITH MEEM MEDIAL FORM
26:HEH MEDIAL FORM
16:SEEN WITH MEEM MEDIAL FORM
26:HEH MEDIAL FORM
17:HEEN WITH MEEM MEDIAL FORM
27:HEH MEDIAL FORM
16:KAF WITH LAM MEDIAL FORM
25:MEEM MEDIAL FORM
16:LAM WITH MEEM MEDIAL FORM
16:NOON WITH MEEM MEDIAL FORM
26:HEH MEDIAL FORM
16:YEH WITH MEEM MEDIAL FORM
25:HEH MEDIAL FORM
16:SHADDA WITH FATHA MEDIAL FORM
28:DAMMA MEDIAL FORM
28:KASRA MEDIAL FORM
16:TAH WITH ALEF MAKSURA ISOLATED FORM
25:YEH ISOLATED FORM
16:AIN WITH ALEF MAKSURA ISOLATED FORM
25:YEH ISOLATED FORM
16:GHAIN WITH ALEF MAKSURA ISOLATED FORM
27:YEH ISOLATED FORM
16:SEEN WITH ALEF MAKSURA ISOLATED FORM
26:YEH ISOLATED FORM
17:HEEN WITH ALEF MAKSURA ISOLATED FORM
27:YEH ISOLATED FORM
16:HAH WITH ALEF MAKSURA ISOLATED FORM
25:YEH ISOLATED FORM
16:JEEM WITH ALEF MAKSURA ISOLATED FORM
26:YEH ISOLATED FORM
16:KHAH WITH ALEF MAKSURA ISOLATED FORM
26:YEH ISOLATED FORM
16:SAD WITH ALEF MAKSURA ISOLATED FORM
25:YEH ISOLATED FORM
16:DAD WITH ALEF MAKSURA ISOLATED FORM
25:YEH ISOLATED FORM
16:SHEEN WITH JEEM ISOLATED FORM
27:HAH ISOLATED FORM
27:KHAH ISOLATED FORM
27:MEEM ISOLATED FORM
27:REH ISOLATED FORM
17:EEN WITH REH ISOLATED FORM
17:AD WITH REH ISOLATED FORM
16:DAD WITH REH ISOLATED FORM
16:TAH WITH ALEF MAKSURA FINAL FORM
25:YEH FINAL FORM
16:AIN WITH ALEF MAKSURA FINAL FORM
25:YEH FINAL FORM
16:GHAIN WITH ALEF MAKSURA FINAL FORM
27:YEH FINAL FORM
16:SEEN WITH ALEF MAKSURA FINAL FORM
26:YEH FINAL FORM
17:HEEN WITH ALEF MAKSURA FINAL FORM
27:YEH FINAL FORM
16:HAH WITH ALEF MAKSURA FINAL FORM
25:YEH FINAL FORM
16:JEEM WITH ALEF MAKSURA FINAL FORM
26:YEH FINAL FORM
16:KHAH WITH ALEF MAKSURA FINAL FORM
26:YEH FINAL FORM
16:SAD WITH ALEF MAKSURA FINAL FORM
25:YEH FINAL FORM
16:DAD WITH ALEF MAKSURA FINAL FORM
25:YEH FINAL FORM
16:SHEEN WITH JEEM FINAL FORM
27:HAH FINAL FORM
27:KHAH FINAL FORM
27:MEEM FINAL FORM
27:REH FINAL FORM
17:EEN WITH REH FINAL FORM
17:AD WITH REH FINAL FORM
16:DAD WITH REH FINAL FORM
16:SHEEN WITH JEEM INITIAL FORM
27:HAH INITIAL FORM
27:KHAH INITIAL FORM
27:MEEM INITIAL FORM
17:EEN WITH HEH INITIAL FORM
17:HEEN WITH HEH INITIAL FORM
16:TAH WITH MEEM INITIAL FORM
16:SEEN WITH JEEM MEDIAL FORM
26:HAH MEDIAL FORM
26:KHAH MEDIAL FORM
17:HEEN WITH JEEM MEDIAL FORM
27:HAH MEDIAL FORM
27:KHAH MEDIAL FORM
16:TAH WITH MEEM MEDIAL FORM
16:ZAH WITH MEEM MEDIAL FORM
16:ALEF WITH FATHATAN FINAL FORM
35:ISOLATED FORM
0:ORNATE LEFT PARENTHESIS
7:RIGHT PARENTHESIS
0:ARABIC LIGATURE RAHIMAHU ALLAAH
18:DI ALLAAHU ANH
32:AA
32:UM
34:AA
33:NNA
16:SALLALLAAHU ALAYHI WA-AALIH
16:ALAYHI AS-SALAAM
22:M AS-SALAAM
23:AA AS-SALAAM
22: AS-SALAATU WAS-SALAAM
16:QUDDISA SIRRAH
16:SALLALLAHU ALAYHI WAAALIHEE WA-SALLAM
16:ALAYHAA AS-SALAAM
16:TABAARAKA WA-TAAALAA
16:RAHIMAHUM ALLAAH
16:TEH WITH JEEM WITH MEEM INITIAL FORM
25:HAH WITH JEEM FINAL FORM
39:INITIAL FORM
34:MEEM INITIAL FORM
25:KHAH WITH MEEM INITIAL FORM
25:MEEM WITH JEEM INITIAL FORM
35:HAH INITIAL FORM
35:KHAH INITIAL FORM
16:JEEM WITH MEEM WITH HAH FINAL FORM
40:INITIAL FORM
16:HAH WITH MEEM WITH YEH FINAL FORM
35:ALEF MAKSURA FINAL FORM
16:SEEN WITH HAH WITH JEEM INITIAL FORM
26:JEEM WITH HAH INITIAL FORM
36:ALEF MAKSURA FINAL FORM
26:MEEM WITH HAH FINAL FORM
40:INITIAL FORM
36:JEEM INITIAL FORM
36:MEEM FINAL FORM
41:INITIAL FORM
17:AD WITH HAH WITH HAH FINAL FORM
38:INITIAL FORM
25:MEEM WITH MEEM FINAL FORM
17:HEEN WITH HAH WITH MEEM FINAL FORM
41:INITIAL FORM
27:JEEM WITH YEH FINAL FORM
27:MEEM WITH KHAH FINAL FORM
42:INITIAL FORM
37:MEEM FINAL FORM
42:INITIAL FORM
16:DAD WITH HAH WITH ALEF MAKSURA FINAL FORM
25:KHAH WITH MEEM FINAL FORM
40:INITIAL FORM
16:TAH WITH MEEM WITH HAH FINAL FORM
39:INITIAL FORM
35:MEEM INITIAL FORM
35:YEH FINAL FORM
16:AIN WITH JEEM WITH MEEM FINAL FORM
25:MEEM WITH MEEM FINAL FORM
40:INITIAL FORM
35:ALEF MAKSURA FINAL FORM
16:GHAIN WITH MEEM WITH MEEM FINAL FORM
37:YEH FINAL FORM
37:ALEF MAKSURA FINAL FORM
16:FEH WITH KHAH WITH MEEM FINAL FORM
40:INITIAL FORM
16:QAF WITH MEEM WITH HAH FINAL FORM
35:MEEM FINAL FORM
16:LAM WITH HAH WITH MEEM FINAL FORM
34:YEH FINAL FORM
34:ALEF MAKSURA FINAL FORM
25:JEEM WITH JEEM INITIAL FORM
40:FINAL FORM
25:KHAH WITH MEEM FINAL FORM
40:INITIAL FORM
25:MEEM WITH HAH FINAL FORM
39:INITIAL FORM
16:MEEM WITH HAH WITH JEEM INITIAL FORM
35:MEEM INITIAL FORM
35:YEH FINAL FORM
26:JEEM WITH HAH INITIAL FORM
36:MEEM INITIAL FORM
26:KHAH WITH JEEM INITIAL FORM
36:MEEM INITIAL FORM
@FD92
26:JEEM WITH KHAH INITIAL FORM
16:HEH WITH MEEM WITH JEEM INITIAL FORM
35:MEEM INITIAL FORM
16:NOON WITH HAH WITH MEEM INITIAL FORM
35:ALEF MAKSURA FINAL FORM
26:JEEM WITH MEEM FINAL FORM
41:INITIAL FORM
36:ALEF MAKSURA FINAL FORM
26:MEEM WITH YEH FINAL FORM
36:ALEF MAKSURA FINAL FORM
16:YEH WITH MEEM WITH MEEM FINAL FORM
40:INITIAL FORM
16:BEH WITH KHAH WITH YEH FINAL FORM
16:TEH WITH JEEM WITH YEH FINAL FORM
35:ALEF MAKSURA FINAL FORM
25:KHAH WITH YEH FINAL FORM
35:ALEF MAKSURA FINAL FORM
25:MEEM WITH YEH FINAL FORM
35:ALEF MAKSURA FINAL FORM
16:JEEM WITH MEEM WITH YEH FINAL FORM
26:HAH WITH ALEF MAKSURA FINAL FORM
26:MEEM WITH ALEF MAKSURA FINAL FORM
16:SEEN WITH KHAH WITH ALEF MAKSURA FINAL FORM
17:AD WITH HAH WITH YEH FINAL FORM
17:HEEN WITH HAH WITH YEH FINAL FORM
16:DAD WITH HAH WITH YEH FINAL FORM
16:LAM WITH JEEM WITH YEH FINAL FORM
25:MEEM WITH YEH FINAL FORM
16:YEH WITH HAH WITH YEH FINAL FORM
25:JEEM WITH YEH FINAL FORM
25:MEEM WITH YEH FINAL FORM
16:MEEM WITH MEEM WITH YEH FINAL FORM
16:QAF WITH MEEM WITH YEH FINAL FORM
16:NOON WITH HAH WITH YEH FINAL FORM
16:QAF WITH MEEM WITH HAH INITIAL FORM
16:LAM WITH HAH WITH MEEM INITIAL FORM
16:AIN WITH MEEM WITH YEH FINAL FORM
16:KAF WITH MEEM WITH YEH FINAL FORM
16:NOON WITH JEEM WITH HAH INITIAL FORM
16:MEEM WITH KHAH WITH YEH FINAL FORM
16:LAM WITH JEEM WITH MEEM INITIAL FORM
16:KAF WITH MEEM WITH MEEM FINAL FORM
16:LAM WITH JEEM WITH MEEM FINAL FORM
16:NOON WITH JEEM WITH HAH FINAL FORM
16:JEEM WITH HAH WITH YEH FINAL FORM
16:HAH WITH JEEM WITH YEH FINAL FORM
16:MEEM WITH JEEM WITH YEH FINAL FORM
16:FEH WITH MEEM WITH YEH FINAL FORM
16:BEH WITH HAH WITH YEH FINAL FORM
16:KAF WITH MEEM WITH MEEM INITIAL FORM
16:AIN WITH JEEM WITH MEEM INITIAL FORM
16:SAD WITH MEEM WITH MEEM INITIAL FORM
17:EEN WITH KHAH WITH YEH FINAL FORM
16:NOON WITH JEEM WITH YEH FINAL FORM
@FDCF
16:SALAAMUHU ALAYNAA
@FDF0
19:LA USED AS KORANIC STOP SIGN ISOLATED FORM
16:QALA USED AS KORANIC STOP SIGN ISOLATED FORM
16:ALLAH ISOLATED FORM
17:KBAR ISOLATED FORM
16:MOHAMMAD ISOLATED FORM
16:SALAM ISOLATED FORM
16:RASOUL ISOLATED FORM
16:ALAYHE ISOLATED FORM
16:WASALLAM ISOLATED FORM
16:SALLA ISOLATED FORM
21:LLAHOU ALAYHE WASALLAM
16:JALLAJALALOUHOU
0:RIAL SIGN
0:ARABIC LIGATURE BISMILLAH AR-RAHMAN AR-RAHEEM
16:SUBHAANAHU WA TAAALAA
16:AZZA WA JALL
0:VARIATION SELECTOR-1
19:2
19:3
19:4
19:5
19:6
19:7
19:8
19:9
19:10
20:1
20:2
20:3
20:4
20:5
20:6
0:PRESENTATION FORM FOR VERTICAL COMMA
31:IDEOGRAPHIC COMMA
43:FULL STOP
31:COLON
31:SEMICOLON
31:EXCLAMATION MARK
31:QUESTION MARK
31:LEFT WHITE LENTICULAR BRACKET
31:RIGHT WHITE LENTICULAR BRAKCET
31:HORIZONTAL ELLIPSIS
@FE20
0:COMBINING LIGATURE LEFT HALF
19:RIGHT HALF
10:DOUBLE TILDE LEFT HALF
23:RIGHT HALF
10:MACRON LEFT HALF
17:RIGHT HALF
10:CONJOINING MACRON
10:LIGATURE LEFT HALF BELOW
19:RIGHT HALF BELOW
10:TILDE LEFT HALF BELOW
16:RIGHT HALF BELOW
10:MACRON LEFT HALF BELOW
17:RIGHT HALF BELOW
10:CONJOINING MACRON BELOW
11:YRILLIC TITLO LEFT HALF
25:RIGHT HALF
0:PRESENTATION FORM FOR VERTICAL TWO DOT LEADER
31:EM DASH
32:N DASH
31:LOW LINE
31:WAVY LOW LINE
31:LEFT PARENTHESIS
31:RIGHT PARENTHESIS
31:LEFT CURLY BRACKET
31:RIGHT CURLY BRACKET
31:LEFT TORTOISE SHELL BRACKET
31:RIGHT TORTOISE SHELL BRACKET
31:LEFT BLACK LENTICULAR BRACKET
31:RIGHT BLACK LENTICULAR BRACKET
31:LEFT DOUBLE ANGLE BRACKET
31:RIGHT DOUBLE ANGLE BRACKET
31:LEFT ANGLE BRACKET
31:RIGHT ANGLE BRACKET
31:LEFT CORNER BRACKET
31:RIGHT CORNER BRACKET
31:LEFT WHITE CORNER BRACKET
31:RIGHT WHITE CORNER BRACKET
0:SESAME DOT
0:WHITE SESAME DOT
0:PRESENTATION FORM FOR VERTICAL LEFT SQUARE BRACKET
31:RIGHT SQUARE BRACKET
0:DASHED OVERLINE
0:CENTRELINE OVERLINE
0:WAVY OVERLINE
0:DOUBLE WAVY OVERLINE
1:ASHED LOW LINE
0:CENTRELINE LOW LINE
0:WAVY LOW LINE
0:SMALL COMMA
6:IDEOGRAPHIC COMMA
6:FULL STOP
@FE54
6:SEMICOLON
6:COLON
6:QUESTION MARK
6:EXCLAMATION MARK
7:M DASH
6:LEFT PARENTHESIS
6:RIGHT PARENTHESIS
6:LEFT CURLY BRACKET
6:RIGHT CURLY BRACKET
6:LEFT TORTOISE SHELL BRACKET
6:RIGHT TORTOISE SHELL BRACKET
6:NUMBER SIGN
6:AMPERSAND
7:STERISK
6:PLUS SIGN
6:HYPHEN-MINUS
6:LESS-THAN SIGN
6:GREATER-THAN SIGN
6:EQUALS SIGN
@FE68
6:REVERSE SOLIDUS
6:DOLLAR SIGN
6:PERCENT SIGN
6:COMMERCIAL AT
@FE70
0:ARABIC FATHATAN ISOLATED FORM
7:TATWEEL WITH FATHATAN ABOVE
7:DAMMATAN ISOLATED FORM
7:TAIL FRAGMENT
7:KASRATAN ISOLATED FORM
@FE76
7:FATHA ISOLATED FORM
13:MEDIAL FORM
7:DAMMA ISOLATED FORM
13:MEDIAL FORM
7:KASRA ISOLATED FORM
13:MEDIAL FORM
7:SHADDA ISOLATED FORM
14:MEDIAL FORM
8:UKUN ISOLATED FORM
13:MEDIAL FORM
7:LETTER HAMZA ISOLATED FORM
14:ALEF WITH MADDA ABOVE ISOLATED FORM
36:FINAL FORM
24:HAMZA ABOVE ISOLATED FORM
36:FINAL FORM
14:WAW WITH HAMZA ABOVE ISOLATED FORM
35:FINAL FORM
14:ALEF WITH HAMZA BELOW ISOLATED FORM
36:FINAL FORM
14:YEH WITH HAMZA ABOVE ISOLATED FORM
35:FINAL FORM
35:INITIAL FORM
35:MEDIAL FORM
14:ALEF ISOLATED FORM
19:FINAL FORM
14:BEH ISOLATED FORM
18:FINAL FORM
18:INITIAL FORM
18:MEDIAL FORM
14:TEH MARBUTA ISOLATED FORM
26:FINAL FORM
18:ISOLATED FORM
18:FINAL FORM
18:INITIAL FORM
18:MEDIAL FORM
15:HEH ISOLATED FORM
19:FINAL FORM
19:INITIAL FORM
19:MEDIAL FORM
14:JEEM ISOLATED FORM
19:FINAL FORM
19:INITIAL FORM
19:MEDIAL FORM
14:HAH ISOLATED FORM
18:FINAL FORM
18:INITIAL FORM
18:MEDIAL FORM
14:KHAH ISOLATED FORM
19:FINAL FORM
19:INITIAL FORM
19:MEDIAL FORM
14:DAL ISOLATED FORM
18:FINAL FORM
14:THAL ISOLATED FORM
19:FINAL FORM
14:REH ISOLATED FORM
18:FINAL FORM
14:ZAIN ISOLATED FORM
19:FINAL FORM
14:SEEN ISOLATED FORM
19:FINAL FORM
19:INITIAL FORM
19:MEDIAL FORM
15:HEEN ISOLATED FORM
20:FINAL FORM
20:INITIAL FORM
20:MEDIAL FORM
15:AD ISOLATED FORM
18:FINAL FORM
18:INITIAL FORM
18:MEDIAL FORM
14:DAD ISOLATED FORM
18:FINAL FORM
18:INITIAL FORM
18:MEDIAL FORM
14:TAH ISOLATED FORM
18:FINAL FORM
18:INITIAL FORM
18:MEDIAL FORM
14:ZAH ISOLATED FORM
18:FINAL FORM
18:INITIAL FORM
18:MEDIAL FORM
14:AIN ISOLATED FORM
18:FINAL FORM
18:INITIAL FORM
18:MEDIAL FORM
14:GHAIN ISOLATED FORM
20:FINAL FORM
20:INITIAL FORM
20:MEDIAL FORM
14:FEH ISOLATED FORM
18:FINAL FORM
18:INITIAL FORM
18:MEDIAL FORM
14:QAF ISOLATED FORM
18:FINAL FORM
18:INITIAL FORM
18:MEDIAL FORM
14:KAF ISOLATED FORM
18:FINAL FORM
18:INITIAL FORM
18:MEDIAL FORM
14:LAM ISOLATED FORM
18:FINAL FORM
18:INITIAL FORM
18:MEDIAL FORM
14:MEEM ISOLATED FORM
19:FINAL FORM
19:INITIAL FORM
19:MEDIAL FORM
14:NOON ISOLATED FORM
19:FINAL FORM
19:INITIAL FORM
19:MEDIAL FORM
14:HEH ISOLATED FORM
18:FINAL FORM
18:INITIAL FORM
18:MEDIAL FORM
14:WAW ISOLATED FORM
18:FINAL FORM
14:ALEF MAKSURA ISOLATED FORM
27:FINAL FORM
14:YEH ISOLATED FORM
18:FINAL FORM
18:INITIAL FORM
18:MEDIAL FORM
8:IGATURE LAM WITH ALEF WITH MADDA ABOVE ISOLATED FORM
47:FINAL FORM
35:HAMZA ABOVE ISOLATED FORM
47:FINAL FORM
41:BELOW ISOLATED FORM
47:FINAL FORM
30:ISOLATED FORM
30:FINAL FORM
@FEFF
0:ZERO WIDTH NO-BREAK SPACE
@FF01
0:FULLWIDTH EXCLAMATION MARK
10:QUOTATION MARK
10:NUMBER SIGN
10:DOLLAR SIGN
10:PERCENT SIGN
10:AMPERSAND
11:POSTROPHE
10:LEFT PARENTHESIS
10:RIGHT PARENTHESIS
10:ASTERISK
10:PLUS SIGN
10:COMMA
10:HYPHEN-MINUS
10:FULL STOP
10:SOLIDUS
10:DIGIT ZERO
16:ONE
16:TWO
17:HREE
16:FOUR
17:IVE
16:SIX
17:EVEN
16:EIGHT
16:NINE
10:COLON
10:SEMICOLON
10:LESS-THAN SIGN
10:EQUALS SIGN
10:GREATER-THAN SIGN
10:QUESTION MARK
10:COMMERCIAL AT
10:LATIN CAPITAL LETTER A
31:B
31:C
31:D
31:E
31:F
31:G
31:H
31:I
31:J
31:K
31:L
31:M
31:N
31:O
31:P
31:Q
31:R
31:S
31:T
31:U
31:V
31:W
31:X
31:Y
31:Z
11:EFT SQUARE BRACKET
10:REVERSE SOLIDUS
11:IGHT SQUARE BRACKET
10:CIRCUMFLEX ACCENT
10:LOW LINE
10:GRAVE ACCENT
10:LATIN SMALL LETTER A
29:B
29:C
29:D
29:E
29:F
29:G
29:H
29:I
29:J
29:K
29:L
29:M
29:N
29:O
29:P
29:Q
29:R
29:S
29:T
29:U
29:V
29:W
29:X
29:Y
29:Z
11:EFT CURLY BRACKET
10:VERTICAL LINE
10:RIGHT CURLY BRACKET
10:TILDE
10:LEFT WHITE PARENTHESIS
10:RIGHT WHITE PARENTHESIS
0:HALFWIDTH IDEOGRAPHIC FULL STOP
10:LEFT CORNER BRACKET
10:RIGHT CORNER BRACKET
10:IDEOGRAPHIC COMMA
10:KATAKANA MIDDLE DOT
19:LETTER WO
26:SMALL A
32:I
32:U
32:E
32:O
32:YA
33:U
33:O
32:TU
18:-HIRAGANA PROLONGED SOUND MARK
18: LETTER A
26:I
26:U
26:E
26:O
26:KA
27:I
27:U
27:E
27:O
26:SA
27:I
27:U
27:E
27:O
26:TA
27:I
27:U
27:E
27:O
26:NA
27:I
27:U
27:E
27:O
26:HA
27:I
27:U
27:E
27:O
26:MA
27:I
27:U
27:E
27:O
26:YA
27:U
27:O
26:RA
27:I
27:U
27:E
27:O
26:WA
26:N
19:VOICED SOUND MARK
19:SEMI-VOICED SOUND MARK
10:HANGUL FILLER
17:LETTER KIYEOK
24:SSANGKIYEOK
24:KIYEOK-SIOS
24:NIEUN
29:-CIEUC
30:HIEUH
24:TIKEUT
24:SSANGTIKEUT
24:RIEUL
29:-KIYEOK
30:MIEUM
30:PIEUP
30:SIOS
30:THIEUTH
30:PHIEUPH
30:HIEUH
24:MIEUM
24:PIEUP
24:SSANGPIEUP
24:PIEUP-SIOS
24:SIOS
25:SANGSIOS
24:IEUNG
24:CIEUC
24:SSANGCIEUC
24:CHIEUCH
24:KHIEUKH
24:THIEUTH
24:PHIEUPH
24:HIEUH
@FFC2
24:A
25:E
24:YA
26:E
24:EO
25:
@FFCA
24:YEO
26:
24:O
24:WA
26:E
24:OE
@FFD2
24:YO
24:U
24:WEO
26:
25:I
24:YU
@FFDA
24:EU
24:YI
24:I
@FFE0
0:FULLWIDTH CENT SIGN
10:POUND SIGN
10:NOT SIGN
10:MACRON
10:BROKEN BAR
10:YEN SIGN
10:WON SIGN
@FFE8
0:HALFWIDTH FORMS LIGHT VERTICAL
10:LEFTWARDS ARROW
10:UPWARDS ARROW
10:RIGHTWARDS ARROW
10:DOWNWARDS ARROW
10:BLACK SQUARE
10:WHITE CIRCLE
@FFF9
0:INTERLINEAR ANNOTATION ANCHOR
23:SEPARATOR
23:TERMINATOR
0:OBJECT REPLACEMENT CHARACTER
0:REPLACEMENT CHARACTER
@10000
0:LINEAR B SYLLABLE B008 A
20:38 E
20:28 I
20:61 O
20:10 U
20:01 DA
20:45 DE
20:07 DI
20:14 DO
20:51 DU
21:7 JA
20:46 JE
@1000D
20:36 JO
20:65 JU
20:77 KA
20:44 KE
20:67 KI
20:70 KO
20:81 KU
21:0 MA
20:13 ME
20:73 MI
20:15 MO
20:23 MU
20:06 NA
20:24 NE
20:30 NI
20:52 NO
21:5 NU
20:03 PA
20:72 PE
20:39 PI
20:11 PO
20:50 PU
20:16 QA
20:78 QE
20:21 QI
20:32 QO
@10028
20:60 RA
20:27 RE
20:53 RI
20:02 RO
20:26 RU
20:31 SA
20:09 SE
20:41 SI
20:12 SO
20:58 SU
21:9 TA
20:04 TE
20:37 TI
20:05 TO
20:69 TU
20:54 WA
20:75 WE
20:40 WI
21:2 WO
@1003C
20:17 ZA
20:74 ZE
@1003F
20:20 ZO
21:5 A2
20:43 A3
20:85 AU
20:71 DWE
20:90 DWO
20:48 NWA
20:29 PU2
20:62 PTE
20:76 RA2
20:33 RA3
20:68 RO2
21:6 TA2
20:87 TWE
20:91 TWO
@10050
11:MBOL B018
19:9
18:22
18:34
18:47
19:9
18:56
18:63
19:4
18:79
18:82
19:3
19:6
19:9
@10080
9:IDEOGRAM B100 MAN
21:2 WOMAN
21:4 DEER
21:5 EQUID
22:F MARE
22:M STALLION
21:6F EWE
22:M RAM
21:7F SHE-GOAT
22:M HE-GOAT
21:8F SOW
22:M BOAR
21:9F COW
22:M BULL
20:20 WHEAT
21:1 BARLEY
21:2 OLIVE
21:3 SPICE
21:5 CYPERUS
9:MONOGRAM B127 KAPO
21:8 KANAKO
9:IDEOGRAM B130 OIL
21:1 WINE
21:2
9:MONOGRAM B133 AREPA
21:5 MERI
9:IDEOGRAM B140 BRONZE
21:1 GOLD
21:2
21:5 WOOL
21:6
20:50
21:1 HORN
21:2
21:3
21:4
9:MONOGRAM B156 TURO2
9:IDEOGRAM B157
21:8
21:9 CLOTH
20:60
21:1
21:2 GARMENT
21:3 ARMOUR
21:4
21:5
21:6
21:7
21:8
21:9
20:70
21:1
21:2
21:3 MONTH
21:4
21:6 TREE
21:7
21:8
21:9
20:80
21:1
21:2
21:3
21:4
21:5
21:9
20:90
21:1 HELMET
19:220 FOOTSTOOL
21:5 BATHTUB
20:30 SPEAR
21:1 ARROW
21:2
21:3 SWORD
21:4
21:6
20:40 WHEELED CHARIOT
21:1 CHARIOT
21:2 CHARIOT FRAME
21:3 WHEEL
21:5
21:6
9:MONOGRAM B247 DIPTE
9:IDEOGRAM B248
21:9
20:51
21:2
21:3
21:4 DART
21:5
21:6
21:7
21:8
21:9
18:VESSEL B155
26:200
28:1
28:2
28:3
28:4
28:5
28:6
28:7
28:8
28:9
27:10
28:1
28:2
28:3
28:4
28:5
28:6
28:7
28:8
28:9
27:21
28:2
28:6
28:7
28:8
28:9
27:50
26:305
@10100
0:AEGEAN WORD SEPARATOR LINE
22:DOT
7:CHECK MARK
@10107
7:NUMBER ONE
14:TWO
15:HREE
14:FOUR
15:IVE
14:SIX
15:EVEN
14:EIGHT
14:NINE
14:TEN
15:WENTY
15:HIRTY
14:FORTY
15:IFTY
14:SIXTY
15:EVENTY
14:EIGHTY
14:NINETY
14:ONE HUNDRED
14:TWO HUNDRED
15:HREE HUNDRED
14:FOUR HUNDRED
15:IVE HUNDRED
14:SIX HUNDRED
15:EVEN HUNDRED
14:EIGHT HUNDRED
14:NINE HUNDRED
14:ONE THOUSAND
14:TWO THOUSAND
15:HREE THOUSAND
14:FOUR THOUSAND
15:IVE THOUSAND
14:SIX THOUSAND
15:EVEN THOUSAND
14:EIGHT THOUSAND
14:NINE THOUSAND
14:TEN THOUSAND
15:WENTY THOUSAND
15:HIRTY THOUSAND
14:FORTY THOUSAND
15:IFTY THOUSAND
14:SIXTY THOUSAND
15:EVENTY THOUSAND
14:EIGHTY THOUSAND
14:NINETY THOUSAND
@10137
7:WEIGHT BASE UNIT
14:FIRST SUBUNIT
14:SECOND SUBUNIT
14:THIRD SUBUNIT
14:FOURTH SUBUNIT
7:DRY MEASURE FIRST SUBUNIT
7:LIQUID MEASURE FIRST SUBUNIT
7:MEASURE SECOND SUBUNIT
15:THIRD SUBUNIT
0:GREEK ACROPHONIC ATTIC ONE QUARTER
27:HALF
27:DRACHMA
23:FIVE
25:FTY
25:VE HUNDRED
28:THOUSAND
25:FTY THOUSAND
25:VE TALENTS
23:TEN TALENTS
23:FIFTY TALENTS
23:ONE HUNDRED TALENTS
23:FIVE HUNDRED TALENTS
23:ONE THOUSAND TALENTS
23:FIVE THOUSAND TALENTS
28:STATERS
23:TEN STATERS
23:FIFTY STATERS
23:ONE HUNDRED STATERS
23:FIVE HUNDRED STATERS
23:ONE THOUSAND STATERS
23:TEN THOUSAND STATERS
23:FIFTY THOUSAND STATERS
23:TEN MNAS
17:HERAEUM ONE PLETHRON
17:THESPIAN ONE
17:HERMIONIAN ONE
17:EPIDAUREAN TWO
17:THESPIAN TWO
17:CYRENAIC TWO DRACHMAS
17:EPIDAUREAN TWO DRACHMAS
17:TROEZENIAN FIVE
28:TEN
31: ALTERNATE FORM
17:HERMIONIAN TEN
17:MESSENIAN TEN
17:THESPIAN TEN
27:HIRTY
18:ROEZENIAN FIFTY
33: ALTERNATE FORM
17:HERMIONIAN FIFTY
17:THESPIAN FIFTY
26:ONE HUNDRED
26:THREE HUNDRED
17:EPIDAUREAN FIVE HUNDRED
17:TROEZENIAN FIVE HUNDRED
18:HESPIAN FIVE HUNDRED
17:CARYSTIAN FIVE HUNDRED
17:NAXIAN FIVE HUNDRED
17:THESPIAN ONE THOUSAND
26:FIVE THOUSAND
17:DELPHIC FIVE MNAS
17:STRATIAN FIFTY MNAS
6:ONE HALF SIGN
19: ALTERNATE FORM
6:TWO THIRDS SIGN
7:HREE QUARTERS SIGN
6:YEAR SIGN
6:TALENT SIGN
6:DRACHMA SIGN
6:OBOL SIGN
6:TWO OBOLS SIGN
7:HREE OBOLS SIGN
6:FOUR OBOLS SIGN
7:IVE OBOLS SIGN
6:METRETES SIGN
6:KYATHOS BASE SIGN
6:LITRA SIGN
6:OUNKIA SIGN
6:XESTES SIGN
6:ARTABE SIGN
8:OURA SIGN
6:GRAMMA SIGN
6:TRYBLION BASE SIGN
6:ZERO SIGN
6:ONE QUARTER SIGN
6:SINUSOID SIGN
6:INDICTION SIGN
0:NOMISMA SIGN
@10190
0:ROMAN SEXTANS SIGN
6:UNCIA SIGN
6:SEMUNCIA SIGN
8:XTULA SIGN
6:DIMIDIA SEXTULA SIGN
6:SILIQUA SIGN
6:DENARIUS SIGN
6:QUINARIUS SIGN
6:SESTERTIUS SIGN
6:DUPONDIUS SIGN
6:AS SIGN
6:CENTURIAL SIGN
0:ASCIA SYMBOL
@101A0
0:GREEK SYMBOL TAU RHO
@101D0
0:PHAISTOS DISC SIGN PEDESTRIAN
20:LUMED HEAD
19:TATTOOED HEAD
19:CAPTIVE
20:HILD
19:WOMAN
19:HELMET
19:GAUNTLET
19:TIARA
19:ARROW
19:BOW
19:SHIELD
19:CLUB
19:MANACLES
21:TTOCK
19:SAW
19:LID
19:BOOMERANG
19:CARPENTRY PLANE
19:DOLIUM
19:COMB
19:SLING
19:COLUMN
19:BEEHIVE
19:SHIP
19:HORN
20:IDE
19:BULLS LEG
19:CAT
19:RAM
19:EAGLE
19:DOVE
19:TUNNY
19:BEE
19:PLANE TREE
19:VINE
19:PAPYRUS
19:ROSETTE
19:LILY
19:OX BACK
19:FLUTE
19:GRATER
19:STRAINER
20:MALL AXE
19:WAVY BAND
19:COMBINING OBLIQUE STROKE
@10280
0:LYCIAN LETTER A
14:E
14:B
15:H
14:G
14:D
14:I
14:W
14:Z
14:TH
14:J
14:K
14:Q
14:L
14:M
14:N
14:MM
14:NN
14:U
14:P
14:KK
14:R
14:S
14:T
15:T
14:AN
14:EN
14:H
14:X
@102A0
0:CARIAN LETTER A
14:P2
14:D
14:L
14:UUU
14:R
14:LD
14:A2
14:Q
14:B
14:M
14:O
14:D2
14:T
14:SH
16:2
15:
14:C-18
14:U
14:NN
14:X
14:N
14:TT2
14:P
14:SS
14:I
14:E
14:UUUU
14:K
15:2
14:ND
14:UU
14:G
15:2
14:ST
16:2
14:NG
14:II
14:C-39
14:TT
14:UUU2
14:RR
14:MB
16:2
16:3
16:4
14:LD2
14:E2
14:UUU3
@102E0
1:OPTIC EPACT THOUSANDS MARK
13:DIGIT ONE
19:TWO
20:HREE
19:FOUR
20:IVE
19:SIX
20:EVEN
19:EIGHT
19:NINE
13:NUMBER TEN
21:WENTY
21:HIRTY
20:FORTY
21:IFTY
20:SIXTY
21:EVENTY
20:EIGHTY
20:NINETY
20:ONE HUNDRED
20:TWO HUNDRED
21:HREE HUNDRED
20:FOUR HUNDRED
21:IVE HUNDRED
20:SIX HUNDRED
21:EVEN HUNDRED
20:EIGHT HUNDRED
20:NINE HUNDRED
@10300
0:OLD ITALIC LETTER A
18:BE
18:KE
18:DE
18:E
18:VE
18:ZE
18:HE
18:THE
18:I
18:KA
18:EL
19:M
19:N
19:SH
18:O
18:PE
18:SHE
18:KU
18:ER
19:S
18:TE
18:U
18:EKS
18:PHE
18:KHE
18:EF
19:RS
18:CHE
18:II
18:UU
18:ESS
11:NUMERAL ONE
19:FIVE
19:TEN
19:FIFTY
@1032D
11:LETTER YE
18:NORTHERN TSE
18:SOUTHERN TSE
0:GOTHIC LETTER AHSA
14:BAIRKAN
14:GIBA
14:DAGS
14:AIHVUS
14:QAIRTHRA
14:IUJA
14:HAGL
14:THIUTH
14:EIS
14:KUSMA
14:LAGUS
14:MANNA
14:NAUTHS
14:JER
14:URUS
14:PAIRTHRA
14:NINETY
14:RAIDA
14:SAUIL
14:TEIWS
14:WINJA
14:FAIHU
14:IGGWS
14:HWAIR
14:OTHAL
14:NINE HUNDRED
@10350
0:OLD PERMIC LETTER AN
18:BUR
18:GAI
18:DOI
18:E
18:ZHOI
18:DZHOI
18:ZATA
18:DZITA
18:I
18:KOKE
18:LEI
18:MENOE
18:NENOE
18:VOOI
18:PEEI
18:REI
18:SII
18:TAI
18:U
18:CHERY
18:SHOOI
20:CHOOI
18:YRY
19:ERU
18:O
19:O
18:EF
18:HA
18:TSIU
18:VER
18:YER
21:I
19:AT
18:IE
18:YU
19:A
18:IA
0:COMBINING OLD PERMIC LETTER AN
28:DOI
28:ZATA
28:NENOE
28:SII
@10380
0:UGARITIC LETTER ALPA
16:BETA
16:GAMLA
16:KHA
16:DELTA
16:HO
16:WO
16:ZETA
16:HOTA
16:TET
16:YOD
16:KAF
16:SHIN
16:LAMDA
16:MEM
16:DHAL
16:NUN
16:ZU
16:SAMKA
16:AIN
16:PU
16:SADE
16:QOPA
16:RASHA
16:THANNA
16:GHAIN
16:TO
16:I
16:U
16:SSU
@1039F
9:WORD DIVIDER
0:OLD PERSIAN SIGN A
17:I
17:U
17:KA
18:U
17:GA
18:U
17:XA
17:CA
17:JA
18:I
17:TA
18:U
17:DA
18:I
18:U
17:THA
17:PA
17:BA
17:FA
17:NA
18:U
17:MA
18:I
18:U
17:YA
17:VA
18:I
17:RA
18:U
17:LA
17:SA
17:ZA
17:SHA
18:SA
17:HA
@103C8
17:AURAMAZDAA
27:-2
27:HA
17:XSHAAYATHIYA
17:DAHYAAUSH
26:-2
17:BAGA
18:UUMISH
12:WORD DIVIDER
12:NUMBER ONE
19:TWO
20:EN
20:WENTY
19:HUNDRED
@10400
0:DESERET CAPITAL LETTER LONG I
28:E
28:A
29:H
28:O
29:O
23:SHORT I
29:E
29:A
30:H
29:O
30:O
23:AY
23:OW
23:WU
23:YEE
23:H
23:PEE
23:BEE
23:TEE
23:DEE
23:CHEE
23:JEE
23:KAY
23:GAY
23:EF
23:VEE
23:ETH
23:THEE
23:ES
23:ZEE
23:ESH
23:ZHEE
23:ER
24:L
24:M
24:N
25:G
23:OI
23:EW
8:SMALL LETTER LONG I
26:E
26:A
27:H
26:O
27:O
21:SHORT I
27:E
27:A
28:H
27:O
28:O
21:AY
21:OW
21:WU
21:YEE
21:H
21:PEE
21:BEE
21:TEE
21:DEE
21:CHEE
21:JEE
21:KAY
21:GAY
21:EF
21:VEE
21:ETH
21:THEE
21:ES
21:ZEE
21:ESH
21:ZHEE
21:ER
22:L
22:M
22:N
23:G
21:OI
21:EW
0:SHAVIAN LETTER PEEP
15:TOT
15:KICK
15:FEE
15:THIGH
15:SO
16:URE
15:CHURCH
15:YEA
15:HUNG
15:BIB
15:DEAD
15:GAG
15:VOW
15:THEY
15:ZOO
15:MEASURE
15:JUDGE
15:WOE
15:HA-HA
15:LOLL
15:MIME
15:IF
15:EGG
15:ASH
16:DO
15:ON
15:WOOL
15:OUT
15:AH
15:ROAR
15:NUN
15:EAT
15:AGE
15:ICE
15:UP
15:OAK
16:OZE
16:IL
15:AWE
16:RE
15:OR
15:AIR
15:ERR
15:ARRAY
15:EAR
15:IAN
15:YEW
0:OSMANYA LETTER ALEF
15:BA
15:TA
15:JA
15:XA
15:KHA
15:DEEL
15:RA
15:SA
16:HIIN
15:DHA
15:CAYN
15:GA
15:FA
15:QAAF
15:KAAF
15:LAAN
15:MIIN
15:NUUN
15:WAW
15:HA
15:YA
15:A
15:E
15:I
15:O
15:U
15:AA
15:EE
15:OO
@104A0
8:DIGIT ZERO
14:ONE
14:TWO
15:HREE
14:FOUR
15:IVE
14:SIX
15:EVEN
14:EIGHT
14:NINE
@104B0
2:AGE CAPITAL LETTER A
22:I
23:N
22:H
21:BRA
21:CHA
21:EHCHA
22:
22:IN
21:HA
22:YA
21:I
21:KA
21:EHKA
21:KYA
21:LA
21:MA
21:NA
21:O
22:IN
21:PA
21:EHPA
21:SA
22:HA
21:TA
21:EHTA
21:TSA
21:EHTSA
21:TSHA
21:DHA
21:U
21:WA
21:KHA
21:GHA
21:ZA
22:HA
@104D8
6:SMALL LETTER A
20:I
21:N
20:H
19:BRA
19:CHA
19:EHCHA
20:
20:IN
19:HA
20:YA
19:I
19:KA
19:EHKA
19:KYA
19:LA
19:MA
19:NA
19:O
20:IN
19:PA
19:EHPA
19:SA
20:HA
19:TA
19:EHTA
19:TSA
19:EHTSA
19:TSHA
19:DHA
19:U
19:WA
19:KHA
19:GHA
19:ZA
20:HA
@10500
0:ELBASAN LETTER A
15:BE
15:CE
16:HE
15:DE
15:NDE
15:DHE
15:EI
16:
15:FE
15:GE
16:JE
15:HE
15:I
15:JE
15:KE
15:LE
16:LE
15:ME
15:NE
16:A
16:JE
15:O
15:PE
15:QE
15:RE
16:RE
15:SE
16:HE
15:TE
16:HE
15:U
15:VE
15:XE
15:Y
15:ZE
16:HE
15:GHE
17:AMMA
15:KHE
@10530
0:CAUCASIAN ALBANIAN LETTER ALT
26:BET
26:GIM
26:DAT
26:EB
26:ZARL
26:EYN
26:ZHIL
26:TAS
26:CHA
26:YOWD
26:ZHA
26:IRB
26:SHA
26:LAN
26:INYA
26:XEYN
26:DYAN
26:CAR
26:JHOX
26:KAR
26:LYIT
26:HEYT
26:QAY
26:AOR
26:CHOY
28:I
27:YAY
26:MAQ
26:QAR
26:NOWC
26:DZYAY
26:SHAK
26:JAYN
26:ON
26:TYAY
26:FAM
26:DZAY
26:CHAT
26:PEN
26:GHEYS
26:RAT
26:SEYK
26:VEYZ
26:TIWR
26:SHOY
26:IWN
26:CYAW
27:AYN
26:YAYD
26:PIWR
26:KIW
@1056F
19:CITATION MARK
0:VITHKUQI CAPITAL LETTER A
24:BBE
25:E
24:CE
25:HE
24:DE
25:HE
24:EI
25:
24:FE
24:GA
@1057C
24:HA
25:HA
24:I
25:JE
24:JE
24:KA
24:LA
25:LA
24:ME
24:NE
25:JE
24:O
24:PE
24:QA
24:RE
@1058C
24:SE
25:HE
24:TE
25:HE
24:U
24:VE
24:XE
@10594
24:Y
24:ZE
@10597
9:SMALL LETTER A
22:BBE
23:E
22:CE
23:HE
22:DE
23:HE
22:EI
23:
22:FE
22:GA
@105A3
22:HA
23:HA
22:I
23:JE
22:JE
22:KA
22:LA
23:LA
22:ME
22:NE
23:JE
22:O
22:PE
22:QA
22:RE
@105B3
22:SE
23:HE
22:TE
23:HE
22:U
22:VE
22:XE
@105BB
22:Y
22:ZE
@10600
0:LINEAR A SIGN AB001
18:2
18:3
18:4
18:5
18:6
18:7
18:8
18:9
17:10
18:1
18:3
18:6
18:7
17:20
18:1
19:F
19:M
18:2
19:F
19:M
18:3
19:M
18:4
18:6
18:7
18:8
15:028B
15:B029
17:30
18:1
18:4
18:7
18:8
18:9
17:40
18:1
18:4
18:5
18:6
18:7
18:8
18:9
17:50
18:1
18:3
18:4
18:5
18:6
18:7
18:8
18:9
17:60
18:1
18:5
18:6
18:7
18:9
17:70
18:3
18:4
18:6
18:7
18:8
18:9
17:80
18:1
18:2
18:5
18:6
18:7
15:100-102
15:B118
17:20
15:120B
15:B122
18:3
17:31A
19:B
15:131C
15:B164
17:71
17:80
18:8
17:91
15:301
17:2
17:3
17:4
17:5
17:6
17:7
17:8
17:9A
18:B
18:C
16:10
17:1
17:2
17:3A
18:B
18:C
17:4
17:5
17:6
17:7
17:8
17:9
16:20
17:1
17:2
17:3
17:4
17:5
17:6
17:7
17:8
17:9
16:30
17:1
17:2
17:3
17:4
17:5
17:6
17:7
17:8
17:9
16:40
17:1
17:2
17:3
17:4
17:5
17:6
17:7
17:8
17:9
16:50
17:1
17:2
17:3
17:4
17:5
17:6
17:7
17:8
17:9
16:60
17:1
17:2
17:3
17:4
17:5
17:6
17:7
17:8
17:9
16:70
17:1
15:400-VAS
17:1-VAS
17:2-VAS
17:3-VAS
17:4-VAS
17:5-VAS
17:6-VAS
17:7-VAS
17:8-VAS
17:9-VAS
16:10-VAS
17:1-VAS
17:2-VAS
17:3-VAS
17:4-VAS
17:5-VAS
17:6-VAS
17:7-VAS
17:8-VAS
15:501
17:2
17:3
17:4
17:5
17:6
17:8
17:9
16:10
17:1
17:2
17:3
17:5
17:6
16:20
17:1
17:3
17:4
17:5
17:6
17:7
17:8
17:9
16:30
17:1
17:2
17:4
17:5
17:6
17:7
17:8
17:9
16:40
17:1
17:2
17:5
17:7
17:8
17:9
16:50
17:1
17:2
17:3
17:4
17:5
17:6
17:7
17:9
16:63
17:4
17:5
17:6
17:8
17:9
16:70
17:1
17:2
17:3
17:4
17:5
17:6
17:7
17:8
17:9
16:80
17:1
17:2
17:3
17:4
17:5
17:6
17:7
17:8
17:9
16:91
17:2
17:4
17:5
17:6
17:8
15:600
17:1
17:2
17:3
17:4
17:6
17:8
17:9
16:10
17:1
17:2
17:3
17:4
17:5
17:6
17:7
17:8
17:9
16:20
17:1
17:2
17:3
17:4
17:6
17:7
17:8
17:9
16:34
17:7
17:8
16:40
17:2
17:3
17:4
17:5
17:6
17:8
17:9
16:51
17:2
17:3
17:4
17:5
17:6
17:7
17:8
17:9
16:60
17:1
17:2
17:3
17:4
@10740
15:701 A
17:2 B
17:3 D
17:4 E
17:5 F
17:6 H
17:7 J
17:8 K
17:9 L
18:-2 L2
19:3 L3
19:4 L4
19:6 L6
16:10 W
17:1 X
17:2 Y
17:3 OMEGA
17:4 ABB
17:5 BB
17:7 DD
16:26 EYYY
16:32 JE
@10760
15:800
17:1
17:2
17:3
17:4
17:5
17:6
17:7
@10780
0:MODIFIER LETTER SMALL CAPITAL AA
17:UPERSCRIPT TRIANGULAR COLON
28:HALF TRIANGULAR COLON
17:MALL AE
22:CAPITAL B
22:B WITH HOOK
@10787
22:DZ DIGRAPH
32: WITH RETROFLEX HOOK
38:CURL
23:EZH DIGRAPH
23: WITH TAIL
29:HOOK
33: AND TAIL
22:REVERSED E
22:CLOSED REVERSED OPEN E
22:FENG DIGRAPH
22:RAMS HORN
22:CAPITAL G
22:G WITH HOOK
22:CAPITAL G WITH HOOK
22:H WITH STROKE
22:CAPITAL H
22:HENG WITH HOOK
22:DOTLESS J WITH STROKE AND HOOK
22:LS DIGRAPH
23:Z DIGRAPH
23: WITH BELT
22:CAPITAL L WITH BELT
22:L WITH RETROFLEX HOOK AND BELT
23:EZH
26: WITH RETROFLEX HOOK
22:TURNED Y
30: WITH BELT
22:O WITH STROKE
22:CAPITAL OE
23:LOSED OMEGA
22:Q
22:TURNED R WITH LONG LEG
44: AND RETROFLEX HOOK
22:R WITH TAIL
29:FISHHOOK
22:CAPITAL R
22:TC DIGRAPH WITH CURL
23:S DIGRAPH
32: WITH RETROFLEX HOOK
23:ESH DIGRAPH
23: WITH RETROFLEX HOOK
22:V WITH RIGHT HOOK
@107B2
22:CAPITAL Y
16:GLOTTAL STOP WITH STROKE
16:REVERSED GLOTTAL STOP WITH STROKE
16:BILABIAL CLICK
16:DENTAL CLICK
16:LATERAL CLICK
16:ALVEOLAR CLICK
16:RETROFLEX CLICK WITH RETROFLEX HOOK
16:SMALL S WITH CURL
@10800
0:CYPRIOT SYLLABLE A
17:E
17:I
17:O
17:U
17:JA
@10808
18:O
@1080A
17:KA
18:E
18:I
18:O
18:U
17:LA
18:E
18:I
18:O
18:U
17:MA
18:E
18:I
18:O
18:U
17:NA
18:E
18:I
18:O
18:U
17:PA
18:E
18:I
18:O
18:U
17:RA
18:E
18:I
18:O
18:U
17:SA
18:E
18:I
18:O
18:U
17:TA
18:E
18:I
18:O
18:U
17:WA
18:E
18:I
18:O
@10837
17:XA
18:E
@1083C
17:ZA
@1083F
18:O
0:IMPERIAL ARAMAIC LETTER ALEPH
24:BETH
24:GIMEL
24:DALETH
24:HE
24:WAW
24:ZAYIN
24:HETH
24:TETH
24:YODH
24:KAPH
24:LAMEDH
24:MEM
24:NUN
24:SAMEKH
24:AYIN
24:PE
24:SADHE
24:QOPH
24:RESH
24:SHIN
24:TAW
@10857
17:SECTION SIGN
17:NUMBER ONE
24:TWO
25:HREE
25:EN
25:WENTY
24:ONE HUNDRED
28:THOUSAND
24:TEN THOUSAND
0:PALMYRENE LETTER ALEPH
17:BETH
17:GIMEL
17:DALETH
17:HE
17:WAW
17:ZAYIN
17:HETH
17:TETH
17:YODH
17:KAPH
17:LAMEDH
17:MEM
17:FINAL NUN
17:NUN
17:SAMEKH
17:AYIN
17:PE
17:SADHE
17:QOPH
17:RESH
17:SHIN
17:TAW
12:FT-POINTING FLEURON
10:RIGHT-POINTING FLEURON
10:NUMBER ONE
17:TWO
18:HREE
17:FOUR
18:IVE
17:TEN
18:WENTY
0:NABATAEAN LETTER FINAL ALEPH
17:ALEPH
17:FINAL BETH
17:BETH
17:GIMEL
17:DALETH
17:FINAL HE
17:HE
17:WAW
17:ZAYIN
17:HETH
17:TETH
17:FINAL YODH
17:YODH
17:FINAL KAPH
17:KAPH
17:FINAL LAMEDH
17:LAMEDH
17:FINAL MEM
17:MEM
17:FINAL NUN
17:NUN
17:SAMEKH
17:AYIN
17:PE
17:SADHE
17:QOPH
17:RESH
17:FINAL SHIN
17:SHIN
17:TAW
@108A7
10:NUMBER ONE
17:TWO
18:HREE
17:FOUR
10:CRUCIFORM NUMBER FOUR
10:NUMBER FIVE
17:TEN
18:WENTY
17:ONE HUNDRED
@108E0
0:HATRAN LETTER ALEPH
14:BETH
14:GIMEL
14:DALETH-RESH
14:HE
14:WAW
14:ZAYN
14:HETH
14:TETH
14:YODH
14:KAPH
14:LAMEDH
14:MEM
14:NUN
14:SAMEKH
14:AYN
14:PE
14:SADHE
14:QOPH
@108F4
14:SHIN
14:TAW
@108FB
7:NUMBER ONE
14:FIVE
14:TEN
15:WENTY
14:ONE HUNDRED
0:PHOENICIAN LETTER ALF
18:BET
18:GAML
18:DELT
18:HE
18:WAU
18:ZAI
18:HET
18:TET
18:YOD
18:KAF
18:LAMD
18:MEM
18:NUN
18:SEMK
18:AIN
18:PE
18:SADE
18:QOF
18:ROSH
18:SHIN
18:TAU
11:NUMBER ONE
18:TEN
19:WENTY
18:ONE HUNDRED
18:TWO
19:HREE
@1091F
11:WORD SEPARATOR
0:LYDIAN LETTER A
14:B
14:G
14:D
14:E
14:V
14:I
14:Y
14:K
14:L
14:M
14:N
14:O
14:R
14:SS
14:T
14:U
14:F
14:Q
14:S
14:TT
14:AN
14:EN
14:LY
14:NN
14:C
@1093F
7:TRIANGULAR MARK
@10980
0:MEROITIC HIEROGLYPHIC LETTER A
29:E
29:I
29:O
29:YA
29:WA
29:BA
31:-2
29:PA
29:MA
29:NA
31:-2
30:E
31:-2
29:RA
31:-2
29:LA
29:KHA
29:HHA
29:SA
31:-2
30:E
29:KA
29:QA
29:TA
31:-2
30:E
31:-2
30:O
29:DA
22:SYMBOL VIDJ
33:-2
9:CURSIVE LETTER A
24:E
24:I
24:O
24:YA
24:WA
24:BA
24:PA
24:MA
24:NA
25:E
24:RA
24:LA
24:KHA
24:HHA
24:SA
24:ARCHAIC SA
24:SE
24:KA
24:QA
24:TA
25:E
25:O
24:DA
@109BC
17:FRACTION ELEVEN TWELFTHS
26:ONE HALF
17:LOGOGRAM RMT
26:IMN
17:NUMBER ONE
24:TWO
25:HREE
24:FOUR
25:IVE
24:SIX
25:EVEN
24:EIGHT
24:NINE
24:TEN
25:WENTY
25:HIRTY
24:FORTY
25:IFTY
24:SIXTY
25:EVENTY
@109D2
24:ONE HUNDRED
24:TWO HUNDRED
25:HREE HUNDRED
24:FOUR HUNDRED
25:IVE HUNDRED
24:SIX HUNDRED
25:EVEN HUNDRED
24:EIGHT HUNDRED
24:NINE HUNDRED
24:ONE THOUSAND
24:TWO THOUSAND
25:HREE THOUSAND
24:FOUR THOUSAND
25:IVE THOUSAND
24:SIX THOUSAND
25:EVEN THOUSAND
24:EIGHT THOUSAND
24:NINE THOUSAND
24:TEN THOUSAND
25:WENTY THOUSAND
25:HIRTY THOUSAND
24:FORTY THOUSAND
25:IFTY THOUSAND
24:SIXTY THOUSAND
25:EVENTY THOUSAND
24:EIGHTY THOUSAND
24:NINETY THOUSAND
24:ONE HUNDRED THOUSAND
24:TWO HUNDRED THOUSAND
25:HREE HUNDRED THOUSAND
24:FOUR HUNDRED THOUSAND
25:IVE HUNDRED THOUSAND
24:SIX HUNDRED THOUSAND
25:EVEN HUNDRED THOUSAND
24:EIGHT HUNDRED THOUSAND
24:NINE HUNDRED THOUSAND
17:FRACTION ONE TWELFTH
26:TWO TWELFTHS
27:HREE TWELFTHS
26:FOUR TWELFTHS
27:IVE TWELFTHS
26:SIX TWELFTHS
27:EVEN TWELFTHS
26:EIGHT TWELFTHS
26:NINE TWELFTHS
26:TEN TWELFTHS
0:KHAROSHTHI LETTER A
11:VOWEL SIGN I
22:U
22:VOCALIC R
@10A05
22:E
22:O
@10A0C
17:LENGTH MARK
11:SIGN DOUBLE RING BELOW
16:ANUSVARA
16:VISARGA
11:LETTER KA
19:HA
18:GA
19:HA
@10A15
18:CA
19:HA
18:JA
@10A19
18:NYA
18:TTA
20:HA
18:DDA
20:HA
18:NNA
18:TA
19:HA
18:DA
19:HA
18:NA
18:PA
19:HA
18:BA
19:HA
18:MA
18:YA
18:RA
18:LA
18:VA
18:SHA
19:SA
19:A
18:ZA
18:HA
18:KKA
18:TTTHA
21:A
18:VHA
@10A38
11:SIGN BAR ABOVE
16:CAUDA
16:DOT BELOW
@10A3F
11:VIRAMA
11:DIGIT ONE
17:TWO
18:HREE
17:FOUR
11:NUMBER TEN
19:WENTY
18:ONE HUNDRED
22:THOUSAND
11:FRACTION ONE HALF
@10A50
11:PUNCTUATION DOT
23:SMALL CIRCLE
23:CIRCLE
24:RESCENT BAR
23:MANGALAM
23:LOTUS
23:DANDA
24:OUBLE DANDA
23:LINES
@10A60
0:OLD SOUTH ARABIAN LETTER HE
25:LAMEDH
25:HETH
25:MEM
25:QOPH
25:WAW
25:SHIN
25:RESH
25:BETH
25:TAW
25:SAT
25:KAPH
25:NUN
25:KHETH
25:SADHE
27:MEKH
25:FE
25:ALEF
26:YN
25:DHADHE
25:GIMEL
25:DALETH
25:GHAYN
25:TETH
25:ZAYN
25:DHALETH
25:YODH
25:THAW
27:ETH
18:NUMBER ONE
25:FIFTY
21:ERIC INDICATOR
4:NORTH ARABIAN LETTER HEH
25:LAM
25:HAH
25:MEEM
25:QAF
25:WAW
25:ES-2
25:REH
25:BEH
25:TEH
25:ES-1
25:KAF
25:NOON
25:KHAH
25:SAD
25:ES-3
25:FEH
25:ALEF
26:IN
25:DAD
25:GEEM
25:DAL
25:GHAIN
25:TAH
25:ZAIN
25:THAL
25:YEH
25:THEH
25:ZAH
18:NUMBER ONE
25:TEN
26:WENTY
@10AC0
0:MANICHAEAN LETTER ALEPH
18:BETH
19:HETH
18:GIMEL
19:HIMEL
18:DALETH
18:HE
18:WAW
11:SIGN UD
11:LETTER ZAYIN
19:HAYIN
18:JAYIN
19:HAYIN
18:HETH
18:TETH
18:YODH
18:KAPH
18:XAPH
18:KHAPH
18:LAMEDH
18:DHAMEDH
18:THAMEDH
18:MEM
18:NUN
18:SAMEKH
18:AYIN
19:AYIN
18:PE
18:FE
18:SADHE
18:QOPH
18:XOPH
18:QHOPH
18:RESH
18:SHIN
19:SHIN
18:TAW
11:ABBREVIATION MARK ABOVE
29:BELOW
@10AEB
11:NUMBER ONE
18:FIVE
18:TEN
19:WENTY
18:ONE HUNDRED
11:PUNCTUATION STAR
23:FLEURON
23:DOUBLE DOT WITHIN DOT
25:T WITHIN DOT
26:
23:TWO DOTS
23:LINE FILLER
@10B00
0:AVESTAN LETTER A
16:A
16:O
16:AO
16:N
16:AN
16:E
17:E
15:E
16:E
15:O
16:O
15:I
16:I
15:U
16:U
15:KE
15:XE
16:YE
16:VE
15:GE
16:GE
16:HE
15:CE
15:JE
15:TE
16:HE
15:DE
16:HE
15:TTE
15:PE
15:FE
15:BE
16:HE
15:NGE
17:YE
17:VE
16:E
16:YE
16:NE
15:ME
15:HME
15:YYE
16:E
15:VE
15:RE
15:LE
15:SE
15:ZE
15:SHE
15:ZHE
15:SHYE
16:SHE
15:HE
@10B39
8:ABBREVIATION MARK
0:TINY TWO DOTS OVER ONE DOT PUNCTUATION
0:SMALL TWO DOTS OVER ONE DOT PUNCTUATION
0:LARGE TWO DOTS OVER ONE DOT PUNCTUATION
6:ONE DOT OVER TWO DOTS PUNCTUATION
6:TWO RINGS OVER ONE RING PUNCTUATION
6:ONE RING OVER TWO RINGS PUNCTUATION
0:INSCRIPTIONAL PARTHIAN LETTER ALEPH
30:BETH
30:GIMEL
30:DALETH
30:HE
30:WAW
30:ZAYIN
30:HETH
30:TETH
30:YODH
30:KAPH
30:LAMEDH
30:MEM
30:NUN
30:SAMEKH
30:AYIN
30:PE
30:SADHE
30:QOPH
30:RESH
30:SHIN
30:TAW
@10B58
23:NUMBER ONE
30:TWO
31:HREE
30:FOUR
30:TEN
31:WENTY
30:ONE HUNDRED
34:THOUSAND
16:HLAVI LETTER ALEPH
29:BETH
29:GIMEL
29:DALETH
29:HE
29:WAW-AYIN-RESH
29:ZAYIN
29:HETH
29:TETH
29:YODH
29:KAPH
29:LAMEDH
29:MEM-QOPH
29:NUN
29:SAMEKH
29:PE
29:SADHE
30:HIN
29:TAW
@10B78
22:NUMBER ONE
29:TWO
30:HREE
29:FOUR
29:TEN
30:WENTY
29:ONE HUNDRED
33:THOUSAND
0:PSALTER PAHLAVI LETTER ALEPH
23:BETH
23:GIMEL
23:DALETH
23:HE
23:WAW-AYIN-RESH
23:ZAYIN
23:HETH
23:YODH
23:KAPH
23:LAMEDH
23:MEM-QOPH
23:NUN
23:SAMEKH
23:PE
23:SADHE
24:HIN
23:TAW
@10B99
16:SECTION MARK
16:TURNED SECTION MARK
16:FOUR DOTS WITH CROSS
31:DOT
@10BA9
16:NUMBER ONE
23:TWO
24:HREE
23:FOUR
23:TEN
24:WENTY
23:ONE HUNDRED
@10C00
0:OLD TURKIC LETTER ORKHON A
18:YENISEI A
27:E
18:ORKHON I
18:YENISEI I
26:E
18:ORKHON O
26:E
18:YENISEI OE
18:ORKHON AB
18:YENISEI AB
18:ORKHON AEB
18:YENISEI AEB
18:ORKHON AG
18:YENISEI AG
18:ORKHON AEG
18:YENISEI AEG
18:ORKHON AD
18:YENISEI AD
18:ORKHON AED
25:EZ
18:YENISEI EZ
18:ORKHON AY
18:YENISEI AY
18:ORKHON AEY
18:YENISEI AEY
18:ORKHON AEK
18:YENISEI AEK
18:ORKHON OEK
18:YENISEI OEK
18:ORKHON AL
18:YENISEI AL
18:ORKHON AEL
25:ELT
26:M
25:AN
26:EN
18:YENISEI AEN
18:ORKHON ENT
18:YENISEI ENT
18:ORKHON ENC
18:YENISEI ENC
18:ORKHON ENY
18:YENISEI ENY
26:ANG
18:ORKHON ENG
18:YENISEI AENG
18:ORKHON EP
25:OP
25:IC
25:EC
18:YENISEI EC
18:ORKHON AQ
18:YENISEI AQ
18:ORKHON IQ
18:YENISEI IQ
18:ORKHON OQ
18:YENISEI OQ
18:ORKHON AR
18:YENISEI AR
18:ORKHON AER
26:S
26:ES
26:SH
18:YENISEI ASH
18:ORKHON ESH
18:YENISEI ESH
18:ORKHON AT
18:YENISEI AT
18:ORKHON AET
18:YENISEI AET
18:ORKHON OT
25:BASH
@10C80
4:HUNGARIAN CAPITAL LETTER A
30:A
29:EB
29:AMB
29:EC
30:NC
30:CS
30:D
29:AND
29:E
29:CLOSE E
29:EE
30:F
30:G
31:Y
30:H
29:I
30:I
29:EJ
30:K
29:AK
29:UNK
29:EL
31:Y
30:M
30:N
31:Y
29:O
30:O
29:NIKOLSBURG OE
29:RUDIMENTA OE
29:OEE
29:EP
30:MP
30:R
29:SHORT ER
29:ES
31:Z
30:T
30:NT
30:TY
30:CH
29:U
30:U
29:NIKOLSBURG UE
29:RUDIMENTA UE
29:EV
30:Z
31:S
30:NT-SHAPED SIGN
29:US
@10CC0
14:SMALL LETTER A
28:A
27:EB
27:AMB
27:EC
28:NC
28:CS
28:D
27:AND
27:E
27:CLOSE E
27:EE
28:F
28:G
29:Y
28:H
27:I
28:I
27:EJ
28:K
27:AK
27:UNK
27:EL
29:Y
28:M
28:N
29:Y
27:O
28:O
27:NIKOLSBURG OE
27:RUDIMENTA OE
27:OEE
27:EP
28:MP
28:R
27:SHORT ER
27:ES
29:Z
28:T
28:NT
28:TY
28:CH
27:U
28:U
27:NIKOLSBURG UE
27:RUDIMENTA UE
27:EV
28:Z
29:S
28:NT-SHAPED SIGN
27:US
@10CFA
14:NUMBER ONE
21:FIVE
21:TEN
21:FIFTY
21:ONE HUNDRED
25:THOUSAND
0:HANIFI ROHINGYA LETTER A
23:BA
23:PA
23:TA
24:TA
23:JA
23:CA
23:HA
23:KHA
23:FA
23:DA
24:DA
23:RA
24:RA
23:ZA
23:SA
24:HA
23:KA
23:GA
23:LA
23:MA
23:NA
23:WA
23:KINNA WA
23:YA
23:KINNA YA
23:NGA
24:YA
23:VA
16:VOWEL A
22:I
22:U
22:E
22:O
16:MARK SAKIN
21:NA KHONNA
16:SIGN HARBAHAY
21:TAHALA
23:NA
23:SSI
@10D30
16:DIGIT ZERO
22:ONE
22:TWO
23:HREE
22:FOUR
23:IVE
22:SIX
23:EVEN
22:EIGHT
22:NINE
@10E60
0:RUMI DIGIT ONE
11:TWO
12:HREE
11:FOUR
12:IVE
11:SIX
12:EVEN
11:EIGHT
11:NINE
5:NUMBER TEN
13:WENTY
13:HIRTY
12:FORTY
13:IFTY
12:SIXTY
13:EVENTY
12:EIGHTY
12:NINETY
12:ONE HUNDRED
12:TWO HUNDRED
13:HREE HUNDRED
12:FOUR HUNDRED
13:IVE HUNDRED
12:SIX HUNDRED
13:EVEN HUNDRED
12:EIGHT HUNDRED
12:NINE HUNDRED
5:FRACTION ONE HALF
18:QUARTER
18:THIRD
14:TWO THIRDS
@10E80
0:YEZIDI LETTER ELIF
14:BE
14:PE
15:HE
14:THE
14:SE
14:CIM
15:HIM
16:HIM
14:HHA
14:XA
14:DAL
14:ZAL
14:RA
15:HA
14:ZA
14:JA
14:SIN
15:HIN
15:AD
14:DAD
14:TA
14:ZE
14:EYN
14:XHEYN
14:FA
14:VA
16: ALTERNATE FORM
14:QAF
14:KAF
15:HAF
14:GAF
14:LAM
14:MIM
14:NUN
14:UM
14:WAW
14:OW
14:EW
14:HAY
14:YOT
14:ET
@10EAB
7:COMBINING HAMZA MARK
17:MADDA MARK
7:HYPHENATION MARK
@10EB0
7:LETTER LAM WITH DOT ABOVE
14:YOT WITH CIRCUMFLEX ABOVE
@10F00
0:OLD SOGDIAN LETTER ALEPH
19:FINAL ALEPH
19:BETH
19:FINAL BETH
19:GIMEL
19:HE
19:FINAL HE
19:WAW
19:ZAYIN
19:HETH
19:YODH
19:KAPH
19:LAMEDH
19:MEM
19:NUN
19:FINAL NUN
28: WITH VERTICAL TAIL
19:SAMEKH
19:AYIN
20:LTERNATE AYIN
19:PE
19:SADHE
19:FINAL SADHE
30: WITH VERTICAL TAIL
19:RESH-AYIN-DALETH
19:SHIN
19:TAW
19:FINAL TAW
28: WITH VERTICAL TAIL
12:NUMBER ONE
19:TWO
20:HREE
19:FOUR
20:IVE
19:TEN
20:WENTY
20:HIRTY
19:ONE HUNDRED
12:FRACTION ONE HALF
12:LIGATURE AYIN-DALETH
@10F30
0:SOGDIAN LETTER ALEPH
15:BETH
15:GIMEL
15:HE
15:WAW
15:ZAYIN
15:HETH
15:YODH
15:KAPH
15:LAMEDH
15:MEM
15:NUN
15:SAMEKH
15:AYIN
15:PE
15:SADHE
15:RESH-AYIN
15:SHIN
15:TAW
15:FETH
15:LESH
8:INDEPENDENT SHIN
8:COMBINING DOT BELOW
18:TWO DOTS BELOW
18:DOT ABOVE
18:TWO DOTS ABOVE
18:CURVE ABOVE
24:BELOW
18:HOOK ABOVE
23:BELOW
18:LONG HOOK BELOW
18:RESH BELOW
18:STROKE BELOW
8:NUMBER ONE
15:TEN
16:WENTY
15:ONE HUNDRED
8:PUNCTUATION TWO VERTICAL BARS
37: WITH DOTS
20:CIRCLE WITH DOT
20:TWO CIRCLES WITH DOTS
20:HALF CIRCLE WITH DOT
@10F70
0:OLD UYGHUR LETTER ALEPH
18:BETH
18:GIMEL-HETH
18:WAW
18:ZAYIN
18:FINAL HETH
18:YODH
18:KAPH
18:LAMEDH
18:MEM
18:NUN
18:SAMEKH
18:PE
18:SADHE
18:RESH
18:SHIN
18:TAW
18:LESH
11:COMBINING DOT ABOVE
25:BELOW
21:TWO DOTS ABOVE
30:BELOW
11:PUNCTUATION BAR
23:TWO BARS
27:DOTS
23:FOUR DOTS
@10FB0
0:CHORASMIAN LETTER ALEPH
18:SMALL ALEPH
18:BETH
18:GIMEL
18:DALETH
18:HE
18:WAW
18:CURLED WAW
18:ZAYIN
18:HETH
18:YODH
18:KAPH
18:LAMEDH
18:MEM
18:NUN
18:SAMEKH
18:AYIN
18:PE
18:RESH
18:SHIN
18:TAW
11:NUMBER ONE
18:TWO
19:HREE
18:FOUR
18:TEN
19:WENTY
18:ONE HUNDRED
@10FE0
0:ELYMAIC LETTER ALEPH
15:BETH
15:GIMEL
15:DALETH
15:HE
15:WAW
15:ZAYIN
15:HETH
15:TETH
15:YODH
15:KAPH
15:LAMEDH
15:MEM
15:NUN
15:SAMEKH
15:AYIN
15:PE
15:SADHE
15:QOPH
15:RESH
15:SHIN
15:TAW
9:IGATURE ZAYIN-YODH
@11000
0:BRAHMI SIGN CANDRABINDU
12:ANUSVARA
12:VISARGA
12:JIHVAMULIYA
12:UPADHMANIYA
7:LETTER A
15:A
14:I
15:I
14:U
15:U
14:VOCALIC R
23:R
22:L
23:L
14:E
14:AI
14:O
14:AU
14:KA
15:HA
14:GA
15:HA
14:NGA
14:CA
15:HA
14:JA
15:HA
14:NYA
14:TTA
16:HA
14:DDA
16:HA
14:NNA
14:TA
15:HA
14:DA
15:HA
14:NA
14:PA
15:HA
14:BA
15:HA
14:MA
14:YA
14:RA
14:LA
14:VA
14:SHA
15:SA
15:A
14:HA
14:LLA
14:OLD TAMIL LLLA
24:RRA
24:NNNA
7:VOWEL SIGN AA
18:BHATTIPROLU AA
18:I
19:I
18:U
19:U
18:VOCALIC R
27:R
26:L
27:L
18:E
18:AI
18:O
18:AU
8:IRAMA
7:DANDA
8:OUBLE DANDA
7:PUNCTUATION DOT
21:UBLE DOT
19:LINE
19:CRESCENT BAR
19:LOTUS
@11052
7:NUMBER ONE
14:TWO
15:HREE
14:FOUR
15:IVE
14:SIX
15:EVEN
14:EIGHT
14:NINE
14:TEN
15:WENTY
15:HIRTY
14:FORTY
15:IFTY
14:SIXTY
15:EVENTY
14:EIGHTY
14:NINETY
14:ONE HUNDRED
18:THOUSAND
7:DIGIT ZERO
13:ONE
13:TWO
14:HREE
13:FOUR
14:IVE
13:SIX
14:EVEN
13:EIGHT
13:NINE
7:SIGN OLD TAMIL VIRAMA
7:LETTER OLD TAMIL SHORT E
30:O
7:VOWEL SIGN OLD TAMIL SHORT E
34:O
7:LETTER OLD TAMIL LLA
@1107F
7:NUMBER JOINER
0:KAITHI SIGN CANDRABINDU
12:ANUSVARA
12:VISARGA
7:LETTER A
15:A
14:I
15:I
14:U
15:U
14:E
14:AI
14:O
14:AU
14:KA
15:HA
14:GA
15:HA
14:NGA
14:CA
15:HA
14:JA
15:HA
14:NYA
14:TTA
16:HA
14:DDA
16:DHA
16:HA
14:RHA
14:NNA
14:TA
15:HA
14:DA
15:HA
14:NA
14:PA
15:HA
14:BA
15:HA
14:MA
14:YA
14:RA
14:LA
14:VA
14:SHA
15:SA
15:A
14:HA
7:VOWEL SIGN AA
18:I
19:I
18:U
19:U
18:E
18:AI
18:O
18:AU
7:SIGN VIRAMA
12:NUKTA
7:ABBREVIATION SIGN
7:ENUMERATION SIGN
7:NUMBER SIGN
7:SECTION MARK
7:DOUBLE SECTION MARK
8:ANDA
8:OUBLE DANDA
7:VOWEL SIGN VOCALIC R
@110CD
7:NUMBER SIGN ABOVE
@110D0
0:SORA SOMPENG LETTER SAH
20:TAH
20:BAH
20:CAH
20:DAH
20:GAH
20:MAH
20:NGAH
20:LAH
20:NAH
20:VAH
20:PAH
20:YAH
20:RAH
20:HAH
20:KAH
20:JAH
20:NYAH
20:AH
20:EEH
20:IH
20:UH
20:OH
20:EH
20:MAE
@110F0
13:DIGIT ZERO
19:ONE
19:TWO
20:HREE
19:FOUR
20:IVE
19:SIX
20:EVEN
19:EIGHT
19:NINE
@11100
0:CHAKMA SIGN CANDRABINDU
12:ANUSVARA
12:VISARGA
7:LETTER AA
14:I
14:U
14:E
14:KAA
15:HAA
14:GAA
15:HAA
14:NGAA
14:CAA
15:HAA
14:JAA
15:HAA
14:NYAA
14:TTAA
16:HAA
14:DDAA
16:HAA
14:NNAA
14:TAA
15:HAA
14:DAA
15:HAA
14:NAA
14:PAA
15:HAA
14:BAA
15:HAA
14:MAA
14:YYAA
15:AA
14:RAA
14:LAA
14:WAA
14:SAA
14:HAA
7:VOWEL SIGN A
18:I
19:I
18:U
19:U
18:E
18:AI
18:O
18:AU
18:OI
7:O MARK
7:AU MARK
7:VIRAMA
7:MAAYYAA
@11136
7:DIGIT ZERO
13:ONE
13:TWO
14:HREE
13:FOUR
14:IVE
13:SIX
14:EVEN
13:EIGHT
13:NINE
7:SECTION MARK
7:DANDA
8:OUBLE DANDA
7:QUESTION MARK
7:LETTER LHAA
7:VOWEL SIGN AA
18:EI
7:LETTER VAA
@11150
0:MAHAJANI LETTER A
16:I
16:U
16:E
16:O
16:KA
17:HA
16:GA
17:HA
16:CA
17:HA
16:JA
17:HA
16:NYA
16:TTA
18:HA
16:DDA
18:HA
16:NNA
16:TA
17:HA
16:DA
17:HA
16:NA
16:PA
17:HA
16:BA
17:HA
16:MA
16:RA
16:LA
16:VA
16:SA
16:HA
16:RRA
9:SIGN NUKTA
9:ABBREVIATION SIGN
9:SECTION MARK
9:LIGATURE SHRI
@11180
0:SHARADA SIGN CANDRABINDU
13:ANUSVARA
13:VISARGA
8:LETTER A
16:A
15:I
16:I
15:U
16:U
15:VOCALIC R
24:R
23:L
24:L
15:E
15:AI
15:O
15:AU
15:KA
16:HA
15:GA
16:HA
15:NGA
15:CA
16:HA
15:JA
16:HA
15:NYA
15:TTA
17:HA
15:DDA
17:HA
15:NNA
15:TA
16:HA
15:DA
16:HA
15:NA
15:PA
16:HA
15:BA
16:HA
15:MA
15:YA
15:RA
15:LA
16:LA
15:VA
15:SHA
16:SA
16:A
15:HA
8:VOWEL SIGN AA
19:I
20:I
19:U
20:U
19:VOCALIC R
28:R
27:L
28:L
19:E
19:AI
19:O
19:AU
8:SIGN VIRAMA
13:AVAGRAHA
13:JIHVAMULIYA
13:UPADHMANIYA
8:OM
8:DANDA
9:OUBLE DANDA
8:ABBREVIATION SIGN
8:SEPARATOR
9:ANDHI MARK
9:IGN NUKTA
8:VOWEL MODIFIER MARK
8:EXTRA SHORT VOWEL MARK
8:SUTRA MARK
8:VOWEL SIGN PRISHTHAMATRA E
8:SIGN INVERTED CANDRABINDU
8:DIGIT ZERO
14:ONE
14:TWO
15:HREE
14:FOUR
15:IVE
14:SIX
15:EVEN
14:EIGHT
14:NINE
8:EKAM
8:SIGN SIDDHAM
8:HEADSTROKE
8:CONTINUATION SIGN
8:SECTION MARK-1
21:2
@111E1
1:INHALA ARCHAIC DIGIT ONE
22:TWO
23:HREE
22:FOUR
23:IVE
22:SIX
23:EVEN
22:EIGHT
22:NINE
16:NUMBER TEN
24:WENTY
24:HIRTY
23:FORTY
24:IFTY
23:SIXTY
24:EVENTY
23:EIGHTY
23:NINETY
23:ONE HUNDRED
27:THOUSAND
@11200
0:KHOJKI LETTER A
15:A
14:I
14:U
14:E
14:AI
14:O
14:AU
14:KA
15:HA
14:GA
15:GA
15:HA
14:NGA
14:CA
15:HA
14:JA
15:JA
@11213
14:NYA
14:TTA
16:HA
14:DDA
16:HA
14:NNA
14:TA
15:HA
14:DA
15:DDA
15:HA
14:NA
14:PA
15:HA
14:BA
15:BA
15:HA
14:MA
14:YA
14:RA
14:LA
14:VA
14:SA
14:HA
14:LLA
7:VOWEL SIGN AA
18:I
19:I
18:U
18:E
18:AI
18:O
18:AU
7:SIGN ANUSVARA
12:VIRAMA
12:NUKTA
12:SHADDA
7:DANDA
8:OUBLE DANDA
7:WORD SEPARATOR
7:SECTION MARK
7:DOUBLE SECTION MARK
7:ABBREVIATION SIGN
7:SIGN SUKUN
@11280
0:MULTANI LETTER A
15:I
15:U
15:E
15:KA
16:HA
15:GA
@11288
16:HA
@1128A
15:CA
16:HA
15:JA
16:JA
@1128F
15:NYA
15:TTA
17:HA
15:DDA
17:DA
17:HA
15:NNA
15:TA
16:HA
15:DA
16:HA
15:NA
15:PA
16:HA
15:BA
@1129F
16:HA
15:MA
15:YA
15:RA
15:LA
15:VA
15:SA
15:HA
15:RRA
16:HA
8:SECTION MARK
@112B0
0:KHUDAWADI LETTER A
18:A
17:I
18:I
17:U
18:U
17:E
17:AI
17:O
17:AU
17:KA
18:HA
17:GA
18:GA
18:HA
17:NGA
17:CA
18:HA
17:JA
18:JA
18:HA
17:NYA
17:TTA
19:HA
17:DDA
19:DA
17:RRA
17:DDHA
17:NNA
17:TA
18:HA
17:DA
18:HA
17:NA
17:PA
18:HA
17:BA
18:BA
18:HA
17:MA
17:YA
17:RA
17:LA
17:VA
17:SHA
18:A
17:HA
10:SIGN ANUSVARA
10:VOWEL SIGN AA
21:I
22:I
21:U
22:U
21:E
21:AI
21:O
21:AU
10:SIGN NUKTA
15:VIRAMA
@112F0
10:DIGIT ZERO
16:ONE
16:TWO
17:HREE
16:FOUR
17:IVE
16:SIX
17:EVEN
16:EIGHT
16:NINE
@11300
0:GRANTHA SIGN COMBINING ANUSVARA ABOVE
14:ANDRABINDU
13:ANUSVARA
13:VISARGA
@11305
8:LETTER A
16:A
15:I
16:I
15:U
16:U
15:VOCALIC R
23:L
@1130F
15:EE
15:AI
@11313
15:OO
15:AU
15:KA
16:HA
15:GA
16:HA
15:NGA
15:CA
16:HA
15:JA
16:HA
15:NYA
15:TTA
17:HA
15:DDA
17:HA
15:NNA
15:TA
16:HA
15:DA
16:HA
15:NA
@1132A
15:PA
16:HA
15:BA
16:HA
15:MA
15:YA
15:RA
@11332
15:LA
16:LA
@11335
15:VA
15:SHA
16:SA
16:A
15:HA
@1133B
0:COMBINING BINDU BELOW
0:GRANTHA SIGN NUKTA
13:AVAGRAHA
8:VOWEL SIGN AA
19:I
20:I
19:U
20:U
19:VOCALIC R
28:R
@11347
19:EE
19:AI
@1134B
19:OO
19:AU
8:SIGN VIRAMA
@11350
8:OM
@11357
8:AU LENGTH MARK
@1135D
8:SIGN PLUTA
8:LETTER VEDIC ANUSVARA
21:DOUBLE ANUSVARA
16:OCALIC RR
23:LL
8:VOWEL SIGN VOCALIC L
28:L
@11366
0:COMBINING GRANTHA DIGIT ZERO
24:ONE
24:TWO
25:HREE
24:FOUR
25:IVE
24:SIX
@11370
18:LETTER A
25:KA
25:NA
25:VI
25:PA
@11400
0:NEWA LETTER A
13:A
12:I
13:I
12:U
13:U
12:VOCALIC R
21:R
20:L
21:L
12:E
12:AI
12:O
12:AU
12:KA
13:HA
12:GA
13:HA
12:NGA
14:HA
12:CA
13:HA
12:JA
13:HA
12:NYA
14:HA
12:TTA
14:HA
12:DDA
14:HA
12:NNA
12:TA
13:HA
12:DA
13:HA
12:NA
13:HA
12:PA
13:HA
12:BA
13:HA
12:MA
13:HA
12:YA
12:RA
13:HA
12:LA
13:HA
12:WA
12:SHA
13:SA
13:A
12:HA
5:VOWEL SIGN AA
16:I
17:I
16:U
17:U
16:VOCALIC R
25:R
24:L
25:L
16:E
16:AI
16:O
16:AU
5:SIGN VIRAMA
10:CANDRABINDU
10:ANUSVARA
10:VISARGA
10:NUKTA
10:AVAGRAHA
10:FINAL ANUSVARA
5:OM
5:SIDDHI
5:DANDA
6:OUBLE DANDA
5:COMMA
5:GAP FILLER
5:ABBREVIATION SIGN
5:DIGIT ZERO
11:ONE
11:TWO
12:HREE
11:FOUR
12:IVE
11:SIX
12:EVEN
11:EIGHT
11:NINE
6:OUBLE COMMA
5:PLACEHOLDER MARK
@1145D
5:INSERTION SIGN
5:SANDHI MARK
5:LETTER VEDIC ANUSVARA
5:SIGN JIHVAMULIYA
10:UPADHMANIYA
@11480
0:TIRHUTA ANJI
8:LETTER A
16:A
15:I
16:I
15:U
16:U
15:VOCALIC R
24:R
23:L
24:L
15:E
15:AI
15:O
15:AU
15:KA
16:HA
15:GA
16:HA
15:NGA
15:CA
16:HA
15:JA
16:HA
15:NYA
15:TTA
17:HA
15:DDA
17:HA
15:NNA
15:TA
16:HA
15:DA
16:HA
15:NA
15:PA
16:HA
15:BA
16:HA
15:MA
15:YA
15:RA
15:LA
15:VA
15:SHA
16:SA
16:A
15:HA
8:VOWEL SIGN AA
19:I
20:I
19:U
20:U
19:VOCALIC R
28:R
27:L
28:L
19:E
19:SHORT E
19:AI
19:O
19:SHORT O
19:AU
8:SIGN CANDRABINDU
13:ANUSVARA
13:VISARGA
15:RAMA
13:NUKTA
13:AVAGRAHA
8:GVANG
8:ABBREVIATION SIGN
8:OM
@114D0
8:DIGIT ZERO
14:ONE
14:TWO
15:HREE
14:FOUR
15:IVE
14:SIX
15:EVEN
14:EIGHT
14:NINE
@11580
0:SIDDHAM LETTER A
16:A
15:I
16:I
15:U
16:U
15:VOCALIC R
24:R
23:L
24:L
15:E
15:AI
15:O
15:AU
15:KA
16:HA
15:GA
16:HA
15:NGA
15:CA
16:HA
15:JA
16:HA
15:NYA
15:TTA
17:HA
15:DDA
17:HA
15:NNA
15:TA
16:HA
15:DA
16:HA
15:NA
15:PA
16:HA
15:BA
16:HA
15:MA
15:YA
15:RA
15:LA
15:VA
15:SHA
16:SA
16:A
15:HA
8:VOWEL SIGN AA
19:I
20:I
19:U
20:U
19:VOCALIC R
28:R
@115B8
19:E
19:AI
19:O
19:AU
8:SIGN CANDRABINDU
13:ANUSVARA
13:VISARGA
15:RAMA
13:NUKTA
13:SIDDHAM
8:DANDA
9:OUBLE DANDA
8:SEPARATOR DOT
18:BAR
8:REPETITION MARK-1
24:2
24:3
8:END OF TEXT MARK
8:SECTION MARK WITH TRIDENT AND U-SHAPED ORNAMENTS
38:DOTTED CRESCENTS
26:RAYS AND DOTTED CRESCENTS
42:DOUBLE CRESCENTS
42:TRIPLE CRESCENTS
21:DOUBLE RING
32: WITH RAYS
21:WITH DOUBLE CRESCENTS
26:TRIPLE CRESCENTS
26:QUADRUPLE CRESCENTS
26:SEPTUPLE CRESCENTS
26:CIRCLES AND RAYS
38:TWO ENCLOSURES
38:FOUR ENCLOSURES
8:LETTER THREE-CIRCLE ALTERNATE I
16:WO-CIRCLE ALTERNATE I
37:I
15:ALTERNATE U
8:VOWEL SIGN ALTERNATE U
30:U
@11600
0:MODI LETTER A
13:A
12:I
13:I
12:U
13:U
12:VOCALIC R
21:R
20:L
21:L
12:E
12:AI
12:O
12:AU
12:KA
13:HA
12:GA
13:HA
12:NGA
12:CA
13:HA
12:JA
13:HA
12:NYA
12:TTA
14:HA
12:DDA
14:HA
12:NNA
12:TA
13:HA
12:DA
13:HA
12:NA
12:PA
13:HA
12:BA
13:HA
12:MA
12:YA
12:RA
12:LA
12:VA
12:SHA
13:SA
13:A
12:HA
12:LLA
5:VOWEL SIGN AA
16:I
17:I
16:U
17:U
16:VOCALIC R
25:R
24:L
25:L
16:E
16:AI
16:O
16:AU
5:SIGN ANUSVARA
10:VISARGA
12:RAMA
10:ARDHACANDRA
5:DANDA
6:OUBLE DANDA
5:ABBREVIATION SIGN
5:SIGN HUVA
@11650
5:DIGIT ZERO
11:ONE
11:TWO
12:HREE
11:FOUR
12:IVE
11:SIX
12:EVEN
11:EIGHT
11:NINE
@11660
2:NGOLIAN BIRGA WITH ORNAMENT
10:ROTATED BIRGA
10:DOUBLE BIRGA WITH ORNAMENT
10:TRIPLE BIRGA WITH ORNAMENT
10:BIRGA WITH DOUBLE ORNAMENT
10:ROTATED BIRGA WITH ORNAMENT
29:DOUBLE ORNAMENT
10:INVERTED BIRGA
24: WITH DOUBLE ORNAMENT
10:SWIRL BIRGA
21: WITH ORNAMENT
27:DOUBLE ORNAMENT
10:TURNED SWIRL BIRGA WITH DOUBLE ORNAMENT
@11680
0:TAKRI LETTER A
14:A
13:I
14:I
13:U
14:U
13:E
13:AI
13:O
13:AU
13:KA
14:HA
13:GA
14:HA
13:NGA
13:CA
14:HA
13:JA
14:HA
13:NYA
13:TTA
15:HA
13:DDA
15:HA
13:NNA
13:TA
14:HA
13:DA
14:HA
13:NA
13:PA
14:HA
13:BA
14:HA
13:MA
13:YA
13:RA
13:LA
13:VA
13:SHA
14:A
13:HA
13:RRA
6:SIGN ANUSVARA
11:VISARGA
6:VOWEL SIGN AA
17:I
18:I
17:U
18:U
17:E
17:AI
17:O
17:AU
6:SIGN VIRAMA
11:NUKTA
6:LETTER ARCHAIC KHA
6:ABBREVIATION SIGN
@116C0
6:DIGIT ZERO
12:ONE
12:TWO
13:HREE
12:FOUR
13:IVE
12:SIX
13:EVEN
12:EIGHT
12:NINE
@11700
0:AHOM LETTER KA
13:HA
12:NGA
13:A
12:TA
12:ALTERNATE TA
12:PA
13:HA
12:BA
12:MA
12:JA
12:CHA
12:THA
12:RA
12:LA
12:SA
12:NYA
12:HA
12:A
12:DA
13:HA
12:GA
12:ALTERNATE GA
12:GHA
12:BHA
12:JHA
12:ALTERNATE BA
@1171D
5:CONSONANT SIGN MEDIAL LA
27:RA
27:LIGATING RA
5:VOWEL SIGN A
17:A
16:I
17:I
16:U
17:U
16:E
16:AW
16:O
16:AI
17:M
5:SIGN KILLER
@11730
5:DIGIT ZERO
11:ONE
11:TWO
12:HREE
11:FOUR
12:IVE
11:SIX
12:EVEN
11:EIGHT
11:NINE
5:NUMBER TEN
13:WENTY
5:SIGN SMALL SECTION
11:ECTION
10:RULAI
6:YMBOL VI
5:LETTER CA
12:TTA
14:HA
12:DDA
14:HA
12:NNA
12:LLA
@11800
0:DOGRA LETTER A
14:A
13:I
14:I
13:U
14:U
13:E
13:AI
13:O
13:AU
13:KA
14:HA
13:GA
14:HA
13:NGA
13:CA
14:HA
13:JA
14:HA
13:NYA
13:TTA
15:HA
13:DDA
15:HA
13:NNA
13:TA
14:HA
13:DA
14:HA
13:NA
13:PA
14:HA
13:BA
14:HA
13:MA
13:YA
13:RA
13:LA
13:VA
13:SHA
14:SA
14:A
13:HA
13:RRA
6:VOWEL SIGN AA
17:I
18:I
17:U
18:U
17:VOCALIC R
26:R
17:E
17:AI
17:O
17:AU
6:SIGN ANUSVARA
11:VISARGA
13:RAMA
11:NUKTA
6:ABBREVIATION SIGN
@118A0
0:WARANG CITI CAPITAL LETTER NGAA
27:A
27:WI
27:YU
28:A
28:O
27:II
27:UU
27:E
27:O
27:ANG
27:GA
27:KO
27:ENY
27:YUJ
27:UC
27:ENN
27:ODD
27:TTE
27:NUNG
27:DA
27:AT
28:M
27:BU
27:PU
27:HIYO
28:OLO
29:RR
28:AR
27:SSUU
28:II
27:VIYO
12:SMALL LETTER NGAA
25:A
25:WI
25:YU
26:A
26:O
25:II
25:UU
25:E
25:O
25:ANG
25:GA
25:KO
25:ENY
25:YUJ
25:UC
25:ENN
25:ODD
25:TTE
25:NUNG
25:DA
25:AT
26:M
25:BU
25:PU
25:HIYO
26:OLO
27:RR
26:AR
25:SSUU
26:II
25:VIYO
12:DIGIT ZERO
18:ONE
18:TWO
19:HREE
18:FOUR
19:IVE
18:SIX
19:EVEN
18:EIGHT
18:NINE
12:NUMBER TEN
20:WENTY
20:HIRTY
19:FORTY
20:IFTY
19:SIXTY
20:EVENTY
19:EIGHTY
19:NINETY
@118FF
12:OM
0:DIVES AKURU LETTER A
20:A
19:I
20:I
19:U
20:U
19:E
@11909
19:O
@1190C
19:KA
20:HA
19:GA
20:HA
19:NGA
19:CA
20:HA
19:JA
@11915
19:NYA
19:TTA
@11918
19:DDA
21:HA
19:NNA
19:TA
20:HA
19:DA
20:HA
19:NA
19:PA
20:HA
19:BA
20:HA
19:MA
19:YA
20:YA
19:RA
19:LA
19:VA
19:SHA
20:SA
20:A
19:HA
19:LLA
19:ZA
12:VOWEL SIGN AA
23:I
24:I
23:U
24:U
23:E
@11937
23:AI
23:O
@1193B
12:SIGN ANUSVARA
17:CANDRABINDU
17:HALANTA
12:VIRAMA
12:PREFIXED NASAL SIGN
12:MEDIAL YA
12:INITIAL RA
12:MEDIAL RA
12:SIGN NUKTA
12:DOUBLE DANDA
12:GAP FILLER
12:END OF TEXT MARK
@11950
12:DIGIT ZERO
18:ONE
18:TWO
19:HREE
18:FOUR
19:IVE
18:SIX
19:EVEN
18:EIGHT
18:NINE
@119A0
0:NANDINAGARI LETTER A
20:A
19:I
20:I
19:U
20:U
19:VOCALIC R
28:R
@119AA
19:E
19:AI
19:O
19:AU
19:KA
20:HA
19:GA
20:HA
19:NGA
19:CA
20:HA
19:JA
20:HA
19:NYA
19:TTA
21:HA
19:DDA
21:HA
19:NNA
19:TA
20:HA
19:DA
20:HA
19:NA
19:PA
20:HA
19:BA
20:HA
19:MA
19:YA
19:RA
19:LA
19:VA
19:SHA
20:SA
20:A
19:HA
19:LLA
19:RRA
12:VOWEL SIGN AA
23:I
24:I
23:U
24:U
23:VOCALIC R
32:R
@119DA
23:E
23:AI
23:O
23:AU
12:SIGN ANUSVARA
17:VISARGA
19:RAMA
17:AVAGRAHA
17:SIDDHAM
12:HEADSTROKE
12:VOWEL SIGN PRISHTHAMATRA E
@11A00
0:ZANABAZAR SQUARE LETTER A
17:VOWEL SIGN I
28:UE
29:
28:E
28:OE
29:
28:AI
29:U
28:REVERSED I
23:LENGTH MARK
17:LETTER KA
25:HA
24:GA
25:HA
24:NGA
24:CA
25:HA
24:JA
24:NYA
24:TTA
26:HA
24:DDA
26:HA
24:NNA
24:TA
25:HA
24:DA
25:HA
24:NA
24:PA
25:HA
24:BA
25:HA
24:MA
24:TSA
26:HA
24:DZA
26:HA
24:ZHA
25:A
24:-A
24:YA
24:RA
24:LA
24:VA
24:SHA
25:SA
25:A
24:HA
24:KSSA
17:FINAL CONSONANT MARK
17:SIGN VIRAMA
22:CANDRABINDU
33: WITH ORNAMENT
28: WITH ORNAMENT
22:ANUSVARA
22:VISARGA
17:CLUSTER-INITIAL LETTER RA
25:FINAL LETTER YA
38:RA
38:LA
38:VA
17:INITIAL HEAD MARK
17:CLOSING HEAD MARK
17:MARK TSHEG
22:SHAD
22:DOUBLE SHAD
22:LONG TSHEG
17:INITIAL DOUBLE-LINED HEAD MARK
17:CLOSING DOUBLE-LINED HEAD MARK
17:SUBJOINER
@11A50
0:SOYOMBO LETTER A
8:VOWEL SIGN I
19:UE
20:
19:E
19:O
20:E
19:AI
20:U
19:VOCALIC R
27:L
14:LENGTH MARK
8:LETTER KA
16:HA
15:GA
16:HA
15:NGA
15:CA
16:HA
15:JA
16:HA
15:NYA
15:TTA
17:HA
15:DDA
17:HA
15:NNA
15:TA
16:HA
15:DA
16:HA
15:NA
15:PA
16:HA
15:BA
16:HA
15:MA
15:TSA
17:HA
15:DZA
15:ZHA
16:A
15:-A
15:YA
15:RA
15:LA
15:VA
15:SHA
16:SA
16:A
15:HA
15:KSSA
8:SIGN JIHVAMULIYA
13:UPADHMANIYA
8:CLUSTER-INITIAL LETTER RA
31:LA
31:SHA
32:A
8:FINAL CONSONANT SIGN G
29:K
29:NG
29:D
29:N
29:B
29:M
29:R
29:L
29:SH
30:
29:-A
8:SIGN ANUSVARA
13:VISARGA
8:GEMINATION MARK
8:SUBJOINER
8:MARK TSHEG
13:SHAD
13:DOUBLE SHAD
13:PLUTA
8:HEAD MARK WITH MOON AND SUN AND TRIPLE FLAME
40:FLAME
35:
8:TERMINAL MARK-1
22:2
@11AB0
0:CANADIAN SYLLABICS NATTILIK HI
30:I
29:O
30:O
29:A
30:A
28:SHRI
32:I
31:O
32:O
31:A
32:A
19:SPE
21:I
21:O
21:A
0:PAU CIN HAU LETTER PA
19:KA
19:LA
19:MA
19:DA
19:ZA
19:VA
19:NGA
19:HA
19:GA
19:KHA
19:SA
19:BA
19:CA
19:TA
20:HA
19:NA
19:PHA
19:RA
19:FA
19:CHA
19:A
19:E
19:I
19:O
19:U
20:A
19:IA
19:FINAL P
25:K
25:T
25:M
25:N
25:L
25:W
25:NG
25:Y
12:RISING TONE LONG
23:
12:SANDHI GLOTTAL STOP
12:RISING TONE LONG FINAL
24:FINAL
12:SANDHI GLOTTAL STOP FINAL
19:TONE LONG
23:
23: LONG FINAL
24:FINAL
12:MID-LEVEL TONE
12:GLOTTAL STOP VARIANT
12:MID-LEVEL TONE LONG FINAL
27:FINAL
12:LOW-FALLING TONE LONG
28:
12:GLOTTAL STOP
12:LOW-FALLING TONE LONG FINAL
29:FINAL
12:GLOTTAL STOP FINAL
@11C00
0:BHAIKSUKI LETTER A
18:A
17:I
18:I
17:U
18:U
17:VOCALIC R
26:R
25:L
@11C0A
17:E
17:AI
17:O
17:AU
17:KA
18:HA
17:GA
18:HA
17:NGA
17:CA
18:HA
17:JA
18:HA
17:NYA
17:TTA
19:HA
17:DDA
19:HA
17:NNA
17:TA
18:HA
17:DA
18:HA
17:NA
17:PA
18:HA
17:BA
18:HA
17:MA
17:YA
17:RA
17:LA
17:VA
17:SHA
18:SA
18:A
17:HA
10:VOWEL SIGN AA
21:I
22:I
21:U
22:U
21:VOCALIC R
30:R
29:L
@11C38
21:E
21:AI
21:O
21:AU
10:SIGN CANDRABINDU
15:ANUSVARA
15:VISARGA
17:RAMA
15:AVAGRAHA
10:DANDA
11:OUBLE DANDA
10:WORD SEPARATOR
10:GAP FILLER-1
21:2
@11C50
10:DIGIT ZERO
16:ONE
16:TWO
17:HREE
16:FOUR
17:IVE
16:SIX
17:EVEN
16:EIGHT
16:NINE
10:NUMBER ONE
17:TWO
18:HREE
17:FOUR
18:IVE
17:SIX
18:EVEN
17:EIGHT
17:NINE
17:TEN
18:WENTY
18:HIRTY
17:FORTY
18:IFTY
17:SIXTY
18:EVENTY
17:EIGHTY
17:NINETY
10:HUNDREDS UNIT MARK
@11C70
0:MARCHEN HEAD MARK
8:MARK SHAD
8:LETTER KA
16:HA
15:GA
15:NGA
15:CA
16:HA
15:JA
15:NYA
15:TA
16:HA
15:DA
15:NA
15:PA
16:HA
15:BA
15:MA
15:TSA
17:HA
15:DZA
15:WA
15:ZHA
16:A
15:-A
15:YA
15:RA
15:LA
15:SHA
16:A
15:HA
15:A
@11C92
8:SUBJOINED LETTER KA
26:HA
25:GA
25:NGA
25:CA
26:HA
25:JA
25:NYA
25:TA
26:HA
25:DA
25:NA
25:PA
26:HA
25:BA
25:MA
25:TSA
27:HA
25:DZA
25:WA
25:ZHA
26:A
@11CA9
25:YA
25:RA
25:LA
25:SHA
26:A
25:HA
25:A
8:VOWEL SIGN AA
19:I
19:U
19:E
19:O
8:SIGN ANUSVARA
13:CANDRABINDU
@11D00
2:SARAM GONDI LETTER A
22:A
21:I
22:I
21:U
22:U
21:E
@11D08
21:AI
21:O
@11D0B
21:AU
21:KA
22:HA
21:GA
22:HA
21:NGA
21:CA
22:HA
21:JA
22:HA
21:NYA
21:TTA
23:HA
21:DDA
23:HA
21:NNA
21:TA
22:HA
21:DA
22:HA
21:NA
21:PA
22:HA
21:BA
22:HA
21:MA
21:YA
21:RA
21:LA
21:VA
21:SHA
22:SA
22:A
21:HA
21:LLA
21:KSSA
21:JNYA
21:TRA
14:VOWEL SIGN AA
25:I
26:I
25:U
26:U
25:VOCALIC R
@11D3A
25:E
@11D3C
25:AI
25:O
@11D3F
25:AU
14:SIGN ANUSVARA
19:VISARGA
19:NUKTA
19:CANDRA
19:HALANTA
14:VIRAMA
14:REPHA
15:A-KARA
@11D50
14:DIGIT ZERO
20:ONE
20:TWO
21:HREE
20:FOUR
21:IVE
20:SIX
21:EVEN
20:EIGHT
20:NINE
@11D60
0:GUNJALA GONDI LETTER A
22:A
21:I
22:I
21:U
22:U
@11D67
21:EE
21:AI
@11D6A
21:OO
21:AU
21:YA
21:VA
21:BA
22:HA
21:MA
21:KA
22:HA
21:TA
22:HA
21:LA
21:GA
22:HA
21:DA
22:HA
21:NA
21:CA
22:HA
21:TTA
23:HA
21:LLA
21:JA
22:HA
21:DDA
23:HA
21:NGA
21:PA
22:HA
21:HA
21:RA
21:SA
14:VOWEL SIGN AA
25:I
26:I
25:U
26:U
@11D90
25:EE
25:AI
@11D93
25:OO
25:AU
14:SIGN ANUSVARA
19:VISARGA
14:VIRAMA
14:OM
@11DA0
14:DIGIT ZERO
20:ONE
20:TWO
21:HREE
20:FOUR
21:IVE
20:SIX
21:EVEN
20:EIGHT
20:NINE
@11EE0
0:MAKASAR LETTER KA
15:GA
15:NGA
15:PA
15:BA
15:MA
15:TA
15:DA
15:NA
15:CA
15:JA
15:NYA
15:YA
15:RA
15:LA
15:VA
15:SA
15:A
8:ANGKA
8:VOWEL SIGN I
19:U
19:E
19:O
8:PASSIMBANG
8:END OF SECTION
@11FB0
0:LISU LETTER YHA
@11FC0
0:TAMIL FRACTION ONE THREE-HUNDRED-AND-TWENTIETH
19:ONE-HUNDRED-AND-SIXTIETH
19:EIGHTIETH
19:SIXTY-FOURTH
19:FORTIETH
19:THIRTY-SECOND
15:THREE EIGHTIETHS
21:SIXTY-FOURTHS
15:ONE TWENTIETH
19:SIXTEENTH-1
29:2
19:TENTH
19:EIGHTH
15:THREE TWENTIETHS
21:SIXTEENTHS
15:ONE FIFTH
19:QUARTER
19:HALF-1
24:2
15:THREE QUARTERS
15:DOWNSCALING FACTOR KIIZH
6:SIGN NEL
11:CEVITU
11:AAZHAAKKU
11:UZHAKKU
11:MUUVUZHAKKU
11:KURUNI
11:PATHAKKU
11:MUKKURUNI
11:KAACU
11:PANAM
12:ON
11:VARAAKAN
11:PAARAM
11:KUZHI
11:VELI
6:WET CULTIVATION SIGN
6:DRY CULTIVATION SIGN
6:LAND SIGN
6:SALT PAN SIGN
6:TRADITIONAL CREDIT SIGN
18:NUMBER SIGN
6:CURRENT SIGN
6:AND ODD SIGN
6:SPENT SIGN
6:TOTAL SIGN
6:IN POSSESSION SIGN
6:STARTING FROM SIGN
7:IGN MUTHALIYA
11:VAKAIYARAA
@11FFF
6:PUNCTUATION END OF TEXT
0:CUNEIFORM SIGN A
16: TIMES A
23:BAD
23:GAN2 TENU
23:HA
23:IGI
23:LAGAR GUNU
23:MUSH
23:SAG
16:2
16:B
17: TIMES ASH2
24:DUN3 GUNU
24:GAL
26:N2 TENU
24:HA
24:IGI GUNU
25:MIN
24:LAGAB
24:SHESH
24:U PLUS U PLUS U
18:GUNU
17:2
18: TIMES BALAG
25:GAN2 TENU
25:ME PLUS EN
25:SHA3
25:TAK4
16:D
16:K
17: TIMES ERIN2
24:SHITA PLUS GISH
16:L
17: TIMES AL
24:DIM2
24:GISH
24:HA
24:KAD3
25:I
24:SHE
24:USH
17:AN
17:EPH
16:MAR
19: TIMES SHE
16:N
17: OVER AN
18:THREE TIMES
18:PLUS NAGA OPPOSING AN PLUS NAGA
28:SQUARED
17:SHE
16:PIN
16:RAD
19: TIMES KUR
17:KAB
16:SAL2
17:H
18: ZIDA TENU
19:KABA TENU
19:OVER ASH TUG2 OVER TUG2 TUG2 OVER TUG2 PAP
28:OVER ASH
36: CROSSING ASH OVER ASH OVER ASH
18:2
18:GAB
15:BA
17:D
17:G3
17:HAR2
17:L
18: OVER BAL
18:AG
17:R
18:A2
16:I
17: TIMES A
24:GAR
24:IGI GUNU
16:U
17: OVER BU AB
26:UN
18:CROSSING BU
17:LUG
20: OVER BULUG
17:R
18:2
15:DA
17:G
18: KISIM5 TIMES A PLUS MASH
33:MAR
32:BALAG
33:I
32:GA
34: PLUS MASH
33:I
34:R2
33:UD
32:HA
32:IR
34: PLUS LU
32:KAK
32:LA
33:U
34: PLUS MASH2
34:M
32:NE
32:PAP PLUS PAP
32:SI
32:TAK4
32:U2 PLUS GIR2
33:SH
17:M
17:R
18:A3
19:4
16:I
17:B
17:M
18: TIMES SHE
18:2
17:N
18: KASKAL U GUNU DISH
17:SH
16:U
17: OVER DU
18:GUNU
18:SHESHIG
17:B
18: TIMES ESH2
18:2
17:G
18:UD
17:H
17:N
18:3
19: GUNU
24: GUNU
18:4
17:R2
15:E
16: TIMES PAP
17:OVER E NUN OVER NUN
16:2
17: TIMES A PLUS HA PLUS DA
24:GAR
24:MI
24:SAL
25:HE
24:U
16:DIN
16:GIR
16:L
16:N
17: TIMES GAN2
28: TENU
24:ME
18:CROSSING EN
18:OPPOSING EN
18:SQUARED
16:REN
17:IN2
16:SH2
16:ZEN
19: TIMES A
27: PLUS LAL
36: TIMES LAL
27:N
26:BAD
26:DUN3 GUNU
35: GUNU
26:HA
28: GUNU
26:IGI GUNU
26:KASKAL
32: SQUARED
27:U3
26:LA
28:L TIMES LAL
27:I
27:U
26:U2
27:D
15:GA
17: GUNU
17:2
18: TIMES A PLUS DA PLUS HA
32:HA
32:IGI
26:B2 TENU PLUS TAB
26:N
26:SH
28:2 PLUS GAL
25:BAD
27:R PLUS RA
26:UR
28: PLUS RA
25:DA
26:I
27:M TIMES SHE
26:UB
25:EL
27: PLUS LA
26:N
27: TIMES GAN2 TENU
25:GAN2 TENU
27:R
26:I
27:4
28: PLUS A
27:R2 PLUS SU
25:HA PLUS LU PLUS ESH2
27:L
28: PLUS LA
26:I PLUS LI
26:UB2
25:IGI GUNU
26:SH PLUS HU PLUS ASH
25:KAK
27:SKAL
26:ID
28: PLUS LAL
26:U3 PLUS AN
25:LA
25:ME PLUS EN
26:I
25:NUN
28: OVER NUN
25:PA
25:SAL
27:R
26:HE
28: PLUS TUR
27:ID
26:UM
25:TAK4
25:U
26:D
27: PLUS DU
19:OVER GA2
17:BA
19: CROSSING GABA
17:D
18: OVER GAD GAR OVER GAR
17:L
18: GAD OVER GAD GAR OVER GAR
18:AM
17:M
17:N
18:2
19: TENU
20:OVER GAN2
20:CROSSING GAN2
17:R
18:3
17:SHAN
16:ESHTIN
22: TIMES KUR
16:I
17: TIMES E
24:U
18:CROSSING GI
17:4
18: OVER GI4
19:CROSSING GI4
17:DIM
17:R2
19: GUNU
18:3
19: TIMES A PLUS IGI
26:GAN2 TENU
26:IGI
26:LU PLUS IGI
26:PA
17:SAL
18:H
19: CROSSING GISH
20:TIMES BAD
26:TAK4
21:ENU
16:U
17: CROSSING GU
17:2
18: TIMES KAK
28: TIMES IGI GUNU
25:NUN
25:SAL PLUS TUG2
19:GUNU
17:D
18: TIMES A PLUS KUR
25:KUR
19:OVER GUD LUGAL
17:L
17:M
18: TIMES SHE
17:R
18:7
18:UN
19:SH
15:HA
17: TENU
18:GUNU
17:L
16:I
17: TIMES ASH
27:2
24:BAD
24:DISH
24:GAD
24:KIN
24:NUN
24:SHE
24:U
16:U
17:B2
19: TIMES AN
26:HAL
26:KASKAL
26:LISH
26:UD
17:L2
15:I
16: A
16:B
16:DIM
19: OVER IDIM BUR
30:SQUARED
16:G
17:I
18: DIB
19:RI
19:OVER IGI SHIR OVER SHIR UD OVER UD
19:GUNU
16:L
17: TIMES GAN2 TENU
17:2
16:M
17: TIMES TAK4
18:CROSSING IM
18:OPPOSING IM
18:SQUARED
17:IN
16:N
16:R
16:SH
15:KA
17: TIMES A
25:D
26: PLUS KU3
25:SH2
24:BAD
26:LAG
26:R
25:I
24:ERIN2
25:SH2
24:GA
26:L
26:N2 TENU
26:R
27: PLUS SHA3 PLUS A
25:I
26:R2
26:SH PLUS SAR
29:CROSSING GISH
25:U
26:R7
24:IGI
25:M
24:KAK
25:I
26:D
24:LI
25:U
24:ME
26: PLUS DU
32:GI
32:TE
25:I
26: PLUS NUNUZ
24:NE
25:UN
24:PI
24:RU
24:SA
26:R
25:HA
26:E
26:ID
26:U
25:IG
25:UHUR
24:TAR
24:U
25:2
25:D
25:MUM TIMES PA
25:SH
24:ZI
17:2
18: CROSSING KA2
17:B
17:D2
18:3
18:4
18:5
19: OVER KAD5
17:K
18: TIMES IGI GUNU
17:L
18: TIMES BAD
19:CROSSING KAL
17:M2
18:4
17:SKAL
21: LAGAB TIMES U OVER LAGAB TIMES U
22:OVER KASKAL LAGAB TIMES U OVER LAGAB TIMES U
16:ESH2
16:I
17: TIMES BAD
24:U
25:D
17:D
17:N
17:SAL
18:H
18:IM5
21: OVER KISIM5
16:U
17: OVER HI TIMES ASH2 KU OVER HI TIMES ASH2
17:3
17:4
18: VARIANT FORM
17:7
17:L
18: GUNU
17:N
17:R
18: OPPOSING KUR
17:SHU2
16:WU318
15:LA
17:GAB
20: TIMES A
28: PLUS DA PLUS HA
34:GAR
34:LAL
28:L
28:N
28:SH ZIDA TENU
27:BAD
28:I
27:DAR
27:EN
27:GA
29:R
28:UD
30: PLUS GUD
27:HA
29:L
28:I TIMES NUN
27:IGI GUNU
28:M
29: PLUS HA
35:LU
27:KI
29:N
28:U3
29:L
30: PLUS HI PLUS A
27:LAGAB
28:ISH
28:U
29:L
27:ME
29: PLUS EN
28:USH
27:NE
27:SHE PLUS SUM
29:ITA PLUS GISH PLUS ERIN2
43:TENU
29:U2
31: PLUS SHU2
28:UM
27:TAG
29:K4
28:E PLUS A PLUS SU PLUS NA
27:U
28: PLUS A
34:U PLUS U
28:2 PLUS ASH
28:D
28:SH
21:SQUARED
19:R
20: TIMES SHE
30: PLUS SUM
21:GUNU
25: OVER LAGAR GUNU SHE
17:HSHU
17:L
18: TIMES LAL
17:M
18: TIMES KUR
28: PLUS RU
16:I
17:L
17:MMU2
17:SH
16:U
17: TIMES BAD
17:2
18: TIMES AL
25:BAD
25:ESH2
29: TENU
25:GAN2 TENU
25:HI TIMES BAD
25:IM
25:KAD2
28:3
29: PLUS ASH
26:I
25:LA PLUS ASH
27:GAB
25:ME PLUS EN
25:NE
26:U
25:SI PLUS ASH
27:K2 PLUS BU
25:TUG2
20:ENU
19:CROSSING LU2
19:OPPOSING LU2
19:SQUARED
20:HESHIG
17:3
17:GAL
20: OVER LUGAL
22:PPOSING LUGAL
21:SHESHIG
17:H
17:L
17:M
18: OVER LUM
27: GAR OVER GAR
15:MA
17: TIMES TAK4
18:GUNU
17:2
17:H
17:R
17:SH
19:2
16:E
17:S
16:I
17:N
16:U
17: OVER MU
17:G
18: GUNU
17:NSUB
17:RGU2
17:SH
19: TIMES A
26:KUR
26:ZA
20:OVER MUSH
29: TIMES A PLUS NA
20:CROSSING MUSH
19:3
20: TIMES A
28: PLUS DI
27:DI
21:GUNU
15:NA
17:2
17:GA
19: INVERTED
20:TIMES SHU TENU
20:OPPOSING NAGA
19:R
17:M NUTILLU
18:
18:2
16:E
17: TIMES A
24:UD
18:SHESHIG
16:I
17: TIMES E
17:2
17:M
18: TIMES GAN2 TENU
27:R PLUS GAN2 TENU
17:NDA2
21: TIMES AN
29:SH
31: PLUS ASH
28:GUD
28:ME PLUS GAN2 TENU
28:NE
29:UN
28:SHE
31: PLUS A AN
38:SH
40: PLUS ASH
28:U2 PLUS ASH
29:SH
17:SAG
16:U
17:11
17:N
18: LAGAR TIMES GAR
31:MASH
31:SAL
34: OVER NUN LAGAR TIMES SAL
31:USH
19:TENU
19:OVER NUN
19:CROSSING NUN
31: LAGAR OVER LAGAR
18:UZ
20: AB2 TIMES ASHGAB
31:BI
31:DUG
31:GUD
31:IGI GUNU
31:KAD3
31:LA
31:NE
31:SILA3
31:U2
21:KISIM5 TIMES BI
36: U
15:PA
17:D
17:N
17:P
16:ESH2
16:I
17: TIMES A
25:B
24:BI
25:U
24:E
24:I
25:B
24:U
25:2
18:CROSSING PI
17:RIG
20: TIMES KAL
27:UD
27:ZA
21:OPPOSING PIRIG
15:RA
17:B
16:I
16:U
15:SA
17:G NUTILLU
18:
18: TIMES A
25:DU
27:B
25:HA
25:KAK
26:UR
25:LUM
25:MI
25:NUN
25:SAL
26:HID
25:TAB
25:U2
26:B
26:M
26:R
26:SH
19:OVER SAG
19:GUNU
17:L
18: LAGAB TIMES ASH2
17:NGA2
17:R
16:HA
18:3
19: TIMES A
26:BAD
26:GISH
26:NE
26:SHU2
26:TUR
26:U
27: PLUS A
18:6
18:B6
18:R2
17:E
18: HU
19:OVER SHE GAD OVER GAD GAR OVER GAR
28:TAB OVER TAB GAR OVER GAR
18:G9
18:N
18:SH
20:2
20:LAM
17:ID
19: TIMES A
26:IM
18:M
19: TIMES A
26:BAL
27:ULUG
26:DIN
26:GAR
26:IGI
29: GUNU
26:KUSHU2
26:LUL
26:MUG
26:SAL
18:NIG
18:R
19: TENU
20:OVER SHIR BUR OVER BUR
18:TA
17:U
18: OVER INVERTED SHU
18:2
18:BUR
16:I
17: GUNU
17:G
18:4
19: OVER SIG4 SHU2
17:K2
17:LA3
16:U
17: OVER SU
17:D
18:2
17:HUR
17:M
18:ASH
17:R
18:9
15:TA
17: ASTERISK
18:TIMES HI
24:MI
18:GUNU
17:B
18: OVER TAB NI OVER NI DISH OVER DISH
19:SQUARED
17:G
18: TIMES BI
25:GUD
25:SHE
27:U
25:TUG2
25:UD
17:K4
17:R
16:E
17: GUNU
16:I
17: TENU
17:L
17:R
18: TIMES TAK4
19:OVER TIR
27: GAD OVER GAD GAR OVER GAR
16:U
17:G2
17:K
17:M
17:R
18: OVER TUR ZA OVER ZA
15:U
16: GUD
17:U U
17:OVER U PA OVER PA GAR OVER GAR
24:SUR OVER SUR
24:U REVERSED OVER U REVERSED
16:2
16:B
16:D
17: KUSHU2
18:TIMES BAD
24:MI
24:U PLUS U PLUS U
39: GUNU
18:GUNU
18:SHESHIG
25: TIMES BAD
17:UG
16:M
17: TIMES LAGAB
24:ME PLUS DA
24:SHA3
24:U
17:BIN
17:UM
19: TIMES KASKAL
26:PA
16:N
17: GUNU
16:R
17: CROSSING UR
18:SHESHIG
17:2
18: TIMES A PLUS HA
32:NA
26:L
25:HA
25:NUN
25:U2
27: PLUS ASH
33:BI
17:4
17:I
18:3
17:U
18: TIMES A
26:SHGAB
25:BAR
25:DUN
25:GA
27:L
27:N2 TENU
27:R
26:U
25:HA
25:IGI
26:M
26:SH
25:KI
25:LUM
25:MIN
25:PA
25:SHE
26:IG4
25:TU
25:U PLUS GUD
26:D
26:RUDA
18:DA
20: TIMES U
16:SH
18: TIMES A
25:KU
27:R
25:TAK4
18:X
18:2
18:UMX
16:TUKI
16:Z3
18: TIMES KASKAL
17:U
15:ZA
17: TENU
18:SQUARED TIMES KUR
17:G
17:MX
16:E2
16:I
17: OVER ZI
17:3
17:B
18: KABA TENU
17:G
17:Z2
16:U
17:5
18: TIMES A
17:BUR
17:M
15:KAP ELAMITE
15:AB TIMES NUN
17:2 TIMES A
16:MAR TIMES KUG
15:DAG KISIM5 TIMES U2 PLUS MASH
18:3
16:ISH PLUS SHU
16:UB TIMES SHE
15:EZEN TIMES GUD
26:SHE
15:GA2 TIMES AN PLUS KAK PLUS A
26:SH2
16:E22
16:IG
15:HUSH
15:KA TIMES ANSHE
25:SH3
24:GISH
25:UD
24:HI TIMES ASH2
24:LUM
24:PA
24:SHUL
24:TU
24:UR2
15:LAGAB TIMES GI
16:U2 SHESHIG TIMES BAD
19:TIMES ESH2 PLUS LAL
25:SHU
15:MESH
16:USH3 TIMES ZA
15:NA4
16:IN
18:9
18:DA2 TIMES BAL
28:GI
16:U11 ROTATED NINETY DEGREES
15:PESH2 ASTERISK
16:IR2
15:SAG TIMES IGI GUNU
15:TI2
15:UM TIMES ME
16: U
@12400
10:NUMERIC SIGN TWO ASH
24:HREE ASH
23:FOUR ASH
24:IVE ASH
23:SIX ASH
24:EVEN ASH
23:EIGHT ASH
23:NINE ASH
23:THREE DISH
23:FOUR DISH
24:IVE DISH
23:SIX DISH
24:EVEN DISH
23:EIGHT DISH
23:NINE DISH
23:FOUR U
24:IVE U
23:SIX U
24:EVEN U
23:EIGHT U
23:NINE U
23:ONE GESH2
23:TWO GESH2
24:HREE GESH2
23:FOUR GESH2
24:IVE GESH2
23:SIX GESH2
24:EVEN GESH2
23:EIGHT GESH2
23:NINE GESH2
23:ONE GESHU
23:TWO GESHU
24:HREE GESHU
23:FOUR GESHU
24:IVE GESHU
23:TWO SHAR2
24:HREE SHAR2
34: VARIANT FORM
23:FOUR SHAR2
24:IVE SHAR2
23:SIX SHAR2
24:EVEN SHAR2
23:EIGHT SHAR2
23:NINE SHAR2
23:ONE SHARU
23:TWO SHARU
24:HREE SHARU
34: VARIANT FORM
23:FOUR SHARU
24:IVE SHARU
23:SHAR2 TIMES GAL PLUS DISH
44:MIN
23:ONE BURU
23:TWO BURU
24:HREE BURU
33: VARIANT FORM
23:FOUR BURU
24:IVE BURU
23:THREE VARIANT FORM ESH16
45:21
23:FOUR VARIANT FORM LIMMU
46:4
46: A
47:B
23:SIX VARIANT FORM ASH9
24:EVEN VARIANT FORM IMIN3
46: A
47:B
23:EIGHT VARIANT FORM USSU
46:3
23:NINE VARIANT FORM ILIMMU
47:3
47:4
47: A
23:TWO ASH TENU
24:HREE ASH TENU
23:FOUR ASH TENU
24:IVE ASH TENU
23:SIX ASH TENU
23:ONE BAN2
23:TWO BAN2
24:HREE BAN2
23:FOUR BAN2
32: VARIANT FORM
24:IVE BAN2
32: VARIANT FORM
23:NIGIDAMIN
29:ESH
23:ONE ESHE3
23:TWO ESHE3
23:ONE THIRD DISH
23:TWO THIRDS DISH
23:FIVE SIXTHS DISH
23:ONE THIRD VARIANT FORM A
23:TWO THIRDS VARIANT FORM A
23:ONE EIGHTH ASH
27:QUARTER ASH
24:LD ASSYRIAN ONE SIXTH
40:QUARTER
24:NE QUARTER GUR
27:HALF GUR
23:ELAMITE ONE THIRD
31:TWO THIRDS
31:FORTY
32:IFTY
23:FOUR U VARIANT FORM
24:IVE U VARIANT FORM
23:SIX U VARIANT FORM
24:EVEN U VARIANT FORM
23:EIGHT U VARIANT FORM
23:NINE U VARIANT FORM
@12470
10:PUNCTUATION SIGN OLD ASSYRIAN WORD DIVIDER
27:VERTICAL COLON
27:DIAGONAL COLON
36:TRICOLON
36:QUADCOLON
@12480
10:SIGN AB TIMES NUN TENU
24:SHU2
16:D TIMES ESH2
15:BAD TIMES DISH TENU
17:HAR2 TIMES AB2
28:NI
28:ZA
16:U OVER BU TIMES NA2
15:DA TIMES TAK4
17:G TIMES KUR
16:IM TIMES IGI
25:U U U
18:2 TIMES UD
16:UG TIMES ANSHE
26:SH
28: AT LEFT
25:DIN
26:UN
25:ERIN2
25:GA
26:I
27:R2 GUNU
27:SH
25:HA
26:I
25:IGI GUNU
25:KASKAL
26:UR
27:SHU2
31: PLUS KASKAL
25:LAK-020
27:M
28: TIMES KUR
26:UH PLUS GISH
25:MASH
26:ES
26:I
25:NI
25:PI
25:SHE
26:I GUNU
15:E2 TIMES KUR
24:PAP
16:RIN2 X
16:SH2 CROSSING ESH2
16:ZEN SHESHIG TIMES ASH
34:HI
34:IGI GUNU
34:LA
36:L
34:ME
36:S
34:SU
20:TIMES SU
15:GA2 TIMES BAHAR2
25:DIM GUNU
26:UG TIMES IGI GUNU
35:KASKAL
25:EREN
25:GA
27:R PLUS DI
34:NE
25:HA PLUS A
25:KUSHU2 PLUS KASKAL
25:LAM
28: TIMES KUR
26:UH
25:MUSH
25:NE
27: PLUS E2
33:GI
25:SHIM
25:ZIZ2
17:BA ROTATED NINETY DEGREES
16:ESHTIN TIMES U
16:ISH TIMES GISH CROSSING GISH
16:U2 TIMES IGI GUNU
17:D PLUS GISH TIMES TAK4
15:HA TENU GUNU
16:I TIMES ASH OVER HI TIMES ASH
15:KA TIMES BU
24:KA
24:U U U
25:R
15:LAGAB TIMES ZU OVER ZU
17:K-003
20:21
21:5
20:30
20:50
21:1
20:62
20:79 OVER LAK-079 GUNU
20:80
21:1 OVER LAK-081
20:92
19:130
20:42
19:210
21:9
20:20
21:5
21:8
20:38
20:65
21:6
19:343
21:7
21:8
20:83
21:4
20:90
19:441
21:9
22: TIMES GU
29:IGI
29:PAP PLUS LU3
38:PAP PLUS LU3
29:U2 PLUS BA
20:50
21:7
20:70
20:83
20:90
21:2
21:3
21:5
19:550
19:608
20:17
22: TIMES ASH
29:BAD
29:DUN3 GUNU GUNU
29:KU3
29:LA
29:TAR
30:E
29:U2
30:D
30:RUDA
20:36
20:48
22: TIMES DUB
29:GA
29:IGI
32: GUNU
29:NI
29:PAP PLUS PAP PLUS LU3
29:SHESH PLUS KI
29:UD
30:RUDA
19:724
20:49
16:U2 GUNU TIMES ASH
19:TIMES DISH
25:HAL
25:PAP
28: PLUS PAP PLUS LU3
25:TAK4
15:MI PLUS ZA7
16:USH OVER MUSH TIMES GA
36:KAK
15:NINDA2 TIMES DIM GUNU
28:GISH
29:UL
28:HI
28:KESH2
28:LAK-050
28:MASH
28:PAP PLUS PAP
28:U
29: PLUS U
29:RUDA
15:SAG GUNU TIMES HA
19:TIMES EN
25:SHE AT LEFT
25:TAK4
16:HA6 TENU
17:E OVER SHE
19:PLUS HUB2
24:NAM2
24:SAR
17:U2 PLUS DUG TIMES NI
25:E2 TIMES AN
16:I TIMES TAK4
15:TAK4 PLUS SAG
16:UM TIMES GAN2 TENU
25:THREE DISH
15:UR2 INVERTED
19:TIMES UD
17:U TIMES DARA3
25:LAK-668
26:U3
15:ZA7
16:U OVER ZU PLUS SAR
17:5 TIMES THREE DISH TENU
@12F90
1:YPRO-MINOAN SIGN CM001
22:2
22:4
22:5
22:6
22:7
22:8
22:9
21:10
22:1
22:2
23:B
22:3
22:5
22:7
22:9
21:21
22:3
22:4
22:5
22:6
22:7
22:8
22:9
21:30
22:3
22:4
22:5
22:6
22:7
22:8
22:9
21:40
22:1
22:4
22:6
22:7
22:9
21:50
22:1
22:2
22:3
22:4
22:5
22:6
22:8
22:9
21:60
22:1
22:2
22:3
22:4
22:6
22:7
22:8
22:9
21:70
22:1
22:2
22:3
22:4
22:5
23:B
22:6
22:8
22:9
21:80
22:1
22:2
22:3
22:4
22:5
22:6
22:7
22:8
22:9
21:90
22:1
22:2
22:4
22:5
22:6
22:7
22:8
22:9
20:100
22:1
22:2
22:3
22:4
22:5
22:7
22:8
22:9
21:10
22:2
22:4
20:301
22:2
@13000
0:EGYPTIAN HIEROGLYPH A001
23:2
23:3
23:4
23:5
24:A
23:6
24:A
24:B
23:7
23:8
23:9
22:10
23:1
23:2
23:3
23:4
24:A
23:5
23:6
23:7
24:A
23:8
23:9
22:20
23:1
23:2
23:3
23:4
23:5
23:6
23:7
23:8
23:9
22:30
23:1
23:2
24:A
23:3
23:4
23:5
23:6
23:7
23:8
23:9
22:40
24:A
23:1
23:2
24:A
23:3
24:A
23:4
23:5
24:A
23:6
23:7
23:8
23:9
22:50
23:1
23:2
23:3
23:4
23:5
23:6
23:7
23:8
23:9
22:60
23:1
23:2
23:3
23:4
23:5
23:6
23:7
23:8
23:9
22:70
20:B001
23:2
23:3
23:4
23:5
24:A
23:6
23:7
23:8
23:9
20:C001
23:2
24:A
24:B
24:C
23:3
23:4
23:5
23:6
23:7
23:8
23:9
22:10
24:A
23:1
23:2
23:3
23:4
23:5
23:6
23:7
23:8
23:9
22:20
23:1
23:2
23:3
23:4
20:D001
23:2
23:3
23:4
23:5
23:6
23:7
23:8
24:A
23:9
22:10
23:1
23:2
23:3
23:4
23:5
23:6
23:7
23:8
23:9
22:20
23:1
23:2
23:3
23:4
23:5
23:6
23:7
24:A
23:8
23:9
22:30
23:1
24:A
23:2
23:3
23:4
24:A
23:5
23:6
23:7
23:8
23:9
22:40
23:1
23:2
23:3
23:4
23:5
23:6
24:A
23:7
23:8
24:A
23:9
22:50
24:A
24:B
24:C
24:D
24:E
24:F
24:G
24:H
24:I
23:1
23:2
24:A
23:3
23:4
24:A
23:5
23:6
23:7
23:8
23:9
22:60
23:1
23:2
23:3
23:4
23:5
23:6
23:7
24:A
24:B
24:C
24:D
24:E
24:F
24:G
24:H
20:E001
23:2
23:3
23:4
23:5
23:6
23:7
23:8
24:A
23:9
24:A
22:10
23:1
23:2
23:3
23:4
23:5
23:6
24:A
23:7
24:A
23:8
23:9
22:20
24:A
23:1
23:2
23:3
23:4
23:5
23:6
23:7
23:8
24:A
23:9
22:30
23:1
23:2
23:3
23:4
24:A
23:6
23:7
23:8
20:F001
24:A
23:2
23:3
23:4
23:5
23:6
23:7
23:8
23:9
22:10
23:1
23:2
23:3
24:A
23:4
23:5
23:6
23:7
23:8
23:9
22:20
23:1
24:A
23:2
23:3
23:4
23:5
23:6
23:7
23:8
23:9
22:30
23:1
24:A
23:2
23:3
23:4
23:5
23:6
23:7
24:A
23:8
24:A
23:9
22:40
23:1
23:2
23:3
23:4
23:5
24:A
23:6
24:A
23:7
24:A
23:8
23:9
22:50
23:1
24:A
24:B
24:C
23:2
23:3
20:G001
23:2
23:3
23:4
23:5
23:6
24:A
23:7
24:A
24:B
23:8
23:9
22:10
23:1
24:A
23:2
23:3
23:4
23:5
23:6
23:7
23:8
23:9
22:20
24:A
23:1
23:2
23:3
23:4
23:5
23:6
24:A
23:7
23:8
23:9
22:30
23:1
23:2
23:3
23:4
23:5
23:6
24:A
23:7
24:A
23:8
23:9
22:40
23:1
23:2
23:3
24:A
23:4
23:5
24:A
23:6
23:7
23:8
23:9
22:50
23:1
23:2
23:3
23:4
20:H001
23:2
23:3
23:4
23:5
23:6
24:A
23:7
23:8
20:I001
23:2
23:3
23:4
23:5
24:A
23:6
23:7
23:8
23:9
24:A
22:10
24:A
23:1
24:A
23:2
23:3
23:4
23:5
20:K001
23:2
23:3
23:4
23:5
23:6
23:7
23:8
20:L001
23:2
24:A
23:3
23:4
23:5
23:6
24:A
23:7
23:8
20:M001
24:A
24:B
23:2
23:3
24:A
23:4
23:5
23:6
23:7
23:8
23:9
22:10
24:A
23:1
23:2
24:A
24:B
24:C
24:D
24:E
24:F
24:G
24:H
23:3
23:4
23:5
24:A
23:6
24:A
23:7
24:A
23:8
23:9
22:20
23:1
23:2
24:A
23:3
23:4
24:A
23:5
23:6
23:7
23:8
24:A
23:9
22:30
23:1
24:A
23:2
23:3
24:A
24:B
23:4
23:5
23:6
23:7
23:8
23:9
22:40
24:A
23:1
23:2
23:3
23:4
20:N001
23:2
23:3
23:4
23:5
23:6
23:7
23:8
23:9
22:10
23:1
23:2
23:3
23:4
23:5
23:6
23:7
23:8
24:A
24:B
23:9
22:20
23:1
23:2
23:3
23:4
23:5
24:A
23:6
23:7
23:8
23:9
22:30
23:1
23:2
23:3
24:A
23:4
24:A
23:5
24:A
23:6
23:7
24:A
23:8
23:9
22:40
23:1
23:2
21:L001
24:2
24:3
24:4
24:5
25:A
24:6
24:7
24:8
24:9
23:10
24:1
24:2
24:3
24:4
24:5
24:6
24:7
25:A
24:8
24:9
23:20
21:U001
24:2
24:3
24:4
24:5
24:6
24:7
24:8
24:9
23:10
25:A
24:1
25:A
24:2
24:3
24:4
24:5
24:6
24:7
24:8
25:A
24:9
23:20
24:1
24:2
25:A
20:O001
24:A
23:2
23:3
23:4
23:5
24:A
23:6
24:A
24:B
24:C
24:D
24:E
24:F
23:7
23:8
23:9
22:10
24:A
24:B
24:C
23:1
23:2
23:3
23:4
23:5
23:6
23:7
23:8
23:9
24:A
22:20
24:A
23:1
23:2
23:3
23:4
24:A
23:5
24:A
23:6
23:7
23:8
23:9
24:A
22:30
24:A
23:1
23:2
23:3
24:A
23:4
23:5
23:6
24:A
24:B
24:C
24:D
23:7
23:8
23:9
22:40
23:1
23:2
23:3
23:4
23:5
23:6
23:7
23:8
23:9
22:50
24:A
24:B
23:1
20:P001
24:A
23:2
23:3
24:A
23:4
23:5
23:6
23:7
23:8
23:9
22:10
23:1
20:Q001
23:2
23:3
23:4
23:5
23:6
23:7
20:R001
23:2
24:A
23:3
24:A
24:B
23:4
23:5
23:6
23:7
23:8
23:9
22:10
24:A
23:1
23:2
23:3
23:4
23:5
23:6
24:A
23:7
23:8
23:9
22:20
23:1
23:2
23:3
23:4
23:5
23:6
23:7
23:8
23:9
20:S001
23:2
24:A
23:3
23:4
23:5
23:6
24:A
23:7
23:8
23:9
22:10
23:1
23:2
23:3
23:4
24:A
24:B
23:5
23:6
23:7
24:A
23:8
23:9
22:20
23:1
23:2
23:3
23:4
23:5
23:6
24:A
24:B
23:7
23:8
23:9
22:30
23:1
23:2
23:3
23:4
23:5
24:A
23:6
23:7
23:8
23:9
22:40
23:1
23:2
23:3
23:4
23:5
23:6
20:T001
23:2
23:3
24:A
23:4
23:5
23:6
23:7
24:A
23:8
24:A
23:9
24:A
22:10
23:1
24:A
23:2
23:3
23:4
23:5
23:6
24:A
23:7
23:8
23:9
22:20
23:1
23:2
23:3
23:4
23:5
23:6
23:7
23:8
23:9
22:30
23:1
23:2
24:A
23:3
24:A
23:4
23:5
23:6
20:U001
23:2
23:3
23:4
23:5
23:6
24:A
24:B
23:7
23:8
23:9
22:10
23:1
23:2
23:3
23:4
23:5
23:6
23:7
23:8
23:9
22:20
23:1
23:2
23:3
24:A
23:4
23:5
23:6
23:7
23:8
23:9
24:A
22:30
23:1
23:2
24:A
23:3
23:4
23:5
23:6
23:7
23:8
23:9
22:40
23:1
23:2
20:V001
24:A
24:B
24:C
24:D
24:E
24:F
24:G
24:H
24:I
23:2
24:A
23:3
23:4
23:5
23:6
23:7
24:A
24:B
23:8
23:9
22:10
23:1
24:A
24:B
24:C
23:2
24:A
24:B
23:3
23:4
23:5
23:6
23:7
23:8
23:9
22:20
24:A
24:B
24:C
24:D
24:E
24:F
24:G
24:H
24:I
24:J
24:K
24:L
23:1
23:2
23:3
24:A
23:4
23:5
23:6
23:7
23:8
24:A
23:9
24:A
22:30
24:A
23:1
24:A
23:2
23:3
24:A
23:4
23:5
23:6
23:7
24:A
23:8
23:9
22:40
24:A
20:W001
23:2
23:3
24:A
23:4
23:5
23:6
23:7
23:8
23:9
24:A
22:10
24:A
23:1
23:2
23:3
23:4
24:A
23:5
23:6
23:7
24:A
23:8
24:A
23:9
22:20
23:1
23:2
23:3
23:4
24:A
23:5
20:X001
23:2
23:3
23:4
24:A
24:B
23:5
23:6
24:A
23:7
23:8
24:A
20:Y001
24:A
23:2
23:3
23:4
23:5
23:6
23:7
23:8
20:Z001
23:2
24:A
24:B
24:C
24:D
23:3
24:A
24:B
23:4
24:A
23:5
24:A
23:6
23:7
23:8
23:9
22:10
23:1
23:2
23:3
23:4
23:5
24:A
24:B
24:C
24:D
24:E
24:F
24:G
24:H
24:I
23:6
24:A
24:B
24:C
24:D
24:E
24:F
24:G
24:H
20:AA001
24:2
24:3
24:4
24:5
24:6
24:7
25:A
25:B
24:8
24:9
23:10
24:1
24:2
24:3
24:4
24:5
24:6
24:7
24:8
24:9
23:20
24:1
24:2
24:3
24:4
24:5
24:6
24:7
24:8
24:9
23:30
24:1
24:2
@13430
20:VERTICAL JOINER
20:HORIZONTAL JOINER
20:INSERT AT TOP START
30:BOTTOM START
30:TOP END
30:BOTTOM END
20:OVERLAY MIDDLE
20:BEGIN SEGMENT
20:END SEGMENT
@14400
0:ANATOLIAN HIEROGLYPH A001
24:2
24:3
24:4
24:5
24:6
24:7
24:8
24:9
23:10
25:A
24:1
24:2
24:3
24:4
24:5
24:6
24:7
24:8
24:9
23:20
24:1
24:2
24:3
24:4
24:5
24:6
25:A
24:7
24:8
24:9
23:30
24:1
24:2
24:3
24:4
24:5
24:6
24:7
24:8
24:9
25:A
23:40
24:1
25:A
24:2
24:3
24:4
24:5
25:A
24:6
25:A
25:B
24:7
24:8
24:9
23:50
24:1
24:2
24:3
24:4
24:5
24:6
24:7
24:8
24:9
23:60
24:1
24:2
24:3
24:4
24:5
24:6
25:A
25:B
25:C
24:7
24:8
24:9
23:70
24:1
24:2
24:3
24:4
24:5
24:6
24:7
24:8
24:9
23:80
24:1
24:2
24:3
24:4
24:5
24:6
24:7
24:8
24:9
23:90
24:1
24:2
24:3
24:4
24:5
24:6
24:7
25:A
24:8
25:A
24:9
22:100
25:A
24:1
25:A
24:2
25:A
24:3
24:4
25:A
25:B
25:C
24:5
25:A
25:B
24:6
24:7
25:A
25:B
25:C
24:8
24:9
23:10
25:A
25:B
24:1
24:2
24:3
24:4
24:5
25:A
24:6
24:7
24:8
24:9
23:20
24:1
24:2
24:3
24:4
24:5
25:A
24:6
24:7
24:8
24:9
23:30
24:1
24:2
24:3
24:4
24:5
25:A
24:6
24:7
24:8
24:9
23:40
24:1
24:2
24:3
24:4
24:5
24:6
24:7
24:8
24:9
23:50
24:1
24:2
24:3
24:4
24:5
24:6
24:7
24:8
24:9
23:60
24:1
24:2
24:3
24:4
24:5
24:6
24:7
24:8
24:9
23:70
24:1
24:2
24:3
24:4
24:5
24:6
24:7
24:8
24:9
23:80
24:1
24:2
24:3
24:4
24:5
24:6
24:7
24:8
24:9
23:90
24:1
24:2
24:3
24:4
24:5
24:6
24:7
24:8
24:9
22:200
24:1
24:2
25:A
25:B
24:3
24:4
24:5
24:6
24:7
25:A
24:8
24:9
25:A
23:10
24:1
24:2
24:3
24:4
24:5
25:A
24:6
25:A
24:7
24:8
24:9
23:20
24:1
24:2
24:3
24:4
24:5
24:6
24:7
25:A
24:8
24:9
23:30
24:1
24:2
24:3
24:4
24:5
24:6
24:7
24:8
24:9
23:40
24:1
24:2
24:3
24:4
24:5
24:6
24:7
24:8
24:9
23:50
24:1
24:2
24:3
24:4
24:5
24:6
24:7
24:8
24:9
23:60
24:1
24:2
24:3
24:4
24:5
24:6
24:7
25:A
24:8
24:9
23:70
24:1
24:2
24:3
24:4
24:5
24:6
24:7
24:8
24:9
23:80
24:1
24:2
24:3
24:4
24:5
24:6
24:7
24:8
24:9
25:A
23:90
24:1
24:2
24:3
24:4
25:A
24:5
24:6
24:7
24:8
24:9
25:A
22:300
24:1
24:2
24:3
24:4
24:5
24:6
24:7
24:8
24:9
25:A
23:10
24:1
24:2
24:3
24:4
24:5
24:6
24:7
24:8
24:9
23:20
24:1
24:2
24:3
24:4
24:5
24:6
24:7
24:8
24:9
25:A
23:30
24:1
24:2A
25:B
25:C
24:3
24:4
24:5
24:6
25:A
25:B
25:C
24:7
24:8
24:9
23:40
24:1
24:2
24:3
24:4
24:5
24:6
24:7
24:8
24:9
23:50
24:1
24:2
24:3
24:4
24:5
24:6
24:7
24:8
24:9
25:A
23:60
24:1
24:2
24:3
24:4
25:A
24:5
24:6
24:7
24:8
25:A
24:9
23:70
24:1
25:A
24:2
24:3
24:4
24:5
24:6
24:7
24:8
24:9
23:80
24:1
25:A
24:2
24:3 RA OR RI
25:A
24:4
24:5
24:6
25:A
24:7
24:8
24:9
23:90
24:1
24:2
24:3 EIGHT
24:4
24:5
24:6
24:7
24:8
24:9
22:400
24:1
24:2
24:3
24:4
24:5
24:6
24:7
24:8
24:9
23:10 BEGIN LOGOGRAM MARK
25:A END LOGOGRAM MARK
24:1
24:2
24:3
24:4
24:5
24:6
24:7
24:8
24:9
23:20
24:1
24:2
24:3
24:4
24:5
24:6
24:7
24:8
24:9
23:30
24:1
24:2
24:3
24:4
24:5
24:6
24:7
24:8
24:9
23:40
24:1
24:2
24:3
24:4
24:5
24:6
24:7
24:8
24:9
23:50
25:A
24:1
24:2
24:3
24:4
24:5
24:6
24:7
25:A
24:8
24:9
23:60
24:1
24:2
24:3
24:4
24:5
24:6
24:7
24:8
24:9
23:70
24:1
24:2
24:3
24:4
24:5
24:6
24:7
24:8
24:9
23:80
24:1
24:2
24:3
24:4
24:5
24:6
24:7
24:8
24:9
23:90
24:1
24:2
24:3
24:4
24:5
24:6
24:7
22:501
24:2
24:3
24:4
24:5
24:6
24:7
24:8
24:9
23:10
24:1
24:2
24:3
24:4
24:5
24:6
24:7
24:8
24:9
23:20
24:1
24:2
24:3
24:4
24:5
24:6
24:7
24:8
24:9
23:30
@16800
0:BAMUM LETTER PHASE-A NGKUE MFON
21:GBIEE FON
21:PON MFON PIPAEMGBIEE
36:BA
21:NAA MFON
21:SHUENSHUET
21:TITA MFON
21:NZA MFON
21:SHINDA PA NJI
21:PON PA NJI PIPAEMGBIEE
38:BA
21:MAEMBGBIEE
21:TU MAEMBA
21:NGANGU
21:MAEMVEUX
23:NSUAE
22:VEUAENGAM
21:SEUNYAM
21:NTOQPEN
21:KEUKEUTNDA
21:NKINDI
21:SUU
21:NGKUENZEUM
21:LAPAQ
22:ET KUT
21:NTAP MFAA
21:MAEKEUP
21:PASHAE
21:GHEUAERAE
21:PAMSHAE
21:MON NGGEUAET
21:NZUN MEUT
21:U YUQ NAE
21:GHEUAEGHEUAE
21:NTAP NTAA
21:SISA
21:MGBASA
22:EUNJOMNDEUQ
22:OOMPUQ
21:KAFA
21:PA LEERAEWA
21:NDA LEERAEWA
21:PET
21:MAEMKPEN
21:NIKA
21:PUP
21:TUAEP
21:LUAEP
21:SONJAM
21:TEUTEUWEN
21:MAENYI
21:KET
21:NDAANGGEUAET
21:KUOQ
21:MOOMEUT
21:SHUM
21:LOMMAE
21:FIRI
21:ROM
21:KPOQ
21:SOQ
21:MAP PIEET
21:SHIRAE
21:NTAP
21:SHOQ NSHUT YUM
21:NYIT MONGKEUAEQ
21:PAARAE
21:NKAARAE
21:UNKNOWN
21:NGGEN
21:MAESI
21:NJAM
21:MBANYI
21:NYET
21:TEUAEN
21:SOT
21:PAAM
21:NSHIEE
21:MAEM
21:NYI
21:KAQ
21:NSHA
21:VEE
21:LU
21:NEN
22:AQ
21:MBAQ
19:B NSHUET
21:TU MAEMGBIEE
21:SIEE
22:ET TU
21:LOM NTEUM
21:MBA MAELEE
21:KIEEM
21:YEURAE
21:MBAARAE
21:KAM
21:PEESHI
21:YAFU LEERAEWA
21:LAM NSHUT NYAM
21:NTIEE SHEUOQ
22:DU NJAA
21:GHEUGHEUAEM
21:PIT
21:TU NSIEE
21:SHET NJAQ
24:UAEQTU
21:MFON TEUAEQ
22:BIT MBAAKET
21:NYI NTEUM
21:KEUPUQ
21:GHEUGHEN
21:KEUYEUX
21:LAANAE
21:PARUM
21:VEUM
21:NGKINDI MVOP
23:GEU MBU
21:WUAET
21:SAKEUAE
21:TAAM
21:MEUQ
21:NGGUOQ
27: LARGE
21:MFIYAQ
21:SUE
21:MBEURI
22:ONTIEEN
21:NYAEMAE
21:PUNGAAM
21:MEUT NGGEET
21:FEUX
21:MBUOQ
21:FEE
21:KEUAEM
21:MA NJEUAENA
26:UQA
21:LET
21:NGGAAM
22:SEN
21:MA
21:KIQ
21:NGOM
19:C NGKUE MAEMBA
22:ZA
21:YUM
21:WANGKUOQ
21:NGGEN
22:DEUAEREE
22:GKAQ
21:GHARAE
21:MBEEKEET
21:GBAYI
21:NYIR MKPARAQ MEUN
22:TU MBIT
21:MBEUM
21:PIRIEEN
21:NDOMBU
21:MBAA CABBAGE-TREE
21:KEUSHEUAEP
21:GHAP
21:KEUKAQ
21:YU MUOMAE
21:NZEUM
21:MBUE
21:NSEUAEN
21:MBIT
21:YEUQ
21:KPARAQ
22:AA
21:SEUX
21:NDIDA
21:TAASHAE
21:NJUEQ
21:TITA YUE
21:SUAET
21:NGGUAEN NYAM
21:VEUX
21:NANSANAQ
21:MA KEUAERI
21:NTAA
22:GGUON
21:LAP
21:MBIRIEEN
22:GBASAQ
21:NTEUNGBA
21:TEUTEUX
21:NGGUM
21:FUE
21:NDEUT
22:SA
23:HAQ
21:BUNG
21:VEUAEPEN
21:MBERAE
21:RU
21:NJAEM
21:LAM
21:TITUAEP
21:NSUOT NGOM
22:JEEEE
21:KET
21:NGGU
21:MAESI
22:BUAEM
21:LU
21:KUT
21:NJAM
22:GOM
21:WUP
21:NGGUEET
22:SOM
22:TEN
21:KUOP NKAARAE
21:NSUN
22:DAM
21:MA NSIEE
21:YAA
21:NDAP
21:SHUEQ
22:ETFON
21:MBI
22:AEMBA
22:BANYI
21:KEUSEUX
21:MBEUX
21:KEUM
21:MBAA PICKET
21:YUWOQ
21:NJEUX
21:MIEE
22:UAE
21:SHIQ
21:KEN LAW
25:FATIGUE
21:NGAQ
22:AQ
21:LIQ
21:PIN
22:EN
21:TET
19:D MBUO
21:WAP
21:NJI
21:MFON
21:NJIEE
21:LIEE
21:NJEUT
22:SHEE
22:GGAAMAE
22:YAM
21:WUAEN
21:NGKUN
21:SHEE
21:NGKAP
21:KEUAETMEUN
21:TEUT
21:SHEUAE
21:NJAP
21:SUE
21:KET
21:YAEMMAE
21:KUOM
21:SAP
21:MFEUT
21:NDEUX
21:MALEERI
22:EUT
21:SEUAEQ
21:YEN
21:NJEUAEM
21:KEUOT MBUAE
21:NGKEURI
21:TU
21:GHAA
21:NGKYEE
21:FEUFEUAET
21:NDEE
21:MGBOFUM
21:LEUAEP
21:NDON
21:MONI
22:GBEUN
21:PUUT
21:MGBIEE
22:FO
21:LUM
21:NSIEEP
21:MBAA
21:KWAET
21:NYET
21:TEUAEN
21:SOT
21:YUWOQ
21:KEUM
21:RAEM
21:TEEEE
21:NGKEUAEQ
21:MFEUAE
21:NSIEET
21:KEUP
21:PIP
22:EUTAE
21:NYUE
21:LET
21:NGGAAM
21:MFIEE
21:NGGWAEN
21:YUOM
21:PAP
21:YUOP
21:NDAM
22:TEUM
21:SUAE
21:KUN
21:NGGEUX
23:KIEE
21:TUOT
21:MEUN
21:KUQ
21:NSUM
21:TEUN
21:MAENJET
21:NGGAP
21:LEUM
21:NGGUOM
22:SHUT
22:JUEQ
21:GHEUAE
21:KU
21:REN OLD
21:TAE
22:OQ
21:NYI
21:RII
21:LEEEE
21:MEEEE
22:
21:SUU
21:MU
21:SHII
23:EUX
21:KYEE
21:NU
21:SHU
21:NTEE
21:PEE
21:NI
21:SHOQ
21:PUQ
21:MVOP
21:LOQ
21:REN MUCH
21:TI
21:NTUU
21:MBAA SEVEN
21:SAQ
21:FAA
19:E NDAP
21:TOON
21:MBEUM
21:LAP
21:VOM
21:LOON
21:PAA
21:SOM
21:RAQ
21:NSHUOP
22:DUN
21:PUAE
21:TAM
21:NGKA
21:KPEUX
21:WUO
21:SEE
21:NGGEUAET
21:PAAM
21:TOO
21:KUOP
21:LOM
21:NSHIEE
22:GOP
21:MAEM
21:NGKEUX
23:OQ
22:SHUE
21:RIMGBA
21:NJEUX
21:PEEM
21:SAA
21:NGGURAE
21:MGBA
21:GHEUX
21:NGKEUAEM
22:JAEMLI
21:MAP
21:LOOT
21:NGGEEEE
22:DIQ
21:TAEN NTEUM
21:SET
21:PUM
21:NDAA SOFTNESS
22:GGUAESHAE NYAM
21:YIEE
21:GHEUN
21:TUAE
21:YEUAE
21:PO
21:TUMAE
21:KEUAE
21:SUAEN
21:TEUAEQ
21:VEUAE
21:WEUX
21:LAAM
21:PU
21:TAAQ
21:GHAAMAE
21:NGEUREUT
21:SHEUAEQ
21:MGBEN
22:BEE
21:NZAQ
22:KOM
21:GBET
21:TUM
21:KUET
21:YAP
21:NYI CLEAVER
21:YIT
21:MFEUQ
21:NDIAQ
21:PIEEQ
21:YUEQ
21:LEUAEM
21:FUE
21:GBEUX
21:NGKUP
21:KET
21:MAE
21:NGKAAMI
21:GHET
21:FA
21:NTUM
21:PEUT
21:YEUM
21:NGGEUAE
22:YI BETWEEN
22:ZUQ
21:POON
21:MIEE
21:FUET
21:NAE
21:MUAE
21:GHEUAE
21:FU I
21:MVI
21:PUAQ
21:NGKUM
21:KUT
21:PIET
21:NTAP
21:YEUAET
21:NGGUP
21:PA PEOPLE
21:FU CALL
22:OM
21:NJEE
21:A
21:TOQ
21:O
21:I
21:LAQ
21:PA PLURAL
21:TAA
23:Q
21:NDAA MY HOUSE
21:SHIQ
21:YEUX
21:NGUAE
21:YUAEN
22:OQ SWIMMING
25:COVER
22:UQ
23:N
21:KEUX
21:PEUX
21:NJEE EPOCH
21:PUE
21:WUE
21:FEE
21:VEE
21:LU
21:MI
21:REUX
22:AE
21:NGUAET
23:A
21:SHO
24:Q
21:FU REMEDY
21:NA
21:PI
21:LOQ
21:KO
21:MEN
22:A
23:Q
21:TEU
21:KI
21:MON
21:TEN
21:FAQ
21:GHOM
19:F KA
21:U
21:KU
21:EE
21:REE
21:TAE
21:NYI
21:LA
21:RII
23:EE
21:MEEEE
21:TAA
21:NDAA
22:JAEM
21:M
21:SUU
22:HII
22:I
22:EUX
21:KYEE
22:ET
21:NUAE
23:
22:JUAE
21:YOQ
21:SHU
21:YA
21:NSHA
21:PEUX
21:NTEE
21:WUE
21:PEE
21:RU
21:NI
21:REUX
21:KEN
21:NGKWAEN
23:GA
21:SHO
21:PUAE
21:FOM
21:WA
21:LI
22:OQ
21:KO
21:MBEN
21:REN
21:MA
22:O
22:BAA
21:TET
21:KPA
21:SAMBA
21:VUEQ
@16A40
0:MRO LETTER TA
11:NGI
11:YO
11:MIM
11:BA
11:DA
11:A
11:PHI
11:KHAI
11:HAO
11:DAI
11:CHU
11:KEAAE
11:OL
11:MAEM
11:NIN
11:PA
11:OO
12:
11:RO
11:SHI
11:THEA
11:EA
11:WA
11:E
11:KO
11:LAN
13:
11:HAI
11:RI
11:TEK
@16A60
4:DIGIT ZERO
10:ONE
10:TWO
11:HREE
10:FOUR
11:IVE
10:SIX
11:EVEN
10:EIGHT
10:NINE
@16A6E
5:ANDA
5:OUBLE DANDA
0:TANGSA LETTER OZ
15:C
15:Q
15:X
14:AZ
15:C
15:Q
15:X
14:VZ
15:C
15:Q
15:X
14:EZ
15:C
15:Q
15:X
14:IZ
15:C
15:Q
15:X
14:UZ
15:C
15:Q
15:X
14:AWZ
16:C
16:Q
16:X
14:UIZ
16:C
16:Q
16:X
14:FINAL NG
14:LONG UEX
14:SHORT UEZ
20:AWX
14:UEC
16:Z
16:Q
16:X
15:IUZ
17:C
17:Q
17:X
14:MZ
15:C
15:Q
15:X
14:KA
15:HA
14:GA
14:NGA
14:SA
14:YA
14:WA
14:PA
14:NYA
14:PHA
14:BA
14:MA
14:NA
14:HA
14:LA
14:HTA
14:TA
14:DA
14:RA
14:NHA
14:SHA
14:CA
14:TSA
14:GHA
14:HTTA
14:THA
14:XA
14:FA
14:DHA
14:CHA
14:ZA
@16AC0
7:DIGIT ZERO
13:ONE
13:TWO
14:HREE
13:FOUR
14:IVE
13:SIX
14:EVEN
13:EIGHT
13:NINE
@16AD0
0:BASSA VAH LETTER ENNI
17:KA
17:SE
17:FA
17:MBE
17:YIE
17:GAH
17:DHII
17:KPAH
17:JO
17:HWAH
17:WA
17:ZO
17:GBU
17:DO
17:CE
17:UWU
17:TO
17:BA
17:VU
17:YEIN
17:PA
17:WADDA
17:A
17:O
18:O
17:U
17:EE
18:
17:I
@16AF0
10:COMBINING HIGH TONE
20:LOW TONE
20:MID TONE
20:LOW-MID TONE
20:HIGH-LOW TONE
10:FULL STOP
@16B00
0:PAHAWH HMONG VOWEL KEEB
22:V
20:IB
21:V
20:AUB
22:V
20:UB
21:V
20:EB
21:V
20:AIB
22:V
20:OOB
22:V
20:AWB
22:V
20:UAB
22:V
20:OB
21:V
20:IAB
22:V
20:AB
21:V
20:WB
21:V
20:AAB
22:V
13:CONSONANT VAU
23:NTSAU
23:LAU
23:HAU
23:NLAU
23:RAU
23:NKAU
23:QHAU
23:YAU
23:HLAU
23:MAU
23:CHAU
23:NCHAU
23:HNAU
23:PLHAU
23:NTHAU
24:AU
23:AU
23:XAU
23:CAU
13:MARK CIM TUB
22:SO
22:KES
23:HAV
22:SUAM
22:HOM
22:TAUM
13:SIGN VOS THOM
23:SHAB CEEB
18:CIM CHEEM
18:VOS THIAB
22:FEEM
18:XYEEM NTXIV
24:RHO
24:TOV
24:FAIB
18:VOS SEEV
18:MEEJ SUAB
18:VOS NRUA
18:IB YAM
18:XAUS
18:CIM TSOV ROG
@16B50
13:DIGIT ZERO
19:ONE
19:TWO
20:HREE
19:FOUR
20:IVE
19:SIX
20:EVEN
19:EIGHT
19:NINE
@16B5B
13:NUMBER TENS
20:HUNDREDS
20:TEN THOUSANDS
20:MILLIONS
20:HUNDRED MILLIONS
20:TEN BILLIONS
21:RILLIONS
@16B63
13:SIGN VOS LUB
18:XYOO
18:HLI
18:THIRD-STAGE HLI
18:ZWJ THAJ
18:HNUB
18:NQIG
18:XIAB
18:NTUJ
18:AV
18:TXHEEJ CEEV
18:MEEJ TSEEB
18:TAU
18:LOS
18:MUS
18:CIM HAIS LUS NTOG NTOG
22:CUAM TSHOOJ
22:TXWV
26: CHWV
22:PUB DAWB
22:NRES TOS
@16B7D
13:CLAN SIGN TSHEEJ
23:YEEG
23:LIS
24:AUJ
23:XYOOJ
23:KOO
23:HAWJ
23:MUAS
23:THOJ
24:SAB
23:PHAB
23:KHAB
23:HAM
23:VAJ
23:FAJ
23:YAJ
23:TSWB
23:KWM
23:VWJ
@16E40
0:MEDEFAIDRIN CAPITAL LETTER M
27:S
27:V
27:W
27:ATIU
27:Z
27:KP
27:P
27:T
27:G
27:F
27:I
27:K
27:A
27:J
27:E
27:B
27:C
27:U
27:YU
27:L
27:Q
27:HP
27:NY
27:X
27:D
27:OE
27:N
27:R
27:O
27:AI
27:Y
12:SMALL LETTER M
25:S
25:V
25:W
25:ATIU
25:Z
25:KP
25:P
25:T
25:G
25:F
25:I
25:K
25:A
25:J
25:E
25:B
25:C
25:U
25:YU
25:L
25:Q
25:HP
25:NY
25:X
25:D
25:OE
25:N
25:R
25:O
25:AI
25:Y
12:DIGIT ZERO
18:ONE
18:TWO
19:HREE
18:FOUR
19:IVE
18:SIX
19:EVEN
18:EIGHT
18:NINE
12:NUMBER TEN
19:ELEVEN
19:TWELVE
20:HIRTEEN
19:FOURTEEN
20:IFTEEN
19:SIXTEEN
20:EVENTEEN
19:EIGHTEEN
19:NINETEEN
12:DIGIT ONE ALTERNATE FORM
18:TWO ALTERNATE FORM
19:HREE ALTERNATE FORM
12:COMMA
12:FULL STOP
12:SYMBOL AIVA
12:EXCLAMATION OH
@16F00
1:IAO LETTER PA
12:BA
12:YI PA
12:PLA
12:MA
13:HA
12:ARCHAIC MA
12:FA
12:VA
13:FA
12:TA
12:DA
12:YI TTA
16:A
12:TTA
12:DDA
12:NA
13:HA
12:YI NNA
12:ARCHAIC NA
12:NNA
14:HA
12:LA
13:YA
13:HA
14:YA
12:TLHA
12:DLHA
12:TLHYA
12:DLHYA
12:KA
12:GA
12:YI KA
12:QA
13:GA
12:NGA
14:HA
12:ARCHAIC NGA
12:HA
12:XA
12:GHA
14:HA
12:TSSA
12:DZZA
12:NYA
14:HA
12:TSHA
12:DZHA
12:YI TSHA
15:DZHA
12:REFORMED TSHA
12:SHA
13:SA
12:ZHA
13:SHA
12:TSA
12:DZA
12:YI TSA
12:SA
12:ZA
13:SA
13:ZA
14:SA
12:ARCHAIC ZZA
12:ZZYA
14:SYA
12:WA
12:AH
12:HHA
12:BRI
12:SYI
12:DZYI
12:TE
13:SE
12:RTE
@16F4F
5:SIGN CONSONANT MODIFIER BAR
5:LETTER NASALIZATION
5:SIGN ASPIRATION
10:REFORMED VOICING
19:ASPIRATION
5:VOWEL SIGN A
17:A
17:HH
17:N
18:G
16:O
17:O
16:WO
17:
16:E
17:N
18:G
16:OEY
16:I
17:A
18:N
19:G
17:O
17:E
17:I
17:U
17:NG
16:U
17:A
18:N
19:G
17:U
17:EI
17:NG
16:Y
17:I
16:AE
18:E
16:ERR
16:ROUNDED ERR
16:ER
16:ROUNDED ER
16:AI
16:EI
16:AU
16:OU
16:N
17:G
16:UOG
16:YUI
16:OG
17:ER
16:VW
16:IG
16:EA
16:IONG
16:UI
@16F8F
5:TONE RIGHT
10:TOP RIGHT
10:ABOVE
10:BELOW
5:LETTER TONE-2
17:3
17:4
17:5
17:6
17:7
17:8
12:REFORMED TONE-1
26:2
26:4
26:5
26:6
26:8
@16FE0
0:TANGUT ITERATION MARK
0:NUSHU ITERATION MARK
0:OLD CHINESE HOOK MARK
12:ITERATION MARK
0:KHITAN SMALL SCRIPT FILLER
@16FF0
0:VIETNAMESE ALTERNATE READING MARK CA
34:NHAY
@18800
0:TANGUT COMPONENT-001
19:2
19:3
19:4
19:5
19:6
19:7
19:8
19:9
18:10
19:1
19:2
19:3
19:4
19:5
19:6
19:7
19:8
19:9
18:20
19:1
19:2
19:3
19:4
19:5
19:6
19:7
19:8
19:9
18:30
19:1
19:2
19:3
19:4
19:5
19:6
19:7
19:8
19:9
18:40
19:1
19:2
19:3
19:4
19:5
19:6
19:7
19:8
19:9
18:50
19:1
19:2
19:3
19:4
19:5
19:6
19:7
19:8
19:9
18:60
19:1
19:2
19:3
19:4
19:5
19:6
19:7
19:8
19:9
18:70
19:1
19:2
19:3
19:4
19:5
19:6
19:7
19:8
19:9
18:80
19:1
19:2
19:3
19:4
19:5
19:6
19:7
19:8
19:9
18:90
19:1
19:2
19:3
19:4
19:5
19:6
19:7
19:8
19:9
17:100
19:1
19:2
19:3
19:4
19:5
19:6
19:7
19:8
19:9
18:10
19:1
19:2
19:3
19:4
19:5
19:6
19:7
19:8
19:9
18:20
19:1
19:2
19:3
19:4
19:5
19:6
19:7
19:8
19:9
18:30
19:1
19:2
19:3
19:4
19:5
19:6
19:7
19:8
19:9
18:40
19:1
19:2
19:3
19:4
19:5
19:6
19:7
19:8
19:9
18:50
19:1
19:2
19:3
19:4
19:5
19:6
19:7
19:8
19:9
18:60
19:1
19:2
19:3
19:4
19:5
19:6
19:7
19:8
19:9
18:70
19:1
19:2
19:3
19:4
19:5
19:6
19:7
19:8
19:9
18:80
19:1
19:2
19:3
19:4
19:5
19:6
19:7
19:8
19:9
18:90
19:1
19:2
19:3
19:4
19:5
19:6
19:7
19:8
19:9
17:200
19:1
19:2
19:3
19:4
19:5
19:6
19:7
19:8
19:9
18:10
19:1
19:2
19:3
19:4
19:5
19:6
19:7
19:8
19:9
18:20
19:1
19:2
19:3
19:4
19:5
19:6
19:7
19:8
19:9
18:30
19:1
19:2
19:3
19:4
19:5
19:6
19:7
19:8
19:9
18:40
19:1
19:2
19:3
19:4
19:5
19:6
19:7
19:8
19:9
18:50
19:1
19:2
19:3
19:4
19:5
19:6
19:7
19:8
19:9
18:60
19:1
19:2
19:3
19:4
19:5
19:6
19:7
19:8
19:9
18:70
19:1
19:2
19:3
19:4
19:5
19:6
19:7
19:8
19:9
18:80
19:1
19:2
19:3
19:4
19:5
19:6
19:7
19:8
19:9
18:90
19:1
19:2
19:3
19:4
19:5
19:6
19:7
19:8
19:9
17:300
19:1
19:2
19:3
19:4
19:5
19:6
19:7
19:8
19:9
18:10
19:1
19:2
19:3
19:4
19:5
19:6
19:7
19:8
19:9
18:20
19:1
19:2
19:3
19:4
19:5
19:6
19:7
19:8
19:9
18:30
19:1
19:2
19:3
19:4
19:5
19:6
19:7
19:8
19:9
18:40
19:1
19:2
19:3
19:4
19:5
19:6
19:7
19:8
19:9
18:50
19:1
19:2
19:3
19:4
19:5
19:6
19:7
19:8
19:9
18:60
19:1
19:2
19:3
19:4
19:5
19:6
19:7
19:8
19:9
18:70
19:1
19:2
19:3
19:4
19:5
19:6
19:7
19:8
19:9
18:80
19:1
19:2
19:3
19:4
19:5
19:6
19:7
19:8
19:9
18:90
19:1
19:2
19:3
19:4
19:5
19:6
19:7
19:8
19:9
17:400
19:1
19:2
19:3
19:4
19:5
19:6
19:7
19:8
19:9
18:10
19:1
19:2
19:3
19:4
19:5
19:6
19:7
19:8
19:9
18:20
19:1
19:2
19:3
19:4
19:5
19:6
19:7
19:8
19:9
18:30
19:1
19:2
19:3
19:4
19:5
19:6
19:7
19:8
19:9
18:40
19:1
19:2
19:3
19:4
19:5
19:6
19:7
19:8
19:9
18:50
19:1
19:2
19:3
19:4
19:5
19:6
19:7
19:8
19:9
18:60
19:1
19:2
19:3
19:4
19:5
19:6
19:7
19:8
19:9
18:70
19:1
19:2
19:3
19:4
19:5
19:6
19:7
19:8
19:9
18:80
19:1
19:2
19:3
19:4
19:5
19:6
19:7
19:8
19:9
18:90
19:1
19:2
19:3
19:4
19:5
19:6
19:7
19:8
19:9
17:500
19:1
19:2
19:3
19:4
19:5
19:6
19:7
19:8
19:9
18:10
19:1
19:2
19:3
19:4
19:5
19:6
19:7
19:8
19:9
18:20
19:1
19:2
19:3
19:4
19:5
19:6
19:7
19:8
19:9
18:30
19:1
19:2
19:3
19:4
19:5
19:6
19:7
19:8
19:9
18:40
19:1
19:2
19:3
19:4
19:5
19:6
19:7
19:8
19:9
18:50
19:1
19:2
19:3
19:4
19:5
19:6
19:7
19:8
19:9
18:60
19:1
19:2
19:3
19:4
19:5
19:6
19:7
19:8
19:9
18:70
19:1
19:2
19:3
19:4
19:5
19:6
19:7
19:8
19:9
18:80
19:1
19:2
19:3
19:4
19:5
19:6
19:7
19:8
19:9
18:90
19:1
19:2
19:3
19:4
19:5
19:6
19:7
19:8
19:9
17:600
19:1
19:2
19:3
19:4
19:5
19:6
19:7
19:8
19:9
18:10
19:1
19:2
19:3
19:4
19:5
19:6
19:7
19:8
19:9
18:20
19:1
19:2
19:3
19:4
19:5
19:6
19:7
19:8
19:9
18:30
19:1
19:2
19:3
19:4
19:5
19:6
19:7
19:8
19:9
18:40
19:1
19:2
19:3
19:4
19:5
19:6
19:7
19:8
19:9
18:50
19:1
19:2
19:3
19:4
19:5
19:6
19:7
19:8
19:9
18:60
19:1
19:2
19:3
19:4
19:5
19:6
19:7
19:8
19:9
18:70
19:1
19:2
19:3
19:4
19:5
19:6
19:7
19:8
19:9
18:80
19:1
19:2
19:3
19:4
19:5
19:6
19:7
19:8
19:9
18:90
19:1
19:2
19:3
19:4
19:5
19:6
19:7
19:8
19:9
17:700
19:1
19:2
19:3
19:4
19:5
19:6
19:7
19:8
19:9
18:10
19:1
19:2
19:3
19:4
19:5
19:6
19:7
19:8
19:9
18:20
19:1
19:2
19:3
19:4
19:5
19:6
19:7
19:8
19:9
18:30
19:1
19:2
19:3
19:4
19:5
19:6
19:7
19:8
19:9
18:40
19:1
19:2
19:3
19:4
19:5
19:6
19:7
19:8
19:9
18:50
19:1
19:2
19:3
19:4
19:5
19:6
19:7
19:8
19:9
18:60
19:1
19:2
19:3
19:4
19:5
19:6
19:7
19:8
0:KHITAN SMALL SCRIPT CHARACTER-18B00
34:1
34:2
34:3
34:4
34:5
34:6
34:7
34:8
34:9
34:A
34:B
34:C
34:D
34:E
34:F
33:10
34:1
34:2
34:3
34:4
34:5
34:6
34:7
34:8
34:9
34:A
34:B
34:C
34:D
34:E
34:F
33:20
34:1
34:2
34:3
34:4
34:5
34:6
34:7
34:8
34:9
34:A
34:B
34:C
34:D
34:E
34:F
33:30
34:1
34:2
34:3
34:4
34:5
34:6
34:7
34:8
34:9
34:A
34:B
34:C
34:D
34:E
34:F
33:40
34:1
34:2
34:3
34:4
34:5
34:6
34:7
34:8
34:9
34:A
34:B
34:C
34:D
34:E
34:F
33:50
34:1
34:2
34:3
34:4
34:5
34:6
34:7
34:8
34:9
34:A
34:B
34:C
34:D
34:E
34:F
33:60
34:1
34:2
34:3
34:4
34:5
34:6
34:7
34:8
34:9
34:A
34:B
34:C
34:D
34:E
34:F
33:70
34:1
34:2
34:3
34:4
34:5
34:6
34:7
34:8
34:9
34:A
34:B
34:C
34:D
34:E
34:F
33:80
34:1
34:2
34:3
34:4
34:5
34:6
34:7
34:8
34:9
34:A
34:B
34:C
34:D
34:E
34:F
33:90
34:1
34:2
34:3
34:4
34:5
34:6
34:7
34:8
34:9
34:A
34:B
34:C
34:D
34:E
34:F
33:A0
34:1
34:2
34:3
34:4
34:5
34:6
34:7
34:8
34:9
34:A
34:B
34:C
34:D
34:E
34:F
33:B0
34:1
34:2
34:3
34:4
34:5
34:6
34:7
34:8
34:9
34:A
34:B
34:C
34:D
34:E
34:F
33:C0
34:1
34:2
34:3
34:4
34:5
34:6
34:7
34:8
34:9
34:A
34:B
34:C
34:D
34:E
34:F
33:D0
34:1
34:2
34:3
34:4
34:5
34:6
34:7
34:8
34:9
34:A
34:B
34:C
34:D
34:E
34:F
33:E0
34:1
34:2
34:3
34:4
34:5
34:6
34:7
34:8
34:9
34:A
34:B
34:C
34:D
34:E
34:F
33:F0
34:1
34:2
34:3
34:4
34:5
34:6
34:7
34:8
34:9
34:A
34:B
34:C
34:D
34:E
34:F
32:C00
34:1
34:2
34:3
34:4
34:5
34:6
34:7
34:8
34:9
34:A
34:B
34:C
34:D
34:E
34:F
33:10
34:1
34:2
34:3
34:4
34:5
34:6
34:7
34:8
34:9
34:A
34:B
34:C
34:D
34:E
34:F
33:20
34:1
34:2
34:3
34:4
34:5
34:6
34:7
34:8
34:9
34:A
34:B
34:C
34:D
34:E
34:F
33:30
34:1
34:2
34:3
34:4
34:5
34:6
34:7
34:8
34:9
34:A
34:B
34:C
34:D
34:E
34:F
33:40
34:1
34:2
34:3
34:4
34:5
34:6
34:7
34:8
34:9
34:A
34:B
34:C
34:D
34:E
34:F
33:50
34:1
34:2
34:3
34:4
34:5
34:6
34:7
34:8
34:9
34:A
34:B
34:C
34:D
34:E
34:F
33:60
34:1
34:2
34:3
34:4
34:5
34:6
34:7
34:8
34:9
34:A
34:B
34:C
34:D
34:E
34:F
33:70
34:1
34:2
34:3
34:4
34:5
34:6
34:7
34:8
34:9
34:A
34:B
34:C
34:D
34:E
34:F
33:80
34:1
34:2
34:3
34:4
34:5
34:6
34:7
34:8
34:9
34:A
34:B
34:C
34:D
34:E
34:F
33:90
34:1
34:2
34:3
34:4
34:5
34:6
34:7
34:8
34:9
34:A
34:B
34:C
34:D
34:E
34:F
33:A0
34:1
34:2
34:3
34:4
34:5
34:6
34:7
34:8
34:9
34:A
34:B
34:C
34:D
34:E
34:F
33:B0
34:1
34:2
34:3
34:4
34:5
34:6
34:7
34:8
34:9
34:A
34:B
34:C
34:D
34:E
34:F
33:C0
34:1
34:2
34:3
34:4
34:5
34:6
34:7
34:8
34:9
34:A
34:B
34:C
34:D
34:E
34:F
33:D0
34:1
34:2
34:3
34:4
34:5
@1AFF0
1:ATAKANA LETTER MINNAN TONE-2
28:3
28:4
28:5
@1AFF5
28:7
28:8
23:NASALIZED TONE-1
38:2
38:3
38:4
38:5
@1AFFD
38:7
38:8
@1B000
16:ARCHAIC E
0:HIRAGANA LETTER ARCHAIC YE
1:ENTAIGANA LETTER A-1
20:2
20:3
20:WO
18:I-1
20:2
20:3
20:4
18:U-1
20:2
20:3
20:4
20:5
18:E-2
20:3
20:4
20:5
20:6
18:O-1
20:2
20:3
18:KA-1
21:2
21:3
21:4
21:5
21:6
21:7
21:8
21:9
21:10
22:1
21:KE
19:I-1
21:2
21:3
21:4
21:5
21:6
21:7
21:8
19:U-1
21:2
21:3
21:4
21:5
21:6
21:7
19:E-1
21:2
21:3
21:4
21:5
21:6
19:O-1
21:2
21:3
21:KI
18:SA-1
21:2
21:3
21:4
21:5
21:6
21:7
21:8
19:I-1
21:2
21:3
21:4
21:5
21:6
19:U-1
21:2
21:3
21:4
21:5
21:6
21:7
21:8
19:E-1
21:2
21:3
21:4
21:5
19:O-1
21:2
21:3
21:4
21:5
21:6
21:7
18:TA-1
21:2
21:3
21:4
19:I-1
21:2
21:3
21:4
21:5
21:6
21:7
19:U-1
21:2
21:3
21:4
21:TO
19:E-1
21:2
21:3
21:4
21:5
21:6
21:7
21:8
21:9
19:O-1
21:2
21:3
21:4
21:5
21:6
21:RA
18:NA-1
21:2
21:3
21:4
21:5
21:6
21:7
21:8
21:9
19:I-1
21:2
21:3
21:4
21:5
21:6
21:7
21:TE
19:U-1
21:2
21:3
19:E-1
21:2
21:3
21:4
21:5
21:6
21:KO
19:O-1
21:2
21:3
21:4
21:5
18:HA-1
21:2
21:3
21:4
21:5
21:6
21:7
21:8
21:9
21:10
22:1
19:I-1
21:2
21:3
21:4
21:5
21:6
21:7
19:U-1
21:2
21:3
19:E-1
21:2
21:3
21:4
21:5
21:6
21:7
19:O-1
21:2
21:3
21:4
21:5
21:6
21:7
21:8
18:MA-1
21:2
21:3
21:4
21:5
21:6
21:7
19:I-1
21:2
21:3
21:4
21:5
21:6
21:7
19:U-1
21:2
21:3
21:4
19:E-1
21:2
21:MA
19:O-1
21:2
21:3
21:4
21:5
21:6
18:YA-1
21:2
21:3
21:4
21:5
21:YO
19:U-1
21:2
21:3
21:4
19:O-1
21:2
21:3
21:4
21:5
21:6
18:RA-1
21:2
21:3
21:4
19:I-1
21:2
21:3
21:4
21:5
21:6
21:7
19:U-1
21:2
21:3
21:4
21:5
21:6
19:E-1
21:2
21:3
21:4
19:O-1
21:2
21:3
21:4
21:5
21:6
18:WA-1
21:2
21:3
21:4
21:5
19:I-1
21:2
21:3
21:4
21:5
19:E-1
21:2
21:3
21:4
19:O-1
21:2
21:3
21:4
21:5
21:6
21:7
18:N-MU-MO-1
26:2
1:IRAGANA LETTER ARCHAIC WU
0:KATAKANA LETTER ARCHAIC YI
25:E
24:WU
@1B150
0:HIRAGANA LETTER SMALL WI
23:E
23:O
@1B164
0:KATAKANA LETTER SMALL WI
23:E
23:O
22:N
@1B170
0:NUSHU CHARACTER-1B170
20:1
20:2
20:3
20:4
20:5
20:6
20:7
20:8
20:9
20:A
20:B
20:C
20:D
20:E
20:F
19:80
20:1
20:2
20:3
20:4
20:5
20:6
20:7
20:8
20:9
20:A
20:B
20:C
20:D
20:E
20:F
19:90
20:1
20:2
20:3
20:4
20:5
20:6
20:7
20:8
20:9
20:A
20:B
20:C
20:D
20:E
20:F
19:A0
20:1
20:2
20:3
20:4
20:5
20:6
20:7
20:8
20:9
20:A
20:B
20:C
20:D
20:E
20:F
19:B0
20:1
20:2
20:3
20:4
20:5
20:6
20:7
20:8
20:9
20:A
20:B
20:C
20:D
20:E
20:F
19:C0
20:1
20:2
20:3
20:4
20:5
20:6
20:7
20:8
20:9
20:A
20:B
20:C
20:D
20:E
20:F
19:D0
20:1
20:2
20:3
20:4
20:5
20:6
20:7
20:8
20:9
20:A
20:B
20:C
20:D
20:E
20:F
19:E0
20:1
20:2
20:3
20:4
20:5
20:6
20:7
20:8
20:9
20:A
20:B
20:C
20:D
20:E
20:F
19:F0
20:1
20:2
20:3
20:4
20:5
20:6
20:7
20:8
20:9
20:A
20:B
20:C
20:D
20:E
20:F
18:200
20:1
20:2
20:3
20:4
20:5
20:6
20:7
20:8
20:9
20:A
20:B
20:C
20:D
20:E
20:F
19:10
20:1
20:2
20:3
20:4
20:5
20:6
20:7
20:8
20:9
20:A
20:B
20:C
20:D
20:E
20:F
19:20
20:1
20:2
20:3
20:4
20:5
20:6
20:7
20:8
20:9
20:A
20:B
20:C
20:D
20:E
20:F
19:30
20:1
20:2
20:3
20:4
20:5
20:6
20:7
20:8
20:9
20:A
20:B
20:C
20:D
20:E
20:F
19:40
20:1
20:2
20:3
20:4
20:5
20:6
20:7
20:8
20:9
20:A
20:B
20:C
20:D
20:E
20:F
19:50
20:1
20:2
20:3
20:4
20:5
20:6
20:7
20:8
20:9
20:A
20:B
20:C
20:D
20:E
20:F
19:60
20:1
20:2
20:3
20:4
20:5
20:6
20:7
20:8
20:9
20:A
20:B
20:C
20:D
20:E
20:F
19:70
20:1
20:2
20:3
20:4
20:5
20:6
20:7
20:8
20:9
20:A
20:B
20:C
20:D
20:E
20:F
19:80
20:1
20:2
20:3
20:4
20:5
20:6
20:7
20:8
20:9
20:A
20:B
20:C
20:D
20:E
20:F
19:90
20:1
20:2
20:3
20:4
20:5
20:6
20:7
20:8
20:9
20:A
20:B
20:C
20:D
20:E
20:F
19:A0
20:1
20:2
20:3
20:4
20:5
20:6
20:7
20:8
20:9
20:A
20:B
20:C
20:D
20:E
20:F
19:B0
20:1
20:2
20:3
20:4
20:5
20:6
20:7
20:8
20:9
20:A
20:B
20:C
20:D
20:E
20:F
19:C0
20:1
20:2
20:3
20:4
20:5
20:6
20:7
20:8
20:9
20:A
20:B
20:C
20:D
20:E
20:F
19:D0
20:1
20:2
20:3
20:4
20:5
20:6
20:7
20:8
20:9
20:A
20:B
20:C
20:D
20:E
20:F
19:E0
20:1
20:2
20:3
20:4
20:5
20:6
20:7
20:8
20:9
20:A
20:B
20:C
20:D
20:E
20:F
19:F0
20:1
20:2
20:3
20:4
20:5
20:6
20:7
20:8
20:9
20:A
20:B
@1BC00
0:DUPLOYAN LETTER H
16:X
16:P
16:T
16:F
16:K
16:L
16:B
16:D
16:V
16:G
16:R
16:P N
16:D S
16:F N
16:K M
16:R S
16:TH
16:SLOAN DH
16:DH
16:KK
16:SLOAN J
16:HL
16:LH
16:RH
16:M
16:N
16:J
16:S
16:M N
16:N M
16:J M
16:S J
16:M WITH DOT
16:N WITH DOT
16:J WITH DOT
26:S INSIDE AND ABOVE
16:S WITH DOT
26: BELOW
16:M S
16:N S
16:J S
16:S S
16:M N S
16:N M S
16:J M S
16:S J S
16:J S WITH DOT
18:N
19: S
16:S T
19: R
18:P
19: R
16:T S
18:R S
16:W
17:H
17: R
16:S N
18:M
16:K R S
16:G R S
16:S K
19: R
16:A
16:SLOAN OW
16:OA
17:
16:AOU
16:I
16:E
16:IE
16:SHORT I
16:UI
16:EE
16:SLOAN EH
16:ROMANIAN I
16:SLOAN EE
16:LONG I
16:YE
16:U
16:EU
16:XW
16:U N
16:LONG U
16:ROMANIAN U
16:UH
16:SLOAN U
16:OOH
17:W
17:U
16:WA
17:O
17:I
17:EI
17:OW
16:NASAL U
22:O
22:I
22:A
16:PERNIN AN
24:M
16:SLOAN EN
22:AN
22:ON
16:VOCALIC M
@1BC70
9:AFFIX LEFT HORIZONTAL SECANT
15:MID HORIZONTAL SECANT
15:RIGHT HORIZONTAL SECANT
15:LOW VERTICAL SECANT
15:MID VERTICAL SECANT
15:HIGH VERTICAL SECANT
15:ATTACHED SECANT
24:LEFT-TO-RIGHT SECANT
24:TANGENT
26:IL
24:E HOOK
24:I HOOK
24:TANGENT HOOK
@1BC80
15:HIGH ACUTE
20:TIGHT ACUTE
20:GRAVE
20:LONG GRAVE
20:DOT
20:CIRCLE
20:LINE
20:WAVE
20:VERTICAL
@1BC90
15:LOW ACUTE
19:TIGHT ACUTE
19:GRAVE
19:LONG GRAVE
19:DOT
19:CIRCLE
19:LINE
19:WAVE
19:VERTICAL
19:ARROW
@1BC9C
9:SIGN O WITH CROSS
9:THICK LETTER SELECTOR
9:DOUBLE MARK
9:PUNCTUATION CHINOOK FULL STOP
0:SHORTHAND FORMAT LETTER OVERLAP
17:CONTINUING OVERLAP
17:DOWN STEP
17:UP STEP
@1CF00
0:ZNAMENNY COMBINING MARK GORAZDO NIZKO S KRYZHEM ON LEFT
24:NIZKO S KRYZHEM ON LEFT
24:TSATA ON LEFT
24:GORAZDO NIZKO ON LEFT
24:NIZKO ON LEFT
24:SREDNE ON LEFT
24:MALO POVYSHE ON LEFT
24:POVYSHE ON LEFT
24:VYSOKO ON LEFT
24:MALO POVYSHE S KHOKHLOM ON LEFT
24:POVYSHE S KHOKHLOM ON LEFT
24:VYSOKO S KHOKHLOM ON LEFT
24:GORAZDO NIZKO S KRYZHEM ON RIGHT
24:NIZKO S KRYZHEM ON RIGHT
24:TSATA ON RIGHT
24:GORAZDO NIZKO ON RIGHT
24:NIZKO ON RIGHT
24:SREDNE ON RIGHT
24:MALO POVYSHE ON RIGHT
24:POVYSHE ON RIGHT
24:VYSOKO ON RIGHT
24:MALO POVYSHE S KHOKHLOM ON RIGHT
24:POVYSHE S KHOKHLOM ON RIGHT
24:VYSOKO S KHOKHLOM ON RIGHT
24:TSATA S KRYZHEM
24:MALO POVYSHE S KRYZHEM
24:STRANNO MALO POVYSHE
24:POVYSHE S KRYZHEM
33:TRANNO
24:VYSOKO S KRYZHEM
24:MALO POVYSHE STRANNO
24:GORAZDO VYSOKO
24:ZELO
24:ON
24:RAVNO
24:TIKHAYA
24:BORZAYA
24:UDARKA
24:PODVERTKA
24:LOMKA
24:KUPNAYA
25:ACHKA
24:ZEVOK
24:SKOBA
24:RAZSEKA
24:KRYZH ON LEFT
@1CF30
19:TONAL RANGE MARK MRACHNO
36:SVETLO
36:TRESVETLO
19:MARK ZADERZHKA
24:DEMESTVENNY ZADERZHKA
24:OTSECHKA
24:PODCHASHIE
34: WITH VERTICAL STROKE
24:CHASHKA
31: POLNAYA
24:OBLACHKO
24:SOROCHYA NOZHKA
24:TOCHKA
24:DVOETOCHIE
19:ATTACHING VERTICAL OMET
19:MARK CURVED OMET
24:KRYZH
19:LOWER TONAL RANGE INDICATOR
9:PRIZNAK MODIFIER LEVEL-2
32:3
26:DIRECTION FLIP
26:KRYZH
26:ROG
@1CF50
9:NEUME KRYUK
20: TIKHY
15:PARAKLIT
15:DVA V CHELNU
15:KLYUCH
15:ZANOZHEK
15:STOPITSA
23: S OCHKOM
15:PEREVODKA
24: NEPOSTOYANNAYA
15:STOPITSA WITH SOROCHYA NOZHKA
15:CHELYUSTKA
15:PALKA
15:ZAPYATAYA
15:GOLUBCHIK BORZY
25:TIKHY
25:MRACHNY
25:SVETLY
25:TRESVETLY
15:VRAKHIYA PROSTAYA
24:MRACHNAYA
24:SVETLAYA
24:TRESVETLAYA
24:KLYUCHEVAYA PROSTAYA
36:MRACHNAYA
36:SVETLAYA
36:TRESVETLAYA
15:DOUBLE ZAPYATAYA
15:REVERSED CHELYUSTKA
15:DERBITSA
15:KHAMILO
15:CHASHKA
15:PODCHASHIE
15:SKAMEYTSA MRACHNAYA
25:SVETLAYA
25:TRESVETLAYA
26:IKHAYA
15:DEMESTVENNY KLYUCH
15:SKAMEYTSA KLYUCHEVAYA SVETLAYA
32:NEPOSTOYANNAYA
32:VAYA TIKHAYA
25:DVOECHELNAYA PROSTAYA
38:SVETLAYA
38:NEPOSTOYANNAYA
38:KLYUCHEVAYA
16:LOZHITIE
24: S ZAPYATOY
25:ZAKRYTOE
25:S KRYZHEM
15:KRYZH
15:ROG
15:FITA
15:KOBYLA
15:ZMEYTSA
15:STATYA
21: S ZAPYATOY
24:KRYZHEM
24:ZAPYATOY I KRYZHEM
24:KRYZHEM I ZAPYATOY
22:ZAKRYTAYA
31: S ZAPYATOY
22:S ROGOM
24:DVUMYA ZAPYATYMI
24:ZAPYATOY I PODCHASHIEM
15:POLKULIZMY
15:STATYA NEPOSTOYANNAYA
17:RELA PROSTAYA
22:MRACHNOTIKHAYA
22:KRYZHEVAYA
22:POLUPOVODNAYA
24:VODNAYA
22:NEPOSTOYANNAYA
22:KLYUCHEPOVODNAYA
29:NEPOSTOYANNAYA
22:TIKHAYA PUTNAYA
22:DVOECHELNAYA
31:OKRYZHEVAYA
32:POVODNAYA
31:AYA KLYUCHEVAYA
31:OPOVODNAYA KLYUCHEVAYA
22:GROMNAYA WITH SINGLE ZAPYATAYA
26:OPOVODNAYA WITH SINGLE ZAPYATAYA
26:NAYA
26:OPOVODNAYA
36: WITH DOUBLE ZAPYATAYA
27:KRYZHEVAYA
37: POVODNAYA
15:MECHIK
21: POVODNY
22:KLYUCHEVOY
29:POVODNY
29:NEPOSTOYANNY
15:STRELA TRYASOGLASNAYA
28:POVODNAYA
28:STRELNAYA
15:OSOKA
20: SVETLAYA
21:TRESVETLAYA
21:KRYUKOVAYA SVETLAYA
22:LYUCHEVAYA SVETLAYA
33:NEPOSTOYANNAYA
15:STRELA KRYUKOVAYA
32: POVODNAYA
33:GROMNAYA WITH SINGLE ZAPYATAYA
37:OPOVODNAYA WITH SINGLE ZAPYATAYA
37:NAYA
37:OPOVODNAYA
47: WITH DOUBLE ZAPYATAYA
38:KRYZHEVAYA
48: POVODNAYA
33:TRYASKA
15:KUFISMA
15:OBLAKO
15:DUDA
15:NEMKA
15:PAUK
@1D000
0:BYZANTINE MUSICAL SYMBOL PSILI
25:DASEIA
25:PERISPOMENI
25:OXEIA EKFONITIKON
31:DIPLI
25:VAREIA EKFONITIKON
32:DIPLI
25:KATHISTI
25:SYRMATIKI
25:PARAKLITIKI
25:YPOKRISIS
34: DIPLI
25:KREMASTI
25:APESO EKFONITIKON
25:EXO EKFONITIKON
25:TELEIA
25:KENTIMATA
25:APOSTROFOS
35: DIPLI
25:SYNEVMA
25:THITA
25:OLIGON ARCHAION
25:GORGON ARCHAION
25:PSILON
25:CHAMILON
25:VATHY
25:ISON ARCHAION
25:KENTIMA ARCHAION
32:TA ARCHAION
25:SAXIMATA
25:PARICHON
25:STAVROS APODEXIA
25:OXEIAI ARCHAION
25:VAREIAI ARCHAION
25:APODERMA ARCHAION
28:THEMA
25:KLASMA
25:REVMA
25:PIASMA ARCHAION
25:TINAGMA
25:ANATRICHISMA
25:SEISMA
26:YNAGMA ARCHAION
33:META STAVROU
25:OYRANISMA ARCHAION
25:THEMA
25:LEMOI
25:DYO
25:TRIA
26:ESSERA
25:KRATIMATA
25:APESO EXO NEO
25:FTHORA ARCHAION
25:IMIFTHORA
25:TROMIKON ARCHAION
25:KATAVA TROMIKON
25:PELASTON
26:SIFISTON
25:KONTEVMA
25:CHOREVMA ARCHAION
25:RAPISMA
25:PARAKALESMA ARCHAION
30:LITIKI ARCHAION
25:ICHADIN
25:NANA
25:PETASMA
25:KONTEVMA ALLO
25:TROMIKON ALLO
25:STRAGGISMATA
25:GRONTHISMATA
25:ISON NEO
25:OLIGON NEO
26:XEIA NEO
25:PETASTI
25:KOUFISMA
25:PETASTOKOUFISMA
25:KRATIMOKOUFISMA
25:PELASTON NEO
25:KENTIMATA NEO ANO
32: NEO ANO
25:YPSILI
25:APOSTROFOS NEO
34:I SYNDESMOS NEO
25:YPORROI
25:KRATIMOYPORROON
25:ELAFRON
25:CHAMILI
25:MIKRON ISON
25:VAREIA NEO
25:PIASMA NEO
26:SIFISTON NEO
25:OMALON
25:ANTIKENOMA
25:LYGISMA
25:PARAKLITIKI NEO
30:ALESMA NEO
25:ETERON PARAKALESMA
25:KYLISMA
25:ANTIKENOKYLISMA
25:TROMIKON NEO
25:EKSTREPTON
25:SYNAGMA NEO
27:RMA
25:CHOREVMA NEO
25:EPEGERMA
25:SEISMA NEO
25:XIRON KLASMA
25:TROMIKOPSIFISTON
25:PSIFISTOLYGISMA
25:TROMIKOLYGISMA
32:PARAKALESMA
25:PSIFISTOPARAKALESMA
25:TROMIKOSYNAGMA
25:PSIFISTOSYNAGMA
25:GORGOSYNTHETON
25:ARGOSYNTHETON
25:ETERON ARGOSYNTHETON
25:OYRANISMA NEO
25:THEMATISMOS ESO
38:XO
30: APLOUN
28:S KAI APOTHES
25:KATAVASMA
25:ENDOFONON
25:YFEN KATO
30:ANO
25:STAVROS
25:KLASMA ANO
25:DIPLI ARCHAION
25:KRATIMA ARCHAION
34:LLO
33:NEO
25:APODERMA NEO
27:LI
25:DIPLI
25:TRIPLI
26:ETRAPLI
25:KORONIS
25:LEIMMA ENOS CHRONOU
32:DYO CHRONON
32:TRION CHRONON
33:ESSARON CHRONON
32:IMISEOS CHRONOU
25:GORGON NEO ANO
32:PARESTIGMENON ARISTERA
46:DEXIA
25:DIGORGON
33: PARESTIGMENON ARISTERA KATO
57:ANO
48:DEXIA
25:TRIGORGON
25:ARGON
25:IMIDIARGON
25:DIARGON
25:AGOGI POLI ARGI
31:ARGOTERI
34:I
31:METRIA
33:SI
31:GORGI
35:OTERI
31:POLI GORGI
25:MARTYRIA PROTOS ICHOS
34:ALLI PROTOS ICHOS
34:DEYTEROS ICHOS
34:ALLI DEYTEROS ICHOS
34:TRITOS ICHOS
37:FONIAS
35:ETARTOS ICHOS
43:LEGETOS ICHOS
34:LEGETOS ICHOS
34:PLAGIOS ICHOS
25:ISAKIA TELOUS ICHIMATOS
25:APOSTROFOI TELOUS ICHIMATOS
25:FANEROSIS TETRAFONIAS
35:MONOFONIAS
35:DIFONIAS
25:MARTYRIA VARYS ICHOS
34:PROTOVARYS ICHOS
35:LAGIOS TETARTOS ICHOS
25:GORTHMIKON N APLOUN
38:DIPLOUN
25:ENARXIS KAI FTHORA VOU
25:IMIFONON
29:THORON
25:FTHORA ARCHAION DEYTEROU ICHOU
32:DIATONIKI PA
42:NANA
32:NAOS ICHOS
32:DIATONIKI DI
32:SKLIRON DIATONON DI
32:DIATONIKI KE
42:ZO
42:NI KATO
45:ANO
32:MALAKON CHROMA DIFONIAS
47:MONOFONIAS
26:HTORA SKLIRON CHROMA VASIS
26:THORA SKLIRON CHROMA SYNAFI
32:NENANO
25:CHROA ZYGOS
31:KLITON
31:SPATHI
25:FTHORA I YFESIS TETARTIMORION
32:ENARMONIOS ANTIFONIA
25:YFESIS TRITIMORION
25:DIESIS TRITIMORION
33:ETARTIMORION
32:APLI DYO DODEKATA
32:MONOGRAMMOS TESSERA DODEKATA
32:DIGRAMMOS EX DODEKATA
32:TRIGRAMMOS OKTO DODEKATA
25:YFESIS APLI DYO DODEKATA
32:MONOGRAMMOS TESSERA DODEKATA
32:DIGRAMMOS EX DODEKATA
32:TRIGRAMMOS OKTO DODEKATA
25:GENIKI DIESIS
32:YFESIS
25:DIASTOLI APLI MIKRI
40:EGALI
34:DIPLI
34:THESEOS
25:SIMANSIS THESEOS
41: DISIMOU
42:TRISIMOU
43:ETRASIMOU
34:ARSEOS
40: DISIMOU
41:TRISIMOU
42:ETRASIMOU
25:DIGRAMMA GG
27:FTOGGOS OU
25:STIGMA
25:ARKTIKO PA
33:VOU
33:GA
33:DI
33:KE
33:ZO
33:NI
25:KENTIMATA NEO MESO
32: NEO MESO
32:TA NEO KATO
32: NEO KATO
26:LASMA KATO
25:GORGON NEO KATO
@1D100
0:MUSICAL SYMBOL SINGLE BARLINE
15:DOUBLE BARLINE
15:FINAL BARLINE
15:REVERSE FINAL BARLINE
15:DASHED BARLINE
15:SHORT BARLINE
15:LEFT REPEAT SIGN
15:RIGHT REPEAT SIGN
16:EPEAT DOTS
15:DAL SEGNO
17: CAPO
15:SEGNO
15:CODA
15:REPEATED FIGURE-1
31:2
31:3
15:FERMATA
22: BELOW
15:BREATH MARK
15:CAESURA
15:BRACE
19:KET
15:ONE-LINE STAFF
15:TWO-LINE STAFF
16:HREE-LINE STAFF
15:FOUR-LINE STAFF
16:IVE-LINE STAFF
15:SIX-LINE STAFF
19:STRING FRETBOARD
15:FOUR-STRING FRETBOARD
15:G CLEF
21: OTTAVA ALTA
29:BASSA
15:C CLEF
15:F CLEF
21: OTTAVA ALTA
29:BASSA
15:DRUM CLEF-1
25:2
@1D129
15:MULTIPLE MEASURE REST
15:DOUBLE SHARP
22:FLAT
15:FLAT UP
20:DOWN
15:NATURAL UP
23:DOWN
15:SHARP UP
21:DOWN
15:QUARTER TONE SHARP
28:FLAT
15:COMMON TIME
16:UT TIME
15:OTTAVA ALTA
22:BASSA
15:QUINDICESIMA ALTA
28:BASSA
15:MULTI REST
15:WHOLE REST
15:HALF REST
15:QUARTER REST
15:EIGHTH REST
15:SIXTEENTH REST
15:THIRTY-SECOND REST
15:SIXTY-FOURTH REST
15:ONE HUNDRED TWENTY-EIGHTH REST
15:X NOTEHEAD
15:PLUS NOTEHEAD
15:CIRCLE X NOTEHEAD
15:SQUARE NOTEHEAD WHITE
31:BLACK
15:TRIANGLE NOTEHEAD UP WHITE
36:BLACK
33:LEFT WHITE
38:BLACK
33:RIGHT WHITE
39:BLACK
33:DOWN WHITE
38:BLACK
33:UP RIGHT WHITE
42:BLACK
15:MOON NOTEHEAD WHITE
29:BLACK
15:TRIANGLE-ROUND NOTEHEAD DOWN WHITE
44:BLACK
15:PARENTHESIS NOTEHEAD
15:VOID NOTEHEAD
15:NOTEHEAD BLACK
16:ULL NOTEHEAD
15:CLUSTER NOTEHEAD WHITE
32:BLACK
15:BREVE
15:WHOLE NOTE
15:HALF NOTE
15:QUARTER NOTE
15:EIGHTH NOTE
15:SIXTEENTH NOTE
15:THIRTY-SECOND NOTE
15:SIXTY-FOURTH NOTE
15:ONE HUNDRED TWENTY-EIGHTH NOTE
15:COMBINING STEM
26:PRECHGESANG STEM
25:TREMOLO-1
33:2
33:3
15:FINGERED TREMOLO-1
32:2
32:3
15:COMBINING AUGMENTATION DOT
25:FLAG-1
30:2
30:3
30:4
30:5
15:BEGIN BEAM
15:END BEAM
15:BEGIN TIE
15:END TIE
15:BEGIN SLUR
15:END SLUR
15:BEGIN PHRASE
15:END PHRASE
15:COMBINING ACCENT
25:STACCATO
25:TENUTO
25:STACCATISSIMO
25:MARCATO
32:-STACCATO
25:ACCENT-STACCATO
25:LOURE
15:ARPEGGIATO UP
26:DOWN
15:COMBINING DOIT
25:RIP
25:FLIP
25:SMEAR
25:BEND
25:DOUBLE TONGUE
25:TRIPLE TONGUE
15:RINFORZANDO
15:SUBITO
15:Z
15:PIANO
15:MEZZO
15:FORTE
15:CRESCENDO
15:DECRESCENDO
15:GRACE NOTE SLASH
26:NO SLASH
15:TR
16:URN
15:INVERTED TURN
15:TURN SLASH
20:UP
15:ORNAMENT STROKE-1
31:2
31:3
31:4
31:5
31:6
31:7
31:8
31:9
31:10
32:1
15:HAUPTSTIMME
15:NEBENSTIMME
15:END OF STIMME
15:DEGREE SLASH
15:COMBINING DOWN BOW
25:UP BOW
25:HARMONIC
25:SNAP PIZZICATO
15:PEDAL MARK
21:UP MARK
15:HALF PEDAL MARK
15:GLISSANDO UP
25:DOWN
15:WITH FINGERNAILS
15:DAMP
19: ALL
15:MAXIMA
15:LONGA
15:BREVIS
15:SEMIBREVIS WHITE
26:BLACK
15:MINIMA
21: BLACK
15:SEMIMINIMA WHITE
26:BLACK
15:FUSA WHITE
20:BLACK
15:LONGA PERFECTA REST
21:IMPERFECTA REST
15:BREVIS REST
15:SEMIBREVIS REST
15:MINIMA REST
15:SEMIMINIMA REST
15:TEMPUS PERFECTUM CUM PROLATIONE PERFECTA
47:IMPERFECTA
47:PERFECTA DIMINUTION-1
22:IMPERFECTUM CUM PROLATIONE PERFECTA
49:IMPERFECTA
59: DIMINUTION-1
71:2
71:3
15:CROIX
15:GREGORIAN C CLEF
25:F CLEF
15:SQUARE B
15:VIRGA
15:PODATUS
15:CLIVIS
15:SCANDICUS
15:CLIMACUS
15:TORCULUS
15:PORRECTUS
24: FLEXUS
15:SCANDICUS FLEXUS
15:TORCULUS RESUPINUS
15:PES SUBPUNCTIS
15:KIEVAN C CLEF
22:END OF PIECE
22:FINAL NOTE
22:RECITATIVE MARK
22:WHOLE NOTE
22:HALF NOTE
22:QUARTER NOTE STEM DOWN
40:UP
22:EIGHTH NOTE STEM DOWN
39:UP
22:FLAT SIGN
15:SORI
15:KORON
@1D200
0:GREEK VOCAL NOTATION SYMBOL-1
28:2
28:3
28:4
28:5
28:6
28:7
28:8
28:9
28:10
29:1
29:2
29:3
29:4
29:5
29:6
29:7
29:8
29:9
28:20
29:1
29:2
29:3
29:4
28:50
29:1
29:2
29:3
29:4
6:INSTRUMENTAL NOTATION SYMBOL-1
35:2
35:4
35:5
35:7
35:8
35:11
36:2
36:3
36:4
36:7
36:8
36:9
35:23
36:4
36:5
36:6
36:7
36:9
35:30
36:2
36:6
36:7
36:8
36:9
35:40
36:2
36:3
36:5
36:7
36:8
36:9
35:50
36:1
36:2
36:3
36:4
0:COMBINING GREEK MUSICAL TRISEME
25:ETRASEME
24:PENTASEME
0:GREEK MUSICAL LEIMMA
@1D2E0
0:MAYAN NUMERAL ZERO
14:ONE
14:TWO
15:HREE
14:FOUR
15:IVE
14:SIX
15:EVEN
14:EIGHT
14:NINE
14:TEN
14:ELEVEN
14:TWELVE
15:HIRTEEN
14:FOURTEEN
15:IFTEEN
14:SIXTEEN
15:EVENTEEN
14:EIGHTEEN
14:NINETEEN
@1D300
1:ONOGRAM FOR EARTH
0:DIGRAM FOR HEAVENLY EARTH
12:UMAN EARTH
11:EARTHLY HEAVEN
20:UMAN
16:
0:TETRAGRAM FOR CENTRE
14:FULL CIRCLE
14:MIRED
14:BARRIER
14:KEEPING SMALL
14:CONTRARIETY
14:ASCENT
14:OPPOSITION
14:BRANCHING OUT
14:DEFECTIVENESS OR DISTORTION
15:IVERGENCE
14:YOUTHFULNESS
14:INCREASE
14:PENETRATION
14:REACH
14:CONTACT
14:HOLDING BACK
14:WAITING
14:FOLLOWING
14:ADVANCE
14:RELEASE
16:SISTANCE
14:EASE
14:JOY
14:CONTENTION
14:ENDEAVOUR
14:DUTIES
14:CHANGE
14:DECISIVENESS
14:BOLD RESOLUTION
14:PACKING
14:LEGION
14:CLOSENESS
14:KINSHIP
14:GATHERING
14:STRENGTH
14:PURITY
14:FULLNESS
14:RESIDENCE
14:LAW OR MODEL
14:RESPONSE
14:GOING TO MEET
14:ENCOUNTERS
14:STOVE
14:GREATNESS
14:ENLARGEMENT
14:PATTERN
14:RITUAL
14:FLIGHT
14:VASTNESS OR WASTING
14:CONSTANCY
14:MEASURE
14:ETERNITY
14:UNITY
14:DIMINISHMENT
14:CLOSED MOUTH
14:GUARDEDNESS
15:ATHERING IN
14:MASSING
14:ACCUMULATION
14:EMBELLISHMENT
14:DOUBT
14:WATCH
14:SINKING
14:INNER
14:DEPARTURE
15:ARKENING
15:IMMING
14:EXHAUSTION
14:SEVERANCE
15:TOPPAGE
14:HARDNESS
14:COMPLETION
15:LOSURE
14:FAILURE
14:AGGRAVATION
14:COMPLIANCE
14:ON THE VERGE
14:DIFFICULTIES
14:LABOURING
14:FOSTERING
@1D360
0:COUNTING ROD UNIT DIGIT ONE
24:TWO
25:HREE
24:FOUR
25:IVE
24:SIX
25:EVEN
24:EIGHT
24:NINE
13:TENS DIGIT ONE
24:TWO
25:HREE
24:FOUR
25:IVE
24:SIX
25:EVEN
24:EIGHT
24:NINE
0:IDEOGRAPHIC TALLY MARK ONE
23:TWO
24:HREE
23:FOUR
24:IVE
0:TALLY MARK ONE
11:FIVE
@1D400
0:MATHEMATICAL BOLD CAPITAL A
26:B
26:C
26:D
26:E
26:F
26:G
26:H
26:I
26:J
26:K
26:L
26:M
26:N
26:O
26:P
26:Q
26:R
26:S
26:T
26:U
26:V
26:W
26:X
26:Y
26:Z
18:SMALL A
24:B
24:C
24:D
24:E
24:F
24:G
24:H
24:I
24:J
24:K
24:L
24:M
24:N
24:O
24:P
24:Q
24:R
24:S
24:T
24:U
24:V
24:W
24:X
24:Y
24:Z
13:ITALIC CAPITAL A
28:B
28:C
28:D
28:E
28:F
28:G
28:H
28:I
28:J
28:K
28:L
28:M
28:N
28:O
28:P
28:Q
28:R
28:S
28:T
28:U
28:V
28:W
28:X
28:Y
28:Z
20:SMALL A
26:B
26:C
26:D
26:E
26:F
26:G
@1D456
26:I
26:J
26:K
26:L
26:M
26:N
26:O
26:P
26:Q
26:R
26:S
26:T
26:U
26:V
26:W
26:X
26:Y
26:Z
13:BOLD ITALIC CAPITAL A
33:B
33:C
33:D
33:E
33:F
33:G
33:H
33:I
33:J
33:K
33:L
33:M
33:N
33:O
33:P
33:Q
33:R
33:S
33:T
33:U
33:V
33:W
33:X
33:Y
33:Z
25:SMALL A
31:B
31:C
31:D
31:E
31:F
31:G
31:H
31:I
31:J
31:K
31:L
31:M
31:N
31:O
31:P
31:Q
31:R
31:S
31:T
31:U
31:V
31:W
31:X
31:Y
31:Z
13:SCRIPT CAPITAL A
@1D49E
28:C
28:D
@1D4A2
28:G
@1D4A5
28:J
28:K
@1D4A9
28:N
28:O
28:P
28:Q
@1D4AE
28:S
28:T
28:U
28:V
28:W
28:X
28:Y
28:Z
20:SMALL A
26:B
26:C
26:D
@1D4BB
26:F
@1D4BD
26:H
26:I
26:J
26:K
26:L
26:M
26:N
@1D4C5
26:P
26:Q
26:R
26:S
26:T
26:U
26:V
26:W
26:X
26:Y
26:Z
13:BOLD SCRIPT CAPITAL A
33:B
33:C
33:D
33:E
33:F
33:G
33:H
33:I
33:J
33:K
33:L
33:M
33:N
33:O
33:P
33:Q
33:R
33:S
33:T
33:U
33:V
33:W
33:X
33:Y
33:Z
25:SMALL A
31:B
31:C
31:D
31:E
31:F
31:G
31:H
31:I
31:J
31:K
31:L
31:M
31:N
31:O
31:P
31:Q
31:R
31:S
31:T
31:U
31:V
31:W
31:X
31:Y
31:Z
13:FRAKTUR CAPITAL A
29:B
@1D507
29:D
29:E
29:F
29:G
@1D50D
29:J
29:K
29:L
29:M
29:N
29:O
29:P
29:Q
@1D516
29:S
29:T
29:U
29:V
29:W
29:X
29:Y
@1D51E
21:SMALL A
27:B
27:C
27:D
27:E
27:F
27:G
27:H
27:I
27:J
27:K
27:L
27:M
27:N
27:O
27:P
27:Q
27:R
27:S
27:T
27:U
27:V
27:W
27:X
27:Y
27:Z
13:DOUBLE-STRUCK CAPITAL A
35:B
@1D53B
35:D
35:E
35:F
35:G
@1D540
35:I
35:J
35:K
35:L
35:M
@1D546
35:O
@1D54A
35:S
35:T
35:U
35:V
35:W
35:X
35:Y
@1D552
27:SMALL A
33:B
33:C
33:D
33:E
33:F
33:G
33:H
33:I
33:J
33:K
33:L
33:M
33:N
33:O
33:P
33:Q
33:R
33:S
33:T
33:U
33:V
33:W
33:X
33:Y
33:Z
13:BOLD FRAKTUR CAPITAL A
34:B
34:C
34:D
34:E
34:F
34:G
34:H
34:I
34:J
34:K
34:L
34:M
34:N
34:O
34:P
34:Q
34:R
34:S
34:T
34:U
34:V
34:W
34:X
34:Y
34:Z
26:SMALL A
32:B
32:C
32:D
32:E
32:F
32:G
32:H
32:I
32:J
32:K
32:L
32:M
32:N
32:O
32:P
32:Q
32:R
32:S
32:T
32:U
32:V
32:W
32:X
32:Y
32:Z
13:SANS-SERIF CAPITAL A
32:B
32:C
32:D
32:E
32:F
32:G
32:H
32:I
32:J
32:K
32:L
32:M
32:N
32:O
32:P
32:Q
32:R
32:S
32:T
32:U
32:V
32:W
32:X
32:Y
32:Z
24:SMALL A
30:B
30:C
30:D
30:E
30:F
30:G
30:H
30:I
30:J
30:K
30:L
30:M
30:N
30:O
30:P
30:Q
30:R
30:S
30:T
30:U
30:V
30:W
30:X
30:Y
30:Z
24:BOLD CAPITAL A
37:B
37:C
37:D
37:E
37:F
37:G
37:H
37:I
37:J
37:K
37:L
37:M
37:N
37:O
37:P
37:Q
37:R
37:S
37:T
37:U
37:V
37:W
37:X
37:Y
37:Z
29:SMALL A
35:B
35:C
35:D
35:E
35:F
35:G
35:H
35:I
35:J
35:K
35:L
35:M
35:N
35:O
35:P
35:Q
35:R
35:S
35:T
35:U
35:V
35:W
35:X
35:Y
35:Z
24:ITALIC CAPITAL A
39:B
39:C
39:D
39:E
39:F
39:G
39:H
39:I
39:J
39:K
39:L
39:M
39:N
39:O
39:P
39:Q
39:R
39:S
39:T
39:U
39:V
39:W
39:X
39:Y
39:Z
31:SMALL A
37:B
37:C
37:D
37:E
37:F
37:G
37:H
37:I
37:J
37:K
37:L
37:M
37:N
37:O
37:P
37:Q
37:R
37:S
37:T
37:U
37:V
37:W
37:X
37:Y
37:Z
24:BOLD ITALIC CAPITAL A
44:B
44:C
44:D
44:E
44:F
44:G
44:H
44:I
44:J
44:K
44:L
44:M
44:N
44:O
44:P
44:Q
44:R
44:S
44:T
44:U
44:V
44:W
44:X
44:Y
44:Z
36:SMALL A
42:B
42:C
42:D
42:E
42:F
42:G
42:H
42:I
42:J
42:K
42:L
42:M
42:N
42:O
42:P
42:Q
42:R
42:S
42:T
42:U
42:V
42:W
42:X
42:Y
42:Z
13:MONOSPACE CAPITAL A
31:B
31:C
31:D
31:E
31:F
31:G
31:H
31:I
31:J
31:K
31:L
31:M
31:N
31:O
31:P
31:Q
31:R
31:S
31:T
31:U
31:V
31:W
31:X
31:Y
31:Z
23:SMALL A
29:B
29:C
29:D
29:E
29:F
29:G
29:H
29:I
29:J
29:K
29:L
29:M
29:N
29:O
29:P
29:Q
29:R
29:S
29:T
29:U
29:V
29:W
29:X
29:Y
29:Z
13:ITALIC SMALL DOTLESS I
34:J
@1D6A8
13:BOLD CAPITAL ALPHA
26:BETA
26:GAMMA
26:DELTA
26:EPSILON
26:ZETA
26:ETA
26:THETA
26:IOTA
26:KAPPA
26:LAMDA
26:MU
26:NU
26:XI
26:OMICRON
26:PI
26:RHO
26:THETA SYMBOL
26:SIGMA
26:TAU
26:UPSILON
26:PHI
26:CHI
26:PSI
26:OMEGA
18:NABLA
18:SMALL ALPHA
24:BETA
24:GAMMA
24:DELTA
24:EPSILON
24:ZETA
24:ETA
24:THETA
24:IOTA
24:KAPPA
24:LAMDA
24:MU
24:NU
24:XI
24:OMICRON
24:PI
24:RHO
24:FINAL SIGMA
24:SIGMA
24:TAU
24:UPSILON
24:PHI
24:CHI
24:PSI
24:OMEGA
18:PARTIAL DIFFERENTIAL
18:EPSILON SYMBOL
18:THETA SYMBOL
18:KAPPA SYMBOL
18:PHI SYMBOL
18:RHO SYMBOL
18:PI SYMBOL
13:ITALIC CAPITAL ALPHA
28:BETA
28:GAMMA
28:DELTA
28:EPSILON
28:ZETA
28:ETA
28:THETA
28:IOTA
28:KAPPA
28:LAMDA
28:MU
28:NU
28:XI
28:OMICRON
28:PI
28:RHO
28:THETA SYMBOL
28:SIGMA
28:TAU
28:UPSILON
28:PHI
28:CHI
28:PSI
28:OMEGA
20:NABLA
20:SMALL ALPHA
26:BETA
26:GAMMA
26:DELTA
26:EPSILON
26:ZETA
26:ETA
26:THETA
26:IOTA
26:KAPPA
26:LAMDA
26:MU
26:NU
26:XI
26:OMICRON
26:PI
26:RHO
26:FINAL SIGMA
26:SIGMA
26:TAU
26:UPSILON
26:PHI
26:CHI
26:PSI
26:OMEGA
20:PARTIAL DIFFERENTIAL
20:EPSILON SYMBOL
20:THETA SYMBOL
20:KAPPA SYMBOL
20:PHI SYMBOL
20:RHO SYMBOL
20:PI SYMBOL
13:BOLD ITALIC CAPITAL ALPHA
33:BETA
33:GAMMA
33:DELTA
33:EPSILON
33:ZETA
33:ETA
33:THETA
33:IOTA
33:KAPPA
33:LAMDA
33:MU
33:NU
33:XI
33:OMICRON
33:PI
33:RHO
33:THETA SYMBOL
33:SIGMA
33:TAU
33:UPSILON
33:PHI
33:CHI
33:PSI
33:OMEGA
25:NABLA
25:SMALL ALPHA
31:BETA
31:GAMMA
31:DELTA
31:EPSILON
31:ZETA
31:ETA
31:THETA
31:IOTA
31:KAPPA
31:LAMDA
31:MU
31:NU
31:XI
31:OMICRON
31:PI
31:RHO
31:FINAL SIGMA
31:SIGMA
31:TAU
31:UPSILON
31:PHI
31:CHI
31:PSI
31:OMEGA
25:PARTIAL DIFFERENTIAL
25:EPSILON SYMBOL
25:THETA SYMBOL
25:KAPPA SYMBOL
25:PHI SYMBOL
25:RHO SYMBOL
25:PI SYMBOL
13:SANS-SERIF BOLD CAPITAL ALPHA
37:BETA
37:GAMMA
37:DELTA
37:EPSILON
37:ZETA
37:ETA
37:THETA
37:IOTA
37:KAPPA
37:LAMDA
37:MU
37:NU
37:XI
37:OMICRON
37:PI
37:RHO
37:THETA SYMBOL
37:SIGMA
37:TAU
37:UPSILON
37:PHI
37:CHI
37:PSI
37:OMEGA
29:NABLA
29:SMALL ALPHA
35:BETA
35:GAMMA
35:DELTA
35:EPSILON
35:ZETA
35:ETA
35:THETA
35:IOTA
35:KAPPA
35:LAMDA
35:MU
35:NU
35:XI
35:OMICRON
35:PI
35:RHO
35:FINAL SIGMA
35:SIGMA
35:TAU
35:UPSILON
35:PHI
35:CHI
35:PSI
35:OMEGA
29:PARTIAL DIFFERENTIAL
29:EPSILON SYMBOL
29:THETA SYMBOL
29:KAPPA SYMBOL
29:PHI SYMBOL
29:RHO SYMBOL
29:PI SYMBOL
29:ITALIC CAPITAL ALPHA
44:BETA
44:GAMMA
44:DELTA
44:EPSILON
44:ZETA
44:ETA
44:THETA
44:IOTA
44:KAPPA
44:LAMDA
44:MU
44:NU
44:XI
44:OMICRON
44:PI
44:RHO
44:THETA SYMBOL
44:SIGMA
44:TAU
44:UPSILON
44:PHI
44:CHI
44:PSI
44:OMEGA
36:NABLA
36:SMALL ALPHA
42:BETA
42:GAMMA
42:DELTA
42:EPSILON
42:ZETA
42:ETA
42:THETA
42:IOTA
42:KAPPA
42:LAMDA
42:MU
42:NU
42:XI
42:OMICRON
42:PI
42:RHO
42:FINAL SIGMA
42:SIGMA
42:TAU
42:UPSILON
42:PHI
42:CHI
42:PSI
42:OMEGA
36:PARTIAL DIFFERENTIAL
36:EPSILON SYMBOL
36:THETA SYMBOL
36:KAPPA SYMBOL
36:PHI SYMBOL
36:RHO SYMBOL
36:PI SYMBOL
13:BOLD CAPITAL DIGAMMA
18:SMALL DIGAMMA
@1D7CE
18:DIGIT ZERO
24:ONE
24:TWO
25:HREE
24:FOUR
25:IVE
24:SIX
25:EVEN
24:EIGHT
24:NINE
13:DOUBLE-STRUCK DIGIT ZERO
33:ONE
33:TWO
34:HREE
33:FOUR
34:IVE
33:SIX
34:EVEN
33:EIGHT
33:NINE
13:SANS-SERIF DIGIT ZERO
30:ONE
30:TWO
31:HREE
30:FOUR
31:IVE
30:SIX
31:EVEN
30:EIGHT
30:NINE
24:BOLD DIGIT ZERO
35:ONE
35:TWO
36:HREE
35:FOUR
36:IVE
35:SIX
36:EVEN
35:EIGHT
35:NINE
13:MONOSPACE DIGIT ZERO
29:ONE
29:TWO
30:HREE
29:FOUR
30:IVE
29:SIX
30:EVEN
29:EIGHT
29:NINE
0:SIGNWRITING HAND-FIST INDEX
17:CIRCLE INDEX
18:UP INDEX
17:OVAL INDEX
17:HINGE INDEX
17:ANGLE INDEX
17:FIST INDEX BENT
17:CIRCLE INDEX BENT
17:FIST THUMB UNDER INDEX BENT
22:INDEX RAISED KNUCKLE
28:CUPPED
28:HINGED
34: LOW
17:CIRCLE INDEX HINGE
17:FIST INDEX MIDDLE
17:CIRCLE INDEX MIDDLE
17:FIST INDEX MIDDLE BENT
35:RAISED KNUCKLES
35:HINGED
28:UP MIDDLE HINGED
28:HINGED MIDDLE UP
28:MIDDLE CONJOINED
44: INDEX BENT
45:MIDDLE BENT
45:CUPPED
45:HINGED
36:ROSSED
17:CIRCLE INDEX MIDDLE CROSSED
17:FIST MIDDLE BENT OVER INDEX
22:INDEX BENT OVER MIDDLE
28:MIDDLE THUMB
17:CIRCLE INDEX MIDDLE THUMB
17:FIST INDEX MIDDLE STRAIGHT THUMB BENT
35:BENT THUMB STRAIGHT
35:THUMB BENT
35:HINGED SPREAD THUMB SIDE
28:UP MIDDLE HINGED THUMB SIDE
51:CONJOINED
28:HINGED MIDDLE UP THUMB SIDE
28:MIDDLE UP SPREAD THUMB FORWARD
35:THUMB CUPPED
42:IRCLED
41:HOOKED
42:INGED
22:THUMB BETWEEN INDEX MIDDLE STRAIGHT
22:INDEX MIDDLE CONJOINED THUMB SIDE
55: CONJOINED
56:BENT
22:MIDDLE THUMB HOOKED INDEX UP
22:INDEX THUMB HOOKED MIDDLE UP
28:MIDDLE CONJOINED HINGED THUMB SIDE
36:ROSSED THUMB SIDE
36:ONJOINED THUMB FORWARD
45:CUPPED THUMB FORWARD
22:MIDDLE THUMB CUPPED INDEX UP
22:INDEX THUMB CUPPED MIDDLE UP
22:MIDDLE THUMB CIRCLED INDEX UP
49:HINGED
22:INDEX THUMB ANGLED OUT MIDDLE UP
41:IN MIDDLE UP
34:CIRCLED MIDDLE UP
28:MIDDLE THUMB CONJOINED HINGED
41:ANGLED OUT
47:
22:MIDDLE THUMB ANGLED OUT INDEX UP
52:CROSSED
42:INDEX UP
22:INDEX THUMB HOOKED MIDDLE HINGED
18:LAT FOUR FINGERS
34: BENT
35:HINGED
35:CONJOINED
44: SPLIT
17:CLAW FOUR FINGERS CONJOINED
17:FIST FOUR FINGERS CONJOINED BENT
17:HINGE FOUR FINGERS CONJOINED
17:FLAT FIVE FINGERS SPREAD
22:HEEL FIVE FINGERS SPREAD
22:FIVE FINGERS SPREAD FOUR BENT
22:HEEL FIVE FINGERS SPREAD FOUR BENT
22:FIVE FINGERS SPREAD BENT
22:HEEL FIVE FINGERS SPREAD BENT
22:FIVE FINGERS SPREAD THUMB FORWARD
17:CUP FIVE FINGERS SPREAD
40: OPEN
17:HINGE FIVE FINGERS SPREAD OPEN
17:OVAL FIVE FINGERS SPREAD
17:FLAT FIVE FINGERS SPREAD HINGED
48: THUMB SIDE
49:NO THUMB
21:
21: BETWEEN PALM FACINGS
22:HEEL
22:THUMB SIDE
22:HEEL THUMB SIDE
22:THUMB BENT
28:FORWARD
22:SPLIT INDEX THUMB SIDE
28:CENTRE
34: THUMB SIDE
45: BENT
28:LITTLE
17:CLAW
21: THUMB SIDE
22:NO THUMB
22:THUMB FORWARD
17:HOOK CURLICUE
21:
17:CUP OPEN
20:
20: OPEN THUMB SIDE
21:THUMB SIDE
21:OPEN NO THUMB
21:NO THUMB
21:OPEN THUMB FORWARD
21:THUMB FORWARD
19:RLICUE OPEN
25:
18:IRCLE
17:OVAL
21: THUMB SIDE
22:NO THUMB
22:THUMB FORWARD
17:HINGE OPEN
27: THUMB FORWARD
22:
22: SMALL
23:OPEN THUMB SIDE
23:THUMB SIDE
23:OPEN NO THUMB
23:NO THUMB
23:THUMB SIDE TOUCHING INDEX
29:BETWEEN MIDDLE RING
17:ANGLE
17:FIST INDEX MIDDLE RING
17:CIRCLE INDEX MIDDLE RING
17:HINGE INDEX MIDDLE RING
17:ANGLE INDEX MIDDLE RING
17:HINGE LITTLE
17:FIST INDEX MIDDLE RING BENT
40:CONJOINED
17:HINGE INDEX MIDDLE RING CONJOINED
17:FIST LITTLE DOWN
33: RIPPLE STRAIGHT
41:CURVED
34:OTHERS CIRCLED
29:UP
22:THUMB UNDER LITTLE UP
17:CIRCLE LITTLE UP
17:OVAL LITTLE UP
17:ANGLE LITTLE UP
17:FIST LITTLE RAISED KNUCKLE
29:BENT
29:TOUCHES THUMB
30:HUMB
17:HINGE LITTLE THUMB
17:FIST LITTLE INDEX THUMB
17:HINGE LITTLE INDEX THUMB
17:ANGLE LITTLE INDEX THUMB INDEX THUMB OUT
53:
17:FIST LITTLE INDEX
17:CIRCLE LITTLE INDEX
17:HINGE LITTLE INDEX
17:ANGLE LITTLE INDEX
17:FIST INDEX MIDDLE LITTLE
17:CIRCLE INDEX MIDDLE LITTLE
17:HINGE INDEX MIDDLE LITTLE
23:RING
17:ANGLE INDEX MIDDLE LITTLE
17:FIST INDEX MIDDLE CROSS LITTLE
17:CIRCLE INDEX MIDDLE CROSS LITTLE
17:FIST RING DOWN
17:HINGE RING DOWN INDEX THUMB HOOK MIDDLE
17:ANGLE RING DOWN MIDDLE THUMB INDEX CROSS
17:FIST RING UP
27:RAISED KNUCKLE
27:LITTLE
17:CIRCLE RING LITTLE
17:OVAL RING LITTLE
17:ANGLE RING LITTLE
17:FIST RING MIDDLE
33: CONJOINED
34:RAISED KNUCKLES
27:INDEX
27:THUMB
17:HOOK RING THUMB
17:FIST INDEX RING LITTLE
17:CIRCLE INDEX RING LITTLE
18:URLICUE INDEX RING LITTLE ON
17:HOOK INDEX RING LITTLE OUT
40:IN
40:UNDER
17:CUP INDEX RING LITTLE
17:HINGE INDEX RING LITTLE
17:ANGLE INDEX RING LITTLE OUT
40:
17:FIST MIDDLE DOWN
17:HINGE MIDDLE
17:FIST MIDDLE UP
17:CIRCLE MIDDLE UP
17:FIST MIDDLE RAISED KNUCKLE
29:UP THUMB SIDE
17:HOOK MIDDLE THUMB
17:FIST MIDDLE THUMB LITTLE
29:LITTLE
29:RING LITTLE
17:CIRCLE MIDDLE RING LITTLE
18:URLICUE MIDDLE RING LITTLE ON
19:P MIDDLE RING LITTLE
17:HINGE MIDDLE RING LITTLE
17:ANGLE MIDDLE RING LITTLE OUT
42:IN
41:
17:CIRCLE MIDDLE RING LITTLE BENT
18:LAW MIDDLE RING LITTLE CONJOINED
50: SIDE
17:HOOK MIDDLE RING LITTLE CONJOINED OUT
51:IN
50:
18:INGE INDEX HINGED
17:FIST INDEX THUMB SIDE
17:HINGE INDEX THUMB SIDE
17:FIST INDEX THUMB SIDE THUMB DIAGONAL
45:CONJOINED
45:BENT
39:INDEX BENT
39:BOTH BENT
39:INDEX HINGE
34:FORWARD INDEX STRAIGHT
48:BENT
34:HOOK
34:CURLICUE
37:VE THUMB INSIDE
17:CLAW INDEX THUMB CURVE THUMB INSIDE
17:FIST INDEX THUMB CURVE THUMB UNDER
35:IRCLE
17:CUP INDEX THUMB
32: OPEN
17:HINGE INDEX THUMB OPEN
35:LARGE
34:
34: SMALL
17:ANGLE INDEX THUMB OUT
35:IN
34:
17:FIST THUMB
27: HEEL
28:SIDE DIAGONAL
33:CONJOINED
33:BENT
28:FORWARD
28:BETWEEN INDEX MIDDLE
36:MIDDLE RING
36:RING LITTLE
28:UNDER TWO FINGERS
28:OVER TWO FINGERS
28:UNDER THREE FINGERS
34:FOUR FINGERS
28:OVER FOUR RAISED KNUCKLES
21:
21: HEEL
12:TOUCH SINGLE
18:MULTIPLE
18:BETWEEN
12:GRASP SINGLE
18:MULTIPLE
18:BETWEEN
12:STRIKE SINGLE
19:MULTIPLE
19:BETWEEN
12:BRUSH SINGLE
18:MULTIPLE
18:BETWEEN
12:RUB SINGLE
16:MULTIPLE
16:BETWEEN
12:SURFACE SYMBOLS
20:BETWEEN
13:QUEEZE LARGE SINGLE
20:SMALL SINGLE
20:LARGE MULTIPLE
20:SMALL MULTIPLE
21:EQUENTIAL
12:FLICK LARGE SINGLE
18:SMALL SINGLE
18:LARGE MULTIPLE
18:SMALL MULTIPLE
19:EQUENTIAL
12:SQUEEZE FLICK ALTERNATING
12:MOVEMENT-HINGE UP DOWN LARGE
35:SMALL
30:SEQUENTIAL
27:DOWN SEQUENTIAL
27:UP DOWN ALTERNATING LARGE
47:SMALL
27:SIDE TO SIDE SCISSORS
21:WALLPLANE FINGER CONTACT
21:FLOORPLANE FINGER CONTACT
21:WALLPLANE SINGLE STRAIGHT SMALL
47:MEDIUM
47:LARGE
52:ST
38:WRIST FLEX
31:DOUBLE STRAIGHT
38:WRIST FLEX
38:ALTERNATING
49: WRIST FLEX
31:CROSS
31:TRIPLE STRAIGHT MOVEMENT
38:WRIST FLEX
38:ALTERNATING
49: WRIST FLEX
31:BEND SMALL
36:MEDIUM
36:LARGE
31:CORNER SMALL
38:MEDIUM
38:LARGE
38:ROTATION
32:HECK SMALL
37:MEDIUM
37:LARGE
31:BOX SMALL
35:MEDIUM
35:LARGE
31:ZIGZAG SMALL
38:MEDIUM
38:LARGE
31:PEAKS SMALL
37:MEDIUM
37:LARGE
12:TRAVEL-WALLPLANE ROTATION-WALLPLANE SINGLE
48:DOUBLE
48:ALTERNATING
38:FLOORPLANE SINGLE
49:DOUBLE
49:ALTERNATING
29:SHAKING
29:ARM SPIRAL SINGLE
40:DOUBLE
40:TRIPLE
12:MOVEMENT-DIAGONAL AWAY SMALL
35:MEDIUM
35:LARGE
40:ST
30:TOWARDS SMALL
38:MEDIUM
38:LARGE
43:ST
30:BETWEEN AWAY SMALL
43:MEDIUM
43:LARGE
48:ST
38:TOWARDS SMALL
46:MEDIUM
46:LARGE
51:ST
21:FLOORPLANE SINGLE STRAIGHT SMALL
48:MEDIUM
48:LARGE
53:ST
39:WRIST FLEX
32:DOUBLE STRAIGHT
39:WRIST FLEX
39:ALTERNATING
50: WRIST FLEX
32:CROSS
32:TRIPLE STRAIGHT MOVEMENT
39:WRIST FLEX
39:ALTERNATING MOVEMENT
51:WRIST FLEX
32:BEND
32:CORNER SMALL
39:MEDIUM
39:LARGE
33:HECK
32:BOX SMALL
36:MEDIUM
36:LARGE
32:ZIGZAG SMALL
39:MEDIUM
39:LARGE
32:PEAKS SMALL
38:MEDIUM
38:LARGE
12:TRAVEL-FLOORPLANE ROTATION-FLOORPLANE SINGLE
50:DOUBLE
50:ALTERNATING
39:WALLPLANE SINGLE
49:DOUBLE
49:ALTERNATING
30:SHAKING
12:MOVEMENT-WALLPLANE CURVE QUARTER SMALL
45:MEDIUM
45:LARGE
50:ST
37:HALF-CIRCLE SMALL
49:MEDIUM
49:LARGE
54:ST
37:THREE-QUARTER CIRCLE SMALL
58:MEDIUM
31:HUMP SMALL
36:MEDIUM
36:LARGE
31:LOOP SMALL
36:MEDIUM
36:LARGE
36:SMALL DOUBLE
31:WAVE CURVE DOUBLE SMALL
49:MEDIUM
49:LARGE
42:TRIPLE SMALL
49:MEDIUM
49:LARGE
31:CURVE THEN STRAIGHT
36:D CROSS SMALL
44:MEDIUM
12:ROTATION-WALLPLANE SINGLE
31:DOUBLE
31:ALTERNATE
12:MOVEMENT-WALLPLANE SHAKING
31:CURVE HITTING FRONT WALL
31:HUMP HITTING FRONT WALL
31:LOOP HITTING FRONT WALL
31:WAVE HITTING FRONT WALL
12:ROTATION-WALLPLANE SINGLE HITTING FRONT WALL
31:DOUBLE HITTING FRONT WALL
31:ALTERNATING HITTING FRONT WALL
12:MOVEMENT-WALLPLANE CURVE HITTING CHEST
31:HUMP HITTING CHEST
31:LOOP HITTING CHEST
31:WAVE HITTING CHEST
12:ROTATION-WALLPLANE SINGLE HITTING CHEST
31:DOUBLE HITTING CHEST
31:ALTERNATING HITTING CHEST
12:MOVEMENT-WALLPLANE WAVE DIAGONAL PATH SMALL
50:MEDIUM
50:LARGE
21:FLOORPLANE CURVE HITTING CEILING SMALL
54:LARGE
32:HUMP HITTING CEILING SMALL DOUBLE
53:LARGE DOUBLE
53:SMALL TRIPLE
53:LARGE TRIPLE
32:LOOP HITTING CEILING SMALL SINGLE
53:LARGE SINGLE
53:SMALL DOUBLE
53:LARGE DOUBLE
32:WAVE HITTING CEILING SMALL
53:LARGE
12:ROTATION-FLOORPLANE SINGLE HITTING CEILING
32:DOUBLE HITTING CEILING
32:ALTERNATING HITTING CEILING
12:MOVEMENT-FLOORPLANE CURVE HITTING FLOOR SMALL
52:LARGE
32:HUMP HITTING FLOOR SMALL DOUBLE
51:LARGE DOUBLE
51:TRIPLE SMALL TRIPLE
58:LARGE TRIPLE
32:LOOP HITTING FLOOR SMALL SINGLE
51:LARGE SINGLE
51:SMALL DOUBLE
51:LARGE DOUBLE
32:WAVE HITTING FLOOR SMALL
51:LARGE
12:ROTATION-FLOORPLANE SINGLE HITTING FLOOR
32:DOUBLE HITTING FLOOR
32:ALTERNATING HITTING FLOOR
12:MOVEMENT-FLOORPLANE CURVE SMALL
38:MEDIUM
38:LARGE
43:ST
38:COMBINED
32:HUMP SMALL
32:LOOP SMALL
32:WAVE SNAKE
38:MALL
37:LARGE
12:ROTATION-FLOORPLANE SINGLE
32:DOUBLE
32:ALTERNATING
12:MOVEMENT-FLOORPLANE SHAKING PARALLEL
21:WALLPLANE ARM CIRCLE SMALL SINGLE
42:MEDIUM SINGLE
42:SMALL DOUBLE
42:MEDIUM DOUBLE
21:FLOORPLANE ARM CIRCLE HITTING WALL SMALL SINGLE
56:MEDIUM SINGLE
56:LARGE SINGLE
56:SMALL DOUBLE
56:MEDIUM DOUBLE
56:LARGE DOUBLE
21:WALLPLANE WRIST CIRCLE FRONT SINGLE
50:DOUBLE
21:FLOORPLANE WRIST CIRCLE HITTING WALL SINGLE
58:DOUBLE
21:WALLPLANE FINGER CIRCLES SINGLE
46:DOUBLE
21:FLOORPLANE FINGER CIRCLES HITTING WALL SINGLE
60:DOUBLE
12:DYNAMIC ARROWHEAD SMALL
30:LARGE
20:FAST
20:SLOW
20:TENSE
20:RELAXED
20:SIMULTANEOUS
32: ALTERNATING
20:EVERY OTHER TIME
20:GRADUAL
12:HEAD
16: RIM
17:MOVEMENT-WALLPLANE STRAIGHT
36:TILT
26:FLOORPLANE STRAIGHT
26:WALLPLANE CURVE
26:FLOORPLANE CURVE
25: CIRCLE
12:FACE DIRECTION POSITION NOSE FORWARD TILTING
41:UP OR DOWN
51: TILTING
12:EYEBROWS STRAIGHT UP
30:NEUTRAL
30:DOWN
12:DREAMY EYEBROWS NEUTRAL DOWN
28:DOWN NEUTRAL
28:UP NEUTRAL
28:NEUTRAL UP
12:FOREHEAD NEUTRAL
21:CONTACT
21:WRINKLED
12:EYES OPEN
17:SQUEEZED
17:CLOSED
15: BLINK SINGLE
22:MULTIPLE
15:S HALF OPEN
17:WIDE OPEN
17:HALF CLOSED
17:WIDENING MOVEMENT
15: WINK
15:LASHES UP
22:DOWN
22:FLUTTERING
15:GAZE-WALLPLANE STRAIGHT
38: DOUBLE
39:ALTERNATING
20:FLOORPLANE STRAIGHT
39: DOUBLE
40:ALTERNATING
20:WALLPLANE CURVED
20:FLOORPLANE CURVED
20:WALLPLANE CIRCLING
12:CHEEKS PUFFED
19:NEUTRAL
19:SUCKED
12:TENSE CHEEKS HIGH
25:MIDDLE
25:LOW
12:EARS
12:NOSE NEUTRAL
17:CONTACT
17:WRINKLES
18:IGGLES
12:AIR BLOWING OUT
16:SUCKING IN
16:BLOW SMALL ROTATIONS
16:SUCK SMALL ROTATIONS
12:BREATH INHALE
19:EXHALE
12:MOUTH CLOSED NEUTRAL
25:FORWARD
25:CONTACT
18:SMILE
23: WRINKLED
24:OPEN
18:FROWN
23: WRINKLED
24:OPEN
18:OPEN CIRCLE
23:FORWARD
23:WRINKLED
23:OVAL
27: WRINKLED
28:YAWN
23:RECTANGLE
32: WRINKLED
33:YAWN
18:KISS
22: FORWARD
23:WRINKLED
18:TENSE
23: FORWARD
24:SUCKED
12:LIPS PRESSED TOGETHER
15: LOWER OVER UPPER
16:UPPER OVER LOWER
12:MOUTH CORNERS
18:WRINKLES SINGLE
27:DOUBLE
12:TONGUE STICKING OUT FAR
19:LICKING LIPS
19:TIP BETWEEN LIPS
23:TOUCHING INSIDE MOUTH
19:INSIDE MOUTH RELAXED
19:MOVES AGAINST CHEEK
19:CENTRE STICKING OUT
26:INSIDE MOUTH
13:EETH
17: MOVEMENT
18:ON TONGUE
27: MOVEMENT
21:LIPS
25: MOVEMENT
18:BITE LIPS
12:MOVEMENT-WALLPLANE JAW
21:FLOORPLANE JAW
12:NECK
12:HAIR
12:EXCITEMENT
12:SHOULDER HIP SPINE
25:POSITIONS
12:WALLPLANE SHOULDER HIP MOVE
12:FLOORPLANE SHOULDER HIP MOVE
12:SHOULDER TILTING FROM WAIST
12:TORSO-WALLPLANE STRAIGHT STRETCH
28:CURVED BEND
18:FLOORPLANE TWISTING
12:UPPER BODY TILTING FROM HIP JOINTS
12:LIMB COMBINATION
17:LENGTH-1
24:2
24:3
24:4
24:5
24:6
24:7
12:FINGER
12:LOCATION-WALLPLANE SPACE
21:FLOORPLANE SPACE
20: HEIGHT
21:WIDTH
21:DEPTH
21:HEAD NECK
21:TORSO
21:LIMBS DIGITS
12:COMMA
12:FULL STOP
12:SEMICOLON
12:COLON
12:PARENTHESIS
@1DA9B
12:FILL MODIFIER-2
26:3
26:4
26:5
26:6
@1DAA1
12:ROTATION MODIFIER-2
30:3
30:4
30:5
30:6
30:7
30:8
30:9
30:10
31:1
31:2
31:3
31:4
31:5
31:6
@1DF00
0:LATIN SMALL LETTER FENG DIGRAPH WITH TRILL
19:REVERSED SCRIPT G
6:LETTER SMALL CAPITAL TURNED G
6:SMALL LETTER REVERSED K
6:LETTER SMALL CAPITAL L WITH BELT
6:SMALL LETTER LEZH WITH RETROFLEX HOOK
19:TURNED Y WITH BELT
19:REVERSED ENG
19:TURNED R WITH LONG LEG AND RETROFLEX HOOK
20: WITH HOOK AND RETROFLEX HOOK
6:LETTER RETROFLEX CLICK WITH RETROFLEX HOOK
6:SMALL LETTER ESH WITH DOUBLE BAR
38: AND CURL
19:TURNED T WITH CURL
6:LETTER INVERTED GLOTTAL STOP WITH CURL
13:STRETCHED C WITH CURL
14:MALL CAPITAL TURNED K
6:SMALL LETTER L WITH FISHHOOK
19:DEZH DIGRAPH WITH PALATAL HOOK
19:L WITH BELT AND PALATAL HOOK
19:ENG WITH PALATAL HOOK
19:TURNED R WITH PALATAL HOOK
19:R WITH FISHHOOK AND PALATAL HOOK
19:TESH DIGRAPH WITH PALATAL HOOK
19:EZH WITH PALATAL HOOK
19:DEZH DIGRAPH WITH RETROFLEX HOOK
19:I WITH STROKE AND RETROFLEX HOOK
19:O WITH RETROFLEX HOOK
19:TESH DIGRAPH WITH RETROFLEX HOOK
19:C WITH RETROFLEX HOOK
19:S WITH CURL
@1E000
0:COMBINING GLAGOLITIC LETTER AZU
28:BUKY
28:VEDE
28:GLAGOLI
28:DOBRO
28:YESTU
28:ZHIVETE
@1E008
29:EMLJA
28:IZHE
29:NITIAL IZHE
29:
28:DJERVI
28:KAKO
28:LJUDIJE
28:MYSLITE
28:NASHI
28:ONU
28:POKOJI
28:RITSI
28:SLOVO
28:TVRIDO
28:UKU
28:FRITU
28:HERU
@1E01B
28:SHTA
28:TSI
28:CHRIVI
28:SHA
28:YERU
31:I
29:ATI
@1E023
29:U
28:SMALL YUS
@1E026
28:YO
28:IOTATED SMALL YUS
28:BIG YUS
28:IOTATED BIG YUS
28:FITA
@1E100
0:NYIAKENG PUACHUE HMONG LETTER MA
30:TSA
30:NTA
30:TA
30:HA
30:NA
30:XA
30:NKA
30:CA
30:LA
30:SA
30:ZA
30:NCA
31:TSA
30:KA
30:DA
30:NYA
31:RA
30:VA
30:NTXA
30:TXA
30:FA
30:RA
30:QA
30:YA
30:NQA
30:PA
30:XYA
30:NPA
30:DLA
30:NPLA
30:HAH
30:MLA
30:PLA
30:GA
30:RRA
30:A
31:A
30:I
30:U
30:O
31:O
30:E
31:E
30:W
@1E130
23:TONE-B
28:M
28:J
28:V
28:S
28:G
28:D
23:SIGN FOR PERSON
32:THING
32:LOCATION
32:ANIMAL
32:INVERTEBRATE
28:XW XW
24:YLLABLE LENGTHENER
@1E140
23:DIGIT ZERO
29:ONE
29:TWO
30:HREE
29:FOUR
30:IVE
29:SIX
30:EVEN
29:EIGHT
29:NINE
@1E14E
23:LOGOGRAM NYAJ
23:CIRCLED CA
@1E290
0:TOTO LETTER PA
12:BA
12:TA
12:DA
12:KA
12:GA
12:MA
12:NA
13:GA
12:SA
12:CHA
12:YA
12:WA
12:JA
12:HA
12:RA
12:LA
12:I
12:BREATHY I
12:IU
12:BREATHY IU
12:U
12:E
12:BREATHY E
12:EO
12:BREATHY EO
12:O
12:AE
12:BREATHY AE
12:A
5:SIGN RISING TONE
@1E2C0
0:WANCHO LETTER AA
15:
14:BA
14:CA
14:DA
14:GA
14:YA
14:PHA
14:LA
14:NA
14:PA
14:TA
15:HA
14:FA
14:SA
15:HA
14:JA
14:ZA
14:WA
14:VA
14:KA
14:O
14:AU
14:RA
14:MA
14:KHA
14:HA
14:E
14:I
14:NGA
14:U
14:LLHA
14:TSA
15:RA
14:ONG
14:AANG
15:NG
14:ING
14:ON
14:EN
14:AAN
14:NYA
14:UEN
14:YIH
7:TONE TUP
15:NI
12:KOI
15:NI
7:DIGIT ZERO
13:ONE
13:TWO
14:HREE
13:FOUR
14:IVE
13:SIX
14:EVEN
13:EIGHT
13:NINE
@1E2FF
7:NGUN SIGN
@1E7E0
0:ETHIOPIC SYLLABLE HHYA
21:U
21:I
21:AA
21:EE
22:
21:O
@1E7E8
18:GURAGE HHWA
18:HHWI
21:EE
22:
@1E7ED
18:GURAGE MWI
27:EE
@1E7F0
25:QWI
27:EE
28:
25:BWI
27:EE
25:KWI
27:EE
28:
25:GWI
27:EE
28:
25:FWI
27:EE
25:PWI
27:EE
@1E800
0:MENDE KIKAKUI SYLLABLE M001 KI
26:2 KA
26:3 KU
25:65 KEE
25:95 KE
25:76 KOO
25:48 KO
24:179 KUA
24:004 WI
26:5 WA
26:6 WU
24:126 WEE
25:18 WE
26:4 WOO
24:045 WO
24:194 WUI
25:43 WEI
24:061 WVI
25:49 WVA
24:139 WVE
24:007 MIN
26:8 MAN
26:9 MUN
25:59 MEN
25:94 MON
24:154 MUAN
25:89 MUEN
24:010 BI
26:1 BA
26:2 BU
24:150 BEE
24:097 BE
24:103 BOO
25:38 BO
24:013 I
26:4 A
26:5 U
24:163 EE
25:00 E
25:65 OO
25:47 O
25:37 EI
26:1 IN
26:5 IN
25:95 AN
25:78 EN
24:019 SI
25:20 SA
26:1 SU
24:162 SEE
25:16 SE
25:36 SOO
24:079 SO
24:196 SIA
24:025 LI
26:6 LA
26:7 LU
25:84 LEE
25:73 LE
25:54 LOO
24:153 LO
25:10 LONG LE
24:016 DI
26:7 DA
26:8 DU
25:89 DEE
24:180 DOO
26:1 DO
24:022 TI
26:3 TA
26:4 TU
25:91 TEE
25:55 TE
24:104 TOO
24:069 TO
25:28 JI
26:9 JA
25:30 JU
24:157 JEE
25:13 JE
25:60 JOO
24:063 JO
24:175 LONG JO
24:031 YI
26:2 YA
26:3 YU
24:109 YEE
24:080 YE
24:141 YOO
25:21 YO
24:034 FI
26:5 FA
26:6 FU
25:78 FEE
26:5 FE
24:133 FOO
24:088 FO
24:197 FUA
25:01 FAN
24:037 NIN
26:8 NAN
26:9 NUN
24:117 NEN
25:69 NON
25:76 HI
24:041 HA
24:186 HU
24:040 HEE
25:96 HE
25:42 HOO
24:140 HO
24:083 HEEI
24:128 HOOU
24:053 HIN
24:130 HAN
24:087 HUN
25:52 HEN
24:193 HON
24:046 HUAN
25:90 NGGI
25:43 NGGA
25:82 NGGU
24:115 NGGEE
25:46 NGGE
25:56 NGGOO
25:20 NGGO
25:59 NGGAA
25:27 NGGUA
24:086 LONG NGGE
24:106 LONG NGGOO
25:83 LONG NGGO
25:55 GI
25:11 GA
25:68 GU
25:90 GEE
25:66 GUEI
26:7 GUAN
25:84 NGEN
24:057 NGON
24:177 NGUAN
24:068 PI
25:99 PA
25:50 PU
25:81 PEE
25:51 PE
24:102 POO
24:066 PO
24:145 MBI
24:062 MBA
24:122 MBU
24:047 MBEE
24:188 MBEE
24:072 MBE
24:172 MBOO
26:4 MBO
25:87 MBUU
25:61 LONG MBE
25:05 LONG MBOO
25:42 LONG MBO
25:32 KPI
24:092 KPA
25:74 KPU
25:44 KPEE
24:108 KPE
25:12 KPOO
25:58 KPO
25:24 GBI
24:056 GBA
24:148 GBU
24:093 GBEE
24:107 GBE
24:071 GBOO
26:0 GBO
24:171 RA
25:23 NDI
26:9 NDA
26:5 NDU
25:91 NDEE
25:19 NDE
24:067 NDOO
26:4 NDO
24:152 NJA
25:92 NJU
25:49 NJEE
25:34 NJOO
25:82 VI
26:5 VA
25:51 VU
25:73 VEE
24:085 VE
24:144 VOO
24:077 VO
24:164 NYIN
24:058 NYAN
24:170 NYUN
24:098 NYEN
25:60 NYON
@1E8C7
14:DIGIT ONE
20:TWO
21:HREE
20:FOUR
21:IVE
20:SIX
21:EVEN
20:EIGHT
20:NINE
14:COMBINING NUMBER TEENS
33:NS
31:HUNDREDS
31:THOUSANDS
32:EN THOUSANDS
31:HUNDRED THOUSANDS
31:MILLIONS
@1E900
0:ADLAM CAPITAL LETTER ALIF
21:DAALI
21:LAAM
21:MIIM
21:BA
21:SINNYIIYHE
21:PE
21:BHE
21:RA
21:E
21:FA
21:I
21:O
21:DHA
21:YHE
21:WAW
21:NUN
21:KAF
21:YA
21:U
21:JIIM
21:CHI
21:HA
21:QAAF
21:GA
21:NYA
21:TU
21:NHA
21:VA
21:KHA
21:GBE
21:ZAL
21:KPO
21:SHA
6:SMALL LETTER ALIF
19:DAALI
19:LAAM
19:MIIM
19:BA
19:SINNYIIYHE
19:PE
19:BHE
19:RA
19:E
19:FA
19:I
19:O
19:DHA
19:YHE
19:WAW
19:NUN
19:KAF
19:YA
19:U
19:JIIM
19:CHI
19:HA
19:QAAF
19:GA
19:NYA
19:TU
19:NHA
19:VA
19:KHA
19:GBE
19:ZAL
19:KPO
19:SHA
6:ALIF LENGTHENER
6:VOWEL LENGTHENER
6:GEMINATION MARK
6:HAMZA
6:CONSONANT MODIFIER
6:GEMINATE CONSONANT MODIFIER
6:NUKTA
7:ASALIZATION MARK
@1E950
6:DIGIT ZERO
12:ONE
12:TWO
13:HREE
12:FOUR
13:IVE
12:SIX
13:EVEN
12:EIGHT
12:NINE
@1E95E
6:INITIAL EXCLAMATION MARK
14:QUESTION MARK
@1EC71
0:INDIC SIYAQ NUMBER ONE
19:TWO
20:HREE
19:FOUR
20:IVE
19:SIX
20:EVEN
19:EIGHT
19:NINE
19:TEN
20:WENTY
20:HIRTY
19:FORTY
20:IFTY
19:SIXTY
20:EVENTY
19:EIGHTY
19:NINETY
19:ONE HUNDRED
19:TWO HUNDRED
20:HREE HUNDRED
19:FOUR HUNDRED
20:IVE HUNDRED
19:SIX HUNDRED
20:EVEN HUNDRED
19:EIGHT HUNDRED
19:NINE HUNDRED
19:ONE THOUSAND
19:TWO THOUSAND
20:HREE THOUSAND
19:FOUR THOUSAND
20:IVE THOUSAND
19:SIX THOUSAND
20:EVEN THOUSAND
19:EIGHT THOUSAND
19:NINE THOUSAND
19:TEN THOUSAND
20:WENTY THOUSAND
20:HIRTY THOUSAND
19:FORTY THOUSAND
20:IFTY THOUSAND
19:SIXTY THOUSAND
20:EVENTY THOUSAND
19:EIGHTY THOUSAND
19:NINETY THOUSAND
19:LAKH
23:AN
12:LAKH MARK
12:NUMBER KAROR
24:AN
19:PREFIXED ONE
28:TWO
29:HREE
28:FOUR
29:IVE
28:SIX
29:EVEN
28:EIGHT
28:NINE
12:PLACEHOLDER
12:FRACTION ONE QUARTER
25:HALF
21:THREE QUARTERS
12:RUPEE MARK
12:NUMBER ALTERNATE ONE
29:TWO
30:EN THOUSAND
12:ALTERNATE LAKH MARK
@1ED01
0:OTTOMAN SIYAQ NUMBER ONE
21:TWO
22:HREE
21:FOUR
22:IVE
21:SIX
22:EVEN
21:EIGHT
21:NINE
21:TEN
22:WENTY
22:HIRTY
21:FORTY
22:IFTY
21:SIXTY
22:EVENTY
21:EIGHTY
21:NINETY
21:ONE HUNDRED
21:TWO HUNDRED
22:HREE HUNDRED
21:FOUR HUNDRED
22:IVE HUNDRED
21:SIX HUNDRED
22:EVEN HUNDRED
21:EIGHT HUNDRED
21:NINE HUNDRED
21:ONE THOUSAND
21:TWO THOUSAND
22:HREE THOUSAND
21:FOUR THOUSAND
22:IVE THOUSAND
21:SIX THOUSAND
22:EVEN THOUSAND
21:EIGHT THOUSAND
21:NINE THOUSAND
21:TEN THOUSAND
22:WENTY THOUSAND
22:HIRTY THOUSAND
21:FORTY THOUSAND
22:IFTY THOUSAND
21:SIXTY THOUSAND
22:EVENTY THOUSAND
21:EIGHTY THOUSAND
21:NINETY THOUSAND
14:MARRATAN
14:ALTERNATE NUMBER TWO
32:HREE
31:FOUR
32:IVE
31:SIX
32:EVEN
31:EIGHT
31:NINE
31:TEN
31:FOUR HUNDRED
31:SIX HUNDRED
31:TWO THOUSAND
32:EN THOUSAND
14:FRACTION ONE HALF
27:SIXTH
@1EE00
0:ARABIC MATHEMATICAL ALEF
20:BEH
20:JEEM
20:DAL
@1EE05
20:WAW
20:ZAIN
20:HAH
20:TAH
20:YEH
20:KAF
20:LAM
20:MEEM
20:NOON
20:SEEN
20:AIN
20:FEH
20:SAD
20:QAF
20:REH
20:SHEEN
20:TEH
21:HEH
20:KHAH
20:THAL
20:DAD
20:ZAH
20:GHAIN
20:DOTLESS BEH
28:NOON
28:FEH
28:QAF
@1EE21
20:INITIAL BEH
28:JEEM
@1EE24
28:HEH
@1EE27
29:AH
@1EE29
28:YEH
28:KAF
28:LAM
28:MEEM
28:NOON
28:SEEN
28:AIN
28:FEH
28:SAD
28:QAF
@1EE34
28:SHEEN
28:TEH
29:HEH
28:KHAH
@1EE39
28:DAD
@1EE3B
28:GHAIN
@1EE42
20:TAILED JEEM
@1EE47
27:HAH
@1EE49
27:YEH
@1EE4B
27:LAM
@1EE4D
27:NOON
27:SEEN
27:AIN
@1EE51
27:SAD
27:QAF
@1EE54
27:SHEEN
@1EE57
27:KHAH
@1EE59
27:DAD
@1EE5B
27:GHAIN
@1EE5D
27:DOTLESS NOON
@1EE5F
35:QAF
@1EE61
20:STRETCHED BEH
30:JEEM
@1EE64
30:HEH
@1EE67
31:AH
30:TAH
30:YEH
30:KAF
@1EE6C
30:MEEM
30:NOON
30:SEEN
30:AIN
30:FEH
30:SAD
30:QAF
@1EE74
30:SHEEN
30:TEH
31:HEH
30:KHAH
@1EE79
30:DAD
30:ZAH
30:GHAIN
30:DOTLESS BEH
@1EE7E
38:FEH
@1EE80
20:LOOPED ALEF
27:BEH
27:JEEM
27:DAL
27:HEH
27:WAW
27:ZAIN
27:HAH
27:TAH
27:YEH
@1EE8B
27:LAM
27:MEEM
27:NOON
27:SEEN
27:AIN
27:FEH
27:SAD
27:QAF
27:REH
27:SHEEN
27:TEH
28:HEH
27:KHAH
27:THAL
27:DAD
27:ZAH
27:GHAIN
@1EEA1
20:DOUBLE-STRUCK BEH
34:JEEM
34:DAL
@1EEA5
34:WAW
34:ZAIN
34:HAH
34:TAH
34:YEH
@1EEAB
34:LAM
34:MEEM
34:NOON
34:SEEN
34:AIN
34:FEH
34:SAD
34:QAF
34:REH
34:SHEEN
34:TEH
35:HEH
34:KHAH
34:THAL
34:DAD
34:ZAH
34:GHAIN
@1EEF0
20:OPERATOR MEEM WITH HAH WITH TATWEEL
29:HAH WITH DAL
@1F000
0:MAHJONG TILE EAST WIND
13:SOUTH WIND
13:WEST WIND
13:NORTH WIND
13:RED DRAGON
13:GREEN DRAGON
13:WHITE DRAGON
13:ONE OF CHARACTERS
13:TWO OF CHARACTERS
14:HREE OF CHARACTERS
13:FOUR OF CHARACTERS
14:IVE OF CHARACTERS
13:SIX OF CHARACTERS
14:EVEN OF CHARACTERS
13:EIGHT OF CHARACTERS
13:NINE OF CHARACTERS
13:ONE OF BAMBOOS
13:TWO OF BAMBOOS
14:HREE OF BAMBOOS
13:FOUR OF BAMBOOS
14:IVE OF BAMBOOS
13:SIX OF BAMBOOS
14:EVEN OF BAMBOOS
13:EIGHT OF BAMBOOS
13:NINE OF BAMBOOS
13:ONE OF CIRCLES
13:TWO OF CIRCLES
14:HREE OF CIRCLES
13:FOUR OF CIRCLES
14:IVE OF CIRCLES
13:SIX OF CIRCLES
14:EVEN OF CIRCLES
13:EIGHT OF CIRCLES
13:NINE OF CIRCLES
13:PLUM
13:ORCHID
13:BAMBOO
13:CHRYSANTHEMUM
13:SPRING
14:UMMER
13:AUTUMN
13:WINTER
13:JOKER
13:BACK
@1F030
0:DOMINO TILE HORIZONTAL BACK
22:-00-00
27:1
27:2
27:3
27:4
27:5
27:6
24:1-00
27:1
27:2
27:3
27:4
27:5
27:6
24:2-00
27:1
27:2
27:3
27:4
27:5
27:6
24:3-00
27:1
27:2
27:3
27:4
27:5
27:6
24:4-00
27:1
27:2
27:3
27:4
27:5
27:6
24:5-00
27:1
27:2
27:3
27:4
27:5
27:6
24:6-00
27:1
27:2
27:3
27:4
27:5
27:6
12:VERTICAL BACK
20:-00-00
25:1
25:2
25:3
25:4
25:5
25:6
22:1-00
25:1
25:2
25:3
25:4
25:5
25:6
22:2-00
25:1
25:2
25:3
25:4
25:5
25:6
22:3-00
25:1
25:2
25:3
25:4
25:5
25:6
22:4-00
25:1
25:2
25:3
25:4
25:5
25:6
22:5-00
25:1
25:2
25:3
25:4
25:5
25:6
22:6-00
25:1
25:2
25:3
25:4
25:5
25:6
@1F0A0
0:PLAYING CARD BACK
13:ACE OF SPADES
13:TWO OF SPADES
14:HREE OF SPADES
13:FOUR OF SPADES
14:IVE OF SPADES
13:SIX OF SPADES
14:EVEN OF SPADES
13:EIGHT OF SPADES
13:NINE OF SPADES
13:TEN OF SPADES
13:JACK OF SPADES
13:KNIGHT OF SPADES
13:QUEEN OF SPADES
13:KING OF SPADES
@1F0B1
13:ACE OF HEARTS
13:TWO OF HEARTS
14:HREE OF HEARTS
13:FOUR OF HEARTS
14:IVE OF HEARTS
13:SIX OF HEARTS
14:EVEN OF HEARTS
13:EIGHT OF HEARTS
13:NINE OF HEARTS
13:TEN OF HEARTS
13:JACK OF HEARTS
13:KNIGHT OF HEARTS
13:QUEEN OF HEARTS
13:KING OF HEARTS
13:RED JOKER
@1F0C1
13:ACE OF DIAMONDS
13:TWO OF DIAMONDS
14:HREE OF DIAMONDS
13:FOUR OF DIAMONDS
14:IVE OF DIAMONDS
13:SIX OF DIAMONDS
14:EVEN OF DIAMONDS
13:EIGHT OF DIAMONDS
13:NINE OF DIAMONDS
13:TEN OF DIAMONDS
13:JACK OF DIAMONDS
13:KNIGHT OF DIAMONDS
13:QUEEN OF DIAMONDS
13:KING OF DIAMONDS
13:BLACK JOKER
@1F0D1
13:ACE OF CLUBS
13:TWO OF CLUBS
14:HREE OF CLUBS
13:FOUR OF CLUBS
14:IVE OF CLUBS
13:SIX OF CLUBS
14:EVEN OF CLUBS
13:EIGHT OF CLUBS
13:NINE OF CLUBS
13:TEN OF CLUBS
13:JACK OF CLUBS
13:KNIGHT OF CLUBS
13:QUEEN OF CLUBS
13:KING OF CLUBS
13:WHITE JOKER
13:FOOL
13:TRUMP-1
19:2
19:3
19:4
19:5
19:6
19:7
19:8
19:9
19:10
20:1
20:2
20:3
20:4
20:5
20:6
20:7
20:8
20:9
19:20
20:1
@1F100
0:DIGIT ZERO FULL STOP
11:COMMA
6:ONE COMMA
6:TWO COMMA
7:HREE COMMA
6:FOUR COMMA
7:IVE COMMA
6:SIX COMMA
7:EVEN COMMA
6:EIGHT COMMA
6:NINE COMMA
2:NGBAT CIRCLED SANS-SERIF DIGIT ZERO
8:NEGATIVE CIRCLED SANS-SERIF DIGIT ZERO
0:CIRCLED ZERO WITH SLASH
8:ANTICLOCKWISE ARROW
8:DOLLAR SIGN WITH OVERLAID BACKSLASH
0:PARENTHESIZED LATIN CAPITAL LETTER A
35:B
35:C
35:D
35:E
35:F
35:G
35:H
35:I
35:J
35:K
35:L
35:M
35:N
35:O
35:P
35:Q
35:R
35:S
35:T
35:U
35:V
35:W
35:X
35:Y
35:Z
0:TORTOISE SHELL BRACKETED LATIN CAPITAL LETTER S
0:CIRCLED ITALIC LATIN CAPITAL LETTER C
36:R
8:CD
8:WZ
1:OPYLEFT SYMBOL
0:SQUARED LATIN CAPITAL LETTER A
29:B
29:C
29:D
29:E
29:F
29:G
29:H
29:I
29:J
29:K
29:L
29:M
29:N
29:O
29:P
29:Q
29:R
29:S
29:T
29:U
29:V
29:W
29:X
29:Y
29:Z
8:HV
8:MV
8:SD
9:S
8:PPV
8:WC
0:NEGATIVE CIRCLED LATIN CAPITAL LETTER A
38:B
38:C
38:D
38:E
38:F
38:G
38:H
38:I
38:J
38:K
38:L
38:M
38:N
38:O
38:P
38:Q
38:R
38:S
38:T
38:U
38:V
38:W
38:X
38:Y
38:Z
0:RAISED MC SIGN
8:D SIGN
8:R SIGN
0:CIRCLED CC
9: WITH OVERLAID BACKSLASH
8:HUMAN FIGURE
0:NEGATIVE SQUARED LATIN CAPITAL LETTER A
38:B
38:C
38:D
38:E
38:F
38:G
38:H
38:I
38:J
38:K
38:L
38:M
38:N
38:O
38:P
38:Q
38:R
38:S
38:T
38:U
38:V
38:W
38:X
38:Y
38:Z
0:CROSSED NEGATIVE SQUARED LATIN CAPITAL LETTER P
0:NEGATIVE SQUARED IC
17:PA
17:SA
17:AB
17:WC
0:SQUARE DJ
6:D CL
9:OOL
8:FREE
8:ID
8:NEW
9:G
8:OK
8:SOS
8:UP WITH EXCLAMATION MARK
8:VS
8:THREE D
8:SECOND SCREEN
8:TWO K
8:FOUR K
8:EIGHT K
8:FIVE POINT ONE
8:SEVEN POINT ONE
8:TWENTY-TWO POINT TWO
8:SIXTY P
8:ONE HUNDRED TWENTY P
8:LATIN SMALL LETTER D
8:HC
9:DR
9:I-RES
8:LOSSLESS
8:SHV
8:UHD
8:VOD
0:MASK WORK SYMBOL
@1F1E6
0:REGIONAL INDICATOR SYMBOL LETTER A
33:B
33:C
33:D
33:E
33:F
33:G
33:H
33:I
33:J
33:K
33:L
33:M
33:N
33:O
33:P
33:Q
33:R
33:S
33:T
33:U
33:V
33:W
33:X
33:Y
33:Z
0:SQUARE HIRAGANA HOKA
6:D KATAKANA KOKO
17:SA
@1F210
8:CJK UNIFIED IDEOGRAPH-624B
30:5B57
31:3CC
8:KATAKANA DE
8:CJK UNIFIED IDEOGRAPH-4E8C
30:591A
30:89E3
30:5929
30:4EA4
30:6620
30:7121
30:6599
30:524D
31:F8C
31:18D
30:65B0
30:521D
30:7D42
31:51F
30:8CA9
30:58F0
31:439
30:6F14
31:295
31:355
30:4E00
33:9
30:904A
30:5DE6
30:4E2D
30:53F3
30:6307
30:8D70
30:6253
30:7981
31:A7A
30:5408
30:6E80
31:709
33:8
30:7533
30:5272
31:5B6
30:914D
@1F240
0:TORTOISE SHELL BRACKETED CJK UNIFIED IDEOGRAPH-672C
47:4E09
49:8C
47:5B89
47:70B9
47:6253
47:76D7
47:52DD
47:6557
@1F250
0:CIRCLED IDEOGRAPH ADVANTAGE
19:CCEPT
@1F260
0:ROUNDED SYMBOL FOR FU
19:LU
19:SHOU
19:XI
19:SHUANGXI
19:CAI
@1F300
0:CYCLONE
0:FOGGY
0:CLOSED UMBRELLA
0:NIGHT WITH STARS
0:SUNRISE OVER MOUNTAINS
7:
0:CITYSCAPE AT DUSK
0:SUNSET OVER BUILDINGS
0:RAINBOW
0:BRIDGE AT NIGHT
0:WATER WAVE
0:VOLCANO
0:MILKY WAY
0:EARTH GLOBE EUROPE-AFRICA
12:AMERICAS
13:SIA-AUSTRALIA
0:GLOBE WITH MERIDIANS
0:NEW MOON SYMBOL
0:WAXING CRESCENT MOON SYMBOL
0:FIRST QUARTER MOON SYMBOL
0:WAXING GIBBOUS MOON SYMBOL
0:FULL MOON SYMBOL
0:WANING GIBBOUS MOON SYMBOL
0:LAST QUARTER MOON SYMBOL
0:WANING CRESCENT MOON SYMBOL
0:CRESCENT MOON
0:NEW MOON WITH FACE
0:FIRST QUARTER MOON WITH FACE
0:LAST QUARTER MOON WITH FACE
0:FULL MOON WITH FACE
0:SUN WITH FACE
0:GLOWING STAR
0:SHOOTING STAR
0:THERMOMETER
0:BLACK DROPLET
0:WHITE SUN
9: WITH SMALL CLOUD
10:BEHIND CLOUD
22: WITH RAIN
0:CLOUD WITH RAIN
11:SNOW
11:LIGHTNING
11:TORNADO
0:FOG
0:WIND BLOWING FACE
0:HOT DOG
0:TACO
0:BURRITO
0:CHESTNUT
0:SEEDLING
0:EVERGREEN TREE
0:DECIDUOUS TREE
0:PALM TREE
0:CACTUS
0:HOT PEPPER
0:TULIP
0:CHERRY BLOSSOM
0:ROSE
0:HIBISCUS
0:SUNFLOWER
0:BLOSSOM
0:EAR OF MAIZE
7:RICE
0:HERB
0:FOUR LEAF CLOVER
0:MAPLE LEAF
0:FALLEN LEAF
0:LEAF FLUTTERING IN WIND
0:MUSHROOM
0:TOMATO
0:AUBERGINE
0:GRAPES
0:MELON
0:WATERMELON
0:TANGERINE
0:LEMON
0:BANANA
0:PINEAPPLE
0:RED APPLE
0:GREEN APPLE
0:PEAR
3:CH
0:CHERRIES
0:STRAWBERRY
0:HAMBURGER
0:SLICE OF PIZZA
0:MEAT ON BONE
0:POULTRY LEG
0:RICE CRACKER
5:BALL
0:COOKED RICE
1:URRY AND RICE
0:STEAMING BOWL
1:PAGHETTI
0:BREAD
0:FRENCH FRIES
0:ROASTED SWEET POTATO
0:DANGO
0:ODEN
0:SUSHI
0:FRIED SHRIMP
1:ISH CAKE WITH SWIRL DESIGN
0:SOFT ICE CREAM
1:HAVED ICE
0:ICE CREAM
0:DOUGHNUT
0:COOKIE
1:HOCOLATE BAR
1:ANDY
0:LOLLIPOP
0:CUSTARD
0:HONEY POT
0:SHORTCAKE
0:BENTO BOX
0:POT OF FOOD
0:COOKING
0:FORK AND KNIFE
0:TEACUP WITHOUT HANDLE
0:SAKE BOTTLE AND CUP
0:WINE GLASS
0:COCKTAIL GLASS
0:TROPICAL DRINK
0:BEER MUG
0:CLINKING BEER MUGS
0:BABY BOTTLE
0:FORK AND KNIFE WITH PLATE
0:BOTTLE WITH POPPING CORK
0:POPCORN
0:RIBBON
0:WRAPPED PRESENT
0:BIRTHDAY CAKE
0:JACK-O-LANTERN
0:CHRISTMAS TREE
0:FATHER CHRISTMAS
1:IREWORKS
8: SPARKLER
0:BALLOON
0:PARTY POPPER
0:CONFETTI BALL
0:TANABATA TREE
0:CROSSED FLAGS
0:PINE DECORATION
0:JAPANESE DOLLS
0:CARP STREAMER
0:WIND CHIME
0:MOON VIEWING CEREMONY
0:SCHOOL SATCHEL
0:GRADUATION CAP
0:HEART WITH TIP ON THE LEFT
0:BOUQUET OF FLOWERS
0:MILITARY MEDAL
0:REMINDER RIBBON
0:MUSICAL KEYBOARD WITH JACKS
0:STUDIO MICROPHONE
0:LEVEL SLIDER
0:CONTROL KNOBS
0:BEAMED ASCENDING MUSICAL NOTES
7:DESCENDING MUSICAL NOTES
0:FILM FRAMES
0:ADMISSION TICKETS
0:CAROUSEL HORSE
0:FERRIS WHEEL
0:ROLLER COASTER
0:FISHING POLE AND FISH
0:MICROPHONE
1:OVIE CAMERA
0:CINEMA
0:HEADPHONE
0:ARTIST PALETTE
0:TOP HAT
0:CIRCUS TENT
0:TICKET
0:CLAPPER BOARD
0:PERFORMING ARTS
0:VIDEO GAME
0:DIRECT HIT
0:SLOT MACHINE
0:BILLIARDS
0:GAME DIE
0:BOWLING
0:FLOWER PLAYING CARDS
0:MUSICAL NOTE
2:LTIPLE MUSICAL NOTES
0:SAXOPHONE
0:GUITAR
0:MUSICAL KEYBOARD
0:TRUMPET
0:VIOLIN
0:MUSICAL SCORE
0:RUNNING SHIRT WITH SASH
0:TENNIS RACQUET AND BALL
0:SKI AND SKI BOOT
0:BASKETBALL AND HOOP
0:CHEQUERED FLAG
0:SNOWBOARDER
0:RUNNER
0:SURFER
1:PORTS MEDAL
0:TROPHY
0:HORSE RACING
0:AMERICAN FOOTBALL
0:RUGBY FOOTBALL
0:SWIMMER
0:WEIGHT LIFTER
0:GOLFER
0:RACING MOTORCYCLE
7:CAR
0:CRICKET BAT AND BALL
0:VOLLEYBALL
0:FIELD HOCKEY STICK AND BALL
0:ICE HOCKEY STICK AND PUCK
0:TABLE TENNIS PADDLE AND BALL
0:SNOW CAPPED MOUNTAIN
0:CAMPING
0:BEACH WITH UMBRELLA
1:UILDING CONSTRUCTION
0:HOUSE BUILDINGS
0:CITYSCAPE
0:DERELICT HOUSE BUILDING
0:CLASSICAL BUILDING
0:DESERT
6: ISLAND
0:NATIONAL PARK
0:STADIUM
0:HOUSE BUILDING
6:WITH GARDEN
0:OFFICE BUILDING
0:JAPANESE POST OFFICE
0:EUROPEAN POST OFFICE
0:HOSPITAL
0:BANK
0:AUTOMATED TELLER MACHINE
0:HOTEL
0:LOVE HOTEL
0:CONVENIENCE STORE
0:SCHOOL
0:DEPARTMENT STORE
0:FACTORY
0:IZAKAYA LANTERN
0:JAPANESE CASTLE
0:EUROPEAN CASTLE
0:WHITE PENNANT
0:BLACK PENNANT
0:WAVING WHITE FLAG
7:BLACK FLAG
0:ROSETTE
0:BLACK ROSETTE
0:LABEL
0:BADMINTON RACQUET AND SHUTTLECOCK
1:OW AND ARROW
0:AMPHORA
0:EMOJI MODIFIER FITZPATRICK TYPE-1-2
32:3
32:4
32:5
32:6
0:RAT
0:MOUSE
0:OX
0:WATER BUFFALO
0:COW
0:TIGER
0:LEOPARD
0:RABBIT
0:CAT
0:DRAGON
0:CROCODILE
0:WHALE
0:SNAIL
3:KE
0:HORSE
0:RAM
0:GOAT
0:SHEEP
0:MONKEY
0:ROOSTER
0:CHICKEN
0:DOG
0:PIG
0:BOAR
0:ELEPHANT
0:OCTOPUS
0:SPIRAL SHELL
0:BUG
0:ANT
0:HONEYBEE
0:LADY BEETLE
0:FISH
0:TROPICAL FISH
0:BLOWFISH
0:TURTLE
0:HATCHING CHICK
0:BABY CHICK
0:FRONT-FACING BABY CHICK
0:BIRD
0:PENGUIN
0:KOALA
0:POODLE
0:DROMEDARY CAMEL
0:BACTRIAN CAMEL
0:DOLPHIN
0:MOUSE FACE
0:COW FACE
0:TIGER FACE
0:RABBIT FACE
0:CAT FACE
0:DRAGON FACE
0:SPOUTING WHALE
0:HORSE FACE
0:MONKEY FACE
0:DOG FACE
0:PIG FACE
0:FROG FACE
0:HAMSTER FACE
0:WOLF FACE
0:BEAR FACE
0:PANDA FACE
1:IG NOSE
1:AW PRINTS
0:CHIPMUNK
0:EYES
3:
1:AR
0:NOSE
0:MOUTH
0:TONGUE
0:WHITE UP POINTING BACKHAND INDEX
6:DOWN POINTING BACKHAND INDEX
6:LEFT POINTING BACKHAND INDEX
6:RIGHT POINTING BACKHAND INDEX
0:FISTED HAND SIGN
0:WAVING HAND SIGN
0:OK HAND SIGN
0:THUMBS UP SIGN
7:DOWN SIGN
0:CLAPPING HANDS SIGN
0:OPEN HANDS SIGN
0:CROWN
0:WOMANS HAT
0:EYEGLASSES
0:NECKTIE
0:T-SHIRT
0:JEANS
0:DRESS
0:KIMONO
0:BIKINI
0:WOMANS CLOTHES
0:PURSE
0:HANDBAG
0:POUCH
0:MANS SHOE
0:ATHLETIC SHOE
0:HIGH-HEELED SHOE
0:WOMANS SANDAL
7:BOOTS
0:FOOTPRINTS
0:BUST IN SILHOUETTE
4:S IN SILHOUETTE
1:OY
0:GIRL
0:MAN
0:WOMAN
0:FAMILY
0:MAN AND WOMAN HOLDING HANDS
0:TWO MEN HOLDING HANDS
4:WOMEN HOLDING HANDS
0:POLICE OFFICER
0:WOMAN WITH BUNNY EARS
0:BRIDE WITH VEIL
0:PERSON WITH BLOND HAIR
0:MAN WITH GUA PI MAO
9:TURBAN
0:OLDER MAN
6:WOMAN
0:BABY
0:CONSTRUCTION WORKER
0:PRINCESS
0:JAPANESE OGRE
9:GOBLIN
0:GHOST
0:BABY ANGEL
0:EXTRATERRESTRIAL ALIEN
0:ALIEN MONSTER
0:IMP
0:SKULL
0:INFORMATION DESK PERSON
0:GUARDSMAN
0:DANCER
0:LIPSTICK
0:NAIL POLISH
0:FACE MASSAGE
0:HAIRCUT
0:BARBER POLE
0:SYRINGE
0:PILL
0:KISS MARK
0:LOVE LETTER
0:RING
0:GEM STONE
0:KISS
0:BOUQUET
0:COUPLE WITH HEART
0:WEDDING
0:BEATING HEART
1:ROKEN HEART
0:TWO HEARTS
0:SPARKLING HEART
0:GROWING HEART
0:HEART WITH ARROW
0:BLUE HEART
0:GREEN HEART
0:YELLOW HEART
0:PURPLE HEART
0:HEART WITH RIBBON
0:REVOLVING HEARTS
0:HEART DECORATION
0:DIAMOND SHAPE WITH A DOT INSIDE
0:ELECTRIC LIGHT BULB
0:ANGER SYMBOL
0:BOMB
0:SLEEPING SYMBOL
0:COLLISION SYMBOL
0:SPLASHING SWEAT SYMBOL
0:DROPLET
1:ASH SYMBOL
0:PILE OF POO
0:FLEXED BICEPS
0:DIZZY SYMBOL
0:SPEECH BALLOON
0:THOUGHT BALLOON
0:WHITE FLOWER
0:HUNDRED POINTS SYMBOL
0:MONEY BAG
0:CURRENCY EXCHANGE
0:HEAVY DOLLAR SIGN
0:CREDIT CARD
0:BANKNOTE WITH YEN SIGN
14:DOLLAR SIGN
14:EURO SIGN
14:POUND SIGN
0:MONEY WITH WINGS
0:CHART WITH UPWARDS TREND AND YEN SIGN
0:SEAT
0:PERSONAL COMPUTER
0:BRIEFCASE
0:MINIDISC
0:FLOPPY DISK
0:OPTICAL DISC
0:DVD
0:FILE FOLDER
0:OPEN FILE FOLDER
0:PAGE WITH CURL
5:FACING UP
0:CALENDAR
0:TEAR-OFF CALENDAR
0:CARD INDEX
1:HART WITH UPWARDS TREND
11:DOWNWARDS TREND
0:BAR CHART
0:CLIPBOARD
0:PUSHPIN
0:ROUND PUSHPIN
0:PAPERCLIP
0:STRAIGHT RULER
0:TRIANGULAR RULER
0:BOOKMARK TABS
0:LEDGER
0:NOTEBOOK
8: WITH DECORATIVE COVER
0:CLOSED BOOK
0:OPEN BOOK
0:GREEN BOOK
0:BLUE BOOK
0:ORANGE BOOK
0:BOOKS
0:NAME BADGE
0:SCROLL
0:MEMO
0:TELEPHONE RECEIVER
0:PAGER
0:FAX MACHINE
0:SATELLITE ANTENNA
0:PUBLIC ADDRESS LOUDSPEAKER
0:CHEERING MEGAPHONE
0:OUTBOX TRAY
0:INBOX TRAY
0:PACKAGE
0:E-MAIL SYMBOL
0:INCOMING ENVELOPE
0:ENVELOPE WITH DOWNWARDS ARROW ABOVE
0:CLOSED MAILBOX WITH LOWERED FLAG
20:RAISED FLAG
0:OPEN MAILBOX WITH RAISED FLAG
18:LOWERED FLAG
0:POSTBOX
4:AL HORN
0:NEWSPAPER
0:MOBILE PHONE
12: WITH RIGHTWARDS ARROW AT LEFT
0:VIBRATION MODE
0:MOBILE PHONE OFF
0:NO MOBILE PHONES
0:ANTENNA WITH BARS
0:CAMERA
6: WITH FLASH
0:VIDEO CAMERA
0:TELEVISION
0:RADIO
0:VIDEOCASSETTE
0:FILM PROJECTOR
0:PORTABLE STEREO
1:RAYER BEADS
0:TWISTED RIGHTWARDS ARROWS
0:CLOCKWISE RIGHTWARDS AND LEFTWARDS OPEN CIRCLE ARROWS
53: WITH CIRCLED ONE OVERLAY
10:DOWNWARDS AND UPWARDS OPEN CIRCLE ARROWS
0:ANTICLOCKWISE DOWNWARDS AND UPWARDS OPEN CIRCLE ARROWS
0:LOW BRIGHTNESS SYMBOL
0:HIGH BRIGHTNESS SYMBOL
0:SPEAKER WITH CANCELLATION STROKE
7:
7: WITH ONE SOUND WAVE
13:THREE SOUND WAVES
0:BATTERY
0:ELECTRIC PLUG
0:LEFT-POINTING MAGNIFYING GLASS
0:RIGHT-POINTING MAGNIFYING GLASS
0:LOCK WITH INK PEN
0:CLOSED LOCK WITH KEY
0:KEY
0:LOCK
0:OPEN LOCK
0:BELL
4: WITH CANCELLATION STROKE
1:OOKMARK
0:LINK SYMBOL
0:RADIO BUTTON
0:BACK WITH LEFTWARDS ARROW ABOVE
0:END WITH LEFTWARDS ARROW ABOVE
0:ON WITH EXCLAMATION MARK WITH LEFT RIGHT ARROW ABOVE
0:SOON WITH RIGHTWARDS ARROW ABOVE
0:TOP WITH UPWARDS ARROW ABOVE
0:NO ONE UNDER EIGHTEEN SYMBOL
0:KEYCAP TEN
0:INPUT SYMBOL FOR LATIN CAPITAL LETTERS
23:SMALL LETTERS
17:NUMBERS
17:SYMBOLS
17:LATIN LETTERS
0:FIRE
0:ELECTRIC TORCH
0:WRENCH
0:HAMMER
0:NUT AND BOLT
0:HOCHO
0:PISTOL
0:MICROSCOPE
0:TELESCOPE
0:CRYSTAL BALL
0:SIX POINTED STAR WITH MIDDLE DOT
0:JAPANESE SYMBOL FOR BEGINNER
0:TRIDENT EMBLEM
0:BLACK SQUARE BUTTON
0:WHITE SQUARE BUTTON
0:LARGE RED CIRCLE
6:BLUE CIRCLE
6:ORANGE DIAMOND
6:BLUE DIAMOND
0:SMALL ORANGE DIAMOND
6:BLUE DIAMOND
0:UP-POINTING RED TRIANGLE
0:DOWN-POINTING RED TRIANGLE
0:UP-POINTING SMALL RED TRIANGLE
0:DOWN-POINTING SMALL RED TRIANGLE
0:LOWER RIGHT SHADOWED WHITE CIRCLE
0:UPPER RIGHT SHADOWED WHITE CIRCLE
0:CIRCLED CROSS POMMEE
1:ROSS POMMEE WITH HALF-CIRCLE BELOW
12:
0:NOTCHED LEFT SEMICIRCLE WITH THREE DOTS
8:RIGHT SEMICIRCLE WITH THREE DOTS
0:SYMBOL FOR MARKS CHAPTER
0:WHITE LATIN CROSS
0:HEAVY LATIN CROSS
0:CELTIC CROSS
0:OM SYMBOL
0:DOVE OF PEACE
0:KAABA
0:MOSQUE
0:SYNAGOGUE
0:MENORAH WITH NINE BRANCHES
0:BOWL OF HYGIEIA
0:CLOCK FACE ONE OCLOCK
11:TWO OCLOCK
12:HREE OCLOCK
11:FOUR OCLOCK
12:IVE OCLOCK
11:SIX OCLOCK
12:EVEN OCLOCK
11:EIGHT OCLOCK
11:NINE OCLOCK
11:TEN OCLOCK
11:ELEVEN OCLOCK
11:TWELVE OCLOCK
11:ONE-THIRTY
11:TWO-THIRTY
12:HREE-THIRTY
11:FOUR-THIRTY
12:IVE-THIRTY
11:SIX-THIRTY
12:EVEN-THIRTY
11:EIGHT-THIRTY
11:NINE-THIRTY
11:TEN-THIRTY
11:ELEVEN-THIRTY
11:TWELVE-THIRTY
0:RIGHT SPEAKER
13: WITH ONE SOUND WAVE
19:THREE SOUND WAVES
0:BULLHORN
8: WITH SOUND WAVES
0:RINGING BELL
0:BOOK
0:CANDLE
0:MANTELPIECE CLOCK
0:BLACK SKULL AND CROSSBONES
0:NO PIRACY
0:HOLE
0:MAN IN BUSINESS SUIT LEVITATING
0:SLEUTH OR SPY
0:DARK SUNGLASSES
0:SPIDER
6: WEB
0:JOYSTICK
0:MAN DANCING
0:LEFT HAND TELEPHONE RECEIVER
0:TELEPHONE RECEIVER WITH PAGE
0:RIGHT HAND TELEPHONE RECEIVER
0:WHITE TOUCHTONE TELEPHONE
0:BLACK TOUCHTONE TELEPHONE
0:TELEPHONE ON TOP OF MODEM
0:CLAMSHELL MOBILE PHONE
0:BACK OF ENVELOPE
0:STAMPED ENVELOPE
0:ENVELOPE WITH LIGHTNING
0:FLYING ENVELOPE
0:PEN OVER STAMPED ENVELOPE
0:LINKED PAPERCLIPS
0:BLACK PUSHPIN
0:LOWER LEFT PENCIL
11:BALLPOINT PEN
11:FOUNTAIN PEN
11:PAINTBRUSH
11:CRAYON
1:EFT WRITING HAND
0:TURNED OK HAND SIGN
0:RAISED HAND WITH FINGERS SPLAYED
1:EVERSED RAISED HAND WITH FINGERS SPLAYED
9:THUMBS UP SIGN
16:DOWN SIGN
9:VICTORY HAND
9:HAND WITH MIDDLE FINGER EXTENDED
1:AISED HAND WITH PART BETWEEN MIDDLE AND RING FINGERS
0:WHITE DOWN POINTING LEFT HAND INDEX
0:SIDEWAYS WHITE LEFT POINTING INDEX
15:RIGHT POINTING INDEX
9:BLACK LEFT POINTING INDEX
15:RIGHT POINTING INDEX
0:BLACK LEFT POINTING BACKHAND INDEX
6:RIGHT POINTING BACKHAND INDEX
0:SIDEWAYS WHITE UP POINTING INDEX
15:DOWN POINTING INDEX
9:BLACK UP POINTING INDEX
15:DOWN POINTING INDEX
0:BLACK UP POINTING BACKHAND INDEX
6:DOWN POINTING BACKHAND INDEX
6:HEART
0:DESKTOP COMPUTER
0:KEYBOARD AND MOUSE
0:THREE NETWORKED COMPUTERS
0:PRINTER
1:OCKET CALCULATOR
0:BLACK HARD SHELL FLOPPY DISK
0:WHITE HARD SHELL FLOPPY DISK
0:SOFT SHELL FLOPPY DISK
0:TAPE CARTRIDGE
0:WIRED KEYBOARD
0:ONE BUTTON MOUSE
0:TWO BUTTON MOUSE
1:HREE BUTTON MOUSE
1:RACKBALL
0:OLD PERSONAL COMPUTER
0:HARD DISK
0:SCREEN
0:PRINTER ICON
0:FAX ICON
0:OPTICAL DISC ICON
0:DOCUMENT WITH TEXT
18: AND PICTURE
14:PICTURE
0:FRAME WITH PICTURE
11:TILES
11:AN X
0:BLACK FOLDER
0:FOLDER
0:OPEN FOLDER
0:CARD INDEX DIVIDERS
5:FILE BOX
0:FILE CABINET
0:EMPTY NOTE
10: PAGE
13:D
0:NOTE
4: PAGE
7:D
0:EMPTY DOCUMENT
6:PAGE
10:S
0:DOCUMENT
0:PAGE
4:S
0:WASTEBASKET
0:SPIRAL NOTE PAD
7:CALENDAR PAD
0:DESKTOP WINDOW
0:MINIMIZE
1:AXIMIZE
0:OVERLAP
0:CLOCKWISE RIGHT AND LEFT SEMICIRCLE ARROWS
1:ANCELLATION X
0:INCREASE FONT SIZE SYMBOL
0:DECREASE FONT SIZE SYMBOL
0:COMPRESSION
0:OLD KEY
0:ROLLED-UP NEWSPAPER
0:PAGE WITH CIRCLED TEXT
0:STOCK CHART
0:DAGGER KNIFE
0:LIPS
0:SPEAKING HEAD IN SILHOUETTE
0:THREE RAYS ABOVE
11:BELOW
11:LEFT
11:RIGHT
0:LEFT SPEECH BUBBLE
0:RIGHT SPEECH BUBBLE
0:TWO SPEECH BUBBLES
1:HREE SPEECH BUBBLES
0:LEFT THOUGHT BUBBLE
0:RIGHT THOUGHT BUBBLE
0:LEFT ANGER BUBBLE
0:RIGHT ANGER BUBBLE
0:MOOD BUBBLE
0:LIGHTNING MOOD BUBBLE
14:
0:BALLOT BOX WITH BALLOT
7:SCRIPT X
7:BOX WITH SCRIPT X
9:LD SCRIPT X
9:X WITH BOLD SCRIPT X
0:LIGHT CHECK MARK
0:BALLOT BOX WITH BOLD CHECK
0:WORLD MAP
0:MOUNT FUJI
0:TOKYO TOWER
0:STATUE OF LIBERTY
1:ILHOUETTE OF JAPAN
0:MOYAI
0:GRINNING FACE
13: WITH SMILING EYES
0:FACE WITH TEARS OF JOY
0:SMILING FACE WITH OPEN MOUTH
28: AND SMILING EYES
33:COLD SWEAT
33:TIGHTLY-CLOSED EYES
18:HALO
19:ORNS
0:WINKING FACE
0:SMILING FACE WITH SMILING EYES
0:FACE SAVOURING DELICIOUS FOOD
0:RELIEVED FACE
0:SMILING FACE WITH HEART-SHAPED EYES
18:SUNGLASSES
3:RKING FACE
0:NEUTRAL FACE
0:EXPRESSIONLESS FACE
0:UNAMUSED FACE
0:FACE WITH COLD SWEAT
0:PENSIVE FACE
0:CONFUSED FACE
4:OUNDED FACE
0:KISSING FACE
0:FACE THROWING A KISS
0:KISSING FACE WITH SMILING EYES
18:CLOSED EYES
0:FACE WITH STUCK-OUT TONGUE
26: AND WINKING EYE
31:TIGHTLY-CLOSED EYES
0:DISAPPOINTED FACE
0:WORRIED FACE
0:ANGRY FACE
0:POUTING FACE
0:CRYING FACE
0:PERSEVERING FACE
0:FACE WITH LOOK OF TRIUMPH
0:DISAPPOINTED BUT RELIEVED FACE
0:FROWNING FACE WITH OPEN MOUTH
0:ANGUISHED FACE
0:FEARFUL FACE
0:WEARY FACE
0:SLEEPY FACE
0:TIRED FACE
0:GRIMACING FACE
0:LOUDLY CRYING FACE
0:FACE WITH OPEN MOUTH
0:HUSHED FACE
0:FACE WITH OPEN MOUTH AND COLD SWEAT
5:SCREAMING IN FEAR
0:ASTONISHED FACE
0:FLUSHED FACE
0:SLEEPING FACE
0:DIZZY FACE
0:FACE WITHOUT MOUTH
9: MEDICAL MASK
0:GRINNING CAT FACE WITH SMILING EYES
0:CAT FACE WITH TEARS OF JOY
0:SMILING CAT FACE WITH OPEN MOUTH
22:HEART-SHAPED EYES
0:CAT FACE WITH WRY SMILE
0:KISSING CAT FACE WITH CLOSED EYES
0:POUTING CAT FACE
0:CRYING CAT FACE
0:WEARY CAT FACE
0:SLIGHTLY FROWNING FACE
9:SMILING FACE
0:UPSIDE-DOWN FACE
0:FACE WITH ROLLING EYES
10:NO GOOD GESTURE
10:OK GESTURE
0:PERSON BOWING DEEPLY
0:SEE-NO-EVIL MONKEY
0:HEAR-NO-EVIL MONKEY
0:SPEAK-NO-EVIL MONKEY
0:HAPPY PERSON RAISING ONE HAND
0:PERSON RAISING BOTH HANDS IN CELEBRATION
7:FROWNING
7:WITH POUTING FACE
12:FOLDED HANDS
0:NORTH WEST POINTING LEAF
0:SOUTH WEST POINTING LEAF
0:NORTH EAST POINTING LEAF
0:SOUTH EAST POINTING LEAF
0:TURNED NORTH WEST POINTING LEAF
7:SOUTH WEST POINTING LEAF
7:NORTH EAST POINTING LEAF
7:SOUTH EAST POINTING LEAF
0:NORTH WEST POINTING VINE LEAF
0:SOUTH WEST POINTING VINE LEAF
0:NORTH EAST POINTING VINE LEAF
0:SOUTH EAST POINTING VINE LEAF
0:HEAVY NORTH WEST POINTING VINE LEAF
6:SOUTH WEST POINTING VINE LEAF
6:NORTH EAST POINTING VINE LEAF
6:SOUTH EAST POINTING VINE LEAF
0:NORTH WEST POINTING BUD
0:SOUTH WEST POINTING BUD
0:NORTH EAST POINTING BUD
0:SOUTH EAST POINTING BUD
0:HEAVY NORTH WEST POINTING BUD
6:SOUTH WEST POINTING BUD
6:NORTH EAST POINTING BUD
6:SOUTH EAST POINTING BUD
1:OLLOW QUILT SQUARE ORNAMENT
28: IN BLACK SQUARE
0:SOLID QUILT SQUARE ORNAMENT
27: IN BLACK SQUARE
0:LEFTWARDS ROCKET
0:UPWARDS ROCKET
0:RIGHTWARDS ROCKET
0:DOWNWARDS ROCKET
0:SCRIPT LIGATURE ET ORNAMENT
0:HEAVY SCRIPT LIGATURE ET ORNAMENT
0:LIGATURE OPEN ET ORNAMENT
0:HEAVY LIGATURE OPEN ET ORNAMENT
6:AMPERSAND ORNAMENT
0:SWASH AMPERSAND ORNAMENT
1:ANS-SERIF HEAVY DOUBLE TURNED COMMA QUOTATION MARK ORNAMENT
24:COMMA QUOTATION MARK ORNAMENT
17:LOW DOUBLE COMMA QUOTATION MARK ORNAMENT
0:HEAVY INTERROBANG ORNAMENT
0:SANS-SERIF INTERROBANG ORNAMENT
0:HEAVY SANS-SERIF INTERROBANG ORNAMENT
0:VERY HEAVY SOLIDUS
11:REVERSE SOLIDUS
0:CHECKER BOARD
0:REVERSE CHECKER BOARD
1:OCKET
0:HELICOPTER
0:STEAM LOCOMOTIVE
0:RAILWAY CAR
0:HIGH-SPEED TRAIN
16: WITH BULLET NOSE
0:TRAIN
0:METRO
0:LIGHT RAIL
0:STATION
0:TRAM
4: CAR
0:BUS
0:ONCOMING BUS
0:TROLLEYBUS
0:BUS STOP
0:MINIBUS
0:AMBULANCE
0:FIRE ENGINE
0:POLICE CAR
0:ONCOMING POLICE CAR
0:TAXI
0:ONCOMING TAXI
0:AUTOMOBILE
0:ONCOMING AUTOMOBILE
0:RECREATIONAL VEHICLE
0:DELIVERY TRUCK
0:ARTICULATED LORRY
0:TRACTOR
0:MONORAIL
2:UNTAIN RAILWAY
0:SUSPENSION RAILWAY
0:MOUNTAIN CABLEWAY
0:AERIAL TRAMWAY
0:SHIP
0:ROWBOAT
0:SPEEDBOAT
0:HORIZONTAL TRAFFIC LIGHT
0:VERTICAL TRAFFIC LIGHT
0:CONSTRUCTION SIGN
0:POLICE CARS REVOLVING LIGHT
0:TRIANGULAR FLAG ON POST
0:DOOR
0:NO ENTRY SIGN
0:SMOKING SYMBOL
0:NO SMOKING SYMBOL
0:PUT LITTER IN ITS PLACE SYMBOL
0:DO NOT LITTER SYMBOL
0:POTABLE WATER SYMBOL
0:NON-POTABLE WATER SYMBOL
0:BICYCLE
0:NO BICYCLES
0:BICYCLIST
0:MOUNTAIN BICYCLIST
0:PEDESTRIAN
0:NO PEDESTRIANS
0:CHILDREN CROSSING
0:MENS SYMBOL
0:WOMENS SYMBOL
0:RESTROOM
0:BABY SYMBOL
0:TOILET
0:WATER CLOSET
0:SHOWER
0:BATH
4:TUB
0:PASSPORT CONTROL
0:CUSTOMS
0:BAGGAGE CLAIM
0:LEFT LUGGAGE
0:TRIANGLE WITH ROUNDED CORNERS
0:PROHIBITED SIGN
0:CIRCLED INFORMATION SOURCE
0:BOYS SYMBOL
0:GIRLS SYMBOL
0:COUCH AND LAMP
0:SLEEPING ACCOMMODATION
1:HOPPING BAGS
0:BELLHOP BELL
2:D
0:PLACE OF WORSHIP
0:OCTAGONAL SIGN
0:SHOPPING TROLLEY
1:TUPA
0:PAGODA
0:HINDU TEMPLE
1:UT
0:ELEVATOR
@1F6DD
0:PLAYGROUND SLIDE
0:WHEEL
0:RING BUOY
0:HAMMER AND WRENCH
0:SHIELD
0:OIL DRUM
0:MOTORWAY
0:RAILWAY TRACK
0:MOTOR BOAT
0:UP-POINTING MILITARY AIRPLANE
12:AIRPLANE
12:SMALL AIRPLANE
0:SMALL AIRPLANE
0:NORTHEAST-POINTING AIRPLANE
0:AIRPLANE DEPARTURE
9:ARRIVING
@1F6F0
0:SATELLITE
0:ONCOMING FIRE ENGINE
0:DIESEL LOCOMOTIVE
0:PASSENGER SHIP
0:SCOOTER
0:MOTOR SCOOTER
0:CANOE
0:SLED
0:FLYING SAUCER
0:SKATEBOARD
0:AUTO RICKSHAW
0:PICKUP TRUCK
0:ROLLER SKATE
@1F700
0:ALCHEMICAL SYMBOL FOR QUINTESSENCE
22:AIR
22:FIRE
22:EARTH
22:WATER
22:AQUAFORTIS
26: REGIA
32:-2
27:VITAE
32:-2
22:VINEGAR
29:-2
30:3
22:SULFUR
22:PHILOSOPHERS SULFUR
22:BLACK SULFUR
22:MERCURY SUBLIMATE
39:-2
40:3
22:CINNABAR
22:SALT
22:NITRE
22:VITRIOL
29:-2
22:ROCK SALT
31:-2
22:GOLD
22:SILVER
22:IRON ORE
30:-2
22:CROCUS OF IRON
22:REGULUS OF IRON
22:COPPER ORE
22:IRON-COPPER ORE
22:SUBLIMATE OF COPPER
22:CROCUS OF COPPER
38:-2
23:OPPER ANTIMONIATE
22:SALT OF COPPER ANTIMONIATE
23:UBLIMATE OF SALT OF COPPER
22:VERDIGRIS
22:TIN ORE
22:LEAD ORE
22:ANTIMONY ORE
22:SUBLIMATE OF ANTIMONY
23:ALT OF ANTIMONY
23:UBLIMATE OF SALT OF ANTIMONY
22:VINEGAR OF ANTIMONY
22:REGULUS OF ANTIMONY
41:-2
29:
29:-2
30:3
30:4
22:ALKALI
28:-2
22:MARCASITE
22:SAL-AMMONIAC
22:ARSENIC
22:REALGAR
29:-2
22:AURIPIGMENT
22:BISMUTH ORE
22:TARTAR
28:-2
22:QUICK LIME
22:BORAX
27:-2
28:3
22:ALUM
22:OIL
22:SPIRIT
22:TINCTURE
22:GUM
22:WAX
22:POWDER
22:CALX
22:TUTTY
22:CAPUT MORTUUM
22:SCEPTER OF JOVE
22:CADUCEUS
22:TRIDENT
22:STARRED TRIDENT
22:LODESTONE
22:SOAP
22:URINE
22:HORSE DUNG
22:ASHES
22:POT ASHES
22:BRICK
22:POWDERED BRICK
22:AMALGAM
22:STRATUM SUPER STRATUM
43:-2
23:UBLIMATION
22:PRECIPITATE
22:DISTILL
25:SOLVE
30:-2
22:PURIFY
24:TREFACTION
22:CRUCIBLE
30:-2
31:3
31:4
31:5
22:ALEMBIC
22:BATH OF MARY
30:VAPOURS
22:RETORT
22:HOUR
22:NIGHT
22:DAY-NIGHT
22:MONTH
22:HALF DRAM
27:OUNCE
@1F780
0:BLACK LEFT-POINTING ISOSCELES RIGHT TRIANGLE
6:UP-POINTING ISOSCELES RIGHT TRIANGLE
6:RIGHT-POINTING ISOSCELES RIGHT TRIANGLE
6:DOWN-POINTING ISOSCELES RIGHT TRIANGLE
6:SLIGHTLY SMALL CIRCLE
0:MEDIUM BOLD WHITE CIRCLE
0:BOLD WHITE CIRCLE
0:HEAVY WHITE CIRCLE
0:VERY HEAVY WHITE CIRCLE
0:EXTREMELY HEAVY WHITE CIRCLE
0:WHITE CIRCLE CONTAINING BLACK SMALL CIRCLE
0:ROUND TARGET
0:BLACK TINY SQUARE
6:SLIGHTLY SMALL SQUARE
0:LIGHT WHITE SQUARE
0:MEDIUM WHITE SQUARE
0:BOLD WHITE SQUARE
0:HEAVY WHITE SQUARE
0:VERY HEAVY WHITE SQUARE
0:EXTREMELY HEAVY WHITE SQUARE
0:WHITE SQUARE CONTAINING BLACK VERY SMALL SQUARE
30:MEDIUM SQUARE
0:SQUARE TARGET
0:BLACK TINY DIAMOND
6:VERY SMALL DIAMOND
6:MEDIUM SMALL DIAMOND
0:WHITE DIAMOND CONTAINING BLACK VERY SMALL DIAMOND
31:MEDIUM DIAMOND
0:DIAMOND TARGET
0:BLACK TINY LOZENGE
6:VERY SMALL LOZENGE
6:MEDIUM SMALL LOZENGE
0:WHITE LOZENGE CONTAINING BLACK SMALL LOZENGE
0:THIN GREEK CROSS
0:LIGHT GREEK CROSS
0:MEDIUM GREEK CROSS
0:BOLD GREEK CROSS
0:VERY BOLD GREEK CROSS
5:HEAVY GREEK CROSS
0:EXTREMELY HEAVY GREEK CROSS
0:THIN SALTIRE
0:LIGHT SALTIRE
0:MEDIUM SALTIRE
0:BOLD SALTIRE
0:HEAVY SALTIRE
0:VERY HEAVY SALTIRE
0:EXTREMELY HEAVY SALTIRE
0:LIGHT FIVE SPOKED ASTERISK
0:MEDIUM FIVE SPOKED ASTERISK
0:BOLD FIVE SPOKED ASTERISK
0:HEAVY FIVE SPOKED ASTERISK
0:VERY HEAVY FIVE SPOKED ASTERISK
0:EXTREMELY HEAVY FIVE SPOKED ASTERISK
0:LIGHT SIX SPOKED ASTERISK
0:MEDIUM SIX SPOKED ASTERISK
0:BOLD SIX SPOKED ASTERISK
0:HEAVY SIX SPOKED ASTERISK
0:VERY HEAVY SIX SPOKED ASTERISK
0:EXTREMELY HEAVY SIX SPOKED ASTERISK
0:LIGHT EIGHT SPOKED ASTERISK
0:MEDIUM EIGHT SPOKED ASTERISK
0:BOLD EIGHT SPOKED ASTERISK
0:HEAVY EIGHT SPOKED ASTERISK
0:VERY HEAVY EIGHT SPOKED ASTERISK
0:LIGHT THREE POINTED BLACK STAR
0:MEDIUM THREE POINTED BLACK STAR
0:THREE POINTED BLACK STAR
0:MEDIUM THREE POINTED PINWHEEL STAR
0:LIGHT FOUR POINTED BLACK STAR
0:MEDIUM FOUR POINTED BLACK STAR
0:FOUR POINTED BLACK STAR
0:MEDIUM FOUR POINTED PINWHEEL STAR
0:REVERSE LIGHT FOUR POINTED PINWHEEL STAR
0:LIGHT FIVE POINTED BLACK STAR
0:HEAVY FIVE POINTED BLACK STAR
0:MEDIUM SIX POINTED BLACK STAR
0:HEAVY SIX POINTED BLACK STAR
0:SIX POINTED PINWHEEL STAR
0:MEDIUM EIGHT POINTED BLACK STAR
0:HEAVY EIGHT POINTED BLACK STAR
0:VERY HEAVY EIGHT POINTED BLACK STAR
0:HEAVY EIGHT POINTED PINWHEEL STAR
0:LIGHT TWELVE POINTED BLACK STAR
0:HEAVY TWELVE POINTED BLACK STAR
21:PINWHEEL STAR
0:CIRCLED TRIANGLE
0:NEGATIVE CIRCLED TRIANGLE
0:CIRCLED SQUARE
0:NEGATIVE CIRCLED SQUARE
@1F7E0
0:LARGE ORANGE CIRCLE
6:YELLOW CIRCLE
6:GREEN CIRCLE
6:PURPLE CIRCLE
6:BROWN CIRCLE
6:RED SQUARE
6:BLUE SQUARE
6:ORANGE SQUARE
6:YELLOW SQUARE
6:GREEN SQUARE
6:PURPLE SQUARE
6:BROWN SQUARE
@1F7F0
0:HEAVY EQUALS SIGN
@1F800
0:LEFTWARDS ARROW WITH SMALL TRIANGLE ARROWHEAD
0:UPWARDS ARROW WITH SMALL TRIANGLE ARROWHEAD
0:RIGHTWARDS ARROW WITH SMALL TRIANGLE ARROWHEAD
0:DOWNWARDS ARROW WITH SMALL TRIANGLE ARROWHEAD
0:LEFTWARDS ARROW WITH MEDIUM TRIANGLE ARROWHEAD
0:UPWARDS ARROW WITH MEDIUM TRIANGLE ARROWHEAD
0:RIGHTWARDS ARROW WITH MEDIUM TRIANGLE ARROWHEAD
0:DOWNWARDS ARROW WITH MEDIUM TRIANGLE ARROWHEAD
0:LEFTWARDS ARROW WITH LARGE TRIANGLE ARROWHEAD
0:UPWARDS ARROW WITH LARGE TRIANGLE ARROWHEAD
0:RIGHTWARDS ARROW WITH LARGE TRIANGLE ARROWHEAD
0:DOWNWARDS ARROW WITH LARGE TRIANGLE ARROWHEAD
@1F810
0:LEFTWARDS ARROW WITH SMALL EQUILATERAL ARROWHEAD
0:UPWARDS ARROW WITH SMALL EQUILATERAL ARROWHEAD
0:RIGHTWARDS ARROW WITH SMALL EQUILATERAL ARROWHEAD
0:DOWNWARDS ARROW WITH SMALL EQUILATERAL ARROWHEAD
0:LEFTWARDS ARROW WITH EQUILATERAL ARROWHEAD
0:UPWARDS ARROW WITH EQUILATERAL ARROWHEAD
0:RIGHTWARDS ARROW WITH EQUILATERAL ARROWHEAD
0:DOWNWARDS ARROW WITH EQUILATERAL ARROWHEAD
0:HEAVY LEFTWARDS ARROW WITH EQUILATERAL ARROWHEAD
6:UPWARDS ARROW WITH EQUILATERAL ARROWHEAD
6:RIGHTWARDS ARROW WITH EQUILATERAL ARROWHEAD
6:DOWNWARDS ARROW WITH EQUILATERAL ARROWHEAD
6:LEFTWARDS ARROW WITH LARGE EQUILATERAL ARROWHEAD
6:UPWARDS ARROW WITH LARGE EQUILATERAL ARROWHEAD
6:RIGHTWARDS ARROW WITH LARGE EQUILATERAL ARROWHEAD
6:DOWNWARDS ARROW WITH LARGE EQUILATERAL ARROWHEAD
0:LEFTWARDS TRIANGLE-HEADED ARROW WITH NARROW SHAFT
0:UPWARDS TRIANGLE-HEADED ARROW WITH NARROW SHAFT
0:RIGHTWARDS TRIANGLE-HEADED ARROW WITH NARROW SHAFT
0:DOWNWARDS TRIANGLE-HEADED ARROW WITH NARROW SHAFT
0:LEFTWARDS TRIANGLE-HEADED ARROW WITH MEDIUM SHAFT
0:UPWARDS TRIANGLE-HEADED ARROW WITH MEDIUM SHAFT
0:RIGHTWARDS TRIANGLE-HEADED ARROW WITH MEDIUM SHAFT
0:DOWNWARDS TRIANGLE-HEADED ARROW WITH MEDIUM SHAFT
0:LEFTWARDS TRIANGLE-HEADED ARROW WITH BOLD SHAFT
0:UPWARDS TRIANGLE-HEADED ARROW WITH BOLD SHAFT
0:RIGHTWARDS TRIANGLE-HEADED ARROW WITH BOLD SHAFT
0:DOWNWARDS TRIANGLE-HEADED ARROW WITH BOLD SHAFT
0:LEFTWARDS TRIANGLE-HEADED ARROW WITH HEAVY SHAFT
0:UPWARDS TRIANGLE-HEADED ARROW WITH HEAVY SHAFT
0:RIGHTWARDS TRIANGLE-HEADED ARROW WITH HEAVY SHAFT
0:DOWNWARDS TRIANGLE-HEADED ARROW WITH HEAVY SHAFT
0:LEFTWARDS TRIANGLE-HEADED ARROW WITH VERY HEAVY SHAFT
0:UPWARDS TRIANGLE-HEADED ARROW WITH VERY HEAVY SHAFT
0:RIGHTWARDS TRIANGLE-HEADED ARROW WITH VERY HEAVY SHAFT
0:DOWNWARDS TRIANGLE-HEADED ARROW WITH VERY HEAVY SHAFT
0:LEFTWARDS FINGER-POST ARROW
0:UPWARDS FINGER-POST ARROW
0:RIGHTWARDS FINGER-POST ARROW
0:DOWNWARDS FINGER-POST ARROW
0:LEFTWARDS SQUARED ARROW
0:UPWARDS SQUARED ARROW
0:RIGHTWARDS SQUARED ARROW
0:DOWNWARDS SQUARED ARROW
0:LEFTWARDS COMPRESSED ARROW
0:UPWARDS COMPRESSED ARROW
0:RIGHTWARDS COMPRESSED ARROW
0:DOWNWARDS COMPRESSED ARROW
0:LEFTWARDS HEAVY COMPRESSED ARROW
0:UPWARDS HEAVY COMPRESSED ARROW
0:RIGHTWARDS HEAVY COMPRESSED ARROW
0:DOWNWARDS HEAVY COMPRESSED ARROW
0:LEFTWARDS HEAVY ARROW
0:UPWARDS HEAVY ARROW
0:RIGHTWARDS HEAVY ARROW
0:DOWNWARDS HEAVY ARROW
@1F850
0:LEFTWARDS SANS-SERIF ARROW
0:UPWARDS SANS-SERIF ARROW
0:RIGHTWARDS SANS-SERIF ARROW
0:DOWNWARDS SANS-SERIF ARROW
0:NORTH WEST SANS-SERIF ARROW
6:EAST SANS-SERIF ARROW
0:SOUTH EAST SANS-SERIF ARROW
6:WEST SANS-SERIF ARROW
0:LEFT RIGHT SANS-SERIF ARROW
0:UP DOWN SANS-SERIF ARROW
@1F860
0:WIDE-HEADED LEFTWARDS LIGHT BARB ARROW
12:UPWARDS LIGHT BARB ARROW
12:RIGHTWARDS LIGHT BARB ARROW
12:DOWNWARDS LIGHT BARB ARROW
12:NORTH WEST LIGHT BARB ARROW
18:EAST LIGHT BARB ARROW
12:SOUTH EAST LIGHT BARB ARROW
18:WEST LIGHT BARB ARROW
12:LEFTWARDS BARB ARROW
12:UPWARDS BARB ARROW
12:RIGHTWARDS BARB ARROW
12:DOWNWARDS BARB ARROW
12:NORTH WEST BARB ARROW
18:EAST BARB ARROW
12:SOUTH EAST BARB ARROW
18:WEST BARB ARROW
12:LEFTWARDS MEDIUM BARB ARROW
12:UPWARDS MEDIUM BARB ARROW
12:RIGHTWARDS MEDIUM BARB ARROW
12:DOWNWARDS MEDIUM BARB ARROW
12:NORTH WEST MEDIUM BARB ARROW
18:EAST MEDIUM BARB ARROW
12:SOUTH EAST MEDIUM BARB ARROW
18:WEST MEDIUM BARB ARROW
12:LEFTWARDS HEAVY BARB ARROW
12:UPWARDS HEAVY BARB ARROW
12:RIGHTWARDS HEAVY BARB ARROW
12:DOWNWARDS HEAVY BARB ARROW
12:NORTH WEST HEAVY BARB ARROW
18:EAST HEAVY BARB ARROW
12:SOUTH EAST HEAVY BARB ARROW
18:WEST HEAVY BARB ARROW
12:LEFTWARDS VERY HEAVY BARB ARROW
12:UPWARDS VERY HEAVY BARB ARROW
12:RIGHTWARDS VERY HEAVY BARB ARROW
12:DOWNWARDS VERY HEAVY BARB ARROW
12:NORTH WEST VERY HEAVY BARB ARROW
18:EAST VERY HEAVY BARB ARROW
12:SOUTH EAST VERY HEAVY BARB ARROW
18:WEST VERY HEAVY BARB ARROW
@1F890
0:LEFTWARDS TRIANGLE ARROWHEAD
0:UPWARDS TRIANGLE ARROWHEAD
0:RIGHTWARDS TRIANGLE ARROWHEAD
0:DOWNWARDS TRIANGLE ARROWHEAD
0:LEFTWARDS WHITE ARROW WITHIN TRIANGLE ARROWHEAD
0:UPWARDS WHITE ARROW WITHIN TRIANGLE ARROWHEAD
0:RIGHTWARDS WHITE ARROW WITHIN TRIANGLE ARROWHEAD
0:DOWNWARDS WHITE ARROW WITHIN TRIANGLE ARROWHEAD
0:LEFTWARDS ARROW WITH NOTCHED TAIL
0:UPWARDS ARROW WITH NOTCHED TAIL
0:RIGHTWARDS ARROW WITH NOTCHED TAIL
0:DOWNWARDS ARROW WITH NOTCHED TAIL
0:HEAVY ARROW SHAFT WIDTH ONE
24:TWO THIRDS
24:ONE HALF
28:THIRD
0:LEFTWARDS BOTTOM-SHADED WHITE ARROW
0:RIGHTWARDS BOTTOM SHADED WHITE ARROW
0:LEFTWARDS TOP SHADED WHITE ARROW
0:RIGHTWARDS TOP SHADED WHITE ARROW
0:LEFTWARDS LEFT-SHADED WHITE ARROW
0:RIGHTWARDS RIGHT-SHADED WHITE ARROW
0:LEFTWARDS RIGHT-SHADED WHITE ARROW
0:RIGHTWARDS LEFT-SHADED WHITE ARROW
0:LEFTWARDS BACK-TILTED SHADOWED WHITE ARROW
0:RIGHTWARDS BACK-TILTED SHADOWED WHITE ARROW
0:LEFTWARDS FRONT-TILTED SHADOWED WHITE ARROW
0:RIGHTWARDS FRONT-TILTED SHADOWED WHITE ARROW
0:WHITE ARROW SHAFT WIDTH ONE
24:TWO THIRDS
@1F8B0
0:ARROW POINTING UPWARDS THEN NORTH WEST
15:RIGHTWARDS THEN CURVING SOUTH WEST
@1F900
0:CIRCLED CROSS FORMEE WITH FOUR DOTS
26:TWO DOTS
20:
0:LEFT HALF CIRCLE WITH FOUR DOTS
22:THREE DOTS
23:WO DOTS
22:DOT
16:
0:DOWNWARD FACING HOOK
16:NOTCHED HOOK
16:HOOK WITH DOT
16:NOTCHED HOOK WITH DOT
0:PINCHED FINGERS
0:WHITE HEART
0:BROWN HEART
0:PINCHING HAND
0:ZIPPER-MOUTH FACE
0:MONEY-MOUTH FACE
0:FACE WITH THERMOMETER
0:NERD FACE
0:THINKING FACE
0:FACE WITH HEAD-BANDAGE
0:ROBOT FACE
0:HUGGING FACE
0:SIGN OF THE HORNS
0:CALL ME HAND
0:RAISED BACK OF HAND
0:LEFT-FACING FIST
0:RIGHT-FACING FIST
0:HANDSHAKE
4: WITH INDEX AND MIDDLE FINGERS CROSSED
0:I LOVE YOU HAND SIGN
0:FACE WITH COWBOY HAT
0:CLOWN FACE
0:NAUSEATED FACE
0:ROLLING ON THE FLOOR LAUGHING
0:DROOLING FACE
0:LYING FACE
0:FACE PALM
0:SNEEZING FACE
0:FACE WITH ONE EYEBROW RAISED
0:GRINNING FACE WITH STAR EYES
19:ONE LARGE AND ONE SMALL EYE
0:FACE WITH FINGER COVERING CLOSED LIPS
0:SERIOUS FACE WITH SYMBOLS COVERING MOUTH
1:MILING FACE WITH SMILING EYES AND HAND COVERING MOUTH
0:FACE WITH OPEN MOUTH VOMITING
0:SHOCKED FACE WITH EXPLODING HEAD
0:PREGNANT WOMAN
0:BREAST-FEEDING
0:PALMS UP TOGETHER
0:SELFIE
0:PRINCE
0:MAN IN TUXEDO
1:OTHER CHRISTMAS
0:SHRUG
0:PERSON DOING CARTWHEEL
0:JUGGLING
0:FENCER
0:MODERN PENTATHLON
0:WRESTLERS
1:ATER POLO
0:HANDBALL
0:DIVING MASK
0:WILTED FLOWER
0:DRUM WITH DRUMSTICKS
0:CLINKING GLASSES
0:TUMBLER GLASS
0:SPOON
0:GOAL NET
0:RIFLE
0:FIRST PLACE MEDAL
0:SECOND PLACE MEDAL
0:THIRD PLACE MEDAL
0:BOXING GLOVE
0:MARTIAL ARTS UNIFORM
0:CURLING STONE
0:LACROSSE STICK AND BALL
0:SOFTBALL
0:FLYING DISC
0:CROISSANT
0:AVOCADO
0:CUCUMBER
0:BACON
0:POTATO
0:CARROT
0:BAGUETTE BREAD
0:GREEN SALAD
0:SHALLOW PAN OF FOOD
1:TUFFED FLATBREAD
0:EGG
0:GLASS OF MILK
0:PEANUTS
0:KIWIFRUIT
0:PANCAKES
0:DUMPLING
0:FORTUNE COOKIE
0:TAKEOUT BOX
0:CHOPSTICKS
0:BOWL WITH SPOON
0:CUP WITH STRAW
1:OCONUT
0:BROCCOLI
0:PIE
1:RETZEL
0:CUT OF MEAT
0:SANDWICH
0:CANNED FOOD
0:LEAFY GREEN
0:MANGO
1:OON CAKE
0:BAGEL
0:SMILING FACE WITH SMILING EYES AND THREE HEARTS
0:YAWNING FACE
0:SMILING FACE WITH TEAR
0:FACE WITH PARTY HORN AND PARTY HAT
10:UNEVEN EYES AND WAVY MOUTH
0:OVERHEATED FACE
0:FREEZING FACE
0:NINJA
0:DISGUISED FACE
0:FACE HOLDING BACK TEARS
5:WITH PLEADING EYES
0:SARI
0:LAB COAT
0:GOGGLES
0:HIKING BOOT
0:FLAT SHOE
0:CRAB
0:LION FACE
0:SCORPION
0:TURKEY
0:UNICORN FACE
0:EAGLE
0:DUCK
0:BAT
0:SHARK
0:OWL
0:FOX FACE
0:BUTTERFLY
0:DEER
0:GORILLA
0:LIZARD
0:RHINOCEROS
0:SHRIMP
1:QUID
0:GIRAFFE FACE
0:ZEBRA FACE
0:HEDGEHOG
0:SAUROPOD
0:T-REX
0:CRICKET
0:KANGAROO
0:LLAMA
0:PEACOCK
0:HIPPOPOTAMUS
0:PARROT
0:RACCOON
0:LOBSTER
0:MOSQUITO
1:ICROBE
0:BADGER
0:SWAN
0:MAMMOTH
0:DODO
0:SLOTH
0:OTTER
1:RANGUTAN
0:SKUNK
0:FLAMINGO
0:OYSTER
0:BEAVER
1:ISON
0:SEAL
0:GUIDE DOG
0:PROBING CANE
0:EMOJI COMPONENT RED HAIR
16:CURLY HAIR
16:BALD
16:WHITE HAIR
0:BONE
0:LEG
0:FOOT
0:TOOTH
0:SUPERHERO
5:VILLAIN
1:AFETY VEST
0:EAR WITH HEARING AID
0:MOTORIZED WHEELCHAIR
1:ANUAL WHEELCHAIR
1:ECHANICAL ARM
11:LEG
0:CHEESE WEDGE
1:UPCAKE
0:SALT SHAKER
0:BEVERAGE BOX
0:GARLIC
0:ONION
0:FALAFEL
0:WAFFLE
0:BUTTER
0:MATE DRINK
0:ICE CUBE
0:BUBBLE TEA
0:TROLL
0:STANDING PERSON
0:KNEELING PERSON
0:DEAF PERSON
0:FACE WITH MONOCLE
0:ADULT
0:CHILD
0:OLDER ADULT
0:BEARDED PERSON
0:PERSON WITH HEADSCARF
7:IN STEAMY ROOM
7:CLIMBING
7:IN LOTUS POSITION
0:MAGE
0:FAIRY
0:VAMPIRE
0:MERPERSON
0:ELF
0:GENIE
0:ZOMBIE
0:BRAIN
0:ORANGE HEART
0:BILLED CAP
0:SCARF
0:GLOVES
0:COAT
0:SOCKS
0:RED GIFT ENVELOPE
0:FIRECRACKER
0:JIGSAW PUZZLE PIECE
0:TEST TUBE
0:PETRI DISH
0:DNA DOUBLE HELIX
0:COMPASS
0:ABACUS
0:FIRE EXTINGUISHER
0:TOOLBOX
0:BRICK
0:MAGNET
0:LUGGAGE
1:OTION BOTTLE
0:SPOOL OF THREAD
0:BALL OF YARN
0:SAFETY PIN
0:TEDDY BEAR
0:BROOM
1:ASKET
0:ROLL OF PAPER
0:BAR OF SOAP
0:SPONGE
0:RECEIPT
0:NAZAR AMULET
1:EUTRAL CHESS KING
14:QUEEN
14:ROOK
14:BISHOP
14:KNIGHT
14:PAWN
0:WHITE CHESS KNIGHT ROTATED FORTY-FIVE DEGREES
0:BLACK CHESS KNIGHT ROTATED FORTY-FIVE DEGREES
0:NEUTRAL CHESS KNIGHT ROTATED FORTY-FIVE DEGREES
0:WHITE CHESS KING ROTATED NINETY DEGREES
12:QUEEN ROTATED NINETY DEGREES
12:ROOK ROTATED NINETY DEGREES
12:BISHOP ROTATED NINETY DEGREES
12:KNIGHT ROTATED NINETY DEGREES
12:PAWN ROTATED NINETY DEGREES
0:BLACK CHESS KING ROTATED NINETY DEGREES
12:QUEEN ROTATED NINETY DEGREES
12:ROOK ROTATED NINETY DEGREES
12:BISHOP ROTATED NINETY DEGREES
12:KNIGHT ROTATED NINETY DEGREES
12:PAWN ROTATED NINETY DEGREES
0:NEUTRAL CHESS KING ROTATED NINETY DEGREES
14:QUEEN ROTATED NINETY DEGREES
14:ROOK ROTATED NINETY DEGREES
14:BISHOP ROTATED NINETY DEGREES
14:KNIGHT ROTATED NINETY DEGREES
14:PAWN ROTATED NINETY DEGREES
0:WHITE CHESS KNIGHT ROTATED ONE HUNDRED THIRTY-FIVE DEGREES
0:BLACK CHESS KNIGHT ROTATED ONE HUNDRED THIRTY-FIVE DEGREES
0:NEUTRAL CHESS KNIGHT ROTATED ONE HUNDRED THIRTY-FIVE DEGREES
0:WHITE CHESS TURNED KING
19:QUEEN
19:ROOK
19:BISHOP
19:KNIGHT
19:PAWN
0:BLACK CHESS TURNED KING
19:QUEEN
19:ROOK
19:BISHOP
19:KNIGHT
19:PAWN
0:NEUTRAL CHESS TURNED KING
21:QUEEN
21:ROOK
21:BISHOP
21:KNIGHT
21:PAWN
0:WHITE CHESS KNIGHT ROTATED TWO HUNDRED TWENTY-FIVE DEGREES
0:BLACK CHESS KNIGHT ROTATED TWO HUNDRED TWENTY-FIVE DEGREES
0:NEUTRAL CHESS KNIGHT ROTATED TWO HUNDRED TWENTY-FIVE DEGREES
0:WHITE CHESS KING ROTATED TWO HUNDRED SEVENTY DEGREES
12:QUEEN ROTATED TWO HUNDRED SEVENTY DEGREES
12:ROOK ROTATED TWO HUNDRED SEVENTY DEGREES
12:BISHOP ROTATED TWO HUNDRED SEVENTY DEGREES
12:KNIGHT ROTATED TWO HUNDRED SEVENTY DEGREES
12:PAWN ROTATED TWO HUNDRED SEVENTY DEGREES
0:BLACK CHESS KING ROTATED TWO HUNDRED SEVENTY DEGREES
12:QUEEN ROTATED TWO HUNDRED SEVENTY DEGREES
12:ROOK ROTATED TWO HUNDRED SEVENTY DEGREES
12:BISHOP ROTATED TWO HUNDRED SEVENTY DEGREES
12:KNIGHT ROTATED TWO HUNDRED SEVENTY DEGREES
12:PAWN ROTATED TWO HUNDRED SEVENTY DEGREES
0:NEUTRAL CHESS KING ROTATED TWO HUNDRED SEVENTY DEGREES
14:QUEEN ROTATED TWO HUNDRED SEVENTY DEGREES
14:ROOK ROTATED TWO HUNDRED SEVENTY DEGREES
14:BISHOP ROTATED TWO HUNDRED SEVENTY DEGREES
14:KNIGHT ROTATED TWO HUNDRED SEVENTY DEGREES
14:PAWN ROTATED TWO HUNDRED SEVENTY DEGREES
0:WHITE CHESS KNIGHT ROTATED THREE HUNDRED FIFTEEN DEGREES
0:BLACK CHESS KNIGHT ROTATED THREE HUNDRED FIFTEEN DEGREES
0:NEUTRAL CHESS KNIGHT ROTATED THREE HUNDRED FIFTEEN DEGREES
0:WHITE CHESS EQUIHOPPER
0:BLACK CHESS EQUIHOPPER
0:NEUTRAL CHESS EQUIHOPPER
0:WHITE CHESS EQUIHOPPER ROTATED NINETY DEGREES
0:BLACK CHESS EQUIHOPPER ROTATED NINETY DEGREES
0:NEUTRAL CHESS EQUIHOPPER ROTATED NINETY DEGREES
0:WHITE CHESS KNIGHT-QUEEN
19:ROOK
19:BISHOP
0:BLACK CHESS KNIGHT-QUEEN
19:ROOK
19:BISHOP
@1FA60
0:XIANGQI RED GENERAL
12:MANDARIN
12:ELEPHANT
12:HORSE
12:CHARIOT
13:ANNON
12:SOLDIER
8:BLACK GENERAL
14:MANDARIN
14:ELEPHANT
14:HORSE
14:CHARIOT
15:ANNON
14:SOLDIER
@1FA70
0:BALLET SHOES
0:ONE-PIECE SWIMSUIT
0:BRIEFS
0:SHORTS
0:THONG SANDAL
@1FA78
0:DROP OF BLOOD
0:ADHESIVE BANDAGE
0:STETHOSCOPE
0:X-RAY
0:CRUTCH
@1FA80
0:YO-YO
0:KITE
0:PARACHUTE
0:BOOMERANG
0:MAGIC WAND
0:PINATA
0:NESTING DOLLS
@1FA90
0:RINGED PLANET
0:CHAIR
0:RAZOR
0:AXE
0:DIYA LAMP
0:BANJO
0:MILITARY HELMET
0:ACCORDION
0:LONG DRUM
0:COIN
1:ARPENTRY SAW
0:SCREWDRIVER
0:LADDER
0:HOOK
0:MIRROR
0:WINDOW
0:PLUNGER
0:SEWING NEEDLE
0:KNOT
0:BUCKET
0:MOUSE TRAP
0:TOOTHBRUSH
0:HEADSTONE
0:PLACARD
0:ROCK
0:MIRROR BALL
0:IDENTIFICATION CARD
0:LOW BATTERY
0:HAMSA
@1FAB0
0:FLY
0:WORM
0:BEETLE
0:COCKROACH
0:POTTED PLANT
0:WOOD
0:FEATHER
0:LOTUS
0:CORAL
0:EMPTY NEST
0:NEST WITH EGGS
@1FAC0
0:ANATOMICAL HEART
0:LUNGS
0:PEOPLE HUGGING
1:REGNANT MAN
9:PERSON
1:ERSON WITH CROWN
@1FAD0
0:BLUEBERRIES
1:ELL PEPPER
0:OLIVE
0:FLATBREAD
0:TAMALE
0:FONDUE
0:TEAPOT
0:POURING LIQUID
0:BEANS
0:JAR
@1FAE0
0:MELTING FACE
0:SALUTING FACE
0:FACE WITH OPEN EYES AND HAND OVER MOUTH
10:PEEKING EYE
10:DIAGONAL MOUTH
0:DOTTED LINE FACE
0:BITING LIP
1:UBBLES
@1FAF0
0:HAND WITH INDEX FINGER AND THUMB CROSSED
0:RIGHTWARDS HAND
0:LEFTWARDS HAND
0:PALM DOWN HAND
5:UP HAND
0:INDEX POINTING AT THE VIEWER
0:HEART HANDS
@1FB00
0:BLOCK SEXTANT-1
14:2
14:12
14:3
14:13
14:23
14:123
14:4
14:14
14:24
14:124
14:34
14:134
14:234
14:1234
14:5
14:15
14:25
14:125
14:35
14:235
14:1235
14:45
14:145
14:245
14:1245
14:345
14:1345
14:2345
14:12345
14:6
14:16
14:26
14:126
14:36
14:136
14:236
14:1236
14:46
14:146
15:246
14:346
14:1346
14:2346
14:12346
14:56
14:156
14:256
14:1256
14:356
14:1356
14:2356
14:12356
14:456
14:1456
14:2456
14:12456
14:3456
14:13456
14:23456
0:LOWER LEFT BLOCK DIAGONAL LOWER MIDDLE LEFT TO LOWER CENTRE
53:RIGHT
26:UPPER MIDDLE LEFT TO LOWER CENTRE
53:RIGHT
32:LEFT TO LOWER CENTRE
6:RIGHT BLOCK DIAGONAL UPPER MIDDLE LEFT TO UPPER CENTRE
54:RIGHT
27:LOWER MIDDLE LEFT TO UPPER CENTRE
54:RIGHT
33:LEFT TO UPPER CENTRE
33:MIDDLE LEFT TO UPPER MIDDLE RIGHT
33:CENTRE TO LOWER MIDDLE RIGHT
33:LEFT TO LOWER MIDDLE RIGHT
33:CENTRE TO UPPER MIDDLE RIGHT
33:LEFT TO UPPER MIDDLE RIGHT
33:CENTRE TO UPPER RIGHT
6:LEFT BLOCK DIAGONAL UPPER CENTRE TO UPPER MIDDLE RIGHT
32:LEFT TO UPPER MIDDLE RIGHT
32:CENTRE TO LOWER MIDDLE RIGHT
32:LEFT TO LOWER MIDDLE RIGHT
32:CENTRE TO LOWER RIGHT
32:MIDDLE LEFT TO LOWER MIDDLE RIGHT
0:UPPER RIGHT BLOCK DIAGONAL LOWER MIDDLE LEFT TO LOWER CENTRE
54:RIGHT
27:UPPER MIDDLE LEFT TO LOWER CENTRE
54:RIGHT
33:LEFT TO LOWER CENTRE
6:LEFT BLOCK DIAGONAL UPPER MIDDLE LEFT TO UPPER CENTRE
53:RIGHT
26:LOWER MIDDLE LEFT TO UPPER CENTRE
53:RIGHT
32:LEFT TO UPPER CENTRE
32:MIDDLE LEFT TO UPPER MIDDLE RIGHT
32:CENTRE TO LOWER MIDDLE RIGHT
32:LEFT TO LOWER MIDDLE RIGHT
32:CENTRE TO UPPER MIDDLE RIGHT
32:LEFT TO UPPER MIDDLE RIGHT
32:CENTRE TO UPPER RIGHT
6:RIGHT BLOCK DIAGONAL UPPER CENTRE TO UPPER MIDDLE RIGHT
33:LEFT TO UPPER MIDDLE RIGHT
33:CENTRE TO LOWER MIDDLE RIGHT
33:LEFT TO LOWER MIDDLE RIGHT
33:CENTRE TO LOWER RIGHT
33:MIDDLE LEFT TO LOWER MIDDLE RIGHT
6:AND RIGHT AND LOWER TRIANGULAR THREE QUARTERS BLOCK
0:LEFT AND LOWER AND RIGHT TRIANGULAR THREE QUARTERS BLOCK
0:UPPER AND LEFT AND LOWER TRIANGULAR THREE QUARTERS BLOCK
0:LEFT AND UPPER AND RIGHT TRIANGULAR THREE QUARTERS BLOCK
5:TRIANGULAR ONE QUARTER BLOCK
0:UPPER TRIANGULAR ONE QUARTER BLOCK
0:RIGHT TRIANGULAR ONE QUARTER BLOCK
0:LOWER TRIANGULAR ONE QUARTER BLOCK
0:VERTICAL ONE EIGHTH BLOCK-2
26:3
26:4
26:5
26:6
26:7
0:HORIZONTAL ONE EIGHTH BLOCK-2
28:3
28:4
28:5
28:6
28:7
0:LEFT AND LOWER ONE EIGHTH BLOCK
9:UPPER ONE EIGHTH BLOCK
0:RIGHT AND UPPER ONE EIGHTH BLOCK
10:LOWER ONE EIGHTH BLOCK
0:UPPER AND LOWER ONE EIGHTH BLOCK
0:HORIZONTAL ONE EIGHTH BLOCK-1358
0:UPPER ONE QUARTER BLOCK
6:THREE EIGHTHS BLOCK
6:FIVE EIGHTHS BLOCK
6:THREE QUARTERS BLOCK
6:SEVEN EIGHTHS BLOCK
0:RIGHT ONE QUARTER BLOCK
6:THREE EIGHTHS BLOCK
6:FIVE EIGHTHS BLOCK
6:THREE QUARTERS BLOCK
6:SEVEN EIGHTHS BLOCK
0:LEFT HALF MEDIUM SHADE
0:RIGHT HALF MEDIUM SHADE
0:UPPER HALF MEDIUM SHADE
0:LOWER HALF MEDIUM SHADE
0:INVERSE MEDIUM SHADE
0:UPPER HALF BLOCK AND LOWER HALF INVERSE MEDIUM SHADE
11:INVERSE MEDIUM SHADE AND LOWER HALF BLOCK
@1FB94
0:LEFT HALF INVERSE MEDIUM SHADE AND RIGHT HALF BLOCK
0:CHECKER BOARD FILL
0:INVERSE CHECKER BOARD FILL
0:HEAVY HORIZONTAL FILL
0:UPPER LEFT TO LOWER RIGHT FILL
6:RIGHT TO LOWER LEFT FILL
6:AND LOWER TRIANGULAR HALF BLOCK
0:LEFT AND RIGHT TRIANGULAR HALF BLOCK
0:UPPER LEFT TRIANGULAR MEDIUM SHADE
6:RIGHT TRIANGULAR MEDIUM SHADE
0:LOWER RIGHT TRIANGULAR MEDIUM SHADE
6:LEFT TRIANGULAR MEDIUM SHADE
0:BOX DRAWINGS LIGHT DIAGONAL UPPER CENTRE TO MIDDLE LEFT
51:RIGHT
28:MIDDLE LEFT TO LOWER CENTRE
35:RIGHT TO LOWER CENTRE
28:UPPER CENTRE TO MIDDLE LEFT TO LOWER CENTRE
51:RIGHT TO LOWER CENTRE
28:MIDDLE LEFT TO LOWER CENTRE TO MIDDLE RIGHT
43:UPPER CENTRE TO MIDDLE RIGHT
28:UPPER CENTRE TO MIDDLE LEFT AND MIDDLE RIGHT TO LOWER CENTRE
51:RIGHT AND MIDDLE LEFT TO LOWER CENTRE
57:TO LOWER CENTRE TO MIDDLE LEFT
51:LEFT TO LOWER CENTRE TO MIDDLE RIGHT
28:MIDDLE LEFT TO UPPER CENTRE TO MIDDLE RIGHT TO LOWER CENTRE
35:RIGHT TO UPPER CENTRE TO MIDDLE LEFT TO LOWER CENTRE
28:DIAMOND
19:HORIZONTAL WITH VERTICAL STROKE
0:ARROWHEAD-SHAPED POINTER
0:INVERSE CHECK MARK
0:LEFT HALF RUNNING MAN
0:RIGHT HALF RUNNING MAN
0:INVERSE DOWNWARDS ARROW WITH TIP LEFTWARDS
0:LEFTWARDS ARROW AND UPPER AND LOWER ONE EIGHTH BLOCK
0:RIGHTWARDS ARROW AND UPPER AND LOWER ONE EIGHTH BLOCK
0:DOWNWARDS ARROW AND RIGHT ONE EIGHTH BLOCK
0:UPWARDS ARROW AND RIGHT ONE EIGHTH BLOCK
0:LEFT HALF FOLDER
0:RIGHT HALF FOLDER
0:VOIDED GREEK CROSS
0:RIGHT OPEN SQUARED DOT
0:NEGATIVE DIAGONAL CROSS
18:MIDDLE RIGHT TO LOWER CENTRE
18:DIAMOND
0:WHITE HEAVY SALTIRE WITH ROUNDED CORNERS
0:LEFT THIRD WHITE RIGHT POINTING INDEX
0:MIDDLE THIRD WHITE RIGHT POINTING INDEX
0:RIGHT THIRD WHITE RIGHT POINTING INDEX
0:NEGATIVE SQUARED QUESTION MARK
0:STICK FIGURE
12: WITH ARMS RAISED
13:LEANING LEFT
21:RIGHT
13:WITH DRESS
0:WHITE UP-POINTING CHEVRON
@1FBF0
0:SEGMENTED DIGIT ZERO
16:ONE
16:TWO
17:HREE
16:FOUR
17:IVE
16:SIX
17:EVEN
16:EIGHT
16:NINE
@2F800
0:CJK COMPATIBILITY IDEOGRAPH-2F800
32:1
32:2
32:3
32:4
32:5
32:6
32:7
32:8
32:9
32:A
32:B
32:C
32:D
32:E
32:F
31:10
32:1
32:2
32:3
32:4
32:5
32:6
32:7
32:8
32:9
32:A
32:B
32:C
32:D
32:E
32:F
31:20
32:1
32:2
32:3
32:4
32:5
32:6
32:7
32:8
32:9
32:A
32:B
32:C
32:D
32:E
32:F
31:30
32:1
32:2
32:3
32:4
32:5
32:6
32:7
32:8
32:9
32:A
32:B
32:C
32:D
32:E
32:F
31:40
32:1
32:2
32:3
32:4
32:5
32:6
32:7
32:8
32:9
32:A
32:B
32:C
32:D
32:E
32:F
31:50
32:1
32:2
32:3
32:4
32:5
32:6
32:7
32:8
32:9
32:A
32:B
32:C
32:D
32:E
32:F
31:60
32:1
32:2
32:3
32:4
32:5
32:6
32:7
32:8
32:9
32:A
32:B
32:C
32:D
32:E
32:F
31:70
32:1
32:2
32:3
32:4
32:5
32:6
32:7
32:8
32:9
32:A
32:B
32:C
32:D
32:E
32:F
31:80
32:1
32:2
32:3
32:4
32:5
32:6
32:7
32:8
32:9
32:A
32:B
32:C
32:D
32:E
32:F
31:90
32:1
32:2
32:3
32:4
32:5
32:6
32:7
32:8
32:9
32:A
32:B
32:C
32:D
32:E
32:F
31:A0
32:1
32:2
32:3
32:4
32:5
32:6
32:7
32:8
32:9
32:A
32:B
32:C
32:D
32:E
32:F
31:B0
32:1
32:2
32:3
32:4
32:5
32:6
32:7
32:8
32:9
32:A
32:B
32:C
32:D
32:E
32:F
31:C0
32:1
32:2
32:3
32:4
32:5
32:6
32:7
32:8
32:9
32:A
32:B
32:C
32:D
32:E
32:F
31:D0
32:1
32:2
32:3
32:4
32:5
32:6
32:7
32:8
32:9
32:A
32:B
32:C
32:D
32:E
32:F
31:E0
32:1
32:2
32:3
32:4
32:5
32:6
32:7
32:8
32:9
32:A
32:B
32:C
32:D
32:E
32:F
31:F0
32:1
32:2
32:3
32:4
32:5
32:6
32:7
32:8
32:9
32:A
32:B
32:C
32:D
32:E
32:F
30:900
32:1
32:2
32:3
32:4
32:5
32:6
32:7
32:8
32:9
32:A
32:B
32:C
32:D
32:E
32:F
31:10
32:1
32:2
32:3
32:4
32:5
32:6
32:7
32:8
32:9
32:A
32:B
32:C
32:D
32:E
32:F
31:20
32:1
32:2
32:3
32:4
32:5
32:6
32:7
32:8
32:9
32:A
32:B
32:C
32:D
32:E
32:F
31:30
32:1
32:2
32:3
32:4
32:5
32:6
32:7
32:8
32:9
32:A
32:B
32:C
32:D
32:E
32:F
31:40
32:1
32:2
32:3
32:4
32:5
32:6
32:7
32:8
32:9
32:A
32:B
32:C
32:D
32:E
32:F
31:50
32:1
32:2
32:3
32:4
32:5
32:6
32:7
32:8
32:9
32:A
32:B
32:C
32:D
32:E
32:F
31:60
32:1
32:2
32:3
32:4
32:5
32:6
32:7
32:8
32:9
32:A
32:B
32:C
32:D
32:E
32:F
31:70
32:1
32:2
32:3
32:4
32:5
32:6
32:7
32:8
32:9
32:A
32:B
32:C
32:D
32:E
32:F
31:80
32:1
32:2
32:3
32:4
32:5
32:6
32:7
32:8
32:9
32:A
32:B
32:C
32:D
32:E
32:F
31:90
32:1
32:2
32:3
32:4
32:5
32:6
32:7
32:8
32:9
32:A
32:B
32:C
32:D
32:E
32:F
31:A0
32:1
32:2
32:3
32:4
32:5
32:6
32:7
32:8
32:9
32:A
32:B
32:C
32:D
32:E
32:F
31:B0
32:1
32:2
32:3
32:4
32:5
32:6
32:7
32:8
32:9
32:A
32:B
32:C
32:D
32:E
32:F
31:C0
32:1
32:2
32:3
32:4
32:5
32:6
32:7
32:8
32:9
32:A
32:B
32:C
32:D
32:E
32:F
31:D0
32:1
32:2
32:3
32:4
32:5
32:6
32:7
32:8
32:9
32:A
32:B
32:C
32:D
32:E
32:F
31:E0
32:1
32:2
32:3
32:4
32:5
32:6
32:7
32:8
32:9
32:A
32:B
32:C
32:D
32:E
32:F
31:F0
32:1
32:2
32:3
32:4
32:5
32:6
32:7
32:8
32:9
32:A
32:B
32:C
32:D
32:E
32:F
30:A00
32:1
32:2
32:3
32:4
32:5
32:6
32:7
32:8
32:9
32:A
32:B
32:C
32:D
32:E
32:F
31:10
32:1
32:2
32:3
32:4
32:5
32:6
32:7
32:8
32:9
32:A
32:B
32:C
32:D
@E0001
0:LANGUAGE TAG
@E0020
0:TAG SPACE
4:EXCLAMATION MARK
4:QUOTATION MARK
4:NUMBER SIGN
4:DOLLAR SIGN
4:PERCENT SIGN
4:AMPERSAND
5:POSTROPHE
4:LEFT PARENTHESIS
4:RIGHT PARENTHESIS
4:ASTERISK
4:PLUS SIGN
4:COMMA
4:HYPHEN-MINUS
4:FULL STOP
4:SOLIDUS
4:DIGIT ZERO
10:ONE
10:TWO
11:HREE
10:FOUR
11:IVE
10:SIX
11:EVEN
10:EIGHT
10:NINE
4:COLON
4:SEMICOLON
4:LESS-THAN SIGN
4:EQUALS SIGN
4:GREATER-THAN SIGN
4:QUESTION MARK
4:COMMERCIAL AT
4:LATIN CAPITAL LETTER A
25:B
25:C
25:D
25:E
25:F
25:G
25:H
25:I
25:J
25:K
25:L
25:M
25:N
25:O
25:P
25:Q
25:R
25:S
25:T
25:U
25:V
25:W
25:X
25:Y
25:Z
5:EFT SQUARE BRACKET
4:REVERSE SOLIDUS
5:IGHT SQUARE BRACKET
4:CIRCUMFLEX ACCENT
4:LOW LINE
4:GRAVE ACCENT
4:LATIN SMALL LETTER A
23:B
23:C
23:D
23:E
23:F
23:G
23:H
23:I
23:J
23:K
23:L
23:M
23:N
23:O
23:P
23:Q
23:R
23:S
23:T
23:U
23:V
23:W
23:X
23:Y
23:Z
5:EFT CURLY BRACKET
4:VERTICAL LINE
4:RIGHT CURLY BRACKET
4:TILDE
0:CANCEL TAG
@E0100
0:VARIATION SELECTOR-17
20:8
20:9
19:20
20:1
20:2
20:3
20:4
20:5
20:6
20:7
20:8
20:9
19:30
20:1
20:2
20:3
20:4
20:5
20:6
20:7
20:8
20:9
19:40
20:1
20:2
20:3
20:4
20:5
20:6
20:7
20:8
20:9
19:50
20:1
20:2
20:3
20:4
20:5
20:6
20:7
20:8
20:9
19:60
20:1
20:2
20:3
20:4
20:5
20:6
20:7
20:8
20:9
19:70
20:1
20:2
20:3
20:4
20:5
20:6
20:7
20:8
20:9
19:80
20:1
20:2
20:3
20:4
20:5
20:6
20:7
20:8
20:9
19:90
20:1
20:2
20:3
20:4
20:5
20:6
20:7
20:8
20:9
19:100
21:1
21:2
21:3
21:4
21:5
21:6
21:7
21:8
21:9
20:10
21:1
21:2
21:3
21:4
21:5
21:6
21:7
21:8
21:9
20:20
21:1
21:2
21:3
21:4
21:5
21:6
21:7
21:8
21:9
20:30
21:1
21:2
21:3
21:4
21:5
21:6
21:7
21:8
21:9
20:40
21:1
21:2
21:3
21:4
21:5
21:6
21:7
21:8
21:9
20:50
21:1
21:2
21:3
21:4
21:5
21:6
21:7
21:8
21:9
20:60
21:1
21:2
21:3
21:4
21:5
21:6
21:7
21:8
21:9
20:70
21:1
21:2
21:3
21:4
21:5
21:6
21:7
21:8
21:9
20:80
21:1
21:2
21:3
21:4
21:5
21:6
21:7
21:8
21:9
20:90
21:1
21:2
21:3
21:4
21:5
21:6
21:7
21:8
21:9
19:200
21:1
21:2
21:3
21:4
21:5
21:6
21:7
21:8
21:9
20:10
21:1
21:2
21:3
21:4
21:5
21:6
21:7
21:8
21:9
20:20
21:1
21:2
21:3
21:4
21:5
21:6
21:7
21:8
21:9
20:30
21:1
21:2
21:3
21:4
21:5
21:6
21:7
21:8
21:9
20:40
21:1
21:2
21:3
21:4
21:5
21:6
21:7
21:8
21:9
20:50
21:1
21:2
21:3
21:4
21:5
21:6"

/-- The aliases of characters: corrections, control names, alternates and abbreviations, each
line the code point in hexadecimal and the alias. -/
def aliasLines : String := "0:NUL
0:NULL
1:SOH
1:START OF HEADING
2:START OF TEXT
2:STX
3:END OF TEXT
3:ETX
4:END OF TRANSMISSION
4:EOT
5:ENQ
5:ENQUIRY
6:ACK
6:ACKNOWLEDGE
7:ALERT
7:BEL
8:BACKSPACE
8:BS
9:CHARACTER TABULATION
9:HORIZONTAL TABULATION
9:HT
9:TAB
A:END OF LINE
A:EOL
A:LF
A:LINE FEED
A:NEW LINE
A:NL
B:LINE TABULATION
B:VERTICAL TABULATION
B:VT
C:FF
C:FORM FEED
D:CARRIAGE RETURN
D:CR
E:LOCKING-SHIFT ONE
E:SHIFT OUT
E:SO
F:LOCKING-SHIFT ZERO
F:SHIFT IN
F:SI
10:DATA LINK ESCAPE
10:DLE
11:DC1
11:DEVICE CONTROL ONE
12:DC2
12:DEVICE CONTROL TWO
13:DC3
13:DEVICE CONTROL THREE
14:DC4
14:DEVICE CONTROL FOUR
15:NAK
15:NEGATIVE ACKNOWLEDGE
16:SYN
16:SYNCHRONOUS IDLE
17:END OF TRANSMISSION BLOCK
17:ETB
18:CAN
18:CANCEL
19:END OF MEDIUM
19:EOM
1A:SUB
1A:SUBSTITUTE
1B:ESC
1B:ESCAPE
1C:FILE SEPARATOR
1C:FS
1C:INFORMATION SEPARATOR FOUR
1D:GROUP SEPARATOR
1D:GS
1D:INFORMATION SEPARATOR THREE
1E:INFORMATION SEPARATOR TWO
1E:RECORD SEPARATOR
1E:RS
1F:INFORMATION SEPARATOR ONE
1F:UNIT SEPARATOR
1F:US
20:SP
7F:DEL
7F:DELETE
80:PAD
80:PADDING CHARACTER
81:HIGH OCTET PRESET
81:HOP
82:BPH
82:BREAK PERMITTED HERE
83:NBH
83:NO BREAK HERE
84:IND
84:INDEX
85:NEL
85:NEXT LINE
86:SSA
86:START OF SELECTED AREA
87:END OF SELECTED AREA
87:ESA
88:CHARACTER TABULATION SET
88:HORIZONTAL TABULATION SET
88:HTS
89:CHARACTER TABULATION WITH JUSTIFICATION
89:HORIZONTAL TABULATION WITH JUSTIFICATION
89:HTJ
8A:LINE TABULATION SET
8A:VERTICAL TABULATION SET
8A:VTS
8B:PARTIAL LINE DOWN
8B:PARTIAL LINE FORWARD
8B:PLD
8C:PARTIAL LINE BACKWARD
8C:PARTIAL LINE UP
8C:PLU
8D:REVERSE INDEX
8D:REVERSE LINE FEED
8D:RI
8E:SINGLE SHIFT TWO
8E:SINGLE-SHIFT-2
8E:SS2
8F:SINGLE SHIFT THREE
8F:SINGLE-SHIFT-3
8F:SS3
90:DCS
90:DEVICE CONTROL STRING
91:PRIVATE USE ONE
91:PRIVATE USE-1
91:PU1
92:PRIVATE USE TWO
92:PRIVATE USE-2
92:PU2
93:SET TRANSMIT STATE
93:STS
94:CANCEL CHARACTER
94:CCH
95:MESSAGE WAITING
95:MW
96:SPA
96:START OF GUARDED AREA
96:START OF PROTECTED AREA
97:END OF GUARDED AREA
97:END OF PROTECTED AREA
97:EPA
98:SOS
98:START OF STRING
99:SGC
99:SINGLE GRAPHIC CHARACTER INTRODUCER
9A:SCI
9A:SINGLE CHARACTER INTRODUCER
9B:CONTROL SEQUENCE INTRODUCER
9B:CSI
9C:ST
9C:STRING TERMINATOR
9D:OPERATING SYSTEM COMMAND
9D:OSC
9E:PM
9E:PRIVACY MESSAGE
9F:APC
9F:APPLICATION PROGRAM COMMAND
A0:NBSP
AD:SHY
1A2:LATIN CAPITAL LETTER GHA
1A3:LATIN SMALL LETTER GHA
34F:CGJ
61C:ALM
709:SYRIAC SUBLINEAR COLON SKEWED LEFT
CDE:KANNADA LETTER LLLA
E9D:LAO LETTER FO FON
E9F:LAO LETTER FO FAY
EA3:LAO LETTER RO
EA5:LAO LETTER LO
FD0:TIBETAN MARK BKA- SHOG GI MGO RGYAN
11EC:HANGUL JONGSEONG YESIEUNG-KIYEOK
11ED:HANGUL JONGSEONG YESIEUNG-SSANGKIYEOK
11EE:HANGUL JONGSEONG SSANGYESIEUNG
11EF:HANGUL JONGSEONG YESIEUNG-KHIEUKH
180B:FVS1
180C:FVS2
180D:FVS3
180E:MVS
180F:FVS4
200B:ZWSP
200C:ZWNJ
200D:ZWJ
200E:LRM
200F:RLM
202A:LRE
202B:RLE
202C:PDF
202D:LRO
202E:RLO
202F:NNBSP
205F:MMSP
2060:WJ
2066:LRI
2067:RLI
2068:FSI
2069:PDI
2118:WEIERSTRASS ELLIPTIC FUNCTION
2448:MICR ON US SYMBOL
2449:MICR DASH SYMBOL
2B7A:LEFTWARDS TRIANGLE-HEADED ARROW WITH DOUBLE VERTICAL STROKE
2B7C:RIGHTWARDS TRIANGLE-HEADED ARROW WITH DOUBLE VERTICAL STROKE
A015:YI SYLLABLE ITERATION MARK
AA6E:MYANMAR LETTER KHAMTI LLA
FE00:VS1
FE01:VS2
FE02:VS3
FE03:VS4
FE04:VS5
FE05:VS6
FE06:VS7
FE07:VS8
FE08:VS9
FE09:VS10
FE0A:VS11
FE0B:VS12
FE0C:VS13
FE0D:VS14
FE0E:VS15
FE0F:VS16
FE18:PRESENTATION FORM FOR VERTICAL RIGHT WHITE LENTICULAR BRACKET
FEFF:BOM
FEFF:BYTE ORDER MARK
FEFF:ZWNBSP
122D4:CUNEIFORM SIGN NU11 TENU
122D5:CUNEIFORM SIGN NU11 OVER NU11 BUR OVER BUR
16E56:MEDEFAIDRIN CAPITAL LETTER H
16E57:MEDEFAIDRIN CAPITAL LETTER NG
16E76:MEDEFAIDRIN SMALL LETTER H
16E77:MEDEFAIDRIN SMALL LETTER NG
1B001:HENTAIGANA LETTER E-1
1D0C5:BYZANTINE MUSICAL SYMBOL FTHORA SKLIRON CHROMA VASIS
E0100:VS17
E0101:VS18
E0102:VS19
E0103:VS20
E0104:VS21
E0105:VS22
E0106:VS23
E0107:VS24
E0108:VS25
E0109:VS26
E010A:VS27
E010B:VS28
E010C:VS29
E010D:VS30
E010E:VS31
E010F:VS32
E0110:VS33
E0111:VS34
E0112:VS35
E0113:VS36
E0114:VS37
E0115:VS38
E0116:VS39
E0117:VS40
E0118:VS41
E0119:VS42
E011A:VS43
E011B:VS44
E011C:VS45
E011D:VS46
E011E:VS47
E011F:VS48
E0120:VS49
E0121:VS50
E0122:VS51
E0123:VS52
E0124:VS53
E0125:VS54
E0126:VS55
E0127:VS56
E0128:VS57
E0129:VS58
E012A:VS59
E012B:VS60
E012C:VS61
E012D:VS62
E012E:VS63
E012F:VS64
E0130:VS65
E0131:VS66
E0132:VS67
E0133:VS68
E0134:VS69
E0135:VS70
E0136:VS71
E0137:VS72
E0138:VS73
E0139:VS74
E013A:VS75
E013B:VS76
E013C:VS77
E013D:VS78
E013E:VS79
E013F:VS80
E0140:VS81
E0141:VS82
E0142:VS83
E0143:VS84
E0144:VS85
E0145:VS86
E0146:VS87
E0147:VS88
E0148:VS89
E0149:VS90
E014A:VS91
E014B:VS92
E014C:VS93
E014D:VS94
E014E:VS95
E014F:VS96
E0150:VS97
E0151:VS98
E0152:VS99
E0153:VS100
E0154:VS101
E0155:VS102
E0156:VS103
E0157:VS104
E0158:VS105
E0159:VS106
E015A:VS107
E015B:VS108
E015C:VS109
E015D:VS110
E015E:VS111
E015F:VS112
E0160:VS113
E0161:VS114
E0162:VS115
E0163:VS116
E0164:VS117
E0165:VS118
E0166:VS119
E0167:VS120
E0168:VS121
E0169:VS122
E016A:VS123
E016B:VS124
E016C:VS125
E016D:VS126
E016E:VS127
E016F:VS128
E0170:VS129
E0171:VS130
E0172:VS131
E0173:VS132
E0174:VS133
E0175:VS134
E0176:VS135
E0177:VS136
E0178:VS137
E0179:VS138
E017A:VS139
E017B:VS140
E017C:VS141
E017D:VS142
E017E:VS143
E017F:VS144
E0180:VS145
E0181:VS146
E0182:VS147
E0183:VS148
E0184:VS149
E0185:VS150
E0186:VS151
E0187:VS152
E0188:VS153
E0189:VS154
E018A:VS155
E018B:VS156
E018C:VS157
E018D:VS158
E018E:VS159
E018F:VS160
E0190:VS161
E0191:VS162
E0192:VS163
E0193:VS164
E0194:VS165
E0195:VS166
E0196:VS167
E0197:VS168
E0198:VS169
E0199:VS170
E019A:VS171
E019B:VS172
E019C:VS173
E019D:VS174
E019E:VS175
E019F:VS176
E01A0:VS177
E01A1:VS178
E01A2:VS179
E01A3:VS180
E01A4:VS181
E01A5:VS182
E01A6:VS183
E01A7:VS184
E01A8:VS185
E01A9:VS186
E01AA:VS187
E01AB:VS188
E01AC:VS189
E01AD:VS190
E01AE:VS191
E01AF:VS192
E01B0:VS193
E01B1:VS194
E01B2:VS195
E01B3:VS196
E01B4:VS197
E01B5:VS198
E01B6:VS199
E01B7:VS200
E01B8:VS201
E01B9:VS202
E01BA:VS203
E01BB:VS204
E01BC:VS205
E01BD:VS206
E01BE:VS207
E01BF:VS208
E01C0:VS209
E01C1:VS210
E01C2:VS211
E01C3:VS212
E01C4:VS213
E01C5:VS214
E01C6:VS215
E01C7:VS216
E01C8:VS217
E01C9:VS218
E01CA:VS219
E01CB:VS220
E01CC:VS221
E01CD:VS222
E01CE:VS223
E01CF:VS224
E01D0:VS225
E01D1:VS226
E01D2:VS227
E01D3:VS228
E01D4:VS229
E01D5:VS230
E01D6:VS231
E01D7:VS232
E01D8:VS233
E01D9:VS234
E01DA:VS235
E01DB:VS236
E01DC:VS237
E01DD:VS238
E01DE:VS239
E01DF:VS240
E01E0:VS241
E01E1:VS242
E01E2:VS243
E01E3:VS244
E01E4:VS245
E01E5:VS246
E01E6:VS247
E01E7:VS248
E01E8:VS249
E01E9:VS250
E01EA:VS251
E01EB:VS252
E01EC:VS253
E01ED:VS254
E01EE:VS255
E01EF:VS256"

def unifiedIdeographRanges : List (Nat × Nat) := [
  (0x3400, 0x4DBF), (0x4E00, 0x9FFF), (0x20000, 0x2A6DF), (0x2A700, 0x2B738), (0x2B740, 0x2B81D),
  (0x2B820, 0x2CEA1), (0x2CEB0, 0x2EBE0), (0x30000, 0x3134A)]

def leadingJamo : List String :=
  ["G", "GG", "N", "D", "DD", "R", "M", "B", "BB", "S", "SS", "", "J", "JJ", "C", "K", "T", "P",
    "H"]

def vowelJamo : List String :=
  ["A", "AE", "YA", "YAE", "EO", "E", "YEO", "YE", "O", "WA", "WAE", "OE", "YO", "U", "WEO", "WE",
    "WI", "YU", "EU", "YI", "I"]

/-- The short names of the trailing consonants of Hangul syllables, in order; the first is none. -/
def trailingJamo : List String :=
  ["", "G", "GG", "GS", "N", "NJ", "NH", "D", "L", "LG", "LM", "LB", "LS", "LT", "LP", "LH", "M",
    "B", "BS", "S", "SS", "NG", "J", "C", "K", "T", "P", "H"]

/-- The longest short name of a column that the characters start with, the first of several as
long, with its index and length. -/
def longestJamo (column : List String) (cs : List Char) : Option (Nat × Nat) :=
  column.zipIdx.foldl (fun best (s, i) =>
    let longer : Bool := match best with
      | none => true
      | some (_, l) => l < s.length
    if longer && s.toList.isPrefixOf cs then some (i, s.length) else best) none

/-- The Hangul syllable that the characters after `HANGUL SYLLABLE ` name: the longest leading
consonant, then the longest vowel, then the longest trailing consonant, which must end the
name. -/
def hangulSyllable? (cs : List Char) : Option Nat := do
  let (l, n1) ← longestJamo leadingJamo cs
  let cs := cs.drop n1
  let (v, n2) ← longestJamo vowelJamo cs
  let cs := cs.drop n2
  let (t, n3) ← longestJamo trailingJamo cs
  if (cs.drop n3).isEmpty then some (0xAC00 + (l * 21 + v) * 28 + t) else none

/-- The unified ideograph that the characters after `CJK UNIFIED IDEOGRAPH-` name: four or five
uppercase hexadecimal digits of a unified ideograph. -/
def unifiedIdeograph? (cs : List Char) : Option Nat := do
  if !(cs.length = 4 ∨ cs.length = 5) then none
  if !cs.all (fun c => ('0' ≤ c ∧ c ≤ '9') ∨ ('A' ≤ c ∧ c ≤ 'F')) then none
  let v ← Text.hexNumber cs
  if inRanges unifiedIdeographRanges v then some v else none

def asciiUpper (c : Char) : Char :=
  if 'a' ≤ c ∧ c ≤ 'z' then Char.ofNat (c.toNat - 32) else c

def commonPrefix : List Char → List Char → Nat
  | a :: as, b :: bs => if a = b then commonPrefix as bs + 1 else 0
  | _, _ => 0

/-- Where a scan of the listed names stands: the code point the next line names, the length of
the name before, and how many of its first characters agree with the name sought. -/
structure NameScan where
  code : Nat
  length : Nat
  agreed : Nat

/-- The code point of the listed name `target`, scanning the lines from `st`. A line sharing
`k` characters with the name before agrees with the target on those `k` when the name before
agreed on at least `k`, and then on as much of its rest as matches; otherwise it disagrees where
the name before did. -/
def findName (target : List Char) : NameScan → List String → Option Nat
  | _, [] => none
  | st, line :: rest =>
    match line.toList with
    | '@' :: hex => findName target { st with code := (Text.hexNumber hex).getD st.code } rest
    | cs =>
      let k := Text.decimalNumber (cs.takeWhile (· ≠ ':'))
      let suffix := (cs.dropWhile (· ≠ ':')).drop 1
      let agreed := if k ≤ st.agreed then k + commonPrefix suffix (target.drop k) else st.agreed
      let length := k + suffix.length
      if agreed = target.length ∧ length = target.length then some st.code
      else findName target ⟨st.code + 1, length, agreed⟩ rest

/-- The code point of an alias. -/
def aliasCode? (target : String) : Option Nat :=
  (aliasLines.splitOn "\n").findSome? fun line =>
    match line.splitOn ":" with
    | [hex, name] => if name = target then Text.hexNumber hex.toList else none
    | _ => none

/-- The character a name names, if any. -/
def characterNamed? (name : String) : Option Nat :=
  let cs := name.toList
  if "HANGUL SYLLABLE ".toList.isPrefixOf cs then hangulSyllable? (cs.drop 16)
  else if "CJK UNIFIED IDEOGRAPH-".toList.isPrefixOf cs then unifiedIdeograph? (cs.drop 22)
  else
    let target := cs.map asciiUpper
    match findName target ⟨0, 0, 0⟩ (nameLines.splitOn "\n") with
    | some c => some c
    | none => aliasCode? (String.ofList target)

end DiagnosticCheck.Text.Unicode
