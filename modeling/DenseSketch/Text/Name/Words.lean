/-!
# Frequent words in names of characters

The tables of names write each of these words as two small letters, `aa` for the first one, `ab` for
the second one and so on.
-/

namespace DenseSketch.Text.Name

/-- The words, separated by blanks. -/
def frequentWords : List String :=
  [
    "LETTER WITH CAPITAL SMALL ARROW FORM ISOLATED RIGHTWARDS RIGHT ABOVE SIGN DOUBLE LEFTWARDS",
    "VERTICAL TRIANGLE-HEADED INITIAL BELOW FINAL HORIZONTAL STROKE SYMBOL LEFT THREE BLACK",
    "DOWNWARDS HUNDRED THOUSAND MIDDLE WHITE BRACKET CIRCUMFLEX WEST-CREE TRIANGLE GREATER-THAN",
    "AND MARK DIAERESIS HEAVY ARROWHEAD SQUARE CIRCLE UPWARDS REVERSED EIGHT TIMES FOUR LESS-THAN",
    "SEVEN HOOK YPOGEGRAMMENI FIVE PERISPOMENI INVERTED POINTING PUNCTUATION PARENTHESIS MEDIUM",
    "MEDIAL PROSGEGRAMMENI TURNED MAKSURA EQUAL INDEX LIGHT VOWEL ORNAMENT TWO ROTATED TILDE DIGIT",
    "ONE ANUSVARA LOWER MEEM VOCALIC RETROFLEX DOT PLUS RIGHT-POINTING ACUTE DESCENDER HARPOON",
    "SINGLE CANDRABINDU HALF ASTERISK DOWN COMBINING CIRCLED DIAGONAL NINE DEGREES OPERATOR MACRON",
    "NUMBER UPPER FACE THUMB DOTS DASIA EXCLAMATION PSILI OVER CENTRE LITTLE LEFT-POINTING ALEF",
    "EQUILATERAL LARGE GRAVE QUOTATION MOVEMENT-FLOORPLANE RING HAND-FIST DIAMOND ANTICLOCKWISE",
    "LIGATURE BARB MOVEMENT-WALLPLANE CROSSING VARIA SANS-SERIF TRIPLE COMMA ABBREVIATION MODIFIER",
    "VISARGA ZERO BLOCK TRIANGULAR POINTED SQUARED QUESTION BREVE INTERSECTION SEVENTY OPEN",
    "SEPARATOR TONE JEEM QUARTER LONG TWENTY VIRAMA ALTERNATING ALTERNATE CONSONANT ANGLE ACCENT",
    "LATIN SHORT HITTING HAND-CIRCLE SIX DOTTED HAND-HINGE HIGH NINETY C-SIMPLIFIED UNDERBAR STOP",
    "BAR CEDILLA PALATAL NORTH STRAIGHT SUPERSET CLOSED DIGRAPH EQUALS GLOTTAL UPSILON YENISEI",
    "CROSS CARON IDEOGRAPHIC CONJOINED DOWN-POINTING LINE MULTIPLICATION EPSILON SOUTH BOTTOM",
    "CORNER EAST UP-POINTING OXIA DOUBLE-STRUCK EQUIVALENT FINGERS SECTION SOLIDUS STAR YEH",
    "SUPERSCRIPT ORKHON OVERLAY ARCHAION FRACTION INTEGRAL OMEGA KNIGHT NEUTRAL SLANTED TAIL",
    "VARIANT EIGHTH HAMZA KHAH TORTOISE WEST GUNU REVERSE FULL RAISED SUBSET ARABIC-INDIC COPTIC",
    "ALPHA CRYPTOGRAMMIC FIFTY DIALYTIKA AVAGRAHA CHESS HAND-ANGLE IOTIFIED LOW SCRIPT SYLLABLE",
    "ARCHAIC COLON DAGESH CLOCKWISE HAH TEARDROP-SPOKED CROSSED-TAIL DANDA INSULAR MAHAAPRAANA",
    "NEGATIVE OMICRON QUADRANT QUARTERS SIMALUNGUN THIRTY TWO-HEADED HEART BETWEEN FORWARD",
    "ROTATION-FLOORPLANE SMILING CYRILLIC DIAMONDS SEMICOLON TELEPHONE TTHA DASH TEN TENU",
    "ALPAPRAANA DDHA ROTATION-WALLPLANE CURLY MULTIPLE NOON PRECEDES SHADOWED SIGMA SUCCEEDS",
    "QUADRUPLE ARABIC INSIDE EIGHTHS GREEK KATAKANA-HIRAGANA NGA NUKTA OBLIQUE THETA SHA",
    "APOSTROPHE CHARACTERS INDEPENDENT NOTEHEAD SHELL SPOKED DOTLESS LEFT-STEM THROUGH HEARTS HORN",
    "TACK CHA GAMMA KATAKANA NYA SHAFT SPACE CIRCLES CROSSED KHA LOGICAL LOZENGE OVERBAR PRODUCT",
    "ALMOST ARROWS COMPRESSED HINGED LENTICULAR PERSON SAMEKH CHARACTER ITERATION KLYUCHEVAYA",
    "MOUTH FROM HAND IOTA THA BENT CANDRA DELTA DIFFERENTIAL EIGHTY KRYZHEM LAMEDH LENGTH",
    "MATHEMATICAL MUSICAL NEPOSTOYANNAYA NOT OGONEK POVYSHE SHIN SUBSTITUTION TWELFTHS BOLD SHEEN",
    "TONOS ABKHASIAN AMPERSAND BULLET CONTAINING CRESCENTS DIALECT-P EXTENSION INDICATOR MAHAPRANA",
    "SEVENTEEN SPADES THOUSANDS TURNSTILE TWELVE VERTICALLY VERY ZAPYATAYA APPROXIMATELY CARRIER",
    "FIFTEEN LEFT-TO-RIGHT PHA SALTIRE CURVE DOUBLE-LINE EIGHTEEN ENVELOPE FORTY JIHVAMULIYA KAPPA",
    "MINUS OLD PINWHEEL SEEN SIDEWAYS SINGLE-LINE UPADHMANIYA DASHED MOON RISING SIDE SPREAD ALEPH",
    "GHAIN SIXTY SOUND UNION BLACK-LETTER ELEMENT INVERSE NASKAPI NUMERAL ROUNDED SIXTEEN SVARITA",
    "TTA BACKSLASH DDA RECTANGLE SUBSCRIPT BACKHAND BISHOP CENTRALIZATION CONTAINS DHA DIVISION",
    "DODEKATA ELEVEN ELLIPSIS EQUIHOPPER EXTENDED FOURTEEN GIMEL GROMOPOVODNAYA HYPHEN KASKAL",
    "MOUNTAIN MOVEMENT NINETEEN NOTATION OCLOCK OPPOSING OVERLINE PARALLEL QUEEN RIGHT-SHADOWED",
    "SLASH SUBGROUP SVETLAYA TEDUNG THIRTEEN Y-CREE GHA NUN DISH ASH BAMBOOS CEILING",
    "EYEGAZE-WALLPLANE INTERROBANG LARGEST NNA NOTCHED PIEUP-SIOS-TIKEUT SADHE SHADE BHA CURL",
    "CURVED EGYPTOLOGICAL HAND-CURLICUE ITALIC LEAF ONE-HUNDRED-AND-SIXTIETH PARENTHESIZED",
    "RIGHT-TO-LEFT WAVE AIRPLANE CLUBS EARTH EXTREMELY EYES FISHHOOK HAND-CUP HAND-HOOK JAPANESE",
    "LAMDA MILLIONS OUTLINED PLASTICS SIXTEENTH SUBJOINED TOP WRINKLED ZAYIN BARRED BESIDE",
    "BYELORUSSIAN-UKRAINIAN CANCELLATION CENTRED CHIEUCH COMMERCIAL DALETH GEMINATION HYPHEN-MINUS",
    "J-SIMPLIFIED KHIEUKH LUNATE MIDDLE-WELSH NORMAL NOTE PHIEUPH RIEUL-KIYEOK RIGHT-FACING",
    "SEMICIRCLE SEMIDIRECT SHESHIG SSA STATERS SUBUNIT THIEUTH VOICED ICHOS KAPYEOUNPHIEUPH KASRA",
    "POINT THIRD WATER BETA FOR HEAD KLYUCHENEPOSTOYANNAYA THE WAW LAM ANTIMONY APPROXIMATE",
    "ATTACHED BALLOON-SPOKED BUBBLE CHECK CRESCENT EKFONITIKON FATHA FATHATAN FILLER FINGER-POST",
    "GAN2 HANGUL HIRAGANA INFINITY JHA KHOKHLOM KING LAGAB LEFT-FACING LOOP MONOGRAM NIEUN-CIEUC",
    "NIEUN-HIEUH NUBIAN PRIME REST RIEUL-HIEUH RIEUL-MIEUM RIEUL-PIEUP ROUND RTAGS SAYISI SCISSORS",
    "SSANGKIYEOK SSANGTIKEUT THESPIAN THIRDS TRESVETLAYA TWENTY-FIVE WRIST ZAPYATOY FALLING",
    "HAND-OVAL KENTIMATA PARAGRAPH SIDDHAM SIMILAR SUBLIMATE TALENTS VARIATION BETH",
    "DVOECHELNOPOVODNAYA RIEUL-KAPYEOUNPIEUP SHE AIN CLICK KAPYEOUNMIEUM KAPYEOUNPIEUP MURDA",
    "PERPENDICULAR PRISHTHAMATRA RIEUL-PHIEUPH RIEUL-THIEUTH THIRTY-SECOND TRANSPOSITION TSHEG",
    "ARROW-TAIL ARROWHEADS DRAGON EXTRA-HIGH EYEGAZE-FLOORPLANE FINGER GISH KAPH",
    "KAPYEOUNSSANGPIEUP KIYEOK KOMI LENGTHENER LONSUM MARKER NIKOLSBURG PAIRED PIEUP-SIOS",
    "RIEUL-SIOS SECANT SEQUENTIAL SHAD SILHOUETTE SIMPLIFIED SIXTEENTHS SSANGCIEUC SSANGPIEUP TAK4",
    "TIKEUT ZIGZAG REH ANUDATTA ARMENIAN BARLINE BIRGA BUILDING CARET CIRCULAR CONSTRUCTION",
    "CONTACT CORNERS CURRENCY DAMMA DAMMATAN DIGAMMA DIVIDER DVOECHELNAYA END FLOOR FLOURISH",
    "FRONT-TILTED GEORGIAN HETH HOLDING IDEOGRAM IOTATED IZHITSA KAF KASRATAN KEYBOARD KOET",
    "LOGOGRAM MEASURE MEASURED NASALIZATION NIEUN-TIKEUT ONCOMING ORIGINAL PARTIAL PENTAGON",
    "PIEUP-SIOS-KIYEOK PIEUP-TIKEUT PRESENTATION RIEUL-KIYEOK-SIOS RIEUL-SSANGKIYEOK RIEUL-TIKEUT",
    "RIEUL-YEORINHIEUH RIGHT-SHADED SCHWA SEMICIRCULAR SHAR2 SIXTY-FOURTH TSA TSHA U-SHAPED",
    "UMBRELLA VOLAPUK WORD YODH ZAIN HEH YUS AS-SALAAM BALLOT"]

end DenseSketch.Text.Name
