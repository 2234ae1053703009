import Provisioning.Text.CharacterName.Coding

/-!
# Names of characters from U+1E00 on
-/

set_option autoImplicit false

namespace Provisioning.Text

/-- Names from U+1E00 on. -/
def names01E00 : List NameBlock :=
  [⟨0x1E00,
    ["0LATIN CAPITAL LETTER A WITH RING BELOW;1SMALL/5;1CAPITAL LETTER B WITH DOT ABOVE;1SMALL/5",
     "1CAPITAL LETTER B WITH DOT BELOW;1SMALL/5;1CAPITAL LETTER B WITH LINE/1;1SMALL/5",
     "1CAPITAL LETTER C WITH CEDILLA AND ACUTE;1SMALL/6;1CAPITAL LETTER D WITH DOT ABOVE",
     "1SMALL/5;1CAPITAL LETTER D WITH DOT BELOW;1SMALL/5;1CAPITAL LETTER D WITH LINE/1;1SMALL/5",
     "1CAPITAL LETTER D WITH CEDILLA;1SMALL/4;1CAPITAL LETTER D WITH CIRCUMFLEX BELOW;1SMALL/5",
     "1CAPITAL LETTER E WITH MACRON AND GRAVE;1SMALL/6;1CAPITAL LETTER E WITH MACRON AND ACUTE",
     "1SMALL/6;1CAPITAL LETTER E WITH CIRCUMFLEX BELOW;1SMALL/5;1CAPITAL LETTER E WITH TILDE/1",
     "1SMALL/5;1CAPITAL LETTER E WITH CEDILLA AND BREVE;1SMALL/6",
     "1CAPITAL LETTER F WITH DOT ABOVE;1SMALL/5;1CAPITAL LETTER G WITH MACRON;1SMALL/4",
     "1CAPITAL LETTER H WITH DOT ABOVE;1SMALL/5;1CAPITAL LETTER H WITH DOT BELOW;1SMALL/5",
     "1CAPITAL LETTER H WITH DIAERESIS;1SMALL/4;1CAPITAL LETTER H WITH CEDILLA;1SMALL/4",
     "1CAPITAL LETTER H WITH BREVE BELOW;1SMALL/5;1CAPITAL LETTER I WITH TILDE/1;1SMALL/5",
     "1CAPITAL LETTER I WITH DIAERESIS AND ACUTE;1SMALL/6;1CAPITAL LETTER K WITH/1;1SMALL/4",
     "1CAPITAL LETTER K WITH DOT BELOW;1SMALL/5;1CAPITAL LETTER K WITH LINE/1;1SMALL/5",
     "1CAPITAL LETTER L WITH DOT/1;1SMALL/5;1CAPITAL LETTER L WITH DOT BELOW AND MACRON;1SMALL/7",
     "1CAPITAL LETTER L WITH LINE BELOW;1SMALL/5;1CAPITAL LETTER L WITH CIRCUMFLEX/1;1SMALL/5",
     "1CAPITAL LETTER M WITH ACUTE;1SMALL/4;1CAPITAL LETTER M WITH DOT ABOVE;1SMALL/5",
     "1CAPITAL LETTER M WITH DOT BELOW;1SMALL/5;1CAPITAL LETTER N WITH DOT ABOVE;1SMALL/5",
     "1CAPITAL LETTER N WITH DOT BELOW;1SMALL/5;1CAPITAL LETTER N WITH LINE/1;1SMALL/5",
     "1CAPITAL LETTER N WITH CIRCUMFLEX/1;1SMALL/5;1CAPITAL LETTER O WITH TILDE AND ACUTE",
     "1SMALL/6;1CAPITAL LETTER O WITH TILDE AND DIAERESIS;1SMALL/6",
     "1CAPITAL LETTER O WITH MACRON AND GRAVE;1SMALL/6;1CAPITAL LETTER O WITH MACRON AND ACUTE",
     "1SMALL/6;1CAPITAL LETTER P WITH/1;1SMALL/4;1CAPITAL LETTER P WITH DOT ABOVE;1SMALL/5",
     "1CAPITAL LETTER R/3;1SMALL/5;1CAPITAL LETTER R WITH DOT BELOW;1SMALL/5",
     "1CAPITAL LETTER R WITH DOT BELOW AND MACRON;1SMALL/7;1CAPITAL LETTER R WITH LINE BELOW",
     "1SMALL/5;1CAPITAL LETTER S WITH DOT ABOVE;1SMALL/5;1CAPITAL LETTER S WITH DOT BELOW",
     "1SMALL/5;1CAPITAL LETTER S WITH ACUTE AND DOT ABOVE;1SMALL/7",
     "1CAPITAL LETTER S WITH CARON/3;1SMALL/7;1CAPITAL LETTER S WITH DOT BELOW/3;1SMALL/8",
     "1CAPITAL LETTER T WITH/2;1SMALL/5;1CAPITAL LETTER T WITH DOT BELOW;1SMALL/5",
     "1CAPITAL LETTER T WITH LINE/1;1SMALL/5;1CAPITAL LETTER T WITH CIRCUMFLEX/1;1SMALL/5",
     "1CAPITAL LETTER U WITH DIAERESIS/1;1SMALL/5;1CAPITAL LETTER U WITH TILDE/1;1SMALL/5",
     "1CAPITAL LETTER U WITH CIRCUMFLEX/1;1SMALL/5;1CAPITAL LETTER U WITH TILDE AND ACUTE",
     "1SMALL/6;1CAPITAL LETTER U WITH MACRON AND DIAERESIS;1SMALL/6;1CAPITAL LETTER V WITH TILDE",
     "1SMALL/4;1CAPITAL LETTER V WITH DOT BELOW;1SMALL/5;1CAPITAL LETTER W WITH GRAVE;1SMALL/4",
     "1CAPITAL LETTER W WITH ACUTE;1SMALL/4;1CAPITAL LETTER W WITH DIAERESIS;1SMALL/4",
     "1CAPITAL LETTER W WITH DOT ABOVE;1SMALL/5;1CAPITAL LETTER W WITH DOT BELOW;1SMALL/5",
     "1CAPITAL LETTER X WITH DOT ABOVE;1SMALL/5;1CAPITAL LETTER X WITH DIAERESIS;1SMALL/4",
     "1CAPITAL LETTER Y WITH DOT ABOVE;1SMALL/5;1CAPITAL LETTER Z WITH CIRCUMFLEX;1SMALL/4",
     "1CAPITAL LETTER Z WITH DOT BELOW;1SMALL/5;1CAPITAL LETTER Z WITH LINE/1;1SMALL/5;3H/3",
     "3T WITH DIAERESIS;3W WITH RING ABOVE;3Y/3;3A WITH RIGHT HALF RING;3LONG S WITH DOT ABOVE",
     "6DIAGONAL STROKE;6HIGH/1;1CAPITAL LETTER SHARP S;1SMALL LETTER DELTA",
     "1CAPITAL LETTER A WITH DOT BELOW;1SMALL/5;1CAPITAL LETTER A WITH HOOK ABOVE;1SMALL/5",
     "1CAPITAL LETTER A WITH CIRCUMFLEX AND ACUTE;1SMALL/6",
     "1CAPITAL LETTER A WITH CIRCUMFLEX AND GRAVE;1SMALL/6",
     "1CAPITAL LETTER A WITH CIRCUMFLEX AND HOOK ABOVE;1SMALL/7",
     "1CAPITAL LETTER A WITH CIRCUMFLEX AND TILDE;1SMALL/6",
     "1CAPITAL LETTER A WITH CIRCUMFLEX AND DOT BELOW;1SMALL/7",
     "1CAPITAL LETTER A WITH BREVE AND ACUTE;1SMALL/6;1CAPITAL LETTER A WITH BREVE AND GRAVE",
     "1SMALL/6;1CAPITAL LETTER A WITH BREVE AND HOOK ABOVE;1SMALL/7",
     "1CAPITAL LETTER A WITH BREVE AND TILDE;1SMALL/6;1CAPITAL LETTER A WITH BREVE AND DOT BELOW",
     "1SMALL/7;1CAPITAL LETTER E WITH/2;1SMALL/5;1CAPITAL LETTER E WITH HOOK ABOVE;1SMALL/5",
     "1CAPITAL LETTER E WITH TILDE;1SMALL/4;1CAPITAL LETTER E WITH CIRCUMFLEX AND ACUTE;1SMALL/6",
     "1CAPITAL LETTER E WITH CIRCUMFLEX AND GRAVE;1SMALL/6",
     "1CAPITAL LETTER E WITH CIRCUMFLEX AND HOOK ABOVE;1SMALL/7",
     "1CAPITAL LETTER E WITH CIRCUMFLEX AND TILDE;1SMALL/6",
     "1CAPITAL LETTER E WITH CIRCUMFLEX AND DOT BELOW;1SMALL/7;1CAPITAL LETTER I WITH HOOK ABOVE",
     "1SMALL/5;1CAPITAL LETTER I WITH DOT BELOW;1SMALL/5;1CAPITAL LETTER O/3;1SMALL/5",
     "1CAPITAL LETTER O WITH HOOK ABOVE;1SMALL/5;1CAPITAL LETTER O WITH CIRCUMFLEX AND ACUTE",
     "1SMALL/6;1CAPITAL LETTER O WITH CIRCUMFLEX AND GRAVE;1SMALL/6",
     "1CAPITAL LETTER O WITH CIRCUMFLEX AND HOOK ABOVE;1SMALL/7",
     "1CAPITAL LETTER O WITH CIRCUMFLEX AND TILDE;1SMALL/6",
     "1CAPITAL LETTER O WITH CIRCUMFLEX AND DOT BELOW;1SMALL/7",
     "1CAPITAL LETTER O WITH HORN AND ACUTE;1SMALL/6;1CAPITAL LETTER O WITH HORN AND GRAVE",
     "1SMALL/6;1CAPITAL LETTER O WITH HORN AND HOOK ABOVE;1SMALL/7",
     "1CAPITAL LETTER O WITH HORN AND TILDE;1SMALL/6;1CAPITAL LETTER O WITH HORN AND DOT BELOW",
     "1SMALL/7;1CAPITAL LETTER U WITH/2;1SMALL/5;1CAPITAL LETTER U WITH HOOK ABOVE;1SMALL/5",
     "1CAPITAL LETTER U WITH HORN AND ACUTE;1SMALL/6;1CAPITAL LETTER U WITH HORN AND GRAVE",
     "1SMALL/6;1CAPITAL LETTER U WITH HORN AND HOOK ABOVE;1SMALL/7",
     "1CAPITAL LETTER U WITH HORN AND TILDE;1SMALL/6;1CAPITAL LETTER U WITH HORN AND DOT BELOW",
     "1SMALL/7;1CAPITAL LETTER Y WITH GRAVE;1SMALL/4;1CAPITAL LETTER Y WITH DOT BELOW;1SMALL/5",
     "1CAPITAL LETTER Y WITH HOOK ABOVE;1SMALL/5;1CAPITAL LETTER Y WITH TILDE;1SMALL/4",
     "1CAPITAL LETTER MIDDLE-WELSH LL;1SMALL/3;1CAPITAL LETTER MIDDLE-WELSH V;1SMALL/3",
     "1CAPITAL LETTER Y WITH LOOP;1SMALL/4"]⟩,
   ⟨0x1F00,
    ["0GREEK SMALL LETTER ALPHA WITH PSILI;5DASIA;5PSILI AND VARIA;5DASIA/2;5PSILI AND OXIA",
     "5DASIA/2;5PSILI AND PERISPOMENI;5DASIA/2;1CAPITAL LETTER ALPHA WITH PSILI;5DASIA",
     "5PSILI AND VARIA;5DASIA/2;5PSILI AND OXIA;5DASIA/2;5PSILI AND PERISPOMENI;5DASIA/2",
     "1SMALL LETTER EPSILON WITH PSILI;5DASIA;5PSILI AND VARIA;5DASIA/2;5PSILI AND OXIA;5DASIA/2",
     ";;1CAPITAL LETTER EPSILON WITH PSILI;5DASIA;5PSILI AND VARIA;5DASIA/2;5PSILI AND OXIA",
     "5DASIA/2;;;1SMALL LETTER ETA WITH PSILI;5DASIA;5PSILI AND VARIA;5DASIA/2;5PSILI AND OXIA",
     "5DASIA/2;5PSILI AND PERISPOMENI;5DASIA/2;1CAPITAL LETTER ETA WITH PSILI;5DASIA",
     "5PSILI AND VARIA;5DASIA/2;5PSILI AND OXIA;5DASIA/2;5PSILI AND PERISPOMENI;5DASIA/2",
     "1SMALL LETTER IOTA WITH PSILI;5DASIA;5PSILI AND VARIA;5DASIA/2;5PSILI AND OXIA;5DASIA/2",
     "5PSILI AND PERISPOMENI;5DASIA/2;1CAPITAL LETTER IOTA WITH PSILI;5DASIA;5PSILI AND VARIA",
     "5DASIA/2;5PSILI AND OXIA;5DASIA/2;5PSILI AND PERISPOMENI;5DASIA/2",
     "1SMALL LETTER OMICRON WITH PSILI;5DASIA;5PSILI AND VARIA;5DASIA/2;5PSILI AND OXIA;5DASIA/2",
     ";;1CAPITAL LETTER OMICRON WITH PSILI;5DASIA;5PSILI AND VARIA;5DASIA/2;5PSILI AND OXIA",
     "5DASIA/2;;;1SMALL LETTER UPSILON WITH PSILI;5DASIA;5PSILI AND VARIA;5DASIA/2",
     "5PSILI AND OXIA;5DASIA/2;5PSILI AND PERISPOMENI;5DASIA/2;",
     "1CAPITAL LETTER UPSILON WITH DASIA;;6AND VARIA;;7OXIA;;7PERISPOMENI",
     "1SMALL LETTER OMEGA WITH PSILI;5DASIA;5PSILI AND VARIA;5DASIA/2;5PSILI AND OXIA;5DASIA/2",
     "5PSILI AND PERISPOMENI;5DASIA/2;1CAPITAL LETTER OMEGA WITH PSILI;5DASIA;5PSILI AND VARIA",
     "5DASIA/2;5PSILI AND OXIA;5DASIA/2;5PSILI AND PERISPOMENI;5DASIA/2",
     "1SMALL LETTER ALPHA WITH VARIA;5OXIA;3EPSILON WITH VARIA;5OXIA;3ETA WITH VARIA;5OXIA",
     "3IOTA WITH VARIA;5OXIA;3OMICRON WITH VARIA;5OXIA;3UPSILON WITH VARIA;5OXIA",
     "3OMEGA WITH VARIA;5OXIA;;;3ALPHA WITH PSILI AND YPOGEGRAMMENI;5DASIA/2;5PSILI AND VARIA/2",
     "5DASIA/4;5PSILI AND OXIA/2;5DASIA/4;5PSILI AND PERISPOMENI/2;5DASIA/4",
     "1CAPITAL LETTER ALPHA WITH PSILI AND PROSGEGRAMMENI;5DASIA/2;5PSILI AND VARIA/2;5DASIA/4",
     "5PSILI AND OXIA/2;5DASIA/4;5PSILI AND PERISPOMENI/2;5DASIA/4",
     "1SMALL LETTER ETA WITH PSILI AND YPOGEGRAMMENI;5DASIA/2;5PSILI AND VARIA/2;5DASIA/4",
     "5PSILI AND OXIA/2;5DASIA/4;5PSILI AND PERISPOMENI/2;5DASIA/4",
     "1CAPITAL LETTER ETA WITH PSILI AND PROSGEGRAMMENI;5DASIA/2;5PSILI AND VARIA/2;5DASIA/4",
     "5PSILI AND OXIA/2;5DASIA/4;5PSILI AND PERISPOMENI/2;5DASIA/4",
     "1SMALL LETTER OMEGA WITH PSILI AND YPOGEGRAMMENI;5DASIA/2;5PSILI AND VARIA/2;5DASIA/4",
     "5PSILI AND OXIA/2;5DASIA/4;5PSILI AND PERISPOMENI/2;5DASIA/4",
     "1CAPITAL LETTER OMEGA WITH PSILI AND PROSGEGRAMMENI;5DASIA/2;5PSILI AND VARIA/2;5DASIA/4",
     "5PSILI AND OXIA/2;5DASIA/4;5PSILI AND PERISPOMENI/2;5DASIA/4",
     "1SMALL LETTER ALPHA WITH VRACHY;5MACRON;5VARIA AND YPOGEGRAMMENI;5/1;5OXIA AND/1;",
     "5PERISPOMENI;6AND YPOGEGRAMMENI;1CAPITAL LETTER ALPHA WITH VRACHY;5MACRON;5VARIA;5OXIA",
     "5PROSGEGRAMMENI;1KORONIS;1PROSGEGRAMMENI;1PSILI;1PERISPOMENI;1DIALYTIKA AND/1",
     "1SMALL LETTER ETA WITH VARIA AND YPOGEGRAMMENI;5/1;5OXIA AND/1;;5PERISPOMENI",
     "6AND YPOGEGRAMMENI;1CAPITAL LETTER EPSILON WITH VARIA;5OXIA;3ETA WITH VARIA;5OXIA",
     "5PROSGEGRAMMENI;1PSILI AND VARIA;3OXIA;3PERISPOMENI;1SMALL LETTER IOTA WITH VRACHY;5MACRON",
     "5DIALYTIKA AND VARIA;7OXIA;;;5PERISPOMENI;5DIALYTIKA AND/1",
     "1CAPITAL LETTER IOTA WITH VRACHY;5MACRON;5VARIA;5OXIA;;1DASIA AND VARIA;3OXIA;3PERISPOMENI",
     "1SMALL LETTER UPSILON WITH VRACHY;5MACRON;5DIALYTIKA AND VARIA;7OXIA;3RHO WITH PSILI",
     "5DASIA;3UPSILON WITH PERISPOMENI;5DIALYTIKA AND/1;1CAPITAL LETTER UPSILON WITH VRACHY",
     "5MACRON;5VARIA;5OXIA;3RHO WITH DASIA;1DIALYTIKA AND VARIA;3OXIA;1VARIA;;",
     "1SMALL LETTER OMEGA WITH VARIA AND YPOGEGRAMMENI;5/1;5OXIA AND/1;;5PERISPOMENI",
     "6AND YPOGEGRAMMENI;1CAPITAL LETTER OMICRON WITH VARIA;5OXIA;3OMEGA WITH VARIA;5OXIA",
     "5PROSGEGRAMMENI;1OXIA;1DASIA"]⟩,
   ⟨0x2000,
    ["0EN QUAD;0EM/1;0EN SPACE;0EM/1;0THREE-PER-EM/1;0FOUR-PER-EM/1;0SIX-PER-EM/1;0FIGURE/1",
     "0PUNCTUATION/1;0THIN/1;0HAIR/1;0ZERO WIDTH/1;2NON-JOINER;2JOINER;0LEFT-TO-RIGHT MARK",
     "0RIGHT-TO-LEFT/1;0HYPHEN;0NON-BREAKING/1;0FIGURE DASH;0EN/1;0EM/1;0HORIZONTAL BAR",
     "0DOUBLE VERTICAL LINE;1LOW/1;0LEFT SINGLE QUOTATION MARK;0RIGHT/3;0SINGLE LOW-9/2",
     "1HIGH-REVERSED-9/2;0LEFT DOUBLE/2;0RIGHT/3;0DOUBLE LOW-9/2;1HIGH-REVERSED-9/2;0DAGGER",
     "0DOUBLE/1;0BULLET;0TRIANGULAR/1;0ONE DOT LEADER;0TWO/2;0HORIZONTAL ELLIPSIS",
     "0HYPHENATION POINT;0LINE SEPARATOR;0PARAGRAPH/1;0LEFT-TO-RIGHT EMBEDDING;0RIGHT-TO-LEFT/1",
     "0POP DIRECTIONAL FORMATTING;0LEFT-TO-RIGHT OVERRIDE;0RIGHT-TO-LEFT/1",
     "0NARROW NO-BREAK SPACE;0PER MILLE SIGN;1TEN THOUSAND/1;0PRIME;0DOUBLE/1;0TRIPLE/1",
     "0REVERSED/1;1DOUBLE/1;1TRIPLE/1;0CARET;0SINGLE LEFT-POINTING ANGLE QUOTATION MARK",
     "1RIGHT-POINTING/3;0REFERENCE/1;0DOUBLE EXCLAMATION/1;0INTERROBANG;0OVERLINE;0UNDERTIE",
     "0CHARACTER TIE;0CARET INSERTION POINT;0ASTERISM;0HYPHEN BULLET;0FRACTION SLASH",
     "0LEFT SQUARE BRACKET WITH QUILL;0RIGHT/4;0DOUBLE QUESTION MARK;0QUESTION EXCLAMATION/1",
     "0EXCLAMATION QUESTION/1;0TIRONIAN SIGN ET;0REVERSED PILCROW SIGN;0BLACK LEFTWARDS BULLET",
     "1RIGHTWARDS/1;0LOW ASTERISK;0REVERSED SEMICOLON;0CLOSE UP",
     "0TWO ASTERISKS ALIGNED VERTICALLY;0COMMERCIAL MINUS SIGN;0SWUNG DASH;0INVERTED UNDERTIE",
     "0FLOWER PUNCTUATION MARK;0THREE DOT PUNCTUATION;0QUADRUPLE PRIME;0FOUR DOT PUNCTUATION",
     "0FIVE/2;0TWO/2;0FOUR DOT MARK;0DOTTED CROSS;0TRICOLON;0VERTICAL FOUR DOTS",
     "0MEDIUM MATHEMATICAL SPACE;0WORD JOINER;0FUNCTION APPLICATION;0INVISIBLE TIMES;1SEPARATOR",
     "1PLUS;;0LEFT-TO-RIGHT ISOLATE;0RIGHT-TO-LEFT/1;0FIRST STRONG/1;0POP DIRECTIONAL/1",
     "0INHIBIT SYMMETRIC SWAPPING;0ACTIVATE/2;0INHIBIT ARABIC FORM SHAPING;0ACTIVATE/3",
     "0NATIONAL DIGIT SHAPES;0NOMINAL/2;0SUPERSCRIPT ZERO;1LATIN SMALL LETTER I;;;1FOUR;1FIVE",
     "1SIX;1SEVEN;1EIGHT;1NINE;1PLUS SIGN;1MINUS;1EQUALS SIGN;1LEFT PARENTHESIS;1RIGHT/1",
     "1LATIN SMALL LETTER N;0SUBSCRIPT ZERO;1ONE;1TWO;1THREE;1FOUR;1FIVE;1SIX;1SEVEN;1EIGHT",
     "1NINE;1PLUS SIGN;1MINUS;1EQUALS SIGN;1LEFT PARENTHESIS;1RIGHT/1;",
     "0LATIN SUBSCRIPT SMALL LETTER A;4E;4O;4X;4SCHWA;4H;4K;4L;4M;4N;4P;4S;4T;;;",
     "0EURO-CURRENCY SIGN;0COLON/1;0CRUZEIRO/1;0FRENCH FRANC/1;0LIRA/1;0MILL/1;0NAIRA/1",
     "0PESETA/1;0RUPEE/1;0WON/1;0NEW SHEQEL/1;0DONG/1;0EURO/1;0KIP/1;0TUGRIK/1;0DRACHMA/1",
     "0GERMAN PENNY/1;0PESO/1;0GUARANI/1;0AUSTRAL/1;0HRYVNIA/1;0CEDI/1;0LIVRE TOURNOIS/1",
     "0SPESMILO/1;0TENGE/1;0INDIAN RUPEE/1;0TURKISH LIRA/1;0NORDIC MARK/1;0MANAT/1;0RUBLE/1",
     "0LARI/1;0BITCOIN/1;0SOM/1"]⟩,
   ⟨0x20D0,
    ["0COMBINING LEFT HARPOON ABOVE;1RIGHT/2;1LONG VERTICAL LINE OVERLAY;1SHORT/3",
     "1ANTICLOCKWISE ARROW ABOVE;1CLOCKWISE/2;1LEFT/2;1RIGHT/2;1RING OVERLAY;1CLOCKWISE/2",
     "1ANTICLOCKWISE/2;1THREE DOTS ABOVE;1FOUR/2;1ENCLOSING CIRCLE;2SQUARE;2DIAMOND",
     "2CIRCLE BACKSLASH;1LEFT RIGHT ARROW ABOVE;1ENCLOSING SCREEN;2KEYCAP",
     "2UPWARD POINTING TRIANGLE;1REVERSE SOLIDUS OVERLAY;1DOUBLE VERTICAL STROKE/1",
     "1ANNUITY SYMBOL;1TRIPLE UNDERDOT;1WIDE BRIDGE ABOVE;1LEFTWARDS ARROW OVERLAY",
     "1LONG DOUBLE SOLIDUS/1;1RIGHTWARDS HARPOON WITH BARB DOWNWARDS;1LEFTWARDS/4",
     "1LEFT ARROW BELOW;1RIGHT/2;1ASTERISK ABOVE"]⟩,
   ⟨0x2100,
    ["0ACCOUNT OF;0ADDRESSED TO THE SUBJECT;0DOUBLE-STRUCK CAPITAL C;0DEGREE CELSIUS",
     "0CENTRE LINE SYMBOL;0CARE OF;0CADA UNA;0EULER CONSTANT;0SCRUPLE;0DEGREE FAHRENHEIT",
     "0SCRIPT SMALL G;1CAPITAL H;0BLACK-LETTER/2;0DOUBLE-STRUCK/2;0PLANCK CONSTANT;2OVER TWO PI",
     "0SCRIPT CAPITAL I;0BLACK-LETTER/2;0SCRIPT CAPITAL L;1SMALL/1;0L B BAR SYMBOL",
     "0DOUBLE-STRUCK CAPITAL N;0NUMERO SIGN;0SOUND RECORDING COPYRIGHT;0SCRIPT CAPITAL P",
     "0DOUBLE-STRUCK/2;2Q;0SCRIPT CAPITAL R;0BLACK-LETTER/2;0DOUBLE-STRUCK/2;0PRESCRIPTION TAKE",
     "0RESPONSE;0SERVICE MARK;0TELEPHONE SIGN;0TRADE MARK/1;0VERSICLE;0DOUBLE-STRUCK CAPITAL Z",
     "0OUNCE SIGN;0OHM/1;0INVERTED/2;0BLACK-LETTER CAPITAL Z;0TURNED GREEK SMALL LETTER IOTA",
     "0KELVIN SIGN;0ANGSTROM/1;0SCRIPT CAPITAL B;0BLACK-LETTER CAPITAL C;0ESTIMATED SYMBOL",
     "0SCRIPT SMALL E;1CAPITAL/1;2F;0TURNED/2;0SCRIPT CAPITAL M;1SMALL O;0ALEF SYMBOL;0BET/1",
     "0GIMEL/1;0DALET/1;0INFORMATION SOURCE;0ROTATED CAPITAL Q;0FACSIMILE SIGN",
     "0DOUBLE-STRUCK SMALL PI;2GAMMA;1CAPITAL/1;2PI;1N-ARY SUMMATION",
     "0TURNED SANS-SERIF CAPITAL G;3L;0REVERSED/3;0TURNED SANS-SERIF CAPITAL Y",
     "0DOUBLE-STRUCK ITALIC CAPITAL D;2SMALL/1;3E;3I;3J;0PROPERTY LINE;0TURNED AMPERSAND",
     "0PER SIGN;0AKTIESELSKAB;0TURNED SMALL F;0SYMBOL FOR SAMARITAN SOURCE",
     "0VULGAR FRACTION ONE SEVENTH;3NINTH;3TENTH;3THIRD;2TWO THIRDS;2ONE FIFTH;2TWO FIFTHS",
     "2THREE/1;2FOUR/1;2ONE SIXTH;2FIVE SIXTHS;2ONE EIGHTH;2THREE EIGHTHS;2FIVE/1;2SEVEN/1",
     "0FRACTION NUMERATOR ONE;0ROMAN NUMERAL/1;2TWO;2THREE;2FOUR;2FIVE;2SIX;2SEVEN;2EIGHT;2NINE",
     "2TEN;2ELEVEN;2TWELVE;2FIFTY;2ONE HUNDRED;2FIVE/1;2ONE THOUSAND;0SMALL ROMAN NUMERAL ONE",
     "3TWO;3THREE;3FOUR;3FIVE;3SIX;3SEVEN;3EIGHT;3NINE;3TEN;3ELEVEN;3TWELVE;3FIFTY;3ONE HUNDRED",
     "3FIVE/1;3ONE THOUSAND;0ROMAN NUMERAL ONE THOUSAND C D;2FIVE THOUSAND;2TEN/1",
     "2REVERSED ONE HUNDRED;0LATIN SMALL LETTER REVERSED C;0ROMAN NUMERAL SIX LATE FORM",
     "2FIFTY EARLY/1;3THOUSAND;2ONE HUNDRED/1;0VULGAR FRACTION ZERO THIRDS;0TURNED DIGIT TWO",
     "2THREE"]⟩,
   ⟨0x2190,
    ["0LEFTWARDS ARROW;0UPWARDS/1;0RIGHTWARDS/1;0DOWNWARDS/1;0LEFT RIGHT/1;0UP DOWN/1",
     "0NORTH WEST/1;1EAST/1;0SOUTH/2;1WEST/1;0LEFTWARDS ARROW WITH STROKE;0RIGHTWARDS/3",
     "0LEFTWARDS WAVE ARROW;0RIGHTWARDS/2;0LEFTWARDS TWO HEADED/1;0UPWARDS/3;0RIGHTWARDS/3",
     "0DOWNWARDS/3;0LEFTWARDS ARROW WITH TAIL;0RIGHTWARDS/3;0LEFTWARDS ARROW FROM BAR;0UPWARDS/3",
     "0RIGHTWARDS/3;0DOWNWARDS/3;0UP DOWN ARROW WITH BASE;0LEFTWARDS ARROW WITH HOOK",
     "0RIGHTWARDS/3;0LEFTWARDS ARROW WITH LOOP;0RIGHTWARDS/3;0LEFT RIGHT WAVE ARROW",
     "2ARROW WITH STROKE;0DOWNWARDS ZIGZAG ARROW;0UPWARDS ARROW WITH TIP LEFTWARDS;4RIGHTWARDS",
     "0DOWNWARDS ARROW WITH TIP LEFTWARDS;4RIGHTWARDS;0RIGHTWARDS ARROW WITH CORNER DOWNWARDS",
     "0DOWNWARDS ARROW WITH CORNER LEFTWARDS;0ANTICLOCKWISE TOP SEMICIRCLE ARROW;0CLOCKWISE/3",
     "0NORTH WEST ARROW TO LONG BAR;0LEFTWARDS ARROW TO BAR OVER RIGHTWARDS ARROW TO/1",
     "0ANTICLOCKWISE OPEN CIRCLE ARROW;0CLOCKWISE/3;0LEFTWARDS HARPOON WITH BARB UPWARDS",
     "4DOWNWARDS;0UPWARDS HARPOON WITH BARB RIGHTWARDS;4LEFTWARDS",
     "0RIGHTWARDS HARPOON WITH BARB UPWARDS;4DOWNWARDS;0DOWNWARDS HARPOON WITH BARB RIGHTWARDS",
     "4LEFTWARDS;0RIGHTWARDS ARROW OVER LEFTWARDS ARROW;0UPWARDS ARROW LEFTWARDS OF DOWNWARDS/1",
     "0LEFTWARDS ARROW OVER RIGHTWARDS/1;1PAIRED ARROWS;0UPWARDS/2;0RIGHTWARDS/2;0DOWNWARDS/2",
     "0LEFTWARDS HARPOON OVER RIGHTWARDS HARPOON;0RIGHTWARDS HARPOON OVER LEFTWARDS/1",
     "0LEFTWARDS DOUBLE ARROW WITH STROKE;0LEFT RIGHT/4;0RIGHTWARDS/4;0LEFTWARDS DOUBLE ARROW",
     "0UPWARDS/2;0RIGHTWARDS/2;0DOWNWARDS/2;0LEFT RIGHT/2;0UP DOWN/2;0NORTH WEST/2;1EAST/2",
     "0SOUTH/3;1WEST/2;0LEFTWARDS TRIPLE/1;0RIGHTWARDS/2;0LEFTWARDS SQUIGGLE/1;0RIGHTWARDS/2",
     "0UPWARDS ARROW WITH DOUBLE STROKE;0DOWNWARDS/4;0LEFTWARDS DASHED ARROW;0UPWARDS/2",
     "0RIGHTWARDS/2;0DOWNWARDS/2;0LEFTWARDS ARROW TO BAR;0RIGHTWARDS/3;0LEFTWARDS WHITE ARROW",
     "0UPWARDS/2;0RIGHTWARDS/2;0DOWNWARDS/2;0UPWARDS WHITE ARROW FROM BAR;3ON PEDESTAL",
     "5WITH HORIZONTAL BAR;6VERTICAL/1;2DOUBLE ARROW;4ON PEDESTAL",
     "0RIGHTWARDS WHITE ARROW FROM WALL;0NORTH WEST ARROW TO CORNER;0SOUTH EAST/3",
     "0UP DOWN WHITE ARROW;0RIGHT ARROW WITH SMALL CIRCLE",
     "0DOWNWARDS ARROW LEFTWARDS OF UPWARDS ARROW;0THREE RIGHTWARDS ARROWS",
     "0LEFTWARDS ARROW WITH VERTICAL STROKE;0RIGHTWARDS/4;0LEFT RIGHT/4",
     "0LEFTWARDS ARROW WITH DOUBLE/2;0RIGHTWARDS/5;0LEFT RIGHT/5;0LEFTWARDS OPEN-HEADED ARROW",
     "0RIGHTWARDS/2;0LEFT RIGHT/2;0FOR ALL;0COMPLEMENT;0PARTIAL DIFFERENTIAL;0THERE EXISTS",
     "1DOES NOT EXIST;0EMPTY SET;0INCREMENT;0NABLA;0ELEMENT OF;0NOT AN/2;0SMALL/2",
     "0CONTAINS AS MEMBER;0DOES NOT CONTAIN/2;0SMALL CONTAINS/2;0END OF PROOF;0N-ARY PRODUCT",
     "1COPRODUCT;1SUMMATION;0MINUS SIGN;0MINUS-OR-PLUS/1;0DOT PLUS;0DIVISION SLASH;0SET MINUS",
     "0ASTERISK OPERATOR;0RING/1;0BULLET/1;0SQUARE ROOT;0CUBE/1;0FOURTH/1;0PROPORTIONAL TO",
     "0INFINITY;0RIGHT ANGLE;0/1;0MEASURED/1;0SPHERICAL/1;0DIVIDES;0DOES NOT DIVIDE;0PARALLEL TO",
     "0NOT/2;0LOGICAL AND;1OR;0INTERSECTION;0UNION;0INTEGRAL;0DOUBLE/1;0TRIPLE/1;0CONTOUR/1",
     "0SURFACE/1;0VOLUME/1;0CLOCKWISE/1;1CONTOUR/1;0ANTICLOCKWISE/2;0THEREFORE;0BECAUSE;0RATIO",
     "0PROPORTION;0DOT MINUS;0EXCESS;0GEOMETRIC PROPORTION;0HOMOTHETIC;0TILDE OPERATOR",
     "0REVERSED TILDE;0INVERTED LAZY S;0SINE WAVE;0WREATH PRODUCT;0NOT TILDE;0MINUS/1",
     "0ASYMPTOTICALLY EQUAL TO;0NOT/3;0APPROXIMATELY/2;1BUT NOT ACTUALLY/2",
     "0NEITHER APPROXIMATELY NOR/3;0ALMOST/2;0NOT/3;0ALMOST EQUAL OR/2;0TRIPLE TILDE",
     "0ALL EQUAL TO;0EQUIVALENT/1;0GEOMETRICALLY/2;0DIFFERENCE BETWEEN;0APPROACHES THE LIMIT",
     "0GEOMETRICALLY EQUAL TO;0APPROXIMATELY EQUAL TO OR THE IMAGE OF",
     "0IMAGE OF OR APPROXIMATELY EQUAL TO;0COLON EQUALS;0EQUALS COLON;0RING IN EQUAL TO;1/2",
     "0CORRESPONDS/1;0ESTIMATES;0EQUIANGULAR TO;0STAR EQUALS;0DELTA EQUAL TO",
     "0EQUAL TO BY DEFINITION;0MEASURED BY;0QUESTIONED EQUAL TO;0NOT/2;0IDENTICAL/1;0NOT/2",
     "0STRICTLY EQUIVALENT/1;0LESS-THAN OR EQUAL/1;0GREATER-THAN/3;0LESS-THAN OVER/2",
     "0GREATER-THAN/3;0LESS-THAN BUT NOT/2;0GREATER-THAN/4;0MUCH LESS-THAN;1GREATER-THAN",
     "0BETWEEN;0NOT EQUIVALENT TO;1LESS-THAN;1GREATER-THAN;0NEITHER LESS-THAN NOR EQUAL TO",
     "1GREATER-THAN/3;0LESS-THAN OR EQUIVALENT/1;0GREATER-THAN/3;0NEITHER LESS-THAN NOR/2",
     "1GREATER-THAN/3;0LESS-THAN OR GREATER-THAN;0GREATER-THAN OR LESS-THAN",
     "0NEITHER LESS-THAN NOR GREATER-THAN;1GREATER-THAN NOR LESS-THAN;0PRECEDES;0SUCCEEDS",
     "0PRECEDES OR EQUAL TO;0SUCCEEDS/3;0PRECEDES OR EQUIVALENT/1;0SUCCEEDS/3;0DOES NOT PRECEDE",
     "2SUCCEED;0SUBSET OF;0SUPERSET/1;0NOT A SUBSET/1;2SUPERSET/1;0SUBSET OF OR EQUAL TO",
     "0SUPERSET/4;0NEITHER A SUBSET OF NOR/2;2SUPERSET/4;0SUBSET OF WITH NOT/2;0SUPERSET/5",
     "0MULTISET;1MULTIPLICATION;1UNION;0SQUARE IMAGE OF"]⟩,
   ⟨0x2290,
    ["0SQUARE ORIGINAL OF;1IMAGE OF OR EQUAL TO;1ORIGINAL/4;1CAP;1CUP;0CIRCLED PLUS;1MINUS",
     "1TIMES;1DIVISION SLASH;1DOT OPERATOR;1RING/1;1ASTERISK/1;1EQUALS;1DASH;0SQUARED PLUS",
     "1MINUS;1TIMES;1DOT OPERATOR;0RIGHT TACK;0LEFT/1;0DOWN/1;0UP/1;0ASSERTION;0MODELS;0TRUE",
     "0FORCES;0TRIPLE VERTICAL BAR RIGHT TURNSTILE;0DOUBLE VERTICAL BAR DOUBLE/2;0DOES NOT PROVE",
     "0NOT TRUE;0DOES NOT FORCE;0NEGATED DOUBLE VERTICAL BAR DOUBLE RIGHT TURNSTILE",
     "0PRECEDES UNDER RELATION;0SUCCEEDS/2;0NORMAL SUBGROUP OF;0CONTAINS AS NORMAL SUBGROUP",
     "0NORMAL SUBGROUP OF OR EQUAL TO;0CONTAINS AS NORMAL SUBGROUP/3;0ORIGINAL OF;0IMAGE/1",
     "0MULTIMAP;0HERMITIAN CONJUGATE MATRIX;0INTERCALATE;0XOR;0NAND;0NOR;0RIGHT ANGLE WITH ARC",
     "1TRIANGLE;0N-ARY LOGICAL AND;2OR;1INTERSECTION;1UNION;0DIAMOND OPERATOR;0DOT/1;0STAR/1",
     "0DIVISION TIMES;0BOWTIE;0LEFT NORMAL FACTOR SEMIDIRECT PRODUCT;0RIGHT/4;0LEFT/2;0RIGHT/2",
     "0REVERSED TILDE EQUALS;0CURLY LOGICAL OR;2AND;0DOUBLE SUBSET;1SUPERSET;1INTERSECTION",
     "1UNION;0PITCHFORK;0EQUAL AND PARALLEL TO;0LESS-THAN WITH DOT;0GREATER-THAN/2",
     "0VERY MUCH LESS-THAN;2GREATER-THAN;0LESS-THAN EQUAL TO OR/1",
     "0GREATER-THAN EQUAL TO OR LESS-THAN;0/4;3GREATER-THAN;3PRECEDES;3SUCCEEDS",
     "0DOES NOT PRECEDE OR EQUAL;2SUCCEED/2;0NOT SQUARE IMAGE OF OR EQUAL TO;2ORIGINAL/4",
     "0SQUARE IMAGE OF OR NOT/2;1ORIGINAL/5;0LESS-THAN BUT NOT EQUIVALENT/1;0GREATER-THAN/4",
     "0PRECEDES/4;0SUCCEEDS/4;0NOT NORMAL SUBGROUP OF;0DOES NOT CONTAIN AS NORMAL SUBGROUP",
     "0NOT NORMAL SUBGROUP OF OR EQUAL TO;0DOES NOT CONTAIN AS NORMAL SUBGROUP OR EQUAL",
     "0VERTICAL ELLIPSIS;0MIDLINE HORIZONTAL/1;0UP RIGHT DIAGONAL/1;0DOWN/3",
     "0ELEMENT OF WITH LONG HORIZONTAL STROKE;3VERTICAL BAR AT END OF/2;0SMALL ELEMENT/9",
     "0ELEMENT OF WITH DOT ABOVE;3OVERBAR;0SMALL/4;0ELEMENT OF WITH UNDERBAR",
     "3TWO HORIZONTAL STROKES;0CONTAINS WITH LONG HORIZONTAL STROKE;2VERTICAL BAR AT END OF/2",
     "0SMALL/9;0CONTAINS WITH OVERBAR;0SMALL/3;0Z NOTATION BAG MEMBERSHIP;0DIAMETER SIGN",
     "0ELECTRIC ARROW;0HOUSE;0UP ARROWHEAD;0DOWN/1;0PROJECTIVE;0PERSPECTIVE;0WAVY LINE",
     "0LEFT CEILING;0RIGHT/1;0LEFT FLOOR;0RIGHT/1;0BOTTOM RIGHT CROP;1LEFT/1;0TOP RIGHT/1",
     "1LEFT/1;0REVERSED NOT SIGN;0SQUARE LOZENGE;0ARC;0SEGMENT;0SECTOR;0TELEPHONE RECORDER",
     "0POSITION INDICATOR;0VIEWDATA SQUARE;0PLACE OF INTEREST SIGN;0TURNED NOT/1;0WATCH",
     "0HOURGLASS;0TOP LEFT CORNER;1RIGHT/1;0BOTTOM LEFT/1;1RIGHT/1;0TOP HALF INTEGRAL;0BOTTOM/2",
     "0FROWN;0SMILE;0UP ARROWHEAD BETWEEN TWO HORIZONTAL BARS;0OPTION KEY;0ERASE TO THE RIGHT",
     "0X IN A RECTANGLE BOX;0KEYBOARD;0LEFT-POINTING ANGLE BRACKET;0RIGHT-POINTING/2",
     "0ERASE TO THE LEFT;0BENZENE RING;0CYLINDRICITY;0ALL AROUND-PROFILE;0SYMMETRY;0TOTAL RUNOUT",
     "0DIMENSION ORIGIN;0CONICAL TAPER;0SLOPE;0COUNTERBORE;0COUNTERSINK",
     "0APL FUNCTIONAL SYMBOL I-BEAM;3SQUISH QUAD;3QUAD EQUAL;4DIVIDE;4DIAMOND;4JOT;4CIRCLE",
     "3CIRCLE STILE;4JOT;3SLASH BAR;3BACKSLASH/1;3QUAD SLASH;4BACKSLASH;4LESS-THAN;4GREATER-THAN",
     "3LEFTWARDS VANE;3RIGHTWARDS/1;3QUAD LEFTWARDS ARROW;4RIGHTWARDS/1;3CIRCLE BACKSLASH",
     "3DOWN TACK UNDERBAR;3DELTA STILE;3QUAD DOWN CARET;4DELTA;3DOWN TACK JOT;3UPWARDS VANE",
     "3QUAD UPWARDS ARROW;3UP TACK OVERBAR;3DEL STILE;3QUAD UP CARET;4DEL;3UP TACK JOT",
     "3DOWNWARDS VANE;3QUAD DOWNWARDS ARROW;3QUOTE UNDERBAR;3DELTA/1;3DIAMOND/1;3JOT/1;3CIRCLE/1",
     "3UP SHOE JOT;3QUOTE QUAD;3CIRCLE STAR;3QUAD COLON;3UP TACK DIAERESIS;3DEL/1;3STAR/1;3JOT/1",
     "3CIRCLE/1;3DOWN SHOE STILE;3LEFT/2;3TILDE DIAERESIS;3GREATER-THAN/1;3COMMA BAR;3DEL TILDE",
     "3ZILDE;3STILE TILDE;3SEMICOLON UNDERBAR;3QUAD NOT EQUAL;4QUESTION;3DOWN CARET TILDE;3UP/2",
     "3IOTA;3RHO;3OMEGA;3ALPHA UNDERBAR;3EPSILON/1;3IOTA/1;3OMEGA/1;3ALPHA;0NOT CHECK MARK",
     "0RIGHT ANGLE WITH DOWNWARDS ZIGZAG ARROW;0SHOULDERED OPEN BOX;0BELL SYMBOL",
     "0VERTICAL LINE WITH MIDDLE DOT;0INSERTION SYMBOL;0CONTINUOUS UNDERLINE/1;0DISCONTINUOUS/2",
     "0EMPHASIS/1;0COMPOSITION/1;0WHITE SQUARE WITH CENTRE VERTICAL LINE;0ENTER SYMBOL",
     "0ALTERNATIVE KEY/1;0HELM/1;0CIRCLED HORIZONTAL BAR WITH NOTCH;1TRIANGLE DOWN",
     "0BROKEN CIRCLE WITH NORTHWEST ARROW;0UNDO SYMBOL;0MONOSTABLE/1;0HYSTERESIS/1",
     "0OPEN-CIRCUIT-OUTPUT H-TYPE/1"]⟩,
   ⟨0x2390,
    ["0OPEN-CIRCUIT-OUTPUT L-TYPE SYMBOL;0PASSIVE-PULL-DOWN-OUTPUT/1;0PASSIVE-PULL-UP-OUTPUT/1",
     "0DIRECT CURRENT SYMBOL FORM TWO;0SOFTWARE-FUNCTION SYMBOL;0APL FUNCTIONAL SYMBOL QUAD",
     "0DECIMAL SEPARATOR KEY SYMBOL;0PREVIOUS PAGE;0NEXT/1;0PRINT SCREEN SYMBOL;0CLEAR/2",
     "0LEFT PARENTHESIS UPPER HOOK;2EXTENSION;2LOWER HOOK;0RIGHT PARENTHESIS UPPER/1;2EXTENSION",
     "2LOWER HOOK;0LEFT SQUARE BRACKET UPPER CORNER;3EXTENSION;3LOWER CORNER",
     "0RIGHT SQUARE BRACKET UPPER/1;3EXTENSION;3LOWER CORNER;0LEFT CURLY BRACKET UPPER HOOK",
     "3MIDDLE PIECE;3LOWER HOOK;0CURLY BRACKET EXTENSION;0RIGHT CURLY BRACKET UPPER HOOK",
     "3MIDDLE PIECE;3LOWER HOOK;0INTEGRAL EXTENSION;0HORIZONTAL LINE/1",
     "0UPPER LEFT OR LOWER RIGHT CURLY BRACKET SECTION;1RIGHT OR LOWER LEFT/3;0SUMMATION TOP",
     "1BOTTOM;0TOP SQUARE BRACKET;0BOTTOM/2;3OVER TOP SQUARE BRACKET;0RADICAL SYMBOL BOTTOM",
     "0LEFT VERTICAL BOX LINE;0RIGHT/3;0HORIZONTAL SCAN LINE-1;2LINE-3;2LINE-7;2LINE-9",
     "0DENTISTRY SYMBOL LIGHT VERTICAL AND TOP RIGHT;5BOTTOM/1;4WITH CIRCLE",
     "3DOWN AND HORIZONTAL/2;3UP/4;3VERTICAL WITH TRIANGLE;3DOWN AND HORIZONTAL/2;3UP/4",
     "3VERTICAL AND WAVE;3DOWN AND HORIZONTAL WITH/1;3UP/4;3DOWN AND HORIZONTAL;3UP/2",
     "3VERTICAL AND TOP LEFT;5BOTTOM/1;0SQUARE FOOT;0RETURN SYMBOL;0EJECT/1",
     "0VERTICAL LINE EXTENSION;0METRICAL BREVE;1LONG OVER SHORT;1SHORT OVER LONG",
     "1LONG OVER TWO SHORTS;1TWO SHORTS OVER LONG;3JOINED;1TRISEME;1TETRASEME;1PENTASEME",
     "0EARTH GROUND;0FUSE;0TOP PARENTHESIS;0BOTTOM/1;0TOP CURLY BRACKET;0BOTTOM/2",
     "0TOP TORTOISE SHELL/1;0BOTTOM/3;0WHITE TRAPEZIUM;0BENZENE RING WITH CIRCLE;0STRAIGHTNESS",
     "0FLATNESS;0AC CURRENT;0ELECTRICAL INTERSECTION;0DECIMAL EXPONENT SYMBOL",
     "0BLACK RIGHT-POINTING DOUBLE TRIANGLE;1LEFT-POINTING/2;1UP-POINTING/2;1DOWN-POINTING/2",
     "1RIGHT-POINTING DOUBLE TRIANGLE WITH VERTICAL BAR;1LEFT-POINTING/5",
     "1RIGHT-POINTING TRIANGLE WITH DOUBLE/2;0ALARM CLOCK;0STOPWATCH;0TIMER CLOCK",
     "0HOURGLASS WITH FLOWING SAND;0BLACK MEDIUM LEFT-POINTING TRIANGLE;2RIGHT-POINTING/1",
     "2UP-POINTING/1;2DOWN-POINTING/1;0DOUBLE VERTICAL BAR;0BLACK SQUARE FOR STOP",
     "1CIRCLE FOR RECORD;0POWER SYMBOL;1ON-OFF/1;1ON/1;1SLEEP/1;0OBSERVER EYE/1;0SYMBOL FOR NULL",
     "2START OF HEADING;4TEXT;2END/2;4TRANSMISSION;2ENQUIRY;2ACKNOWLEDGE;2BELL;2BACKSPACE",
     "2HORIZONTAL TABULATION;2LINE FEED;2VERTICAL TABULATION;2FORM FEED;2CARRIAGE RETURN",
     "2SHIFT OUT;3IN;2DATA LINK ESCAPE;2DEVICE CONTROL ONE;4TWO;4THREE;4FOUR",
     "2NEGATIVE ACKNOWLEDGE;2SYNCHRONOUS IDLE;2END OF TRANSMISSION BLOCK;2CANCEL;2END OF MEDIUM",
     "2SUBSTITUTE;2ESCAPE;2FILE SEPARATOR;2GROUP/1;2RECORD/1;2UNIT/1;2SPACE;2DELETE",
     "0BLANK SYMBOL;0OPEN BOX;0SYMBOL FOR NEWLINE;2DELETE FORM TWO;2SUBSTITUTE/2"]⟩,
   ⟨0x2440,
    ["0OCR HOOK;1CHAIR;1FORK;1INVERTED/1;1BELT BUCKLE;1BOW TIE;1BRANCH BANK IDENTIFICATION",
     "1AMOUNT OF CHECK;1DASH;1CUSTOMER ACCOUNT NUMBER;1DOUBLE BACKSLASH"]⟩,
   ⟨0x2460,
    ["0CIRCLED DIGIT ONE;2TWO;2THREE;2FOUR;2FIVE;2SIX;2SEVEN;2EIGHT;2NINE;1NUMBER TEN;2ELEVEN",
     "2TWELVE;2THIRTEEN;2FOURTEEN;2FIFTEEN;2SIXTEEN;2SEVENTEEN;2EIGHTEEN;2NINETEEN;2TWENTY",
     "0PARENTHESIZED DIGIT ONE;2TWO;2THREE;2FOUR;2FIVE;2SIX;2SEVEN;2EIGHT;2NINE;1NUMBER TEN",
     "2ELEVEN;2TWELVE;2THIRTEEN;2FOURTEEN;2FIFTEEN;2SIXTEEN;2SEVENTEEN;2EIGHTEEN;2NINETEEN",
     "2TWENTY;0DIGIT ONE FULL STOP;1TWO/2;1THREE/2;1FOUR/2;1FIVE/2;1SIX/2;1SEVEN/2;1EIGHT/2",
     "1NINE/2;0NUMBER TEN/2;1ELEVEN/2;1TWELVE/2;1THIRTEEN/2;1FOURTEEN/2;1FIFTEEN/2;1SIXTEEN/2",
     "1SEVENTEEN/2;1EIGHTEEN/2;1NINETEEN/2;1TWENTY/2;0PARENTHESIZED LATIN SMALL LETTER A;4B;4C",
     "4D;4E;4F;4G;4H;4I;4J;4K;4L;4M;4N;4O;4P;4Q;4R;4S;4T;4U;4V;4W;4X;4Y;4Z",
     "0CIRCLED LATIN CAPITAL LETTER A;4B;4C;4D;4E;4F;4G;4H;4I;4J;4K;4L;4M;4N;4O;4P;4Q;4R;4S;4T",
     "4U;4V;4W;4X;4Y;4Z;2SMALL LETTER A;4B;4C;4D;4E;4F;4G;4H;4I;4J;4K;4L;4M;4N;4O;4P;4Q;4R;4S;4T",
     "4U;4V;4W;4X;4Y;4Z;1DIGIT ZERO;0NEGATIVE CIRCLED NUMBER ELEVEN;3TWELVE;3THIRTEEN;3FOURTEEN",
     "3FIFTEEN;3SIXTEEN;3SEVENTEEN;3EIGHTEEN;3NINETEEN;3TWENTY;0DOUBLE CIRCLED DIGIT ONE;3TWO",
     "3THREE;3FOUR;3FIVE;3SIX;3SEVEN;3EIGHT;3NINE;2NUMBER TEN;0NEGATIVE CIRCLED DIGIT ZERO",
     "0BOX DRAWINGS LIGHT HORIZONTAL;2HEAVY/1;2LIGHT VERTICAL;2HEAVY/1",
     "2LIGHT TRIPLE DASH HORIZONTAL;2HEAVY/3;2LIGHT TRIPLE DASH VERTICAL;2HEAVY/3",
     "2LIGHT QUADRUPLE DASH HORIZONTAL;2HEAVY/3;2LIGHT QUADRUPLE DASH VERTICAL;2HEAVY/3",
     "2LIGHT DOWN AND RIGHT;2DOWN LIGHT AND RIGHT HEAVY;3HEAVY AND RIGHT LIGHT",
     "2HEAVY DOWN AND RIGHT;2LIGHT DOWN AND LEFT;2DOWN LIGHT AND LEFT HEAVY",
     "3HEAVY AND LEFT LIGHT;2HEAVY DOWN AND LEFT;2LIGHT UP AND RIGHT;2UP LIGHT AND RIGHT HEAVY",
     "3HEAVY AND RIGHT LIGHT;2HEAVY UP AND RIGHT;2LIGHT UP AND LEFT;2UP LIGHT AND LEFT HEAVY",
     "3HEAVY AND LEFT LIGHT;2HEAVY UP AND LEFT;2LIGHT VERTICAL AND RIGHT",
     "2VERTICAL LIGHT AND RIGHT HEAVY;2UP HEAVY AND RIGHT DOWN LIGHT;2DOWN HEAVY AND RIGHT UP/1",
     "2VERTICAL HEAVY AND RIGHT/1;2DOWN LIGHT AND RIGHT UP HEAVY;2UP LIGHT AND RIGHT DOWN/1",
     "2HEAVY VERTICAL AND RIGHT;2LIGHT VERTICAL AND LEFT;2VERTICAL LIGHT AND LEFT HEAVY",
     "2UP HEAVY AND LEFT DOWN LIGHT;2DOWN HEAVY AND LEFT UP/1;2VERTICAL HEAVY AND LEFT/1",
     "2DOWN LIGHT AND LEFT UP HEAVY;2UP LIGHT AND LEFT DOWN/1;2HEAVY VERTICAL AND LEFT",
     "2LIGHT DOWN AND HORIZONTAL;2LEFT HEAVY AND RIGHT DOWN LIGHT;2RIGHT HEAVY AND LEFT/2",
     "2DOWN LIGHT AND HORIZONTAL HEAVY;3HEAVY AND HORIZONTAL LIGHT",
     "2RIGHT LIGHT AND LEFT DOWN HEAVY;2LEFT LIGHT AND RIGHT/2;2HEAVY DOWN AND HORIZONTAL",
     "2LIGHT UP/2;2LEFT HEAVY AND RIGHT UP LIGHT;2RIGHT HEAVY AND LEFT/2",
     "2UP LIGHT AND HORIZONTAL HEAVY;3HEAVY AND HORIZONTAL LIGHT;2RIGHT LIGHT AND LEFT UP HEAVY",
     "2LEFT LIGHT AND RIGHT/2;2HEAVY UP AND HORIZONTAL;2LIGHT VERTICAL/2",
     "2LEFT HEAVY AND RIGHT VERTICAL LIGHT;2RIGHT HEAVY AND LEFT/2",
     "2VERTICAL LIGHT AND HORIZONTAL HEAVY;2UP HEAVY AND DOWN HORIZONTAL LIGHT",
     "2DOWN HEAVY AND UP/2;2VERTICAL HEAVY AND/2;2LEFT UP HEAVY AND RIGHT DOWN/1",
     "2RIGHT UP HEAVY AND LEFT/2;2LEFT DOWN HEAVY AND RIGHT UP/1;2RIGHT DOWN HEAVY AND LEFT/2",
     "2DOWN LIGHT AND UP HORIZONTAL HEAVY;2UP LIGHT AND DOWN/2;2RIGHT LIGHT AND LEFT VERTICAL/1",
     "2LEFT LIGHT AND RIGHT/2;2HEAVY VERTICAL AND HORIZONTAL;2LIGHT DOUBLE DASH/1;2HEAVY/3",
     "2LIGHT DOUBLE DASH VERTICAL;2HEAVY/3;2DOUBLE HORIZONTAL;3VERTICAL",
     "2DOWN SINGLE AND RIGHT DOUBLE;3DOUBLE AND RIGHT SINGLE;2DOUBLE DOWN AND RIGHT",
     "2DOWN SINGLE AND LEFT DOUBLE;3DOUBLE AND LEFT SINGLE;2DOUBLE DOWN AND LEFT",
     "2UP SINGLE AND RIGHT DOUBLE;3DOUBLE AND RIGHT SINGLE;2DOUBLE UP AND RIGHT",
     "2UP SINGLE AND LEFT DOUBLE;3DOUBLE AND LEFT SINGLE;2DOUBLE UP AND LEFT",
     "2VERTICAL SINGLE AND RIGHT DOUBLE;3DOUBLE AND RIGHT SINGLE"]⟩,
   ⟨0x2560,
    ["0BOX DRAWINGS DOUBLE VERTICAL AND RIGHT;2VERTICAL SINGLE AND LEFT DOUBLE",
     "3DOUBLE AND LEFT SINGLE;2DOUBLE VERTICAL AND LEFT;2DOWN SINGLE AND HORIZONTAL DOUBLE",
     "3DOUBLE AND HORIZONTAL SINGLE;2DOUBLE DOWN AND HORIZONTAL;2UP SINGLE AND HORIZONTAL DOUBLE",
     "3DOUBLE AND HORIZONTAL SINGLE;2DOUBLE UP AND HORIZONTAL",
     "2VERTICAL SINGLE AND HORIZONTAL DOUBLE;3DOUBLE AND HORIZONTAL SINGLE",
     "2DOUBLE VERTICAL AND HORIZONTAL;2LIGHT ARC DOWN AND RIGHT;6LEFT;4UP/2;6RIGHT",
     "3DIAGONAL UPPER RIGHT TO LOWER LEFT;5LEFT TO LOWER RIGHT;4CROSS;3LEFT;3UP;3RIGHT;3DOWN",
     "2HEAVY LEFT;3UP;3RIGHT;3DOWN;2LIGHT LEFT AND HEAVY RIGHT;3UP AND HEAVY DOWN",
     "2HEAVY LEFT AND LIGHT RIGHT;3UP AND LIGHT DOWN;0UPPER HALF BLOCK;0LOWER ONE EIGHTH/1",
     "2QUARTER/1;1THREE EIGHTHS/1;1HALF/1;1FIVE EIGHTHS/1;1THREE QUARTERS/1;1SEVEN EIGHTHS/1",
     "0FULL/1;0LEFT SEVEN EIGHTHS/1;1THREE QUARTERS/1;1FIVE EIGHTHS/1;1HALF/1;1THREE EIGHTHS/1",
     "1ONE QUARTER/1;2EIGHTH/1;0RIGHT HALF/1;0LIGHT SHADE;0MEDIUM/1;0DARK/1",
     "0UPPER ONE EIGHTH BLOCK;0RIGHT/3;0QUADRANT LOWER LEFT;2RIGHT;1UPPER LEFT",
     "3AND LOWER LEFT AND LOWER RIGHT;5/1;4UPPER RIGHT AND LOWER LEFT;8RIGHT;2/1;3AND LOWER LEFT",
     "6AND LOWER RIGHT;0BLACK SQUARE;0WHITE/1;2WITH ROUNDED CORNERS",
     "2CONTAINING BLACK SMALL SQUARE;0SQUARE WITH HORIZONTAL FILL;2VERTICAL/1",
     "2ORTHOGONAL CROSSHATCH/1;2UPPER LEFT TO LOWER RIGHT/1;3RIGHT TO LOWER LEFT/1",
     "2DIAGONAL CROSSHATCH/1;0BLACK SMALL SQUARE;0WHITE/2;0BLACK RECTANGLE;0WHITE/1",
     "0BLACK VERTICAL/1;0WHITE/2;0BLACK PARALLELOGRAM;0WHITE/1;0BLACK UP-POINTING TRIANGLE",
     "0WHITE/2;0BLACK UP-POINTING SMALL/1;0WHITE/3;0BLACK RIGHT-POINTING/1;0WHITE/2",
     "0BLACK RIGHT-POINTING SMALL/1;0WHITE/3;0BLACK RIGHT-POINTING POINTER;0WHITE/2",
     "0BLACK DOWN-POINTING TRIANGLE;0WHITE/2;0BLACK DOWN-POINTING SMALL/1;0WHITE/3",
     "0BLACK LEFT-POINTING/1;0WHITE/2;0BLACK LEFT-POINTING SMALL/1;0WHITE/3",
     "0BLACK LEFT-POINTING POINTER;0WHITE/2;0BLACK DIAMOND;0WHITE/1",
     "2CONTAINING BLACK SMALL DIAMOND;0FISHEYE;0LOZENGE;0WHITE CIRCLE;0DOTTED/1",
     "0CIRCLE WITH VERTICAL FILL;0BULLSEYE;0BLACK CIRCLE;0CIRCLE WITH LEFT HALF BLACK;2RIGHT/2",
     "2LOWER/2;2UPPER/2;3RIGHT QUADRANT/1;2ALL BUT UPPER LEFT/2;0LEFT HALF BLACK CIRCLE;0RIGHT/3",
     "0INVERSE BULLET;1WHITE CIRCLE;0UPPER HALF/3;0LOWER/4;0UPPER LEFT QUADRANT CIRCULAR ARC",
     "1RIGHT/3;0LOWER/4;1LEFT/3;0UPPER HALF CIRCLE;0LOWER/2;0BLACK LOWER RIGHT TRIANGLE;2LEFT/1",
     "1UPPER/2;2RIGHT/1;0WHITE BULLET;0SQUARE WITH LEFT HALF BLACK;2RIGHT/2",
     "2UPPER LEFT DIAGONAL/2;2LOWER RIGHT/3;0WHITE SQUARE WITH VERTICAL BISECTING LINE",
     "1UP-POINTING TRIANGLE WITH DOT;0UP-POINTING TRIANGLE WITH LEFT HALF BLACK;3RIGHT/2",
     "0LARGE CIRCLE;0WHITE SQUARE WITH UPPER LEFT QUADRANT;3LOWER/2;4RIGHT/1;3UPPER/2",
     "1CIRCLE WITH UPPER LEFT/1;3LOWER/2;4RIGHT/1;3UPPER/2;0UPPER LEFT TRIANGLE;1RIGHT/1",
     "0LOWER LEFT/1;0WHITE MEDIUM SQUARE;0BLACK/2;0WHITE MEDIUM SMALL/1;0BLACK/3",
     "0LOWER RIGHT TRIANGLE;0BLACK SUN WITH RAYS;0CLOUD;0UMBRELLA;0SNOWMAN;0COMET;0BLACK STAR",
     "0WHITE/1;0LIGHTNING;0THUNDERSTORM;0SUN;0ASCENDING NODE;0DESCENDING/1;0CONJUNCTION",
     "0OPPOSITION;0BLACK TELEPHONE;0WHITE/1;0BALLOT BOX;2WITH CHECK;3X;0SALTIRE",
     "0UMBRELLA WITH RAIN DROPS;0HOT BEVERAGE;0WHITE SHOGI PIECE;0BLACK/2;0SHAMROCK",
     "0REVERSED ROTATED FLORAL HEART BULLET;0BLACK LEFT POINTING INDEX;1RIGHT/2;0WHITE LEFT/2",
     "1UP/2;1RIGHT/2;1DOWN/2;0SKULL AND CROSSBONES;0CAUTION SIGN;0RADIOACTIVE/1;0BIOHAZARD/1",
     "0CADUCEUS;0ANKH;0ORTHODOX CROSS;0CHI RHO;0CROSS OF LORRAINE;2JERUSALEM;0STAR AND CRESCENT",
     "0FARSI SYMBOL;0ADI SHAKTI;0HAMMER AND SICKLE;0PEACE SYMBOL;0YIN YANG;0TRIGRAM FOR HEAVEN",
     "2LAKE;2FIRE;2THUNDER;2WIND;2WATER;2MOUNTAIN;2EARTH;0WHEEL OF DHARMA;0WHITE FROWNING FACE",
     "1SMILING/1;0BLACK/2;0WHITE SUN WITH RAYS;0FIRST QUARTER MOON;0LAST/2;0MERCURY;0FEMALE SIGN",
     "0EARTH;0MALE SIGN;0JUPITER;0SATURN;0URANUS;0NEPTUNE;0PLUTO;0ARIES;0TAURUS;0GEMINI;0CANCER",
     "0LEO;0VIRGO;0LIBRA;0SCORPIUS;0SAGITTARIUS;0CAPRICORN;0AQUARIUS;0PISCES;0WHITE CHESS KING",
     "2QUEEN;2ROOK;2BISHOP;2KNIGHT;2PAWN;0BLACK CHESS KING;2QUEEN;2ROOK;2BISHOP;2KNIGHT;2PAWN"]⟩]

end Provisioning.Text
