import Provisioning.Text.CharacterName.Coding

/-!
# Names of characters from U+FBD3 on
-/

set_option autoImplicit false

namespace Provisioning.Text

/-- Names from U+FBD3 on. -/
def names0FBD3 : List NameBlock :=
  [⟨0xFBD3,
    ["0ARABIC LETTER NG ISOLATED FORM;3FINAL/1;3INITIAL/1;3MEDIAL/1;2U ISOLATED/1;3FINAL/1",
     "2OE ISOLATED/1;3FINAL/1;2YU ISOLATED/1;3FINAL/1;2U WITH HAMZA ABOVE ISOLATED/1;2VE/2",
     "3FINAL/1;2KIRGHIZ OE ISOLATED/1;4FINAL/1;3YU ISOLATED/1;4FINAL/1;2E ISOLATED/1;3FINAL/1",
     "3INITIAL/1;3MEDIAL/1;2UIGHUR KAZAKH KIRGHIZ ALEF MAKSURA INITIAL/1;7MEDIAL/1",
     "1LIGATURE YEH WITH HAMZA ABOVE WITH ALEF ISOLATED/1;8FINAL/1;7AE ISOLATED/1;8FINAL/1",
     "7WAW ISOLATED/1;8FINAL/1;7U ISOLATED/1;8FINAL/1;7OE ISOLATED/1;8FINAL/1;7YU ISOLATED/1",
     "8FINAL/1;7E ISOLATED/1;8FINAL/1;8INITIAL/1",
     "2UIGHUR KIRGHIZ YEH WITH HAMZA ABOVE WITH ALEF MAKSURA ISOLATED/1;9ALEF MAKSURA FINAL/1",
     "9ALEF MAKSURA INITIAL/1;1LETTER FARSI YEH ISOLATED/1;4FINAL/1;4INITIAL/1;4MEDIAL/1",
     "1LIGATURE YEH WITH HAMZA ABOVE WITH JEEM ISOLATED/1;7HAH/2;7MEEM/2;7ALEF MAKSURA/2;7YEH/2",
     "2BEH WITH JEEM/2;4HAH/2;4KHAH/2;4MEEM/2;4ALEF MAKSURA/2;4YEH/2;2TEH WITH JEEM/2;4HAH/2",
     "4KHAH/2;4MEEM/2;4ALEF MAKSURA/2;4YEH/2;2THEH WITH JEEM/2;4MEEM/2;4ALEF MAKSURA/2;4YEH/2",
     "2JEEM WITH HAH/2;4MEEM/2;2HAH WITH JEEM/2;4MEEM/2;2KHAH WITH JEEM/2;4HAH/2;4MEEM/2",
     "2SEEN WITH JEEM/2;4HAH/2;4KHAH/2;4MEEM/2;2SAD WITH HAH/2;4MEEM/2;2DAD WITH JEEM/2;4HAH/2",
     "4KHAH/2;4MEEM/2;2TAH WITH HAH/2;4MEEM/2;2ZAH/4;2AIN WITH JEEM/2;4MEEM/2;2GHAIN WITH JEEM/2",
     "4MEEM/2;2FEH WITH JEEM/2;4HAH/2;4KHAH/2;4MEEM/2;4ALEF MAKSURA/2;4YEH/2;2QAF WITH HAH/2",
     "4MEEM/2;4ALEF MAKSURA/2;4YEH/2;2KAF WITH ALEF/2;4JEEM/2;4HAH/2;4KHAH/2;4LAM/2;4MEEM/2",
     "4ALEF MAKSURA/2;4YEH/2;2LAM WITH JEEM/2;4HAH/2;4KHAH/2;4MEEM/2;4ALEF MAKSURA/2;4YEH/2",
     "2MEEM WITH JEEM/2;4HAH/2;4KHAH/2;4MEEM/2;4ALEF MAKSURA/2;4YEH/2;2NOON WITH JEEM/2;4HAH/2",
     "4KHAH/2;4MEEM/2;4ALEF MAKSURA/2;4YEH/2;2HEH WITH JEEM/2;4MEEM/2;4ALEF MAKSURA/2;4YEH/2",
     "2YEH WITH JEEM/2;4HAH/2;4KHAH/2;4MEEM/2;4ALEF MAKSURA/2;4YEH/2",
     "2THAL WITH SUPERSCRIPT ALEF/2;2REH/5;2ALEF MAKSURA/5;2SHADDA WITH DAMMATAN/2;4KASRATAN/2",
     "4FATHA/2;4DAMMA/2;4KASRA/2;4SUPERSCRIPT ALEF/2;2YEH WITH HAMZA ABOVE WITH REH FINAL/1",
     "7ZAIN/2;7MEEM/2;7NOON/2;7ALEF MAKSURA/2;7YEH/2;2BEH WITH REH/2;4ZAIN/2;4MEEM/2;4NOON/2",
     "4ALEF MAKSURA/2;4YEH/2;2TEH WITH REH/2;4ZAIN/2;4MEEM/2;4NOON/2;4ALEF MAKSURA/2;4YEH/2",
     "2THEH WITH REH/2;4ZAIN/2;4MEEM/2;4NOON/2;4ALEF MAKSURA/2;4YEH/2;2FEH WITH ALEF MAKSURA/2",
     "4YEH/2;2QAF WITH ALEF MAKSURA/2;4YEH/2;2KAF WITH ALEF/2;4LAM/2;4MEEM/2;4ALEF MAKSURA/2",
     "4YEH/2;2LAM WITH MEEM/2;4ALEF MAKSURA/2;4YEH/2;2MEEM WITH ALEF/2;4MEEM/2;2NOON WITH REH/2",
     "4ZAIN/2;4MEEM/2;4NOON/2;4ALEF MAKSURA/2;4YEH/2;2ALEF MAKSURA WITH SUPERSCRIPT ALEF/2",
     "2YEH WITH REH/2;4ZAIN/2;4MEEM/2;4NOON/2;4ALEF MAKSURA/2;4YEH/2",
     "4HAMZA ABOVE WITH JEEM INITIAL/1;7HAH/2;7KHAH/2;7MEEM/2;7HEH/2;2BEH WITH JEEM/2;4HAH/2",
     "4KHAH/2;4MEEM/2;4HEH/2;2TEH WITH JEEM/2;4HAH/2;4KHAH/2;4MEEM/2;4HEH/2;2THEH WITH MEEM/2",
     "2JEEM WITH HAH/2;4MEEM/2;2HAH WITH JEEM/2;4MEEM/2;2KHAH WITH JEEM/2;4MEEM/2",
     "2SEEN WITH JEEM/2;4HAH/2;4KHAH/2;4MEEM/2;2SAD WITH HAH/2;4KHAH/2;4MEEM/2;2DAD WITH JEEM/2",
     "4HAH/2;4KHAH/2;4MEEM/2;2TAH WITH HAH/2;2ZAH WITH MEEM/2;2AIN WITH JEEM/2;4MEEM/2",
     "2GHAIN WITH JEEM/2;4MEEM/2;2FEH WITH JEEM/2;4HAH/2;4KHAH/2;4MEEM/2;2QAF WITH HAH/2;4MEEM/2",
     "2KAF WITH JEEM/2;4HAH/2;4KHAH/2;4LAM/2;4MEEM/2;2LAM WITH JEEM/2;4HAH/2;4KHAH/2;4MEEM/2",
     "4HEH/2;2MEEM WITH JEEM/2;4HAH/2;4KHAH/2;4MEEM/2;2NOON WITH JEEM/2"]⟩,
   ⟨0xFCD3,
    ["0ARABIC LIGATURE NOON WITH HAH INITIAL FORM;4KHAH/2;4MEEM/2;4HEH/2;2HEH WITH JEEM/2",
     "4MEEM/2;4SUPERSCRIPT ALEF/2;2YEH WITH JEEM/2;4HAH/2;4KHAH/2;4MEEM/2;4HEH/2",
     "4HAMZA ABOVE WITH MEEM MEDIAL/1;7HEH/2;2BEH WITH MEEM/2;4HEH/2;2TEH WITH MEEM/2;4HEH/2",
     "2THEH WITH MEEM/2;4HEH/2;2SEEN WITH MEEM/2;4HEH/2;2SHEEN WITH MEEM/2;4HEH/2",
     "2KAF WITH LAM/2;4MEEM/2;2LAM/4;2NOON/4;4HEH/2;2YEH WITH MEEM/2;4HEH/2;2SHADDA WITH FATHA/2",
     "4DAMMA/2;4KASRA/2;2TAH WITH ALEF MAKSURA ISOLATED/1;4YEH/2;2AIN WITH ALEF MAKSURA/2;4YEH/2",
     "2GHAIN WITH ALEF MAKSURA/2;4YEH/2;2SEEN WITH ALEF MAKSURA/2;4YEH/2",
     "2SHEEN WITH ALEF MAKSURA/2;4YEH/2;2HAH WITH ALEF MAKSURA/2;4YEH/2",
     "2JEEM WITH ALEF MAKSURA/2;4YEH/2;2KHAH WITH ALEF MAKSURA/2;4YEH/2;2SAD WITH ALEF MAKSURA/2",
     "4YEH/2;2DAD WITH ALEF MAKSURA/2;4YEH/2;2SHEEN WITH JEEM/2;4HAH/2;4KHAH/2;4MEEM/2;4REH/2",
     "2SEEN/4;2SAD/4;2DAD/4;2TAH WITH ALEF MAKSURA FINAL/1;4YEH/2;2AIN WITH ALEF MAKSURA/2",
     "4YEH/2;2GHAIN WITH ALEF MAKSURA/2;4YEH/2;2SEEN WITH ALEF MAKSURA/2;4YEH/2",
     "2SHEEN WITH ALEF MAKSURA/2;4YEH/2;2HAH WITH ALEF MAKSURA/2;4YEH/2",
     "2JEEM WITH ALEF MAKSURA/2;4YEH/2;2KHAH WITH ALEF MAKSURA/2;4YEH/2;2SAD WITH ALEF MAKSURA/2",
     "4YEH/2;2DAD WITH ALEF MAKSURA/2;4YEH/2;2SHEEN WITH JEEM/2;4HAH/2;4KHAH/2;4MEEM/2;4REH/2",
     "2SEEN/4;2SAD/4;2DAD/4;2SHEEN WITH JEEM INITIAL/1;4HAH/2;4KHAH/2;4MEEM/2;2SEEN WITH HEH/2",
     "2SHEEN/4;2TAH WITH MEEM/2;2SEEN WITH JEEM MEDIAL/1;4HAH/2;4KHAH/2;2SHEEN WITH JEEM/2",
     "4HAH/2;4KHAH/2;2TAH WITH MEEM/2;2ZAH/4;2ALEF WITH FATHATAN FINAL/1;5ISOLATED/1",
     "0ORNATE LEFT PARENTHESIS;1RIGHT/1;0ARABIC LIGATURE RAHIMAHU ALLAAH;2RADI ALLAAHU ANH",
     "4ANHAA;4ANHUM;4ANHUMAA;4ANHUNNA;2SALLALLAAHU ALAYHI WA-AALIH;2ALAYHI AS-SALAAM;2ALAYHIM/1",
     "2ALAYHIMAA/1;2ALAYHI AS-SALAATU WAS-SALAAM;2QUDDISA SIRRAH",
     "2SALLALLAHU ALAYHI WAAALIHEE WA-SALLAM;2ALAYHAA AS-SALAAM;2TABAARAKA WA-TAAALAA",
     "2RAHIMAHUM ALLAAH;2TEH WITH JEEM WITH MEEM INITIAL FORM;4HAH WITH JEEM FINAL/1;7INITIAL/1",
     "6MEEM/2;4KHAH/4;4MEEM WITH JEEM/2;6HAH/2;6KHAH/2;2JEEM WITH MEEM WITH HAH FINAL/1",
     "7INITIAL/1;2HAH WITH MEEM WITH YEH FINAL/1;6ALEF MAKSURA/2",
     "2SEEN WITH HAH WITH JEEM INITIAL/1;4JEEM WITH HAH/2;6ALEF MAKSURA FINAL/1;4MEEM WITH HAH/2",
     "7INITIAL/1;6JEEM/2;6MEEM FINAL/1;7INITIAL/1;2SAD WITH HAH WITH HAH FINAL/1;7INITIAL/1",
     "4MEEM WITH MEEM FINAL/1;2SHEEN WITH HAH/4;7INITIAL/1;4JEEM WITH YEH FINAL/1",
     "4MEEM WITH KHAH/2;7INITIAL/1;6MEEM FINAL/1;7INITIAL/1",
     "2DAD WITH HAH WITH ALEF MAKSURA FINAL/1;4KHAH WITH MEEM/2;7INITIAL/1",
     "2TAH WITH MEEM WITH HAH FINAL/1;7INITIAL/1;6MEEM/2;6YEH FINAL/1;2AIN WITH JEEM WITH MEEM/2",
     "4MEEM/4;7INITIAL/1;6ALEF MAKSURA FINAL/1;2GHAIN WITH MEEM WITH MEEM/2;6YEH/2",
     "6ALEF MAKSURA/2;2FEH WITH KHAH WITH MEEM/2;7INITIAL/1;2QAF WITH MEEM WITH HAH FINAL/1",
     "6MEEM/2;2LAM WITH HAH/4;6YEH/2;6ALEF MAKSURA/2;4JEEM WITH JEEM INITIAL/1;7FINAL/1",
     "4KHAH WITH MEEM/2;7INITIAL/1;4MEEM WITH HAH FINAL/1;7INITIAL/1;2MEEM WITH HAH WITH JEEM/2",
     "6MEEM/2;6YEH FINAL/1;4JEEM WITH HAH INITIAL/1;6MEEM/2;4KHAH WITH JEEM/2;6MEEM/2;;",
     "4JEEM WITH KHAH/2;2HEH WITH MEEM WITH JEEM/2;6MEEM/2;2NOON WITH HAH/4",
     "6ALEF MAKSURA FINAL/1;4JEEM WITH MEEM/2;7INITIAL/1;6ALEF MAKSURA FINAL/1;4MEEM WITH YEH/2",
     "6ALEF MAKSURA/2;2YEH WITH MEEM WITH MEEM/2;7INITIAL/1;2BEH WITH KHAH WITH YEH FINAL/1",
     "2TEH WITH JEEM/4;6ALEF MAKSURA/2;4KHAH WITH YEH/2;6ALEF MAKSURA/2;4MEEM WITH YEH/2",
     "6ALEF MAKSURA/2;2JEEM WITH MEEM WITH YEH/2;4HAH WITH ALEF MAKSURA/2;4MEEM/5",
     "2SEEN WITH KHAH/5;2SAD WITH HAH WITH YEH/2;2SHEEN/6;2DAD/6;2LAM WITH JEEM/4;4MEEM/4",
     "2YEH WITH HAH/4;4JEEM/4;4MEEM/4;2MEEM/6;2QAF/6;2NOON WITH HAH/4",
     "2QAF WITH MEEM WITH HAH INITIAL/1;2LAM WITH HAH WITH MEEM/2",
     "2AIN WITH MEEM WITH YEH FINAL/1;2KAF/6;2NOON WITH JEEM WITH HAH INITIAL/1",
     "2MEEM WITH KHAH WITH YEH FINAL/1;2LAM WITH JEEM WITH MEEM INITIAL/1",
     "2KAF WITH MEEM WITH MEEM FINAL/1;2LAM WITH JEEM/4;2NOON WITH JEEM WITH HAH/2",
     "2JEEM WITH HAH WITH YEH/2;2HAH WITH JEEM/4;2MEEM/6;2FEH WITH MEEM/4;2BEH WITH HAH/4",
     "2KAF WITH MEEM WITH MEEM INITIAL/1;2AIN WITH JEEM/4;2SAD WITH MEEM/4",
     "2SEEN WITH KHAH WITH YEH FINAL/1;2NOON WITH JEEM/4"]⟩,
   ⟨0xFDCF,
    ["0ARABIC LIGATURE SALAAMUHU ALAYNAA"]⟩,
   ⟨0xFDF0,
    ["0ARABIC LIGATURE SALLA USED AS KORANIC STOP SIGN ISOLATED FORM;2QALA/7;2ALLAH/2;2AKBAR/2",
     "2MOHAMMAD/2;2SALAM/2;2RASOUL/2;2ALAYHE/2;2WASALLAM/2;2SALLA/2;2SALLALLAHOU ALAYHE WASALLAM",
     "2JALLAJALALOUHOU;0RIAL SIGN;0ARABIC LIGATURE BISMILLAH AR-RAHMAN AR-RAHEEM",
     "2SUBHAANAHU WA TAAALAA;2AZZA WA JALL"]⟩,
   ⟨0xFE10,
    ["0PRESENTATION FORM FOR VERTICAL COMMA;4IDEOGRAPHIC/1;5FULL STOP;4COLON;4SEMICOLON",
     "4EXCLAMATION MARK;4QUESTION/1;4LEFT WHITE LENTICULAR BRACKET",
     "4RIGHT WHITE LENTICULAR BRAKCET;4HORIZONTAL ELLIPSIS"]⟩,
   ⟨0xFE20,
    ["0COMBINING LIGATURE LEFT HALF;2RIGHT/1;1DOUBLE TILDE LEFT/1;3RIGHT/1;1MACRON LEFT/1",
     "2RIGHT/1;1CONJOINING MACRON;1LIGATURE LEFT HALF BELOW;2RIGHT/2;1TILDE LEFT/2;2RIGHT/2",
     "1MACRON LEFT/2;2RIGHT/2;1CONJOINING MACRON/1;1CYRILLIC TITLO LEFT HALF;3RIGHT/1",
     "0PRESENTATION FORM FOR VERTICAL TWO DOT LEADER;4EM DASH;4EN/1;4LOW LINE;4WAVY/2",
     "4LEFT PARENTHESIS;4RIGHT/1;4LEFT CURLY BRACKET;4RIGHT/2;4LEFT TORTOISE SHELL/1;4RIGHT/3",
     "4LEFT BLACK LENTICULAR/1;4RIGHT/3;4LEFT DOUBLE ANGLE/1;4RIGHT/3;4LEFT/2;4RIGHT/2",
     "4LEFT CORNER/1;4RIGHT/2;4LEFT WHITE/2;4RIGHT/3;0SESAME DOT;0WHITE/2",
     "0PRESENTATION FORM FOR VERTICAL LEFT SQUARE BRACKET;4RIGHT/2;0DASHED OVERLINE",
     "0CENTRELINE/1;0WAVY/1;0DOUBLE/2;0DASHED LOW LINE;0CENTRELINE/2;0WAVY/2;0SMALL COMMA",
     "1IDEOGRAPHIC/1;1FULL STOP;;1SEMICOLON;1COLON;1QUESTION MARK;1EXCLAMATION/1;1EM DASH",
     "1LEFT PARENTHESIS;1RIGHT/1;1LEFT CURLY BRACKET;1RIGHT/2;1LEFT TORTOISE SHELL/1;1RIGHT/3",
     "1NUMBER SIGN;1AMPERSAND;1ASTERISK;1PLUS SIGN;1HYPHEN-MINUS;1LESS-THAN SIGN;1GREATER-THAN/1",
     "1EQUALS/1;;1REVERSE SOLIDUS;1DOLLAR SIGN;1PERCENT/1;1COMMERCIAL AT"]⟩,
   ⟨0xFE70,
    ["0ARABIC FATHATAN ISOLATED FORM;1TATWEEL WITH FATHATAN ABOVE;1DAMMATAN ISOLATED FORM",
     "1TAIL FRAGMENT;1KASRATAN ISOLATED FORM;;1FATHA/2;2MEDIAL/1;1DAMMA ISOLATED/1;2MEDIAL/1",
     "1KASRA ISOLATED/1;2MEDIAL/1;1SHADDA ISOLATED/1;2MEDIAL/1;1SUKUN ISOLATED/1;2MEDIAL/1",
     "1LETTER HAMZA ISOLATED/1;2ALEF WITH MADDA ABOVE/2;6FINAL/1;4HAMZA ABOVE ISOLATED/1",
     "6FINAL/1;2WAW WITH HAMZA ABOVE ISOLATED/1;6FINAL/1;2ALEF WITH HAMZA BELOW ISOLATED/1",
     "6FINAL/1;2YEH WITH HAMZA ABOVE ISOLATED/1;6FINAL/1;6INITIAL/1;6MEDIAL/1;2ALEF ISOLATED/1",
     "3FINAL/1;2BEH ISOLATED/1;3FINAL/1;3INITIAL/1;3MEDIAL/1;2TEH MARBUTA ISOLATED/1;4FINAL/1",
     "3ISOLATED/1;3FINAL/1;3INITIAL/1;3MEDIAL/1;2THEH ISOLATED/1;3FINAL/1;3INITIAL/1;3MEDIAL/1",
     "2JEEM ISOLATED/1;3FINAL/1;3INITIAL/1;3MEDIAL/1;2HAH ISOLATED/1;3FINAL/1;3INITIAL/1",
     "3MEDIAL/1;2KHAH ISOLATED/1;3FINAL/1;3INITIAL/1;3MEDIAL/1;2DAL ISOLATED/1;3FINAL/1",
     "2THAL ISOLATED/1;3FINAL/1;2REH ISOLATED/1;3FINAL/1;2ZAIN ISOLATED/1;3FINAL/1",
     "2SEEN ISOLATED/1;3FINAL/1;3INITIAL/1;3MEDIAL/1;2SHEEN ISOLATED/1;3FINAL/1;3INITIAL/1",
     "3MEDIAL/1;2SAD ISOLATED/1;3FINAL/1;3INITIAL/1;3MEDIAL/1;2DAD ISOLATED/1;3FINAL/1",
     "3INITIAL/1;3MEDIAL/1;2TAH ISOLATED/1;3FINAL/1;3INITIAL/1;3MEDIAL/1;2ZAH ISOLATED/1",
     "3FINAL/1;3INITIAL/1;3MEDIAL/1;2AIN ISOLATED/1;3FINAL/1;3INITIAL/1;3MEDIAL/1",
     "2GHAIN ISOLATED/1;3FINAL/1;3INITIAL/1;3MEDIAL/1;2FEH ISOLATED/1;3FINAL/1;3INITIAL/1",
     "3MEDIAL/1;2QAF ISOLATED/1;3FINAL/1;3INITIAL/1;3MEDIAL/1;2KAF ISOLATED/1;3FINAL/1",
     "3INITIAL/1;3MEDIAL/1;2LAM ISOLATED/1;3FINAL/1;3INITIAL/1;3MEDIAL/1;2MEEM ISOLATED/1",
     "3FINAL/1;3INITIAL/1;3MEDIAL/1;2NOON ISOLATED/1;3FINAL/1;3INITIAL/1;3MEDIAL/1",
     "2HEH ISOLATED/1;3FINAL/1;3INITIAL/1;3MEDIAL/1;2WAW ISOLATED/1;3FINAL/1",
     "2ALEF MAKSURA ISOLATED/1;4FINAL/1;2YEH ISOLATED/1;3FINAL/1;3INITIAL/1;3MEDIAL/1",
     "1LIGATURE LAM WITH ALEF WITH MADDA ABOVE ISOLATED/1;8FINAL/1;6HAMZA ABOVE ISOLATED/1",
     "8FINAL/1;7BELOW ISOLATED/1;8FINAL/1;5ISOLATED/1;5FINAL/1;;;0ZERO WIDTH NO-BREAK SPACE;",
     "0FULLWIDTH EXCLAMATION MARK;1QUOTATION/1;1NUMBER SIGN;1DOLLAR/1;1PERCENT/1;1AMPERSAND",
     "1APOSTROPHE;1LEFT PARENTHESIS;1RIGHT/1;1ASTERISK;1PLUS SIGN;1COMMA;1HYPHEN-MINUS",
     "1FULL STOP;1SOLIDUS;1DIGIT ZERO;2ONE;2TWO;2THREE;2FOUR;2FIVE;2SIX;2SEVEN;2EIGHT;2NINE",
     "1COLON;1SEMICOLON;1LESS-THAN SIGN;1EQUALS/1;1GREATER-THAN/1;1QUESTION MARK;1COMMERCIAL AT",
     "1LATIN CAPITAL LETTER A;4B;4C;4D;4E;4F;4G;4H;4I;4J;4K;4L;4M;4N;4O;4P;4Q;4R;4S;4T;4U;4V;4W",
     "4X;4Y;4Z;1LEFT SQUARE BRACKET;1REVERSE SOLIDUS;1RIGHT SQUARE BRACKET;1CIRCUMFLEX ACCENT",
     "1LOW LINE;1GRAVE ACCENT;1LATIN SMALL LETTER A;4B;4C;4D;4E;4F;4G;4H;4I;4J;4K;4L;4M;4N;4O;4P",
     "4Q;4R;4S;4T;4U;4V;4W;4X;4Y;4Z;1LEFT CURLY BRACKET;1VERTICAL LINE;1RIGHT CURLY BRACKET",
     "1TILDE;1LEFT WHITE PARENTHESIS;1RIGHT/2;0HALFWIDTH IDEOGRAPHIC FULL STOP",
     "1LEFT CORNER BRACKET;1RIGHT/2;1IDEOGRAPHIC COMMA;1KATAKANA MIDDLE DOT;2LETTER WO;3SMALL A",
     "4I;4U;4E;4O;4YA;4YU;4YO;4TU"]⟩,
   ⟨0xFF70,
    ["0HALFWIDTH KATAKANA-HIRAGANA PROLONGED SOUND MARK;1KATAKANA LETTER A;3I;3U;3E;3O;3KA;3KI",
     "3KU;3KE;3KO;3SA;3SI;3SU;3SE;3SO;3TA;3TI;3TU;3TE;3TO;3NA;3NI;3NU;3NE;3NO;3HA;3HI;3HU;3HE",
     "3HO;3MA;3MI;3MU;3ME;3MO;3YA;3YU;3YO;3RA;3RI;3RU;3RE;3RO;3WA;3N;2VOICED SOUND MARK",
     "2SEMI-VOICED/2;1HANGUL FILLER;2LETTER KIYEOK;3SSANGKIYEOK;3KIYEOK-SIOS;3NIEUN;3NIEUN-CIEUC",
     "3NIEUN-HIEUH;3TIKEUT;3SSANGTIKEUT;3RIEUL;3RIEUL-KIYEOK;3RIEUL-MIEUM;3RIEUL-PIEUP",
     "3RIEUL-SIOS;3RIEUL-THIEUTH;3RIEUL-PHIEUPH;3RIEUL-HIEUH;3MIEUM;3PIEUP;3SSANGPIEUP",
     "3PIEUP-SIOS;3SIOS;3SSANGSIOS;3IEUNG;3CIEUC;3SSANGCIEUC;3CHIEUCH;3KHIEUKH;3THIEUTH;3PHIEUPH",
     "3HIEUH;;;;3A;3AE;3YA;3YAE;3EO;3E;;;3YEO;3YE;3O;3WA;3WAE;3OE;;;3YO;3U;3WEO;3WE;3WI;3YU;;",
     "3EU;3YI;3I;;;;0FULLWIDTH CENT SIGN;1POUND/1;1NOT/1;1MACRON;1BROKEN BAR;1YEN SIGN;1WON/1;",
     "0HALFWIDTH FORMS LIGHT VERTICAL;1LEFTWARDS ARROW;1UPWARDS/1;1RIGHTWARDS/1;1DOWNWARDS/1",
     "1BLACK SQUARE;1WHITE CIRCLE"]⟩,
   ⟨0xFFF9,
    ["0INTERLINEAR ANNOTATION ANCHOR;2SEPARATOR;2TERMINATOR;0OBJECT REPLACEMENT CHARACTER;0/2;;",
     "0LINEAR B SYLLABLE B008 A;3B038 E;3B028 I;3B061 O;3B010 U;3B001 DA;3B045 DE;3B007 DI",
     "3B014 DO;3B051 DU;3B057 JA;3B046 JE;;3B036 JO;3B065 JU;3B077 KA;3B044 KE;3B067 KI;3B070 KO",
     "3B081 KU;3B080 MA;3B013 ME;3B073 MI;3B015 MO;3B023 MU;3B006 NA;3B024 NE;3B030 NI;3B052 NO",
     "3B055 NU;3B003 PA;3B072 PE;3B039 PI;3B011 PO;3B050 PU;3B016 QA;3B078 QE;3B021 QI;3B032 QO;",
     "3B060 RA;3B027 RE;3B053 RI;3B002 RO;3B026 RU;3B031 SA;3B009 SE;3B041 SI;3B012 SO;3B058 SU",
     "3B059 TA;3B004 TE;3B037 TI;3B005 TO;3B069 TU;3B054 WA;3B075 WE;3B040 WI;3B042 WO;;3B017 ZA",
     "3B074 ZE;;3B020 ZO;3B025 A2;3B043 A3;3B085 AU;3B071 DWE;3B090 DWO;3B048 NWA;3B029 PU2",
     "3B062 PTE;3B076 RA2;3B033 RA3;3B068 RO2;3B066 TA2;3B087 TWE;3B091 TWO;;;2SYMBOL B018;3B019",
     "3B022;3B034;3B047;3B049;3B056;3B063;3B064;3B079;3B082;3B083;3B086;3B089"]⟩,
   ⟨0x10080,
    ["0LINEAR B IDEOGRAM B100 MAN;3B102 WOMAN;3B104 DEER;3B105 EQUID;3B105F MARE;3B105M STALLION",
     "3B106F EWE;3B106M RAM;3B107F SHE-GOAT;3B107M HE-GOAT;3B108F SOW;3B108M BOAR;3B109F COW",
     "3B109M BULL;3B120 WHEAT;3B121 BARLEY;3B122 OLIVE;3B123 SPICE;3B125 CYPERUS",
     "2MONOGRAM B127 KAPO;3B128 KANAKO;2IDEOGRAM B130 OIL;3B131 WINE;3B132;2MONOGRAM B133 AREPA",
     "3B135 MERI;2IDEOGRAM B140 BRONZE;3B141 GOLD;3B142;3B145 WOOL;3B146;3B150;3B151 HORN;3B152",
     "3B153;3B154;2MONOGRAM B156 TURO2;2IDEOGRAM B157;3B158;3B159 CLOTH;3B160;3B161",
     "3B162 GARMENT;3B163 ARMOUR;3B164;3B165;3B166;3B167;3B168;3B169;3B170;3B171;3B172",
     "3B173 MONTH;3B174;3B176 TREE;3B177;3B178;3B179;3B180;3B181;3B182;3B183;3B184;3B185;3B189",
     "3B190;3B191 HELMET;3B220 FOOTSTOOL;3B225 BATHTUB;3B230 SPEAR;3B231 ARROW;3B232;3B233 SWORD",
     "3B234;3B236;3B240 WHEELED CHARIOT;3B241/1;3B242 CHARIOT FRAME;3B243 WHEEL;3B245;3B246",
     "2MONOGRAM B247 DIPTE;2IDEOGRAM B248;3B249;3B251;3B252;3B253;3B254 DART;3B255;3B256;3B257",
     "3B258;3B259;3VESSEL B155;4B200;4B201;4B202;4B203;4B204;4B205;4B206;4B207;4B208;4B209;4B210",
     "4B211;4B212;4B213;4B214;4B215;4B216;4B217;4B218;4B219;4B221;4B222;4B226;4B227;4B228;4B229",
     "4B250;4B305"]⟩,
   ⟨0x10100,
    ["0AEGEAN WORD SEPARATOR LINE;3DOT;1CHECK MARK"]⟩,
   ⟨0x10107,
    ["0AEGEAN NUMBER ONE;2TWO;2THREE;2FOUR;2FIVE;2SIX;2SEVEN;2EIGHT;2NINE;2TEN;2TWENTY;2THIRTY",
     "2FORTY;2FIFTY;2SIXTY;2SEVENTY;2EIGHTY;2NINETY;2ONE HUNDRED;2TWO/1;2THREE/1;2FOUR/1;2FIVE/1",
     "2SIX/1;2SEVEN/1;2EIGHT/1;2NINE/1;2ONE THOUSAND;2TWO/1;2THREE/1;2FOUR/1;2FIVE/1;2SIX/1",
     "2SEVEN/1;2EIGHT/1;2NINE/1;2TEN/1;2TWENTY/1;2THIRTY/1;2FORTY/1;2FIFTY/1;2SIXTY/1;2SEVENTY/1",
     "2EIGHTY/1;2NINETY/1;;;;1WEIGHT BASE UNIT;2FIRST SUBUNIT;2SECOND/1;2THIRD/1;2FOURTH/1",
     "1DRY MEASURE FIRST/1;1LIQUID/3;1MEASURE SECOND/1;2THIRD/1",
     "0GREEK ACROPHONIC ATTIC ONE QUARTER;4HALF;4DRACHMA;3FIVE;3FIFTY;3FIVE HUNDRED;4THOUSAND",
     "3FIFTY/1;3FIVE TALENTS;3TEN/1;3FIFTY/1;3ONE HUNDRED/1;3FIVE/2;3ONE THOUSAND/1;3FIVE/2",
     "4STATERS;3TEN/1;3FIFTY/1;3ONE HUNDRED/1;3FIVE/2;3ONE THOUSAND/1;3TEN/2;3FIFTY/2;3TEN MNAS",
     "2HERAEUM ONE PLETHRON;2THESPIAN ONE;2HERMIONIAN/1;2EPIDAUREAN TWO;2THESPIAN/1",
     "2CYRENAIC TWO DRACHMAS;2EPIDAUREAN/2;2TROEZENIAN FIVE;3TEN;4ALTERNATE FORM;2HERMIONIAN TEN",
     "2MESSENIAN/1;2THESPIAN/1;3THIRTY;2TROEZENIAN FIFTY;4ALTERNATE FORM;2HERMIONIAN FIFTY",
     "2THESPIAN/1;3ONE HUNDRED;3THREE/1;2EPIDAUREAN FIVE/1;2TROEZENIAN/2;2THESPIAN/2",
     "2CARYSTIAN/2;2NAXIAN/2;2THESPIAN ONE THOUSAND;3FIVE/1;2DELPHIC FIVE MNAS;2STRATIAN FIFTY/1",
     "1ONE HALF SIGN;4ALTERNATE FORM;1TWO THIRDS SIGN;1THREE QUARTERS/1;1YEAR/1;1TALENT/1",
     "1DRACHMA/1;1OBOL/1;1TWO OBOLS/1;1THREE/2;1FOUR/2;1FIVE/2;1METRETES/1;1KYATHOS BASE/1",
     "1LITRA/1;1OUNKIA/1;1XESTES/1;1ARTABE/1;1AROURA/1;1GRAMMA/1;1TRYBLION BASE/1;1ZERO/1",
     "1ONE QUARTER/1;1SINUSOID/1;1INDICTION/1;0NOMISMA/1;;0ROMAN SEXTANS/1;1UNCIA/1;1SEMUNCIA/1",
     "1SEXTULA/1;1DIMIDIA/2;1SILIQUA/1;1DENARIUS/1;1QUINARIUS/1;1SESTERTIUS/1;1DUPONDIUS/1;1AS/1",
     "1CENTURIAL/1;0ASCIA SYMBOL;;;;0GREEK SYMBOL TAU RHO"]⟩,
   ⟨0x101D0,
    ["0PHAISTOS DISC SIGN PEDESTRIAN;3PLUMED HEAD;3TATTOOED/1;3CAPTIVE;3CHILD;3WOMAN;3HELMET",
     "3GAUNTLET;3TIARA;3ARROW;3BOW;3SHIELD;3CLUB;3MANACLES;3MATTOCK;3SAW;3LID;3BOOMERANG",
     "3CARPENTRY PLANE;3DOLIUM;3COMB;3SLING;3COLUMN;3BEEHIVE;3SHIP;3HORN;3HIDE;3BULLS LEG;3CAT",
     "3RAM;3EAGLE;3DOVE;3TUNNY;3BEE;3PLANE TREE;3VINE;3PAPYRUS;3ROSETTE;3LILY;3OX BACK;3FLUTE",
     "3GRATER;3STRAINER;3SMALL AXE;3WAVY BAND;3COMBINING OBLIQUE STROKE"]⟩,
   ⟨0x10280,
    ["0LYCIAN LETTER A;2E;2B;2BH;2G;2D;2I;2W;2Z;2TH;2J;2K;2Q;2L;2M;2N;2MM;2NN;2U;2P;2KK;2R;2S;2T",
     "2TT;2AN;2EN;2H;2X;;;;0CARIAN LETTER A;2P2;2D;2L;2UUU;2R;2LD;2A2;2Q;2B;2M;2O;2D2;2T;2SH",
     "2SH2;2S;2C-18;2U;2NN;2X;2N;2TT2;2P;2SS;2I;2E;2UUUU;2K;2K2;2ND;2UU;2G;2G2;2ST;2ST2;2NG;2II",
     "2C-39;2TT;2UUU2;2RR;2MB;2MB2;2MB3;2MB4;2LD2;2E2;2UUU3"]⟩,
   ⟨0x102E0,
    ["0COPTIC EPACT THOUSANDS MARK;2DIGIT ONE;3TWO;3THREE;3FOUR;3FIVE;3SIX;3SEVEN;3EIGHT;3NINE",
     "2NUMBER TEN;3TWENTY;3THIRTY;3FORTY;3FIFTY;3SIXTY;3SEVENTY;3EIGHTY;3NINETY;3ONE HUNDRED",
     "3TWO/1;3THREE/1;3FOUR/1;3FIVE/1;3SIX/1;3SEVEN/1;3EIGHT/1;3NINE/1"]⟩,
   ⟨0x10300,
    ["0OLD ITALIC LETTER A;3BE;3KE;3DE;3E;3VE;3ZE;3HE;3THE;3I;3KA;3EL;3EM;3EN;3ESH;3O;3PE;3SHE",
     "3KU;3ER;3ES;3TE;3U;3EKS;3PHE;3KHE;3EF;3ERS;3CHE;3II;3UU;3ESS;2NUMERAL ONE;3FIVE;3TEN",
     "3FIFTY"]⟩,
   ⟨0x1032D,
    ["0OLD ITALIC LETTER YE;3NORTHERN TSE;3SOUTHERN/1;0GOTHIC LETTER AHSA;2BAIRKAN;2GIBA;2DAGS",
     "2AIHVUS;2QAIRTHRA;2IUJA;2HAGL;2THIUTH;2EIS;2KUSMA;2LAGUS;2MANNA;2NAUTHS;2JER;2URUS",
     "2PAIRTHRA;2NINETY;2RAIDA;2SAUIL;2TEIWS;2WINJA;2FAIHU;2IGGWS;2HWAIR;2OTHAL;2NINE HUNDRED"]⟩,
   ⟨0x10350,
    ["0OLD PERMIC LETTER AN;3BUR;3GAI;3DOI;3E;3ZHOI;3DZHOI;3ZATA;3DZITA;3I;3KOKE;3LEI;3MENOE",
     "3NENOE;3VOOI;3PEEI;3REI;3SII;3TAI;3U;3CHERY;3SHOOI;3SHCHOOI;3YRY;3YERU;3O;3OO;3EF;3HA",
     "3TSIU;3VER;3YER;3YERI;3YAT;3IE;3YU;3YA;3IA;0COMBINING OLD PERMIC LETTER AN;4DOI;4ZATA",
     "4NENOE;4SII"]⟩,
   ⟨0x10380,
    ["0UGARITIC LETTER ALPA;2BETA;2GAMLA;2KHA;2DELTA;2HO;2WO;2ZETA;2HOTA;2TET;2YOD;2KAF;2SHIN",
     "2LAMDA;2MEM;2DHAL;2NUN;2ZU;2SAMKA;2AIN;2PU;2SADE;2QOPA;2RASHA;2THANNA;2GHAIN;2TO;2I;2U",
     "2SSU;;1WORD DIVIDER;0OLD PERSIAN SIGN A;3I;3U;3KA;3KU;3GA;3GU;3XA;3CA;3JA;3JI;3TA;3TU;3DA",
     "3DI;3DU;3THA;3PA;3BA;3FA;3NA;3NU;3MA;3MI;3MU;3YA;3VA;3VI;3RA;3RU;3LA;3SA;3ZA;3SHA;3SSA;3HA"]⟩,
   ⟨0x103C8,
    ["0OLD PERSIAN SIGN AURAMAZDAA;3AURAMAZDAA-2;3AURAMAZDAAHA;3XSHAAYATHIYA;3DAHYAAUSH",
     "3DAHYAAUSH-2;3BAGA;3BUUMISH;2WORD DIVIDER;2NUMBER ONE;3TWO;3TEN;3TWENTY;3HUNDRED"]⟩,
   ⟨0x10400,
    ["0DESERET CAPITAL LETTER LONG I;4E;4A;4AH;4O;4OO;3SHORT I;4E;4A;4AH;4O;4OO;3AY;3OW;3WU;3YEE",
     "3H;3PEE;3BEE;3TEE;3DEE;3CHEE;3JEE;3KAY;3GAY;3EF;3VEE;3ETH;3THEE;3ES;3ZEE;3ESH;3ZHEE;3ER",
     "3EL;3EM;3EN;3ENG;3OI;3EW;1SMALL LETTER LONG I;4E;4A;4AH;4O;4OO;3SHORT I;4E;4A;4AH;4O;4OO",
     "3AY;3OW;3WU;3YEE;3H;3PEE;3BEE;3TEE;3DEE;3CHEE;3JEE;3KAY;3GAY;3EF;3VEE;3ETH;3THEE;3ES;3ZEE",
     "3ESH;3ZHEE;3ER;3EL;3EM;3EN;3ENG;3OI;3EW;0SHAVIAN LETTER PEEP;2TOT;2KICK;2FEE;2THIGH;2SO",
     "2SURE;2CHURCH;2YEA;2HUNG;2BIB;2DEAD;2GAG;2VOW;2THEY;2ZOO;2MEASURE;2JUDGE;2WOE;2HA-HA;2LOLL",
     "2MIME;2IF;2EGG;2ASH;2ADO;2ON;2WOOL;2OUT;2AH;2ROAR;2NUN;2EAT;2AGE;2ICE;2UP;2OAK;2OOZE;2OIL",
     "2AWE;2ARE;2OR;2AIR;2ERR;2ARRAY;2EAR;2IAN;2YEW;0OSMANYA LETTER ALEF;2BA;2TA;2JA;2XA;2KHA",
     "2DEEL;2RA;2SA;2SHIIN;2DHA;2CAYN;2GA;2FA;2QAAF;2KAAF;2LAAN;2MIIN;2NUUN;2WAW;2HA;2YA;2A;2E",
     "2I;2O;2U;2AA;2EE;2OO;;;1DIGIT ZERO;2ONE;2TWO;2THREE;2FOUR;2FIVE;2SIX;2SEVEN;2EIGHT;2NINE"]⟩,
   ⟨0x104B0,
    ["0OSAGE CAPITAL LETTER A;3AI;3AIN;3AH;3BRA;3CHA;3EHCHA;3E;3EIN;3HA;3HYA;3I;3KA;3EHKA;3KYA",
     "3LA;3MA;3NA;3O;3OIN;3PA;3EHPA;3SA;3SHA;3TA;3EHTA;3TSA;3EHTSA;3TSHA;3DHA;3U;3WA;3KHA;3GHA",
     "3ZA;3ZHA"]⟩,
   ⟨0x104D8,
    ["0OSAGE SMALL LETTER A;3AI;3AIN;3AH;3BRA;3CHA;3EHCHA;3E;3EIN;3HA;3HYA;3I;3KA;3EHKA;3KYA;3LA",
     "3MA;3NA;3O;3OIN;3PA;3EHPA;3SA;3SHA;3TA;3EHTA;3TSA;3EHTSA;3TSHA;3DHA;3U;3WA;3KHA;3GHA;3ZA",
     "3ZHA"]⟩,
   ⟨0x10500,
    ["0ELBASAN LETTER A;2BE;2CE;2CHE;2DE;2NDE;2DHE;2EI;2E;2FE;2GE;2GJE;2HE;2I;2JE;2KE;2LE;2LLE",
     "2ME;2NE;2NA;2NJE;2O;2PE;2QE;2RE;2RRE;2SE;2SHE;2TE;2THE;2U;2VE;2XE;2Y;2ZE;2ZHE;2GHE;2GHAMMA",
     "2KHE"]⟩,
   ⟨0x10530,
    ["0CAUCASIAN ALBANIAN LETTER ALT;3BET;3GIM;3DAT;3EB;3ZARL;3EYN;3ZHIL;3TAS;3CHA;3YOWD;3ZHA",
     "3IRB;3SHA;3LAN;3INYA;3XEYN;3DYAN;3CAR;3JHOX;3KAR;3LYIT;3HEYT;3QAY;3AOR;3CHOY;3CHI;3CYAY",
     "3MAQ;3QAR;3NOWC;3DZYAY;3SHAK;3JAYN;3ON;3TYAY;3FAM;3DZAY;3CHAT;3PEN;3GHEYS;3RAT;3SEYK;3VEYZ",
     "3TIWR;3SHOY;3IWN;3CYAW;3CAYN;3YAYD;3PIWR;3KIW"]⟩,
   ⟨0x1056F,
    ["0CAUCASIAN ALBANIAN CITATION MARK;0VITHKUQI CAPITAL LETTER A;3BBE;3BE;3CE;3CHE;3DE;3DHE",
     "3EI;3E;3FE;3GA;;3HA;3HHA;3I;3IJE;3JE;3KA;3LA;3LLA;3ME;3NE;3NJE;3O;3PE;3QA;3RE;;3SE;3SHE",
     "3TE;3THE;3U;3VE;3XE;;3Y;3ZE;;1SMALL LETTER A;3BBE;3BE;3CE;3CHE;3DE;3DHE;3EI;3E;3FE;3GA;",
     "3HA;3HHA;3I;3IJE;3JE;3KA;3LA;3LLA;3ME;3NE;3NJE;3O;3PE;3QA;3RE;;3SE;3SHE;3TE;3THE;3U;3VE",
     "3XE;;3Y;3ZE"]⟩,
   ⟨0x10600,
    ["0LINEAR A SIGN AB001;3AB002;3AB003;3AB004;3AB005;3AB006;3AB007;3AB008;3AB009;3AB010;3AB011",
     "3AB013;3AB016;3AB017;3AB020;3AB021;3AB021F;3AB021M;3AB022;3AB022F;3AB022M;3AB023;3AB023M",
     "3AB024;3AB026;3AB027;3AB028;3A028B;3AB029;3AB030;3AB031;3AB034;3AB037;3AB038;3AB039;3AB040",
     "3AB041;3AB044;3AB045;3AB046;3AB047;3AB048;3AB049;3AB050;3AB051;3AB053;3AB054;3AB055;3AB056",
     "3AB057;3AB058;3AB059;3AB060;3AB061;3AB065;3AB066;3AB067;3AB069;3AB070;3AB073;3AB074;3AB076",
     "3AB077;3AB078;3AB079;3AB080;3AB081;3AB082;3AB085;3AB086;3AB087;3A100-102;3AB118;3AB120",
     "3A120B;3AB122;3AB123;3AB131A;3AB131B;3A131C;3AB164;3AB171;3AB180;3AB188;3AB191;3A301;3A302",
     "3A303;3A304;3A305;3A306;3A307;3A308;3A309A;3A309B;3A309C;3A310;3A311;3A312;3A313A;3A313B",
     "3A313C;3A314;3A315;3A316;3A317;3A318;3A319;3A320;3A321;3A322;3A323;3A324;3A325;3A326;3A327",
     "3A328;3A329;3A330;3A331;3A332;3A333;3A334;3A335;3A336;3A337;3A338;3A339;3A340;3A341;3A342",
     "3A343;3A344;3A345;3A346;3A347;3A348;3A349;3A350;3A351;3A352;3A353;3A354;3A355;3A356;3A357",
     "3A358;3A359;3A360;3A361;3A362;3A363;3A364;3A365;3A366;3A367;3A368;3A369;3A370;3A371",
     "3A400-VAS;3A401-VAS;3A402-VAS;3A403-VAS;3A404-VAS;3A405-VAS;3A406-VAS;3A407-VAS;3A408-VAS",
     "3A409-VAS;3A410-VAS;3A411-VAS;3A412-VAS;3A413-VAS;3A414-VAS;3A415-VAS;3A416-VAS;3A417-VAS",
     "3A418-VAS;3A501;3A502;3A503;3A504;3A505;3A506;3A508;3A509;3A510;3A511;3A512;3A513;3A515",
     "3A516;3A520;3A521;3A523;3A524;3A525;3A526;3A527;3A528;3A529;3A530;3A531;3A532;3A534;3A535",
     "3A536;3A537;3A538;3A539;3A540;3A541;3A542;3A545;3A547;3A548;3A549;3A550;3A551;3A552;3A553",
     "3A554;3A555;3A556;3A557;3A559;3A563;3A564;3A565;3A566;3A568;3A569;3A570;3A571;3A572;3A573",
     "3A574;3A575;3A576;3A577;3A578;3A579;3A580;3A581;3A582;3A583;3A584;3A585;3A586;3A587;3A588",
     "3A589;3A591;3A592;3A594"]⟩,
   ⟨0x10700,
    ["0LINEAR A SIGN A595;3A596;3A598;3A600;3A601;3A602;3A603;3A604;3A606;3A608;3A609;3A610",
     "3A611;3A612;3A613;3A614;3A615;3A616;3A617;3A618;3A619;3A620;3A621;3A622;3A623;3A624;3A626",
     "3A627;3A628;3A629;3A634;3A637;3A638;3A640;3A642;3A643;3A644;3A645;3A646;3A648;3A649;3A651",
     "3A652;3A653;3A654;3A655;3A656;3A657;3A658;3A659;3A660;3A661;3A662;3A663;3A664"]⟩,
   ⟨0x10740,
    ["0LINEAR A SIGN A701 A;3A702 B;3A703 D;3A704 E;3A705 F;3A706 H;3A707 J;3A708 K;3A709 L",
     "3A709-2 L2;3A709-3 L3;3A709-4 L4;3A709-6 L6;3A710 W;3A711 X;3A712 Y;3A713 OMEGA;3A714 ABB",
     "3A715 BB;3A717 DD;3A726 EYYY;3A732 JE"]⟩,
   ⟨0x10760,
    ["0LINEAR A SIGN A800;3A801;3A802;3A803;3A804;3A805;3A806;3A807"]⟩,
   ⟨0x10780,
    ["0MODIFIER LETTER SMALL CAPITAL AA;2SUPERSCRIPT TRIANGULAR COLON;3HALF/2;2SMALL AE",
     "3CAPITAL B;3B WITH HOOK;;3DZ DIGRAPH;5WITH RETROFLEX HOOK;6CURL;3DEZH DIGRAPH;3D WITH TAIL",
     "5HOOK;6AND TAIL;3REVERSED E;3CLOSED REVERSED OPEN/1;3FENG DIGRAPH;3RAMS HORN;3CAPITAL G",
     "3G WITH HOOK;3CAPITAL/3;3H WITH STROKE;3CAPITAL H;3HENG WITH HOOK",
     "3DOTLESS J WITH STROKE AND/1;3LS DIGRAPH;3LZ/1;3L WITH BELT;3CAPITAL/3",
     "3L WITH RETROFLEX HOOK AND/1;3LEZH;4WITH RETROFLEX HOOK;3TURNED Y;5WITH BELT",
     "3O WITH STROKE;3CAPITAL OE;3CLOSED OMEGA;3Q;3TURNED R WITH LONG LEG;8AND RETROFLEX HOOK",
     "3R WITH TAIL;5FISHHOOK;3CAPITAL R;3TC DIGRAPH WITH CURL;3TS DIGRAPH;5WITH RETROFLEX HOOK",
     "3TESH DIGRAPH;3T WITH RETROFLEX HOOK;3V WITH RIGHT/1;;3CAPITAL Y;2GLOTTAL STOP WITH STROKE",
     "2REVERSED/4;2BILABIAL CLICK;2DENTAL/1;2LATERAL/1;2ALVEOLAR/1",
     "2RETROFLEX CLICK WITH RETROFLEX HOOK;2SMALL S WITH CURL"]⟩,
   ⟨0x10800,
    ["0CYPRIOT SYLLABLE A;2E;2I;2O;2U;2JA;;;2JO;;2KA;2KE;2KI;2KO;2KU;2LA;2LE;2LI;2LO;2LU;2MA;2ME",
     "2MI;2MO;2MU;2NA;2NE;2NI;2NO;2NU;2PA;2PE;2PI;2PO;2PU;2RA;2RE;2RI;2RO;2RU;2SA;2SE;2SI;2SO",
     "2SU;2TA;2TE;2TI;2TO;2TU;2WA;2WE;2WI;2WO;;2XA;2XE;;;;2ZA;;;2ZO",
     "0IMPERIAL ARAMAIC LETTER ALEPH;3BETH;3GIMEL;3DALETH;3HE;3WAW;3ZAYIN;3HETH;3TETH;3YODH",
     "3KAPH;3LAMEDH;3MEM;3NUN;3SAMEKH;3AYIN;3PE;3SADHE;3QOPH;3RESH;3SHIN;3TAW;;2SECTION SIGN",
     "2NUMBER ONE;3TWO;3THREE;3TEN;3TWENTY;3ONE HUNDRED;4THOUSAND;3TEN/1;0PALMYRENE LETTER ALEPH",
     "2BETH;2GIMEL;2DALETH;2HE;2WAW;2ZAYIN;2HETH;2TETH;2YODH;2KAPH;2LAMEDH;2MEM;2FINAL NUN;2/1",
     "2SAMEKH;2AYIN;2PE;2SADHE;2QOPH;2RESH;2SHIN;2TAW;1LEFT-POINTING FLEURON;1RIGHT-POINTING/1",
     "1NUMBER ONE;2TWO;2THREE;2FOUR;2FIVE;2TEN;2TWENTY;0NABATAEAN LETTER FINAL ALEPH;2/1",
     "2FINAL BETH;2/1;2GIMEL;2DALETH;2FINAL HE;2/1;2WAW;2ZAYIN;2HETH;2TETH;2FINAL YODH;2/1",
     "2FINAL KAPH;2/1;2FINAL LAMEDH;2/1;2FINAL MEM;2/1;2FINAL NUN;2/1;2SAMEKH;2AYIN;2PE;2SADHE",
     "2QOPH;2RESH;2FINAL SHIN;2/1;2TAW"]⟩,
   ⟨0x108A7,
    ["0NABATAEAN NUMBER ONE;2TWO;2THREE;2FOUR;1CRUCIFORM/2;1NUMBER FIVE;2TEN;2TWENTY",
     "2ONE HUNDRED"]⟩,
   ⟨0x108E0,
    ["0HATRAN LETTER ALEPH;2BETH;2GIMEL;2DALETH-RESH;2HE;2WAW;2ZAYN;2HETH;2TETH;2YODH;2KAPH",
     "2LAMEDH;2MEM;2NUN;2SAMEKH;2AYN;2PE;2SADHE;2QOPH;;2SHIN;2TAW"]⟩,
   ⟨0x108FB,
    ["0HATRAN NUMBER ONE;2FIVE;2TEN;2TWENTY;2ONE HUNDRED;0PHOENICIAN LETTER ALF;2BET;2GAML;2DELT",
     "2HE;2WAU;2ZAI;2HET;2TET;2YOD;2KAF;2LAMD;2MEM;2NUN;2SEMK;2AIN;2PE;2SADE;2QOF;2ROSH;2SHIN",
     "2TAU;1NUMBER ONE;2TEN;2TWENTY;2ONE HUNDRED;2TWO;2THREE;;;;1WORD SEPARATOR;0LYDIAN LETTER A",
     "2B;2G;2D;2E;2V;2I;2Y;2K;2L;2M;2N;2O;2R;2SS;2T;2U;2F;2Q;2S;2TT;2AN;2EN;2LY;2NN;2C"]⟩,
   ⟨0x1093F,
    ["0LYDIAN TRIANGULAR MARK"]⟩,
   ⟨0x10980,
    ["0MEROITIC HIEROGLYPHIC LETTER A;3E;3I;3O;3YA;3WA;3BA;3BA-2;3PA;3MA;3NA;3NA-2;3NE;3NE-2;3RA",
     "3RA-2;3LA;3KHA;3HHA;3SA;3SA-2;3SE;3KA;3QA;3TA;3TA-2;3TE;3TE-2;3TO;3DA;2SYMBOL VIDJ;3VIDJ-2",
     "1CURSIVE LETTER A;3E;3I;3O;3YA;3WA;3BA;3PA;3MA;3NA;3NE;3RA;3LA;3KHA;3HHA;3SA;3ARCHAIC/1",
     "3SE;3KA;3QA;3TA;3TE;3TO;3DA"]⟩,
   ⟨0x109BC,
    ["0MEROITIC CURSIVE FRACTION ELEVEN TWELFTHS;3ONE HALF;2LOGOGRAM RMT;3IMN;2NUMBER ONE;3TWO",
     "3THREE;3FOUR;3FIVE;3SIX;3SEVEN;3EIGHT;3NINE;3TEN;3TWENTY;3THIRTY;3FORTY;3FIFTY;3SIXTY",
     "3SEVENTY;;;3ONE HUNDRED;3TWO/1;3THREE/1;3FOUR/1;3FIVE/1;3SIX/1;3SEVEN/1;3EIGHT/1;3NINE/1",
     "3ONE THOUSAND;3TWO/1;3THREE/1;3FOUR/1;3FIVE/1;3SIX/1;3SEVEN/1;3EIGHT/1;3NINE/1;3TEN/1",
     "3TWENTY/1;3THIRTY/1;3FORTY/1;3FIFTY/1;3SIXTY/1;3SEVENTY/1;3EIGHTY/1;3NINETY/1",
     "3ONE HUNDRED/1;3TWO/2;3THREE/2;3FOUR/2;3FIVE/2;3SIX/2;3SEVEN/2;3EIGHT/2;3NINE/2",
     "2FRACTION ONE TWELFTH;3TWO TWELFTHS;3THREE/1;3FOUR/1;3FIVE/1;3SIX/1;3SEVEN/1;3EIGHT/1",
     "3NINE/1;3TEN/1;0KHAROSHTHI LETTER A;1VOWEL SIGN I;3U;3VOCALIC R;;3E;3O"]⟩,
   ⟨0x10A0C,
    ["0KHAROSHTHI VOWEL LENGTH MARK;1SIGN DOUBLE RING BELOW;2ANUSVARA;2VISARGA;1LETTER KA;2KHA",
     "2GA;2GHA;;2CA;2CHA;2JA;;2NYA;2TTA;2TTHA;2DDA;2DDHA;2NNA;2TA;2THA;2DA;2DHA;2NA;2PA;2PHA;2BA",
     "2BHA;2MA;2YA;2RA;2LA;2VA;2SHA;2SSA;2SA;2ZA;2HA;2KKA;2TTTHA;2TTTA;2VHA;;;1SIGN BAR ABOVE",
     "2CAUDA;2DOT BELOW"]⟩,
   ⟨0x10A3F,
    ["0KHAROSHTHI VIRAMA;1DIGIT ONE;2TWO;2THREE;2FOUR;1NUMBER TEN;2TWENTY;2ONE HUNDRED;3THOUSAND",
     "1FRACTION ONE HALF"]⟩,
   ⟨0x10A50,
    ["0KHAROSHTHI PUNCTUATION DOT;2SMALL CIRCLE;2/1;2CRESCENT BAR;2MANGALAM;2LOTUS;2DANDA",
     "2DOUBLE/1;2LINES"]⟩,
   ⟨0x10A60,
    ["0OLD SOUTH ARABIAN LETTER HE;4LAMEDH;4HETH;4MEM;4QOPH;4WAW;4SHIN;4RESH;4BETH;4TAW;4SAT",
     "4KAPH;4NUN;4KHETH;4SADHE;4SAMEKH;4FE;4ALEF;4AYN;4DHADHE;4GIMEL;4DALETH;4GHAYN;4TETH;4ZAYN",
     "4DHALETH;4YODH;4THAW;4THETH;3NUMBER ONE;4FIFTY;3NUMERIC INDICATOR",
     "1NORTH ARABIAN LETTER HEH;4LAM;4HAH;4MEEM;4QAF;4WAW;4ES-2;4REH;4BEH;4TEH;4ES-1;4KAF;4NOON",
     "4KHAH;4SAD;4ES-3;4FEH;4ALEF;4AIN;4DAD;4GEEM;4DAL;4GHAIN;4TAH;4ZAIN;4THAL;4YEH;4THEH;4ZAH",
     "3NUMBER ONE;4TEN;4TWENTY"]⟩,
   ⟨0x10AC0,
    ["0MANICHAEAN LETTER ALEPH;2BETH;2BHETH;2GIMEL;2GHIMEL;2DALETH;2HE;2WAW;1SIGN UD",
     "1LETTER ZAYIN;2ZHAYIN;2JAYIN;2JHAYIN;2HETH;2TETH;2YODH;2KAPH;2XAPH;2KHAPH;2LAMEDH;2DHAMEDH",
     "2THAMEDH;2MEM;2NUN;2SAMEKH;2AYIN;2AAYIN;2PE;2FE;2SADHE;2QOPH;2XOPH;2QHOPH;2RESH;2SHIN",
     "2SSHIN;2TAW;1ABBREVIATION MARK ABOVE;3BELOW"]⟩,
   ⟨0x10AEB,
    ["0MANICHAEAN NUMBER ONE;2FIVE;2TEN;2TWENTY;2ONE HUNDRED;1PUNCTUATION STAR;2FLEURON",
     "2DOUBLE DOT WITHIN DOT;2/3;3;2TWO DOTS;2LINE FILLER"]⟩,
   ⟨0x10B00,
    ["0AVESTAN LETTER A;2AA;2AO;2AAO;2AN;2AAN;2AE;2AEE;2E;2EE;2O;2OO;2I;2II;2U;2UU;2KE;2XE;2XYE",
     "2XVE;2GE;2GGE;2GHE;2CE;2JE;2TE;2THE;2DE;2DHE;2TTE;2PE;2FE;2BE;2BHE;2NGE;2NGYE;2NGVE;2NE",
     "2NYE;2NNE;2ME;2HME;2YYE;2YE;2VE;2RE;2LE;2SE;2ZE;2SHE;2ZHE;2SHYE;2SSHE;2HE;;;",
     "1ABBREVIATION MARK;0TINY TWO DOTS OVER ONE DOT PUNCTUATION;0SMALL/6;0LARGE/6",
     "1ONE DOT OVER TWO DOTS/1;1TWO RINGS OVER ONE RING/1;1ONE RING OVER TWO RINGS/1",
     "0INSCRIPTIONAL PARTHIAN LETTER ALEPH;3BETH;3GIMEL;3DALETH;3HE;3WAW;3ZAYIN;3HETH;3TETH",
     "3YODH;3KAPH;3LAMEDH;3MEM;3NUN;3SAMEKH;3AYIN;3PE;3SADHE;3QOPH;3RESH;3SHIN;3TAW;;",
     "2NUMBER ONE;3TWO;3THREE;3FOUR;3TEN;3TWENTY;3ONE HUNDRED;4THOUSAND;1PAHLAVI LETTER ALEPH",
     "3BETH;3GIMEL;3DALETH;3HE;3WAW-AYIN-RESH;3ZAYIN;3HETH;3TETH;3YODH;3KAPH;3LAMEDH;3MEM-QOPH",
     "3NUN;3SAMEKH;3PE;3SADHE;3SHIN;3TAW"]⟩,
   ⟨0x10B78,
    ["0INSCRIPTIONAL PAHLAVI NUMBER ONE;3TWO;3THREE;3FOUR;3TEN;3TWENTY;3ONE HUNDRED;4THOUSAND",
     "0PSALTER PAHLAVI LETTER ALEPH;3BETH;3GIMEL;3DALETH;3HE;3WAW-AYIN-RESH;3ZAYIN;3HETH;3YODH",
     "3KAPH;3LAMEDH;3MEM-QOPH;3NUN;3SAMEKH;3PE;3SADHE;3SHIN;3TAW"]⟩,
   ⟨0x10B99,
    ["0PSALTER PAHLAVI SECTION MARK;2TURNED/2;2FOUR DOTS WITH CROSS;5DOT"]⟩,
   ⟨0x10BA9,
    ["0PSALTER PAHLAVI NUMBER ONE;3TWO;3THREE;3FOUR;3TEN;3TWENTY;3ONE HUNDRED"]⟩,
   ⟨0x10C00,
    ["0OLD TURKIC LETTER ORKHON A;3YENISEI/1;4AE;3ORKHON I;3YENISEI/1;4E;3ORKHON O;4OE",
     "3YENISEI/1;3ORKHON AB;3YENISEI/1;3ORKHON AEB;3YENISEI/1;3ORKHON AG;3YENISEI/1;3ORKHON AEG",
     "3YENISEI/1;3ORKHON AD;3YENISEI/1;3ORKHON AED;4EZ;3YENISEI/1;3ORKHON AY;3YENISEI/1",
     "3ORKHON AEY;3YENISEI/1;3ORKHON AEK;3YENISEI/1;3ORKHON OEK;3YENISEI/1;3ORKHON AL;3YENISEI/1",
     "3ORKHON AEL;4ELT;4EM;4AN;4AEN;3YENISEI/1;3ORKHON ENT;3YENISEI/1;3ORKHON ENC;3YENISEI/1",
     "3ORKHON ENY;3YENISEI/1;4ANG;3ORKHON ENG;3YENISEI AENG;3ORKHON EP;4OP;4IC;4EC;3YENISEI/1",
     "3ORKHON AQ;3YENISEI/1;3ORKHON IQ;3YENISEI/1;3ORKHON OQ;3YENISEI/1;3ORKHON AR;3YENISEI/1",
     "3ORKHON AER;4AS;4AES;4ASH;3YENISEI/1;3ORKHON ESH;3YENISEI/1;3ORKHON AT;3YENISEI/1",
     "3ORKHON AET;3YENISEI/1;3ORKHON OT;4BASH"]⟩,
   ⟨0x10C80,
    ["0OLD HUNGARIAN CAPITAL LETTER A;4AA;4EB;4AMB;4EC;4ENC;4ECS;4ED;4AND;4E;4CLOSE/1;4EE;4EF",
     "4EG;4EGY;4EH;4I;4II;4EJ;4EK;4AK;4UNK;4EL;4ELY;4EM;4EN;4ENY;4O;4OO;4NIKOLSBURG OE",
     "4RUDIMENTA/1;4OEE;4EP;4EMP;4ER;4SHORT/1;4ES;4ESZ;4ET;4ENT;4ETY;4ECH;4U;4UU;4NIKOLSBURG UE",
     "4RUDIMENTA/1;4EV;4EZ;4EZS;4ENT-SHAPED SIGN;4US"]⟩,
   ⟨0x10CC0,
    ["0OLD HUNGARIAN SMALL LETTER A;4AA;4EB;4AMB;4EC;4ENC;4ECS;4ED;4AND;4E;4CLOSE/1;4EE;4EF;4EG",
     "4EGY;4EH;4I;4II;4EJ;4EK;4AK;4UNK;4EL;4ELY;4EM;4EN;4ENY;4O;4OO;4NIKOLSBURG OE;4RUDIMENTA/1",
     "4OEE;4EP;4EMP;4ER;4SHORT/1;4ES;4ESZ;4ET;4ENT;4ETY;4ECH;4U;4UU;4NIKOLSBURG UE;4RUDIMENTA/1",
     "4EV;4EZ;4EZS;4ENT-SHAPED SIGN;4US"]⟩,
   ⟨0x10CFA,
    ["0OLD HUNGARIAN NUMBER ONE;3FIVE;3TEN;3FIFTY;3ONE HUNDRED;4THOUSAND",
     "0HANIFI ROHINGYA LETTER A;3BA;3PA;3TA;3TTA;3JA;3CA;3HA;3KHA;3FA;3DA;3DDA;3RA;3RRA;3ZA;3SA",
     "3SHA;3KA;3GA;3LA;3MA;3NA;3WA;3KINNA/1;3YA;3KINNA/1;3NGA;3NYA;3VA;2VOWEL A;3I;3U;3E;3O",
     "2MARK SAKIN;3NA KHONNA;2SIGN HARBAHAY;3TAHALA;3TANA;3TASSI"]⟩,
   ⟨0x10D30,
    ["0HANIFI ROHINGYA DIGIT ZERO;3ONE;3TWO;3THREE;3FOUR;3FIVE;3SIX;3SEVEN;3EIGHT;3NINE"]⟩,
   ⟨0x10E60,
    ["0RUMI DIGIT ONE;2TWO;2THREE;2FOUR;2FIVE;2SIX;2SEVEN;2EIGHT;2NINE;1NUMBER TEN;2TWENTY",
     "2THIRTY;2FORTY;2FIFTY;2SIXTY;2SEVENTY;2EIGHTY;2NINETY;2ONE HUNDRED;2TWO/1;2THREE/1;2FOUR/1",
     "2FIVE/1;2SIX/1;2SEVEN/1;2EIGHT/1;2NINE/1;1FRACTION ONE HALF;3QUARTER;3THIRD;2TWO THIRDS;",
     "0YEZIDI LETTER ELIF;2BE;2PE;2PHE;2THE;2SE;2CIM;2CHIM;2CHHIM;2HHA;2XA;2DAL;2ZAL;2RA;2RHA",
     "2ZA;2JA;2SIN;2SHIN;2SAD;2DAD;2TA;2ZE;2EYN;2XHEYN;2FA;2VA;3ALTERNATE FORM;2QAF;2KAF;2KHAF",
     "2GAF;2LAM;2MIM;2NUN;2UM;2WAW;2OW;2EW;2HAY;2YOT;2ET;;1COMBINING HAMZA MARK;2MADDA/1",
     "1HYPHENATION/1;;;1LETTER LAM WITH DOT ABOVE;2YOT WITH CIRCUMFLEX/1"]⟩,
   ⟨0x10F00,
    ["0OLD SOGDIAN LETTER ALEPH;3FINAL/1;3BETH;3FINAL/1;3GIMEL;3HE;3FINAL/1;3WAW;3ZAYIN;3HETH",
     "3YODH;3KAPH;3LAMEDH;3MEM;3NUN;3FINAL/1;5WITH VERTICAL TAIL;3SAMEKH;3AYIN;3ALTERNATE/1;3PE",
     "3SADHE;3FINAL/1;5WITH VERTICAL TAIL;3RESH-AYIN-DALETH;3SHIN;3TAW;3FINAL/1",
     "5WITH VERTICAL TAIL;2NUMBER ONE;3TWO;3THREE;3FOUR;3FIVE;3TEN;3TWENTY;3THIRTY;3ONE HUNDRED",
     "2FRACTION ONE HALF;2LIGATURE AYIN-DALETH"]⟩,
   ⟨0x10F30,
    ["0SOGDIAN LETTER ALEPH;2BETH;2GIMEL;2HE;2WAW;2ZAYIN;2HETH;2YODH;2KAPH;2LAMEDH;2MEM;2NUN",
     "2SAMEKH;2AYIN;2PE;2SADHE;2RESH-AYIN;2SHIN;2TAW;2FETH;2LESH;1INDEPENDENT SHIN",
     "1COMBINING DOT BELOW;2TWO DOTS/1;2DOT ABOVE;2TWO DOTS/1;2CURVE/1;3BELOW;2HOOK ABOVE;3BELOW",
     "2LONG/2;2RESH/1;2STROKE/1;1NUMBER ONE;2TEN;2TWENTY;2ONE HUNDRED",
     "1PUNCTUATION TWO VERTICAL BARS;5WITH DOTS;2CIRCLE WITH DOT;2TWO CIRCLES WITH DOTS",
     "2HALF CIRCLE WITH DOT"]⟩,
   ⟨0x10F70,
    ["0OLD UYGHUR LETTER ALEPH;3BETH;3GIMEL-HETH;3WAW;3ZAYIN;3FINAL HETH;3YODH;3KAPH;3LAMEDH",
     "3MEM;3NUN;3SAMEKH;3PE;3SADHE;3RESH;3SHIN;3TAW;3LESH;2COMBINING DOT ABOVE;4BELOW",
     "3TWO DOTS ABOVE;5BELOW;2PUNCTUATION BAR;3TWO BARS;4DOTS;3FOUR/1"]⟩,
   ⟨0x10FB0,
    ["0CHORASMIAN LETTER ALEPH;2SMALL/1;2BETH;2GIMEL;2DALETH;2HE;2WAW;2CURLED/1;2ZAYIN;2HETH",
     "2YODH;2KAPH;2LAMEDH;2MEM;2NUN;2SAMEKH;2AYIN;2PE;2RESH;2SHIN;2TAW;1NUMBER ONE;2TWO;2THREE",
     "2FOUR;2TEN;2TWENTY;2ONE HUNDRED"]⟩,
   ⟨0x10FE0,
    ["0ELYMAIC LETTER ALEPH;2BETH;2GIMEL;2DALETH;2HE;2WAW;2ZAYIN;2HETH;2TETH;2YODH;2KAPH;2LAMEDH",
     "2MEM;2NUN;2SAMEKH;2AYIN;2PE;2SADHE;2QOPH;2RESH;2SHIN;2TAW;1LIGATURE ZAYIN-YODH"]⟩,
   ⟨0x11000,
    ["0BRAHMI SIGN CANDRABINDU;2ANUSVARA;2VISARGA;2JIHVAMULIYA;2UPADHMANIYA;1LETTER A;2AA;2I;2II",
     "2U;2UU;2VOCALIC R;3RR;3L;3LL;2E;2AI;2O;2AU;2KA;2KHA;2GA;2GHA;2NGA;2CA;2CHA;2JA;2JHA;2NYA",
     "2TTA;2TTHA;2DDA;2DDHA;2NNA;2TA;2THA;2DA;2DHA;2NA;2PA;2PHA;2BA;2BHA;2MA;2YA;2RA;2LA;2VA",
     "2SHA;2SSA;2SA;2HA;2LLA;2OLD TAMIL LLLA;4RRA;4NNNA;1VOWEL SIGN AA;3BHATTIPROLU/1;3I;3II;3U",
     "3UU;3VOCALIC R;4RR;4L;4LL;3E;3AI;3O;3AU;1VIRAMA;1DANDA;1DOUBLE/1;1PUNCTUATION DOT",
     "2DOUBLE/1;2LINE;2CRESCENT BAR;2LOTUS"]⟩,
   ⟨0x11052,
    ["0BRAHMI NUMBER ONE;2TWO;2THREE;2FOUR;2FIVE;2SIX;2SEVEN;2EIGHT;2NINE;2TEN;2TWENTY;2THIRTY",
     "2FORTY;2FIFTY;2SIXTY;2SEVENTY;2EIGHTY;2NINETY;2ONE HUNDRED;3THOUSAND;1DIGIT ZERO;2ONE;2TWO",
     "2THREE;2FOUR;2FIVE;2SIX;2SEVEN;2EIGHT;2NINE;1SIGN OLD TAMIL VIRAMA",
     "1LETTER OLD TAMIL SHORT E;5O;1VOWEL SIGN OLD TAMIL SHORT E;6O;1LETTER OLD TAMIL LLA"]⟩,
   ⟨0x1107F,
    ["0BRAHMI NUMBER JOINER;0KAITHI SIGN CANDRABINDU;2ANUSVARA;2VISARGA;1LETTER A;2AA;2I;2II;2U",
     "2UU;2E;2AI;2O;2AU;2KA;2KHA;2GA;2GHA;2NGA;2CA;2CHA;2JA;2JHA;2NYA;2TTA;2TTHA;2DDA;2DDDHA",
     "2DDHA;2RHA;2NNA;2TA;2THA;2DA;2DHA;2NA;2PA;2PHA;2BA;2BHA;2MA;2YA;2RA;2LA;2VA;2SHA;2SSA;2SA",
     "2HA;1VOWEL SIGN AA;3I;3II;3U;3UU;3E;3AI;3O;3AU;1SIGN VIRAMA;2NUKTA;1ABBREVIATION SIGN",
     "1ENUMERATION/1;1NUMBER/1;1SECTION MARK;1DOUBLE/2;1DANDA;1DOUBLE/1;1VOWEL SIGN VOCALIC R"]⟩,
   ⟨0x110CD,
    ["0KAITHI NUMBER SIGN ABOVE;;;0SORA SOMPENG LETTER SAH;3TAH;3BAH;3CAH;3DAH;3GAH;3MAH;3NGAH",
     "3LAH;3NAH;3VAH;3PAH;3YAH;3RAH;3HAH;3KAH;3JAH;3NYAH;3AH;3EEH;3IH;3UH;3OH;3EH;3MAE"]⟩,
   ⟨0x110F0,
    ["0SORA SOMPENG DIGIT ZERO;3ONE;3TWO;3THREE;3FOUR;3FIVE;3SIX;3SEVEN;3EIGHT;3NINE"]⟩,
   ⟨0x11100,
    ["0CHAKMA SIGN CANDRABINDU;2ANUSVARA;2VISARGA;1LETTER AA;2I;2U;2E;2KAA;2KHAA;2GAA;2GHAA",
     "2NGAA;2CAA;2CHAA;2JAA;2JHAA;2NYAA;2TTAA;2TTHAA;2DDAA;2DDHAA;2NNAA;2TAA;2THAA;2DAA;2DHAA",
     "2NAA;2PAA;2PHAA;2BAA;2BHAA;2MAA;2YYAA;2YAA;2RAA;2LAA;2WAA;2SAA;2HAA;1VOWEL SIGN A;3I;3II",
     "3U;3UU;3E;3AI;3O;3AU;3OI;1O MARK;1AU/1;1VIRAMA;1MAAYYAA;;1DIGIT ZERO;2ONE;2TWO;2THREE",
     "2FOUR;2FIVE;2SIX;2SEVEN;2EIGHT;2NINE;1SECTION MARK;1DANDA;1DOUBLE/1;1QUESTION MARK",
     "1LETTER LHAA;1VOWEL SIGN AA;3EI;1LETTER VAA"]⟩,
   ⟨0x11150,
    ["0MAHAJANI LETTER A;2I;2U;2E;2O;2KA;2KHA;2GA;2GHA;2CA;2CHA;2JA;2JHA;2NYA;2TTA;2TTHA;2DDA",
     "2DDHA;2NNA;2TA;2THA;2DA;2DHA;2NA;2PA;2PHA;2BA;2BHA;2MA;2RA;2LA;2VA;2SA;2HA;2RRA",
     "1SIGN NUKTA;1ABBREVIATION SIGN;1SECTION MARK;1LIGATURE SHRI"]⟩,
   ⟨0x11180,
    ["0SHARADA SIGN CANDRABINDU;2ANUSVARA;2VISARGA;1LETTER A;2AA;2I;2II;2U;2UU;2VOCALIC R;3RR;3L",
     "3LL;2E;2AI;2O;2AU;2KA;2KHA;2GA;2GHA;2NGA;2CA;2CHA;2JA;2JHA;2NYA;2TTA;2TTHA;2DDA;2DDHA;2NNA",
     "2TA;2THA;2DA;2DHA;2NA;2PA;2PHA;2BA;2BHA;2MA;2YA;2RA;2LA;2LLA;2VA;2SHA;2SSA;2SA;2HA",
     "1VOWEL SIGN AA;3I;3II;3U;3UU;3VOCALIC R;4RR;4L;4LL;3E;3AI;3O;3AU;1SIGN VIRAMA;2AVAGRAHA",
     "2JIHVAMULIYA;2UPADHMANIYA;1OM;1DANDA;1DOUBLE/1;1ABBREVIATION SIGN;1SEPARATOR;1SANDHI MARK",
     "1SIGN NUKTA;1VOWEL MODIFIER MARK;1EXTRA SHORT VOWEL/1;1SUTRA/1;1VOWEL SIGN PRISHTHAMATRA E",
     "1SIGN INVERTED CANDRABINDU;1DIGIT ZERO;2ONE;2TWO;2THREE;2FOUR;2FIVE;2SIX;2SEVEN;2EIGHT",
     "2NINE;1EKAM;1SIGN SIDDHAM;1HEADSTROKE;1CONTINUATION SIGN;1SECTION MARK-1;2MARK-2;",
     "0SINHALA ARCHAIC DIGIT ONE;3TWO;3THREE;3FOUR;3FIVE;3SIX;3SEVEN;3EIGHT;3NINE;2NUMBER TEN",
     "3TWENTY;3THIRTY;3FORTY;3FIFTY;3SIXTY;3SEVENTY;3EIGHTY;3NINETY;3ONE HUNDRED;4THOUSAND"]⟩]

end Provisioning.Text
