import Provisioning.Text.CharacterName.Coding

/-!
# Names of characters from U+1FA60 on
-/

set_option autoImplicit false

namespace Provisioning.Text

/-- Names from U+1FA60 on. -/
def names1FA60 : List NameBlock :=
  [⟨0x1FA60,
    ["0XIANGQI RED GENERAL;2MANDARIN;2ELEPHANT;2HORSE;2CHARIOT;2CANNON;2SOLDIER;1BLACK GENERAL",
     "2MANDARIN;2ELEPHANT;2HORSE;2CHARIOT;2CANNON;2SOLDIER;;;0BALLET SHOES;0ONE-PIECE SWIMSUIT",
     "0BRIEFS;0SHORTS;0THONG SANDAL;;;;0DROP OF BLOOD;0ADHESIVE BANDAGE;0STETHOSCOPE;0X-RAY",
     "0CRUTCH;;;;0YO-YO;0KITE;0PARACHUTE;0BOOMERANG;0MAGIC WAND;0PINATA;0NESTING DOLLS"]⟩,
   ⟨0x1FA90,
    ["0RINGED PLANET;0CHAIR;0RAZOR;0AXE;0DIYA LAMP;0BANJO;0MILITARY HELMET;0ACCORDION;0LONG DRUM",
     "0COIN;0CARPENTRY SAW;0SCREWDRIVER;0LADDER;0HOOK;0MIRROR;0WINDOW;0PLUNGER;0SEWING NEEDLE",
     "0KNOT;0BUCKET;0MOUSE TRAP;0TOOTHBRUSH;0HEADSTONE;0PLACARD;0ROCK;0MIRROR BALL",
     "0IDENTIFICATION CARD;0LOW BATTERY;0HAMSA;;;;0FLY;0WORM;0BEETLE;0COCKROACH;0POTTED PLANT",
     "0WOOD;0FEATHER;0LOTUS;0CORAL;0EMPTY NEST;0NEST WITH EGGS"]⟩,
   ⟨0x1FAC0,
    ["0ANATOMICAL HEART;0LUNGS;0PEOPLE HUGGING;0PREGNANT MAN;1PERSON;0PERSON WITH CROWN"]⟩,
   ⟨0x1FAD0,
    ["0BLUEBERRIES;0BELL PEPPER;0OLIVE;0FLATBREAD;0TAMALE;0FONDUE;0TEAPOT;0POURING LIQUID;0BEANS",
     "0JAR"]⟩,
   ⟨0x1FAE0,
    ["0MELTING FACE;0SALUTING/1;0FACE WITH OPEN EYES AND HAND OVER MOUTH;2PEEKING EYE",
     "2DIAGONAL MOUTH;0DOTTED LINE FACE;0BITING LIP;0BUBBLES"]⟩,
   ⟨0x1FAF0,
    ["0HAND WITH INDEX FINGER AND THUMB CROSSED;0RIGHTWARDS HAND;0LEFTWARDS/1;0PALM DOWN/1;1UP/1",
     "0INDEX POINTING AT THE VIEWER;0HEART HANDS"]⟩,
   ⟨0x1FB00,
    ["0BLOCK SEXTANT-1;1SEXTANT-2;1SEXTANT-12;1SEXTANT-3;1SEXTANT-13;1SEXTANT-23;1SEXTANT-123",
     "1SEXTANT-4;1SEXTANT-14;1SEXTANT-24;1SEXTANT-124;1SEXTANT-34;1SEXTANT-134;1SEXTANT-234",
     "1SEXTANT-1234;1SEXTANT-5;1SEXTANT-15;1SEXTANT-25;1SEXTANT-125;1SEXTANT-35;1SEXTANT-235",
     "1SEXTANT-1235;1SEXTANT-45;1SEXTANT-145;1SEXTANT-245;1SEXTANT-1245;1SEXTANT-345",
     "1SEXTANT-1345;1SEXTANT-2345;1SEXTANT-12345;1SEXTANT-6;1SEXTANT-16;1SEXTANT-26;1SEXTANT-126",
     "1SEXTANT-36;1SEXTANT-136;1SEXTANT-236;1SEXTANT-1236;1SEXTANT-46;1SEXTANT-146;1SEXTANT-1246",
     "1SEXTANT-346;1SEXTANT-1346;1SEXTANT-2346;1SEXTANT-12346;1SEXTANT-56;1SEXTANT-156",
     "1SEXTANT-256;1SEXTANT-1256;1SEXTANT-356;1SEXTANT-1356;1SEXTANT-2356;1SEXTANT-12356",
     "1SEXTANT-456;1SEXTANT-1456;1SEXTANT-2456;1SEXTANT-12456;1SEXTANT-3456;1SEXTANT-13456",
     "1SEXTANT-23456;0LOWER LEFT BLOCK DIAGONAL LOWER MIDDLE LEFT TO LOWER CENTRE;9RIGHT",
     "4UPPER MIDDLE LEFT TO LOWER CENTRE;9RIGHT;5LEFT TO LOWER CENTRE",
     "1RIGHT BLOCK DIAGONAL UPPER MIDDLE LEFT TO UPPER/1;9RIGHT",
     "4LOWER MIDDLE LEFT TO UPPER CENTRE;9RIGHT;5LEFT TO UPPER CENTRE",
     "5MIDDLE LEFT TO UPPER MIDDLE RIGHT;5CENTRE TO LOWER/2;5LEFT/4;5CENTRE TO UPPER/2;5LEFT/4",
     "5CENTRE TO UPPER/1;1LEFT BLOCK DIAGONAL UPPER CENTRE TO UPPER MIDDLE/1;5LEFT/4",
     "5CENTRE TO LOWER/2;5LEFT/4;5CENTRE TO LOWER/1;5MIDDLE LEFT TO LOWER MIDDLE/1",
     "0UPPER RIGHT BLOCK DIAGONAL LOWER MIDDLE LEFT TO LOWER CENTRE;9RIGHT",
     "4UPPER MIDDLE LEFT TO LOWER CENTRE;9RIGHT;5LEFT TO LOWER CENTRE",
     "1LEFT BLOCK DIAGONAL UPPER MIDDLE LEFT TO UPPER/1;9RIGHT",
     "4LOWER MIDDLE LEFT TO UPPER CENTRE;9RIGHT;5LEFT TO UPPER CENTRE",
     "5MIDDLE LEFT TO UPPER MIDDLE RIGHT;5CENTRE TO LOWER/2;5LEFT/4;5CENTRE TO UPPER/2;5LEFT/4",
     "5CENTRE TO UPPER/1;1RIGHT BLOCK DIAGONAL UPPER CENTRE TO UPPER MIDDLE/1;5LEFT/4",
     "5CENTRE TO LOWER/2;5LEFT/4;5CENTRE TO LOWER/1;5MIDDLE LEFT TO LOWER MIDDLE/1",
     "1AND RIGHT AND LOWER TRIANGULAR THREE QUARTERS BLOCK;0LEFT AND LOWER AND RIGHT/4",
     "0UPPER AND LEFT AND LOWER/4;0LEFT AND UPPER AND RIGHT/4;1TRIANGULAR ONE QUARTER/1;0UPPER/4",
     "0RIGHT/4;0LOWER/4;0VERTICAL ONE EIGHTH BLOCK-2;3BLOCK-3;3BLOCK-4;3BLOCK-5;3BLOCK-6",
     "3BLOCK-7;0HORIZONTAL ONE EIGHTH BLOCK-2;3BLOCK-3;3BLOCK-4;3BLOCK-5;3BLOCK-6;3BLOCK-7",
     "0LEFT AND LOWER ONE EIGHTH BLOCK;2UPPER/3;0RIGHT/5;2LOWER/3;0UPPER/5",
     "0HORIZONTAL ONE EIGHTH BLOCK-1358;0UPPER ONE QUARTER BLOCK;1THREE EIGHTHS/1;1FIVE/2",
     "1THREE QUARTERS/1;1SEVEN EIGHTHS/1;0RIGHT ONE QUARTER/1;1THREE EIGHTHS/1;1FIVE/2",
     "1THREE QUARTERS/1;1SEVEN EIGHTHS/1;0LEFT HALF MEDIUM SHADE;0RIGHT/3;0UPPER/3;0LOWER/3",
     "0INVERSE/2;0UPPER HALF BLOCK AND LOWER HALF/3;2INVERSE MEDIUM SHADE AND LOWER HALF BLOCK;",
     "0LEFT HALF INVERSE MEDIUM SHADE AND RIGHT/2;0CHECKER BOARD FILL;0INVERSE/3",
     "0HEAVY HORIZONTAL/1;0UPPER LEFT TO LOWER RIGHT/1;1RIGHT TO LOWER LEFT/1",
     "1AND LOWER TRIANGULAR HALF BLOCK;0LEFT AND RIGHT/3;0UPPER LEFT TRIANGULAR MEDIUM SHADE",
     "1RIGHT/3;0LOWER/4;1LEFT/3;0BOX DRAWINGS LIGHT DIAGONAL UPPER CENTRE TO MIDDLE LEFT;8RIGHT",
     "4MIDDLE LEFT TO LOWER CENTRE;5RIGHT/3;4UPPER CENTRE TO MIDDLE LEFT/3;8RIGHT/3",
     "4MIDDLE LEFT TO LOWER CENTRE TO MIDDLE RIGHT;7UPPER/4",
     "4UPPER CENTRE TO MIDDLE LEFT AND MIDDLE RIGHT TO LOWER CENTRE;8RIGHT AND MIDDLE LEFT/3",
     "9TO LOWER CENTRE TO MIDDLE LEFT;8LEFT TO LOWER CENTRE TO MIDDLE RIGHT",
     "4MIDDLE LEFT TO UPPER CENTRE TO MIDDLE RIGHT TO LOWER CENTRE",
     "5RIGHT TO UPPER CENTRE TO MIDDLE LEFT/3;4DIAMOND;3HORIZONTAL WITH VERTICAL STROKE",
     "0ARROWHEAD-SHAPED POINTER;0INVERSE CHECK MARK;0LEFT HALF RUNNING MAN;0RIGHT/3",
     "0INVERSE DOWNWARDS ARROW WITH TIP LEFTWARDS",
     "0LEFTWARDS ARROW AND UPPER AND LOWER ONE EIGHTH BLOCK;0RIGHTWARDS/8",
     "0DOWNWARDS ARROW AND RIGHT/3;0UPWARDS/6;0LEFT HALF FOLDER;0RIGHT/2;0VOIDED GREEK CROSS",
     "0RIGHT OPEN SQUARED DOT;0NEGATIVE DIAGONAL CROSS;2MIDDLE RIGHT TO LOWER CENTRE;2DIAMOND",
     "0WHITE HEAVY SALTIRE WITH ROUNDED CORNERS;0LEFT THIRD WHITE RIGHT POINTING INDEX;0MIDDLE/5",
     "0RIGHT/5;0NEGATIVE SQUARED QUESTION MARK;0STICK FIGURE;2WITH ARMS RAISED;2LEANING LEFT",
     "3RIGHT;2WITH DRESS;0WHITE UP-POINTING CHEVRON"]⟩,
   ⟨0x1FBF0,
    ["0SEGMENTED DIGIT ZERO;2ONE;2TWO;2THREE;2FOUR;2FIVE;2SIX;2SEVEN;2EIGHT;2NINE"]⟩,
   ⟨0xE0001,
    ["0LANGUAGE TAG"]⟩,
   ⟨0xE0020,
    ["0TAG SPACE;1EXCLAMATION MARK;1QUOTATION/1;1NUMBER SIGN;1DOLLAR/1;1PERCENT/1;1AMPERSAND",
     "1APOSTROPHE;1LEFT PARENTHESIS;1RIGHT/1;1ASTERISK;1PLUS SIGN;1COMMA;1HYPHEN-MINUS",
     "1FULL STOP;1SOLIDUS;1DIGIT ZERO;2ONE;2TWO;2THREE;2FOUR;2FIVE;2SIX;2SEVEN;2EIGHT;2NINE",
     "1COLON;1SEMICOLON;1LESS-THAN SIGN;1EQUALS/1;1GREATER-THAN/1;1QUESTION MARK;1COMMERCIAL AT",
     "1LATIN CAPITAL LETTER A;4B;4C;4D;4E;4F;4G;4H;4I;4J;4K;4L;4M;4N;4O;4P;4Q;4R;4S;4T;4U;4V;4W",
     "4X;4Y;4Z;1LEFT SQUARE BRACKET;1REVERSE SOLIDUS;1RIGHT SQUARE BRACKET;1CIRCUMFLEX ACCENT",
     "1LOW LINE;1GRAVE ACCENT;1LATIN SMALL LETTER A;4B;4C;4D;4E;4F;4G;4H;4I;4J;4K;4L;4M;4N;4O;4P",
     "4Q;4R;4S;4T;4U;4V;4W;4X;4Y;4Z;1LEFT CURLY BRACKET;1VERTICAL LINE;1RIGHT CURLY BRACKET",
     "1TILDE;0CANCEL TAG"]⟩]

end Provisioning.Text
