import Provisioning.Text.CharacterName.Coding

/-!
# Names of characters from U+2660 on
-/

set_option autoImplicit false

namespace Provisioning.Text

/-- Names from U+2660 on. -/
def names02660 : List NameBlock :=
  [⟨0x2660,
    ["0BLACK SPADE SUIT;0WHITE HEART/1;1DIAMOND/1;0BLACK CLUB/1;0WHITE SPADE/1;0BLACK HEART/1",
     "1DIAMOND/1;0WHITE CLUB/1;0HOT SPRINGS;0QUARTER NOTE;0EIGHTH/1;0BEAMED EIGHTH NOTES",
     "1SIXTEENTH/1;0MUSIC FLAT SIGN;1NATURAL/1;1SHARP/1;0WEST SYRIAC CROSS;0EAST/2",
     "0UNIVERSAL RECYCLING SYMBOL;0RECYCLING SYMBOL FOR TYPE-1 PLASTICS;3TYPE-2/1;3TYPE-3/1",
     "3TYPE-4/1;3TYPE-5/1;3TYPE-6/1;3TYPE-7/1;3GENERIC MATERIALS",
     "0BLACK UNIVERSAL RECYCLING SYMBOL;0RECYCLED PAPER/1;0PARTIALLY-RECYCLED/2",
     "0PERMANENT PAPER SIGN;0WHEELCHAIR SYMBOL;0DIE FACE-1;1FACE-2;1FACE-3;1FACE-4;1FACE-5",
     "1FACE-6;0WHITE CIRCLE WITH DOT RIGHT;3TWO DOTS;0BLACK CIRCLE WITH WHITE DOT RIGHT",
     "3TWO WHITE DOTS;0MONOGRAM FOR YANG;2YIN;0DIGRAM FOR GREATER YANG;2LESSER YIN;3YANG",
     "2GREATER YIN;0WHITE FLAG;0BLACK/1;0HAMMER AND PICK;0ANCHOR;0CROSSED SWORDS",
     "0STAFF OF AESCULAPIUS;0SCALES;0ALEMBIC;0FLOWER;0GEAR;0STAFF OF HERMES;0ATOM SYMBOL",
     "0FLEUR-DE-LIS;0OUTLINED WHITE STAR;0THREE LINES CONVERGING RIGHT;3LEFT;0WARNING SIGN",
     "0HIGH VOLTAGE/1;0DOUBLED FEMALE/1;1MALE/1;0INTERLOCKED FEMALE AND/2;0MALE AND FEMALE/1",
     "1WITH STROKE/1;3AND MALE AND FEMALE/1;0VERTICAL MALE WITH STROKE/1;0HORIZONTAL/4",
     "0MEDIUM WHITE CIRCLE;1BLACK/1;1SMALL WHITE/1;0MARRIAGE SYMBOL;0DIVORCE/1",
     "0UNMARRIED PARTNERSHIP/1;0COFFIN;0FUNERAL URN;0NEUTER;0CERES;0PALLAS;0JUNO;0VESTA;0CHIRON",
     "0BLACK MOON LILITH;0SEXTILE;0SEMISEXTILE;0QUINCUNX;0SESQUIQUADRATE;0SOCCER BALL;0BASEBALL",
     "0SQUARED KEY;0WHITE DRAUGHTS MAN;2KING;0BLACK DRAUGHTS MAN;2KING;0SNOWMAN WITHOUT SNOW",
     "0SUN BEHIND CLOUD;0RAIN;0BLACK SNOWMAN;0THUNDER CLOUD AND RAIN;0TURNED WHITE SHOGI PIECE",
     "1BLACK/2;0WHITE DIAMOND IN SQUARE;0CROSSING LANES;0DISABLED CAR;0OPHIUCHUS;0PICK",
     "0CAR SLIDING;0HELMET WITH WHITE CROSS;0CIRCLED CROSSING LANES;0CHAINS;0NO ENTRY",
     "0ALTERNATE ONE-WAY LEFT WAY TRAFFIC;0BLACK TWO-WAY/3;0WHITE/4;0BLACK LEFT LANE MERGE",
     "0WHITE/3;0DRIVE SLOW SIGN;0HEAVY WHITE DOWN-POINTING TRIANGLE;0LEFT CLOSED ENTRY",
     "0SQUARED SALTIRE;0FALLING DIAGONAL IN WHITE CIRCLE IN BLACK SQUARE;0BLACK TRUCK",
     "0RESTRICTED LEFT ENTRY-1;2ENTRY-2;0ASTRONOMICAL SYMBOL FOR URANUS",
     "0HEAVY CIRCLE WITH STROKE AND TWO DOTS ABOVE;0PENTAGRAM;0RIGHT-HANDED INTERLACED/1",
     "0LEFT-HANDED/2;0INVERTED/1;0BLACK CROSS ON SHIELD;0SHINTO SHRINE;0CHURCH;0CASTLE",
     "0HISTORIC SITE;0GEAR WITHOUT HUB;1WITH HANDLES;0MAP SYMBOL FOR LIGHTHOUSE;0MOUNTAIN",
     "0UMBRELLA ON GROUND;0FOUNTAIN;0FLAG IN HOLE;0FERRY;0SAILBOAT;0SQUARE FOUR CORNERS;0SKIER",
     "0ICE SKATE;0PERSON WITH BALL;0TENT;0JAPANESE BANK SYMBOL;0HEADSTONE GRAVEYARD/1;0FUEL PUMP",
     "0CUP ON BLACK SQUARE;0WHITE FLAG WITH HORIZONTAL MIDDLE BLACK STRIPE",
     "0BLACK SAFETY SCISSORS;0UPPER BLADE/1;0BLACK/1;0LOWER BLADE/1;0WHITE/1;1HEAVY CHECK MARK",
     "0TELEPHONE LOCATION SIGN;0TAPE DRIVE;0AIRPLANE;0ENVELOPE;0RAISED FIST;1HAND;0VICTORY/1",
     "0WRITING/1;0LOWER RIGHT PENCIL;0/1;0UPPER RIGHT/1;0WHITE NIB;0BLACK/1;0CHECK MARK;0HEAVY/2",
     "0MULTIPLICATION X;0HEAVY/2;0BALLOT/1;0HEAVY/2;0OUTLINED GREEK CROSS;0HEAVY/2",
     "0OPEN CENTRE/1;0HEAVY/3;0LATIN/1;0SHADOWED WHITE/2;0OUTLINED/2;0MALTESE/1;0STAR OF DAVID",
     "0FOUR TEARDROP-SPOKED ASTERISK;1BALLOON-SPOKED/1;0HEAVY/3;0FOUR CLUB-SPOKED/1",
     "0BLACK FOUR POINTED STAR;0WHITE/3;0SPARKLES;0STRESS OUTLINED WHITE STAR;0CIRCLED/2",
     "0OPEN CENTRE BLACK/1;0BLACK CENTRE WHITE/1;0OUTLINED BLACK/1;0HEAVY/3;0PINWHEEL/1",
     "0SHADOWED WHITE/1;0HEAVY ASTERISK;0OPEN CENTRE/1;0EIGHT SPOKED/1;1POINTED BLACK STAR",
     "2PINWHEEL/1;0SIX POINTED BLACK/1;0EIGHT POINTED RECTILINEAR/2;0HEAVY/5;0TWELVE POINTED/2",
     "0SIXTEEN POINTED ASTERISK;0TEARDROP-SPOKED/1;0OPEN CENTRE/2;0HEAVY/2",
     "0SIX PETALLED BLACK AND WHITE FLORETTE;0BLACK/1;0WHITE/1;0EIGHT PETALLED OUTLINED BLACK/1",
     "0CIRCLED OPEN CENTRE EIGHT POINTED STAR;0HEAVY TEARDROP-SPOKED PINWHEEL ASTERISK",
     "0SNOWFLAKE;0TIGHT TRIFOLIATE/1;0HEAVY CHEVRON/1;0SPARKLE;0HEAVY/1;0BALLOON-SPOKED ASTERISK",
     "0EIGHT TEARDROP-SPOKED PROPELLER/1;0HEAVY/4;0CROSS MARK;0SHADOWED WHITE CIRCLE",
     "0NEGATIVE SQUARED CROSS MARK;0LOWER RIGHT DROP-SHADOWED WHITE SQUARE;0UPPER/4",
     "0LOWER RIGHT SHADOWED/2;0UPPER/4;0BLACK QUESTION MARK ORNAMENT;0WHITE/3;1EXCLAMATION/2",
     "0BLACK DIAMOND MINUS WHITE X;0HEAVY EXCLAMATION MARK SYMBOL;0LIGHT VERTICAL BAR;0MEDIUM/2",
     "0HEAVY/2;1SINGLE TURNED COMMA QUOTATION MARK ORNAMENT;2/4;1DOUBLE TURNED/4;2/4",
     "1LOW SINGLE/4"]⟩,
   ⟨0x2760,
    ["0HEAVY LOW DOUBLE COMMA QUOTATION MARK ORNAMENT;0CURVED STEM PARAGRAPH SIGN/1",
     "0HEAVY EXCLAMATION MARK/1;1HEART/3;1BLACK HEART;0ROTATED HEAVY BLACK HEART BULLET",
     "0FLORAL HEART;0ROTATED FLORAL HEART BULLET;0MEDIUM LEFT PARENTHESIS ORNAMENT;1RIGHT/2",
     "1FLATTENED LEFT/2;2RIGHT/2;1LEFT-POINTING ANGLE BRACKET/1;1RIGHT-POINTING/3",
     "0HEAVY LEFT-POINTING ANGLE QUOTATION MARK/1;1RIGHT-POINTING/4",
     "1LEFT-POINTING ANGLE BRACKET/1;1RIGHT-POINTING/3;0LIGHT LEFT TORTOISE SHELL/2;1RIGHT/4",
     "0MEDIUM LEFT CURLY/2;1RIGHT/3;0DINGBAT NEGATIVE CIRCLED DIGIT ONE;4TWO;4THREE;4FOUR;4FIVE",
     "4SIX;4SEVEN;4EIGHT;4NINE;3NUMBER TEN;1CIRCLED SANS-SERIF DIGIT ONE;4TWO;4THREE;4FOUR;4FIVE",
     "4SIX;4SEVEN;4EIGHT;4NINE;3NUMBER TEN;1NEGATIVE CIRCLED SANS-SERIF DIGIT ONE;5TWO;5THREE",
     "5FOUR;5FIVE;5SIX;5SEVEN;5EIGHT;5NINE;4NUMBER TEN;0HEAVY WIDE-HEADED RIGHTWARDS ARROW",
     "1PLUS SIGN;1MINUS/1;1DIVISION/1;1SOUTH EAST ARROW;1RIGHTWARDS/1;1NORTH EAST/1",
     "0DRAFTING POINT RIGHTWARDS/1;0HEAVY ROUND-TIPPED/2;0TRIANGLE-HEADED/2;0HEAVY/3;0DASHED/3",
     "0HEAVY/4;0BLACK/2;0THREE-D TOP-LIGHTED RIGHTWARDS ARROWHEAD;1BOTTOM-LIGHTED/2;0BLACK/2",
     "0HEAVY BLACK CURVED DOWNWARDS AND RIGHTWARDS ARROW;3UPWARDS/3;0SQUAT BLACK/2",
     "0HEAVY CONCAVE-POINTED/3;0RIGHT-SHADED WHITE/2;0LEFT-SHADED/3;0BACK-TILTED SHADOWED/3",
     "0FRONT-TILTED/4;0HEAVY LOWER RIGHT-SHADOWED/3;1UPPER/4;0NOTCHED LOWER/4;0CURLY LOOP",
     "0NOTCHED UPPER RIGHT-SHADOWED WHITE RIGHTWARDS ARROW;0CIRCLED HEAVY/3;0WHITE-FEATHERED/2",
     "0BLACK-FEATHERED SOUTH EAST/1;1RIGHTWARDS/1;1NORTH EAST/1;0HEAVY BLACK-FEATHERED SOUTH/2",
     "2RIGHTWARDS/1;2NORTH EAST/1;0TEARDROP-BARBED RIGHTWARDS/1;0HEAVY TEARDROP-SHANKED/2",
     "0WEDGE-TAILED/2;0HEAVY/3;0OPEN-OUTLINED/2;0DOUBLE CURLY LOOP;0THREE DIMENSIONAL ANGLE",
     "0WHITE TRIANGLE CONTAINING SMALL WHITE TRIANGLE;0PERPENDICULAR;0OPEN SUBSET;1SUPERSET",
     "0LEFT S-SHAPED BAG DELIMITER;0RIGHT/3;0OR WITH DOT INSIDE",
     "0REVERSE SOLIDUS PRECEDING SUBSET;0SUPERSET PRECEDING SOLIDUS",
     "0VERTICAL BAR WITH HORIZONTAL STROKE;0MATHEMATICAL RISING DIAGONAL;0LONG DIVISION",
     "0MATHEMATICAL FALLING DIAGONAL;0SQUARED LOGICAL AND;2OR;0WHITE DIAMOND WITH CENTRED DOT",
     "0AND WITH/1;0ELEMENT OF OPENING UPWARDS;0LOWER RIGHT CORNER WITH DOT;0UPPER LEFT/3",
     "0LEFT OUTER JOIN;0RIGHT/2;0FULL/2;0LARGE UP TACK;1DOWN/1;0LEFT AND RIGHT DOUBLE TURNSTILE",
     "3TACK;1MULTIMAP;0LONG RIGHT TACK;1LEFT/1;0UP TACK WITH CIRCLE ABOVE",
     "0LOZENGE DIVIDED BY HORIZONTAL RULE;0WHITE CONCAVE-SIDED DIAMOND;3WITH LEFTWARDS TICK",
     "4RIGHTWARDS/1;1SQUARE WITH LEFTWARDS/1;3RIGHTWARDS/1",
     "0MATHEMATICAL LEFT WHITE SQUARE BRACKET;1RIGHT/3;1LEFT ANGLE/1;1RIGHT/2;1LEFT DOUBLE/2",
     "1RIGHT/3;1LEFT WHITE TORTOISE SHELL/1;1RIGHT/4;1LEFT FLATTENED PARENTHESIS;1RIGHT/2",
     "0UPWARDS QUADRUPLE ARROW;0DOWNWARDS/2;0ANTICLOCKWISE GAPPED CIRCLE/1;0CLOCKWISE/3",
     "0RIGHT ARROW WITH CIRCLED PLUS;0LONG LEFTWARDS ARROW;1RIGHTWARDS/1;1LEFT RIGHT/1",
     "1LEFTWARDS DOUBLE/1;1RIGHTWARDS/2;1LEFT RIGHT/2;1LEFTWARDS ARROW FROM BAR;1RIGHTWARDS/3",
     "1LEFTWARDS DOUBLE/3;1RIGHTWARDS/4;2SQUIGGLE ARROW;0BRAILLE PATTERN BLANK;2DOTS-1;2DOTS-2",
     "2DOTS-12;2DOTS-3;2DOTS-13;2DOTS-23;2DOTS-123;2DOTS-4;2DOTS-14;2DOTS-24;2DOTS-124;2DOTS-34",
     "2DOTS-134;2DOTS-234;2DOTS-1234;2DOTS-5;2DOTS-15;2DOTS-25;2DOTS-125;2DOTS-35;2DOTS-135",
     "2DOTS-235;2DOTS-1235;2DOTS-45;2DOTS-145;2DOTS-245;2DOTS-1245;2DOTS-345;2DOTS-1345",
     "2DOTS-2345;2DOTS-12345;2DOTS-6;2DOTS-16;2DOTS-26;2DOTS-126;2DOTS-36;2DOTS-136;2DOTS-236",
     "2DOTS-1236;2DOTS-46;2DOTS-146;2DOTS-246;2DOTS-1246;2DOTS-346;2DOTS-1346;2DOTS-2346",
     "2DOTS-12346;2DOTS-56;2DOTS-156;2DOTS-256;2DOTS-1256;2DOTS-356;2DOTS-1356;2DOTS-2356",
     "2DOTS-12356;2DOTS-456;2DOTS-1456;2DOTS-2456;2DOTS-12456;2DOTS-3456;2DOTS-13456;2DOTS-23456",
     "2DOTS-123456;2DOTS-7;2DOTS-17;2DOTS-27;2DOTS-127;2DOTS-37;2DOTS-137;2DOTS-237;2DOTS-1237",
     "2DOTS-47;2DOTS-147;2DOTS-247;2DOTS-1247;2DOTS-347;2DOTS-1347;2DOTS-2347;2DOTS-12347",
     "2DOTS-57;2DOTS-157;2DOTS-257;2DOTS-1257;2DOTS-357;2DOTS-1357;2DOTS-2357;2DOTS-12357",
     "2DOTS-457;2DOTS-1457;2DOTS-2457;2DOTS-12457;2DOTS-3457;2DOTS-13457;2DOTS-23457",
     "2DOTS-123457"]⟩,
   ⟨0x2860,
    ["0BRAILLE PATTERN DOTS-67;2DOTS-167;2DOTS-267;2DOTS-1267;2DOTS-367;2DOTS-1367;2DOTS-2367",
     "2DOTS-12367;2DOTS-467;2DOTS-1467;2DOTS-2467;2DOTS-12467;2DOTS-3467;2DOTS-13467;2DOTS-23467",
     "2DOTS-123467;2DOTS-567;2DOTS-1567;2DOTS-2567;2DOTS-12567;2DOTS-3567;2DOTS-13567",
     "2DOTS-23567;2DOTS-123567;2DOTS-4567;2DOTS-14567;2DOTS-24567;2DOTS-124567;2DOTS-34567",
     "2DOTS-134567;2DOTS-234567;2DOTS-1234567;2DOTS-8;2DOTS-18;2DOTS-28;2DOTS-128;2DOTS-38",
     "2DOTS-138;2DOTS-238;2DOTS-1238;2DOTS-48;2DOTS-148;2DOTS-248;2DOTS-1248;2DOTS-348",
     "2DOTS-1348;2DOTS-2348;2DOTS-12348;2DOTS-58;2DOTS-158;2DOTS-258;2DOTS-1258;2DOTS-358",
     "2DOTS-1358;2DOTS-2358;2DOTS-12358;2DOTS-458;2DOTS-1458;2DOTS-2458;2DOTS-12458;2DOTS-3458",
     "2DOTS-13458;2DOTS-23458;2DOTS-123458;2DOTS-68;2DOTS-168;2DOTS-268;2DOTS-1268;2DOTS-368",
     "2DOTS-1368;2DOTS-2368;2DOTS-12368;2DOTS-468;2DOTS-1468;2DOTS-2468;2DOTS-12468;2DOTS-3468",
     "2DOTS-13468;2DOTS-23468;2DOTS-123468;2DOTS-568;2DOTS-1568;2DOTS-2568;2DOTS-12568",
     "2DOTS-3568;2DOTS-13568;2DOTS-23568;2DOTS-123568;2DOTS-4568;2DOTS-14568;2DOTS-24568",
     "2DOTS-124568;2DOTS-34568;2DOTS-134568;2DOTS-234568;2DOTS-1234568;2DOTS-78;2DOTS-178",
     "2DOTS-278;2DOTS-1278;2DOTS-378;2DOTS-1378;2DOTS-2378;2DOTS-12378;2DOTS-478;2DOTS-1478",
     "2DOTS-2478;2DOTS-12478;2DOTS-3478;2DOTS-13478;2DOTS-23478;2DOTS-123478;2DOTS-578",
     "2DOTS-1578;2DOTS-2578;2DOTS-12578;2DOTS-3578;2DOTS-13578;2DOTS-23578;2DOTS-123578",
     "2DOTS-4578;2DOTS-14578;2DOTS-24578;2DOTS-124578;2DOTS-34578;2DOTS-134578;2DOTS-234578",
     "2DOTS-1234578;2DOTS-678;2DOTS-1678;2DOTS-2678;2DOTS-12678;2DOTS-3678;2DOTS-13678",
     "2DOTS-23678;2DOTS-123678;2DOTS-4678;2DOTS-14678;2DOTS-24678;2DOTS-124678;2DOTS-34678",
     "2DOTS-134678;2DOTS-234678;2DOTS-1234678;2DOTS-5678;2DOTS-15678;2DOTS-25678;2DOTS-125678",
     "2DOTS-35678;2DOTS-135678;2DOTS-235678;2DOTS-1235678;2DOTS-45678;2DOTS-145678;2DOTS-245678",
     "2DOTS-1245678;2DOTS-345678;2DOTS-1345678;2DOTS-2345678;2DOTS-12345678",
     "0RIGHTWARDS TWO-HEADED ARROW WITH VERTICAL STROKE;4DOUBLE/2;0LEFTWARDS DOUBLE ARROW WITH/2",
     "0RIGHTWARDS/5;0LEFT RIGHT/5;0RIGHTWARDS TWO-HEADED ARROW FROM BAR;0LEFTWARDS DOUBLE/3",
     "0RIGHTWARDS/4;0DOWNWARDS ARROW WITH HORIZONTAL STROKE;0UPWARDS/4;1TRIPLE ARROW",
     "0DOWNWARDS/2;0LEFTWARDS DOUBLE DASH/1;0RIGHTWARDS/3;0LEFTWARDS TRIPLE/2;0RIGHTWARDS/3",
     "1TWO-HEADED/3;1ARROW WITH DOTTED STEM;0UPWARDS ARROW TO BAR;0DOWNWARDS/3",
     "0RIGHTWARDS ARROW WITH TAIL WITH VERTICAL STROKE;5DOUBLE/2;1TWO-HEADED ARROW WITH TAIL",
     "5WITH VERTICAL STROKE;6DOUBLE/2;0LEFTWARDS ARROW-TAIL;0RIGHTWARDS/1;0LEFTWARDS DOUBLE/1",
     "0RIGHTWARDS/2;0LEFTWARDS ARROW TO BLACK DIAMOND;0RIGHTWARDS/4;0LEFTWARDS ARROW FROM BAR/3",
     "0RIGHTWARDS/6;0NORTH WEST AND SOUTH EAST ARROW;1EAST AND SOUTH WEST/1",
     "1WEST ARROW WITH HOOK;1EAST/3;0SOUTH/4;1WEST/3;0NORTH WEST ARROW AND NORTH EAST ARROW",
     "1EAST ARROW AND SOUTH/2;0SOUTH EAST ARROW AND SOUTH WEST/1;1WEST ARROW AND NORTH/2",
     "0RISING DIAGONAL CROSSING FALLING DIAGONAL;0FALLING DIAGONAL CROSSING RISING/1",
     "0SOUTH EAST ARROW CROSSING NORTH EAST ARROW;0NORTH EAST ARROW CROSSING SOUTH/2",
     "0FALLING DIAGONAL CROSSING NORTH/2;0RISING DIAGONAL CROSSING SOUTH/2",
     "0NORTH EAST ARROW CROSSING NORTH WEST/1;1WEST ARROW CROSSING NORTH EAST/1",
     "0WAVE ARROW POINTING DIRECTLY RIGHT;0ARROW POINTING RIGHTWARDS THEN CURVING UPWARDS",
     "5DOWNWARDS;2DOWNWARDS THEN CURVING LEFTWARDS;5RIGHTWARDS;0RIGHT-SIDE ARC CLOCKWISE ARROW",
     "0LEFT-SIDE ARC ANTICLOCKWISE/1;0TOP/3;0BOTTOM/3;0TOP ARC CLOCKWISE ARROW WITH MINUS",
     "2ANTICLOCKWISE ARROW WITH PLUS;0LOWER RIGHT SEMICIRCULAR CLOCKWISE ARROW",
     "1LEFT SEMICIRCULAR ANTICLOCKWISE/1;0ANTICLOCKWISE CLOSED CIRCLE/1;0CLOCKWISE/3",
     "0RIGHTWARDS ARROW ABOVE SHORT LEFTWARDS/1;0LEFTWARDS ARROW ABOVE SHORT RIGHTWARDS/1",
     "0SHORT RIGHTWARDS ARROW ABOVE LEFTWARDS/1;0RIGHTWARDS ARROW WITH PLUS BELOW;0LEFTWARDS/4",
     "0RIGHTWARDS ARROW THROUGH X;0LEFT RIGHT ARROW THROUGH SMALL CIRCLE",
     "0UPWARDS TWO-HEADED ARROW FROM/2;0LEFT BARB UP RIGHT BARB DOWN HARPOON",
     "2DOWN RIGHT BARB UP/1;0UP BARB RIGHT DOWN BARB LEFT/1;2LEFT DOWN BARB RIGHT/1",
     "0LEFT BARB UP RIGHT BARB UP/1;0UP BARB RIGHT DOWN BARB RIGHT/1",
     "0LEFT BARB DOWN RIGHT BARB DOWN/1;0UP BARB LEFT DOWN BARB LEFT/1",
     "0LEFTWARDS HARPOON WITH BARB UP TO BAR;0RIGHTWARDS/6;0UPWARDS HARPOON WITH BARB RIGHT/2",
     "0DOWNWARDS/6;0LEFTWARDS HARPOON WITH BARB DOWN/2;0RIGHTWARDS/6",
     "0UPWARDS HARPOON WITH BARB LEFT/2;0DOWNWARDS/6;0LEFTWARDS HARPOON WITH BARB UP FROM/1",
     "0RIGHTWARDS/6;0UPWARDS HARPOON WITH BARB RIGHT/2;0DOWNWARDS/6",
     "0LEFTWARDS HARPOON WITH BARB DOWN/2;0RIGHTWARDS/6"]⟩,
   ⟨0x2960,
    ["0UPWARDS HARPOON WITH BARB LEFT FROM BAR;0DOWNWARDS/6",
     "0LEFTWARDS HARPOON WITH BARB UP ABOVE LEFTWARDS HARPOON WITH BARB DOWN",
     "0UPWARDS HARPOON WITH BARB LEFT BESIDE UPWARDS HARPOON WITH BARB RIGHT",
     "0RIGHTWARDS HARPOON WITH BARB UP ABOVE RIGHTWARDS HARPOON WITH BARB DOWN",
     "0DOWNWARDS HARPOON WITH BARB LEFT BESIDE DOWNWARDS HARPOON WITH BARB RIGHT",
     "0LEFTWARDS HARPOON WITH BARB UP ABOVE RIGHTWARDS HARPOON WITH BARB UP",
     "4DOWN ABOVE RIGHTWARDS HARPOON WITH BARB DOWN",
     "0RIGHTWARDS HARPOON WITH BARB UP ABOVE LEFTWARDS HARPOON WITH BARB UP",
     "4DOWN ABOVE LEFTWARDS HARPOON WITH BARB DOWN",
     "0LEFTWARDS HARPOON WITH BARB UP ABOVE LONG DASH;4DOWN BELOW/2",
     "0RIGHTWARDS HARPOON WITH BARB UP ABOVE/2;4DOWN BELOW/2",
     "0UPWARDS HARPOON WITH BARB LEFT BESIDE DOWNWARDS HARPOON WITH BARB RIGHT",
     "0DOWNWARDS HARPOON WITH BARB LEFT BESIDE UPWARDS/4;0RIGHT DOUBLE ARROW WITH ROUNDED HEAD",
     "0EQUALS SIGN ABOVE RIGHTWARDS ARROW;0TILDE OPERATOR/3",
     "0LEFTWARDS ARROW ABOVE TILDE OPERATOR;0RIGHTWARDS/4;3ALMOST EQUAL TO",
     "0LESS-THAN ABOVE LEFTWARDS ARROW;0LEFTWARDS ARROW THROUGH LESS-THAN",
     "0GREATER-THAN ABOVE RIGHTWARDS ARROW;0SUBSET/3;0LEFTWARDS ARROW THROUGH SUBSET",
     "0SUPERSET ABOVE LEFTWARDS ARROW;0LEFT FISH TAIL;0RIGHT/2;0UP/2;0DOWN/2",
     "0TRIPLE VERTICAL BAR DELIMITER;0Z NOTATION SPOT;2TYPE COLON;0LEFT WHITE CURLY BRACKET",
     "0RIGHT/3;0LEFT WHITE PARENTHESIS;0RIGHT/2;0Z NOTATION LEFT IMAGE BRACKET;2RIGHT/2",
     "2LEFT BINDING/1;2RIGHT/2;0LEFT SQUARE BRACKET WITH UNDERBAR;0RIGHT/4",
     "0LEFT SQUARE BRACKET WITH TICK IN TOP CORNER;0RIGHT SQUARE BRACKET WITH TICK IN BOTTOM/1",
     "0LEFT/7;0RIGHT SQUARE BRACKET WITH TICK IN TOP/1;0LEFT ANGLE BRACKET WITH DOT;0RIGHT/4",
     "0LEFT ARC LESS-THAN BRACKET;0RIGHT ARC GREATER-THAN/1;0DOUBLE LEFT/3",
     "1RIGHT ARC LESS-THAN/1;0LEFT BLACK TORTOISE SHELL/1;0RIGHT/4;0DOTTED FENCE",
     "0VERTICAL ZIGZAG LINE;0MEASURED ANGLE OPENING LEFT;0RIGHT ANGLE VARIANT WITH SQUARE",
     "0MEASURED RIGHT ANGLE WITH DOT;0ANGLE WITH S INSIDE;0ACUTE ANGLE",
     "0SPHERICAL ANGLE OPENING LEFT;3UP;0TURNED ANGLE;0REVERSED/1;0ANGLE WITH UNDERBAR",
     "0REVERSED/3;0OBLIQUE ANGLE OPENING UP;3DOWN",
     "0MEASURED ANGLE WITH OPEN ARM ENDING IN ARROW POINTING UP AND RIGHT;9UP AND LEFT",
     "9DOWN AND RIGHT;9DOWN AND LEFT;9RIGHT AND UP;9LEFT/2;9RIGHT AND DOWN;9LEFT/2",
     "0REVERSED EMPTY SET;0EMPTY SET WITH OVERBAR;3SMALL CIRCLE ABOVE;3RIGHT ARROW/1;3LEFT/2",
     "0CIRCLE WITH HORIZONTAL BAR;0CIRCLED VERTICAL/1;1PARALLEL;1REVERSE SOLIDUS;1PERPENDICULAR",
     "0CIRCLE DIVIDED BY HORIZONTAL BAR AND TOP HALF DIVIDED BY VERTICAL BAR",
     "1WITH SUPERIMPOSED X;0CIRCLED ANTICLOCKWISE-ROTATED DIVISION SIGN;0UP ARROW THROUGH CIRCLE",
     "0CIRCLED WHITE BULLET;1/1;1LESS-THAN;1GREATER-THAN;0CIRCLE WITH SMALL CIRCLE TO THE RIGHT",
     "2TWO HORIZONTAL STROKES/3;0SQUARED RISING DIAGONAL SLASH;1FALLING/2;1ASTERISK",
     "1SMALL CIRCLE;1SQUARE;0TWO JOINED SQUARES;0TRIANGLE WITH DOT ABOVE;2UNDERBAR",
     "0S IN TRIANGLE;0TRIANGLE WITH SERIFS AT BOTTOM;0RIGHT TRIANGLE ABOVE LEFT TRIANGLE",
     "0LEFT TRIANGLE BESIDE VERTICAL BAR;0VERTICAL BAR BESIDE RIGHT TRIANGLE",
     "0BOWTIE WITH LEFT HALF BLACK;2RIGHT/2;0BLACK BOWTIE;0TIMES WITH LEFT HALF BLACK;2RIGHT/2",
     "0WHITE HOURGLASS;0BLACK/1;0LEFT WIGGLY FENCE;0RIGHT/2;0LEFT DOUBLE/2;0RIGHT/3",
     "0INCOMPLETE INFINITY;0TIE OVER/1;0INFINITY NEGATED WITH VERTICAL BAR",
     "0DOUBLE-ENDED MULTIMAP;0SQUARE WITH CONTOURED OUTLINE;0INCREASES AS;0SHUFFLE PRODUCT",
     "0EQUALS SIGN AND SLANTED PARALLEL;5WITH TILDE ABOVE;0IDENTICAL TO AND SLANTED PARALLEL",
     "0GLEICH STARK;0THERMODYNAMIC;0DOWN-POINTING TRIANGLE WITH LEFT HALF BLACK;3RIGHT/2",
     "0BLACK DIAMOND WITH DOWN ARROW;1LOZENGE;0WHITE CIRCLE WITH DOWN ARROW;0BLACK/4",
     "0ERROR-BARRED WHITE SQUARE;1BLACK/1;1WHITE DIAMOND;1BLACK/1;1WHITE CIRCLE;1BLACK/1",
     "0RULE-DELAYED;0REVERSE SOLIDUS OPERATOR;0SOLIDUS WITH OVERBAR",
     "0REVERSE SOLIDUS WITH HORIZONTAL STROKE;0BIG SOLIDUS;1REVERSE/1;0DOUBLE PLUS;0TRIPLE/1",
     "0LEFT-POINTING CURVED ANGLE BRACKET;0RIGHT-POINTING/3;0TINY;0MINY",
     "0N-ARY CIRCLED DOT OPERATOR;2PLUS/1;2TIMES/1;1UNION OPERATOR WITH DOT;4PLUS",
     "1SQUARE INTERSECTION OPERATOR;2UNION/1;0TWO LOGICAL AND/1;2OR/1;0N-ARY TIMES/1",
     "0MODULO TWO SUM;0SUMMATION WITH INTEGRAL;0QUADRUPLE INTEGRAL OPERATOR",
     "0FINITE PART INTEGRAL;0INTEGRAL WITH DOUBLE STROKE;1AVERAGE WITH SLASH",
     "0CIRCULATION FUNCTION;0ANTICLOCKWISE INTEGRATION",
     "0LINE INTEGRATION WITH RECTANGULAR PATH AROUND POLE;3SEMICIRCULAR/3;2NOT INCLUDING THE/1",
     "0INTEGRAL AROUND A POINT OPERATOR;0QUATERNION INTEGRAL/1",
     "0INTEGRAL WITH LEFTWARDS ARROW WITH HOOK;2TIMES SIGN;2INTERSECTION;2UNION;2OVERBAR",
     "2UNDERBAR;0JOIN;0LARGE LEFT TRIANGLE OPERATOR;0Z NOTATION SCHEMA COMPOSITION;3PIPING",
     "3PROJECTION;0PLUS SIGN WITH SMALL CIRCLE ABOVE;3CIRCUMFLEX ACCENT/1;3TILDE/1;3DOT BELOW",
     "3TILDE/1;3SUBSCRIPT TWO;3BLACK TRIANGLE;0MINUS SIGN WITH COMMA ABOVE;3DOT BELOW",
     "3FALLING DOTS;3RISING/1;0PLUS SIGN IN LEFT HALF CIRCLE;3RIGHT/2;0VECTOR OR CROSS PRODUCT",
     "0MULTIPLICATION SIGN WITH DOT ABOVE;3UNDERBAR;0SEMIDIRECT PRODUCT WITH BOTTOM CLOSED",
     "0SMASH PRODUCT;0MULTIPLICATION SIGN IN LEFT HALF CIRCLE;3RIGHT/2",
     "0CIRCLED MULTIPLICATION SIGN WITH CIRCUMFLEX ACCENT;0MULTIPLICATION SIGN IN DOUBLE CIRCLE",
     "0CIRCLED DIVISION SIGN;0PLUS SIGN IN TRIANGLE;0MINUS/3;0MULTIPLICATION/3;0INTERIOR PRODUCT",
     "0RIGHTHAND/2;0Z NOTATION RELATIONAL COMPOSITION;0AMALGAMATION OR COPRODUCT",
     "0INTERSECTION WITH DOT;0UNION WITH MINUS SIGN;2OVERBAR;0INTERSECTION/2;2LOGICAL AND",
     "0UNION WITH LOGICAL OR;1ABOVE INTERSECTION;0INTERSECTION ABOVE UNION",
     "0UNION ABOVE BAR ABOVE INTERSECTION;0INTERSECTION ABOVE BAR ABOVE UNION",
     "0UNION BESIDE AND JOINED WITH/1;0INTERSECTION BESIDE AND JOINED WITH INTERSECTION",
     "0CLOSED UNION WITH SERIFS;1INTERSECTION/2;0DOUBLE SQUARE INTERSECTION;2UNION",
     "0CLOSED UNION WITH SERIFS AND SMASH PRODUCT;0LOGICAL AND WITH DOT ABOVE;1OR/3",
     "0DOUBLE LOGICAL AND;2OR;0TWO INTERSECTING LOGICAL AND;3OR;0SLOPING LARGE/1;2AND",
     "0LOGICAL OR OVERLAPPING LOGICAL/1;1AND WITH MIDDLE STEM;1OR/3;1AND WITH HORIZONTAL DASH",
     "1OR/3;1AND WITH DOUBLE OVERBAR;3UNDERBAR"]⟩,
   ⟨0x2A60,
    ["0LOGICAL AND WITH DOUBLE UNDERBAR;0SMALL VEE WITH/1;0LOGICAL OR WITH DOUBLE OVERBAR",
     "4UNDERBAR;0Z NOTATION DOMAIN ANTIRESTRICTION;2RANGE/1;0EQUALS SIGN WITH DOT BELOW",
     "0IDENTICAL WITH DOT ABOVE;0TRIPLE HORIZONTAL BAR WITH DOUBLE VERTICAL STROKE;4TRIPLE/2",
     "0TILDE OPERATOR WITH DOT ABOVE;3RISING DOTS;0SIMILAR MINUS SIMILAR",
     "0CONGRUENT WITH DOT ABOVE;0EQUALS WITH ASTERISK;0ALMOST EQUAL TO WITH CIRCUMFLEX ACCENT",
     "0APPROXIMATELY EQUAL OR EQUAL TO;0EQUALS SIGN ABOVE PLUS SIGN;0PLUS SIGN ABOVE EQUALS/1",
     "0EQUALS SIGN ABOVE TILDE OPERATOR;0DOUBLE COLON EQUAL;0TWO CONSECUTIVE EQUALS SIGNS",
     "0THREE/3;0EQUALS SIGN WITH TWO DOTS ABOVE AND TWO DOTS BELOW",
     "0EQUIVALENT WITH FOUR DOTS ABOVE;0LESS-THAN WITH CIRCLE INSIDE;0GREATER-THAN/3",
     "0LESS-THAN WITH QUESTION MARK ABOVE;0GREATER-THAN/4;0LESS-THAN OR SLANTED EQUAL TO",
     "0GREATER-THAN/4;0LESS-THAN OR SLANTED EQUAL TO WITH DOT INSIDE;0GREATER-THAN/7",
     "0LESS-THAN OR SLANTED EQUAL TO WITH DOT ABOVE;0GREATER-THAN/7",
     "0LESS-THAN OR SLANTED EQUAL TO WITH DOT ABOVE RIGHT",
     "0GREATER-THAN OR SLANTED EQUAL TO WITH DOT ABOVE LEFT;0LESS-THAN OR APPROXIMATE",
     "0GREATER-THAN/2;0LESS-THAN AND SINGLE-LINE NOT EQUAL TO;0GREATER-THAN/5",
     "0LESS-THAN AND NOT APPROXIMATE;0GREATER-THAN/3",
     "0LESS-THAN ABOVE DOUBLE-LINE EQUAL ABOVE GREATER-THAN",
     "0GREATER-THAN ABOVE DOUBLE-LINE EQUAL ABOVE LESS-THAN;0LESS-THAN ABOVE SIMILAR OR EQUAL",
     "0GREATER-THAN/4;0LESS-THAN ABOVE SIMILAR ABOVE GREATER-THAN",
     "0GREATER-THAN ABOVE SIMILAR ABOVE LESS-THAN",
     "0LESS-THAN ABOVE GREATER-THAN ABOVE DOUBLE-LINE EQUAL;0GREATER-THAN ABOVE LESS-THAN/3",
     "0LESS-THAN ABOVE SLANTED EQUAL ABOVE GREATER-THAN ABOVE SLANTED/1",
     "0GREATER-THAN ABOVE SLANTED EQUAL ABOVE LESS-THAN/3;0SLANTED EQUAL TO OR LESS-THAN",
     "4GREATER-THAN;4LESS-THAN WITH DOT INSIDE;4GREATER-THAN/3",
     "0DOUBLE-LINE EQUAL TO OR LESS-THAN;4GREATER-THAN;1SLANTED EQUAL TO OR LESS-THAN",
     "5GREATER-THAN;0SIMILAR OR LESS-THAN;2GREATER-THAN;1ABOVE LESS-THAN ABOVE EQUALS SIGN",
     "2GREATER-THAN/3;0DOUBLE NESTED LESS-THAN;2GREATER-THAN;2LESS-THAN WITH UNDERBAR",
     "0GREATER-THAN OVERLAPPING LESS-THAN;1BESIDE/1;0LESS-THAN CLOSED BY CURVE;0GREATER-THAN/3",
     "0LESS-THAN CLOSED BY CURVE ABOVE SLANTED EQUAL;0GREATER-THAN/6;0SMALLER THAN;0LARGER/1",
     "0SMALLER THAN OR EQUAL TO;0LARGER/4;0EQUALS SIGN WITH BUMPY ABOVE",
     "0PRECEDES ABOVE SINGLE-LINE EQUALS SIGN;0SUCCEEDS/4",
     "0PRECEDES ABOVE SINGLE-LINE NOT EQUAL TO;0SUCCEEDS/5;0PRECEDES ABOVE EQUALS SIGN",
     "0SUCCEEDS/3;0PRECEDES ABOVE NOT EQUAL TO;0SUCCEEDS/4;0PRECEDES ABOVE ALMOST/2;0SUCCEEDS/4",
     "0PRECEDES ABOVE NOT/3;0SUCCEEDS/5;0DOUBLE PRECEDES;1SUCCEEDS;0SUBSET WITH DOT;0SUPERSET/2",
     "0SUBSET WITH PLUS SIGN BELOW;0SUPERSET/4;0SUBSET WITH MULTIPLICATION/2;0SUPERSET/4",
     "0SUBSET OF OR EQUAL TO WITH DOT ABOVE;0SUPERSET/7;0SUBSET OF ABOVE EQUALS SIGN;0SUPERSET/4",
     "0SUBSET OF ABOVE TILDE OPERATOR;0SUPERSET/4;0SUBSET OF ABOVE ALMOST EQUAL TO;0SUPERSET/5",
     "0SUBSET OF ABOVE NOT/2;0SUPERSET/5;0SQUARE LEFT OPEN BOX OPERATOR;1RIGHT/3;0CLOSED SUBSET",
     "1SUPERSET;1SUBSET OR EQUAL TO;1SUPERSET/3;0SUBSET ABOVE SUPERSET;0SUPERSET ABOVE SUBSET",
     "0SUBSET/2;0SUPERSET ABOVE SUPERSET;1BESIDE SUBSET;2AND JOINED BY DASH WITH/1",
     "0ELEMENT OF OPENING DOWNWARDS;0PITCHFORK WITH TEE TOP;0TRANSVERSAL INTERSECTION;0FORKING",
     "0NONFORKING;0SHORT LEFT TACK;1DOWN/1;1UP/1;0PERPENDICULAR WITH S",
     "0VERTICAL BAR TRIPLE RIGHT TURNSTILE;0DOUBLE VERTICAL BAR LEFT/1;0VERTICAL BAR DOUBLE/2",
     "0DOUBLE/5;0LONG DASH FROM LEFT MEMBER OF DOUBLE VERTICAL;0SHORT DOWN TACK WITH OVERBAR",
     "1UP TACK WITH UNDERBAR;3ABOVE SHORT DOWN TACK;0DOUBLE/2;1UP/1;1STROKE NOT SIGN;0REVERSED/4",
     "0DOES NOT DIVIDE WITH REVERSED NEGATION SLASH;0VERTICAL LINE WITH CIRCLE ABOVE;4BELOW",
     "0DOWN TACK/3;0PARALLEL WITH HORIZONTAL STROKE;2TILDE OPERATOR",
     "0TRIPLE VERTICAL BAR BINARY RELATION;3WITH HORIZONTAL STROKE;1COLON OPERATOR",
     "1NESTED LESS-THAN;2GREATER-THAN;0DOUBLE-LINE SLANTED LESS-THAN OR EQUAL TO;2GREATER-THAN/3",
     "0TRIPLE SOLIDUS BINARY RELATION;0LARGE TRIPLE VERTICAL BAR OPERATOR;0DOUBLE SOLIDUS/1",
     "0WHITE VERTICAL BAR;0N-ARY/3;0NORTH EAST WHITE ARROW;1WEST/2;0SOUTH EAST/2;1WEST/2",
     "0LEFT RIGHT/2;0LEFTWARDS BLACK/1;0UPWARDS/2;0DOWNWARDS/2;0NORTH EAST/2;1WEST/2",
     "0SOUTH EAST/2;1WEST/2;0LEFT RIGHT/2;0UP DOWN/2;0RIGHTWARDS ARROW WITH TIP DOWNWARDS",
     "4UPWARDS;0LEFTWARDS ARROW WITH TIP DOWNWARDS;4UPWARDS;0SQUARE WITH TOP HALF BLACK",
     "2BOTTOM/2;2UPPER RIGHT DIAGONAL/2;2LOWER LEFT/3;0DIAMOND WITH LEFT/2;2RIGHT/2;2TOP/2",
     "2BOTTOM/2;0DOTTED SQUARE;0BLACK LARGE/1;0WHITE/2;0BLACK VERY SMALL/1;0WHITE/3",
     "0BLACK PENTAGON;0WHITE/1;1HEXAGON;0BLACK/1;0HORIZONTAL/2;0BLACK LARGE CIRCLE",
     "1MEDIUM DIAMOND;0WHITE/2;0BLACK MEDIUM LOZENGE;0WHITE/2;0BLACK SMALL DIAMOND;2LOZENGE",
     "0WHITE/2;0BLACK HORIZONTAL ELLIPSE;0WHITE/2;0BLACK VERTICAL/1;0WHITE/2",
     "0LEFT ARROW WITH SMALL CIRCLE;0THREE LEFTWARDS ARROWS;0LEFT ARROW WITH CIRCLED PLUS",
     "0LONG LEFTWARDS SQUIGGLE ARROW;0LEFTWARDS TWO-HEADED ARROW WITH VERTICAL STROKE;4DOUBLE/2",
     "3FROM BAR;2TRIPLE DASH ARROW;1ARROW WITH DOTTED STEM;3TAIL WITH VERTICAL STROKE;5DOUBLE/2",
     "1TWO-HEADED ARROW WITH TAIL;5WITH VERTICAL STROKE;6DOUBLE/2;1ARROW THROUGH X",
     "0WAVE ARROW POINTING DIRECTLY LEFT;0EQUALS SIGN ABOVE LEFTWARDS ARROW",
     "0REVERSE TILDE OPERATOR/3;0LEFTWARDS ARROW ABOVE REVERSE ALMOST EQUAL TO",
     "0RIGHTWARDS ARROW THROUGH GREATER-THAN;3SUPERSET;0LEFTWARDS QUADRUPLE ARROW;0RIGHTWARDS/2",
     "0REVERSE TILDE OPERATOR ABOVE RIGHTWARDS/1;0RIGHTWARDS ARROW ABOVE REVERSE ALMOST EQUAL TO",
     "0TILDE OPERATOR ABOVE LEFTWARDS ARROW;0LEFTWARDS ARROW ABOVE ALMOST EQUAL TO",
     "3REVERSE TILDE OPERATOR;0RIGHTWARDS/5;0DOWNWARDS TRIANGLE-HEADED ZIGZAG ARROW",
     "0SHORT SLANTED NORTH/1;1BACKSLANTED SOUTH/1;0WHITE MEDIUM STAR;0BLACK SMALL/1;0WHITE/2",
     "0BLACK RIGHT-POINTING PENTAGON;0WHITE/2;0HEAVY LARGE CIRCLE;1OVAL WITH OVAL INSIDE",
     "1CIRCLE WITH CIRCLE/1;2;1CIRCLED SALTIRE;0SLANTED NORTH ARROW WITH HOOKED HEAD",
     "0BACKSLANTED SOUTH ARROW WITH HOOKED TAIL;0SLANTED NORTH ARROW WITH HORIZONTAL/1",
     "0BACKSLANTED SOUTH/4;0BENT ARROW POINTING DOWNWARDS THEN NORTH EAST;0SHORT/7"]⟩,
   ⟨0x2B60,
    ["0LEFTWARDS TRIANGLE-HEADED ARROW;0UPWARDS/2;0RIGHTWARDS/2;0DOWNWARDS/2;0LEFT RIGHT/2",
     "0UP DOWN/2;0NORTH WEST/2;1EAST/2;0SOUTH/3;1WEST/2;0LEFTWARDS TRIANGLE-HEADED DASHED/1",
     "0UPWARDS/3;0RIGHTWARDS/3;0DOWNWARDS/3;0CLOCKWISE TRIANGLE-HEADED OPEN CIRCLE/1",
     "0ANTICLOCKWISE/4;0LEFTWARDS TRIANGLE-HEADED ARROW TO BAR;0UPWARDS/4;0RIGHTWARDS/4",
     "0DOWNWARDS/4;;;0NORTH WEST/4;1EAST/4;0SOUTH/5;1WEST/4",
     "0LEFTWARDS TRIANGLE-HEADED ARROW WITH DOUBLE HORIZONTAL STROKE;0UPWARDS/6;0RIGHTWARDS/6",
     "0DOWNWARDS/6;0HORIZONTAL TAB KEY;0VERTICAL/2",
     "0LEFTWARDS TRIANGLE-HEADED ARROW OVER RIGHTWARDS TRIANGLE-HEADED ARROW",
     "0UPWARDS TRIANGLE-HEADED ARROW LEFTWARDS OF DOWNWARDS/2",
     "0RIGHTWARDS TRIANGLE-HEADED ARROW OVER LEFTWARDS/2",
     "0DOWNWARDS TRIANGLE-HEADED ARROW LEFTWARDS OF UPWARDS/2",
     "0LEFTWARDS TRIANGLE-HEADED PAIRED ARROWS;0UPWARDS/3;0RIGHTWARDS/3;0DOWNWARDS/3",
     "0LEFTWARDS BLACK CIRCLED WHITE ARROW;0UPWARDS/4;0RIGHTWARDS/4;0DOWNWARDS/4",
     "0ANTICLOCKWISE TRIANGLE-HEADED RIGHT U-SHAPED/1;2BOTTOM/2;2LEFT/2;2TOP/2;0RETURN LEFT",
     "1RIGHT;0NEWLINE LEFT;1RIGHT;0FOUR CORNER ARROWS CIRCLING ANTICLOCKWISE",
     "0RIGHTWARDS BLACK ARROW;;0SYMBOL FOR TYPE A ELECTRONICS",
     "0THREE-D TOP-LIGHTED LEFTWARDS EQUILATERAL ARROWHEAD;1RIGHT-LIGHTED UPWARDS/2",
     "1TOP-LIGHTED RIGHTWARDS/2;1LEFT-LIGHTED DOWNWARDS/2;0BLACK LEFTWARDS/2;1UPWARDS/2",
     "1RIGHTWARDS/2;1DOWNWARDS/2;0DOWNWARDS TRIANGLE-HEADED ARROW WITH LONG TIP LEFTWARDS",
     "6RIGHTWARDS;0UPWARDS TRIANGLE-HEADED ARROW WITH LONG TIP LEFTWARDS;6RIGHTWARDS",
     "0LEFTWARDS TRIANGLE-HEADED ARROW WITH LONG TIP UPWARDS;0RIGHTWARDS/6",
     "0LEFTWARDS TRIANGLE-HEADED ARROW WITH LONG TIP DOWNWARDS;0RIGHTWARDS/6",
     "0BLACK CURVED DOWNWARDS AND LEFTWARDS ARROW;4RIGHTWARDS/1;2UPWARDS AND LEFTWARDS/1",
     "4RIGHTWARDS/1;2LEFTWARDS AND UPWARDS/1;2RIGHTWARDS/3;2LEFTWARDS AND DOWNWARDS/1",
     "2RIGHTWARDS/3;0RIBBON ARROW DOWN LEFT;3RIGHT;2UP LEFT;3RIGHT;2LEFT UP;2RIGHT/1;2LEFT DOWN",
     "2RIGHT/1;0UPWARDS WHITE ARROW FROM BAR WITH HORIZONTAL BAR",
     "0UP ARROWHEAD IN A RECTANGLE BOX;0OVERLAPPING WHITE SQUARES;2AND BLACK/1;1/2",
     "0BALLOT BOX WITH LIGHT X;0CIRCLED/1;1BOLD/1;0BLACK SQUARE CENTRED;1DIAMOND/1",
     "0TURNED BLACK PENTAGON;0HORIZONTAL BLACK OCTAGON;0/2;1MEDIUM UP-POINTING TRIANGLE CENTRED",
     "2DOWN-POINTING/2;2LEFT-POINTING/2;2RIGHT-POINTING/2;0NEPTUNE FORM TWO",
     "0TOP HALF BLACK CIRCLE;0BOTTOM/3;0LIGHT FOUR POINTED BLACK CUSP;0ROTATED/5",
     "0WHITE FOUR POINTED/1;0ROTATED/4;0SQUARE POSITION INDICATOR;0UNCERTAINTY SIGN;0GROUP MARK",
     "0PLUTO FORM TWO;2THREE;2FOUR;2FIVE;0TRANSPLUTO;0PROSERPINA;0ASTRAEA;0HYGIEA;0PHOLUS",
     "0NESSUS;0WHITE MOON SELENA;0BLACK DIAMOND ON CROSS;0TRUE LIGHT MOON ARTA;0CUPIDO;0HADES",
     "0ZEUS;0KRONOS;0APOLLON;0ADMETOS;0VULCANUS;0POSEIDON;0LEFT HALF BLACK STAR;0RIGHT/3",
     "0STAR WITH LEFT HALF BLACK;2RIGHT/2;0LEFTWARDS TWO-HEADED ARROW WITH TRIANGLE ARROWHEADS",
     "0UPWARDS/5;0RIGHTWARDS/5;0DOWNWARDS/5;0ERIS FORM ONE;2TWO;0SEDNA",
     "0RUSSIAN ASTROLOGICAL SYMBOL VIGINTILE;3NOVILE;3QUINTILE;3BINOVILE;3SENTAGON;3TREDECILE",
     "0EQUALS SIGN WITH INFINITY BELOW;0UNITED SYMBOL;0SEPARATED/1;0DOUBLED/1;0PASSED/1",
     "0REVERSED RIGHT ANGLE;0HELLSCHREIBER PAUSE SYMBOL;0GLAGOLITIC CAPITAL LETTER AZU;3BUKY",
     "3VEDE;3GLAGOLI;3DOBRO;3YESTU;3ZHIVETE;3DZELO;3ZEMLJA;3IZHE;3INITIAL/1;3I;3DJERVI;3KAKO",
     "3LJUDIJE;3MYSLITE;3NASHI;3ONU;3POKOJI;3RITSI;3SLOVO;3TVRIDO;3UKU;3FRITU;3HERU;3OTU;3PE",
     "3SHTA;3TSI;3CHRIVI;3SHA;3YERU;3YERI;3YATI;3SPIDERY HA;3YU;3SMALL YUS;5WITH TAIL;3YO",
     "3IOTATED SMALL YUS;3BIG/1;3IOTATED/2;3FITA;3IZHITSA;3SHTAPIC;3TROKUTASTI A",
     "3LATINATE MYSLITE;3CAUDATE CHRIVI;1SMALL LETTER AZU;3BUKY;3VEDE;3GLAGOLI;3DOBRO;3YESTU",
     "3ZHIVETE;3DZELO;3ZEMLJA;3IZHE;3INITIAL/1;3I;3DJERVI;3KAKO;3LJUDIJE;3MYSLITE;3NASHI;3ONU",
     "3POKOJI;3RITSI;3SLOVO;3TVRIDO;3UKU;3FRITU;3HERU;3OTU;3PE;3SHTA;3TSI;3CHRIVI;3SHA;3YERU",
     "3YERI;3YATI;3SPIDERY HA;3YU;3SMALL YUS;5WITH TAIL;3YO;3IOTATED SMALL YUS;3BIG/1;3IOTATED/2",
     "3FITA;3IZHITSA;3SHTAPIC;3TROKUTASTI A;3LATINATE MYSLITE;3CAUDATE CHRIVI"]⟩,
   ⟨0x2C60,
    ["0LATIN CAPITAL LETTER L WITH DOUBLE BAR;1SMALL/5;1CAPITAL LETTER L WITH MIDDLE TILDE",
     "3P WITH STROKE;3R WITH TAIL;1SMALL LETTER A WITH STROKE;3T WITH DIAGONAL/1",
     "1CAPITAL LETTER H WITH DESCENDER;1SMALL/4;1CAPITAL LETTER K/2;1SMALL/4;1CAPITAL LETTER Z/2",
     "1SMALL/4;1CAPITAL LETTER ALPHA;3M WITH HOOK;3TURNED A;4ALPHA",
     "1SMALL LETTER V WITH RIGHT HOOK;1CAPITAL LETTER W WITH/1;1SMALL/4;3V WITH CURL",
     "1CAPITAL LETTER HALF H;1SMALL/3;3TAILLESS PHI;3E WITH NOTCH;3TURNED R WITH TAIL",
     "3O WITH LOW RING INSIDE;1LETTER SMALL CAPITAL TURNED E;1SUBSCRIPT SMALL LETTER J",
     "0MODIFIER LETTER CAPITAL V;0LATIN CAPITAL LETTER S WITH SWASH TAIL;3Z/3",
     "0COPTIC CAPITAL LETTER ALFA;1SMALL/2;1CAPITAL LETTER VIDA;1SMALL/2;1CAPITAL LETTER GAMMA",
     "1SMALL/2;1CAPITAL LETTER DALDA;1SMALL/2;1CAPITAL LETTER EIE;1SMALL/2;1CAPITAL LETTER SOU",
     "1SMALL/2;1CAPITAL LETTER ZATA;1SMALL/2;1CAPITAL LETTER HATE;1SMALL/2",
     "1CAPITAL LETTER THETHE;1SMALL/2;1CAPITAL LETTER IAUDA;1SMALL/2;1CAPITAL LETTER KAPA",
     "1SMALL/2;1CAPITAL LETTER LAULA;1SMALL/2;1CAPITAL LETTER MI;1SMALL/2;1CAPITAL LETTER NI",
     "1SMALL/2;1CAPITAL LETTER KSI;1SMALL/2;1CAPITAL LETTER O;1SMALL/2;1CAPITAL LETTER PI",
     "1SMALL/2;1CAPITAL LETTER RO;1SMALL/2;1CAPITAL LETTER SIMA;1SMALL/2;1CAPITAL LETTER TAU",
     "1SMALL/2;1CAPITAL LETTER UA;1SMALL/2;1CAPITAL LETTER FI;1SMALL/2;1CAPITAL LETTER KHI",
     "1SMALL/2;1CAPITAL LETTER PSI;1SMALL/2;1CAPITAL LETTER OOU;1SMALL/2",
     "1CAPITAL LETTER DIALECT-P ALEF;1SMALL/3;1CAPITAL LETTER OLD COPTIC AIN;1SMALL/4",
     "1CAPITAL LETTER CRYPTOGRAMMIC EIE;1SMALL/3;1CAPITAL LETTER DIALECT-P KAPA;1SMALL/3",
     "1CAPITAL LETTER DIALECT-P NI;1SMALL/3;1CAPITAL LETTER CRYPTOGRAMMIC/1;1SMALL/3",
     "1CAPITAL LETTER OLD COPTIC OOU;1SMALL/4;1CAPITAL LETTER SAMPI;1SMALL/2",
     "1CAPITAL LETTER CROSSED SHEI;1SMALL/3;1CAPITAL LETTER OLD COPTIC/1;1SMALL/4",
     "1CAPITAL LETTER OLD COPTIC ESH;1SMALL/4;1CAPITAL LETTER AKHMIMIC KHEI;1SMALL/3",
     "1CAPITAL LETTER DIALECT-P HORI;1SMALL/3;1CAPITAL LETTER OLD COPTIC/1;1SMALL/4",
     "1CAPITAL LETTER OLD COPTIC HA;1SMALL/4;1CAPITAL LETTER L-SHAPED/1;1SMALL/3",
     "1CAPITAL LETTER OLD COPTIC HEI;1SMALL/4;1CAPITAL LETTER OLD COPTIC HAT;1SMALL/4",
     "1CAPITAL LETTER OLD COPTIC GANGIA;1SMALL/4;1CAPITAL LETTER OLD COPTIC DJA;1SMALL/4",
     "1CAPITAL LETTER OLD COPTIC SHIMA;1SMALL/4;1CAPITAL LETTER OLD NUBIAN/1;1SMALL/4",
     "1CAPITAL LETTER OLD NUBIAN NGI;1SMALL/4;1CAPITAL LETTER OLD NUBIAN NYI;1SMALL/4",
     "1CAPITAL LETTER OLD NUBIAN WAU;1SMALL/4;1SYMBOL KAI;2MI RO;2PI/1;2STAUROS;2TAU RO;2KHI/1",
     "2SHIMA SIMA;1CAPITAL LETTER CRYPTOGRAMMIC SHEI;1SMALL/3",
     "1CAPITAL LETTER CRYPTOGRAMMIC GANGIA;1SMALL/3;1COMBINING NI ABOVE;2SPIRITUS ASPER;3LENIS",
     "1CAPITAL LETTER BOHAIRIC KHEI;1SMALL/3"]⟩,
   ⟨0x2CF9,
    ["0COPTIC OLD NUBIAN FULL STOP;3DIRECT QUESTION MARK;3INDIRECT/2;3VERSE DIVIDER",
     "1FRACTION ONE HALF;1FULL STOP;1MORPHOLOGICAL DIVIDER;0GEORGIAN SMALL LETTER AN;3BAN;3GAN",
     "3DON;3EN;3VIN;3ZEN;3TAN;3IN;3KAN;3LAS;3MAN;3NAR;3ON;3PAR;3ZHAR;3RAE;3SAN;3TAR;3UN;3PHAR",
     "3KHAR;3GHAN;3QAR;3SHIN;3CHIN;3CAN;3JIL;3CIL;3CHAR;3XAN;3JHAN;3HAE;3HE;3HIE;3WE;3HAR;3HOE;",
     "3YN"]⟩,
   ⟨0x2D2D,
    ["0GEORGIAN SMALL LETTER AEN;;;0TIFINAGH LETTER YA;2YAB;2YABH;2YAG;2YAGHH",
     "2BERBER ACADEMY YAJ;2/1;2YAD;2YADH;2YADD;2YADDH;2YEY;2YAF;2YAK;2TUAREG/1;2YAKHH;2YAH",
     "2BERBER ACADEMY/1;2TUAREG/1;2YAHH;2YAA;2YAKH;2TUAREG/1;2YAQ;2TUAREG/1;2YI;2YAZH;2AHAGGAR/1",
     "2TUAREG/1;2YAL;2YAM;2YAN;2TUAREG YAGN;3YANG;2YAP;2YU;2YAR;2YARR;2YAGH;2TUAREG/1;2AYER/1",
     "2YAS;2YASS;2YASH;2YAT;2YATH;2YACH;2YATT;2YAV;2YAW;2YAY;2YAZ;2TAWELLEMET/1;2YAZZ;2YE;2YO"]⟩,
   ⟨0x2D6F,
    ["0TIFINAGH MODIFIER LETTER LABIALIZATION MARK;1SEPARATOR/1"]⟩,
   ⟨0x2D7F,
    ["0TIFINAGH CONSONANT JOINER;0ETHIOPIC SYLLABLE LOA;2MOA;2ROA;2SOA;2SHOA;2BOA;2TOA;2COA;2NOA",
     "2NYOA;2GLOTTAL OA;2ZOA;2DOA;2DDOA;2JOA;2THOA;2CHOA;2PHOA;2POA;2GGWA;2GGWI;2GGWEE;2GGWE"]⟩,
   ⟨0x2DA0,
    ["0ETHIOPIC SYLLABLE SSA;2SSU;2SSI;2SSAA;2SSEE;2SSE;2SSO;;2CCA;2CCU;2CCI;2CCAA;2CCEE;2CCE",
     "2CCO;;2ZZA;2ZZU;2ZZI;2ZZAA;2ZZEE;2ZZE;2ZZO;;2CCHA;2CCHU;2CCHI;2CCHAA;2CCHEE;2CCHE;2CCHO;",
     "2QYA;2QYU;2QYI;2QYAA;2QYEE;2QYE;2QYO;;2KYA;2KYU;2KYI;2KYAA;2KYEE;2KYE;2KYO;;2XYA;2XYU;2XYI",
     "2XYAA;2XYEE;2XYE;2XYO;;2GYA;2GYU;2GYI;2GYAA;2GYEE;2GYE;2GYO;;0COMBINING CYRILLIC LETTER BE",
     "3VE;3GHE;3DE;3ZHE;3ZE;3KA;3EL;3EM;3EN;3O;3PE;3ER;3ES;3TE;3HA;3TSE;3CHE;3SHA;3SHCHA;3FITA",
     "3ES-TE;3A;3IE;3DJERV;3MONOGRAPH UK;3YAT;3YU;3IOTIFIED A;3LITTLE YUS;3BIG/1;3IOTIFIED/2",
     "0RIGHT ANGLE SUBSTITUTION MARKER;2DOTTED/2;0LEFT SUBSTITUTION BRACKET;0RIGHT/2",
     "0LEFT DOTTED/2;0RIGHT/3;0RAISED INTERPOLATION MARKER;1DOTTED/2;0DOTTED TRANSPOSITION/1",
     "0LEFT TRANSPOSITION BRACKET;0RIGHT/2;0RAISED SQUARE;0LEFT RAISED OMISSION BRACKET;0RIGHT/3",
     "0EDITORIAL CORONIS;0PARAGRAPHOS;0FORKED/1;0REVERSED/2;0HYPODIASTOLE;0DOTTED OBELOS",
     "0DOWNWARDS ANCORA;0UPWARDS/1;0DOTTED RIGHT-POINTING ANGLE;0DOUBLE OBLIQUE HYPHEN",
     "0INVERTED INTERROBANG;0PALM BRANCH;0HYPHEN WITH DIAERESIS;0TILDE WITH RING ABOVE",
     "0LEFT LOW PARAPHRASE BRACKET;0RIGHT/3;0TILDE WITH DOT ABOVE;3BELOW",
     "0LEFT VERTICAL BAR WITH QUILL;0RIGHT/4;0TOP LEFT HALF BRACKET;1RIGHT/2;0BOTTOM LEFT/2",
     "1RIGHT/2;0LEFT SIDEWAYS U/1;0RIGHT/3;0LEFT DOUBLE PARENTHESIS;0RIGHT/2",
     "0TWO DOTS OVER ONE DOT PUNCTUATION;0ONE DOT OVER TWO DOTS/1;0SQUARED FOUR DOT/1",
     "0FIVE DOT MARK;0REVERSED QUESTION/1;0VERTICAL TILDE;0RING POINT;0WORD SEPARATOR MIDDLE DOT",
     "0TURNED COMMA;0RAISED DOT;1COMMA;0TURNED SEMICOLON;0DAGGER WITH LEFT GUARD;2RIGHT/1",
     "0TURNED DAGGER;0TOP HALF SECTION SIGN;0TWO-EM DASH;0THREE-EM/1;0STENOGRAPHIC FULL STOP",
     "0VERTICAL SIX DOTS;0WIGGLY VERTICAL LINE;0CAPITULUM;0DOUBLE HYPHEN;0REVERSED COMMA",
     "0DOUBLE LOW-REVERSED-9 QUOTATION MARK;0DASH WITH LEFT UPTURN;0DOUBLE SUSPENSION MARK",
     "0INVERTED LOW KAVYKA;3WITH KAVYKA ABOVE;0LOW KAVYKA;2WITH DOT;0DOUBLE STACKED COMMA",
     "0DOTTED SOLIDUS;0TRIPLE DAGGER;0MEDIEVAL COMMA;0PARAGRAPHUS MARK;0PUNCTUS ELEVATUS/1",
     "0CORNISH VERSE DIVIDER;0CROSS PATTY WITH RIGHT CROSSBAR;3LEFT/1;0TIRONIAN SIGN CAPITAL ET",
     "0MEDIEVAL EXCLAMATION MARK;1QUESTION/1;0LEFT SQUARE BRACKET WITH STROKE;0RIGHT/4",
     "0LEFT SQUARE BRACKET WITH DOUBLE/1;0RIGHT/5;0TOP HALF LEFT PARENTHESIS;2RIGHT/1",
     "0BOTTOM HALF LEFT/1;2RIGHT/1;0OBLIQUE HYPHEN"]⟩,
   ⟨0x2E80,
    ["0CJK RADICAL REPEAT;2CLIFF;2SECOND ONE;3TWO;3THREE;2PERSON;2BOX;2TABLE;2KNIFE ONE;3TWO",
     "2DIVINATION;2SEAL;2SMALL ONE;3TWO;2LAME ONE;3TWO;3THREE;3FOUR;2SNAKE;2THREAD;2SNOUT ONE",
     "3TWO;2HEART ONE;3TWO;2HAND;2RAP;;2CHOKE;2SUN;2MOON;2DEATH;2MOTHER;2CIVILIAN;2WATER ONE",
     "3TWO;2FIRE;2PAW ONE;3TWO;2SIMPLIFIED HALF TREE TRUNK;2COW;2DOG;2JADE;2BOLT OF CLOTH;2EYE",
     "2SPIRIT ONE;3TWO;2BAMBOO;2SILK;2C-SIMPLIFIED/1;2NET ONE;3TWO;3THREE;3FOUR;2MESH;2SHEEP",
     "2RAM;2EWE;2OLD;2BRUSH ONE;3TWO;2MEAT;2MORTAR;2GRASS ONE;3TWO;3THREE;2TIGER;2CLOTHES",
     "2WEST ONE;3TWO;2C-SIMPLIFIED SEE;2SIMPLIFIED HORN;2/1;2C-SIMPLIFIED SPEECH;3SHELL;2FOOT",
     "2C-SIMPLIFIED CART;2SIMPLIFIED WALK;2WALK ONE;3TWO;2CITY;2C-SIMPLIFIED GOLD;2LONG ONE;3TWO",
     "2C-SIMPLIFIED LONG;3GATE;2MOUND ONE;3TWO;2RAIN;2BLUE;2C-SIMPLIFIED TANNED LEATHER;3LEAF",
     "3WIND;3FLY;2EAT ONE;3TWO;3THREE;2C-SIMPLIFIED EAT;2HEAD;2C-SIMPLIFIED HORSE;2BONE;2GHOST",
     "2C-SIMPLIFIED FISH;3BIRD;3SALT;2SIMPLIFIED WHEAT;3YELLOW;2C-SIMPLIFIED FROG",
     "2J-SIMPLIFIED EVEN;2C-SIMPLIFIED/1;2J-SIMPLIFIED TOOTH;2C-SIMPLIFIED/1",
     "2J-SIMPLIFIED DRAGON;2C-SIMPLIFIED/1;2TURTLE;2J-SIMPLIFIED/1;2C-SIMPLIFIED/1"]⟩]

end Provisioning.Text
