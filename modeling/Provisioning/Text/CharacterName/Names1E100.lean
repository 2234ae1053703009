import Provisioning.Text.CharacterName.Coding

/-!
# Names of characters from U+1E100 on
-/

set_option autoImplicit false

namespace Provisioning.Text

/-- Names from U+1E100 on. -/
def names1E100 : List NameBlock :=
  [⟨0x1E100,
    ["0NYIAKENG PUACHUE HMONG LETTER MA;4TSA;4NTA;4TA;4HA;4NA;4XA;4NKA;4CA;4LA;4SA;4ZA;4NCA",
     "4NTSA;4KA;4DA;4NYA;4NRA;4VA;4NTXA;4TXA;4FA;4RA;4QA;4YA;4NQA;4PA;4XYA;4NPA;4DLA;4NPLA;4HAH",
     "4MLA;4PLA;4GA;4RRA;4A;4AA;4I;4U;4O;4OO;4E;4EE;4W;;;;3TONE-B;3TONE-M;3TONE-J;3TONE-V",
     "3TONE-S;3TONE-G;3TONE-D;3SIGN FOR PERSON;5THING;5LOCATION;5ANIMAL;5INVERTEBRATE;4XW XW",
     "3SYLLABLE LENGTHENER;;;3DIGIT ZERO;4ONE;4TWO;4THREE;4FOUR;4FIVE;4SIX;4SEVEN;4EIGHT;4NINE"]⟩,
   ⟨0x1E14E,
    ["0NYIAKENG PUACHUE HMONG LOGOGRAM NYAJ;3CIRCLED CA"]⟩,
   ⟨0x1E290,
    ["0TOTO LETTER PA;2BA;2TA;2DA;2KA;2GA;2MA;2NA;2NGA;2SA;2CHA;2YA;2WA;2JA;2HA;2RA;2LA;2I",
     "2BREATHY/1;2IU;2BREATHY/1;2U;2E;2BREATHY/1;2EO;2BREATHY/1;2O;2AE;2BREATHY/1;2A",
     "1SIGN RISING TONE"]⟩,
   ⟨0x1E2C0,
    ["0WANCHO LETTER AA;2A;2BA;2CA;2DA;2GA;2YA;2PHA;2LA;2NA;2PA;2TA;2THA;2FA;2SA;2SHA;2JA;2ZA",
     "2WA;2VA;2KA;2O;2AU;2RA;2MA;2KHA;2HA;2E;2I;2NGA;2U;2LLHA;2TSA;2TRA;2ONG;2AANG;2ANG;2ING;2ON",
     "2EN;2AAN;2NYA;2UEN;2YIH;1TONE TUP;2TUPNI;2KOI;2KOINI;1DIGIT ZERO;2ONE;2TWO;2THREE;2FOUR",
     "2FIVE;2SIX;2SEVEN;2EIGHT;2NINE"]⟩,
   ⟨0x1E2FF,
    ["0WANCHO NGUN SIGN"]⟩,
   ⟨0x1E7E0,
    ["0ETHIOPIC SYLLABLE HHYA;2HHYU;2HHYI;2HHYAA;2HHYEE;2HHYE;2HHYO;;2GURAGE HHWA;2HHWI;2HHWEE",
     "2HHWE;;2GURAGE MWI;3MWEE;;3QWI;3QWEE;3QWE;3BWI;3BWEE;3KWI;3KWEE;3KWE;3GWI;3GWEE;3GWE;3FWI",
     "3FWEE;3PWI;3PWEE;;0MENDE KIKAKUI SYLLABLE M001 KI;3M002 KA;3M003 KU;3M065 KEE;3M095 KE",
     "3M076 KOO;3M048 KO;3M179 KUA;3M004 WI;3M005 WA;3M006 WU;3M126 WEE;3M118 WE;3M114 WOO",
     "3M045 WO;3M194 WUI;3M143 WEI;3M061 WVI;3M049 WVA;3M139 WVE;3M007 MIN;3M008 MAN;3M009 MUN",
     "3M059 MEN;3M094 MON;3M154 MUAN;3M189 MUEN;3M010 BI;3M011 BA;3M012 BU;3M150 BEE;3M097 BE",
     "3M103 BOO;3M138 BO;3M013 I;3M014 A;3M015 U;3M163 EE;3M100 E;3M165 OO;3M147 O;3M137 EI",
     "3M131 IN;3M135/1;3M195 AN;3M178 EN;3M019 SI;3M020 SA;3M021 SU;3M162 SEE;3M116 SE;3M136 SOO",
     "3M079 SO;3M196 SIA;3M025 LI;3M026 LA;3M027 LU;3M084 LEE;3M073 LE;3M054 LOO;3M153 LO",
     "3M110 LONG LE;3M016 DI;3M017 DA;3M018 DU;3M089 DEE;3M180 DOO;3M181 DO;3M022 TI;3M023 TA",
     "3M024 TU;3M091 TEE;3M055 TE;3M104 TOO;3M069 TO;3M028 JI;3M029 JA;3M030 JU;3M157 JEE",
     "3M113 JE;3M160 JOO;3M063 JO;3M175 LONG/1;3M031 YI;3M032 YA;3M033 YU;3M109 YEE;3M080 YE",
     "3M141 YOO;3M121 YO;3M034 FI;3M035 FA;3M036 FU;3M078 FEE;3M075 FE;3M133 FOO;3M088 FO",
     "3M197 FUA;3M101 FAN;3M037 NIN;3M038 NAN;3M039 NUN;3M117 NEN;3M169 NON;3M176 HI;3M041 HA",
     "3M186 HU;3M040 HEE;3M096 HE;3M042 HOO;3M140 HO;3M083 HEEI;3M128 HOOU;3M053 HIN;3M130 HAN",
     "3M087 HUN;3M052 HEN;3M193 HON;3M046 HUAN;3M090 NGGI;3M043 NGGA;3M082 NGGU;3M115 NGGEE",
     "3M146 NGGE;3M156 NGGOO;3M120 NGGO;3M159 NGGAA;3M127 NGGUA;3M086 LONG NGGE;3M106 LONG NGGOO",
     "3M183 LONG NGGO;3M155 GI;3M111 GA;3M168 GU;3M190 GEE;3M166 GUEI;3M167 GUAN;3M184 NGEN",
     "3M057 NGON;3M177 NGUAN;3M068 PI;3M099 PA;3M050 PU;3M081 PEE;3M051 PE;3M102 POO;3M066 PO",
     "3M145 MBI;3M062 MBA;3M122 MBU;3M047 MBEE;3M188/1;3M072 MBE;3M172 MBOO;3M174 MBO;3M187 MBUU",
     "3M161 LONG MBE;3M105 LONG MBOO;3M142 LONG MBO;3M132 KPI;3M092 KPA;3M074 KPU;3M044 KPEE",
     "3M108 KPE;3M112 KPOO;3M158 KPO;3M124 GBI;3M056 GBA;3M148 GBU;3M093 GBEE;3M107 GBE",
     "3M071 GBOO;3M070 GBO;3M171 RA;3M123 NDI;3M129 NDA;3M125 NDU;3M191 NDEE;3M119 NDE",
     "3M067 NDOO;3M064 NDO;3M152 NJA;3M192 NJU;3M149 NJEE;3M134 NJOO;3M182 VI;3M185 VA;3M151 VU",
     "3M173 VEE;3M085 VE;3M144 VOO;3M077 VO;3M164 NYIN;3M058 NYAN;3M170 NYUN;3M098 NYEN",
     "3M060 NYON;;;2DIGIT ONE;3TWO;3THREE;3FOUR;3FIVE;3SIX;3SEVEN;3EIGHT;3NINE",
     "2COMBINING NUMBER TEENS;4TENS;4HUNDREDS;4THOUSANDS;4TEN/1;4HUNDRED/1;4MILLIONS"]⟩,
   ⟨0x1E900,
    ["0ADLAM CAPITAL LETTER ALIF;3DAALI;3LAAM;3MIIM;3BA;3SINNYIIYHE;3PE;3BHE;3RA;3E;3FA;3I;3O",
     "3DHA;3YHE;3WAW;3NUN;3KAF;3YA;3U;3JIIM;3CHI;3HA;3QAAF;3GA;3NYA;3TU;3NHA;3VA;3KHA;3GBE;3ZAL",
     "3KPO;3SHA;1SMALL LETTER ALIF;3DAALI;3LAAM;3MIIM;3BA;3SINNYIIYHE;3PE;3BHE;3RA;3E;3FA;3I;3O",
     "3DHA;3YHE;3WAW;3NUN;3KAF;3YA;3U;3JIIM;3CHI;3HA;3QAAF;3GA;3NYA;3TU;3NHA;3VA;3KHA;3GBE;3ZAL",
     "3KPO;3SHA;1ALIF LENGTHENER;1VOWEL/1;1GEMINATION MARK;1HAMZA;1CONSONANT MODIFIER",
     "1GEMINATE/2;1NUKTA;1NASALIZATION MARK"]⟩,
   ⟨0x1E950,
    ["0ADLAM DIGIT ZERO;2ONE;2TWO;2THREE;2FOUR;2FIVE;2SIX;2SEVEN;2EIGHT;2NINE"]⟩,
   ⟨0x1E95E,
    ["0ADLAM INITIAL EXCLAMATION MARK;2QUESTION/1"]⟩,
   ⟨0x1EC71,
    ["0INDIC SIYAQ NUMBER ONE;3TWO;3THREE;3FOUR;3FIVE;3SIX;3SEVEN;3EIGHT;3NINE;3TEN;3TWENTY",
     "3THIRTY;3FORTY;3FIFTY;3SIXTY;3SEVENTY;3EIGHTY;3NINETY;3ONE HUNDRED;3TWO/1;3THREE/1;3FOUR/1",
     "3FIVE/1;3SIX/1;3SEVEN/1;3EIGHT/1;3NINE/1;3ONE THOUSAND;3TWO/1;3THREE/1;3FOUR/1;3FIVE/1",
     "3SIX/1;3SEVEN/1;3EIGHT/1;3NINE/1;3TEN/1;3TWENTY/1;3THIRTY/1;3FORTY/1;3FIFTY/1;3SIXTY/1",
     "3SEVENTY/1;3EIGHTY/1;3NINETY/1;3LAKH;3LAKHAN;2LAKH MARK;2NUMBER KAROR;3KARORAN",
     "3PREFIXED ONE;4TWO;4THREE;4FOUR;4FIVE;4SIX;4SEVEN;4EIGHT;4NINE;2PLACEHOLDER",
     "2FRACTION ONE QUARTER;4HALF;3THREE QUARTERS;2RUPEE MARK;2NUMBER ALTERNATE ONE;4TWO",
     "4TEN THOUSAND;2ALTERNATE LAKH MARK"]⟩,
   ⟨0x1ED01,
    ["0OTTOMAN SIYAQ NUMBER ONE;3TWO;3THREE;3FOUR;3FIVE;3SIX;3SEVEN;3EIGHT;3NINE;3TEN;3TWENTY",
     "3THIRTY;3FORTY;3FIFTY;3SIXTY;3SEVENTY;3EIGHTY;3NINETY;3ONE HUNDRED;3TWO/1;3THREE/1;3FOUR/1",
     "3FIVE/1;3SIX/1;3SEVEN/1;3EIGHT/1;3NINE/1;3ONE THOUSAND;3TWO/1;3THREE/1;3FOUR/1;3FIVE/1",
     "3SIX/1;3SEVEN/1;3EIGHT/1;3NINE/1;3TEN/1;3TWENTY/1;3THIRTY/1;3FORTY/1;3FIFTY/1;3SIXTY/1",
     "3SEVENTY/1;3EIGHTY/1;3NINETY/1;2MARRATAN;2ALTERNATE NUMBER TWO;4THREE;4FOUR;4FIVE;4SIX",
     "4SEVEN;4EIGHT;4NINE;4TEN;4FOUR HUNDRED;4SIX/1;4TWO THOUSAND;4TEN/1;2FRACTION ONE HALF",
     "4SIXTH"]⟩,
   ⟨0x1EE00,
    ["0ARABIC MATHEMATICAL ALEF;2BEH;2JEEM;2DAL;;2WAW;2ZAIN;2HAH;2TAH;2YEH;2KAF;2LAM;2MEEM;2NOON",
     "2SEEN;2AIN;2FEH;2SAD;2QAF;2REH;2SHEEN;2TEH;2THEH;2KHAH;2THAL;2DAD;2ZAH;2GHAIN;2DOTLESS BEH",
     "3NOON;3FEH;3QAF;;2INITIAL BEH;3JEEM;;3HEH;;;3HAH;;3YEH;3KAF;3LAM;3MEEM;3NOON;3SEEN;3AIN",
     "3FEH;3SAD;3QAF;;3SHEEN;3TEH;3THEH;3KHAH;;3DAD;;3GHAIN"]⟩,
   ⟨0x1EE42,
    ["0ARABIC MATHEMATICAL TAILED JEEM"]⟩,
   ⟨0x1EE47,
    ["0ARABIC MATHEMATICAL TAILED HAH;;3YEH;;3LAM;;3NOON;3SEEN;3AIN;;3SAD;3QAF;;3SHEEN;;;3KHAH;",
     "3DAD;;3GHAIN;;3DOTLESS NOON;;4QAF;;2STRETCHED BEH;3JEEM;;3HEH;;;3HAH;3TAH;3YEH;3KAF;;3MEEM",
     "3NOON;3SEEN;3AIN;3FEH;3SAD;3QAF;;3SHEEN;3TEH;3THEH;3KHAH;;3DAD;3ZAH;3GHAIN;3DOTLESS BEH;",
     "4FEH;;2LOOPED ALEF;3BEH;3JEEM;3DAL;3HEH;3WAW;3ZAIN;3HAH;3TAH;3YEH;;3LAM;3MEEM;3NOON;3SEEN",
     "3AIN;3FEH;3SAD;3QAF;3REH;3SHEEN;3TEH;3THEH;3KHAH;3THAL;3DAD;3ZAH;3GHAIN"]⟩,
   ⟨0x1EEA1,
    ["0ARABIC MATHEMATICAL DOUBLE-STRUCK BEH;3JEEM;3DAL;;3WAW;3ZAIN;3HAH;3TAH;3YEH;;3LAM;3MEEM",
     "3NOON;3SEEN;3AIN;3FEH;3SAD;3QAF;3REH;3SHEEN;3TEH;3THEH;3KHAH;3THAL;3DAD;3ZAH;3GHAIN"]⟩,
   ⟨0x1EEF0,
    ["0ARABIC MATHEMATICAL OPERATOR MEEM WITH HAH WITH TATWEEL;3HAH WITH DAL"]⟩,
   ⟨0x1F000,
    ["0MAHJONG TILE EAST WIND;2SOUTH/1;2WEST/1;2NORTH/1;2RED DRAGON;2GREEN/1;2WHITE/1",
     "2ONE OF CHARACTERS;2TWO/2;2THREE/2;2FOUR/2;2FIVE/2;2SIX/2;2SEVEN/2;2EIGHT/2;2NINE/2",
     "2ONE OF BAMBOOS;2TWO/2;2THREE/2;2FOUR/2;2FIVE/2;2SIX/2;2SEVEN/2;2EIGHT/2;2NINE/2",
     "2ONE OF CIRCLES;2TWO/2;2THREE/2;2FOUR/2;2FIVE/2;2SIX/2;2SEVEN/2;2EIGHT/2;2NINE/2;2PLUM",
     "2ORCHID;2BAMBOO;2CHRYSANTHEMUM;2SPRING;2SUMMER;2AUTUMN;2WINTER;2JOKER;2BACK"]⟩,
   ⟨0x1F030,
    ["0DOMINO TILE HORIZONTAL BACK;2HORIZONTAL-00-00;2HORIZONTAL-00-01;2HORIZONTAL-00-02",
     "2HORIZONTAL-00-03;2HORIZONTAL-00-04;2HORIZONTAL-00-05;2HORIZONTAL-00-06;2HORIZONTAL-01-00",
     "2HORIZONTAL-01-01;2HORIZONTAL-01-02;2HORIZONTAL-01-03;2HORIZONTAL-01-04;2HORIZONTAL-01-05",
     "2HORIZONTAL-01-06;2HORIZONTAL-02-00;2HORIZONTAL-02-01;2HORIZONTAL-02-02;2HORIZONTAL-02-03",
     "2HORIZONTAL-02-04;2HORIZONTAL-02-05;2HORIZONTAL-02-06;2HORIZONTAL-03-00;2HORIZONTAL-03-01",
     "2HORIZONTAL-03-02;2HORIZONTAL-03-03;2HORIZONTAL-03-04;2HORIZONTAL-03-05;2HORIZONTAL-03-06",
     "2HORIZONTAL-04-00;2HORIZONTAL-04-01;2HORIZONTAL-04-02;2HORIZONTAL-04-03;2HORIZONTAL-04-04",
     "2HORIZONTAL-04-05;2HORIZONTAL-04-06;2HORIZONTAL-05-00;2HORIZONTAL-05-01;2HORIZONTAL-05-02",
     "2HORIZONTAL-05-03;2HORIZONTAL-05-04;2HORIZONTAL-05-05;2HORIZONTAL-05-06;2HORIZONTAL-06-00",
     "2HORIZONTAL-06-01;2HORIZONTAL-06-02;2HORIZONTAL-06-03;2HORIZONTAL-06-04;2HORIZONTAL-06-05",
     "2HORIZONTAL-06-06;2VERTICAL BACK;2VERTICAL-00-00;2VERTICAL-00-01;2VERTICAL-00-02",
     "2VERTICAL-00-03;2VERTICAL-00-04;2VERTICAL-00-05;2VERTICAL-00-06;2VERTICAL-01-00",
     "2VERTICAL-01-01;2VERTICAL-01-02;2VERTICAL-01-03;2VERTICAL-01-04;2VERTICAL-01-05",
     "2VERTICAL-01-06;2VERTICAL-02-00;2VERTICAL-02-01;2VERTICAL-02-02;2VERTICAL-02-03",
     "2VERTICAL-02-04;2VERTICAL-02-05;2VERTICAL-02-06;2VERTICAL-03-00;2VERTICAL-03-01",
     "2VERTICAL-03-02;2VERTICAL-03-03;2VERTICAL-03-04;2VERTICAL-03-05;2VERTICAL-03-06",
     "2VERTICAL-04-00;2VERTICAL-04-01;2VERTICAL-04-02;2VERTICAL-04-03;2VERTICAL-04-04",
     "2VERTICAL-04-05;2VERTICAL-04-06;2VERTICAL-05-00;2VERTICAL-05-01;2VERTICAL-05-02",
     "2VERTICAL-05-03;2VERTICAL-05-04;2VERTICAL-05-05;2VERTICAL-05-06;2VERTICAL-06-00",
     "2VERTICAL-06-01;2VERTICAL-06-02;2VERTICAL-06-03;2VERTICAL-06-04;2VERTICAL-06-05",
     "2VERTICAL-06-06"]⟩,
   ⟨0x1F0A0,
    ["0PLAYING CARD BACK;2ACE OF SPADES;2TWO/2;2THREE/2;2FOUR/2;2FIVE/2;2SIX/2;2SEVEN/2;2EIGHT/2",
     "2NINE/2;2TEN/2;2JACK/2;2KNIGHT/2;2QUEEN/2;2KING/2;;;2ACE OF HEARTS;2TWO/2;2THREE/2;2FOUR/2",
     "2FIVE/2;2SIX/2;2SEVEN/2;2EIGHT/2;2NINE/2;2TEN/2;2JACK/2;2KNIGHT/2;2QUEEN/2;2KING/2",
     "2RED JOKER;;2ACE OF DIAMONDS;2TWO/2;2THREE/2;2FOUR/2;2FIVE/2;2SIX/2;2SEVEN/2;2EIGHT/2",
     "2NINE/2;2TEN/2;2JACK/2;2KNIGHT/2;2QUEEN/2;2KING/2;2BLACK JOKER;;2ACE OF CLUBS;2TWO/2",
     "2THREE/2;2FOUR/2;2FIVE/2;2SIX/2;2SEVEN/2;2EIGHT/2;2NINE/2;2TEN/2;2JACK/2;2KNIGHT/2",
     "2QUEEN/2;2KING/2;2WHITE JOKER;2FOOL;2TRUMP-1;2TRUMP-2;2TRUMP-3;2TRUMP-4;2TRUMP-5;2TRUMP-6",
     "2TRUMP-7;2TRUMP-8;2TRUMP-9;2TRUMP-10;2TRUMP-11;2TRUMP-12;2TRUMP-13;2TRUMP-14;2TRUMP-15",
     "2TRUMP-16;2TRUMP-17;2TRUMP-18;2TRUMP-19;2TRUMP-20;2TRUMP-21"]⟩,
   ⟨0x1F100,
    ["0DIGIT ZERO FULL STOP;2COMMA;1ONE/1;1TWO/1;1THREE/1;1FOUR/1;1FIVE/1;1SIX/1;1SEVEN/1",
     "1EIGHT/1;1NINE/1;0DINGBAT CIRCLED SANS-SERIF DIGIT ZERO;1NEGATIVE/4",
     "0CIRCLED ZERO WITH SLASH;1ANTICLOCKWISE ARROW;1DOLLAR SIGN WITH OVERLAID BACKSLASH",
     "0PARENTHESIZED LATIN CAPITAL LETTER A;4B;4C;4D;4E;4F;4G;4H;4I;4J;4K;4L;4M;4N;4O;4P;4Q;4R",
     "4S;4T;4U;4V;4W;4X;4Y;4Z;0TORTOISE SHELL BRACKETED LATIN CAPITAL LETTER S",
     "0CIRCLED ITALIC LATIN CAPITAL LETTER C;5R;1CD;1WZ;0COPYLEFT SYMBOL",
     "0SQUARED LATIN CAPITAL LETTER A;4B;4C;4D;4E;4F;4G;4H;4I;4J;4K;4L;4M;4N;4O;4P;4Q;4R;4S;4T",
     "4U;4V;4W;4X;4Y;4Z;1HV;1MV;1SD;1SS;1PPV;1WC;0NEGATIVE CIRCLED LATIN CAPITAL LETTER A;5B;5C",
     "5D;5E;5F;5G;5H;5I;5J;5K;5L;5M;5N;5O;5P;5Q;5R;5S;5T;5U;5V;5W;5X;5Y;5Z;0RAISED MC SIGN;1MD/1",
     "1MR/1;0CIRCLED CC;1C WITH OVERLAID BACKSLASH;1HUMAN FIGURE",
     "0NEGATIVE SQUARED LATIN CAPITAL LETTER A;5B;5C;5D;5E;5F;5G;5H;5I;5J;5K;5L;5M;5N;5O;5P;5Q",
     "5R;5S;5T;5U;5V;5W;5X;5Y;5Z;0CROSSED NEGATIVE SQUARED LATIN CAPITAL LETTER P",
     "0NEGATIVE SQUARED IC;2PA;2SA;2AB;2WC;0SQUARE DJ;0SQUARED CL;1COOL;1FREE;1ID;1NEW;1NG;1OK",
     "1SOS;1UP WITH EXCLAMATION MARK;1VS;1THREE D;1SECOND SCREEN;1TWO K;1FOUR/1;1EIGHT/1",
     "1FIVE POINT ONE;1SEVEN/2;1TWENTY-TWO POINT TWO;1SIXTY P;1ONE HUNDRED TWENTY/1",
     "1LATIN SMALL LETTER D;1HC;1HDR;1HI-RES;1LOSSLESS;1SHV;1UHD;1VOD;0MASK WORK SYMBOL"]⟩,
   ⟨0x1F1E6,
    ["0REGIONAL INDICATOR SYMBOL LETTER A;4B;4C;4D;4E;4F;4G;4H;4I;4J;4K;4L;4M;4N;4O;4P;4Q;4R;4S",
     "4T;4U;4V;4W;4X;4Y;4Z;0SQUARE HIRAGANA HOKA;0SQUARED KATAKANA KOKO;2SA"]⟩,
   ⟨0x1F210,
    ["0SQUARED CJK UNIFIED IDEOGRAPH-624B;3IDEOGRAPH-5B57;3IDEOGRAPH-53CC;1KATAKANA DE",
     "1CJK UNIFIED IDEOGRAPH-4E8C;3IDEOGRAPH-591A;3IDEOGRAPH-89E3;3IDEOGRAPH-5929",
     "3IDEOGRAPH-4EA4;3IDEOGRAPH-6620;3IDEOGRAPH-7121;3IDEOGRAPH-6599;3IDEOGRAPH-524D",
     "3IDEOGRAPH-5F8C;3IDEOGRAPH-518D;3IDEOGRAPH-65B0;3IDEOGRAPH-521D;3IDEOGRAPH-7D42",
     "3IDEOGRAPH-751F;3IDEOGRAPH-8CA9;3IDEOGRAPH-58F0;3IDEOGRAPH-5439;3IDEOGRAPH-6F14",
     "3IDEOGRAPH-6295;3IDEOGRAPH-6355;3IDEOGRAPH-4E00;3IDEOGRAPH-4E09;3IDEOGRAPH-904A",
     "3IDEOGRAPH-5DE6;3IDEOGRAPH-4E2D;3IDEOGRAPH-53F3;3IDEOGRAPH-6307;3IDEOGRAPH-8D70",
     "3IDEOGRAPH-6253;3IDEOGRAPH-7981;3IDEOGRAPH-7A7A;3IDEOGRAPH-5408;3IDEOGRAPH-6E80",
     "3IDEOGRAPH-6709;3IDEOGRAPH-6708;3IDEOGRAPH-7533;3IDEOGRAPH-5272;3IDEOGRAPH-55B6",
     "3IDEOGRAPH-914D"]⟩,
   ⟨0x1F240,
    ["0TORTOISE SHELL BRACKETED CJK UNIFIED IDEOGRAPH-672C;5IDEOGRAPH-4E09;5IDEOGRAPH-4E8C",
     "5IDEOGRAPH-5B89;5IDEOGRAPH-70B9;5IDEOGRAPH-6253;5IDEOGRAPH-76D7;5IDEOGRAPH-52DD",
     "5IDEOGRAPH-6557"]⟩,
   ⟨0x1F250,
    ["0CIRCLED IDEOGRAPH ADVANTAGE;2ACCEPT"]⟩,
   ⟨0x1F260,
    ["0ROUNDED SYMBOL FOR FU;3LU;3SHOU;3XI;3SHUANGXI;3CAI"]⟩,
   ⟨0x1F300,
    ["0CYCLONE;0FOGGY;0CLOSED UMBRELLA;0NIGHT WITH STARS;0SUNRISE OVER MOUNTAINS;1",
     "0CITYSCAPE AT DUSK;0SUNSET OVER BUILDINGS;0RAINBOW;0BRIDGE AT NIGHT;0WATER WAVE;0VOLCANO",
     "0MILKY WAY;0EARTH GLOBE EUROPE-AFRICA;2AMERICAS;2ASIA-AUSTRALIA;0GLOBE WITH MERIDIANS",
     "0NEW MOON SYMBOL;0WAXING CRESCENT/2;0FIRST QUARTER/2;0WAXING GIBBOUS/2;0FULL/2",
     "0WANING GIBBOUS/2;0LAST QUARTER/2;0WANING CRESCENT/2;0CRESCENT MOON;0NEW MOON WITH FACE",
     "0FIRST QUARTER/3;0LAST/4;0FULL/3;0SUN/2;0GLOWING STAR;0SHOOTING/1;0THERMOMETER",
     "0BLACK DROPLET;0WHITE SUN;2WITH SMALL CLOUD;2BEHIND/1;4WITH RAIN;0/3;2SNOW;2LIGHTNING",
     "2TORNADO;0FOG;0WIND BLOWING FACE;0HOT DOG;0TACO;0BURRITO;0CHESTNUT;0SEEDLING",
     "0EVERGREEN TREE;0DECIDUOUS/1;0PALM/1;0CACTUS;0HOT PEPPER;0TULIP;0CHERRY BLOSSOM;0ROSE",
     "0HIBISCUS;0SUNFLOWER;0BLOSSOM;0EAR OF MAIZE;2RICE;0HERB;0FOUR LEAF CLOVER;0MAPLE LEAF",
     "0FALLEN/1;0LEAF FLUTTERING IN WIND;0MUSHROOM;0TOMATO;0AUBERGINE;0GRAPES;0MELON;0WATERMELON",
     "0TANGERINE;0LEMON;0BANANA;0PINEAPPLE;0RED APPLE;0GREEN/1;0PEAR;0PEACH;0CHERRIES",
     "0STRAWBERRY;0HAMBURGER;0SLICE OF PIZZA;0MEAT ON BONE;0POULTRY LEG;0RICE CRACKER;1BALL",
     "0COOKED RICE;0CURRY AND/1;0STEAMING BOWL;0SPAGHETTI;0BREAD;0FRENCH FRIES",
     "0ROASTED SWEET POTATO;0DANGO;0ODEN;0SUSHI;0FRIED SHRIMP;0FISH CAKE WITH SWIRL DESIGN",
     "0SOFT ICE CREAM;0SHAVED ICE;0ICE CREAM;0DOUGHNUT;0COOKIE;0CHOCOLATE BAR;0CANDY;0LOLLIPOP",
     "0CUSTARD;0HONEY POT;0SHORTCAKE;0BENTO BOX;0POT OF FOOD;0COOKING;0FORK AND KNIFE",
     "0TEACUP WITHOUT HANDLE;0SAKE BOTTLE AND CUP;0WINE GLASS;0COCKTAIL/1;0TROPICAL DRINK",
     "0BEER MUG;0CLINKING BEER MUGS;0BABY BOTTLE;0FORK AND KNIFE WITH PLATE",
     "0BOTTLE WITH POPPING CORK;0POPCORN;0RIBBON;0WRAPPED PRESENT;0BIRTHDAY CAKE;0JACK-O-LANTERN",
     "0CHRISTMAS TREE;0FATHER CHRISTMAS;0FIREWORKS;0FIREWORK SPARKLER;0BALLOON;0PARTY POPPER",
     "0CONFETTI BALL;0TANABATA TREE;0CROSSED FLAGS;0PINE DECORATION;0JAPANESE DOLLS",
     "0CARP STREAMER;0WIND CHIME;0MOON VIEWING CEREMONY;0SCHOOL SATCHEL;0GRADUATION CAP",
     "0HEART WITH TIP ON THE LEFT;0BOUQUET OF FLOWERS;0MILITARY MEDAL;0REMINDER RIBBON",
     "0MUSICAL KEYBOARD WITH JACKS;0STUDIO MICROPHONE;0LEVEL SLIDER;0CONTROL KNOBS",
     "0BEAMED ASCENDING MUSICAL NOTES;1DESCENDING/2;0FILM FRAMES;0ADMISSION TICKETS",
     "0CAROUSEL HORSE;0FERRIS WHEEL;0ROLLER COASTER;0FISHING POLE AND FISH;0MICROPHONE",
     "0MOVIE CAMERA;0CINEMA;0HEADPHONE;0ARTIST PALETTE;0TOP HAT;0CIRCUS TENT;0TICKET",
     "0CLAPPER BOARD;0PERFORMING ARTS;0VIDEO GAME;0DIRECT HIT;0SLOT MACHINE;0BILLIARDS;0GAME DIE",
     "0BOWLING;0FLOWER PLAYING CARDS;0MUSICAL NOTE;0MULTIPLE MUSICAL NOTES;0SAXOPHONE;0GUITAR",
     "0MUSICAL KEYBOARD;0TRUMPET;0VIOLIN;0MUSICAL SCORE;0RUNNING SHIRT WITH SASH",
     "0TENNIS RACQUET AND BALL;0SKI AND SKI BOOT;0BASKETBALL AND HOOP;0CHEQUERED FLAG",
     "0SNOWBOARDER;0RUNNER;0SURFER;0SPORTS MEDAL;0TROPHY;0HORSE RACING;0AMERICAN FOOTBALL",
     "0RUGBY/1;0SWIMMER;0WEIGHT LIFTER;0GOLFER;0RACING MOTORCYCLE;1CAR;0CRICKET BAT AND BALL",
     "0VOLLEYBALL;0FIELD HOCKEY STICK AND BALL;0ICE HOCKEY STICK AND PUCK",
     "0TABLE TENNIS PADDLE AND BALL;0SNOW CAPPED MOUNTAIN;0CAMPING;0BEACH WITH UMBRELLA",
     "0BUILDING CONSTRUCTION;0HOUSE BUILDINGS;0CITYSCAPE;0DERELICT HOUSE BUILDING;0CLASSICAL/1",
     "0DESERT;1ISLAND;0NATIONAL PARK;0STADIUM;0HOUSE BUILDING;1WITH GARDEN;0OFFICE BUILDING",
     "0JAPANESE POST OFFICE;0EUROPEAN/2;0HOSPITAL;0BANK;0AUTOMATED TELLER MACHINE;0HOTEL;0LOVE/1",
     "0CONVENIENCE STORE;0SCHOOL;0DEPARTMENT STORE;0FACTORY;0IZAKAYA LANTERN;0JAPANESE CASTLE",
     "0EUROPEAN/1;0WHITE PENNANT;0BLACK/1;0WAVING WHITE FLAG;1BLACK/1;0ROSETTE;0BLACK/1;0LABEL",
     "0BADMINTON RACQUET AND SHUTTLECOCK;0BOW AND ARROW;0AMPHORA",
     "0EMOJI MODIFIER FITZPATRICK TYPE-1-2;3TYPE-3;3TYPE-4;3TYPE-5;3TYPE-6"]⟩,
   ⟨0x1F400,
    ["0RAT;0MOUSE;0OX;0WATER BUFFALO;0COW;0TIGER;0LEOPARD;0RABBIT;0CAT;0DRAGON;0CROCODILE;0WHALE",
     "0SNAIL;0SNAKE;0HORSE;0RAM;0GOAT;0SHEEP;0MONKEY;0ROOSTER;0CHICKEN;0DOG;0PIG;0BOAR;0ELEPHANT",
     "0OCTOPUS;0SPIRAL SHELL;0BUG;0ANT;0HONEYBEE;0LADY BEETLE;0FISH;0TROPICAL/1;0BLOWFISH",
     "0TURTLE;0HATCHING CHICK;0BABY/1;0FRONT-FACING/2;0BIRD;0PENGUIN;0KOALA;0POODLE",
     "0DROMEDARY CAMEL;0BACTRIAN/1;0DOLPHIN;0MOUSE FACE;0COW/1;0TIGER/1;0RABBIT/1;0CAT/1",
     "0DRAGON/1;0SPOUTING WHALE;0HORSE FACE;0MONKEY/1;0DOG/1;0PIG/1;0FROG/1;0HAMSTER/1;0WOLF/1",
     "0BEAR/1;0PANDA/1;0PIG NOSE;0PAW PRINTS;0CHIPMUNK;0EYES;0EYE;0EAR;0NOSE;0MOUTH;0TONGUE",
     "0WHITE UP POINTING BACKHAND INDEX;1DOWN/3;1LEFT/3;1RIGHT/3;0FISTED HAND SIGN;0WAVING/2",
     "0OK/2;0THUMBS UP/1;1DOWN/1;0CLAPPING HANDS/1;0OPEN/2;0CROWN;0WOMANS HAT;0EYEGLASSES",
     "0NECKTIE;0T-SHIRT;0JEANS;0DRESS;0KIMONO;0BIKINI;0WOMANS CLOTHES;0PURSE;0HANDBAG;0POUCH",
     "0MANS SHOE;0ATHLETIC/1;0HIGH-HEELED/1;0WOMANS SANDAL;1BOOTS;0FOOTPRINTS",
     "0BUST IN SILHOUETTE;0BUSTS/2;0BOY;0GIRL;0MAN;0WOMAN;0FAMILY;0MAN AND WOMAN HOLDING HANDS",
     "0TWO MEN/2;1WOMEN/2;0POLICE OFFICER;0WOMAN WITH BUNNY EARS;0BRIDE WITH VEIL",
     "0PERSON WITH BLOND HAIR;0MAN WITH GUA PI MAO;2TURBAN;0OLDER MAN;1WOMAN;0BABY",
     "0CONSTRUCTION WORKER;0PRINCESS;0JAPANESE OGRE;1GOBLIN;0GHOST;0BABY ANGEL",
     "0EXTRATERRESTRIAL ALIEN;0ALIEN MONSTER;0IMP;0SKULL;0INFORMATION DESK PERSON;0GUARDSMAN",
     "0DANCER;0LIPSTICK;0NAIL POLISH;0FACE MASSAGE;0HAIRCUT;0BARBER POLE;0SYRINGE;0PILL",
     "0KISS MARK;0LOVE LETTER;0RING;0GEM STONE;0KISS;0BOUQUET;0COUPLE WITH HEART;0WEDDING",
     "0BEATING HEART;0BROKEN/1;0TWO HEARTS;0SPARKLING HEART;0GROWING/1;0HEART WITH ARROW",
     "0BLUE HEART;0GREEN/1;0YELLOW/1;0PURPLE/1;0HEART WITH RIBBON;0REVOLVING HEARTS",
     "0HEART DECORATION;0DIAMOND SHAPE WITH A DOT INSIDE;0ELECTRIC LIGHT BULB;0ANGER SYMBOL",
     "0BOMB;0SLEEPING SYMBOL;0COLLISION/1;0SPLASHING SWEAT/1;0DROPLET;0DASH SYMBOL;0PILE OF POO",
     "0FLEXED BICEPS;0DIZZY SYMBOL;0SPEECH BALLOON;0THOUGHT/1;0WHITE FLOWER",
     "0HUNDRED POINTS SYMBOL;0MONEY BAG;0CURRENCY EXCHANGE;0HEAVY DOLLAR SIGN;0CREDIT CARD",
     "0BANKNOTE WITH YEN SIGN;2DOLLAR/1;2EURO/1;2POUND/1;0MONEY WITH WINGS",
     "0CHART WITH UPWARDS TREND AND YEN SIGN;0SEAT;0PERSONAL COMPUTER;0BRIEFCASE;0MINIDISC",
     "0FLOPPY DISK;0OPTICAL DISC;0DVD;0FILE FOLDER;0OPEN/2;0PAGE WITH CURL;1FACING UP;0CALENDAR",
     "0TEAR-OFF/1;0CARD INDEX;0CHART WITH UPWARDS TREND;2DOWNWARDS/1;0BAR CHART;0CLIPBOARD",
     "0PUSHPIN;0ROUND/1;0PAPERCLIP;0STRAIGHT RULER;0TRIANGULAR/1;0BOOKMARK TABS;0LEDGER",
     "0NOTEBOOK;1WITH DECORATIVE COVER;0CLOSED BOOK;0OPEN/1;0GREEN/1;0BLUE/1;0ORANGE/1;0BOOKS",
     "0NAME BADGE;0SCROLL;0MEMO;0TELEPHONE RECEIVER;0PAGER;0FAX MACHINE;0SATELLITE ANTENNA",
     "0PUBLIC ADDRESS LOUDSPEAKER;0CHEERING MEGAPHONE;0OUTBOX TRAY;0INBOX/1;0PACKAGE",
     "0E-MAIL SYMBOL;0INCOMING ENVELOPE;0ENVELOPE WITH DOWNWARDS ARROW ABOVE",
     "0CLOSED MAILBOX WITH LOWERED FLAG;3RAISED/1;0OPEN/4;3LOWERED/1;0POSTBOX;0POSTAL HORN",
     "0NEWSPAPER;0MOBILE PHONE;2WITH RIGHTWARDS ARROW AT LEFT;0VIBRATION MODE;0MOBILE PHONE OFF",
     "0NO MOBILE PHONES;0ANTENNA WITH BARS;0CAMERA;1WITH FLASH;0VIDEO CAMERA;0TELEVISION;0RADIO",
     "0VIDEOCASSETTE;0FILM PROJECTOR;0PORTABLE STEREO;0PRAYER BEADS"]⟩,
   ⟨0x1F500,
    ["0TWISTED RIGHTWARDS ARROWS;0CLOCKWISE RIGHTWARDS AND LEFTWARDS OPEN CIRCLE/1",
     "7WITH CIRCLED ONE OVERLAY;1DOWNWARDS AND UPWARDS OPEN CIRCLE ARROWS;0ANTICLOCKWISE/6",
     "0LOW BRIGHTNESS SYMBOL;0HIGH/2;0SPEAKER WITH CANCELLATION STROKE;1;1WITH ONE SOUND WAVE",
     "2THREE SOUND WAVES;0BATTERY;0ELECTRIC PLUG;0LEFT-POINTING MAGNIFYING GLASS",
     "0RIGHT-POINTING/2;0LOCK WITH INK PEN;0CLOSED LOCK WITH KEY;0/1;0LOCK;0OPEN/1;0BELL",
     "1WITH CANCELLATION STROKE;0BOOKMARK;0LINK SYMBOL;0RADIO BUTTON",
     "0BACK WITH LEFTWARDS ARROW ABOVE;0END/4;0ON WITH EXCLAMATION MARK WITH LEFT RIGHT/2",
     "0SOON WITH RIGHTWARDS/2;0TOP WITH UPWARDS/2;0NO ONE UNDER EIGHTEEN SYMBOL;0KEYCAP TEN",
     "0INPUT SYMBOL FOR LATIN CAPITAL LETTERS;4SMALL/1;3NUMBERS;3SYMBOLS;3LATIN LETTERS;0FIRE",
     "0ELECTRIC TORCH;0WRENCH;0HAMMER;0NUT AND BOLT;0HOCHO;0PISTOL;0MICROSCOPE;0TELESCOPE",
     "0CRYSTAL BALL;0SIX POINTED STAR WITH MIDDLE DOT;0JAPANESE SYMBOL FOR BEGINNER",
     "0TRIDENT EMBLEM;0BLACK SQUARE BUTTON;0WHITE/2;0LARGE RED CIRCLE;1BLUE/1;1ORANGE DIAMOND",
     "1BLUE/1;0SMALL ORANGE/1;1BLUE/1;0UP-POINTING RED TRIANGLE;0DOWN-POINTING/2",
     "0UP-POINTING SMALL/2;0DOWN-POINTING/3;0LOWER RIGHT SHADOWED WHITE CIRCLE;0UPPER/4",
     "0CIRCLED CROSS POMMEE;0CROSS POMMEE WITH HALF-CIRCLE BELOW;2",
     "0NOTCHED LEFT SEMICIRCLE WITH THREE DOTS;1RIGHT/4;0SYMBOL FOR MARKS CHAPTER",
     "0WHITE LATIN CROSS;0HEAVY/2;0CELTIC/1;0OM SYMBOL;0DOVE OF PEACE;0KAABA;0MOSQUE;0SYNAGOGUE",
     "0MENORAH WITH NINE BRANCHES;0BOWL OF HYGIEIA;0CLOCK FACE ONE OCLOCK;2TWO/1;2THREE/1",
     "2FOUR/1;2FIVE/1;2SIX/1;2SEVEN/1;2EIGHT/1;2NINE/1;2TEN/1;2ELEVEN/1;2TWELVE/1;2ONE-THIRTY",
     "2TWO-THIRTY;2THREE-THIRTY;2FOUR-THIRTY;2FIVE-THIRTY;2SIX-THIRTY;2SEVEN-THIRTY",
     "2EIGHT-THIRTY;2NINE-THIRTY;2TEN-THIRTY;2ELEVEN-THIRTY;2TWELVE-THIRTY;0RIGHT SPEAKER",
     "2WITH ONE SOUND WAVE;3THREE SOUND WAVES;0BULLHORN;1WITH SOUND WAVES;0RINGING BELL;0BOOK",
     "0CANDLE;0MANTELPIECE CLOCK;0BLACK SKULL AND CROSSBONES;0NO PIRACY;0HOLE",
     "0MAN IN BUSINESS SUIT LEVITATING;0SLEUTH OR SPY;0DARK SUNGLASSES;0SPIDER;1WEB;0JOYSTICK",
     "0MAN DANCING;0LEFT HAND TELEPHONE RECEIVER;0TELEPHONE RECEIVER WITH PAGE",
     "0RIGHT HAND TELEPHONE RECEIVER;0WHITE TOUCHTONE TELEPHONE;0BLACK/2",
     "0TELEPHONE ON TOP OF MODEM;0CLAMSHELL MOBILE PHONE;0BACK OF ENVELOPE;0STAMPED/1",
     "0ENVELOPE WITH LIGHTNING;0FLYING ENVELOPE;0PEN OVER STAMPED/1;0LINKED PAPERCLIPS",
     "0BLACK PUSHPIN;0LOWER LEFT PENCIL;2BALLPOINT PEN;2FOUNTAIN/1;2PAINTBRUSH;2CRAYON",
     "0LEFT WRITING HAND;0TURNED OK HAND SIGN;0RAISED HAND WITH FINGERS SPLAYED;0REVERSED/5",
     "1THUMBS UP SIGN;2DOWN/1;1VICTORY HAND;1HAND WITH MIDDLE FINGER EXTENDED",
     "0RAISED HAND WITH PART BETWEEN MIDDLE AND RING FINGERS",
     "0WHITE DOWN POINTING LEFT HAND INDEX;0SIDEWAYS WHITE LEFT POINTING/1;2RIGHT/2",
     "1BLACK LEFT/2;2RIGHT/2;0BLACK LEFT POINTING BACKHAND/1;1RIGHT/3",
     "0SIDEWAYS WHITE UP POINTING/1;2DOWN/2;1BLACK UP/2;2DOWN/2;0BLACK UP POINTING BACKHAND/1",
     "1DOWN/3;1HEART;0DESKTOP COMPUTER;0KEYBOARD AND MOUSE;0THREE NETWORKED COMPUTERS;0PRINTER",
     "0POCKET CALCULATOR;0BLACK HARD SHELL FLOPPY DISK;0WHITE/4;0SOFT/3;0TAPE CARTRIDGE",
     "0WIRED KEYBOARD;0ONE BUTTON MOUSE;0TWO/2;0THREE/2;0TRACKBALL;0OLD PERSONAL COMPUTER",
     "0HARD DISK;0SCREEN;0PRINTER ICON;0FAX/1;0OPTICAL DISC/1;0DOCUMENT WITH TEXT;3AND PICTURE",
     "2/1;0FRAME/2;2TILES;2AN X;0BLACK FOLDER;0/1;0OPEN/1;0CARD INDEX DIVIDERS;1FILE BOX",
     "0FILE CABINET;0EMPTY NOTE;2PAGE;2PAD;0NOTE;1PAGE;1PAD;0EMPTY DOCUMENT;1PAGE;1PAGES",
     "0DOCUMENT;0PAGE;0PAGES;0WASTEBASKET;0SPIRAL NOTE PAD;1CALENDAR/1;0DESKTOP WINDOW;0MINIMIZE",
     "0MAXIMIZE;0OVERLAP;0CLOCKWISE RIGHT AND LEFT SEMICIRCLE ARROWS;0CANCELLATION X",
     "0INCREASE FONT SIZE SYMBOL;0DECREASE/3;0COMPRESSION;0OLD KEY;0ROLLED-UP NEWSPAPER",
     "0PAGE WITH CIRCLED TEXT;0STOCK CHART;0DAGGER KNIFE;0LIPS;0SPEAKING HEAD IN SILHOUETTE",
     "0THREE RAYS ABOVE;2BELOW;2LEFT;2RIGHT;0LEFT SPEECH BUBBLE;0RIGHT/2;0TWO SPEECH BUBBLES",
     "0THREE/2;0LEFT THOUGHT BUBBLE;0RIGHT/2;0LEFT ANGER/1;0RIGHT/2;0MOOD/1;0LIGHTNING/2;2",
     "0BALLOT BOX WITH BALLOT;1SCRIPT X;1BOX WITH/2;1BOLD/2;1BOX WITH/3;0LIGHT CHECK MARK",
     "0BALLOT BOX WITH BOLD CHECK;0WORLD MAP;0MOUNT FUJI;0TOKYO TOWER;0STATUE OF LIBERTY",
     "0SILHOUETTE OF JAPAN;0MOYAI"]⟩,
   ⟨0x1F600,
    ["0GRINNING FACE;2WITH SMILING EYES;0FACE WITH TEARS OF JOY;0SMILING FACE WITH OPEN MOUTH",
     "5AND SMILING EYES;6COLD SWEAT;6TIGHTLY-CLOSED EYES;3HALO;3HORNS;0WINKING FACE",
     "0SMILING FACE WITH SMILING EYES;0FACE SAVOURING DELICIOUS FOOD;0RELIEVED FACE",
     "0SMILING FACE WITH HEART-SHAPED EYES;3SUNGLASSES;0SMIRKING FACE;0NEUTRAL/1",
     "0EXPRESSIONLESS/1;0UNAMUSED/1;0FACE WITH COLD SWEAT;0PENSIVE FACE;0CONFUSED/1",
     "0CONFOUNDED/1;0KISSING/1;0FACE THROWING A KISS;0KISSING FACE WITH SMILING EYES;3CLOSED/1",
     "0FACE WITH STUCK-OUT TONGUE;4AND WINKING EYE;5TIGHTLY-CLOSED EYES;0DISAPPOINTED FACE",
     "0WORRIED/1;0ANGRY/1;0POUTING/1;0CRYING/1;0PERSEVERING/1;0FACE WITH LOOK OF TRIUMPH",
     "0DISAPPOINTED BUT RELIEVED FACE;0FROWNING FACE WITH OPEN MOUTH;0ANGUISHED FACE;0FEARFUL/1",
     "0WEARY/1;0SLEEPY/1;0TIRED/1;0GRIMACING/1;0LOUDLY CRYING/1;0FACE WITH OPEN MOUTH",
     "0HUSHED FACE;0FACE WITH OPEN MOUTH AND COLD SWEAT;1SCREAMING IN FEAR;0ASTONISHED FACE",
     "0FLUSHED/1;0SLEEPING/1;0DIZZY/1;0FACE WITHOUT MOUTH;1WITH MEDICAL MASK",
     "0GRINNING CAT FACE WITH SMILING EYES;0CAT FACE WITH TEARS OF JOY",
     "0SMILING CAT FACE WITH OPEN MOUTH;4HEART-SHAPED EYES;0CAT FACE WITH WRY SMILE",
     "0KISSING CAT FACE WITH CLOSED EYES;0POUTING CAT FACE;0CRYING/2;0WEARY/2",
     "0SLIGHTLY FROWNING/1;1SMILING/1;0UPSIDE-DOWN/1;0FACE WITH ROLLING EYES;2NO GOOD GESTURE",
     "2OK/1;0PERSON BOWING DEEPLY;0SEE-NO-EVIL MONKEY;0HEAR-NO-EVIL/1;0SPEAK-NO-EVIL/1",
     "0HAPPY PERSON RAISING ONE HAND;0PERSON RAISING BOTH HANDS IN CELEBRATION;1FROWNING",
     "1WITH POUTING FACE;2FOLDED HANDS;0NORTH WEST POINTING LEAF;0SOUTH/3;0NORTH EAST/2;0SOUTH/3",
     "0TURNED NORTH WEST/2;1SOUTH/3;1NORTH EAST/2;1SOUTH/3;0NORTH WEST POINTING VINE/1;0SOUTH/4",
     "0NORTH EAST/3;0SOUTH/4;0HEAVY NORTH WEST/3;1SOUTH/4;1NORTH EAST/3;1SOUTH/4",
     "0NORTH WEST POINTING BUD;0SOUTH/3;0NORTH EAST/2;0SOUTH/3;0HEAVY NORTH WEST/2;1SOUTH/3",
     "1NORTH EAST/2;1SOUTH/3;0HOLLOW QUILT SQUARE ORNAMENT;4IN BLACK SQUARE",
     "0SOLID QUILT SQUARE ORNAMENT;4IN BLACK SQUARE;0LEFTWARDS ROCKET;0UPWARDS/1;0RIGHTWARDS/1",
     "0DOWNWARDS/1;0SCRIPT LIGATURE ET ORNAMENT;0HEAVY/4;0LIGATURE OPEN/2;0HEAVY/4;1AMPERSAND/1",
     "0SWASH/2;0SANS-SERIF HEAVY DOUBLE TURNED COMMA QUOTATION MARK/1;3/4;2LOW/5",
     "0HEAVY INTERROBANG/1;0SANS-SERIF/2;0HEAVY/3;0VERY HEAVY SOLIDUS;2REVERSE/1;0CHECKER BOARD",
     "0REVERSE/2;0ROCKET;0HELICOPTER;0STEAM LOCOMOTIVE;0RAILWAY CAR;0HIGH-SPEED TRAIN",
     "2WITH BULLET NOSE;0TRAIN;0METRO;0LIGHT RAIL;0STATION;0TRAM;1CAR;0BUS;0ONCOMING/1",
     "0TROLLEYBUS;0BUS STOP;0MINIBUS;0AMBULANCE;0FIRE ENGINE;0POLICE CAR;0ONCOMING/2;0TAXI",
     "0ONCOMING/1;0AUTOMOBILE;0ONCOMING/1;0RECREATIONAL VEHICLE;0DELIVERY TRUCK",
     "0ARTICULATED LORRY;0TRACTOR;0MONORAIL;0MOUNTAIN RAILWAY;0SUSPENSION/1;0MOUNTAIN CABLEWAY",
     "0AERIAL TRAMWAY;0SHIP;0ROWBOAT;0SPEEDBOAT;0HORIZONTAL TRAFFIC LIGHT;0VERTICAL/2",
     "0CONSTRUCTION SIGN;0POLICE CARS REVOLVING LIGHT;0TRIANGULAR FLAG ON POST;0DOOR",
     "0NO ENTRY SIGN;0SMOKING SYMBOL;0NO/2;0PUT LITTER IN ITS PLACE/1;0DO NOT LITTER/1",
     "0POTABLE WATER/1;0NON-POTABLE/2;0BICYCLE;0NO BICYCLES;0BICYCLIST;0MOUNTAIN/1;0PEDESTRIAN",
     "0NO PEDESTRIANS;0CHILDREN CROSSING;0MENS SYMBOL;0WOMENS/1;0RESTROOM;0BABY SYMBOL;0TOILET",
     "0WATER CLOSET;0SHOWER;0BATH;0BATHTUB;0PASSPORT CONTROL;0CUSTOMS;0BAGGAGE CLAIM",
     "0LEFT LUGGAGE;0TRIANGLE WITH ROUNDED CORNERS;0PROHIBITED SIGN;0CIRCLED INFORMATION SOURCE",
     "0BOYS SYMBOL;0GIRLS/1;0COUCH AND LAMP;0SLEEPING ACCOMMODATION;0SHOPPING BAGS;0BELLHOP BELL",
     "0BED;0PLACE OF WORSHIP;0OCTAGONAL SIGN;0SHOPPING TROLLEY;0STUPA;0PAGODA;0HINDU TEMPLE;0HUT",
     "0ELEVATOR"]⟩,
   ⟨0x1F6DD,
    ["0PLAYGROUND SLIDE;0WHEEL;0RING BUOY;0HAMMER AND WRENCH;0SHIELD;0OIL DRUM;0MOTORWAY",
     "0RAILWAY TRACK;0MOTOR BOAT;0UP-POINTING MILITARY AIRPLANE;1/1;1SMALL/1;0/2",
     "0NORTHEAST-POINTING/1;0AIRPLANE DEPARTURE;1ARRIVING;;;;0SATELLITE;0ONCOMING FIRE ENGINE",
     "0DIESEL LOCOMOTIVE;0PASSENGER SHIP;0SCOOTER;0MOTOR/1;0CANOE;0SLED;0FLYING SAUCER",
     "0SKATEBOARD;0AUTO RICKSHAW;0PICKUP TRUCK;0ROLLER SKATE;;;",
     "0ALCHEMICAL SYMBOL FOR QUINTESSENCE;3AIR;3FIRE;3EARTH;3WATER;3AQUAFORTIS;3AQUA REGIA",
     "4REGIA-2;4VITAE;4VITAE-2;3VINEGAR;3VINEGAR-2;3VINEGAR-3;3SULFUR;3PHILOSOPHERS/1;3BLACK/1",
     "3MERCURY SUBLIMATE;4SUBLIMATE-2;4SUBLIMATE-3;3CINNABAR;3SALT;3NITRE;3VITRIOL;3VITRIOL-2",
     "3ROCK SALT;4SALT-2;3GOLD;3SILVER;3IRON ORE;4ORE-2;3CROCUS OF IRON;3REGULUS/2;3COPPER ORE",
     "3IRON-COPPER/1;3SUBLIMATE OF COPPER;3CROCUS/2;5COPPER-2;3COPPER ANTIMONIATE;3SALT OF/2",
     "3SUBLIMATE OF SALT OF COPPER;3VERDIGRIS;3TIN ORE;3LEAD/1;3ANTIMONY/1",
     "3SUBLIMATE OF ANTIMONY;3SALT/2;3SUBLIMATE OF/3;3VINEGAR/2;3REGULUS/2;5ANTIMONY-2;4",
     "3REGULUS-2;3REGULUS-3;3REGULUS-4;3ALKALI;3ALKALI-2;3MARCASITE;3SAL-AMMONIAC;3ARSENIC",
     "3REALGAR;3REALGAR-2;3AURIPIGMENT;3BISMUTH ORE;3TARTAR;3TARTAR-2;3QUICK LIME;3BORAX",
     "3BORAX-2;3BORAX-3;3ALUM;3OIL;3SPIRIT;3TINCTURE;3GUM;3WAX;3POWDER;3CALX;3TUTTY",
     "3CAPUT MORTUUM;3SCEPTER OF JOVE;3CADUCEUS;3TRIDENT;3STARRED/1;3LODESTONE;3SOAP;3URINE",
     "3HORSE DUNG;3ASHES;3POT/1;3BRICK;3POWDERED/1;3AMALGAM;3STRATUM SUPER STRATUM;5STRATUM-2",
     "3SUBLIMATION;3PRECIPITATE;3DISTILL;3DISSOLVE;3DISSOLVE-2;3PURIFY;3PUTREFACTION;3CRUCIBLE",
     "3CRUCIBLE-2;3CRUCIBLE-3;3CRUCIBLE-4;3CRUCIBLE-5;3ALEMBIC;3BATH OF MARY;5VAPOURS;3RETORT",
     "3HOUR;3NIGHT;3DAY-NIGHT;3MONTH;3HALF DRAM;4OUNCE"]⟩,
   ⟨0x1F780,
    ["0BLACK LEFT-POINTING ISOSCELES RIGHT TRIANGLE;1UP-POINTING/3;1RIGHT-POINTING/3",
     "1DOWN-POINTING/3;1SLIGHTLY SMALL CIRCLE;0MEDIUM BOLD WHITE/1;0/3;0HEAVY/2;0VERY/3",
     "0EXTREMELY/3;0WHITE CIRCLE CONTAINING BLACK SMALL/1;0ROUND TARGET;0BLACK TINY SQUARE",
     "1SLIGHTLY SMALL/1;0LIGHT WHITE/1;0MEDIUM/2;0BOLD/2;0HEAVY/2;0VERY/3;0EXTREMELY/3",
     "0WHITE SQUARE CONTAINING BLACK VERY SMALL/1;4MEDIUM/1;0SQUARE TARGET;0BLACK TINY DIAMOND",
     "1VERY SMALL/1;1MEDIUM/2;0WHITE DIAMOND CONTAINING BLACK VERY/2;4MEDIUM/1;0DIAMOND TARGET",
     "0BLACK TINY LOZENGE;1VERY SMALL/1;1MEDIUM/2;0WHITE LOZENGE CONTAINING BLACK/2",
     "0THIN GREEK CROSS;0LIGHT/2;0MEDIUM/2;0BOLD/2;0VERY/3;1HEAVY/2;0EXTREMELY/3;0THIN SALTIRE",
     "0LIGHT/1;0MEDIUM/1;0BOLD/1;0HEAVY/1;0VERY/2;0EXTREMELY/2;0LIGHT FIVE SPOKED ASTERISK",
     "0MEDIUM/3;0BOLD/3;0HEAVY/3;0VERY/4;0EXTREMELY/4;0LIGHT SIX/2;0MEDIUM/3;0BOLD/3;0HEAVY/3",
     "0VERY/4;0EXTREMELY/4;0LIGHT EIGHT/2;0MEDIUM/3;0BOLD/3;0HEAVY/3;0VERY/4",
     "0LIGHT THREE POINTED BLACK STAR;0MEDIUM/4;0/4;0MEDIUM THREE POINTED PINWHEEL/1",
     "0LIGHT FOUR POINTED BLACK/1;0MEDIUM/4;0/4;0MEDIUM FOUR POINTED PINWHEEL/1;0REVERSE LIGHT/4",
     "0LIGHT FIVE POINTED BLACK/1;0HEAVY/4;0MEDIUM SIX/3;0HEAVY/4;0SIX POINTED PINWHEEL/1",
     "0MEDIUM EIGHT POINTED BLACK/1;0HEAVY/4;0VERY/5;0HEAVY EIGHT POINTED PINWHEEL/1",
     "0LIGHT TWELVE POINTED BLACK/1;0HEAVY/4;3PINWHEEL/1;0CIRCLED TRIANGLE;0NEGATIVE/2",
     "0CIRCLED SQUARE;0NEGATIVE/2"]⟩,
   ⟨0x1F7E0,
    ["0LARGE ORANGE CIRCLE;1YELLOW/1;1GREEN/1;1PURPLE/1;1BROWN/1;1RED SQUARE;1BLUE/1;1ORANGE/1",
     "1YELLOW/1;1GREEN/1;1PURPLE/1;1BROWN/1"]⟩,
   ⟨0x1F7F0,
    ["0HEAVY EQUALS SIGN"]⟩,
   ⟨0x1F800,
    ["0LEFTWARDS ARROW WITH SMALL TRIANGLE ARROWHEAD;0UPWARDS/5;0RIGHTWARDS/5;0DOWNWARDS/5",
     "0LEFTWARDS ARROW WITH MEDIUM/2;0UPWARDS/5;0RIGHTWARDS/5;0DOWNWARDS/5",
     "0LEFTWARDS ARROW WITH LARGE/2;0UPWARDS/5;0RIGHTWARDS/5;0DOWNWARDS/5"]⟩,
   ⟨0x1F810,
    ["0LEFTWARDS ARROW WITH SMALL EQUILATERAL ARROWHEAD;0UPWARDS/5;0RIGHTWARDS/5;0DOWNWARDS/5",
     "0LEFTWARDS ARROW WITH/2;0UPWARDS/4;0RIGHTWARDS/4;0DOWNWARDS/4;0HEAVY LEFTWARDS/4",
     "1UPWARDS/4;1RIGHTWARDS/4;1DOWNWARDS/4;1LEFTWARDS ARROW WITH LARGE/2;1UPWARDS/5",
     "1RIGHTWARDS/5;1DOWNWARDS/5;0LEFTWARDS TRIANGLE-HEADED ARROW WITH NARROW SHAFT;0UPWARDS/5",
     "0RIGHTWARDS/5;0DOWNWARDS/5;0LEFTWARDS TRIANGLE-HEADED ARROW WITH MEDIUM/1;0UPWARDS/5",
     "0RIGHTWARDS/5;0DOWNWARDS/5;0LEFTWARDS TRIANGLE-HEADED ARROW WITH BOLD/1;0UPWARDS/5",
     "0RIGHTWARDS/5;0DOWNWARDS/5;0LEFTWARDS TRIANGLE-HEADED ARROW WITH HEAVY/1;0UPWARDS/5",
     "0RIGHTWARDS/5;0DOWNWARDS/5;0LEFTWARDS TRIANGLE-HEADED ARROW WITH VERY/2;0UPWARDS/6",
     "0RIGHTWARDS/6;0DOWNWARDS/6;0LEFTWARDS FINGER-POST ARROW;0UPWARDS/2;0RIGHTWARDS/2",
     "0DOWNWARDS/2;0LEFTWARDS SQUARED/1;0UPWARDS/2;0RIGHTWARDS/2;0DOWNWARDS/2",
     "0LEFTWARDS COMPRESSED/1;0UPWARDS/2;0RIGHTWARDS/2;0DOWNWARDS/2;0LEFTWARDS HEAVY/2",
     "0UPWARDS/3;0RIGHTWARDS/3;0DOWNWARDS/3;0LEFTWARDS HEAVY/1;0UPWARDS/2;0RIGHTWARDS/2",
     "0DOWNWARDS/2"]⟩,
   ⟨0x1F850,
    ["0LEFTWARDS SANS-SERIF ARROW;0UPWARDS/2;0RIGHTWARDS/2;0DOWNWARDS/2;0NORTH WEST/2;1EAST/2",
     "0SOUTH/3;1WEST/2;0LEFT RIGHT/2;0UP DOWN/2"]⟩,
   ⟨0x1F860,
    ["0WIDE-HEADED LEFTWARDS LIGHT BARB ARROW;1UPWARDS/3;1RIGHTWARDS/3;1DOWNWARDS/3",
     "1NORTH WEST/3;2EAST/3;1SOUTH/4;2WEST/3;1LEFTWARDS/2;1UPWARDS/2;1RIGHTWARDS/2;1DOWNWARDS/2",
     "1NORTH WEST/2;2EAST/2;1SOUTH/3;2WEST/2;1LEFTWARDS MEDIUM/2;1UPWARDS/3;1RIGHTWARDS/3",
     "1DOWNWARDS/3;1NORTH WEST/3;2EAST/3;1SOUTH/4;2WEST/3;1LEFTWARDS HEAVY/2;1UPWARDS/3",
     "1RIGHTWARDS/3;1DOWNWARDS/3;1NORTH WEST/3;2EAST/3;1SOUTH/4;2WEST/3;1LEFTWARDS VERY/3",
     "1UPWARDS/4;1RIGHTWARDS/4;1DOWNWARDS/4;1NORTH WEST/4;2EAST/4;1SOUTH/5;2WEST/4"]⟩,
   ⟨0x1F890,
    ["0LEFTWARDS TRIANGLE ARROWHEAD;0UPWARDS/2;0RIGHTWARDS/2;0DOWNWARDS/2",
     "0LEFTWARDS WHITE ARROW WITHIN/2;0UPWARDS/5;0RIGHTWARDS/5;0DOWNWARDS/5",
     "0LEFTWARDS ARROW WITH NOTCHED TAIL;0UPWARDS/4;0RIGHTWARDS/4;0DOWNWARDS/4",
     "0HEAVY ARROW SHAFT WIDTH ONE;4TWO THIRDS;4ONE HALF;5THIRD",
     "0LEFTWARDS BOTTOM-SHADED WHITE ARROW;0RIGHTWARDS BOTTOM SHADED/2;0LEFTWARDS TOP/3",
     "0RIGHTWARDS/4;0LEFTWARDS LEFT-SHADED/2;0RIGHTWARDS RIGHT-SHADED/2;0LEFTWARDS/3",
     "0RIGHTWARDS LEFT-SHADED/2;0LEFTWARDS BACK-TILTED SHADOWED/2;0RIGHTWARDS/4",
     "0LEFTWARDS FRONT-TILTED/3;0RIGHTWARDS/4;0WHITE ARROW SHAFT WIDTH ONE;4TWO THIRDS;;",
     "0ARROW POINTING UPWARDS THEN NORTH WEST;2RIGHTWARDS THEN CURVING SOUTH/1"]⟩,
   ⟨0x1F900,
    ["0CIRCLED CROSS FORMEE WITH FOUR DOTS;4TWO/1;3;0LEFT HALF CIRCLE WITH FOUR DOTS;4THREE/1",
     "4TWO/1;4DOT;3;0DOWNWARD FACING HOOK;2NOTCHED/1;2HOOK WITH DOT;2NOTCHED/3;0PINCHED FINGERS",
     "0WHITE HEART;0BROWN/1;0PINCHING HAND;0ZIPPER-MOUTH FACE;0MONEY-MOUTH/1",
     "0FACE WITH THERMOMETER;0NERD FACE;0THINKING/1;0FACE WITH HEAD-BANDAGE;0ROBOT FACE",
     "0HUGGING/1;0SIGN OF THE HORNS;0CALL ME HAND;0RAISED BACK OF/1;0LEFT-FACING FIST",
     "0RIGHT-FACING/1;0HANDSHAKE;0HAND WITH INDEX AND MIDDLE FINGERS CROSSED",
     "0I LOVE YOU HAND SIGN;0FACE WITH COWBOY HAT;0CLOWN FACE;0NAUSEATED/1",
     "0ROLLING ON THE FLOOR LAUGHING;0DROOLING FACE;0LYING/1;0FACE PALM;0SNEEZING FACE",
     "0FACE WITH ONE EYEBROW RAISED;0GRINNING FACE WITH STAR EYES;3ONE LARGE AND ONE SMALL EYE",
     "0FACE WITH FINGER COVERING CLOSED LIPS;0SERIOUS FACE WITH SYMBOLS COVERING MOUTH",
     "0SMILING FACE WITH SMILING EYES AND HAND/2;0FACE WITH OPEN MOUTH VOMITING",
     "0SHOCKED FACE WITH EXPLODING HEAD;0PREGNANT WOMAN;0BREAST-FEEDING;0PALMS UP TOGETHER",
     "0SELFIE;0PRINCE;0MAN IN TUXEDO;0MOTHER CHRISTMAS;0SHRUG;0PERSON DOING CARTWHEEL;0JUGGLING",
     "0FENCER;0MODERN PENTATHLON;0WRESTLERS;0WATER POLO;0HANDBALL;0DIVING MASK;0WILTED FLOWER",
     "0DRUM WITH DRUMSTICKS;0CLINKING GLASSES;0TUMBLER GLASS;0SPOON;0GOAL NET;0RIFLE",
     "0FIRST PLACE MEDAL;0SECOND/2;0THIRD/2;0BOXING GLOVE;0MARTIAL ARTS UNIFORM;0CURLING STONE",
     "0LACROSSE STICK AND BALL;0SOFTBALL;0FLYING DISC;0CROISSANT;0AVOCADO;0CUCUMBER;0BACON",
     "0POTATO;0CARROT;0BAGUETTE BREAD;0GREEN SALAD;0SHALLOW PAN OF FOOD;0STUFFED FLATBREAD;0EGG",
     "0GLASS OF MILK;0PEANUTS;0KIWIFRUIT;0PANCAKES;0DUMPLING;0FORTUNE COOKIE;0TAKEOUT BOX",
     "0CHOPSTICKS;0BOWL WITH SPOON;0CUP WITH STRAW;0COCONUT;0BROCCOLI;0PIE;0PRETZEL;0CUT OF MEAT",
     "0SANDWICH;0CANNED FOOD;0LEAFY GREEN;0MANGO;0MOON CAKE;0BAGEL",
     "0SMILING FACE WITH SMILING EYES AND THREE HEARTS;0YAWNING FACE;0SMILING FACE WITH TEAR",
     "0FACE WITH PARTY HORN AND PARTY HAT;2UNEVEN EYES AND WAVY MOUTH;0OVERHEATED FACE",
     "0FREEZING/1;0NINJA;0DISGUISED FACE;0FACE HOLDING BACK TEARS;1WITH PLEADING EYES;0SARI",
     "0LAB COAT;0GOGGLES;0HIKING BOOT;0FLAT SHOE;0CRAB;0LION FACE;0SCORPION;0TURKEY",
     "0UNICORN FACE;0EAGLE;0DUCK;0BAT;0SHARK;0OWL;0FOX FACE;0BUTTERFLY;0DEER;0GORILLA;0LIZARD",
     "0RHINOCEROS;0SHRIMP;0SQUID;0GIRAFFE FACE;0ZEBRA/1;0HEDGEHOG;0SAUROPOD;0T-REX;0CRICKET",
     "0KANGAROO;0LLAMA;0PEACOCK;0HIPPOPOTAMUS;0PARROT;0RACCOON;0LOBSTER;0MOSQUITO;0MICROBE",
     "0BADGER;0SWAN;0MAMMOTH;0DODO;0SLOTH;0OTTER;0ORANGUTAN;0SKUNK;0FLAMINGO;0OYSTER;0BEAVER",
     "0BISON;0SEAL;0GUIDE DOG;0PROBING CANE;0EMOJI COMPONENT RED HAIR;2CURLY/1;2BALD;2WHITE HAIR",
     "0BONE;0LEG;0FOOT;0TOOTH;0SUPERHERO;0SUPERVILLAIN;0SAFETY VEST;0EAR WITH HEARING AID",
     "0MOTORIZED WHEELCHAIR;0MANUAL/1;0MECHANICAL ARM;1LEG;0CHEESE WEDGE;0CUPCAKE;0SALT SHAKER",
     "0BEVERAGE BOX;0GARLIC;0ONION;0FALAFEL;0WAFFLE;0BUTTER;0MATE DRINK;0ICE CUBE;0BUBBLE TEA",
     "0TROLL;0STANDING PERSON;0KNEELING/1;0DEAF/1;0FACE WITH MONOCLE;0ADULT;0CHILD;0OLDER ADULT",
     "0BEARDED PERSON;0PERSON WITH HEADSCARF;1IN STEAMY ROOM;1CLIMBING;1IN LOTUS POSITION;0MAGE",
     "0FAIRY;0VAMPIRE;0MERPERSON;0ELF;0GENIE;0ZOMBIE;0BRAIN;0ORANGE HEART;0BILLED CAP;0SCARF",
     "0GLOVES;0COAT;0SOCKS;0RED GIFT ENVELOPE;0FIRECRACKER;0JIGSAW PUZZLE PIECE;0TEST TUBE",
     "0PETRI DISH;0DNA DOUBLE HELIX;0COMPASS;0ABACUS;0FIRE EXTINGUISHER;0TOOLBOX;0BRICK;0MAGNET",
     "0LUGGAGE;0LOTION BOTTLE;0SPOOL OF THREAD;0BALL OF YARN;0SAFETY PIN;0TEDDY BEAR;0BROOM",
     "0BASKET;0ROLL OF PAPER;0BAR OF SOAP;0SPONGE;0RECEIPT;0NAZAR AMULET"]⟩,
   ⟨0x1FA00,
    ["0NEUTRAL CHESS KING;2QUEEN;2ROOK;2BISHOP;2KNIGHT;2PAWN",
     "0WHITE CHESS KNIGHT ROTATED FORTY-FIVE DEGREES;0BLACK/5;0NEUTRAL/5",
     "0WHITE CHESS KING ROTATED NINETY/1;2QUEEN/3;2ROOK/3;2BISHOP/3;2KNIGHT/3;2PAWN/3",
     "0BLACK CHESS KING/3;2QUEEN/3;2ROOK/3;2BISHOP/3;2KNIGHT/3;2PAWN/3;0NEUTRAL CHESS KING/3",
     "2QUEEN/3;2ROOK/3;2BISHOP/3;2KNIGHT/3;2PAWN/3",
     "0WHITE CHESS KNIGHT ROTATED ONE HUNDRED THIRTY-FIVE/1;0BLACK/7;0NEUTRAL/7",
     "0WHITE CHESS TURNED KING;3QUEEN;3ROOK;3BISHOP;3KNIGHT;3PAWN;0BLACK CHESS TURNED KING",
     "3QUEEN;3ROOK;3BISHOP;3KNIGHT;3PAWN;0NEUTRAL CHESS TURNED KING;3QUEEN;3ROOK;3BISHOP;3KNIGHT",
     "3PAWN;0WHITE CHESS KNIGHT ROTATED TWO HUNDRED TWENTY-FIVE DEGREES;0BLACK/7;0NEUTRAL/7",
     "0WHITE CHESS KING ROTATED TWO HUNDRED SEVENTY/1;2QUEEN/5;2ROOK/5;2BISHOP/5;2KNIGHT/5",
     "2PAWN/5;0BLACK CHESS KING/5;2QUEEN/5;2ROOK/5;2BISHOP/5;2KNIGHT/5;2PAWN/5",
     "0NEUTRAL CHESS KING/5;2QUEEN/5;2ROOK/5;2BISHOP/5;2KNIGHT/5;2PAWN/5",
     "0WHITE CHESS KNIGHT ROTATED THREE HUNDRED FIFTEEN/1;0BLACK/7;0NEUTRAL/7",
     "0WHITE CHESS EQUIHOPPER;0BLACK/2;0NEUTRAL/2;0WHITE CHESS EQUIHOPPER ROTATED NINETY DEGREES",
     "0BLACK/5;0NEUTRAL/5;0WHITE CHESS KNIGHT-QUEEN;2KNIGHT-ROOK;2KNIGHT-BISHOP",
     "0BLACK CHESS KNIGHT-QUEEN;2KNIGHT-ROOK;2KNIGHT-BISHOP"]⟩]

end Provisioning.Text
