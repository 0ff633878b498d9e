set_option autoImplicit false
set_option relaxedAutoImplicit false

/-!
# The names of characters, packed

The names that Unicode 14 gives its characters, with their aliases, in the order of the code points and
the aliases last. Families of names that number their characters are not listed.

`nameWords` lists frequent words, each with the blank or dash before it; in a packed name a pair of small
letters counts out one of them. `nameTable` lists packed names. An entry opens with its code point, where
that is not the one after the entry before it; then comes a digit of base 36, the count of characters
shared with the packed name before, and after it the rest. A semicolon or a line break ends an entry.
-/

namespace Criteria.Text

def nameWords : String :=
  " LETTER; WITH; CAPITAL; SMALL; FORM; ARROW; SIGN; ABOVE; ISOLATED; RIGHT; DOUBLE; BELOW; FINAL
 TRIANGLE; AND; INITIAL; THREE; LEFT; STROKE; VERTICAL; SYMBOL; MARK; MIDDLE; HORIZONTAL; HUNDRED
 THOUSAND; BRACKET; RIGHTWARDS;RIGHTWARDS; CIRCUMFLEX; TWO; FOUR; HOOK; ONE;LEFTWARDS; DIAERESIS
 TIMES; EIGHT; FIVE; ARROWHEAD; DOT; BLACK; CIRCLE; SEVEN; SQUARE; WHITE;-POINTING; HEAVY; LEFTWARDS
 POINTING; MEDIAL;-HEADED; MEEM; YPOGEGRAMMENI; PERISPOMENI; VOWEL; DOWN; INDEX; HALF; PLUS; EQUAL
 WEST; REVERSED; PARENTHESIS; PUNCTUATION; NINE; DIGIT; INVERTED;DOWNWARDS; MAKSURA; TILDE; ACUTE
 MEDIUM; SINGLE; ORNAMENT; LIGHT; DOTS;-THAN; DOWNWARDS; PROSGEGRAMMENI; OVER; VOCALIC; ANUSVARA
 ROTATED; HARPOON; MACRON; TURNED; RETROFLEX; LOWER;-CREE; THUMB; ALEF; DEGREES; DESCENDER; FACE;BLACK
 DASIA; DIAGONAL; NUMBER; PSILI; ASTERISK; OPERATOR; CANDRABINDU; SIX; BAR; BARB; RING; TONE; GRAVE
WHITE; CENTRE; LITTLE;UPWARDS; ZERO;RIGHT; LARGE; SEPARATOR; UPPER; JEEM; LONG; BLOCK; VARIA; TO
 COMMA; YEH; EQUILATERAL; EXCLAMATION; TWENTY; HIGH; OPEN; UPWARDS; OF; QUOTATION; BREVE; SHORT; STOP
 LIGATURE; DIAMOND; LINE; VISARGA; POINTED; CROSSING;LEFT; VIRAMA; GREATER; SEVENTY; ANGLE; ACCENT
 LOW;-FLOORPLANE; ABBREVIATION; QUARTER; NINETY; EAST; OXIA; QUESTION; HAH; HITTING; CONSONANT
-WALLPLANE; TRIPLE; CARON; ALTERNATING; ALTERNATE; COMBINING; PALATAL; UNDERBAR; CROSS; TEN;DOUBLE
 CEDILLA; DIGRAPH; GLOTTAL; TAIL; TRIANGULAR; UPSILON; YENISEI;-SIMPLIFIED; KHAH; STAR;HEAVY; GUNU
 CORNER; DOTTED; STRAIGHT; UP; CIRCLED; EPSILON; SQUARED; NGA; OMEGA; SHA; KNIGHT; HAMZA; ORKHON
 FINGERS; FULL; HA; CONJOINED; CLOSED; THIRTY;-KIYEOK;CIRCLED; CHA; OVERLAY; SECTION; NYA;GREATER
 ALPHA; FIFTY; KHA; KA; ARCHAION; SOLIDUS; VARIANT; EIGHTH; CHESS; TENU; TTHA; PA; THA;VERTICAL
 MOVEMENT; RA; DASH; DDHA; DANDA; NOON; YA; COLON; FRACTION; MA; NA; SYLLABLE;COMBINING; LA; BOTTOM
 DAGESH; EQUALS; INTERSECTION; ANTICLOCKWISE; ARCHAIC; CROSSED; EQUIVALENT; NORTH; PHA; SLANTED
 AVAGRAHA; COPTIC; IOTIFIED; TA; TORTOISE;-CIRCLE; DIALYTIKA; LATIN; SA; SOUTH;-PIEUP;HORIZONTAL
 FORWARD; INSULAR; LESS; OMICRON;-SIOS;REVERSED; DA; HEART; SIGMA; HORN; TABULATION; TACK; MODIFIER
 QUARTERS; TTA; CRYPTOGRAMMIC; DDA; GA; GHA; NUKTA; THETA;MODIFIER;-TIKEUT; DHA; NUN; SHELL;-HIEUH
 DIAMONDS; INTEGRAL; QUADRANT; BETWEEN; FROM; INSIDE; IOTA; MAHAAPRAANA; SIMALUNGUN; SUPERSCRIPT; BA
 AA; ASH; CHARACTER; CURLY; NNA; NOT;-SERIF;ANTICLOCKWISE; HAND; SHIN; BHA; OLD; RAISED; SPOKED; BENT
 EIGHTHS; GAMMA; SHAFT;SUPERSET; OR; ALPAPRAANA;-FIST;IDEOGRAPHIC; FORTY; HEARTS; SEMICOLON; SIXTY
 SPACE; AI; II; DOTLESS; SEEN; SSA; THROUGH; WAW; MULTIPLE; NOTEHEAD; MOUTH; WA; ARROWS; HINGED
 LENGTH; SAMEKH; SIDE;LATIN; AU; FOR; THE; UU; CHARACTERS; CIRCLES; DELTA; ITERATION; JA; LAM
 LENTICULAR; OBLIQUE; OVERBAR; PRODUCT; REVERSE; SHEEN; TONOS;-HINGE;MEDIUM;SQUARE; CA; CANDRA; EIGHTY
 INDEPENDENT; JHA; LAMEDH; SCRIPT; MOON; CURVE; KAPPA; SHE; DISH; KRYZHEM; PHIEUPH; POVYSHE;-THIEUTH
 ARABIC; KIYEOK; OGONEK; SPADES; TWELVE;-SHAPED; AIN; ALEPH; GHAIN; QUADRUPLE; APOSTROPHE; BOLD
 COMPRESSED; CURL; ROTATION; SHADOWED; TWELFTHS;UPPER; ON; ALMOST; CARRIER; ELEVEN; FIFTEEN; GIMEL
 KLYUCHEVAYA; LEAF; LOZENGE; NEUTRAL; PIEUP; QUEEN; REH; RIEUL; SANS; SLASH; SOUND; SPREAD; TIKEUT
-CIEUC;MULTIPLICATION;NEGATIVE;PRECEDES;SUCCEEDS;TURNED; KAF; TOP; TSA; EYES; HEAD;NORTH; ABKHASIAN
 CRESCENTS; EIGHTEEN; EXTENSION; GREEK; HEH; INDICATOR; MAHAPRANA; SADHE; SEVENTEEN; SHADE; SUPERSET
 THOUSANDS; TURNSTILE; YUS; ZAPYATAYA; ZAYIN; BISHOP; BULLET; DIFFERENTIAL; FINGER; HYPHEN; KASKAL
 OCLOCK; SUBSET; SUBSTITUTION; TEDUNG;-THIRTY; BETA; CONTAINING; END; IN; LLA; NASKAPI; NOTE; NUMERAL
 SALTIRE; SMILING; SVARITA; TAH; VERTICALLY; WAVE;-PANSIOS; VA; CLUBS; GAR; IEUNG; LAMDA; MIEUM; MINUS
 MULTIPLICATION; NEO; NEPOSTOYANNAYA; NIEUN; RHO;SUBSET; GAN2; KING; LOOP; REST; VERY;-LINE;LOWER
 DALETH; IGI; ITALIC; JIHVAMULIYA; QAF; RISING; UPADHMANIYA;-SPOKED;-STRUCK;INTERSECTION;LESS;NEUTRAL
 BACKHAND; CYRILLIC; DODEKATA; ELLIPSIS; FOURTEEN; NINETEEN; NOTATION; OPPOSING; PINWHEEL; SUBGROUP
 SVETLAYA; THIRTEEN;CLOCKWISE; AMPERSAND; BACKSLASH; BAMBOOS; BETH; BOX; CEILING; CHIEUCH; ICHOS
 IDEOGRAPH; KASRA; LARGEST; LOGICAL; PHI; POINT; RECTANGLE; ROUNDED; SIXTEEN; SIXTEENTH; THIRD
-CHIEUCH;-KHIEUKH;-MIEUM;-PHIEUPH;SOUTH; OO; ZA; CHE; PE; BARRED; BESIDE; CURVED; DASHED; EN
 EQUIHOPPER; FILLER; GISH; KAPH; KOMI; LUNATE; SHAD; TAK4; VOICED;INFORMATION;LIGHT; CHI; FATHA; FEH
 LAGAB; RTAGS; SAD; UNION; WRIST;-ANGLE;EQUALS; CENTRED; DIALECT; EXTENDED; FISHHOOK; HE; HETH
 KHIEUKH; KOET; MILLIONS; MUSICAL; OVERLINE; PLASTICS; RESH; SHESHIG; SIDEWAYS; STATERS; SUBUNIT
 TEARDROP; THIEUTH; TSHA; WRINKLED; YODH; ZAIN; ZHA;FACE;INVERTED;THREE; EE; PI; CHECK; CIEUC; CLICK
 EARTH; ETA; FA; IDEOGRAPHIC; MEM; MURDA; NUBIAN; PERSON; PRIME; ROUND; SAYISI; SSANGSIOS; SUBJOINED
 SUBSCRIPT; TELEPHONE; THIRDS; TSHEG; YU;-FACING;-PILLA;-RIEUL;BOTTOM;REVERSE;SQUARED; CENTRALIZATION
 FILL; GROMOPOVODNAYA; MU; OE; QUAD; RR; BEH; RRA; TE; AYIN; BAD; BIRGA; CONTROL; DAD; DAMMA
 EGYPTOLOGICAL; FLOOR; FRONT; GEMINATION; HIEUH; SCHWA; SEMICIRCLE; SHAR2; SIOS; SSANGCIEUC; TALENTS
 TEH; WORD; ZETA;-INDIC;-KAPYEOUNPIEUP;-TAIL;-VAS;ARABIC;JAPANESE;SMALL;TRIPLE; ANTIMONY; ATTACHED
 BUBBLE; ENVELOPE; FATHATAN; KHOKHLOM; LONSUM; MARKER; NORMAL; PAIRED; PARALLEL; SCISSORS; SECANT"

def nameTable : String :=
  "!20 0SPACE;0EXCLAMATIONav;0QUOTATIONav;0NUMBERag;0DOLLARag;0PERCENTag;0AMPERSAND;1POSTROPHE;0fmcl
0ekcl;0ASTERISK;0PLUSag;0COMMA;0HYPHEN-MINUS;0FULLff;0SOLIDUS;0DIGITej;5bh;6e;5aq;5bf;6m;5dz;5br;6l
5cn;0COLON;0SEMICOLON;0tgczag;0vwag;0hzczag;0QUESTIONav;0COMMERCIAL AT;0ndacaa A;7B;7C;7D;7E;7F;7G;7H
7I;7J;7K;7L;7M;7N;7O;7P;7Q;7R;7S;7T;7U;7V;7W;7X;7Y;7Z;0fmbsba;0xzif;0ekbsba;0CIRCUMFLEXfr;0LOWfi
0GRAVEfr;0ndadaa A;7B;7C;7D;7E;7F;7G;7H;7I;7J;7K;7L;7M;7N;7O;7P;7Q;7R;7S;7T;7U;7V;7W;7X;7Y;7Z;0fmloba
0infi;0ekloba;0TILDE;!a0 0NO-BREAKmm;0wwewav;0CENTag;0POUNDag;0CURRENCYag;0YENag;0BROKENea;0SECTIONag
0DIAERESIS;0COPYRIGHTag;0FEMININE ORDINALqr;0fmbuakfqfcav;0NOTag;0SOFTrg;0REGISTEREDag;0MACRON
0DEGREEag;0PLUS-MINUSag;0SUPERSCRIPTbe;baq;0ACUTEfr;0MICROag;0PILCROWag;0MIDDLEbo;0CEDILLA
0SUPERSCRIPTbh;0MASCULINE ORDINALqr;0ekbuakfqfcav;0VULGARiwbhfv;acg;8aqkm;0wwfzav;0ndacaa Aabee;act
abd;acs;abj;aecah;8E;7Cabgo;7Eabee;act;abd;bj;7Iabee;act;abd;bj;7ETH;7Nabcs;7Oabee;act;abd;acs;abj
0qaag;0ndacaa Oabas;7Uabee;act;abd;bj;7Yabct;7THORN;3daa SHARP S;7Aabee;act;abd;acs;abj;aecah;8E
7Cabgo;7Eabee;act;abd;bj;7Iabee;act;abd;bj;7ETH;7Nabcs;7Oabee;act;abd;acs;abj;0DIVISIONag
0ndadaa Oabas;7Uabee;act;abd;bj;7Yabct;7THORN;7Yabbj;3caa Aabdh;3daa Aabdh;3caa Aabfd;3daa Aabfd
3caa Aaboq;3daa Aaboq;3caa Cabct;3daa Cabct;3caa Cabbd;3daa Cabbd;3caa Cabboah;3daa Cabboah;3caa Cabgf
3daa Cabgf;3caa Dabgf;3daa Dabgf;3caa Dabas;3daa Dabas;3caa Eabdh;3daa Eabdh;3caa Eabfd;3daa Eabfd
3caa Eabboah;3daa Eabboah;3caa Eaboq;3daa Eaboq;3caa Eabgf;3daa Eabgf;3caa Gabbd;3daa Gabbd;3caa Gabfd
3daa Gabfd;3caa Gabboah;3daa Gabboah;3caa Gabgo;3daa Gabgo;3caa Habbd;3daa Habbd;3caa Habas;3daa Habas
3caa Iabcs;3daa Iabcs;3caa Iabdh;3daa Iabdh;3caa Iabfd;3daa Iabfd;3caa Iaboq;3daa Iaboq;3caa Iabboah
3daamp I;3cfg IJ;3dfg IJ;3caa Jabbd;3daa Jabbd;3caa Kabgo;3daa Kabgo;8RA;3caa Labct;3daa Labct
3caa Labgo;3daa Labgo;3caa Labgf;3daa Labgf;3caa Labawbo;3daa Labawbo;3caa Labas;3daa Labas;3caa Nabct
3daa Nabct;3caa Nabgo;3daa Nabgo;3caa Nabgf;3daa Nabgf;8 PRECEDED BYoy;3caa ENG;3daa ENG;3caa Oabdh
3daa Oabdh;3caa Oabfd;3daa Oabfd;3caa Oabakct;3daa Oabakct;3cfgyf;3dfgyf;3caa Rabct;3daa Rabct
3caa Rabgo;3daa Rabgo;3caa Rabgf;3daa Rabgf;3caa Sabct;3daa Sabct;3caa Sabbd;3daa Sabbd;3caa Sabgo
3daa Sabgo;3caa Sabgf;3daa Sabgf;3caa Tabgo;3daa Tabgo;3caa Tabgf;3daa Tabgf;3caa Tabas;3daa Tabas
3caa Uabcs;3daa Uabcs;3caa Uabdh;3daa Uabdh;3caa Uabfd;3daa Uabfd;3caa Uabecah;3daa Uabecah
3caa Uabakct;3daa Uabakct;3caa Uaboq;3daa Uaboq;3caa Wabbd;3daa Wabbd;3caa Yabbd;3daa Yabbd;3caa Yabbj
7Zabct;3daa Zabct;3caa Zabboah;3daa Zabboah;3caa Zabgf;3daa Zabgf;6ep S;6 Babas;3caa Babbg;a TOPBAR
3daa Bab TOPBAR;3caaeddz;3daaeddz;3caaez O;6 Cabbg;3daa Cabbg;3caa AFRICAN D;7Dabbg;a TOPBAR
3daa Dab TOPBAR;6dink;3caack E;6yw;6ez E;6 Fabbg;3daa Fabbg;3caa Gabbg;6mb;3daa HV;3caalg;6 Iabas
7Kabbg;3daa Kabbg;7Labea;8AMBDAabas;3caadi M;6 Nabarbg;3daa Nabepaj LEG;3caa Oabawcs;aki;3daa Oabki
3caa OI;3daa OI;3caa Pabbg;3daa Pabbg;3a YR;3caaedbe;3daaedbe;3caa ESH;3ack ESHsr;3daa Tabgjbg
3caa Tabbg;3daa Tabbg;3caa Tabdjbg;7Uabki;3daa Uabki;3caagt;6 Vabbg;7Yabbg;3daa Yabbg;3caa Zabas
3daa Zabas;3caa EZH;ack;3daa EZHck;aabgr;3abeabas;3caaedbm;3daaedbm;3acpgqffabas;4 WYNN;5DENTALxc
5LATERALxc;5ALVEOLARxc;4djxc;3caa DZabgf;8abadaa Zabgf;3daa DZabgf;3caa LJ;8abadaa J;3daa LJ;3caa NJ
8abadaa J;3daa NJ;3caa Aabgf;3daa Aabgf;3caa Iabgf;3daa Iabgf;3caa Oabgf;3daa Oabgf;3caa Uabgf
3daa Uabgf;3caa Uabbjaodh;3daa Uabbjaodh;3caa Uabbjaoct;3daa Uabbjaoct;3caa Uabbjaogf;3daa Uabbjaogf
3caa Uabbjaoee;3daa Uabbjaoee;6di E;3caa Aabbjaodh;3daa Aabbjaodh;3caa Aabboahaodh;3daa Aabboahaodh
3caa AEabdh;3daa AEabdh;3caa Gabas;3daa Gabas;3caa Gabgf;3daa Gabgf;3caa Kabgf;3daa Kabgf;3caa Oaboq
3daa Oaboq;3caa Oaboqaodh;3daa Oaboqaodh;3caa EZHabgf;3daa EZHabgf;7Jabgf;3caa DZ;8abadaa Z;3daa DZ
3caa Gabct;3daa Gabct;3caa HWAIR;7WYNN;7Nabee;3daa Nabee;3caa Aabecahaoct;3daa Aabecahaoct;3caa AEabct
3daa AEabct;3caa Oabasaoct;3daa Oabasaoct;3caa Aabakee;3daa Aabakee;3caa Aabcpfd;3daa Aabcpfd
3caa Eabakee;3daa Eabakee;3caa Eabcpfd;3daa Eabcpfd;3caa Iabakee;3daa Iabakee;3caa Iabcpfd
3daa Iabcpfd;3caa Oabakee;3daa Oabakee;3caa Oabcpfd;3daa Oabcpfd;3caa Rabakee;3daa Rabakee
3caa Rabcpfd;3daa Rabcpfd;3caa Uabakee;3daa Uabakee;3caa Uabcpfd;3daa Uabcpfd;3caa Sabetal
3daa Sabetal;3caa Tabetal;3daa Tabetal;3caa YOGH;3daa YOGH;3caa Habgf;3daa Habgf;3caa Nabepaj LEG
3daa Dabpb;3caa OU;3daa OU;3caa Zabbg;3daa Zabbg;3caa Aabboah;3daa Aabboah;3caa Eabgo;3daa Eabgo
3caa Oabbjaodh;3daa Oabbjaodh;3caa Oabcsaodh;3daa Oabcsaodh;3caa Oabboah;3daa Oabboah;3caa Oabboahaodh
3daa Oabboahaodh;3caa Yabdh;3daa Yabdh;7Labpb;7Nabpb;7Tabpb;6mp J;6 DBgp;7QPgp;3caa Aabas;7Cabas
3daa Cabas;3caa Labea;7Tabdtas;3daa Sab SWASHgr;7Zab SWASHgr;3caagqff;3daagqff;3caa Babas;7Uea;6di V
6 Eabas;3daa Eabas;3caa Jabas;3daa Jabas;3caaad Qabbggr;3daa Qabbggr;3caa Rabas;3daa Rabas;3caa Yabas
3daa Yabas;6di A;6ia;6diia;6 Babbg;6ez O;6 Cabpb;7Dabgr;abg;6ck E;6yw;8abbg;6ez E;6ckez E;cabbg
6hrckez E;6mp Jabas;6 Gabbg;6oe G;3aadac G;3daamb;6 RAMSki;6di H;6 Habbg;8ENGabbg;7Iabas;6lg;3aadac I
3daa Labawcs;a BELT;adjbg;8EZH;6di M;aabep LEG;6 Mabbg;7Nabarbg;adjbg;3aadac N;3daaux O;3aadacyf
3daahrhi;6uh;6di R;aabep LEG;cbg;6 Rabep LEG;agr;awa;6ck Rabwa;3aadac R;8cp R;3daa Sabbg;7ESH
6mp Jabasaobg;6 SQUATck ESH;7ESHabpb;6di T;6 Tabdjbg;7Uea;6gt;6 Vabbg;6di V;9W;9Y;3aadac Y
3daa Zabdjbg;apb;7EZH;aabpb;3agqff;4 PHARYNGEALvk FRICATIVE;4cpgqff;4 STRETCHED C;5BILABIALxc;4adac B
3daahrez E;3aadac Gabbg;9H;3daa Jabjizh;6di K;3aadac L;3daa Qabbg;3agqffabas;4ckgqffabas;3daa DZgp
8EZHgp;8Zgpabpb;7TSgp;8ESHgp;8Cgpabpb;7FENGgp;7LSgp;8Zgp;3a BILABIAL PERCUSSIVE;7DENTAL PERCUSSIVE
3daadi Habwa;eaogr;0kuaaad H;8abbg;7J;7R;6di R;aabbg;6accp R;6 W;7Y;4xl;4akxl;4diet;4oy;4cket;4ajcgec
5rcgec;4gqff;4ckgqff;4arbn;5jbn;4hdbn;4cebn;4bdfr;0CARON;0kuaaatfi;4dh;4ctfr;4eefr;4fsatfi;6dh;6eefr
6ctfr;4gsiv;4cggsiv;4vxajcgec;7rcgec;4hdkk;4cekk;5hag;4siag;0BREVE;0DOTah;0RINGah;0OGONEK;0zlcs
0gnctfr;0kuaa RHOTICbg;4glfr;4admb;6 L;7S;7X;6ckgqff;4 EXTRA-HIGHedea;4eyedea;4 MIDedea;4fsedea
4 EXTRA-LOWedea;5YIN DEPARTINGedav;6ANG DEPARTINGedav;5VOICING;5UNASPIRATED;4akoy;4fscebn;6hdbn;6arbn
7jbn;6ec;4aweefr;6akeefr;8ctfr;4fscs;4lxiv;4 BEGINeyed;4rpeyed;4 BEGINfsed;4rpfsed;4 SHELF;4ez SHELF
4fsaraf;0jaeefr;2ctfr;2bdfr;2cs;2dh;2wh;2fd;2boah;3j;3gah;2ecah;2akctfr;2gf;2atfiah;3katfiah;4eefr;2dy
2cpfd;2dietah;2etah;2cketah;2etahaj;3efral;2ctfral;2arkkal;3jkkal;3rfqah;2ki;2arcgecal;2hdkkal;2cekkal
3hagal;2siagal;2 PALATALIZEDbgal;2djbgal;2boal;3jal;2ecal;3tal;2go;2oq;2atfial;2 BRIDGEal;2cpak ARCHal
2gfal;2bdfral;2fdal;2cpfdal;3sal;2dhal;2fsfi;2akfsfi;2cshw;2feashw;2epashw;2feifhw;2epifhw;2ajcgecal
2cp BRIDGEal;2bsal;2 SEAGULLal;3Xah;2atcs;3kwh;2eeedav;2ctedav;2qpcc;4 KORONIS;4jtnu;4cb;2 BRIDGEah
2jeagal;2akatfial;3rfqal;2lqcsah;2 HOMOTHETICah;2phciesah;2arajafal;2faafal;2 GRAPHEME JOINER;2ajbnah
3rcgecah;2 FERMATA;3Xal;2arbnal;3jbnal;7ohdbnal;4cgecah;2boahaj;2dwal;2akecal;2 ZIGZAGah;2akfdal;6;4dh
6al;4cs;5pfd;4bbafal;2juadaa A;9E;9I;9O;9U;9C;9D;9H;9M;9R;9T;9V;9X;0GREEKacaa HETA;6daa HETA
6caajh SAMPI;6daajh SAMPI;5ruag;5dkruag;5acaa PAMPHYLIAN DIGAMMA;6daa PAMPHYLIAN DIGAMMA;!37a 5cb
5adckvhkhau;7hbvhkhau;7ckhbvhkhau;5fzav;5acaa YOT;!384 5nu;5jtnu;5acaaiaabnu;5 ANO TELEIA;5acaahfabnu
9xeabnu;9lgabnu;!38c 9kcabnu;!38e 9gtabnu;9hiabnu;6daalgabjtaonu;6caaia;9rn;9mb;9nk;9hf;9ze;9xe;9kt
9lg;9oh;9sg;9ye;9 NU;aXI;9kc;9wz;9sn;!3a3 9kh;9 TAU;9gt;9uh;9vn;9 PSI;9hi;9lgabjt;9gtabjt;6daaiaabnu
9hfabnu;9xeabnu;9lgabnu;9gtabjtaonu;9ia;9rn;9mb;9nk;9hf;9ze;9xe;9kt;9lg;9oh;9sg;9ye;9 NU;aXI;9kc;9wz
9sn;9amkh;9kh;9 TAU;9gt;9uh;9vn;9 PSI;9hi;9lgabjt;9gtabjt;9kcabnu;9gtabnu;9hiabnu;6c KAIau;5rnau;5ktau
5gtabbgau;9ctaobgau;9bjaobgau;5uhau;5wzau;5 KAIau;5aajh KOPPA;6daajh KOPPA;6a STIGMA;6daa STIGMA
6a DIGAMMA;6daa DIGAMMA;6a KOPPA;6daa KOPPA;6a SAMPI;6daa SAMPI;0COPTICacaa SHEI;7daa SHEI;7caa FEI
7daa FEI;7caa KHEI;7daa KHEI;7caa HORI;7daa HORI;7caa GANGIA;7daa GANGIA;7caa SHIMA;7daa SHIMA
7caa DEI;7daa DEI;0GREEKohau;5snau;5vhkhau;5aa YOT;6cktau;5vhhfau;5ckvhhfau;5acaa SHO;6daa SHO
6cvhkhau;7aa SAN;6daa SAN;5snabasau;5acckvhkhau;7hbvhkhau;7ckhbvhkhau;0CYRILLICacaa IEabee;eO;dDJE
dGJE;dUKRAINIAN IE;dDZE;dBYELORUSSIAN-UKRAINIAN I;dYI;dJE;dLJE;dNJE;dTSHE;dKJE;dIabee;cfe U;c DZHE;dA
dBE;dVE;dGHE;dDE;dIE;dZHE;eE;dI;cfe I;cid;c EL;eM;cvb;c O;cuw;c ER;eS;cyk;c U;dEF;chp;c TSE;cuv;chj
c SHCHA;dHARDag;dYERU;dSOFTag;dE;cxu;ciu;9daa A;dBE;dVE;dGHE;dDE;dIE;dZHE;eE;dI;cfe I;cid;c EL;eM;cvb
c O;cuw;c ER;eS;cyk;c U;dEF;chp;c TSE;cuv;chj;c SHCHA;dHARDag;dYERU;dSOFTag;dE;cxu;ciu;c IEabee;eO
dDJE;dGJE;dUKRAINIAN IE;dDZE;dBYELORUSSIAN-UKRAINIAN I;dYI;dJE;dLJE;dNJE;dTSHE;dKJE;dIabee;cfe U
c DZHE;9caahi;9daahi;9caa YAT;9daa YAT;9caajp E;9daajp E;9caaehqz;9daaehqz;9caajpehqz;9daajpehqz
9caa BIGqz;9daa BIGqz;9caajp BIGqz;9daajp BIGqz;9caa KSI;9daa KSI;9caa PSI;9daa PSI;9caa FITA
9daa FITA;9caa IZHITSA;9daa IZHITSA;9caa IZHITSAabakeefr;9daa IZHITSAabakeefr;9caa UK;9daa UK;9caaxmhi
9daaxmhi;9caahiab TITLO;9daahiab TITLO;9caa OT;9daa OT;9caa KOPPA;9daa KOPPA;8qxag;0jatj TITLO
5PALATALIZATION;4ds PNEUMATA;5v PNEUMATA;4 POKRYTIE;4ayqxag;4wfag;0CYRILLICacaafe Iabgr;9daafe Iabgr
9caa SEMISOFTag;9daa SEMISOFTag;9caa ERab TICK;9daa ERab TICK;9caa GHEab UPTURN;9daa GHEab UPTURN
9caa GHEabas;9daa GHEabas;9caa GHEabawbg;9daa GHEabawbg;9caa ZHEabdp;9daa ZHEabdp;9caa ZEabdp
9daa ZEabdp;9caaidabdp;9daaidabdp;9caaidabatas;9daaidabatas;9caaidabas;9daaidabas;9caa BASHKIRid
9daa BASHKIRid;9caavbabdp;9daavbabdp;9cfgvb GHE;9dfgvb GHE;9caauwabawbg;9daauwabawbg;9caaqlhp;9daaqlhp
9caa ESabdp;9daa ESabdp;9caaykabdp;9daaykabdp;9caahc U;9daahc U;9caahc Uabas;9daahc Uabas;9caahpabdp
9daahpabdp;9cfgyk TSE;9dfgyk TSE;9caauvabdp;9daauvabdp;9caauvabatas;9daauvabatas;9caa SHHA;9daa SHHA
9caaqluv;9daaqluv;9caaqluvabdp;9daaqluvabdp;9a PALOCHKA;9caa ZHEabfd;9daa ZHEabfd;9caaidabbg
9daaidabbg;9caa ELabgr;9daa ELabgr;9caavbabbg;9daavbabbg;9caavbabgr;9daavbabgr;9caa KHAKASSIANuv
9daa KHAKASSIANuv;9caa EMabgr;9daa EMabgr;dPALOCHKA;9caa Aabfd;9daa Aabfd;9caa Aabbj;9daa Aabbj
9cfg A IE;9dfg A IE;9caa IEabfd;9daa IEabfd;9caayw;9daayw;9caaywabbj;9daaywabbj;9caa ZHEabbj
9daa ZHEabbj;9caa ZEabbj;9daa ZEabbj;9caaql DZE;9daaql DZE;9caa Iabdh;9daa Iabdh;9caa Iabbj;9daa Iabbj
9caa Oabbj;9daa Oabbj;9caaux O;9daaux O;9caaux Oabbj;9daaux Oabbj;9caa Eabbj;9daa Eabbj;9caa Uabdh
9daa Uabdh;9caa Uabbj;9daa Uabbj;9caa Uabakct;9daa Uabakct;9caauvabbj;9daauvabbj;9caa GHEabdp
9daa GHEabdp;9caa YERUabbj;9daa YERUabbj;9caa GHEabasaobg;9daa GHEabasaobg;9caahpabbg;9daahpabbg
9caahpabas;9daahpabas;9caavg DE;9daavg DE;9caavg DJE;9daavg DJE;9caavg ZJE;9daavg ZJE;9caavg DZJE
9daavg DZJE;9caavg LJE;9daavg LJE;9caavg NJE;9daavg NJE;9caavg SJE;9daavg SJE;9caavg TJE;9daavg TJE
9caack ZE;9daack ZE;9caa ELabbg;9daa ELabbg;9caa LHA;9daa LHA;9caa RHA;9daa RHA;9caa YAE;9daa YAE
9caa QA;9daa QA;9caa WE;9daa WE;9caa ALEUTid;9daa ALEUTid;9caa ELabawbg;9daa ELabawbg;9caavbabawbg
9daavbabawbg;9caauwabdp;9daauwabdp;9caa SHHAabdp;9daa SHHAabdp;9caavbabarbg;9daavbabarbg;9caa DZZHE
9daa DZZHE;9caa DCHE;9daa DCHE;9caa ELabdp;9daa ELabdp;!531 0ARMENIANacaa AYB;dBEN;dGIM;ckf;c ECH;cuu
c EH;eT;ces;c ZHE;dINI;dLIWN;dXEH;cny;c KEN;dHO;cnm;c GHAD;dCHEH;dMEN;dYI;dNOW;chj;c VO;chv;c PEH
dJHEH;cip;c SEH;dVEW;dTIWN;cps;c CO;dYIWN;dPIWR;dKEH;dOH;cvp;!559 8klaaarcgec;8oy;8 EMPHASISav;8ewav
9t;8fzav;9uav;8adaadi AYB;c AYB;dBEN;dGIM;ckf;c ECH;cuu;c EH;eT;ces;c ZHE;dINI;dLIWN;dXEH;cny;c KEN
dHO;cnm;c GHAD;dCHEH;dMEN;dYI;dNOW;chj;c VO;chv;c PEH;dJHEH;cip;c SEH;dVEW;dTIWN;cps;c CO;dYIWN;dPIWR
dKEH;dOH;cvp;afg ECH YIWN;aaa YIabas;8hoff;8rg;!58d 0ekxv ARMENIAN ETERNITYag
0fmxv ARMENIAN ETERNITYag;0ARMENIAN DRAMag;!591 0HEBREWfr ETNAHTA;9SEGOL;aHALSHELET;9ZAQEF QATAN
fGADOL;9TIPEHA;9REVIA;9ZARQA;9PASHTA;9YETIV;9TEVIR;9GERESH;f MUQDAM;cSHAYIM;9QARNEY PARA
9TELISHA GEDOLA;9PAZER;9ATNAH HAFUKH;9MUNAH;aAHAPAKH;aERKHA;f KEFULA;9DARGA;9QADMA;9TELISHA QETANA
9YERAH BEN YOMO;9OLE;9ILUY;9DEHI;9ZINOR;6av MASORAbq;6ui SHEVA;9HATAF SEGOL;fPATAH;fQAMATS;aIRIQ
9TSERE;9SEGOL;9PATAH;9QAMATS;9HOLAM;e HASERnf VAV;9QUBUTS;8jdme MAPIQ;8 METEG;6cm MAQAF;6ui RAFE
6cm PASEQ;6uilubo;8 SINbo;6cm SOF PASUQ;6avenbo;8dkbo;6cmkx HAFUKHA;6ui QAMATS QATAN;!5d0 6aadn;8 BET
8pl;8 DALET;8wb;8 VAV;8rb;8 HET;9TET;9YOD;8amqf;8qf;8 LAMED;8amxh;8xh;8amkx;8kx;8nb;8yl;8amuw;8uw
8am TSADI;8 TSADI;9QOF;8wj;8lu;8 TAV;!5ef 6 YODan;6fg YIDDISHak VAV;g VAV YOD;gak YOD;6cm GERESH
cSHAYIM;!600 0zjduag;2ag SANAH;2 FOOTNOTEzu;2ag SAFHA;7MVAT;2duavah;2zf CUBE ROOT;5FOURTH ROOT;2 RAY
2zf PER MILLEag;8gmazag;0AFGHANIag;0zjet;2 DATEem;3POETIC VERSEag;2ag MISRA
5SALLALLAHOU ALAYHE WASSALLAM;5ALAYHE ASSALLAM;5RAHMATULLAH ALAYHE;7DI ALLAHOU ANHU;5TAKHALLUS;3deyry
6fgdnabnnabeu;6wt;4vo;4yq;4ue;2mk;2aaav;2rpfb TEXTav;2gebocmav;2fzav;2aa KASHMIRIeu;4hl;4dnab MADDAah
8hlah;4mtabhlah;4dnabhlal;4euabhlah;4dn;4yi;4zc MARBUTA;6;4 THEH;4eo;4ga;5w;4 DAL;5THAL;4ps;4wt;4mq
4nt;4vs;4yp;4ry;4 ZAH;4ou;5w;4 KEHEHabbecyah;caqcyal;5FARSIeuabcp V;ebecyah;eaqcyah;2 TATWEEL;2aavp
4ta;4qf;4nn;4ca;4it;4qq;4mt;4dncr;4eu;2zr;2 DAMMATAN;3KASRATAN;2vo;2yq;2ue;2 SHADDA;4UKUN;3MADDAHah
2hlah;5l;2xqdn;2cpyq;2avit GHUNNA;2 ZWARAKAY;2cdagad Vah;6cpad Vah;6boal;3kyq;2voabbecy;2 WAVYhlal
2zfcoej;6bh;7e;6aq;6bf;7m;6dz;6br;7l;6cn;2 PERCENTag;3DECIMALem;2qxem;2bmfkgx;2aampyi;6ta;4ljdn
4dn WASLA;6ab WAVYhlah;gl;4eyhl;8dn;8mt;4 Uabhlah;4eyhleu;4 TTEH;9EH;5BEEH;4zcabec;8aqcyahda;4 PEH
5TEHEH;5BEHEH;4gaabhlah;8becyatah;4 NYEH;5DYEH;4gaabaqcyah;4 TCHEH;aEH;5DDAL;6ALabec;aboal;eaoadry
7HAL;6DAHAL;6UL;6ALabaqcyahda;abfcyah;5RREH;4psabad V;8ec;8boal;8ad Val;8boalaoboah;9ecyah;4 JEH
4psabbfcyah;4mqabboalaoboah;8aqcyal;eaoaqcyah;4vsabbecyal;8aqcyah;4ryabaqcyah;4ouabaqcyah;4mpvp
4vpabbo MOVEDal;aal;4 VEH;4vpabaqcyal;4 PEHEH;4taabboah;8aqcyah;4 KEHEH;5SWASHqf;4qfabec;8boah;4 NG
4qfabaqcyal;4 GAF;8abec;5NGOEH;5GAFabbecyal;6UEH;6AFabaqcyah;4nnabad V;8boah;8aqcyah;dl;4itabboal
6 GHUNNA;4 RNOON;4itabec;8aqcyah;4qq DOACHASHMEE;4 TCHEHabboah;4qqabeuah;6 GOAL;babhlah
4zc MARBUTA GOAL;4mtabec;4 KIRGHIZyf;4yf;4 U;4xu;4 KIRGHIZxu;4mtabbecyah;4 VE;5FARSIeu;4euabgr;8ad V
4mtabboah;4 E;4euabaqcyal;6 BARREE;dabhlah;2hoff;2aa AE;3deyfgvsabnnabdncr;8taabnnabdncr;6caapae;6nndn
6eo;6aqcy;6mq;2rpfb AYAH;2 STARTfb RUB EL HIZB;2adeyukej;6 UPRIGHT RECTANGULARej;6mpqjfbgw;6caaiae
4fsmq;4ey MADDA;4mt;4eu;5yeu;6it;2 PLACEfb SAJDAH;3EMPTYegfsff;aeyff;2ukeyffab FILLEDeg;2adfsca
3a DALabcp V;4psabcp V;0EXTENDEDoozfcoej;ebh;fe;eaq;ebf;fm;edz;ebr;fl;ecn;0zjaantabboal;4ypabboal
4owabboal;3g SINDHItv;b POSTPOSITION MEN;3aqqabcp V;0SYRIACrpfb PARAGRAPH;6 SUPRALINEARhoff
9BLINEARhoff;9PRALINEARiv;9BLINEARiv;6axiv;6iv SKEWEDar;gj;6 SUPRALINEARiv SKEWEDar
9BLINEARiv SKEWEDaj;7CONTRACTION;7HARKLEAN OBELUS;gMETOBELUS;gASTERISCUS;!70f 6fuav;6aa ALAPH
8lj ALAPH;8ty;8 GAMAL;e GARSHUNI;9DALATH;8mp DALATH RISH;8wb;8mt;8wt;9c;8 TETH;d GARSHUNI;9YUDH;dwb
8vf;8 LAMADH;9MIM;8kx;8 SEMKATH;8am SEMKATH;8 E;8uw;8ckuw;8qt;8 QAPH;9RISH;8lu;8 TAW;9PERSIAN BHETH
hGHAMAL;hDHALATH;6 PTHAHAah;el;dhb;7ZQAPHAah;el;dhb;7RBASAah;dl;6hb ZLAMAax;e ANGULAR;6 HBASAah;dl
c-ESASAhb;7ESASAah;dl;7RWAHA;7FEMININEbo;7QUSHSHAYA;7RUKKAKHA;6beatcyah;dl;6aqcyah;bl;6npfiah;bl
6 MUSIC;7BARREKH;!74d 6aa SOGDIAN ZHAIN;hKHAPH;hFE;0zjaayiabaqcy HORIZONTALLYal;8boalaoaqcyah
8aqcybxfaal;iaobecyah;8becyalaoboah;8cpad Val;8ad V;4gaabbecyah;8aqcybxfaal;4 DALabbecyrzalaoadry
acpad Val;4psabas;4mqabbfcyah;4ouabbecyah;8aqcybxdaah;8becyrzah;4vpabbecyal;8aqcybxfaal;4 KEHEHabboah
caqcyah;gbxfaal;4caabboah;bl;4itabbecyal;8adry;a V;4nnabea;4psabbecyrzah;8hlah;4mqabbecyrzah
4gaabadooaaryal;hobecy;4mqabadooaaryaobecy;4psabadooaaryaobecy;4gaabadooaaryah;4dnabvzoozfcobeah;gaqah
4 FARSIeuabvzoozfcobeah;maqah;mbfal;4mtabvzoozfcobeah;gaqah;4eu BARREEabvzoozfcobeah;naqah
4gaabvzoozfcobfal;4mqabvzoozfcobfah;8cp V;4qfabbecyah;0THAANAaa HAA;9SHAVIYANI;9NOONU;9RAA;9BAA
9LHAVIYANI;9KAAFU;9ALIFU;9VAAVU;9MEEMU;9FAAFU;9DHAALU;9THAA;9LAAMU;9GAAFU;aNAVIYANI;9SEENU;9DAVIYANI
9ZAVIYANI;9TAVIYANI;9YAA;9PAVIYANI;9JAVIYANI;9CHAVIYANI;9TTAA;9HHAA;9KHAA;9THAALU;9ZAA;9SHEENU;aAADHU
9DAADHU;8es;8 ZO;9AINU;9GHAINU;9QAAFU;9WAAVU;6 ABAFILI;8ABAAFILI;7IBIFILI;7EEBEEFILI;7UBUFILI
7OOBOOFILI;7EBEFILI;8YBEYFILI;7OBOFILI;8ABOAFILI;7SUKUN;6aa NAA;!7c0 0NKOcoej;5bh;6e;5aq;5bf;6m;5dz
5br;6l;5cn;3aa A;5wy;5 I;6E;6U;5ut;5 O;6DAGBASINNA;6N;5lk;5il;5jq;5nm;5hv;5kf;5ip;5yj;5jv;5 GBA;5xf
5id;5jb;5iy WOLOSO;6x;5hy;5iy;5hp;5mx;5iu;5hy WOLOSO;5 JONAnm;ahv;aip;3gifeeyed;7fsed;7tbed
5ep DESCENDINGed;7eyed;7fsed;7tbed;5 NASALIZATIONav;5akboah;3eyedoy;3fsedoy;3auut DENNEN;5 GBAKURUNEN
3et;4wav;3 LAJANYALAN;!7fd 4DANTAYALAN;5OROMEag;4TAMANag;0SAMARITANaa ALAF;cBIT;cGAMAN;cDALAT;cIY;cBAA
cZEN;cIT;cTIT;cYUT;cKAAF;cLABAT;cMIM;bkx;b SINGAAT;brq;b FI;cTSAADIY;cQUF;cRISH;cSHAN;cTAAF;avrq
d-ALAF;b OCCLUSION;bjd;9klaa EPENTHETIC YUT;9av EPENTHETIC YUT;9cdagep E;d E;eOVERLONGll;depll;dll
d OVERLONG A;dep A;d A;9klaafe A;9cdagfe A;dep U;d U;9klaa I;9cdagep I;d I;eO;eSUKUN;9av NEQUDAA
!830 9cm NEQUDAA;cAFSAAQ;dNGED;cBAU;cATMAAU;cSHIYYAALAA;9fuav;9cm MELODIC QITSA;cZIQAA;cQITSA;cZAEF
cTURU;cARKAANU;cSOF MASHFAAT;cANNAAU;!840 0MANDAICaa HALQA;aAB;bG;bD;bH;aUSHENNA;aAZ;aIT;aATT;bKSA;c
bL;bM;bN;bS;9rq;9 AP;bSZ;bQ;bR;9lm;9 AT;aDUSHENNA;aKAD;9ou;7 AFFRICATIONav;8VOCALIZATIONav;7yuav
!85e 7cm;!860 0SYRIACaa MALAYALAMhh;inm;ihy;ikn;ilp;i NNNA;ilv;iip;irr;i LLLA;imr;!870 0zjaadnabzovo
aqgajvo;8ajawas;9rawas;8zoue;ajcajue;axmboah;aajxmbo;brxmbo;axmboal;8boah;8zoqgajvoaoboah
8ajawasaoboah;8zojcajueaoboah;aqgajvoaoarec;8ajawasaoarec;8zojcajueaoarec;aajhl;brhl
2 TATWEELab OVERSTRUCKhl;nmt;cbecyal;2aa THINeu;2 BASELINExmbo;2lxxmbo;2aaitabcpad V;4gaabcpad Val
4ryabboal;8aqcyal;4 KEHEHabbecyrzal;3tgr;!890 2 POUNDavah;4IASTREavah;!898 2adeyzd AL-JUZ
4fszd ISHMAAM;aMAALA;9TASHEEL;2 MADDA WAAJIB;2ljdn MOKHASSAS;2 DOUBLED MADDA;2cg MADDAdc MADDA
2aayiabad Val;8hlah;4eoabbecyah;4ryabbecyah;4vpabboalaoaqcyah;4taabboal;4nnabakea;4caabaqcyah
4euabbecyalaohlah;gboah;4psabsr;4mtabbo WITHIN;4 ROHINGYAeu;4fsdn;4 DALabaqcyal;4vsabaqcyal
4 GAFabcpas;4hcmt;4wtabcp Vah;4ouabaqcyal;4qfabboal;4taabboalao NOcyah;4yiabadcaah;4 PEHabadcaah
4zcabadzcah;4psabaditah;4euabbecyalaoaditah;4 AFRICANvp;cta;cit;5PEHabad V;4zcabad V;4 TTEHabad V
6CHEHabad V;5KEHEHabad V;4owabaqcyah;4 AFRICANtaabaqcyah;4eoabaqcyah;dl;4nnabadooaaryah;4 GRAF
3d FARSIeu;4ey FARSIeu;6eu BARREEabbecyal;6zd SAH;6 ZAH;2elxmboah;9l;2 SUKUNal;2elbqal;4xmbolfbqal
2adfsmt;4eyzd AR-RUB;6vs;6ou;6ta;6itabue;4fsitabue;4eyzd ATH-THALATHA;aS-SAJDA;aN-NISF;9SAKTA;9QIF
9WAQFA;6 FOOTNOTEzu;6ag SAFHA;2 DISPUTEDrpfb AYAH;2diyqal;2lovo;4yq;4ue;4zr;4 DAMMATAN;5KASRATAN
2edbhboah;5ecyah;4srah;4bhboal;5ecyal;4sral;3zzr;4 DAMMATAN;5KASRATAN;2adeymt;2voabec;6boah;2ueabboal
2arbnah;3jbnah;3rbnal;3jbnal;3kajbnah;aabbo;3jbnahabbo;2yqabbo;2avwlit GHUNNA;0DEVANAGARIagcpdy;cdy;de
cfj;bafe A;c A;cll;c I;cmo;c U;cnh;cdd R;fL;cnz E;cfe E;c E;cmn;cnz O;cfe O;c O;cne;cid;dc;ckq;dr;chh
cny;chv;cnm;coc;chy;ckn;cik;ckp;cir;clp;cjq;cim;ckf;dw;ciy;c NNNA;cil;cjl;clk;dv;cix;du;dp;cyj;cjb;crr
c LLLA;csc;chj;cmr;cjv;chp;acdagyf;e OOE;aagks;cjn;acdagll;e I;emo;e U;enh;edd R;gyh;enz E;efe E;e E
emn;enz O;efe O;e O;ene;aagfn;acdag PRISHTHAMATRA E;fAW;a OM;bSTRESSag UDATTA;kANUDATTA;aeefr;actfr
bdagnzep E;e UE;gUE;aaa QA;dKHHA;dGHHA;cuu;c DDDHA;dRHA;cxf;c YYA;cddyh;e LL;acdagdd L;iL;ais;aakis
acoej;cbh;de;caq;cbf;dm;cdz;cbr;dl;ccn;afuag;aagey SPACINGbo;banz A;cyf;c OOE;dAW;dUE;eUE;dMARWARIkp
cwu;cbviu;c GGA;dJJA;cgqff;c DDDA;dBBA;0BENGALI ANJI;7agdy;ae;9fj;!985 8a A;9ll;9 I;9mo;9 U;9nh;9dd R
cL;!98f 9 E;9mn;!993 9 O;9ne;9id;ac;9kq;ar;9hh;9ny;9hv;9nm;9oc;9hy;9kn;9ik;9kp;9ir;9lp;9jq;9im;9kf;aw
9iy;!9aa al;9jl;9lk;av;9ix;au;ap;!9b2 9jb;!9b6 9hj;9mr;9jv;9hp;!9bc 8gks;9jn;7cdagll;b I;bmo;b U;bnh
bdd R;dyh;!9c7 b E;bmn;!9cb b O;bne;7agfn;8a KHANDAjq;!9d7 7nenaav;!9dc 7aayj;9 RHA;!9df aYYA;9ddyh
b LL;7cdagdd L;fL;!9e6 8oej;9bh;ae;9aq;9bf;am;9dz;9br;al;9cn;7aaipabawdt;ddkdt;7 RUPEEav;eg
8CURRENCY NUMERATORbh;re;qaq;qbf;rhkb THANng DENOMINATOR;hDENOMINATORul;8ISSHAR;8GANDAav;7aa VEDICde
7fuag;7 SANDHIav;!a01 0GURMUKHIag ADAK BINDI;bBINDI;afj;!a05 9a A;all;a I;amo;a U;anh;!a0f awy;amn
!a13 aut;ane;aid;bc;akq;br;ahh;any;ahv;anm;aoc;ahy;akn;aik;akp;air;alp;ajq;aim;akf;bw;aiy;!a2a bl;ajl
alk;bv;aix;bu;bp;!a32 ajb;arr;!a35 asc;ahj;!a38 ajv;ahp;!a3c 9gks;!a3e 8cdagll;c I;cmo;c U;cnh
!a47 cwy;cmn;!a4b cut;cne;8agfn;!a51 a UDAAT;!a59 9a KHHA;bGHHA;auu;ayj;!a5e axf;!a66 8coej;abh;be;aaq
abf;bm;adz;abr;bl;acn;8 TIPPI;9ADDAK;9IRI;9URA;9EK ONKAR;8ag YAKASH;8fuag;!a81 2JARATIagdy;be;afj
!a85 9a A;all;a I;amo;a U;anh;add R;dL;8cdnz E;!a8f 8aa E;amn;8cdnz O;!a93 8aa O;ane;aid;bc;akq;br;ahh
any;ahv;anm;aoc;ahy;akn;aik;akp;air;alp;ajq;aim;akf;bw;aiy;!aaa bl;ajl;alk;bv;aix;bu;bp;!ab2 ajb;arr
!ab5 asc;ahj;amr;ajv;ahp;!abc 9gks;ajn;8cdagll;c I;cmo;c U;cnh;cdd R;eyh;cnz E;!ac7 c E;cmn;cnz O
!acb c O;cne;8agfn;!ad0 8 OM;!ae0 8aaddyh;c LL;8cdagdd L;gL;!ae6 9oej;abh;be;aaq;abf;bm;adz;abr;bl;acn
8fuag;8 RUPEEag;!af9 8aawu;9g SUKUN;cHADDA;bMADDAH;aaq-DOTksah;abqksah;bejsksah;!b01 0ORIYAagdy;8e;7fj
!b05 6a A;7ll;7 I;7mo;7 U;7nh;7dd R;aL;!b0f 7 E;7mn;!b13 7 O;7ne;7id;8c;7kq;8r;7hh;7ny;7hv;7nm;7oc;7hy
7kn;7ik;7kp;7ir;7lp;7jq;7im;7kf;8w;7iy;!b2a 8l;7jl;7lk;8v;7ix;8u;8p;!b32 7jb;7rr;!b35 7sc;7hj;7mr;7jv
7hp;!b3c 6gks;7jn;5cdagll;9 I;9mo;9 U;9nh;9dd R;byh;!b47 9 E;9mn;!b4b 9 O;9ne;5agfn;!b55 7wh;5mnnaav
5nenaav;!b5c 5aayj;7 RHA;!b5f 8YYA;7ddyh;9 LL;5cdagdd L;dL;!b66 6oej;7bh;8e;7aq;7bf;8m;7dz;7br;8l;7cn
5 ISSHAR;5aamx;5iwbhfv;9cg;7aqkm;7bhum;9ih;7aq SIXTEENTHS;!b82 0TAMILagde;7fj;!b85 6a A;7ll;7 I;7mo
7 U;7nh;!b8e 7 E;7wy;7mn;!b92 7 O;7ut;7ne;7id;!b99 7hh;7ny;!b9c 8m;!b9e 7hy;7kn;!ba3 7lp;7jq;!ba8 7iy
7 NNNA;7il;!bae 8x;8u;8p;7yj;7jb;7rr;7 LLLA;7sc;7hj;7mr;7jv;7hp;!bbe 5cdagll;9 I;9mo;9 U;9nh;!bc6 9 E
9wy;9mn;!bca 9 O;9ut;9ne;5agfn;!bd0 5 OM;!bd7 5nenaav;!be6 5coej;7bh;8e;7aq;7bf;8m;7dz;7br;8l;7cn
5dugm;7bhay;az;5 DAYag;6MONTHag;6YEARag;6DEBITag;6CREDITag;6ASahag;6RUPEEag;5duag;!c00 1ELUGUaggidyah
8dy;9e;8fj;8gideah;7a A;8ll;8 I;8mo;8 U;8nh;8dd R;bL;!c0e 8 E;8wy;8mn;!c12 8 O;8ut;8ne;8id;9c;8kq;9r
8hh;8ny;8hv;8nm;8oc;8hy;8kn;8ik;8kp;8ir;8lp;8jq;8im;8kf;9w;8iy;!c2a 9l;8jl;8lk;9v;8ix;9u;9p;8yj;8jb
8rr;8 LLLA;8sc;8hj;8mr;8jv;8hp;!c3c 7gks;8jn;6cdagll;a I;amo;a U;anh;add R;cyh;!c46 a E;awy;amn
!c4a a O;aut;ane;6agfn;!c55 6naav;6mnnaav;!c58 6aaqh;8 DZA;9RRRA;!c5d 9NAKAARA POLLU;!c60 8ddyh;a LL
6cdagdd L;eL;!c66 7oej;8bh;9e;8aq;8bf;9m;8dz;8br;9l;8cn;!c77 6ag SIDDHAM;6iwcoejnf ODD POWERSfbbf
abhnf ODD POWERSfbbf;benf ODD POWERSfbbf;aaqnf ODD POWERSfbbf;abhnf EVEN POWERSfbbf
benf EVEN POWERSfbbf;aaqnf EVEN POWERSfbbf;6ag TUUMU;0KANNADAag SPACINGdy;9dy;ae;9fj;9 SIDDHAM;8a A
9ll;9 I;9mo;9 U;9nh;9dd R;cL;!c8e 9 E;9wy;9mn;!c92 9 O;9ut;9ne;9id;ac;9kq;ar;9hh;9ny;9hv;9nm;9oc;9hy
9kn;9ik;9kp;9ir;9lp;9jq;9im;9kf;aw;9iy;!caa al;9jl;9lk;av;9ix;au;ap;9yj;9jb;9rr;!cb5 9sc;9hj;9mr;9jv
9hp;!cbc 8gks;9jn;7cdagll;b I;bmo;b U;bnh;bdd R;dyh;!cc6 b E;bwy;bmn;!cca b O;but;bne;7agfn;!cd5 7naav
7mnnaav;!cdd 7aa NAKAARA POLLU;9xf;!ce0 9ddyh;b LL;7cdagdd L;fL;!ce6 8oej;9bh;ae;9aq;9bf;am;9dz;9br;al
9cn;!cf1 7agsz;9tc;!d00 0MALAYALAMaggideah;bdy;ce;bfj;aa VEDICde;cA;bll;b I;bmo;b U;bnh;bdd R;eL
!d0e b E;bwy;bmn;!d12 b O;but;bne;bid;cc;bkq;cr;bhh;bny;bhv;bnm;boc;bhy;bkn;bik;bkp;bir;blp;bjq;bim
bkf;cw;biy;b NNNA;bil;bjl;blk;cv;bix;cu;cp;byj;bjb;brr;b LLLA;bsc;bhj;bmr;bjv;bhp;b TTTA;agateafn
b CIRCULARfn;bjn;9cdagll;d I;dmo;d U;dnh;ddd R;fyh;!d46 d E;dwy;dmn;!d4a d O;dut;dne;9agfn;aabo REPH
ag PARA;!d54 aa CHILLU M;jY;jLLL;9nenaav;9iwbhbh-HUNDRED-AND-SIXTIETH;d FORTIETH;baq EIGHTIETHS
bbh TWENTIETH;fENTH;baq TWENTIETHS;bbh FIFTH;9aajhmo;bddyh;d LL;9cdagdd L;hL;!d66 aoej;bbh;ce;baq;bbf
cm;bdz;bbr;cl;bcn;9dugm;bbhay;ez;9iwbhfv;dcg;baqkm;bbhum;dih;baq SIXTEENTHS;9 DATEav;9aa CHILLU NN;k
iyh;i L;kL;jK;!d81 0SINHALAagdy;9 ANUSVARAYA;aVISARGAYA;!d85 8a AYANNA;bAYANNA;bEYANNA;cEYANNA;aIYANNA
bIYANNA;aUYANNA;bUYANNA;aIRUYANNA;dUYANNA;bLUYANNA;dUYANNA;aEYANNA;bEYANNA;aAIYANNA;aOYANNA;bOYANNA
aAUYANNA;!d9a 9mf KAYANNA;9lh KAYANNA;9mf GAYANNA;9lh GAYANNA;9 KANTAJA NAASIKYAYA;aSANYAKA GAYANNA
9mf CAYANNA;9lh CAYANNA;9mf JAYANNA;9lh JAYANNA;9 TAALUJA NAASIKYAYA;iSANYOOGA NAAKSIKYAYA
aSANYAKA JAYANNA;9mf TTAYANNA;9lh TTAYANNA;9mf DDAYANNA;9lh DDAYANNA;9 MUURDHAJA NAYANNA
aSANYAKA DDAYANNA;9mf TAYANNA;9lh TAYANNA;9mf DAYANNA;9lh DAYANNA;9 DANTAJA NAYANNA
!db3 aSANYAKA DAYANNA;9mf PAYANNA;9lh PAYANNA;9mf BAYANNA;9lh BAYANNA;9 MAYANNA;aAMBA BAYANNA;aYAYANNA
aRAYANNA;!dbd aDANTAJA LAYANNA;!dc0 aVAYANNA;aTAALUJA SAYANNA;aMUURDHAJA SAYANNA;aDANTAJA SAYANNA
aHAYANNA;aMUURDHAJA LAYANNA;aFAYANNA;!dca 8g AL-LAKUNA;!dcf 7cdag AELAxw;cKETTI AEDAxw;cDIGA AEDAxw
cKETTI ISxw;cDIGA ISxw;cKETTI PAAxw;!dd6 cDIGA PAAxw;!dd8 cGAETTAxw;cKOMBUVA;cDIGA KOMBUVA;cKOMBU DEKA
hVA HAA AELAxw;oDIGA AELAxw;oGAYANUKITTA;cGAYANUKITTA;!de6 7 LITHcoej;ebh;fe;eaq;ebf;fm;edz;ebr;fl;ecn
!df2 7cdag DIGA GAETTAxw;jYANUKITTA;8m KUNDDALIYA;!e01 0THAIln KO KAI;8HO KHAI;dUAT;dWAI;dON;bRAKHANG
7NGO NGU;7CHO CHAN;dING;dANG;7SO SO;7CHO CHOE;7YO YING;7DO CHADA;6es PATAK;6 THO THAN;bNANGMONTHO
bPHUTHAO;7NO NEN;7DO DEK;6es TAO;6 THO THUNG;dAHAN;dONG;7NO NU;7BO BAIMAI;7PO PLA;8HO PHUNG;7FOxf
7PHO PHAN;7FO FAN;7PHO SAMPHAO;7MOix;7YO YAK;7RO RUA;8U;7LO LING;8U;7WO WAEN;7SO SALA;aRUSI;aSUA
7HO HIP;7LO CHULA;7O ANG;7HO NOKHUK;7PAIYANNOI;7SARA A;7MAI HAN-AKAT;7SARAll;b AM;cI;bmo;b UE;eE;d;bnh
7PHINTHU;!e3f 4 CURRENCYau BAHT;4ln SARA E;cAE;cO;bmn MAIMUAN;iALAI;7LAKKHANGYAO;7MAIYAMOK;aTAIKHU
a EK;bTHO;cRI;bCHATTAWA;7THANTHAKHAT;7NIKHAHIT;7YAMAKKAN;7FONGMAN;4coej;6bh;7e;6aq;6bf;7m;6dz;6br;7l
6cn;4ln ANGKHANKHU;7KHOMUT;!e81 0LAOaa KO;7HO SUNG;!e84 aTAM;!e86 6PALIkr;6NGO;6CO;6PALIhv;6SO TAM
!e8c 6PALIoc;6NYO;6PALIhy;akn;aik;akp;air;alp;6DO;5es;5 THO SUNG;aTAM;6PALIkw;6NO;6BO;6PO;7HO SUNG
6FO TAM;6PHO TAM;6FO SUNG;6PALIlv;6MO;6YO;6LO LING;!ea5 aOOT;!ea7 6WO;6SANSKRIThj;emr;7O SUNG;6HO SUNG
6PALIrr;6O;6HO TAM;3tl;3cdag A;8MAI KAN;7ll;7 AM;8I;7mo;7 Y;9Y;8U;7nh;3ag PALIfn;3cdag MAI KON
3 SEMIVOWELag LO;gNYO;!ec0 3cdag E;9I;8O;8AY;7mn;!ec6 3 KOjb;!ec8 3ed MAI EK;aTHO;bI;aCATAWA
3 CANCELLATIONav;4NIGGAHITA;!ed0 3coej;5bh;6e;5aq;5bf;6m;5dz;5br;6l;5cn;!edc 3 HO NO;7MO;3aa KHMU GO
bNYO;!f00 0TIBETANiz OM;7av GTER YIG MGO TRUNCATED A;n-UM RNAM BCADix;rGTERxtix;9ap YIG MGO MDUNix
9 CLOSING YIG MGO SGABix;bARET YIG MGO PHURviix;aYIG MGOxtviix;aSBRULvi;aBSKUR YIG MGO
bKA- SHOG YIG MGO;aINTERSYLLABICxt;aDELIMITERxt BSTAR;9vi;9 NYISvi;9xtvi;9 NYISxtvi;aRIN CHEN SPUNGSvi
bGYA GRAMvi;aCARET -DZUDvr MEep CAN;aGTERxt;7 LOGOTYPEag CHADvr;jLHAGvr
8ASTROLOGICALag SGRA GCAN -CHARvr;n-KHYUDil;nSDONG TSHUGS;7ag RDEL DKAR GCIG;lNYIS;lSUM;fNAG GCIG
kNYIS;fDKAR RDEL NAG;7coej;9bh;ae;9aq;9bf;am;9dz;9br;al;9cn;agbh;ce;baq;bbf;cm;bdz;bbr;cl;bcn;bej
7av BSDUSvr;aNGAS BZUNG NYI ZLA;aCARET -DZUDvr BZHI MIG CAN;aNGAS BZUNG SGORvr;9uv MGO;9qh -PHRU
9 GUGvr GYON;iAS;aANG KHANG GYON;mAS;8g YAR TSHES;aMAR TSHES;8aid;ac;9kq;ar;9hh;9ny;9hv;9nm;!f49 9hy
9kn;9ik;9kp;9ir;9lp;9jq;9im;9kf;aw;9iy;al;9jl;9lk;av;9ix;9qh;9wq;9 DZA;cHA;9mx;9wu;9uu;9 -A;9iu;ap;9jb
9hj;9mr;9jv;9hp;9 A;aKSSA;aFIXED-FORMip;aKKA;9yj;!f71 7cdagll;b I;bmo;b U;bnh;bdd R;dyh;d L;fL;b E;bwy
b O;but;7ag RJES SUhh RO;bNAM BCAD;7cdagck I;dmo;7ag NYI ZLA NAAkf;aSNA LDAN;8v HALANTA;aPALUTA
8g LCIvr;aYANGvr;aLCEqh CAN;aMCHU CAN;aGRU CAN RGYINGS;eMED RGYINGS;9cp MCHU CAN;7xpag LCEqh CAN
cMCHU CAN;bcp MCHU CAN;aaid;cc;bkq;cr;bhh;bny;bhv;bnm;!f99 bhy;bkn;bik;bkp;bir;blp;bjq;bim;bkf;cw;biy
cl;bjl;blk;cv;bix;bqh;bwq;b DZA;eHA;bmx;bwu;buu;b -A;biu;cp;bjb;bhj;bmr;bjv;bhp;b A;cKSSA
cFIXED-FORMmx;miu;np;!fbe 7 KU RUic;f BZHI MIG CAN;8CANTILLATIONagbv BEAT;mcx BEAT;m CANGyk-U
nSBUB -CHAL;7au DRIL BU;aRDO RJE;aPADMA GDAN;aRDO RJE RGYA GRAM;aPHURil;aNOR BU;g NYIS -KHYIL
hGSUM -KHYIL;hBZHI -KHYIL;!fce 8g RDEL NAG RDEL DKAR;jGSUM;8v BSKA- SHOG GI MGO RGYAN
aMNYAM YIG GI MGO RGYAN;aNYISxt;9ap BRDA RNYING YIG MGO MDUNix;9 CLOSING BRDA RNYING YIG MGO SGABix
0ekxv SVASTIag;0fmxv SVASTIag;0ekxv SVASTIagabcy;0fmxv SVASTIagabcy;0TIBETANav LEADING MCHANvr
aTRAILING MCHANvr;!1000 0MYANMARaaid;ac;9kq;ar;9hh;9ny;9hv;9nm;9oc;9hy;9 NNYA;9kn;9ik;9kp;9ir;9lp;9jq
9im;9kf;aw;9iy;al;9jl;9lk;av;9ix;au;ap;9jb;9mx;9jv;9hp;9rr;9 A;aSHAN A;aI;9mo;9 U;9nh;9 E;aMON E;aO
9ne;7cdag TALLll;bll;b I;bmo;b U;bnh;b E;bmn;b MONmo;f O;cEah;7agde;9boal;9fj;an;9 ASAT;7gcagbyiu;ep
dmx;dhp;7aa GREATjv;7coej;9bh;ae;9aq;9bf;am;9dz;9br;al;9cn;7agehhx;9hx;8u LOCATIVE;aCOMPLETED
aAFOREMENTIONED;aGENITIVE;8ahj;9mr;9dd R;byh;b L;dL;7cdagdd R;dyh;d L;fL;7aa MONhh;doc;d BBA;gE
7gcag MONbyiy;ix;hjb;7aa SGAW KARENhj;7cdag SGAW KAREN EU;7edav SGAW KAREN HATHI;nKE PHO
7aa WESTERN PWO KARENim;r PWA;7cdag WESTERN PWO KAREN EU;uUE;7ag WESTERN PWO KARENed-1;u2;u3;u4;u5
8a EASTERN PWO KARENlp;r YWA;sGHWA;7cdag GEBA KAREN I;cKAYAHyf;h U;hwy;7aa SHANid;fc;ekq;eny;euu;ehy
ekf;eiy;ejl;exf;elk;eim;ehp;7gcag SHANbymx;7cdag SHANll;g E;iah;gam Y;7ag SHANed-2;h3;h5;h6
e COUNCILed-2;p3;m EMPHATICed;8a RUMAI PALAUNGxf;8g RUMAI PALAUNGed-5;7 SHANcoej;ebh;fe;eaq;ebf;fm;edz
ebr;fl;ecn;7ag KHAMTIed-1;j3;7cdag AITON A;hmn;7au SHANbh;eew;0GEORGIANacaa AN;dBAN;dGAN;dDON;cvb
c VIN;dZEN;dTAN;crq;c KAN;dLAS;dMAN;dNAR;cpg;c PAR;dZHAR;dRAE;dSAN;dTAR;dUN;dPHAR;dKHAR;dGHAN;dQAR;clu
c CHIN;eAN;dJIL;dCIL;eHAR;dXAN;dJHAN;dHAE;cwb;c HIE;dWE;dHAR;eOE;!10c7 dYN;!10cd dAEN;!10d0 9a AN;bBAN
bGAN;bDON;avb;a VIN;bZEN;bTAN;arq;a KAN;bLAS;bMAN;bNAR;apg;a PAR;bZHAR;bRAE;bSAN;bTAR;bUN;bPHAR;bKHAR
bGHAN;bQAR;alu;a CHIN;cAN;bJIL;bCIL;cHAR;bXAN;bJHAN;bHAE;awb;a HIE;bWE;bHAR;cOE;bFI;bYN;bELIFI;adi GAN
aou;8 PARAGRAPHem;0kuaa GEORGIAN NAR;0GEORGIANaa AEN;bHARDag;bLABIALag;0HANGUL CHOSEONGop
f SSANGKIYEOK;fsm;fpy;f SSANGTIKEUT;fpt;fsh;fpq;f SSANGPIEUP;fyz;fxo;fsf;fxb;fza;fub;fwd;gp;fol;fyv
fsmht;f SSANGNIEUN;fsmkv;hjx;fpyht;gt-NIEUN;f SSANGRIEUL;fptkz;f KAPYEOUNRIEUL;fshjx;f KAPYEOUNMIEUM
fpqht;h-NIEUN;hkv;id;jht;jkv;jjx;h-SSANGSIOS;hkdpz;hpz;huo;hon;hur;f KAPYEOUNPIEUP;oSSANGPIEUP;fyzht
h-NIEUN;hkv;hxx;huq;hjx;jht;h-SSANGSIOS;iIEUNG;hpz;huo;ip;hon;hur;hkz;f CHITUEUMSIOS;pSANGSIOS
hEONGCHIEUMSIOS;sSANGSIOS;gPANSIOS;fsfht;hkv;huq;hjx;hkd;hsb;f SSANGIEUNG;fsfpz;huo;hon;hur;f YESIEUNG
fxb-IEUNG;f CHITUEUMCIEUC;oSSANGCIEUC;hEONGCHIEUMCIEUC;rSSANGCIEUC;fubup;hkz;f CHITUEUMCHIEUCH
hEONGCHIEUMCHIEUCH;foljx;f KAPYEOUNPHIEUPH;gSSANGHIEUH;gYEORINHIEUH;fopkv;fsmkd;hpz;hkz;fpyxx;fvd
7JUNGSEONGvd;g A;iE;giu;g YAE;hEO;i;hYEO;j;hO;gmx;g WAE;gyf;g YO;hU;hWEO;j;iI;gxu;g EU;hYI;hI;hA-O;jU
giu-O;jYO;g EO-O;kU;kEU;hYEO-O;lU;hO-EO;k;jYE;jO;jU;hYO-YA;mE;lEO;kO;kI;hU-A;kE;jEO-EU;jYE;jU;gxu-A
jEO;k;jYEO;l;jU;jI;g EU-U;kEU;hYI-U;hI-A;jYA;jO;jU;jEU;jARAEA;hARAEA;m-EO;nU;nI;hSSANGARAEA;hA-EU
giu-U;g YEO-YA;hO-YA;lE;8ONGSEONGop;g SSANGKIYEOK;gopkd;gsm;ipz;ikz;gpy;ht;iht;iuq;ijx;ikd;ion;iur;ikz
gsh;gpq;ikd;gyz;gxo;gsf;gxb;gub;gwd;hp;gol;gyv;gopxx;ikdht;gsmht;ikv;jd;isb;ion;gpyht;ixx;hthtkd
i-NIEUN;ikv;kkz;g SSANGRIEUL;gptuqht;kkd;ijxkd;lz;izg;i-SSANGSIOS;isb;iup;i-YEORINHIEUH;gshht;ixx;ijx
ikd;i-SSANGSIOS;isb;iuo;ikz;g KAPYEOUNMIEUM;gpqxx;iur;ikz;g KAPYEOUNPIEUP;gyzht;ikv;ixx;ijx;g PANSIOS
gsfht;i-SSANGKIYEOK;g SSANGIEUNG;gsfup;g YESIEUNG;pkd;psb;goljx;g KAPYEOUNPHIEUPH;gyv-NIEUN;ixx;iuq
ijx;g YEORINHIEUH;gop-NIEUN;ijx;iuo;jp;ikz;g SSANGNIEUN;0ETHIOPICizhp;a HU;cI;cAA;cEE;awb;a HO;dA;ajb
a LU;cI;cAA;cEE;d;cO;cWA;bHHA;dU;dI;dAA;dEE;e;dO;dWA;aix;aye;a MI;cAA;cEE;d;cO;cWA;bSZA;dU;dI;dAA;dEE
e;dO;dWA;aip;a RU;cI;cAA;cEE;d;cO;cWA;ajv;a SU;cI;cAA;cEE;d;cO;cWA;ahj;a SHU;dI;dAA;dEE;aoi;a SHO;dWA
bQA;cU;cI;cAA;cEE;d;cO;dA;cWA;!124a dI;dAA;dEE;e;!1250 cHA;dU;dI;dAA;dEE;e;dO;!1258 dWA;!125a eI;eAA
eEE;f;!1260 alk;a BU;cI;cAA;cEE;d;cO;cWA;asc;a VU;cI;cAA;cEE;d;cO;cWA;ajq;a TU;cI;cAA;cEE;ayk;aes
a TWA;any;a CU;cI;cAA;cEE;d;cO;cWA;bXA;cU;cI;cAA;cEE;d;cO;dA;cWA;!128a dI;dAA;dEE;e;!1290 aiy;a NU;cI
cAA;cEE;d;cO;cWA;ahy;a NYU;dI;dAA;dEE;e;dO;dWA;agq A;dU;dI;cll;cwy;c E;dO;cmx;aid;a KU;cI;cAA;cEE;d;cO
dA;cWA;!12b2 dI;dAA;dEE;e;!12b8 cXA;dU;dI;dAA;dEE;e;dO;!12c0 dWA;!12c2 eI;eAA;eEE;f;!12c8 amx;a WU;cI
cAA;cEE;d;cO;dA;bPHARYNGEAL A;mU;mI;lll;lwy;l E;mO;!12d8 auu;a ZU;cI;cAA;cEE;d;cO;cWA;awu;a ZHU;dI;dAA
dEE;e;dO;dWA;aiu;axu;a YI;cAA;cEE;d;cO;dA;akf;a DU;cI;cAA;cEE;d;cO;cWA;akp;a DDU;dI;dAA;dEE;e;dO;dWA
anm;a JU;cI;cAA;cEE;d;cO;cWA;akq;a GU;cI;cAA;cEE;d;cO;dA;cWA;!1312 dI;dAA;dEE;e;!1318 cGA;dU;dI;dAA
dEE;e;dO;dWAA;aim;a THU;dI;dAA;dEE;ang;a THO;dWA;ahv;a CHU;avn;a CHAA;dEE;auv;a CHO;dWA;ajl;a PHU;auh
a PHAA;dEE;e;dO;dWA;aqh;a TSU;dI;dAA;dEE;e;dO;dWA;cZA;dU;dI;dAA;dEE;e;dO;eA;axf;a FU;cI;cAA;cEE;d;cO
cWA;ail;a PU;awz;a PAA;cEE;auw;a PO;cWA;bRYA;bMYA;bFYA;!135d 8giyuaocdnaav;acdnaav;ayuav;8hxav
8 WORDSPACE;8hoff;8et;8mk;8iv;8 PREFACEiv;8fzav;8 PARAGRAPHem;8cobh;be;aaq;abf;bm;adz;abr;bl;acn;8dugm
aex;ahs;ami;aib;aml;afp;aoa;afw;aay;agmaz;!1380 8iz SEBATBEIT MWA;bMWI;dEE;e;bSEBATBEIT BWA;bBWI;dEE;e
bSEBATBEIT FWA;bFWI;dEE;e;bSEBATBEIT PWA;bPWI;dEE;e;8 TONALav YIZET;hDERET;hRIKRIK;gfe RIKRIK;g DIFAT
hKENAT;hCHIRET;hHIDET;hDERET-HIDET;hKURT;!13a0 0CHEROKEEaa A;bE;bI;bO;bU;bV;akq;aid;a GE;cI;cO;cU;cV
ahp;awb;a HI;cO;cU;cV;ajb;a LE;cI;cO;cU;cV;aix;a ME;cI;cO;aye;aiy;a HNA;bNAH;cE;cI;cO;cU;cV;bQUA;dE;dI
dO;dU;dV;ajv;a S;cE;cI;cO;cU;cV;akf;ajq;a DE;ayk;a DI;bTI;bDO;cU;cV;cLA;bTLA;dE;dI;dO;dU;dV;aqh;a TSE
dI;dO;dU;dV;amx;a WE;cI;cO;cU;cV;aiu;a YE;cI;cO;axu;a YV;bMV;!13f8 9daa YE;eI;eO;cxu;c YV;dMV
!1400 1ANADIAN SYLLABICSrg;i E;jAAI;jI;imo;i O;iut;i Ydlut;ipiwy;k I;i A;ill;i WE;icjdl WE;i WI
icjdl WI;i WII;icjdl WII;i WO;icjdl WO;i WOO;icjdl WOO;irs WOO;imx;icjdlmx;i WAA;icjdl WAA;irs WAA;imn
i Ydl W;igqff;iamct;kee;kjccgec;kqgcgec;kajcgec;kec;kakct;mfeat STROKES;lwbo;kfeaxas;kch;lekk;ivb;irq
ipg;i AN;iuw;i PAAI;iwz;i PII;kO;lO;jYdl POO;ipi HEE;mI;iil;i PAA;kWE;icjdl PWE;i PWI;icjdl PWI;i PWII
icjdl PWII;i PWO;icjdl PWO;i PWOO;icjdl PWOO;i PWA;icjdl PWA;i PWAA;icjdl PWAA;i Ydl PWAA;jP;icjdl P
ipi H;iyk;i TAAI;kI;lI;ies;i TOO;jYdl TOO;ipi DEE;mI;ijq;i TAA;kWE;icjdl TWE;i TWI;icjdl TWI;i TWII
icjdl TWII;ibe;icjdlbe;i TWOO;icjdl TWOO;i TWA;icjdl TWA;i TWAA;icjdl TWAA;irs TWAA;i T;kTE;lI;lO;ikn
i KE;kAAI;kI;lI;kO;lO;jYdl KOO;iid;i KAA;kWE;icjdl KWE;i KWI;icjdl KWI;i KWII;icjdl KWII;i KWO
icjdl KWO;i KWOO;icjdl KWOO;i KWA;icjdl KWA;i KWAA;icjdl KWAA;irs KWAA;i K;kW;ijw-SLAVEY KEH;tIH;tOH
tAH;i CE;kAAI;kI;lI;kO;lO;jYdl COO;iny;i CAA;kWE;icjdl CWE;i CWI;icjdl CWI;i CWII;icjdl CWII;i CWO
icjdl CWO;i CWOO;icjdl CWOO;i CWA;icjdl CWA;i CWAA;icjdl CWAA;irs CWAA;i C;ixn TH;i ME;kAAI;kI;lI;kO
lO;jYdl MOO;iix;i MAA;kWE;icjdl MWE;i MWI;icjdl MWI;i MWII;icjdl MWII;i MWO;icjdl MWO;i MWOO
icjdl MWOO;i MWA;icjdl MWA;i MWAA;icjdl MWAA;irs MWAA;i M;icjdl M;i MH;jATHAPASCAN M;ixn M;i NE;kAAI
kI;lI;kO;lO;jYdl NOO;iiy;i NAA;kWE;icjdl NWE;i NWA;icjdl NWA;i NWAA;icjdl NWAA;irs NWAA;i N;ipi NG
i NH;jLE;kAAI;kI;lI;kO;lO;jYdl LOO;ijb;i LAA;kWE;icjdl LWE;i LWI;icjdl LWI;i LWII;icjdl LWII;i LWO
icjdl LWO;i LWOO;icjdl LWOO;i LWA;icjdl LWA;i LWAA;icjdl LWAA;i L;icjdl L;iby L;i SE;kAAI;kI;lI;kO;lO
jYdl SOO;ijv;i SAA;kWE;icjdl SWE;i SWI;icjdl SWI;i SWII;icjdl SWII;i SWO;icjdl SWO;i SWOO;icjdl SWOO
i SWA;icjdl SWA;i SWAA;icjdl SWAA;irs SWAA;i S;jATHAPASCAN S;jSW;jBLACKFOOT S;jMOOSEdl SK;irs SKW;m-W
mPWA;mTWA;mKWA;mCWA;ioi;i SHI;mI;lO;mO;ihj;i SHAA;lWE;icjdl SHWE;i SHWI;icjdl SHWI;i SHWII;icjdl SHWII
i SHWO;icjdl SHWO;i SHWOO;icjdl SHWOO;i SHWA;icjdl SHWA;i SHWAA;icjdl SHWAA;i SH;jYE;kAAI;kI;lI;kO;lO
kdl YOO;iiu;i YAA;kWE;icjdl YWE;i YWI;icjdl YWI;i YWII;icjdl YWII;i YWO;icjdl YWO;i YWOO;icjdl YWOO
i YWA;icjdl YWA;i YWAA;icjdl YWAA;irs YWAA;i Y;jBIBLEdl Y;icjdl Y;ixn YI;i RE;kdl RE;icjdl LE;i RAAI
kI;lI;kO;lO;icjdl LO;iip;i RAA;icjdljb;i RWAA;icjdl RWAA;i R;icjdl R;iby R;i FE;kAAI;kI;lI;kO;lO;ixf
i FAA;kWAA;icjdl FWAA;i F;ing;i Ndlng;jTHI;jNdl THI;jTHII;jNdl THII;jTHO;mO;iim;i THAA;lWAA
icjdl THWAA;i TH;kTHE;mI;mO;iik;i TTH;kYE;lI;lO;lA;jNUNAVIKwb;q HI;tI;sO;tO;qhp;q HAA;s;oUT H;jHK
jQAAI;kI;lI;kO;lO;kA;lA;k;jTLHE;mI;mO;mA;icjdl RE;oI;oO;mip;i NGAAI;lI;mI;lO;mO;ihh;i NGAA;l;kNG;ixnoi
k SHI;nO;khj;i WOODSdlng;q THI;tO;qim;q TH;jLHI;mI;lO;mO;lA;mA;l;jTHdlng;n THI;rI;qO;rO;nim;n THAA;q
jAIVILIK B;jBLACKFOOT E;tI;tO;tA;tWE;uI;uO;smx;s NE;uI;uO;siy;s KE;uI;uO;sid;ixnwb;k HI;mO;khp;ipi GHU
nO;nE;oE;nI;kkr;k RU;mO;mE;nE;mI;kip;k WU;mO;mE;nE;mI;kmx;k HWU;nO;nE;oE;nI;nA;lTHU;nO;kng;k THEE;nI
kim;k TTU;nO;nE;oE;nI;kkn;k PU;mO;kuw;k PEE;kwz;kil;k P;lGU;mO;mE;nE;mI;kkq;k KHU;nO;nE;oE;nI;kic
k KKU;nO;nE;oE;nI;nA;n;lNU;mO;mE;nE;mI;kiy;kye;k MO;mE;nE;mI;kix;kxu;k YO;mE;nE;mI;kiu;k JU;ixn JU
ipi JO;mE;nE;mI;ixn JI;ipinm;k JJU;nO;nE;oE;nI;nA;lLU;mO;mE;nE;mI;kjb;k DLU;nO;nE;oE;nI;nA;lLHU;nO;nE
oE;nI;nA;lTLHU;oO;oE;pE;oI;oA;nU;nO;nE;oE;nI;nA;lZU;mO;mE;nE;mI;kuu;k Z;kap Z;k DZU;nO;nE;oE;nI;nA;lSU
mO;mE;nE;mI;kjv;k SHU;nO;koi;k SHEE;nI;khj;k SH;lTSU;nO;nE;oE;nI;kqh;k CHU;nO;kuv;k CHEE;kvn;khv
k TTSU;oO;oE;pE;oI;oA;ivnag;ihoff;i QAI;jNGAI;kNGI;nI;mO;nO;mA;nA;jWOODSdl THWEE;uI;vI;uO;vO;uA;vA
qam TH;jBLACKFOOT W;0OGHAMmmav;5aa BEITH;8LUIS;8FEARN;8SAIL;8NION;8UATH;8DAIR;8TINNE;8COLL;9EIRT;8MUIN
8GORT;8NGEADAL;8STRAIF;8RUIS;8AILM;8ONN;8UR;8EADHADH;8IODHADH;8EABHADH;7me;7 UILLEANN;8IFIN
8EAMHANCHOLL;8PEITH;5 FEATHERav;5ck FEATHERav;!16a0 0RUNICaa FEHU FEOH FE F;8V;8URUZ UR U;8YR;9;8W
8THURISAZ THURS THORN;8ETH;8ANSUZ A;8OS O;8AC A;9ESC;7ep-BRANCH-OSS O;7fe-TWIG-OSS O;7 O;7yf;7pg
7 RAIDO RAD REID R;8KAUNA;8CEN;8KAUN K;8G;8ENG;8GEBO GYFU G;7se;7 WUNJO WYNN W;8HAGLAZ H;aEGL H
7ep-BRANCH-HAGALL H;7fe-TWIG-HAGALL H;7 NAUDIZ NYD NAUD N;7fe-TWIG-NAUD N;7hb-N;7 ISAZ IS ISS I;8E
8JERAN J;8GER;7ep-BRANCH-AR AE;7fe-TWIG-AR A;7 IWAZ EOH;8PERTHO PEORTH P;8ALGIZ EOLHX;8SOWILO S
9IGELep-BRANCH-SOL S;7fe-TWIG-SOL S;7 C;8Z;8TIWAZ TIR TYR T;7fe-TWIG-TYR T;7 D
8BERKANAN BEORC BJARKAN B;7fe-TWIG-BJARKAN B;7hb-P;7ez-P;7 EHWAZ EH E;8MANNAZ MAN M;7ep-BRANCH-MADR M
7fe-TWIG-MADR M;7 LAUKAZ LAGU LOGR L;7hb-L;7 INGWAZ;b;8DAGAZ DAEG D;8OTHALAN ETHEL O;8EAR;8IOR
8CWEORTH;9ALC;9EALC;8STAN;7ep-BRANCH-YR;7fe-TWIG-YR;7 ICELANDIC-YR;8Q;8X;5cvcm;5mucm;5glcm;5 ARLAUGau
6TVIMADURau;6BELGTHORau;5aa K;8SH;7ut;7 FRANKS CASKET OS;mIS;mEH;mAC;nESC;!1700 0TAGALOGaa A;aI;aU;9id
9kq;9hh;9jq;9kf;9iy;al;9lk;9ix;au;ap;9jb;9mx;9jv;9hp;7cdag I;cU;7agfn;9 PAMUDPOD;!171f 8ajhip
0HANUNOOaa A;aI;aU;9id;9kq;9hh;9jq;9kf;9iy;al;9lk;9ix;au;ap;9jb;9mx;9jv;9hp;7cdag I;cU;7ag PAMUDPOD
0PHILIPPINEcvcm;aakcm;!1740 0BUHIDaa A;8I;8U;7id;7kq;7hh;7jq;7kf;7iy;8l;7lk;7ix;8u;8p;7jb;7mx;7jv;7hp
5cdag I;aU;!1760 0TAGBANWAaa A;bI;bU;aid;akq;ahh;ajq;akf;aiy;bl;alk;aix;bu;!176e ajb;amx;ajv
!1772 8cdag I;dU;!1780 0KHMERaaid;8c;7 KO;9HO;8NGO;7ny;7hv;7 CO;9HO;8NYO;7kf;7ik;7 DO;8TTHO;8NNO;7jq
7im;7es;7 THO;8NO;7lk;7jl;7 PO;9HO;8MO;8YO;8RO;8LO;8VO;7hj;7 SSO;7jv;7hp;7jb;7 QA;5obcd QAQ;cA;bI;cI
bU;cK;cU;dV;aRY;cY;aLY;cY;aQE;bAI;bOO TYPEbh;je;bAU;5cd INHERENT AQ;gll;7agll;9 I;9mo;9 Y;bY;aU;9nh
9 UA;9yf;9iu;9 IE;aE;aAE;9mn;9ut;9ne;5ag NIKAHIT;8REAHMUK;8YUUKALEAPINTU;8MUUSIKATOAN;8TRIISAP;8BANTOC
8ROBAT;8TOANDAKHIAT;8KAKABAT;8AHSDA;8SAMYOK SANNYA;8VIRIAM;8COENG;8BATHAMASAT;8KHAN;8BARIYOOSAN
8CAMNUC PII KUUH;8LEK TOO;8BEYYAL;8PHNAEK MUAN;8KOOMUUT;5 CURRENCYau RIEL;5ag AVAKRAHASANYA;9TTHACAN
!17e0 5coej;7bh;8e;7aq;7bf;8m;7dz;7br;8l;7cn;!17f0 5au LEK ATTAK SON;iMUOY;iPII;iBEI;jUON;iPRAM;m-MUOY
nPII;nBEI;oUON;!1800 0MONGOLIANyn;9tl;9et;9hoff;9iv;9bfcy;9 TODO SOFTrg;aSIBEiz BOUNDARYzu;aMANCHUet
ghoff;aNIRUGU;aFREE VARIATION SELECTORbh;ye;xaq;9cdem;9 FREE VARIATION SELECTORbf;9coej;bbh;ce;baq;bbf
cm;bdz;bbr;cl;bcn;!1820 9aa A;cE;cI;cO;cU;byf;b UE;bwy;biy;b ANG;blk;bil;b QA;bkq;bix;bjb;cv;bhj;bjq
bkf;bhv;bnm;biu;cp;bmx;bxf;bid;cc;bqh;buu;b HAA;cZRA;cLHA;cZHI;bvn;b TODOepcdag;g E;hI;hO;hU;gyf;g UE
hANG;glk;gil;g QA;gkq;gix;gjq;gkf;ghv;gnm;gqh;giu;gmx;gid;g GAA;hHAA;hJIA;hNIA;hDZA;cSIBE E;hI;iY;hUE
i;hANG;gid;gkq;ghp;gil;ghj;gjq;gkf;gnm;gxf;g GAA;hHAA;gqh;guu;g RAA;ghv;gwu;cMANCHU I;iid;jp;ixf;iwu
bhvabbecy;!1880 b ALI GALIdebh;kfjbh;k DAMARU;lUBADAMA;kcp UBADAMA;k BALUDA;kaq BALUDA;k A;lI;kid;khh
kny;kkn;kik;kkp;klp;kjq;kkf;kil;kjl;kmr;kwu;kuu;k AH;cTODO ALI GALIjq;pwu;cMANCHU ALI GALIkr;rhh;rny
roc;rkn;rir;rjq;rkw;rmr;r CYA;rwu;ruu;cALI GALIcg U;miu;cMANCHU ALI GALIlv;cALI GALI DAGALGA
cMANCHU ALI GALI LHA;!18b0 0CANADIAN SYLLABICS OY;jAY;kAY;jWAY;jPOY;kAY;kWOY;jTAY;jKAY;kWAY;jMAY;jNOY
kAY;jLAY;jSOY;kAY;kHOY;lAY;lWOY;jYOY;kAY;jRAY;jNWI;jOJIBWAY NWI;jNWII;jOJIBWAY NWII;jNWO;jOJIBWAY NWO
jNWOO;jOJIBWAY NWOO;jRWEE;lI;mI;lO;mO;lA;jOJIBWAY P;rT;rK;rC;rM;rN;rS;sH;jEASTERN W;jWESTERN W;iamadec
klxbo;i Rdl RWE;icjdl LOO;oAA;i THWE;mA;kTHWE;mOO;mAA;kLHWE;mOO;ixn SHWE;nOO;lHOO;ipi GWU;lDENE GEE
lGAA;mWA;ixn JUU;ipi JWA;i BEAVER DENE L;vR;ipi DENTAL S;!1900 0LIMBUcd-CARRIERaa;5aaid;8c;7kq;8r;7hh
7ny;7hv;7nm;7oc;7 YAN;7jq;7im;7kf;8w;7iy;8l;7jl;7lk;8v;7ix;8u;8p;7jb;7mx;7hj;7mr;7jv;7hp;7 GYAN;8TRA
!1920 5cdag A;aI;aU;9wy;9mn;9ut;9ne;9 E;aO;5xpaaiu;ap;9mx;!1930 5adaaid;9hh;9de;9jq;9iy;al;ax;ap;9jb
6g MUKPHRENG;8KEMPHRENG;7jv-I;!1940 7 LOO;!1944 5ewav;5fzav;5coej;7bh;8e;7aq;7bf;8m;7dz;7br;8l;7cn
0TAI LEaaid;8 XA;8hh;8qh;8jv;8iu;8jq;8im;8jb;8il;8jl;8ix;8xf;8sc;8hp;8 QA;8ic;8wq;8iy;8 A;9I;8wy;8 EH
9U;8ut;8 O;9UE;9E;9AUE;8mn;!1970 8ed-2;b3;b4;b5;b6;!1980 0NEW TAI LUEaaey QA;dfs QA;deyid;f XA;fhh
dfsid;f XA;fhh;deyqh;fjv;fiu;dfsqh;fjv;fiu;deyjq;fim;gy;dfsjq;fim;gy;deyil;fjl;fix;dfsil;fjl;fix;deyxf
fsc;fjb;dfsxf;fsc;fjb;deyhp;fkf;flk;dfshp;fkf;flk;dey KVA;gXVA;dfs KVA;gXVA;dey SUA;dfs SUA
!19b0 bcdagcd SHORTENER;fll;fmo;f U;fnh;f E;gAE;gO;hA;gUE;gAY;hAY;gUY;gOY;hAY;gUEY;gIY;baaam V;gNG;h
gM;gK;gD;gB;bedav-1;g2;!19d0 bcoej;dbh;ee;daq;dbf;em;ddz;dbr;el;dcn;b THAMcobh;!19de bag LAE;hV
0KHMERau PATHAMASAT;8MUOYwe;8PIIwe;8BEIwe;9UONwe;8PRAMwe;c-MUOYwe;dPIIwe;dBEIwe;eUONwe;8DAPwe;b-MUOYwe
cPIIwe;cBEIwe;dUONwe;cPRAMwe;8TUTEYASAT;8MUOY ROC;8PII ROC;8BEI ROC;9UON ROC;8PRAM ROC;c-MUOY ROC
dPII ROC;dBEI ROC;eUON ROC;8DAP ROC;b-MUOY ROC;cPII ROC;cBEI ROC;dUON ROC;cPRAM ROC;0BUGINESEaaid;akq
ahh;a NGKA;ail;alk;aix;a MPA;ajq;akf;aiy;a NRA;any;bm;ahy;a NYCA;aiu;bp;ajb;asc;ajv;a A;ahp;8cdag I;dU
dE;dO;dAE;!1a1e 8 PALLAWA;8rpfbhx;0TAI THAMaaeyid;dc;c KXA;afsid;c KXA;cic;ahh;aeyny;chv;afsny;cjv;chv
ahy;a RATA;aey RATHA;akf;afs RATHA;a RANA;aeyjq;cim;afsjq;cim;aiy;alk;aeyil;cjl;cxf;afsil;cxf;cjl;aix
afsiu;aeyiu;aip;a RUE;ajb;a LUE;amx;aeyhj;cmr;cjv;chp;arr;a A;afshp;a I;amo;a U;anh;awy;aut;a LAE
bGREATjv;8gcagbyip;ejb;cjb TANG LAI;8ag MAI KANG LAI;8gcagamhh;cfsil;cey RATHAmefsil;cix;clk;cjv
!1a60 8ag SAKOT;8cdag A;dMAI SAT;cll;c TALLll;dI;cmo;c UE;eUE;e;cnh;c O;eAal;eY;dE;dAE;cut;cmn
c THAMmn;dOAah;8ag MAI KANG;aed-1;d2;a KHUENed-3;j4;j5;aip HAAM;a MAI SAM;bKHUEN-LUE KARAN
!1a7f 8gikobo;8 HORAcoej;fbh;ge;faq;fbf;gm;fdz;fbr;gl;fcn;!1a90 9THAMcoej;fbh;ge;faq;fbf;gm;fdz;fbr;gl
fcn;!1aa0 8ag WIANG;gWAAK;bSAWAN;bKEOW;bHOY;bDOKMAI;ackdf RANA;a MAI YAMOK;bKAAN;fKUU;bSATKAAN;iKUU
bHANG;bCAANG;!1ab0 0ja DOUBLEDbdfr;2bj-RING;2 INFINITY;2daaf;2gebo;2 X-Xal;3WIGGLYfial;2ezaval
2akezaval;2cxybasal;2 STRONGybasal;3PARENTHESESah;2ak PARENTHESESah;2 PARENTHESESal;ehw;2juadaa Wal
8di Wal;2arclahar;3jclahaj;3rclalar;3jclalaj;2bs BRACKETSah;2duagah;2cpak ARCHah;3hagah;2akchagah;9l
2gectfr;2juadaaka G;bR;bT;!1b00 0BALINESEag ULU RICEM;enz;bCECEK;bSURANG;bBISAH;9a AKARA;grl;bIKARA
grl;bUKARA;grl;aip REPA;hrl;ajb LENGA;irl;a EKARA;bAIKARA;bOKARA;grl;aid;cqs;akq;c GORA;ahh;any;c LACA
bm;c JERA;ahy;ajq LATIK;cxiqs;akfxi ALPAPRANA;eqs;aiy RAMBAT;ajq;c TAWA;akf;c MADU;aiy;bl;c KAPAL;alk
c KEMBANG;aix;bu;bp;ajb;amx;ajv SAGA;fPA;c;ahp;9g REREKAN;8cdagrl;c ULU;g SARI;dSUKU;h ILUT;cip REPA
jrl;cjb LENGA;krl;c TALING;j REPA;jrl;j REPArl;dPEPET;irl;8 ADEG ADEG;8aaqf SASAK;a KHOT SASAK
bTZIR SASAK;bEF SASAK;bVE SASAK;bZAL SASAK;bASYURA SASAK;ajh JNYA;!1b50 8coej;abh;be;aaq;abf;bm;adz
abr;bl;acn;8 PANTI;bMADA;9WINDU;9CARIK PAMUNGKAH;fSIKI;fPAREREN;9PAMENENG;8wgau DONG;eENG;eUNG;eANG
h SURANG;eING;eAENG;eEUNG;eAING;fNG GEDE;cgi TEGEH;fENDEP;fKEMPUL;jLI;fJEGOGAN;fKEMPULab JEGOGAN
jLIab JEGOGAN;fBENDE;fGONG;caj-HANDez DUG;nAG;jhr TUK;nAK;dr-HANDez PANG;nUNG;jhr PLAK;oUK;jez PING
8 PANTI LANTANG;bMADA LANTANG;!1b80 0SUNDANESEag PANYECEK;fGLAYAR;gWISAD;aa A;cI;cU;cAE;cO;cE;dU;bid
b QA;bkq;bhh;bny;cm;buu;bhy;bjq;bkf;biy;cl;bxf;bsc;blk;bix;cu;cp;bjb;bmx;bjv;b XA;bhp;9gcag PAMINGKAL
gNYAKRA;iIKU;9cdag PANGHULU;hYUKU;hAELAENG;hOLONG;gMEPET;gNEULEUNG;9ag PAMAAEH;bfn;9gcag PASANGANix
mmx;9aaic;b SYA;9coej;bbh;ce;baq;bbf;cm;bdz;bbr;cl;bcn;9jn;9aa REU;cLEU;blv;bam K;eM;0BATAKaa A;7li A
7hp;7lihp;7 MANDAILINGhp;7lk;7 KAROlk;7il;7liil;7iy;7 MANDAILINGiy;7mx;7limx;7 PAKPAKmx;7kq;7likq;7nm
7kf;7ip;7liip;7ix;7liix;7 SOUTHERNjq;8NORTHERNjq;7jv;7lijv;7 MANDAILINGjv;7iu;7liiu;7hh;7jb;7lijb;7hy
7ny;7 NDA;8MBA;8I;8U;6g TOMPI;5cdag E;aPAKPAK E;9wy;9 I;aKARO I;aO;aKARO O;aU;bnflijv;5gcag NG;aH
5 PANGOLAT;9ONGONAN;!1bfc 5au BINDUiy METEK;d PINARBORAS;eJUDUL;ePANGOLAT;0LEPCHAaaid;8 KLA;8ic;8kq
8 GLA;8hh;8ny;8hv;8nm;8hy;8jq;8im;8kf;8iy;9l;8 PLA;8jl;8xf;8 FLA;8lk;8 BLA;8ix;8 MLA;8qh;8wq;8 DZA;8iu
9p;8jb;8hp;8 HLA;8sc;8jv;8hj;8mx;8 A;6xpaaiu;bp;6cdagll;a I;bO;aut;a U;anh;a E;6gcag K;bM;bL;bN;bP;bR
bT;bNYIN-DO;bKANG;6ag RAN;8ks;!1c3b 6cmjq-ROL;8 NYET THYOOMjq-ROL;9CER-WA;9TSHOOK CER-WA;f;7oej;8bh;9e
8aq;8bf;9m;8dz;8br;9l;8cn;!1c4d 6aakn;8ik;8kp;0OL CHIKIcoej;abh;be;aaq;abf;bm;adz;abr;bl;acn;8aajb
a AT;cG;cNG;cL;bLAA;bAAK;dJ;dM;dW;bLI;bIS;cH;cNY;cR;bLU;bUC;cD;cNN;cY;bLE;bEP;cDD;avb;a ERR;bLO;bOTT
cB;cV;cH;8ye TTUDDAG;8 GAAHLAA TTUDDAAG;8ye-GAAHLAA TTUDDAAG;8 RELAA;9PHAARKAA;9AHAD;8cm MUCAAD
aak MUCAAD;0CYRILLICadaauk VE;cep-LEGGED DE;c NARROW O;dWIDE ES;dTALLyk;caq-LEGGEDyk;c TALL HARDag
iYAT;dUNBLENDED UK;!1c90 0GEORGIAN MTAVRULIacaa AN;mBAN;mGAN;mDON;lvb;l VIN;mZEN;mTAN;lrq;l KAN;mLAS
mMAN;mNAR;lpg;l PAR;mZHAR;mRAE;mSAN;mTAR;mUN;mPHAR;mKHAR;mGHAN;mQAR;llu;l CHIN;nAN;mJIL;mCIL;nHAR;mXAN
mJHAN;mHAE;lwb;l HIE;mWE;mHAR;nOE;mFI;mYN;mELIFI;ldi GAN;lou;!1cbd l AEN;mHARDag;mLABIALag
0SUNDANESEcm BINDU SURYA;iPANGLONG;jURNAMA;iCAKRA;iLEU SATANGA;hid SATANGA;hkf SATANGA;hlk SATANGA
!1cd0 0VEDICed KARSHANA;8SHARA;8PRENKHA;5ag NIHSHVASA;8YAJURVEDIC MIDLINErx
5ed YAJURVEDIC AGGRAVATEDobrx;iobrx;i KATHAKAobrx;7nzal;7 YAJURVEDIC KATHAKAobrx SCHROEDER;7akrx;7gerx
7 KATHAKA ANUDATTA;7boal;8ecyal;7aqcyal;7 RIGVEDIC KASHMIRIobrx;8ATHARVAVEDICobrx;5agfjrx;9 UDATTA
7ckfj UDATTA;7fj ANUDATTA;7ckfj ANUDATTA;7fj UDATTAabgr;aANUDATTAabgr;7de ANTARGOMUKHA;aBAHIRGOMUKHA
aVAMAGOMUKHA;labgr;7 TIRYAK;8HEXIFORMepde;7epde;7 RTHANGepde;7de UBHAYATO MUKHA;7 ARDHAVISARGA
7df ARDHAVISARGA;5ednzah;5agsz;7tc;7 ATIKRAMA;5edecah;7akecah;5agakde ANTARGOMUKHA;!1d00 0ndaaadac A
aE;3daadi AE;3aadacux B;8 C;9D;9ETH;a;3daadiez E;8 I;3aadac J;9K;9Labas;9M;8ck N;8 O;8ez O;3daawl O
8ez O;8 Oabas;6diyf;3aadac OU;3daaqgcg O;6jccg O;3aadac P;8ck R;8di R;8 T;9U;3daawl U;9DIAERESIZED U
8di M;3aadac V;9W;9Z;9EZH;4vk LARYNGEAL SPIRANT;4ou;0GREEKaaadacmb;bsg;bwz;bsn;b PSI
0CYRILLICaaadac EL;0kuaaac A;8E;7B;6ux B;6 D;7E;6ck E;6 G;7H;7I;7J;7K;7L;7M;7N;6ck N;6 O;8U;7P;7R;7T
7U;7W;5d A;6di A;6ia;6di AE;6 B;7D;7E;6yw;6ez E;6diez E;6 G;6di I;6 K;7M;7ENG;7O;6ez O;6qgcg O;6jccg O
6 P;7T;7U;6wl U;6di M;6 V;6ou;6rn;6qpmb;6nk;6qpuh;6vn;0ndxqadaa I;9R;9U;9V;0GREEKxqadaarn;bmb;bsn;buh
bvn;0ndadaa UE;7Babawcs;7Dabawcs;7Fabawcs;7Mabawcs;7Nabawcs;7Pabawcs;7Rabawcs;awaaoawcs;7Sabawcs
7Tabawcs;7Zabawcs;6di G;0kuaatjvb;0ndadaaka G;6 THab STRIKETHROUGH;5caa Iabas;5algabas;6 Pabas
5caa Uabas;5agtabas;6 Babgjbg;7Dabgjbg;7Fabgjbg;7Gabgjbg;7Kabgjbg;7Labgjbg;7Mabgjbg;7Nabgjbg;7Pabgjbg
7Rabgjbg;7Sabgjbg;7ESHabgjbg;7Vabgjbg;7Xabgjbg;7Zabgjbg;7Aabdjbg;6iaabdjbg;6 Dabbgaogr;7Eabdjbg
6ez Eabdjbg;6ckez Eabdjbg;6ywabdjbg;6 Iabdjbg;6ez Oabdjbg;6 ESHabdjbg;7Uabdjbg;7EZHabdjbg;0kuaaaddiia
6 C;8abpb;7ETH;6ckez E;6 F;6mp Jabas;6oe G;6di H;6 Iabas;6lg;6ac I;aabas;6 Jabjizh;7Labdjbg;agjbg
6ac L;6 Mabbg;6di Mabep LEG;6 Nabarbg;adjbg;6ac N;6ux O;7h;6 Sabbg;7ESH;7Tabgjbg;7Uea;6gt;6ac U
6 Vabbg;6di V;6 Z;8abdjbg;apb;7EZH;6kt;0jahbeefr;4ctfr;2 SNAKEal;4USPENSIONav;2dh-ACUTE;2ee-MACRON
2dh-GRAVE;2ct-MACRON;2ee-ACUTE-GRAVE;2ct-GRAVE-ACUTE;2juadaa Ral;2fd-MACRON;2dh-BREVE;2akbdah;2oqah
2 ZIGZAGal;3ISal;3URah;4Sah;2juadaa FLATTENEDez Aah;9AE;aO;aV;9Cgo;8ka D;8 ETH;9G;5aadac G;5daa K;9L
5aadac L;bM;5daa N;5aadac N;bR;5daa R ROTUNDA;9S;8ep S;8 Z;8ia;8 B;8rn;8yw;8 F;9Labakawcs;9Oabcxybas
9P;9ESH;9Uabcxybas;9W;9Aabbj;9Oabbj;9Uabbj;2hdkkah;2 KAVYKAahaj;cr;2boahar;2 WIDEcp BRIDGEal;2boalar
2 DELETIONav;2akcpfdal;2phciesal;2arbnah;3jbnaocebnal;0ndacaa Aabecal;3daa Aabecal;3caa Babboah
3daa Babboah;3caa Babboal;3daa Babboal;3caa Babfial;3daa Babfial;3caa Cabgoaoct;3daa Cabgoaoct
3caa Dabboah;3daa Dabboah;3caa Dabboal;3daa Dabboal;3caa Dabfial;3daa Dabfial;3caa Dabgo;3daa Dabgo
3caa Dabbdal;3daa Dabbdal;3caa Eabdhaoee;3daa Eabdhaoee;3caa Eabdhaoct;3daa Eabdhaoct;3caa Eabbdal
3daa Eabbdal;3caa Eabcsal;3daa Eabcsal;3caa Eabgoaofd;3daa Eabgoaofd;3caa Fabboah;3daa Fabboah
3caa Gabdh;3daa Gabdh;3caa Habboah;3daa Habboah;3caa Habboal;3daa Habboal;3caa Habbj;3daa Habbj
3caa Habgo;3daa Habgo;3caa Habfdal;3daa Habfdal;3caa Iabcsal;3daa Iabcsal;3caa Iabbjaoct
3daa Iabbjaoct;3caa Kabct;3daa Kabct;3caa Kabboal;3daa Kabboal;3caa Kabfial;3daa Kabfial;3caa Labboal
3daa Labboal;3caa Labboalaodh;3daa Labboalaodh;3caa Labfial;3daa Labfial;3caa Labbdal;3daa Labbdal
3caa Mabct;3daa Mabct;3caa Mabboah;3daa Mabboah;3caa Mabboal;3daa Mabboal;3caa Nabboah;3daa Nabboah
3caa Nabboal;3daa Nabboal;3caa Nabfial;3daa Nabfial;3caa Nabbdal;3daa Nabbdal;3caa Oabcsaoct
3daa Oabcsaoct;3caa Oabcsaobj;3daa Oabcsaobj;3caa Oabdhaoee;3daa Oabdhaoee;3caa Oabdhaoct
3daa Oabdhaoct;3caa Pabct;3daa Pabct;3caa Pabboah;3daa Pabboah;3caa Rabboah;3daa Rabboah;3caa Rabboal
3daa Rabboal;3caa Rabboalaodh;3daa Rabboalaodh;3caa Rabfial;3daa Rabfial;3caa Sabboah;3daa Sabboah
3caa Sabboal;3daa Sabboal;3caa Sabctaoboah;3daa Sabctaoboah;3caa Sabgfaoboah;3daa Sabgfaoboah
3caa Sabboalaoboah;3daa Sabboalaoboah;3caa Tabboah;3daa Tabboah;3caa Tabboal;3daa Tabboal;3caa Tabfial
3daa Tabfial;3caa Tabbdal;3daa Tabbdal;3caa Uabbjal;3daa Uabbjal;3caa Uabcsal;3daa Uabcsal
3caa Uabbdal;3daa Uabbdal;3caa Uabcsaoct;3daa Uabcsaoct;3caa Uabdhaobj;3daa Uabdhaobj;3caa Vabcs
3daa Vabcs;3caa Vabboal;3daa Vabboal;3caa Wabee;3daa Wabee;3caa Wabct;3daa Wabct;3caa Wabbj;3daa Wabbj
3caa Wabboah;3daa Wabboah;3caa Wabboal;3daa Wabboal;3caa Xabboah;3daa Xabboah;3caa Xabbj;3daa Xabbj
3caa Yabboah;3daa Yabboah;3caa Zabbd;3daa Zabbd;3caa Zabboal;3daa Zabboal;3caa Zabfial;3daa Zabfial
7Habfial;7Tabbj;7Wabecah;7Yabecah;7Aabajcgec;6ep Sabboah;cdtas;ceyas;3caa SHARP S;3daank;3caa Aabboal
3daa Aabboal;3caa Aabbgah;3daa Aabbgah;3caa Aabbdaoct;3daa Aabbdaoct;3caa Aabbdaoee;3daa Aabbdaoee
3caa Aabbdaobgah;3daa Aabbdaobgah;3caa Aabbdaocs;3daa Aabbdaocs;3caa Aabbdaoboal;3daa Aabbdaoboal
3caa Aabfdaoct;3daa Aabfdaoct;3caa Aabfdaoee;3daa Aabfdaoee;3caa Aabfdaobgah;3daa Aabfdaobgah
3caa Aabfdaocs;3daa Aabfdaocs;3caa Aabfdaoboal;3daa Aabfdaoboal;3caa Eabboal;3daa Eabboal;3caa Eabbgah
3daa Eabbgah;3caa Eabcs;3daa Eabcs;3caa Eabbdaoct;3daa Eabbdaoct;3caa Eabbdaoee;3daa Eabbdaoee
3caa Eabbdaobgah;3daa Eabbdaobgah;3caa Eabbdaocs;3daa Eabbdaocs;3caa Eabbdaoboal;3daa Eabbdaoboal
3caa Iabbgah;3daa Iabbgah;3caa Iabboal;3daa Iabboal;3caa Oabboal;3daa Oabboal;3caa Oabbgah
3daa Oabbgah;3caa Oabbdaoct;3daa Oabbdaoct;3caa Oabbdaoee;3daa Oabbdaoee;3caa Oabbdaobgah
3daa Oabbdaobgah;3caa Oabbdaocs;3daa Oabbdaocs;3caa Oabbdaoboal;3daa Oabbdaoboal;3caa Oabkiaoct
3daa Oabkiaoct;3caa Oabkiaoee;3daa Oabkiaoee;3caa Oabkiaobgah;3daa Oabkiaobgah;3caa Oabkiaocs
3daa Oabkiaocs;3caa Oabkiaoboal;3daa Oabkiaoboal;3caa Uabboal;3daa Uabboal;3caa Uabbgah;3daa Uabbgah
3caa Uabkiaoct;3daa Uabkiaoct;3caa Uabkiaoee;3daa Uabkiaoee;3caa Uabkiaobgah;3daa Uabkiaobgah
3caa Uabkiaocs;3daa Uabkiaocs;3caa Uabkiaoboal;3daa Uabkiaoboal;3caa Yabee;3daa Yabee;3caa Yabboal
3daa Yabboal;3caa Yabbgah;3daa Yabbgah;3caa Yabcs;3daa Yabcs;3caaaw-WELSH LL;3daaaw-WELSH LL
3caaaw-WELSH V;3daaaw-WELSH V;3caa Yabsr;3daa Yabsr;0GREEKadaaiaabdv;es;evaoer;esaoer;evaofy;esaofy
evaocc;esaocc;6caaiaabdv;es;evaoer;esaoer;evaofy;esaofy;evaocc;esaocc;6daahfabdv;es;evaoer;esaoer
evaofy;esaofy;!1f18 6caahfabdv;es;evaoer;esaoer;evaofy;esaofy;!1f20 6daaxeabdv;es;evaoer;esaoer;evaofy
esaofy;evaocc;esaocc;6caaxeabdv;es;evaoer;esaoer;evaofy;esaofy;evaocc;esaocc;6daalgabdv;es;evaoer
esaoer;evaofy;esaofy;evaocc;esaocc;6caalgabdv;es;evaoer;esaoer;evaofy;esaofy;evaocc;esaocc;6daakcabdv
es;evaoer;esaoer;evaofy;esaofy;!1f48 6caakcabdv;es;evaoer;esaoer;evaofy;esaofy;!1f50 6daagtabdv;es
evaoer;esaoer;evaofy;esaofy;evaocc;esaocc;!1f59 6caagtabds;!1f5b faoer;!1f5d hfy;!1f5f hcc;6daahiabdv
es;evaoer;esaoer;evaofy;esaofy;evaocc;esaocc;6caahiabdv;es;evaoer;esaoer;evaofy;esaofy;evaocc;esaocc
6daaiaaber;dfy;9hfaber;dfy;9xeaber;dfy;9lgaber;dfy;9kcaber;dfy;9gtaber;dfy;9hiaber;dfy
!1f80 9iaabdvaocb;esaocb;evaoeraocb;esaoeraocb;evaofyaocb;esaofyaocb;evaoccaocb;esaoccaocb
6caaiaabdvaodb;esaodb;evaoeraodb;esaoeraodb;evaofyaodb;esaofyaodb;evaoccaodb;esaoccaodb;6daaxeabdvaocb
esaocb;evaoeraocb;esaoeraocb;evaofyaocb;esaofyaocb;evaoccaocb;esaoccaocb;6caaxeabdvaodb;esaodb
evaoeraodb;esaoeraodb;evaofyaodb;esaofyaodb;evaoccaodb;esaoccaodb;6daahiabdvaocb;esaocb;evaoeraocb
esaoeraocb;evaofyaocb;esaofyaocb;evaoccaocb;esaoccaocb;6caahiabdvaodb;esaodb;evaoeraodb;esaoeraodb
evaofyaodb;esaofyaodb;evaoccaodb;esaoccaodb;6daaiaab VRACHY;ddh;deraocb;dcb;dfyaocb;!1fb6 dcc;faocb
6caaiaab VRACHY;ddh;der;dfy;ddb;5 KORONIS;5db;6v;5cc;5jtaocc;5adaaxeaberaocb;dcb;dfyaocb;!1fc6 dcc
faocb;6caahfaber;dfy;9xeaber;dfy;ddb;5dvaoer;9fy;9cc;5adaalgab VRACHY;ddh;djtaoer;hfy;!1fd6 dcc
djtaocc;6caalgab VRACHY;ddh;der;dfy;!1fdd 5dsaoer;9fy;9cc;5adaagtab VRACHY;ddh;djtaoer;hfy;9snabdv;es
9gtabcc;djtaocc;6caagtab VRACHY;ddh;der;dfy;9snabds;5jtaoer;9fy;5er;!1ff2 5adaahiaberaocb;dcb;dfyaocb
!1ff6 dcc;faocb;6caakcaber;dfy;9hiaber;dfy;ddb;5fy;5ds;!2000 0ENyg;1Myg;1Nmm;1Mmm;0wx-PER-EMmm
0FOUR-PER-EMmm;0SIX-PER-EMmm;0FIGUREmm;0PUNCTUATIONmm;0THINmm;0HAIRmm;0ZERO WIDTHmm;a NON-JOINER
bJOINER;0fm-TO-RIGHTav;0ek-TO-LEFTav;0HYPHEN;0NON-BREAKINGrg;0FIGUREiq;0ENiq;1Miq;0jyea;0gnatfi;2fsfi
0fmcvfcav;0ekcvfcav;0SINGLEfs-9fcav;6ey-REVERSED-9fcav;0fmakfcav;0ekakfcav;0gnfs-9fcav
2ey-REVERSED-9fcav;0DAGGER;0gn DAGGER;0BULLET;0TRIANGULARrd;0ONEbo LEADER;0TWObo LEADER;0jytl
0HYPHENATIONui;0LINEem;0PARAGRAPHem;0fm-TO-RIGHT EMBEDDING;0ek-TO-LEFT EMBEDDING
0POP DIRECTIONAL FORMATTING;0fm-TO-RIGHT OVERRIDE;0ek-TO-LEFT OVERRIDE;0NARROW NO-BREAKmm;0PER MILLEag
3gmazag;1RIME;0gnxl;0zmxl;0kexl;2akxl;2gexl;0CARET;0SINGLEarbufqfcav;7jbufqfcav;0REFERENCEav;0gnewav
0INTERROBANG;0OVERLINE;0UNDERTIE;0CHARACTER TIE;1ARET INSERTIONui;0ASTERISM;0HYPHENrd;0FRACTIONpv
0fmbsbaab QUILL;0ekbsbaab QUILL;0gnfzav;0QUESTIONewav;0EXCLAMATIONfzav;0TIRONIANag ET;0ke PILCROWag
0drbwrd;3brd;0LOWdw;0kemk;0CLOSEhd;0TWO ASTERISKS ALIGNEDrz;0COMMERCIALsiag;0SWUNGiq;0ww UNDERTIE
0FLOWERcmav;0wxbocm;0QUADRUPLExl;0FOURbocm;1IVEbocm;0TWObocm;0FOURboav;0DOTTEDgl;0TRICOLON;0inbfcy
0nw MATHEMATICALmm;0WORD JOINER;0FUNCTION APPLICATION;0INVISIBLEbk;9em;9ch;!2066 0fm-TO-RIGHT ISOLATE
0ek-TO-LEFT ISOLATE;0FIRST STRONG ISOLATE;0POP DIRECTIONAL ISOLATE;0INHIBIT SYMMETRIC SWAPPING
0ACTIVATE SYMMETRIC SWAPPING;0INHIBITooae SHAPING;0ACTIVATEooae SHAPING;0NATIONALco SHAPES
1OMINALco SHAPES;0SUPERSCRIPTej;bjuadaa I;!2074 bbf;cm;bdz;bbr;cl;bcn;chag;bsi;bjeag;barcl;cjcl
bjuadaa N;2BSCRIPTej;9bh;ae;9aq;9bf;am;9dz;9br;al;9cn;ahag;9si;9jeag;9arcl;ajcl;!2090 0ndxqadaa A;9E
9O;9X;8yw;8 H;9K;9L;9M;9N;9P;9S;9T;!20a0 0EURO-CURRENCYag;0COLONag;1RUZEIROag;0FRENCH FRANCag;0LIRAag
0MILLag;0NAIRAag;0PESETAag;0RUPEEag;0WONag;0NEW SHEQELag;0DONGag;0EUROag;0KIPag;0TUGRIKag;0DRACHMAag
0GERMAN PENNYag;0PESOag;0GUARANIag;0AUSTRALag;0HRYVNIAag;0CEDIag;0LIVRE TOURNOISag;0SPESMILOag
0TENGEag;0INDIAN RUPEEag;0TURKISH LIRAag;0NORDICavag;0MANATag;0RUBLEag;0LARIag;0BITCOINag;0SOMag
!20d0 0jaardgah;3jdgah;2epatfihw;2featfihw;2jgafah;2 CLOCKWISEafah;2arafah;3jafah;2echw
2 CLOCKWISEechw;2jgechw;2aqcyah;2bfcyah;2 ENCLOSINGbq;ds;cfh;cbqtw;2arajafah;2 ENCLOSING SCREEN
dKEYCAP;dUPWARDbxan;2nsifhw;2akatashw;2 ANNUITYau;2ge UNDERDOT;2 WIDE BRIDGEah;2bwafhw;2epakifhw
2bbdgabebda;3wdgabebda;2arafal;3jafal;2dwah;!2100 0ACCOUNTfb;1DDRESSEDesng SUBJECT;0gnteac C
0DEGREE CELSIUS;0CENTREfiau;1AREfb;2DA UNA;0EULER CONSTANT;0SCRUPLE;0DEGREE FAHRENHEIT;0SCRIPTad G
7c H;0dr-LETTERac H;0gnteac H;0PLANCK CONSTANT;fdcbewz;0SCRIPTac I;0dr-LETTERac I;0SCRIPTac L;7d L
0L Beaau;0gnteac N;0NUMEROag;0SOUND RECORDING COPYRIGHT;1CRIPTac P;0gnteac P;7Q;0SCRIPTac R
0dr-LETTERac R;0gnteac R;0PRESCRIPTION TAKE;0RESPONSE;0SERVICEav;0TELEPHONEag;1RADEavag;0VERSICLE
0gnteac Z;0OUNCEag;1HMag;0ww OHMag;0dr-LETTERac Z;0qeqpadaalg;0KELVINag;0ANGSTROMag;0SCRIPTac B
0dr-LETTERac C;0ESTIMATEDau;0SCRIPTad E;7c E;9F;0qeac F;0SCRIPTac M;7d O;0ALEFau;0BETau;0GIMELau
0DALETau;0vl SOURCE;0ROTATEDac Q;0FACSIMILEag;0gnteadwz;6mb;5cmb;6wz;4 N-ARY SUMMATION;0qepulrac G;9L
0kepulrac L;0qepulrac Y;0gntesyac D;7d D;9E;9I;9J;0PROPERTYfi;0qetv;0PERag;0AKTIESELSKAB;0qead F
0SYMBOLnf SAMARITAN SOURCE;0VULGARiwbh SEVENTH;bNINTH;bTENTH;aun;9exs;9h FIFTH;9e FIFTHS;8aq FIFTHS
8bf FIFTHS;9h SIXTH;9m SIXTHS;9hih;8aqma;8bmma;9rma;0FRACTION NUMERATORbh;0ROMANrubh;8e;7aq;7bf;8m;7dz
7br;8l;7cn;7gm;7pj;7os;7ib;7bhay;8may;8haz;0zl ROMANrubh;be;aaq;abf;bm;adz;abr;bl;acn;agm;apj;aos;aib
abhay;bmay;bhaz;0ROMANrubhaz C D;8maz;7gmaz;7ckbhay;0ndadaack C;0ROMANrudz LATEae;7ib EARLYae;9az
7bhayaz;0VULGARiwejxs;0qecobe;4aq;!2190 0biaf;0eiaf;0bcaf;0cqaf;0fmajaf;0UPceaf;0qkcjaf;2fxaf;0usfxaf
2cjaf;0biafabas;1cafabas;1isaaf;1csaaf;1ibe HEADEDaf;0eibe HEADEDaf;0bcbe HEADEDaf;0cqbe HEADEDaf
0biafabgr;1cafabgr;1iafleea;0eiafleea;0bcafleea;0cqafleea;0UPceafab BASE;0biafabbg;1cafabbg;1iafabsr
1cafabsr;0fmajsaaf;4afabas;0cq ZIGZAGaf;0eiafab TIPbw;bb;0cqafab TIPbw;bb;0bcafabhada;0cqafabhabw
0lsqgyxaf;0tuqgyxaf;0qkcjafesepea;0biafeseadcbbafesea;0lsezbqaf;0tuezbqaf;0bidgabebfa;8da;0eidgabebbb
9w;0bcdgabebfa;8da;0cqdgabebbb;9w;0bcafdcbwaf;0eiafbwfbdaaf;0biafdcbbaf;2zwmy;0eizwmy;0bczwmy;0cqzwmy
0bidgdcbbdg;1cdgdcbwdg;1iakafabas;0fmajakafabas;0bcakafabas;1iakaf;0eiakaf;0bcakaf;0cqakaf;0fmajakaf
0UPceakaf;0qkcjakaf;2fxakaf;0usfxakaf;2cjakaf;0bigeaf;1cgeaf;1i SQUIGGLEaf;1c SQUIGGLEaf;0eiafabakas
0cqafabakas;0bivaaf;0eivaaf;0bcvaaf;0cqvaaf;0biafesea;1cafesea;1ibtaf;0eibtaf;0bcbtaf;0cqbtaf
0eibtafleea;6pg PEDESTAL;habaxea;ktea;5kaf;8pg PEDESTAL;0bcbtafle WALL;0qkcjafesha;0usfxafesha
0UPcebtaf;0ekafabadbq;0cqafbwfbfaaf;0wxbbmy;0biafabatas;1cafabatas;0fmajafabatas;0biafabakatas
1cafabakatas;0fmajafabakatas;0biezbzaf;1cezbzaf;0fmajezbzaf;0FOR ALL;0COMPLEMENT;0PARTIALre
0THERE EXISTS;6DOESlq EXIST;0EMPTY SET;0INCREMENT;0NABLA;0ELEMENTfb;0NOT AN ELEMENTfb;0zl ELEMENTfb
0CONTAINS AS MEMBER;0DOESlq CONTAIN AS MEMBER;0zl CONTAINS AS MEMBER;0ENDfb PROOF;0N-ARYnr;5 COPRODUCT
6SUMMATION;0MINUSag;5-OR-PLUSag;0DOTch;1IVISIONpv;0SETsi;0ASTERISKdx;0RINGdx;0BULLETdx;0nx ROOT
0CUBE ROOT;0FOURTH ROOT;0PROPORTIONALes;0INFINITY;0ekfq;0ANGLE;0MEASUREDfq;0SPHERICALfq;0DIVIDES
1OESlq DIVIDE;0PARALLELes;0NOTzxes;0LOGICALao;7me;0tf;0UNION;0INTEGRAL;0gnlb;0zmlb;0CONTOURlb
0SURFACElb;0VOLUMElb;0tulb;2 CONTOURlb;0ls CONTOURlb;0THEREFORE;0BECAUSE;0RATIO;0PROPORTION;0DOTsi
0EXCESS;0GEOMETRIC PROPORTION;0HOMOTHETIC;0TILDEdx;0kecs;0ww LAZY S;0SINEsa;0WREATHnr;0NOTcs;0MINUScs
0ASYMPTOTICALLYcies;0NOT ASYMPTOTICALLYcies;0APPROXIMATELYcies;d BUTlq ACTUALLYcies
0NEITHER APPROXIMATELY NOR ACTUALLYcies;0ALMOSTcies;0NOTphcies;0ALMOSTcimecies;0zmcs;0ALLcies
0EQUIVALENTes;0GEOMETRICALLYjjes;0DIFFERENCEld;0APPROACHESng LIMIT;0GEOMETRICALLYcies
0APPROXIMATELYciesmeng IMAGEfb;0IMAGEfbme APPROXIMATELYcies;0COLONje;0vwiv;0RINGrqcies;4cies
0CORRESPONDSes;0ESTIMATES;1QUIANGULARes;0STARje;0DELTAcies;0EQUALes BY DEFINITION;0MEASURED BY
0QUESTIONEDcies;0NOTcies;0IDENTICALes;0NOT IDENTICALes;0STRICTLYjjes;0tgczmecies;0hzczmecies
0tgczdccies;0hzczdccies;0tgcz BUTlqcies;0hzcz BUTlqcies;0MUCHkbcz;4focz;0BETWEEN;0NOTjjes;3kbcz;3focz
1EITHERkbcz NORcies;7focz NORcies;0tgczmejjes;0hzczmejjes;0NEITHERkbcz NORjjes;7focz NORjjes
0tgczmefocz;0hzczmekbcz;0NEITHERkbcz NORfocz;7focz NORkbcz;0qc;1d;1cmecies;1dmecies;1cmejjes;1dmejjes
0DOESlq PRECEDE;7SUCCEED;0sofb;0mdfb;0NOT Arjfb;5qwfb;0sofbmecies;0mdfbmecies;0NEITHER Arjfb NORcies
9qwfb NORcies;0sofbablqcies;0mdfbablqcies;0MULTISET;8sj;8vt;0nx IMAGEfb;3ORIGINALfb;3IMAGEfbmecies
3ORIGINALfbmecies;3CAP;4UP;0huch;2si;2bk;2 DIVISIONpv;2bodx;2ecdx;2dwdx;2je;2iq;0yach;2si;2bk;3odx
0ekkk;0fmkk;0DOWNkk;0UPkk;0ASSERTION;0MODELS;0TRUE;0FORCES;0zmateaajqy;0gnateaakajqy;0DOESlq PROVE
0NOT TRUE;0DOESlq FORCE;0NEGATEDakateaakajqy;0qc UNDER RELATION;1d UNDER RELATION;0NORMALtrfb
0CONTAINS ASzvtr;0NORMALtrfbmecies;0CONTAINS ASzvtrmecies;0ORIGINALfb;0IMAGEfb;0MULTIMAP
0HERMITIAN CONJUGATE MATRIX;0INTERCALATE;0XOR;0NAND;1OR;0ekfqab ARC;2an;0N-ARYugao;7me;5jf;5vt
0DIAMONDdx;1OTdx;0STARdx;0DIVISIONbk;0BOWTIE;0fmzv FACTOR SEMIDIRECTnr;0ekzv FACTOR SEMIDIRECTnr
0fm SEMIDIRECTnr;0ek SEMIDIRECTnr;0kecsje;0CURLYugme;7ao;0gnrj;2qw;2jf;2vt;0PITCHFORK;0EQUALaozxes
0tgczabbo;0hzczabbo;0VERY MUCHkbcz;9focz;0tgczciesmefocz;0hzczciesmekbcz;0EQUALesmekbcz;9focz
9 PRECEDES;aSUCCEEDS;0DOESlq PRECEDEmeci;7SUCCEEDmeci;0NOTbs IMAGEfbmecies;6ORIGINALfbmecies
0nx IMAGEfbmelqcies;3ORIGINALfbmelqcies;0tgcz BUTlqjjes;0hzcz BUTlqjjes;0qc BUTlqjjes;1d BUTlqjjes
0NOTzvtrfb;0DOESlq CONTAIN ASzvtr;0NOTzvtrfbmecies;0DOESlq CONTAIN ASzvtrmeci;0intl;0MIDLINEaxtl
0UPajdttl;0DOWNajdttl;0ELEMENTfbabepaxas;batea ATrpfbaxas;0zl ELEMENTfbabatea ATrpfbaxas
0ELEMENTfbabboah;bnq;0zl ELEMENTfbabnq;0ELEMENTfbabgk;bbeax STROKES;0CONTAINSabepaxas;aatea ATrpfbaxas
0zl CONTAINSabatea ATrpfbaxas;0CONTAINSabnq;0zl CONTAINSabnq;0Zto BAG MEMBERSHIP;0DIAMETERag
0ELECTRICaf;0HOUSE;0UPbn;0DOWNbn;0PROJECTIVE;1ERSPECTIVE;0WAVYfi;0fmua;0ekua;0fmys;0ekys;0xyaj CROP
3r CROP;0TOPaj CROP;4r CROP;0kelqag;0nxpo;0ARC;0SEGMENT;2CTOR;0TELEPHONE RECORDER;0POSITIONqr
0VIEWDATAbs;0PLACEfb INTERESTag;0qelqag;0WATCH;0HOURGLASS;0TOParha;4jha;0xyarha;3jha;0TOPcglb;0xycglb
0FROWN;0SMILE;0UPbnldbeax BARS;0OPTION KEY;0ERASEesngaj;0Xrq Aujtz;0KEYBOARD;0fmbufqba;0ekbufqba
0ERASEesngar;0BENZENEec;0CYLINDRICITY;0ALL AROUND-PROFILE;0SYMMETRY;0TOTAL RUNOUT;0DIMENSION ORIGIN
0CONICAL TAPER;0SLOPE;0COUNTERBORE;7SINK;0APL FUNCTIONALau I-BEAM;hSQUISHyg;gygci;i DIVIDE;ifh;i JOT
ibq;gbq STILE;jJOT;gpvea;gtwea;gygpv;itw;ikbcz;ifocz;gbw VANE;hb VANE;gygbwaf;jbaf;gbqtw;gcekkgk
gnk STILE;gygce CARET;ink;gcekk JOT;gfa VANE;gygfaaf;ghdkknq;g DEL STILE;gyghd CARET;i DEL;ghdkk JOT
gda VANE;gygdaaf;g QUOTEgk;gnkgk;gfhgk;g JOTgk;gbqgk;ghd SHOE JOT;g QUOTEyg;gbqgx;gygiv;ghdkkbj
g DELbj;ggxbj;g JOTbj;gbqbj;gce SHOE STILE;gar SHOE STILE;gcsbj;gfoczbj;getea;g DELcs;hZILDE;hSTILEcs
gmkgk;gyglqci;ifz;gce CARETcs;ghd CARETcs;glg;gsn;ghi;giagk;ghfgk;glggk;ghigk;gia;0NOTxaav
0ekfqabda ZIGZAGaf;0SHOULDEREDeztz;0BELLau;0infiabawbo;0INSERTIONau;0CONTINUOUS UNDERLINEau
0DISCONTINUOUS UNDERLINEau;0EMPHASISau;0COMPOSITIONau;0efbsabegatfi;0ENTERau;0ALTERNATIVE KEYau
0HELMau;0huaxeaab NOTCH;3nce;0BROKENbqab NORTHWESTaf;0UNDOau;0MONOSTABLEau;0HYSTERESISau
0OPEN-CIRCUIT-OUTPUT H-TYPEau;kL-TYPEau;0PASSIVE-PULL-DOWN-OUTPUTau;dUP-OUTPUTau;0DIRECT CURRENTauaebe
0SOFTWARE-FUNCTIONau;0APL FUNCTIONALauyg;0DECIMALem KEYau;0PREVIOUS PAGE;0NEXT PAGE;0PRINT SCREENau
0CLEAR SCREENau;0fmclenbg;4qo;4dkbg;0ekclenbg;4qo;4dkbg;0fmbsbaenha;6qo;6dkha;0ekbsbaenha;6qo;6dkha
0fmlobaenbg;6aw PIECE;6dkbg;0CURLYbaqo;0eklobaenbg;6aw PIECE;6dkbg;0INTEGRALqo;0jyfiqo
0pfarmedkajlobahx;3jmedkarlobahx;0SUMMATIONqg;9jc;0TOPbsba;0xybsba;6dcqgbsba;0RADICALaujc;0fmattzfi
0ekattzfi;0jy SCANfi-1;a3;a7;a9;0DENTISTRYaucxataoqgaj;hjcaj;gbbq;dceaoaxabbq;dhdaoaxabbq;databan
dceaoaxaban;dhdaoaxaban;dataosa;dceaoaxabsa;dhdaoaxabsa;dceaoax;dhdaoax;dataoqgar;hjcar;0nx FOOT
0RETURNau;0EJECTau;0infiqo;0METRICALfd;8epdcfe;8fedcep;8epdcbe SHORTS;8be SHORTSdcep;h JOINED
8 TRISEME;aETRASEME;9PENTASEME;0EARTH GROUND;0FUSE;0TOPcl;0xycl;0TOPloba;0xyloba;0TOPjrkyba;0xyjrkyba
0ef TRAPEZIUM;0BENZENEecabbq;0STRAIGHTNESS;0FLATNESS;0AC CURRENT;0ELECTRICALjf;0DECIMAL EXPONENTau
0drajbuakan;3rbuakan;2hdbuakan;2cebuakan;2ajbuakanabatea;3rbuakanabatea;3jbuanabakatea;0ALARM CLOCK
0STOPWATCH;0TIMER CLOCK;0HOURGLASSab FLOWING SAND;0drcuarbuan;5jbuan;4hdbuan;4cebuan;0gnatea;0drbsnfff
3qnf RECORD;0POWERau;5pg-OFFau;7au;5 SLEEPau;0OBSERVER EYEau;0SYMBOLnf NULL;9STARTfb HEADING;hTEXT
8rpfb TEXT;eRANSMISSION;8 ENQUIRY;9ACKNOWLEDGE;9BELL;aACKSPACE;8axkj;8fi FEED;8atkj;9e FEED
8 CARRIAGE RETURN;9SHIFT OUT;erq;9DATA LINK ESCAPE;aEVICEyobh;ie;haq;hbf;9NEGATIVE ACKNOWLEDGE
9SYNCHRONOUS IDLE;8rpfb TRANSMISSIONeq;8 CANCEL;8rpfbcu;8 SUBSTITUTE;9ESCAPE;9FILEem;9GROUPem
9RECORDem;9UNITem;8mm;8 DELETE;0BLANKau;0OPENtz;0SYMBOLnf NEWLINE;9DELETEaebe;9SUBSTITUTEaebe
!2440 0OCRbg;3 CHAIR;4FORK;3cp FORK;3 BELT BUCKLE;5OW TIE;5RANCH BANK IDENTIFICATION;4AMOUNTfbxa;3iq
3 CUSTOMER ACCOUNTdu;3aktw;!2460 0hucobh;5e;4aq;4bf;5m;4dz;4br;5l;4cn;2dugm;4pj;4os;4tt;5m;4pk;4ul;4qu
5n;4tn;4ex;0PARENTHESIZEDcobh;ge;faq;fbf;gm;fdz;fbr;gl;fcn;ddugm;fpj;fos;ftt;gm;fpk;ful;fqu;gn;ftn;fex
0DIGITbhhoff;6ehoff;5aqhoff;5bfhoff;6mhoff;5dzhoff;5brhoff;6lhoff;5cnhoff;0NUMBERgmhoff;6pjhoff
6oshoff;6tthoff;7mhoff;6pkhoff;6ulhoff;6quhoff;7nhoff;6tnhoff;6exhoff;0PARENTHESIZEDjuadaa A;kB;kC;kD
kE;kF;kG;kH;kI;kJ;kK;kL;kM;kN;kO;kP;kQ;kR;kS;kT;kU;kV;kW;kX;kY;kZ;0hujuacaa A;9B;9C;9D;9E;9F;9G;9H;9I
9J;9K;9L;9M;9N;9O;9P;9Q;9R;9S;9T;9U;9V;9W;9X;9Y;9Z;5daa A;9B;9C;9D;9E;9F;9G;9H;9I;9J;9K;9L;9M;9N;9O;9P
9Q;9R;9S;9T;9U;9V;9W;9X;9Y;9Z;2coej;0qbhedupj;6os;6tt;7m;6pk;6ul;6qu;7n;6tn;6ex;0gnhecobh;7e;6aq;6bf
7m;6dz;6br;7l;6cn;4dugm;0qbhecoej;0BOX DRAWINGScxax;cbvax;ccxat;cbvat;ccxgeiqax;cbvgeiqax;ccxgeiqat
cbvgeiqat;ccxoxiqax;cbvoxiqax;ccxoxiqat;cbvoxiqat;ccxceaoaj;decxaoajbv;ebvaoajcx;cbvceaoaj;ccxceaoar
decxaoarbv;ebvaoarcx;cbvceaoar;ccxhdaoaj;chdcxaoajbv;ebvaoajcx;cbvhdaoaj;ccxhdaoar;chdcxaoarbv
ebvaoarcx;cbvhdaoar;ccxataoaj;catcxaoajbv;chdbvaoajcecx;ccebvaoajhdcx;catbvaoajcx;ccecxaoajhdbv
chdcxaoajcebv;cbvataoaj;ccxataoar;catcxaoarbv;chdbvaoarcecx;ccebvaoarhdcx;catbvaoarcx;ccecxaoarhdbv
chdcxaoarcebv;cbvataoar;ccxceaoax;carbvaoajcecx;djbvaoarcecx;ccecxaoaxbv;ebvaoaxcx;cajcxaoarcebv
drcxaoajcebv;cbvceaoax;ccxhdaoax;carbvaoajhdcx;djbvaoarhdcx;chdcxaoaxbv;ebvaoaxcx;cajcxaoarhdbv
drcxaoajhdbv;cbvhdaoax;ccxataoax;carbvaoajatcx;djbvaoaratcx;dtcxaoaxbv;chdbvaoceaxcx;ccebvaohdaxcx
catbvaoaxcx;drhdbvaoajcecx;djhdbvaoarcecx;drcebvaoajhdcx;djcebvaoarhdcx;ccecxaohdaxbv;chdcxaoceaxbv
cajcxaoaratbv;drcxaoajatbv;cbvataoax;ccxakiqax;cbvakiqax;ccxakiqat;cbvakiqat;cakax;ft;ccecvaoajak
eakaoajcv;cakceaoaj;ccecvaoarak;eakaoarcv;cakceaoar;chdcvaoajak;eakaoajcv;cakhdaoaj;chdcvaoarak
eakaoarcv;cakhdaoar;dtcvaoajak;eakaoajcv;dkataoaj;dtcvaoarak;eakaoarcv;dkataoar;ccecvaoaxak;eakaoaxcv
cakceaoax;chdcvaoaxak;eakaoaxcv;cakhdaoax;dtcvaoaxak;eakaoaxcv;dkataoax;ccx ARCceaoaj;nr;ihdaoar;nj
edtenajesdkar;jresdkaj;ggl;ear;ehd;eaj;ece;cbvar;ehd;eaj;ece;ccxaraobvaj;ehdaobvce;cbvaraocxaj
ehdaocxce;0pfcgeq;0svbhiheq;4fveq;2aqmaeq;2cgeq;2bmmaeq;2aqkmeq;2brmaeq;0FULLeq;0fmbrmaeq;2aqkmeq
2bmmaeq;2cgeq;2aqmaeq;2bhfveq;4iheq;0ekcgeq;0vmqv;0nwqv;0DARKqv;0pfbhiheq;0ekbhiheq;0QUADRANTdkar;bj
8enar;caodkaraodkaj;hj;eenajaodkar;nj;bj;caodkar;iaodkaj;0drbs;0efbs;4abuk CORNERS;4robpadbs;0nxabaxyc
5tyc;4 ORTHOGONAL CROSSHATCHyc;4enaresdkajyc;7jesdkaryc;4dt CROSSHATCHyc;0dradbs;0efadbs;0druj;0efuj
0dratuj;0efatuj;0dr PARALLELOGRAM;0ef PARALLELOGRAM;0drhdbuan;0efhdbuan;0drhdbuadan;0efhdbuadan
0drajbuan;0efajbuan;0drajbuadan;0efajbuadan;0drajbu POINTER;0efajbu POINTER;0drcebuan;0efcebuan
0drcebuadan;0efcebuadan;0drarbuan;0efarbuan;0drarbuadan;0efarbuadan;0drarbu POINTER;0efarbu POINTER
0drfh;0effh;4robpadfh;0FISHEYE;0LOZENGE;0efbq;0DOTTEDbq;0CIRCLEabatyc;0BULLSEYE;0drbq;0CIRCLEabarcgbp
9jcgbp;8dkcgbp;8encgbp;aajlcbp;8 ALL BUTenarlcbp;0fmcgbpbq;0ekcgbpbq;0INVERSErd;7btbq
0pfcg INVERSEbtbq;0svcg INVERSEbtbq;0pfarlc CIRCULAR ARC;3jlc CIRCULAR ARC;0svajlc CIRCULAR ARC
3rlc CIRCULAR ARC;0pfcgbq;0svcgbq;0drdkajan;5ran;2enaran;5jan;0efrd;0nxabarcgbp;5jcgbp;4enardtcgbp
4dkajdtcgbp;0efbsabat BISECTINGfi;2hdbuanabbo;0UPbuanabarcgbp;9jcgbp;0LARGEbq;0efbsabenarlc;6dkarlc
9jlc;6enajlc;3qabenarlc;6dkarlc;9jlc;6enajlc;0pfaran;3jan;0svaran;0efcubs;0drcubs;0efcuadbs;0drcuadbs
0svajan;0dr SUNab RAYS;0CLOUD;0UMBRELLA;0SNOWMAN;0COMET;0drgx;0efgx;0LIGHTNING;0THUNDERSTORM;0SUN
0ASCENDING NODE;0DESCENDING NODE;0CONJUNCTION;0OPPOSITION;0drxr;0efxr;0BALLOTtz;8abxa;a X;0SALTIRE
0UMBRELLAab RAIN DROPS;0HOT BEVERAGE;0ef SHOGI PIECE;0dr SHOGI PIECE;0SHAMROCK;0kedf FLORALkgrd
0drarbxcf;3jbxcf;0efarbxcf;2hdbxcf;2ajbxcf;2cebxcf;0SKULLao CROSSBONES;0CAUTIONag;0RADIOACTIVEag
0BIOHAZARDag;0CADUCEUS;0ANKH;0ORTHODOXgl;0CHIsn;1ROSSfb LORRAINE;8JERUSALEM;0STARao CRESCENT;0FARSIau
0ADI SHAKTI;0HAMMERao SICKLE;0PEACEau;0YIN YANG;0TRIGRAMnf HEAVEN;aLAKE;aFIRE;aTHUNDER;aWIND;bATER
aMOUNTAIN;9xd;0WHEELfb DHARMA;0ef FROWNINGdq;2rwdq;0drrwdq;0ef SUNab RAYS;0FIRSTfvof;0LASTfvof
0MERCURY;0FEMALEag;0EARTH;0MALEag;0JUPITER;0SATURN;0URANUS;0NEPTUNE;0PLUTO;0ARIES;0TAURUS;0GEMINI
0CANCER;0LEO;0VIRGO;0LIBRA;0SCORPIUS;1AGITTARIUS;0CAPRICORN;0AQUARIUS;0PISCES;0efiisq;4pr;4 ROOK;4rc
4hk;4 PAWN;0driisq;4pr;4 ROOK;4rc;4hk;4 PAWN;2 SPADE SUIT;0efkg SUIT;2fh SUIT;0dr CLUB SUIT
0ef SPADE SUIT;0drkg SUIT;2fh SUIT;0ef CLUB SUIT;0HOT SPRINGS;0QUARTERrt;0EIGHTHrt;0BEAMEDih NOTES
6um NOTES;0MUSIC FLATag;6NATURALag;6SHARPag;0WEST SYRIACgl;0EAST SYRIACgl;0UNIVERSAL RECYCLINGau
0RECYCLINGaunf TYPE-1wi;j2wi;j3wi;j4wi;j5wi;j6wi;j7wi;eGENERIC MATERIALS;0dr UNIVERSAL RECYCLINGau
0RECYCLED PAPERau;0PARTIALLY-RECYCLED PAPERau;1ERMANENT PAPERag;0WHEELCHAIRau;0DIEdq-1;62;63;64;65;66
0efbqabboaj;7ecy;0drbqabbtboaj;7ebtcy;0MONOGRAMnf YANG;cIN;0DIGRAMnffo YANG;8 LESSER YIN;hANG;8fo YIN
0ef FLAG;0dr FLAG;0HAMMERao PICK;0ANCHOR;0CROSSED SWORDS;0STAFFfb AESCULAPIUS;1CALES;0ALEMBIC;0FLOWER
0GEAR;0STAFFfb HERMES;0ATOMau;0FLEUR-DE-LIS;0OUTLINEDbtgx;0wx LINES CONVERGINGaj;kr;0WARNINGag
0HIGH VOLTAGEag;0DOUBLED FEMALEag;8MALEag;0INTERLOCKED FEMALEao MALEag;0MALEao FEMALEag;5basag
9o MALEao FEMALEag;0in MALEabasag;0jy MALEabasag;0nwbtbq;3pbq;2adbtbq;0MARRIAGEau;0DIVORCEau
0UNMARRIED PARTNERSHIPau;0COFFIN;0FUNERAL URN;0NEUTER;0CERES;0PALLAS;0JUNO;0VESTA;0CHIRON;0drof LILITH
0SEXTILE;2MISEXTILE;0QUINCUNX;0SESQUIQUADRATE;1OCCER BALL;0BASEBALL;0ya KEY;0ef DRAUGHTS MAN;bsq
0dr DRAUGHTS MAN;bsq;0SNOWMAN WITHOUT SNOW;1UN BEHIND CLOUD;0RAIN;0dr SNOWMAN;0THUNDER CLOUDao RAIN
0qebt SHOGI PIECE;3p SHOGI PIECE;0effhrqbs;0CROSSING LANES;0DISABLED CAR;0OPHIUCHUS;0PICK;0CAR SLIDING
0HELMETabbtgl;0hufl LANES;0CHAINS;0NO ENTRY;0ALTERNATEbh-WAYar WAY TRAFFIC;0drbe-WAYar WAY TRAFFIC
0efbe-WAYar WAY TRAFFIC;0drar LANE MERGE;0efar LANE MERGE;0DRIVE SLOWag;0gybtcebuan;0fmhr ENTRY;0yarv
0FALLINGdtrqbtbqrqbpbs;0dr TRUCK;0RESTRICTEDar ENTRY-1;j2;0ASTRONOMICALaunf URANUS;0gybqabasaobecyah
0PENTAGRAM;0ek-HANDED INTERLACED PENTAGRAM;0fm-HANDED INTERLACED PENTAGRAM;0ww PENTAGRAM
0drglpg SHIELD;0SHINTO SHRINE;0CHURCH;1ASTLE;0HISTORIC SITE;0GEAR WITHOUT HUB;4ab HANDLES
0MAPaunf LIGHTHOUSE;1OUNTAIN;0UMBRELLApg GROUND;0FOUNTAIN;1LAGrq HOLE;1ERRY;0SAILBOAT;0nxbf CORNERS
0SKIER;0ICE SKATE;0PERSONab BALL;0TENT;0zk BANKau;0HEADSTONE GRAVEYARDau;0FUEL PUMP;0CUPpgbpbs
0ef FLAGabaxawbp STRIPE;0dr SAFETYzy;0pf BLADEzy;0drzy;0sv BLADEzy;0efzy;2bvxaav;0TELEPHONE LOCATIONag
1APE DRIVE;0AIRPLANE;0ENVELOPE;0RAISED FIST;6lt;0VICTORYlt;0WRITINGlt;0svaj PENCIL;0PENCIL
0pfaj PENCIL;0ef NIB;0dr NIB;0CHECKav;0gyxaav;0qa X;0gysj X;0BALLOT X;0gy BALLOT X;0OUTLINEDqpgl
0gyqpgl;0OPENeggl;0gyezeggl;0ndgl;0SHADOWEDbtjugl;0OUTLINEDjugl;0MALTESEgl;0STARfb DAVID;0FOURwotddw
4 BALLOONtddw;0gybf BALLOONtddw;0FOUR CLUBtddw;0drbffkgx;0efbffkgx;0SPARKLES;1TRESS OUTLINEDbtgx
0hubtgx;0OPENegbpgx;0dregbtgx;0OUTLINEDbpgx;0gy OUTLINEDbpgx;0PINWHEELgx;0SHADOWEDbtgx;0gydw;0OPENegdw
0EIGHTlydw;5fkbpgx;7tqgx;0SIXfkbpgx;0EIGHTfk RECTILINEARbpgx;0gyblfk RECTILINEARbpgx;0TWELVEfkbpgx
0SIXTEENfkdw;0TEARDROPtddw;0OPENegwotddw;0gywotddw;0SIX PETALLEDbpaobt FLORETTE;0dr FLORETTE
0ef FLORETTE;0EIGHT PETALLED OUTLINEDbp FLORETTE;0huezegblfkgx;0gywotdtqdw;0SNOWFLAKE
0TIGHT TRIFOLIATE SNOWFLAKE;0gy CHEVRON SNOWFLAKE;0SPARKLE;0gy SPARKLE;0BALLOONtddw
0EIGHTwotd PROPELLERdw;0gyblwotd PROPELLERdw;0CROSSav;0SHADOWEDbtbq;0qbhgglav;0svaj DROP-SHADOWEDbtbs
0pfaj DROP-SHADOWEDbtbs;0svajpdbtbs;0pfajpdbtbs;0drfzavcw;0effzavcw;2ewavcw;0drfhsibt X;0gyewavau
0vmatea;0nwatea;0gyatea;2cvdietfcavcw;4etfcavcw;2akdietfcavcw;4etfcavcw;2fscvetfcavcw;4aketfcavcw
0CURVED STEM PARAGRAPHagcw;0gyewavcw;2kgewavcw;2bpkg;0ROTATEDbvbpkgrd;0FLORALkg;0ROTATED FLORALkgrd
0nwarclcw;3jclcw;2 FLATTENEDarclcw;djclcw;2arbufqbacw;3jbufqbacw;0gyarbufqfcavcw;3jbufqfcavcw
3rbufqbacw;3jbufqbacw;0vmarjrkybacw;3jjrkybacw;0nwarlobacw;3jlobacw;0DINGBAT NEGATIVEhecobh;le;kaq;kbf
lm;kdz;kbr;ll;kcn;idugm;7hepulrcobh;ge;faq;fbf;gm;fdz;fbr;gl;fcn;ddugm;7 NEGATIVEhepulrcobh;pe;oaq;obf
pm;odz;obr;pl;ocn;mdugm;0gy WIDEbzbbaf;2chag;2siag;2 DIVISIONag;2jwfxaf;2bbaf;2jkfxaf;0DRAFTINGuibbaf
0gyxm-TIPPEDbbaf;0TRIANGLEbzbbaf;0gyanbzbbaf;0DASHEDanbzbbaf;0gyvaanbzbbaf;0drbbaf;0wx-Dqg-LIGHTEDbbbn
4jc-LIGHTEDbbbn;0drbbbn;0gybpuzdaaobbaf;6faaobbaf;0SQUATbpbbaf;0gy CONCAVE-POINTEDbpbbaf
0ek-SHADEDbtbbaf;0fm-SHADEDbtbbaf;0BACK-TILTEDpdbtbbaf;0FRONT-TILTEDpdbtbbaf;0gydkaj-SHADOWEDbtbbaf
2enaj-SHADOWEDbtbbaf;0NOTCHEDdkaj-SHADOWEDbtbbaf;0CURLYsr;0NOTCHEDenaj-SHADOWEDbtbbaf;0hubvbtbbaf
0ef-FEATHEREDbbaf;0dr-FEATHEREDjwfxaf;cbbaf;cjkfxaf;0gybp-FEATHEREDjwfxaf;ebbaf;ejkfxaf
0TEARDROP-BARBEDbbaf;0gywo-SHANKEDbbaf;0WEDGE-TAILEDbbaf;0gy WEDGE-TAILEDbbaf;0OPEN-OUTLINEDbbaf
0gnlosr;0wx DIMENSIONALfq;0efanroadbtan;0PERPENDICULAR;0OPENrj;4qw;0fm Sot BAG DELIMITER
0ek Sot BAG DELIMITER;0ORabbolf;0xzif PRECEDINGrj;0md PRECEDINGif;0ineaabaxas;0MATHEMATICALtbdt
0LONG DIVISION;0MATHEMATICAL FALLINGdt;0yaugao;4me;0effhabvxbo;0ANDabbo;0ELEMENTfb OPENINGfa
0svajhaabbo;0pfarhaabbo;0fm OUTER JOIN;0ek OUTER JOIN;0FULL OUTER JOIN;0LARGEhdkk;5cekk;0fmaoajakqy
6kk;2 MULTIMAP;0LONGajkk;5rkk;0UPkkabbqah;0LOZENGE DIVIDED BYax RULE;0ef CONCAVE-SIDEDfh;iabbw TICK
lb TICK;2bsabbw TICK;7b TICK;0MATHEMATICALarbtbsba;djbtbsba;drfqba;djfqba;drakfqba;djakfqba;drbtjrkyba
djbtjrkyba;dr FLATTENEDcl;dj FLATTENEDcl;0eioxaf;0cqoxaf;0ls GAPPEDbqaf;0tu GAPPEDbqaf;0ekafabhech
0LONGbwaf;5baf;4arajaf;4bwakaf;5bakaf;4arajakaf;4bwafleea;5bafleea;5wakafleea;5bakafleea;6 SQUIGGLEaf
0BRAILLE PATTERN BLANK;fcy-1;i2;i12;i3;i13;i23;i123;i4;i14;i24;i124;i34;i134;i234;i1234;i5;i15;i25
i125;i35;i135;i235;i1235;i45;i145;i245;i1245;i345;i1345;i2345;i12345;i6;i16;i26;i126;i36;i136;i236
i1236;i46;i146;i246;i1246;i346;i1346;i2346;i12346;i56;i156;i256;i1256;i356;i1356;i2356;i12356;i456
i1456;i2456;i12456;i3456;i13456;i23456;i123456;i7;i17;i27;i127;i37;i137;i237;i1237;i47;i147;i247;i1247
i347;i1347;i2347;i12347;i57;i157;i257;i1257;i357;i1357;i2357;i12357;i457;i1457;i2457;i12457;i3457
i13457;i23457;i123457;i67;i167;i267;i1267;i367;i1367;i2367;i12367;i467;i1467;i2467;i12467;i3467;i13467
i23467;i123467;i567;i1567;i2567;i12567;i3567;i13567;i23567;i123567;i4567;i14567;i24567;i124567;i34567
i134567;i234567;i1234567;i8;i18;i28;i128;i38;i138;i238;i1238;i48;i148;i248;i1248;i348;i1348;i2348
i12348;i58;i158;i258;i1258;i358;i1358;i2358;i12358;i458;i1458;i2458;i12458;i3458;i13458;i23458;i123458
i68;i168;i268;i1268;i368;i1368;i2368;i12368;i468;i1468;i2468;i12468;i3468;i13468;i23468;i123468;i568
i1568;i2568;i12568;i3568;i13568;i23568;i123568;i4568;i14568;i24568;i124568;i34568;i134568;i234568
i1234568;i78;i178;i278;i1278;i378;i1378;i2378;i12378;i478;i1478;i2478;i12478;i3478;i13478;i23478
i123478;i578;i1578;i2578;i12578;i3578;i13578;i23578;i123578;i4578;i14578;i24578;i124578;i34578;i134578
i234578;i1234578;i678;i1678;i2678;i12678;i3678;i13678;i23678;i123678;i4678;i14678;i24678;i124678
i34678;i134678;i234678;i1234678;i5678;i15678;i25678;i125678;i35678;i135678;i235678;i1235678;i45678
i145678;i245678;i1245678;i345678;i1345678;i2345678;i12345678;0bcbebzafabatas;bkatas;1iakafabatas
1cakafabatas;0fmajakafabatas;0bcbebzafleea;1iakafleea;1cakafleea;0cqafabaxas;0eiafabaxas;2geaf;0cqgeaf
0biakiqaf;1cakiqaf;1igeiqaf;1cgeiqaf;2bebzgeiqaf;2afabhb STEM;0eiafesea;0cqafesea;0bcafabgrabatas
bkatas;2bebzafabgr;cabatas;fkatas;1iafzh;1cafzh;1iakafzh;1cakafzh;1iafesbpfh;1cafesbpfh;1iafleeaesbpfh
1cafleeaesbpfh;0qkcjaojwfxaf;2fxaojwcjaf;2cjafabbg;2fxafabbg;0usfxafabbg;2cjafabbg;0qkcjafaojkfxaf
2fxafaojwfxaf;0usfxafaojwcjaf;2cjafaojkcjaf;0RISINGdtfl FALLINGdt;0FALLINGdtfltbdt;0usfxaffljkfxaf
0qkfxaffljwfxaf;0FALLINGdtfljkfxaf;0RISINGdtfljwfxaf;0qkfxaffljkcjaf;2cjaffljkfxaf
0WAVEafbx DIRECTLYaj;0ARROWbxbb THEN CURVINGfa;mda;7da THEN CURVINGbw;nb;0ek-SIDE ARC CLOCKWISEaf
0fm-SIDE ARCjgaf;0TOP ARCjgaf;0xy ARCjgaf;0TOP ARC CLOCKWISEafabsi;7jgafabch
0svaj SEMICIRCULAR CLOCKWISEaf;3r SEMICIRCULARjgaf;0lshrbqaf;0tuhrbqaf;0bcafahfebwaf;1iafahfebbaf
0SHORTbbafahbwaf;0bcafabchal;1iafabchal;1cafms X;0fmajafmsadbq;0eibebzafleadbq;0fmebhdajebcedg
4ceajebhddg;0UPebajceebardg;5rceebajdg;0fmebhdajebhddg;0UPebajceebajdg;0fmebceajebcedg;0UPebarceebardg
0bidgabebhdesea;1cdgabebhdesea;0eidgabebajesea;0cqdgabebajesea;0bidgabebceesea;1cdgabebceesea
0eidgabebaresea;0cqdgabebaresea;0bidgabebhdleea;1cdgabebhdleea;0eidgabebajleea;0cqdgabebajleea
0bidgabebceleea;1cdgabebceleea;0eidgabebarleea;0cqdgabebarleea;0bidgabebhdahbwdgabebce
0eidgabebaruyfadgabebaj;0bcdgabebhdahbbdgabebce;0cqdgabebaruydadgabebaj;0bidgabebhdahbbdgabebhd
8ceahbbdgabebce;1cdgabebhdahbwdgabebhd;8ceahbwdgabebce;1idgabebhdahepiq;8cealepiq;1cdgabebhdahepiq
8cealepiq;0eidgabebaruydadgabebaj;0cqdgabebaruyfadgabebaj;0ekakafabukqj;0vwagahbbaf;0TILDEdxahbbaf
0biafahcsdx;1cafahcsdx;6phcies;0tgczahbwaf;0biafmskbcz;0hzczahbbaf;0soahbbaf;0biafmsrj;0mdahbwaf
0fm FISHgr;0ek FISHgr;0UP FISHgr;0DOWN FISHgr;0zmatea DELIMITER;0Zto SPOT;4TYPEiv;0fmbtloba;0ekbtloba
0fmbtcl;0ekbtcl;0Ztoar IMAGEba;4j IMAGEba;4r BINDINGba;4j BINDINGba;0fmbsbaabgk;0ekbsbaabgk
0fmbsbaab TICKrqqgha;0ekbsbaab TICKrqjcha;0fmbsbaab TICKrqjcha;0ekbsbaab TICKrqqgha;0fmfqbaabbo
0ekfqbaabbo;0fm ARCkbczba;0ek ARCfoczba;0gnar ARCfoczba;3j ARCkbczba;0fmbpjrkyba;0ekbpjrkyba
0DOTTED FENCE;0in ZIGZAGfi;0MEASUREDfq OPENINGar;0ekfqigabbs;0MEASUREDajfqabbo;0ANGLEab Slf;1CUTEfq
0SPHERICALfq OPENINGar;jhd;0qefq;0kefq;0ANGLEabgk;0kefqabgk;0OBLIQUEfq OPENINGhd;hce
0MEASUREDfqabez ARM ENDINGrqafbxhdaoaj;zar;vceaoaj;zar;vajaohd;wraohd;wjaoce;wraoce;0ke EMPTY SET
0EMPTY SETabnq;badbqah;cjafah;crafah;0CIRCLEabaxea;0huatea;2zx;2nsif;2 PERPENDICULAR
0CIRCLE DIVIDED BYaxeaaoqgcg DIVIDED BYatea;6ab SUPERIMPOSED X;0hujg-ROTATED DIVISIONag;0UPafmsbq
0hubtrd;2rd;2kbcz;2focz;0CIRCLEabadbqesngaj;8beax STROKESesngaj;0yatbdtpv;2 FALLINGdtpv;2dw;2adbq;2bs
0TWO JOINED SQUARES;1RIANGLEabboah;agk;0Srqan;0TRIANGLEab SERIFS ATjc;0ekanaharan;0fmanuyatea
0ineauyajan;0BOWTIEabarcgbp;9jcgbp;0dr BOWTIE;0TIMESabarcgbp;8jcgbp;0ef HOURGLASS;0dr HOURGLASS
0fm WIGGLY FENCE;0ek WIGGLY FENCE;0fmak WIGGLY FENCE;0ekak WIGGLY FENCE;0INCOMPLETE INFINITY
0TIEdc INFINITY;0INFINITY NEGATEDabatea;0gn-ENDED MULTIMAP;0nxab CONTOURED OUTLINE;0INCREASES AS
0SHUFFLEnr;0vwagaojmzx;aabcsah;0IDENTICALesaojmzx;0GLEICH STARK;0THERMODYNAMIC;0DOWNbuanabarcgbp
bjcgbp;0drfhabceaf;2po;0efbqabceaf;0drbqabceaf;0ERROR-BARREDbtbs;dpbs;dtfh;dpfh;dtbq;dpbq
0RULE-DELAYED;0xzifdx;0SOLIDUSabnq;0xzifabaxas;0BIGif;3nsif;0gnch;0zmch;0fmbuuzfqba;0ekbuuzfqba;0TINY
0MINY;0N-ARYhebodx;7chdx;7bkdx;5vtdxabbo;bch;5bsjfdx;7vtdx;0TWOugaodx;5medx;0N-ARYbkdx;0MODULObe SUM
0SUMMATIONablb;0QUADRUPLElbdx;0FINITE PARTlb;0INTEGRALabakas;8 AVERAGEabpv;0CIRCULATION FUNCTION
0ls INTEGRATION;0LINE INTEGRATIONab RECTANGULAR PATH AROUND POLE;jSEMICIRCULAR PATH AROUND POLE
glq INCLUDINGng POLE;0INTEGRAL AROUND Auidx;0QUATERNIONlbdx;0INTEGRALabbwafabbg;bkag;ajf;avt;anq;agk
0JOIN;0LARGEarandx;0Zto SCHEMA COMPOSITION;bPIPING;cROJECTION;0PLUSagabadbqah;8bdfrah;8csah;8boal
8csal;8xqbe;8bpan;0MINUSagabetah;9boal;9 FALLINGcy;9tbcy;0PLUSagrqarcgbq;9jcgbq;0VECTORmeglnr
0qaagabboah;6gk;0SEMIDIRECTnrabjchr;1MASHnr;0qaagrqarcgbq;7jcgbq;0husjagabbdfr;0qaagrqakbq
0hu DIVISIONag;0PLUSagrqan;0MINUSagrqan;0qaagrqan;0INTERIORnr;0RIGHTHAND INTERIORnr
0Zto RELATIONAL COMPOSITION;0AMALGAMATIONme COPRODUCT;0tfabbo;0UNIONabsiag;7nq;0tfabnq;4ugao
0UNIONabugme;6hjf;0tfahvt;0UNIONaheaahjf;0tfaheaahvt;0UNIONuyao JOINEDabvt;0tfuyao JOINEDabjf
0CLOSEDvtab SERIFS;6jfab SERIFS;0gnbsjf;4vt;0CLOSEDvtab SERIFSao SMASHnr;0LOGICALaoabboah;7meabboah
0gnugao;4me;0TWO INTERSECTINGugao;ime;0SLOPINGelme;9ao;0LOGICALme OVERLAPPINGugao;7aoabaw STEM
7meabaw STEM;7aoabaxiq;7meabaxiq;7aoabaknq;bgk;bakgk;0zl VEEabgk;0LOGICALmeabaknq;dgk
0Zto DOMAIN ANTIRESTRICTION;4RANGE ANTIRESTRICTION;0vwagabboal;0IDENTICALabboah;0zmaxeaabakatas
8geatas;0TILDEdxabboah;9tbcy;0SIMILARsi SIMILAR;0CONGRUENTabboah;0vwabdw;0ALMOSTciesabbdfr
1PPROXIMATELYcimecies;0vwagahchag;0PLUSagahjeag;0vwagahcsdx;0gnivci;0TWO CONSECUTIVEje SIGNS
0wx CONSECUTIVEje SIGNS;0vwagabbecyahaobecyal;0EQUIVALENTabbfcyah;0tgczabbqlf;0hzczabbqlf
0tgczabfzavah;0hzczabfzavah;0tgczmejmcies;0hzczmejmcies;0tgczmejmciesabbolf;0hzczmejmciesabbolf
0tgczmejmciesabboah;0hzczmejmciesabboah;0tgczmejmciesabboahaj;0hzczmejmciesabboahar
0tgczme APPROXIMATE;0hzczme APPROXIMATE;0tgczaocvsulqcies;0hzczaocvsulqcies;0tgczaolq APPROXIMATE
0hzczaolq APPROXIMATE;0tgczahaksuciahfocz;0hzczahaksuciahkbcz;0tgczah SIMILARmeci;0hzczah SIMILARmeci
0tgczah SIMILARahfocz;0hzczah SIMILARahkbcz;0tgczahfoczahaksuci;0hzczahkbczahaksuci
0tgczahjmciahfoczahjmci;0hzczahjmciahkbczahjmci;0SLANTEDciesmekbcz;dfocz;dkbczabbolf;dfoczabbolf
0gnsuciesmekbcz;afocz;4jmciesmekbcz;cfocz;0SIMILARmekbcz;9focz;7ahkbczahjeag;9foczahjeag
0gn NESTEDkbcz;9focz;9kbczabgk;0hzcz OVERLAPPINGkbcz;4uykbcz;0tgczhr BYog;0hzczhr BYog
0tgczhr BYogahjmci;0hzczhr BYogahjmci;0SMALLER THAN;0LARGER THAN;0SMALLER THANmecies
0LARGER THANmecies;0vwagab BUMPYah;0qcahcvsujeag;1dahcvsujeag;1cahcvsulqcies;1dahcvsulqcies;1cahjeag
1dahjeag;1cahlqcies;1dahlqcies;1cahphcies;1dahphcies;1cahlqphcies;1dahlqphcies;0gn PRECEDES;3SUCCEEDS
0soabbo;0mdabbo;0soabchagal;0mdabchagal;0soabsjagal;0mdabsjagal;0sofbmeciesabboah;0mdfbmeciesabboah
0sofbahjeag;0mdfbahjeag;0sofbahcsdx;0mdfbahcsdx;0sofbahphcies;0mdfbahphcies;0sofbahlqcies
0mdfbahlqcies;0nxareztzdx;3jeztzdx;0CLOSEDrj;6qw;6rjmecies;6qwmecies;0soahqw;0mdahrj;0soahrj;0mdahqw
2uyrj;4ao JOINED BYiqabrj;0ELEMENTfb OPENINGda;0PITCHFORKab TEEqg;0TRANSVERSALjf;0FORKING;0NONFORKING
0SHORTarkk;5cekk;5hdkk;0PERPENDICULARab S;0ineageajqy;0gnateaarqy;0ineaakarqy;0gnateaakarqy
0LONGiqlear MEMBERfbakat;0SHORTcekkabnq;5hdkkabgk;ahfecekk;0gncekk;2hdkk;2aslqag;0keakaslqag
0DOESlq DIVIDEabck NEGATIONpv;0infiabbqah;9l;0DOWNkkabbqal;0PARALLELabaxas;acsdx
0zmatea BINARY RELATION;6abaxas;2ivdx;2 NESTEDkbcz;9focz;0gnsujmkbczmecies;6foczmecies
0zmif BINARY RELATION;0LARGEgeateadx;0gnifdx;0efatea;0N-ARYbtatea;0qkfxbtaf;2cjbtaf;0usfxbtaf;2cjbtaf
0fmajbtaf;0bibpaf;0eibpaf;0cqbpaf;0qkfxbpaf;2cjbpaf;0usfxbpaf;2cjbpaf;0fmajbpaf;0UPcebpaf
0bcafab TIPda;afa;1iafab TIPda;afa;0nxabqgcgbp;4jccgbp;4enajdtcgbp;4dkardtcgbp;0DIAMONDabarcgbp;ajcgbp
9qgcgbp;9jccgbp;1OTTEDbs;0drelbs;0efelbs;0drstadbs;0efstadbs;0dr PENTAGON;0ef PENTAGON;3HEXAGON
0dr HEXAGON;0jybp HEXAGON;0drelbq;2cufh;0efcufh;0drcupo;0efcupo;0dradfh;4po;0efadpo;0drax ELLIPSE
0efax ELLIPSE;0drat ELLIPSE;0efat ELLIPSE;0fmafabadbq;0wxbwmy;0fmafabhech;0LONGbw SQUIGGLEaf
0bibebzafabatas;bkatas;8leea;6geiqaf;2afabhb STEM;6grabatas;bkatas;2bebzafabgr;cabatas;fkatas;2afms X
0WAVEafbx DIRECTLYar;0vwagahbwaf;0xzcsdxahbwaf;0biafahnsphcies;1cafmsfocz;6qw;1ioxaf;1coxaf
0xzcsdxahbbaf;0bcafahnsphcies;0TILDEdxahbwaf;0biafahphcies;6nscsdx;1cafahnscsdx;0cqanbz ZIGZAGaf
0SHORTjmjkaf;5 BACKSLANTEDjwaf;0efcugx;0dradgx;0efadgx;0drajbu PENTAGON;0efajbu PENTAGON;0gyelbq
2 OVALab OVALlf;2bqabbqlf;4;2herv;0SLANTEDjkafab HOOKEDqj;0BACKSLANTEDjwafab HOOKEDgr
0SLANTEDjkafabaxgr;0BACKSLANTEDjwafabaxgr;1ENTafbxda THENjkfx;0SHORTlzafbxda THENjkfx;0bianbzaf
0eianbzaf;0bcanbzaf;0cqanbzaf;0fmajanbzaf;0UPceanbzaf;0qkcjanbzaf;2fxanbzaf;0usfxanbzaf;2cjanbzaf
0bianbzvaaf;0eianbzvaaf;0bcanbzvaaf;0cqanbzvaaf;0tuanbzezbqaf;0lsanbzezbqaf;0bianbzafesea
0eianbzafesea;0bcanbzafesea;0cqanbzafesea;!2b76 0qkcjanbzafesea;2fxanbzafesea;0usfxanbzafesea
2cjanbzafesea;0bianbzafabakaxas;0eianbzafabakaxas;0bcanbzafabakaxas;0cqanbzafabakaxas;0jy TAB KEY
0in TAB KEY;0bianbzafdcbbanbzaf;0eianbzafbwfbdaanbzaf;0bcanbzafdcbwanbzaf;0cqanbzafbwfbfaanbzaf
0bianbzzwmy;0eianbzzwmy;0bcanbzzwmy;0cqanbzzwmy;0bibphebtaf;0eibphebtaf;0bcbphebtaf;0cqbphebtaf
0lsanbzaj Uotaf;6jc Uotaf;6ar Uotaf;6qg Uotaf;0RETURNar;7j;0NEWLINEar;8j;0FOURhamy CIRCLINGjg;0bcbpaf
!2b97 0SYMBOLnf TYPE A ELECTRONICS;0wx-Dqg-LIGHTEDbwevbn;4aj-LIGHTEDfaevbn;4qg-LIGHTEDbbevbn
4ar-LIGHTEDdaevbn;0drbwevbn;2faevbn;2bbevbn;2daevbn;0cqanbzafabep TIPbw;hb;0eianbzafabep TIPbw;hb
0bianbzafabep TIPfa;1canbzafabep TIPfa;1ianbzafabep TIPda;1canbzafabep TIPda;0druzdaaobwaf;9baf
4faaobwaf;9baf;4bwaofaaf;5baofaaf;5waodaaf;5baodaaf;0RIBBONafcear;bj;8hdar;bj;8arhd;9jhd;9rce;9jce
0eibtafleeaabaxea;0UPbnrq Aujtz;0OVERLAPPINGbt SQUARES;daobp SQUARES;cp SQUARES;0BALLOTtzabcx X;0hu X
2oz X;0drbsvx;2fhvx;0qebp PENTAGON;0jybp OCTAGON;0dr OCTAGON;2cuhdbuanvx;4cebuanvx;4arbuanvx;5jbuanvx
0NEPTUNEaebe;0TOPcgbpbq;0xycgbpbq;0vmbffkbp CUSP;0ROTATEDcxbffkbp CUSP;0efbffk CUSP
0ROTATEDbtbffk CUSP;0nx POSITIONqr;0UNCERTAINTYag;0GROUPav;0PLUTOaebe;7aq;7bf;8m;0TRANSPLUTO
0PROSERPINA;0ASTRAEA;0HYGIEA;0PHOLUS;0NESSUS;0efof SELENA;0drfhpggl;0TRUEcxof ARTA;0CUPIDO;0HADES
0ZEUS;0KRONOS;0APOLLON;1DMETOS;0VULCANUS;0POSEIDON;0fmcgbpgx;0ekcgbpgx;0STARabarcgbp;7jcgbp
0bibebzafaban ARROWHEADS;0eibebzafaban ARROWHEADS;0bcbebzafaban ARROWHEADS;0cqbebzafaban ARROWHEADS
0ERISaebh;7e;0SEDNA;0RUSSIAN ASTROLOGICALau VIGINTILE;nNOVILE;nQUINTILE;nBINOVILE;nSENTAGON;nTREDECILE
0vwagab INFINITYal;0UNITEDau;0SEPARATEDau;0DOUBLEDau;0PASSEDau;0keajfq;0HELLSCHREIBER PAUSEau
0GLAGOLITICacaa AZU;fBUKY;fVEDE;fGLAGOLI;fDOBRO;fYESTU;fZHIVETE;fDZELO;fZEMLJA;fIZHE;eap IZHE;e I
fDJERVI;fKAKO;fLJUDIJE;fMYSLITE;fNASHI;fONU;fPOKOJI;fRITSI;fSLOVO;fTVRIDO;fUKU;fFRITU;fHERU;fOTU;euw
e SHTA;fTSI;fCHRIVI;ehj;e YERU;iI;gATI;fSPIDERYhp;exu;eadqz;iabgr;e YO;fIOTATEDadqz;fBIGqz
fIOTATED BIGqz;fFITA;fIZHITSA;fSHTAPIC;fTROKUTASTI A;fLATINATE MYSLITE;fCAUDATE CHRIVI;bdaa AZU;fBUKY
fVEDE;fGLAGOLI;fDOBRO;fYESTU;fZHIVETE;fDZELO;fZEMLJA;fIZHE;eap IZHE;e I;fDJERVI;fKAKO;fLJUDIJE
fMYSLITE;fNASHI;fONU;fPOKOJI;fRITSI;fSLOVO;fTVRIDO;fUKU;fFRITU;fHERU;fOTU;euw;e SHTA;fTSI;fCHRIVI;ehj
e YERU;iI;gATI;fSPIDERYhp;exu;eadqz;iabgr;e YO;fIOTATEDadqz;fBIGqz;fIOTATED BIGqz;fFITA;fIZHITSA
fSHTAPIC;fTROKUTASTI A;fLATINATE MYSLITE;fCAUDATE CHRIVI;0ndacaa Labakea;3daa Labakea;3caa Labawcs
7Pabas;7Rabgr;3daa Aabas;7Tabdtas;3caa Habdp;3daa Habdp;3caa Kabdp;3daa Kabdp;3caa Zabdp;3daa Zabdp
3caaia;6 Mabbg;6di A;8ia;3daa Vabajbg;3caa Wabbg;3daa Wabbg;7Vabpb;3caacg H;3daacg H;6 TAILLESSuh
7Eab NOTCH;6di Rabgr;6 Oabfseclf;3aadacdi E;2xqadaa J;0kuaaac V;0ndacaa Sab SWASHgr;7Zab SWASHgr
0COPTICacaa ALFA;7daa ALFA;7caa VIDA;7daa VIDA;7caamb;7daamb;7caa DALDA;7daa DALDA;7caa EIE;7daa EIE
7caa SOU;7daa SOU;7caa ZATA;7daa ZATA;7caa HATE;7daa HATE;7caa THETHE;7daa THETHE;7caa IAUDA
7daa IAUDA;7caa KAPA;7daa KAPA;7caa LAULA;7daa LAULA;7caa MI;7daa MI;7caa NI;7daa NI;7caa KSI;7daa KSI
7caa O;7daa O;7caawz;7daawz;7caa RO;7daa RO;7caa SIMA;7daa SIMA;7caa TAU;7daa TAU;7caa UA;7daa UA
7caa FI;7daa FI;7caa KHI;7daa KHI;7caa PSI;7daa PSI;7caa OOU;7daa OOU;7caavy-Pdn;7daavy-Pdn;7caalwjoou
7daalwjoou;7caako EIE;7daako EIE;7caavy-P KAPA;7daavy-P KAPA;7caavy-P NI;7daavy-P NI;7caako NI
7daako NI;7caalwjo OOU;7daalwjo OOU;7caa SAMPI;7daa SAMPI;7caaji SHEI;7daaji SHEI;7caalwjo SHEI
7daalwjo SHEI;7caalwjo ESH;7daalwjo ESH;7caa AKHMIMIC KHEI;7daa AKHMIMIC KHEI;7caavy-P HORI
7daavy-P HORI;7caalwjo HORI;7daalwjo HORI;7caalwjohp;7daalwjohp;7caa Lothp;7daa Lothp;7caalwjo HEI
7daalwjo HEI;7caalwjo HAT;7daalwjo HAT;7caalwjo GANGIA;7daalwjo GANGIA;7caalwjo DJA;7daalwjo DJA
7caalwjo SHIMA;7daalwjo SHIMA;7caalwxj SHIMA;7daalwxj SHIMA;7caalwxj NGI;7daalwxj NGI;7caalwxj NYI
7daalwxj NYI;7caalwxj WAU;7daalwxj WAU;7u KAI;9MI RO;8wz RO;8 STAUROS;9TAU RO;9KHI RO;9SHIMA SIMA
7caako SHEI;7daako SHEI;7caako GANGIA;7daako GANGIA;6gi NIah;9SPIRITUS ASPER;iLENIS
6acaa BOHAIRIC KHEI;7daa BOHAIRIC KHEI;!2cf9 6lwxjhoff;a DIRECTfzav;bINDIRECTfzav;bVERSE DIVIDER
6iwbhcg;6hoff;6 MORPHOLOGICAL DIVIDER;0GEORGIANadaa AN;dBAN;dGAN;dDON;cvb;c VIN;dZEN;dTAN;crq;c KAN
dLAS;dMAN;dNAR;cpg;c PAR;dZHAR;dRAE;dSAN;dTAR;dUN;dPHAR;dKHAR;dGHAN;dQAR;clu;c CHIN;eAN;dJIL;dCIL;eHAR
dXAN;dJHAN;dHAE;cwb;c HIE;dWE;dHAR;eOE;!2d27 dYN;!2d2d dAEN;!2d30 0TIFINAGHaaiu;a YAB;eH;dG;eHH
bBERBER ACADEMY YAJ;bYAJ;dD;eH;eD;fH;cEY;cAF;dK;bTUAREG YAK;bYAKHH;dH;bBERBER ACADEMY YAH;bTUAREG YAH
bYAHH;dA;dKH;bTUAREG YAKH;bYAQ;bTUAREG YAQ;bYI;cAZH;bAHAGGAR YAZH;bTUAREG YAZH;bYAL;dM;dN;bTUAREG YAGN
kNG;bYAP;axu;a YAR;eR;dGH;bTUAREG YAGH;bAYER YAGH;bYAS;eS;eH;dT;eH;dCH;dTT;dV;dW;dY;dZ;bTAWELLEMET YAZ
bYAZZ;cE;cO;!2d6f 8klaa LABIALIZATIONav;8emav;!2d7f 8gc JOINER;0ETHIOPICiz LOA;bMOA;bROA;bSOA;cHOA
bBOA;bTOA;bCOA;bNOA;cYOA;agq OA;a ZOA;bDOA;cDOA;bJOA;bTHOA;bCHOA;bPHOA;cOA;bGGWA;eI;eEE;f;!2da0 amr
a SSU;dI;dAA;dEE;e;dO;!2da8 bCCA;dU;dI;dAA;dEE;e;dO;!2db0 bZZA;dU;dI;dAA;dEE;e;dO;!2db8 bCCHA;eU;eI
eAA;eEE;f;eO;!2dc0 bQYA;dU;dI;dAA;dEE;e;dO;!2dc8 bKYA;dU;dI;dAA;dEE;e;dO;!2dd0 bXYA;dU;dI;dAA;dEE;e;dO
!2dd8 bGYA;dU;dI;dAA;dEE;e;dO;!2de0 0jatjaa BE;7VE;7GHE;7DE;7ZHE;8E;6id;6 EL;8M;6vb;6 O;6uw;6 ER;8S
6yk;6hp;6 TSE;6uv;6hj;6 SHCHA;7FITA;7ES-TE;7A;7IE;7DJERV;7MONOGRAPH UK;7YAT;6xu;6jp A;6ehqz;6 BIGqz
6jp BIGqz;0ekfqrkzu;4hbrkzu;0fmrkba;0ekrkba;0fmhbrkba;0ekhbrkba;0RAISED INTERPOLATIONzu
6hb INTERPOLATIONzu;0DOTTED TRANSPOSITIONzu;0fm TRANSPOSITIONba;0ek TRANSPOSITIONba;0RAISEDbs
0fmlx OMISSIONba;0eklx OMISSIONba;0EDITORIAL CORONIS;0PARAGRAPHOS;0FORKED PARAGRAPHOS
0ke FORKED PARAGRAPHOS;0HYPODIASTOLE;0DOTTED OBELOS;0cq ANCORA;0ei ANCORA;0DOTTEDajbufq;0gnnprg
0ww INTERROBANG;0PALM BRANCH;0HYPHENabbj;0TILDEabecah;0fmfs PARAPHRASEba;0ekfs PARAPHRASEba
0TILDEabboah;al;0fmateaab QUILL;0ekateaab QUILL;0TOParcgba;4jcgba;0xyarcgba;3jcgba;0fmwl Uba;0ekwl Uba
0fmakcl;0ekakcl;0TWOcydcbhbocm;0ONEbodcbecycm;0yabfbocm;0FIVEboav;0kefzav;0incs;0RINGui;0WORDemawbo
0qeet;0RAISEDbo;6et;0qemk;0DAGGERabar GUARD;9j GUARD;0qe DAGGER;0TOPcghxag;1WO-EMiq;0wx-EMiq
0STENOGRAPHIChoff;0indzcy;0WIGGLYatfi;0CAPITULUM;0gnrg;0keet;0gnfs-REVERSED-9fcav;0DASHabar UPTURN
0gn SUSPENSIONav;0wwfs KAVYKA;bab KAVYKAah;0LOW KAVYKA;aabbo;0gn STACKEDet;0DOTTEDif;0zm DAGGER
0MEDIEVALet;0PARAGRAPHUSav;1UNCTUS ELEVATUSav;0CORNISH VERSE DIVIDER;1ROSS PATTYabaj CROSSBAR
er CROSSBAR;0TIRONIANagac ET;0MEDIEVALewav;8fzav;0fmbsbaabas;0ekbsbaabas;0fmbsbaabakas;0ekbsbaabakas
0TOPcgarcl;6jcl;0xycgarcl;5jcl;0OBLIQUErg;!2e80 0CJK RADICAL REPEAT;cCLIFF;cSECONDbh;je;iaq;bxk;btz
b TABLE;cKNIFEbh;ie;cDIVINATION;cSEAL;badbh;ee;b LAMEbh;he;gaq;gbf;cSNAKE;cTHREAD;cSNOUTbh;ie;bkgbh;ee
blt;b RAP;!2e9b cCHOKE;cSUN;bof;b DEATH;cMOTHER;cCIVILIAN;cWATERbh;ie;cFIRE;cPAWbh;ge
cSIMPLIFIEDcg TREE TRUNK;cCOW;cDOG;cJADE;cBOLTfb CLOTH;cEYE;cSPIRITbh;je;cBAMBOO;cSILK;cCgv SILK
cNETbh;ge;faq;fbf;cMESH;cSHEEP;cRAM;cEWE;blw;b BRUSHbh;ie;cMEAT;dORTAR;cGRASSbh;ie;haq;cTIGER;cCLOTHES
bcjbh;ee;b Cgv SEE;cSIMPLIFIEDki;bki;b Cgv SPEECH;fky;cFOOT;cCgv CART;cSIMPLIFIED WALK;cWALKbh;he
cCITY;dgv GOLD;bepbh;ee;b Cgvep;f GATE;cMOUNDbh;ie;cRAIN;cBLUE;cCgv TANNED LEATHER;fpn;f WIND;gFLY
cEATbh;ge;faq;cCgv EAT;bqj;b Cgv HORSE;cBONE;cGHOST;cCgv FISH;gBIRD;gSALT;cSIMPLIFIED WHEAT;nYELLOW
cCgv FROG;cJgv EVEN;cCgv EVEN;cJgv TOOTH;cCgv TOOTH;cJgv DRAGON;cCgv DRAGON;cTURTLE;cJgv TURTLE
cCgv TURTLE;!2f00 0KANGXI RADICALbh;efi;ebo;epv;e SECOND;ebg;fe;e LID;fMAN;fLEGS;fENTER;ebl;ecetz
e COVER;fICE;fTABLE;eeztz;e KNIFE;fPOWER;fWRAP;fSPOON;eajeztz;e HIDING ENCLOSURE;egm;e DIVINATION
fSEAL;fCLIFF;fPRIVATE;fAGAIN;emw;e ENCLOSURE;exd;e SCHOLAR;fGO;h SLOWLY;fEVENING;fBIG;fWOMAN;fCHILD
fROOF;fINCH;ead;e LAME;fCORPSE;fSPROUT;fMOUNTAIN;fRIVER;fWORK;fONESELF;fTURBAN;fDRY;efe THREAD
ehb CLIFF;eep STRIDE;ebe HANDS;e SHOOT;fBOW;fSNOUT;fBRISTLE;fSTEP;ekg;e HALBERD;fDOOR;elt;e BRANCH
fRAP;eoe;e DIPPER;fAXE;ebs;elq;e SUN;gAY;eof;e TREE;fLACK;eff;e DEATH;fWEAPON;fDOlq;fCOMPARE;fFUR
fCLAN;fSTEAM;fWATER;fFIRE;fCLAW;fFATHER;eak X;ecg TREE TRUNK;e SLICE;fFANG;fCOW;fDOG;fPROFOUND;fJADE
fMELON;fTILE;fSWEET;fLIFE;fUSE;fFIELD;fBOLTfb CLOTH;fSICKNESS;ehb TENT;ebt;e SKIN;eoj;e EYE;fSPEAR;eaf
e STONE;gPIRIT;fTRACK;fGRAIN;fCAVE;fSTAND;fBAMBOO;fRICE;fSILK;fJAR;fNET;fSHEEP;fFEATHER;elw;eao;e PLOW
fEAR;fBRUSH;fMEAT;gINISTER;fSELF;fARRIVE;fMORTAR;fTONGUE;fOPPOSE;fBOAT;fSTOPPING;fCOLOR;fGRASS;fTIGER
fINSECT;fBLOOD;fWALK ENCLOSURE;fCLOTHES;ecj;e SEE;eki;e SPEECH;fVALLEY;fBEAN;fPIG;fBADGER;eky;e RED
gUN;fFOOT;fBODY;fCART;fBITTER;fMORNING;fWALK;fCITY;fWINE;fDISTINGUISH;fVILLAGE;fGOLD;eep;e GATE;fMOUND
fSLAVE;efe TAILED BIRD;e RAIN;fBLUE;fWRONG;edq;e LEATHER;fTANNED LEATHER;fLEEK;epw;fn;e WIND;fFLY;fEAT
eqj;e FRAGRANT;fHORSE;fBONE;fTALL;fHAIR;fFIGHT;fSACRIFICIAL WINE;fCAULDRON;fGHOST;fFISH;fBIRD;fSALT
fDEER;fWHEAT;fHEMP;fYELLOW;fMILLET;ebp;e EMBROIDERY;fFROG;fTRIPOD;fDRUM;fRAT;fNOSE;fEVEN;fTOOTH
fDRAGON;fTURTLE;fFLUTE;!2ff0 0mh DESCRIPTIONlnaresaj;hhesal;hresawaoaj;hhesawaoal;gho SURROUND
g SURROUNDleah;sl;sr;renar;uj;rdkar;hOVERLAID;!3000 2mm;2et;2hoff;0DITTOav;0zk INDUSTRIAL STANDARDau
0mhnlav;2 CLOSINGav;2duej;0fmfqba;0ekfqba;0fmakfqba;0ekakfqba;0fmhaba;0ekhaba;0fmbthaba;0ekbthaba
0fmbpnoba;0ekbpnoba;0POSTALav;0GETAav;0fmjrkyba;0ekjrkyba;0fmbtnoba;0ekbtnoba;0fmbtjrkyba;0ekbtjrkyba
0fmbtbsba;0ekbtbsba;0WAVEiq;0keakxlfcav;0gnxlfcav;0LOWakxlfcav;0POSTALavdq;0HANGZHOUrubh;be;aaq;abf;bm
adz;abr;bl;acn;0mh LEVELedav;2tbedav;2 DEPARTINGedav;3ENTERINGedav;0HANGULcvboedav;6akboedav;0WAVYiq
0in KANA REPEATav;fbvkpwav;fvencg;fbvkpwavencg;fvdkcg;0hu POSTALav;0mh TELEGRAPHfi FEEDemau
0HANGZHOUrugm;aex;ahs;0inxgnlav;0MASUav;0PART ALTERNATIONav;0mh VARIATIONqr;2cgycmm
!3041 0HIRAGANAaaad A;a A;aad I;a I;aad U;a U;aad E;a E;aad O;a O;aid;akq;a KI;bGI;bKU;bGU;bKE;bGE;bKO
bGO;ajv;auu;a SI;bZI;bSU;bZU;bSE;bZE;bSO;bZO;ajq;akf;a TI;bDI;aad TU;a TU;bDU;ayk;a DE;aes;a DO;aiy
a NI;cU;cE;cO;ahp;alk;ail;a HI;bBI;awz;a HU;bBU;bPU;awb;a BE;auw;a HO;bBO;bPO;aix;a MI;aye;a ME;cO
aadiu;aiu;aadxu;axu;aad YO;a YO;aip;a RI;cU;cE;cO;aadmx;amx;a WI;cE;cO;bN;bVU;aadid;c KE
!3099 0ja KATAKANA-HIRAGANAvkpwav;k SEMI-VOICEDpwav;0KATAKANA-HIRAGANAvkpwav;h SEMI-VOICEDpwav
0HIRAGANAnlav;8vknlav;8gp YORI;0KATAKANA-HIRAGANAakrg;8aaad A;a A;aad I;a I;aad U;a U;aad E;a E;aad O
a O;aid;akq;a KI;bGI;bKU;bGU;bKE;bGE;bKO;bGO;ajv;auu;a SI;bZI;bSU;bZU;bSE;bZE;bSO;bZO;ajq;akf;a TI;bDI
aad TU;a TU;bDU;ayk;a DE;aes;a DO;aiy;a NI;cU;cE;cO;ahp;alk;ail;a HI;bBI;awz;a HU;bBU;bPU;awb;a BE;auw
a HO;bBO;bPO;aix;a MI;aye;a ME;cO;aadiu;aiu;aadxu;axu;aad YO;a YO;aip;a RI;cU;cE;cO;aadmx;amx;a WI;cE
cO;bN;bVU;aadid;c KE;asc;a VI;cE;cO;9wbo;8-HIRAGANA PROLONGEDpwav;8nlav;8vknlav;8gp KOTO
!3105 0BOPOMOFOaa B;bP;bM;bF;bD;bT;bN;bL;bG;bK;bH;bJ;bQ;bX;bZH;bCH;bSH;bR;bZ;bC;bS;bA;bO;bE;cH;amn
a EI;ane;a OU;bAN;avb;a ANG;bENG;cR;bI;bU;bIU;bV;bNG;bGN;bIH;bOabboah;bNN;!3131 0HANGULaaop
8 SSANGKIYEOK;8opkd;8sm;apz;akz;8py;8 SSANGTIKEUT;8pt;aht;auq;ajx;akd;aon;aur;akz;8sh;8pq;8 SSANGPIEUP
8pqkd;8yz;8xo;8sf;8xb;8za;8ub;8wd;9p;8ol;8yv;8 A;aE;8iu;8 YAE;9EO;a;9YEO;b;9O;8mx;8 WAE;8yf;8 YO;9U
9WEO;b;aI;8xu;8 EU;9YI;9I;6vd;6aa SSANGNIEUN;8smkv;bd;asb;8pthtkd;akv;ajxkd;asb;a-YEORINHIEUH;8shjx
akd;asb;8 KAPYEOUNMIEUM;8pqht;akv;bdht;ckv;apz;aon;8 KAPYEOUNPIEUP;hSSANGPIEUP;8yzht;a-NIEUN;akv;ajx
apz;8 PANSIOS;9SSANGIEUNG;9YESIEUNG;hkd;hsb;9KAPYEOUNPHIEUPH;9SSANGHIEUH;9YEORINHIEUH;aO-YA;eE;cI
8xu-YEO;d;bI;8 ARAEA;eE;!3190 0mh ANNOTATION LINKINGav;dnsav;dbhav;eeav;daqav;dbfav;dqgav;dawav;djcav
d FIRSTav;eSECONDav;dunav;d FOURTHav;eHEAVENav;dxdav;d MANav;0BOPOMOFOaa BU;bZI;bJI;bGU;awy;a ENN;aut
a ONN;bIR;bANN;bINN;bUNN;bIM;bNGG;bAINN;cUNN;cM;bOM;cNG;bINNN;9maa P;dT;dK;dH;9a GH;bLH;bZY;9maa G
9a GW;bKW;ayf;a AH;0CJKas T;6WG;6XG;6BXG;6SW;6HZZ;8G;7P;7ZWG;6SZWG;6HZT;8ZP;7PWG;7ZW;8ZZ;6N;6H;6S;6P
6SP;6D;6HZ;7G;6SZ;7WZ;7T;7G;6PD;7Z;6TN;6SZZ;7WG;6HXWG;7ZZZG;6PG;6Q;!31f0 0KATAKANAaaad KU;dSI;eU;ces
c NU;chp;c HI;eU;cwb;c HO;cye;cip;c RI;eU;eE;eO;0PARENTHESIZED HANGULop;ksm;kpy;lt;ksh;kpq;kyz;ksf;kxb
kub;kwd;lp;kol;kyv;kop A;ksm A;kpy A;lt A;ksh A;kpq A;kyz A;ksf A;kxb A;kub A;kwd A;lp A;kol A;kyv A
kxb U;eKOREANln OJEON;o HU;!3220 dudbh;ge;faq;fbf;gm;fdz;fbr;gl;fcn;fgm;fof;f FIRE;gWATER;hOOD;gMETAL
fxd;f SUN;hTOCK;gHAVE;gSOCIETY;gNAME;gSPECIAL;gFINANCIAL;gCONGRATULATION;gLABOR;gREPRESENT;gCALL
gSTUDY;hUPERVISE;gENTERPRISE;gRESOURCE;gALLIANCE;gFESTIVAL;fss;f SELF;gREACH;0huudfz;4 KINDERGARTEN
5SCHOOL;5KOTO;2dugmpgbpbs;4expgbpbs;4hspgbpbs;4mipgbpbs;4ibpgbpbs;4mlpgbpbs;4fppgbpbs;4oapgbpbs
0PARTNERSHIPag;0huduexbh;7e;6aq;6bf;7m;6dz;6br;7l;6cn;4hs;6bh;7e;6aq;6bf;7m;2 HANGULop;9sm;9py;at;9sh
9pq;9yz;9sf;9xb;9ub;9wd;ap;9ol;9yv;9op A;9sm A;9py A;at A;9sh A;9pq A;9yz A;9sf A;9xb A;9ub A;9wd A
ap A;9ol A;9yv A;3KOREANln CHAMKO;cJUEUI;3HANGULsf U;0KOREAN STANDARDau;0huudbh;5e;4aq;4bf;5m;4dz;4br
5l;4cn;4gm;4of;4 FIRE;5WATER;6OOD;5METAL;4xd;4 SUN;6TOCK;5HAVE;5SOCIETY;5NAME;5SPECIAL;5FINANCIAL
5CONGRATULATION;5LABOR;5SECRET;5MALE;5FEMALE;5SUITABLE;5EXCELLENT;5PRINT;5ATTENTION;5ITEM;4ss;4 COPY
7RRECT;4ey;5g;4fs;4ar;5j;4 MEDICINE;5RELIGION;5STUDY;6UPERVISE;5ENTERPRISE;5RESOURCE;5ALLIANCE;5NIGHT
2duhsdz;6br;7l;6cn;4mi;6bh;7e;6aq;6bf;7m;6dz;6br;7l;6cn;4ib;0mh TELEGRAPHaunf JANUARY;hFEBRUARY;hMARCH
hAPRIL;hMAY;hJUNE;jLY;hAUGUST;hSEPTEMBER;hOCTOBER;hNOVEMBER;hDECEMBER;0nx HG;3ERG;4V
0LIMITED LIABILITYag;0hu KATAKANA A;cI;cU;cE;cO;bid;b KI;dU;dE;dO;bjv;b SI;dU;dE;dO;bjq;b TI;dU;byk
bes;biy;b NI;dU;dE;dO;bhp;b HI;dU;bwb;b HO;bix;b MI;bye;b ME;dO;biu;bxu;b YO;bip;b RI;dU;dE;dO;bmx
b WI;dE;dO;0nx ERA NAME REIWA;3APAATO;4RUHUA;4NPEA;4ARU;3ININGU;5TI;3UON;3ESUKUUDO;4EKAA;3ONSU;4OMU
3KAIRI;5RATTO;6ORII;3GARON;5NMA;4IGA;5NII;3KYURII;3GIRUDAA;3KIRO;7GURAMU;7MEETORU;7WATTO;3GURAMU;9TON
3KURUZEIRO;6OONE;4EESU;4ORUNA;5OPO;3SAIKURU;5NTIIMU;4IRINGU;4ENTI;7O;3DAASU;4ESI;4ORU;3TON;3NANO;4OTTO
3HAITU;3PAASENTO;6TU;3BAARERU;3PIASUTORU;5KURU;6O;3BIRU;3HUARADDO;5IITO;3BUSSYERU;3HURAN;4EKUTAARU
3PESO;5NIHI;3HERUTU;3PENSU;5EZI;3BEETA;3POINTO;3BORUTO;3HON;3PONDO;3HOORU;6N;3MAIKURO;6RU;5HHA;5RUKU
5NSYON;4IKURON;5RI;7BAARU;4EGA;7TON;5ETORU;3YAADO;6RU;4UAN;3RITTORU;5RA;4UPII;5UBURU;4EMU;5NTOGEN
3WATTO;0mh TELEGRAPHaunf HOURej;lbh;me;laq;lbf;mm;ldz;lbr;ml;lcn;lgm;lpj;los;ltt;mm;lpk;lul;lqu;mn;ltn
lex;n-ONE;oTWO;pHREE;oFOUR;0nx HPA;2kf;2ne;2ea;2 OV;3PC;3DM;5hg;5 CUBED;3IU;3ERA NAME HEISEI;cSYOUWA
cTAISYOU;cMEIZI;3CORPORATION;2il AMPS;3y;2ye A;2ix;3d;2 KB;3MB;3GB;3CAL;3KCAL;3PF;3NF;2ye F;5G;2 MG
3KG;3HZ;3KHZ;3MHZ;3GHZ;3THZ;2ye L;2 ML;3DL;3KL;3FM;3NM;2ye M;2 MM;3CM;3KM;3MMhg;3CMhg;3Mhg;3KMhg
3MM CUBED;3CM CUBED;3M CUBED;3KM CUBED;3Mdc S;8hg;2il;2 KPA;3MPA;3GPA;3RAD;6dc S;ahg;3PS;3NS;2ye S
2 MS;3PV;3NV;2ye V;2 MV;3KV;3MV MEGA;3PW;3NW;2ye W;2 MW;3KW;3MW MEGA;3K OHM;3M OHM;3AM;3BQ;3CC;4D
4dc KG;4O;3DB;3GY;2hp;2 HP;2rq;2 KK;4Mac;4T;3LM;4N;4OG;4X;3MBad;4IL;4OL;3PH;4M;4PM;4R;3SR;4V;3WB
3Vdc M;3Adc M;0mh TELEGRAPHaunf DAYbh;le;kaq;kbf;lm;kdz;kbr;ll;kcn;kgm;kpj;kos;ktt;lm;kpk;kul;kqu;ln
ktn;kex;m-ONE;nTWO;oHREE;nFOUR;oIVE;nSIX;oEVEN;nEIGHT;nNINE;khs;m-ONE;0nx GAL
!4dc0 0HEXAGRAMnfng CREATIVE HEAVEN;dRECEPTIVExd;a DIFFICULTY ATng BEGINNING;bYOUTHFUL FOLLY;bWAITING
bCONFLICT;ang ARMY;a HOLDING TOGETHER;aad TAMING;a TREADING;bPEACE;bSTANDSTILL;bFELLOWSHIP
bGREAT POSSESSION;bMODESTY;bENTHUSIASM;bFOLLOWING;bWORKpgng DECAYED;bAPPROACH;bCONTEMPLATION;bBITINGms
bGRACE;bSPLITTING APART;bRETURN;bINNOCENCE;bGREAT TAMING;amw CORNERS;a GREAT PREPONDERANCE
ang ABYSMAL WATER;dCLINGING FIRE;a INFLUENCE;bDURATION;bRETREAT;bGREAT POWER;bPROGRESS
bDARKENINGfbngcx;ang FAMILY;a OPPOSITION;cBSTRUCTION;bDELIVERANCE;dCREASE;bINCREASE;bBREAKTHROUGH
bCOMINGes MEET;bGATHERING TOGETHER;bPUSHING UPWARD;bOPPRESSION;ang WELL;a REVOLUTION;ang CAULDRON
dAROUSING THUNDER;dKEEPING STILL MOUNTAIN;a DEVELOPMENT;ang MARRYING MAIDEN;a ABUNDANCE;ang WANDERER
dGENTLE WIND;dJOYOUS LAKE;a DISPERSION;bLIMITATION;bINNER TRUTH;aad PREPONDERANCE;a AFTER COMPLETION
bBEFORE COMPLETION;!a000 0YIiz IT;6X;6;6P;6ET;7X;7;7P;5AT;6X;6;6P;5UOX;7;7P;5OT;6X;6;6P;5EX;6;5WU;5BIT
7X;7;7P;7ET;8X;8;8P;6AT;7X;4lk;4 BAP;6UOX;8;8P;6OT;4tz;4 BO;7P;6EX;7;7P;6UT;7X;7;7P;7RX;8;6YT;7X;7;7P
7RX;8;5PIT;7X;4wz;4 PIP;7EX;8;8P;6AT;7X;4il;4 PAP;6UOX;8;8P;6OT;7X;7;7P;6UT;7X;7;7P;7RX;8;6YT;7X;7;7P
7RX;8;5BBIT;8X;8;8P;8ET;9X;9;9P;7AT;8X;8;8P;7UOX;9;9P;7OT;8X;8;8P;7EX;8;8P;7UT;8X;8;8P;8RX;9;7YT;8X;8
8P;5NBIT;8X;8;8P;8EX;9;9P;7AT;8X;8;8P;7OT;8X;8;8P;7UT;8X;8;8P;8RX;9;7YT;8X;8;8P;8RX;9;5HMIT;8X;8;8P
8EX;9;9P;7AT;8X;8;8P;7UOX;9;9P;7OT;8X;8;8P;7UT;8X;8;8P;8RX;9;7YX;8;8P;8RX;9;5MIT;7X;7;7P;7EX;8;8P;6AT
7X;4ix;4 MAP;6UOT;8X;8;8P;6OT;7X;7;7P;6EX;7;6UT;7X;4ye;4 MUP;7RX;8;6YT;7X;7;7P;5FIT;7X;7;7P;6AT;7X;4xf
4 FAP;6OX;7;7P;6UT;7X;7;7P;7RX;8;6YT;7X;7;7P;5VIT;7X;7;7P;7ET;8X;8;8P;6AT;7X;4sc;4 VAP;6OT;7X;7;7P;6EX
7P;6UT;7X;7;7P;7RX;8;6YT;7X;7;7P;7RX;8;5DIT;7X;7;7P;7EX;8;8P;6AT;7X;4kf;4 DAP;6UOX;8;4bo;4 DOX;7;7P
6EX;7;7P;6UT;7X;7;7P;7RX;8;5TIT;7X;7;7P;7EX;8;8P;6AT;7X;4jq;4 TAP;6UOT;8X;8;8P;6OT;7X;4es;4qg;4 TEX
4yk;4 TEP;6UT;7X;7;7P;7RX;8;5DDIT;8X;8;8P;8EX;9;9P;7AT;8X;4kp;4 DDAP;7UOX;9;9P;7OT;8X;8;8P;7EX;8;8P
7UT;8X;8;8P;8RX;9;5NDIT;8X;8;8P;8EX;9;7AT;8X;8;8P;7OT;8X;8;8P;7EX;8;8P;7UT;8X;8;8P;8RX;9;5HNIT;8X;8;8P
8ET;9X;9;9P;7AT;8X;8;8P;7UOX;9;7OT;8X;8P;7EX;8;8P;7UT;5NIT;7X;7;7P;7EX;8;8P;6AX;4iy;4 NAP;6UOX;8;8P
4lq;4 NOX;7;7P;6EX;7;7P;6UT;7X;7;7P;7RX;8;5HLIT;8X;8;8P;8EX;9;9P;7AT;8X;8;8P;7UOX;9;9P;7OX;8;8P;7EX;8
8P;7UT;8X;8;8P;8RX;9;7YT;8X;8;8P;8RX;9;5LIT;7X;7;7P;7ET;8X;8;8P;6AT;7X;4jb;4 LAP;6UOT;8X;8;8P;6OT;7X;7
7P;6EX;7;7P;6UT;7X;7;7P;7RX;8;6YT;7X;7;7P;7RX;8;5GIT;7X;7;7P;7ET;8X;8;8P;6AT;7X;4kq;4 GAP;6UOT;8X;8;8P
6OT;7X;7;7P;6ET;7X;7;7P;6UT;7X;7;7P;7RX;8;5KIT;7X;7;7P;7EX;8;8P;6AT;7X;4id;4 KAP;6UOX;8;8P;6OT;7X;7;7P
6ET;7X;7;7P;6UT;7X;7;7P;7RX;8;5GGIT;8X;8;8EX;9;9P;7AT;8X;8;8P;7UOT;9X;9;9P;7OT;8X;8;8P;7ET;8X;8;8P;7UT
8X;8;8P;8RX;9;5MGIEX;9;7AT;8X;8;8P;7UOX;9;9P;7OT;8X;8;8P;7EX;8;8P;7UT;8X;8;8P;8RX;9;5HXIT;8X;8;8P;8ET
9X;9;9P;7AT;8X;8;8P;7UOT;9X;9;9P;7OT;8X;8;8P;7EX;8;8P;5NGIEX;9;9P;7AT;8X;4hh;4 NGAP;7UOT;9X;9;7OT;8X;8
8P;7EX;8;8P;5HIT;7EX;8;6AT;7X;4hp;4 HAP;6UOT;8X;8;8P;6OT;7X;7;7P;6EX;4wb;4 HEP;5WAT;7X;4mx;4 WAP;6UOX
8;8P;6OX;7;7P;6EX;7;7P;5ZIT;7X;7;7P;7EX;8;8P;6AT;7X;4uu;4 ZAP;6UOX;8;8P;6OT;7X;7;7P;6EX;7;7P;6UT;7X;7
7P;7RX;8;6YT;7X;7;7P;7RX;8;5CIT;7X;7;7P;7ET;8X;8;8P;6AT;7X;4ny;4 CAP;6UOX;8;8P;6OT;7X;7;7P;6EX;7;7P
6UT;7X;7;7P;7RX;8;6YT;7X;7;7P;7RX;8;5ZZIT;8X;8;8P;8ET;9X;9;9P;7AT;8X;8;8P;7OX;8;8P;7EX;8;8P;7UX;8;8P
8RX;9;7YT;8X;8;8P;8RX;9;5NZIT;8X;8;8P;8EX;9;9P;7AT;8X;8;8P;7UOX;9;7OX;8P;7EX;8;7UX;8;8P;8RX;9;7YT;8X;8
8P;8RX;9;5SIT;4dz;4 SI;7P;7EX;8;8P;6AT;7X;4jv;4 SAP;6UOX;8;8P;6OT;7X;7;7P;6EX;7;7P;6UT;7X;7;7P;7RX;8
6YT;7X;7;7P;7RX;8;6SIT;8X;8;8P;8EX;9;9P;7AT;8X;4mr;4 SSAP;7OT;8X;8;8P;7EX;8;8P;7UT;8X;8;8P;7YT;8X;8;8P
8RX;9;5ZHAT;8X;4wu;4 ZHAP;7UOX;9;9P;7OT;8X;8;8P;7ET;8X;8;8P;7UT;8X;8;8P;8RX;9;7YT;8X;8;8P;8RX;9;5CHAT
8X;4hv;4 CHAP;7UOT;9X;9;9P;7OT;8X;8;8P;7ET;8X;4uv;4 CHEP;7UX;8;8P;8RX;9;7YT;8X;8;8P;8RX;9;5RRAX;4yj
4 RRUOX;9;7OT;8X;8;8P;7ET;8X;8;8P;7UT;8X;8;8P;8RX;9;7YT;8X;8;8P;8RX;9;5NRAT;8X;8;8P;7OX;8;8P;7ET;8X;8
8P;7UT;8X;8;8P;8RX;9;7YT;8X;8;8P;8RX;9;5SHAT;8X;4hj;4 SHAP;7UOX;9;9P;7OT;8X;8;8P;7ET;8X;4oi;4 SHEP;7UT
8X;8;8P;8RX;9;7YT;8X;8;8P;8RX;9;5RAT;7X;4ip;4 RAP;6UOX;8;8P;6OT;7X;7;7P;6EX;7;7P;6UT;7X;7;7P;7RX;8;6YT
7X;7;7P;7RX;8;5JIT;7X;7;7P;7ET;8X;8;8P;6UOT;8X;8;8P;6OT;7X;7;7P;6UT;7X;7;7P;7RX;8;6YT;7X;7;7P;7RX;8
5QIT;7X;7;7P;7ET;8X;8;8P;6UOT;8X;8;8P;6OT;7X;7;7P;6UT;7X;7;7P;7RX;8;6YT;7X;7;7P;7RX;8;5JJIT;8X;8;8P
8ET;9X;9;9P;7UOX;9;9P;7OT;8X;8;8P;7UT;8X;8;8P;8RX;9;7YT;8X;8;8P;5NJIT;8X;8;8P;8ET;9X;9;9P;7UOX;9;7OT
8X;8;8P;7UX;8;8P;8RX;9;7YT;8X;8;8P;8RX;9;6YIT;8X;8;8P;8ET;9X;9;9P;7UOX;9;9P;7OT;8X;8;8P;7UT;8X;8;8P
5XIT;7X;7;7P;7ET;8X;8;8P;6UOX;8;6OT;7X;7;7P;6YT;7X;7;7P;7RX;8;5YIT;7X;7;7P;7ET;8X;8;8P;6UOT;8X;8;8P
6OT;7X;7;7P;6UT;7X;4xu;4 YUP;7RX;8;6YT;7X;7;7P;7RX;8;!a490 2 RADICAL QOT;bLI;bKIT;bNYIP;bCYP;bSSI
bGGOP;cEP;bMI;bHXIT;bLYR;bBBUT;bMOP;bYO;bPUT;bHXUO;bTAT;akq;a ZUP;bCYT;bDDUR;bBUR;bGGUO;bNYOP;bTU;bOP
bJJUT;bZOT;bPYT;bHMO;bYIT;bVUR;bSHY;bVEP;auu;a JO;bNZUP;bJJY;bGOT;bJJIE;bWO;bDU;bSHUR;bLIE;bCY;cUOP
cIP;bHXOP;bSHAT;bZUR;bSHOP;auv;a ZZIET;bNBIE;bKE;!a4d0 0LISUaalk;6il;6jl;6kf;6jq;6im;6kq;6id;7c;6nm;7y
6hv;6 DZA;6qh;6wq;6ix;7y;6jb;7v;6wu;6uu;6hh;7p;6 XA;7HHA;6xf;6mx;6hj;6iu;6kr;6 A;8E;7E;8U;7I;7O;7U;8E
8H;6yf;6ed MYA TI;8iy PO;8 MYA CYA;dBO;ciy;c JEU;4cmet;6hoff;0VAIizwy;5 EEN;6HEE;6WEE;9N;6PEE;6BHEE
7EE;6MBEE;6KPEE;6MGBEE;6GBEE;6FEE;6VEE;6TEE;7HEE;6DHEE;8HEE;6LEE;6REE;6DEE;6NDEE;6SEE;7HEE;6ZEE;7HEE
6CEE;6JEE;6NJEE;6YEE;6KEE;6NGGEE;6GEE;6MEE;6NEE;7YEE;6I;5rq;5 HI;8N;6WI;8N;5wz;5 BHI;7I;6MBI;6KPI
6MGBI;6GBI;6FI;6VI;6TI;7HI;6DHI;8HI;6LI;6RI;6DI;6NDI;6SI;7HI;6ZI;7HI;6CI;6JI;6NJI;6YI;6KI;6NGGI;6GI
6MI;6NI;7YI;6A;7N;6NGAN;5hp;5 HAN;5mx;5 WAN;5il;5lv;6k;5 MBA;6KPA;9N;6MGBA;6GBA;5xf;5sc;5jq;5im;5kw
5 DHHA;5jb;5ip;5kf;5 NDA;5jv;5hj;5uu;5wu;5ny;6m;5 NJA;5iu;6d;5 KAN;6NGGA;5kq;5ix;6y;5hy;5ut;5 OON;6HOO
6WOO;9N;6POO;6BHOO;7OO;6MBOO;6KPOO;6MGBOO;6GBOO;6FOO;6VOO;6TOO;7HOO;6DHOO;8HOO;6LOO;6ROO;6DOO;6NDOO
6SOO;7HOO;6ZOO;7HOO;6COO;6JOO;6NJOO;6YOO;6KOO;6NGGOO;6GOO;6MOO;6NOO;7YOO;6U;7N;6HU;8N;6WU;8N;6PU;6BHU
7U;6MBU;6KPU;6MGBU;6GBU;6FU;6VU;6TU;7HU;6DHU;8HU;6LU;6RU;6DU;6NDU;6SU;7HU;6ZU;7HU;6CU;6JU;6NJU;5xu
5 KU;6NGGU;6GU;5ye;5 NU;7YU;6O;5pg;5 NGON;6HO;8N;6WO;8N;6PO;6BHO;7O;6MBO;6KPO;6MGBO;6GBO;9N;6FO;6VO
5es;5 THO;6DHO;8HO;6LO;6RO;6DO;6NDO;6SO;7HO;6ZO;7HO;6CO;6JO;6NJO;6YO;6KO;6NGGO;6GO;6MO;6NO;7YO;6E;5vb
5 NGEN;5wb;5 HEN;6WE;8N;5uw;5 BHE;7E;6MBE;6KPE;9N;6MGBE;6GBE;9N;6FE;6VE;5yk;5ng;5 DHE;8HE;6LE;6RE;6DE
6NDE;6SE;5oi;5 ZE;7HE;6CE;6JE;6NJE;6YE;6KE;6NGGE;aN;6GE;8N;6ME;6NE;7YE;7G;6LENGTHENER;3et;3hoff;3fzav
3iz NDOLExf;bid;b SOO;3au FEENG;6KEENG;6TING;6NII;6BANG;6FAA;6TAA;6DANG;7OONG;6KUNG;6TONG;6DO-O;6JONG
3coej;5bh;6e;5aq;5bf;6m;5dz;5br;6l;5cn;3iz NDOLEix;b DO;!a640 0CYRILLICacaa ZEMLYA;9daa ZEMLYA
9caa DZELO;9daa DZELO;9caack DZE;9daack DZE;9caalg;9daalg;9caa DJERV;9daa DJERV;9caa MONOGRAPH UK
9daa MONOGRAPH UK;9caa BROADhi;9daa BROADhi;9caapp YER;9daapp YER;9caa YERUab BACK YER
9daa YERUab BACK YER;9caajp YAT;9daajp YAT;9caackxu;9daackxu;9caajp A;9daajp A;9caahrehqz;9daahrehqz
9caa BLENDEDqz;9daa BLENDEDqz;9caajphrehqz;9daajphrehqz;9caa YN;9daa YN;9caack TSE;9daack TSE
9caa SOFT DE;9daa SOFT DE;9caa SOFT EL;9daa SOFT EL;9caa SOFT EM;9daa SOFT EM;9caa MONOCULAR O
9daa MONOCULAR O;9caa BINOCULAR O;9daa BINOCULAR O;9caaak MONOCULAR O;9daaak MONOCULAR O
9a MULTIOCULAR O;0jatj VZMET;4gmwfag;4aywfag;5zwfag;0SLAVONICdw;0jatjaa UKRAINIAN IE;7I;7YI;7U;7HARDag
7YERU;7SOFTag;6hi;4 KAVYKA;5PAYEROK;0CYRILLIC KAVYKA;9PAYEROK;8acaa DWE;9daa DWE;9caa DZWE;9daa DZWE
9caa ZHWE;9daa ZHWE;9caa CCHE;9daa CCHE;9caa DZZE;9daa DZZE;9caaykabawbg;9daaykabawbg;9caa TWE
9daa TWE;9caa TSWE;9daa TSWE;9caa TSSE;9daa TSSE;9caa TCHE;9daa TCHE;9caa HWE;9daa HWE;9caa SHWE
9daa SHWE;9caaak O;9daaak O;9caaji O;9daaji O;0kuaatj HARDag;7SOFTag;0jatjaa EF;6jp E;0BAMUMaa A;7id
7 U;8KU;7wy;7 REE;8TAE;8O;8NYI;8I;7jb;7il;7 RII;aEE;8LEEEE;8MEEEE;8TAA;8NDAA;9JAEM;8M;8SUU;7ye;7 SHII
9I;9HEUX;9EUX;8KYEE;9ET;8NUAE;a;9JUAE;8YOQ;8SHU;8YUQ;7iu;7 NSHA;8KEUX;8PEUX;8NJEE;9TEE;8PUE;8WUE;8PEE
8FEE;8RU;8LU;8MI;8NI;8REUX;9AE;8KEN;8NGKWAEN;aGA;7hh;7 SHO;8PUAE;8FU;9OM;7mx;7iy;7 LI;7wz;7 LOQ;8KO
8MBEN;8REN;8MEN;7ix;7 TI;8KI;8MO;9BAA;8TET;8KPA;7gm;7 NTUU;8SAMBA;8FAAMAE;8KOVUU;aGHOM;5giav KOQNDON
aTUKWENTIS;5 NJAEMLI;5hoff;5iv;5et;5mk;5fzav;!a700 0kuaa CHINESEed YIN PING;gANG PING;gIN SHANG
gANG SHANG;gIN QU;gANG QU;gIN RU;gANG RU;5EXTRA-HIGHhbedea;4eyhbedea;4 MIDhbedea;4fshbedea
4 EXTRA-LOWhbedea;bHIGHhbar-STEMedea;4eyhbar-STEMedea;4 MIDhbar-STEMedea;4fshbar-STEMedea
4 EXTRA-LOWhbar-STEMedea;bHIGHar-STEMedea;4eyar-STEMedea;4 MIDar-STEMedea;4fsar-STEMedea
4 EXTRA-LOWar-STEMedea;4boatea;6pv;6axea;4dkajhafq;4lxhdaf;6ceaf;6ewav;6cpewav;4fscpewav
4 STRESSaoeyed;dfsed;0ndacaayrdn;3daayrdn;3caayrou;3daayrou;3caa HENG;3daa HENG;3caa TZ;3daa TZ
3caa TRESILLO;3daa TRESILLO;3caa CUATRILLO;3daa CUATRILLO;3caa CUATRILLOabet;3daa CUATRILLOabet
3aadac F;9S;3caall;3daall;3caa AO;3daa AO;3caane;3daane;3caa AV;3daa AV;3caa AVabaxea;3daa AVabaxea
3caa AY;3daa AY;3caack Cabbo;3daack Cabbo;3caa Kabas;3daa Kabas;3caa Kabdtas;3daa Kabdtas
3caa Kabasaodtas;3daa Kabasaodtas;3caa BROKEN L;3daa BROKEN L;3caa Labeyas;3daa Labeyas;3caa Oabepashw
3daa Oabepashw;3caa Oabsr;3daa Oabsr;3caaut;3daaut;3caa Pabasmsdp;3daa Pabasmsdp;3caa Pab FLOURISH
3daa Pab FLOURISH;3caa Pab SQUIRRELgr;3daa Pab SQUIRRELgr;3caa Qabasmsdp;3daa Qabasmsdp;3caa Qabdtas
3daa Qabdtas;3caa R ROTUNDA;3daa R ROTUNDA;3caa RUM ROTUNDA;3daa RUM ROTUNDA;3caa Vabdtas;3daa Vabdtas
3caa VY;3daa VY;3caa VISIGOTHIC Z;3daa VISIGOTHIC Z;3caa THORNabas;3daa THORNabas;3caa THORNabasmsdp
3daa THORNabasmsdp;3caa VEND;3daa VEND;3caa ET;3daa ET;3caa IS;3daa IS;3caa CON;3daa CON;0kuaa US
0ndadaa DUM;7LUM;7MUM;7NUM;7RUM;3aadac RUM;3daa TUM;7UM;3caaka D;3daaka D;3caaka F;3daaka F;3caaka G
6dika G;3daadika G;3caadi L;3daadi L;3caaka R;3daaka R;3caaka S;3daaka S;3caaka T;3daaka T;0kuaafsbdfr
4iv;4fejeag;0ndacaa SALTILLO;3daa SALTILLO;3caadi H;3daa Labdjbgao BELT;3a SINOLOGICALbo;3caa Nabdp
3daa Nabdp;3caa Cabea;3daa Cabea;agjbg;7Habgjbg;3caa Bab FLOURISH;3daa Bab FLOURISH;3caa Fabas
3daa Fabas;3caa VOLAPUK AE;3daa VOLAPUK AE;3caa VOLAPUKyf;3daa VOLAPUKyf;3caa VOLAPUK UE
3daa VOLAPUK UE;3caa Gabnpas;3daa Gabnpas;3caa Kabnpas;3daa Kabnpas;3caa Nabnpas;3daa Nabnpas
3caa Rabnpas;3daa Rabnpas;3caa Sabnpas;3daa Sabnpas;3caa Habbg;6ckez E;6oe G;6 Lab BELT;6adac I
3aadac Q;3caadi K;9T;6 Jabjizh;6vn;6rn;3daarn;3caahi;3daahi;3caa Uabas;3daa Uabas;3caagq A;3daagq A
3caagq I;3daagq I;3caagq U;3daagq U;3caalw POLISH O;3daalw POLISH O;3caa ANGLICANA W;3daa ANGLICANA W
3caa Cabgjbg;7Sabbg;7Zabgjbg;7Dabfeashw;3daa Dabfeashw;3caa Sabfeashw;3daa Sabfeashw;!a7d0 3caahrka G
3daahrka G;!a7d3 6ak THORN;!a7d5 9WYNN;3caaaw SCOTS S;3daaaw SCOTS S;3caa SIGMOID S;3daa SIGMOID S
!a7f2 0kuaaac C;7F;7Q;0ndacaackcg H;3daackcg H;2 EPIGRAPHICaawl I;0kuaaac Habas;5dfgyf;0ndaaadacdi M
2 EPIGRAPHICaack F;iP;gp M;f I LONGA;fjh M;0SYLOTI NAGRIaa A;fI;dg DVISVARA;da U;fE;fO;dg HASANTA
da KO;gHO;fGO;gHO;dgde;da CO;gHO;fJO;gHO;fTTO;hHO;fDDO;hHO;ees;e THO;fDO;gHO;fNO;fPO;gHO;fBO;gHO;fMO
fRO;fLO;fRRO;fSO;fHO;ccdag A;hI;hU;hE;gut;c POETRYav-1;m2;m3;m4;caggh HASANTA;!a830 0qk INDICiwbhfv
ccg;aaqkm;abhum;cih;aaq SIXTEENTHS;8fvav;8 PLACEHOLDERav;9RUPEEav;9QUANTITYav;!a840 0PHAGS-PAaaid;bc
akq;ahh;any;ahv;anm;ahy;ajq;aim;akf;aiy;bl;ajl;alk;aix;aqh;awq;a DZA;amx;awu;auu;aad A;aiu;bp;ajb;ahj
ajv;ahp;a A;bI;bU;bE;bO;bQA;bXA;axf;a GGA;awy;8xpaamx;ciu;8aakn;aik;akp;alp;aghiu;a VOICELESShj;avkhp
a ASPIRATEDxf;8xpaaip;8 SUPERFIXEDaaip;8aady;8cvqjav;8akqjav;9vvi;aakvi;!a880 0SAURASHTRAagde;cfj;ba A
cll;c I;cmo;c U;cnh;cdd R;eyh;e L;gL;c E;cwy;cmn;c O;cut;cne;cid;dc;ckq;dr;chh;cny;chv;cnm;coc;chy;ckn
cik;ckp;cir;clp;cjq;cim;ckf;dw;ciy;dl;cjl;clk;dv;cix;du;dp;cjb;csc;chj;cmr;cjv;chp;crr;agcag HAARU
acdagll;e I;emo;e U;enh;edd R;gyh;g L;iL;e E;ewy;emn;e O;eut;ene;aagfn;cdy;!a8ce ais;aakis;acoej;cbh
de;caq;cbf;dm;cdz;cbr;dl;ccn;!a8e0 0ja DEVANAGARIcoej;fbh;ge;faq;fbf;gm;fdz;fbr;gl;fcn;daa A;gU;fid;gy
gl;gp;f VI;egjn;0DEVANAGARIag SPACINGdy;cdyfn;cakdyfn;cdybe;eaq;ejn;c PUSHPIKA;a GAPvd;bCARET
bHEADSTROKE;aag SIDDHAM;a JAIN OM;aaa AY;acdag AY;0KAYAH LIcoej;abh;be;aaq;abf;bm;adz;abr;bl;acn;8aaid
bc;akq;ahh;ajv;ahj;auu;ahy;ajq;a HTA;aiy;bl;ajl;aix;akf;alk;aip;bu;ajb;amx;aim;ahp;asc;any;a A;ayf;a I
aut;8cd UE;bE;bU;awy;a O;8ed PLOPHU;bCALYA;g PLOPHU;8ag CWI;bSHYA;0REJANGaaid;8kq;8hh;8jq;8kf;8iy;9l
8lk;8ix;8ny;9m;8hy;8jv;8ip;8jb;8iu;8mx;8hp;8 MBA;9NGGA;aDA;aYJA;9A;6cdag I;bU;bE;amn;a O;ane;a EU;cA
6gcag NG;c;bR;bH;6fn;!a95f 6hxav;0HANGUL CHOSEONGpyuq;hjx;hkd;hpz;gtht;h-SSANGKIYEOK;hkv;h-SSANGTIKEUT
huq;hjx;h-SSANGPIEUP;hzg;hkd;hpz;hup;fshht;hkv;id;fpqkdon;hup;hkz;fxojx;fsfxx;hkz;fzakz;f SSANGTHIEUTH
folkz;fyvkd;f SSANGYEORINHIEUH;!a980 0JAVANESEag PANYANGGA;bCECAK;bLAYAR;bWIGNYAN;9a A;bI KAWI;c;amo
a U;ail CEREK;ahh LELET;i RASWADI;a E;amn;a O;aid;c SASAK;cxi;akq;cxi;ahh;any;cxi;bm;ahyxi;anmqs;ahy
akn;cqs;bp;cqs;aiyxi;ajq;cxi;akf;cqs;aiy;bl;cxi;alk;cxi;aix;bu;bp;c AGUNG;ajb;amx;ajvxi;cqs;c;ahp
9g CECAK TELU;8cdag TARUNG;eOLONG;dWULU;h MELIK;dSUKU;h MENDUT;dTALING;dDIRGA MURE;dPEPET;8gcag KERET
dPENGKAL;dCAKRA;8 PANGKON;8ar RERENGGAN;9j RERENGGAN;8 PADA ANDAP;eMADYA;eLUHUR;eWINDU;ePANGKAT
eLINGSA;fUNGSI;eADEG;i ADEG;ePISELEH;8di PADA PISELEH;!a9cf 8 PANGRANGKEP;8coej;abh;be;aaq;abf;bm;adz
abr;bl;acn;!a9de 8 PADA TIRTA TUMETES;eISEN-ISEN;0MYANMARaa SHANkr;ehv;eoc;elp;fv;8g SHAN SAW
7klaa SHAN REDUPLICATION;7aa TAI LAINGhy;jxf;jkq;kr;jnm;joc;jkp;jir;jlp;7 TAI LAINGcoej;jbh;ke;jaq;jbf
km;jdz;jbr;kl;jcn;7aa TAI LAINGrr;jkf;kw;jlk;kv;!aa00 0CHAMaa A;7I;7U;7E;6mn;6 O;6id;7c;6kq;7r;6 NGUE
6hh;7v;6 CHHA;6nm;6oc;6 NHUE;9A;9JA;6jq;6im;6kf;7w;6 NUE;6iy;6kp;6il;6 PPA;6jl;6lk;7v;6 MUE;6ix;6 BBA
6iu;7p;6jb;6sc;6mr;6jv;6hp;4cdagll;8 I;8mo;8 EI;9U;8yf;8 O;8mn;8ne;8 UE;4gcagiu;9p;8jb;8mx
!aa40 4aaam K;9G;9NG;4gcagam NG;4aaam CH;9T;9N;9P;9Y;9R;9L;9SS;4gcagam M;bH;!aa50 4coej;6bh;7e;6aq;6bf
7m;6dz;6br;7l;6cn;!aa5c 5m SPIRAL;6is;6akis;6geis;0MYANMARaa KHAMTIkq;gny;ghv;gnm;goc;ghy;gkn;gik;gkp
gir;gkw;giy;gjv;ghp;g HHA;gxf;7klaa KHAMTI REDUPLICATION;7aa KHAMTI XA;guu;gip;7 LOGOGRAM KHAMTI OAY
oQN;oHM;7au AITONew;fbh;ge;8a AITONip;8g PAO KARENed;aTAI LAINGed-2;m5;8a SHWE PALAUNGhv;nj
0TAI VIETaafs KO;aey KO;afs KHO;aey KHO;afs KHHO;aey KHHO;afs GO;aey GO;afs NGO;aey NGO;afs CO;aey CO
afs CHO;aey CHO;afs SO;aey SO;afs NYO;aey NYO;afs DO;aey DO;afses;aeyes;afs THO;aey THO;afs NO;aey NO
afs BO;aey BO;afs PO;aey PO;afs PHO;aey PHO;afs FO;aey FO;afs MO;aey MO;afs YO;aey YO;afs RO;aey RO
afs LO;aey LO;afs VO;aey VO;afs HO;aey HO;afs O;aey O;8 MAI KANG;8cdll;a I;bUE;c;bE;bO;8 MAI KHIT
8cd IA;bUEA;cA;bAUE;cY;cN;cM;8ed MAI EK;fNUENG;fTHO;fSONG;!aadb 8au KON;bNUENG;bSAM;bHO HOI;bKOI KOI
0MEETEI MAYEKaa E;fO;ehv;fy;ekn;eik;ekp;eir;elp;ehj;emr;ccdagmo;gnh;g AAI;gne;g AAU;c CHEIKHAN
dAHANG KHUDAM;eNJI;ciz REPETITIONav;czd REPETITIONav;ccdagfj;cfn;!ab01 0ETHIOPICiz TTHU;eI;eAA;eEE;f
eO;!ab09 bDDHU;eI;eAA;eEE;f;eO;!ab11 cZU;dI;dAA;dEE;e;dO;!ab20 bCCHHA;fU;fI;fAA;fEE;g;fO;!ab28 bBBA;dU
dI;dAA;dEE;e;dO;!ab30 0ndadaauxia;6 Ack-SCHWA;7BLACKLETTER E;6ux E;6 Eab FLOURISH;7LENIS F;6oe Gabjizh
6 Labcp LAZY S;aakawcs;bwec;7Mabjizh;7Nabjizh;7ENGabjizh;7BLACKLETTER O;kabas;6ez Oabas;6cpyf
6diyfabas;dxas;8 Oez-O;eabas;6 STIRRUP R;3aadac Rabaj LEG;3daa R WITHOUT HANDLE;6ak R;6 Rabjizh
6ak Rabjizh;6oe R;aabec;6 BASELINE ESH;7Uabfeaj LEG;8eaabfeaj LEG;8I;6di UI;6 Uabarbg;6vn;8abfsajec
dr SERIF;6 Xabfsajec;aepar LEG;iaofsajec;jb SERIF;7Yabfeaj LEG;0kufdabcpfd;2aaad HENG;7Labcp LAZY S
aawcs;7Uabarbg;0ndadaa SAKHA YAT;6jp E;6ezyf;6 UO;6cpia;0GREEKaaadachi;0ndadaa DZgpabdjbg;7TSgpabdjbg
6di Rabawcs;0kuaaaddi W;5rkk;5jkk;!ab70 0CHEROKEEadaa A;dE;dI;dO;dU;dV;ckq;cid;c GE;eI;eO;eU;eV;chp
cwb;c HI;eO;eU;eV;cjb;c LE;eI;eO;eU;eV;cix;c ME;eI;eO;cye;ciy;c HNA;dNAH;eE;eI;eO;eU;eV;dQUA;fE;fI;fO
fU;fV;cjv;c S;eE;eI;eO;eU;eV;ckf;cjq;c DE;cyk;c DI;dTI;dDO;eU;eV;eLA;dTLA;fE;fI;fO;fU;fV;cqh;c TSE;fI
fO;fU;fV;cmx;c WE;eI;eO;eU;eV;ciu;0MEETEI MAYEKaa KOK;fSAM;fLAI;fMIT;eil;fy;e CHIL;fTIL;fKHOU;fNGOU
fTHOU;fWAI;fYANG;fHUK;fUN;fI;fPHAM;fATIYA;fGOK;fJHAM;fRAI;elk;e JIL;fDIL;fGHOU;fDHOU;fBHAM;fKOKzt
fLAIzt;fMITzt;eilzt;fyzt;e TILzt;fNGOUzt;fIzt;ccdag ONAP;hINAP;hANAP;hYENAP;hSOUNAP;hUNAP;hCHEINAP
hNUNG;c CHEIKHEI;dLUM IYEK;dAPUN IYEK;!abf0 ccoej;ebh;fe;eaq;ebf;fm;edz;ebr;fl;ecn
!d7b0 0HANGUL JUNGSEONG O-YEO;jO-I;hYO-A;lE;kEO;hU-YEO;jI-I;gxu-AE;jO;g EU-A;kEO;l;kO;hI-YA-O;lE;kEO;l
jO-I;jYO;kU;jI;hARAEA-A;nE;!d7cb 8ONGSEONGsmxx;iuo;g SSANGTIKEUT;sjx;gpyjx;ikd;kht;ipz;iuo;ion
ht-SSANGKIYEOK;ihtkz;g SSANGRIEULup;gptuqkz;ijxkv;kur;i-YESIEUNG;lORINHIEUHkz;g KAPYEOUNRIEUL
gsh-NIEUN;jSSANGNIEUN;g SSANGMIEUM;gshjxkd;ipz;gpqkv;ixxur;iuq;g SSANGPIEUP;gpqkdkv;ipz;iuo;gyzuq;izg
gxoht;ikv;gyzsb;ipz;iuo;ion;ikz;g PANSIOSjx;ozg;hYESIEUNGuq;pkz;gxbjx;i-SSANGPIEUP;gza;golkd;ion
!fb00 0ndadfg FF;8I;8L;8FI;9L;6ep S T;6 ST;!fb13 0ARMENIANadfg MEN NOW;hECH;hINI;dVEW NOW;dMEN XEH
!fb1d 0HEBREWaa YODab HIRIQ;6ui JUDEO-SPANISH VARIKA;6fg YIDDISH YOD YOD PATAH;6aa ALTERNATIVEyl
9WIDEdn;d DALET;dwb;dqf;d LAMED;damxh;dwj;d TAV;9ALTERNATIVEchag;8luablubo;c SINbo;cjdaolubo;g SINbo
8dnab PATAH;dQAMATS;dMAPIQ;8 BETabjd;8plabjd;8 DALETabjd;8wbab MAPIQ;8 VAVabjd;8rbabjd;!fb38 8 TETabjd
9YODabjd;8amqfabjd;8qfabjd;8 LAMEDabjd;!fb3e 8xhabjd;!fb40 8kxabjd;8nbabjd;!fb43 8amuwabjd;8uwabjd
!fb46 8 TSADIabjd;9QOFabjd;8wjabjd;8luabjd;8 TAVabjd;9VAVab HOLAM;9BETab RAFE;8qfab RAFE;8uwab RAFE
6fgdn LAMED;0zjaadn WASLAaiae;dmae;4 BEEHaiae;amae;apae;9byae;5PEHaiae;9mae;9pae;8byae;5BEHEHaiae;bmae
bpae;abyae;5TTEHEHaiae;cmae;cpae;bbyae;6EHEHaiae;bmae;bpae;abyae;6TEHaiae;amae;apae;9byae;5VEHaiae
9mae;9pae;8byae;5PEHEHaiae;bmae;bpae;abyae;5DYEHaiae;amae;apae;9byae;5NYEHaiae;amae;apae;9byae
5TCHEHaiae;bmae;bpae;abyae;aEHaiae;dmae;dpae;cbyae;5DDAHALaiae;cmae;6AHALaiae;bmae;6ULaiae;9mae
6DALaiae;amae;5JEHaiae;9mae;5RREHaiae;amae;5KEHEHaiae;bmae;bpae;abyae;5GAFaiae;9mae;9pae;8byae
6UEHaiae;amae;apae;9byae;5NGOEHaiae;bmae;bpae;abyae;4it GHUNNAaiae;emae;4 RNOONaiae;bmae;bpae;abyae
4qqabeuahaiae;dmae;6 GOALaiae;cmae;cpae;bbyae;7DOACHASHMEEaiae;jmae;jpae;ibyae;4eu BARREEaiae;emae
ebhlahaiae;kmae;3uboah;7l;5ecyah;9l;4aqcyah;9l;8bxdaah;dl;4bfcyah;9l;4akateaal;4becyrzah;bl;4ec
4adryah;9l;4 WASLAah;!fbd3 3a NGaiae;8mae;8pae;7byae;5Uaiae;7mae;4yfaiae;7mae;4xuaiae;7mae
4 Uabhlahaiae;5VEaiae;8mae;5KIRGHIZyfaiae;fmae;cxuaiae;fmae;5Eaiae;7mae;7pae;6byae
5UIGHUR KAZAKH KIRGHIZdncrapae;ubyae;2fgeuabhlahabdnaiae;hmae;e AEaiae;imae;emtaiae;hmae;e Uaiae;hmae
eyfaiae;hmae;exuaiae;hmae;e Eaiae;hmae;hpae;4 UIGHUR KIRGHIZeuabhlahabdncraiae;ymae;ypae
2aa FARSIeuaiae;dmae;dpae;cbyae;2fgeuabhlahabeoaiae;egaaiae;ecaaiae;edncraiae;eeuaiae;4yiabeoaiae
8gaaiae;9waiae;8caaiae;8dncraiae;8euaiae;4zcabeoaiae;8gaaiae;9waiae;8caaiae;8dncraiae;8euaiae
4 THEHabeoaiae;bcaaiae;bdncraiae;beuaiae;4eoabgaaiae;8caaiae;4gaabeoaiae;8caaiae;5wabeoaiae;8gaaiae
8caaiae;4mqabeoaiae;8gaaiae;9waiae;8caaiae;4vsabgaaiae;8caaiae;4ypabeoaiae;8gaaiae;9waiae;8caaiae
4ryabgaaiae;8caaiae;4 ZAHabcaaiae;4ouabeoaiae;8caaiae;5wabeoaiae;8caaiae;4vpabeoaiae;8gaaiae;9waiae
8caaiae;8dncraiae;8euaiae;4taabgaaiae;8caaiae;8dncraiae;8euaiae;4qfabdnaiae;8eoaiae;8gaaiae;9waiae
8nnaiae;8caaiae;8dncraiae;8euaiae;4nnabeoaiae;8gaaiae;9waiae;8caaiae;8dncraiae;8euaiae;4caabeoaiae
8gaaiae;9waiae;8caaiae;8dncraiae;8euaiae;4itabeoaiae;8gaaiae;9waiae;8caaiae;8dncraiae;8euaiae
4qqabeoaiae;8caaiae;8dncraiae;8euaiae;4euabeoaiae;8gaaiae;9waiae;8caaiae;8dncraiae;8euaiae
4 THALabljdnaiae;4psabljdnaiae;4dncrabljdnaiae;4 SHADDAab DAMMATANaiae;eKASRATANaiae;dvoaiae;dyqaiae
dueaiae;dljdnaiae;4euabhlahabpsamae;ewtamae;ecaamae;eitamae;edncramae;eeuamae;4yiabpsamae;8wtamae
8caamae;8itamae;8dncramae;8euamae;4zcabpsamae;8wtamae;8caamae;8itamae;8dncramae;8euamae;4 THEHabpsamae
bwtamae;bcaamae;bitamae;bdncramae;beuamae;4vpabdncramae;8euamae;4taabdncramae;8euamae;4qfabdnamae
8nnamae;8caamae;8dncramae;8euamae;4nnabcaamae;8dncramae;8euamae;4caabdnamae;8caamae;4itabpsamae
8wtamae;8caamae;8itamae;8dncramae;8euamae;4dncrabljdnamae;4euabpsamae;8wtamae;8caamae;8itamae
8dncramae;8euamae;8hlahabeoapae;egaapae;fwapae;ecaapae;eqqapae;4yiabeoapae;8gaapae;9wapae;8caapae
8qqapae;4zcabeoapae;8gaapae;9wapae;8caapae;8qqapae;4 THEHabcaapae;4eoabgaapae;8caapae;4gaabeoapae
8caapae;5wabeoapae;8caapae;4mqabeoapae;8gaapae;9wapae;8caapae;4vsabgaapae;9wapae;8caapae;4ypabeoapae
8gaapae;9wapae;8caapae;4ryabgaapae;4 ZAHabcaapae;4ouabeoapae;8caapae;5wabeoapae;8caapae;4vpabeoapae
8gaapae;9wapae;8caapae;4taabgaapae;8caapae;4qfabeoapae;8gaapae;9wapae;8nnapae;8caapae;4nnabeoapae
8gaapae;9wapae;8caapae;8qqapae;4caabeoapae;8gaapae;9wapae;8caapae;4itabeoapae;8gaapae;9wapae;8caapae
8qqapae;4qqabeoapae;8caapae;8ljdnapae;4euabeoapae;8gaapae;9wapae;8caapae;8qqapae;8hlahabcabyae;eqqbyae
4yiabcabyae;8qqbyae;4zcabcabyae;8qqbyae;4 THEHabcabyae;bqqbyae;4mqabcabyae;8qqbyae;4ntabcabyae;8qqbyae
4qfabnnbyae;8cabyae;4nnabcabyae;4itabcabyae;8qqbyae;4euabcabyae;8qqbyae;4 SHADDAabvobyae;dyqbyae
duebyae;4ryabdncraiae;8euaiae;4ouabdncraiae;8euaiae;5wabdncraiae;8euaiae;4mqabdncraiae;8euaiae
4ntabdncraiae;8euaiae;4gaabdncraiae;8euaiae;4eoabdncraiae;8euaiae;4gwabdncraiae;8euaiae;4vsabdncraiae
8euaiae;4ypabdncraiae;8euaiae;4ntabeoaiae;8gaaiae;9waiae;8caaiae;8psaiae;4mqabpsaiae;4vsabpsaiae
4ypabpsaiae;4ryabdncramae;8euamae;4ouabdncramae;8euamae;5wabdncramae;8euamae;4mqabdncramae;8euamae
4ntabdncramae;8euamae;4gaabdncramae;8euamae;4eoabdncramae;8euamae;4gwabdncramae;8euamae;4vsabdncramae
8euamae;4ypabdncramae;8euamae;4ntabeoamae;8gaamae;9wamae;8caamae;8psamae;4mqabpsamae;4vsabpsamae
4ypabpsamae;4ntabeoapae;8gaapae;9wapae;8caapae;4mqabqqapae;4ntabqqapae;4ryabcaapae;4mqabeobyae;8gabyae
9wbyae;4ntabeobyae;8gabyae;9wbyae;4ryabcabyae;4 ZAHabcabyae;4dnabzramae;biae;0ORNATEarcl;7jcl
0zjfg RAHIMAHU ALLAAH;7DI ALLAAHU ANH;lAA;lUM;nAA;mNNA;5SALLALLAAHU ALAYHImx-AALIH;5ALAYHI AS-SALAAM
bM AS-SALAAM;cAA AS-SALAAM;b AS-SALAATU WAS-SALAAM;5QUDDISA SIRRAH
5SALLALLAHU ALAYHI WAAALIHEEmx-SALLAM;5ALAYHAA AS-SALAAM;5TABAARAKAmx-TAAALAA;5RAHIMAHUM ALLAAH
4zcabeoabcaapae;8gaabeoamae;fpae;ccaapae;9wabcaapae;8caabeoapae;cgaapae;dwapae;4eoabcaabgaamae;fpae
4gaabcaabeuamae;cdncramae;4mqabgaabeoapae;8eoabgaapae;cdncramae;8caabgaamae;fpae;ceoapae;ccaamae;fpae
4vsabgaabgaamae;fpae;8caabcaamae;4ntabgaabcaamae;fpae;8eoabeuamae;8caabgwamae;fpae;ccaamae;fpae
4ypabgaabdncramae;9wabcaamae;fpae;4ryabcaabgaamae;fpae;ccaapae;ceuamae;4ouabeoabcaamae;8caabcaamae
fpae;cdncramae;5wabcaabcaamae;ceuamae;cdncramae;4vpabgwabcaamae;fpae;4taabcaabgaamae;ccaamae
4nnabgaabcaamae;ceuamae;cdncramae;8eoabeoapae;fmae;8gwabcaamae;fpae;8caabgaamae;fpae;4caabgaabeoapae
ccaapae;ceuamae;8eoabgaapae;ccaapae;8gwabeoapae;ccaapae;!fd92 8eoabgwapae;4qqabcaabeoapae;ccaapae
4itabgaabcaapae;cdncramae;8eoabcaamae;fpae;cdncramae;8caabeuamae;cdncramae;4euabcaabcaamae;fpae
4yiabgwabeuamae;4zcabeoabeuamae;cdncramae;8gwabeuamae;cdncramae;8caabeuamae;cdncramae;4eoabcaabeuamae
8gaabdncramae;8caabdncramae;4mqabgwabdncramae;4vsabgaabeuamae;4ntabgaabeuamae;4ypabgaabeuamae
4nnabeoabeuamae;8caabeuamae;4euabgaabeuamae;8eoabeuamae;8caabeuamae;4caabcaabeuamae;4taabcaabeuamae
4itabgaabeuamae;4taabcaabgaapae;4nnabgaabcaapae;4ouabcaabeuamae;4qfabcaabeuamae;4itabeoabgaapae
4caabgwabeuamae;4nnabeoabcaapae;4qfabcaabcaamae;4nnabeoabcaamae;4itabeoabgaamae;4eoabgaabeuamae
4gaabeoabeuamae;4caabeoabeuamae;4vpabcaabeuamae;4yiabgaabeuamae;4qfabcaabcaapae;4ouabeoabcaapae
4vsabcaabcaapae;4mqabgwabeuamae;4itabeoabeuamae;!fdcf 4 SALAAMUHU ALAYNAA
!fdf0 8LA USED AS KORANICffagaiae;5QALA USED AS KORANICffagaiae;5ALLAHaiae;6KBARaiae;5MOHAMMADaiae
5SALAMaiae;5RASOULaiae;5ALAYHEaiae;5WASALLAMaiae;5SALLAaiae;aLLAHOU ALAYHE WASALLAM;5JALLAJALALOUHOU
0RIALag;0zjfg BISMILLAH AR-RAHMAN AR-RAHEEM;5SUBHAANAHUmx TAAALAA;5AZZAmx JALL;0VARIATION SELECTOR-1
j2;j3;j4;j5;j6;j7;j8;j9;j10;k1;k2;k3;k4;k5;k6;0PRESENTATIONaenfatet;ixget;khoff;iiv;imk;iewav;ifzav
iarbtnoba;jjbtno BRAKCET;jxtl;!fe20 0jafgarcg;5jcg;2akcsarcg;7jcg;2dharcg;5jcg;2 CONJOININGdh
2fgarcgal;5jcgal;2csarcgal;5jcgal;2dharcgal;5jcgal;2 CONJOININGdhal;2tj TITLOarcg;bjcg
0PRESENTATIONaenfatbebo LEADER;i EMiq;ivbiq;ifsfi;i WAVYfsfi;iarcl;jjcl;jrloba;jjloba;jrjrkyba
jjjrkyba;jrbpnoba;jjbpnoba;jrakfqba;jjakfqba;jrfqba;jjfqba;jrhaba;jjhaba;jrbthaba;jjbthaba;0SESAMEbo
0ef SESAMEbo;0PRESENTATIONaenfatarbsba;jjbsba;0DASHEDwh;0CENTRELINEwh;0WAVYwh;0gn WAVYwh;0DASHEDfsfi
0CENTRELINEfsfi;0WAVYfsfi;0zlet;2xget;2hoff;!fe54 2mk;2iv;2fzav;2ewav;2 EMiq;2arcl;3jcl;3rloba;3jloba
3rjrkyba;3jjrkyba;2duag;2tv;2dw;2chag;2rg-MINUS;2kbczag;2foczag;2jeag;!fe68 2nsif;2 DOLLARag
3PERCENTag;3COMMERCIAL AT;!fe70 1jzraiae;2 TATWEELabzrah;3DAMMATANaiae;2gr FRAGMENT;2 KASRATANaiae
!fe76 2voaiae;4byae;2yqaiae;4byae;2ueaiae;4byae;2 SHADDAaiae;9byae;4UKUNaiae;8byae;2aahlaiae
4dnab MADDAahaiae;hmae;8hlahaiae;dmae;4mtabhlahaiae;dmae;4dnabhlalaiae;dmae;4euabhlahaiae;dmae;dpae
cbyae;4dnaiae;7mae;4yiaiae;7mae;7pae;6byae;4zc MARBUTAaiae;fmae;6aiae;7mae;7pae;6byae;4 THEHaiae;amae
apae;9byae;4eoaiae;7mae;7pae;6byae;4gaaiae;7mae;7pae;6byae;5waiae;7mae;7pae;6byae;4 DALaiae;9mae
5THALaiae;amae;4psaiae;7mae;4wtaiae;7mae;4mqaiae;7mae;7pae;6byae;4ntaiae;7mae;7pae;6byae;4vsaiae;7mae
7pae;6byae;4ypaiae;7mae;7pae;6byae;4ryaiae;7mae;7pae;6byae;4 ZAHaiae;9mae;9pae;8byae;4ouaiae;7mae;7pae
6byae;5waiae;7mae;7pae;6byae;4vpaiae;7mae;7pae;6byae;4taaiae;7mae;7pae;6byae;4qfaiae;7mae;7pae;6byae
4nnaiae;7mae;7pae;6byae;4caaiae;7mae;7pae;6byae;4itaiae;7mae;7pae;6byae;4qqaiae;7mae;7pae;6byae
4mtaiae;7mae;4dncraiae;9mae;4euaiae;7mae;7pae;6byae;2fgnnabdnab MADDAahaiae;lmae;chlahaiae;hmae;flaiae
hmae;biae;bmae;!feff 0ZERO WIDTH NO-BREAKmm;!ff01 0FULLWIDTHewav;9fcav;9duag;9 DOLLARag;aPERCENTag;9tv
9oy;9arcl;ajcl;9dw;9chag;9et;9rg-MINUS;9hoff;9if;9coej;bbh;ce;baq;bbf;cm;bdz;bbr;cl;bcn;9iv;9mk
9kbczag;9jeag;9foczag;azav;9 COMMERCIAL AT;9juacaa A;gB;gC;gD;gE;gF;gG;gH;gI;gJ;gK;gL;gM;gN;gO;gP;gQ
gR;gS;gT;gU;gV;gW;gX;gY;gZ;9arbsba;9nsif;9ajbsba;9bdfr;9fsfi;9eefr;9juadaa A;gB;gC;gD;gE;gF;gG;gH;gI
gJ;gK;gL;gM;gN;gO;gP;gQ;gR;gS;gT;gU;gV;gW;gX;gY;gZ;9arloba;atfi;ajloba;9cs;9arbtcl;ajbtcl
0HALFWIDTHxghoff;9arhaba;ajhaba;9xget;9 KATAKANAawbo;ja WO;kad A;nI;nU;nE;nO;miu;mxu;m YO;nTU
i-HIRAGANA PROLONGEDpwav;iaa A;lI;lU;lE;lO;kid;k KI;mU;mE;mO;kjv;k SI;mU;mE;mO;kjq;k TI;mU;kyk;kes;kiy
k NI;mU;mE;mO;khp;k HI;mU;kwb;k HO;kix;k MI;kye;k ME;mO;kiu;kxu;k YO;kip;k RI;mU;mE;mO;kmx;k N;ivkpwav
i SEMI-VOICEDpwav;aHANGULvd;gaaop;i SSANGKIYEOK;iopkd;ism;kpz;kkz;ipy;i SSANGTIKEUT;ipt;kht;kuq;kjx
kkd;kon;kur;kkz;ish;ipq;i SSANGPIEUP;ipqkd;iyz;ixo;isf;ixb;iza;iub;iwd;jp;iol;iyv;!ffc2 i A;kE;iiu
i YAE;jEO;k;!ffca jYEO;l;jO;imx;i WAE;iyf;!ffd2 i YO;jU;jWEO;l;kI;ixu;!ffda i EU;jYI;jI
!ffe0 0FULLWIDTH CENTag;aPOUNDag;9lqag;9dh;9 BROKENea;aYENag;aWONag;!ffe8 0HALFWIDTH FORMScxat;9bwaf
9faaf;9bbaf;9daaf;9bpbs;atbq;!fff9 0INTERLINEAR ANNOTATION ANCHOR;mem;m TERMINATOR
0OBJECT REPLACEMENTln;0REPLACEMENTln;!10000 0LINEAR Biz B008 A;d38 E;d28 I;d61 O;d10 U;d01kf;d45 DE
d07 DI;d14 DO;d51 DU;e7nm;d46 JE;!1000d d36 JO;d65 JU;d77id;d44 KE;d67 KI;d70 KO;d81 KU;e0ix;d13 ME
d73 MI;d15 MO;d23ye;d06iy;d24 NE;d30 NI;d52 NO;e5 NU;d03il;d72uw;d39wz;d11 PO;d50 PU;d16 QA;d78 QE
d21 QI;d32 QO;!10028 d60ip;d27 RE;d53 RI;d02 RO;d26 RU;d31jv;d09 SE;d41 SI;d12 SO;d58 SU;e9jq;d04yk
d37 TI;d05es;d69 TU;d54mx;d75 WE;d40 WI;e2 WO;!1003c d17uu;d74 ZE;!1003f d20 ZO;e5 A2;d43 A3;d85ne
d71 DWE;d90 DWO;d48 NWA;d29 PU2;d62 PTE;d76 RA2;d33 RA3;d68 RO2;e6 TA2;d87 TWE;d91be;!10050 8au B018
e9;d22;d34;d47;e9;d56;d63;e4;d79;d82;e3;e6;e9;!10080 8 IDEOGRAM B100 MAN;l2 WOMAN;l4 DEER;l5 EQUID
mF MARE;mM STALLION;l6F EWE;mM RAM;l7Foi-GOAT;mMwb-GOAT;l8F SOW;mM BOAR;l9F COW;mM BULL;k20 WHEAT
l1 BARLEY;l2 OLIVE;l3 SPICE;l5 CYPERUS;9MONOGRAM B127 KAPO;l8 KANAKO;9IDEOGRAM B130 OIL;l1 WINE;l2
9MONOGRAM B133 AREPA;l5 MERI;9IDEOGRAM B140 BRONZE;l1 GOLD;l2;l5 WOOL;l6;k50;l1ki;l2;l3;l4
9MONOGRAM B156 TURO2;9IDEOGRAM B157;l8;l9 CLOTH;k60;l1;l2 GARMENT;l3 ARMOUR;l4;l5;l6;l7;l8;l9;k70;l1
l2;l3 MONTH;l4;l6 TREE;l7;l8;l9;k80;l1;l2;l3;l4;l5;l9;k90;l1 HELMET;j220 FOOTSTOOL;l5 BATHTUB
k30 SPEAR;l1af;l2;l3 SWORD;l4;l6;k40 WHEELED CHARIOT;l1 CHARIOT;l2 CHARIOT FRAME;l3 WHEEL;l5;l6
9MONOGRAM B247 DIPTE;9IDEOGRAM B248;l9;k51;l2;l3;l4 DART;l5;l6;l7;l8;l9;iVESSEL B155;q200;s1;s2;s3;s4
s5;s6;s7;s8;s9;r10;s1;s2;s3;s4;s5;s6;s7;s8;s9;r21;s2;s6;s7;s8;s9;r50;q305;!10100 0AEGEANzdemfi;abo
6xaav;!10107 6dubh;9e;8aq;8bf;9m;8dz;8br;9l;8cn;8gm;8ex;8hs;8mi;8ib;8ml;8fp;8oa;8fw;8bhay;9eay;8aqay
8bfay;9may;8dzay;8bray;9lay;8cnay;8bhaz;9eaz;8aqaz;8bfaz;9maz;8dzaz;8braz;9laz;8cnaz;8gmaz;8exaz;8hsaz
8miaz;8ibaz;8mlaz;8fpaz;8oaaz;8fwaz;!10137 6 WEIGHT BASE UNIT;eFIRSTwn;eSECONDwn;dunwn;d FOURTHwn
7DRY MEASURE FIRSTwn;7LIQUID MEASURE FIRSTwn;7MEASURE SECONDwn;eunwn;0GREEK ACROPHONIC ATTICbhfv;ocg
o DRACHMA;nm;mib;mbmay;pz;mibaz;mbmzb;mgmzb;mibzb;mbhayzb;nmayzb;nhazzb;nmazzb;owm;mgmwm;mibwm;mbhaywm
nmaywm;nhazwm;mgmazwm;mibazwm;mgm MNAS;hHERAEUMbh PLETHRON;hTHESPIANbh;hHERMIONIANbh;hEPIDAUREANbe
hTHESPIANbe;hCYRENAICbe DRACHMAS;hEPIDAUREANbe DRACHMAS;hTROEZENIANbm;rgm;tghae;hHERMIONIANgm
hMESSENIANgm;hTHESPIANgm;phs;iROEZENIANib;tghae;hHERMIONIANib;hTHESPIANib;pbhay;paqay;hEPIDAUREANbmay
hTROEZENIANbmay;iHESPIANbmay;hCARYSTIANbmay;hNAXIANbmay;hTHESPIANbhaz;qmaz;hDELPHICbm MNAS
hSTRATIANib MNAS;5bhcgag;bghae;6exsag;5aqkmag;5 YEARag;6TALENTag;6DRACHMAag;6OBOLag;5be OBOLSag
5aq OBOLSag;5bf OBOLSag;6m OBOLSag;5 METRETESag;6KYATHOS BASEag;6LITRAag;6OUNKIAag;6XESTESag;6ARTABEag
8OURAag;6GRAMMAag;6TRYBLION BASEag;5ejag;5bhfvag;5 SINUSOIDag;6INDICTIONag;0NOMISMAag
!10190 0ROMAN SEXTANSag;6UNCIAag;6SEMUNCIAag;8XTULAag;6DIMIDIA SEXTULAag;6SILIQUAag;6DENARIUSag
6QUINARIUSag;6SESTERTIUSag;6DUPONDIUSag;6ASag;6CENTURIALag;0ASCIAau;!101a0 0GREEKau TAUsn
!101d0 0PHAISTOS DISCag PEDESTRIAN;hLUMEDqj;gTATTOOEDqj;gCAPTIVE;hHILD;gWOMAN;gHELMET;gGAUNTLET;gTIARA
faf;f BOW;gSHIELD;gCLUB;gMANACLES;iTTOCK;gSAW;gLID;gBOOMERANG;gCARPENTRY PLANE;gDOLIUM;gCOMB;gSLING
gCOLUMN;gBEEHIVE;gSHIP;fki;f HIDE;gBULLS LEG;gCAT;gRAM;gEAGLE;gDOVE;gTUNNY;gBEE;gPLANE TREE;gVINE
gPAPYRUS;gROSETTE;gLILY;gOX BACK;gFLUTE;gGRATER;gSTRAINER;fad AXE;f WAVY BAND;fginpas
!10280 0LYCIANaa A;9E;9B;aH;9G;9D;9I;9W;9Z;9TH;9J;9K;9Q;9L;9M;9N;9MM;9NN;9U;9P;9KK;9R;9S;9T;aT;9AN;8vb
8 H;9X;!102a0 0CARIANaa A;9P2;9D;9L;9UUU;9R;9LD;9A2;9Q;9B;9M;9O;9D2;9T;9SH;b2;a;9C-18;9U;9NN;9X;9N
9TT2;9P;9SS;9I;9E;9UUUU;9K;a2;9ND;8nh;8 G;a2;9ST;b2;9NG;8mo;8 C-39;9TT;9UUU2;8yh;8 MB;b2;b3;b4;9LD2
9E2;9UUU3;!102e0 1OPTIC EPACTqxav;ccobh;fe;eaq;ebf;fm;edz;ebr;fl;ecn;cdugm;eex;ehs;emi;eib;eml;efp;eoa
efw;ebhay;feay;eaqay;ebfay;fmay;edzay;ebray;flay;ecnay;!10300 0OLDsyaa A;8BE;8KE;8DE;8E;8VE;8ZE;7wb
7ng;7 I;7id;7 EL;9M;7vb;7 ESH;8O;7uw;7oi;7 KU;8ER;9S;7yk;7 U;8EKS;8PHE;8KHE;8EF;9RS;7uv;7mo;7nh;7 ESS
5rubh;8m;7gm;7ib;!1032d 5aa YE;8NORTHERN TSE;8SOUTHERN TSE;0GOTHICaa AHSA;9BAIRKAN;9GIBA;9DAGS;9AIHVUS
9QAIRTHRA;9IUJA;9HAGL;9THIUTH;9EIS;9KUSMA;9LAGUS;9MANNA;9NAUTHS;9JER;9URUS;9PAIRTHRA;8fw;8 RAIDA
9SAUIL;9TEIWS;9WINJA;9FAIHU;9IGGWS;9HWAIR;9OTHAL;8cnay;!10350 0OLD PERMICaa AN;dBUR;dGAI;dDOI;dE;dZHOI
dDZHOI;dZATA;dDZITA;dI;dKOKE;dLEI;dMENOE;dNENOE;dVOOI;dPEEI;dREI;dSII;dTAI;dU;dCHERY;dSHOOI;fCHOOI
dYRY;eERU;dO;cut;c EF;chp;c TSIU;dVER;dYER;gI;eAT;dIE;cxu;ciu;c IA;0jalw PERMICaa AN;eDOI;eZATA;eNENOE
eSII;!10380 0UGARITICaa ALPA;arn;a GAMLA;aic;ank;a HO;bWO;aze;a HOTA;bTET;bYOD;aqf;alu;asg;axh;a DHAL
akx;a ZU;bSAMKA;aou;a PU;bSADE;bQOPA;bRASHA;bTHANNA;aow;aes;a I;bU;bSSU;!1039f 8zd DIVIDER
0OLD PERSIANag A;eI;eU;did;d KU;dkq;d GU;eXA;dny;em;d JI;djq;d TU;dkf;d DI;fU;dim;el;dlk;dxf;diy;d NU
dix;d MI;dye;diu;dsc;d VI;dip;d RU;djb;ev;duu;dhj;dmr;dhp;!103c8 d AURAMAZDAA;o-2;oHA;eXSHAAYATHIYA
eDAHYAAUSH;n-2;eBAGA;fUUMISH;bzd DIVIDER;bdubh;ee;dgm;dex;day;!10400 0DESERETacaaep I;eE;eA;fH;eO;dut
bfe I;eE;eA;fH;eO;dut;b AY;cOW;cWU;cYEE;cH;cPEE;cBEE;cTEE;cDEE;cCHEE;cJEE;cKAY;cGAY;cEF;cVEE;cETH
cTHEE;cES;cZEE;cESH;cZHEE;cER;dL;dM;bvb;b ENG;cOI;cEW;8daaep I;eE;eA;fH;eO;dut;bfe I;eE;eA;fH;eO;dut
b AY;cOW;cWU;cYEE;cH;cPEE;cBEE;cTEE;cDEE;cCHEE;cJEE;cKAY;cGAY;cEF;cVEE;cETH;cTHEE;cES;cZEE;cESH;cZHEE
cER;dL;dM;bvb;b ENG;cOI;cEW;0SHAVIANaa PEEP;aTOT;aKICK;aFEE;aTHIGH;aSO;bURE;aCHURCH;aYEA;aHUNG;aBIB
aDEAD;aGAG;aVOW;aTHEY;aZOO;aMEASURE;aJUDGE;aWOE;9hp-HA;9 LOLL;aMIME;aIF;aEGG;9lm;9 ADO;9pg;9 WOOL;aOUT
aAH;aROAR;9kx;9 EAT;aAGE;aICE;9hd;9 OAK;bOZE;bIL;aAWE;bRE;9me;9 AIR;aERR;aARRAY;aEAR;aIAN;aYEW
0OSMANYAaadn;9lk;9jq;9nm;9 XA;9ic;9 DEEL;9ip;9jv;9 SHIIN;9kw;9 CAYN;9kq;9xf;9 QAAF;aKAAF;aLAAN;aMIIN
aNUUN;9mt;9hp;9iu;9 A;aE;aI;aO;aU;9ll;9wy;9ut;!104a0 7coej;9bh;ae;9aq;9bf;am;9dz;9br;al;9cn
!104b0 2AGEacaa A;9mn;9ou;9 AH;aBRA;9hv;9 EHCHA;b;bIN;9hp;9 HYA;aI;9id;9 EHKA;aKYA;9jb;9ix;ay;9 O;bIN
9il;9 EHPA;9jv;9hj;9jq;9 EHTA;9qh;9 EHTSA;9wq;9kw;9 U;9mx;9ic;9kr;9uu;9wu;!104d8 6daa A;9mn;9ou;9 AH
aBRA;9hv;9 EHCHA;b;bIN;9hp;9 HYA;aI;9id;9 EHKA;aKYA;9jb;9ix;ay;9 O;bIN;9il;9 EHPA;9jv;9hj;9jq;9 EHTA
9qh;9 EHTSA;9wq;9kw;9 U;9mx;9ic;9kr;9uu;9wu;!10500 0ELBASANaa A;aBE;aCE;9uv;9 DE;aNDE;aDHE;aEI;b;aFE
aGE;bJE;9wb;9 I;aJE;aKE;aLE;bLE;aME;aNE;9iy;9 NJE;aO;9uw;9 QE;aRE;bRE;aSE;9oi;9yk;9ng;9 U;aVE;aXE;aY
aZE;bHE;aGHE;cAMMA;aKHE;!10530 0CAUCASIAN ALBANIANaa ALT;lBET;lGIM;lDAT;lEB;lZARL;lEYN;lZHIL;lTAS;khv
k YOWD;kwu;k IRB;khj;k LAN;lINYA;lXEYN;lDYAN;lCAR;lJHOX;lKAR;lLYIT;lHEYT;lQAY;lAOR;lCHOY;kvn;k CYAY
lMAQ;lQAR;lNOWC;lDZYAY;lSHAK;lJAYN;kpg;k TYAY;lFAM;lDZAY;lCHAT;lPEN;lGHEYS;lRAT;lSEYK;lVEYZ;lTIWR
lSHOY;lIWN;lCYAW;mAYN;lYAYD;lPIWR;lKIW;!1056f i CITATIONav;0VITHKUQIacaa A;dBBE;eE;dCE;cuv;c DE;eHE
dEI;e;dFE;ckq;!1057c chp;c HHA;dI;eJE;dJE;cid;cjb;crr;c ME;dNE;eJE;dO;cuw;c QA;dRE;!1058c dSE;coi;cyk
cng;c U;dVE;dXE;!10594 dY;dZE;!10597 9daa A;dBBE;eE;dCE;cuv;c DE;eHE;dEI;e;dFE;ckq;!105a3 chp;c HHA;dI
eJE;dJE;cid;cjb;crr;c ME;dNE;eJE;dO;cuw;c QA;dRE;!105b3 dSE;coi;cyk;cng;c U;dVE;dXE;!105bb dY;dZE
!10600 0LINEAR Aag AB001;f2;f3;f4;f5;f6;f7;f8;f9;e10;f1;f3;f6;f7;e20;f1;gF;gM;f2;gF;gM;f3;gM;f4;f6;f7
f8;c028B;cB029;e30;f1;f4;f7;f8;f9;e40;f1;f4;f5;f6;f7;f8;f9;e50;f1;f3;f4;f5;f6;f7;f8;f9;e60;f1;f5;f6;f7
f9;e70;f3;f4;f6;f7;f8;f9;e80;f1;f2;f5;f6;f7;c100-102;cB118;e20;c120B;cB122;f3;e31A;gB;c131C;cB164;e71
e80;f8;e91;c301;e2;e3;e4;e5;e6;e7;e8;e9A;fB;fC;d10;e1;e2;e3A;fB;fC;e4;e5;e6;e7;e8;e9;d20;e1;e2;e3;e4
e5;e6;e7;e8;e9;d30;e1;e2;e3;e4;e5;e6;e7;e8;e9;d40;e1;e2;e3;e4;e5;e6;e7;e8;e9;d50;e1;e2;e3;e4;e5;e6;e7
e8;e9;d60;e1;e2;e3;e4;e5;e6;e7;e8;e9;d70;e1;c400zi;e1zi;e2zi;e3zi;e4zi;e5zi;e6zi;e7zi;e8zi;e9zi;d10zi
e1zi;e2zi;e3zi;e4zi;e5zi;e6zi;e7zi;e8zi;c501;e2;e3;e4;e5;e6;e8;e9;d10;e1;e2;e3;e5;e6;d20;e1;e3;e4;e5
e6;e7;e8;e9;d30;e1;e2;e4;e5;e6;e7;e8;e9;d40;e1;e2;e5;e7;e8;e9;d50;e1;e2;e3;e4;e5;e6;e7;e9;d63;e4;e5;e6
e8;e9;d70;e1;e2;e3;e4;e5;e6;e7;e8;e9;d80;e1;e2;e3;e4;e5;e6;e7;e8;e9;d91;e2;e4;e5;e6;e8;c600;e1;e2;e3
e4;e6;e8;e9;d10;e1;e2;e3;e4;e5;e6;e7;e8;e9;d20;e1;e2;e3;e4;e6;e7;e8;e9;d34;e7;e8;d40;e2;e3;e4;e5;e6;e8
e9;d51;e2;e3;e4;e5;e6;e7;e8;e9;d60;e1;e2;e3;e4;!10740 c701 A;e2 B;e3 D;e4 E;e5 F;e6 H;e7 J;e8 K;e9 L
f-2 L2;g3 L3;g4 L4;g6 L6;d10 W;e1 X;e2 Y;e3hi;e4 ABB;e5 BB;e7 DD;d26 EYYY;d32 JE;!10760 c800;e1;e2;e3
e4;e5;e6;e7;!10780 0kuaaadacll;4ljgsiv;6cggsiv;4ad AE;6ac B;6 Babbg;!10787 7DZgp;babdjbg;dpb;8EZHgp
8abgr;abg;caogr;6ck E;6hrckez E;6 FENGgp;7RAMSki;6ac G;6 Gabbg;6ac Gabbg;6 Habas;6ac H;6 HENGabbg
6mp Jabasaobg;6 LSgp;8Zgp;8ab BELT;6ac Lab BELT;6 Labdjbgao BELT;8EZH;babdjbg;6di Y;aab BELT;6 Oabas
6acyf;6hrhi;6 Q;6di Rabep LEG;iaodjbg;6 Rabgr;awa;6ac R;6 TCgpabpb;8Sgp;babdjbg;8ESHgp;8abdjbg
7Vabajbg;!107b2 6ac Y;4gqffabas;4ckgqffabas;4 BILABIALxc;5DENTALxc;5LATERALxc;5ALVEOLARxc;4djxcabdjbg
4ad Sabpb;!10800 0CYPRIOTiz A;aE;aI;aO;aU;9nm;!10808 9 JO;!1080a 9id;9 KE;bI;bO;bU;9jb;9 LE;bI;bO;bU
9ix;9 ME;bI;bO;9ye;9iy;9 NE;bI;bO;bU;9il;9uw;9wz;9 PO;bU;9ip;9 RE;bI;bO;bU;9jv;9 SE;bI;bO;bU;9jq;9yk
9 TI;9es;9 TU;9mx;9 WE;bI;bO;!10837 aXA;bE;!1083c 9uu;!1083f 9 ZO;0IMPERIAL ARAMAICaaov;ity;ipl;isw
iwb;imt;irb;iwc;i TETH;iws;ivf;iod;ixh;ikx;inb;iyl;iuw;iqt;i QOPH;iwj;ilu;i TAW;!10857 ghxag;gdubh;je
iaq;igm;iex;ibhay;lz;igmaz;0PALMYRENEaaov;bty;bpl;bsw;bwb;bmt;brb;bwc;b TETH;bws;bvf;bod;bxh;bamkx;bkx
bnb;byl;buw;bqt;b QOPH;bwj;blu;b TAW;arbu FLEURON;ajbu FLEURON;9dubh;ce;baq;bbf;cm;bgm;bex
0NABATAEANaaamov;bov;bamty;bty;bpl;bsw;bamwb;bwb;bmt;brb;bwc;b TETH;bamws;bws;bamvf;bvf;bamod;bod
bamxh;bxh;bamkx;bkx;bnb;byl;buw;bqt;b QOPH;bwj;bamlu;blu;b TAW;!108a7 9dubh;ce;baq;bbf;9 CRUCIFORMdubf
9dubm;bgm;bex;bbhay;!108e0 0HATRANaaov;8ty;8pl;8sw-RESH;8wb;8mt;8 ZAYN;8wc;8 TETH;8ws;8vf;8od;8xh;8kx
8nb;8 AYN;8uw;8qt;8 QOPH;!108f4 8lu;8 TAW;!108fb 6dubh;9m;8gm;8ex;8bhay;0PHOENICIANaa ALF;dBET;dGAML
dDELT;cwb;c WAU;dZAI;dHET;dTET;dYOD;cqf;c LAMD;cxh;ckx;c SEMK;cou;cuw;c SADE;dQOF;dROSH;clu;c TAU
adubh;cgm;cex;cbhay;de;caq;!1091f azdem;0LYDIANaa A;9B;9G;9D;9E;9V;9I;9Y;9K;9L;9M;9N;9O;9R;9SS;9T;9U
9F;9Q;9S;9TT;9AN;8vb;8 LY;9NN;9C;!1093f 6gsav;!10980 0MEROITIC HIEROGLYPHICaa A;oE;oI;oO;niu;nmx;nlk
p-2;nil;ox;oy;p-2;n NE;q-2;nip;p-2;njb;nic;n HHA;njv;p-2;n SE;nid;n QA;njq;p-2;nyk;p-2;nes;nkf;mu VIDJ
s-2;9CURSIVEaa A;jE;jI;jO;iiu;imx;ilk;iil;jx;jy;i NE;iip;ijb;iic;i HHA;ijv;jhjv;i SE;iid;i QA;ijq;iyk
ies;ikf;!109bc giwpjpe;ibhcg;g LOGOGRAM RMT;qIMN;gdubh;je;iaq;ibf;jm;idz;ibr;jl;icn;igm;iex;ihs;imi
iib;iml;ifp;!109d2 ibhay;jeay;iaqay;ibfay;jmay;idzay;ibray;jlay;icnay;ibhaz;jeaz;iaqaz;ibfaz;jmaz
idzaz;ibraz;jlaz;icnaz;igmaz;iexaz;ihsaz;imiaz;iibaz;imlaz;ifpaz;ioaaz;ifwaz;ibhayaz;jeayaz;iaqayaz
ibfayaz;jmayaz;idzayaz;ibrayaz;jlayaz;icnayaz;giwbh TWELFTH;jepe;iaqpe;ibfpe;jmpe;idzpe;ibrpe;jlpe
icnpe;igmpe;0KHAROSHTHIaa A;acdag I;fU;edd R;!10a05 e E;fO;!10a0c cnaav;aagakecal;cde;cfj;baid;dc;ckq
dr;!10a15 cny;chv;cnm;!10a19 chy;ckn;cik;ckp;cir;clp;cjq;cim;ckf;dw;ciy;dl;cjl;clk;dv;cix;du;dp;cjb
csc;chj;cmr;cjv;cuu;chp;c KKA;dTTTHA;gA;dVHA;!10a38 bgeaah;c CAUDA;cboal;!10a3f afn;acobh;de;caq;cbf
adugm;cex;cbhay;fz;aiwbhcg;!10a50 acmbo;cadbq;cbq;c CRESCENTea;dMANGALAM;dLOTUS;cis;cakis;c LINES
!10a60 0OLDjw ARABIANaawb;fod;fwc;fxh;f QOPH;fmt;flu;fwj;fty;f TAW;gSAT;fvf;fkx;f KHETH;fqt;fnb;f FE
fdn;f AYN;gDHADHE;fpl;fsw;f GHAYN;gTETH;gZAYN;gDHALETH;fws;f THAW;iETH;ddubh;fib;d NUMERICqr
4k ARABIANaaqq;fnn;fga;fca;fta;fmt;f ES-2;fps;fyi;fzc;f ES-1;fqf;fit;fgw;fvs;f ES-3;fvp;fdn;fou;fyp
f GEEM;gDAL;fow;fry;fwt;f THAL;feu;f THEH;gZAH;ddubh;fgm;fex;!10ac0 0MANICHAEANaaov;cty;c BHETH;cpl
c GHIMEL;csw;cwb;cmt;bg UD;barb;c ZHAYIN;dJAYIN;eHAYIN;cwc;c TETH;cws;cvf;c XAPH;dKHAPH;cod;c DHAMEDH
dTHAMEDH;cxh;ckx;cnb;cyl;c AAYIN;cuw;c FE;cqt;c QOPH;dXOPH;dQHOPH;cwj;clu;c SSHIN;dTAW;afuavah;fl
!10aeb adubh;dm;cgm;cex;cbhay;acmgx;c FLEURON;cakbo WITHINbo;cbo WITHINbo;e;decy;cfivd
!10b00 0AVESTANaa A;9ll;9 AO;bAO;bN;bAN;bE;cE;aE;9wy;9 O;9ut;9 I;9mo;9 U;9nh;9 KE;aXE;bYE;bVE;aGE;bGE
bHE;aCE;aJE;9yk;9ng;9 DE;bHE;aTTE;9uw;9 FE;aBE;bHE;aNGE;cYE;cVE;bE;bYE;bNE;aME;aHME;aYYE;bE;aVE;aRE
aLE;aSE;aZE;9oi;9 ZHE;aSHYE;bSHE;9wb;!10b39 7fuav;0TINYbecydcbhbocm;0zlbecydcbhbocm;0LARGEbecydcbhbocm
6hbodcbecycm;6e RINGSdcbheccm;6hecdcbe RINGScm;0INSCRIPTIONAL PARTHIANaaov;oty;opl;osw;owb;omt;orb;owc
o TETH;ows;ovf;ood;oxh;okx;onb;oyl;ouw;oqt;o QOPH;owj;olu;o TAW;!10b58 mdubh;pe;oaq;obf;ogm;oex;obhay
rz;gHLAVIaaov;nty;npl;nsw;nwb;nmt-AYIN-RESH;nrb;nwc;n TETH;nws;nvf;nod;nxh-QOPH;nkx;nnb;nuw;nqt;nlu
n TAW;!10b78 ldubh;oe;naq;nbf;ngm;nex;nbhay;qz;0PSALTER PAHLAVIaaov;hty;hpl;hsw;hwb;hmt-AYIN-RESH;hrb
hwc;is;hvf;hod;hxh-QOPH;hkx;hnb;huw;hqt;hlu;h TAW;!10b99 fhxav;fdihxav;fbfcyabgl;lbo;!10ba9 fdubh;ie
haq;hbf;hgm;hex;hbhay;!10c00 0OLD TURKICaahm A;cgu A;gE;chm I;cgu I;fE;chm O;eyf;cguyf;chm AB;cgu AB
chm AEB;cgu AEB;chm AG;cgu AG;chm AEG;cgu AEG;chm AD;cgu AD;chm AED;fEZ;cgu EZ;chm AY;cgu AY;chm AEY
cgu AEY;chm AEK;cgu AEK;chm OEK;cgu OEK;chm AL;cgu AL;chm AEL;fELT;gM;fAN;gEN;cgu AEN;chm ENT;cgu ENT
chm ENC;cgu ENC;chm ENY;cgu ENY;fANG;chm ENG;cgu AENG;chm EP;fOP;fIC;fEC;cgu EC;chm AQ;cgu AQ;chm IQ
cgu IQ;chm OQ;cgu OQ;chm AR;cgu AR;chm AER;gS;gES;elm;cgulm;chm ESH;cgu ESH;chm AT;cgu AT;chm AET
cgu AET;chm OT;fBASH;!10c80 4HUNGARIANacaa A;hll;h EB;iAMB;iEC;jNC;jCS;jD;hao;h E;iCLOSE E;hwy;h EF;jG
kY;jH;iI;hmo;h EJ;jK;iAK;iUNK;iEL;kY;jM;hvb;h ENY;iO;hut;h NIKOLSBURGyf;iRUDIMENTAyf;iOEE;iEP;jMP;jR
hfe ER;h ES;kZ;jT;jNT;jTY;jCH;iU;hnh;h NIKOLSBURG UE;iRUDIMENTA UE;iEV;jZ;kS;jNTotag;iUS;!10cc0 edaa A
hll;h EB;iAMB;iEC;jNC;jCS;jD;hao;h E;iCLOSE E;hwy;h EF;jG;kY;jH;iI;hmo;h EJ;jK;iAK;iUNK;iEL;kY;jM;hvb
h ENY;iO;hut;h NIKOLSBURGyf;iRUDIMENTAyf;iOEE;iEP;jMP;jR;hfe ER;h ES;kZ;jT;jNT;jTY;jCH;iU;hnh
h NIKOLSBURG UE;iRUDIMENTA UE;iEV;jZ;kS;jNTotag;iUS;!10cfa ddubh;gm;fgm;fib;fbhay;iz
0HANIFI ROHINGYAaa A;hlk;hil;hjq;hkn;hnm;iy;hhp;hic;hxf;hkf;ip;hip;hyj;huu;hjv;hhj;hid;hkq;hjb;hix;iy
hmx;h KINNAmx;hiu;h KINNAiu;hhh;iy;hsc;fcd A;iI;iU;iE;iO;fav SAKIN;hiy KHONNA;gg HARBAHAY;iTAHALA;kNA
kSSI;!10d30 fcoej;hbh;ie;haq;hbf;im;hdz;hbr;il;hcn;!10e60 0RUMIcobh;7e;6aq;6bf;7m;6dz;6br;7l;6cn;4dugm
6ex;6hs;6mi;6ib;6ml;6fp;6oa;6fw;6bhay;7eay;6aqay;6bfay;7may;6dzay;6bray;7lay;6cnay;4iwbhcg;8fv;8un
7exs;!10e80 0YEZIDIaa ELIF;9BE;8uw;8 PHE;8ng;8 SE;9CIM;aHIM;bHIM;9HHA;9XA;9DAL;9ZAL;8ip;8 RHA;8uu;8nm
8 SIN;8lu;8vs;8yp;8jq;8 ZE;9EYN;9XHEYN;8xf;8sc;aghae;8ta;8qf;8 KHAF;9GAF;8nn;8 MIM;8kx;8 UM;8mt;8 OW
9EW;9HAY;9YOT;9ET;!10eab 6gihlav;8 MADDAav;6 HYPHENATIONav;!10eb0 6aannabboah;8 YOTabbdah
!10f00 0OLD SOGDIANaaov;damov;dty;damty;dpl;dwb;damwb;dmt;drb;dwc;es;dvf;dod;dxh;dkx;damkx;habatgr;dnb
dyl;dghyl;duw;dqt;damqt;habatgr;dwj-AYIN-DALETH;dlu;d TAW;dam TAW;jabatgr;bdubh;ee;daq;dbf;em;dgm;dex
dhs;dbhay;biwbhcg;bfgyl-DALETH;!10f30 0SOGDIANaaov;9ty;9pl;9wb;9mt;9rb;9wc;as;9vf;9od;9xh;9kx;9nb;9yl
9uw;9qt;9wj-AYIN;9lu;9 TAW;aFETH;aLESH;7oblu;7giboal;aecyal;aoah;aecyah;9ogah;cl;9bgah;cl;9epbgal
9wjal;9asal;7dubh;9gm;9ex;9bhay;7cmbeat BARS;iabcy;aqabbo;aenjabcy;9cgbqabbo;!10f70 0OLD UYGHURaaov
cty;cpl-HETH;cmt;crb;camwc;cws;cvf;cod;cxh;ckx;cnb;cuw;cqt;cwj;clu;c TAW;dLESH;agiboah;fl;decyah;hl
acmea;cbe BARS;ecy;dfcy;!10fb0 0CHORASMIANaaov;cadov;cty;cpl;csw;cwb;cmt;c CURLEDmt;crb;cwc;ds;cvf;cod
cxh;ckx;cnb;cyl;cuw;cwj;clu;c TAW;adubh;de;caq;cbf;cgm;cex;cbhay;!10fe0 0ELYMAICaaov;9ty;9pl;9sw;9wb
9mt;9rb;9wc;9 TETH;9ws;9vf;9od;9xh;9kx;9nb;9yl;9uw;9qt;9 QOPH;9wj;9lu;9 TAW;7fgrb-YODH
!11000 0BRAHMIagdy;9e;8fj;8sz;8tc;7a A;8ll;8 I;8mo;8 U;8nh;8dd R;ayh;a L;cL;8 E;8mn;8 O;8ne;8id;9c;8kq
9r;8hh;8ny;8hv;8nm;8oc;8hy;8kn;8ik;8kp;8ir;8lp;8jq;8im;8kf;9w;8iy;9l;8jl;8lk;9v;8ix;9u;9p;8jb;8sc;8hj
8mr;8jv;8hp;8rr;8lw TAMIL LLLA;gyj;g NNNA;6cdagll;a BHATTIPROLUll;bI;amo;a U;anh;add R;cyh;c L;eL;a E
amn;a O;ane;6fn;6is;6akis;6cmbo;8akbo;8fi;8 CRESCENTea;9LOTUS;!11052 6dubh;9e;8aq;8bf;9m;8dz;8br;9l
8cn;8gm;8ex;8hs;8mi;8ib;8ml;8fp;8oa;8fw;8bhay;bz;6coej;8bh;9e;8aq;8bf;9m;8dz;8br;9l;8cn;6aglw TAMILfn
7alw TAMILfe E;jO;6cdaglw TAMILfe E;lO;6aalw TAMILrr;!1107f 6du JOINER;0KAITHIagdy;9e;8fj;7a A;8ll;8 I
8mo;8 U;8nh;8 E;8mn;8 O;8ne;8id;9c;8kq;9r;8hh;8ny;8hv;8nm;8oc;8hy;8kn;8ik;8kp;8 DDDHA;8ir;8 RHA;8lp
8jq;8im;8kf;9w;8iy;9l;8jl;8lk;9v;8ix;9u;9p;8jb;8sc;8hj;8mr;8jv;8hp;6cdagll;a I;amo;a U;anh;a E;amn;a O
ane;6agfn;8ks;6fuag;6 ENUMERATIONag;6duag;6hxav;6akhxav;6is;6akis;6cdagdd R;!110cd 6duagah
!110d0 0SORA SOMPENGaa SAH;ery;e BAH;fCAH;fDAH;fGAH;fMAH;fNGAH;fLAH;fNAH;fVAH;fPAH;fYAH;fRAH;ega;e KAH
fJAH;fNYAH;fAH;fEEH;fIH;fUH;fOH;fEH;fMAE;!110f0 ccoej;ebh;fe;eaq;ebf;fm;edz;ebr;fl;ecn
!11100 0CHAKMAagdy;9e;8fj;7all;8 I;9U;9E;9KAA;aHAA;9GAA;aHAA;9NGAA;9CAA;aHAA;9JAA;aHAA;9NYAA;9TTAA
bHAA;9DDAA;bHAA;9NNAA;9TAA;aHAA;9DAA;aHAA;9NAA;9PAA;aHAA;9BAA;aHAA;9MAA;9YYAA;aAA;9RAA;9LAA;9WAA;9SAA
9HAA;6cdag A;bI;amo;a U;anh;a E;amn;a O;ane;a OI;6 Oav;6neav;6fn;6 MAAYYAA;!11136 6coej;8bh;9e;8aq;8bf
9m;8dz;8br;9l;8cn;6hxav;6is;6akis;6fzav;6aa LHAA;6cdagll;a EI;6aa VAA;!11150 0MAHAJANIaa A;bI;bU;bE;bO
aid;bc;akq;br;any;ahv;anm;aoc;ahy;akn;aik;akp;air;alp;ajq;aim;akf;bw;aiy;bl;ajl;alk;bv;aix;bp;ajb;asc
ajv;ahp;ayj;9gks;8fuag;8hxav;8fg SHRI;!11180 0SHARADAagdy;ae;9fj;8a A;9ll;9 I;9mo;9 U;9nh;9dd R;byh
b L;dL;9 E;9mn;9 O;9ne;9id;ac;9kq;ar;9hh;9ny;9hv;9nm;9oc;9hy;9kn;9ik;9kp;9ir;9lp;9jq;9im;9kf;aw;9iy;al
9jl;9lk;av;9ix;au;ap;9jb;9rr;9sc;9hj;9mr;9jv;9hp;7cdagll;b I;bmo;b U;bnh;bdd R;dyh;d L;fL;b E;bmn;b O
bne;7agfn;9jn;9sz;9tc;7 OM;7is;7akis;7fuag;7em;7 SANDHIav;7agks;7cdklav;7 EXTRAfecdav;8SUTRAav
7cdag PRISHTHAMATRA E;7agcpdy;7coej;9bh;ae;9aq;9bf;am;9dz;9br;al;9cn;7 EKAM;7ag SIDDHAM;7 HEADSTROKE
8CONTINUATIONag;7hxav-1;c2;!111e1 1INHALAjhcobh;ce;baq;bbf;cm;bdz;bbr;cl;bcn;9dugm;bex;bhs;bmi;bib;bml
bfp;boa;bfw;bbhay;ez;!11200 0KHOJKIaa A;8ll;8 I;9U;9E;8mn;8 O;8ne;8id;9c;8kq;8 GGA;8kr;8hh;8ny;8hv;8nm
8 JJA;!11213 8hy;8kn;8ik;8kp;8ir;8lp;8jq;8im;8kf;8 DDDA;8kw;8iy;9l;8jl;8lk;8 BBA;8lv;8ix;9u;9p;8jb;8sc
8jv;8hp;8rr;6cdagll;a I;amo;a U;bE;amn;a O;ane;6agde;8fn;8ks;8 SHADDA;6is;6akis;6zdem;6hxav;6akhxav
6fuag;6ag SUKUN;!11280 0MULTANIaa A;aI;aU;aE;9id;ac;9kq;!11288 ar;!1128a 9ny;9hv;9nm;9 JJA;!1128f 9hy
9kn;9ik;9kp;9 DDDA;9ir;9lp;9jq;9im;9kf;aw;9iy;al;9jl;9lk;!1129f av;9ix;au;ap;9jb;9sc;9jv;9hp;9yj;9 RHA
7hxav;!112b0 0KHUDAWADIaa A;bll;b I;bmo;b U;bnh;b E;bmn;b O;bne;bid;cc;bkq;b GGA;bkr;bhh;bny;bhv;bnm
b JJA;boc;bhy;bkn;bik;bkp;b DDDA;byj;bir;blp;bjq;bim;bkf;cw;biy;cl;bjl;blk;b BBA;blv;bix;cu;cp;bjb;bsc
bhj;bjv;bhp;agde;9cdagll;d I;dmo;d U;dnh;d E;dmn;d O;dne;9agks;bfn;!112f0 9coej;bbh;ce;baq;bbf;cm;bdz
bbr;cl;bcn;!11300 0GRANTHAaggideah;9dy;ae;9fj;!11305 8a A;9ll;9 I;9mo;9 U;9nh;9dd R;cL;!1130f 9wy;9mn
!11313 9ut;9ne;9id;ac;9kq;ar;9hh;9ny;9hv;9nm;9oc;9hy;9kn;9ik;9kp;9ir;9lp;9jq;9im;9kf;aw;9iy;!1132a al
9jl;9lk;av;9ix;au;ap;!11332 9jb;9rr;!11335 9sc;9hj;9mr;9jv;9hp;!1133b 0ja BINDUal;0GRANTHAagks;9jn
7cdagll;b I;bmo;b U;bnh;bdd R;dyh;!11347 bwy;bmn;!1134b but;bne;7agfn;!11350 7 OM;!11357 7nenaav
!1135d 7ag PLUTA;8a VEDICde;fakde;9ddyh;b LL;7cdagdd L;fL;!11366 0ja GRANTHAcoej;cbh;de;caq;cbf;dm;cdz
!11370 aaa A;cid;dy;c VI;cil;!11400 0NEWAaa A;6ll;6 I;6mo;6 U;6nh;6dd R;8yh;8 L;aL;6 E;6mn;6 O;6ne;6id
7c;6kq;7r;6hh;6 NGHA;6ny;6hv;6nm;6oc;6hy;6 NYHA;6kn;6ik;6kp;6ir;6lp;6jq;6im;6kf;7w;6iy;6 NHA;6il;6jl
6lk;7v;6ix;6 MHA;6iu;7p;6 RHA;6jb;6 LHA;6mx;6hj;6mr;6jv;6hp;4cdagll;8 I;8mo;8 U;8nh;8dd R;ayh;a L;cL
8 E;8mn;8 O;8ne;4agfn;6dy;7e;6fj;6ks;6jn;6amde;4 OM;5SIDDHI;4is;4akis;4et;4 GAPvd;4fuag;4coej;6bh;7e
6aq;6bf;7m;6dz;6br;7l;6cn;4aket;4 PLACEHOLDERav;!1145d 5INSERTIONag;5SANDHIav;4aa VEDICde;5gsz;6tc
!11480 0TIRHUTA ANJI;7aa A;9ll;9 I;9mo;9 U;9nh;9dd R;byh;b L;dL;9 E;9mn;9 O;9ne;9id;ac;9kq;ar;9hh;9ny
9hv;9nm;9oc;9hy;9kn;9ik;9kp;9ir;9lp;9jq;9im;9kf;aw;9iy;al;9jl;9lk;av;9ix;au;ap;9jb;9sc;9hj;9mr;9jv;9hp
7cdagll;b I;bmo;b U;bnh;bdd R;dyh;d L;fL;b E;bfe E;bmn;b O;bfe O;bne;7agdy;ae;9fj;an;9ks;9jn;7 GVANG
7fuag;7 OM;!114d0 7coej;9bh;ae;9aq;9bf;am;9dz;9br;al;9cn;!11580 0SIDDHAMaa A;9ll;9 I;9mo;9 U;9nh;9dd R
byh;b L;dL;9 E;9mn;9 O;9ne;9id;ac;9kq;ar;9hh;9ny;9hv;9nm;9oc;9hy;9kn;9ik;9kp;9ir;9lp;9jq;9im;9kf;aw
9iy;al;9jl;9lk;av;9ix;au;ap;9jb;9sc;9hj;9mr;9jv;9hp;7cdagll;b I;bmo;b U;bnh;bdd R;dyh;!115b8 b E;bmn
b O;bne;7agdy;ae;9fj;an;9ks;9 SIDDHAM;7is;7akis;7embo;9ea;7 REPETITIONav-1;l2;l3;7rpfb TEXTav
7hxavab TRIDENTao Uot ORNAMENTS;nhbqm;eRAYSaohbqm;makqm;mgeqm;ckec;fab RAYS;cbakqm;dgeqm;doxqm
d SEPTUPLEqm;dnjao RAYS;hbe ENCLOSURES;if ENCLOSURES;7aaaqjsgh I;9bejsgh I;fmo;9gh U;7cdaggh U;dnh
!11600 0MODIaa A;6ll;6 I;6mo;6 U;6nh;6dd R;8yh;8 L;aL;6 E;6mn;6 O;6ne;6id;7c;6kq;7r;6hh;6ny;6hv;6nm
6oc;6hy;6kn;6ik;6kp;6ir;6lp;6jq;6im;6kf;7w;6iy;7l;6jl;6lk;7v;6ix;7u;7p;6jb;6sc;6hj;6mr;6jv;6hp;6rr
4cdagll;8 I;8mo;8 U;8nh;8dd R;ayh;a L;cL;8 E;8mn;8 O;8ne;4agde;6fj;7n;6 ARDHACANDRA;4is;4akis;4fuag
4ag HUVA;!11650 4coej;6bh;7e;6aq;6bf;7m;6dz;6br;7l;6cn;!11660 2NGOLIANynabcw;9dfyn;9akynabcw;9geynabcw
9ynabakcw;9dfynabcw;fakcw;9cpyn;dabakcw;9 SWIRLyn;habcw;jakcw;9di SWIRLynabakcw;!11680 0TAKRIaa A;7ll
7 I;7mo;7 U;7nh;7 E;7mn;7 O;7ne;7id;8c;7kq;8r;7hh;7ny;7hv;7nm;7oc;7hy;7kn;7ik;7kp;7ir;7lp;7jq;7im;7kf
8w;7iy;8l;7jl;7lk;8v;7ix;8u;8p;7jb;7sc;7hj;7jv;7hp;7yj;6gde;7fj;5cdagll;9 I;9mo;9 U;9nh;9 E;9mn;9 O
9ne;5agfn;7ks;6ajhic;5fuag;!116c0 5coej;7bh;8e;7aq;7bf;8m;7dz;7br;8l;7cn;!11700 0AHOMaaid;7c;6hh;6iy
6jq;6ghjq;6il;6jl;6lk;6ix;6nm;6hv;6im;7p;6jb;7v;6hy;7p;6 A;6kf;7w;7q;6ghkq;6kr;6lv;6oc;6ghlk
!1171d 4gcagbyjb;aip;a LIGATINGip;4cdag A;8ll;8 I;8mo;8 U;8nh;8 E;9AW;9O;8mn;8 AM;4ag KILLER
!11730 4coej;6bh;7e;6aq;6bf;7m;6dz;6br;7l;6cn;4dugm;6ex;4agadhx;6hx;6 RULAI;5u VI;5any;6kn;6ik;6kp;6ir
6lp;6rr;!11800 0DOGRAaa A;7ll;7 I;7mo;7 U;7nh;7 E;7mn;7 O;7ne;7id;8c;7kq;8r;7hh;7ny;7hv;7nm;7oc;7hy
7kn;7ik;7kp;7ir;7lp;7jq;7im;7kf;8w;7iy;8l;7jl;7lk;8v;7ix;8u;8p;7jb;7sc;7hj;7mr;7jv;7hp;7yj;5cdagll;9 I
9mo;9 U;9nh;9dd R;byh;9 E;9mn;9 O;9ne;5agde;7fj;8n;7ks;5fuag;!118a0 0WARANG CITIacaa NGAA;gA;gWI;fxu
fiu;f YO;fmo;fnh;f E;gO;gANG;fkq;f KO;gENY;gYUJ;gUC;gENN;gODD;gTTE;gNUNG;fkf;f AT;hM;gBU;gPU;gHIYO
hOLO;iRR;hAR;gSSUU;hII;gVIYO;cdaa NGAA;gA;gWI;fxu;fiu;f YO;fmo;fnh;f E;gO;gANG;fkq;f KO;gENY;gYUJ;gUC
gENN;gODD;gTTE;gNUNG;fkf;f AT;hM;gBU;gPU;gHIYO;hOLO;iRR;hAR;gSSUU;hII;gVIYO;bcoej;dbh;ee;daq;dbf;em
ddz;dbr;el;dcn;bdugm;dex;dhs;dmi;dib;dml;dfp;doa;dfw;!118ff b OM;0DIVES AKURUaa A;dll;d I;dmo;d U;dnh
d E;!11909 eO;!1190c did;ec;dkq;er;dhh;dny;dhv;dnm;!11915 dhy;dkn;!11918 ep;dir;dlp;djq;dim;dkf;ew;diy
el;djl;dlk;ev;dix;eu;d YYA;dip;djb;dsc;dhj;dmr;djv;dhp;drr;duu;bcdagll;f I;fmo;f U;fnh;f E;!11937 fmn
f O;!1193b bagde;ey;d HALANTA;bfn;b PREFIXED NASALag;bbyiu;bapip;bbyip;bagks;ckis;b GAPvd;brpfb TEXTav
!11950 bcoej;dbh;ee;daq;dbf;em;ddz;dbr;el;dcn;!119a0 0NANDINAGARIaa A;dll;d I;dmo;d U;dnh;ddd R;fyh
!119aa d E;dmn;d O;dne;did;ec;dkq;er;dhh;dny;dhv;dnm;doc;dhy;dkn;dik;dkp;dir;dlp;djq;dim;dkf;ew;diy;el
djl;dlk;ev;dix;eu;ep;djb;dsc;dhj;dmr;djv;dhp;drr;dyj;bcdagll;f I;fmo;f U;fnh;fdd R;hyh;!119da f E;fmn
f O;fne;bagde;dfj;en;djn;d SIDDHAM;b HEADSTROKE;bcdag PRISHTHAMATRA E;!11a00 0ZANABAZARbsaa A;bcdag I
gUE;h;gE;fyf;f O;fmn;fne;fck I;dnaav;baaid;ec;dkq;er;dhh;dny;dhv;dnm;dhy;dkn;dik;dkp;dir;dlp;djq;dim
dkf;ew;diy;el;djl;dlk;ev;dix;dqh;dwq;d DZA;gHA;dwu;duu;d -A;diu;ep;djb;dsc;dhj;dmr;djv;dhp;d KSSA
cmgcav;cgfn;ddy;fabcw;dnzabcw;dde;dfj;b CLUSTER-INITIALaaip;kFINALaaiu;sp;rjb;rsc;bapqjav
b CLOSINGqjav;bavxt;dvi;dakvi;depxt;cpak-LINEDqjav;b CLOSINGak-LINEDqjav;cSUBJOINER
!11a50 0SOYOMBOaa A;7cdag I;cUE;d;cE;cO;byf;bmn;bne;bdd R;eL;9naav;7aaid;ac;9kq;ar;9hh;9ny;9hv;9nm;9oc
9hy;9kn;9ik;9kp;9ir;9lp;9jq;9im;9kf;aw;9iy;al;9jl;9lk;av;9ix;9qh;9wq;9 DZA;9wu;9uu;9 -A;9iu;ap;9jb;9sc
9hj;9mr;9jv;9hp;9 KSSA;8gsz;9tc;7 CLUSTER-INITIALaaip;pjb;phj;pjv;7amgcag G;eK;eNG;eD;eN;eB;eM;eR;eL
eSH;f;e-A;8gde;9fj;7yuav;7 SUBJOINER;7avxt;9vi;9akvi;9 PLUTA;7qjavabofao SUNaoge FLAME;n FLAME;l
7 TERMINALav-1;j2;!11ab0 0CANADIAN SYLLABICS NATTILIK HI;uI;tO;uO;rhp;r HAA;sSHRI;wI;vO;wO;vA;wA;jSPE
lI;lO;lA;0PAU CIN HAUaail;ed;djb;dix;dkf;duu;dsc;dhh;ep;dkq;dic;djv;dlk;dny;djq;dim;ey;djl;dip;dxf;dhv
d A;eE;eI;eO;eU;fA;eIA;dam P;gK;gT;gM;gN;gL;gW;gNG;gY;btbedep;f;b SANDHIgqff;btbedepam;fam
b SANDHIgqffam;iedep;k;kepam;kam;cMID-LEVELed;bgqffig;b MID-LEVELedepam;nam;bfs-FALLINGedep;n;bgqff
bfs-FALLINGedepam;nam;bgqffam;!11c00 0BHAIKSUKIaa A;bll;b I;bmo;b U;bnh;bdd R;dyh;d L;!11c0a b E;bmn
b O;bne;bid;cc;bkq;cr;bhh;bny;bhv;bnm;boc;bhy;bkn;bik;bkp;bir;blp;bjq;bim;bkf;cw;biy;cl;bjl;blk;cv;bix
cu;cp;bjb;bsc;bhj;bmr;bjv;bhp;9cdagll;d I;dmo;d U;dnh;ddd R;fyh;f L;!11c38 d E;dmn;d O;dne;9agdy;ce
bfj;cn;bjn;9is;9akis;9zdem;9 GAPvd-1;g2;!11c50 9coej;bbh;ce;baq;bbf;cm;bdz;bbr;cl;bcn;9dubh;ce;baq;bbf
cm;bdz;bbr;cl;bcn;bgm;bex;bhs;bmi;bib;bml;bfp;boa;bfw;9 HUNDREDS UNITav;!11c70 0MARCHENqjav;7avvi;8aid
ac;9kq;9hh;9ny;9hv;9nm;9hy;9jq;9im;9kf;9iy;al;9jl;9lk;9ix;9qh;9wq;9 DZA;9mx;9wu;9uu;9 -A;9iu;ap;9jb
9hj;9jv;9hp;9 A;!11c92 7xpaaid;cc;bkq;bhh;bny;bhv;bnm;bhy;bjq;bim;bkf;biy;cl;bjl;blk;bix;bqh;bwq;b DZA
bmx;bwu;buu;!11ca9 biu;cp;bjb;bhj;bjv;bhp;b A;7cdagll;b I;cU;cE;cO;7agde;ay;!11d00 2SARAM GONDIaa A
fll;f I;fmo;f U;fnh;f E;!11d08 fmn;f O;!11d0b fne;fid;gc;fkq;gr;fhh;fny;fhv;fnm;foc;fhy;fkn;fik;fkp
fir;flp;fjq;fim;fkf;gw;fiy;gl;fjl;flk;gv;fix;gu;gp;fjb;fsc;fhj;fmr;fjv;fhp;frr;f KSSA;gJNYA;gTRA
dcdagll;h I;hmo;h U;hnh;hdd R;!11d3a h E;!11d3c hmn;h O;!11d3f hne;dagde;ffj;fks;fnz;f HALANTA;dfn
d REPHA;dip-KARA;!11d50 dcoej;fbh;ge;faq;fbf;gm;fdz;fbr;gl;fcn;!11d60 0GUNJALA GONDIaa A;fll;f I;fmo
f U;fnh;!11d67 fwy;fmn;!11d6a fut;fne;fiu;fsc;flk;gv;fix;gd;gc;fjq;fim;fjb;fkq;gr;gf;gw;fiy;fny;fhv
fkn;fik;frr;fnm;foc;fkp;fir;fhh;fil;fjl;fhp;fip;fjv;dcdagll;h I;hmo;h U;hnh;!11d90 hwy;hmn;!11d93 hut
hne;dagde;ffj;dfn;d OM;!11da0 dcoej;fbh;ge;faq;fbf;gm;fdz;fbr;gl;fcn;!11ee0 0MAKASARaaid;9kq;9hh;9il
9lk;9ix;9jq;9kf;9iy;9ny;am;9hy;9iu;ap;9jb;9sc;9jv;9 A;7 ANGKA;7cdag I;cU;cE;cO;7 PASSIMBANG;7rpfbhx
!11fb0 0LISUaa YHA;!11fc0 0TAMILiwbhaq-HUNDRED-AND-TWENTIETH;9bh-HUNDRED-AND-SIXTIETH;9 EIGHTIETH
9ml-FOURTH;9 FORTIETH;9hs-SECOND;7aq EIGHTIETHS;9ml-FOURTHS;7bh TWENTIETH;9um-1;c2;9 TENTH;9ih
7aq TWENTIETHS;aSIXTEENTHS;7bh FIFTH;9fv;9cg-1;c2;7aqkm;7 DOWNSCALING FACTOR KIIZH;5ag NEL;8CEVITU
8AAZHAAKKU;8UZHAKKU;8MUUVUZHAKKU;8KURUNI;8PATHAKKU;8MUKKURUNI;8KAACU;8PANAM;9ON;8VARAAKAN;8PAARAM
8KUZHI;8VELI;5 WET CULTIVATIONag;6DRY CULTIVATIONag;6LANDag;6SALT PANag;6TRADITIONAL CREDITag;hduag
6CURRENTag;5ao ODDag;5 SPENTag;6TOTALag;5rq POSSESSIONag;5 STARTINGleag;5ag MUTHALIYA;8VAKAIYARAA
!11fff 5cmrpfb TEXT;0CUNEIFORMag A;dbk A;fym;fspij;fhp;fsx;f LAGARgz;gMUSH;gSAG;d2;dB;ebk ASH2;hDUN3gz
hGAL;gspij;ghp;gsxgz;g IMIN;gvq;g SHESH;hUch Uch U;egz;e2;fbk BALAG;hspij;h MEchvb;iSHA3;hvj;dD;dK
ebk ERIN2;hSHITAchve;dL;ebk AL;hDIM2;gve;ghp;g KAD3;iI;goi;g USH;eAN;bov;b AMAR;gbkoi;dN;edc AN;eaqbk
ech NAGAtp ANch NAGA;lhg;eSHE;dPIN;dRAD;gbk KUR;eKAB;dSAL2;blm;d ZIDAij;eKABAij
ddclm TUG2dc TUG2 TUG2dc TUG2 PAP;hdclm;lfllmdclmdclm;b ASH2;fGAB;blk;bym;b BAG3;eHAR2;eL;fdc BAL;fAG
bea;b BARA2;dI;ebk A;gse;hxgz;dU;edc BU AB;kUN;efl BU;eLUG;hdc BULUG;eR;f2;bkf;b DAG
f KISIM5bk Ach MASH;qMAR;pBALAG;qI;okq;qch MASH;o GI;rR2;qUD;ohp;o IR;rch LU;pKAK;ojb;o LU;rch MASH2
rM;pNE;pPAPch PAP;pSI;ovj;o U2ch GIR2;qSH;eM;eR;fA3;g4;dI;eB;eM;fbkoi;f2;eN;frh Ugzoj;boj;b DU;edc DU
egz;ewk;eB;fbk ESH2;f2;eG;fUD;eH;eN;f3;ggz;igz;f4;eR2;cE;dbk PAP;ddc Ekxdckx;d2;ebk Achhpchkf;gse;g MI
hSAL;goi;g U;dDIN;dGIR;dL;bvb;dbksp;hij;f ME;dflvb;dtpvb;dhg;b EREN;eIN2;dSH2;dZEN;gbk A;kch LAL
qbk LAL;kN;iym;i DUN3gz;pgz;ihp;kgz;isxgz;irh;khg;i KU3;ijb;i LALbk LAL;kI;kU;jU2;kD;bkq;dgz;b GA2
fbk Achkfchhp;lhp;lsx;jB2ijch TAB;jN;hlm;h ASH2ch GAL;hym;heachip;h BUR;lchip;hkf;h DI;kMbkoi;jUB;iEL
kchjb;hvb;jbkspij;hspij;ie;h GI;k4;lch A;kR2ch SU;hhpch LUch ESH2;h HAL;lchjb;jIch LI;jUB2;hsxgz
h ISHch HUchlm;iKAK;hrh;h KID;lch LAL;jU3ch AN;hjb;h MEchvb;jI;hkx;jdckx;hil;h SAL;kR;hoi;jch TUR
h SHID;jUM;hvj;h U;jD;kch DU;fdc GA2;eBA;gfl GABA;eD;fdc GADsedcse;eL;f GADdc GADsedcse;fAM;eM;eN;bsp
dij;ddcsp;dflsp;ce;b GAR3;eSHAN;dESHTIN;jbk KUR;dI;ebk E;hU;efl GI;e4;fdc GI4;ffl GI4;eDIM;eR2;ggz;f3
gbk Achsx;ispij;jx;i LUchsx;iil;eSAL;bve;dflve;dbkym;fvj;dij;b GU;efl GU;e2;fbk KAK;lbksxgz;hkx
h SALch TUG2;fgz;eD;fbk Ach KUR;iKUR;fdc GUD LUGAL;eL;eM;fbkoi;eR;f7;fUN;gSH;bhp;dij;dgz;b HAL;dI
ebklm;g ASH2;gym;goj;g GAD;hKIN;gkx;goi;g U;dU;eB2;gbk AN;jHAL;irh;i LISH;jUD;eL2;cI;d A;dB;dDIM
gdc IDIM BUR;nhg;dG;bsx;d DIB;eRI;ddcsx SHIRdc SHIR UDdc UD;dgz;b IL;ebkspij;e2;dM;ebkvj;efl IM;etp IM
ehg;eIN;brq;b IR;dSH;bid;dbk A;hD;ich KU3;hSH2;fym;f BALAG;fea;f BI;gERIN2;hSH2;fkq;f GAL;fspij;ge
hch SHA3ch A;f GI;iR2;fvech SAR;hflve;f GU;iR7;fsx;f IM;gKAK;hI;iD;gLI;hU;gME;ich DU;lGI;kyk;hI
ich NUNUZ;gNE;fkx;fwz;f RU;fjv;f SAR;fhj;foi;f SHID;iU;hIG;hUHUR;gTAR;gU;h2;hD;hMUMbkil;hSH;gZI;b KA2
ffl KA2;eB;eD2;f3;f4;f5;gdc KAD5;eK;fbksxgz;eL;fbkym;ffl KAL;eM2;f4;brh;dvqbk Udcvqbk U
ddcrhvqbk Udcvqbk U;b KESH2;dI;ebkym;g U;iD;eD;eN;eSAL;fH;fIM5;idc KISIM5;dU
edc HIbk ASH2 KUdc HIbk ASH2;e3;e4;figae;e7;eL;fgz;eN;eR;ftp KUR;eSHU2;dWU318;bjb;bvq;dbk A;hchkfchhp
jse;j LAL;hL;hN;flm ZIDAij;fym;f BI;gDAR;fvb;fkq;fse;f GUD;jch GUD;fhp;f HAL;hIbkkx;fsxgz;f IM;ichhp
k LU;gKI;iN;hU3;iL;jch HIch A;fvq;f LISH;hU;iL;gME;ichvb;hUSH;gNE;foich SUM;f SHITAchvech ERIN2;pij
iU2;kch SHU2;hUM;gTAG;fvj;fykch Ach SUchiy;f U;hch A;kUch U;h2chlm;hD;hSH;dhg;b LAGAR;hbkoi;lch SUM
hgz;jdc LAGARgzoi;eHSHU;eL;fbk LAL;bnn;dbk KUR;jch RU;b LI;eL;eMMU2;eSH;dU;ebkym;e2;fbk AL;hym;h ESH2
mij;hspij;h HIbkym;iIM;iKAD2;l3;mchlm;jI;hjbchlm;hvq;h MEchvb;iNE;jU;iSIchlm;kK2ch BU;iTUG2;fij
ffl LU2;ftp LU2;fhg;fwk;e3;eGAL;hdc LUGAL;htp LUGAL;hwk;eH;eL;eM;fdc LUM;lsedcse;bix;dbkvj;dgz;b MA2
eH;eR;eSH;g2;dE;eS;dI;eN;bye;ddcye;b MUG;fgz;eNSUB;eRGU2;eSH;gbk A;jKUR;iuu;gdc MUSH;nbk Achiy
gfl MUSH;g3;hbk A;lch DI;kDI;hgz;biy;b NA2;eGA;gcp;gbk SHUij;gtp NAGA;gR;eM NUTILLU;f;f2;dE;ebk A;hUD
ewk;dI;ebk E;e2;eM;fbkspij;iechspij;eNDA2;ibk AN;klm;mchlm;k GUD;lMEchspij;lNE;kkx;koi;mch A AN;olm
qchlm;k U2chlm;mSH;eSAG;dU;e11;bkx;d LAGARbkse;l MASH;mSAL;pdckx LAGARbk SAL;mUSH;dij;ddckx;dflkx
h LAGARdc LAGAR;b NUNUZ;h AB2bk ASHGAB;oBI;oDUG;oGUD;nsxgz;n KAD3;njb;n NE;oSILA3;oU2;iKISIM5bk BI;t U
bil;b PAD;eN;eP;dESH2;bwz;dbk A;hB;gBI;hU;gE;gI;hB;gU;h2;dflwz;b PIRIG;hbk KAL;kUD;juu;htp PIRIG;bip
b RAB;dI;dU;bjv;b SAG NUTILLU;f;fbk A;iDU;kB;hhp;h KAK;jUR;iLUM;iMI;hkx;h SAL;jHID;iTAB;iU2;jB;jM;jR
jSH;fdc SAG;fgz;eL;fvqbk ASH2;eNGA2;eR;bhj;b SHA3;gbk A;iym;ive;i NE;jSHU2;jTUR;jU;kch A;f6;fB6;byy
boi;d HU;ddcoi GADdc GADsedcse;iTABdc TABsedcse;b SHEG9;fN;fSH;h2;hLAM;eID;gbk A;jIM;fM;gbk A;jBAL
kULUG;jDIN;ise;jx;kgz;i KUSHU2;jLUL;jMUG;jSAL;fNIG;fR;gij;gdc SHIR BURdc BUR;fTA;eU;fdccp SHU;f2;fBUR
dI;egz;eG;f4;gdc SIG4 SHU2;eK2;eLA3;dU;edc SU;eD;f2;eHUR;eM;fASH;eR;f9;bjq;ddw;dbk HI;gMI;dgz;b TAB
fdc TAB NIdc NIojdcoj;fhg;eG;fbk BI;iGUD;hoi;h SHU;iTUG2;iUD;bvj;b TAR;byk;dgz;b TI;eij;eL;eR;fbkvj
fdc TIR;l GADdc GADsedcse;dU;eG2;eK;eM;eR;fdc TURuudcuu;cU;d GUD;eU U;ddc Uildcilsedcse;h SURdc SUR
iUckdc Uck;d2;dB;dD;e KUSHU2;ebkym;g MI;hUch Uch U;qgz;egz;ewk;gbkym;eUG;dM;ebkvq;g MEchkf;hSHA3;hU
eBIN;eUM;gbkrh;iil;dN;egz;dR;efl UR;ewk;e2;fbk Achhp;liy;jL;hhp;hkx;h U2;kchlm;m BI;e4;eI;f3;eU;fbk A
jSHGAB;hea;h DUN;hkq;h GAL;hspij;ie;h GU;hhp;hsx;h IM;jSH;iKI;iLUM;iMIN;hil;hoi;h SIG4;iTU;iUch GUD;jD
jRUDA;fDA;hbk U;dSH;fbk A;iKU;kR;hvj;fX;f2;fUMX;dTUKI;dZ3;fbkrh;eU;buu;dij;dhgbk KUR;b ZAG;eMX;dE2;dI
edc ZI;e3;eB;f KABAij;eG;eZ2;dU;e5;fbk A;eBUR;eM;cKAP ELAMITE;cABbkkx;e2bk A;dMARbk KUG
cDAG KISIM5bk U2ch MASH;f3;bojch SHU;b DUBbkoi;cEZENbk GUD;ioi;cGA2bk ANch KAKch A;jSH2;dE22;dIG;cHUSH
bidbk ANSHE;hSH3;fve;f GUD;gHIbk ASH2;gLUM;fil;f SHUL;gTU;gUR2;bvqbk GI;b LU2wkbkym;fbk ESH2ch LAL
iSHU;cMESH;dUSH3bkuu;cNA4;dIN;f9;fDA2bk BAL;lGI;dU11dffwdo;cPESH2dw;dIR2;cSAGbksxgz;cTI2;cUMbk ME;d U
!12400 9 NUMERICagbelm;jaqlm;jbflm;kmlm;jdzlm;jbrlm;kllm;jcnlm;jaqoj;jbfoj;kmoj;jdzoj;jbroj;kloj;jcnoj
jbf U;km U;jdz U;jbr U;kl U;jcn U;jbh GESH2;ke GESH2;jaq GESH2;jbf GESH2;km GESH2;jdz GESH2;jbr GESH2
kl GESH2;jcn GESH2;jbh GESHU;ke GESHU;jaq GESHU;jbf GESHU;km GESHU;keyy;jaqyy;nigae;jbfyy;kmyy;jdzyy
jbryy;klyy;jcnyy;jbh SHARU;ke SHARU;jaq SHARU;rigae;jbf SHARU;km SHARU;jyybk GALchoj;t MIN;jbh BURU
ke BURU;jaq BURU;qigae;jbf BURU;km BURU;jaqigae ESH16;t21;jbfigae LIMMU;v4;v A;wB;jdzigae ASH9
jbrigae IMIN3;u A;vB;kligae USSU;u3;jcnigae ILIMMU;w3;w4;w A;jbelmij;jaqlmij;jbflmij;kmlmij;jdzlmij
jbh BAN2;ke BAN2;jaq BAN2;jbf BAN2;qigae;km BAN2;qigae;j NIGIDAMIN;qESH;jbh ESHE3;ke ESHE3;khunoj
kexsoj;km SIXTHSoj;khunigae A;kexsigae A;khihlm;lfvlm;jlw ASSYRIANbh SIXTH;wfv;jbhfv GUR;lcg GUR
j ELAMITEbhun;sexs;rmi;rib;jbf Uigae;km Uigae;jdz Uigae;jbr Uigae;kl Uigae;jcn Uigae
!12470 9cmaglw ASSYRIANzd DIVIDER;dativ;ddtiv;f TRICOLON;gQUADCOLON;!12480 9ag ABbkkxij;g SHU2
dDbk ESH2;bymbkojij;b BAHAR2bk AB2;lNI;kuu;dUdc BUbk NA2;bkfbkvj;b DAGbk KUR;dIMbksx;h U U U;f2bk UD
dUGbk ANSHE;hlm;j ATar;h DIN;jUN;iERIN2;hkq;h GI;kR2gz;hve;hhp;h HI;hsxgz;hrh;h KUR;kSHU2;ochrh
iLAK-020;hnn;jbk KUR;h LUHchve;iMASH;jES;jI;iNI;hwz;hoi;h SIgz;cE2bk KUR;hPAP;dRIN2 X;dSH2fl ESH2
dZENwkbklm;k HI;ksxgz;kjb;k LAL;lME;nS;lSU;gbk SU;cGA2bk BAHAR2;iDIMgz;jUGbksxgz;nrh;iEREN;hkq
hsech DI;mNE;hhpch A;h KUSHU2chrh;hnn;jbk KUR;h LUH;iMUSH;iNE;kch E2;nGI;iSHIM;iZIZ2;eBAdffwdo
dESHTINbk U;bvebkveflve;b GU2bksxgz;eDchvebkvj;bhpijgz;b HIbklmdc HIbklm;bidbk BU;fid;f U U U;hR
bvqbk ZUdc ZU;b LAK-003;h21;i5;h30;h50;i1;h62;h79dc LAK-079gz;h80;i1dc LAK-081;h92;g130;h42;g210;i9
h20;i5;i8;h38;h65;i6;g343;i7;i8;h83;i4;h90;g441;i9;jbk GU;lsx;l PAPch LU3;sPAPch LU3;mU2chlk;h50;i7
h70;h83;h90;i2;i3;i5;g550;g608;h17;jbklm;lym;l DUN3gzgz;mKU3;ljb;l TAR;lyk;l U2;nD;nRUDA;h36;h48
jbk DUB;lkq;lsx;ngz;l NI;mPAPch PAPch LU3;mSHESHch KI;mUD;nRUDA;g724;h49;dU2gzbklm;fbkoj;h HAL;iPAP
lch PAPch LU3;hvj;cMIch ZA7;dUSHdc MUSHbkkq;p KAK;cNINDA2bk DIMgz;kve;k GUL;lHI;lKESH2;lLAK-050;lMASH
lPAPch PAP;lU;mch U;mRUDA;cSAGgzbkhp;fbkvb;hoi ATar;hvj;dHA6ij;boidcoi;dch HUB2;gNAM2;gSAR
b SHU2ch DUGbk NI;jE2bk AN;dIbkvj;bvjch SAG;b TUMbkspij;haqoj;cUR2cp;fbk UD;eUbk DARA3;iLAK-668;jU3
cZA7;dUdc ZUch SAR;e5bkaqojij;!12f90 1YPRO-MINOANag CM001;j2;j4;j5;j6;j7;j8;j9;i10;j1;j2;kB;j3;j5;j7
j9;i21;j3;j4;j5;j6;j7;j8;j9;i30;j3;j4;j5;j6;j7;j8;j9;i40;j1;j4;j6;j7;j9;i50;j1;j2;j3;j4;j5;j6;j8;j9
i60;j1;j2;j3;j4;j6;j7;j8;j9;i70;j1;j2;j3;j4;j5;kB;j6;j8;j9;i80;j1;j2;j3;j4;j5;j6;j7;j8;j9;i90;j1;j2;j4
j5;j6;j7;j8;j9;h100;j1;j2;j3;j4;j5;j7;j8;j9;i10;j2;j4;h301;j2;!13000 0EGYPTIAN HIEROGLYPH A001;n2;n3
n4;n5;oA;n6;oA;oB;n7;n8;n9;m10;n1;n2;n3;n4;oA;n5;n6;n7;oA;n8;n9;m20;n1;n2;n3;n4;n5;n6;n7;n8;n9;m30;n1
n2;oA;n3;n4;n5;n6;n7;n8;n9;m40;oA;n1;n2;oA;n3;oA;n4;n5;oA;n6;n7;n8;n9;m50;n1;n2;n3;n4;n5;n6;n7;n8;n9
m60;n1;n2;n3;n4;n5;n6;n7;n8;n9;m70;kB001;n2;n3;n4;n5;oA;n6;n7;n8;n9;kC001;n2;oA;oB;oC;n3;n4;n5;n6;n7
n8;n9;m10;oA;n1;n2;n3;n4;n5;n6;n7;n8;n9;m20;n1;n2;n3;n4;kD001;n2;n3;n4;n5;n6;n7;n8;oA;n9;m10;n1;n2;n3
n4;n5;n6;n7;n8;n9;m20;n1;n2;n3;n4;n5;n6;n7;oA;n8;n9;m30;n1;oA;n2;n3;n4;oA;n5;n6;n7;n8;n9;m40;n1;n2;n3
n4;n5;n6;oA;n7;n8;oA;n9;m50;oA;oB;oC;oD;oE;oF;oG;oH;oI;n1;n2;oA;n3;n4;oA;n5;n6;n7;n8;n9;m60;n1;n2;n3
n4;n5;n6;n7;oA;oB;oC;oD;oE;oF;oG;oH;kE001;n2;n3;n4;n5;n6;n7;n8;oA;n9;oA;m10;n1;n2;n3;n4;n5;n6;oA;n7;oA
n8;n9;m20;oA;n1;n2;n3;n4;n5;n6;n7;n8;oA;n9;m30;n1;n2;n3;n4;oA;n6;n7;n8;kF001;oA;n2;n3;n4;n5;n6;n7;n8
n9;m10;n1;n2;n3;oA;n4;n5;n6;n7;n8;n9;m20;n1;oA;n2;n3;n4;n5;n6;n7;n8;n9;m30;n1;oA;n2;n3;n4;n5;n6;n7;oA
n8;oA;n9;m40;n1;n2;n3;n4;n5;oA;n6;oA;n7;oA;n8;n9;m50;n1;oA;oB;oC;n2;n3;kG001;n2;n3;n4;n5;n6;oA;n7;oA
oB;n8;n9;m10;n1;oA;n2;n3;n4;n5;n6;n7;n8;n9;m20;oA;n1;n2;n3;n4;n5;n6;oA;n7;n8;n9;m30;n1;n2;n3;n4;n5;n6
oA;n7;oA;n8;n9;m40;n1;n2;n3;oA;n4;n5;oA;n6;n7;n8;n9;m50;n1;n2;n3;n4;kH001;n2;n3;n4;n5;n6;oA;n7;n8
kI001;n2;n3;n4;n5;oA;n6;n7;n8;n9;oA;m10;oA;n1;oA;n2;n3;n4;n5;kK001;n2;n3;n4;n5;n6;n7;n8;kL001;n2;oA;n3
n4;n5;n6;oA;n7;n8;kM001;oA;oB;n2;n3;oA;n4;n5;n6;n7;n8;n9;m10;oA;n1;n2;oA;oB;oC;oD;oE;oF;oG;oH;n3;n4;n5
oA;n6;oA;n7;oA;n8;n9;m20;n1;n2;oA;n3;n4;oA;n5;n6;n7;n8;oA;n9;m30;n1;oA;n2;n3;oA;oB;n4;n5;n6;n7;n8;n9
m40;oA;n1;n2;n3;n4;kN001;n2;n3;n4;n5;n6;n7;n8;n9;m10;n1;n2;n3;n4;n5;n6;n7;n8;oA;oB;n9;m20;n1;n2;n3;n4
n5;oA;n6;n7;n8;n9;m30;n1;n2;n3;oA;n4;oA;n5;oA;n6;n7;oA;n8;n9;m40;n1;n2;lL001;o2;o3;o4;o5;pA;o6;o7;o8
o9;n10;o1;o2;o3;o4;o5;o6;o7;pA;o8;o9;n20;lU001;o2;o3;o4;o5;o6;o7;o8;o9;n10;pA;o1;pA;o2;o3;o4;o5;o6;o7
o8;pA;o9;n20;o1;o2;pA;kO001;oA;n2;n3;n4;n5;oA;n6;oA;oB;oC;oD;oE;oF;n7;n8;n9;m10;oA;oB;oC;n1;n2;n3;n4
n5;n6;n7;n8;n9;oA;m20;oA;n1;n2;n3;n4;oA;n5;oA;n6;n7;n8;n9;oA;m30;oA;n1;n2;n3;oA;n4;n5;n6;oA;oB;oC;oD
n7;n8;n9;m40;n1;n2;n3;n4;n5;n6;n7;n8;n9;m50;oA;oB;n1;kP001;oA;n2;n3;oA;n4;n5;n6;n7;n8;n9;m10;n1;kQ001
n2;n3;n4;n5;n6;n7;kR001;n2;oA;n3;oA;oB;n4;n5;n6;n7;n8;n9;m10;oA;n1;n2;n3;n4;n5;n6;oA;n7;n8;n9;m20;n1
n2;n3;n4;n5;n6;n7;n8;n9;kS001;n2;oA;n3;n4;n5;n6;oA;n7;n8;n9;m10;n1;n2;n3;n4;oA;oB;n5;n6;n7;oA;n8;n9
m20;n1;n2;n3;n4;n5;n6;oA;oB;n7;n8;n9;m30;n1;n2;n3;n4;n5;oA;n6;n7;n8;n9;m40;n1;n2;n3;n4;n5;n6;kT001;n2
n3;oA;n4;n5;n6;n7;oA;n8;oA;n9;oA;m10;n1;oA;n2;n3;n4;n5;n6;oA;n7;n8;n9;m20;n1;n2;n3;n4;n5;n6;n7;n8;n9
m30;n1;n2;oA;n3;oA;n4;n5;n6;kU001;n2;n3;n4;n5;n6;oA;oB;n7;n8;n9;m10;n1;n2;n3;n4;n5;n6;n7;n8;n9;m20;n1
n2;n3;oA;n4;n5;n6;n7;n8;n9;oA;m30;n1;n2;oA;n3;n4;n5;n6;n7;n8;n9;m40;n1;n2;kV001;oA;oB;oC;oD;oE;oF;oG
oH;oI;n2;oA;n3;n4;n5;n6;n7;oA;oB;n8;n9;m10;n1;oA;oB;oC;n2;oA;oB;n3;n4;n5;n6;n7;n8;n9;m20;oA;oB;oC;oD
oE;oF;oG;oH;oI;oJ;oK;oL;n1;n2;n3;oA;n4;n5;n6;n7;n8;oA;n9;oA;m30;oA;n1;oA;n2;n3;oA;n4;n5;n6;n7;oA;n8;n9
m40;oA;kW001;n2;n3;oA;n4;n5;n6;n7;n8;n9;oA;m10;oA;n1;n2;n3;n4;oA;n5;n6;n7;oA;n8;oA;n9;m20;n1;n2;n3;n4
oA;n5;kX001;n2;n3;n4;oA;oB;n5;n6;oA;n7;n8;oA;kY001;oA;n2;n3;n4;n5;n6;n7;n8;kZ001;n2;oA;oB;oC;oD;n3;oA
oB;n4;oA;n5;oA;n6;n7;n8;n9;m10;n1;n2;n3;n4;n5;oA;oB;oC;oD;oE;oF;oG;oH;oI;n6;oA;oB;oC;oD;oE;oF;oG;oH
kAA001;o2;o3;o4;o5;o6;o7;pA;pB;o8;o9;n10;o1;o2;o3;o4;o5;o6;o7;o8;o9;n20;o1;o2;o3;o4;o5;o6;o7;o8;o9;n30
o1;o2;!13430 jat JOINER;kx JOINER;j INSERT ATqg START;tjc START;tqgrp;tjcrp;jhwaw;j BEGIN SEGMENT
jrp SEGMENT;!14400 0ANATOLIAN HIEROGLYPH A001;o2;o3;o4;o5;o6;o7;o8;o9;n10;pA;o1;o2;o3;o4;o5;o6;o7;o8
o9;n20;o1;o2;o3;o4;o5;o6;pA;o7;o8;o9;n30;o1;o2;o3;o4;o5;o6;o7;o8;o9;pA;n40;o1;pA;o2;o3;o4;o5;pA;o6;pA
pB;o7;o8;o9;n50;o1;o2;o3;o4;o5;o6;o7;o8;o9;n60;o1;o2;o3;o4;o5;o6;pA;pB;pC;o7;o8;o9;n70;o1;o2;o3;o4;o5
o6;o7;o8;o9;n80;o1;o2;o3;o4;o5;o6;o7;o8;o9;n90;o1;o2;o3;o4;o5;o6;o7;pA;o8;pA;o9;m100;pA;o1;pA;o2;pA;o3
o4;pA;pB;pC;o5;pA;pB;o6;o7;pA;pB;pC;o8;o9;n10;pA;pB;o1;o2;o3;o4;o5;pA;o6;o7;o8;o9;n20;o1;o2;o3;o4;o5
pA;o6;o7;o8;o9;n30;o1;o2;o3;o4;o5;pA;o6;o7;o8;o9;n40;o1;o2;o3;o4;o5;o6;o7;o8;o9;n50;o1;o2;o3;o4;o5;o6
o7;o8;o9;n60;o1;o2;o3;o4;o5;o6;o7;o8;o9;n70;o1;o2;o3;o4;o5;o6;o7;o8;o9;n80;o1;o2;o3;o4;o5;o6;o7;o8;o9
n90;o1;o2;o3;o4;o5;o6;o7;o8;o9;m200;o1;o2;pA;pB;o3;o4;o5;o6;o7;pA;o8;o9;pA;n10;o1;o2;o3;o4;o5;pA;o6;pA
o7;o8;o9;n20;o1;o2;o3;o4;o5;o6;o7;pA;o8;o9;n30;o1;o2;o3;o4;o5;o6;o7;o8;o9;n40;o1;o2;o3;o4;o5;o6;o7;o8
o9;n50;o1;o2;o3;o4;o5;o6;o7;o8;o9;n60;o1;o2;o3;o4;o5;o6;o7;pA;o8;o9;n70;o1;o2;o3;o4;o5;o6;o7;o8;o9;n80
o1;o2;o3;o4;o5;o6;o7;o8;o9;pA;n90;o1;o2;o3;o4;pA;o5;o6;o7;o8;o9;pA;m300;o1;o2;o3;o4;o5;o6;o7;o8;o9;pA
n10;o1;o2;o3;o4;o5;o6;o7;o8;o9;n20;o1;o2;o3;o4;o5;o6;o7;o8;o9;pA;n30;o1;o2A;pB;pC;o3;o4;o5;o6;pA;pB;pC
o7;o8;o9;n40;o1;o2;o3;o4;o5;o6;o7;o8;o9;n50;o1;o2;o3;o4;o5;o6;o7;o8;o9;pA;n60;o1;o2;o3;o4;pA;o5;o6;o7
o8;pA;o9;n70;o1;pA;o2;o3;o4;o5;o6;o7;o8;o9;n80;o1;pA;o2;o3ipme RI;pA;o4;o5;o6;pA;o7;o8;o9;n90;o1;o2
o3bl;o4;o5;o6;o7;o8;o9;m400;o1;o2;o3;o4;o5;o6;o7;o8;o9;n10 BEGIN LOGOGRAMav;pArp LOGOGRAMav;o1;o2;o3
o4;o5;o6;o7;o8;o9;n20;o1;o2;o3;o4;o5;o6;o7;o8;o9;n30;o1;o2;o3;o4;o5;o6;o7;o8;o9;n40;o1;o2;o3;o4;o5;o6
o7;o8;o9;n50;pA;o1;o2;o3;o4;o5;o6;o7;pA;o8;o9;n60;o1;o2;o3;o4;o5;o6;o7;o8;o9;n70;o1;o2;o3;o4;o5;o6;o7
o8;o9;n80;o1;o2;o3;o4;o5;o6;o7;o8;o9;n90;o1;o2;o3;o4;o5;o6;o7;m501;o2;o3;o4;o5;o6;o7;o8;o9;n10;o1;o2
o3;o4;o5;o6;o7;o8;o9;n20;o1;o2;o3;o4;o5;o6;o7;o8;o9;n30;!16800 0BAMUMaa PHASE-A NGKUE MFON;gGBIEE FON
gPON MFON PIPAEMGBIEE;vBA;gNAA MFON;gSHUENSHUET;gTITA MFON;gNZA MFON;gSHINDAil NJI
gPONil NJI PIPAEMGBIEE;wBA;gMAEMBGBIEE;gTU MAEMBA;gNGANGU;gMAEMVEUX;iNSUAE;hVEUAENGAM;gSEUNYAM
gNTOQPEN;gKEUKEUTNDA;gNKINDI;gSUU;gNGKUENZEUM;gLAPAQ;hET KUT;gNTAP MFAA;gMAEKEUP;gPASHAE;gGHEUAERAE
gPAMSHAE;gMON NGGEUAET;gNZUN MEUT;gU YUQ NAE;gGHEUAEGHEUAE;gNTAP NTAA;gSISA;gMGBASA;hEUNJOMNDEUQ
hOOMPUQ;gKAFA;fil LEERAEWA;f NDA LEERAEWA;gPET;gMAEMKPEN;gNIKA;gPUP;gTUAEP;gLUAEP;gSONJAM;gTEUTEUWEN
gMAENYI;gKET;gNDAANGGEUAET;gKUOQ;gMOOMEUT;gSHUM;gLOMMAE;gFIRI;gROM;gKPOQ;gSOQ;gMAP PIEET;gSHIRAE;gNTAP
gSHOQ NSHUT YUM;gNYIT MONGKEUAEQ;gPAARAE;gNKAARAE;gUNKNOWN;gNGGEN;gMAESI;gNJAM;gMBANYI;gNYET;gTEUAEN
gSOT;gPAAM;gNSHIEE;gMAEM;gNYI;gKAQ;gNSHA;gVEE;gLU;gNEN;hAQ;gMBAQ;eB NSHUET;gTU MAEMGBIEE;gSIEE;hET TU
gLOM NTEUM;gMBA MAELEE;gKIEEM;gYEURAE;gMBAARAE;gKAM;gPEESHI;gYAFU LEERAEWA;fnn NSHUT NYAM
f NTIEE SHEUOQ;hDU NJAA;gGHEUGHEUAEM;gPIT;gTU NSIEE;gSHET NJAQ;jUAEQTU;gMFON TEUAEQ;hBIT MBAAKET
gNYI NTEUM;gKEUPUQ;gGHEUGHEN;gKEUYEUX;gLAANAE;gPARUM;gVEUM;gNGKINDI MVOP;iGEU MBU;gWUAET;gSAKEUAE
gTAAM;gMEUQ;gNGGUOQ;mel;gMFIYAQ;gSUE;gMBEURI;hONTIEEN;gNYAEMAE;gPUNGAAM;gMEUT NGGEET;gFEUX;gMBUOQ;gFEE
gKEUAEM;fix NJEUAENA;kUQA;f LET;gNGGAAM;hSEN;fix;f KIQ;gNGOM;eC NGKUE MAEMBA;hZA;gYUM;gWANGKUOQ;gNGGEN
hDEUAEREE;hGKAQ;gGHARAE;gMBEEKEET;gGBAYI;gNYIR MKPARAQ MEUN;hTU MBIT;gMBEUM;gPIRIEEN;gNDOMBU
gMBAA CABBAGE-TREE;gKEUSHEUAEP;gGHAP;gKEUKAQ;fxu MUOMAE;f NZEUM;gMBUE;gNSEUAEN;gMBIT;gYEUQ;gKPARAQ;hAA
gSEUX;gNDIDA;gTAASHAE;gNJUEQ;gTITA YUE;gSUAET;gNGGUAEN NYAM;gVEUX;gNANSANAQ;fix KEUAERI;f NTAA;hGGUON
gLAP;gMBIRIEEN;hGBASAQ;gNTEUNGBA;gTEUTEUX;gNGGUM;gFUE;gNDEUT;hSA;iHAQ;gBUNG;gVEUAEPEN;gMBERAE;gRU
gNJAEM;fnn;f TITUAEP;gNSUOT NGOM;hJEEEE;gKET;gNGGU;gMAESI;hBUAEM;gLU;gKUT;gNJAM;hGOM;gWUP;gNGGUEET
hSOM;hTEN;gKUOP NKAARAE;gNSUN;hDAM;fix NSIEE;f YAA;gNDAP;gSHUEQ;hETFON;gMBI;hAEMBA;hBANYI;gKEUSEUX
gMBEUX;gKEUM;gMBAA PICKET;gYUWOQ;gNJEUX;gMIEE;hUAE;gSHIQ;gKEN LAW;kFATIGUE;gNGAQ;hAQ;gLIQ;gPIN;hEN
gTET;eD MBUO;gWAP;gNJI;gMFON;gNJIEE;gLIEE;gNJEUT;hSHEE;hGGAAMAE;hYAM;gWUAEN;gNGKUN;gSHEE;gNGKAP
gKEUAETMEUN;gTEUT;gSHEUAE;gNJAP;gSUE;gKET;gYAEMMAE;gKUOM;gSAP;gMFEUT;gNDEUX;gMALEERI;hEUT;gSEUAEQ;gYEN
gNJEUAEM;gKEUOT MBUAE;gNGKEURI;gTU;gGHAA;gNGKYEE;gFEUFEUAET;gNDEE;gMGBOFUM;gLEUAEP;gNDON;gMONI;hGBEUN
gPUUT;gMGBIEE;hFO;gLUM;gNSIEEP;gMBAA;gKWAET;gNYET;gTEUAEN;gSOT;gYUWOQ;gKEUM;gRAEM;gTEEEE;gNGKEUAEQ
gMFEUAE;gNSIEET;gKEUP;gPIP;hEUTAE;gNYUE;gLET;gNGGAAM;gMFIEE;gNGGWAEN;gYUOM;gPAP;gYUOP;gNDAM;hTEUM
gSUAE;gKUN;gNGGEUX;iKIEE;gTUOT;gMEUN;gKUQ;gNSUM;gTEUN;gMAENJET;gNGGAP;gLEUM;gNGGUOM;hSHUT;hJUEQ
gGHEUAE;gKU;gRENlw;gTAE;hOQ;gNYI;gRII;gLEEEE;gMEEEE;h;gSUU;fye;f SHII;iEUX;gKYEE;gNU;gSHU;gNTEE;gPEE
gNI;gSHOQ;gPUQ;gMVOP;gLOQ;gREN MUCH;gTI;gNTUU;gMBAAbr;gSAQ;gFAA;eE NDAP;gTOON;gMBEUM;gLAP;gVOM;gLOON
gPAA;gSOM;gRAQ;gNSHUOP;hDUN;gPUAE;gTAM;gNGKA;gKPEUX;gWUO;gSEE;gNGGEUAET;gPAAM;gTOO;gKUOP;gLOM;gNSHIEE
hGOP;gMAEM;gNGKEUX;iOQ;hSHUE;gRIMGBA;gNJEUX;gPEEM;gSAA;gNGGURAE;gMGBA;gGHEUX;gNGKEUAEM;hJAEMLI;gMAP
gLOOT;gNGGEEEE;hDIQ;gTAEN NTEUM;gSET;gPUM;gNDAA SOFTNESS;hGGUAESHAE NYAM;gYIEE;gGHEUN;gTUAE;gYEUAE;gPO
gTUMAE;gKEUAE;gSUAEN;gTEUAEQ;gVEUAE;gWEUX;gLAAM;gPU;gTAAQ;gGHAAMAE;gNGEUREUT;gSHEUAEQ;gMGBEN;hBEE
gNZAQ;hKOM;gGBET;gTUM;gKUET;gYAP;gNYI CLEAVER;gYIT;gMFEUQ;gNDIAQ;gPIEEQ;gYUEQ;gLEUAEM;gFUE;gGBEUX
gNGKUP;gKET;gMAE;gNGKAAMI;gGHET;fxf;f NTUM;gPEUT;gYEUM;gNGGEUAE;hYIld;hZUQ;gPOON;gMIEE;gFUET;gNAE
gMUAE;gGHEUAE;gFU I;gMVI;gPUAQ;gNGKUM;gKUT;gPIET;gNTAP;gYEUAET;gNGGUP;fil PEOPLE;f FU CALL;hOM;gNJEE
gA;gTOQ;gO;gI;gLAQ;fil PLURAL;f TAA;iQ;gNDAA MY HOUSE;gSHIQ;gYEUX;gNGUAE;gYUAEN;hOQ SWIMMING;kCOVER
hUQ;iN;gKEUX;gPEUX;gNJEE EPOCH;gPUE;gWUE;gFEE;gVEE;gLU;gMI;gREUX;hAE;gNGUAET;fhh;f SHO;jQ;gFU REMEDY
fiy;fwz;f LOQ;gKO;gMEN;fix;f MAQ;gTEU;gKI;gMON;fgm;f FAQ;gGHOM;eFid;f U;gKU;fwy;f REE;gTAE;gNYI;fjb
f RII;iEE;gMEEEE;gTAA;gNDAA;hJAEM;gM;gSUU;hHII;hI;hEUX;gKYEE;hET;gNUAE;i;hJUAE;gYOQ;gSHU;fiu;f NSHA
gPEUX;gNTEE;gWUE;gPEE;gRU;gNI;gREUX;gKEN;gNGKWAEN;iGA;gSHO;gPUAE;gFOM;fmx;f LI;hOQ;gKO;gMBEN;gREN;fix
f MO;hBAA;gTET;gKPA;gSAMBA;gVUEQ;!16a40 0MROaajq;5 NGI;6YO;6MIM;5lk;5kf;5 A;5uh;5 KHAI;6HAO;6DAI;6CHU
6KEAAE;6OL;6MAEM;6NIN;5il;5ut;5 O;6RO;6SHI;6THEA;6EA;5mx;5 E;6KO;6LAN;5jb;5 HAI;6RI;6TEK;!16a60 3coej
5bh;6e;5aq;5bf;6m;5dz;5br;6l;5cn;!16a6e 3is;3akis;0TANGSAaa OZ;aC;aQ;aX;9AZ;aC;aQ;aX;9VZ;aC;aQ;aX;9EZ
aC;aQ;aX;9IZ;aC;aQ;aX;9UZ;aC;aQ;aX;9AWZ;bC;bQ;bX;9UIZ;bC;bQ;bX;8am NG;8ep UEX;8fe UEZ;bAWX;8 UEC;bZ;bQ
bX;aIUZ;cC;cQ;cX;9MZ;aC;aQ;aX;8id;9c;8kq;8hh;8jv;8iu;8mx;8il;8hy;8jl;8lk;8ix;9y;8hp;8jb;8 HTA;8jq;8kf
8ip;8 NHA;8hj;8ny;8qh;8kr;8 HTTA;8im;8 XA;8xf;8kw;8hv;8uu;!16ac0 6coej;8bh;9e;8aq;8bf;9m;8dz;8br;9l
8cn;!16ad0 0BASSA VAHaa ENNI;bid;b SE;bxf;b MBE;cYIE;cGAH;cDHII;cKPAH;cJO;cHWAH;bmx;b ZO;cGBU;cDO;cCE
cUWU;bes;blk;b VU;cYEIN;bil;b WADDA;cA;cO;but;b U;bwy;b E;cI;!16af0 9gieyed;bfsed;b MIDed;bfs-MIDed
bey-LOWed;9hoff;!16b00 0PAHAWH HMONGcd KEEB;iV;gIB;hV;gAUB;iV;gUB;hV;gEB;hV;gAIB;iV;gOOB;iV;gAWB;iV
gUAB;iV;gOB;hV;gIAB;iV;gAB;hV;gWB;hV;gAAB;iV;cgc VAU;fNTSAU;fLAU;fHAU;fNLAU;fRAU;fNKAU;fQHAU;fYAU
fHLAU;fMAU;fCHAU;fNCHAU;fHNAU;fPLHAU;fNTHAU;gAU;ene;e XAU;fCAU;cav CIM TUB;jSO;jKES;kHAV;jSUAM;jHOM
jTAUM;dg VOS THOM;kSHAB CEEB;fCIM CHEEM;fVOS THIAB;jFEEM;fXYEEM NTXIV;ksn;k TOV;lFAIB;fVOS SEEV
fMEEJ SUAB;fVOS NRUA;fIB YAM;fXAUS;fCIM TSOV ROG;!16b50 ccoej;ebh;fe;eaq;ebf;fm;edz;ebr;fl;ecn
!16b5b cdu TENS;fHUNDREDS;egmqx;ewf;eaywf;egm BILLIONS;e TRILLIONS;!16b63 cag VOS LUB;fXYOO;fHLI
eun-STAGE HLI;e ZWJ THAJ;fHNUB;fNQIG;fXIAB;fNTUJ;fAV;fTXHEEJ CEEV;fMEEJ TSEEB;fTAU;fLOS;fMUS
fCIM HAIS LUS NTOG NTOG;jCUAM TSHOOJ;jTXWV;n CHWV;jPUB DAWB;jNRES TOS;!16b7d c CLANag TSHEEJ;kYEEG
kLIS;lAUJ;kXYOOJ;kKOO;kHAWJ;kMUAS;kTHOJ;lSAB;kPHAB;kKHAB;kHAM;kVAJ;kFAJ;kYAJ;kTSWB;kKWM;kVWJ
!16e40 0MEDEFAIDRINacaa M;gS;gV;gW;gATIU;gZ;gKP;gP;gT;gG;gF;gI;gK;gA;gJ;gE;gB;gC;gU;fxu;f L;gQ;gHP;gNY
gX;gD;fyf;f N;gR;gO;fmn;f Y;cdaa M;gS;gV;gW;gATIU;gZ;gKP;gP;gT;gG;gF;gI;gK;gA;gJ;gE;gB;gC;gU;fxu;f L
gQ;gHP;gNY;gX;gD;fyf;f N;gR;gO;fmn;f Y;bcoej;dbh;ee;daq;dbf;em;ddz;dbr;el;dcn;bdugm;dpj;dos;dtt;em;dpk
dul;dqu;en;dtn;bcobhghae;eeghae;daqghae;bet;bhoff;bau AIVA;bew OH;!16f00 1IAOaail;6lk;6 YIil;7PLA;6ix
6 MHA;6jhix;6xf;6sc;6 VFA;6jq;6kf;6 YIkn;9jq;6kn;7p;6iy;6 NHA;7YIlp;6jhiy;6lp;6 NNHA;6jb;6 LYA;8HA;9YA
7TLHA;7DLHA;7TLHYA;7DLHYA;6id;6kq;6 YIid;7QA;8GA;6hh;6 NGHA;6jhhh;6hp;6 XA;6kr;6 GHHA;7TSSA;7DZZA;6hy
6 NYHA;6wq;6 DZHA;7YIwq;9 DZHA;7REFORMEDwq;6hj;6mr;6wu;6 ZSHA;6qh;6 DZA;7YIqh;6jv;6uu;6 ZSA;8ZA;9SA
6jh ZZA;6 ZZYA;9SYA;6mx;6 AH;7HHA;7BRI;7SYI;7DZYI;6yk;6 TSE;7RTE;!16f4f 5ggcklea;5a NASALIZATION
5g ASPIRATION;7REFORMED VOICING;gASPIRATION;4cdag A;8ll;8 AHH;aN;bG;9O;8ut;8 WO;a;9E;8vb;8 ENG;9OEY;9I
aA;bN;cG;aO;aE;8mo;8 IU;aNG;9U;aA;bN;cG;8nh;8 UEI;aNG;9Y;aI;9AE;bE;9ERR;8uk ERR;8 ER;8uk ER;8mn;8 EI
8ne;8 OU;9N;aG;9UOG;9YUI;9OG;aER;9VW;9IG;9EA;9IONG;9UI;!16f8f 4edaj;6qgaj;6ah;7l;4aaed-2;93;94;95;96
97;98;6 REFORMEDed-1;i2;i4;i5;i6;i8;!16fe0 0TANGUTnlav;0NUSHUnlav;0OLD CHINESEbgav;bnlav;0KHITANadoevd
!16ff0 0VIETNAMESEgh READINGavny;m NHAY;!18800 0TANGUT COMPONENT-001;j2;j3;j4;j5;j6;j7;j8;j9;i10;j1;j2
j3;j4;j5;j6;j7;j8;j9;i20;j1;j2;j3;j4;j5;j6;j7;j8;j9;i30;j1;j2;j3;j4;j5;j6;j7;j8;j9;i40;j1;j2;j3;j4;j5
j6;j7;j8;j9;i50;j1;j2;j3;j4;j5;j6;j7;j8;j9;i60;j1;j2;j3;j4;j5;j6;j7;j8;j9;i70;j1;j2;j3;j4;j5;j6;j7;j8
j9;i80;j1;j2;j3;j4;j5;j6;j7;j8;j9;i90;j1;j2;j3;j4;j5;j6;j7;j8;j9;h100;j1;j2;j3;j4;j5;j6;j7;j8;j9;i10
j1;j2;j3;j4;j5;j6;j7;j8;j9;i20;j1;j2;j3;j4;j5;j6;j7;j8;j9;i30;j1;j2;j3;j4;j5;j6;j7;j8;j9;i40;j1;j2;j3
j4;j5;j6;j7;j8;j9;i50;j1;j2;j3;j4;j5;j6;j7;j8;j9;i60;j1;j2;j3;j4;j5;j6;j7;j8;j9;i70;j1;j2;j3;j4;j5;j6
j7;j8;j9;i80;j1;j2;j3;j4;j5;j6;j7;j8;j9;i90;j1;j2;j3;j4;j5;j6;j7;j8;j9;h200;j1;j2;j3;j4;j5;j6;j7;j8;j9
i10;j1;j2;j3;j4;j5;j6;j7;j8;j9;i20;j1;j2;j3;j4;j5;j6;j7;j8;j9;i30;j1;j2;j3;j4;j5;j6;j7;j8;j9;i40;j1;j2
j3;j4;j5;j6;j7;j8;j9;i50;j1;j2;j3;j4;j5;j6;j7;j8;j9;i60;j1;j2;j3;j4;j5;j6;j7;j8;j9;i70;j1;j2;j3;j4;j5
j6;j7;j8;j9;i80;j1;j2;j3;j4;j5;j6;j7;j8;j9;i90;j1;j2;j3;j4;j5;j6;j7;j8;j9;h300;j1;j2;j3;j4;j5;j6;j7;j8
j9;i10;j1;j2;j3;j4;j5;j6;j7;j8;j9;i20;j1;j2;j3;j4;j5;j6;j7;j8;j9;i30;j1;j2;j3;j4;j5;j6;j7;j8;j9;i40;j1
j2;j3;j4;j5;j6;j7;j8;j9;i50;j1;j2;j3;j4;j5;j6;j7;j8;j9;i60;j1;j2;j3;j4;j5;j6;j7;j8;j9;i70;j1;j2;j3;j4
j5;j6;j7;j8;j9;i80;j1;j2;j3;j4;j5;j6;j7;j8;j9;i90;j1;j2;j3;j4;j5;j6;j7;j8;j9;h400;j1;j2;j3;j4;j5;j6;j7
j8;j9;i10;j1;j2;j3;j4;j5;j6;j7;j8;j9;i20;j1;j2;j3;j4;j5;j6;j7;j8;j9;i30;j1;j2;j3;j4;j5;j6;j7;j8;j9;i40
j1;j2;j3;j4;j5;j6;j7;j8;j9;i50;j1;j2;j3;j4;j5;j6;j7;j8;j9;i60;j1;j2;j3;j4;j5;j6;j7;j8;j9;i70;j1;j2;j3
j4;j5;j6;j7;j8;j9;i80;j1;j2;j3;j4;j5;j6;j7;j8;j9;i90;j1;j2;j3;j4;j5;j6;j7;j8;j9;h500;j1;j2;j3;j4;j5;j6
j7;j8;j9;i10;j1;j2;j3;j4;j5;j6;j7;j8;j9;i20;j1;j2;j3;j4;j5;j6;j7;j8;j9;i30;j1;j2;j3;j4;j5;j6;j7;j8;j9
i40;j1;j2;j3;j4;j5;j6;j7;j8;j9;i50;j1;j2;j3;j4;j5;j6;j7;j8;j9;i60;j1;j2;j3;j4;j5;j6;j7;j8;j9;i70;j1;j2
j3;j4;j5;j6;j7;j8;j9;i80;j1;j2;j3;j4;j5;j6;j7;j8;j9;i90;j1;j2;j3;j4;j5;j6;j7;j8;j9;h600;j1;j2;j3;j4;j5
j6;j7;j8;j9;i10;j1;j2;j3;j4;j5;j6;j7;j8;j9;i20;j1;j2;j3;j4;j5;j6;j7;j8;j9;i30;j1;j2;j3;j4;j5;j6;j7;j8
j9;i40;j1;j2;j3;j4;j5;j6;j7;j8;j9;i50;j1;j2;j3;j4;j5;j6;j7;j8;j9;i60;j1;j2;j3;j4;j5;j6;j7;j8;j9;i70;j1
j2;j3;j4;j5;j6;j7;j8;j9;i80;j1;j2;j3;j4;j5;j6;j7;j8;j9;i90;j1;j2;j3;j4;j5;j6;j7;j8;j9;h700;j1;j2;j3;j4
j5;j6;j7;j8;j9;i10;j1;j2;j3;j4;j5;j6;j7;j8;j9;i20;j1;j2;j3;j4;j5;j6;j7;j8;j9;i30;j1;j2;j3;j4;j5;j6;j7
j8;j9;i40;j1;j2;j3;j4;j5;j6;j7;j8;j9;i50;j1;j2;j3;j4;j5;j6;j7;j8;j9;i60;j1;j2;j3;j4;j5;j6;j7;j8
!1aff0 0KATAKANAaa MINNANed-2;k3;k4;k5;!1aff5 k7;k8;h NASALIZEDed-1;u2;u3;u4;u5;!1affd u7;u8
!1b000 ajh E;0HIRAGANAaajh YE;1ENTAIGANAaa A-1;f2;f3;fWO;dI-1;f2;f3;f4;dU-1;f2;f3;f4;f5;dE-2;f3;f4;f5
f6;dO-1;f2;f3;cid-1;f2;f3;f4;f5;f6;f7;f8;f9;f10;g1;fKE;c KI-1;g2;g3;g4;g5;g6;g7;g8;eU-1;g2;g3;g4;g5;g6
g7;eE-1;g2;g3;g4;g5;g6;eO-1;g2;g3;gKI;cjv-1;f2;f3;f4;f5;f6;f7;f8;c SI-1;g2;g3;g4;g5;g6;eU-1;g2;g3;g4
g5;g6;g7;g8;eE-1;g2;g3;g4;g5;eO-1;g2;g3;g4;g5;g6;g7;cjq-1;f2;f3;f4;c TI-1;g2;g3;g4;g5;g6;g7;eU-1;g2;g3
g4;gTO;cyk-1;f2;f3;f4;f5;f6;f7;f8;f9;ces-1;f2;f3;f4;f5;f6;fRA;ciy-1;f2;f3;f4;f5;f6;f7;f8;f9;c NI-1;g2
g3;g4;g5;g6;g7;gTE;eU-1;g2;g3;eE-1;g2;g3;g4;g5;g6;gKO;eO-1;g2;g3;g4;g5;chp-1;f2;f3;f4;f5;f6;f7;f8;f9
f10;g1;c HI-1;g2;g3;g4;g5;g6;g7;eU-1;g2;g3;cwb-1;f2;f3;f4;f5;f6;f7;c HO-1;g2;g3;g4;g5;g6;g7;g8;cix-1
f2;f3;f4;f5;f6;f7;c MI-1;g2;g3;g4;g5;g6;g7;cye-1;f2;f3;f4;c ME-1;g2;gMA;eO-1;g2;g3;g4;g5;g6;ciu-1;f2
f3;f4;f5;fYO;cxu-1;f2;f3;f4;c YO-1;g2;g3;g4;g5;g6;cip-1;f2;f3;f4;c RI-1;g2;g3;g4;g5;g6;g7;eU-1;g2;g3
g4;g5;g6;eE-1;g2;g3;g4;eO-1;g2;g3;g4;g5;g6;cmx-1;f2;f3;f4;f5;c WI-1;g2;g3;g4;g5;eE-1;g2;g3;g4;eO-1;g2
g3;g4;g5;g6;g7;dN-MU-MO-1;l2;1IRAGANAaajh WU;0KATAKANAaajh YI;eE;dWU;!1b150 0HIRAGANAaaad WI;eE;eO
!1b164 0KATAKANAaaad WI;eE;eO;dN;!1bc00 0DUPLOYANaa H;bX;bP;bT;bF;bK;bL;bB;bD;bV;bG;bR;bP N;bD S;bF N
bK M;bR S;bTH;bSLOAN DH;bDH;bKK;bSLOAN J;bHL;bLH;bRH;bM;bN;bJ;bS;bM N;bN M;bJ M;bS J;bMabbo;bNabbo
bJabbo;ecylfaoah;bSabbo;gal;bM S;bN S;bJ S;bS S;bM N S;bN M S;bJ M S;bS J S;bJ Sabbo;dN;e S;bS T;e R
dP;e R;bT S;dR S;bW;cH;c R;bS N;dM;bK R S;bG R S;bS K;e R;bA;bSLOAN OW;bOA;c;bAOU;bI;bE;bIE;afe I;a UI
awy;a SLOAN EH;bROMANIAN I;bSLOANwy;aep I;a YE;bU;bEU;bXW;bU N;aep U;a ROMANIAN U;bUH;bSLOAN U;bOOH;cW
cU;amx;a WO;cI;cEI;cOW;bNASAL U;hO;hI;hA;bPERNIN AN;jM;bSLOANvb;g AN;gpg;add M;!1bc70 8 AFFIXaraxzz
e MIDaxzz;eajaxzz;efsatzz;e MIDatzz;eeyatzz;ezozz;gar-TO-RIGHTzz;g TANGENT;ggr;g Ebg;hIbg;hTANGENTbg
!1bc80 eeyct;g TIGHTct;gee;hpee;gbo;hq;gfi;gsa;gat;!1bc90 efsct;g TIGHTct;gee;hpee;gbo;hq;gfi;gsa;gat
hf;!1bc9c 8ag Oabgl;8 THICKaa SELECTOR;8akav;8cm CHINOOKhoff;0SHORTHAND FORMATaa OVERLAP
g CONTINUING OVERLAP;gce STEP;ghd STEP;!1cf00 0ZNAMENNYgiav GORAZDO NIZKO Sokpgar;dNIZKO Sokpgar
dTSATApgar;dGORAZDO NIZKOpgar;dNIZKOpgar;dSREDNEpgar;dMALOompgar;compgar;c VYSOKOpgar;dMALOom Szspgar
com Szspgar;c VYSOKO Szspgar;dGORAZDO NIZKO Sokpgaj;dNIZKO Sokpgaj;dTSATApgaj;dGORAZDO NIZKOpgaj
dNIZKOpgaj;dSREDNEpgaj;dMALOompgaj;compgaj;c VYSOKOpgaj;dMALOom Szspgaj;com Szspgaj;c VYSOKO Szspgaj
dTSATA Sok;dMALOom Sok;dSTRANNO MALOom;com Sok;gTRANNO;c VYSOKO Sok;dMALOom STRANNO;dGORAZDO VYSOKO
dZELO;cpg;c RAVNO;dTIKHAYA;dBORZAYA;dUDARKA;dPODVERTKA;dLOMKA;dKUPNAYA;eACHKA;dZEVOK;dSKOBA;dRAZSEKA
dKRYZHpgar;!1cf30 a TONAL RANGEav MRACHNO;pSVETLO;pTRESVETLO;aav ZADERZHKA;dDEMESTVENNY ZADERZHKA
dOTSECHKA;dPODCHASHIE;nabatas;dCHASHKA;k POLNAYA;dOBLACHKO;dSOROCHYA NOZHKA;dTOCHKA;dDVOETOCHIE
a ATTACHINGat OMET;aavuz OMET;c KRYZH;adk TONAL RANGEqr;8 PRIZNAKkl LEVEL-2;p3;jDIRECTION FLIP;jKRYZH
jROG;!1cf50 9NEUME KRYUK;k TIKHY;fPARAKLIT;fDVA V CHELNU;fKLYUCH;fZANOZHEK;fSTOPITSA;n S OCHKOM
fPEREVODKA;osl;fSTOPITSAab SOROCHYA NOZHKA;fCHELYUSTKA;fPALKA;era;e GOLUBCHIK BORZY;pTIKHY;pMRACHNY
pSVETLY;pTRESVETLY;fVRAKHIYA PROSTAYA;oMRACHNAYA;nts;n TRESVETLAYA;npm PROSTAYA;qMRACHNAYA;pts
p TRESVETLAYA;eakra;eck CHELYUSTKA;e DERBITSA;fKHAMILO;fCHASHKA;fPODCHASHIE;fSKAMEYTSA MRACHNAYA;ots
o TRESVETLAYA;qIKHAYA;fDEMESTVENNY KLYUCH;fSKAMEYTSApmts;o KLYUCHENEPOSTOYANNAYA;opm TIKHAYA
o DVOECHELNAYA PROSTAYA;zYAts;zYAsl;zYApm;gLOZHITIE;o S ZAPYATOY;pZAKRYTOE;pSok;fKRYZH;fROG;fFITA
fKOBYLA;fZMEYTSA;fSTATYA;l S ZAPYATOY;nok;n ZAPYATOY Iok;nok I ZAPYATOY;mZAKRYTAYA;v S ZAPYATOY
mS ROGOM;oDVUMYA ZAPYATYMI;oZAPYATOY I PODCHASHIEM;fPOLKULIZMY;fSTATYAsl;hRELA PROSTAYA
mMRACHNOTIKHAYA;mKRYZHEVAYA;mPOLUPOVODNAYA;oVODNAYA;lsl;l KLYUCHEPOVODNAYA;tNEPOSTOYANNAYA
mTIKHAYA PUTNAYA;mDVOECHELNAYA;vOKRYZHEVAYA;wPOVODNAYA;vAYApm;vOPOVODNAYApm;mGROMNAYAabcvra;lydabcvra
l GROMNAYA;lyd;nabakra;l GROMOKRYZHEVAYA;zYA POVODNAYA;fMECHIK;l POVODNY;mKLYUCHEVOY;tPOVODNY
tNEPOSTOYANNY;fSTRELA TRYASOGLASNAYA;sPOVODNAYA;sSTRELNAYA;fOSOKA;kts;k TRESVETLAYA;lKRYUKOVAYAts
kpmts;msl;fSTRELA KRYUKOVAYA;w POVODNAYA;xGROMNAYAabcvra;wydabcvra;w GROMNAYA;wyd;yabakra
w GROMOKRYZHEVAYA;zOMOKRYZHEVAYA POVODNAYA;xTRYASKA;fKUFISMA;fOBLAKO;fDUDA;fNEMKA;fPAUK
!1d000 0BYZANTINEwgaudv;d DASEIA;dcc;d OXEIA EKFONITIKON;kDIPLI;eVAREIA EKFONITIKON;lDIPLI;eKATHISTI
eSYRMATIKI;ePARAKLITIKI;eYPOKRISIS;n DIPLI;eKREMASTI;eAPESO EKFONITIKON;eEXO EKFONITIKON;eTELEIA
eKENTIMATA;eAPOSTROFOS;o DIPLI;eSYNEVMA;eTHITA;eOLIGONie;eGORGONie;ePSILON;eCHAMILON;eVATHY;eISONie
eKENTIMAie;lTAie;eSAXIMATA;ePARICHON;eSTAVROS APODEXIA;eOXEIAIie;eVAREIAIie;eAPODERMAie;hTHEMA;eKLASMA
eREVMA;ePIASMAie;eTINAGMA;eANATRICHISMA;eSEISMA;fYNAGMAie;l META STAVROU;eOYRANISMAie;eTHEMA;eLEMOI
eDYO;eTRIA;fESSERA;eKRATIMATA;eAPESO EXOsk;eFTHORAie;eIMIFTHORA;eTROMIKONie;eKATAVA TROMIKON;ePELASTON
fSIFISTON;eKONTEVMA;eCHOREVMAie;eRAPISMA;ePARAKALESMAie;jLITIKIie;eICHADIN;eNANA;ePETASMA
eKONTEVMA ALLO;eTROMIKON ALLO;eSTRAGGISMATA;eGRONTHISMATA;eISONsk;eOLIGONsk;fXEIAsk;ePETASTI;eKOUFISMA
ePETASTOKOUFISMA;eKRATIMOKOUFISMA;ePELASTONsk;eKENTIMATAsk ANO;lsk ANO;eYPSILI;eAPOSTROFOSsk
nI SYNDESMOSsk;eYPORROI;eKRATIMOYPORROON;eELAFRON;eCHAMILI;eMIKRON ISON;eVAREIAsk;ePIASMAsk
fSIFISTONsk;eOMALON;eANTIKENOMA;eLYGISMA;ePARAKLITIKIsk;jALESMAsk;eETERON PARAKALESMA;eKYLISMA
eANTIKENOKYLISMA;eTROMIKONsk;eEKSTREPTON;eSYNAGMAsk;gRMA;eCHOREVMAsk;eEPEGERMA;eSEISMAsk;eXIRON KLASMA
eTROMIKOPSIFISTON;ePSIFISTOLYGISMA;eTROMIKOLYGISMA;lPARAKALESMA;ePSIFISTOPARAKALESMA;eTROMIKOSYNAGMA
ePSIFISTOSYNAGMA;eGORGOSYNTHETON;eARGOSYNTHETON;eETERON ARGOSYNTHETON;eOYRANISMAsk;eTHEMATISMOS ESO
rXO;j APLOUN;hS KAI APOTHES;eKATAVASMA;eENDOFONON;eYFEN KATO;jANO;eSTAVROS;eKLASMA ANO;eDIPLIie
eKRATIMAie;l ALLO;lsk;eAPODERMAsk;gLI;eDIPLI;eTRIPLI;fETRAPLI;eKORONIS;eLEIMMA ENOS CHRONOU
lDYO CHRONON;lTRION CHRONON;mESSARON CHRONON;lIMISEOS CHRONOU;eGORGONsk ANO;k PARESTIGMENON ARISTERA
zDEXIA;eDIGORGON;m PARESTIGMENON ARISTERA KATO;zN ARISTERA ANO;zN DEXIA;eTRIGORGON;eARGON;eIMIDIARGON
eDIARGON;eAGOGI POLI ARGI;kARGOTERI;nI;kMETRIA;mSI;kGORGI;oOTERI;kPOLI GORGI;eMARTYRIA PROTOSuc
nALLI PROTOSuc;nDEYTEROSuc;nALLI DEYTEROSuc;nTRITOSuc;qFONIAS;oETARTOSuc;v LEGETOSuc;nLEGETOSuc
nPLAGIOSuc;eISAKIA TELOUS ICHIMATOS;eAPOSTROFOI TELOUS ICHIMATOS;eFANEROSIS TETRAFONIAS;oMONOFONIAS
oDIFONIAS;eMARTYRIA VARYSuc;nPROTOVARYSuc;oLAGIOS TETARTOSuc;eGORTHMIKON N APLOUN;rDIPLOUN
eENARXIS KAI FTHORA VOU;eIMIFONON;iTHORON;eFTHORAie DEYTEROU ICHOU;k DIATONIKIil;u NANA;lNAOSuc
lDIATONIKI DI;lSKLIRON DIATONON DI;lDIATONIKI KE;vZO;vNI KATO;yANO;lMALAKON CHROMA DIFONIAS
z MONOFONIAS;fHTORA SKLIRON CHROMA VASIS;fTHORA SKLIRON CHROMA SYNAFI;lNENANO;eCHROA ZYGOS;kKLITON
kSPATHI;eFTHORA I YFESIS TETARTIMORION;lENARMONIOS ANTIFONIA;eYFESIS TRITIMORION;eDIESIS TRITIMORION
mETARTIMORION;lAPLI DYOtk;lMONOGRAMMOS TESSERAtk;lDIGRAMMOS EXtk;lTRIGRAMMOS OKTOtk;eYFESIS APLI DYOtk
lMONOGRAMMOS TESSERAtk;lDIGRAMMOS EXtk;lTRIGRAMMOS OKTOtk;eGENIKI DIESIS;lYFESIS;eDIASTOLI APLI MIKRI
tEGALI;nDIPLI;nTHESEOS;eSIMANSIS THESEOS;u DISIMOU;vTRISIMOU;wETRASIMOU;nARSEOS;t DISIMOU;uTRISIMOU
vETRASIMOU;eDIGRAMMA GG;gFTOGGOS OU;eSTIGMA;eARKTIKOil;l VOU;lkq;l DI;mKE;mZO;mNI;eKENTIMATAsk MESO
lsk MESO;lTAsk KATO;lsk KATO;fLASMA KATO;eGORGONsk KATO;!1d100 0MUSICALaucv BARLINE;9ak BARLINE
am BARLINE;9nsam BARLINE;9va BARLINE;9fe BARLINE;9ar REPEATag;aj REPEATag;9 REPEATcy;aDAL SEGNO
9kf CAPO;9 SEGNO;aCODA;aREPEATED FIGURE-1;q2;q3;aFERMATA;hal;aBREATHav;aCAESURA;aBRACE;9ba;ahsu STAFF
aesu STAFF;9aqsu STAFF;9bfsu STAFF;amsu STAFF;9dzsu STAFF;b-STRING FRETBOARD;9bf-STRING FRETBOARD
9 G CLEF;g OTTAVA ALTA;oBASSA;aC CLEF;aF CLEF;g OTTAVA ALTA;oBASSA;aDRUM CLEF-1;k2
!1d129 9mu MEASUREss;9ak SHARP;cFLAT;9 FLAThd;ece;aNATURALhd;hce;aSHARPhd;fce;9fved SHARP;eFLAT
9 COMMON TIME;bUT TIME;aOTTAVA ALTA;hBASSA;aQUINDICESIMA ALTA;nBASSA;aMULTIss;aWHOLEss;9cgss;9fvss
9ihss;9umss;9hs-SECONDss;9ml-FOURTHss;9bhayex-EIGHTHss;9 Xmv;9chmv;9bq Xmv;asmvbt;ep;9anmvhdbt;gp
darbt;gp;ejbt;gp;dcebt;gp;dhdajbt;ip;9ofmvbt;ep;9an-ROUNDmvcebt;mp;9clmv;9 VOIDmv;9mvbp;9 NULLmv
aCLUSTERmvbt;kp;9fd;9 WHOLErt;9cgrt;9fvrt;9ihrt;9umrt;9hs-SECONDrt;9ml-FOURTHrt;9bhayex-EIGHTHrt
9gi STEM;dPRECHGESANG STEM;cTREMOLO-1;k2;k3;9 FINGERED TREMOLO-1;r2;r3;9gi AUGMENTATIONbo;cFLAG-1;h2
h3;h4;h5;9 BEGIN BEAM;9rp BEAM;9 BEGIN TIE;9rp TIE;9 BEGIN SLUR;9rp SLUR;9 BEGIN PHRASE;9rp PHRASE
9gifr;b STACCATO;cTENUTO;cSTACCATISSIMO;cMARCATO;j-STACCATO;bfr-STACCATO;b LOURE;9 ARPEGGIATOhd;kce
9gi DOIT;cRIP;cFLIP;cSMEAR;cBEND;bak TONGUE;bge TONGUE;9 RINFORZANDO;aSUBITO;aZ;aPIANO;aMEZZO;aFORTE
aCRESCENDO;aDECRESCENDO;aGRACErtpv;h NOpv;aTR;bURN;9cp TURN;9 TURNpv;ehd;9cwas-1;e2;e3;e4;e5;e6;e7;e8
e9;e10;f1;9 HAUPTSTIMME;aNEBENSTIMME;9rpfb STIMME;9 DEGREEpv;9gice BOW;bhd BOW;b HARMONIC
cSNAP PIZZICATO;9 PEDALav;fhdav;9cg PEDALav;9 GLISSANDOhd;jce;9ab FINGERNAILS;9 DAMP;e ALL;aMAXIMA
aLONGA;aBREVIS;aSEMIBREVISbt;lp;aMINIMA;gbp;aSEMIMINIMAbt;lp;aFUSAbt;fp;aLONGA PERFECTAss
gIMPERFECTAss;aBREVISss;aSEMIBREVISss;aMINIMAss;aSEMIMINIMAss
aTEMPUS PERFECTUM CUM PROLATIONE PERFECTA;zATIONE IMPERFECTA;zATIONE PERFECTA DIMINUTION-1
hIMPERFECTUM CUM PROLATIONE PERFECTA;zOLATIONE IMPERFECTA;zOLATIONE IMPERFECTA DIMINUTION-1
zOLATIONE IMPERFECTA DIMINUTION-2;zOLATIONE IMPERFECTA DIMINUTION-3;aCROIX;aGREGORIAN C CLEF;kF CLEF
9bs B;9 VIRGA;aPODATUS;aCLIVIS;aSCANDICUS;aCLIMACUS;aTORCULUS;aPORRECTUS;j FLEXUS;aSCANDICUS FLEXUS
aTORCULUS RESUPINUS;aPES SUBPUNCTIS;aKIEVAN C CLEF;grpfb PIECE;gamrt;g RECITATIVEav;hWHOLErt;gcgrt
gfvrt STEMce;phd;gihrt STEMce;phd;g FLATag;aSORI;aKORON;!1d200 0GREEK VOCALtoau-1;g2;g3;g4;g5;g6;g7;g8
g9;g10;h1;h2;h3;h4;h5;h6;h7;h8;h9;g20;h1;h2;h3;h4;g50;h1;h2;h3;h4;6INSTRUMENTALtoau-1;n2;n4;n5;n7;n8
n11;o2;o3;o4;o7;o8;o9;n23;o4;o5;o6;o7;o9;n30;o2;o6;o7;o8;o9;n40;o2;o3;o5;o7;o8;o9;n50;o1;o2;o3;o4
0jaqpwg TRISEME;8ETRASEME;7PENTASEME;0GREEKwg LEIMMA;!1d2e0 0MAYANruej;7bh;8e;7aq;7bf;8m;7dz;7br;8l
7cn;7gm;7pj;7os;7tt;8m;7pk;7ul;7qu;8n;7tn;!1d300 1ONOGRAMnfxd;0DIGRAMnf HEAVENLYxd;aUMANxd
9EARTHLY HEAVEN;iUMAN;8xd;0TETRAGRAMnfeg;bhobq;b MIRED;cBARRIER;cKEEPINGad;cCONTRARIETY;cASCENT
cOPPOSITION;cBRANCHING OUT;cDEFECTIVENESSme DISTORTION;dIVERGENCE;cYOUTHFULNESS;cINCREASE;cPENETRATION
cREACH;cCONTACT;cHOLDING BACK;cWAITING;cFOLLOWING;cADVANCE;cRELEASE;eSISTANCE;cEASE;cJOY;cCONTENTION
cENDEAVOUR;cDUTIES;cCHANGE;cDECISIVENESS;boz RESOLUTION;b PACKING;cLEGION;cCLOSENESS;cKINSHIP
cGATHERING;cSTRENGTH;cPURITY;cFULLNESS;cRESIDENCE;cLAWme MODEL;cRESPONSE;cGOINGes MEET;cENCOUNTERS
cSTOVE;cGREATNESS;cENLARGEMENT;cPATTERN;cRITUAL;cFLIGHT;cVASTNESSme WASTING;cCONSTANCY;cMEASURE
cETERNITY;cUNITY;cDIMINISHMENT;bhrmw;b GUARDEDNESS;dATHERINGrq;cMASSING;cACCUMULATION;cEMBELLISHMENT
cDOUBT;cWATCH;cSINKING;cINNER;cDEPARTURE;dARKENING;dIMMING;cEXHAUSTION;cSEVERANCE;dTOPPAGE;cHARDNESS
cCOMPLETION;dLOSURE;cFAILURE;cAGGRAVATION;cCOMPLIANCE;bpgng VERGE;b DIFFICULTIES;cLABOURING;cFOSTERING
!1d360 0COUNTING ROD UNITcobh;ke;jaq;jbf;km;jdz;jbr;kl;jcn;dTENScobh;ke;jaq;jbf;km;jdz;jbr;kl;jcn
0mh TALLYavbh;be;aaq;abf;bm;0TALLYavbh;8m;!1d400 0MATHEMATICALozac A;hB;hC;hD;hE;hF;hG;hH;hI;hJ;hK;hL
hM;hN;hO;hP;hQ;hR;hS;hT;hU;hV;hW;hX;hY;hZ;fd A;hB;hC;hD;hE;hF;hG;hH;hI;hJ;hK;hL;hM;hN;hO;hP;hQ;hR;hS
hT;hU;hV;hW;hX;hY;hZ;csyac A;hB;hC;hD;hE;hF;hG;hH;hI;hJ;hK;hL;hM;hN;hO;hP;hQ;hR;hS;hT;hU;hV;hW;hX;hY
hZ;fd A;hB;hC;hD;hE;hF;hG;!1d456 hI;hJ;hK;hL;hM;hN;hO;hP;hQ;hR;hS;hT;hU;hV;hW;hX;hY;hZ;cozsyac A;jB;jC
jD;jE;jF;jG;jH;jI;jJ;jK;jL;jM;jN;jO;jP;jQ;jR;jS;jT;jU;jV;jW;jX;jY;jZ;hd A;jB;jC;jD;jE;jF;jG;jH;jI;jJ
jK;jL;jM;jN;jO;jP;jQ;jR;jS;jT;jU;jV;jW;jX;jY;jZ;deac A;!1d49e hC;hD;!1d4a2 hG;!1d4a5 hJ;hK;!1d4a9 hN
hO;hP;hQ;!1d4ae hS;hT;hU;hV;hW;hX;hY;hZ;fd A;hB;hC;hD;!1d4bb hF;!1d4bd hH;hI;hJ;hK;hL;hM;hN;!1d4c5 hP
hQ;hR;hS;hT;hU;hV;hW;hX;hY;hZ;dzoeac A;jB;jC;jD;jE;jF;jG;jH;jI;jJ;jK;jL;jM;jN;jO;jP;jQ;jR;jS;jT;jU;jV
jW;jX;jY;jZ;hd A;jB;jC;jD;jE;jF;jG;jH;jI;jJ;jK;jL;jM;jN;jO;jP;jQ;jR;jS;jT;jU;jV;jW;jX;jY;jZ
c FRAKTURac A;nB;!1d507 nD;nE;nF;nG;!1d50d nJ;nK;nL;nM;nN;nO;nP;nQ;!1d516 nS;nT;nU;nV;nW;nX;nY
!1d51e ld A;nB;nC;nD;nE;nF;nG;nH;nI;nJ;nK;nL;nM;nN;nO;nP;nQ;nR;nS;nT;nU;nV;nW;nX;nY;nZ;cakteac A;jB
!1d53b jD;jE;jF;jG;!1d540 jI;jJ;jK;jL;jM;!1d546 jO;!1d54a jS;jT;jU;jV;jW;jX;jY;!1d552 hd A;jB;jC;jD;jE
jF;jG;jH;jI;jJ;jK;jL;jM;jN;jO;jP;jQ;jR;jS;jT;jU;jV;jW;jX;jY;jZ;coz FRAKTURac A;pB;pC;pD;pE;pF;pG;pH;pI
pJ;pK;pL;pM;pN;pO;pP;pQ;pR;pS;pT;pU;pV;pW;pX;pY;pZ;nd A;pB;pC;pD;pE;pF;pG;pH;pI;pJ;pK;pL;pM;pN;pO;pP
pQ;pR;pS;pT;pU;pV;pW;pX;pY;pZ;cpulrac A;jB;jC;jD;jE;jF;jG;jH;jI;jJ;jK;jL;jM;jN;jO;jP;jQ;jR;jS;jT;jU;jV
jW;jX;jY;jZ;hd A;jB;jC;jD;jE;jF;jG;jH;jI;jJ;jK;jL;jM;jN;jO;jP;jQ;jR;jS;jT;jU;jV;jW;jX;jY;jZ;gozac A;lB
lC;lD;lE;lF;lG;lH;lI;lJ;lK;lL;lM;lN;lO;lP;lQ;lR;lS;lT;lU;lV;lW;lX;lY;lZ;jd A;lB;lC;lD;lE;lF;lG;lH;lI
lJ;lK;lL;lM;lN;lO;lP;lQ;lR;lS;lT;lU;lV;lW;lX;lY;lZ;gsyac A;lB;lC;lD;lE;lF;lG;lH;lI;lJ;lK;lL;lM;lN;lO
lP;lQ;lR;lS;lT;lU;lV;lW;lX;lY;lZ;jd A;lB;lC;lD;lE;lF;lG;lH;lI;lJ;lK;lL;lM;lN;lO;lP;lQ;lR;lS;lT;lU;lV
lW;lX;lY;lZ;gozsyac A;nB;nC;nD;nE;nF;nG;nH;nI;nJ;nK;nL;nM;nN;nO;nP;nQ;nR;nS;nT;nU;nV;nW;nX;nY;nZ;ld A
nB;nC;nD;nE;nF;nG;nH;nI;nJ;nK;nL;nM;nN;nO;nP;nQ;nR;nS;nT;nU;nV;nW;nX;nY;nZ;c MONOSPACEac A;pB;pC;pD;pE
pF;pG;pH;pI;pJ;pK;pL;pM;pN;pO;pP;pQ;pR;pS;pT;pU;pV;pW;pX;pY;pZ;nd A;pB;pC;pD;pE;pF;pG;pH;pI;pJ;pK;pL
pM;pN;pO;pP;pQ;pR;pS;pT;pU;pV;pW;pX;pY;pZ;csyadmp I;jJ;!1d6a8 cozacia;grn;gmb;gnk;ghf;gze;gxe;gkt;glg
goh;gsg;gye;g NU;hXI;gkc;gwz;gsn;gktau;hh;g TAU;ggt;guh;gvn;g PSI;ghi;e NABLA;eadia;grn;gmb;gnk;ghf
gze;gxe;gkt;glg;goh;gsg;gye;g NU;hXI;gkc;gwz;gsn;gamkh;gkh;g TAU;ggt;guh;gvn;g PSI;ghi;e PARTIALre
ehfau;ektau;eohau;euhau;esnau;ewzau;csyacia;grn;gmb;gnk;ghf;gze;gxe;gkt;glg;goh;gsg;gye;g NU;hXI;gkc
gwz;gsn;gktau;hh;g TAU;ggt;guh;gvn;g PSI;ghi;e NABLA;eadia;grn;gmb;gnk;ghf;gze;gxe;gkt;glg;goh;gsg;gye
g NU;hXI;gkc;gwz;gsn;gamkh;gkh;g TAU;ggt;guh;gvn;g PSI;ghi;e PARTIALre;ehfau;ektau;eohau;euhau;esnau
ewzau;cozsyacia;irn;imb;ink;ihf;ize;ixe;ikt;ilg;ioh;isg;iye;i NU;jXI;ikc;iwz;isn;iktau;jh;i TAU;igt
iuh;ivn;i PSI;ihi;g NABLA;gadia;irn;imb;ink;ihf;ize;ixe;ikt;ilg;ioh;isg;iye;i NU;jXI;ikc;iwz;isn;iamkh
ikh;i TAU;igt;iuh;ivn;i PSI;ihi;g PARTIALre;ghfau;gktau;gohau;guhau;gsnau;gwzau;cpulrozacia;krn;kmb
knk;khf;kze;kxe;kkt;klg;koh;ksg;kye;k NU;lXI;kkc;kwz;ksn;kktau;lh;k TAU;kgt;kuh;kvn;k PSI;khi;i NABLA
iadia;krn;kmb;knk;khf;kze;kxe;kkt;klg;koh;ksg;kye;k NU;lXI;kkc;kwz;ksn;kamkh;kkh;k TAU;kgt;kuh;kvn
k PSI;khi;i PARTIALre;ihfau;iktau;iohau;iuhau;isnau;iwzau;isyacia;mrn;mmb;mnk;mhf;mze;mxe;mkt;mlg;moh
msg;mye;m NU;nXI;mkc;mwz;msn;mktau;nh;m TAU;mgt;muh;mvn;m PSI;mhi;k NABLA;kadia;mrn;mmb;mnk;mhf;mze
mxe;mkt;mlg;moh;msg;mye;m NU;nXI;mkc;mwz;msn;mamkh;mkh;m TAU;mgt;muh;mvn;m PSI;mhi;k PARTIALre;khfau
kktau;kohau;kuhau;ksnau;kwzau;cozac DIGAMMA;fd DIGAMMA;!1d7ce ecoej;gbh;he;gaq;gbf;hm;gdz;gbr;hl;gcn
caktecoej;ibh;je;iaq;ibf;jm;idz;ibr;jl;icn;cpulrcoej;ibh;je;iaq;ibf;jm;idz;ibr;jl;icn;gozcoej;kbh;le
kaq;kbf;lm;kdz;kbr;ll;kcn;c MONOSPACEcoej;obh;pe;oaq;obf;pm;odz;obr;pl;ocn;0SIGNWRITINGltmgcf;djscf
d-CUPcf;eOVALcf;dnvcf;dvvcf;dmgcflz;djscflz;dmgdm UNDERcflz;fcflx KNUCKLE;h CUPPED;hmz;jfs;djscf HINGE
dmgcfaw;djscfaw;dmgcfawlz;kx KNUCKLES;jmz;hhdawmz;hmzawhd;hawhq;lcflz;lawlz;l CUPPED;lmz;jji;djscfawji
dmgawlzdccf;fcflzdcaw;hawdm;djscfawdm;dmgcfawhcdmlz;jlzdmhc;jdmlz;jmzpxdmnc;hhdawmzdmnc;phq
hmzawhddmnc;hawhdpxdmjz;jdm CUPPED;lhe;l HOOKED;lmz;fdmldcfawhc;fcfawhqdmnc;phq;plz;fawdm HOOKEDcfhd
fcfdm HOOKEDawhd;hawhqmzdmnc;jjidmnc;jhqdmjz;l CUPPEDdmjz;fawdm CUPPEDcfhd;fcfdm CUPPEDawhd
fawdmhecfhd;nmz;fcfdm ANGLED OUTawhd;qrqawhd;jheawhd;hawdmhqmz;l ANGLED OUT;s;fawdm ANGLED OUTcfhd;wji
qcfhd;fcfdm HOOKEDawmz;d-FLATbfhn;mlz;mmz;mhq;o SPLIT;eCLAWbfhnhq;dmgbfhnhqlz;dnvbfhnhq;d-FLATbmhnpx
i HEELbmhnpx;ibmhnpxbflz;i HEELbmhnpxbflz;ibmhnpxlz;i HEELbmhnpxlz;ibmhnpxdmjz;eCUPbmhnpx;nez
dnvbmhnpxez;d-OVALbmhnpx;eFLATbmhnpxmz;qdmnc;q NOdm;i;ild PALM FACINGS;i HEEL;idmnc;i HEELdmnc;idmlz
kjz;i SPLITcfdmnc;oeg;qdmnc;ulz;ph;eCLAW;idmnc;i NOdm;idmjz;eHOOK CURLICUE;i;eCUPez;h;hezdmnc;hdmnc
hez NOdm;h NOdm;hezdmjz;hdmjz;gRLICUEez;m;djs;d-OVAL;idmnc;i NOdm;idmjz;dnvez;hdmjz;f;fad;fezdmnc
fdmnc;fez NOdm;f NOdm;fdmnc TOUCHINGcf;hldawec;dvv;dmgcfawec;djscfawec;dnvcfawec;dvvcfawec;dnveh
dmgcfaweclz;lhq;dnvcfawechq;dmgehce;j RIPPLEhc;quz;kOTHERShe;hhd;fdm UNDERehhd;djsehhd;d-OVALehhd
dvvehhd;dmgehlx KNUCKLE;iz;h TOUCHESdm;hdm;dnvehdm;dmgehcfdm;dnvehcfdm;dvvehcfdmcfdm OUT;p;dmgehcf
djsehcf;dnvehcf;dvvehcf;dmgcfaweh;djscfaweh;dnvcfaweh;fec;dvvcfaweh;dmgcfawgleh;djscfawgleh;dmgecce
dnveccecfdmbgaw;dvvecceawdmcfgl;dmgechd;hlx KNUCKLE;heh;djseceh;d-OVALeceh;dvveceh;dmgecaw;jhq
jlx KNUCKLES;hcf;hdm;d-HOOKecdm;dmgcfeceh;djscfeceh;d-CURLICUEcfecehpg;eHOOKcfeceh OUT;orq;o UNDER
eCUPcfeceh;dnvcfeceh;dvvcfeceh OUT;l;dmgawce;dnvaw;dmgawhd;djsawhd;dmgawlx KNUCKLE;hhddmnc;d-HOOKawdm
dmgawdmeh;heh;iceh;djsaweceh;d-CURLICUEawecehpg;gPaweceh;dnvaweceh;dvvaweceh OUT;lrq;l;djsawecehlz
d-CLAWawecehhq;qnc;eHOOKawecehhq OUT;qrq;q;dnvcfmz;dmgcfdmnc;dnvcfdmnc;dmgcfdmncdmdt;nhq;nlz;lcflz
l BOTHlz;lcf HINGE;jjzcfhc;nlz;jbg;j CURLICUE;jogdmlf;d-CLAWcfdmogdmlf;dmgcfdmogdm UNDER;jbq;d-CUPcfdm
lez;dnvcfdmez;kl;j;jad;dvvcfdm OUT;jrq;j;dmgdm;h HEEL;hncdt;jhq;jlz;hjz;hldcfaw;jawec;jeceh
h UNDERbehn;hdcbehn;h UNDERaqhn;nbfhn;hdcbflx KNUCKLES;f;f HEEL;b TOUCHcv;hmu;hld;cGRASPcv;hmu;hld
cSTRIKEcv;imu;ild;cBRUSHcv;hmu;hld;cRUBcv;fmu;fld;cSURFACE SYMBOLS;jld;dQUEEZEelcv;jadcv;jelmu;jadmu
j SEQUENTIAL;cFLICKelcv;hadcv;helmu;hadmu;h SEQUENTIAL;cSQUEEZE FLICKgg;bionvhdceel;jad;h SEQUENTIAL
fce SEQUENTIAL;fhdceggel;lad;fncesnczy;dgdrf CONTACT;dftrf CONTACT;dgdcvhcad;jcu;jel;juf;hvu FLEX
fakhc;hvu FLEX;hgg;jvu FLEX;fgl;gehcio;hvu FLEX;hgg;jvu FLEX;f BENDad;kcu;kel;fhaad;hcu;hel;hpc;fxaad
hcu;hel;ftzad;hcu;hel;f ZIGZAGad;mcu;mel;gPEAKSad;lcu;lel;b TRAVELgdpcgdcv;oak;ogg;mftcv;oak;ogg
k SHAKING;lARM SPIRALcv;vak;vge;bio-DIAGONAL AWAYad;rcu;rel;ruf;nTOWARDSad;ucu;uel;uuf;mld AWAYad;tcu
tel;tuf;pTOWARDSad;wcu;wel;wuf;dftcvhcad;jcu;jel;juf;hvu FLEX;fakhc;hvu FLEX;hgg;jvu FLEX;fgl;gehcio
hvu FLEX;hggio;jvu FLEX;f BEND;fhaad;hcu;hel;fxa;ftzad;hcu;hel;f ZIGZAGad;mcu;mel;gPEAKSad;lcu;lel
b TRAVELftpcftcv;oak;ogg;mgdcv;oak;ogg;k SHAKING;biogdogfvad;jcu;jel;juf;hcgjsad;lcu;lel;luf
haq-QUARTERbqad;tcu;f HUMPad;kcu;kel;fsrad;hcu;hel;hadak;gaogakad;lcu;lel;jgead;lcu;lel;fog THENhc
fuzglad;jcu;bpcgdcv;fak;fgh;biogd SHAKING;foggbyt WALL;f HUMPgbyt WALL;fsrgbyt WALL;gagbyt WALL
bpcgdcvgbyt WALL;fakgbyt WALL;fgggbyt WALL;biogdoggb CHEST;f HUMPgb CHEST;fsrgb CHEST;gagb CHEST
bpcgdcvgb CHEST;fakgb CHEST;fgggb CHEST;biogdsadt PATHad;ocu;oel;dftoggbuaad;lel;f HUMPgbuaadak;oelak
oadge;oelge;fsrgbuaadcv;lelcv;ladak;lelak;gagbuaad;lel;bpcftcvgbua;fakgbua;fgggbua;bioftoggbysad;lel
f HUMPgbysadak;oelak;ogeadge;qelge;fsrgbysadcv;lelcv;ladak;lelak;gagbysad;lel;bpcftcvgbys;fakgbys
fgggbys;bioftogad;hcu;hel;huf;h COMBINED;f HUMPad;fsrad;ga SNAKE;had;hel;bpcftcv;fak;fgg
bioft SHAKINGzx;dgd ARMbqadcv;lcucv;ladak;lcuak;dft ARMbqgb WALLadcv;scucv;selcv;sadak;scuak;selak
dgdvubqytcv;lak;dftvubqgb WALLcv;qak;dgdrfnjcv;jak;dftrfnjgb WALLcv;qak;b DYNAMICbnad;lel;j FAST;kSLOW
kTENSE;kRELAXED;kSIMULTANEOUS;wgg;kEVERY OTHER TIME;kGRADUAL;bqj;d RIM;diogdhc;h TILT;ffthc;fgdog
fftog;fbq;bdq DIRECTION POSITION NOSEjz TILTING;zSEhdmece;zSEhdmece TILTING;b EYEBROWShchd;mpp;mce
cDREAMY EYEBROWSppce;rcepp;rhdpp;rpphd;cFOREHEADpp;k CONTACT;kwr;bqiez;d SQUEEZED;dhr;b EYE BLINKcv
lmu;bqicgez;d WIDEez;dcghr;d WIDENINGio;b EYE WINK;fLASHEShd;lce;l FLUTTERING;fGAZEgdhc;nak;ngg;jfthc
nak;ngg;jgduz;jftuz;jgd CIRCLING;cCHEEKS PUFFED;ipp;i SUCKED;cTENSE CHEEKSey;oaw;ofs;cEARS;cNOSEpp
g CONTACT;hWRINKLES;iIGGLES;cAIR BLOWING OUT;gSUCKINGrq;gBLOWad ROTATIONS;gSUCKad ROTATIONS
cBREATH INHALE;jEXHALE;bmwhrpp;fjz;f CONTACT;d SMILE;jwr;jez;eFROWN;jwr;jez;dezbq;fjz;fwr;f OVAL;kwr
k YAWN;fuj;hwr;h YAWN;d KISS;ijz;iwr;eTENSE;jjz;j SUCKED;b LIPS PRESSED TOGETHER;fdkdcen;fendcdk
bmw CORNERS;eWRINKLEScv;mak;b TONGUE STICKING OUT FAR;jLICKING LIPS;jTIPld LIPS;m TOUCHINGlfmw
ilfmw RELAXED;i MOVES AGAINST CHEEK;ieg STICKING OUT;klfmw;dEETH;hio;hpg TONGUE;qio;kLIPS;oio
h BITE LIPS;biogd JAW;dft JAW;b NECK;cHAIR;cEXCITEMENT;cSHOULDER HIP SPINE;pPOSITIONS
cWALLPLANE SHOULDER HIP MOVE;cFLOORPLANE SHOULDER HIP MOVE;cSHOULDER TILTINGle WAIST
cTORSOgdhc STRETCH;juz BEND;hft TWISTING;ben BODY TILTINGle HIP JOINTS;b LIMB COMBINATION;gna-1;j2;j3
j4;j5;j6;j7;brf;b LOCATIONgdmm;kftmm;k HEIGHT;lWIDTH;lDEPTH;kqj NECK;k TORSO;lLIMBS DIGITS;bet;bhoff
bmk;biv;bcl;!1da9b byckl-2;g3;g4;g5;g6;!1daa1 bpckl-2;g3;g4;g5;g6;g7;g8;g9;g10;h1;h2;h3;h4;h5;h6
!1df00 0ndadaa FENGgpab TRILL;6ckoe G;3aadacdi G;3daack K;3aadac Lab BELT;3daa LEZHabdjbg;6di Yab BELT
6ck ENG;6di Rabep LEGaodjbg;6 Tabbgaodjbg;3adjxcabdjbg;3daa ESHabakea;gaopb;6di Tabpb;3acpgqffabpb
4 STRETCHED Cabpb;4adacdi K;3daa Labwa;7DEZHgpabgjbg;7Lab BELTaogjbg;7ENGabgjbg;6di Rabgjbg
6 Rabwaaogjbg;7TESHgpabgjbg;7EZHabgjbg;7DEZHgpabdjbg;7Iabasaodjbg;7Oabdjbg;7TESHgpabdjbg;7Cabdjbg
7Sabpb;!1e000 0ja GLAGOLITICaa AZU;gBUKY;gVEDE;gGLAGOLI;gDOBRO;gYESTU;gZHIVETE;!1e008 hEMLJA;gIZHE
fap IZHE;f I;gDJERVI;gKAKO;gLJUDIJE;gMYSLITE;gNASHI;gONU;gPOKOJI;gRITSI;gSLOVO;gTVRIDO;gUKU;gFRITU
gHERU;!1e01b gSHTA;gTSI;gCHRIVI;fhj;f YERU;jI;hATI;!1e023 fxu;fadqz;!1e026 f YO;gIOTATEDadqz;gBIGqz
gIOTATED BIGqz;gFITA;!1e100 0NYIAKENG PUACHUE HMONGaaix;oqh;o NTA;ojq;ohp;oiy;o XA;pNKA;ony;ojb;pv;ouu
o NCA;qTSA;oid;okf;ohy;o NRA;osc;o NTXA;pTXA;oxf;oip;o QA;oiu;o NQA;oil;o XYA;pNPA;pDLA;pNPLA;oga
o MLA;pPLA;okq;oyj;o A;oll;o I;pU;pO;out;o E;owy;o W;!1e130 med-B;pM;pJ;pV;pS;pG;pD;magnfxk;q THING
rLOCATION;rANIMAL;rINVERTEBRATE;o XW XW;miz LENGTHENER;!1e140 mcoej;obh;pe;oaq;obf;pm;odz;obr;pl;ocn
!1e14e m LOGOGRAM NYAJ;mheny;!1e290 0TOTOaail;6lk;6jq;6kf;6id;6kq;6ix;7y;6hh;6jv;6hv;6iu;6mx;6nm;6hp
6ip;6jb;6 I;7BREATHY I;7IU;7BREATHY IU;7U;7E;7BREATHY E;7EO;7BREATHY EO;7O;7AE;7BREATHY AE;7A;5gtbed
!1e2c0 0WANCHOaall;8 A;8lk;8ny;8kf;9q;8iu;8jl;9b;8iy;9l;8jq;8im;8xf;8jv;8hj;8nm;8uu;8mx;8sc;8id;8 O
8ne;8ip;9x;9c;8hp;8 E;9I;8hh;8 U;9LLHA;8qh;8 TRA;9ONG;9AANG;aNG;9ING;8pg;8vb;8 AAN;8hy;8 UEN;9YIH
6ed TUP;cNI;9KOI;cNI;6coej;8bh;9e;8aq;8bf;9m;8dz;8br;9l;8cn;!1e2ff 6 NGUNag;!1e7e0 0ETHIOPICiz HHYA;eU
eI;eAA;eEE;f;eO;!1e7e8 bGURAGE HHWA;bHHWI;eEE;f;!1e7ed bGURAGE MWI;kEE;!1e7f0 iQWI;kEE;l;iBWI;kEE;iKWI
kEE;l;iGWI;kEE;l;iFWI;kEE;iPWI;kEE;!1e800 0MENDE KIKAKUIiz M001 KI;j2id;j3 KU;i65 KEE;i95 KE;i76 KOO
i48 KO;h179 KUA;h004 WI;j5mx;j6 WU;h126 WEE;i18 WE;j4 WOO;h045 WO;h194 WUI;i43 WEI;h061 WVI;i49 WVA
h139 WVE;h007 MIN;j8 MAN;j9 MUN;i59 MEN;i94 MON;h154 MUAN;i89 MUEN;h010 BI;j1lk;j2 BU;h150 BEE;h097 BE
h103 BOO;i38 BO;h013 I;j4 A;j5 U;h163wy;i00 E;i65ut;i47 O;i37 EI;j1rq;j5rq;i95 AN;i78vb;h019 SI;i20jv
j1 SU;h162 SEE;i16 SE;i36 SOO;h079 SO;h196 SIA;h025 LI;j6jb;j7 LU;i84 LEE;i73 LE;i54 LOO;h153 LO
i10ep LE;h016 DI;j7kf;j8 DU;i89 DEE;h180 DOO;j1 DO;h022 TI;j3jq;j4 TU;i91 TEE;i55yk;h104 TOO;h069es
i28 JI;j9nm;i30 JU;h157 JEE;i13 JE;i60 JOO;h063 JO;h175ep JO;h031 YI;j2iu;j3xu;h109 YEE;h080 YE
h141 YOO;i21 YO;h034 FI;j5xf;j6 FU;i78 FEE;j5 FE;h133 FOO;h088 FO;h197 FUA;i01 FAN;h037 NIN;j8 NAN
j9kx;h117 NEN;i69 NON;i76 HI;h041hp;h186 HU;h040 HEE;i96wb;i42 HOO;h140 HO;h083 HEEI;h128 HOOU
h053 HIN;h130 HAN;h087 HUN;i52 HEN;h193 HON;h046 HUAN;i90 NGGI;i43 NGGA;i82 NGGU;h115 NGGEE;i46 NGGE
i56 NGGOO;i20 NGGO;i59 NGGAA;i27 NGGUA;h086ep NGGE;h106ep NGGOO;i83ep NGGO;i55 GI;i11kq;i68 GU;i90 GEE
i66 GUEI;j7 GUAN;i84 NGEN;h057 NGON;h177 NGUAN;h068wz;i99il;i50 PU;i81 PEE;i51uw;h102 POO;h066 PO
h145 MBI;h062 MBA;h122 MBU;h047 MBEE;h188 MBEE;h072 MBE;h172 MBOO;j4 MBO;i87 MBUU;i61ep MBE;i05ep MBOO
i42ep MBO;i32 KPI;h092 KPA;i74 KPU;i44 KPEE;h108 KPE;i12 KPOO;i58 KPO;i24 GBI;h056 GBA;h148 GBU
h093 GBEE;h107 GBE;h071 GBOO;j0 GBO;h171ip;i23 NDI;j9 NDA;j5 NDU;i91 NDEE;i19 NDE;h067 NDOO;j4 NDO
h152 NJA;i92 NJU;i49 NJEE;i34 NJOO;i82 VI;j5sc;i51 VU;i73 VEE;h085 VE;h144 VOO;h077 VO;h164 NYIN
h058 NYAN;h170 NYUN;h098 NYEN;i60 NYON;!1e8c7 dcobh;ge;faq;fbf;gm;fdz;fbr;gl;fcn;dgidu TEENS;kNS
iHUNDREDS;hqx;hgmqx;hayqx;hwf;!1e900 0ADLAMacaa ALIF;aDAALI;aLAAM;aMIIM;9lk;9 SINNYIIYHE;9uw;9 BHE;9ip
9 E;9xf;9 I;aO;9kw;9 YHE;9mt;9kx;9qf;9iu;9 U;aJIIM;9vn;9hp;9 QAAF;9kq;9hy;9 TU;aNHA;9sc;9ic;9 GBE;aZAL
aKPO;9hj;6daa ALIF;aDAALI;aLAAM;aMIIM;9lk;9 SINNYIIYHE;9uw;9 BHE;9ip;9 E;9xf;9 I;aO;9kw;9 YHE;9mt;9kx
9qf;9iu;9 U;aJIIM;9vn;9hp;9 QAAF;9kq;9hy;9 TU;aNHA;9sc;9ic;9 GBE;aZAL;aKPO;9hj;5 ALIF LENGTHENER
5cd LENGTHENER;5yuav;5hl;5gckl;5 GEMINATEgckl;5ks;5 NASALIZATIONav;!1e950 5coej;7bh;8e;7aq;7bf;8m;7dz
7br;8l;7cn;!1e95e 5apewav;7fzav;!1ec71 0INDIC SIYAQdubh;ee;daq;dbf;em;ddz;dbr;el;dcn;dgm;dex;dhs;dmi
dib;dml;dfp;doa;dfw;dbhay;eeay;daqay;dbfay;emay;ddzay;dbray;elay;dcnay;dbhaz;eeaz;daqaz;dbfaz;emaz
ddzaz;dbraz;elaz;dcnaz;dgmaz;dexaz;dhsaz;dmiaz;dibaz;dmlaz;dfpaz;doaaz;dfwaz;d LAKH;iAN;b LAKHav
bdu KAROR;jAN;ePREFIXEDbh;ne;maq;mbf;nm;mdz;mbr;nl;mcn;b PLACEHOLDER;biwbhfv;fcg;daqkm;b RUPEEav
bdughbh;ge;fgmaz;bgh LAKHav;!1ed01 0OTTOMAN SIYAQdubh;ge;faq;fbf;gm;fdz;fbr;gl;fcn;fgm;fex;fhs;fmi;fib
fml;ffp;foa;ffw;fbhay;geay;faqay;fbfay;gmay;fdzay;fbray;glay;fcnay;fbhaz;geaz;faqaz;fbfaz;gmaz;fdzaz
fbraz;glaz;fcnaz;fgmaz;fexaz;fhsaz;fmiaz;fibaz;fmlaz;ffpaz;foaaz;ffwaz;d MARRATAN;dghdube;haq;hbf;im
hdz;hbr;il;hcn;hgm;hbfay;hdzay;hbeaz;hgmaz;diwbhcg;h SIXTH;!1ee00 0zj MATHEMATICALdn;fyi;feo;f DAL
!1ee05 fmt;fwt;fga;fry;feu;fqf;fnn;fca;fit;fmq;fou;fvp;gs;fta;fps;fnt;fzc;f THEH;fgw;f THAL;fyp;f ZAH
fow;fmpyi;hit;hvp;hta;!1ee21 fapyi;heo;!1ee24 hqq;!1ee27 hga;!1ee29 heu;hqf;hnn;hca;hit;hmq;hou;hvp;is
hta;!1ee34 hnt;hzc;h THEH;hgw;!1ee39 hyp;!1ee3b how;!1ee42 f TAILEDeo;!1ee47 mga;!1ee49 meu;!1ee4b mnn
!1ee4d mit;mmq;mou;!1ee51 mvs;mta;!1ee54 mnt;!1ee57 mgw;!1ee59 myp;!1ee5b mow;!1ee5d mmpit;!1ee5f ota
!1ee61 gSTRETCHEDyi;peo;!1ee64 pqq;!1ee67 pga;pry;peu;pqf;!1ee6c pca;pit;pmq;pou;pvp;qs;pta;!1ee74 pnt
pzc;p THEH;pgw;!1ee79 pyp;p ZAH;pow;pmpyi;!1ee7e rvp;!1ee80 gLOOPEDdn;myi;meo;m DAL;mqq;mmt;mwt;mga
mry;meu;!1ee8b mnn;mca;mit;mmq;mou;mvp;ns;mta;mps;mnt;mzc;m THEH;mgw;m THAL;myp;m ZAH;mow
!1eea1 fakteyi;jeo;j DAL;!1eea5 jmt;jwt;jga;jry;jeu;!1eeab jnn;jca;jit;jmq;jou;jvp;ks;jta;jps;jnt;jzc
j THEH;jgw;j THAL;jyp;j ZAH;jow;!1eef0 fdxcaabgaab TATWEEL;hgaab DAL;!1f000 0MAHJONG TILEfx WIND
cjw WIND;ccj WIND;cjk WIND;c RED DRAGON;dGREEN DRAGON;cbt DRAGON;dhfbni;defbni;caqfbni;cbffbni;dmfbni
cdzfbni;cbrfbni;dlfbni;ccnfbni;cbhfbtx;defbtx;caqfbtx;cbffbtx;dmfbtx;cdzfbtx;cbrfbtx;dlfbtx;ccnfbtx
cbhfbnj;defbnj;caqfbnj;cbffbnj;dmfbnj;cdzfbnj;cbrfbnj;dlfbnj;ccnfbnj;c PLUM;dORCHID;dBAMBOO
dCHRYSANTHEMUM;dSPRING;eUMMER;dAUTUMN;dWINTER;dJOKER;dBACK;!1f030 0DOMINO TILEax BACK;d-00-00;i1;i2;i3
i4;i5;i6;f1-00;i1;i2;i3;i4;i5;i6;f2-00;i1;i2;i3;i4;i5;i6;f3-00;i1;i2;i3;i4;i5;i6;f4-00;i1;i2;i3;i4;i5
i6;f5-00;i1;i2;i3;i4;i5;i6;f6-00;i1;i2;i3;i4;i5;i6;ct BACK;d-00-00;i1;i2;i3;i4;i5;i6;f1-00;i1;i2;i3;i4
i5;i6;f2-00;i1;i2;i3;i4;i5;i6;f3-00;i1;i2;i3;i4;i5;i6;f4-00;i1;i2;i3;i4;i5;i6;f5-00;i1;i2;i3;i4;i5;i6
f6-00;i1;i2;i3;i4;i5;i6;!1f0a0 0PLAYING CARD BACK;dACEfbor;cbefbor;caqfbor;cbffbor;dmfbor;cdzfbor
cbrfbor;dlfbor;ccnfbor;cgmfbor;c JACKfbor;chkfbor;cprfbor;csqfbor;!1f0b1 c ACEfbmj;cbefbmj;caqfbmj
cbffbmj;dmfbmj;cdzfbmj;cbrfbmj;dlfbmj;ccnfbmj;cgmfbmj;c JACKfbmj;chkfbmj;cprfbmj;csqfbmj;c RED JOKER
!1f0c1 dACEfbla;cbefbla;caqfbla;cbffbla;dmfbla;cdzfbla;cbrfbla;dlfbla;ccnfbla;cgmfbla;c JACKfbla
chkfbla;cprfbla;csqfbla;cbp JOKER;!1f0d1 c ACEfbsd;cbefbsd;caqfbsd;cbffbsd;dmfbsd;cdzfbsd;cbrfbsd
dlfbsd;ccnfbsd;cgmfbsd;c JACKfbsd;chkfbsd;cprfbsd;csqfbsd;cbt JOKER;c FOOL;dTRUMP-1;j2;j3;j4;j5;j6;j7
j8;j9;j10;k1;k2;k3;k4;k5;k6;k7;k8;k9;j20;k1;!1f100 0DIGITejhoff;7et;5bhet;6eet;5aqet;5bfet;6met;5dzet
5bret;6let;5cnet;2NGBAThepulrcoej;7 NEGATIVEhepulrcoej;0huejabpv;2jgaf;2 DOLLARagab OVERLAIDtw
0PARENTHESIZEDjuacaa A;kB;kC;kD;kE;kF;kG;kH;kI;kJ;kK;kL;kM;kN;kO;kP;kQ;kR;kS;kT;kU;kV;kW;kX;kY;kZ
0TORTOISEky BRACKETEDjuacaa S;0husyjuacaa C;bR;2 CD;3WZ;0COPYLEFTau;0yajuacaa A;9B;9C;9D;9E;9F;9G;9H
9I;9J;9K;9L;9M;9N;9O;9P;9Q;9R;9S;9T;9U;9V;9W;9X;9Y;9Z;2 HV;3MV;3SD;4S;3PPV;3WC;0qbhejuacaa A;bB;bC;bD
bE;bF;bG;bH;bI;bJ;bK;bL;bM;bN;bO;bP;bQ;bR;bS;bT;bU;bV;bW;bX;bY;bZ;0RAISED MCag;8Dag;8Rag;0hu CC
4ab OVERLAIDtw;3HUMAN FIGURE;0qbhgjuacaa A;bB;bC;bD;bE;bF;bG;bH;bI;bJ;bK;bL;bM;bN;bO;bP;bQ;bR;bS;bT;bU
bV;bW;bX;bY;bZ;0CROSSED NEGATIVEhgjuacaa P;0qbhg IC;4il;4jv;4 AB;5WC;0nx DJ;0ya CL;4OOL;3FREE;3ID;3NEW
4G;3OK;3SOS;2hdabewav;2 VS;2aq D;2 SECOND SCREEN;2be K;3f K;3l K;3muibh;3ruibh;2ex-TWOuibe;2ml P
2bhayex P;2juadaa D;2 HC;4DR;4I-RES;3LOSSLESS;3SHV;3UHD;3VOD;0MASK WORKau;!1f1e6 0REGIONALqrauaa A;fB
fC;fD;fE;fF;fG;fH;fI;fJ;fK;fL;fM;fN;fO;fP;fQ;fR;fS;fT;fU;fV;fW;fX;fY;fZ;0nx HIRAGANA HOKA
0ya KATAKANA KOKO;bjv;!1f210 3CJK UNIFIEDud-624B;h5B57;i3CC;3KATAKANA DE;3CJK UNIFIEDud-4E8C;h591A
h89E3;h5929;h4EA4;h6620;h7121;h6599;h524D;iF8C;i18D;h65B0;h521D;h7D42;i51F;h8CA9;h58F0;i439;h6F14;i295
i355;h4E00;k9;h904A;h5DE6;h4E2D;h53F3;h6307;h8D70;h6253;h7981;iA7A;h5408;h6E80;i709;k8;h7533;h5272
i5B6;h914D;!1f240 0TORTOISEky BRACKETED CJK UNIFIEDud-672C;z4E09;z4E8C;z5B89;z70B9;z6253;z76D7;z52DD
z6557;!1f250 0huud ADVANTAGE;6CCEPT;!1f260 0ROUNDEDaunf FU;cLU;cSHOU;cXI;cSHUANGXI;cCAI
!1f300 0CYCLONE;0FOGGY;0CLOSED UMBRELLA;0NIGHTab STARS;0SUNRISEdc MOUNTAINS;7;0CITYSCAPE AT DUSK
0SUNSETdc BUILDINGS;0RAINBOW;0BRIDGE AT NIGHT;0WATERsa;0VOLCANO;0MILKY WAY;0EARTH GLOBE EUROPE-AFRICA
cAMERICAS;dSIA-AUSTRALIA;0GLOBEab MERIDIANS;0NEWofau;0WAXING CRESCENTofau;0FIRSTfvofau
0WAXING GIBBOUSofau;0FULLofau;0WANING GIBBOUSofau;0LASTfvofau;0WANING CRESCENTofau;0CRESCENTof
0NEWofabdq;0FIRSTfvofabdq;0LASTfvofabdq;0FULLofabdq;0SUNabdq;0GLOWINGgx;0SHOOTINGgx;0THERMOMETER
0dr DROPLET;0ef SUN;6abad CLOUD;6 BEHIND CLOUD;jab RAIN;0CLOUDab RAIN;8SNOW;8LIGHTNING;8TORNADO;0FOG
0WIND BLOWINGdq;0HOT DOG;0TACO;0BURRITO;0CHESTNUT;0SEEDLING;0EVERGREEN TREE;0DECIDUOUS TREE;0PALM TREE
0CACTUS;0HOT PEPPER;0TULIP;0CHERRY BLOSSOM;0ROSE;0HIBISCUS;0SUNFLOWER;0BLOSSOM;0EARfb MAIZE;6RICE
0HERB;0FOURpn CLOVER;0MAPLEpn;0FALLENpn;0LEAF FLUTTERINGrq WIND;0MUSHROOM;0TOMATO;0AUBERGINE;0GRAPES
0MELON;0WATERMELON;0TANGERINE;0LEMON;0BANANA;0PINEAPPLE;0RED APPLE;0GREEN APPLE;0PEAR;3CH;0CHERRIES
0STRAWBERRY;0HAMBURGER;0SLICEfb PIZZA;0MEATpg BONE;0POULTRY LEG;0RICE CRACKER;5BALL;0COOKED RICE
1URRYao RICE;0STEAMING BOWL;1PAGHETTI;0BREAD;0FRENCH FRIES;0ROASTED SWEET POTATO;0DANGO;0ODEN;0SUSHI
0FRIED SHRIMP;1ISH CAKEab SWIRL DESIGN;0SOFT ICE CREAM;1HAVED ICE;0ICE CREAM;0DOUGHNUT;0COOKIE
1HOCOLATEea;1ANDY;0LOLLIPOP;0CUSTARD;0HONEY POT;0SHORTCAKE;0BENTOtz;0POTfb FOOD;0COOKING;0FORKao KNIFE
0TEACUP WITHOUT HANDLE;0SAKE BOTTLEao CUP;0WINE GLASS;0COCKTAIL GLASS;0TROPICAL DRINK;0BEER MUG
0CLINKING BEER MUGS;0BABY BOTTLE;0FORKao KNIFEab PLATE;0BOTTLEab POPPING CORK;0POPCORN;0RIBBON
0WRAPPED PRESENT;0BIRTHDAY CAKE;0JACK-O-LANTERN;0CHRISTMAS TREE;0FATHER CHRISTMAS;1IREWORKS;8 SPARKLER
0BALLOON;0PARTY POPPER;0CONFETTI BALL;0TANABATA TREE;0CROSSED FLAGS;0PINE DECORATION;0zk DOLLS
0CARP STREAMER;0WIND CHIME;0MOON VIEWING CEREMONY;0SCHOOL SATCHEL;0GRADUATION CAP;0HEARTab TIPpgngar
0BOUQUETfb FLOWERS;0MILITARY MEDAL;0REMINDER RIBBON;0MUSICAL KEYBOARDab JACKS;0STUDIO MICROPHONE
0LEVEL SLIDER;0CONTROL KNOBS;0BEAMED ASCENDINGwg NOTES;7DESCENDINGwg NOTES;0FILM FRAMES
0ADMISSION TICKETS;0CAROUSEL HORSE;0FERRIS WHEEL;0ROLLER COASTER;0FISHING POLEao FISH;0MICROPHONE
1OVIE CAMERA;0CINEMA;0HEADPHONE;0ARTIST PALETTE;0TOP HAT;0CIRCUS TENT;0TICKET;0CLAPPER BOARD
0PERFORMING ARTS;0VIDEO GAME;0DIRECT HIT;0SLOT MACHINE;0BILLIARDS;0GAME DIE;0BOWLING
0FLOWER PLAYING CARDS;0MUSICALrt;2LTIPLEwg NOTES;0SAXOPHONE;0GUITAR;0MUSICAL KEYBOARD;0TRUMPET;0VIOLIN
0MUSICAL SCORE;0RUNNING SHIRTab SASH;0TENNIS RACQUETao BALL;0SKIao SKI BOOT;0BASKETBALLao HOOP
0CHEQUERED FLAG;0SNOWBOARDER;0RUNNER;0SURFER;1PORTS MEDAL;0TROPHY;0HORSE RACING;0AMERICAN FOOTBALL
0RUGBY FOOTBALL;0SWIMMER;0WEIGHT LIFTER;0GOLFER;0RACING MOTORCYCLE;7CAR;0CRICKET BATao BALL
0VOLLEYBALL;0FIELD HOCKEY STICKao BALL;0ICE HOCKEY STICKao PUCK;0TABLE TENNIS PADDLEao BALL
0SNOW CAPPED MOUNTAIN;0CAMPING;0BEACHab UMBRELLA;1UILDING CONSTRUCTION;0HOUSE BUILDINGS;0CITYSCAPE
0DERELICT HOUSE BUILDING;0CLASSICAL BUILDING;0DESERT;6 ISLAND;0NATIONAL PARK;0STADIUM;0HOUSE BUILDING
5ab GARDEN;0OFFICE BUILDING;0zk POST OFFICE;0EUROPEAN POST OFFICE;0HOSPITAL;0BANK
0AUTOMATED TELLER MACHINE;0HOTEL;0LOVE HOTEL;0CONVENIENCE STORE;0SCHOOL;0DEPARTMENT STORE;0FACTORY
0IZAKAYA LANTERN;0zk CASTLE;0EUROPEAN CASTLE;0ef PENNANT;0dr PENNANT;0WAVINGbt FLAG;7p FLAG;0ROSETTE
0dr ROSETTE;0LABEL;0BADMINTON RACQUETao SHUTTLECOCK;1OWaoaf;0AMPHORA;0EMOJIkl FITZPATRICK TYPE-1-2;p3
p4;p5;p6;0RAT;0MOUSE;0OX;0WATER BUFFALO;0COW;0TIGER;0LEOPARD;0RABBIT;0CAT;0DRAGON;0CROCODILE;0WHALE
0SNAIL;3KE;0HORSE;0RAM;0GOAT;0SHEEP;0MONKEY;0ROOSTER;0CHICKEN;0DOG;0PIG;0BOAR;0ELEPHANT;0OCTOPUS
0SPIRALky;0BUG;0ANT;0HONEYBEE;0LADY BEETLE;0FISH;0TROPICAL FISH;0BLOWFISH;0TURTLE;0HATCHING CHICK
0BABY CHICK;0FRONTxv BABY CHICK;0BIRD;0PENGUIN;0KOALA;0POODLE;0DROMEDARY CAMEL;0BACTRIAN CAMEL
0DOLPHIN;0MOUSEdq;0COWdq;0TIGERdq;0RABBITdq;0CATdq;0DRAGONdq;0SPOUTING WHALE;0HORSEdq;0MONKEYdq;0DOGdq
0PIGdq;0FROGdq;0HAMSTERdq;0WOLFdq;0BEARdq;0PANDAdq;1IG NOSE;1AW PRINTS;0CHIPMUNK;0EYES;3;1AR;0NOSE
0MOUTH;0TONGUE;0efhdbxticf;2cebxticf;2arbxticf;3jbxticf;0FISTEDltag;0WAVINGltag;0OKltag;0THUMBShdag
6ceag;0CLAPPING HANDSag;0OPEN HANDSag;0CROWN;0WOMANS HAT;0EYEGLASSES;0NECKTIE;0T-SHIRT;0JEANS;0DRESS
0KIMONO;0BIKINI;0WOMANS CLOTHES;0PURSE;0HANDBAG;0POUCH;0MANS SHOE;0ATHLETIC SHOE;0HIGH-HEELED SHOE
0WOMANS SANDAL;7BOOTS;0FOOTPRINTS;0BUSTrq SILHOUETTE;4Srq SILHOUETTE;1OY;0GIRL;0MAN;0WOMAN;0FAMILY
0MANao WOMAN HOLDING HANDS;0TWO MEN HOLDING HANDS;4WOMEN HOLDING HANDS;0POLICE OFFICER
0WOMANab BUNNY EARS;0BRIDEab VEIL;0PERSONab BLOND HAIR;0MANab GUAwz MAO;6TURBAN;0OLDER MAN;6WOMAN
0BABY;0CONSTRUCTION WORKER;0PRINCESS;0zk OGRE;3GOBLIN;0GHOST;0BABY ANGEL;0EXTRATERRESTRIAL ALIEN
0ALIEN MONSTER;0IMP;0SKULL;0vl DESKxk;0GUARDSMAN;0DANCER;0LIPSTICK;0NAIL POLISH;0wv MASSAGE;0HAIRCUT
0BARBER POLE;0SYRINGE;0PILL;0KISSav;0LOVEaa;0RING;0GEM STONE;0KISS;0BOUQUET;0COUPLEabkg;0WEDDING
0BEATINGkg;1ROKENkg;0TWOmj;0SPARKLINGkg;0GROWINGkg;0HEARTabaf;0BLUEkg;0GREENkg;0YELLOWkg;0PURPLEkg
0HEARTab RIBBON;0REVOLVINGmj;0HEART DECORATION;0DIAMOND SHAPEab Abolf;0ELECTRICcx BULB;0ANGERau;0BOMB
0SLEEPINGau;0COLLISIONau;0SPLASHING SWEATau;0DROPLET;1ASHau;0PILEfb POO;0FLEXED BICEPS;0DIZZYau
0SPEECH BALLOON;0THOUGHT BALLOON;0ef FLOWER;0HUNDRED POINTSau;0MONEY BAG;0CURRENCY EXCHANGE
0gy DOLLARag;0CREDIT CARD;0BANKNOTEab YENag;bDOLLARag;bEUROag;bPOUNDag;0MONEYab WINGS
0CHARTabfa TRENDao YENag;0SEAT;0PERSONAL COMPUTER;0BRIEFCASE;0MINIDISC;0FLOPPY DISK;0OPTICAL DISC;0DVD
0FILE FOLDER;0OPEN FILE FOLDER;0PAGEabpb;4 FACINGhd;0CALENDAR;0TEAR-OFF CALENDAR;0CARDcf
1HARTabfa TREND;7da TREND;0BAR CHART;0CLIPBOARD;0PUSHPIN;0ROUND PUSHPIN;0PAPERCLIP;0STRAIGHT RULER
0TRIANGULAR RULER;0BOOKMARK TABS;0LEDGER;0NOTEBOOK;8ab DECORATIVE COVER;0CLOSED BOOK;0OPEN BOOK
0GREEN BOOK;0BLUE BOOK;0ORANGE BOOK;0BOOKS;0NAME BADGE;0SCROLL;0MEMO;0TELEPHONE RECEIVER;0PAGER
0FAX MACHINE;0SATELLITE ANTENNA;0PUBLIC ADDRESS LOUDSPEAKER;0CHEERING MEGAPHONE;0OUTBOX TRAY
0INBOX TRAY;0PACKAGE;0E-MAILau;0INCOMINGzq;0ENVELOPEabdaafah;0CLOSED MAILBOXab LOWERED FLAG;glx FLAG
0OPEN MAILBOXablx FLAG;e LOWERED FLAG;0POSTBOX;4ALki;0NEWSPAPER;0MOBILE PHONE;cabbbaf ATar
0VIBRATION MODE;0MOBILE PHONE OFF;0NO MOBILE PHONES;0ANTENNAab BARS;0CAMERA;6ab FLASH;0VIDEO CAMERA
0TELEVISION;0RADIO;0VIDEOCASSETTE;0FILM PROJECTOR;0PORTABLE STEREO;1RAYER BEADS;0TWISTEDbbmy
0tubbaobwezbqmy;eabhebhhw;2daaofaezbqmy;0lsdaaofaezbqmy;0LOW BRIGHTNESSau;0HIGH BRIGHTNESSau
0SPEAKERab CANCELLATIONas;7;7abbhpwsa;9aqpw WAVES;0BATTERY;0ELECTRIC PLUG;0fmbu MAGNIFYING GLASS
0ekbu MAGNIFYING GLASS;0LOCKab INK PEN;0CLOSED LOCKab KEY;0KEY;0LOCK;0OPEN LOCK;0BELL
4ab CANCELLATIONas;1OOKMARK;0LINKau;0RADIO BUTTON;0BACKabbwafah;0ENDabbwafah;0ONabewavabarajafah
0SOONabbbafah;0TOPabfaafah;0NObh UNDERqnau;0KEYCAPgm;0INPUTaunfjuac LETTERS;cd LETTERS;9 NUMBERS
aSYMBOLS;9ju LETTERS;0FIRE;0ELECTRIC TORCH;0WRENCH;0HAMMER;0NUTao BOLT;0HOCHO;0PISTOL;0MICROSCOPE
0TELESCOPE;0CRYSTAL BALL;0SIXfkgxabawbo;0zkaunf BEGINNER;0TRIDENT EMBLEM;0drbs BUTTON;0efbs BUTTON
0LARGE REDbq;6BLUEbq;6ORANGEfh;6BLUEfh;0zl ORANGEfh;3BLUEfh;0UPbu REDan;0DOWNbu REDan;0UPbuad REDan
0DOWNbuad REDan;0svajpdbtbq;0pfajpdbtbq;0hugl POMMEE;0CROSS POMMEEabcgjsal;c;0NOTCHEDaryxabaqcy
8jyxabaqcy;0SYMBOLnf MARKS CHAPTER;0efjugl;0gyjugl;0CELTICgl;0OMau;0DOVEfb PEACE;0KAABA;0MOSQUE
0SYNAGOGUE;0MENORAHabcn BRANCHES;0BOWLfb HYGIEIA;0CLOCKdqbhri;8eri;7aqri;7bfri;8mri;7dzri;7brri;8lri
7cnri;7gmri;7pjri;7osri;7bhrm;8erm;7aqrm;7bfrm;8mrm;7dzrm;7brrm;8lrm;7cnrm;7gmrm;7pjrm;7osrm
0ek SPEAKER;aabbhpwsa;caqpw WAVES;0BULLHORN;8abpw WAVES;0RINGING BELL;0BOOK;0CANDLE;0MANTELPIECE CLOCK
0dr SKULLao CROSSBONES;0NO PIRACY;0HOLE;0MANrq BUSINESS SUIT LEVITATING;0SLEUTHme SPY;0DARK SUNGLASSES
0SPIDER;6 WEB;0JOYSTICK;0MAN DANCING;0fmltxr RECEIVER;0TELEPHONE RECEIVERab PAGE;0ekltxr RECEIVER
1f TOUCHTONExr;0dr TOUCHTONExr;0TELEPHONEpgqgfb MODEM;0CLAMSHELL MOBILE PHONE;0BACKfbzq;0STAMPEDzq
0ENVELOPEab LIGHTNING;0FLYINGzq;0PENdc STAMPEDzq;0LINKED PAPERCLIPS;0dr PUSHPIN;0svar PENCIL
5BALLPOINT PEN;5FOUNTAIN PEN;5PAINTBRUSH;5CRAYON;0fm WRITINGlt;0qe OKltag;0RAISEDltabhn SPLAYED
0kelxltabhn SPLAYED;2 THUMBShdag;9ceag;3VICTORYlt;2ltabawrfvz;0RAISEDltab PARTldawaoechn;0efcebxarltcf
0SIDEWAYSbtarbxcf;bjbxcf;9parbxcf;bjbxcf;0drarbxticf;3jbxticf;0SIDEWAYSbthdbxcf;acebxcf;9phdbxcf
acebxcf;0drhdbxticf;2cebxticf;2kg;0DESKTOP COMPUTER;0KEYBOARDao MOUSE;0wx NETWORKED COMPUTERS;0PRINTER
1OCKET CALCULATOR;0dr HARDky FLOPPY DISK;0ef HARDky FLOPPY DISK;0SOFTky FLOPPY DISK;0TAPE CARTRIDGE
0WIRED KEYBOARD;0ONE BUTTON MOUSE;0TWO BUTTON MOUSE;0wx BUTTON MOUSE;0TRACKBALL;0OLD PERSONAL COMPUTER
0HARD DISK;0SCREEN;0PRINTER ICON;0FAX ICON;0OPTICAL DISC ICON;0DOCUMENTab TEXT;fao PICTURE;bPICTURE
0FRAMEab PICTURE;8TILES;8AN X;0dr FOLDER;0FOLDER;0OPEN FOLDER;0CARDcf DIVIDERS;4 FILEtz;0FILE CABINET
0EMPTYrt;7 PAGE;aD;0NOTE;4 PAGE;7D;0EMPTY DOCUMENT;6PAGE;aS;0DOCUMENT;0PAGE;4S;0WASTEBASKET
0SPIRALrt PAD;6 CALENDAR PAD;0DESKTOP WINDOW;0MINIMIZE;1AXIMIZE;0OVERLAP;0tuajaoaryxmy;0CANCELLATION X
0INCREASE FONT SIZEau;0DECREASE FONT SIZEau;0COMPRESSION;0OLD KEY;0ROLLED-UP NEWSPAPER;0PAGEabhe TEXT
0STOCK CHART;0DAGGER KNIFE;0LIPS;0SPEAKINGqjrq SILHOUETTE;0wx RAYSah;8l;8r;8j;0fm SPEECHzp
0ek SPEECHzp;0TWO SPEECH BUBBLES;0wx SPEECH BUBBLES;0fm THOUGHTzp;0ek THOUGHTzp;0fm ANGERzp
0ek ANGERzp;0MOODzp;0LIGHTNING MOODzp;e;0BALLOTtzab BALLOT;6oe X;6tzaboe X;6ozoe X;6tzabozoe X;0vmxaav
0BALLOTtzabozxa;0WORLD MAP;0MOUNT FUJI;0TOKYO TOWER;0STATUEfb LIBERTY;1ILHOUETTEfb JAPAN;0MOYAI
0GRINNINGdq;aabrwqi;0wvab TEARSfb JOY;0SMILINGdqabezmw;faorwqi;h COLD SWEAT;iTIGHTLY-CLOSEDqi;b HALO
dORNS;0WINKINGdq;0SMILINGdqabrwqi;0wv SAVOURING DELICIOUS FOOD;0RELIEVEDdq;0SMILINGdqabkgotqi
b SUNGLASSES;3RKINGdq;0thdq;0EXPRESSIONLESSdq;0UNAMUSEDdq;0wvab COLD SWEAT;0PENSIVEdq;0CONFUSEDdq
4OUNDEDdq;0KISSINGdq;0wv THROWING A KISS;0KISSINGdqabrwqi;bhrqi;0wvab STUCK-OUT TONGUE;lao WINKING EYE
oTIGHTLY-CLOSEDqi;0DISAPPOINTEDdq;0WORRIEDdq;0ANGRYdq;0POUTINGdq;0CRYINGdq;0PERSEVERINGdq
0wvab LOOKfb TRIUMPH;0DISAPPOINTED BUT RELIEVEDdq;0FROWNINGdqabezmw;0ANGUISHEDdq;0FEARFULdq;0WEARYdq
0SLEEPYdq;0TIREDdq;0GRIMACINGdq;0LOUDLY CRYINGdq;0wvabezmw;0HUSHEDdq;0wvabezmwao COLD SWEAT
2 SCREAMINGrq FEAR;0ASTONISHEDdq;0FLUSHEDdq;0SLEEPINGdq;0DIZZYdq;0wv WITHOUTmw;2ab MEDICAL MASK
0GRINNING CATdqabrwqi;0CATdqab TEARSfb JOY;0SMILING CATdqabezmw;fkgotqi;0CATdqab WRY SMILE
0KISSING CATdqabhrqi;0POUTING CATdq;0CRYING CATdq;0WEARY CATdq;0SLIGHTLY FROWNINGdq;8rwdq
0UPSIDE-DOWNdq;0wvab ROLLINGqi;5NO GOOD GESTURE;5OK GESTURE;0PERSON BOWING DEEPLY;0SEE-NO-EVIL MONKEY
0HEAR-NO-EVIL MONKEY;0SPEAK-NO-EVIL MONKEY;0HAPPYxk RAISINGbhlt
0PERSON RAISING BOTH HANDSrq CELEBRATION;7FROWNING;6ab POUTINGdq;9FOLDED HANDS;0qkcjbxpn;0uscjbxpn
0qkfxbxpn;0usfxbxpn;0qejkcjbxpn;3wcjbxpn;3kfxbxpn;3wfxbxpn;1kcjbx VINEpn;0uscjbx VINEpn;0qkfxbx VINEpn
0usfxbx VINEpn;0gyjkcjbx VINEpn;3wcjbx VINEpn;3kfxbx VINEpn;3wfxbx VINEpn;0qkcjbx BUD;0uscjbx BUD
0qkfxbx BUD;0usfxbx BUD;0gyjkcjbx BUD;3wcjbx BUD;3kfxbx BUD;3wfxbx BUD;0HOLLOW QUILTbscw;grqbpbs
0SOLID QUILTbscw;frqbpbs;0bi ROCKET;0ei ROCKET;0bc ROCKET;0cq ROCKET;0SCRIPTfg ETcw;0gyoefg ETcw
0LIGATUREez ETcw;0gyfgez ETcw;2tvcw;0SWASHtvcw;1ANSlrbvakdietfcavcw;aetfcavcw;8fsaketfcavcw
0gy INTERROBANGcw;0SANSlr INTERROBANGcw;0gypulr INTERROBANGcw;0VERYbvif;6nsif;0CHECKER BOARD
0xz CHECKER BOARD;0ROCKET;0HELICOPTER;0STEAM LOCOMOTIVE;0RAILWAY CAR;0HIGH-SPEED TRAIN;gabrd NOSE
0TRAIN;0METRO;0vm RAIL;0STATION;0TRAM;4 CAR;0BUS;0ONCOMING BUS;0TROLLEYBUS;0BUSff;0MINIBUS;0AMBULANCE
0FIRE ENGINE;0POLICE CAR;0ONCOMING POLICE CAR;0TAXI;0ONCOMING TAXI;0AUTOMOBILE;0ONCOMING AUTOMOBILE
0RECREATIONAL VEHICLE;0DELIVERY TRUCK;0ARTICULATED LORRY;0TRACTOR;0MONORAIL;2UNTAIN RAILWAY
0SUSPENSION RAILWAY;0MOUNTAIN CABLEWAY;0AERIAL TRAMWAY;0SHIP;0ROWBOAT;0SPEEDBOAT;0jy TRAFFICcx
0in TRAFFICcx;0CONSTRUCTIONag;0POLICE CARS REVOLVINGcx;0TRIANGULAR FLAGpg POST;0DOOR;0NO ENTRYag
0SMOKINGau;0NO SMOKINGau;0PUT LITTERrq ITS PLACEau;0DOlq LITTERau;0POTABLE WATERau
0NON-POTABLE WATERau;0BICYCLE;0NO BICYCLES;0BICYCLIST;0MOUNTAIN BICYCLIST;0PEDESTRIAN;0NO PEDESTRIANS
0CHILDRENfl;0MENSau;0WOMENSau;0RESTROOM;0BABYau;0TOILET;0WATER CLOSET;0SHOWER;0BATH;4TUB;0PASSPORTyo
0CUSTOMS;0BAGGAGE CLAIM;0fm LUGGAGE;0TRIANGLEabuk CORNERS;0PROHIBITEDag;0hu INFORMATION SOURCE;0BOYSau
0GIRLSau;0COUCHao LAMP;0SLEEPING ACCOMMODATION;1HOPPING BAGS;0BELLHOP BELL;2D;0PLACEfb WORSHIP
0OCTAGONALag;0SHOPPING TROLLEY;1TUPA;0PAGODA;0HINDU TEMPLE;1UT;0ELEVATOR;!1f6dd 0PLAYGROUND SLIDE
0WHEEL;0RING BUOY;0HAMMERao WRENCH;0SHIELD;0OIL DRUM;0MOTORWAY;0RAILWAY TRACK;0MOTOR BOAT
0UPbu MILITARY AIRPLANE;5AIRPLANE;4ad AIRPLANE;0zl AIRPLANE;0NORTHEASTbu AIRPLANE;0AIRPLANE DEPARTURE
9ARRIVING;!1f6f0 0SATELLITE;0ONCOMING FIRE ENGINE;0DIESEL LOCOMOTIVE;0PASSENGER SHIP;0SCOOTER
0MOTOR SCOOTER;0CANOE;0SLED;0FLYING SAUCER;0SKATEBOARD;0AUTO RICKSHAW;0PICKUP TRUCK;0ROLLER SKATE
!1f700 0ALCHEMICALaunf QUINTESSENCE;fAIR;fFIRE;exd;e WATER;fAQUAFORTIS;j REGIA;p-2;kVITAE;p-2;fVINEGAR
m-2;n3;fSULFUR;fPHILOSOPHERS SULFUR;ebp SULFUR;e MERCURY SUBLIMATE;w-2;x3;fCINNABAR;fSALT;fNITRE
fVITRIOL;m-2;fROCK SALT;o-2;fGOLD;fSILVER;fIRON ORE;n-2;fCROCUSfb IRON;fREGULUSfb IRON;fCOPPER ORE
fIRON-COPPER ORE;fSUBLIMATEfb COPPER;fCROCUSfb COPPER;u-2;gOPPER ANTIMONIATE
fSALTfb COPPER ANTIMONIATE;gUBLIMATEfb SALTfb COPPER;fVERDIGRIS;fTIN ORE;fLEAD ORE;ezn ORE
e SUBLIMATEfbzn;gALTfbzn;gUBLIMATEfb SALTfbzn;fVINEGARfbzn;fREGULUSfbzn;q-2;m;m-2;n3;n4;fALKALI;l-2
fMARCASITE;fSAL-AMMONIAC;fARSENIC;fREALGAR;m-2;fAURIPIGMENT;fBISMUTH ORE;fTARTAR;l-2;fQUICK LIME
fBORAX;k-2;l3;fALUM;fOIL;fSPIRIT;fTINCTURE;fGUM;fWAX;fPOWDER;fCALX;fTUTTY;fCAPUT MORTUUM
fSCEPTERfb JOVE;fCADUCEUS;fTRIDENT;fSTARRED TRIDENT;fLODESTONE;fSOAP;fURINE;fHORSE DUNG;fASHES
fPOT ASHES;fBRICK;fPOWDERED BRICK;fAMALGAM;fSTRATUM SUPER STRATUM;zM-2;gUBLIMATION;fPRECIPITATE
fDISTILL;iSOLVE;n-2;fPURIFY;hTREFACTION;fCRUCIBLE;n-2;o3;o4;o5;fALEMBIC;fBATHfb MARY;mVAPOURS;fRETORT
fHOUR;fNIGHT;fDAY-NIGHT;fMONTH;ecg DRAM;hOUNCE;!1f780 0drarbu ISOSCELESajan;2hdbu ISOSCELESajan
2ajbu ISOSCELESajan;2cebu ISOSCELESajan;2 SLIGHTLYadbq;0nwozbtbq;0BOLDbtbq;0gybtbq;0VERYbvbtbq
0EXTREMELYbvbtbq;0efbqrobpadbq;0ROUND TARGET;0dr TINYbs;3SLIGHTLYadbs;0vmbtbs;0nwbtbs;0BOLDbtbs
0gybtbs;0VERYbvbtbs;0EXTREMELYbvbtbs;0efbsrobpstadbs;8cubs;0nx TARGET;0dr TINYfh;2stadfh;2cuadfh
0effhrobpstadfh;8cufh;0DIAMOND TARGET;0dr TINYpo;2stadpo;2cuadpo;0efporobpadpo;0THINqpgl;0vmqpgl
0nwqpgl;0BOLDqpgl;0VERYozqpgl;4bvqpgl;0EXTREMELYbvqpgl;0THINrv;0vmrv;0nwrv;0BOLDrv;0gyrv;0VERYbvrv
0EXTREMELYbvrv;0vmbmlydw;0nwbmlydw;0BOLDbmlydw;0gybmlydw;0VERYbvbmlydw;0EXTREMELYbvbmlydw;0vmdzlydw
0nwdzlydw;0BOLDdzlydw;0gydzlydw;0VERYbvdzlydw;0EXTREMELYbvdzlydw;0vmbllydw;0nwbllydw;0BOLDbllydw
0gybllydw;0VERYbvbllydw;0vmaqfkbpgx;0nwaqfkbpgx;0wxfkbpgx;0nwaqfktqgx;0vmbffkbpgx;0nwbffkbpgx
0FOURfkbpgx;0nwbffktqgx;0xzcxbffktqgx;0vmbmfkbpgx;0gybmfkbpgx;0nwdzfkbpgx;0gydzfkbpgx;0SIXfktqgx
0nwblfkbpgx;0gyblfkbpgx;0VERYbvblfkbpgx;0gyblfktqgx;0vmosfkbpgx;0gyosfkbpgx;6tqgx;0huan;0qbhean;0hubs
0qbhebs;!1f7e0 0LARGE ORANGEbq;6YELLOWbq;6GREENbq;6PURPLEbq;6BROWNbq;6REDbs;6BLUEbs;6ORANGEbs
6YELLOWbs;6GREENbs;6PURPLEbs;6BROWNbs;!1f7f0 0gyjeag;!1f800 0biafabadanbn;0eiafabadanbn;0bcafabadanbn
0cqafabadanbn;0biafabcuanbn;0eiafabcuanbn;0bcafabcuanbn;0cqafabcuanbn;0biafabelanbn;0eiafabelanbn
0bcafabelanbn;0cqafabelanbn;!1f810 0biafabadevbn;0eiafabadevbn;0bcafabadevbn;0cqafabadevbn;0biafabevbn
0eiafabevbn;0bcafabevbn;0cqafabevbn;0gybwafabevbn;2faafabevbn;2bbafabevbn;2daafabevbn;2bwafabelevbn
2faafabelevbn;2bbafabelevbn;2daafabelevbn;0bianbzafab NARROWmc;0eianbzafab NARROWmc
0bcanbzafab NARROWmc;0cqanbzafab NARROWmc;0bianbzafabcumc;0eianbzafabcumc;0bcanbzafabcumc
0cqanbzafabcumc;0bianbzafabozmc;0eianbzafabozmc;0bcanbzafabozmc;0cqanbzafabozmc;0bianbzafabbvmc
0eianbzafabbvmc;0bcanbzafabbvmc;0cqanbzafabbvmc;0bianbzafabstbvmc;0eianbzafabstbvmc;0bcanbzafabstbvmc
0cqanbzafabstbvmc;0birf-POSTaf;0eirf-POSTaf;0bcrf-POSTaf;0cqrf-POSTaf;0bihgaf;0eihgaf;0bchgaf;0cqhgaf
0bipaaf;0eipaaf;0bcpaaf;0cqpaaf;0bibvpaaf;0eibvpaaf;0bcbvpaaf;0cqbvpaaf;0bibvaf;0eibvaf;0bcbvaf
0cqbvaf;!1f850 0bipulraf;0eipulraf;0bcpulraf;0cqpulraf;0qkcjpulraf;2fxpulraf;0usfxpulraf;2cjpulraf
0fmajpulraf;0UPcepulraf;!1f860 0WIDEbzbwcxebaf;6facxebaf;6bbcxebaf;6dacxebaf;6jkcjcxebaf;8fxcxebaf
7wfxcxebaf;8cjcxebaf;6bwebaf;6faebaf;6bbebaf;6daebaf;6jkcjebaf;8fxebaf;7wfxebaf;8cjebaf;6bwcuebaf
6facuebaf;6bbcuebaf;6dacuebaf;6jkcjcuebaf;8fxcuebaf;7wfxcuebaf;8cjcuebaf;6bwbvebaf;6fabvebaf;6bbbvebaf
6dabvebaf;6jkcjbvebaf;8fxbvebaf;7wfxbvebaf;8cjbvebaf;6bwstbvebaf;6fastbvebaf;6bbstbvebaf;6dastbvebaf
6jkcjstbvebaf;8fxstbvebaf;7wfxstbvebaf;8cjstbvebaf;!1f890 0bianbn;0eianbn;0bcanbn;0cqanbn
0bibtaf WITHINanbn;0eibtaf WITHINanbn;0bcbtaf WITHINanbn;0cqbtaf WITHINanbn;0biafab NOTCHEDgr
0eiafab NOTCHEDgr;0bcafab NOTCHEDgr;0cqafab NOTCHEDgr;0gyafmc WIDTHbh;dexs;dhcg;eun;0bijc-SHADEDbtaf
1cjc SHADEDbtaf;1iqg SHADEDbtaf;1cqg SHADEDbtaf;1iar-SHADEDbtaf;1caj-SHADEDbtaf;1iaj-SHADEDbtaf
1car-SHADEDbtaf;1i BACK-TILTEDpdbtaf;1c BACK-TILTEDpdbtaf;1iyt-TILTEDpdbtaf;1cyt-TILTEDpdbtaf
0efafmc WIDTHbh;dexs;!1f8b0 0ARROWbxfa THENjkcj;7bb THEN CURVINGjwcj;!1f900 0hugl FORMEEabbfcy;eecy;b
0fmcgbqabbfcy;8aqcy;8becy;9o;6;0DOWNWARD FACINGbg;f NOTCHEDbg;fbgabbo;f NOTCHEDbgabbo;0PINCHEDhn;0efkg
0BROWNkg;0PINCHINGlt;0ZIPPER-MOUTHdq;0MONEY-MOUTHdq;0wvab THERMOMETER;0NERDdq;0THINKINGdq
0wvabqj-BANDAGE;0ROBOTdq;0HUGGINGdq;0SIGNfbng HORNS;0CALL MElt;0RAISED BACKfblt;0fmxv FIST;0ekxv FIST
0HANDSHAKE;4abcfaoawhnji;0I LOVE YOUltag;0wvab COWBOY HAT;0CLOWNdq;0NAUSEATEDdq
0ROLLINGpgngys LAUGHING;0DROOLINGdq;0LYINGdq;0wv PALM;0SNEEZINGdq;0wvabbh EYEBROWlx;0GRINNINGdqabgxqi
cbhelaobhad EYE;0wvabrf COVERINGhr LIPS;0SERIOUSdqab SYMBOLS COVERINGmw;1MILINGdqabrwqiaolt COVERINGmw
0wvabezmw VOMITING;0SHOCKEDdqab EXPLODINGqj;0PREGNANT WOMAN;0BREAST-FEEDING;0PALMShd TOGETHER;0SELFIE
0PRINCE;0MANrq TUXEDO;1OTHER CHRISTMAS;0SHRUG;0PERSON DOING CARTWHEEL;0JUGGLING;0FENCER
0MODERN PENTATHLON;0WRESTLERS;1ATER POLO;0HANDBALL;0DIVING MASK;0WILTED FLOWER;0DRUMab DRUMSTICKS
0CLINKING GLASSES;0TUMBLER GLASS;0SPOON;0GOAL NET;0RIFLE;0FIRST PLACE MEDAL;0SECOND PLACE MEDAL
0THIRD PLACE MEDAL;0BOXING GLOVE;0MARTIAL ARTS UNIFORM;0CURLING STONE;0LACROSSE STICKao BALL;0SOFTBALL
0FLYING DISC;0CROISSANT;0AVOCADO;0CUCUMBER;0BACON;0POTATO;0CARROT;0BAGUETTE BREAD;0GREEN SALAD
0SHALLOW PANfb FOOD;1TUFFED FLATBREAD;0EGG;0GLASSfb MILK;0PEANUTS;0KIWIFRUIT;0PANCAKES;0DUMPLING
0FORTUNE COOKIE;0TAKEOUTtz;0CHOPSTICKS;0BOWLab SPOON;0CUPab STRAW;1OCONUT;0BROCCOLI;0PIE;1RETZEL
0CUTfb MEAT;0SANDWICH;0CANNED FOOD;0LEAFY GREEN;0MANGO;1OON CAKE;0BAGEL;0SMILINGdqabrwqiaoaqmj
0YAWNINGdq;0SMILINGdqab TEAR;0wvab PARTYkiao PARTY HAT;5UNEVENqiao WAVYmw;0OVERHEATEDdq;0FREEZINGdq
0NINJA;0DISGUISEDdq;0wv HOLDING BACK TEARS;2ab PLEADINGqi;0SARI;0LAB COAT;0GOGGLES;0HIKING BOOT
0FLAT SHOE;0CRAB;0LIONdq;0SCORPION;0TURKEY;0UNICORNdq;0EAGLE;0DUCK;0BAT;0SHARK;0OWL;0FOXdq;0BUTTERFLY
0DEER;0GORILLA;0LIZARD;0RHINOCEROS;0SHRIMP;1QUID;0GIRAFFEdq;0ZEBRAdq;0HEDGEHOG;0SAUROPOD;0T-REX
0CRICKET;0KANGAROO;0LLAMA;0PEACOCK;0HIPPOPOTAMUS;0PARROT;0RACCOON;0LOBSTER;0MOSQUITO;1ICROBE;0BADGER
0SWAN;0MAMMOTH;0DODO;0SLOTH;0OTTER;1RANGUTAN;0SKUNK;0FLAMINGO;0OYSTER;0BEAVER;1ISON;0SEAL;0GUIDE DOG
0PROBING CANE;0EMOJI COMPONENT RED HAIR;flo HAIR;f BALD;fbt HAIR;0BONE;0LEG;0FOOT;0TOOTH;0SUPERHERO
5VILLAIN;1AFETY VEST;0EARab HEARING AID;0MOTORIZED WHEELCHAIR;1ANUAL WHEELCHAIR;1ECHANICAL ARM;bLEG
0CHEESE WEDGE;1UPCAKE;0SALT SHAKER;0BEVERAGEtz;0GARLIC;0ONION;0FALAFEL;0WAFFLE;0BUTTER;0MATE DRINK
0ICE CUBE;0BUBBLE TEA;0TROLL;0STANDINGxk;0KNEELINGxk;0DEAFxk;0wvab MONOCLE;0ADULT;0CHILD;0OLDER ADULT
0BEARDEDxk;0PERSONab HEADSCARF;6rq STEAMY ROOM;6 CLIMBING;6rq LOTUS POSITION;0MAGE;0FAIRY;0VAMPIRE
0MERPERSON;0ELF;0GENIE;0ZOMBIE;0BRAIN;0ORANGEkg;0BILLED CAP;0SCARF;0GLOVES;0COAT;0SOCKS;0RED GIFTzq
0FIRECRACKER;0JIGSAW PUZZLE PIECE;0TEST TUBE;0PETRIoj;0DNAak HELIX;0COMPASS;0ABACUS;0FIRE EXTINGUISHER
0TOOLBOX;0BRICK;0MAGNET;0LUGGAGE;1OTION BOTTLE;0SPOOLfb THREAD;0BALLfb YARN;0SAFETY PIN;0TEDDY BEAR
0BROOM;1ASKET;0ROLLfb PAPER;0BARfb SOAP;0SPONGE;0RECEIPT;0NAZAR AMULET;0thiisq;4pr;4 ROOK;4rc;4hk
4 PAWN;0efiihkdfmi-FIVEdo;0driihkdfmi-FIVEdo;0thiihkdfmi-FIVEdo;0efiisqdffwdo;4prdffwdo;4 ROOKdffwdo
4rcdffwdo;4hkdffwdo;4 PAWNdffwdo;0driisqdffwdo;4prdffwdo;4 ROOKdffwdo;4rcdffwdo;4hkdffwdo;4 PAWNdffwdo
0thiisqdffwdo;4prdffwdo;4 ROOKdffwdo;4rcdffwdo;4hkdffwdo;4 PAWNdffwdo;0efiihkdfbhayhs-FIVEdo
0driihkdfbhayhs-FIVEdo;0thiihkdfbhayhs-FIVEdo;0efiidisq;6pr;6 ROOK;6rc;6hk;6 PAWN;0driidisq;6pr;6 ROOK
6rc;6hk;6 PAWN;0thiidisq;6pr;6 ROOK;6rc;6hk;6 PAWN;0efiihkdfbeayex-FIVEdo;0driihkdfbeayex-FIVEdo
0thiihkdfbeayex-FIVEdo;0efiisqdfbeayfpdo;4prdfbeayfpdo;4 ROOKdfbeayfpdo;4rcdfbeayfpdo;4hkdfbeayfpdo
4 PAWNdfbeayfpdo;0driisqdfbeayfpdo;4prdfbeayfpdo;4 ROOKdfbeayfpdo;4rcdfbeayfpdo;4hkdfbeayfpdo
4 PAWNdfbeayfpdo;0thiisqdfbeayfpdo;4prdfbeayfpdo;4 ROOKdfbeayfpdo;4rcdfbeayfpdo;4hkdfbeayfpdo
4 PAWNdfbeayfpdo;0efiihkdfaqaypkdo;0driihkdfaqaypkdo;0thiihkdfaqaypkdo;0efiivc;0driivc;0thiivc
0efiivcdffwdo;0driivcdffwdo;0thiivcdffwdo;0efiihk-QUEEN;7ROOK;7BISHOP;0driihk-QUEEN;7ROOK;7BISHOP
!1fa60 0XIANGQI RED GENERAL;cMANDARIN;cELEPHANT;cHORSE;cCHARIOT;dANNON;cSOLDIER;7bp GENERAL;aMANDARIN
aELEPHANT;aHORSE;aCHARIOT;bANNON;aSOLDIER;!1fa70 0BALLET SHOES;0ONE-PIECE SWIMSUIT;0BRIEFS;0SHORTS
0THONG SANDAL;!1fa78 0DROPfb BLOOD;0ADHESIVE BANDAGE;0STETHOSCOPE;0X-RAY;0CRUTCH;!1fa80 0YO-YO;0KITE
0PARACHUTE;0BOOMERANG;0MAGIC WAND;0PINATA;0NESTING DOLLS;!1fa90 0RINGED PLANET;0CHAIR;0RAZOR;0AXE
0DIYA LAMP;0BANJO;0MILITARY HELMET;0ACCORDION;0LONG DRUM;0COIN;1ARPENTRY SAW;0SCREWDRIVER;0LADDER
0HOOK;0MIRROR;0WINDOW;0PLUNGER;0SEWING NEEDLE;0KNOT;0BUCKET;0MOUSE TRAP;0TOOTHBRUSH;0HEADSTONE
0PLACARD;0ROCK;0MIRROR BALL;0IDENTIFICATION CARD;0LOW BATTERY;0HAMSA;!1fab0 0FLY;0WORM;0BEETLE
0COCKROACH;0POTTED PLANT;0WOOD;0FEATHER;0LOTUS;0CORAL;0EMPTY NEST;0NESTab EGGS;!1fac0 0ANATOMICALkg
0LUNGS;0PEOPLE HUGGING;1REGNANT MAN;8xk;1ERSONab CROWN;!1fad0 0BLUEBERRIES;1ELL PEPPER;0OLIVE
0FLATBREAD;0TAMALE;0FONDUE;0TEAPOT;0POURING LIQUID;0BEANS;0JAR;!1fae0 0MELTINGdq;0SALUTINGdq
0wvabezqiaoltdcmw;4 PEEKING EYE;4dtmw;0DOTTEDfidq;0BITING LIP;1UBBLES;!1faf0 0HANDabcfrfaodmji;0bclt
1ilt;0PALMcelt;4hdlt;0INDEXbx ATng VIEWER;0HEART HANDS;!1fb00 0BLOCK SEXTANT-1;e2;e12;e3;e13;e23;e123
e4;e14;e24;e124;e34;e134;e234;e1234;e5;e15;e25;e125;e35;e235;e1235;e45;e145;e245;e1245;e345;e1345
e2345;e12345;e6;e16;e26;e126;e36;e136;e236;e1236;e46;e146;f246;e346;e1346;e2346;e12346;e56;e156;e256
e1256;e356;e1356;e2356;e12356;e456;e1456;e2456;e12456;e3456;e13456;e23456;0svareqdtdkawaresdkeg;iaj
8enawaresdkeg;iaj;bresdkeg;3jeqdtenawareseneg;iaj;8dkawareseneg;iaj;breseneg;bwaresenawaj;aegesdkawaj
aaresdkawaj;aegesenawaj;aaresenawaj;aegesenaj;3reqdtenegesenawaj;aaresenawaj;aegesdkawaj;aaresdkawaj
aegesdkaj;aawaresdkawaj;0pfajeqdtdkawaresdkeg;iaj;8enawaresdkeg;iaj;bresdkeg;3reqdtenawareseneg;iaj
8dkawareseneg;iaj;breseneg;bwaresenawaj;aegesdkawaj;aaresdkawaj;aegesenawaj;aaresenawaj;aegesenaj
3jeqdtenegesenawaj;aaresenawaj;aegesdkawaj;aaresdkawaj;aegesdkaj;aawaresdkawaj;3oajaodkgsaqkmeq
0fmaodkaoajgsaqkmeq;0pfaoaraodkgsaqkmeq;0fmaoenaoajgsaqkmeq;2gsbhfveq;0pfgsbhfveq;0ekgsbhfveq
0svgsbhfveq;0inbhiheq-2;93;94;95;96;97;0jybhiheq-2;93;94;95;96;97;0fmaodkbhiheq;4enbhiheq
0ekaoenbhiheq;4dkbhiheq;0pfaodkbhiheq;0jybhiheq-1358;0pfbhfveq;2aqmaeq;2bmmaeq;2aqkmeq;2brmaeq
0ekbhfveq;2aqmaeq;2bmmaeq;2aqkmeq;2brmaeq;0fmcgcuqv;0ekcgcuqv;0pfcgcuqv;0svcgcuqv;0INVERSEcuqv
0pfcgeqaodkcg INVERSEcuqv;4 INVERSEcuqvaodkcgeq;!1fb94 0fmcg INVERSEcuqvaoajcgeq;0CHECKER BOARDyc
0INVERSE CHECKER BOARDyc;0gyaxyc;0pfaresdkajyc;3jesdkaryc;3odkgscgeq;0fmaoajgscgeq;0pfargscuqv
3jgscuqv;0svajgscuqv;3rgscuqv;0BOX DRAWINGScxdtenegesawar;pj;gawaresdkeg;jjesdkeg;genegesawaresdkeg
pjesdkeg;gawaresdkegesawaj;menegesawaj;genegesawaraoawajesdkeg;pjaoawaresdkeg;qesdkegesawar
presdkegesawaj;gawaresenegesawajesdkeg;jjesenegesawaresdkeg;gfh;eaxabatas;0ARROWHEADot POINTER
0INVERSExaav;0fmcg RUNNING MAN;0ekcg RUNNING MAN;0INVERSEdaafab TIPbw;0biafaoenaodkbhiheq
1cafaoenaodkbhiheq;0cqafaoajbhiheq;0eiafaoajbhiheq;0fmcg FOLDER;0ekcg FOLDER;0VOIDEDqpgl;0ekezhgbo
0qbdtgl;4awajesdkeg;4fh;0efbvrvabuk CORNERS;0fmunbtajbxcf;0MIDDLEunbtajbxcf;0ekunbtajbxcf;0qbhgfzav
0STICK FIGURE;cab ARMSlx;c LEANINGar;lj;cab DRESS;0efhdbu CHEVRON;!1fbf0 0SEGMENTEDcoej;bbh;ce;baq;bbf
cm;bdz;bbr;cl;bcn;!e0001 0LANGUAGE TAG;!e0020 0TAGmm;3ewav;3fcav;3duag;3 DOLLARag;4PERCENTag;3tv;3oy
3arcl;4jcl;3dw;3chag;3et;3rg-MINUS;3hoff;3if;3coej;5bh;6e;5aq;5bf;6m;5dz;5br;6l;5cn;3iv;3mk;3kbczag
3jeag;3foczag;4zav;3 COMMERCIAL AT;3juacaa A;aB;aC;aD;aE;aF;aG;aH;aI;aJ;aK;aL;aM;aN;aO;aP;aQ;aR;aS;aT
aU;aV;aW;aX;aY;aZ;3arbsba;3nsif;3ajbsba;3bdfr;3fsfi;3eefr;3juadaa A;aB;aC;aD;aE;aF;aG;aH;aI;aJ;aK;aL
aM;aN;aO;aP;aQ;aR;aS;aT;aU;aV;aW;aX;aY;aZ;3arloba;4tfi;4jloba;3cs;0CANCEL TAG
!e0100 0VARIATION SELECTOR-17;k8;k9;j20;k1;k2;k3;k4;k5;k6;k7;k8;k9;j30;k1;k2;k3;k4;k5;k6;k7;k8;k9;j40
k1;k2;k3;k4;k5;k6;k7;k8;k9;j50;k1;k2;k3;k4;k5;k6;k7;k8;k9;j60;k1;k2;k3;k4;k5;k6;k7;k8;k9;j70;k1;k2;k3
k4;k5;k6;k7;k8;k9;j80;k1;k2;k3;k4;k5;k6;k7;k8;k9;j90;k1;k2;k3;k4;k5;k6;k7;k8;k9;j100;l1;l2;l3;l4;l5;l6
l7;l8;l9;k10;l1;l2;l3;l4;l5;l6;l7;l8;l9;k20;l1;l2;l3;l4;l5;l6;l7;l8;l9;k30;l1;l2;l3;l4;l5;l6;l7;l8;l9
k40;l1;l2;l3;l4;l5;l6;l7;l8;l9;k50;l1;l2;l3;l4;l5;l6;l7;l8;l9;k60;l1;l2;l3;l4;l5;l6;l7;l8;l9;k70;l1;l2
l3;l4;l5;l6;l7;l8;l9;k80;l1;l2;l3;l4;l5;l6;l7;l8;l9;k90;l1;l2;l3;l4;l5;l6;l7;l8;l9;j200;l1;l2;l3;l4;l5
l6;l7;l8;l9;k10;l1;l2;l3;l4;l5;l6;l7;l8;l9;k20;l1;l2;l3;l4;l5;l6;l7;l8;l9;k30;l1;l2;l3;l4;l5;l6;l7;l8
l9;k40;l1;l2;l3;l4;l5;l6;l7;l8;l9;k50;l1;l2;l3;l4;l5;l6;!0 0NULL;!0 3;0STARTfb HEADING;!1 1OH
1TARTfb TEXT;!2 2X;0ENDfb TEXT;!3 1TX;1NDfb TRANSMISSION;!4 1OT;1NQUIRY;!5 3;0ACKNOWLEDGE;!6 3;1LERT
!7 0BEL;1ACKSPACE;!8 1S;0CHARACTERkj;!9 0jykj;!9 0HT;!9 0TAB;0LINE FEED;!a 0NEWfi;!a 0ENDfbfi;!a 0LF
!a 0NL;!a 0EOL;0LINEkj;!b 0inkj;!b 0VT;0FORM FEED;!c 1F;0CARRIAGE RETURN;!d 1R;0SHIFT OUT
!e 0LOCKING-SHIFTbh;!e 0SO;1HIFTrq;!f 0LOCKING-SHIFTej;!f 0SI;0DATA LINK ESCAPE;!10 1LE;1EVICEyobh
!11 1C1;1EVICEyobe;!12 1C2;1EVICEyoaq;!13 1C3;1EVICEyobf;!14 1C4;0qb ACKNOWLEDGE;!15 0NAK
0SYNCHRONOUS IDLE;!16 3;0ENDfb TRANSMISSIONeq;!17 1TB;0CANCEL;!18 3;0ENDfbcu;!19 1OM;0SUBSTITUTE;!1a 3
0ESCAPE;!1b 3;0vlembf;!1c 0FILEem;!1c 1S;0vlemaq;!1d 0GROUPem;!1d 1S;0vlembe;!1e 0RECORDem;!1e 1S
0vlembh;!1f 0UNITem;!1f 1S;0SP;!7f 0DELETE;!7f 3;0PADDINGln;!80 3;0HIGH OCTET PRESET;!81 1OP
0BREAK PERMITTED HERE;!82 1PH;0NO BREAK HERE;!83 1BH;0INDEX;!84 3;0NEXTfi;!85 2L
0STARTfb SELECTED AREA;!86 1SA;0ENDfb SELECTED AREA;!87 1SA;0CHARACTERkj SET;!88 0jykj SET;!88 0HTS
0CHARACTERkjab JUSTIFICATION;!89 0jykjab JUSTIFICATION;!89 0HTJ;0LINEkj SET;!8a 0inkj SET;!8a 0VTS
0PARTIALfijz;!8b 9ce;!8b 1LD;1ARTIALfi BACKWARD;!8c 9hd;!8c 1LU;0xzfi FEED;!8d 2cf;!8d 0RI
0SINGLE SHIFTbe;!8e 6-SHIFT-2;!8e 1S2;1INGLE SHIFTaq;!8f 6-SHIFT-3;!8f 1S3;0DEVICEyo STRING;!90 1CS
0PRIVATE USEbh;!91 b-1;!91 1U1;1RIVATE USEbe;!92 b-2;!92 1U2;0SET TRANSMIT STATE;!93 1TS;0CANCELln
!94 1CH;0MESSAGE WAITING;!95 1W;0STARTfb GUARDED AREA;!96 8PROTECTED AREA;!96 1PA;0ENDfb GUARDED AREA
!97 6PROTECTED AREA;!97 1PA;0STARTfb STRING;!98 1OS;1INGLE GRAPHICln INTRODUCER;!99 1GC
1INGLEln INTRODUCER;!9a 1CI;0CONTROL SEQUENCE INTRODUCER;!9b 1SI;0STRING TERMINATOR;!9c 2
0OPERATING SYSTEM COMMAND;!9d 1SC;0PRIVACY MESSAGE;!9e 1M;0APPLICATION PROGRAM COMMAND;!9f 2C;0NBSP
!ad 0SHY;!1a2 0ndacaakr;3daakr;!34f 0CGJ;!61c 0ALM;!709 0SYRIAC SUBLINEARiv SKEWEDar
!cde 0KANNADAaa LLLA;!e9d 0LAOaa FO FON;!e9f aAY;!ea3 6RO;!ea5 6LO
!fd0 0TIBETANav BKA- SHOG GI MGO RGYAN;!11ec 0HANGUL JONGSEONG YESIEUNGht;p-SSANGKIYEOK;hSSANGYESIEUNG
hYESIEUNGup;!180b 0FVS1;32;33;0MVS;0FVS4;!200b 0ZWSP;2NJ;2J;0LRM;0RLM;!202a 0LRE;0RLE;0PDF;0LRO;0RLO
0NNBSP;!205f 0MMSP;0WJ;!2066 0LRI;0RLI;0FSI;0PDI;!2118 0WEIERSTRASS ELLIPTIC FUNCTION
!2448 0MICRpg USau;4iqau;!2b7a 0bianbzafabakatas;!2b7c 1canbzafabakatas;!a015 0YIiznlav
!aa6e 0MYANMARaa KHAMTIrr;!fe00 0VS1;22;23;24;25;26;27;28;29;210;31;32;33;34;35;36
!fe18 0PRESENTATIONaenfatajbtnoba;!feff 0BYTE ORDERav;!feff 1OM;!feff 0ZWNBSP
!122d4 0CUNEIFORMag NU11ij;gdc NU11 BURdc BUR;!16e56 0MEDEFAIDRINacaa H;gNG;!16e76 cdaa H;gNG
!1b001 0HENTAIGANAaa E-1;!1d0c5 0BYZANTINEwgau FTHORA SKLIRON CHROMA VASIS;!e0100 0VS17;38;39;220;31
32;33;34;35;36;37;38;39;230;31;32;33;34;35;36;37;38;39;240;31;32;33;34;35;36;37;38;39;250;31;32;33;34
35;36;37;38;39;260;31;32;33;34;35;36;37;38;39;270;31;32;33;34;35;36;37;38;39;280;31;32;33;34;35;36;37
38;39;290;31;32;33;34;35;36;37;38;39;2100;41;42;43;44;45;46;47;48;49;310;41;42;43;44;45;46;47;48;49
320;41;42;43;44;45;46;47;48;49;330;41;42;43;44;45;46;47;48;49;340;41;42;43;44;45;46;47;48;49;350;41;42
43;44;45;46;47;48;49;360;41;42;43;44;45;46;47;48;49;370;41;42;43;44;45;46;47;48;49;380;41;42;43;44;45
46;47;48;49;390;41;42;43;44;45;46;47;48;49;2200;41;42;43;44;45;46;47;48;49;310;41;42;43;44;45;46;47;48
49;320;41;42;43;44;45;46;47;48;49;330;41;42;43;44;45;46;47;48;49;340;41;42;43;44;45;46;47;48;49;350;41
42;43;44;45;46"

end Criteria.Text
