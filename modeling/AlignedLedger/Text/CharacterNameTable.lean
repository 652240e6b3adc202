/-! The names of characters as a table. -/

namespace AlignedLedger.Text

/-- Names and other names of the characters in Unicode 14, apart from those that are made by rule. An
entry gives how much of the front of the entry before it stays, what is added to that, and the last words
of all names with that front. A run of last words that count up stands as the first number and the last,
with `~` between decimal numbers and `#` between hexadecimal ones. -/
def characterNameTable : String :=
  "0+: ABACUS ACCORDION ACK ACKNOWLEDGE ADMETOS ADULT AIRPLANE AKTIESELSKAB ALEMBIC ALERT ALM AMBULANCE
AMPERSAND AMPHORA ANCHOR ANGLE ANKH ANT APC APOLLON APOSTROPHE AQUARIUS ARC ARIES ASSERTION ASTERISK
ASTERISM ASTRAEA AUBERGINE AUTOMOBILE AVOCADO AXE BABY BACKSPACE BACON BADGER BAGEL BALLOON BANANA
BANJO BANK BASEBALL BASKET BAT BATH BATHTUB BATTERY BEANS BEAVER BECAUSE BED BEETLE BEL BELL BETWEEN
BICYCLE BICYCLIST BIKINI BILLIARDS BIRD BISON BLOSSOM BLOWFISH BLUEBERRIES BOAR BOM BOMB BONE BOOK
BOOKMARK BOOKS BOOMERANG BOUQUET BOWLING BOWTIE BOY BPH BRAIN BREAD BREAST-FEEDING BREVE BRICK
BRIEFCASE BRIEFS BROCCOLI BROOM BS BUBBLES BUCKET BUG BULLET BULLHORN BULLSEYE BURRITO BUS BUTTER
BUTTERFLY CACTUS CADUCEUS CALENDAR CAMERA CAMPING CAN CANCEL CANCER CANDLE CANDY CANOE CAPITULUM
CAPRICORN CARET CARON CARROT CASTLE CAT CCH CEDILLA CERES CGJ CHAINS CHAIR CHERRIES CHESTNUT CHICKEN
CHILD CHIPMUNK CHIRON CHOPSTICKS CHURCH CINEMA CITYSCAPE CLIPBOARD CLOUD COAT COCKROACH COCONUT
COFFIN COIN COLON COMET COMMA COMPASS COMPLEMENT COMPRESSION CONJUNCTION COOKIE COOKING CORAL
COUNTERBORE COUNTERSINK COW CR CRAB CRICKET CROCODILE CROISSANT CROWN CRUTCH CSI CUCUMBER CUPCAKE
CUPIDO CUSTARD CUSTOMS CYCLONE CYLINDRICITY DAGGER DANCER DANGO DC1~4 DCS DEER DEL DELETE DESERT
DIAERESIS DIVIDES DLE DOCUMENT DODO DOG DOLPHIN DOOR DOUGHNUT DRAGON DRESS DROPLET DUCK DUMPLING DVD
EAGLE EAR EARTH EGG ELEPHANT ELEVATOR ELF ENQ ENQUIRY ENVELOPE EOL EOM EOT EPA ESA ESC ESCAPE
ESTIMATES ETB ETX EXCESS EYE EYEGLASSES EYES FACTORY FAIRY FALAFEL FAMILY FEATHER FENCER FERRY FF
FIRE FIRECRACKER FIREWORKS FISH FISHEYE FLAMINGO FLATBREAD FLATNESS FLEUR-DE-LIS FLOWER FLY FOG
FOGGY FOLDER FONDUE FOOT FOOTPRINTS FORCES FORKING FOUNTAIN FROWN FS FSI FUSE FVS1~4 GARLIC GEAR
GEMINI GENIE GHOST GIRL GLOVES GOAT GOGGLES GOLFER GORILLA GRAPES GS GUARDSMAN GUITAR HADES HAIRCUT
HAMBURGER HAMMER HAMSA HANDBAG HANDBALL HANDSHAKE HEADPHONE HEADSTONE HEDGEHOG HELICOPTER HERB
HIBISCUS HIPPOPOTAMUS HOCHO HOLE HOMOTHETIC HONEYBEE HOOK HOP HORSE HOSPITAL HOTEL HOURGLASS HOUSE
HT HTJ HTS HUT HYGIEA HYPHEN HYPHEN-MINUS HYPODIASTOLE IMP INCREMENT IND INDEX INFINITY INTEGRAL
INTERCALATE INTERROBANG INTERSECTION JACK-O-LANTERN JAR JEANS JOIN JOYSTICK JUGGLING JUNO JUPITER
KAABA KANGAROO KEY KEYBOARD KIMONO KISS KITE KIWIFRUIT KNOT KOALA KRONOS LABEL LADDER LEDGER LEG
LEMON LEO LEOPARD LF LIBRA LIGHTNING LIPS LIPSTICK LIZARD LLAMA LOBSTER LOCK LOLLIPOP LOTUS LOZENGE
LRE LRI LRM LRO LUGGAGE LUNGS MACRON MAGE MAGNET MAMMOTH MAN MANGO MAXIMIZE MELON MEMO MERCURY
MERPERSON METRO MICROBE MICROPHONE MICROSCOPE MINIBUS MINIDISC MINIMIZE MINY MIRROR MMSP MODELS
MONKEY MONORAIL MOSQUE MOSQUITO MOTORWAY MOUNTAIN MOUSE MOUTH MOYAI MULTIMAP MULTISET MUSHROOM MVS
MW NABLA NAK NAND NBH NBSP NECKTIE NEL NEPTUNE NESSUS NEUTER NEWSPAPER NINJA NL NNBSP NONFORKING NOR
NOSE NOTE NOTEBOOK NUL NULL OCTOPUS ODEN OGONEK OLIVE ONION OPHIUCHUS OPPOSITION ORANGUTAN OSC OTTER
OVERLAP OVERLINE OWL OX OYSTER PACKAGE PAD PAGE PAGER PAGES PAGODA PALLAS PANCAKES PAPERCLIP
PARACHUTE PARAGRAPHOS PARROT PDF PDI PEACH PEACOCK PEANUTS PEAR PEDESTRIAN PENCIL PENGUIN PENTAGRAM
PERPENDICULAR PERSPECTIVE PHOLUS PICK PIE PIG PILL PINATA PINEAPPLE PISCES PISTOL PITCHFORK PLACARD
PLD PLU PLUNGER PLUTO PM POODLE POPCORN POSEIDON POSTBOX POTATO POUCH PRECEDES PRETZEL PRIME PRINCE
PRINCESS PRINTER PROJECTIVE PROPORTION PROSERPINA PU1 PU2 PURSE PUSHPIN QUINCUNX RABBIT RACCOON
RADIO RAIN RAINBOW RAM RAT RATIO RAZOR RECEIPT RESPONSE RESTROOM RHINOCEROS RI RIBBON RIFLE RING RLE
RLI RLM RLO ROCK ROCKET ROOSTER ROSE ROSETTE ROWBOAT RS RULE-DELAYED RUNNER SAGITTARIUS SAILBOAT
SALTIRE SANDWICH SARI SATELLITE SATURN SAUROPOD SAXOPHONE SCALES SCARF SCHOOL SCI SCOOTER SCORPION
SCORPIUS SCREEN SCREWDRIVER SCROLL SCRUPLE SEAL SEAT SECTOR SEDNA SEEDLING SEGMENT SELFIE SEMICOLON
SEMISEXTILE SESQUIQUADRATE SEXTILE SGC SHAMROCK SHARK SHEEP SHIELD SHIP SHORTCAKE SHORTS SHOWER
SHRIMP SHRUG SHY SI SINGLE-SHIFT-2 SINGLE-SHIFT-3 SKATEBOARD SKIER SKULL SKUNK SLED SLOPE SLOTH
SMILE SNAIL SNAKE SNOWBOARDER SNOWFLAKE SNOWMAN SO SOCKS SOFTBALL SOH SOLIDUS SOS SP SPA SPACE
SPAGHETTI SPARKLE SPARKLES SPEAKER SPEEDBOAT SPIDER SPONGE SPOON SQUID SS2 SS3 SSA ST STADIUM
STATION STETHOSCOPE STOPWATCH STRAIGHTNESS STRAWBERRY STS STUPA STX SUB SUBSTITUTE SUCCEEDS SUN
SUNFLOWER SUNRISE SUPERHERO SUPERVILLAIN SURFER SUSHI SWAN SWIMMER SYMMETRY SYN SYNAGOGUE SYRINGE
T-REX T-SHIRT TAB TACO TAMALE TANGERINE TAURUS TAXI TEAPOT TELESCOPE TELEVISION TENT THEREFORE
THERMODYNAMIC THERMOMETER THUNDERSTORM TICKET TIGER TILDE TINY TOILET TOMATO TONGUE TOOLBOX TOOTH
TOOTHBRUSH TRACKBALL TRACTOR TRAIN TRAM TRANSPLUTO TRICOLON TROLL TROLLEYBUS TROPHY TRUE TRUMPET
TULIP TURKEY TURTLE UMBRELLA UNDERTIE UNION URANUS US VAMPIRE VERSICLE VESTA VIDEOCASSETTE VIOLIN
VIRGO VOLCANO VOLLEYBALL VS100~256 VS10~99 VS1~9 VT VTS VULCANUS WAFFLE WASTEBASKET WATCH WATERMELON
WEDDING WHALE WHEEL WINDOW WJ WOMAN WOOD WORM WRENCH WRESTLERS X-RAY XOR YO-YO ZEUS ZOMBIE ZWJ
ZWNBSP ZWNJ ZWSP;0+AC: CURRENT;2+COUNT: OF;2+TIVATE ARABIC FORM: SHAPING;9+SYMMETRIC: SWAPPING;
2+UTE: ACCENT ANGLE;1+DDRESSED TO THE: SUBJECT;2+HESIVE: BANDAGE;2+I: SHAKTI;2+LAM: HAMZA NUKTA;5+
ALIF: LENGTHENER;6+CAPITAL LETTER: ALIF BA BHE CHI DAALI DHA E FA GA GBE HA I JIIM KAF KHA KPO LAAM
MIIM NHA NUN NYA O PE QAAF RA SHA SINNYIIYHE TU U VA WAW YA YHE ZAL;7+ONSONANT: MODIFIER;6+DIGIT:
EIGHT FIVE FOUR NINE ONE SEVEN SIX THREE TWO ZERO;6+GEMINATE CONSONANT: MODIFIER;13+ION: MARK;
6+INITIAL EXCLAMATION: MARK;14+QUESTION: MARK;6+NASALIZATION: MARK;6+SMALL LETTER: ALIF BA BHE CHI
DAALI DHA E FA GA GBE HA I JIIM KAF KHA KPO LAAM MIIM NHA NUN NYA O PE QAAF RA SHA SINNYIIYHE TU U
VA WAW YA YHE ZAL;6+VOWEL: LENGTHENER;2+MISSION: TICKETS;1+EGEAN CHECK: MARK;7+DRY MEASURE FIRST:
SUBUNIT;7+LIQUID MEASURE FIRST: SUBUNIT;7+MEASURE SECOND: SUBUNIT;15+THIRD: SUBUNIT;7+NUMBER: EIGHT
EIGHTY FIFTY FIVE FORTY FOUR NINE NINETY ONE SEVEN SEVENTY SIX SIXTY TEN THIRTY THREE TWENTY TWO;13+
EIGHT: HUNDRED THOUSAND;19+Y: THOUSAND;14+FIFTY: THOUSAND;16+VE: HUNDRED THOUSAND;15+ORTY: THOUSAND;
16+UR: HUNDRED THOUSAND;14+NINE: HUNDRED THOUSAND;18+TY: THOUSAND;14+ONE: HUNDRED THOUSAND;14+SEVEN:
HUNDRED THOUSAND;19+TY: THOUSAND;15+IX: HUNDRED THOUSAND;17+TY: THOUSAND;14+TEN: THOUSAND;15+HIRTY:
THOUSAND;16+REE: HUNDRED THOUSAND;15+WENTY: THOUSAND;16+O: HUNDRED THOUSAND;7+WEIGHT BASE: UNIT;
14+FIRST: SUBUNIT;15+OURTH: SUBUNIT;14+SECOND: SUBUNIT;14+THIRD: SUBUNIT;8+ORD SEPARATOR: DOT LINE;
2+RIAL: TRAMWAY;1+FGHANI: SIGN;1+HOM CONSONANT SIGN MEDIAL: LA RA;26+ LIGATING: RA;5+DIGIT: EIGHT
FIVE FOUR NINE ONE SEVEN SIX THREE TWO ZERO;5+LETTER: A BA BHA CA CHA DA DDA DDHA DHA GA GHA HA JA
JHA KA KHA LA LLA MA NA NGA NNA NYA PA PHA RA SA TA THA TTA TTHA;11+ ALTERNATE: BA GA TA;5+NUMBER:
TEN TWENTY;5+SIGN: KILLER RULAI SECTION;9+ SMALL: SECTION;6+YMBOL: VI;5+VOWEL SIGN: A AA AI AM AW E
I II O U UU;1+IRPLANE: ARRIVING DEPARTURE;1+LARM: CLOCK;2+CHEMICAL SYMBOL FOR: AIR ALEMBIC ALKALI
ALKALI-2 ALUM AMALGAM AQUAFORTIS ARSENIC ASHES AURIPIGMENT BORAX BORAX-2 BORAX-3 BRICK CADUCEUS CALX
CINNABAR CRUCIBLE CRUCIBLE-2~5 DAY-NIGHT DISSOLVE DISSOLVE-2 DISTILL EARTH FIRE GOLD GUM HOUR
LODESTONE MARCASITE MONTH NIGHT NITRE OIL POWDER PRECIPITATE PURIFY PUTREFACTION QUINTESSENCE
REALGAR REALGAR-2 REGULUS REGULUS-2~4 RETORT SAL-AMMONIAC SALT SILVER SOAP SPIRIT SUBLIMATION SULFUR
TARTAR TARTAR-2 TINCTURE TRIDENT TUTTY URINE VERDIGRIS VINEGAR VINEGAR-2 VINEGAR-3 VITRIOL VITRIOL-2
WATER WAX;21+ ANTIMONY: ORE;23+QUA: REGIA REGIA-2 VITAE VITAE-2;22+BATH OF: MARY VAPOURS;23+ISMUTH:
ORE;23+LACK: SULFUR;22+CAPUT: MORTUUM;23+OPPER: ANTIMONIATE ORE;23+ROCUS OF: COPPER COPPER-2 IRON;
22+HALF: DRAM OUNCE;23+ORSE: DUNG;22+IRON: ORE ORE-2;26+-COPPER: ORE;22+LEAD: ORE;22+MERCURY:
SUBLIMATE SUBLIMATE-2 SUBLIMATE-3;22+PHILOSOPHERS: SULFUR;23+OT: ASHES;24+WDERED: BRICK;22+QUICK:
LIME;22+REGULUS OF: ANTIMONY ANTIMONY-2 IRON;23+OCK: SALT SALT-2;22+SALT OF: ANTIMONY;29+ COPPER:
ANTIMONIATE;23+CEPTER OF: JOVE;23+TARRED: TRIDENT;24+RATUM SUPER: STRATUM STRATUM-2;23+UBLIMATE OF:
ANTIMONY COPPER;34+ SALT OF: ANTIMONY COPPER;22+TIN: ORE;22+VINEGAR OF: ANTIMONY;2+EF: SYMBOL;2+IEN:
MONSTER;2+L: AROUND-PROFILE;3+ EQUAL: TO;2+MOST EQUAL: TO;12+ OR EQUAL: TO;13+TO WITH CIRCUMFLEX:
ACCENT;2+TERNATE ONE-WAY LEFT WAY: TRAFFIC;8+IVE KEY: SYMBOL;1+MALGAMATION OR: COPRODUCT;2+ERICAN:
FOOTBALL;1+NATOLIAN HIEROGLYPH: A001~331 A010A A026A A039A A041A A045A A046A A046B A066A A066B A066C
A097A A098A A100A A101A A102A A104A A104B A104C A105A A105B A107A A107B A107C A110A A110B A115A
A125A A135A A202A A202B A207A A209A A215A A216A A227A A267A A289A A294A A299A A309A A329A A332A
A332B A332C A333~382 A336A A336B A336C A359A A364A A368A A371A A381A A383A A384~392 A386A A394~409
A411~497 A450A A457A A501~530;20+ A383 RA OR: RI;23+93: EIGHT;22+410 BEGIN LOGOGRAM: MARK;25+A END
LOGOGRAM: MARK;5+MICAL: HEART;2+D WITH: DOT;2+GER: SYMBOL;3+LE WITH: UNDERBAR;10+ S: INSIDE;3+RY:
FACE;3+STROM: SIGN;3+UISHED: FACE;2+TENNA WITH: BARS;3+ICLOCKWISE: INTEGRATION;13+ CLOSED CIRCLE:
ARROW;15+ONTOUR: INTEGRAL;14+DOWNWARDS AND UPWARDS OPEN CIRCLE: ARROWS;14+GAPPED CIRCLE: ARROW;
14+OPEN CIRCLE: ARROW;14+TOP SEMICIRCLE: ARROW;15+RIANGLE-HEADED BOTTOM U-SHAPED: ARROW;30+LEFT
U-SHAPED: ARROW;30+OPEN CIRCLE: ARROW;30+RIGHT U-SHAPED: ARROW;30+TOP U-SHAPED: ARROW;1+PL
FUNCTIONAL SYMBOL: ALPHA I-BEAM IOTA OMEGA QUAD RHO ZILDE;21+ ALPHA: UNDERBAR;22+BACKSLASH: BAR;
22+CIRCLE: BACKSLASH DIAERESIS JOT STAR STILE UNDERBAR;23+OMMA: BAR;22+DEL: DIAERESIS STILE TILDE;
25+TA: STILE UNDERBAR;23+IAMOND: UNDERBAR;23+OWN CARET: TILDE;27+SHOE: STILE;27+TACK: JOT UNDERBAR;
26+WARDS: VANE;22+EPSILON: UNDERBAR;22+GREATER-THAN: DIAERESIS;22+IOTA: UNDERBAR;22+JOT: DIAERESIS
UNDERBAR;22+LEFT SHOE: STILE;26+WARDS: VANE;22+OMEGA: UNDERBAR;22+QUAD: BACKSLASH CIRCLE COLON DEL
DELTA DIAMOND DIVIDE EQUAL GREATER-THAN JOT LESS-THAN QUESTION SLASH;26+ DOWN: CARET;31+WARDS:
ARROW;27+LEFTWARDS: ARROW;27+NOT: EQUAL;27+RIGHTWARDS: ARROW;27+UP: CARET;29+WARDS: ARROW;24+OTE:
QUAD UNDERBAR;22+RIGHTWARDS: VANE;22+SEMICOLON: UNDERBAR;23+LASH: BAR;23+QUISH: QUAD;23+TAR:
DIAERESIS;24+ILE: TILDE;22+TILDE: DIAERESIS;22+UP CARET: TILDE;25+SHOE: JOT;25+TACK: DIAERESIS JOT
OVERBAR;24+WARDS: VANE;2+PLICATION PROGRAM: COMMAND;3+ROACHES THE: LIMIT;5+XIMATELY BUT NOT ACTUALLY
EQUAL: TO;14+EQUAL: TO;19+ OR EQUAL: TO;20+TO OR THE IMAGE: OF;1+RABIC: COMMA DAMMA DAMMATAN FATHA
FATHATAN KASRA KASRATAN RAY SEMICOLON SHADDA SUKUN TATWEEL ZWARAKAY;6+ BASELINE ROUND: DOT;7+CURLY:
DAMMA DAMMATAN FATHA FATHATAN KASRA KASRATAN;7+DAMMA ISOLATED: FORM;13+MEDIAL: FORM;13+WITH: DOT;
12+TAN ISOLATED: FORM;9+TE: SEPARATOR;8+ECIMAL: SEPARATOR;8+ISPUTED END OF: AYAH;8+OUBLE RIGHT
ARROWHEAD: ABOVE;29+ ABOVE WITH: DOT;13+D: MADDA;7+EMPTY CENTRE HIGH: STOP;20+LOW: STOP;8+ND OF:
AYAH;13+ TEXT: MARK;7+FATHA ISOLATED: FORM;13+MEDIAL: FORM;13+WITH: RING;17+ DOT: ABOVE;18+TWO:
DOTS;12+TAN ISOLATED: FORM;8+IVE POINTED: STAR;8+OOTNOTE: MARKER;8+ULL: STOP;7+HALF MADDA OVER:
MADDA;9+MZA: ABOVE BELOW;7+INVERTED: DAMMA;7+KASRA ISOLATED: FORM;13+MEDIAL: FORM;13+WITH DOT:
BELOW;12+TAN ISOLATED: FORM;7+LARGE CIRCLE: BELOW;13+ROUND DOT: ABOVE BELOW;22+ INSIDE CIRCLE:
BELOW;8+EFT ARROWHEAD: ABOVE BELOW;9+TTER: AE AIN ALEF BEEH BEH BEHEH DAD DAHAL DAL DDAHAL DDAL DUL
DYEH E FEH GAF GHAIN GRAF GUEH HAH HAMZA HEH JEEM JEH KAF KEHEH KHAH LAM MARK MEEM NG NGOEH NOON
NYEH OE PEH PEHEH QAF REH RNOON RREH SAD SEEN SHEEN TAH TCHEH TCHEHEH TEH TEHEH THAL THEH TTEH
TTEHEH U VE VEH WAW YEH YU ZAH ZAIN;13+ AFRICAN: FEH NOON QAF;21+ QAF WITH THREE DOTS: ABOVE;15+IN
FINAL: FORM;18+INITIAL: FORM;19+SOLATED: FORM;18+MEDIAL: FORM;18+WITH THREE DOTS: ABOVE BELOW;33+
POINTING DOWNWARDS: ABOVE;24+WO DOTS: ABOVE;31+ VERTICALLY: ABOVE;15+LEF: MAKSURA WASLA;18+ FINAL:
FORM;19+ISOLATED: FORM;19+MAKSURA FINAL: FORM;27+ISOLATED: FORM;19+WASLA FINAL: FORM;25+ISOLATED:
FORM;20+ITH ATTACHED: FATHA KASRA;32+ BOTTOM RIGHT: KASRA;45+ KASRA AND DOT: ABOVE;56+LEFT: RING;
33+LEFT: HAMZA;37+ ROUND: DOT;33+RIGHT: HAMZA;38+ ROUND: DOT;34+OUND DOT: ABOVE BELOW;33+TOP RIGHT:
FATHA;42+ FATHA AND DOT: ABOVE;53+LEFT: RING;24+DOT: ABOVE;24+EXTENDED ARABIC-INDIC DIGIT THREE:
ABOVE;53+WO: ABOVE;24+HAMZA: ABOVE BELOW;29+ ABOVE FINAL: FORM;36+ISOLATED: FORM;30+BELOW FINAL:
FORM;36+ISOLATED: FORM;24+LEFT MIDDLE: STROKE;24+MADDA: ABOVE;29+ ABOVE FINAL: FORM;36+ISOLATED:
FORM;24+RIGHT MIDDLE: STROKE;36+ STROKE AND DOT: ABOVE;48+LEFT: RING;24+WAVY HAMZA: ABOVE BELOW;
14+BEEH FINAL: FORM;19+INITIAL: FORM;20+SOLATED: FORM;19+MEDIAL: FORM;16+H FINAL: FORM;18+INITIAL:
FORM;19+SOLATED: FORM;18+MEDIAL: FORM;18+WITH DOT BELOW AND THREE DOTS: ABOVE;23+HAMZA: ABOVE;
23+INVERTED SMALL V: BELOW;23+SMALL: V;28+ MEEM: ABOVE;29+V: BELOW;23+THREE DOTS HORIZONTALLY:
BELOW;34+POINTING UPWARDS: BELOW;50+ BELOW AND TWO DOTS: ABOVE;24+WO DOTS BELOW AND DOT: ABOVE;17+EH
FINAL: FORM;20+INITIAL: FORM;21+SOLATED: FORM;20+MEDIAL: FORM;14+DAD FINAL: FORM;18+INITIAL: FORM;
19+SOLATED: FORM;18+MEDIAL: FORM;18+WITH DOT: BELOW;16+HAL FINAL: FORM;20+ISOLATED: FORM;16+L FINAL:
FORM;18+ISOLATED: FORM;18+WITH: RING;22+ DOT: BELOW;26+ BELOW AND SMALL: TAH;23+FOUR DOTS: ABOVE;
23+INVERTED: V;31+ SMALL V: BELOW;23+THREE DOTS: BELOW;33+ ABOVE: DOWNWARDS;24+WO DOTS VERTICALLY
BELOW AND SMALL: TAH;15+DAHAL FINAL: FORM;21+ISOLATED: FORM;17+L FINAL: FORM;19+ISOLATED: FORM;
15+OTLESS: BEH FEH QAF;15+UL FINAL: FORM;18+ISOLATED: FORM;15+YEH FINAL: FORM;19+INITIAL: FORM;
20+SOLATED: FORM;19+MEDIAL: FORM;14+E FINAL: FORM;16+INITIAL: FORM;17+SOLATED: FORM;16+MEDIAL: FORM;
14+FARSI: YEH;19+ YEH FINAL: FORM;24+INITIAL: FORM;25+SOLATED: FORM;24+MEDIAL: FORM;24+WITH EXTENDED
ARABIC-INDIC DIGIT FOUR: BELOW;57+THREE: ABOVE;58+WO: ABOVE;29+INVERTED: V;29+THREE DOTS: ABOVE;
30+WO DOTS: ABOVE;15+EH FINAL: FORM;18+INITIAL: FORM;19+SOLATED: FORM;18+MEDIAL: FORM;18+WITH DOT:
BELOW;26+ BELOW AND THREE DOTS: ABOVE;27+MOVED: BELOW;23+THREE DOTS: BELOW;33+ POINTING UPWARDS:
BELOW;24+WO DOTS: BELOW;14+GAF FINAL: FORM;18+INITIAL: FORM;19+SOLATED: FORM;18+MEDIAL: FORM;
18+WITH: RING;22+ INVERTED: STROKE;23+THREE DOTS: ABOVE;24+WO DOTS: BELOW;15+HAIN FINAL: FORM;
20+INITIAL: FORM;21+SOLATED: FORM;20+MEDIAL: FORM;20+WITH DOT: BELOW;25+THREE DOTS: ABOVE;15+UEH
FINAL: FORM;19+INITIAL: FORM;20+SOLATED: FORM;19+MEDIAL: FORM;14+HAH FINAL: FORM;18+INITIAL: FORM;
19+SOLATED: FORM;18+MEDIAL: FORM;18+WITH EXTENDED ARABIC-INDIC DIGIT FOUR: BELOW;23+HAMZA: ABOVE;
23+INVERTED SMALL V: BELOW;23+SMALL ARABIC LETTER TAH: ABOVE BELOW;46+ AND TWO: DOTS;23+THREE DOTS:
ABOVE;33+ POINTING UPWARDS: BELOW;24+WO DOTS: ABOVE;31+ VERTICAL: ABOVE;16+MZA ISOLATED: FORM;15+EH:
DOACHASHMEE GOAL;17+ DOACHASHMEE FINAL: FORM;30+INITIAL: FORM;31+SOLATED: FORM;30+MEDIAL: FORM;
18+FINAL: FORM;18+GOAL FINAL: FORM;23+INITIAL: FORM;24+SOLATED: FORM;23+MEDIAL: FORM;23+WITH HAMZA:
ABOVE;18+INITIAL: FORM;19+SOLATED: FORM;18+MEDIAL: FORM;18+WITH INVERTED: V;23+YEH: ABOVE;26+ ABOVE
FINAL: FORM;33+ISOLATED: FORM;15+IGH: HAMZA;18+ HAMZA: ALEF WAW YEH;14+JEEM FINAL: FORM;19+INITIAL:
FORM;20+SOLATED: FORM;19+MEDIAL: FORM;19+WITH THREE DOTS: ABOVE BELOW;25+WO DOTS: ABOVE;16+H FINAL:
FORM;18+ISOLATED: FORM;14+KAF FINAL: FORM;18+INITIAL: FORM;19+SOLATED: FORM;18+MEDIAL: FORM;18+WITH:
RING;22+ DOT: ABOVE BELOW;23+THREE DOTS: BELOW;24+WO DOTS: ABOVE;16+SHMIRI: YEH;15+EHEH FINAL: FORM;
20+INITIAL: FORM;21+SOLATED: FORM;20+MEDIAL: FORM;20+WITH DOT: ABOVE;25+SMALL: V;25+THREE DOTS:
ABOVE BELOW;35+ POINTING UPWARDS: BELOW;26+WO DOTS: ABOVE;33+ VERTICALLY: BELOW;15+HAH FINAL: FORM;
19+INITIAL: FORM;20+SOLATED: FORM;19+MEDIAL: FORM;15+IRGHIZ: OE YU;21+ OE FINAL: FORM;25+ISOLATED:
FORM;22+YU FINAL: FORM;25+ISOLATED: FORM;14+LAM FINAL: FORM;18+INITIAL: FORM;19+SOLATED: FORM;
18+MEDIAL: FORM;18+WITH: BAR;22+ DOT: ABOVE;25+UBLE: BAR;23+SMALL: V;28+ ARABIC LETTER TAH: ABOVE;
23+THREE DOTS: ABOVE BELOW;15+OW: ALEF;14+MEEM FINAL: FORM;19+INITIAL: FORM;20+SOLATED: FORM;
19+MEDIAL: FORM;19+WITH DOT: ABOVE BELOW;24+THREE DOTS: ABOVE;14+NG FINAL: FORM;17+INITIAL: FORM;
18+SOLATED: FORM;17+MEDIAL: FORM;16+OEH FINAL: FORM;20+INITIAL: FORM;21+SOLATED: FORM;20+MEDIAL:
FORM;15+OON: GHUNNA;18+ FINAL: FORM;19+GHUNNA FINAL: FORM;26+ISOLATED: FORM;19+INITIAL: FORM;
20+SOLATED: FORM;19+MEDIAL: FORM;19+WITH: RING;23+ DOT: BELOW;24+INVERTED SMALL: V;24+SMALL: TAH V;
24+THREE DOTS: ABOVE;25+WO DOTS: BELOW;15+YEH FINAL: FORM;19+INITIAL: FORM;20+SOLATED: FORM;
19+MEDIAL: FORM;14+OE FINAL: FORM;17+ISOLATED: FORM;14+PEH FINAL: FORM;18+INITIAL: FORM;19+SOLATED:
FORM;18+MEDIAL: FORM;18+WITH SMALL: V;28+ MEEM: ABOVE;17+EH FINAL: FORM;20+INITIAL: FORM;21+SOLATED:
FORM;20+MEDIAL: FORM;14+QAF FINAL: FORM;18+INITIAL: FORM;19+SOLATED: FORM;18+MEDIAL: FORM;18+WITH
DOT: ABOVE BELOW;26+ BELOW AND NO DOTS: ABOVE;23+THREE DOTS: ABOVE;14+REH FINAL: FORM;18+ISOLATED:
FORM;18+WITH: LOOP RING STROKE;22+ DOT: BELOW;26+ BELOW AND DOT: ABOVE;23+FOUR DOTS: ABOVE;23+HAMZA:
ABOVE;23+INVERTED: V;23+SMALL: V;28+ ARABIC LETTER TAH AND TWO: DOTS;29+NOON: ABOVE;29+V: BELOW;
23+TWO DOTS: ABOVE;31+ VERTICALLY: ABOVE;15+NOON FINAL: FORM;20+INITIAL: FORM;21+SOLATED: FORM;
20+MEDIAL: FORM;15+OHINGYA: YEH;15+REH FINAL: FORM;19+ISOLATED: FORM;14+SAD FINAL: FORM;18+INITIAL:
FORM;19+SOLATED: FORM;18+MEDIAL: FORM;18+WITH THREE DOTS: ABOVE BELOW;24+WO DOTS: BELOW;15+EEN
FINAL: FORM;19+INITIAL: FORM;20+SOLATED: FORM;19+MEDIAL: FORM;19+WITH DOT BELOW AND DOT: ABOVE;
24+EXTENDED ARABIC-INDIC DIGIT FOUR: ABOVE;24+FOUR DOTS: ABOVE;24+INVERTED: V;24+SMALL ARABIC LETTER
TAH AND TWO: DOTS;24+THREE DOTS: BELOW;34+ BELOW AND THREE DOTS: ABOVE;25+WO DOTS VERTICALLY: ABOVE;
15+HEEN FINAL: FORM;20+INITIAL: FORM;21+SOLATED: FORM;20+MEDIAL: FORM;20+WITH DOT: BELOW;15+TRAIGHT:
WAW;15+UPERSCRIPT: ALEF;15+WASH: KAF;14+TAH FINAL: FORM;18+INITIAL: FORM;19+SOLATED: FORM;18+MEDIAL:
FORM;18+WITH DOT: BELOW;23+THREE DOTS: ABOVE BELOW;24+WO DOTS: ABOVE;15+CHEH FINAL: FORM;20+INITIAL:
FORM;21+SOLATED: FORM;20+MEDIAL: FORM;20+WITH DOT: ABOVE;25+SMALL: V;19+EH FINAL: FORM;22+INITIAL:
FORM;23+SOLATED: FORM;22+MEDIAL: FORM;15+EH: MARBUTA;17+ FINAL: FORM;18+INITIAL: FORM;19+SOLATED:
FORM;18+MARBUTA: GOAL;25+ FINAL: FORM;26+ISOLATED: FORM;19+EDIAL: FORM;18+WITH: RING;22+ SMALL: V;
28+ TEH: ABOVE;23+THREE DOTS ABOVE: DOWNWARDS;17+EH FINAL: FORM;20+INITIAL: FORM;21+SOLATED: FORM;
20+MEDIAL: FORM;15+HAL FINAL: FORM;19+ISOLATED: FORM;16+EH FINAL: FORM;19+INITIAL: FORM;20+SOLATED:
FORM;19+MEDIAL: FORM;16+IN: YEH;15+TEH FINAL: FORM;19+INITIAL: FORM;20+SOLATED: FORM;19+MEDIAL:
FORM;19+WITH SMALL: V;18+EH FINAL: FORM;21+INITIAL: FORM;22+SOLATED: FORM;21+MEDIAL: FORM;14+U
FINAL: FORM;16+ISOLATED: FORM;16+WITH HAMZA: ABOVE;26+ ABOVE ISOLATED: FORM;15+IGHUR KAZAKH KIRGHIZ
ALEF MAKSURA INITIAL: FORM;49+MEDIAL: FORM;14+VE FINAL: FORM;17+ISOLATED: FORM;16+H FINAL: FORM;
18+INITIAL: FORM;19+SOLATED: FORM;18+MEDIAL: FORM;14+WAW FINAL: FORM;18+ISOLATED: FORM;18+WITH:
RING;22+ DOT: ABOVE WITHIN;23+EXTENDED ARABIC-INDIC DIGIT THREE: ABOVE;52+WO: ABOVE;23+HAMZA: ABOVE;
28+ ABOVE FINAL: FORM;35+ISOLATED: FORM;23+TWO DOTS: ABOVE;14+YEH: BARREE;17+ BARREE FINAL: FORM;
25+ISOLATED: FORM;25+WITH EXTENDED ARABIC-INDIC DIGIT THREE: ABOVE;59+WO: ABOVE;30+HAMZA: ABOVE;35+
ABOVE FINAL: FORM;42+ISOLATED: FORM;18+FINAL: FORM;18+INITIAL: FORM;19+SOLATED: FORM;18+MEDIAL:
FORM;18+WITH: TAIL;22+ HAMZA: ABOVE;28+ ABOVE FINAL: FORM;35+INITIAL: FORM;36+SOLATED: FORM;
35+MEDIAL: FORM;23+SMALL: V;23+THREE DOTS: BELOW;24+WO DOTS BELOW AND DOT: ABOVE;42+HAMZA: ABOVE;
42+SMALL NOON: ABOVE;15+U FINAL: FORM;17+ISOLATED: FORM;14+ZAH FINAL: FORM;18+INITIAL: FORM;
19+SOLATED: FORM;18+MEDIAL: FORM;16+IN FINAL: FORM;19+ISOLATED: FORM;19+WITH INVERTED V: ABOVE;
8+IGATURE: JALLAJALALOUHOU;15+ AIN WITH ALEF MAKSURA FINAL: FORM;38+ISOLATED: FORM;25+JEEM INITIAL:
FORM;31+SOLATED: FORM;30+WITH MEEM FINAL: FORM;40+INITIAL: FORM;25+MEEM INITIAL: FORM;31+SOLATED:
FORM;30+WITH ALEF MAKSURA FINAL: FORM;35+MEEM FINAL: FORM;40+INITIAL: FORM;35+YEH FINAL: FORM;25+YEH
FINAL: FORM;29+ISOLATED: FORM;17+KBAR ISOLATED: FORM;17+LAYHAA: AS-SALAAM;21+E ISOLATED: FORM;21+I:
AS-SALAAM;22+ AS-SALAATU: WAS-SALAAM;22+M: AS-SALAAM;23+AA: AS-SALAAM;18+EF MAKSURA WITH SUPERSCRIPT
ALEF FINAL: FORM;51+ISOLATED: FORM;21+WITH FATHATAN FINAL: FORM;35+ISOLATED: FORM;18+LAH ISOLATED:
FORM;17+ZZA WA: JALL;16+BEH WITH ALEF MAKSURA FINAL: FORM;38+ISOLATED: FORM;25+HAH INITIAL: FORM;
30+SOLATED: FORM;29+WITH YEH FINAL: FORM;26+EH INITIAL: FORM;29+MEDIAL: FORM;25+JEEM INITIAL: FORM;
31+SOLATED: FORM;25+KHAH INITIAL: FORM;31+SOLATED: FORM;30+WITH YEH FINAL: FORM;25+MEEM FINAL: FORM;
30+INITIAL: FORM;31+SOLATED: FORM;30+MEDIAL: FORM;25+NOON FINAL: FORM;25+REH FINAL: FORM;25+YEH
FINAL: FORM;29+ISOLATED: FORM;25+ZAIN FINAL: FORM;17+ISMILLAH AR-RAHMAN: AR-RAHEEM;16+DAD WITH ALEF
MAKSURA FINAL: FORM;38+ISOLATED: FORM;25+HAH INITIAL: FORM;30+SOLATED: FORM;29+WITH ALEF MAKSURA
FINAL: FORM;34+YEH FINAL: FORM;25+JEEM INITIAL: FORM;31+SOLATED: FORM;25+KHAH INITIAL: FORM;
31+SOLATED: FORM;30+WITH MEEM FINAL: FORM;40+INITIAL: FORM;25+MEEM INITIAL: FORM;31+SOLATED: FORM;
25+REH FINAL: FORM;29+ISOLATED: FORM;25+YEH FINAL: FORM;29+ISOLATED: FORM;16+FEH WITH ALEF MAKSURA
FINAL: FORM;38+ISOLATED: FORM;25+HAH INITIAL: FORM;30+SOLATED: FORM;25+JEEM INITIAL: FORM;
31+SOLATED: FORM;25+KHAH INITIAL: FORM;31+SOLATED: FORM;30+WITH MEEM FINAL: FORM;40+INITIAL: FORM;
25+MEEM INITIAL: FORM;31+SOLATED: FORM;30+WITH YEH FINAL: FORM;25+YEH FINAL: FORM;29+ISOLATED: FORM;
16+GHAIN WITH ALEF MAKSURA FINAL: FORM;40+ISOLATED: FORM;27+JEEM INITIAL: FORM;33+SOLATED: FORM;
27+MEEM INITIAL: FORM;33+SOLATED: FORM;32+WITH ALEF MAKSURA FINAL: FORM;37+MEEM FINAL: FORM;37+YEH
FINAL: FORM;27+YEH FINAL: FORM;31+ISOLATED: FORM;16+HAH WITH ALEF MAKSURA FINAL: FORM;38+ISOLATED:
FORM;25+JEEM INITIAL: FORM;31+SOLATED: FORM;30+WITH YEH FINAL: FORM;25+MEEM INITIAL: FORM;
31+SOLATED: FORM;30+WITH ALEF MAKSURA FINAL: FORM;35+YEH FINAL: FORM;25+YEH FINAL: FORM;29+ISOLATED:
FORM;17+EH WITH ALEF MAKSURA ISOLATED: FORM;25+JEEM INITIAL: FORM;31+SOLATED: FORM;25+MEEM INITIAL:
FORM;31+SOLATED: FORM;30+WITH JEEM INITIAL: FORM;35+MEEM INITIAL: FORM;25+SUPERSCRIPT ALEF INITIAL:
FORM;25+YEH ISOLATED: FORM;16+JEEM WITH ALEF MAKSURA FINAL: FORM;39+ISOLATED: FORM;26+HAH INITIAL:
FORM;31+SOLATED: FORM;30+WITH ALEF MAKSURA FINAL: FORM;35+YEH FINAL: FORM;26+MEEM INITIAL: FORM;
32+SOLATED: FORM;31+WITH ALEF MAKSURA FINAL: FORM;36+HAH FINAL: FORM;40+INITIAL: FORM;36+YEH FINAL:
FORM;26+YEH FINAL: FORM;30+ISOLATED: FORM;16+KAF WITH ALEF FINAL: FORM;30+ISOLATED: FORM;30+MAKSURA
FINAL: FORM;38+ISOLATED: FORM;25+HAH INITIAL: FORM;30+SOLATED: FORM;25+JEEM INITIAL: FORM;
31+SOLATED: FORM;25+KHAH INITIAL: FORM;31+SOLATED: FORM;25+LAM FINAL: FORM;29+INITIAL: FORM;
30+SOLATED: FORM;29+MEDIAL: FORM;25+MEEM FINAL: FORM;30+INITIAL: FORM;31+SOLATED: FORM;30+MEDIAL:
FORM;30+WITH MEEM FINAL: FORM;40+INITIAL: FORM;35+YEH FINAL: FORM;25+YEH FINAL: FORM;29+ISOLATED:
FORM;17+HAH WITH ALEF MAKSURA FINAL: FORM;39+ISOLATED: FORM;26+HAH ISOLATED: FORM;26+JEEM INITIAL:
FORM;32+SOLATED: FORM;26+MEEM INITIAL: FORM;32+SOLATED: FORM;26+YEH FINAL: FORM;30+ISOLATED: FORM;
16+LAM WITH ALEF FINAL: FORM;30+ISOLATED: FORM;30+MAKSURA FINAL: FORM;38+ISOLATED: FORM;30+WITH
HAMZA ABOVE FINAL: FORM;47+ISOLATED: FORM;41+BELOW FINAL: FORM;47+ISOLATED: FORM;35+MADDA ABOVE
FINAL: FORM;47+ISOLATED: FORM;25+HAH INITIAL: FORM;30+SOLATED: FORM;29+WITH ALEF MAKSURA FINAL:
FORM;34+MEEM FINAL: FORM;39+INITIAL: FORM;34+YEH FINAL: FORM;26+EH INITIAL: FORM;25+JEEM INITIAL:
FORM;31+SOLATED: FORM;30+WITH JEEM FINAL: FORM;40+INITIAL: FORM;35+MEEM FINAL: FORM;40+INITIAL:
FORM;35+YEH FINAL: FORM;25+KHAH INITIAL: FORM;31+SOLATED: FORM;30+WITH MEEM FINAL: FORM;40+INITIAL:
FORM;25+MEEM FINAL: FORM;30+INITIAL: FORM;31+SOLATED: FORM;30+MEDIAL: FORM;30+WITH HAH FINAL: FORM;
39+INITIAL: FORM;35+YEH FINAL: FORM;25+YEH FINAL: FORM;29+ISOLATED: FORM;16+MEEM WITH ALEF FINAL:
FORM;31+MAKSURA ISOLATED: FORM;26+HAH INITIAL: FORM;31+SOLATED: FORM;30+WITH JEEM INITIAL: FORM;
35+MEEM INITIAL: FORM;35+YEH FINAL: FORM;26+JEEM INITIAL: FORM;32+SOLATED: FORM;31+WITH HAH INITIAL:
FORM;36+KHAH INITIAL: FORM;36+MEEM INITIAL: FORM;36+YEH FINAL: FORM;26+KHAH INITIAL: FORM;
32+SOLATED: FORM;31+WITH JEEM INITIAL: FORM;36+MEEM INITIAL: FORM;36+YEH FINAL: FORM;26+MEEM FINAL:
FORM;31+INITIAL: FORM;32+SOLATED: FORM;31+WITH YEH FINAL: FORM;26+YEH ISOLATED: FORM;17+OHAMMAD
ISOLATED: FORM;16+NOON WITH ALEF MAKSURA FINAL: FORM;39+ISOLATED: FORM;26+HAH INITIAL: FORM;
31+SOLATED: FORM;30+WITH ALEF MAKSURA FINAL: FORM;35+MEEM INITIAL: FORM;35+YEH FINAL: FORM;27+EH
INITIAL: FORM;30+MEDIAL: FORM;26+JEEM INITIAL: FORM;32+SOLATED: FORM;31+WITH ALEF MAKSURA FINAL:
FORM;36+HAH FINAL: FORM;40+INITIAL: FORM;36+MEEM FINAL: FORM;41+INITIAL: FORM;36+YEH FINAL: FORM;
26+KHAH INITIAL: FORM;32+SOLATED: FORM;26+MEEM FINAL: FORM;31+INITIAL: FORM;32+SOLATED: FORM;
31+MEDIAL: FORM;31+WITH ALEF MAKSURA FINAL: FORM;36+YEH FINAL: FORM;26+NOON FINAL: FORM;26+REH
FINAL: FORM;26+YEH FINAL: FORM;30+ISOLATED: FORM;26+ZAIN FINAL: FORM;16+QAF WITH ALEF MAKSURA FINAL:
FORM;38+ISOLATED: FORM;25+HAH INITIAL: FORM;30+SOLATED: FORM;25+MEEM INITIAL: FORM;31+SOLATED: FORM;
30+WITH HAH FINAL: FORM;39+INITIAL: FORM;35+MEEM FINAL: FORM;35+YEH FINAL: FORM;25+YEH FINAL: FORM;
29+ISOLATED: FORM;18+LA USED AS KORANIC STOP SIGN ISOLATED: FORM;17+UDDISA: SIRRAH;16+RADI ALLAAHU:
ANH ANHAA ANHUM ANHUMAA ANHUNNA;18+HIMAHU: ALLAAH;24+M: ALLAAH;18+SOUL ISOLATED: FORM;17+EH WITH
SUPERSCRIPT ALEF ISOLATED: FORM;16+SAD WITH ALEF MAKSURA FINAL: FORM;38+ISOLATED: FORM;25+HAH
INITIAL: FORM;30+SOLATED: FORM;29+WITH HAH FINAL: FORM;38+INITIAL: FORM;34+YEH FINAL: FORM;25+KHAH
INITIAL: FORM;25+MEEM INITIAL: FORM;31+SOLATED: FORM;30+WITH MEEM FINAL: FORM;40+INITIAL: FORM;
25+REH FINAL: FORM;29+ISOLATED: FORM;25+YEH FINAL: FORM;29+ISOLATED: FORM;18+LAAMUHU: ALAYNAA;20+M
ISOLATED: FORM;19+LA ISOLATED: FORM;22+USED AS KORANIC STOP SIGN ISOLATED: FORM;21+LLAAHU ALAYHI:
WA-AALIH;24+HOU ALAYHE: WASALLAM;25+U ALAYHI WAAALIHEE: WA-SALLAM;17+EEN WITH ALEF MAKSURA FINAL:
FORM;39+ISOLATED: FORM;26+HAH INITIAL: FORM;31+SOLATED: FORM;30+MEDIAL: FORM;30+WITH JEEM INITIAL:
FORM;27+EH INITIAL: FORM;30+MEDIAL: FORM;26+JEEM INITIAL: FORM;32+SOLATED: FORM;31+MEDIAL: FORM;
31+WITH ALEF MAKSURA FINAL: FORM;36+HAH INITIAL: FORM;26+KHAH INITIAL: FORM;32+SOLATED: FORM;
31+MEDIAL: FORM;31+WITH ALEF MAKSURA FINAL: FORM;36+YEH FINAL: FORM;26+MEEM INITIAL: FORM;
32+SOLATED: FORM;31+MEDIAL: FORM;31+WITH HAH FINAL: FORM;40+INITIAL: FORM;36+JEEM INITIAL: FORM;
36+MEEM FINAL: FORM;41+INITIAL: FORM;26+REH FINAL: FORM;30+ISOLATED: FORM;26+YEH FINAL: FORM;
30+ISOLATED: FORM;17+HADDA WITH DAMMA ISOLATED: FORM;34+MEDIAL: FORM;33+TAN ISOLATED: FORM;28+FATHA
ISOLATED: FORM;34+MEDIAL: FORM;28+KASRA ISOLATED: FORM;34+MEDIAL: FORM;33+TAN ISOLATED: FORM;
28+SUPERSCRIPT ALEF ISOLATED: FORM;18+EEN WITH ALEF MAKSURA FINAL: FORM;40+ISOLATED: FORM;27+HAH
FINAL: FORM;31+INITIAL: FORM;32+SOLATED: FORM;31+MEDIAL: FORM;31+WITH MEEM FINAL: FORM;41+INITIAL:
FORM;36+YEH FINAL: FORM;28+EH INITIAL: FORM;31+MEDIAL: FORM;27+JEEM FINAL: FORM;32+INITIAL: FORM;
33+SOLATED: FORM;32+MEDIAL: FORM;32+WITH YEH FINAL: FORM;27+KHAH FINAL: FORM;32+INITIAL: FORM;
33+SOLATED: FORM;32+MEDIAL: FORM;27+MEEM FINAL: FORM;32+INITIAL: FORM;33+SOLATED: FORM;32+MEDIAL:
FORM;32+WITH KHAH FINAL: FORM;42+INITIAL: FORM;37+MEEM FINAL: FORM;42+INITIAL: FORM;27+REH FINAL:
FORM;31+ISOLATED: FORM;27+YEH FINAL: FORM;31+ISOLATED: FORM;17+UBHAANAHU WA: TAAALAA;16+TABAARAKA:
WA-TAAALAA;18+H WITH ALEF MAKSURA FINAL: FORM;38+ISOLATED: FORM;25+HAH INITIAL: FORM;30+SOLATED:
FORM;25+MEEM INITIAL: FORM;31+SOLATED: FORM;30+MEDIAL: FORM;30+WITH HAH FINAL: FORM;39+INITIAL:
FORM;35+MEEM INITIAL: FORM;35+YEH FINAL: FORM;25+YEH FINAL: FORM;29+ISOLATED: FORM;17+EH WITH ALEF
MAKSURA FINAL: FORM;38+ISOLATED: FORM;25+HAH INITIAL: FORM;30+SOLATED: FORM;29+WITH JEEM FINAL:
FORM;39+INITIAL: FORM;34+MEEM INITIAL: FORM;26+EH INITIAL: FORM;29+MEDIAL: FORM;25+JEEM INITIAL:
FORM;31+SOLATED: FORM;30+WITH ALEF MAKSURA FINAL: FORM;35+MEEM INITIAL: FORM;35+YEH FINAL: FORM;
25+KHAH INITIAL: FORM;31+SOLATED: FORM;30+WITH ALEF MAKSURA FINAL: FORM;35+MEEM INITIAL: FORM;35+YEH
FINAL: FORM;25+MEEM FINAL: FORM;30+INITIAL: FORM;31+SOLATED: FORM;30+MEDIAL: FORM;30+WITH ALEF
MAKSURA FINAL: FORM;35+HAH INITIAL: FORM;35+JEEM INITIAL: FORM;35+KHAH INITIAL: FORM;35+YEH FINAL:
FORM;25+NOON FINAL: FORM;25+REH FINAL: FORM;25+YEH FINAL: FORM;29+ISOLATED: FORM;25+ZAIN FINAL:
FORM;17+HAL WITH SUPERSCRIPT ALEF ISOLATED: FORM;18+EH WITH ALEF MAKSURA FINAL: FORM;39+ISOLATED:
FORM;26+HEH MEDIAL: FORM;26+JEEM ISOLATED: FORM;26+MEEM FINAL: FORM;31+INITIAL: FORM;32+SOLATED:
FORM;31+MEDIAL: FORM;26+NOON FINAL: FORM;26+REH FINAL: FORM;26+YEH FINAL: FORM;30+ISOLATED: FORM;
26+ZAIN FINAL: FORM;16+UIGHUR KIRGHIZ YEH WITH HAMZA ABOVE WITH ALEF MAKSURA FINAL: FORM;70+INITIAL:
FORM;71+SOLATED: FORM;16+WASALLAM ISOLATED: FORM;16+YEH WITH ALEF MAKSURA FINAL: FORM;38+ISOLATED:
FORM;25+HAH INITIAL: FORM;30+SOLATED: FORM;29+WITH YEH FINAL: FORM;27+MZA ABOVE WITH AE FINAL: FORM;
45+ISOLATED: FORM;43+LEF FINAL: FORM;47+ISOLATED: FORM;47+MAKSURA FINAL: FORM;55+ISOLATED: FORM;42+E
FINAL: FORM;44+INITIAL: FORM;45+SOLATED: FORM;42+HAH INITIAL: FORM;47+SOLATED: FORM;43+EH INITIAL:
FORM;46+MEDIAL: FORM;42+JEEM INITIAL: FORM;48+SOLATED: FORM;42+KHAH INITIAL: FORM;42+MEEM FINAL:
FORM;47+INITIAL: FORM;48+SOLATED: FORM;47+MEDIAL: FORM;42+NOON FINAL: FORM;42+OE FINAL: FORM;
45+ISOLATED: FORM;42+REH FINAL: FORM;42+U FINAL: FORM;44+ISOLATED: FORM;42+WAW FINAL: FORM;
46+ISOLATED: FORM;42+YEH FINAL: FORM;46+ISOLATED: FORM;43+U FINAL: FORM;45+ISOLATED: FORM;42+ZAIN
FINAL: FORM;26+EH INITIAL: FORM;29+MEDIAL: FORM;25+JEEM INITIAL: FORM;31+SOLATED: FORM;30+WITH YEH
FINAL: FORM;25+KHAH INITIAL: FORM;31+SOLATED: FORM;25+MEEM FINAL: FORM;30+INITIAL: FORM;31+SOLATED:
FORM;30+MEDIAL: FORM;30+WITH MEEM FINAL: FORM;40+INITIAL: FORM;35+YEH FINAL: FORM;25+NOON FINAL:
FORM;25+REH FINAL: FORM;25+YEH FINAL: FORM;29+ISOLATED: FORM;25+ZAIN FINAL: FORM;16+ZAH WITH MEEM
INITIAL: FORM;31+SOLATED: FORM;30+MEDIAL: FORM;7+MADDA: WAAJIB;12+H: ABOVE;9+RK NOON: GHUNNA;
12+SIDEWAYS NOON: GHUNNA;9+THEMATICAL: AIN ALEF BEH DAD DAL FEH GHAIN HAH JEEM KAF KHAH LAM MEEM
NOON QAF REH SAD SEEN SHEEN TAH TEH THAL THEH WAW YEH ZAH ZAIN;19+ DOTLESS: BEH FEH NOON QAF;
22+UBLE-STRUCK: AIN BEH DAD DAL FEH GHAIN HAH JEEM KHAH LAM MEEM NOON QAF REH SAD SEEN SHEEN TAH TEH
THAL THEH WAW YEH ZAH ZAIN;20+INITIAL: AIN BEH DAD FEH GHAIN HAH HEH JEEM KAF KHAH LAM MEEM NOON QAF
SAD SEEN SHEEN TEH THEH YEH;20+LOOPED: AIN ALEF BEH DAD DAL FEH GHAIN HAH HEH JEEM KHAH LAM MEEM
NOON QAF REH SAD SEEN SHEEN TAH TEH THAL THEH WAW YEH ZAH ZAIN;20+OPERATOR HAH WITH: DAL;29+MEEM
WITH HAH WITH: TATWEEL;20+STRETCHED: AIN BEH DAD FEH GHAIN HAH HEH JEEM KAF KHAH MEEM NOON QAF SAD
SEEN SHEEN TAH TEH THEH YEH ZAH;29+ DOTLESS: BEH FEH;20+TAILED: AIN DAD GHAIN HAH JEEM KHAH LAM NOON
QAF SAD SEEN SHEEN YEH;26+ DOTLESS: NOON QAF;7+NUMBER: SIGN;13+ MARK: ABOVE;7+OPEN: DAMMATAN
FATHATAN KASRATAN;7+PERCENT: SIGN;8+IASTRE MARK: ABOVE;8+LACE OF: SAJDAH;8+OETIC VERSE: SIGN;9+UND
MARK: ABOVE;7+QUESTION: MARK;7+RAISED ROUND: DOT;8+EVERSED: DAMMA;8+IGHT ARROWHEAD: ABOVE BELOW;22+
ABOVE WITH: DOT;8+OUNDED HIGH STOP WITH FILLED: CENTRE;7+SHADDA ISOLATED: FORM;14+MEDIAL: FORM;
8+IGN: MISRA SAFHA SAMVAT SANAH TAKHALLUS;11+ ALAYHE: ASSALLAM;12+RADI ALLAHOU: ANHU;14+HMATULLAH:
ALAYHE;12+SALLALLAHOU ALAYHE: WASSALLAM;13+INDHI: AMPERSAND;18+ POSTPOSITION: MEN;8+MALL: DAMMA
FATHA KASRA WAW YEH;12+ FARSI: YEH;13+HIGH: AIN JEEM MADDA NOON QAF SAD SEEN TAH WAW YEH ZAH ZAIN;
17+ DOTLESS HEAD OF: KHAH;18+FARSI: YEH;19+OOTNOTE: MARKER;18+LAM: ALEF;19+IGATURE ALEF WITH LAM
WITH: YEH;27+QAF WITH LAM WITH ALEF: MAKSURA;27+SAD WITH LAM WITH ALEF: MAKSURA;18+MEEM INITIAL:
FORM;24+SOLATED: FORM;18+NOON WITH: KASRA;18+ROUNDED: ZERO;18+SIGN: SAFHA;18+THREE: DOTS;18+UPRIGHT
RECTANGULAR: ZERO;18+WORD: AL-JUZ AN-NISF AR-RUB AS-SAJDA ATH-THALATHA QIF SAH SAKTA WAQFA;18+YEH
BARREE WITH TWO DOTS: BELOW;13+LOW: MEEM SEEN WAW;16+ NOON WITH: KASRA;17+WORD: IMAALA ISHMAAM
TASHEEL;8+TART OF RUB EL: HIZB;8+UBSCRIPT: ALEF;9+KUN: BELOW;12+ ISOLATED: FORM;13+MEDIAL: FORM;
9+PERSCRIPT ALEF: MOKHASSAS;8+YMBOL: RING;13+ DOT: ABOVE BELOW;16+UBLE VERTICAL BAR: BELOW;14+FOUR
DOTS: ABOVE BELOW;14+SMALL TAH: ABOVE BELOW;14+THREE DOTS: ABOVE BELOW;24+ POINTING DOWNWARDS: ABOVE
BELOW;15+WO DOTS: ABOVE BELOW;22+ VERTICALLY: ABOVE BELOW;14+WASLA: ABOVE;7+TAIL: FRAGMENT;9+TWEEL
WITH FATHATAN: ABOVE;20+OVERSTRUCK: HAMZA WAW;20+TWO DOTS: BELOW;8+HOUSANDS: SEPARATOR;8+ONE LOOP:
ABOVE BELOW;12+ONE DOT: ABOVE BELOW;12+TWO DOTS: ABOVE BELOW;8+RIPLE DOT PUNCTUATION: MARK;8+URNED
DAMMA: BELOW;7+VERTICAL: TAIL;8+OWEL SIGN DOT: BELOW;18+INVERTED SMALL V: ABOVE;18+SMALL V: ABOVE;
7+WAVY HAMZA: BELOW;6+-INDIC CUBE: ROOT;13+DIGIT: EIGHT FIVE FOUR NINE ONE SEVEN SIX THREE TWO ZERO;
13+FOURTH: ROOT;13+PER MILLE: SIGN;17+TEN THOUSAND: SIGN;2+MENIAN: APOSTROPHE COMMA HYPHEN;8+
ABBREVIATION: MARK;9+CAPITAL LETTER: AYB BEN CA CHA CHEH CO DA ECH EH ET FEH GHAD GIM HO INI JA JHEH
KEH KEN LIWN MEN NOW OH PEH PIWR RA REH SEH SHA TIWN TO VEW VO XEH YI YIWN ZA ZHE;9+DRAM: SIGN;
9+EMPHASIS: MARK;10+XCLAMATION: MARK;9+FULL: STOP;9+MODIFIER LETTER LEFT HALF: RING;9+QUESTION:
MARK;9+SMALL LETTER: AYB BEN CA CHA CHEH CO DA ECH EH ET FEH GHAD GIM HO INI JA JHEH KEH KEN LIWN
MEN NOW OH PEH PIWR RA REH SEH SHA TIWN TO VEW VO XEH YI YIWN ZA ZHE;21+ TURNED: AYB;22+YI WITH:
STROKE;16+IGATURE ECH: YIWN;24+MEN: ECH INI NOW XEH;24+VEW: NOW;2+ROW POINTING DOWNWARDS THEN
CURVING: LEFTWARDS RIGHTWARDS;15+RIGHTWARDS THEN CURVING: DOWNWARDS UPWARDS;38+ SOUTH: WEST;
15+UPWARDS THEN NORTH: WEST;5+HEAD-SHAPED: POINTER;2+TICULATED: LORRY;4+ST: PALETTE;1+SCENDING:
NODE;3+IA: SYMBOL;2+TERISK: OPERATOR;3+ONISHED: FACE;3+RONOMICAL SYMBOL FOR: URANUS;2+YMPTOTICALLY
EQUAL: TO;1+THLETIC: SHOE;2+OM: SYMBOL;1+USTRAL: SIGN;2+TO: RICKSHAW;4+MATED TELLER: MACHINE;
1+VESTAN ABBREVIATION: MARK;8+LETTER: A AA AAN AAO AE AEE AN AO BE BHE CE DE DHE E EE FE GE GGE GHE
HE HME I II JE KE LE ME NE NGE NGVE NGYE NNE NYE O OO PE RE SE SHE SHYE SSHE TE THE TTE U UU VE XE
XVE XYE YE YYE ZE ZHE;0+BABY: ANGEL BOTTLE CHICK SYMBOL;2+CK OF: ENVELOPE;5+WITH LEFTWARDS ARROW:
ABOVE;4+-TILTED SHADOWED WHITE RIGHTWARDS: ARROW;4+SLANTED SOUTH ARROW WITH HOOKED: TAIL;
31+RIZONTAL: TAIL;3+TRIAN: CAMEL;2+DMINTON RACQUET AND: SHUTTLECOCK;2+GGAGE: CLAIM;3+UETTE: BREAD;
2+LINESE: PAMADA PAMENENG PANTI WINDU;8+ ADEG: ADEG;9+CARIK: PAMUNGKAH PAREREN SIKI;9+DIGIT: EIGHT
FIVE FOUR NINE ONE SEVEN SIX THREE TWO ZERO;9+LETTER: AIKARA AKARA BA CA DA EKARA GA HA IKARA JA KA
LA MA NA NGA NYA OKARA PA RA SA TA UKARA WA YA;15+ AKARA: TEDUNG;17+RCHAIC: JNYA;17+SYURA: SASAK;
16+BA: KEMBANG;16+CA: LACA;16+DA: MADU;18+ MURDA: ALPAPRANA MAHAPRANA;16+EF: SASAK;16+GA: GORA;
16+IKARA: TEDUNG;16+JA: JERA;16+KA: MAHAPRANA;18+F: SASAK;17+HOT: SASAK;16+LA: LENGA;18+ LENGA:
TEDUNG;16+NA: RAMBAT;16+OKARA: TEDUNG;16+PA: KAPAL;16+RA: REPA;18+ REPA: TEDUNG;16+SA: SAGA SAPA;
16+TA: LATIK TAWA;18+ MURDA: MAHAPRANA;17+ZIR: SASAK;16+UKARA: TEDUNG;16+VE: SASAK;16+ZAL: SASAK;
9+MUSICAL SYMBOL: DAENG DAING DANG DENG DEUNG DING DONG DUNG;23+ COMBINING: BENDE ENDEP GONG JEGOGAN
KEMPLI KEMPUL TEGEH;33+ KEMPLI WITH: JEGOGAN;38+UL WITH: JEGOGAN;24+DANG: GEDE SURANG;24+LEFT-HAND
CLOSED: PLAK PLUK;34+OPEN: PANG PING PUNG;24+RIGHT-HAND CLOSED: TAK TUK;35+OPEN: DAG DUG;9+PAMADA:
LANTANG;11+NTI: LANTANG;9+SIGN: BISAH CECEK REREKAN SURANG;13+ ULU: CANDRA RICEM;9+VOWEL SIGN: PEPET
SUKU TALING TEDUNG ULU;19+ LA: LENGA;22+ LENGA: TEDUNG;20+PEPET: TEDUNG;20+RA: REPA;22+ REPA:
TEDUNG;20+SUKU: ILUT;20+TALING: REPA TEDUNG;26+ REPA: TEDUNG;20+ULU: SARI;3+L OF: YARN;4+ET: SHOES;
4+OON-SPOKED: ASTERISK;5+T: BOX X;6+ BOLD SCRIPT: X;9+X WITH: BALLOT CHECK X;15+ BOLD: CHECK;20+
SCRIPT: X;16+LIGHT: X;16+SCRIPT: X;7+SCRIPT: X;2+MUM: COLON COMMA NJAEMLI SEMICOLON;5+ COMBINING
MARK: KOQNDON TUKWENTIS;6+FULL: STOP;6+LETTER: A EE FAAMAE FEE FOM FU I KA KEN KET KEUX KI KO KOGHOM
KOVUU KPA KU KYEE LA LEEEE LI LOQ LU M MA MBAA MBEN MEEEE MEN MI MO MU NA NDAA NGA NGGA NGKWAEN NI
NJAEM NJEE NJUAE NSHA NTEE NTUU NU NUAE NYI O PA PEE PEUX PI PUAE PUE RAE REE REN REUX RIEE RII RU
SAMBA SEUX SHEUX SHII SHO SHU SI SUU TAA TAE TEN TET TI U WA WUE YA YOQ YUQ;12+ PHASE-A: FIRI
GHEUAEGHEUAE GHEUAERAE KAFA KAQ KET KEUKEUTNDA KPOQ KUOQ LAPAQ LOMMAE LU LUAEP MAEKEUP MAEM
MAEMBGBIEE MAEMKPEN MAEMVEUX MAENYI MAESI MANSUAE MBANYI MBAQ MEUNJOMNDEUQ MGBASA MOOMEUT MOOMPUQ
MVEUAENGAM NAQ NDAANGGEUAET NEN NGANGU NGGEN NGKUENZEUM NIKA NJAM NKAARAE NKINDI NSHA NSHIEE NTAP
NTOQPEN NYET NYI PAAM PAARAE PAMSHAE PASHAE PET PUP ROM SEUNYAM SHIRAE SHUENSHUET SHUM SISA SONJAM
SOQ SOT SUU TEUAEN TEUTEUWEN TUAEP UNKNOWN VEE;20+ GBIEE: FON;21+LET: KUT;21+MAP: PIEET;22+ON:
NGGEUAET;21+NAA: MFON;22+DA: LEERAEWA;22+GKUE: MFON;22+TAP: MFAA NTAA;22+YIT: MONGKEUAEQ;22+ZA:
MFON;23+UN: MEUT;21+PA: LEERAEWA;22+ON MFON: PIPAEMBA PIPAEMGBIEE;25+PA NJI: PIPAEMBA PIPAEMGBIEE;
21+SHINDA PA: NJI;23+OQ NSHUT: YUM;21+TITA: MFON;22+U: MAEMBA;21+U YUQ: NAE;19+B: FEE FEUX GHEUGHEN
GHEUGHEUAEM KAM KEUAEM KEUPUQ KEUYEUX KIEEM KIQ LAANAE LET MA MBAARAE MBEURI MBUOQ MEUQ MFIYAQ
MONTIEEN NGGAAM NGGUOQ NGOM NSEN NSHUET NYAEMAE PARUM PEESHI PIT PUNGAAM SAKEUAE SHEUAEQTU SIEE SUE
TAAM VEUM WUAET YEURAE;20+ LAM NSHUT: NYAM;22+OM: NTEUM;21+MA: NJEUAENA NJUQA;22+BA: MAELEE;23+IT:
MBAAKET;22+EUT: NGGEET;22+FON: TEUAEQ;21+NDU: NJAA;22+GGEU: MBU;24+UOQ: LARGE;23+KINDI: MVOP;
22+TIEE: SHEUOQ;22+YI: NTEUM;21+SET: TU;22+HET: NJAQ;21+TU: MAEMGBIEE NSIEE;21+YAFU: LEERAEWA;19+C:
BUNG FUE GBAYI GHAP GHARAE KAA KET KEUKAQ KEUM KEUSEUX KEUSHEUAEP KPARAQ KUT LAM LAP LIQ LU MAEMBA
MAESI MBANYI MBEEKEET MBERAE MBEUM MBEUX MBI MBIRIEEN MBIT MBUAEM MBUE MGBASAQ MIEE MUAE NANSANAQ
NAQ NDAM NDAP NDEUAEREE NDEUT NDIDA NDOMBU NGAQ NGGEN NGGU NGGUEET NGGUM NGGUON NGKAQ NGOM NJAEM
NJAM NJEEEE NJEUX NJUEQ NSA NSEUAEN NSHAQ NSOM NSUN NTAA NTEN NTEUNGBA NZA NZEUM PEN PIN PIRIEEN RU
SETFON SEUX SHIQ SHUEQ SUAET TAASHAE TET TEUTEUX TITUAEP VEUAEPEN VEUX WANGKUOQ WUP YAA YEUQ YUM
YUWOQ;20+ KEN: FATIGUE LAW;22+UOP: NKAARAE;21+MA: KEUAERI NSIEE;22+BAA: CABBAGE-TREE PICKET;
21+NGGUAEN: NYAM;23+KUE: MAEMBA;22+SUOT: NGOM;22+TU: MBIT;22+YIR MKPARAQ: MEUN;21+TITA: YUE;21+YU:
MUOMAE;19+D: FAA FEUFEUAET GHAA GHEUAE KET KEUAETMEUN KEUM KEUP KU KUN KUOM KUQ KWAET KYEE LEEEE LET
LEUAEP LEUM LIEE LOQ LUM M MAENJET MALEERI MBAA MBUO MEEEE MEUN MEUT MFEUAE MFEUT MFIEE MFO MFON
MGBEUN MGBIEE MGBOFUM MONI MU MVOP NDAM NDEE NDEUX NDON NGGAAM NGGAAMAE NGGAP NGGEUX NGGUOM NGGWAEN
NGKAP NGKEUAEQ NGKEURI NGKIEE NGKUN NGKYEE NI NJAP NJEUAEM NJEUT NJI NJIEE NJUEQ NSHEE NSHUT NSIEEP
NSIEET NSUM NTEE NTEUM NTUU NU NYAM NYET NYI NYUE PAP PEE PEUTAE PIP PUQ PUUT RAEM RII SAP SAQ
SEUAEQ SHEE SHEUAE SHEUX SHII SHOQ SHU SOT SUAE SUE SUU TAE TEEEE TEUAEN TEUN TEUT TI TOQ TU TUOT
WAP WUAEN YAEMMAE YEN YUOM YUOP YUWOQ;20+ KEUOT: MBUAE;21+MBAA: SEVEN;21+REN: MUCH OLD;19+E: A FA
FAQ FEE FOM FUE FUET GBET GBEUX GHAAMAE GHET GHEUAE GHEUN GHEUX GHOM I KET KEUAE KEUX KI KO KPEUX
KUET KUOP KUT LAAM LAP LAQ LEUAEM LOM LOON LOOT LOQ LU MA MAE MAEM MAP MAQ MBEE MBEUM MEN MFEUQ MGBA
MGBEN MI MIEE MON MUAE MVI NA NAE NDAP NDIAQ NDIQ NDUN NGA NGEUREUT NGGEEEE NGGEUAE NGGEUAET NGGUP
NGGURAE NGKA NGKAAMI NGKEUAEM NGKEUX NGKUM NGKUP NGOP NGOQ NGUAE NGUAET NJAEMLI NJEE NJEUX NKOM
NSHIEE NSHUE NSHUOP NTAP NTUM NZAQ NZUQ O PAA PAAM PEEM PEUT PEUX PI PIEEQ PIET PO POON PU PUAE PUAQ
PUE PUM RAE RAQ REUX RIMGBA SAA SEE SET SHEUAEQ SHIQ SHO SHOQ SOM SUAEN TAA TAAQ TAM TAQ TEN TEU
TEUAEQ TOO TOON TOQ TUAE TUM TUMAE VEE VEUAE VOM WEUX WUE WUO YAP YEUAE YEUAET YEUM YEUX YIEE YIT
YUAEN YUEQ YUN YUQ;20+ FU: CALL I REMEDY;21+NDAA: SOFTNESS;25+ MY: HOUSE;22+GGUAESHAE: NYAM;22+JEE:
EPOCH;22+YI: BETWEEN CLEAVER;21+PA: PEOPLE PLURAL;21+TAEN: NTEUM;21+YOQ: COVER SWIMMING;19+F: EE FOM
KA KEN KET KO KPA KU KYEE LA LI LOQ M MA MBAA MBEN MEEEE MO NDAA NGGA NGKWAEN NI NJAEM NJUAE NSHA
NTEE NU NUAE NYI PEE PEUX PUAE REE REN REUX RIEE RII RU SAMBA SEUX SHII SHO SHU SI SUU TAA TAE TET U
VUEQ WA WUE YA YOQ;6+QUESTION: MARK;2+NKNOTE WITH DOLLAR: SIGN;14+EURO: SIGN;14+POUND: SIGN;14+YEN:
SIGN;2+R: CHART;3+ OF: SOAP;3+BER: POLE;2+SKETBALL AND: HOOP;3+SA VAH COMBINING HIGH: TONE;24+-LOW:
TONE;20+LOW: TONE;23+-MID: TONE;20+MID: TONE;10+FULL: STOP;10+LETTER: A BA CE DHII DO E EE ENNI FA
GAH GBU HWAH I JO KA KPAH MBE O OO PA SE TO U UWU VU WA WADDA YEIN YIE ZO;2+TAK: PANGOLAT
PANONGONAN;5+ CONSONANT SIGN: H NG;6+LETTER: A BA CA DA GA HA I JA LA MA MBA NA NDA NGA NYA PA RA SA
U WA YA;12+ KARO: BA;13+MANDAILING: HA NA SA;13+NORTHERN: TA;13+PAKPAK: WA;13+SIMALUNGUN: A GA HA LA
MA PA RA SA WA YA;14+OUTHERN: TA;6+SIGN: TOMPI;7+YMBOL BINDU: JUDUL PANGOLAT PINARBORAS;18+ NA:
METEK;6+VOWEL SIGN: E EE I O U;16+ KARO: I O;17+PAKPAK: E;17+U FOR SIMALUNGUN: SA;1+EACH WITH:
UMBRELLA;3+MED ASCENDING MUSICAL: NOTES;7+DESCENDING MUSICAL: NOTES;7+EIGHTH: NOTES;7+SIXTEENTH:
NOTES;3+R: FACE;4+DED: PERSON;3+TING: HEART;2+ER: MUG;2+LL: PEPPER SYMBOL;4+ WITH CANCELLATION:
STROKE;4+HOP: BELL;2+NGALI: ANJI ISSHAR;7+ ABBREVIATION: SIGN;9+U LENGTH: MARK;8+CURRENCY
DENOMINATOR: SIXTEEN;17+NUMERATOR: FOUR ONE THREE TWO;26+ ONE LESS THAN THE: DENOMINATOR;8+DIGIT:
EIGHT FIVE FOUR NINE ONE SEVEN SIX THREE TWO ZERO;8+GANDA: MARK;8+LETTER: A AA AI AU BA BHA CA CHA
DA DDA DDHA DHA E GA GHA HA I II JA JHA KA KHA LA MA NA NGA NNA NYA O PA PHA RA RHA RRA SA SHA SSA
TA THA TTA TTHA U UU YA YYA;14+ KHANDA: TA;15+RA WITH LOWER: DIAGONAL;23+MIDDLE: DIAGONAL;15+VEDIC:
ANUSVARA;16+OCALIC: L LL R RR;8+RUPEE: MARK SIGN;8+SANDHI: MARK;9+IGN: ANUSVARA AVAGRAHA CANDRABINDU
NUKTA VIRAMA VISARGA;8+VOWEL SIGN: AA AI AU E I II O U UU;18+ VOCALIC: L LL R RR;3+T ARROW POINTING
DOWNWARDS THEN NORTH: EAST;4+O: BOX;3+ZENE: RING;7+ RING WITH: CIRCLE;2+T: SYMBOL;2+VERAGE: BOX;
1+HAIKSUKI: DANDA;9+ DIGIT: EIGHT FIVE FOUR NINE ONE SEVEN SIX THREE TWO ZERO;11+OUBLE: DANDA;
10+GAP: FILLER-1 FILLER-2;10+HUNDREDS UNIT: MARK;10+LETTER: A AA AI AU BA BHA CA CHA DA DDA DDHA DHA
E GA GHA HA I II JA JHA KA KHA LA MA NA NGA NNA NYA O PA PHA RA SA SHA SSA TA THA TTA TTHA U UU VA
YA;16+ VOCALIC: L R RR;10+NUMBER: EIGHT EIGHTY FIFTY FIVE FORTY FOUR NINE NINETY ONE SEVEN SEVENTY
SIX SIXTY TEN THIRTY THREE TWENTY TWO;10+SIGN: ANUSVARA AVAGRAHA CANDRABINDU VIRAMA VISARGA;10+VOWEL
SIGN: AA AI AU E I II O U UU;20+ VOCALIC: L R RR;10+WORD: SEPARATOR;1+IG: SOLIDUS;3+ REVERSE:
SOLIDUS;2+LLED: CAP;2+OHAZARD: SIGN;2+RTHDAY: CAKE;2+TCOIN: SIGN;3+ING: LIP;1+LACK: BOWTIE CIRCLE
DIAMOND DROPLET FLAG FLORETTE FOLDER HEART HEXAGON HOURGLASS LOZENGE NIB OCTAGON PARALLELOGRAM
PENNANT PENTAGON PUSHPIN RECTANGLE ROSETTE SCISSORS SNOWMAN SQUARE STAR TELEPHONE TRUCK;5+ CENTRE
WHITE: STAR;7+HESS: BISHOP EQUIHOPPER KING KNIGHT KNIGHT-BISHOP KNIGHT-QUEEN KNIGHT-ROOK PAWN QUEEN
ROOK;11+ BISHOP ROTATED NINETY: DEGREES;27+TWO HUNDRED SEVENTY: DEGREES;12+EQUIHOPPER ROTATED
NINETY: DEGREES;12+KING ROTATED NINETY: DEGREES;25+TWO HUNDRED SEVENTY: DEGREES;13+NIGHT ROTATED
FORTY-FIVE: DEGREES;27+NINETY: DEGREES;27+ONE HUNDRED THIRTY-FIVE: DEGREES;27+THREE HUNDRED FIFTEEN:
DEGREES;28+WO HUNDRED SEVENTY: DEGREES;39+TWENTY-FIVE: DEGREES;12+PAWN ROTATED NINETY: DEGREES;
25+TWO HUNDRED SEVENTY: DEGREES;12+QUEEN ROTATED NINETY: DEGREES;26+TWO HUNDRED SEVENTY: DEGREES;
12+ROOK ROTATED NINETY: DEGREES;25+TWO HUNDRED SEVENTY: DEGREES;12+TURNED: BISHOP KING KNIGHT PAWN
QUEEN ROOK;7+IRCLE FOR: RECORD;13+WITH DOWN: ARROW;18+TWO WHITE: DOTS;18+WHITE DOT: RIGHT;7+LUB:
SUIT;7+ROSS ON: SHIELD;7+URVED DOWNWARDS AND LEFTWARDS: ARROW;27+RIGHTWARDS: ARROW;13+LEFTWARDS AND
DOWNWARDS: ARROW;27+UPWARDS: ARROW;13+RIGHTWARDS AND DOWNWARDS: ARROW;28+UPWARDS: ARROW;13+UPWARDS
AND LEFTWARDS: ARROW;25+RIGHTWARDS: ARROW;6+DIAMOND: CENTRED SUIT;13+ MINUS WHITE: X;14+ON: CROSS;
14+WITH DOWN: ARROW;7+OWN POINTING BACKHAND: INDEX;10+-POINTING: TRIANGLE;19+ DOUBLE: TRIANGLE;
20+ISOSCELES RIGHT: TRIANGLE;20+SMALL: TRIANGLE;10+WARDS EQUILATERAL: ARROWHEAD;7+RAUGHTS: KING MAN;
6+FOUR POINTED: STAR;6+HARD SHELL FLOPPY: DISK;7+EART: SUIT;7+ORIZONTAL: ELLIPSE;6+LARGE: CIRCLE
SQUARE;7+EFT LANE: MERGE;11+POINTING: INDEX;19+ BACKHAND: INDEX;10+-POINTING: POINTER TRIANGLE;19+
DOUBLE: TRIANGLE;26+ TRIANGLE WITH VERTICAL: BAR;20+ISOSCELES RIGHT: TRIANGLE;20+SMALL: TRIANGLE;
10+WARDS: BULLET;15+ EQUILATERAL: ARROWHEAD;7+OWER LEFT: TRIANGLE;12+RIGHT: TRIANGLE;6+MEDIUM:
DIAMOND LOZENGE SQUARE;12+ DOWN-POINTING: TRIANGLE;26+ TRIANGLE: CENTRED;13+LEFT-POINTING: TRIANGLE;
26+ TRIANGLE: CENTRED;13+RIGHT-POINTING: TRIANGLE;27+ TRIANGLE: CENTRED;13+SMALL: DIAMOND LOZENGE
SQUARE;13+UP-POINTING: TRIANGLE;24+ TRIANGLE: CENTRED;7+OON: LILITH;6+QUESTION MARK: ORNAMENT;
6+RIGHT POINTING: INDEX;20+ BACKHAND: INDEX;11+-POINTING: PENTAGON POINTER TRIANGLE;20+ DOUBLE:
TRIANGLE;27+ TRIANGLE WITH VERTICAL: BAR;21+ISOSCELES RIGHT: TRIANGLE;21+SMALL: TRIANGLE;21+TRIANGLE
WITH DOUBLE VERTICAL: BAR;11+WARDS: ARROW ARROWHEAD BULLET;16+ EQUILATERAL: ARROWHEAD;6+SAFETY:
SCISSORS;7+HOGI: PIECE;7+KULL AND: CROSSBONES;7+LIGHTLY SMALL: CIRCLE SQUARE;7+MALL: DIAMOND LOZENGE
SQUARE STAR;8+ILING: FACE;7+PADE: SUIT;7+QUARE: BUTTON CENTRED;12+ FOR: STOP;7+UN WITH: RAYS;6+TINY:
DIAMOND LOZENGE SQUARE;7+OUCHTONE: TELEPHONE;7+WO-WAY LEFT WAY: TRAFFIC;6+UNIVERSAL RECYCLING:
SYMBOL;7+P POINTING BACKHAND: INDEX;8+-POINTING: TRIANGLE;17+ DOUBLE: TRIANGLE;18+ISOSCELES RIGHT:
TRIANGLE;18+SMALL: TRIANGLE;8+PER LEFT: TRIANGLE;12+RIGHT: TRIANGLE;8+WARDS EQUILATERAL: ARROWHEAD;
6+VERTICAL: ELLIPSE RECTANGLE;9+Y SMALL: DIAMOND LOZENGE SQUARE;5+-FEATHERED NORTH EAST: ARROW;
16+RIGHTWARDS: ARROW;16+SOUTH EAST: ARROW;6+LETTER CAPITAL: C H I R Z;3+NK: SYMBOL;2+OCK:
SEXTANT-12345 SEXTANT-12346 SEXTANT-1234~1236 SEXTANT-12356 SEXTANT-123~126 SEXTANT-1245
SEXTANT-12456 SEXTANT-1246 SEXTANT-1256 SEXTANT-12~16 SEXTANT-134 SEXTANT-1345 SEXTANT-13456
SEXTANT-1346 SEXTANT-1356 SEXTANT-136 SEXTANT-145 SEXTANT-1456 SEXTANT-146 SEXTANT-156 SEXTANT-1~6
SEXTANT-2345 SEXTANT-23456 SEXTANT-2346 SEXTANT-234~236 SEXTANT-2356 SEXTANT-23~26 SEXTANT-245
SEXTANT-2456 SEXTANT-256 SEXTANT-345 SEXTANT-3456 SEXTANT-346 SEXTANT-34~36 SEXTANT-356 SEXTANT-45
SEXTANT-456 SEXTANT-46 SEXTANT-56;2+UE: BOOK HEART;1+OLD: SALTIRE;4+ EIGHT SPOKED: ASTERISK;5+FIVE
SPOKED: ASTERISK;5+GREEK: CROSS;5+SIX SPOKED: ASTERISK;5+WHITE: CIRCLE SQUARE;2+OKMARK: TABS;
2+POMOFO FINAL LETTER: G H K P T;9+LETTER: A AH AI AINN AM AN ANG ANN AU AUNN B BU C CH D E EE EH EI
EN ENG ENN ER F G GH GN GU GW H I IH IM INN INNN IR IU J JI K KW L LH M N NG NGG NN O OE OM ONG ONN
OO OU P Q R S SH T U UNN V X Z ZH ZI ZY;15+ O WITH DOT: ABOVE;2+TTLE WITH POPPING: CORK;4+OM:
PARENTHESIS;6+ ARC ANTICLOCKWISE: ARROW;7+CURLY: BRACKET;7+HALF: INTEGRAL;11+ BLACK: CIRCLE;12+LEFT:
PARENTHESIS;12+RIGHT: PARENTHESIS;7+LEFT: CORNER CROP;11+ HALF: BRACKET;7+RIGHT: CORNER CROP;12+
HALF: BRACKET;7+SQUARE: BRACKET;13+ BRACKET OVER TOP SQUARE: BRACKET;7+TORTOISE SHELL: BRACKET;
2+UQUET OF: FLOWERS;2+W AND: ARROW;3+L OF: HYGIEIA;5+WITH: SPOON;3+TIE WITH LEFT HALF: BLACK;
12+RIGHT HALF: BLACK;2+X DRAWINGS DOUBLE: HORIZONTAL VERTICAL;19+ DOWN AND: HORIZONTAL LEFT RIGHT;
20+UP AND: HORIZONTAL LEFT RIGHT;20+VERTICAL AND: HORIZONTAL LEFT RIGHT;15+WN DOUBLE AND HORIZONTAL:
SINGLE;29+LEFT: SINGLE;29+RIGHT: SINGLE;18+HEAVY AND HORIZONTAL: LIGHT;28+LEFT: LIGHT;32+ UP: LIGHT;
28+RIGHT: LIGHT;33+ UP: LIGHT;28+UP HORIZONTAL: LIGHT;18+LIGHT AND HORIZONTAL: HEAVY;28+LEFT: HEAVY;
32+ UP: HEAVY;28+RIGHT: HEAVY;33+ UP: HEAVY;28+UP HORIZONTAL: HEAVY;18+SINGLE AND HORIZONTAL:
DOUBLE;29+LEFT: DOUBLE;29+RIGHT: DOUBLE;13+HEAVY: DOWN HORIZONTAL LEFT RIGHT UP VERTICAL;18+ DOUBLE
DASH: HORIZONTAL VERTICAL;21+WN AND: HORIZONTAL LEFT RIGHT;19+LEFT AND LIGHT: RIGHT;19+QUADRUPLE
DASH: HORIZONTAL VERTICAL;19+TRIPLE DASH: HORIZONTAL VERTICAL;19+UP AND: HORIZONTAL LEFT RIGHT;25+
LIGHT: DOWN;19+VERTICAL AND: HORIZONTAL LEFT RIGHT;13+LEFT DOWN HEAVY AND RIGHT UP: LIGHT;18+HEAVY
AND RIGHT DOWN: LIGHT;34+UP: LIGHT;34+VERTICAL: LIGHT;18+LIGHT AND RIGHT DOWN: HEAVY;34+UP: HEAVY;
34+VERTICAL: HEAVY;18+UP HEAVY AND RIGHT DOWN: LIGHT;14+IGHT: DOWN HORIZONTAL LEFT RIGHT UP
VERTICAL;18+ ARC DOWN AND: LEFT RIGHT;23+UP AND: LEFT RIGHT;19+DIAGONAL: CROSS DIAMOND;27+ MIDDLE
LEFT TO LOWER: CENTRE;48+ CENTRE TO MIDDLE: RIGHT;43+UPPER CENTRE TO MIDDLE: RIGHT;65+ RIGHT TO
LOWER: CENTRE;35+RIGHT TO LOWER: CENTRE;44+UPPER CENTRE TO MIDDLE LEFT TO LOWER: CENTRE;28+UPPER
CENTRE TO MIDDLE: LEFT RIGHT;50+ LEFT AND MIDDLE RIGHT TO LOWER: CENTRE;56+TO LOWER: CENTRE;64+
CENTRE TO MIDDLE: RIGHT;51+RIGHT AND MIDDLE LEFT TO LOWER: CENTRE;57+TO LOWER: CENTRE;65+ CENTRE TO
MIDDLE: LEFT;34+LEFT TO LOWER: RIGHT;34+RIGHT TO LOWER: LEFT;20+OUBLE DASH: HORIZONTAL VERTICAL;
21+WN AND: HORIZONTAL LEFT RIGHT;19+HORIZONTAL WITH VERTICAL: STROKE;19+LEFT AND HEAVY: RIGHT;
19+QUADRUPLE DASH: HORIZONTAL VERTICAL;19+TRIPLE DASH: HORIZONTAL VERTICAL;19+UP AND: HORIZONTAL
LEFT RIGHT;25+ HEAVY: DOWN;19+VERTICAL AND: HORIZONTAL LEFT RIGHT;13+RIGHT DOWN HEAVY AND LEFT UP:
LIGHT;19+HEAVY AND LEFT DOWN: LIGHT;34+UP: LIGHT;34+VERTICAL: LIGHT;19+LIGHT AND LEFT DOWN: HEAVY;
34+UP: HEAVY;34+VERTICAL: HEAVY;19+UP HEAVY AND LEFT DOWN: LIGHT;13+UP DOUBLE AND HORIZONTAL:
SINGLE;27+LEFT: SINGLE;27+RIGHT: SINGLE;16+HEAVY AND DOWN HORIZONTAL: LIGHT;26+HORIZONTAL: LIGHT;
26+LEFT: LIGHT;30+ DOWN: LIGHT;26+RIGHT: LIGHT;31+ DOWN: LIGHT;16+LIGHT AND DOWN HORIZONTAL: HEAVY;
26+HORIZONTAL: HEAVY;26+LEFT: HEAVY;30+ DOWN: HEAVY;26+RIGHT: HEAVY;31+ DOWN: HEAVY;16+SINGLE AND
HORIZONTAL: DOUBLE;27+LEFT: DOUBLE;27+RIGHT: DOUBLE;13+VERTICAL DOUBLE AND HORIZONTAL: SINGLE;
33+LEFT: SINGLE;33+RIGHT: SINGLE;22+HEAVY AND HORIZONTAL: LIGHT;32+LEFT: LIGHT;32+RIGHT: LIGHT;
22+LIGHT AND HORIZONTAL: HEAVY;32+LEFT: HEAVY;32+RIGHT: HEAVY;22+SINGLE AND HORIZONTAL: DOUBLE;
33+LEFT: DOUBLE;33+RIGHT: DOUBLE;3+ING: GLOVE;2+YS: SYMBOL;1+RAHMI: DANDA VIRAMA;6+ DIGIT: EIGHT
FIVE FOUR NINE ONE SEVEN SIX THREE TWO ZERO;8+OUBLE: DANDA;7+LETTER: A AA AI AU BA BHA CA CHA DA DDA
DDHA DHA E GA GHA HA I II JA JHA KA KHA LA LLA MA NA NGA NNA NYA O PA PHA RA SA SHA SSA TA THA TTA
TTHA U UU VA YA;13+ OLD TAMIL: LLA LLLA NNNA RRA;23+ SHORT: E O;14+VOCALIC: L LL R RR;7+NUMBER:
EIGHT EIGHTY FIFTY FIVE FORTY FOUR JOINER NINE NINETY ONE SEVEN SEVENTY SIX SIXTY TEN THIRTY THREE
TWENTY TWO;13+ ONE: HUNDRED THOUSAND;7+PUNCTUATION: DOT LINE LOTUS;18+ CRESCENT: BAR;19+DOUBLE: DOT;
7+SIGN: ANUSVARA CANDRABINDU JIHVAMULIYA UPADHMANIYA VISARGA;11+ OLD TAMIL: VIRAMA;7+VOWEL SIGN: AA
AI AU E I II O U UU;17+ BHATTIPROLU: AA;18+OLD TAMIL SHORT: E O;18+VOCALIC: L LL R RR;3+ILLE
PATTERN: BLANK DOTS-1234567 DOTS-12345678 DOTS-1234568 DOTS-123456~123458 DOTS-1234578
DOTS-12345~12348 DOTS-123467 DOTS-1234678 DOTS-123468 DOTS-123478 DOTS-1234~1238 DOTS-123567
DOTS-1235678 DOTS-123568 DOTS-12356~12358 DOTS-123578 DOTS-12367 DOTS-123678 DOTS-12368 DOTS-12378
DOTS-123~128 DOTS-124567 DOTS-1245678 DOTS-124568 DOTS-12456~12458 DOTS-124578 DOTS-1245~1248
DOTS-12467 DOTS-124678 DOTS-12468 DOTS-12478 DOTS-12567 DOTS-125678 DOTS-12568 DOTS-1256~1258
DOTS-12578 DOTS-1267 DOTS-12678 DOTS-1268 DOTS-1278 DOTS-12~18 DOTS-134567 DOTS-1345678 DOTS-134568
DOTS-13456~13458 DOTS-134578 DOTS-1345~1348 DOTS-13467 DOTS-134678 DOTS-13468 DOTS-13478
DOTS-134~138 DOTS-13567 DOTS-135678 DOTS-13568 DOTS-1356~1358 DOTS-13578 DOTS-1367 DOTS-13678
DOTS-1368 DOTS-1378 DOTS-14567 DOTS-145678 DOTS-14568 DOTS-1456~1458 DOTS-14578 DOTS-145~148
DOTS-1467 DOTS-14678 DOTS-1468 DOTS-1478 DOTS-1567 DOTS-15678 DOTS-1568 DOTS-156~158 DOTS-1578
DOTS-167 DOTS-1678 DOTS-168 DOTS-178 DOTS-1~8 DOTS-234567 DOTS-2345678 DOTS-234568 DOTS-23456~23458
DOTS-234578 DOTS-2345~2348 DOTS-23467 DOTS-234678 DOTS-23468 DOTS-23478 DOTS-234~238 DOTS-23567
DOTS-235678 DOTS-23568 DOTS-2356~2358 DOTS-23578 DOTS-2367 DOTS-23678 DOTS-2368 DOTS-2378 DOTS-23~28
DOTS-24567 DOTS-245678 DOTS-24568 DOTS-2456~2458 DOTS-24578 DOTS-245~248 DOTS-2467 DOTS-24678
DOTS-2468 DOTS-2478 DOTS-2567 DOTS-25678 DOTS-2568 DOTS-256~258 DOTS-2578 DOTS-267 DOTS-2678
DOTS-268 DOTS-278 DOTS-34567 DOTS-345678 DOTS-34568 DOTS-3456~3458 DOTS-34578 DOTS-345~348 DOTS-3467
DOTS-34678 DOTS-3468 DOTS-3478 DOTS-34~38 DOTS-3567 DOTS-35678 DOTS-3568 DOTS-356~358 DOTS-3578
DOTS-367 DOTS-3678 DOTS-368 DOTS-378 DOTS-4567 DOTS-45678 DOTS-4568 DOTS-456~458 DOTS-4578
DOTS-45~48 DOTS-467 DOTS-4678 DOTS-468 DOTS-478 DOTS-567 DOTS-5678 DOTS-568 DOTS-56~58 DOTS-578
DOTS-67 DOTS-678 DOTS-68 DOTS-78;2+EAK PERMITTED: HERE;2+IDE WITH: VEIL;4+GE AT: NIGHT;2+OKEN: BAR
HEART;6+ CIRCLE WITH NORTHWEST: ARROW;3+WN: HEART;1+UBBLE: TEA;2+GINESE: PALLAWA;8+ END OF: SECTION;
9+LETTER: A BA CA DA GA HA JA KA LA MA MPA NA NGA NGKA NRA NYA NYCA PA RA SA TA VA YA;9+VOWEL SIGN:
AE E I O U;2+HID LETTER: A BA DA GA HA I KA LA MA NA NGA PA RA SA TA U WA YA;6+VOWEL SIGN: I U;
2+ILDING: CONSTRUCTION;2+LLET: OPERATOR;4+HORN WITH SOUND: WAVES;2+S: STOP;3+T IN: SILHOUETTE;4+S
IN: SILHOUETTE;1+YTE ORDER: MARK;2+ZANTINE MUSICAL SYMBOL: ANATRICHISMA ANTIKENOKYLISMA ANTIKENOMA
APLI APOSTROFOS APOTHEMA ARGON ARGOSYNTHETON CHAMILI CHAMILON DASEIA DIARGON DIGORGON DIPLI DYO
EKSTREPTON ELAFRON ENDOFONON EPEGERMA GORGOSYNTHETON GRONTHISMATA ICHADIN IMIDIARGON IMIFONON
IMIFTHORA IMIFTHORON KATAVASMA KATHISTI KENTIMATA KLASMA KONTEVMA KORONIS KOUFISMA KRATIMATA
KRATIMOKOUFISMA KRATIMOYPORROON KREMASTI KYLISMA LEMOI LYGISMA NANA OMALON PARAKLITIKI PARICHON
PELASTON PERISPOMENI PETASMA PETASTI PETASTOKOUFISMA PSIFISTOLYGISMA PSIFISTON PSIFISTOPARAKALESMA
PSIFISTOSYNAGMA PSILI PSILON RAPISMA REVMA SAXIMATA SEISMA STAVROS STIGMA STRAGGISMATA SYNEVMA SYRMA
SYRMATIKI TELEIA TESSERA TETRAPLI THEMA THITA TINAGMA TRIA TRIGORGON TRIPLI TROMIKOLYGISMA
TROMIKOPARAKALESMA TROMIKOPSIFISTON TROMIKOSYNAGMA VATHY YPOKRISIS YPORROI YPSILI;24+ AGOGI: ARGI
ARGOTERI GORGI GORGOTERI MESI METRIA;30+ POLI: ARGI GORGI;26+PESO: EKFONITIKON;30+ EXO: NEO;
27+ODERMA: ARCHAION NEO;28+STROFOI SYNDESMOS: NEO;36+TELOUS: ICHIMATOS;34+S: DIPLI NEO;26+RKTIKO: DI
GA KE NI PA VOU ZO;25+CHOREVMA: ARCHAION NEO;27+ROA: KLITON SPATHI ZYGOS;25+DIASTOLI: DIPLI THESEOS;
33+ APLI: MEGALI MIKRI;27+ESIS: TETARTIMORION TRITIMORION;31+ APLI DYO: DODEKATA;32+DIGRAMMOS EX:
DODEKATA;32+MONOGRAMMOS TESSERA: DODEKATA;32+TRIGRAMMOS OKTO: DODEKATA;27+FTOGGOS: OU;27+GORGON
PARESTIGMENON: DEXIA;47+ ARISTERA: ANO KATO;28+RAMMA: GG;27+PLI: ARCHAION;25+ENARXIS KAI FTHORA:
VOU;26+TERON: ARGOSYNTHETON PARAKALESMA;26+XO: EKFONITIKON;25+FANEROSIS: DIFONIAS MONOFONIAS
TETRAFONIAS;26+HTORA SKLIRON CHROMA: VASIS;26+THORA: ARCHAION NENANO;31+ ARCHAION DEYTEROU: ICHOU;
32+DIATONIKI: DI KE NANA PA ZO;41+ NI: ANO KATO;32+ENARMONIOS: ANTIFONIA;32+I YFESIS: TETARTIMORION;
32+MALAKON CHROMA: DIFONIAS MONOFONIAS;32+NAOS: ICHOS;32+SKLIRON CHROMA: SYNAFI VASIS;40+DIATONON:
DI;25+GENIKI: DIESIS YFESIS;26+ORGON: ARCHAION;31+ NEO: ANO KATO;32+PARESTIGMENON: ARISTERA DEXIA;
28+THMIKON N: APLOUN DIPLOUN;25+ISAKIA TELOUS: ICHIMATOS;27+ON: ARCHAION NEO;25+KATAVA: TROMIKON;
26+ENTIMA: ARCHAION;32+ NEO: ANO KATO MESO;32+TA: ARCHAION;34+ NEO: ANO KATO MESO;26+LASMA: ANO
KATO;26+ONTEVMA: ALLO;26+RATIMA: ALLO ARCHAION NEO;25+LEIMMA DYO: CHRONON;32+ENOS: CHRONOU;
32+IMISEOS: CHRONOU;32+TESSARON: CHRONON;33+RION: CHRONON;25+MARTYRIA: TRIFONIAS;33+ ALLI DEYTEROS:
ICHOS;39+PROTOS: ICHOS;34+DEYTEROS: ICHOS;34+LEGETOS: ICHOS;34+PLAGIOS: ICHOS;41+ TETARTOS: ICHOS;
35+ROTOS: ICHOS;39+VARYS: ICHOS;34+TETARTOS: ICHOS;42+ LEGETOS: ICHOS;35+RITOS: ICHOS;34+VARYS:
ICHOS;26+IKRON: ISON;25+OLIGON: ARCHAION NEO;26+XEIA: DIPLI EKFONITIKON NEO;30+I: ARCHAION;
26+YRANISMA: ARCHAION NEO;25+PARAKALESMA: ARCHAION NEO;30+LITIKI: ARCHAION NEO;26+ELASTON: NEO;
26+IASMA: ARCHAION NEO;26+SIFISTON: NEO;25+SEISMA: NEO;26+IMANSIS: ARSEOS THESEOS;33+ ARSEOS:
DISIMOU TETRASIMOU TRISIMOU;34+THESEOS: DISIMOU TETRASIMOU TRISIMOU;26+TAVROS: APODEXIA;26+YNAGMA:
ARCHAION NEO;32+ META: STAVROU;25+THEMA: APLOUN;30+TISMOS: ESO EXO;28+S KAI: APOTHES;26+ROMIKON:
ALLO ARCHAION NEO;25+VAREIA: DIPLI EKFONITIKON NEO;31+I: ARCHAION;25+XIRON: KLASMA;25+YFEN: ANO
KATO;28+SIS: TRITIMORION;31+ APLI DYO: DODEKATA;32+DIGRAMMOS EX: DODEKATA;32+MONOGRAMMOS TESSERA:
DODEKATA;32+TRIGRAMMOS OKTO: DODEKATA;26+POKRISIS: DIPLI;0+CADA: UNA;2+LL ME: HAND;2+MERA WITH:
FLASH;2+NADIAN SYLLABICS: A AA AAI AAY AI AN AY C CA CAA CAAI CE CI CII CO COO CWA CWAA CWE CWI CWII
CWO CWOO E EN F FA FAA FAAI FE FI FII FO FOO FWAA HK HYPHEN I II IN K KA KAA KAAI KAY KE KI KII KO
KOO KW KWA KWAA KWAY KWE KWI KWII KWO KWOO L LA LAA LAAI LAY LE LH LHA LHAA LHI LHII LHO LHOO LI LII
LO LOO LWA LWAA LWE LWI LWII LWO LWOO M MA MAA MAAI MAY ME MH MI MII MO MOO MWA MWAA MWE MWI MWII
MWO MWOO N NA NAA NAAI NAY NE NG NGA NGAA NGAAI NGAI NGI NGII NGO NGOO NH NI NII NNG NNGA NNGAA NNGI
NNGII NNGO NNGOO NO NOO NOY NWA NWAA NWE NWI NWII NWO NWOO O ON OO OY P PA PAA PAAI PAY PE PI PII PO
POO POY PWA PWAA PWE PWI PWII PWO PWOO PWOY Q QA QAA QAAI QAI QI QII QO QOO R RA RAA RAAI RAY RE RI
RII RO ROO RWA RWAA RWEE RWI RWII RWO RWOO S SA SAA SAAI SAY SE SH SHA SHAA SHAY SHE SHI SHII SHO
SHOO SHOY SHWA SHWAA SHWE SHWI SHWII SHWO SHWOO SHWOY SI SII SO SOO SOY SPA SPE SPI SPO SW SWA SWAA
SWE SWI SWII SWO SWOO T TA TAA TAAI TAY TE TH THA THAA THE THI THII THO THOO THWA THWAA THWE TI TII
TLHA TLHE TLHI TLHO TLHOO TLHWE TO TOO TTA TTE TTH TTHA TTHAA TTHE TTHI TTHO TTHOO TTHWE TTI TTO TWA
TWAA TWE TWI TWII TWO TWOO TYA TYE TYI TYO WA WAA WAY WE WI WII WO WOO Y YA YAA YAAI YAY YE YI YII
YO YOO YOY YWA YWAA YWE YWI YWII YWO YWOO;18+ AIVILIK: B;20+THAPASCAN: M S;19+BEAVER DENE: L R;
20+IBLE-CREE: Y;20+LACKFOOT: A E I KA KE KI KO NA NE NI NO O S W WA WE WI WO;19+CARRIER: CHA CHE
CHEE CHI CHO CHU DEE DI DLA DLE DLEE DLI DLO DLU DZA DZE DZEE DZI DZO DZU EE GA GAA GE GEE GHA GHE
GHEE GHI GHO GHU GI GO GU GWA GWU H HEE HI HWA HWE HWEE HWI HWO HWU I JA JE JEE JI JJA JJE JJEE JJI
JJO JJU JO JU JWA KHA KHE KHEE KHI KHO KHU KK KKA KKE KKEE KKI KKO KKU LA LE LEE LHA LHE LHEE LHI
LHO LHU LI LO LU MA ME MEE MI MO MU NA NE NEE NG NI NO NU P PA PE PEE PI PO PU RA RE REE RI RO RU SA
SE SEE SH SHA SHE SHEE SHI SHO SHU SI SO SU THA THE THEE THI THO THU TLA TLE TLEE TLHA TLHE TLHEE
TLHI TLHO TLHU TLI TLO TLU TSA TSE TSEE TSI TSO TSU TTA TTE TTEE TTI TTO TTSA TTSE TTSEE TTSI TTSO
TTSU TTU WA WE WEE WI WO WU YA YE YEE YI YO YU Z ZA ZE ZEE ZI ZO ZU;26+ DENE: GEE;30+TAL: S;
27+INITIAL: Z;20+HI: SIGN;19+EASTERN: W;19+FINAL: ACUTE GRAVE PLUS RING;24+ BOTTOM HALF: RING;
25+DOUBLE: ACUTE;31+ SHORT VERTICAL: STROKES;27+WN: TACK;25+MIDDLE: DOT;25+RAISED: DOT;26+IGHT HALF:
RING;25+SHORT HORIZONTAL: STROKE;26+MALL: RING;25+TOP HALF: RING;20+ULL: STOP;19+GLOTTAL: STOP;
19+MEDIAL: L R;20+OOSE-CREE: SK;19+N-CREE: THE THI THII;20+ASKAPI: CWAA KWAA MWAA NWAA S-W SCWA SKW
SKWA SPWA STWA SWAA TWAA WAA WOO YWAA;21+TTILIK: HA HAA HI HII HO HOO SHRA SHRAA SHRI SHRII SHRO
SHROO;20+UNAVIK: H HA HAA HE HI HII HO HOO;24+UT: H;19+OJIBWAY: C K M N NWI NWII NWO NWOO P S SH T;
19+R-CREE: RE RWE;19+SAYISI: HA HE HI HO HOO JI JU JUU M SHA SHE SHI SHO SHOO SHWE TH YI;
20+OUTH-SLAVEY: KAH KEH KIH KOH;19+TH-CREE: TH THA THAA THE THI THII THO THOO;19+WEST-CREE: CWA CWAA
CWE CWI CWII CWO CWOO FWAA KWA KWAA KWE KWI KWII KWO KWOO L LA LAA LE LO LOO LWA LWAA LWE LWI LWII
LWO LWOO M MWA MWAA MWE MWI MWII MWO MWOO NWA NWAA NWE P PWA PWAA PWE PWI PWII PWO PWOO R RA RE RI
RO RWAA SHWA SHWAA SHWE SHWI SHWII SHWO SHWOO SWA SWAA SWE SWI SWII SWO SWOO THWAA TWA TWAA TWE TWI
TWII TWO TWOO WA WAA WE WI WII WO WOO Y YWA YWAA YWE YWI YWII YWO YWOO;23+ERN: W;20+OODS-CREE: TH
THA THE THI THO THWA THWAA THWEE THWI THWII THWO THWOO;29+ FINAL: TH;19+Y-CREE: COO KOO LOO MOO NOO
OO POO PWAA SOO TOO W YOO;3+CEL: CHARACTER TAG;6+LATION: X;3+NED: FOOD;2+R: SLIDING;3+D: INDEX;4+
FILE: BOX;5+INDEX: DIVIDERS;3+E: OF;4+T INSERTION: POINT;3+IAN LETTER: A A2 B C-18 C-39 D D2 E E2 G
G2 I II K K2 L LD LD2 M MB MB2~4 N ND NG NN O P P2 Q R RR S SH SH2 SS ST ST2 T TT TT2 U UU UUU UUU2
UUU3 UUUU X;3+OUSEL: HORSE;3+P: STREAMER;4+ENTRY: SAW;3+RIAGE: RETURN;2+T: FACE;3+ FACE WITH TEARS
OF: JOY;14+WRY: SMILE;2+UCASIAN ALBANIAN CITATION: MARK;19+LETTER: ALT AOR BET CAR CAYN CHA CHAT CHI
CHOY CYAW CYAY DAT DYAN DZAY DZYAY EB EYN FAM GHEYS GIM HEYT INYA IRB IWN JAYN JHOX KAR KIW LAN LYIT
MAQ NOWC ON PEN PIWR QAR QAY RAT SEYK SHA SHAK SHOY TAS TIWR TYAY VEYZ XEYN YAYD YOWD ZARL ZHA ZHIL;
3+TION: SIGN;1+EDI: SIGN;2+LTIC: CROSS;2+NT: SIGN;4+RE LINE: SYMBOL;6+LINE: OVERLINE;10+ LOW: LINE;
1+HAKMA: DANDA MAAYYAA VIRAMA;6+ AU: MARK;7+DIGIT: EIGHT FIVE FOUR NINE ONE SEVEN SIX THREE TWO
ZERO;8+OUBLE: DANDA;7+LETTER: AA BAA BHAA CAA CHAA DAA DDAA DDHAA DHAA E GAA GHAA HAA I JAA JHAA KAA
KHAA LAA LHAA MAA NAA NGAA NNAA NYAA PAA PHAA RAA SAA TAA THAA TTAA TTHAA U VAA WAA YAA YYAA;7+O:
MARK;7+QUESTION: MARK;7+SECTION: MARK;8+IGN: ANUSVARA CANDRABINDU VISARGA;7+VOWEL SIGN: A AA AI AU E
EI I II O OI U UU;3+M CONSONANT SIGN: LA RA WA YA;19+ FINAL: H M NG;5+DIGIT: EIGHT FIVE FOUR NINE
ONE SEVEN SIX THREE TWO ZERO;5+LETTER: A AI BA BBA BHA CHA CHHA DA DDA DHA E GA GHA HA I JA JHA KA
KHA LA MA MUE NA NGA NGUE NHA NHJA NHUE NUE O PA PHA PPA RA SA SSA TA THA U VA YA;11+ FINAL: CH G K
L N NG P R SS T Y;5+PUNCTUATION: DANDA SPIRAL;16+ DOUBLE: DANDA;17+TRIPLE: DANDA;5+VOWEL SIGN: AA AI
AU EI I II O OE U UE;3+RACTER: TABULATION TIE;9+ TABULATION: SET;20+ WITH: JUSTIFICATION;4+T WITH
DOWNWARDS: TREND;11+UPWARDS: TREND;18+ TREND AND YEN: SIGN;2+ECK: MARK;5+ER: BOARD;7+ BOARD: FILL;
3+ERING: MEGAPHONE;4+SE: WEDGE;3+QUERED: FLAG;3+ROKEE LETTER: A DA DE DI DLA DO DU DV E GA GE GI GO
GU GV HA HE HI HNA HO HU HV I KA LA LE LI LO LU LV MA ME MI MO MU MV NA NAH NE NI NO NU NV O QUA QUE
QUI QUO QUU QUV S SA SE SI SO SU SV TA TE TI TLA TLE TLI TLO TLU TLV TSA TSE TSI TSO TSU TSV U V WA
WE WI WO WU WV YA YE YI YO YU YV;9+SMALL LETTER: A DA DE DI DLA DO DU DV E GA GE GI GO GU GV HA HE
HI HNA HO HU HV I KA LA LE LI LO LU LV MA ME MI MO MU MV NA NAH NE NI NO NU NV O QUA QUE QUI QUO QUU
QUV S SA SE SI SO SU SV TA TE TI TLA TLE TLI TLO TLU TLV TSA TSE TSI TSO TSU TSV U V WA WE WI WO WU
WV YA YE YI YO YU YV;4+RY: BLOSSOM;2+I: RHO;3+LDREN: CROSSING;2+OCOLATE: BAR;3+RASMIAN LETTER: ALEPH
AYIN BETH DALETH GIMEL HE HETH KAPH LAMEDH MEM NUN PE RESH SAMEKH SHIN TAW WAW YODH ZAYIN;17+
CURLED: WAW;18+SMALL: ALEPH;11+NUMBER: FOUR ONE TEN THREE TWENTY TWO;17+ ONE: HUNDRED;2+RISTMAS:
TREE;1+IRCLE DIVIDED BY HORIZONTAL BAR AND TOP HALF DIVIDED BY VERTICAL: BAR;7+WITH ALL BUT UPPER
LEFT QUADRANT: BLACK;12+HORIZONTAL: BAR;12+LEFT HALF: BLACK;13+OWER HALF: BLACK;12+RIGHT HALF:
BLACK;12+SMALL CIRCLE TO THE: RIGHT;13+UPERIMPOSED: X;12+TWO HORIZONTAL STROKES TO THE: RIGHT;
12+UPPER HALF: BLACK;18+RIGHT QUADRANT: BLACK;12+VERTICAL: FILL;6+D: BULLET CC CD DASH EQUALS
GREATER-THAN LESS-THAN MINUS PARALLEL PERPENDICULAR PLUS SQUARE TIMES TRIANGLE WZ X;7+
ANTICLOCKWISE: ARROW;21+-ROTATED DIVISION: SIGN;9+STERISK: OPERATOR;8+BOLD: X;8+C WITH OVERLAID:
BACKSLASH;9+ROSS: FORMEE POMMEE;13+ FORMEE WITH FOUR: DOTS;26+TWO: DOTS;13+ING: LANES;8+DIGIT: EIGHT
FIVE FOUR NINE ONE SEVEN SIX THREE TWO ZERO;10+VISION: SIGN SLASH;9+OLLAR SIGN WITH OVERLAID:
BACKSLASH;10+T: OPERATOR;8+HANGUL: CHIEUCH CIEUC HIEUH IEUNG KHIEUKH KIYEOK MIEUM NIEUN PHIEUPH
PIEUP RIEUL SIOS THIEUTH TIKEUT;14+ CHIEUCH: A;16+IEUC: A;15+HIEUH: A;15+IEUNG: A U;15+KHIEUKH: A;
16+IYEOK: A;15+MIEUM: A;15+NIEUN: A;15+PHIEUPH: A;16+IEUP: A;15+RIEUL: A;15+SIOS: A;15+THIEUTH: A;
16+IKEUT: A;9+EAVY WHITE RIGHTWARDS: ARROW;9+ORIZONTAL BAR WITH: NOTCH;9+UMAN: FIGURE;8+IDEOGRAPH:
ACCEPT ADVANTAGE ALLIANCE ATTENTION CENTRE CONGRATULATION COPY CORRECT EARTH EIGHT ENTERPRISE
EXCELLENT FEMALE FINANCIAL FIRE FIVE FOUR HAVE HIGH ITEM KINDERGARTEN KOTO LABOR LEFT LOW MALE
MEDICINE METAL MOON NAME NIGHT NINE ONE PRINT QUESTION RELIGION RESOURCE REST RIGHT SCHOOL SECRET
SEVEN SIX SOCIETY SPECIAL STOCK STUDY SUITABLE SUN SUPERVISE TEN THREE TWO WATER WOOD;9+NFORMATION:
SOURCE;9+TALIC LATIN CAPITAL LETTER: C R;8+KATAKANA: A E HA HE HI HO HU I KA KE KI KO KU MA ME MI MO
MU NA NE NI NO NU O RA RE RI RO RU SA SE SI SO SU TA TE TI TO TU U WA WE WI WO YA YO YU;9+OREAN
CHARACTER: CHAMKO JUEUI;8+LATIN CAPITAL LETTER: A B C D E F G H I J K L M N O P Q R S T U V W X Y Z;
14+SMALL LETTER: A B C D E F G H I J K L M N O P Q R S T U V W X Y Z;8+MULTIPLICATION SIGN WITH
CIRCUMFLEX: ACCENT;8+NUMBER: EIGHTEEN ELEVEN FIFTEEN FIFTY FORTY FOURTEEN NINETEEN SEVENTEEN SIXTEEN
TEN THIRTEEN THIRTY TWELVE TWENTY;14+ EIGHTY ON BLACK: SQUARE;15+FIFTY ON BLACK: SQUARE;16+ORTY:
EIGHT FIVE FOUR NINE ONE SEVEN SIX THREE TWO;20+ ON BLACK: SQUARE;15+SEVENTY ON BLACK: SQUARE;
16+IXTY ON BLACK: SQUARE;15+TEN ON BLACK: SQUARE;16+HIRTY: EIGHT FIVE FOUR NINE ONE SEVEN SIX THREE
TWO;21+ ON BLACK: SQUARE;16+WENTY: EIGHT FIVE FOUR NINE ONE SEVEN SIX THREE TWO;21+ ON BLACK:
SQUARE;8+OPEN CENTRE EIGHT POINTED: STAR;8+POSTAL: MARK;8+REVERSE: SOLIDUS;9+ING: OPERATOR;
8+TRIANGLE: DOWN;8+VERTICAL: BAR;8+WHITE: BULLET STAR;8+ZERO WITH: SLASH;4+ULATION: FUNCTION;
5+MFLEX: ACCENT;5+S: TENT;2+TYSCAPE AT: DUSK;1+JK COMPATIBILITY: IDEOGRAPH-2F800#2FA1D
IDEOGRAPH-F900#FA6D IDEOGRAPH-FA70#FAD9;4+RADICAL: BAMBOO BLUE BONE BOX CHOKE CITY CIVILIAN CLIFF
CLOTHES COW DEATH DIVINATION DOG EWE EYE FIRE FOOT GHOST HAND HEAD HORN JADE MEAT MESH MOON MORTAR
MOTHER OLD PERSON RAIN RAM RAP REPEAT SEAL SHEEP SILK SNAKE SUN TABLE THREAD TIGER TURTLE;11+ BOLT
OF: CLOTH;13+RUSH: ONE TWO;12+C-SIMPLIFIED: BIRD CART DRAGON EAT EVEN FISH FLY FROG GATE GOLD HORSE
LEAF LONG SALT SEE SHELL SILK SPEECH TOOTH TURTLE WIND;24+ TANNED: LEATHER;12+EAT: ONE THREE TWO;
12+GRASS: ONE THREE TWO;12+HEART: ONE TWO;12+J-SIMPLIFIED: DRAGON EVEN TOOTH TURTLE;12+KNIFE: ONE
TWO;12+LAME: FOUR ONE THREE TWO;13+ONG: ONE TWO;12+MOUND: ONE TWO;12+NET: FOUR ONE THREE TWO;12+PAW:
ONE TWO;12+SECOND: ONE THREE TWO;13+IMPLIFIED: HORN WALK WHEAT YELLOW;22+ HALF TREE: TRUNK;13+MALL:
ONE TWO;13+NOUT: ONE TWO;13+PIRIT: ONE TWO;12+WALK: ONE TWO;14+TER: ONE TWO;13+EST: ONE TWO;
4+STROKE: BXG D H HG HP HPWG HXWG HZ HZG HZT HZW HZWG HZZ HZZP HZZZ HZZZG N P PD PG PZ Q S SG SP ST
SW SWG SWZ SZ SZWG SZZ T TN WG XG;1+LAMSHELL MOBILE: PHONE;3+PPER: BOARD;5+ING HANDS: SIGN;3+SSICAL:
BUILDING;2+EAR SCREEN: SYMBOL;2+INKING: GLASSES;8+ BEER: MUGS;2+OCK FACE: EIGHT-THIRTY ELEVEN-THIRTY
FIVE-THIRTY FOUR-THIRTY NINE-THIRTY ONE-THIRTY SEVEN-THIRTY SIX-THIRTY TEN-THIRTY THREE-THIRTY
TWELVE-THIRTY TWO-THIRTY;10+ EIGHT: OCLOCK;12+LEVEN: OCLOCK;11+FIVE: OCLOCK;12+OUR: OCLOCK;11+NINE:
OCLOCK;11+ONE: OCLOCK;11+SEVEN: OCLOCK;12+IX: OCLOCK;11+TEN: OCLOCK;12+HREE: OCLOCK;12+WELVE:
OCLOCK;13+O: OCLOCK;5+WISE: INTEGRAL;9+ CLOSED CIRCLE: ARROW;11+ONTOUR: INTEGRAL;10+DOWNWARDS AND
UPWARDS OPEN CIRCLE: ARROWS;10+GAPPED CIRCLE: ARROW;10+OPEN CIRCLE: ARROW;10+RIGHT AND LEFT
SEMICIRCLE: ARROWS;15+WARDS AND LEFTWARDS OPEN CIRCLE: ARROWS;46+ ARROWS WITH CIRCLED ONE: OVERLAY;
10+TOP SEMICIRCLE: ARROW;11+RIANGLE-HEADED OPEN CIRCLE: ARROW;3+SE: UP;5+D: BOOK SUBSET SUPERSET
UMBRELLA;6+ INTERSECTION WITH: SERIFS;7+LOCK WITH: KEY;7+MAILBOX WITH LOWERED: FLAG;20+RAISED: FLAG;
7+SUBSET OR EQUAL: TO;9+PERSET OR EQUAL: TO;7+UNION WITH: SERIFS;17+ SERIFS AND SMASH: PRODUCT;3+UD
WITH: LIGHTNING RAIN SNOW TORNADO;3+WN: FACE;1+OCKTAIL: GLASS;2+LLISION: SYMBOL;3+ON: EQUALS SIGN;
2+MBINING: ACUTE-GRAVE-ACUTE ACUTE-MACRON BREVE BREVE-MACRON CANDRABINDU CARON CEDILLA DIAERESIS
DIAERESIS-RING FERMATA GRAVE-ACUTE-GRAVE GRAVE-MACRON HORN INFINITY MACRON MACRON-ACUTE MACRON-BREVE
MACRON-GRAVE OGONEK OVERLINE TILDE;9+ ACUTE: ACCENT;15+ ACCENT: BELOW;16+TONE: MARK;11+LMOST EQUAL
TO: ABOVE BELOW;11+NNUITY: SYMBOL;12+TICLOCKWISE ARROW: ABOVE;24+RING: OVERLAY;11+STERISK: ABOVE
BELOW;10+BINDU: BELOW;11+REVE: BELOW;12+IDGE: ABOVE BELOW;10+CARON: BELOW;11+IRCUMFLEX: ACCENT;20+
ACCENT: BELOW;11+LOCKWISE ARROW: ABOVE;20+RING: OVERLAY;11+OMMA: ABOVE BELOW;15+ ABOVE: RIGHT;
12+NJOINING: MACRON;20+ MACRON: BELOW;11+YRILLIC: KAVYKA PALATALIZATION PAYEROK POKRYTIE TITLO
VZMET;18+ DASIA: PNEUMATA;19+HUNDRED MILLIONS: SIGN;27+THOUSANDS: SIGN;19+LETTER: A BE CHE DE DJERV
EF EL EM EN ER ES ES-TE FITA GHE HA I IE KA O OMEGA PE SHA SHCHA TE TSE U VE YAT YERU YI YU ZE ZHE;
25+ BIG: YUS;26+HARD: SIGN;26+IOTIFIED: A E;34+ BIG: YUS;26+LITTLE: YUS;26+MONOGRAPH: UK;26+SOFT:
SIGN;26+UKRAINIAN: IE;19+MILLIONS: SIGN;19+PSILI: PNEUMATA;19+TEN MILLIONS: SIGN;20+HOUSAND
MILLIONS: SIGN;20+ITLO LEFT: HALF;25+RIGHT: HALF;10+DELETION: MARK;12+VANAGARI DIGIT: EIGHT FIVE
FOUR NINE ONE SEVEN SIX THREE TWO ZERO;21+LETTER: A KA NA PA RA U VI;21+SIGN: AVAGRAHA;11+IAERESIS:
BELOW;11+OT: ABOVE BELOW;13+ ABOVE: LEFT RIGHT;14+BELOW: LEFT;13+TED ACUTE: ACCENT;17+GRAVE: ACCENT;
12+UBLE: BREVE MACRON OVERLINE TILDE;16+ ACUTE: ACCENT;17+BREVE: BELOW;17+CIRCUMFLEX: ABOVE;
17+GRAVE: ACCENT;17+INVERTED: BREVE;25+ BREVE: BELOW;17+LOW: LINE;17+MACRON: BELOW;17+OPEN MARK:
BELOW;17+PARENTHESES: ABOVE;18+LUS SIGN: ABOVE BELOW;17+RIGHTWARDS ARROW: BELOW;19+NG: BELOW;
17+TILDE LEFT: HALF;23+RIGHT: HALF;17+VERTICAL LINE: ABOVE BELOW;26+STROKE: OVERLAY;16+D CIRCUMFLEX:
ACCENT;12+WN TACK: BELOW;14+WARDS: ARROW;10+ENCLOSING: CIRCLE DIAMOND KEYCAP SCREEN SQUARE;19+
CIRCLE: BACKSLASH;20+UPWARD POINTING: TRIANGLE;11+QUALS SIGN: BELOW;10+FOUR DOTS: ABOVE;
10+GLAGOLITIC LETTER: AZU BUKY CHRIVI DJERVI DOBRO FITA FRITU GLAGOLI HERU I IZHE KAKO LJUDIJE
MYSLITE NASHI ONU POKOJI RITSI SHA SHTA SLOVO TSI TVRIDO UKU VEDE YATI YERI YERU YESTU YO YU ZEMLJA
ZHIVETE;27+ BIG: YUS;28+INITIAL: IZHE;29+OTATED BIG: YUS;36+SMALL: YUS;28+SMALL: YUS;11+RANTHA
DIGIT: FIVE FOUR ONE SIX THREE TWO ZERO;18+LETTER: A KA NA PA VI;13+PHEME: JOINER;13+VE: ACCENT;15+
ACCENT: BELOW;16+TONE: MARK;12+EEK: KORONIS PERISPOMENI YPOGEGRAMMENI;15+ DIALYTIKA: TONOS;
16+MUSICAL: PENTASEME TETRASEME TRISEME;10+HOMOTHETIC: ABOVE;12+OK: ABOVE;10+INVERTED: BREVE;18+
BREVE: BELOW;21+IDGE: BELOW;19+DOUBLE ARCH: ABOVE BELOW;11+S: BELOW;10+KATAKANA-HIRAGANA SEMI-VOICED
SOUND: MARK;28+VOICED SOUND: MARK;12+VYKA ABOVE: LEFT RIGHT;10+LATIN LETTER SMALL CAPITAL: G L M N
R;16+SMALL LETTER: A AE ALPHA AO AV B BETA C D E ESH ETH F G H I K L M N O P R S SCHWA T U V W X Z;
28+ A WITH: DIAERESIS;29+C: CEDILLA;29+FLATTENED OPEN A: ABOVE;29+INSULAR: D G R T;29+L WITH DOUBLE
MIDDLE: TILDE;30+ONG: S;29+O WITH: DIAERESIS;35+ LIGHT CENTRALIZATION: STROKE;29+R: BELOW ROTUNDA;
29+TURNED W: BELOW;29+U WITH: DIAERESIS;35+ LIGHT CENTRALIZATION: STROKE;29+W: BELOW;11+EFT ANGLE:
ABOVE BELOW;16+RROW: ABOVE BELOW;20+HEAD: ABOVE BELOW;15+HALF RING: ABOVE BELOW;17+RPOON: ABOVE;
15+PARENTHESIS ABOVE: LEFT;27+BELOW: LEFT;15+RIGHT ARROW: ABOVE BELOW;15+TACK: BELOW;14+WARDS ARROW:
OVERLAY;20+HARPOON WITH BARB: DOWNWARDS;11+IGATURE LEFT: HALF;23+ HALF: BELOW;19+RIGHT: HALF;24+
HALF: BELOW;13+HT CENTRALIZATION STROKE: BELOW;11+ONG DOUBLE SOLIDUS: OVERLAY;15+SOLIDUS: OVERLAY;
16+TROKE: OVERLAY;15+VERTICAL LINE: OVERLAY;12+W: LINE;10+MACRON: BELOW;16+ LEFT: HALF;21+ HALF:
BELOW;17+RIGHT: HALF;22+ HALF: BELOW;11+INUS SIGN: BELOW;10+NOT TILDE: ABOVE;11+UMBER SIGN: ABOVE;
10+OGONEK: ABOVE;11+LD PERMIC LETTER: AN DOI NENOE SII ZATA;11+PEN MARK: BELOW;10+PALATALIZED HOOK:
BELOW;12+RENTHESES: ABOVE BELOW OVERLAY;11+LUS SIGN: ABOVE BELOW;10+RETROFLEX HOOK: BELOW;12+VERSE
SOLIDUS: OVERLAY;17+D COMMA: ABOVE;11+IGHT ARROW: ABOVE BELOW;21+HEAD: ABOVE BELOW;25+ AND DOWN
ARROWHEAD: BELOW;30+UP ARROWHEAD: BELOW;16+HALF RING: ABOVE BELOW;18+RPOON: ABOVE;16+PARENTHESIS
ABOVE: RIGHT;28+BELOW: RIGHT;16+TACK: BELOW;15+WARDS HARPOON WITH BARB: DOWNWARDS;12+NG: ABOVE BELOW
OVERLAY;10+SEAGULL: BELOW;11+HORT SOLIDUS: OVERLAY;17+TROKE: OVERLAY;16+VERTICAL LINE: OVERLAY;
11+NAKE: BELOW;11+QUARE: BELOW;16+ BRACKETS: ABOVE;11+TRONG CENTRALIZATION STROKE: BELOW;
11+USPENSION: MARK;10+THREE DOTS: ABOVE;11+ILDE: BELOW OVERLAY;15+ LEFT HALF: BELOW;16+RIGHT HALF:
BELOW;11+RIPLE: DOT UNDERDOT;16+ ACUTE: ACCENT;11+URNED COMMA: ABOVE;10+UP TACK: ABOVE BELOW;
12+WARDS ARROW: BELOW;11+R: ABOVE;11+S: ABOVE;10+VERTICAL: TILDE;18+ LINE: ABOVE BELOW;10+WIDE
BRIDGE: ABOVE;15+INVERTED BRIDGE: BELOW;12+GGLY LINE: BELOW;10+X: ABOVE BELOW;11+-X: BELOW;
10+ZIGZAG: ABOVE BELOW;3+MERCIAL: AT;10+ MINUS: SIGN;3+POSITION: SYMBOL;2+NFETTI: BALL;4+OUNDED:
FACE;4+USED: FACE;3+GRUENT WITH DOT: ABOVE;3+ICAL: TAPER;3+STRUCTION: SIGN WORKER;3+TAINS AS:
MEMBER;11+ NORMAL: SUBGROUP;18+ SUBGROUP OR EQUAL: TO;9+WITH: OVERBAR;13+ LONG HORIZONTAL: STROKE;
14+VERTICAL BAR AT END OF HORIZONTAL: STROKE;4+INUOUS UNDERLINE: SYMBOL;4+OUR: INTEGRAL;4+ROL:
KNOBS;7+ SEQUENCE: INTRODUCER;3+VENIENCE: STORE;2+OKED: RICE;2+PTIC CAPITAL LETTER: ALFA DALDA DEI
EIE FEI FI GAMMA GANGIA HATE HORI IAUDA KAPA KHEI KHI KSI LAULA MI NI O OOU PI PSI RO SAMPI SHEI
SHIMA SIMA SOU TAU THETHE UA VIDA ZATA;21+ AKHMIMIC: KHEI;22+BOHAIRIC: KHEI;22+CROSSED: SHEI;
24+YPTOGRAMMIC: EIE GANGIA NI SHEI;22+DIALECT-P: ALEF HORI KAPA NI;22+L-SHAPED: HA;22+OLD COPTIC:
AIN DJA ESH GANGIA HA HAT HEI HORI OOU SHEI SHIMA;26+NUBIAN: NGI NYI SHIMA WAU;8+OMBINING NI: ABOVE;
17+SPIRITUS: ASPER LENIS;7+EPACT DIGIT: EIGHT FIVE FOUR NINE ONE SEVEN SIX THREE TWO;13+NUMBER:
EIGHTY FIFTY FORTY NINETY SEVENTY SIXTY TEN THIRTY TWENTY;19+ EIGHT: HUNDRED;20+FIVE: HUNDRED;
21+OUR: HUNDRED;20+NINE: HUNDRED;20+ONE: HUNDRED;20+SEVEN: HUNDRED;21+IX: HUNDRED;20+THREE: HUNDRED;
21+WO: HUNDRED;13+THOUSANDS: MARK;7+FRACTION ONE: HALF;8+ULL: STOP;7+MORPHOLOGICAL: DIVIDER;7+OLD
NUBIAN DIRECT QUESTION: MARK;18+FULL: STOP;18+INDIRECT QUESTION: MARK;18+VERSE: DIVIDER;7+SMALL
LETTER: ALFA DALDA DEI EIE FEI FI GAMMA GANGIA HATE HORI IAUDA KAPA KHEI KHI KSI LAULA MI NI O OOU
PI PSI RO SAMPI SHEI SHIMA SIMA SOU TAU THETHE UA VIDA ZATA;19+ AKHMIMIC: KHEI;20+BOHAIRIC: KHEI;
20+CROSSED: SHEI;22+YPTOGRAMMIC: EIE GANGIA NI SHEI;20+DIALECT-P: ALEF HORI KAPA NI;20+L-SHAPED: HA;
20+OLD COPTIC: AIN DJA ESH GANGIA HA HAT HEI HORI OOU SHEI SHIMA;24+NUBIAN: NGI NYI SHIMA WAU;
8+YMBOL: KAI STAUROS;13+ KHI: RO;14+MI: RO;14+PI: RO;14+SHIMA: SIMA;14+TAU: RO;3+YLEFT: SYMBOL;
4+RIGHT: SIGN;2+RNISH VERSE: DIVIDER;3+RESPONDS: TO;2+UCH AND: LAMP;3+NTING ROD TENS DIGIT: EIGHT
FIVE FOUR NINE ONE SEVEN SIX THREE TWO;13+UNIT DIGIT: EIGHT FIVE FOUR NINE ONE SEVEN SIX THREE TWO;
3+PLE WITH: HEART;2+W: FACE;1+REDIT: CARD;3+SCENT: MOON;2+ICKET BAT AND: BALL;2+OSS: MARK POMMEE;5+
OF: JERUSALEM LORRAINE;6+PATTY WITH LEFT: CROSSBAR;17+RIGHT: CROSSBAR;7+OMMEE WITH HALF-CIRCLE:
BELOW;5+ED: FLAGS SWORDS;7+ NEGATIVE SQUARED LATIN CAPITAL LETTER: P;5+ING: LANES;2+UZEIRO: SIGN;
2+YING: FACE;6+ CAT: FACE;3+STAL: BALL;1+UBE: ROOT;2+NEIFORM NUMERIC SIGN: NIGIDAESH NIGIDAMIN;22+
EIGHT: ASH DISH GESH2 SHAR2 U;28+ U VARIANT: FORM;29+VARIANT FORM: USSU USSU3;24+LAMITE: FIFTY
FORTY;30+ ONE: THIRD;31+TWO: THIRDS;23+FIVE: ASH BAN2 BURU DISH GESH2 GESHU SHAR2 SHARU U;27+ ASH:
TENU;28+BAN2 VARIANT: FORM;28+SIXTHS: DISH;28+U VARIANT: FORM;24+OUR: ASH BAN2 BURU DISH GESH2 GESHU
SHAR2 SHARU U;27+ ASH: TENU;28+BAN2 VARIANT: FORM;28+U VARIANT: FORM;28+VARIANT FORM: LIMMU LIMMU4;
40+ LIMMU: A B;23+NINE: ASH DISH GESH2 SHAR2 U;27+ U VARIANT: FORM;28+VARIANT FORM: ILIMMU ILIMMU3
ILIMMU4;40+ ILIMMU: A;23+OLD ASSYRIAN ONE: QUARTER SIXTH;24+NE: BAN2 BURU ESHE3 GESH2 GESHU SHARU;
26+ EIGHTH: ASH;27+HALF: GUR;27+QUARTER: ASH GUR;27+THIRD: DISH;32+ VARIANT FORM: A;23+SEVEN: ASH
DISH GESH2 SHAR2 U;28+ U VARIANT: FORM;29+VARIANT FORM: IMIN3;41+ IMIN: A B;24+HAR2 TIMES GAL PLUS:
DISH MIN;24+IX: ASH DISH GESH2 SHAR2 U;26+ ASH: TENU;27+U VARIANT: FORM;27+VARIANT FORM: ASH9;
23+THREE: ASH BAN2 BURU DISH GESH2 GESHU SHAR2 SHARU;28+ ASH: TENU;29+BURU VARIANT: FORM;29+SHAR2
VARIANT: FORM;33+U VARIANT: FORM;29+VARIANT FORM: ESH16 ESH21;24+WO: ASH BAN2 BURU ESHE3 GESH2 GESHU
SHAR2 SHARU;26+ ASH: TENU;27+THIRDS: DISH;33+ VARIANT FORM: A;10+PUNCTUATION SIGN DIAGONAL: COLON
QUADCOLON TRICOLON;27+OLD ASSYRIAN WORD: DIVIDER;27+VERTICAL: COLON;10+SIGN: A A2 AB AB2 AD AK AL
ALAN ALEPH AMAR AN ANSHE APIN ARAD ARKAB ASAL2 ASH ASH2 ASHGAB BA BAD BAG3 BAHAR2 BAL BALAG BAR
BARA2 BI BU BULUG BUR BUR2 DA DAG DAG3 DAM DAR DARA3 DARA4 DI DIB DIM DIM2 DIN DISH DU DUB DUB2 DUG
DUGUD DUH DUN DUN3 DUN4 DUR2 E E2 EDIN EGIR EL EN EREN ERIN2 ESH2 EZEN GA GA2 GABA GAD GAL GALAM GAM
GAN GAN2 GAR GAR3 GASHAN GE22 GESHTIN GI GI4 GIDIM GIG GIR2 GIR3 GISAL GISH GU GU2 GUD GUL GUM GUR
GUR7 GURUN GURUSH HA HAL HI HU HUB2 HUL2 HUSH I IB IDIM IG IGI IL IL2 IM IMIN IN IR ISH KA KA2 KAB
KAD2~5 KAK KAL KAM2 KAM4 KASKAL KESH2 KI KID KIN KISAL KISH KISIM5 KU KU3 KU4 KU7 KUL KUN KUR KUSHU2
KWU318 LA LAGAB LAGAR LAHSHU LAK-003 LAK-021 LAK-025 LAK-030 LAK-050 LAK-051 LAK-062 LAK-080 LAK-092
LAK-130 LAK-142 LAK-210 LAK-219 LAK-220 LAK-225 LAK-228 LAK-238 LAK-265 LAK-266 LAK-343 LAK-347
LAK-348 LAK-383 LAK-384 LAK-390 LAK-441 LAK-449 LAK-450 LAK-457 LAK-470 LAK-483 LAK-490 LAK-492
LAK-493 LAK-495 LAK-550 LAK-608 LAK-617 LAK-636 LAK-648 LAK-724 LAK-749 LAL LAM LI LIL LIMMU2 LISH
LU LU2 LU3 LUGAL LUH LUL LUM MA MA2 MAH MAR MASH MASH2 ME MES MESH MI MIN MU MUG MUNSUB MURGU2 MUSH
MUSH3 NA NA2 NA4 NAGA NAGAR NAM NAM2 NE NI NI2 NIM NIN NIN9 NINDA2 NISAG NU NU11 NUN NUNUZ PA PAD
PAN PAP PESH2 PI PIR2 PIRIG RA RAB RI RU SA SAG SAL SANGA2 SAR SHA SHA3 SHA6 SHAB6 SHAR2 SHE SHEG9
SHEN SHESH SHESH2 SHESHLAM SHID SHIM SHINIG SHIR SHITA SHU SHU2 SHUBUR SI SIG SIG4 SIK2 SILA3 SU SUD
SUD2 SUHUR SUM SUMASH SUR SUR9 TA TAB TAG TAK4 TAR TE TI TI2 TIL TIR TU TUG2 TUK TUM TUR U U2 UB UD
UDUG UM UMBIN UMUM UN UR UR2 UR4 URI URI3 URU URUDA USH USH2 USHUMX USHX UTUKI UZ3 UZU ZA ZA7 ZAG
ZAMX ZE2 ZI ZI3 ZIB ZIG ZIZ2 ZU ZU5 ZUBUR ZUM;14+ A TIMES: A BAD HA IGI MUSH SAG;22+ GAN2: TENU;
23+LAGAR: GUNU;16+B: GUNU;17+ TIMES: ASH2 GAL HA IMIN LAGAB NUN SHESH SHU2;23+ DUN3: GUNU;24+GAN2:
TENU;24+IGI: GUNU;24+NUN: TENU;24+U PLUS U PLUS: U;17+2 TIMES: A BALAG SHA3 TAK4;24+ GAN2: TENU;
25+ME PLUS: EN;16+D TIMES: ESH2;16+K TIMES: ERIN2;23+ SHITA PLUS: GISH;16+L TIMES: AL DIM2 GISH HA
KAD3 KI SHE USH;16+MAR TIMES: KUG SHE;16+N OVER: AN;18+PLUS NAGA: SQUARED;27+ OPPOSING AN PLUS:
NAGA;18+THREE: TIMES;16+RAD TIMES: KUR;16+SH KABA: TENU;19+OVER ASH OVER: ASH;32+ ASH CROSSING ASH
OVER ASH OVER: ASH;28+TUG2 OVER TUG2 TUG2 OVER TUG2: PAP;19+ZIDA: TENU;15+BAD TIMES DISH: TENU;
17+HAR2 TIMES: AB2 NI ZA;17+L OVER: BAL;16+I TIMES: A GAR;23+ IGI: GUNU;16+U CROSSING: BU;18+OVER
BU: AB UN;25+ TIMES: NA2;17+LUG OVER: BULUG;15+DA TIMES: TAK4;17+G KISIM5 TIMES: AMAR BALAG BI GA GI
GIR2 GUD HA IR KAK LA LU LUM NE SI TAK4 USH;31+ A PLUS: MASH;32+GA PLUS: MASH;32+IR PLUS: LU;32+LU
PLUS: MASH2;32+PAP PLUS: PAP;32+U2 PLUS: GIR2 MASH;19+TIMES: KUR;16+IM TIMES: IGI SHE;24+ U U: U;
18+2 TIMES: UD;17+N KASKAL U GUNU: DISH;17+SH PLUS: SHU;16+U: GUNU SHESHIG;17+ OVER: DU;17+B TIMES:
ESH2 SHE;17+G TIMES: ANSHE ASH DIN DUN ERIN2 GA GI GISH HA HI KASKAL KUR KUSHU2 LAK-020 LAM MASH MES
MI NI PI SHE;24+ ASH AT: LEFT;25+GIR2: GUNU;25+IGI: GUNU;25+KUSHU2 PLUS: KASKAL;25+LAM TIMES: KUR;
26+UH PLUS: GISH;25+SI: GUNU;17+N3: GUNU;19+ GUNU: GUNU;15+E OVER E NUN OVER: NUN;17+TIMES: PAP;16+2
TIMES: GAR KUR MI PAP SAL SHE U;23+ A PLUS HA PLUS: DA;16+N: SQUARED;17+ CROSSING: EN;18+OPPOSING:
EN;18+TIMES: GAN2 ME;23+ GAN2: TENU;16+RIN2: X;16+SH2 CROSSING: ESH2;16+ZEN SHESHIG TIMES: ASH HI LA
LAL ME MES SU;33+ IGI: GUNU;20+TIMES: A AN BAD GUD HA KASKAL KU3 LA LI LU SHE SU U2 UD;25+ A PLUS:
LAL;32+ LAL TIMES: LAL;26+DUN3: GUNU;30+ GUNU: GUNU;26+HA: GUNU;26+IGI: GUNU;26+KASKAL: SQUARED;
26+LAL TIMES: LAL;15+GA: GUNU;17+2 OVER: GA2;19+TIMES: AN ASH ASH2 BAD BAHAR2 BUR DA DI DUB EL EN
EREN GA GAR GI GI4 HAL HUB2 KAK KASKAL KID LA LAM LUH MI MUSH NE NUN PA SAL SAR SHE SHID SHIM SUM
TAK4 U UD ZIZ2;24+ A PLUS: HA IGI;31+ DA PLUS: HA;26+B2 TENU PLUS: TAB;26+N PLUS KAK PLUS: A;26+SH2
PLUS: GAL;25+BAR PLUS: RA;26+UR PLUS: RA;25+DIM: GUNU;28+ TIMES: SHE;26+UG TIMES: KASKAL;34+ IGI:
GUNU;25+EL PLUS: LA;26+N TIMES GAN2: TENU;25+GAN2: TENU;27+R PLUS: DI NE;26+I4 PLUS: A;27+R2 PLUS:
SU;25+HA PLUS: A;32+ LU PLUS: ESH2;27+L PLUS: LA;26+I PLUS: LI;25+IGI: GUNU;26+SH PLUS HU PLUS: ASH;
25+KID PLUS: LAL;26+U3 PLUS: AN;27+SHU2 PLUS: KASKAL;25+LAM TIMES: KUR;25+ME PLUS: EN;25+NE PLUS: E2
GI;26+UN OVER: NUN;25+SHE PLUS: TUR;25+UD PLUS: DU;17+BA CROSSING: GABA;20+ROTATED NINETY: DEGREES;
17+D OVER GAD GAR OVER: GAR;17+L GAD OVER GAD GAR OVER: GAR;17+N2: TENU;19+ CROSSING: GAN2;20+OVER:
GAN2;16+ESHTIN TIMES: KUR U;16+I CROSSING: GI;18+TIMES: E U;17+4 CROSSING: GI4;19+OVER: GI4;17+R2:
GUNU;18+3 TIMES: IGI PA;25+ A PLUS: IGI;26+GAN2: TENU;26+LU PLUS: IGI;17+SH: TENU;19+ CROSSING:
GISH;20+TIMES: BAD TAK4;25+ GISH CROSSING: GISH;16+U CROSSING: GU;17+2: GUNU;18+ TIMES: KAK NUN;24+
IGI: GUNU;25+KAK TIMES IGI: GUNU;25+SAL PLUS: TUG2;17+D OVER GUD: LUGAL;19+PLUS GISH TIMES: TAK4;
19+TIMES: KUR;24+ A PLUS: KUR;17+M TIMES: SHE;15+HA: GUNU TENU;17+ TENU: GUNU;16+I TIMES: ASH ASH2
BAD DISH GAD KIN NUN SHE U;23+ ASH OVER HI TIMES: ASH;16+UB2 TIMES: AN HAL KASKAL LISH UD;15+I: A;
16+DIM OVER IDIM: BUR SQUARED;16+GI: DIB GUNU RI;18+ OVER IGI SHIR OVER SHIR UD OVER: UD;16+L TIMES
GAN2: TENU;16+M: SQUARED;17+ CROSSING: IM;18+OPPOSING: IM;18+TIMES: TAK4;15+KA TIMES: A AD ANSHE
ASH2 ASH3 BAD BALAG BAR BI BU ERIN2 ESH2 GA GAL GAR GI GIR2 GISH GU GUD GUR7 IGI IM KA KAK KI KID LI
LU LUM ME MI NE NUN PA PI RU SA SAR SHA SHE SHID SHU SHUL SIG SUHUR TAR TU U U2 UD UR UR2 USH ZI;23+
AD PLUS: KU3;24+GAN2: TENU;26+R PLUS SHA3 PLUS: A;25+ISH CROSSING: GISH;29+PLUS: SAR;24+HI TIMES:
ASH2;24+ME PLUS: DU GI TE;25+I PLUS: NUNUZ;24+U U: U;25+MUM TIMES: PA;17+2 CROSSING: KA2;17+D5 OVER:
KAD5;17+K TIMES IGI: GUNU;17+L CROSSING: KAL;19+TIMES: BAD;17+P: ELAMITE;17+SKAL LAGAB TIMES U OVER
LAGAB TIMES: U;22+OVER KASKAL LAGAB TIMES U OVER LAGAB TIMES: U;16+I TIMES: BAD U UD;17+SIM5 OVER:
KISIM5;16+U OVER HI TIMES ASH2 KU OVER HI TIMES: ASH2;17+4 VARIANT: FORM;17+L: GUNU;17+R OPPOSING:
KUR;15+LAGAB: SQUARED;20+ TIMES: A AL AN BAD BI DAR EN GA GAR GI GUD HA HAL IM KI KIN KU3 KUL LAGAB
LISH LU LUL ME MUSH NE SHU2 SUM TAG TAK4 U UD USH;26+ A PLUS: GAR LAL;33+ DA PLUS: HA;28+SH ZIDA:
TENU;27+GUD PLUS: GUD;27+HI TIMES: NUN;27+IGI: GUNU;28+M PLUS: HA LU;27+KUL PLUS HI PLUS: A;27+ME
PLUS: EN;27+SHE PLUS: SUM;29+ITA PLUS GISH: TENU;42+ PLUS: ERIN2;29+U2 PLUS: SHU2;27+TE PLUS A PLUS
SU PLUS: NA;27+U PLUS: A;33+ U PLUS: U;28+2 PLUS: ASH;27+ZU OVER: ZU;19+R: GUNU;20+ GUNU OVER LAGAR
GUNU: SHE;21+TIMES: SHE;26+ SHE PLUS: SUM;17+K-079 OVER LAK-079: GUNU;20+81 OVER: LAK-081;19+449
TIMES: GU IGI;28+ PAP PLUS: LU3;37+ PAP PLUS: LU3;29+U2 PLUS: BA;19+617 TIMES: ASH BAD KU3 LA TAR TE
U2 UD URUDA;28+ DUN3 GUNU: GUNU;20+48 TIMES: DUB GA IGI NI UD URUDA;28+ IGI: GUNU;29+PAP PLUS PAP
PLUS: LU3;29+SHESH PLUS: KI;17+L TIMES: LAL;17+M TIMES: KUR;24+ KUR PLUS: RU;16+U TIMES: BAD;17+2:
SHESHIG SQUARED TENU;18+ CROSSING: LU2;19+GUNU TIMES: ASH;19+OPPOSING: LU2;19+SHESHIG TIMES: BAD;
19+TIMES: AL BAD DISH ESH2 HAL IM KAD2 KAD3 KI LAGAB NE NU PAP SHU TAK4 TUG2;24+ ESH2: TENU;29+
PLUS: LAL;25+GAN2: TENU;25+HI TIMES: BAD;25+KAD3 PLUS: ASH;25+LA PLUS: ASH;25+ME PLUS: EN;25+PAP
PLUS PAP PLUS: LU3;25+SI PLUS: ASH;27+K2 PLUS: BU;17+GAL: SHESHIG;20+ OPPOSING: LUGAL;22+VER: LUGAL;
17+M OVER: LUM;23+ LUM GAR OVER: GAR;15+MA: GUNU;17+ TIMES: TAK4;16+I PLUS: ZA7;16+U OVER: MU;17+G:
GUNU;17+SH CROSSING: MUSH;20+OVER: MUSH;24+ MUSH TIMES: GA KAK;35+ A PLUS: NA;20+TIMES: A KUR ZA;
19+3: GUNU;20+ TIMES: A DI ZA;26+ A PLUS: DI;15+NAGA: INVERTED;19+ OPPOSING: NAGA;20+TIMES SHU:
TENU;17+M: NUTILLU;16+E: SHESHIG;17+ TIMES: A UD;16+I TIMES: E;17+M TIMES GAN2: TENU;27+R PLUS GAN2:
TENU;17+NDA2 TIMES: AN ASH BAL GI GISH GUD GUL HI KESH2 LAK-050 MASH NE NUN SHE U URUDA USH;27+ ASH
PLUS: ASH;28+DIM: GUNU;28+ME PLUS GAN2: TENU;28+PAP PLUS: PAP;28+SHE PLUS: ASH;36+ A: AN;38+SH PLUS:
ASH;28+U PLUS: U;29+2 PLUS: ASH;16+U11: TENU;19+ OVER NU11 BUR OVER: BUR;20+ROTATED NINETY: DEGREES;
17+N: TENU;18+ CROSSING: NUN;27+ NUN LAGAR OVER: LAGAR;19+LAGAR TIMES: GAR MASH SAL USH;30+ SAL OVER
NUN LAGAR TIMES: SAL;19+OVER: NUN;18+UZ AB2 TIMES: ASHGAB BI DUG GUD KAD3 LA NE SILA3 U2;30+ IGI:
GUNU;21+KISIM5 TIMES: BI;33+ BI: U;15+PESH2: ASTERISK;16+I CROSSING: PI;18+TIMES: A AB BI BU E I IB
U U2;17+RIG OPPOSING: PIRIG;21+TIMES: KAL UD ZA;15+SAG: GUNU NUTILLU;18+ GUNU TIMES: HA;19+OVER:
SAG;19+TIMES: A DU DUB EN HA KAK KUR LUM MI NUN SAL SHID TAB TAK4 U2 UB UM UR USH;24+ IGI: GUNU;
25+SHE AT: LEFT;17+L LAGAB TIMES: ASH2;16+HA3 TIMES: A BAD GISH NE SHU2 TUR U;25+ U PLUS: A;18+6:
TENU;17+E: HU;18+ OVER: SHE;23+ SHE GAD OVER GAD GAR OVER: GAR;28+TAB OVER TAB GAR OVER: GAR;
19+PLUS: HUB2 NAM2 SAR;17+ID TIMES: A IM;18+M TIMES: A BAL BULUG DIN GAR IGI KUSHU2 LUL MUG SAL;25+
IGI: GUNU;18+R: TENU;19+ OVER SHIR BUR OVER: BUR;17+U OVER INVERTED: SHU;18+2 PLUS DUG TIMES: NI;
25+E2 TIMES: AN;16+I: GUNU;17+ TIMES: TAK4;17+G4 OVER SIG4: SHU2;16+U OVER: SU;15+TA: ASTERISK GUNU;
17+ TIMES: HI MI;17+B: SQUARED;18+ OVER TAB NI OVER NI DISH OVER: DISH;17+G TIMES: BI GUD SHE SHU
TUG2 UD;17+K4 PLUS: SAG;16+E: GUNU;16+I: TENU;17+R OVER: TIR;23+ TIR GAD OVER GAD GAR OVER: GAR;
19+TIMES: TAK4;16+UM TIMES GAN2: TENU;25+THREE: DISH;17+R OVER TUR ZA OVER: ZA;15+U: GUD U;16+ OVER
U PA OVER PA GAR OVER: GAR;24+SUR OVER: SUR;24+U REVERSED OVER U: REVERSED;17+U: U;16+D: GUNU KUSHU2
SHESHIG;17+ SHESHIG TIMES: BAD;18+TIMES: BAD MI;23+ U PLUS U PLUS: U;37+ U: GUNU;16+M TIMES: LAGAB
ME SHA3 U;23+ ME PLUS: DA;17+UM TIMES: KASKAL PA;16+N: GUNU;16+R: SHESHIG;17+ CROSSING: UR;17+2:
INVERTED;18+ TIMES: AL HA NUN U2 UD;24+ A PLUS: HA NA;25+U2 PLUS: ASH BI;17+U TIMES: A ASHGAB BAR
DARA3 DUN GA GAL GAR GU HA IGI IM ISH KI LAK-668 LU3 LUM MIN PA SHE SIG4 TU UD URUDA;24+ GAN2: TENU;
25+U PLUS: GUD;18+DA TIMES: U;16+SH TIMES: A KU KUR TAK4;16+Z3 TIMES: KASKAL;15+ZA: TENU;17+ SQUARED
TIMES: KUR;16+I OVER: ZI;17+B KABA: TENU;16+U OVER ZU PLUS: SAR;17+5 TIMES: A;24+ THREE DISH: TENU;
2+P ON BLACK: SQUARE;4+WITH: STRAW;2+RLING: STONE;4+Y: LOOP;5+ BRACKET: EXTENSION;6+LOGICAL: AND OR;
3+RENCY: EXCHANGE SIGN;4+Y AND: RICE;3+VED STEM PARAGRAPH SIGN: ORNAMENT;2+T OF: MEAT;1+YPRIOT
SYLLABLE: A E I JA JO KA KE KI KO KU LA LE LI LO LU MA ME MI MO MU NA NE NI NO NU O PA PE PI PO PU
RA RE RI RO RU SA SE SI SO SU TA TE TI TO TU U WA WE WI WO XA XE ZA ZO;4+O-MINOAN SIGN: CM001 CM002
CM004~013 CM012B CM015 CM017 CM019 CM021 CM023~030 CM033~041 CM044 CM046 CM047 CM049~056 CM058~064
CM066~076 CM075B CM078~092 CM094~105 CM107~110 CM112 CM114 CM301 CM302;2+RILLIC: KAVYKA PAYEROK;8+
CAPITAL LETTER: A BE CCHE CHE DCHE DE DJE DJERV DWE DZE DZELO DZHE DZWE DZZE DZZHE E EF EL EM EN ER
ES FITA GHE GJE HA HWE I IE IO IOTA IZHITSA JE KA KJE KOPPA KSI LHA LJE NJE O OMEGA OT PE PSI QA RHA
SCHWA SHA SHCHA SHHA SHWE TCHE TE TSE TSHE TSSE TSWE TWE U UK VE WE YA YAE YAT YERU YI YN YU ZE
ZEMLYA ZHE ZHWE;23+ A WITH: BREVE DIAERESIS;25+BKHASIAN: CHE DZE HA;33+ CHE WITH: DESCENDER;25+LEUT:
KA;24+BARRED: O;30+ O WITH: DIAERESIS;26+SHKIR: KA;25+IG: YUS;26+NOCULAR: O;25+LENDED: YUS;25+ROAD:
OMEGA;25+YELORUSSIAN-UKRAINIAN: I;24+CHE WITH: DESCENDER DIAERESIS;32+ VERTICAL: STROKE;25+LOSED
LITTLE: YUS;25+ROSSED: O;24+DOUBLE: O;30+ MONOCULAR: O;24+E WITH: DIAERESIS;25+L WITH: DESCENDER
HOOK TAIL;31+ MIDDLE: HOOK;25+M WITH: TAIL;25+N WITH: DESCENDER HOOK TAIL;31+ LEFT: HOOK;32+MIDDLE:
HOOK;25+R WITH: TICK;25+S WITH: DESCENDER;24+GHE WITH: DESCENDER STROKE UPTURN;32+ MIDDLE: HOOK;
33+STROKE AND: HOOK;24+HA WITH: DESCENDER HOOK STROKE;26+RD: SIGN;24+I WITH: DIAERESIS GRAVE MACRON;
25+E WITH: BREVE GRAVE;25+OTIFIED: A E YAT;32+ BIG: YUS;33+CLOSED LITTLE: YUS;33+LITTLE: YUS;
25+ZHITSA WITH DOUBLE GRAVE: ACCENT;24+KA WITH: DESCENDER HOOK STROKE;31+ VERTICAL: STROKE;
25+HAKASSIAN: CHE;25+OMI: DE DJE DZJE LJE NJE SJE TJE ZJE;24+LITTLE: YUS;24+MONOCULAR: O;28+GRAPH:
UK;24+NEUTRAL: YER;24+O WITH: DIAERESIS;25+MEGA WITH: TITLO;24+PE WITH: DESCENDER;31+ MIDDLE: HOOK;
24+REVERSED: DZE TSE YU ZE;25+OUND: OMEGA;24+SCHWA WITH: DIAERESIS;25+EMISOFT: SIGN;25+HHA WITH:
DESCENDER;26+ORT: I U;29+ I WITH: TAIL;25+OFT: DE EL EM SIGN;25+TRAIGHT: U;32+ U WITH: STROKE;24+TE
WITH: DESCENDER;31+ MIDDLE: HOOK;24+U WITH: DIAERESIS MACRON;30+ DOUBLE: ACUTE;25+KRAINIAN: IE;
24+YERU WITH: DIAERESIS;33+ BACK: YER;24+ZE WITH: DESCENDER DIAERESIS;25+HE WITH: BREVE DESCENDER
DIAERESIS;18+IGATURE A: IE;26+EN: GHE;26+TE: TSE;9+LETTER: PALOCHKA;15+ MULTIOCULAR: O;16+SMALL
CAPITAL: EL;9+SMALL LETTER: A BE CCHE CHE DCHE DE DJE DJERV DWE DZE DZELO DZHE DZWE DZZE DZZHE E EF
EL EM EN ER ES FITA GHE GJE HA HWE I IE IO IOTA IZHITSA JE KA KJE KOPPA KSI LHA LJE NJE O OMEGA OT
PALOCHKA PE PSI QA RHA SCHWA SHA SHCHA SHHA SHWE TCHE TE TSE TSHE TSSE TSWE TWE U UK VE WE YA YAE
YAT YERU YI YN YU ZE ZEMLYA ZHE ZHWE;21+ A WITH: BREVE DIAERESIS;23+BKHASIAN: CHE DZE HA;31+ CHE
WITH: DESCENDER;23+LEUT: KA;22+BARRED: O;28+ O WITH: DIAERESIS;24+SHKIR: KA;23+IG: YUS;24+NOCULAR:
O;23+LENDED: YUS;23+ROAD: OMEGA;23+YELORUSSIAN-UKRAINIAN: I;22+CHE WITH: DESCENDER DIAERESIS;30+
VERTICAL: STROKE;23+LOSED LITTLE: YUS;23+ROSSED: O;22+DOUBLE: O;28+ MONOCULAR: O;22+E WITH:
DIAERESIS;23+L WITH: DESCENDER HOOK TAIL;29+ MIDDLE: HOOK;23+M WITH: TAIL;23+N WITH: DESCENDER HOOK
TAIL;29+ LEFT: HOOK;30+MIDDLE: HOOK;23+R WITH: TICK;23+S WITH: DESCENDER;22+GHE WITH: DESCENDER
STROKE UPTURN;30+ MIDDLE: HOOK;31+STROKE AND: HOOK;22+HA WITH: DESCENDER HOOK STROKE;24+RD: SIGN;
22+I WITH: DIAERESIS GRAVE MACRON;23+E WITH: BREVE GRAVE;23+OTIFIED: A E YAT;30+ BIG: YUS;31+CLOSED
LITTLE: YUS;31+LITTLE: YUS;23+ZHITSA WITH DOUBLE GRAVE: ACCENT;22+KA WITH: DESCENDER HOOK STROKE;29+
VERTICAL: STROKE;23+HAKASSIAN: CHE;23+OMI: DE DJE DZJE LJE NJE SJE TJE ZJE;22+LITTLE: YUS;
23+ONG-LEGGED: DE;22+MONOCULAR: O;26+GRAPH: UK;22+NARROW: O;23+EUTRAL: YER;22+O WITH: DIAERESIS;
23+MEGA WITH: TITLO;22+PE WITH: DESCENDER;29+ MIDDLE: HOOK;22+REVERSED: DZE TSE YU ZE;23+OUND:
OMEGA;27+ED: VE;22+SCHWA WITH: DIAERESIS;23+EMISOFT: SIGN;23+HHA WITH: DESCENDER;24+ORT: I U;27+ I
WITH: TAIL;23+OFT: DE EL EM SIGN;23+TRAIGHT: U;30+ U WITH: STROKE;22+TALL: TE YAT;26+ HARD: SIGN;
23+E WITH: DESCENDER;29+ MIDDLE: HOOK;23+HREE-LEGGED: TE;22+U WITH: DIAERESIS MACRON;28+ DOUBLE:
ACUTE;23+KRAINIAN: IE;23+NBLENDED: UK;22+WIDE: ES;22+YERU WITH: DIAERESIS;31+ BACK: YER;22+ZE WITH:
DESCENDER DIAERESIS;23+HE WITH: BREVE DESCENDER DIAERESIS;16+IGATURE A: IE;24+EN: GHE;24+TE: TSE;
9+THOUSANDS: SIGN;0+DAGGER: KNIFE;6+ WITH LEFT: GUARD;12+RIGHT: GUARD;2+LET: SYMBOL;2+RK: SHADE
SUNGLASSES;2+SH: SYMBOL;4+ WITH LEFT: UPTURN;4+ED: OVERLINE;6+ LOW: LINE;7+TRIANGLE-HEADED
RIGHTWARDS: ARROW;2+TA LINK: ESCAPE;1+EAF: PERSON;2+CIDUOUS: TREE;4+MAL EXPONENT: SYMBOL;8+SEPARATOR
KEY: SYMBOL;3+REASE FONT SIZE: SYMBOL;2+GREE: CELSIUS FAHRENHEIT SIGN;2+LIVERY: TRUCK;3+TA EQUAL:
TO;2+NTISTRY SYMBOL LIGHT DOWN AND: HORIZONTAL;31+ HORIZONTAL WITH: CIRCLE TRIANGLE WAVE;23+UP AND:
HORIZONTAL;29+ HORIZONTAL WITH: CIRCLE TRIANGLE WAVE;23+VERTICAL AND: WAVE;35+ BOTTOM: LEFT RIGHT;
36+TOP: LEFT RIGHT;32+WITH: CIRCLE TRIANGLE;2+PARTMENT: STORE;2+RELICT HOUSE: BUILDING;2+SCENDING:
NODE;3+ERET CAPITAL LETTER: AY BEE CHEE DEE EF EL EM EN ENG ER ES ESH ETH EW GAY H JEE KAY OI OW PEE
TEE THEE VEE WU YEE ZEE ZHEE;22+ LONG: A AH E I O OO;23+SHORT: A AH E I O OO;8+SMALL LETTER: AY BEE
CHEE DEE EF EL EM EN ENG ER ES ESH ETH EW GAY H JEE KAY OI OW PEE TEE THEE VEE WU YEE ZEE ZHEE;20+
LONG: A AH E I O OO;21+SHORT: A AH E I O OO;5+T: ISLAND;3+KTOP: COMPUTER WINDOW;2+VANAGARI: CARET
DANDA HEADSTROKE OM;10+ ABBREVIATION: SIGN;12+CUTE: ACCENT;11+DIGIT: EIGHT FIVE FOUR NINE ONE SEVEN
SIX THREE TWO ZERO;12+OUBLE: DANDA;11+GAP: FILLER;12+RAVE: ACCENT;11+JAIN: OM;11+LETTER: A AA AI AU
AW AY BA BBA BHA CA CHA DA DDA DDDA DDDHA DDHA DHA E FA GA GGA GHA GHHA HA I II JA JHA JJA KA KHA
KHHA LA LLA LLLA MA NA NGA NNA NNNA NYA O OE OOE PA PHA QA RA RHA RRA SA SHA SSA TA THA TTA TTHA U
UE UU UUE VA YA YYA ZA ZHA;17+ CANDRA: A E O;18+GLOTTAL: STOP;18+HEAVY: YA;18+MARWARI: DDA;18+SHORT:
A E O;18+VOCALIC: L LL R RR;11+SIGN: ANUSVARA AVAGRAHA CANDRABINDU NUKTA PUSHPIKA SIDDHAM VIRAMA
VISARGA;15+ CANDRABINDU: AVAGRAHA THREE TWO VIRAMA;16+DOUBLE CANDRABINDU: VIRAMA;16+HIGH SPACING:
DOT;16+INVERTED: CANDRABINDU;16+SPACING: CANDRABINDU;12+TRESS SIGN: ANUDATTA UDATTA;11+VOWEL SIGN:
AA AI AU AW AY E I II O OE OOE U UE UU UUE;21+ CANDRA: E O;28+ LONG: E;22+PRISHTHAMATRA: E;22+SHORT:
E O;22+VOCALIC: L LL R RR;3+ICE CONTROL: FOUR ONE STRING THREE TWO;1+IAMETER: SIGN;4+OND: OPERATOR
TARGET;7+ SHAPE WITH A DOT: INSIDE;8+WITH BOTTOM HALF: BLACK;13+LEFT HALF: BLACK;13+RIGHT HALF:
BLACK;13+TOP HALF: BLACK;2+E: FACE-1~6;3+SEL: LOCOMOTIVE;2+FFERENCE: BETWEEN;2+GIT: EIGHT FIVE FOUR
NINE ONE SEVEN SIX THREE TWO ZERO;5+ EIGHT: COMMA;11+ FULL: STOP;6+FIVE: COMMA;10+ FULL: STOP;7+OUR:
COMMA;10+ FULL: STOP;6+NINE: COMMA;10+ FULL: STOP;6+ONE: COMMA;9+ FULL: STOP;6+SEVEN: COMMA;11+
FULL: STOP;7+IX: COMMA;9+ FULL: STOP;6+THREE: COMMA;11+ FULL: STOP;7+WO: COMMA;9+ FULL: STOP;6+ZERO:
COMMA;10+ FULL: STOP;3+RAM FOR: EARTH;10+ EARTHLY: HEAVEN HUMAN;11+GREATER: YANG YIN;11+HEAVENLY:
EARTH;12+UMAN: EARTH;11+LESSER: YANG YIN;2+MENSION: ORIGIN;2+NGBAT CIRCLED SANS-SERIF DIGIT: EIGHT
FIVE FOUR NINE ONE SEVEN SIX THREE TWO ZERO;27+NUMBER: TEN;8+NEGATIVE CIRCLED DIGIT: EIGHT FIVE FOUR
NINE ONE SEVEN SIX THREE TWO;25+NUMBER: TEN;25+SANS-SERIF DIGIT: EIGHT FIVE FOUR NINE ONE SEVEN SIX
THREE TWO ZERO;36+NUMBER: TEN;2+RECT: HIT;6+ CURRENT SYMBOL FORM: TWO;2+SABLED: CAR;4+PPOINTED:
FACE;12+ BUT RELIEVED: FACE;3+CONTINUOUS UNDERLINE: SYMBOL;3+GUISED: FACE;2+TTO: MARK;2+VES AKURU:
VIRAMA;11+ DIGIT: EIGHT FIVE FOUR NINE ONE SEVEN SIX THREE TWO ZERO;13+OUBLE: DANDA;12+END OF TEXT:
MARK;12+GAP: FILLER;12+INITIAL: RA;12+LETTER: A AA BA BHA CA CHA DA DDA DDHA DHA E GA GHA HA I II JA
KA KHA LA LLA MA NA NGA NNA NYA O PA PHA RA SA SHA SSA TA THA TTA U UU VA YA YYA ZA;12+MEDIAL: RA
YA;12+PREFIXED NASAL: SIGN;12+SIGN: ANUSVARA CANDRABINDU HALANTA NUKTA;12+VOWEL SIGN: AA AI E I II O
U UU;3+ING: MASK;4+SION: SIGN SLASH TIMES;3+ORCE: SYMBOL;2+YA: LAMP;2+ZZY: FACE SYMBOL;1+NA DOUBLE:
HELIX;1+O NOT LITTER: SYMBOL;2+CUMENT WITH: PICTURE TEXT;13+ TEXT AND: PICTURE;2+ES NOT: DIVIDE
FORCE PRECEDE PROVE SUCCEED;8+ CONTAIN AS: MEMBER;19+ NORMAL: SUBGROUP;26+ SUBGROUP OR: EQUAL;
9+DIVIDE WITH REVERSED NEGATION: SLASH;9+PRECEDE OR: EQUAL;9+SUCCEED OR: EQUAL;2+G: FACE;3+RA
ABBREVIATION: SIGN;6+LETTER: A AA AI AU BA BHA CA CHA DA DDA DDHA DHA E GA GHA HA I II JA JHA KA KHA
LA MA NA NGA NNA NYA O PA PHA RA RRA SA SHA SSA TA THA TTA TTHA U UU VA YA;6+SIGN: ANUSVARA NUKTA
VIRAMA VISARGA;6+VOWEL SIGN: AA AI AU E I II O U UU;16+ VOCALIC: R RR;2+LLAR: SIGN;2+MINO TILE:
HORIZONTAL-00-00~06 HORIZONTAL-01-00~06 HORIZONTAL-02-00~06 HORIZONTAL-03-00~06 HORIZONTAL-04-00~06
HORIZONTAL-05-00~06 HORIZONTAL-06-00~06 VERTICAL-00-00~06 VERTICAL-01-00~06 VERTICAL-02-00~06
VERTICAL-03-00~06 VERTICAL-04-00~06 VERTICAL-05-00~06 VERTICAL-06-00~06;11+ HORIZONTAL: BACK;
12+VERTICAL: BACK;2+NG: SIGN;2+T: ABOVE MINUS OPERATOR PLUS;3+TED: CIRCLE CROSS FENCE OBELOS SOLIDUS
SQUARE;6+ LINE: FACE;7+RIGHT-POINTING: ANGLE;7+TRANSPOSITION: MARKER;2+UBLE: DAGGER HYPHEN INTEGRAL
INTERSECTION PLUS PRECEDES PRIME SUBSET SUCCEEDS SUPERSET UNION;6+ ACUTE: ACCENT;7+CIRCLED DIGIT:
EIGHT FIVE FOUR NINE ONE SEVEN SIX THREE TWO;15+NUMBER: TEN;8+OLON: EQUAL;8+URLY: LOOP;7+DOWN: TACK;
7+EXCLAMATION: MARK;7+HIGH-REVERSED-9 QUOTATION: MARK;7+LEFT ARC GREATER-THAN: BRACKET;8+OGICAL: AND
OR;9+W: LINE;10+-9 QUOTATION: MARK;11+REVERSED-9 QUOTATION: MARK;7+NESTED: GREATER-THAN LESS-THAN;
13+ LESS-THAN WITH: UNDERBAR;7+OBLIQUE: HYPHEN;7+PRIME QUOTATION: MARK;7+QUESTION: MARK;7+RIGHT ARC
LESS-THAN: BRACKET;7+SOLIDUS: OPERATOR;8+QUARE: INTERSECTION UNION;8+TACKED: COMMA;9+ROKE NOT: SIGN;
8+USPENSION: MARK;7+UP: TACK;7+VERTICAL: BAR LINE;15+ BAR DOUBLE LEFT: TURNSTILE;27+RIGHT:
TURNSTILE;20+LEFT: TURNSTILE;7+WAVY: OVERLINE;6+-ENDED: MULTIMAP;7+LINE EQUAL TO OR: GREATER-THAN
LESS-THAN;12+SLANTED EQUAL TO OR: GREATER-THAN LESS-THAN;20+GREATER-THAN OR EQUAL: TO;20+LESS-THAN
OR EQUAL: TO;7+STRUCK CAPITAL: C GAMMA H N P PI Q R Z;14+ITALIC CAPITAL: D;21+SMALL: D E I J;
14+N-ARY: SUMMATION;14+SMALL: GAMMA PI;6+D: SYMBOL;7+ FEMALE: SIGN;8+MALE: SIGN;2+VE OF: PEACE;2+WN:
ARROWHEAD TACK;4+ FISH: TAIL;5+RIGHT DIAGONAL: ELLIPSIS;5+TACK WITH CIRCLE: BELOW;4+-POINTING RED:
TRIANGLE;14+SMALL RED: TRIANGLE;14+TRIANGLE WITH LEFT HALF: BLACK;28+RIGHT HALF: BLACK;4+WARD
FACING: HOOK;15+ HOOK WITH: DOT;16+NOTCHED: HOOK;23+ HOOK WITH: DOT;8+S: ANCORA ARROW ROCKET;9+
ARROW AND RIGHT ONE EIGHTH: BLOCK;16+FROM: BAR;16+LEFTWARDS OF UPWARDS: ARROW;16+TO: BAR;16+WITH
CORNER: LEFTWARDS;21+DOUBLE: STROKE;21+EQUILATERAL: ARROWHEAD;21+HORIZONTAL: STROKE;21+LARGE
TRIANGLE: ARROWHEAD;21+MEDIUM TRIANGLE: ARROWHEAD;21+NOTCHED: TAIL;21+SMALL EQUILATERAL: ARROWHEAD;
27+TRIANGLE: ARROWHEAD;21+TIP: LEFTWARDS RIGHTWARDS;10+BLACK: ARROW;15+ CIRCLED WHITE: ARROW;
10+COMPRESSED: ARROW;10+DASHED: ARROW;11+OUBLE: ARROW;10+FINGER-POST: ARROW;10+HARPOON WITH BARB:
LEFTWARDS RIGHTWARDS;27+ LEFT BESIDE DOWNWARDS HARPOON WITH BARB: RIGHT;40+UPWARDS HARPOON WITH
BARB: RIGHT;33+FROM: BAR;33+TO: BAR;28+RIGHT FROM: BAR;34+TO: BAR;11+EAVY: ARROW;15+ COMPRESSED:
ARROW;10+PAIRED: ARROWS;10+QUADRUPLE: ARROW;10+SANS-SERIF: ARROW;11+QUARED: ARROW;10+TRIANGLE:
ARROWHEAD;18+-HEADED: ARROW;25+ ARROW LEFTWARDS OF UPWARDS TRIANGLE-HEADED: ARROW;32+TO: BAR;32+WITH
BOLD: SHAFT;37+DOUBLE HORIZONTAL: STROKE;37+HEAVY: SHAFT;37+LONG TIP: LEFTWARDS RIGHTWARDS;
37+MEDIUM: SHAFT;37+NARROW: SHAFT;37+VERY HEAVY: SHAFT;26+DASHED: ARROW;26+PAIRED: ARROWS;26+ZIGZAG:
ARROW;13+PLE: ARROW;11+WO HEADED: ARROW;13+-HEADED ARROW WITH TRIANGLE: ARROWHEADS;10+WHITE: ARROW;
15+ ARROW WITHIN TRIANGLE: ARROWHEAD;10+ZIGZAG: ARROW;1+RACHMA: SIGN;3+FTING POINT RIGHTWARDS:
ARROW;3+GON: FACE;2+IVE SLOW: SIGN;2+OMEDARY: CAMEL;3+OLING: FACE;3+P OF: BLOOD;2+UM WITH:
DRUMSTICKS;1+UPLOYAN AFFIX ATTACHED: SECANT TAIL TANGENT;23+ E: HOOK;24+I: HOOK;24+LEFT-TO-RIGHT:
SECANT;24+TANGENT: HOOK;15+HIGH: ACUTE CIRCLE DOT GRAVE LINE VERTICAL WAVE;19+ LONG: GRAVE;20+TIGHT:
ACUTE;20+VERTICAL: SECANT;15+LEFT HORIZONTAL: SECANT;16+OW: ACUTE ARROW CIRCLE DOT GRAVE LINE
VERTICAL WAVE;18+ LONG: GRAVE;19+TIGHT: ACUTE;19+VERTICAL: SECANT;15+MID HORIZONTAL: SECANT;
19+VERTICAL: SECANT;15+RIGHT HORIZONTAL: SECANT;9+DOUBLE: MARK;9+LETTER: A AOU B D DH E EE EU F G H
HL I IE J K KK L LH M N O OA OOH OU OW P R RH S T TH U UH UI V W WA WEI WH WI WO WOW X XW YE;15+ D:
S;16+F: N;16+G R: S;16+J: M N S;17+ M: S;18+N: S;18+S WITH: DOT;18+WITH: DOT;22+ DOTS INSIDE AND:
ABOVE;16+K: M;17+ R: S;16+LONG: I U;16+M: N S;17+ N: S;18+WITH: DOT;16+N: M S;17+ M: S;18+WITH: DOT;
17+ASAL: A I O U;16+P: N;17+ERNIN: AM AN;16+R: S;17+OMANIAN: I U;16+S: J K M N P S T;17+ J: S;18+K:
R;18+P: R;18+T: R;18+WITH: DOT;22+ DOT: BELOW;17+HORT: I;17+LOAN: AN DH EE EH EN J ON OW U;16+T: S;
17+ R: S;16+U: N;16+VOCALIC: M;16+W: R;9+PUNCTUATION CHINOOK FULL: STOP;9+SIGN O WITH: CROSS;9+THICK
LETTER: SELECTOR;0+E-MAIL: SYMBOL;1+AR OF: MAIZE RICE;4+WITH HEARING: AID;3+TH: GROUND;5+ GLOBE:
AMERICAS ASIA-AUSTRALIA EUROPE-AFRICA;2+ST SYRIAC: CROSS;1+DITORIAL: CORONIS;1+GYPTIAN HIEROGLYPH:
A001~070 A005A A006A A006B A014A A017A A032A A040A A042A A043A A045A AA001~032 AA007A AA007B
B001~009 B005A C001~024 C002A C002B C002C C010A D001~067 D008A D027A D031A D034A D046A D048A D050A
D050B D050C D050D D050E D050F D050G D050H D050I D052A D054A D067A D067B D067C D067D D067E D067F
D067G D067H E001~034 E008A E009A E016A E017A E020A E028A E034A E036~038 F001A F001~053 F013A F021A
F031A F037A F038A F045A F046A F047A F051A F051B F051C G001~054 G006A G007A G007B G011A G020A G026A
G036A G037A G043A G045A H001~008 H006A I001~015 I005A I009A I010A I011A K001~008 L001~008 L002A
L006A M001A M001B M001~044 M003A M010A M012A M012B M012C M012D M012E M012F M012G M012H M015A M016A
M017A M022A M024A M028A M031A M033A M033B M040A N001~042 N018A N018B N025A N033A N034A N035A N037A
NL001~020 NL005A NL017A NU001~022 NU010A NU011A NU018A NU022A O001A O001~051 O005A O006A O006B O006C
O006D O006E O006F O010A O010B O010C O019A O020A O024A O025A O029A O030A O033A O036A O036B O036C
O036D O050A O050B P001A P001~011 P003A Q001~007 R001~029 R002A R003A R003B R010A R016A S001~046
S002A S006A S014A S014B S017A S026A S026B S035A T001~036 T003A T007A T008A T009A T011A T016A T032A
T033A U001~042 U006A U006B U023A U029A U032A V001A V001B V001C V001D V001E V001F V001G V001H V001I
V001~040 V002A V007A V007B V011A V011B V011C V012A V012B V020A V020B V020C V020D V020E V020F V020G
V020H V020I V020J V020K V020L V023A V028A V029A V030A V031A V033A V037A V040A W001~025 W003A W009A
W010A W014A W017A W018A W024A X001~008 X004A X004B X006A X008A Y001A Y001~008 Z001~016 Z002A Z002B
Z002C Z002D Z003A Z003B Z004A Z005A Z015A Z015B Z015C Z015D Z015E Z015F Z015G Z015H Z015I Z016A
Z016B Z016C Z016D Z016E Z016F Z016G Z016H;19+ BEGIN: SEGMENT;20+END: SEGMENT;20+HORIZONTAL: JOINER;
20+INSERT AT BOTTOM: END START;30+TOP: END START;20+OVERLAY: MIDDLE;20+VERTICAL: JOINER;1+IGHT
PETALLED OUTLINED BLACK: FLORETTE;7+OINTED BLACK: STAR;14+PINWHEEL: STAR;14+RECTILINEAR BLACK: STAR;
6+SPOKED: ASTERISK;6+TEARDROP-SPOKED PROPELLER: ASTERISK;5+H: NOTE;1+JECT: SYMBOL;1+LBASAN LETTER: A
BE CE CHE DE DHE E EI FE GE GHAMMA GHE GJE HE I JE KE KHE LE LLE ME NA NDE NE NJE O PE QE RE RRE SE
SHE TE THE U VE XE Y ZE ZHE;2+ECTRIC: ARROW PLUG TORCH;8+ LIGHT: BULB;8+AL: INTERSECTION;3+MENT: OF;
7+ OF OPENING: DOWNWARDS UPWARDS;11+WITH: OVERBAR UNDERBAR;15+ DOT: ABOVE;16+LONG HORIZONTAL:
STROKE;16+TWO HORIZONTAL: STROKES;16+VERTICAL BAR AT END OF HORIZONTAL: STROKE;2+YMAIC LETTER: ALEPH
AYIN BETH DALETH GIMEL HE HETH KAPH LAMEDH MEM NUN PE QOPH RESH SADHE SAMEKH SHIN TAW TETH WAW YODH
ZAYIN;9+IGATURE: ZAYIN-YODH;1+M: DASH QUAD SPACE;2+OJI COMPONENT: BALD;15+ CURLY: HAIR;16+RED: HAIR;
16+WHITE: HAIR;6+MODIFIER FITZPATRICK: TYPE-1-2 TYPE-3~6;2+PHASIS: SYMBOL;3+TY: DOCUMENT NEST NOTE
PAGE PAGES SET;5+ NOTE: PAD PAGE;6+SET WITH: OVERBAR;14+ LEFT ARROW: ABOVE;15+RIGHT ARROW: ABOVE;
15+SMALL CIRCLE: ABOVE;1+N: DASH QUAD SPACE;2+D OF: LINE MEDIUM PROOF TEXT TRANSMISSION;6+ GUARDED:
AREA;7+PROTECTED: AREA;7+SELECTED: AREA;7+TRANSMISSION: BLOCK;4+WITH LEFTWARDS ARROW: ABOVE;2+TER:
SYMBOL;2+VELOPE WITH: LIGHTNING;13+ DOWNWARDS ARROW: ABOVE;1+QUAL AND PARALLEL: TO;6+TO BY:
DEFINITION;9+OR: GREATER-THAN LESS-THAN PRECEDES SUCCEEDS;5+S: COLON SIGN;6+ SIGN ABOVE LEFTWARDS:
ARROW;18+PLUS: SIGN;18+RIGHTWARDS: ARROW;18+TILDE: OPERATOR;13+ND SLANTED: PARALLEL;23+ PARALLEL
WITH TILDE: ABOVE;12+WITH BUMPY: ABOVE;17+DOT: BELOW;17+INFINITY: BELOW;17+TWO DOTS ABOVE AND TWO
DOTS: BELOW;7+WITH: ASTERISK;3+IANGULAR: TO;4+VALENT: TO;10+ WITH FOUR DOTS: ABOVE;1+RASE TO THE:
LEFT RIGHT;2+IS FORM: ONE TWO;2+ROR-BARRED BLACK: CIRCLE DIAMOND SQUARE;13+WHITE: CIRCLE DIAMOND
SQUARE;1+STIMATED: SYMBOL;1+THIOPIC: COLON COMMA SEMICOLON WORDSPACE;8+ COMBINING GEMINATION: MARK;
29+ AND VOWEL LENGTH: MARK;19+VOWEL LENGTH: MARK;9+DIGIT: EIGHT FIVE FOUR NINE ONE SEVEN SIX THREE
TWO;9+FULL: STOP;9+NUMBER: EIGHTY FIFTY FORTY HUNDRED NINETY SEVENTY SIXTY TEN THIRTY TWENTY;15+
TEN: THOUSAND;9+PARAGRAPH: SEPARATOR;10+REFACE: COLON;9+QUESTION: MARK;9+SECTION: MARK;10+YLLABLE:
BA BAA BBA BBAA BBE BBEE BBI BBO BBU BE BEE BI BO BOA BU BWA BWE BWEE BWI CA CAA CCA CCAA CCE CCEE
CCHA CCHAA CCHE CCHEE CCHHA CCHHAA CCHHE CCHHEE CCHHI CCHHO CCHHU CCHI CCHO CCHU CCI CCO CCU CE CEE
CHA CHAA CHE CHEE CHI CHO CHOA CHU CHWA CI CO COA CU CWA DA DAA DDA DDAA DDE DDEE DDHAA DDHE DDHEE
DDHI DDHO DDHU DDI DDO DDOA DDU DDWA DE DEE DI DO DOA DU DWA DZAA DZE DZEE DZI DZO DZU FA FAA FE FEE
FI FO FU FWA FWE FWEE FWI FYA GA GAA GE GEE GGA GGAA GGE GGEE GGI GGO GGU GGWA GGWAA GGWE GGWEE GGWI
GI GO GOA GU GWA GWAA GWE GWEE GWI GYA GYAA GYE GYEE GYI GYO GYU HA HAA HE HEE HHA HHAA HHE HHEE HHI
HHO HHU HHWA HHWE HHWEE HHWI HHYA HHYAA HHYE HHYEE HHYI HHYO HHYU HI HO HOA HU JA JAA JE JEE JI JO
JOA JU JWA KA KAA KE KEE KI KO KOA KU KWA KWAA KWE KWEE KWI KXA KXAA KXE KXEE KXI KXO KXU KXWA KXWAA
KXWE KXWEE KXWI KYA KYAA KYE KYEE KYI KYO KYU LA LAA LE LEE LI LO LOA LU LWA MA MAA ME MEE MI MO MOA
MU MWA MWE MWEE MWI MYA NA NAA NE NEE NI NO NOA NU NWA NYA NYAA NYE NYEE NYI NYO NYOA NYU NYWA PA
PAA PE PEE PHA PHAA PHE PHEE PHI PHO PHOA PHU PHWA PI PO POA PU PWA PWE PWEE PWI QA QAA QE QEE QHA
QHAA QHE QHEE QHI QHO QHU QHWA QHWAA QHWE QHWEE QHWI QI QO QOA QU QWA QWAA QWE QWEE QWI QYA QYAA QYE
QYEE QYI QYO QYU RA RAA RE REE RI RO ROA RU RWA RYA SA SAA SE SEE SHA SHAA SHE SHEE SHI SHO SHOA SHU
SHWA SI SO SOA SSA SSAA SSE SSEE SSI SSO SSU SU SWA SZA SZAA SZE SZEE SZI SZO SZU SZWA TA TAA TE TEE
THA THAA THE THEE THI THO THOA THU THWA TI TO TOA TSA TSAA TSE TSEE TSI TSO TSU TSWA TTHAA TTHE
TTHEE TTHI TTHO TTHU TU TWA TZA TZAA TZE TZEE TZI TZO TZOA TZU VA VAA VE VEE VI VO VU VWA WA WAA WE
WEE WI WO WOA WU XA XAA XE XEE XI XO XOA XU XWA XWAA XWE XWEE XWI XYA XYAA XYE XYEE XYI XYO XYU YA
YAA YE YEE YI YO YOA YU ZA ZAA ZE ZEE ZHA ZHAA ZHE ZHEE ZHI ZHO ZHU ZHWA ZI ZO ZOA ZU ZWA ZZA ZZAA
ZZE ZZEE ZZI ZZO ZZU;17+ GLOTTAL: A AA E EE I O OA U WA;19+URAGE: BWEE BWI FWEE FWI GWE GWEE GWI
HHWA KWE KWEE KWI MWEE MWI PWEE PWI QWE QWEE QWI;18+PHARYNGEAL: A AA E EE I O U;18+SEBATBEIT: BWA
FWA MWA PWA;9+TONAL MARK: CHIRET DERET DERET-HIDET DIFAT HIDET KENAT KURT RIKRIK YIZET;19+ SHORT:
RIKRIK;1+ULER: CONSTANT;2+RO: SIGN;4+-CURRENCY: SIGN;4+PEAN: CASTLE;8+ POST: OFFICE;1+VERGREEN:
TREE;1+XCLAMATION: MARK;11+ QUESTION: MARK;2+PRESSIONLESS: FACE;2+TENDED ARABIC-INDIC DIGIT: EIGHT
FIVE FOUR NINE ONE SEVEN SIX THREE TWO ZERO;3+RATERRESTRIAL: ALIEN;4+EMELY HEAVY: SALTIRE;15+ FIVE
SPOKED: ASTERISK;16+GREEK: CROSS;16+SIX SPOKED: ASTERISK;16+WHITE: CIRCLE SQUARE;0+FACE: MASSAGE
PALM;4+ HOLDING BACK: TEARS;5+SAVOURING DELICIOUS: FOOD;6+CREAMING IN: FEAR;5+THROWING A: KISS;
5+WITH: HEAD-BANDAGE MONOCLE THERMOMETER;9+ COLD: SWEAT;12+WBOY: HAT;10+DIAGONAL: MOUTH;10+FINGER
COVERING CLOSED: LIPS;10+LOOK OF: TRIUMPH;10+MEDICAL: MASK;10+NO GOOD: GESTURE;10+OK: GESTURE;11+NE
EYEBROW: RAISED;11+PEN: MOUTH;14+ EYES AND HAND OVER: MOUTH;15+MOUTH: VOMITING;20+ AND COLD: SWEAT;
10+PARTY HORN AND PARTY: HAT;11+EEKING: EYE;11+LEADING: EYES;10+ROLLING: EYES;10+STUCK-OUT: TONGUE;
19+ TONGUE AND TIGHTLY-CLOSED: EYES;31+WINKING: EYE;10+TEARS OF: JOY;10+UNEVEN EYES AND WAVY: MOUTH;
9+OUT: MOUTH;3+SIMILE: SIGN;2+LLEN: LEAF;4+ING DIAGONAL CROSSING NORTH EAST: ARROW;26+RISING:
DIAGONAL;17+IN WHITE CIRCLE IN BLACK: SQUARE;2+RSI: SYMBOL;2+THER: CHRISTMAS;2+X: ICON MACHINE;
1+EARFUL: FACE;2+MALE: SIGN;3+ININE ORDINAL: INDICATOR;2+RRIS: WHEEL;1+IELD HOCKEY STICK AND: BALL;
2+GURE: DASH SPACE;2+LE: CABINET FOLDER SEPARATOR;3+M: FRAMES PROJECTOR;2+NITE PART: INTEGRAL;2+RE:
ENGINE EXTINGUISHER;4+WORK: SPARKLER;3+ST PLACE: MEDAL;6+QUARTER: MOON;13+ MOON: SYMBOL;18+ WITH:
FACE;6+STRONG: ISOLATE;2+SH CAKE WITH SWIRL: DESIGN;4+ING POLE AND: FISH;3+TED HAND: SIGN;2+VE DOT:
MARK PUNCTUATION;1+LAG IN: HOLE;3+T: SHOE;2+EXED: BICEPS;2+OPPY: DISK;3+RAL: HEART;3+WER PLAYING:
CARDS;8+UNCTUATION: MARK;2+USHED: FACE;2+YING: DISC ENVELOPE SAUCER;1+OR: ALL;3+K AND: KNIFE;8+
KNIFE WITH: PLATE;4+ED: PARAGRAPHOS;3+M: FEED;3+TUNE: COOKIE;2+UR BALLOON-SPOKED: ASTERISK;
5+CLUB-SPOKED: ASTERISK;6+ORNER ARROWS CIRCLING: ANTICLOCKWISE;5+DOT: MARK PUNCTUATION;5+LEAF:
CLOVER;5+POINTED BLACK: STAR;5+TEARDROP-SPOKED: ASTERISK;4+-PER-EM: SPACE;4+TH: ROOT;2+X: FACE;
1+RACTION: SLASH;8+ NUMERATOR: ONE;3+ME WITH: PICTURE TILES;10+ AN: X;2+EEZING: FACE;3+NCH: FRIES;6+
FRANC: SIGN;2+IED: SHRIMP;2+OG: FACE;3+NT-FACING BABY: CHICK;6+TILTED SHADOWED WHITE RIGHTWARDS:
ARROW;3+WNING FACE WITH OPEN: MOUTH;1+UEL: PUMP;2+LL: BLOCK STOP;4+ MOON: SYMBOL;9+ WITH: FACE;
5+OUTER: JOIN;4+WIDTH: AMPERSAND APOSTROPHE ASTERISK COLON COMMA HYPHEN-MINUS MACRON SEMICOLON
SOLIDUS TILDE;9+ BROKEN: BAR;10+CENT: SIGN;11+IRCUMFLEX: ACCENT;11+OMMERCIAL: AT;10+DIGIT: EIGHT
FIVE FOUR NINE ONE SEVEN SIX THREE TWO ZERO;11+OLLAR: SIGN;10+EQUALS: SIGN;11+XCLAMATION: MARK;
10+FULL: STOP;10+GRAVE: ACCENT;12+EATER-THAN: SIGN;10+LATIN CAPITAL LETTER: A B C D E F G H I J K L
M N O P Q R S T U V W X Y Z;16+SMALL LETTER: A B C D E F G H I J K L M N O P Q R S T U V W X Y Z;
11+EFT: PARENTHESIS;14+ CURLY: BRACKET;15+SQUARE: BRACKET;15+WHITE: PARENTHESIS;12+SS-THAN: SIGN;
11+OW: LINE;10+NOT: SIGN;11+UMBER: SIGN;10+PERCENT: SIGN;11+LUS: SIGN;11+OUND: SIGN;10+QUESTION:
MARK;12+OTATION: MARK;10+REVERSE: SOLIDUS;11+IGHT: PARENTHESIS;15+ CURLY: BRACKET;16+SQUARE:
BRACKET;16+WHITE: PARENTHESIS;10+VERTICAL: LINE;10+WON: SIGN;10+YEN: SIGN;2+NCTION: APPLICATION;
3+ERAL: URN;0+GAME: DIE;1+EAR WITH: HANDLES;9+OUT: HUB;2+M: STONE;2+OMETRIC: PROPORTION;9+ALLY
EQUAL: TO;17+IVALENT: TO;3+RGIAN CAPITAL LETTER: AEN AN BAN CAN CHAR CHIN CIL DON EN GAN GHAN HAE
HAR HE HIE HOE IN JHAN JIL KAN KHAR LAS MAN NAR ON PAR PHAR QAR RAE SAN SHIN TAN TAR UN VIN WE XAN
YN ZEN ZHAR;9+LETTER: AEN AIN AN BAN CAN CHAR CHIN CIL DON ELIFI EN FI GAN GHAN HAE HAR HE HIE HOE
IN JHAN JIL KAN KHAR LAS MAN NAR ON PAR PHAR QAR RAE SAN SHIN TAN TAR UN VIN WE XAN YN ZEN ZHAR;15+
HARD: SIGN;16+LABIAL: SIGN;16+TURNED: GAN;9+MTAVRULI CAPITAL LETTER: AEN AIN AN BAN CAN CHAR CHIN
CIL DON ELIFI EN FI GAN GHAN HAE HAR HE HIE HOE IN JHAN JIL KAN KHAR LAS MAN NAR ON PAR PHAR QAR RAE
SAN SHIN TAN TAR UN VIN WE XAN YN ZEN ZHAR;32+ HARD: SIGN;33+LABIAL: SIGN;33+TURNED: GAN;
9+PARAGRAPH: SEPARATOR;9+SMALL LETTER: AEN AN BAN CAN CHAR CHIN CIL DON EN GAN GHAN HAE HAR HE HIE
HOE IN JHAN JIL KAN KHAR LAS MAN NAR ON PAR PHAR QAR RAE SAN SHIN TAN TAR UN VIN WE XAN YN ZEN ZHAR;
2+RMAN PENNY: SIGN;2+TA: MARK;1+IMEL: SYMBOL;2+RAFFE: FACE;3+LS: SYMBOL;1+LAGOLITIC CAPITAL LETTER:
AZU BUKY CHRIVI DJERVI DOBRO DZELO FITA FRITU GLAGOLI HERU I IZHE IZHITSA KAKO LJUDIJE MYSLITE NASHI
ONU OTU PE POKOJI RITSI SHA SHTA SHTAPIC SLOVO TSI TVRIDO UKU VEDE YATI YERI YERU YESTU YO YU ZEMLJA
ZHIVETE;25+ BIG: YUS;26+CAUDATE: CHRIVI;26+INITIAL: IZHE;27+OTATED BIG: YUS;34+SMALL: YUS;
26+LATINATE: MYSLITE;26+SMALL: YUS;31+ YUS WITH: TAIL;27+PIDERY: HA;26+TROKUTASTI: A;11+SMALL
LETTER: AZU BUKY CHRIVI DJERVI DOBRO DZELO FITA FRITU GLAGOLI HERU I IZHE IZHITSA KAKO LJUDIJE
MYSLITE NASHI ONU OTU PE POKOJI RITSI SHA SHTA SHTAPIC SLOVO TSI TVRIDO UKU VEDE YATI YERI YERU
YESTU YO YU ZEMLJA ZHIVETE;23+ BIG: YUS;24+CAUDATE: CHRIVI;24+INITIAL: IZHE;25+OTATED BIG: YUS;
32+SMALL: YUS;24+LATINATE: MYSLITE;24+SMALL: YUS;29+ YUS WITH: TAIL;25+PIDERY: HA;24+TROKUTASTI: A;
3+SS OF: MILK;2+EICH: STARK;2+OBE WITH: MERIDIANS;3+WING: STAR;1+OAL: NET;2+THIC LETTER: AHSA AIHVUS
BAIRKAN DAGS EIS FAIHU GIBA HAGL HWAIR IGGWS IUJA JER KUSMA LAGUS MANNA NAUTHS NINETY OTHAL PAIRTHRA
QAIRTHRA RAIDA SAUIL TEIWS THIUTH URUS WINJA;13+ NINE: HUNDRED;1+RADUATION: CAP;3+NTHA: OM;7+ AU
LENGTH: MARK;8+LETTER: A AA AI AU BA BHA CA CHA DA DDA DDHA DHA EE GA GHA HA I II JA JHA KA KHA LA
LLA MA NA NGA NNA NYA OO PA PHA RA SA SHA SSA TA THA TTA TTHA U UU VA YA;14+ VEDIC: ANUSVARA;20+
DOUBLE: ANUSVARA;16+OCALIC: L LL R RR;8+SIGN: ANUSVARA AVAGRAHA CANDRABINDU NUKTA PLUTA VIRAMA
VISARGA;12+ COMBINING ANUSVARA: ABOVE;8+VOWEL SIGN: AA AI AU EE I II OO U UU;18+ VOCALIC: L LL R RR;
3+VE: ACCENT;2+EATER-THAN: SIGN;12+ ABOVE DOUBLE-LINE EQUAL ABOVE: LESS-THAN;19+LESS-THAN ABOVE
DOUBLE-LINE: EQUAL;19+RIGHTWARDS: ARROW;19+SIMILAR ABOVE: LESS-THAN;27+OR: EQUAL;20+LANTED EQUAL
ABOVE LESS-THAN ABOVE SLANTED: EQUAL;14+ND NOT: APPROXIMATE;17+SINGLE-LINE NOT EQUAL: TO;13+BESIDE:
LESS-THAN;14+UT NOT EQUAL: TO;24+IVALENT: TO;13+CLOSED BY: CURVE;22+ CURVE ABOVE SLANTED: EQUAL;
13+EQUAL TO OR: LESS-THAN;13+OR: APPROXIMATE LESS-THAN;15+ EQUAL: TO;19+IVALENT: TO;16+SLANTED
EQUAL: TO;29+ TO WITH DOT: ABOVE INSIDE;41+ ABOVE: LEFT;14+VER EQUAL: TO;17+LAPPING: LESS-THAN;
13+WITH: DOT;17+ CIRCLE: INSIDE;18+QUESTION MARK: ABOVE;3+EK: DASIA KORONIS OXIA PERISPOMENI
PROSGEGRAMMENI PSILI TONOS VARIA YPOGEGRAMMENI;5+ ACROPHONIC ATTIC: FIFTY FIVE;22+ FIFTY: STATERS
TALENTS THOUSAND;28+ THOUSAND: STATERS;25+VE: HUNDRED STATERS TALENTS THOUSAND;27+ HUNDRED: STATERS
TALENTS;28+THOUSAND: TALENTS;23+ONE: DRACHMA HALF QUARTER;26+ HUNDRED: STATERS TALENTS;27+THOUSAND:
STATERS TALENTS;23+TEN: MNAS STATERS TALENTS;26+ THOUSAND: STATERS;17+CARYSTIAN FIVE: HUNDRED;
18+YRENAIC TWO: DRACHMAS;17+DELPHIC FIVE: MNAS;17+EPIDAUREAN: TWO;27+ FIVE: HUNDRED;28+TWO:
DRACHMAS;17+HERAEUM ONE: PLETHRON;20+MIONIAN: FIFTY ONE TEN;17+MESSENIAN: TEN;17+NAXIAN FIVE:
HUNDRED;17+STRATIAN FIFTY: MNAS;17+THESPIAN: FIFTY ONE TEN THIRTY TWO;25+ FIVE: HUNDRED THOUSAND;
26+ONE: HUNDRED THOUSAND;26+THREE: HUNDRED;18+ROEZENIAN: FIFTY FIVE TEN;27+ FIFTY ALTERNATE: FORM;
30+VE: HUNDRED;28+TEN ALTERNATE: FORM;7+NO: TELEIA;7+ROURA: SIGN;8+TABE: SIGN;6+BETA: SYMBOL;
6+CAPITAL DOTTED LUNATE SIGMA: SYMBOL;14+KAI: SYMBOL;14+LETTER: ALPHA BETA CHI DELTA EPSILON ETA
GAMMA HETA IOTA KAPPA LAMDA MU NU OMEGA OMICRON PHI PI PSI RHO SAN SHO SIGMA TAU THETA UPSILON XI
YOT ZETA;20+ ALPHA WITH: DASIA MACRON OXIA PROSGEGRAMMENI PSILI TONOS VARIA VRACHY;31+ DASIA AND:
OXIA PERISPOMENI PROSGEGRAMMENI VARIA;41+ OXIA AND: PROSGEGRAMMENI;42+PERISPOMENI AND:
PROSGEGRAMMENI;42+VARIA AND: PROSGEGRAMMENI;32+PSILI AND: OXIA PERISPOMENI PROSGEGRAMMENI VARIA;41+
OXIA AND: PROSGEGRAMMENI;42+PERISPOMENI AND: PROSGEGRAMMENI;42+VARIA AND: PROSGEGRAMMENI;22+RCHAIC:
SAMPI;21+EPSILON WITH: DASIA OXIA PSILI TONOS VARIA;33+ DASIA AND: OXIA VARIA;34+PSILI AND: OXIA
VARIA;22+TA WITH: DASIA OXIA PROSGEGRAMMENI PSILI TONOS VARIA;29+ DASIA AND: OXIA PERISPOMENI
PROSGEGRAMMENI VARIA;39+ OXIA AND: PROSGEGRAMMENI;40+PERISPOMENI AND: PROSGEGRAMMENI;40+VARIA AND:
PROSGEGRAMMENI;30+PSILI AND: OXIA PERISPOMENI PROSGEGRAMMENI VARIA;39+ OXIA AND: PROSGEGRAMMENI;
40+PERISPOMENI AND: PROSGEGRAMMENI;40+VARIA AND: PROSGEGRAMMENI;21+IOTA WITH: DASIA DIALYTIKA MACRON
OXIA PSILI TONOS VARIA VRACHY;30+ DASIA AND: OXIA PERISPOMENI VARIA;31+PSILI AND: OXIA PERISPOMENI
VARIA;21+OMEGA WITH: DASIA OXIA PROSGEGRAMMENI PSILI TONOS VARIA;31+ DASIA AND: OXIA PERISPOMENI
PROSGEGRAMMENI VARIA;41+ OXIA AND: PROSGEGRAMMENI;42+PERISPOMENI AND: PROSGEGRAMMENI;42+VARIA AND:
PROSGEGRAMMENI;32+PSILI AND: OXIA PERISPOMENI PROSGEGRAMMENI VARIA;41+ OXIA AND: PROSGEGRAMMENI;
42+PERISPOMENI AND: PROSGEGRAMMENI;42+VARIA AND: PROSGEGRAMMENI;23+ICRON WITH: DASIA OXIA PSILI
TONOS VARIA;33+ DASIA AND: OXIA VARIA;34+PSILI AND: OXIA VARIA;21+PAMPHYLIAN: DIGAMMA;21+RHO WITH:
DASIA;21+UPSILON WITH: DASIA DIALYTIKA MACRON OXIA TONOS VARIA VRACHY;33+ DASIA AND: OXIA
PERISPOMENI VARIA;15+UNATE SIGMA: SYMBOL;14+REVERSED DOTTED LUNATE SIGMA: SYMBOL;23+LUNATE SIGMA:
SYMBOL;14+THETA: SYMBOL;6+DASIA AND: OXIA PERISPOMENI VARIA;7+IALYTIKA: TONOS;15+ AND: OXIA
PERISPOMENI VARIA;7+RACHMA: SIGN;6+FIVE OBOLS: SIGN;7+OUR OBOLS: SIGN;6+GRAMMA: SIGN;6+INDICTION:
SIGN;8+STRUMENTAL NOTATION: SYMBOL-1 SYMBOL-11~14 SYMBOL-17~19 SYMBOL-2 SYMBOL-23~27 SYMBOL-29
SYMBOL-30 SYMBOL-32 SYMBOL-36~40 SYMBOL-4 SYMBOL-42 SYMBOL-43 SYMBOL-45 SYMBOL-47~54 SYMBOL-5
SYMBOL-7 SYMBOL-8;6+KAI: SYMBOL;8+PPA: SYMBOL;7+YATHOS BASE: SIGN;6+LETTER: DIGAMMA KOPPA SAMPI
STIGMA YOT;12+ ARCHAIC: KOPPA;13+SMALL CAPITAL: GAMMA LAMDA OMEGA PI PSI RHO;7+ITRA: SIGN;7+OWER
NUMERAL: SIGN;7+UNATE EPSILON: SYMBOL;13+SIGMA: SYMBOL;6+METRETES: SIGN;7+USICAL: LEIMMA;6+NUMERAL:
SIGN;6+OBOL: SIGN;7+NE HALF: SIGN;14+ SIGN ALTERNATE: FORM;10+QUARTER: SIGN;7+UNKIA: SIGN;6+PHI:
SYMBOL;7+I: SYMBOL;7+SILI AND: OXIA PERISPOMENI VARIA;6+QUESTION: MARK;6+REVERSED LUNATE EPSILON:
SYMBOL;7+HO: SYMBOL;9+ WITH STROKE: SYMBOL;6+SINUSOID: SIGN;7+MALL DOTTED LUNATE SIGMA: SYMBOL;
12+LETTER: ALPHA BETA CHI DELTA DIGAMMA EPSILON ETA GAMMA HETA IOTA KAPPA KOPPA LAMDA MU NU OMEGA
OMICRON PHI PI PSI RHO SAMPI SAN SHO SIGMA STIGMA TAU THETA UPSILON XI ZETA;18+ ALPHA WITH: DASIA
MACRON OXIA PERISPOMENI PSILI TONOS VARIA VRACHY YPOGEGRAMMENI;29+ DASIA AND: OXIA PERISPOMENI VARIA
YPOGEGRAMMENI;39+ OXIA AND: YPOGEGRAMMENI;40+PERISPOMENI AND: YPOGEGRAMMENI;40+VARIA AND:
YPOGEGRAMMENI;30+OXIA AND: YPOGEGRAMMENI;30+PERISPOMENI AND: YPOGEGRAMMENI;31+SILI AND: OXIA
PERISPOMENI VARIA YPOGEGRAMMENI;39+ OXIA AND: YPOGEGRAMMENI;40+PERISPOMENI AND: YPOGEGRAMMENI;
40+VARIA AND: YPOGEGRAMMENI;30+VARIA AND: YPOGEGRAMMENI;20+RCHAIC: KOPPA SAMPI;19+EPSILON WITH:
DASIA OXIA PSILI TONOS VARIA;31+ DASIA AND: OXIA VARIA;32+PSILI AND: OXIA VARIA;20+TA WITH: DASIA
OXIA PERISPOMENI PSILI TONOS VARIA YPOGEGRAMMENI;27+ DASIA AND: OXIA PERISPOMENI VARIA
YPOGEGRAMMENI;37+ OXIA AND: YPOGEGRAMMENI;38+PERISPOMENI AND: YPOGEGRAMMENI;38+VARIA AND:
YPOGEGRAMMENI;28+OXIA AND: YPOGEGRAMMENI;28+PERISPOMENI AND: YPOGEGRAMMENI;29+SILI AND: OXIA
PERISPOMENI VARIA YPOGEGRAMMENI;37+ OXIA AND: YPOGEGRAMMENI;38+PERISPOMENI AND: YPOGEGRAMMENI;
38+VARIA AND: YPOGEGRAMMENI;28+VARIA AND: YPOGEGRAMMENI;19+FINAL: SIGMA;19+IOTA WITH: DASIA
DIALYTIKA MACRON OXIA PERISPOMENI PSILI TONOS VARIA VRACHY;28+ DASIA AND: OXIA PERISPOMENI VARIA;
30+IALYTIKA AND: OXIA PERISPOMENI TONOS VARIA;29+PSILI AND: OXIA PERISPOMENI VARIA;19+OMEGA WITH:
DASIA OXIA PERISPOMENI PSILI TONOS VARIA YPOGEGRAMMENI;29+ DASIA AND: OXIA PERISPOMENI VARIA
YPOGEGRAMMENI;39+ OXIA AND: YPOGEGRAMMENI;40+PERISPOMENI AND: YPOGEGRAMMENI;40+VARIA AND:
YPOGEGRAMMENI;30+OXIA AND: YPOGEGRAMMENI;30+PERISPOMENI AND: YPOGEGRAMMENI;31+SILI AND: OXIA
PERISPOMENI VARIA YPOGEGRAMMENI;39+ OXIA AND: YPOGEGRAMMENI;40+PERISPOMENI AND: YPOGEGRAMMENI;
40+VARIA AND: YPOGEGRAMMENI;30+VARIA AND: YPOGEGRAMMENI;21+ICRON WITH: DASIA OXIA PSILI TONOS VARIA;
31+ DASIA AND: OXIA VARIA;32+PSILI AND: OXIA VARIA;19+PAMPHYLIAN: DIGAMMA;19+RHO WITH: DASIA PSILI;
19+UPSILON WITH: DASIA DIALYTIKA MACRON OXIA PERISPOMENI PSILI TONOS VARIA VRACHY;31+ DASIA AND:
OXIA PERISPOMENI VARIA;33+IALYTIKA AND: OXIA PERISPOMENI TONOS VARIA;32+PSILI AND: OXIA PERISPOMENI
VARIA;12+REVERSED DOTTED LUNATE SIGMA: SYMBOL;21+LUNATE SIGMA: SYMBOL;7+UBSCRIPT SMALL LETTER: BETA
CHI GAMMA PHI RHO;7+YMBOL TAU: RHO;6+TALENT: SIGN;7+HETA: SYMBOL;8+REE OBOLS: SIGN;12+QUARTERS:
SIGN;7+RYBLION BASE: SIGN;7+WO OBOLS: SIGN;10+THIRDS: SIGN;6+UPSILON WITH ACUTE AND HOOK: SYMBOL;
19+DIAERESIS AND HOOK: SYMBOL;19+HOOK: SYMBOL;6+VOCAL NOTATION: SYMBOL-10~24 SYMBOL-1~9
SYMBOL-50~54;6+XESTES: SIGN;6+YEAR: SIGN;6+ZERO: SIGN;4+N: APPLE BOOK HEART SALAD;2+IMACING: FACE;
3+NNING: FACE;8+ CAT FACE WITH SMILING: EYES;9+FACE WITH ONE LARGE AND ONE SMALL: EYE;19+SMILING:
EYES;20+TAR: EYES;2+OUP: MARK SEPARATOR;3+WING: HEART;1+UARANI: SIGN;2+IDE: DOG;2+JARATI: OM;8+
ABBREVIATION: SIGN;9+DIGIT: EIGHT FIVE FOUR NINE ONE SEVEN SIX THREE TWO ZERO;9+LETTER: A AA AI AU
BA BHA CA CHA DA DDA DDHA DHA E GA GHA HA I II JA JHA KA KHA LA LLA MA NA NGA NNA NYA O PA PHA RA SA
SHA SSA TA THA TTA TTHA U UU VA YA ZHA;15+ VOCALIC: L LL R RR;9+RUPEE: SIGN;9+SIGN: ANUSVARA
AVAGRAHA CANDRABINDU MADDAH NUKTA SHADDA SUKUN VIRAMA VISARGA;13+ CIRCLE NUKTA: ABOVE;14+THREE-DOT
NUKTA: ABOVE;15+WO-CIRCLE NUKTA: ABOVE;9+VOWEL CANDRA: E O;15+SIGN: AA AI AU E I II O U UU;19+
CANDRA: E O;20+VOCALIC: L LL R RR;2+NJALA GONDI: OM VIRAMA;13+ DIGIT: EIGHT FIVE FOUR NINE ONE SEVEN
SIX THREE TWO ZERO;14+LETTER: A AA AI AU BA BHA CA CHA DA DDA DDHA DHA EE GA GHA HA I II JA JHA KA
KHA LA LLA MA NA NGA OO PA PHA RA SA TA THA TTA TTHA U UU VA YA;14+SIGN: ANUSVARA VISARGA;14+VOWEL
SIGN: AA AI AU EE I II OO U UU;2+RMUKHI: ADDAK IRI TIPPI URA;8+ ABBREVIATION: SIGN;9+DIGIT: EIGHT
FIVE FOUR NINE ONE SEVEN SIX THREE TWO ZERO;9+EK: ONKAR;9+LETTER: A AA AI AU BA BHA CA CHA DA DDA
DDHA DHA EE FA GA GHA GHHA HA I II JA JHA KA KHA KHHA LA LLA MA NA NGA NNA NYA OO PA PHA RA RRA SA
SHA TA THA TTA TTHA U UU VA YA ZA;9+SIGN: BINDI NUKTA UDAAT VIRAMA VISARGA YAKASH;13+ ADAK: BINDI;
9+VOWEL SIGN: AA AI AU EE I II OO U UU;0+HAIR: SPACE;2+LFWIDTH BLACK: SQUARE;10+DOWNWARDS: ARROW;
10+FORMS LIGHT: VERTICAL;10+HANGUL: FILLER;16+ LETTER: A AE CHIEUCH CIEUC E EO EU HIEUH I IEUNG
KHIEUKH KIYEOK KIYEOK-SIOS MIEUM NIEUN NIEUN-CIEUC NIEUN-HIEUH O OE PHIEUPH PIEUP PIEUP-SIOS RIEUL
RIEUL-HIEUH RIEUL-KIYEOK RIEUL-MIEUM RIEUL-PHIEUPH RIEUL-PIEUP RIEUL-SIOS RIEUL-THIEUTH SIOS
SSANGCIEUC SSANGKIYEOK SSANGPIEUP SSANGSIOS SSANGTIKEUT THIEUTH TIKEUT U WA WAE WE WEO WI YA YAE YE
YEO YI YO YU;10+IDEOGRAPHIC: COMMA;21+ FULL: STOP;10+KATAKANA LETTER: A E HA HE HI HO HU I KA KE KI
KO KU MA ME MI MO MU N NA NE NI NO NU O RA RE RI RO RU SA SE SI SO SU TA TE TI TO TU U WA WO YA YO
YU;25+ SMALL: A E I O TU U YA YO YU;19+MIDDLE: DOT;19+SEMI-VOICED SOUND: MARK;19+VOICED SOUND: MARK;
18+-HIRAGANA PROLONGED SOUND: MARK;10+LEFT CORNER: BRACKET;14+WARDS: ARROW;10+RIGHT CORNER: BRACKET;
15+WARDS: ARROW;10+UPWARDS: ARROW;10+WHITE: CIRCLE;2+MMER AND: PICK SICKLE WRENCH;3+STER: FACE;2+ND
WITH INDEX AND MIDDLE FINGERS: CROSSED;16+FINGER AND THUMB: CROSSED;3+GUL: FILLER;6+ CHOSEONG:
CEONGCHIEUMCHIEUCH CEONGCHIEUMCIEUC CEONGCHIEUMSIOS CEONGCHIEUMSSANGCIEUC CEONGCHIEUMSSANGSIOS
CHIEUCH CHIEUCH-HIEUH CHIEUCH-KHIEUKH CHITUEUMCHIEUCH CHITUEUMCIEUC CHITUEUMSIOS CHITUEUMSSANGCIEUC
CHITUEUMSSANGSIOS CIEUC CIEUC-IEUNG FILLER HIEUH HIEUH-SIOS IEUNG IEUNG-CHIEUCH IEUNG-CIEUC
IEUNG-HIEUH IEUNG-KIYEOK IEUNG-MIEUM IEUNG-PANSIOS IEUNG-PHIEUPH IEUNG-PIEUP IEUNG-RIEUL IEUNG-SIOS
IEUNG-THIEUTH IEUNG-TIKEUT KAPYEOUNMIEUM KAPYEOUNPHIEUPH KAPYEOUNPIEUP KAPYEOUNRIEUL
KAPYEOUNSSANGPIEUP KHIEUKH KIYEOK KIYEOK-TIKEUT MIEUM MIEUM-KIYEOK MIEUM-PIEUP MIEUM-SIOS
MIEUM-TIKEUT NIEUN NIEUN-CIEUC NIEUN-HIEUH NIEUN-KIYEOK NIEUN-PIEUP NIEUN-SIOS NIEUN-TIKEUT PANSIOS
PHIEUPH PHIEUPH-HIEUH PHIEUPH-PIEUP PIEUP PIEUP-CHIEUCH PIEUP-CIEUC PIEUP-HIEUH PIEUP-KHIEUKH
PIEUP-KIYEOK PIEUP-NIEUN PIEUP-PHIEUPH PIEUP-SIOS PIEUP-SIOS-CIEUC PIEUP-SIOS-KIYEOK
PIEUP-SIOS-PIEUP PIEUP-SIOS-THIEUTH PIEUP-SIOS-TIKEUT PIEUP-SSANGSIOS PIEUP-THIEUTH PIEUP-TIKEUT
RIEUL RIEUL-CIEUC RIEUL-HIEUH RIEUL-KAPYEOUNPIEUP RIEUL-KHIEUKH RIEUL-KIYEOK RIEUL-MIEUM RIEUL-NIEUN
RIEUL-PIEUP RIEUL-SIOS RIEUL-SSANGKIYEOK RIEUL-SSANGPIEUP RIEUL-SSANGTIKEUT RIEUL-TIKEUT SIOS
SIOS-CHIEUCH SIOS-CIEUC SIOS-HIEUH SIOS-IEUNG SIOS-KHIEUKH SIOS-KIYEOK SIOS-MIEUM SIOS-NIEUN
SIOS-PHIEUPH SIOS-PIEUP SIOS-PIEUP-KIYEOK SIOS-RIEUL SIOS-SSANGSIOS SIOS-THIEUTH SIOS-TIKEUT
SSANGCIEUC SSANGCIEUC-HIEUH SSANGHIEUH SSANGIEUNG SSANGKIYEOK SSANGNIEUN SSANGPIEUP SSANGRIEUL
SSANGSIOS SSANGSIOS-PIEUP SSANGTHIEUTH SSANGTIKEUT SSANGYEORINHIEUH THIEUTH TIKEUT TIKEUT-CIEUC
TIKEUT-KIYEOK TIKEUT-MIEUM TIKEUT-PIEUP TIKEUT-RIEUL TIKEUT-SIOS YEORINHIEUH YESIEUNG;7+DOUBLE DOT
TONE: MARK;7+JONGSEONG: CHIEUCH CIEUC CIEUC-PIEUP CIEUC-SSANGPIEUP HIEUH HIEUH-MIEUM HIEUH-NIEUN
HIEUH-PIEUP HIEUH-RIEUL IEUNG IEUNG-KHIEUKH IEUNG-KIYEOK IEUNG-SSANGKIYEOK KAPYEOUNMIEUM
KAPYEOUNPHIEUPH KAPYEOUNPIEUP KAPYEOUNRIEUL KHIEUKH KIYEOK KIYEOK-CHIEUCH KIYEOK-HIEUH
KIYEOK-KHIEUKH KIYEOK-NIEUN KIYEOK-PIEUP KIYEOK-RIEUL KIYEOK-SIOS KIYEOK-SIOS-KIYEOK MIEUM
MIEUM-CHIEUCH MIEUM-CIEUC MIEUM-HIEUH MIEUM-KIYEOK MIEUM-NIEUN MIEUM-PANSIOS MIEUM-PIEUP
MIEUM-PIEUP-SIOS MIEUM-RIEUL MIEUM-SIOS MIEUM-SSANGNIEUN MIEUM-SSANGSIOS NIEUN NIEUN-CHIEUCH
NIEUN-CIEUC NIEUN-HIEUH NIEUN-KIYEOK NIEUN-PANSIOS NIEUN-RIEUL NIEUN-SIOS NIEUN-THIEUTH NIEUN-TIKEUT
PANSIOS PANSIOS-KAPYEOUNPIEUP PANSIOS-PIEUP PHIEUPH PHIEUPH-PIEUP PHIEUPH-SIOS PHIEUPH-THIEUTH PIEUP
PIEUP-CHIEUCH PIEUP-CIEUC PIEUP-HIEUH PIEUP-MIEUM PIEUP-PHIEUPH PIEUP-RIEUL PIEUP-RIEUL-PHIEUPH
PIEUP-SIOS PIEUP-SIOS-TIKEUT PIEUP-TIKEUT RIEUL RIEUL-HIEUH RIEUL-KAPYEOUNPIEUP RIEUL-KHIEUKH
RIEUL-KIYEOK RIEUL-KIYEOK-HIEUH RIEUL-KIYEOK-SIOS RIEUL-MIEUM RIEUL-MIEUM-HIEUH RIEUL-MIEUM-KIYEOK
RIEUL-MIEUM-SIOS RIEUL-NIEUN RIEUL-PANSIOS RIEUL-PHIEUPH RIEUL-PIEUP RIEUL-PIEUP-HIEUH
RIEUL-PIEUP-PHIEUPH RIEUL-PIEUP-SIOS RIEUL-PIEUP-TIKEUT RIEUL-SIOS RIEUL-SSANGKIYEOK RIEUL-SSANGSIOS
RIEUL-THIEUTH RIEUL-TIKEUT RIEUL-TIKEUT-HIEUH RIEUL-YEORINHIEUH RIEUL-YEORINHIEUH-HIEUH
RIEUL-YESIEUNG SIOS SIOS-CHIEUCH SIOS-CIEUC SIOS-HIEUH SIOS-KAPYEOUNPIEUP SIOS-KIYEOK SIOS-MIEUM
SIOS-PANSIOS SIOS-PIEUP SIOS-RIEUL SIOS-THIEUTH SIOS-TIKEUT SSANGCIEUC SSANGIEUNG SSANGKIYEOK
SSANGMIEUM SSANGNIEUN SSANGPIEUP SSANGRIEUL SSANGRIEUL-KHIEUKH SSANGSIOS SSANGSIOS-KIYEOK
SSANGSIOS-TIKEUT SSANGTIKEUT SSANGTIKEUT-PIEUP SSANGYESIEUNG THIEUTH TIKEUT TIKEUT-CHIEUCH
TIKEUT-CIEUC TIKEUT-KIYEOK TIKEUT-PIEUP TIKEUT-RIEUL TIKEUT-SIOS TIKEUT-SIOS-KIYEOK TIKEUT-THIEUTH
YEORINHIEUH YESIEUNG YESIEUNG-HIEUH YESIEUNG-KHIEUKH YESIEUNG-KIYEOK YESIEUNG-MIEUM YESIEUNG-PANSIOS
YESIEUNG-SIOS YESIEUNG-SSANGKIYEOK;8+UNGSEONG: A A-EU A-O A-U AE ARAEA ARAEA-A ARAEA-E ARAEA-EO
ARAEA-I ARAEA-U E EO EO-EU EO-O EO-U EU EU-A EU-E EU-EO EU-EU EU-O EU-U FILLER I I-A I-ARAEA I-EU
I-I I-O I-O-I I-U I-YA I-YA-O I-YAE I-YE I-YEO I-YO I-YU O O-E O-EO O-O O-O-I O-U O-YA O-YAE O-YE
O-YEO OE SSANGARAEA U U-A U-AE U-EO-EU U-I-I U-U U-YE U-YEO WA WAE WE WEO WI YA YA-O YA-U YA-YO YAE
YE YEO YEO-O YEO-U YEO-YA YI YI-U YO YO-A YO-AE YO-EO YO-I YO-O YO-YA YO-YAE YO-YEO YU YU-A YU-AE
YU-E YU-EO YU-I YU-O YU-U YU-YE YU-YEO;7+LETTER: A AE ARAEA ARAEAE CHIEUCH CIEUC E EO EU HIEUH I
IEUNG KAPYEOUNMIEUM KAPYEOUNPHIEUPH KAPYEOUNPIEUP KAPYEOUNSSANGPIEUP KHIEUKH KIYEOK KIYEOK-SIOS
MIEUM MIEUM-PANSIOS MIEUM-PIEUP MIEUM-SIOS NIEUN NIEUN-CIEUC NIEUN-HIEUH NIEUN-PANSIOS NIEUN-SIOS
NIEUN-TIKEUT O OE PANSIOS PHIEUPH PIEUP PIEUP-CIEUC PIEUP-KIYEOK PIEUP-SIOS PIEUP-SIOS-KIYEOK
PIEUP-SIOS-TIKEUT PIEUP-THIEUTH PIEUP-TIKEUT RIEUL RIEUL-HIEUH RIEUL-KIYEOK RIEUL-KIYEOK-SIOS
RIEUL-MIEUM RIEUL-PANSIOS RIEUL-PHIEUPH RIEUL-PIEUP RIEUL-PIEUP-SIOS RIEUL-SIOS RIEUL-THIEUTH
RIEUL-TIKEUT RIEUL-YEORINHIEUH SIOS SIOS-CIEUC SIOS-KIYEOK SIOS-NIEUN SIOS-PIEUP SIOS-TIKEUT
SSANGCIEUC SSANGHIEUH SSANGIEUNG SSANGKIYEOK SSANGNIEUN SSANGPIEUP SSANGSIOS SSANGTIKEUT THIEUTH
TIKEUT U WA WAE WE WEO WI YA YAE YE YEO YEORINHIEUH YESIEUNG YESIEUNG-PANSIOS YESIEUNG-SIOS YI YO
YO-I YO-YA YO-YAE YU YU-I YU-YE YU-YEO;7+SINGLE DOT TONE: MARK;4+ZHOU NUMERAL: EIGHT FIVE FOUR NINE
ONE SEVEN SIX TEN THIRTY THREE TWENTY TWO;3+IFI ROHINGYA DIGIT: EIGHT FIVE FOUR NINE ONE SEVEN SIX
THREE TWO ZERO;16+LETTER: A BA CA DA DDA FA GA HA JA KA KHA LA MA NA NGA NYA PA RA RRA SA SHA TA TTA
VA WA YA ZA;22+ KINNA: WA YA;16+MARK: SAKIN;20+ NA: KHONNA;16+SIGN: HARBAHAY TAHALA TANA TASSI;
16+VOWEL: A E I O U;3+UNOO LETTER: A BA DA GA HA I KA LA MA NA NGA PA RA SA TA U WA YA;8+SIGN:
PAMUDPOD;8+VOWEL SIGN: I U;2+PPY PERSON RAISING ONE: HAND;2+RD: DISK;2+TCHING: CHICK;3+RAN LETTER:
ALEPH AYN BETH DALETH-RESH GIMEL HE HETH KAPH LAMEDH MEM NUN PE QOPH SADHE SAMEKH SHIN TAW TETH WAW
YODH ZAYN;7+NUMBER: FIVE ONE TEN TWENTY;13+ ONE: HUNDRED;1+EADSTONE GRAVEYARD: SYMBOL;3+R-NO-EVIL:
MONKEY;4+T: DECORATION HANDS;5+ WITH: ARROW RIBBON;10+ TIP ON THE: LEFT;3+VY: ASTERISK CIRCLE
SALTIRE SPARKLE;5+ AMPERSAND: ORNAMENT;7+RROW SHAFT WIDTH: ONE;23+ ONE: HALF THIRD;24+TWO: THIRDS;
6+BALLOT: X;7+LACK: HEART;11+ CURVED DOWNWARDS AND RIGHTWARDS: ARROW;19+UPWARDS AND RIGHTWARDS:
ARROW;11+-FEATHERED NORTH EAST: ARROW;22+RIGHTWARDS: ARROW;22+SOUTH EAST: ARROW;6+CHECK: MARK;
9+VRON: SNOWFLAKE;7+IRCLE WITH CIRCLE: INSIDE;18+STROKE AND TWO DOTS: ABOVE;12+D: SALTIRE;
7+ONCAVE-POINTED BLACK RIGHTWARDS: ARROW;6+DASHED TRIANGLE-HEADED RIGHTWARDS: ARROW;7+IVISION: SIGN;
7+OLLAR: SIGN;8+UBLE COMMA QUOTATION MARK: ORNAMENT;13+TURNED COMMA QUOTATION MARK: ORNAMENT;
8+WNWARDS ARROW WITH EQUILATERAL: ARROWHEAD;27+LARGE EQUILATERAL: ARROWHEAD;6+EIGHT POINTED BLACK:
STAR;20+PINWHEEL: STAR;20+RECTILINEAR BLACK: STAR;12+SPOKED: ASTERISK;12+TEARDROP-SPOKED PROPELLER:
ASTERISK;7+QUALS: SIGN;7+XCLAMATION MARK: ORNAMENT SYMBOL;6+FIVE POINTED BLACK: STAR;11+SPOKED:
ASTERISK;7+OUR BALLOON-SPOKED: ASTERISK;6+GREEK: CROSS;6+HEART EXCLAMATION MARK: ORNAMENT;
7+ORIZONTAL: FILL;6+INTERROBANG: ORNAMENT;6+LARGE: CIRCLE;8+TIN: CROSS;7+EFT-POINTING ANGLE BRACKET:
ORNAMENT;26+QUOTATION MARK: ORNAMENT;10+WARDS ARROW WITH EQUILATERAL: ARROWHEAD;27+LARGE
EQUILATERAL: ARROWHEAD;7+IGATURE OPEN ET: ORNAMENT;7+OW DOUBLE COMMA QUOTATION MARK: ORNAMENT;
10+SINGLE COMMA QUOTATION MARK: ORNAMENT;9+ER RIGHT-SHADOWED WHITE RIGHTWARDS: ARROW;6+MINUS: SIGN;
7+ULTIPLICATION: X;6+NORTH EAST: ARROW;16+ POINTING: BUD;25+ VINE: LEAF;12+WEST POINTING: BUD;25+
VINE: LEAF;6+OPEN CENTRE: CROSS;7+UTLINED BLACK: STAR;7+VAL WITH OVAL: INSIDE;6+PLUS: SIGN;
6+RIGHT-POINTING ANGLE BRACKET: ORNAMENT;27+QUOTATION MARK: ORNAMENT;11+WARDS: ARROW;16+ ARROW WITH
EQUILATERAL: ARROWHEAD;28+LARGE EQUILATERAL: ARROWHEAD;7+OUND-TIPPED RIGHTWARDS: ARROW;6+SANS-SERIF
INTERROBANG: ORNAMENT;7+CRIPT LIGATURE ET: ORNAMENT;7+INGLE COMMA QUOTATION MARK: ORNAMENT;13+TURNED
COMMA QUOTATION MARK: ORNAMENT;8+X POINTED BLACK: STAR;10+SPOKED: ASTERISK;7+OUTH EAST: ARROW;16+
POINTING: BUD;25+ VINE: LEAF;12+WEST POINTING: BUD;25+ VINE: LEAF;6+TEARDROP-SHANKED RIGHTWARDS:
ARROW;16+POKED: ASTERISK;21+ PINWHEEL: ASTERISK;7+RIANGLE-HEADED RIGHTWARDS: ARROW;7+WELVE POINTED
BLACK: STAR;21+PINWHEEL: STAR;6+UPPER RIGHT-SHADOWED WHITE RIGHTWARDS: ARROW;8+WARDS ARROW WITH
EQUILATERAL: ARROWHEAD;25+LARGE EQUILATERAL: ARROWHEAD;6+VERTICAL: BAR;6+WEDGE-TAILED RIGHTWARDS:
ARROW;7+HITE: CIRCLE SQUARE;11+ DOWN-POINTING: TRIANGLE;7+IDE-HEADED RIGHTWARDS: ARROW;2+BREW
ACCENT: DARGA DEHI ETNAHTA GERESH GERSHAYIM ILUY MAHAPAKH MERKHA MUNAH OLE PASHTA PAZER QADMA REVIA
SEGOL SHALSHELET TEVIR TIPEHA YETIV ZARQA ZINOR;13+ ATNAH: HAFUKH;14+GERESH: MUQDAM;14+MERKHA:
KEFULA;14+QARNEY: PARA;14+TELISHA: GEDOLA QETANA;14+YERAH BEN: YOMO;14+ZAQEF: GADOL QATAN;7+LETTER:
ALEF AYIN BET DALET GIMEL HE HET KAF LAMED MEM NUN PE QOF RESH SAMEKH SHIN TAV TET TSADI VAV YOD
ZAYIN;13+ ALEF WITH: MAPIQ PATAH QAMATS;16+TERNATIVE: AYIN;25+ PLUS: SIGN;14+BET WITH: DAGESH RAFE;
14+DALET WITH: DAGESH;14+FINAL: KAF MEM NUN PE TSADI;19+ KAF WITH: DAGESH;20+PE WITH: DAGESH;
14+GIMEL WITH: DAGESH;14+HE WITH: MAPIQ;14+KAF WITH: DAGESH RAFE;14+LAMED WITH: DAGESH;14+MEM WITH:
DAGESH;14+NUN WITH: DAGESH;14+PE WITH: DAGESH RAFE;14+QOF WITH: DAGESH;14+RESH WITH: DAGESH;
14+SAMEKH WITH: DAGESH;15+HIN WITH: DAGESH;23+ DAGESH AND SHIN: DOT;36+IN: DOT;24+SHIN: DOT;25+IN:
DOT;14+TAV WITH: DAGESH;15+ET WITH: DAGESH;15+SADI WITH: DAGESH;14+VAV WITH: DAGESH HOLAM;14+WIDE:
ALEF DALET HE KAF LAMED RESH TAV;18+ FINAL: MEM;14+YOD WITH: DAGESH HIRIQ;14+ZAYIN WITH: DAGESH;
8+IGATURE ALEF: LAMED;16+YIDDISH DOUBLE: VAV YOD;24+VAV: YOD;24+YOD YOD: PATAH;7+MARK LOWER: DOT;
12+MASORA: CIRCLE;12+UPPER: DOT;7+POINT: HIRIQ HOLAM METEG PATAH QAMATS QUBUTS RAFE SEGOL SHEVA
TSERE;12+ DAGESH OR: MAPIQ;13+HATAF: PATAH QAMATS SEGOL;14+OLAM HASER FOR: VAV;13+JUDEO-SPANISH:
VARIKA;13+QAMATS: QATAN;13+SHIN: DOT;14+IN: DOT;8+UNCTUATION: GERESH GERSHAYIM MAQAF PASEQ;18+ NUN:
HAFUKHA;19+SOF: PASUQ;7+YOD: TRIANGLE;2+LLSCHREIBER PAUSE: SYMBOL;3+M: SYMBOL;4+ET WITH WHITE:
CROSS;2+NTAIGANA LETTER: A-1~3 A-WO E-1~6 HA-10 HA-11 HA-1~9 HE-1~7 HI-1~7 HO-1~8 HU-1~3 I-1~4 KA-10
KA-11 KA-1~9 KA-KE KE-1~6 KI-1~8 KO-1~3 KO-KI KU-1~7 MA-1~7 ME-1 ME-2 ME-MA MI-1~7 MO-1~6 MU-1~4
N-MU-MO-1 N-MU-MO-2 NA-1~9 NE-1~6 NE-KO NI-1~7 NI-TE NO-1~5 NU-1~3 O-1~3 RA-1~4 RE-1~4 RI-1~7 RO-1~6
RU-1~6 SA-1~8 SE-1~5 SI-1~6 SO-1~7 SU-1~8 TA-1~4 TE-1~9 TI-1~7 TO-1~6 TO-RA TU-1~4 TU-TO U-1~5
WA-1~5 WE-1~4 WI-1~5 WO-1~7 YA-1~5 YA-YO YO-1~6 YU-1~4;2+RMITIAN CONJUGATE: MATRIX;2+XAGRAM FOR:
ABUNDANCE APPROACH BREAKTHROUGH CONFLICT CONTEMPLATION DECREASE DELIVERANCE DEVELOPMENT DISPERSION
DURATION ENTHUSIASM FELLOWSHIP FOLLOWING GRACE INCREASE INFLUENCE INNOCENCE LIMITATION MODESTY
OBSTRUCTION OPPOSITION OPPRESSION PEACE PROGRESS RETREAT RETURN REVOLUTION STANDSTILL TREADING
WAITING;12+ AFTER: COMPLETION;13+BEFORE: COMPLETION;14+ITING: THROUGH;13+COMING TO: MEET;
13+DARKENING OF THE: LIGHT;14+IFFICULTY AT THE: BEGINNING;13+GATHERING: TOGETHER;14+REAT: POSSESSION
POWER PREPONDERANCE TAMING;13+HOLDING: TOGETHER;13+INNER: TRUTH;13+MOUTH: CORNERS;13+PUSHING:
UPWARD;13+SMALL: PREPONDERANCE TAMING;14+PLITTING: APART;13+THE: ARMY CAULDRON FAMILY WANDERER WELL;
16+ ABYSMAL: WATER;18+ROUSING: THUNDER;17+CLINGING: FIRE;18+REATIVE: HEAVEN;17+GENTLE: WIND;
17+JOYOUS: LAKE;17+KEEPING STILL: MOUNTAIN;17+MARRYING: MAIDEN;17+RECEPTIVE: EARTH;13+WORK ON THE:
DECAYED;13+YOUTHFUL: FOLLY;1+IGH BRIGHTNESS: SYMBOL;5+OCTET: PRESET;5+VOLTAGE: SIGN;4+-HEELED: SHOE;
5+SPEED: TRAIN;10+ TRAIN WITH BULLET: NOSE;2+KING: BOOT;2+NDU: TEMPLE;2+RAGANA DIGRAPH: YORI;
9+ITERATION: MARK;9+LETTER: A BA BE BI BO BU DA DE DI DO DU E GA GE GI GO GU HA HE HI HO HU I KA KE
KI KO KU MA ME MI MO MU N NA NE NI NO NU O PA PE PI PO PU RA RE RI RO RU SA SE SI SO SU TA TE TI TO
TU U VU WA WE WI WO YA YO YU ZA ZE ZI ZO ZU;15+ ARCHAIC: WU YE;16+SMALL: A E I KA KE O TU U WA WE WI
WO YA YO YU;9+VOICED ITERATION: MARK;2+STORIC: SITE;1+OLLOW QUILT SQUARE: ORNAMENT;19+ ORNAMENT IN
BLACK: SQUARE;2+NEY: POT;2+RIZONTAL: BAR ELLIPSIS TABULATION;10+ BLACK: HEXAGON OCTAGON;11+LINE:
EXTENSION;11+MALE WITH STROKE: SIGN;11+ONE EIGHTH: BLOCK-1358 BLOCK-2~7;11+SCAN: LINE-1 LINE-3
LINE-7 LINE-9;11+TAB: KEY;14+ULATION: SET;21+ WITH: JUSTIFICATION;12+RAFFIC: LIGHT;3+SE: FACE
RACING;2+T: BEVERAGE DOG PEPPER SPRINGS;2+URGLASS WITH FLOWING: SAND;3+SE: BUILDING BUILDINGS;5+
WITH: GARDEN;1+RYVNIA: SIGN;1+UGGING: FACE;2+NDRED POINTS: SYMBOL;2+SHED: FACE;1+YPHEN: BULLET;6+
WITH: DIAERESIS;6+ATION: POINT;2+STERESIS: SYMBOL;0+I LOVE YOU HAND: SIGN;1+CE: CREAM CUBE SKATE;3+
HOCKEY STICK AND: PUCK;1+DENTICAL: TO;9+ TO AND SLANTED: PARALLEL;10+WITH DOT: ABOVE;6+FICATION:
CARD;3+OGRAPHIC: COMMA SPACE;11+ ANNOTATION BOTTOM: MARK;23+EARTH: MARK;23+FIRST: MARK;24+OUR: MARK;
27+TH: MARK;23+HEAVEN: MARK;23+LINKING: MARK;23+MAN: MARK;24+IDDLE: MARK;23+ONE: MARK;23+REVERSE:
MARK;23+SECOND: MARK;23+THIRD: MARK;25+REE: MARK;24+OP: MARK;24+WO: MARK;12+CLOSING: MARK;
12+DEPARTING TONE: MARK;14+SCRIPTION CHARACTER: OVERLAID;33+ ABOVE TO: BELOW;42+ MIDDLE AND: BELOW;
34+FULL: SURROUND;34+LEFT TO: RIGHT;41+ MIDDLE AND: RIGHT;34+SURROUND FROM: ABOVE BELOW LEFT;47+
LOWER: LEFT;48+UPPER: LEFT RIGHT;12+ENTERING TONE: MARK;12+FULL: STOP;12+HALF FILL: SPACE;
12+ITERATION: MARK;12+LEVEL TONE: MARK;12+NUMBER: ZERO;12+RISING TONE: MARK;12+TALLY MARK: FIVE FOUR
ONE THREE TWO;13+ELEGRAPH LINE FEED SEPARATOR: SYMBOL;22+SYMBOL FOR: APRIL AUGUST DECEMBER FEBRUARY
JANUARY JULY JUNE MARCH MAY NOVEMBER OCTOBER SEPTEMBER;32+ DAY: EIGHT EIGHTEEN ELEVEN FIFTEEN FIVE
FOUR FOURTEEN NINE NINETEEN ONE SEVEN SEVENTEEN SIX SIXTEEN TEN THIRTEEN THIRTY THIRTY-ONE THREE
TWELVE TWENTY TWENTY-EIGHT TWENTY-FIVE TWENTY-FOUR TWENTY-NINE TWENTY-ONE TWENTY-SEVEN TWENTY-SIX
TWENTY-THREE TWENTY-TWO TWO;33+HOUR: EIGHT EIGHTEEN ELEVEN FIFTEEN FIVE FOUR FOURTEEN NINE NINETEEN
ONE SEVEN SEVENTEEN SIX SIXTEEN TEN THIRTEEN THREE TWELVE TWENTY TWENTY-FOUR TWENTY-ONE TWENTY-THREE
TWENTY-TWO TWO ZERO;12+VARIATION: INDICATOR;1+MAGE: OF;5+ OF OR APPROXIMATELY EQUAL: TO;2+PERIAL
ARAMAIC LETTER: ALEPH AYIN BETH DALETH GIMEL HE HETH KAPH LAMEDH MEM NUN PE QOPH RESH SADHE SAMEKH
SHIN TAW TETH WAW YODH ZAYIN;17+NUMBER: ONE TEN THREE TWENTY TWO;23+ ONE: HUNDRED THOUSAND;24+TEN:
THOUSAND;17+SECTION: SIGN;1+NBOX: TRAY;2+COMING: ENVELOPE;5+PLETE: INFINITY;3+REASE FONT SIZE:
SYMBOL;8+S: AS;2+DEX POINTING AT THE: VIEWER;3+IAN RUPEE: SIGN;4+C SIYAQ: PLACEHOLDER;11+ ALTERNATE
LAKH: MARK;12+FRACTION ONE: HALF QUARTER;21+THREE: QUARTERS;12+LAKH: MARK;12+NUMBER: EIGHT EIGHTY
FIFTY FIVE FORTY FOUR KAROR KARORAN LAKH LAKHAN NINE NINETY ONE SEVEN SEVENTY SIX SIXTY TEN THIRTY
THREE TWENTY TWO;18+ ALTERNATE: ONE TWO;28+ TEN: THOUSAND;19+EIGHT: HUNDRED THOUSAND;24+Y: THOUSAND;
19+FIFTY: THOUSAND;21+VE: HUNDRED THOUSAND;20+ORTY: THOUSAND;21+UR: HUNDRED THOUSAND;19+NINE:
HUNDRED THOUSAND;23+TY: THOUSAND;19+ONE: HUNDRED THOUSAND;19+PREFIXED: EIGHT FIVE FOUR NINE ONE
SEVEN SIX THREE TWO;19+SEVEN: HUNDRED THOUSAND;24+TY: THOUSAND;20+IX: HUNDRED THOUSAND;22+TY:
THOUSAND;19+TEN: THOUSAND;20+HIRTY: THOUSAND;21+REE: HUNDRED THOUSAND;20+WENTY: THOUSAND;21+O:
HUNDRED THOUSAND;12+RUPEE: MARK;2+FINITY NEGATED WITH VERTICAL: BAR;3+ORMATION: SOURCE;11+ DESK:
PERSON;12+SEPARATOR: FOUR ONE THREE TWO;2+HIBIT ARABIC FORM: SHAPING;8+SYMMETRIC: SWAPPING;2+PUT
SYMBOL FOR: NUMBERS SYMBOLS;16+ LATIN: LETTERS;22+ CAPITAL: LETTERS;23+SMALL: LETTERS;2+SCRIPTIONAL
PAHLAVI LETTER: ALEPH BETH DALETH GIMEL HE HETH KAPH LAMEDH MEM-QOPH NUN PE SADHE SAMEKH SHIN TAW
TETH WAW-AYIN-RESH YODH ZAYIN;22+NUMBER: FOUR ONE TEN THREE TWENTY TWO;28+ ONE: HUNDRED THOUSAND;
16+RTHIAN LETTER: ALEPH AYIN BETH DALETH GIMEL HE HETH KAPH LAMEDH MEM NUN PE QOPH RESH SADHE SAMEKH
SHIN TAW TETH WAW YODH ZAYIN;23+NUMBER: FOUR ONE TEN THREE TWENTY TWO;29+ ONE: HUNDRED THOUSAND;
3+ERTION: SYMBOL;2+TEGRAL: EXTENSION;8+ AROUND A POINT: OPERATOR;10+VERAGE WITH: SLASH;9+WITH:
INTERSECTION OVERBAR UNDERBAR UNION;13+ DOUBLE: STROKE;14+LEFTWARDS ARROW WITH: HOOK;14+TIMES: SIGN;
4+RIOR: PRODUCT;5+LINEAR ANNOTATION: ANCHOR SEPARATOR TERMINATOR;6+OCKED FEMALE AND MALE: SIGN;
5+SECTION ABOVE: UNION;18+ BAR ABOVE: UNION;13+BESIDE AND JOINED WITH: INTERSECTION;13+WITH: DOT
OVERBAR;17+ LOGICAL: AND;2+VERSE: BULLET;7+ CHECK: MARK;13+ER BOARD: FILL;8+DOWNWARDS ARROW WITH
TIP: LEFTWARDS;8+MEDIUM: SHADE;8+WHITE: CIRCLE;5+TED: INTERROBANG PENTAGRAM UNDERTIE;8+ EXCLAMATION:
MARK;9+LAZY: S;10+OW: KAVYKA;12+ KAVYKA WITH KAVYKA: ABOVE;9+OHM: SIGN;9+QUESTION: MARK;3+ISIBLE:
PLUS SEPARATOR TIMES;1+ZAKAYA: LANTERN;0+JAPANESE: CASTLE DOLLS GOBLIN OGRE;8+ BANK: SYMBOL;
9+INDUSTRIAL STANDARD: SYMBOL;9+POST: OFFICE;9+SYMBOL FOR: BEGINNER;2+VANESE: PANGKON PANGRANGKEP;8+
CONSONANT SIGN: CAKRA KERET PENGKAL;9+DIGIT: EIGHT FIVE FOUR NINE ONE SEVEN SIX THREE TWO ZERO;
9+LEFT: RERENGGAN;11+TTER: A AI BA CA DA DDA E GA HA I II JA KA LA MA NA NGA NYA O PA RA SA TA TTA U
WA YA;15+ BA: MURDA;16+CA: MURDA;16+DA: MAHAPRANA;17+DA: MAHAPRANA;16+GA: MURDA;16+I: KAWI;16+JA:
MAHAPRANA;16+KA: MURDA SASAK;16+NA: MURDA;17+GA: LELET;19+ LELET: RASWADI;17+YA: MURDA;16+PA: CEREK
MURDA;16+RA: AGUNG;16+SA: MAHAPRANA MURDA;16+TA: MURDA;17+TA: MAHAPRANA;9+PADA: ADEG ANDAP ISEN-ISEN
LINGSA LUHUR LUNGSI MADYA PANGKAT PISELEH WINDU;13+ ADEG: ADEG;14+TIRTA: TUMETES;9+RIGHT: RERENGGAN;
9+SIGN: CECAK LAYAR PANYANGGA WIGNYAN;13+ CECAK: TELU;9+TURNED PADA: PISELEH;9+VOWEL SIGN: PEPET
SUKU TALING TARUNG TOLONG WULU;19+ DIRGA: MURE;20+SUKU: MENDUT;20+WULU: MELIK;1+IGSAW PUZZLE: PIECE;
0+KAITHI: DANDA;6+ ABBREVIATION: SIGN;7+DOUBLE: DANDA;13+ SECTION: MARK;7+ENUMERATION: SIGN;
7+LETTER: A AA AI AU BA BHA CA CHA DA DDA DDDHA DDHA DHA E GA GHA HA I II JA JHA KA KHA LA MA NA NGA
NNA NYA O PA PHA RA RHA SA SHA SSA TA THA TTA TTHA U UU VA YA;7+NUMBER: SIGN;13+ SIGN: ABOVE;
7+SECTION: MARK;8+IGN: ANUSVARA CANDRABINDU NUKTA VIRAMA VISARGA;7+VOWEL SIGN: AA AI AU E I II O U
UU;17+ VOCALIC: R;2+NGXI RADICAL: AGAIN AND ARRIVE ARROW AXE BADGER BAMBOO BEAN BIG BIRD BITTER
BLACK BLOOD BLUE BOAT BODY BONE BOW BRANCH BRISTLE BRUSH CART CAULDRON CAVE CHILD CITY CLAN CLAW
CLIFF CLOTHES COLOR COMPARE CORPSE COVER COW DEATH DEER DIPPER DISH DISTINGUISH DIVINATION DOG DOOR
DOT DRAGON DRUM DRY EAR EARTH EAT EIGHT EMBROIDERY ENCLOSURE ENTER EVEN EVENING EYE FACE FANG FATHER
FEATHER FIELD FIGHT FIRE FISH FLUTE FLY FOOT FRAGRANT FROG FUR GATE GHOST GO GOLD GRAIN GRASS HAIR
HALBERD HAND HEAD HEART HEMP HOOK HORN HORSE ICE INCH INSECT JADE JAR KNIFE LACK LAME LEAF LEATHER
LEEK LEGS LID LIFE LINE LONG MAN MEAT MELON MILLET MINISTER MOON MORNING MORTAR MOUND MOUNTAIN MOUTH
NET NOSE NOT OLD ONE ONESELF OPPOSE PIG PLOW POWER PRIVATE PROFOUND RAIN RAP RAT RED RICE RIVER ROOF
RUN SALT SAY SCHOLAR SCRIPT SEAL SECOND SEE SELF SHEEP SHELL SHOOT SICKNESS SILK SKIN SLASH SLAVE
SLICE SMALL SNOUT SOUND SPEAR SPEECH SPIRIT SPOON SPROUT SQUARE STAND STEAM STEP STONE STOP STOPPING
SUN SWEET TABLE TALL TEN TIGER TILE TONGUE TOOTH TRACK TREE TRIPOD TURBAN TURTLE TWO USE VALLEY
VILLAGE WALK WATER WEAPON WEST WHEAT WHITE WIND WINE WOMAN WORK WRAP WRONG YELLOW;14+ BOLT OF:
CLOTH;15+DO: NOT;17+TTED: CLIFF TENT;17+UBLE: X;17+WN: BOX;15+GO: SLOWLY;15+HALF TREE: TRUNK;
16+IDING: ENCLOSURE;15+LONG: STRIDE;15+OPEN: BOX;15+RIGHT OPEN: BOX;15+SACRIFICIAL: WINE;16+HORT:
THREAD;20+ TAILED: BIRD;15+TANNED: LEATHER;16+WO: HANDS;15+WALK: ENCLOSURE;3+NADA AI LENGTH: MARK;
8+DIGIT: EIGHT FIVE FOUR NINE ONE SEVEN SIX THREE TWO ZERO;8+LENGTH: MARK;10+TTER: A AA AI AU BA BHA
CA CHA DA DDA DDHA DHA E EE FA GA GHA HA I II JA JHA KA KHA LA LLA LLLA MA NA NGA NNA NYA O OO PA
PHA RA RRA SA SHA SSA TA THA TTA TTHA U UU VA YA;14+ NAKAARA: POLLU;15+VOCALIC: L LL R RR;8+SIGN:
ANUSVARA AVAGRAHA CANDRABINDU JIHVAMULIYA NUKTA SIDDHAM UPADHMANIYA VIRAMA VISARGA;12+ SPACING:
CANDRABINDU;8+VOWEL SIGN: AA AI AU E EE I II O OO U UU;18+ VOCALIC: L LL R RR;2+TAKANA DIGRAPH:
KOTO;9+ITERATION: MARK;9+LETTER: A BA BE BI BO BU DA DE DI DO DU E GA GE GI GO GU HA HE HI HO HU I
KA KE KI KO KU MA ME MI MO MU N NA NE NI NO NU O PA PE PI PO PU RA RE RI RO RU SA SE SI SO SU TA TE
TI TO TU U VA VE VI VO VU WA WE WI WO YA YO YU ZA ZE ZI ZO ZU;15+ ARCHAIC: E WU YE YI;16+MINNAN:
TONE-2~5 TONE-7 TONE-8;22+ NASALIZED: TONE-1~5 TONE-7 TONE-8;16+SMALL: A E HA HE HI HO HU I KA KE KU
MU N NU O RA RE RI RO RU SI SU TO TU U WA WE WI WO YA YO YU;9+MIDDLE: DOT;9+VOICED ITERATION: MARK;
8+-HIRAGANA DOUBLE: HYPHEN;18+PROLONGED SOUND: MARK;18+SEMI-VOICED SOUND: MARK;18+VOICED SOUND:
MARK;2+YAH LI DIGIT: EIGHT FIVE FOUR NINE ONE SEVEN SIX THREE TWO ZERO;9+LETTER: A BA CA DA GA HA
HTA I KA KHA LA MA NA NGA NYA OE OO PA PHA RA SA SHA TA THA VA WA YA ZA;9+SIGN: CWI SHYA;9+TONE:
CALYA PLOPHU;13+ CALYA: PLOPHU;9+VOWEL: E EE O U UE;1+ELVIN: SIGN;2+YBOARD AND: MOUSE;3+CAP: TEN;
1+HAROSHTHI: VIRAMA;10+ DIGIT: FOUR ONE THREE TWO;11+FRACTION ONE: HALF;11+LETTER: A BA BHA CA CHA
DA DDA DDHA DHA GA GHA HA JA KA KHA KKA LA MA NA NNA NYA PA PHA RA SA SHA SSA TA THA TTA TTHA TTTA
TTTHA VA VHA YA ZA;11+NUMBER: TEN TWENTY;17+ ONE: HUNDRED THOUSAND;11+PUNCTUATION: CIRCLE DANDA DOT
LINES LOTUS MANGALAM;22+ CRESCENT: BAR;23+DOUBLE: DANDA;23+SMALL: CIRCLE;11+SIGN: ANUSVARA CAUDA
VISARGA;15+ BAR: ABOVE;16+DOT: BELOW;18+UBLE RING: BELOW;11+VOWEL LENGTH: MARK;17+SIGN: E I O U;21+
VOCALIC: R;2+ITAN SMALL SCRIPT: CHARACTER-18B00#18CD5 FILLER;2+MER CURRENCY SYMBOL: RIEL;6+DIGIT:
EIGHT FIVE FOUR NINE ONE SEVEN SIX THREE TWO ZERO;6+INDEPENDENT VOWEL: LY LYY QAA QAI QAQ QAU QE QI
QII QU QUK QUU QUUV RY RYY;23+ QOO TYPE: ONE TWO;6+LETTER: BA CA CHA CHO CO DA DO HA KA KHA KHO KO
LA LO MO NGO NNO NO NYO PHA PHO PO QA RO SA SHA SSO TA THA THO TO TTHA TTHO VO YO;6+SIGN: AHSDA
ATTHACAN AVAKRAHASANYA BANTOC BARIYOOSAN BATHAMASAT BEYYAL COENG KAKABAT KHAN KOOMUUT MUUSIKATOAN
NIKAHIT REAHMUK ROBAT TOANDAKHIAT TRIISAP VIRIAM YUUKALEAPINTU;10+ CAMNUC PII: KUUH;11+LEK: TOO;
11+PHNAEK: MUAN;11+SAMYOK: SANNYA;7+YMBOL: PATHAMASAT TUTEYASAT;12+ BEI: KOET ROC;14+UON: KOET ROC;
13+DAP: KOET ROC;16+-BEI: KOET ROC;18+UON: KOET ROC;17+MUOY: KOET ROC;17+PII: KOET ROC;18+RAM: KOET
ROC;13+LEK ATTAK: BEI BUON MUOY PII PRAM PRAM-BEI PRAM-BUON PRAM-MUOY PRAM-PII SON;13+MUOY: KOET
ROC;13+PII: KOET ROC;14+RAM: KOET ROC;17+-BEI: KOET ROC;19+UON: KOET ROC;18+MUOY: KOET ROC;18+PII:
KOET ROC;6+VOWEL INHERENT: AA AQ;12+SIGN: AA AE AI AU E I IE II OE OO U UA UU Y YA YY;2+OJKI: DANDA;
6+ ABBREVIATION: SIGN;7+DOUBLE: DANDA;13+ SECTION: MARK;7+LETTER: A AA AI AU BA BBA BHA CA CHA DA
DDA DDDA DDHA DHA E GA GGA GHA HA I JA JJA KA KHA LA LLA MA NA NGA NNA NYA O PA PHA RA SA TA THA TTA
TTHA U VA YA;7+SECTION: MARK;8+IGN: ANUSVARA NUKTA SHADDA SUKUN VIRAMA;7+VOWEL SIGN: AA AI AU E I II
O U;7+WORD: SEPARATOR;2+UDAWADI DIGIT: EIGHT FIVE FOUR NINE ONE SEVEN SIX THREE TWO ZERO;10+LETTER:
A AA AI AU BA BBA BHA CA CHA DA DDA DDDA DDHA DHA E GA GGA GHA HA I II JA JHA JJA KA KHA LA MA NA
NGA NNA NYA O PA PHA RA RRA SA SHA TA THA TTA TTHA U UU VA YA;10+SIGN: ANUSVARA NUKTA VIRAMA;
10+VOWEL SIGN: AA AI AU E I II O U UU;1+IP: SIGN;2+SS: MARK;4+ING: FACE;7+ CAT FACE WITH CLOSED:
EYES;8+FACE WITH CLOSED: EYES;18+SMILING: EYES;1+NEELING: PERSON;1+OREAN STANDARD: SYMBOL;0+L B BAR:
SYMBOL;1+AB: COAT;2+CROSSE STICK AND: BALL;2+DY: BEETLE;2+NGUAGE: TAG;2+O: ELLIPSIS NIGGAHITA;3+
CANCELLATION: MARK;4+DIGIT: EIGHT FIVE FOUR NINE ONE SEVEN SIX THREE TWO ZERO;4+HO: MO NO;4+KO: LA;
4+LETTER: BO CO DO KO LO MO NGO NO NYO O PO RO TO WO YO;10+ FO: FAY FON SUNG TAM;11+HO: SUNG TAM;
11+KHMU: GO NYO;13+O: SUNG TAM;11+LO: LING LOOT;11+PALI: BHA CHA DDA DDHA DHA GHA JHA LLA NNA NYA
TTA TTHA;12+HO: SUNG TAM;11+SANSKRIT: SHA SSA;12+O: SUNG TAM;11+THO: SUNG TAM;4+SEMIVOWEL SIGN: LO
NYO;5+IGN PALI: VIRAMA;4+TONE MAI: CATAWA EK THO TI;4+VOWEL SIGN: A AA AI AM AY E EI I II O U UU Y
YY;14+ MAI: KAN KON;2+RGE: CIRCLE;5+ BLUE: CIRCLE DIAMOND SQUARE;7+ROWN: CIRCLE SQUARE;6+DOWN: TACK;
6+GREEN: CIRCLE SQUARE;6+LEFT TRIANGLE: OPERATOR;6+ONE DOT OVER TWO DOTS: PUNCTUATION;10+RING OVER
TWO RINGS: PUNCTUATION;7+RANGE: CIRCLE DIAMOND SQUARE;6+PURPLE: CIRCLE SQUARE;6+RED: CIRCLE SQUARE;
6+TRIPLE VERTICAL BAR: OPERATOR;7+WO DOTS OVER ONE DOT: PUNCTUATION;10+RINGS OVER ONE RING:
PUNCTUATION;6+UP: TACK;6+YELLOW: CIRCLE SQUARE;5+R: THAN;6+ THAN OR EQUAL: TO;3+I: SIGN;2+ST
QUARTER: MOON;12+ MOON: SYMBOL;17+ WITH: FACE;2+TIN: CROSS;5+ CAPITAL LETTER: A AA AE ALPHA AO AU AV
AY B BETA C CHI CON CUATRILLO D DZ E ENG ESH ET ETH EZH F G GAMMA GHA H HENG HWAIR I IOTA IS J K L
LJ M N NJ O OI OMEGA OO OU P Q R S SALTILLO SCHWA T THORN TRESILLO TZ U UPSILON V VEND VY W WYNN X Y
YOGH Z;20+ A WITH: ACUTE BREVE CARON CIRCUMFLEX DIAERESIS GRAVE MACRON OGONEK STROKE TILDE;27+ BREVE
AND: ACUTE GRAVE TILDE;37+ DOT: BELOW;38+HOOK: ABOVE;28+CIRCUMFLEX AND: ACUTE GRAVE TILDE;42+ DOT:
BELOW;43+HOOK: ABOVE;28+DIAERESIS AND: MACRON;29+OT: ABOVE BELOW;31+ ABOVE AND: MACRON;30+UBLE:
GRAVE;28+HOOK: ABOVE;28+INVERTED: BREVE;28+RING: ABOVE BELOW;32+ ABOVE AND: ACUTE;22+E WITH: ACUTE
MACRON;22+FRICAN: D;22+NGLICANA: W;22+V WITH HORIZONTAL: BAR;21+B WITH: FLOURISH HOOK STROKE TOPBAR;
27+ DOT: ABOVE BELOW;28+LINE: BELOW;22+ROKEN: L;21+C WITH: ACUTE BAR CARON CEDILLA CIRCUMFLEX HOOK
STROKE;27+ CEDILLA AND: ACUTE;28+DOT: ABOVE;28+PALATAL: HOOK;22+LOSED INSULAR: G;22+UATRILLO WITH:
COMMA;21+D WITH: CARON CEDILLA HOOK STROKE TOPBAR;27+ CIRCUMFLEX: BELOW;28+DOT: ABOVE BELOW;28+LINE:
BELOW;28+SHORT STROKE: OVERLAY;29+MALL LETTER: Z;40+ Z WITH: CARON;22+Z WITH: CARON;21+E WITH: ACUTE
BREVE CARON CEDILLA CIRCUMFLEX DIAERESIS GRAVE MACRON OGONEK STROKE TILDE;27+ CEDILLA AND: BREVE;
29+IRCUMFLEX: BELOW;38+ AND: ACUTE GRAVE TILDE;42+ DOT: BELOW;43+HOOK: ABOVE;28+DOT: ABOVE BELOW;
30+UBLE: GRAVE;28+HOOK: ABOVE;28+INVERTED: BREVE;28+MACRON AND: ACUTE GRAVE;28+TILDE: BELOW;
22+GYPTOLOGICAL: AIN ALEF;22+ZH: REVERSED;24+ WITH: CARON;21+F WITH: HOOK STROKE;27+ DOT: ABOVE;21+G
WITH: ACUTE BREVE CARON CEDILLA CIRCUMFLEX HOOK MACRON STROKE;27+ DOT: ABOVE;28+OBLIQUE: STROKE;
22+LOTTAL: A I STOP U;21+H WITH: CARON CEDILLA CIRCUMFLEX DESCENDER DIAERESIS HOOK STROKE;27+ BREVE:
BELOW;28+DOT: ABOVE BELOW;22+ALF: H;21+I WITH: ACUTE BREVE CARON CIRCUMFLEX DIAERESIS GRAVE MACRON
OGONEK STROKE TILDE;27+ DIAERESIS AND: ACUTE;29+OT: ABOVE BELOW;30+UBLE: GRAVE;28+HOOK: ABOVE;
28+INVERTED: BREVE;28+TILDE: BELOW;22+NSULAR: D F G R S T;21+J WITH: CIRCUMFLEX CROSSED-TAIL STROKE;
21+K WITH: ACUTE CARON CEDILLA DESCENDER HOOK STROKE;27+ DIAGONAL: STROKE;29+OT: BELOW;28+LINE:
BELOW;28+OBLIQUE: STROKE;28+STROKE AND DIAGONAL: STROKE;21+L WITH: ACUTE BAR BELT CARON CEDILLA
STROKE;27+ CIRCUMFLEX: BELOW;28+DOT: BELOW;31+ BELOW AND: MACRON;30+UBLE: BAR;28+HIGH: STROKE;
28+LINE: BELOW;28+MIDDLE: DOT TILDE;28+SMALL LETTER: J;21+M WITH: ACUTE HOOK;27+ DOT: ABOVE BELOW;
22+IDDLE SCOTS: S;27+-WELSH: LL V;21+N WITH: ACUTE CARON CEDILLA DESCENDER GRAVE TILDE;27+
CIRCUMFLEX: BELOW;28+DOT: ABOVE BELOW;28+LEFT: HOOK;29+INE: BELOW;29+ONG RIGHT: LEG;28+OBLIQUE:
STROKE;28+SMALL LETTER: J;21+O WITH: ACUTE BREVE CARON CIRCUMFLEX DIAERESIS GRAVE HORN LOOP MACRON
OGONEK STROKE TILDE;27+ CIRCUMFLEX AND: ACUTE GRAVE TILDE;42+ DOT: BELOW;43+HOOK: ABOVE;28+DIAERESIS
AND: MACRON;29+OT: ABOVE BELOW;31+ ABOVE AND: MACRON;30+UBLE: ACUTE GRAVE;28+HOOK: ABOVE;30+RN AND:
ACUTE GRAVE TILDE;36+ DOT: BELOW;37+HOOK: ABOVE;28+INVERTED: BREVE;28+LONG STROKE: OVERLAY;28+MACRON
AND: ACUTE GRAVE;29+IDDLE: TILDE;28+OGONEK AND: MACRON;28+STROKE AND: ACUTE;28+TILDE AND: ACUTE
DIAERESIS MACRON;22+LD POLISH: O;22+PEN: E O;21+P WITH: ACUTE FLOURISH HOOK STROKE;27+ DOT: ABOVE;
28+SQUIRREL: TAIL;29+TROKE THROUGH: DESCENDER;21+Q WITH DIAGONAL: STROKE;28+STROKE THROUGH:
DESCENDER;21+R: ROTUNDA;22+ WITH: ACUTE CARON CEDILLA STROKE TAIL;27+ DOT: ABOVE BELOW;31+ BELOW
AND: MACRON;30+UBLE: GRAVE;28+INVERTED: BREVE;28+LINE: BELOW;28+OBLIQUE: STROKE;22+EVERSED: E;29+ C
WITH: DOT;30+HALF: H;30+OPEN: E;22+UM: ROTUNDA;21+S WITH: ACUTE CARON CEDILLA CIRCUMFLEX HOOK;27+
ACUTE AND DOT: ABOVE;28+CARON AND DOT: ABOVE;29+OMMA: BELOW;28+DOT: ABOVE BELOW;31+ BELOW AND DOT:
ABOVE;28+OBLIQUE: STROKE;28+SHORT STROKE: OVERLAY;29+WASH: TAIL;22+CRIPT: G;22+HARP: S;22+IGMOID: S;
22+MALL CAPITAL: I;27+Q WITH HOOK: TAIL;21+T WITH: CARON CEDILLA HOOK STROKE;27+ CIRCUMFLEX: BELOW;
29+OMMA: BELOW;28+DIAGONAL: STROKE;29+OT: ABOVE BELOW;28+LINE: BELOW;28+RETROFLEX: HOOK;22+HORN
WITH: STROKE;31+ STROKE THROUGH: DESCENDER;22+ONE: FIVE SIX TWO;22+URNED: A ALPHA H K L M T V;27+
INSULAR: G;21+U: BAR;22+ WITH: ACUTE BREVE CARON CIRCUMFLEX DIAERESIS GRAVE HORN MACRON OGONEK
STROKE TILDE;27+ CIRCUMFLEX: BELOW;28+DIAERESIS: BELOW;37+ AND: ACUTE CARON GRAVE MACRON;29+OT:
BELOW;30+UBLE: ACUTE GRAVE;28+HOOK: ABOVE;30+RN AND: ACUTE GRAVE TILDE;36+ DOT: BELOW;37+HOOK:
ABOVE;28+INVERTED: BREVE;28+MACRON AND: DIAERESIS;28+RING: ABOVE;28+TILDE: BELOW;33+ AND: ACUTE;21+V
WITH: HOOK TILDE;27+ DIAGONAL: STROKE;29+OT: BELOW;22+ISIGOTHIC: Z;22+OLAPUK: AE OE UE;21+W WITH:
ACUTE CIRCUMFLEX DIAERESIS GRAVE HOOK;27+ DOT: ABOVE BELOW;21+X WITH: DIAERESIS;27+ DOT: ABOVE;21+Y
WITH: ACUTE CIRCUMFLEX DIAERESIS GRAVE HOOK LOOP MACRON STROKE TILDE;27+ DOT: ABOVE BELOW;28+HOOK:
ABOVE;21+Z WITH: ACUTE CARON CIRCUMFLEX DESCENDER HOOK STROKE;27+ DOT: ABOVE BELOW;28+LINE: BELOW;
28+PALATAL: HOOK;28+SWASH: TAIL;15+IGATURE: IJ OE;6+EPIGRAPHIC LETTER ARCHAIC: M;24+I: LONGA;
25+NVERTED: M;24+REVERSED: F P;24+SIDEWAYS: I;6+LETTER: AIN WYNN YR;12+ ALVEOLAR: CLICK;13+BIDENTAL:
PERCUSSIVE;15+LABIAL: CLICK PERCUSSIVE;13+DENTAL: CLICK;13+GLOTTAL: STOP;20+ STOP WITH: STROKE;
13+INVERTED GLOTTAL: STOP;29+ STOP WITH: CURL STROKE;13+LATERAL: CLICK;13+PHARYNGEAL VOICED:
FRICATIVE;13+RETROFLEX: CLICK;22+ CLICK WITH RETROFLEX: HOOK;15+VERSED ESH: LOOP;22+GLOTTAL STOP
WITH: STROKE;13+SINOLOGICAL: DOT;14+MALL CAPITAL: A AE B C D E ETH EZH F G H I J K L M N O OE OU P Q
R RUM S T U V W Y Z;26+ BARRED: B;27+G WITH: HOOK;27+INVERTED: R;27+L WITH: BELT STROKE;27+OPEN: O;
27+R WITH RIGHT: LEG;28+EVERSED: N R;27+TURNED: E G K M R;14+TRETCHED: C;22+ C WITH: CURL;13+TWO
WITH: STROKE;13+VOICED LARYNGEAL: SPIRANT;6+SMALL CAPITAL LETTER I WITH: STROKE;27+U WITH: STROKE;
12+LETTER: A AA AE ALPHA AO AU AV AY B BETA C CHI CON CUATRILLO D DELTA DUM DZ E ENG ESH ET ETH EZH
F G GAMMA GHA H HENG HV I IOTA IS J K KRA L LEZH LJ LUM M MUM N NJ NUM O OI OMEGA OO OU P PHI Q R
RUM S SALTILLO SCHWA T THORN TRESILLO TUM TZ U UE UI UM UO UPSILON V VEND VY W X Y YOGH Z;18+ A:
REVERSED-SCHWA;20+ WITH: ACUTE BREVE CARON CIRCUMFLEX DIAERESIS GRAVE MACRON OGONEK STROKE TILDE;25+
BREVE AND: ACUTE GRAVE TILDE;35+ DOT: BELOW;36+HOOK: ABOVE;26+CIRCUMFLEX AND: ACUTE GRAVE TILDE;40+
DOT: BELOW;41+HOOK: ABOVE;26+DIAERESIS AND: MACRON;27+OT: ABOVE BELOW;29+ ABOVE AND: MACRON;28+UBLE:
GRAVE;26+HOOK: ABOVE;26+INVERTED: BREVE;26+RETROFLEX: HOOK;27+IGHT HALF: RING;28+NG: ABOVE BELOW;30+
ABOVE AND: ACUTE;20+E WITH: ACUTE MACRON;20+LPHA WITH RETROFLEX: HOOK;20+NGLICANA: W;20+V WITH
HORIZONTAL: BAR;19+B WITH: FLOURISH HOOK STROKE TOPBAR;25+ DOT: ABOVE BELOW;26+LINE: BELOW;
26+MIDDLE: TILDE;26+PALATAL: HOOK;20+ARRED: ALPHA E O;21+SELINE: ESH;20+LACKLETTER: E O;30+ O WITH:
STROKE;20+OTTOM HALF: O;20+ROKEN: L;19+C WITH: ACUTE BAR CARON CEDILLA CIRCUMFLEX CURL HOOK STROKE;
25+ CEDILLA AND: ACUTE;26+DOT: ABOVE;26+PALATAL: HOOK;26+RETROFLEX: HOOK;20+HI WITH LOW LEFT: SERIF;
32+RIGHT: RING;20+LOSED: OMEGA;25+ INSULAR: G;26+OPEN: E;26+REVERSED OPEN: E;20+UATRILLO WITH:
COMMA;19+D WITH: CARON CEDILLA CURL HOOK STROKE TAIL TOPBAR;25+ CIRCUMFLEX: BELOW;26+DOT: ABOVE
BELOW;26+HOOK AND: TAIL;26+LINE: BELOW;26+MIDDLE: TILDE;26+PALATAL: HOOK;26+SHORT STROKE: OVERLAY;
20+B: DIGRAPH;20+EZH: DIGRAPH;23+ DIGRAPH WITH PALATAL: HOOK;37+RETROFLEX: HOOK;20+OTLESS: I J;26+ J
WITH: STROKE;33+ STROKE AND: HOOK;21+UBLE: R THORN WYNN;25+ R WITH: CROSSED-TAIL;20+Z: DIGRAPH;21+
DIGRAPH WITH: CURL;34+ RETROFLEX: HOOK;22+WITH: CARON;19+E WITH: ACUTE BREVE CARON CEDILLA
CIRCUMFLEX DIAERESIS FLOURISH GRAVE MACRON NOTCH OGONEK STROKE TILDE;25+ CEDILLA AND: BREVE;
27+IRCUMFLEX: BELOW;36+ AND: ACUTE GRAVE TILDE;40+ DOT: BELOW;41+HOOK: ABOVE;26+DOT: ABOVE BELOW;
28+UBLE: GRAVE;26+HOOK: ABOVE;26+INVERTED: BREVE;26+MACRON AND: ACUTE GRAVE;26+RETROFLEX: HOOK;
26+TILDE: BELOW;20+GYPTOLOGICAL: AIN ALEF;20+NG WITH: CROSSED-TAIL;27+ PALATAL: HOOK;20+SH WITH:
CURL;27+ DOUBLE: BAR;34+ BAR AND: CURL;28+PALATAL: HOOK;28+RETROFLEX: HOOK;20+ZH: REVERSED;22+ WITH:
CARON CURL TAIL;27+ PALATAL: HOOK;28+RETROFLEX: HOOK;19+F WITH: HOOK STROKE;25+ DOT: ABOVE;
26+MIDDLE: TILDE;26+PALATAL: HOOK;20+ENG: DIGRAPH;23+ DIGRAPH WITH: TRILL;19+G WITH: ACUTE BREVE
CARON CEDILLA CIRCUMFLEX HOOK MACRON STROKE;25+ DOT: ABOVE;26+OBLIQUE: STROKE;26+PALATAL: HOOK;
20+LOTTAL: A I STOP U;19+H WITH: CARON CEDILLA CIRCUMFLEX DESCENDER DIAERESIS HOOK STROKE;25+ BREVE:
BELOW;26+DOT: ABOVE BELOW;26+LINE: BELOW;26+PALATAL: HOOK;20+ALF: H;20+ENG WITH: HOOK;19+I WITH:
ACUTE BREVE CARON CIRCUMFLEX DIAERESIS GRAVE MACRON OGONEK STROKE TILDE;25+ DIAERESIS AND: ACUTE;
27+OT: BELOW;28+UBLE: GRAVE;26+HOOK: ABOVE;26+INVERTED: BREVE;26+RETROFLEX: HOOK;26+STROKE AND
RETROFLEX: HOOK;26+TILDE: BELOW;20+NSULAR: D F G R S T;21+VERTED: ALPHA OE;20+OTA WITH: STROKE;
22+IFIED: E;19+J WITH: CARON CIRCUMFLEX CROSSED-TAIL STROKE;19+K WITH: ACUTE CARON CEDILLA DESCENDER
HOOK STROKE;25+ DIAGONAL: STROKE;27+OT: BELOW;26+LINE: BELOW;26+OBLIQUE: STROKE;26+PALATAL: HOOK;
26+STROKE AND DIAGONAL: STROKE;19+L WITH: ACUTE BAR BELT CARON CEDILLA CURL FISHHOOK STROKE;25+ BELT
AND PALATAL: HOOK;26+CIRCUMFLEX: BELOW;26+DOT: BELOW;29+ BELOW AND: MACRON;28+UBLE: BAR;32+ MIDDLE:
TILDE;26+HIGH: STROKE;26+INVERTED LAZY: S;26+LINE: BELOW;26+MIDDLE: DOT RING TILDE;26+PALATAL: HOOK;
26+RETROFLEX: HOOK;35+ HOOK AND: BELT;20+AMBDA WITH: STROKE;20+ENIS: F;21+ZH WITH RETROFLEX: HOOK;
20+ONG: S;23+ S WITH DIAGONAL: STROKE;32+OT: ABOVE;31+HIGH: STROKE;20+S: DIGRAPH;20+Z: DIGRAPH;19+M
WITH: ACUTE CROSSED-TAIL HOOK;25+ DOT: ABOVE BELOW;26+MIDDLE: TILDE;26+PALATAL: HOOK;20+IDDLE SCOTS:
S;25+-WELSH: LL V;19+N PRECEDED BY: APOSTROPHE;21+WITH: ACUTE CARON CEDILLA CROSSED-TAIL CURL
DESCENDER GRAVE TILDE;25+ CIRCUMFLEX: BELOW;26+DOT: ABOVE BELOW;26+LEFT: HOOK;27+INE: BELOW;27+ONG
RIGHT: LEG;26+MIDDLE: TILDE;26+OBLIQUE: STROKE;26+PALATAL: HOOK;26+RETROFLEX: HOOK;19+O WITH: ACUTE
BREVE CARON CIRCUMFLEX DIAERESIS GRAVE HORN LOOP MACRON OGONEK STROKE TILDE;25+ CIRCUMFLEX AND:
ACUTE GRAVE TILDE;40+ DOT: BELOW;41+HOOK: ABOVE;26+DIAERESIS AND: MACRON;27+OT: ABOVE BELOW;29+
ABOVE AND: MACRON;28+UBLE: ACUTE GRAVE;26+HOOK: ABOVE;28+RN AND: ACUTE GRAVE TILDE;34+ DOT: BELOW;
35+HOOK: ABOVE;26+INVERTED: BREVE;26+LONG STROKE: OVERLAY;28+W RING: INSIDE;26+MACRON AND: ACUTE
GRAVE;26+OGONEK AND: MACRON;26+RETROFLEX: HOOK;26+STROKE AND: ACUTE;26+TILDE AND: ACUTE DIAERESIS
MACRON;20+LD POLISH: O;20+PEN: E O OE;23+ E WITH RETROFLEX: HOOK;24+O WITH: STROKE;30+ RETROFLEX:
HOOK;19+P WITH: ACUTE FLOURISH HOOK STROKE;25+ DOT: ABOVE;26+MIDDLE: TILDE;26+PALATAL: HOOK;
26+SQUIRREL: TAIL;27+TROKE THROUGH: DESCENDER;19+Q WITH: HOOK;25+ DIAGONAL: STROKE;26+HOOK: TAIL;
26+STROKE THROUGH: DESCENDER;20+P: DIGRAPH;19+R: ROTUNDA;20+ WITH: ACUTE CARON CEDILLA CROSSED-TAIL
FISHHOOK STROKE TAIL;25+ DOT: ABOVE BELOW;29+ BELOW AND: MACRON;28+UBLE: GRAVE;26+FISHHOOK AND
MIDDLE: TILDE;39+PALATAL: HOOK;26+INVERTED: BREVE;26+LINE: BELOW;27+ONG: LEG;26+MIDDLE: TILDE;
26+OBLIQUE: STROKE;26+PALATAL: HOOK;25+OUT: HANDLE;20+AMS: HORN;20+EVERSED: C E ENG K;27+ C WITH:
DOT;28+HALF: H;28+OPEN: E;32+ E WITH: HOOK;39+ RETROFLEX: HOOK;28+R WITH: FISHHOOK;28+SCRIPT: G;
20+UM: ROTUNDA;19+S WITH: ACUTE CARON CEDILLA CIRCUMFLEX CURL HOOK;25+ ACUTE AND DOT: ABOVE;26+CARON
AND DOT: ABOVE;27+OMMA: BELOW;26+DOT: ABOVE BELOW;29+ BELOW AND DOT: ABOVE;26+MIDDLE: TILDE;
26+OBLIQUE: STROKE;26+PALATAL: HOOK;26+SHORT STROKE: OVERLAY;27+WASH: TAIL;20+AKHA: YAT;20+CHWA
WITH: HOOK;29+ RETROFLEX: HOOK;21+RIPT: G R;25+ G WITH: CROSSED-TAIL;26+R WITH: RING;20+HARP: S;
20+IDEWAYS: O U;27+ DIAERESIZED: U;28+O WITH: STROKE;29+PEN: O;28+TURNED: M;21+GMOID: S;20+QUAT
REVERSED: ESH;20+TIRRUP: R;19+T WITH: CARON CEDILLA CURL DIAERESIS HOOK STROKE;25+ CIRCUMFLEX:
BELOW;27+OMMA: BELOW;26+DIAGONAL: STROKE;27+OT: ABOVE BELOW;26+HOOK AND RETROFLEX: HOOK;26+LINE:
BELOW;26+MIDDLE: TILDE;26+PALATAL: HOOK;26+RETROFLEX: HOOK;20+AILLESS: PHI;20+C DIGRAPH WITH: CURL;
20+ESH: DIGRAPH;23+ DIGRAPH WITH PALATAL: HOOK;37+RETROFLEX: HOOK;20+H WITH: STRIKETHROUGH;21+ORN
WITH: STROKE;29+ STROKE THROUGH: DESCENDER;20+ONE: FIVE SIX TWO;21+P HALF: O;20+S: DIGRAPH;21+
DIGRAPH WITH RETROFLEX: HOOK;20+URNED: A AE ALPHA DELTA E G H I K L M OE R T UI V W Y;25+ H WITH:
FISHHOOK;32+ FISHHOOK AND: TAIL;26+INSULAR: G;26+M WITH LONG: LEG;26+O: OPEN-O;27+ OPEN-O WITH:
STROKE;27+E WITH: STROKE;33+ HORIZONTAL: STROKE;27+PEN: E;26+R WITH: HOOK TAIL;32+ LONG: LEG;37+ LEG
AND RETROFLEX: HOOK;33+MIDDLE: TILDE;33+PALATAL: HOOK;26+T WITH: CURL;26+Y WITH: BELT;19+U: BAR;20+
BAR WITH SHORT RIGHT: LEG;21+WITH: ACUTE BREVE CARON CIRCUMFLEX DIAERESIS GRAVE HORN MACRON OGONEK
STROKE TILDE;25+ CIRCUMFLEX: BELOW;26+DIAERESIS: BELOW;35+ AND: ACUTE CARON GRAVE MACRON;27+OT:
BELOW;28+UBLE: ACUTE GRAVE;26+HOOK: ABOVE;28+RN AND: ACUTE GRAVE TILDE;34+ DOT: BELOW;35+HOOK:
ABOVE;26+INVERTED: BREVE;26+LEFT: HOOK;26+MACRON AND: DIAERESIS;26+RETROFLEX: HOOK;27+ING: ABOVE;
26+SHORT RIGHT: LEG;26+TILDE: BELOW;31+ AND: ACUTE;20+PSILON WITH: STROKE;19+V WITH: CURL HOOK
TILDE;25+ DIAGONAL: STROKE;27+OT: BELOW;26+PALATAL: HOOK;26+RIGHT: HOOK;20+ISIGOTHIC: Z;20+OLAPUK:
AE OE UE;19+W WITH: ACUTE CIRCUMFLEX DIAERESIS GRAVE HOOK;25+ DOT: ABOVE BELOW;26+RING: ABOVE;19+X
WITH: DIAERESIS;25+ DOT: ABOVE;26+LONG LEFT: LEG;35+ LEG AND LOW RIGHT: RING;40+WITH: SERIF;28+W
RIGHT: RING;26+PALATAL: HOOK;19+Y WITH: ACUTE CIRCUMFLEX DIAERESIS GRAVE HOOK LOOP MACRON STROKE
TILDE;25+ DOT: ABOVE BELOW;26+HOOK: ABOVE;26+RING: ABOVE;26+SHORT RIGHT: LEG;19+Z WITH: ACUTE CARON
CIRCUMFLEX CURL DESCENDER HOOK STROKE;25+ DOT: ABOVE BELOW;26+LINE: BELOW;26+MIDDLE: TILDE;
26+PALATAL: HOOK;26+RETROFLEX: HOOK;26+SWASH: TAIL;13+IGATURE: FF FFI FFL FI FL IJ OE ST;20+ LONG S:
T;7+UBSCRIPT SMALL LETTER: A E H I J K L M N O P R S SCHWA T U V X;1+EAF FLUTTERING IN: WIND;4+Y:
GREEN;2+FT: CEILING FLOOR LUGGAGE MULTIMAP PARENTHESIS TACK;4+ AND LOWER AND RIGHT TRIANGULAR THREE
QUARTERS: BLOCK;15+ONE EIGHTH: BLOCK;9+RIGHT: TACK;14+ DOUBLE: TURNSTILE;15+TRIANGULAR HALF: BLOCK;
9+UPPER AND RIGHT TRIANGULAR THREE QUARTERS: BLOCK;15+ONE EIGHTH: BLOCK;7+GER: BUBBLE;8+LE: BRACKET;
10+ BRACKET WITH: DOT;6+RC LESS-THAN: BRACKET;7+ROW WITH CIRCLED: PLUS;16+SMALL: CIRCLE;5+BARB DOWN
RIGHT BARB DOWN: HARPOON;26+UP: HARPOON;10+UP RIGHT BARB DOWN: HARPOON;24+UP: HARPOON;6+LACK
LENTICULAR: BRACKET;11+TORTOISE SHELL: BRACKET;5+CLOSED: ENTRY;6+ORNER: BRACKET;6+URLY: BRACKET;10+
BRACKET LOWER: HOOK;19+MIDDLE: PIECE;19+UPPER: HOOK;5+DOTTED SUBSTITUTION: BRACKET;7+UBLE:
PARENTHESIS;11+ ANGLE: BRACKET;12+QUOTATION: MARK;12+WIGGLY: FENCE;5+FISH: TAIL;7+VE EIGHTHS: BLOCK;
5+HALF: BLOCK CIRCLE FOLDER;9+ BLACK: CIRCLE STAR;10+CIRCLE WITH: DOT;21+ FOUR: DOTS;22+THREE: DOTS;
23+WO: DOTS;10+INVERSE MEDIUM SHADE AND RIGHT HALF: BLOCK;10+MEDIUM: SHADE;10+RUNNING: MAN;7+ND
TELEPHONE: RECEIVER;5+LOW PARAPHRASE: BRACKET;5+NORMAL FACTOR SEMIDIRECT: PRODUCT;5+ONE EIGHTH:
BLOCK;9+QUARTER: BLOCK;6+UTER: JOIN;5+PARENTHESIS: EXTENSION;16+ LOWER: HOOK;17+UPPER: HOOK;5+RAISED
OMISSION: BRACKET;6+IGHT: ARROW;10+ ARROW THROUGH SMALL: CIRCLE;17+WITH: STROKE;21+ DOUBLE VERTICAL:
STROKE;22+VERTICAL: STROKE;11+BLACK: ARROW;11+DOUBLE: ARROW;17+ ARROW WITH: STROKE;28+ VERTICAL:
STROKE;11+OPEN-HEADED: ARROW;11+SANS-SERIF: ARROW;11+TRIANGLE-HEADED: ARROW;11+WAVE: ARROW;12+HITE:
ARROW;5+S-SHAPED BAG: DELIMITER;6+EMIDIRECT: PRODUCT;7+VEN EIGHTHS: BLOCK;6+IDEWAYS U: BRACKET;
7+NGLE QUOTATION: MARK;6+PEECH: BUBBLE;6+QUARE: BRACKET;11+ BRACKET: EXTENSION;19+ LOWER: CORNER;
20+UPPER: CORNER;20+WITH: QUILL STROKE UNDERBAR;24+ DOUBLE: STROKE;25+TICK IN BOTTOM: CORNER;33+TOP:
CORNER;6+UBSTITUTION: BRACKET;5+THIRD WHITE RIGHT POINTING: INDEX;7+OUGHT: BUBBLE;7+REE EIGHTHS:
BLOCK;11+QUARTERS: BLOCK;6+ORTOISE SHELL: BRACKET;6+RANSPOSITION: BRACKET;7+IANGLE BESIDE VERTICAL:
BAR;11+ULAR ONE QUARTER: BLOCK;5+VERTICAL BAR WITH: QUILL;15+OX: LINE;5+WHITE: PARENTHESIS;10+
CORNER: BRACKET;12+URLY: BRACKET;11+LENTICULAR: BRACKET;11+SQUARE: BRACKET;11+TORTOISE SHELL:
BRACKET;6+IGGLY: FENCE;6+RITING: HAND;4+-FACING: FIST;11+ ARMENIAN ETERNITY: SIGN;12+SVASTI: SIGN;
18+ SIGN WITH: DOTS;5+HANDED INTERLACED: PENTAGRAM;5+POINTING ANGLE: BRACKET;14+CURVED ANGLE:
BRACKET;14+DOUBLE ANGLE QUOTATION: MARK;14+MAGNIFYING: GLASS;5+SHADED WHITE RIGHTWARDS: ARROW;6+IDE
ARC ANTICLOCKWISE: ARROW;5+TO-RIGHT: EMBEDDING ISOLATE MARK OVERRIDE;4+WARDS: ARROW ARROW-TAIL HAND
ROCKET;9+ ARROW ABOVE ALMOST EQUAL: TO;22+REVERSE ALMOST EQUAL: TO;30+TILDE: OPERATOR;22+SHORT
RIGHTWARDS: ARROW;22+TILDE: OPERATOR;17+ND UPPER AND LOWER ONE EIGHTH: BLOCK;16+FROM: BAR;20+ BAR TO
BLACK: DIAMOND;16+OVER RIGHTWARDS: ARROW;16+THROUGH: LESS-THAN SUBSET X;17+O: BAR;18+ BAR OVER
RIGHTWARDS ARROW TO: BAR;20+LACK: DIAMOND;16+WITH: HOOK LOOP STROKE TAIL;20+ DOTTED: STEM;23+UBLE
VERTICAL: STROKE;21+EQUILATERAL: ARROWHEAD;21+LARGE TRIANGLE: ARROWHEAD;21+MEDIUM TRIANGLE:
ARROWHEAD;21+NOTCHED: TAIL;21+PLUS: BELOW;21+SMALL EQUILATERAL: ARROWHEAD;27+TRIANGLE: ARROWHEAD;
21+TAIL WITH DOUBLE VERTICAL: STROKE;31+VERTICAL: STROKE;22+IP: DOWNWARDS UPWARDS;21+VERTICAL:
STROKE;10+BACK-TILTED SHADOWED WHITE: ARROW;11+LACK: ARROW;15+ CIRCLED WHITE: ARROW;11+OTTOM-SHADED
WHITE: ARROW;10+COMPRESSED: ARROW;10+DASHED: ARROW;11+OUBLE: ARROW ARROW-TAIL;16+ ARROW FROM: BAR;
23+WITH: STROKE;27+ VERTICAL: STROKE;17+DASH: ARROW;10+FINGER-POST: ARROW;11+RONT-TILTED SHADOWED
WHITE: ARROW;10+HARPOON OVER RIGHTWARDS: HARPOON;18+WITH BARB: DOWNWARDS UPWARDS;27+ DOWN ABOVE
RIGHTWARDS HARPOON WITH BARB: DOWN;33+BELOW LONG: DASH;33+FROM: BAR;33+TO: BAR;28+UP ABOVE LEFTWARDS
HARPOON WITH BARB: DOWN;38+ONG: DASH;37+RIGHTWARDS HARPOON WITH BARB: UP;31+FROM: BAR;31+TO: BAR;
11+EAVY: ARROW;15+ COMPRESSED: ARROW;10+LEFT-SHADED WHITE: ARROW;10+OPEN-HEADED: ARROW;10+PAIRED:
ARROWS;10+QUADRUPLE: ARROW;10+RIGHT-SHADED WHITE: ARROW;10+SANS-SERIF: ARROW;11+QUARED: ARROW;
13+IGGLE: ARROW;10+TOP SHADED WHITE: ARROW;11+RIANGLE: ARROWHEAD;18+-HEADED: ARROW;25+ ARROW OVER
RIGHTWARDS TRIANGLE-HEADED: ARROW;32+TO: BAR;32+WITH BOLD: SHAFT;37+DOUBLE HORIZONTAL: STROKE;
44+VERTICAL: STROKE;37+HEAVY: SHAFT;37+LONG TIP: DOWNWARDS UPWARDS;37+MEDIUM: SHAFT;37+NARROW:
SHAFT;37+VERY HEAVY: SHAFT;26+DASHED: ARROW;26+PAIRED: ARROWS;13+PLE: ARROW;16+ DASH: ARROW;11+WO
HEADED: ARROW;13+-HEADED ARROW FROM: BAR;27+WITH: TAIL;31+ DOUBLE VERTICAL: STROKE;32+TAIL WITH
DOUBLE VERTICAL: STROKE;42+VERTICAL: STROKE;33+RIANGLE: ARROWHEADS;32+VERTICAL: STROKE;21+TRIPLE
DASH: ARROW;10+WAVE: ARROW;11+HITE: ARROW;15+ ARROW WITHIN TRIANGLE: ARROWHEAD;2+PCHA CONSONANT
SIGN: K KANG L M N NYIN-DO P R T;7+DIGIT: EIGHT FIVE FOUR NINE ONE SEVEN SIX THREE TWO ZERO;
7+LETTER: A BA BLA CA CHA DA DDA DZA FA FLA GA GLA HA HLA JA KA KHA KLA LA MA MLA NA NGA NYA PA PHA
PLA RA SA SHA TA THA TSA TSHA TTA TTHA VA WA YA;7+PUNCTUATION: CER-WA TA-ROL TSHOOK;18+ NYET THYOOM:
TA-ROL;19+TSHOOK: CER-WA;7+SIGN: NUKTA RAN;8+UBJOINED LETTER: RA YA;7+VOWEL SIGN: AA E I O OO U UU;
2+SS-THAN: SIGN;9+ ABOVE DOUBLE-LINE EQUAL ABOVE: GREATER-THAN;16+GREATER-THAN ABOVE DOUBLE-LINE:
EQUAL;16+LEFTWARDS: ARROW;16+SIMILAR ABOVE: GREATER-THAN;24+OR: EQUAL;17+LANTED EQUAL ABOVE
GREATER-THAN ABOVE SLANTED: EQUAL;11+ND NOT: APPROXIMATE;14+SINGLE-LINE NOT EQUAL: TO;10+BUT NOT
EQUAL: TO;21+IVALENT: TO;10+CLOSED BY: CURVE;19+ CURVE ABOVE SLANTED: EQUAL;10+EQUAL TO OR:
GREATER-THAN;10+OR: APPROXIMATE GREATER-THAN;12+ EQUAL: TO;16+IVALENT: TO;13+SLANTED EQUAL: TO;26+
TO WITH DOT: ABOVE INSIDE;38+ ABOVE: RIGHT;11+VER EQUAL: TO;10+WITH: DOT;14+ CIRCLE: INSIDE;
15+QUESTION MARK: ABOVE;2+VEL: SLIDER;1+IGATURE OPEN ET: ORNAMENT;3+HT: RAIL SALTIRE SHADE;5+ CHECK:
MARK;6+EIGHT SPOKED: ASTERISK;6+FIVE POINTED BLACK: STAR;11+SPOKED: ASTERISK;7+OUR POINTED BLACK:
CUSP STAR;6+GREEK: CROSS;6+LEFT TORTOISE SHELL BRACKET: ORNAMENT;6+RIGHT TORTOISE SHELL BRACKET:
ORNAMENT;6+SIX SPOKED: ASTERISK;6+THREE POINTED BLACK: STAR;7+WELVE POINTED BLACK: STAR;6+VERTICAL:
BAR;6+WHITE: SQUARE;5+NING: MOOD;9+ MOOD: BUBBLE;2+MBU DIGIT: EIGHT FIVE FOUR NINE ONE SEVEN SIX
THREE TWO ZERO;6+EXCLAMATION: MARK;6+LETTER: BA BHA CA CHA DA DHA GA GHA GYAN HA JA JHA KA KHA LA MA
NA NGA PA PHA RA SA SHA SSA TA THA TRA WA YA YAN;6+QUESTION: MARK;6+SIGN: KEMPHRENG LOO MUKPHRENG
SA-I;7+MALL LETTER: ANUSVARA KA LA MA NA NGA PA RA TA;7+UBJOINED LETTER: RA WA YA;6+VOWEL SIGN: A AI
AU E EE I O OO U;11+-CARRIER: LETTER;3+ITED LIABILITY: SIGN;2+NE: FEED SEPARATOR TABULATION;4+
INTEGRATION NOT INCLUDING THE: POLE;17+WITH RECTANGULAR PATH AROUND: POLE;22+SEMICIRCULAR PATH
AROUND: POLE;5+TABULATION: SET;4+AR A SIGN: A028B A100-102 A120B A131C A301~308 A309A A309B A309C
A310~312 A313A A313B A313C A314~371 A400-VAS A401-VAS A402-VAS A403-VAS A404-VAS A405-VAS A406-VAS
A407-VAS A408-VAS A409-VAS A410-VAS A411-VAS A412-VAS A413-VAS A414-VAS A415-VAS A416-VAS A417-VAS
A418-VAS A501~506 A508~513 A515 A516 A520 A521 A523~532 A534~542 A545 A547~557 A559 A563~566
A568~589 A591 A592 A594~596 A598 A600~604 A606 A608~624 A626~629 A634 A637 A638 A640 A642~646 A648
A649 A651~664 A800~807 AB001~011 AB013 AB016 AB017 AB020~024 AB021F AB021M AB022F AB022M AB023M
AB026~031 AB034 AB037~041 AB044~051 AB053~061 AB065~067 AB069 AB070 AB073 AB074 AB076~082 AB085~087
AB118 AB120 AB122 AB123 AB131A AB131B AB164 AB171 AB180 AB188 AB191;13+ A701: A;17+2: B;17+3: D;
17+4: E;17+5: F;17+6: H;17+7: J;17+8: K;17+9: L;18+-2: L2;19+3: L3;19+4: L4;19+6: L6;16+10: W;17+1:
X;17+2: Y;17+3: OMEGA;17+4: ABB;17+5: BB;17+7: DD;16+26: EYYY;16+32: JE;7+B IDEOGRAM: B132 B142 B146
B150 B152~154 B157 B158 B160 B161 B164~172 B174 B177~185 B189 B190 B232 B234 B236 B245 B246 B248
B249 B251~253 B255~259;17+ B100: MAN;21+2: WOMAN;21+4: DEER;21+5: EQUID;22+F: MARE;22+M: STALLION;
21+6F: EWE;22+M: RAM;21+7F: SHE-GOAT;22+M: HE-GOAT;21+8F: SOW;22+M: BOAR;21+9F: COW;22+M: BULL;
20+20: WHEAT;21+1: BARLEY;21+2: OLIVE;21+3: SPICE;21+5: CYPERUS;20+30: OIL;21+1: WINE;20+40: BRONZE;
21+1: GOLD;21+5: WOOL;20+51: HORN;21+9: CLOTH;20+62: GARMENT;21+3: ARMOUR;20+73: MONTH;21+6: TREE;
20+91: HELMET;19+220: FOOTSTOOL;21+5: BATHTUB;20+30: SPEAR;21+1: ARROW;21+3: SWORD;20+40 WHEELED:
CHARIOT;21+1: CHARIOT;21+2 CHARIOT: FRAME;21+3: WHEEL;20+54: DART;18+VESSEL: B155 B200~219 B221 B222
B226~229 B250 B305;9+MONOGRAM B127: KAPO;21+8: KANAKO;20+33: AREPA;21+5: MERI;20+56: TURO2;19+247:
DIPTE;9+SYLLABLE B001: DA;21+2: RO;21+3: PA;21+4: TE;21+5: TO;21+6: NA;21+7: DI;21+8: A;21+9: SE;
20+10: U;21+1: PO;21+2: SO;21+3: ME;21+4: DO;21+5: MO;21+6: QA;21+7: ZA;20+20: ZO;21+1: QI;21+3: MU;
21+4: NE;21+5: A2;21+6: RU;21+7: RE;21+8: I;21+9: PU2;20+30: NI;21+1: SA;21+2: QO;21+3: RA3;21+6:
JO;21+7: TI;21+8: E;21+9: PI;20+40: WI;21+1: SI;21+2: WO;21+3: A3;21+4: KE;21+5: DE;21+6: JE;21+8:
NWA;20+50: PU;21+1: DU;21+2: NO;21+3: RI;21+4: WA;21+5: NU;21+7: JA;21+8: SU;21+9: TA;20+60: RA;
21+1: O;21+2: PTE;21+5: JU;21+6: TA2;21+7: KI;21+8: RO2;21+9: TU;20+70: KO;21+1: DWE;21+2: PE;21+3:
MI;21+4: ZE;21+5: WE;21+6: RA2;21+7: KA;21+8: QE;20+80: MA;21+1: KU;21+5: AU;21+7: TWE;20+90: DWO;
21+1: TWO;11+MBOL: B018 B019 B022 B034 B047 B049 B056 B063 B064 B079 B082 B083 B086 B089;3+K:
SYMBOL;4+ED: PAPERCLIPS;2+ON: FACE;2+RA: SIGN;2+SU LETTER: A AE BA CA CHA DA DZA E EU FA GA GHA HA
HHA I JA KA KHA LA MA NA NGA O OE PA PHA SA SHA TA THA TSA TSHA U UE UH WA XA YA YHA ZA ZHA;11+ TONE
MYA: BO CYA JEU NA TI;17+NA: PO;5+PUNCTUATION: COMMA;16+ FULL: STOP;2+VRE TOURNOIS: SIGN;1+OCK WITH
INK: PEN;4+ING-SHIFT: ONE ZERO;2+GICAL: AND OR;7+ AND WITH: UNDERBAR;16+ DOT: ABOVE;19+UBLE: OVERBAR
UNDERBAR;17+HORIZONTAL: DASH;17+MIDDLE: STEM;8+OR OVERLAPPING LOGICAL: AND;11+WITH DOT: ABOVE;
18+UBLE: OVERBAR UNDERBAR;16+HORIZONTAL: DASH;16+MIDDLE: STEM;2+NG: DIVISION DRUM;4+ DASH FROM LEFT
MEMBER OF DOUBLE: VERTICAL;5+LEFT: TACK;9+ RIGHT: ARROW;15+ DOUBLE: ARROW;9+WARDS: ARROW;14+ ARROW
FROM: BAR;15+DOUBLE: ARROW;21+ ARROW FROM: BAR;15+SQUIGGLE: ARROW;5+RIGHT: TACK;10+WARDS: ARROW;15+
ARROW FROM: BAR;16+DOUBLE: ARROW;22+ ARROW FROM: BAR;16+SQUIGGLE: ARROW;2+TION: BOTTLE;2+UDLY
CRYING: FACE;2+VE: HOTEL LETTER;2+W: ASTERISK BATTERY KAVYKA LINE;3+ BRIGHTNESS: SYMBOL;4+DOUBLE
PRIME QUOTATION: MARK;4+KAVYKA WITH: DOT;3+ER BLADE: SCISSORS;6+FIVE EIGHTHS: BLOCK;6+HALF: BLOCK
CIRCLE;10+ INVERSE WHITE: CIRCLE;11+MEDIUM: SHADE;6+LEFT: CRAYON PAINTBRUSH PENCIL TRIANGLE;10+
BALLPOINT: PEN;12+LOCK DIAGONAL LOWER MIDDLE LEFT TO LOWER: CENTRE RIGHT;26+UPPER CENTRE TO LOWER:
RIGHT;47+ MIDDLE: RIGHT;42+UPPER MIDDLE: RIGHT;32+LEFT TO LOWER: CENTRE;45+ MIDDLE: RIGHT;40+UPPER
MIDDLE: RIGHT;32+MIDDLE LEFT TO LOWER: CENTRE RIGHT;52+ MIDDLE: RIGHT;11+FOUNTAIN: PEN;11+QUADRANT
CIRCULAR: ARC;11+SEMICIRCULAR ANTICLOCKWISE: ARROW;11+TRIANGULAR MEDIUM: SHADE;6+ONE EIGHTH: BLOCK;
10+QUARTER: BLOCK;6+RIGHT: PENCIL TRIANGLE;11+ BLOCK DIAGONAL LOWER CENTRE TO LOWER MIDDLE: RIGHT;
43+UPPER: RIGHT;48+ MIDDLE: RIGHT;33+LEFT TO LOWER MIDDLE: RIGHT;41+UPPER: CENTRE;46+ MIDDLE: RIGHT;
33+MIDDLE LEFT TO UPPER: CENTRE RIGHT;53+ MIDDLE: RIGHT;27+UPPER MIDDLE LEFT TO UPPER: CENTRE RIGHT;
12+CORNER WITH: DOT;12+DROP-SHADOWED WHITE: SQUARE;12+QUADRANT CIRCULAR: ARC;12+SEMICIRCULAR
CLOCKWISE: ARROW;13+HADOWED WHITE: CIRCLE SQUARE;12+TRIANGULAR MEDIUM: SHADE;6+SEVEN EIGHTHS: BLOCK;
6+THREE EIGHTHS: BLOCK;12+QUARTERS: BLOCK;7+RIANGULAR ONE QUARTER: BLOCK;2+ZENGE DIVIDED BY
HORIZONTAL: RULE;1+YCIAN LETTER: A AN B BH D E EN G H I J K KK L M MM N NN P Q R S T TH TT U W X Z;
2+DIAN LETTER: A AN B C D E EN F G I K L LY M N NN O Q R S SS T TT U V Y;7+TRIANGULAR: MARK;2+ING:
FACE;0+MAGIC: WAND;2+HAJANI ABBREVIATION: SIGN;9+LETTER: A BA BHA CA CHA DA DDA DDHA DHA E GA GHA HA
I JA JHA KA KHA LA MA NA NNA NYA O PA PHA RA RRA SA TA THA TTA TTHA U VA;10+IGATURE: SHRI;9+SECTION:
MARK;10+IGN: NUKTA;3+JONG TILE: AUTUMN BACK BAMBOO CHRYSANTHEMUM JOKER ORCHID PLUM SPRING SUMMER
WINTER;12+ EAST: WIND;14+IGHT OF: BAMBOOS CHARACTERS CIRCLES;13+FIVE OF: BAMBOOS CHARACTERS CIRCLES;
14+OUR OF: BAMBOOS CHARACTERS CIRCLES;13+GREEN: DRAGON;13+NINE OF: BAMBOOS CHARACTERS CIRCLES;
14+ORTH: WIND;13+ONE OF: BAMBOOS CHARACTERS CIRCLES;13+RED: DRAGON;13+SEVEN OF: BAMBOOS CHARACTERS
CIRCLES;14+IX OF: BAMBOOS CHARACTERS CIRCLES;14+OUTH: WIND;13+THREE OF: BAMBOOS CHARACTERS CIRCLES;
14+WO OF: BAMBOOS CHARACTERS CIRCLES;13+WEST: WIND;14+HITE: DRAGON;2+KASAR: ANGKA PASSIMBANG;7+ END
OF: SECTION;8+LETTER: A BA CA DA GA JA KA LA MA NA NGA NYA PA RA SA TA VA YA;8+VOWEL SIGN: E I O U;
2+LAYALAM AU LENGTH: MARK;10+DATE: MARK;11+IGIT: EIGHT FIVE FOUR NINE ONE SEVEN SIX THREE TWO ZERO;
10+FRACTION ONE: EIGHTH FIFTH FORTIETH HALF ONE-HUNDRED-AND-SIXTIETH QUARTER SIXTEENTH TENTH
TWENTIETH;19+THREE: EIGHTIETHS QUARTERS SIXTEENTHS TWENTIETHS;10+LETTER: A AA AI AU BA BHA CA CHA DA
DDA DDHA DHA E EE GA GHA HA I II JA JHA KA KHA LA LLA LLLA MA NA NGA NNA NNNA NYA O OO PA PHA RA RRA
SA SHA SSA TA THA TTA TTHA TTTA U UU VA YA;16+ ARCHAIC: II;17+CHILLU: K L LL LLL M N NN RR Y;17+DOT:
REPH;17+VEDIC: ANUSVARA;18+OCALIC: L LL R RR;10+NUMBER: TEN;16+ ONE: HUNDRED THOUSAND;10+SIGN:
ANUSVARA AVAGRAHA CANDRABINDU PARA VIRAMA VISARGA;14+ CIRCULAR: VIRAMA;16+OMBINING ANUSVARA: ABOVE;
15+VERTICAL BAR: VIRAMA;10+VOWEL SIGN: AA AI AU E EE I II O OO U UU;20+ VOCALIC: L LL R RR;3+E:
SIGN;4+ AND FEMALE: SIGN;5+WITH STROKE: SIGN;16+ AND MALE AND FEMALE: SIGN;3+TESE: CROSS;2+N:
DANCING;3+ AND WOMAN HOLDING: HANDS;4+IN: TUXEDO;6+ BUSINESS SUIT: LEVITATING;4+WITH: TURBAN;8+ GUA
PI: MAO;3+AT: SIGN;3+DAIC: PUNCTUATION;7+ AFFRICATION: MARK;8+GEMINATION: MARK;8+LETTER: AB AD AG AH
AIN AK AKSA AL AM AN AP AQ AR AS ASH ASZ AT ATT AZ DUSHENNA HALQA IN IT KAD USHENNA;8+VOCALIZATION:
MARK;3+ICHAEAN ABBREVIATION MARK: ABOVE BELOW;11+LETTER: AAYIN ALEPH AYIN BETH BHETH DALETH DHAMEDH
FE GHIMEL GIMEL HE HETH JAYIN JHAYIN KAPH KHAPH LAMEDH MEM NUN PE QHOPH QOPH RESH SADHE SAMEKH SHIN
SSHIN TAW TETH THAMEDH WAW XAPH XOPH YODH ZAYIN ZHAYIN;11+NUMBER: FIVE ONE TEN TWENTY;17+ ONE:
HUNDRED;11+PUNCTUATION: DOT FLEURON STAR;22+ DOT WITHIN: DOT;25+UBLE DOT WITHIN: DOT;23+LINE:
FILLER;23+TWO: DOTS;11+SIGN: UD;3+S: SHOE;3+TELPIECE: CLOCK;3+UAL: WHEELCHAIR;2+P SYMBOL FOR:
LIGHTHOUSE;3+LE: LEAF;2+RCHEN HEAD: MARK;8+LETTER: -A A BA CA CHA DA DZA GA HA JA KA KHA LA MA NA
NGA NYA PA PHA RA SA SHA TA THA TSA TSHA WA YA ZA ZHA;8+MARK: SHAD;8+SIGN: ANUSVARA CANDRABINDU;
9+UBJOINED LETTER: A BA CA CHA DA DZA GA HA JA KA KHA LA MA NA NGA NYA PA PHA RA SA SHA TA THA TSA
TSHA WA YA ZA ZHA;8+VOWEL SIGN: AA E I O U;3+RIAGE: SYMBOL;3+TIAL ARTS: UNIFORM;2+SARAM GONDI:
RA-KARA REPHA VIRAMA;13+ DIGIT: EIGHT FIVE FOUR NINE ONE SEVEN SIX THREE TWO ZERO;14+LETTER: A AA AI
AU BA BHA CA CHA DA DDA DDHA DHA E GA GHA HA I II JA JHA JNYA KA KHA KSSA LA LLA MA NA NGA NNA NYA O
PA PHA RA SA SHA SSA TA THA TRA TTA TTHA U UU VA YA;14+SIGN: ANUSVARA CANDRA HALANTA NUKTA VISARGA;
14+VOWEL SIGN: AA AI AU E I II O U UU;24+ VOCALIC: R;3+CULINE ORDINAL: INDICATOR;3+K WORK: SYMBOL;
3+U: MARK;2+TE: DRINK;3+HEMATICAL BOLD: NABLA;17+ CAPITAL: A ALPHA B BETA C CHI D DELTA DIGAMMA E
EPSILON ETA F G GAMMA H I IOTA J K KAPPA L LAMDA M MU N NU O OMEGA OMICRON P PHI PI PSI Q R RHO S
SIGMA T TAU THETA U UPSILON V W X XI Y Z ZETA;25+ THETA: SYMBOL;18+DIGIT: EIGHT FIVE FOUR NINE ONE
SEVEN SIX THREE TWO ZERO;18+EPSILON: SYMBOL;18+FRAKTUR CAPITAL: A B C D E F G H I J K L M N O P Q R
S T U V W X Y Z;26+SMALL: A B C D E F G H I J K L M N O P Q R S T U V W X Y Z;18+ITALIC: NABLA;24+
CAPITAL: A ALPHA B BETA C CHI D DELTA E EPSILON ETA F G GAMMA H I IOTA J K KAPPA L LAMDA M MU N NU O
OMEGA OMICRON P PHI PI PSI Q R RHO S SIGMA T TAU THETA U UPSILON V W X XI Y Z ZETA;32+ THETA:
SYMBOL;25+EPSILON: SYMBOL;25+KAPPA: SYMBOL;25+PARTIAL: DIFFERENTIAL;26+HI: SYMBOL;26+I: SYMBOL;
25+RHO: SYMBOL;25+SMALL: A ALPHA B BETA C CHI D DELTA E EPSILON ETA F G GAMMA H I IOTA J K KAPPA L
LAMDA M MU N NU O OMEGA OMICRON P PHI PI PSI Q R RHO S SIGMA T TAU THETA U UPSILON V W X XI Y Z
ZETA;30+ FINAL: SIGMA;25+THETA: SYMBOL;18+KAPPA: SYMBOL;18+PARTIAL: DIFFERENTIAL;19+HI: SYMBOL;19+I:
SYMBOL;18+RHO: SYMBOL;18+SCRIPT CAPITAL: A B C D E F G H I J K L M N O P Q R S T U V W X Y Z;
25+SMALL: A B C D E F G H I J K L M N O P Q R S T U V W X Y Z;19+MALL: A ALPHA B BETA C CHI D DELTA
DIGAMMA E EPSILON ETA F G GAMMA H I IOTA J K KAPPA L LAMDA M MU N NU O OMEGA OMICRON P PHI PI PSI Q
R RHO S SIGMA T TAU THETA U UPSILON V W X XI Y Z ZETA;23+ FINAL: SIGMA;18+THETA: SYMBOL;
13+DOUBLE-STRUCK CAPITAL: A B D E F G I J K L M O S T U V W X Y;27+DIGIT: EIGHT FIVE FOUR NINE ONE
SEVEN SIX THREE TWO ZERO;27+SMALL: A B C D E F G H I J K L M N O P Q R S T U V W X Y Z;13+FALLING:
DIAGONAL;14+RAKTUR CAPITAL: A B D E F G J K L M N O P Q S T U V W X Y;21+SMALL: A B C D E F G H I J
K L M N O P Q R S T U V W X Y Z;13+ITALIC: NABLA;19+ CAPITAL: A ALPHA B BETA C CHI D DELTA E EPSILON
ETA F G GAMMA H I IOTA J K KAPPA L LAMDA M MU N NU O OMEGA OMICRON P PHI PI PSI Q R RHO S SIGMA T
TAU THETA U UPSILON V W X XI Y Z ZETA;27+ THETA: SYMBOL;20+EPSILON: SYMBOL;20+KAPPA: SYMBOL;
20+PARTIAL: DIFFERENTIAL;21+HI: SYMBOL;21+I: SYMBOL;20+RHO: SYMBOL;20+SMALL: A ALPHA B BETA C CHI D
DELTA E EPSILON ETA F G GAMMA I IOTA J K KAPPA L LAMDA M MU N NU O OMEGA OMICRON P PHI PI PSI Q R
RHO S SIGMA T TAU THETA U UPSILON V W X XI Y Z ZETA;25+ DOTLESS: I J;26+FINAL: SIGMA;20+THETA:
SYMBOL;13+LEFT ANGLE: BRACKET;18+DOUBLE ANGLE: BRACKET;18+FLATTENED: PARENTHESIS;18+WHITE SQUARE:
BRACKET;24+TORTOISE SHELL: BRACKET;13+MONOSPACE CAPITAL: A B C D E F G H I J K L M N O P Q R S T U V
W X Y Z;23+DIGIT: EIGHT FIVE FOUR NINE ONE SEVEN SIX THREE TWO ZERO;23+SMALL: A B C D E F G H I J K
L M N O P Q R S T U V W X Y Z;13+RIGHT ANGLE: BRACKET;19+DOUBLE ANGLE: BRACKET;19+FLATTENED:
PARENTHESIS;19+WHITE SQUARE: BRACKET;25+TORTOISE SHELL: BRACKET;15+SING: DIAGONAL;13+SANS-SERIF
BOLD: NABLA;28+ CAPITAL: A ALPHA B BETA C CHI D DELTA E EPSILON ETA F G GAMMA H I IOTA J K KAPPA L
LAMDA M MU N NU O OMEGA OMICRON P PHI PI PSI Q R RHO S SIGMA T TAU THETA U UPSILON V W X XI Y Z
ZETA;36+ THETA: SYMBOL;29+DIGIT: EIGHT FIVE FOUR NINE ONE SEVEN SIX THREE TWO ZERO;29+EPSILON:
SYMBOL;29+ITALIC: NABLA;35+ CAPITAL: A ALPHA B BETA C CHI D DELTA E EPSILON ETA F G GAMMA H I IOTA J
K KAPPA L LAMDA M MU N NU O OMEGA OMICRON P PHI PI PSI Q R RHO S SIGMA T TAU THETA U UPSILON V W X
XI Y Z ZETA;43+ THETA: SYMBOL;36+EPSILON: SYMBOL;36+KAPPA: SYMBOL;36+PARTIAL: DIFFERENTIAL;37+HI:
SYMBOL;37+I: SYMBOL;36+RHO: SYMBOL;36+SMALL: A ALPHA B BETA C CHI D DELTA E EPSILON ETA F G GAMMA H
I IOTA J K KAPPA L LAMDA M MU N NU O OMEGA OMICRON P PHI PI PSI Q R RHO S SIGMA T TAU THETA U
UPSILON V W X XI Y Z ZETA;41+ FINAL: SIGMA;36+THETA: SYMBOL;29+KAPPA: SYMBOL;29+PARTIAL:
DIFFERENTIAL;30+HI: SYMBOL;30+I: SYMBOL;29+RHO: SYMBOL;29+SMALL: A ALPHA B BETA C CHI D DELTA E
EPSILON ETA F G GAMMA H I IOTA J K KAPPA L LAMDA M MU N NU O OMEGA OMICRON P PHI PI PSI Q R RHO S
SIGMA T TAU THETA U UPSILON V W X XI Y Z ZETA;34+ FINAL: SIGMA;29+THETA: SYMBOL;24+CAPITAL: A B C D
E F G H I J K L M N O P Q R S T U V W X Y Z;24+DIGIT: EIGHT FIVE FOUR NINE ONE SEVEN SIX THREE TWO
ZERO;24+ITALIC CAPITAL: A B C D E F G H I J K L M N O P Q R S T U V W X Y Z;31+SMALL: A B C D E F G
H I J K L M N O P Q R S T U V W X Y Z;24+SMALL: A B C D E F G H I J K L M N O P Q R S T U V W X Y Z;
14+CRIPT CAPITAL: A C D G J K N O P Q S T U V W X Y Z;20+SMALL: A B C D F H I J K L M N P Q R S T U
V W X Y Z;2+YAN NUMERAL: EIGHT EIGHTEEN ELEVEN FIFTEEN FIVE FOUR FOURTEEN NINE NINETEEN ONE SEVEN
SEVENTEEN SIX SIXTEEN TEN THIRTEEN THREE TWELVE TWO ZERO;1+EASURED: ANGLE BY;8+ ANGLE OPENING: LEFT;
15+WITH OPEN ARM ENDING IN ARROW POINTING DOWN AND: LEFT RIGHT;54+LEFT AND: DOWN UP;54+RIGHT AND:
DOWN UP;54+UP AND: LEFT RIGHT;9+RIGHT ANGLE WITH: DOT;3+T ON: BONE;2+CHANICAL: ARM LEG;2+DEFAIDRIN:
COMMA;11+ CAPITAL LETTER: A AI ATIU B C D E F G H HP I J K KP L M N NG NY O OE P Q R S T U V W X Y
YU Z;12+DIGIT: EIGHT FIVE FOUR NINE ONE SEVEN SIX THREE TWO ZERO;17+ ONE ALTERNATE: FORM;18+THREE
ALTERNATE: FORM;19+WO ALTERNATE: FORM;12+EXCLAMATION: OH;12+FULL: STOP;12+NUMBER: EIGHTEEN ELEVEN
FIFTEEN FOURTEEN NINETEEN SEVENTEEN SIXTEEN TEN THIRTEEN TWELVE;12+SMALL LETTER: A AI ATIU B C D E F
G H HP I J K KP L M N NG NY O OE P Q R S T U V W X Y YU Z;13+YMBOL: AIVA;3+IEVAL: COMMA;8+
EXCLAMATION: MARK;9+QUESTION: MARK;4+UM: SALTIRE SHADE;6+ BLACK: CIRCLE;8+OLD WHITE: CIRCLE;7+EIGHT
POINTED BLACK: STAR;13+SPOKED: ASTERISK;7+FIVE SPOKED: ASTERISK;8+LATTENED LEFT PARENTHESIS:
ORNAMENT;17+RIGHT PARENTHESIS: ORNAMENT;8+OUR POINTED BLACK: STAR;20+PINWHEEL: STAR;7+GREEK: CROSS;
7+LEFT CURLY BRACKET: ORNAMENT;12+PARENTHESIS: ORNAMENT;11+-POINTING ANGLE BRACKET: ORNAMENT;
7+MATHEMATICAL: SPACE;7+RIGHT CURLY BRACKET: ORNAMENT;13+PARENTHESIS: ORNAMENT;12+-POINTING ANGLE
BRACKET: ORNAMENT;7+SIX POINTED BLACK: STAR;11+SPOKED: ASTERISK;8+MALL WHITE: CIRCLE;7+THREE POINTED
BLACK: STAR;21+PINWHEEL: STAR;7+VERTICAL: BAR;7+WHITE: CIRCLE SQUARE;2+ETEI MAYEK: ANJI CHEIKHAN
CHEIKHEI VIRAMA;12+ AHANG: KHUDAM;14+PUN: IYEK;13+DIGIT: EIGHT FIVE FOUR NINE ONE SEVEN SIX THREE
TWO ZERO;13+LETTER: ATIYA BA BHAM CHA CHIL DDA DDHA DHOU DIL E GHOU GOK HUK I JHAM JIL KHOU KOK LAI
MIT NA NGOU NNA NYA O PA PHAM RAI SAM SHA SSA THOU TIL TTA TTHA UN WAI YANG;19+ I: LONSUM;20+KOK:
LONSUM;20+LAI: LONSUM;20+MIT: LONSUM;20+NA: LONSUM;21+GOU: LONSUM;20+PA: LONSUM;20+TIL: LONSUM;
14+UM: IYEK;13+SYLLABLE REPETITION: MARK;13+VOWEL SIGN: AAI AAU ANAP AU CHEINAP II INAP NUNG ONAP
SOUNAP UNAP UU VISARGA YENAP;13+WORD REPETITION: MARK;2+LTING: FACE;2+NDE KIKAKUI COMBINING NUMBER:
HUNDREDS MILLIONS TEENS TENS THOUSANDS;30+ HUNDRED: THOUSANDS;31+TEN: THOUSANDS;14+DIGIT: EIGHT FIVE
FOUR NINE ONE SEVEN SIX THREE TWO;14+SYLLABLE M001: KI;26+2: KA;26+3: KU;26+4: WI;26+5: WA;26+6: WU;
26+7: MIN;26+8: MAN;26+9: MUN;25+10: BI;26+1: BA;26+2: BU;26+3: I;26+4: A;26+5: U;26+6: DI;26+7: DA;
26+8: DU;26+9: SI;25+20: SA;26+1: SU;26+2: TI;26+3: TA;26+4: TU;26+5: LI;26+6: LA;26+7: LU;26+8: JI;
26+9: JA;25+30: JU;26+1: YI;26+2: YA;26+3: YU;26+4: FI;26+5: FA;26+6: FU;26+7: NIN;26+8: NAN;26+9:
NUN;25+40: HEE;26+1: HA;26+2: HOO;26+3: NGGA;26+4: KPEE;26+5: WO;26+6: HUAN;26+7: MBEE;26+8: KO;
26+9: WVA;25+50: PU;26+1: PE;26+2: HEN;26+3: HIN;26+4: LOO;26+5: TE;26+6: GBA;26+7: NGON;26+8: NYAN;
26+9: MEN;25+60: NYON;26+1: WVI;26+2: MBA;26+3: JO;26+4: NDO;26+5: KEE;26+6: PO;26+7: NDOO;26+8: PI;
26+9: TO;25+70: GBO;26+1: GBOO;26+2: MBE;26+3: LE;26+4: KPU;26+5: FE;26+6: KOO;26+7: VO;26+8: FEE;
26+9: SO;25+80: YE;26+1: PEE;26+2: NGGU;26+3: HEEI;26+4: LEE;26+5: VE;26+6 LONG: NGGE;26+7: HUN;
26+8: FO;26+9: DEE;25+90: NGGI;26+1: TEE;26+2: KPA;26+3: GBEE;26+4: MON;26+5: KE;26+6: HE;26+7: BE;
26+8: NYEN;26+9: PA;24+100: E;26+1: FAN;26+2: POO;26+3: BOO;26+4: TOO;26+5 LONG: MBOO;26+6 LONG:
NGGOO;26+7: GBE;26+8: KPE;26+9: YEE;25+10 LONG: LE;26+1: GA;26+2: KPOO;26+3: JE;26+4: WOO;26+5:
NGGEE;26+6: SE;26+7: NEN;26+8: WE;26+9: NDE;25+20: NGGO;26+1: YO;26+2: MBU;26+3: NDI;26+4: GBI;26+5:
NDU;26+6: WEE;26+7: NGGUA;26+8: HOOU;26+9: NDA;25+30: HAN;26+1: IN;26+2: KPI;26+3: FOO;26+4: NJOO;
26+5: IN;26+6: SOO;26+7: EI;26+8: BO;26+9: WVE;25+40: HO;26+1: YOO;26+2 LONG: MBO;26+3: WEI;26+4:
VOO;26+5: MBI;26+6: NGGE;26+7: O;26+8: GBU;26+9: NJEE;25+50: BEE;26+1: VU;26+2: NJA;26+3: LO;26+4:
MUAN;26+5: GI;26+6: NGGOO;26+7: JEE;26+8: KPO;26+9: NGGAA;25+60: JOO;26+1 LONG: MBE;26+2: SEE;26+3:
EE;26+4: NYIN;26+5: OO;26+6: GUEI;26+7: GUAN;26+8: GU;26+9: NON;25+70: NYUN;26+1: RA;26+2: MBOO;
26+3: VEE;26+4: MBO;26+5 LONG: JO;26+6: HI;26+7: NGUAN;26+8: EN;26+9: KUA;25+80: DOO;26+1: DO;26+2:
VI;26+3 LONG: NGGO;26+4: NGEN;26+5: VA;26+6: HU;26+7: MBUU;26+8: MBEE;26+9: MUEN;25+90: GEE;26+1:
NDEE;26+2: NJU;26+3: HON;26+4: WUI;26+5: AN;26+6: SIA;26+7: FUA;3+ORAH WITH NINE: BRANCHES;3+S:
SYMBOL;2+ROITIC CURSIVE FRACTION EIGHT: TWELFTHS;27+LEVEN: TWELFTHS;26+FIVE: TWELFTHS;27+OUR:
TWELFTHS;26+NINE: TWELFTHS;26+ONE: HALF TWELFTH;26+SEVEN: TWELFTHS;27+IX: TWELFTHS;26+TEN: TWELFTHS;
27+HREE: TWELFTHS;27+WO: TWELFTHS;17+LETTER: A BA DA E HHA I KA KHA LA MA NA NE O PA QA RA SA SE TA
TE TO WA YA;23+ ARCHAIC: SA;18+OGOGRAM: IMN RMT;17+NUMBER: EIGHT FIFTY FIVE FORTY FOUR NINE ONE
SEVEN SEVENTY SIX SIXTY TEN THIRTY THREE TWENTY TWO;23+ EIGHT: HUNDRED THOUSAND;29+ HUNDRED:
THOUSAND;29+Y: THOUSAND;24+FIFTY: THOUSAND;26+VE: HUNDRED THOUSAND;28+ HUNDRED: THOUSAND;25+ORTY:
THOUSAND;26+UR: HUNDRED THOUSAND;28+ HUNDRED: THOUSAND;24+NINE: HUNDRED THOUSAND;28+ HUNDRED:
THOUSAND;28+TY: THOUSAND;24+ONE: HUNDRED THOUSAND;27+ HUNDRED: THOUSAND;24+SEVEN: HUNDRED THOUSAND;
29+ HUNDRED: THOUSAND;29+TY: THOUSAND;25+IX: HUNDRED THOUSAND;27+ HUNDRED: THOUSAND;27+TY: THOUSAND;
24+TEN: THOUSAND;25+HIRTY: THOUSAND;26+REE: HUNDRED THOUSAND;29+ HUNDRED: THOUSAND;25+WENTY:
THOUSAND;26+O: HUNDRED THOUSAND;27+ HUNDRED: THOUSAND;9+HIEROGLYPHIC LETTER: A BA BA-2 DA E HHA I KA
KHA LA MA NA NA-2 NE NE-2 O PA QA RA RA-2 SA SA-2 SE TA TA-2 TE TE-2 TO WA YA;22+SYMBOL: VIDJ
VIDJ-2;2+SSAGE: WAITING;2+TRICAL: BREVE PENTASEME TETRASEME TRISEME;8+ LONG OVER: SHORT;18+ TWO:
SHORTS;9+SHORT OVER: LONG;9+TWO SHORTS: JOINED;19+ OVER: LONG;1+IAO LETTER: AH BA BRI DA DDA DLHA
DLHYA DZA DZHA DZYI DZZA FA GA GHA GHHA HA HHA KA LA LHA LHYA LYA MA MHA NA NASALIZATION NGA NGHA
NHA NNA NNHA NYA NYHA PA PLA QA QGA RTE SA SHA SSA SYI TA TE TLHA TLHYA TONE-2~8 TSA TSE TSHA TSSA
TTA VA VFA WA XA ZA ZHA ZSA ZSHA ZZA ZZSA ZZSYA ZZYA;11+ ARCHAIC: MA NA NGA ZZA;12+REFORMED: TONE-1
TONE-2 TONE-4~6 TONE-8 TSHA;12+YI: DZHA KA NNA PA TA TSA TSHA TTA;5+SIGN: ASPIRATION;9+ CONSONANT
MODIFIER: BAR;10+REFORMED: ASPIRATION VOICING;5+TONE: ABOVE BELOW RIGHT;9+ TOP: RIGHT;5+VOWEL SIGN:
A AA AE AEE AHH AI AN ANG AU E EA EI EN ENG ER ERR I IA IAN IANG IE IG II ING IO IONG IU N NG O OER
OEY OG OO OU U UA UAN UANG UEI UI UNG UOG UU VW W WO Y YI YUI;15+ ROUNDED: ER ERR;2+CR DASH: SYMBOL;
5+ON US: SYMBOL;4+O: SIGN;2+DDLE: DOT;6+ THIRD WHITE RIGHT POINTING: INDEX;3+LINE HORIZONTAL:
ELLIPSIS;2+LITARY: HELMET MEDAL;3+KY: WAY;3+L: SIGN;2+NUS: SIGN TILDE;5+ SIGN IN: TRIANGLE;11+WITH
COMMA: ABOVE;16+DOT: BELOW;16+FALLING: DOTS;16+RISING: DOTS;5+-OR-PLUS: SIGN;2+RROR: BALL;1+OBILE:
PHONE;6+ PHONE: OFF;12+ WITH RIGHTWARDS ARROW AT: LEFT;2+DERN: PENTATHLON;3+I: DANDA;4+
ABBREVIATION: SIGN;5+DIGIT: EIGHT FIVE FOUR NINE ONE SEVEN SIX THREE TWO ZERO;6+OUBLE: DANDA;
5+LETTER: A AA AI AU BA BHA CA CHA DA DDA DDHA DHA E GA GHA HA I II JA JHA KA KHA LA LLA MA NA NGA
NNA NYA O PA PHA RA SA SHA SSA TA THA TTA TTHA U UU VA YA;11+ VOCALIC: L LL R RR;5+SIGN: ANUSVARA
ARDHACANDRA HUVA VIRAMA VISARGA;5+VOWEL SIGN: AA AI AU E I II O U UU;15+ VOCALIC: L LL R RR;4+FIER
BREVE WITH INVERTED: BREVE;9+LETTER: APOSTROPHE COLON MACRON PRIME SHELF UNASPIRATED US VOICING;15+
ACUTE: ACCENT;17+LVEOLAR: CLICK;16+BEGIN HIGH: TONE;22+LOW: TONE;17+ILABIAL: CLICK;16+CAPITAL: A AE
B C D E F G H I J K L M N O OU P Q R T U V W;23+ BARRED: B;24+H WITH: STROKE;24+REVERSED: E N;
17+ENTRED LEFT HALF: RING;24+RIGHT HALF: RING;17+HINESE TONE YANG: PING QU RU SHANG;30+IN: PING QU
RU SHANG;17+IRCUMFLEX: ACCENT;17+ROSS: ACCENT;17+YRILLIC: EN;24+ HARD: SIGN;25+SOFT: SIGN;16+DENTAL:
CLICK;17+OT: SLASH;19+ HORIZONTAL: BAR;20+VERTICAL: BAR;18+UBLE: APOSTROPHE PRIME;18+WN: ARROWHEAD
TACK;16+END HIGH: TONE;20+LOW: TONE;17+XTRA-HIGH DOTTED LEFT-STEM TONE: BAR;34+TONE: BAR;
27+LEFT-STEM TONE: BAR;27+TONE: BAR;22+LOW DOTTED LEFT-STEM TONE: BAR;33+TONE: BAR;26+LEFT-STEM
TONE: BAR;26+TONE: BAR;16+GEORGIAN: NAR;17+LOTTAL: STOP;23+ STOP WITH: STROKE;17+RAVE: ACCENT;
16+HALF TRIANGULAR: COLON;17+IGH DOTTED LEFT-STEM TONE: BAR;28+TONE: BAR;21+LEFT-STEM TONE: BAR;
21+TONE: BAR;16+LATERAL: CLICK;17+EFT: ARROWHEAD TACK;20+ HALF: RING;17+OW: MACRON RING TILDE;19+
ACUTE: ACCENT;20+CIRCUMFLEX: ACCENT;20+DOTTED LEFT-STEM TONE: BAR;27+TONE: BAR;22+WN: ARROWHEAD;
20+GRAVE: ACCENT;20+INVERTED EXCLAMATION: MARK;20+LEFT: ARROW ARROWHEAD;24+-STEM TONE: BAR;20+RIGHT:
ARROWHEAD;20+TONE: BAR;20+UP: ARROWHEAD;20+VERTICAL: LINE;19+ER RIGHT CORNER: ANGLE;16+MID DOTTED
LEFT-STEM TONE: BAR;27+TONE: BAR;20+LEFT-STEM TONE: BAR;20+TONE: BAR;19+DLE DOUBLE ACUTE: ACCENT;
30+GRAVE: ACCENT;23+GRAVE: ACCENT;18+NUS: SIGN;16+OPEN: SHELF;16+PLUS: SIGN;16+RAISED: COLON;22+
DOWN: ARROW;23+EXCLAMATION: MARK;23+INVERTED EXCLAMATION: MARK;23+UP: ARROW;17+ETROFLEX CLICK WITH
RETROFLEX: HOOK;18+VERSED: COMMA;24+ GLOTTAL: STOP;32+ STOP WITH: STROKE;17+HOTIC: HOOK;17+IGHT:
ARROWHEAD TACK;21+ HALF: RING;16+SHORT EQUALS: SIGN;17+MALL: A AE AIN ALPHA B BETA C CHI D DELTA E
ENG ESH ETH EZH F G GAMMA H HENG IOTA J K L LEZH M O P PHI Q R S SCHWA T THETA U UPSILON V W X Y Z;
21+ B WITH: HOOK;23+ARRED: O;23+OTTOM HALF: O;22+C WITH: CURL;23+APITAL: AA B G H I L N OE R U Y;29+
G WITH: HOOK;30+I WITH: STROKE;31+NVERTED: R;30+L WITH: BELT;23+LOSED: OMEGA;28+ REVERSED OPEN: E;
22+D WITH: HOOK TAIL;28+ HOOK AND: TAIL;23+EZH: DIGRAPH;23+OTLESS J WITH: STROKE;36+ STROKE AND:
HOOK;23+Z: DIGRAPH;24+ DIGRAPH WITH: CURL;37+ RETROFLEX: HOOK;22+FENG: DIGRAPH;22+G WITH: HOOK;
23+REEK: GAMMA PHI;22+H WITH: HOOK STROKE;23+ENG WITH: HOOK;22+I WITH: STROKE;22+J WITH:
CROSSED-TAIL;22+L WITH: BELT;28+ INVERTED LAZY: S;29+MIDDLE: TILDE;29+PALATAL: HOOK;29+RETROFLEX:
HOOK;38+ HOOK AND: BELT;23+EZH WITH RETROFLEX: HOOK;23+IGATURE: OE;23+S: DIGRAPH;23+Z: DIGRAPH;22+M
WITH: HOOK;22+N WITH LEFT: HOOK;29+RETROFLEX: HOOK;22+O WITH: STROKE;23+PEN: E O;22+R WITH: FISHHOOK
TAIL;23+AMS: HORN;23+EVERSED: E;30+ GLOTTAL: STOP;31+OPEN: E;22+S WITH: CURL HOOK;23+CRIPT: G;
23+IDEWAYS: U;22+T WITH PALATAL: HOOK;29+RETROFLEX: HOOK;23+C DIGRAPH WITH: CURL;23+ESH: DIGRAPH;
23+OP HALF: O;23+S: DIGRAPH;24+ DIGRAPH WITH RETROFLEX: HOOK;23+URNED: A AE ALPHA H I M R V W Y;28+
M WITH LONG: LEG;29+OPEN: E;29+R WITH: HOOK;35+ LONG: LEG;40+ LEG AND RETROFLEX: HOOK;29+Y WITH:
BELT;22+U: BAR;23+ WITH LEFT: HOOK;22+V WITH: HOOK;28+ RIGHT: HOOK;22+Z WITH: CURL;28+ RETROFLEX:
HOOK;17+TRESS AND HIGH: TONE;27+LOW: TONE;17+UPERSCRIPT HALF TRIANGULAR: COLON;28+TRIANGULAR: COLON;
16+TRIANGULAR: COLON;17+URNED: COMMA;16+UP: ARROWHEAD TACK;16+VERTICAL: LINE;16+YANG DEPARTING TONE:
MARK;17+IN DEPARTING TONE: MARK;3+ULO TWO: SUM;2+NEY: BAG;5+ WITH: WINGS;5+-MOUTH: FACE;3+GOLIAN:
BIRGA COLON COMMA ELLIPSIS NIRUGU;9+ BIRGA WITH: ORNAMENT;20+ DOUBLE: ORNAMENT;10+DIGIT: EIGHT FIVE
FOUR NINE ONE SEVEN SIX THREE TWO ZERO;11+OUBLE BIRGA WITH: ORNAMENT;10+FOUR: DOTS;11+REE VARIATION
SELECTOR: FOUR ONE THREE TWO;11+ULL: STOP;10+INVERTED: BIRGA;18+ BIRGA WITH DOUBLE: ORNAMENT;
10+LETTER: A ANG BA CHA CHI DA E EE FA GA HAA I JA KA KHA LA LHA MA NA O OE PA QA RA SA SHA TA TSA U
UE WA YA ZA ZHI ZRA;16+ ALI GALI: A AH BALUDA CA DA DAGALGA DAMARU DDA I KA NGA NNA PA PHA SSA TA
TTA TTHA UBADAMA ZA ZHA;25+ ANUSVARA: ONE;26+HALF: U YA;26+INVERTED: UBADAMA;26+THREE: BALUDA;
26+VISARGA: ONE;17+CHA WITH TWO: DOTS;17+MANCHU: FA I KA RA ZHA;23+ ALI GALI: BHA CA CYA DDHA DHA
GHA JHA LHA NGA SSA TA TTA ZA ZHA;17+SIBE: ANG CHA DA E FA GA GAA HA HAA I IY JA KA PA RAA SHA TA
TSA U UE ZA ZHA;17+TODO: ANG BA CHA DA DZA E GA GAA HAA I JA JIA KA MA NIA O OE PA QA TA TSA U UE WA
YA;21+ ALI GALI: TA ZHA;22+LONG VOWEL: SIGN;10+MANCHU: COMMA;16+ FULL: STOP;10+ROTATED: BIRGA;17+
BIRGA WITH: ORNAMENT;28+ DOUBLE: ORNAMENT;10+SIBE SYLLABLE BOUNDARY: MARKER;11+WIRL: BIRGA;15+ BIRGA
WITH: ORNAMENT;26+ DOUBLE: ORNAMENT;10+TODO SOFT: HYPHEN;11+RIPLE BIRGA WITH: ORNAMENT;11+URNED
SWIRL BIRGA WITH DOUBLE: ORNAMENT;10+VOWEL: SEPARATOR;3+KEY: FACE;3+OGRAM FOR: EARTH YANG YIN;
4+STABLE: SYMBOL;2+OD: BUBBLE;3+N: CAKE;4+ VIEWING: CEREMONY;2+THER: CHRISTMAS;3+OR: BOAT SCOOTER;
5+IZED: WHEELCHAIR;2+UNT: FUJI;5+AIN: BICYCLIST CABLEWAY RAILWAY;3+SE: FACE TRAP;2+VIE: CAMERA;1+RO:
DANDA;3+ DIGIT: EIGHT FIVE FOUR NINE ONE SEVEN SIX THREE TWO ZERO;5+OUBLE: DANDA;4+LETTER: A BA CHU
DA DAI E EA HAI HAO KEAAE KHAI KO LA LAN MAEM MIM NGI NIN O OL OO PA PHI RI RO SHI TA TEK THEA WA
YO;1+UCH: GREATER-THAN LESS-THAN;2+LTANI LETTER: A BA BHA CA CHA DA DDA DDDA DDHA DHA E GA GHA HA I
JA JJA KA KHA LA MA NA NNA NYA PA PHA RA RHA RRA SA TA THA TTA TTHA U VA YA;8+SECTION: MARK;4+IPLE
MUSICAL: NOTES;7+ICATION: SIGN X;14+ SIGN IN: TRIANGLE;22+ DOUBLE: CIRCLE;23+LEFT HALF: CIRCLE;
23+RIGHT HALF: CIRCLE;20+WITH: UNDERBAR;24+ DOT: ABOVE;5+SET: MULTIPLICATION UNION;2+SIC FLAT: SIGN;
6+NATURAL: SIGN;6+SHARP: SIGN;5+AL: KEYBOARD NOTE SCORE;7+ KEYBOARD WITH: JACKS;8+SYMBOL: BRACE
BRACKET BREVE BREVIS CAESURA CLIMACUS CLIVIS CODA CRESCENDO CROIX DAMP DECRESCENDO FERMATA FORTE
HAUPTSTIMME KORON LONGA MAXIMA MEZZO MINIMA NEBENSTIMME PIANO PODATUS PORRECTUS RINFORZANDO
SCANDICUS SEGNO SORI SUBITO TORCULUS TR TURN VIRGA Z;14+ ARPEGGIATO: DOWN UP;15+BEGIN: BEAM PHRASE
SLUR TIE;16+REATH: MARK;18+VIS: REST;15+C: CLEF;16+IRCLE X: NOTEHEAD;16+LUSTER NOTEHEAD: BLACK
WHITE;16+OMBINING: ACCENT ACCENT-STACCATO BEND DOIT FLAG-1~5 FLIP HARMONIC LOURE MARCATO
MARCATO-STACCATO RIP SMEAR STACCATISSIMO STACCATO STEM TENUTO TREMOLO-1~3;24+ AUGMENTATION: DOT;
25+DOUBLE: TONGUE;27+WN: BOW;25+SNAP: PIZZICATO;26+PRECHGESANG: STEM;25+TRIPLE: TONGUE;25+UP: BOW;
18+MON: TIME;16+UT: TIME;15+DA: CAPO;17+L: SEGNO;17+MP: ALL;17+SHED: BARLINE;16+EGREE: SLASH;
16+OUBLE: BARLINE FLAT SHARP;16+RUM: CLEF-1 CLEF-2;15+EIGHTH: NOTE REST;16+ND: BEAM PHRASE SLUR TIE;
18+ OF: STIMME;15+F: CLEF;16+ CLEF OTTAVA: ALTA BASSA;16+ERMATA: BELOW;16+INAL: BARLINE;18+GERED:
TREMOLO-1~3;17+VE-LINE: STAFF;16+LAT: DOWN UP;16+OUR-LINE: STAFF;20+STRING: FRETBOARD;16+USA: BLACK
WHITE;15+G: CLEF;16+ CLEF OTTAVA: ALTA BASSA;16+LISSANDO: DOWN UP;16+RACE NOTE: SLASH;25+ NO: SLASH;
17+EGORIAN C: CLEF;25+F: CLEF;15+HALF: NOTE REST;19+ PEDAL: MARK;15+INVERTED: TURN;15+KIEVAN C:
CLEF;22+EIGHTH NOTE STEM: DOWN UP;23+ND OF: PIECE;22+FINAL: NOTE;23+LAT: SIGN;22+HALF: NOTE;
22+QUARTER NOTE STEM: DOWN UP;22+RECITATIVE: MARK;22+WHOLE: NOTE;15+LEFT REPEAT: SIGN;16+ONGA
IMPERFECTA: REST;21+PERFECTA: REST;15+MINIMA: BLACK REST;16+OON NOTEHEAD: BLACK WHITE;16+ULTI: REST;
20+PLE MEASURE: REST;15+NATURAL: DOWN UP;16+OTEHEAD: BLACK;16+ULL: NOTEHEAD;15+ONE HUNDRED
TWENTY-EIGHTH: NOTE REST;18+-LINE: STAFF;16+RNAMENT: STROKE-10 STROKE-11 STROKE-1~9;16+TTAVA: ALTA
BASSA;15+PARENTHESIS: NOTEHEAD;16+EDAL: MARK;20+ UP: MARK;17+S: SUBPUNCTIS;16+LUS: NOTEHEAD;
16+ORRECTUS: FLEXUS;15+QUARTER: NOTE REST;22+ TONE: FLAT SHARP;17+INDICESIMA: ALTA BASSA;15+REPEAT:
DOTS;21+ED: FIGURE-1~3;17+VERSE FINAL: BARLINE;16+IGHT REPEAT: SIGN;15+SCANDICUS: FLEXUS;
16+EMIBREVIS: BLACK REST WHITE;19+MINIMA: BLACK REST WHITE;16+HARP: DOWN UP;17+ORT: BARLINE;
16+INGLE: BARLINE;17+X-LINE: STAFF;19+STRING: FRETBOARD;18+TEENTH: NOTE REST;19+Y-FOURTH: NOTE REST;
16+QUARE: B;21+ NOTEHEAD: BLACK WHITE;15+TEMPUS IMPERFECTUM CUM PROLATIONE: IMPERFECTA PERFECTA;48+
IMPERFECTA: DIMINUTION-1~3;22+PERFECTUM CUM PROLATIONE: IMPERFECTA PERFECTA;46+ PERFECTA:
DIMINUTION-1;16+HIRTY-SECOND: NOTE REST;17+REE-LINE: STAFF;16+ORCULUS: RESUPINUS;16+RIANGLE NOTEHEAD
DOWN: BLACK WHITE;33+LEFT: BLACK WHITE;33+RIGHT: BLACK WHITE;33+UP: BLACK WHITE;35+ RIGHT: BLACK
WHITE;23+-ROUND NOTEHEAD DOWN: BLACK WHITE;16+URN: SLASH UP;16+WO-LINE: STAFF;15+VOID: NOTEHEAD;
15+WHOLE: NOTE REST;16+ITH: FINGERNAILS;15+X: NOTEHEAD;1+YANMAR CONSONANT SIGN MEDIAL: HA RA WA YA;
24+ON MEDIAL: LA MA NA;23+SHAN MEDIAL: WA;8+DIGIT: EIGHT FIVE FOUR NINE ONE SEVEN SIX THREE TWO
ZERO;8+LETTER: A AU BA BHA CA CHA DA DDA DDHA DHA E GA GHA HA I II JA JHA KA KHA LA LLA MA NA NGA
NNA NNYA NYA O PA PHA RA SA SHA SSA TA THA TTA TTHA U UU WA YA;14+ AITON: RA;15+EASTERN PWO KAREN:
GHWA NNA YWA;15+GREAT: SA;15+KHAMTI: CA CHA DDA DDHA DHA FA GA HA HHA JA JHA LLA NA NYA RA SA TTA
TTHA XA ZA;15+MON: BBA BBE E JHA NGA;15+RUMAI PALAUNG: FA;15+SGAW KAREN: SHA;16+HAN: A BA BHA CA CHA
DA FA GA GHA HA JHA KA KHA NA NNA NYA PHA THA ZA;17+WE PALAUNG: CHA SHA;15+TAI LAING: BA BHA DA DDA
DDHA DHA FA GA GHA JA JHA LLA NNA NYA;15+VOCALIC: L LL R RR;15+WESTERN PWO KAREN: PWA THA;9+OGOGRAM
KHAMTI: HM OAY QN;8+MODIFIER LETTER KHAMTI: REDUPLICATION;24+SHAN: REDUPLICATION;8+SHAN DIGIT: EIGHT
FIVE FOUR NINE ONE SEVEN SIX THREE TWO ZERO;9+IGN: ANUSVARA ASAT SECTION VIRAMA VISARGA;12+ DOT:
BELOW;13+KHAMTI: TONE-1 TONE-3;13+LITTLE: SECTION;13+PAO KAREN: TONE;13+RUMAI PALAUNG: TONE-5;
13+SHAN: SAW TONE-2 TONE-3 TONE-5 TONE-6;17+ COUNCIL: TONE-2 TONE-3;25+ EMPHATIC: TONE;13+TAI LAING:
TONE-2 TONE-5;13+WESTERN PWO KAREN: TONE-1~5;9+YMBOL: AFOREMENTIONED COMPLETED GENITIVE LOCATIVE;14+
AITON: EXCLAMATION ONE TWO;15+SHAN: EXCLAMATION ONE;8+TAI LAING DIGIT: EIGHT FIVE FOUR NINE ONE
SEVEN SIX THREE TWO ZERO;9+ONE MARK SGAW KAREN: HATHI;28+ KE: PHO;8+VOWEL SIGN: AA AI E I II U UU;
18+ AITON: A AI;19+E: ABOVE;19+GEBA KAREN: I;19+KAYAH: EE OE U;19+MON: II O;19+SGAW KAREN: EU;
20+HAN: AA E;23+ E: ABOVE;24+FINAL: Y;19+TALL: AA;19+VOCALIC: L LL R RR;19+WESTERN PWO KAREN: EU UE;
0+N-ARY: COPRODUCT INTERSECTION PRODUCT SUMMATION UNION;5+ CIRCLED DOT: OPERATOR;14+PLUS: OPERATOR;
14+TIMES: OPERATOR;6+LOGICAL: AND OR;6+SQUARE INTERSECTION: OPERATOR;13+UNION: OPERATOR;6+TIMES:
OPERATOR;6+UNION OPERATOR WITH: DOT PLUS;6+WHITE VERTICAL: BAR;1+ABATAEAN CRUCIFORM NUMBER: FOUR;
10+LETTER: ALEPH AYIN BETH DALETH GIMEL HE HETH KAPH LAMEDH MEM NUN PE QOPH RESH SADHE SAMEKH SHIN
TAW TETH WAW YODH ZAYIN;16+ FINAL: ALEPH BETH HE KAPH LAMEDH MEM NUN SHIN YODH;10+NUMBER: FIVE FOUR
ONE TEN THREE TWENTY TWO;16+ ONE: HUNDRED;2+IL: POLISH;3+RA: SIGN;2+ME: BADGE;2+NDINAGARI:
HEADSTROKE;11+ LETTER: A AA AI AU BA BHA CA CHA DA DDA DDHA DHA E GA GHA HA I II JA JHA KA KHA LA
LLA MA NA NGA NNA NYA O PA PHA RA RRA SA SHA SSA TA THA TTA TTHA U UU VA YA;18+ VOCALIC: R RR;
12+SIGN: ANUSVARA AVAGRAHA SIDDHAM VIRAMA VISARGA;12+VOWEL SIGN: AA AI AU E I II O U UU;22+
PRISHTHAMATRA: E;23+VOCALIC: R RR;2+RROW NO-BREAK: SPACE;2+TIONAL: PARK;8+ DIGIT: SHAPES;2+USEATED:
FACE;2+ZAR: AMULET;1+EGATED DOUBLE VERTICAL BAR DOUBLE RIGHT: TURNSTILE;5+IVE: ACKNOWLEDGE;8+
CIRCLED: SQUARE TRIANGLE;16+ DIGIT: ZERO;17+LATIN CAPITAL LETTER: A B C D E F G H I J K L M N O P Q
R S T U V W X Y Z;17+NUMBER: EIGHTEEN ELEVEN FIFTEEN FOURTEEN NINETEEN SEVENTEEN SIXTEEN THIRTEEN
TWELVE TWENTY;9+DIAGONAL: CROSS DIAMOND;17+ MIDDLE RIGHT TO LOWER: CENTRE;9+SQUARED: AB IC PA SA WC;
16+ CROSS: MARK;17+LATIN CAPITAL LETTER: A B C D E F G H I J K L M N O P Q R S T U V W X Y Z;
17+QUESTION: MARK;2+ITHER A SUBSET OF NOR EQUAL: TO;12+PERSET OF NOR EQUAL: TO;9+PPROXIMATELY NOR
ACTUALLY EQUAL: TO;8+GREATER-THAN NOR: LESS-THAN;24+ EQUAL: TO;28+IVALENT: TO;8+LESS-THAN NOR:
GREATER-THAN;21+ EQUAL: TO;25+IVALENT: TO;2+PTUNE FORM: TWO;2+RD: FACE;2+ST WITH: EGGS;4+ING: DOLLS;
2+UTRAL: FACE;7+ CHESS: BISHOP EQUIHOPPER KING KNIGHT PAWN QUEEN ROOK;13+ BISHOP ROTATED NINETY:
DEGREES;29+TWO HUNDRED SEVENTY: DEGREES;14+EQUIHOPPER ROTATED NINETY: DEGREES;14+KING ROTATED
NINETY: DEGREES;27+TWO HUNDRED SEVENTY: DEGREES;15+NIGHT ROTATED FORTY-FIVE: DEGREES;29+NINETY:
DEGREES;29+ONE HUNDRED THIRTY-FIVE: DEGREES;29+THREE HUNDRED FIFTEEN: DEGREES;30+WO HUNDRED SEVENTY:
DEGREES;41+TWENTY-FIVE: DEGREES;14+PAWN ROTATED NINETY: DEGREES;27+TWO HUNDRED SEVENTY: DEGREES;
14+QUEEN ROTATED NINETY: DEGREES;28+TWO HUNDRED SEVENTY: DEGREES;14+ROOK ROTATED NINETY: DEGREES;
27+TWO HUNDRED SEVENTY: DEGREES;14+TURNED: BISHOP KING KNIGHT PAWN QUEEN ROOK;2+W: LINE;3+ MOON:
SYMBOL;8+ WITH: FACE;4+SHEQEL: SIGN;4+TAI LUE DIGIT: EIGHT FIVE FOUR NINE ONE SEVEN SIX THREE TWO
ZERO;12+LETTER FINAL: B D K M N NG V;19+HIGH: BA DA FA HA KA KVA LA MA NA NGA PA PHA QA SA SUA TA
THA TSA VA XA XVA YA;19+LOW: BA DA FA HA KA KVA LA MA NA NGA PA PHA QA SA SUA TA THA TSA VA XA XVA
YA;12+SIGN: LAE LAEV;12+THAM DIGIT: ONE;13+ONE: MARK-1 MARK-2;12+VOWEL SIGN: AA AAY AE AY E II IY O
OA OAY OY U UE UEY UU UY;22+ VOWEL: SHORTENER;3+A: COMMA DANDA OM SIDDHI;4+ ABBREVIATION: SIGN;
5+DIGIT: EIGHT FIVE FOUR NINE ONE SEVEN SIX THREE TWO ZERO;6+OUBLE: COMMA DANDA;5+GAP: FILLER;
5+INSERTION: SIGN;5+LETTER: A AA AI AU BA BHA CA CHA DA DDA DDHA DHA E GA GHA HA I II JA JHA KA KHA
LA LHA MA MHA NA NGA NGHA NHA NNA NYA NYHA O PA PHA RA RHA SA SHA SSA TA THA TTA TTHA U UU WA YA;11+
VEDIC: ANUSVARA;13+OCALIC: L LL R RR;5+PLACEHOLDER: MARK;5+SANDHI: MARK;6+IGN: ANUSVARA AVAGRAHA
CANDRABINDU JIHVAMULIYA NUKTA UPADHMANIYA VIRAMA VISARGA;9+ FINAL: ANUSVARA;5+VOWEL SIGN: AA AI AU E
I II O U UU;15+ VOCALIC: L LL R RR;3+LINE: LEFT RIGHT;2+XT: LINE PAGE;1+IGHT WITH: STARS;1+KO: COMMA
DANTAYALAN LAJANYALAN;3+ COMBINING DOUBLE DOT: ABOVE;14+LONG DESCENDING: TONE;19+HIGH: TONE;19+LOW:
TONE;19+RISING: TONE;14+NASALIZATION: MARK;14+SHORT HIGH: TONE;20+LOW: TONE;20+RISING: TONE;4+DIGIT:
EIGHT FIVE FOUR NINE ONE SEVEN SIX THREE TWO ZERO;5+OROME: SIGN;4+EXCLAMATION: MARK;4+HIGH TONE:
APOSTROPHE;4+LETTER: A BA CHA DA DAGBASINNA E EE FA GBA HA I JA KA LA MA N NA NYA O OO PA RA RRA SA
TA U WA YA;10+ JONA: CHA JA RA;11+NA: WOLOSO;12+YA: WOLOSO;5+OW TONE: APOSTROPHE;4+SYMBOL:
GBAKURUNEN;10+ OO: DENNEN;4+TAMAN: SIGN;1+O: BICYCLES ENTRY PEDESTRIANS PIRACY;2+ BREAK: HERE;
3+ENTRY: SIGN;3+MOBILE: PHONES;3+ONE UNDER EIGHTEEN: SYMBOL;3+SMOKING: SYMBOL;2+-BREAK: SPACE;
2+MINAL DIGIT: SHAPES;4+SMA: SIGN;2+N-BREAKING: HYPHEN;4+POTABLE WATER: SYMBOL;2+RDIC MARK: SIGN;
3+MAL SUBGROUP: OF;15+ OF OR EQUAL: TO;3+TH EAST: ARROW;10+ AND SOUTH WEST: ARROW;12+RROW AND SOUTH
EAST: ARROW;17+CROSSING NORTH WEST: ARROW;26+SOUTH EAST: ARROW;17+WITH: HOOK;11+BLACK: ARROW;
11+DOUBLE: ARROW;11+POINTING: BUD LEAF;19+ VINE: LEAF;11+SANS-SERIF: ARROW;11+TRIANGLE-HEADED:
ARROW;26+ ARROW TO: BAR;11+WHITE: ARROW;6+INDIC FRACTION ONE: EIGHTH HALF QUARTER SIXTEENTH;
21+THREE: QUARTERS SIXTEENTHS;12+PLACEHOLDER: MARK;12+QUANTITY: MARK;15+RTER: MARK;12+RUPEE: MARK;
6+WEST: ARROW;10+ AND SOUTH EAST: ARROW;12+RROW AND NORTH EAST: ARROW;17+CROSSING NORTH EAST: ARROW;
17+TO: CORNER;19+ LONG: BAR;17+WITH: HOOK;11+BLACK: ARROW;11+DOUBLE: ARROW;11+POINTING: BUD LEAF;19+
VINE: LEAF;11+SANS-SERIF: ARROW;11+TRIANGLE-HEADED: ARROW;26+ ARROW TO: BAR;11+WHITE: ARROW;
5+EAST-POINTING: AIRPLANE;2+T: GREATER-THAN LESS-THAN SIGN TILDE TRUE;3+ A SUBSET: OF;8+PERSET: OF;
5+LMOST EQUAL: TO;5+N ELEMENT: OF;5+SYMPTOTICALLY EQUAL: TO;4+CHECK: MARK;4+EQUAL: TO;7+IVALENT: TO;
4+IDENTICAL: TO;4+NORMAL SUBGROUP: OF;19+ OF OR EQUAL: TO;4+PARALLEL: TO;4+SQUARE IMAGE OF OR EQUAL:
TO;11+OR:;13+IGINAL OF OR EQUAL: TO;3+CHED LEFT SEMICIRCLE WITH THREE: DOTS;9+OWER RIGHT-SHADOWED
WHITE RIGHTWARDS: ARROW;8+RIGHT SEMICIRCLE WITH THREE: DOTS;8+UPPER RIGHT-SHADOWED WHITE RIGHTWARDS:
ARROW;3+E: PAD PAGE;4+BOOK WITH DECORATIVE: COVER;1+UMBER: SIGN;6+ EIGHTEEN FULL: STOP;8+LEVEN FULL:
STOP;7+FIFTEEN FULL: STOP;8+OURTEEN FULL: STOP;7+NINETEEN FULL: STOP;7+SEVENTEEN FULL: STOP;8+IXTEEN
FULL: STOP;7+TEN FULL: STOP;8+HIRTEEN FULL: STOP;8+WELVE FULL: STOP;10+NTY FULL: STOP;3+ERO: SIGN;
2+SHU: CHARACTER-1B170#1B2FB;5+ ITERATION: MARK;2+T AND: BOLT;1+YIAKENG PUACHUE HMONG: TONE-B TONE-D
TONE-G TONE-J TONE-M TONE-S TONE-V;22+ CIRCLED: CA;23+DIGIT: EIGHT FIVE FOUR NINE ONE SEVEN SIX
THREE TWO ZERO;23+LETTER: A AA CA DA DLA E EE FA GA HA HAH I KA LA MA MLA NA NCA NKA NPA NPLA NQA
NRA NTA NTSA NTXA NYA O OO PA PLA QA RA RRA SA TA TSA TXA U VA W XA XYA YA ZA;24+OGOGRAM: NYAJ;
23+SIGN FOR: ANIMAL INVERTEBRATE LOCATION PERSON THING;28+XW: XW;24+YLLABLE: LENGTHENER;0+OBJECT
REPLACEMENT: CHARACTER;2+LIQUE: HYPHEN;7+ ANGLE OPENING: DOWN UP;2+SERVER EYE: SYMBOL;1+CR: CHAIR
DASH FORK HOOK;3+ AMOUNT OF: CHECK;4+BELT: BUCKLE;5+OW: TIE;5+RANCH BANK: IDENTIFICATION;4+CUSTOMER
ACCOUNT: NUMBER;4+DOUBLE: BACKSLASH;4+INVERTED: FORK;2+TAGONAL: SIGN;1+FFICE: BUILDING;1+GHAM
FEATHER: MARK;6+LETTER: AILM BEITH CEIRT COLL DAIR EABHADH EADHADH EAMHANCHOLL FEARN GORT IFIN
IODHADH LUIS MUIN NGEADAL NION ONN OR PEITH RUIS SAIL STRAIF TINNE UATH UILLEANN UR;6+REVERSED
FEATHER: MARK;6+SPACE: MARK;1+HM: SIGN;1+IL: DRUM;1+K HAND: SIGN;1+L CHIKI: AHAD PHAARKAA RELAA;8+
DIGIT: EIGHT FIVE FOUR NINE ONE SEVEN SIX THREE TWO ZERO;9+GAAHLAA: TTUDDAAG;9+LETTER: AAJ AAK AAM
AAW AG AL ANG AT EDD EN EP ERR IH INY IR IS LA LAA LE LI LO LU OB OH OTT OV UC UD UNN UY;9+MU:
TTUDDAG;11+-GAAHLAA: TTUDDAAG;9+PUNCTUATION: MUCAAD;20+ DOUBLE: MUCAAD;2+D: KEY;3+ CHINESE HOOK:
MARK;12+ITERATION: MARK;4+HUNGARIAN CAPITAL LETTER: A AA AK AMB AND E EB EC ECH ECS ED EE EF EG EGY
EH EJ EK EL ELY EM EMP EN ENC ENT ENY EP ER ES ESZ ET ETY EV EZ EZS I II O OEE OO U UNK US UU;28+
CLOSE: E;29+ENT-SHAPED: SIGN;29+NIKOLSBURG: OE UE;29+RUDIMENTA: OE UE;29+SHORT: ER;14+NUMBER: FIFTY
FIVE ONE TEN;20+ ONE: HUNDRED THOUSAND;14+SMALL LETTER: A AA AK AMB AND E EB EC ECH ECS ED EE EF EG
EGY EH EJ EK EL ELY EM EMP EN ENC ENT ENY EP ER ES ESZ ET ETY EV EZ EZS I II O OEE OO U UNK US UU;
26+ CLOSE: E;27+ENT-SHAPED: SIGN;27+NIKOLSBURG: OE UE;27+RUDIMENTA: OE UE;27+SHORT: ER;4+ITALIC
LETTER: A BE CHE DE E EF EKS EL EM EN ER ERS ES ESH ESS HE I II KA KE KHE KU O PE PHE SHE TE THE U
UU VE YE ZE;17+ NORTHERN: TSE;18+SOUTHERN: TSE;11+NUMERAL: FIFTY FIVE ONE TEN;4+NORTH ARABIAN
LETTER: AIN ALEF BEH DAD DAL ES-1~3 FEH GEEM GHAIN HAH HEH KAF KHAH LAM MEEM NOON QAF REH SAD TAH
TEH THAL THEH WAW YEH ZAH ZAIN;18+NUMBER: ONE TEN TWENTY;4+PERMIC LETTER: AN BUR CHERY DOI DZHOI
DZITA E EF GAI HA I IA IE KOKE LEI MENOE NENOE O OO PEEI REI SHCHOOI SHOOI SII TAI TSIU U VER VOOI
YA YAT YER YERI YERU YRY YU ZATA ZHOI;7+SIAN NUMBER: HUNDRED ONE TEN TWENTY TWO;12+SIGN: A
AURAMAZDAA AURAMAZDAA-2 AURAMAZDAAHA BA BAGA BUUMISH CA DA DAHYAAUSH DAHYAAUSH-2 DI DU FA GA GU HA I
JA JI KA KU LA MA MI MU NA NU PA RA RU SA SHA SSA TA THA TU U VA VI XA XSHAAYATHIYA YA ZA;12+WORD:
DIVIDER;8+ONAL: COMPUTER;4+SOGDIAN FRACTION ONE: HALF;12+LETTER: ALEPH AYIN BETH GIMEL HE HETH KAPH
LAMEDH MEM NUN PE RESH-AYIN-DALETH SADHE SAMEKH SHIN TAW WAW YODH ZAYIN;18+ ALTERNATE: AYIN;
19+FINAL: ALEPH BETH HE NUN SADHE TAW;24+ NUN WITH VERTICAL: TAIL;25+SADHE WITH VERTICAL: TAIL;
25+TAW WITH VERTICAL: TAIL;13+IGATURE: AYIN-DALETH;12+NUMBER: FIVE FOUR ONE TEN THIRTY THREE TWENTY
TWO;18+ ONE: HUNDRED;6+UTH ARABIAN LETTER: ALEF AYN BETH DALETH DHADHE DHALETH FE GHAYN GIMEL HE
HETH KAPH KHETH LAMEDH MEM NUN QOPH RESH SADHE SAMEKH SAT SHIN TAW TETH THAW THETH WAW YODH ZAYN;
18+NUMBER: FIFTY ONE;21+ERIC: INDICATOR;4+TURKIC LETTER ORKHON: A AB AD AEB AED AEG AEK AEL AEN AER
AES AET AEY AG AL AN AQ AR AS ASH AT AY BASH EC ELT EM ENC ENG ENT ENY EP ESH EZ I IC IQ O OE OEK OP
OQ OT;18+YENISEI: A AB AD AE AEB AEG AEK AEN AENG AET AEY AG AL ANG AQ AR ASH AT AY E EC ENC ENT ENY
ESH EZ I IQ OE OEK OQ;4+UYGHUR COMBINING DOT: ABOVE BELOW;21+TWO DOTS: ABOVE BELOW;11+LETTER: ALEPH
BETH GIMEL-HETH KAPH LAMEDH LESH MEM NUN PE RESH SADHE SAMEKH SHIN TAW WAW YODH ZAYIN;17+ FINAL:
HETH;11+PUNCTUATION: BAR;22+ FOUR: DOTS;23+TWO: BARS DOTS;3+ER: ADULT MAN WOMAN;1+M: SYMBOL;1+N WITH
EXCLAMATION MARK WITH LEFT RIGHT ARROW: ABOVE;2+COMING: AUTOMOBILE BUS TAXI;8+ FIRE: ENGINE;
9+POLICE: CAR;2+E BUTTON: MOUSE;4+DOT: LEADER;7+ OVER TWO DOTS: PUNCTUATION;3+-PIECE: SWIMSUIT;
1+PEN: BOOK BOX FOLDER LOCK SUBSET SUPERSET;4+ CENTRE: ASTERISK CROSS;11+ BLACK: STAR;
12+TEARDROP-SPOKED: ASTERISK;5+FILE: FOLDER;5+HANDS: SIGN;5+MAILBOX WITH LOWERED: FLAG;18+RAISED:
FLAG;4+-CIRCUIT-OUTPUT H-TYPE: SYMBOL;20+L-TYPE: SYMBOL;5+OUTLINED RIGHTWARDS: ARROW;3+RATING
SYSTEM: COMMAND;2+TICAL: DISC;7+ DISC: ICON;4+ON: KEY;1+R WITH DOT: INSIDE;2+ANGE: BOOK HEART;
2+IGINAL: OF;3+YA: ISSHAR;5+ AI LENGTH: MARK;7+U LENGTH: MARK;6+DIGIT: EIGHT FIVE FOUR NINE ONE
SEVEN SIX THREE TWO ZERO;6+FRACTION ONE: EIGHTH HALF QUARTER SIXTEENTH;15+THREE: QUARTERS
SIXTEENTHS;6+LETTER: A AA AI AU BA BHA CA CHA DA DDA DDHA DHA E GA GHA HA I II JA JHA KA KHA LA LLA
MA NA NGA NNA NYA O PA PHA RA RHA RRA SA SHA SSA TA THA TTA TTHA U UU VA WA YA YYA;12+ VOCALIC: L LL
R RR;6+SIGN: ANUSVARA AVAGRAHA CANDRABINDU NUKTA OVERLINE VIRAMA VISARGA;6+VOWEL SIGN: AA AI AU E I
II O U UU;16+ VOCALIC: L LL R RR;2+NATE LEFT: PARENTHESIS;7+RIGHT: PARENTHESIS;2+THODOX: CROSS;
1+SAGE CAPITAL LETTER: A AH AI AIN BRA CHA DHA E EHCHA EHKA EHPA EHTA EHTSA EIN GHA HA HYA I KA KHA
KYA LA MA NA O OIN PA SA SHA TA TSA TSHA U WA ZA ZHA;6+SMALL LETTER: A AH AI AIN BRA CHA DHA E EHCHA
EHKA EHPA EHTA EHTSA EIN GHA HA HYA I KA KHA KYA LA MA NA O OIN PA SA SHA TA TSA TSHA U WA ZA ZHA;
2+MANYA DIGIT: EIGHT FIVE FOUR NINE ONE SEVEN SIX THREE TWO ZERO;8+LETTER: A AA ALEF BA CAYN DEEL
DHA E EE FA GA HA I JA KAAF KHA LAAN MIIN NUUN O OO QAAF RA SA SHIIN TA U WAW XA YA;1+TTOMAN SIYAQ:
MARRATAN;13+ ALTERNATE NUMBER: EIGHT FIVE FOUR NINE SEVEN SIX TEN THREE TWO;30+ FOUR: HUNDRED;
31+SIX: HUNDRED;31+TEN: THOUSAND;32+WO: THOUSAND;14+FRACTION ONE: HALF SIXTH;14+NUMBER: EIGHT EIGHTY
FIFTY FIVE FORTY FOUR NINE NINETY ONE SEVEN SEVENTY SIX SIXTY TEN THIRTY THREE TWENTY TWO;20+ EIGHT:
HUNDRED THOUSAND;26+Y: THOUSAND;21+FIFTY: THOUSAND;23+VE: HUNDRED THOUSAND;22+ORTY: THOUSAND;23+UR:
HUNDRED THOUSAND;21+NINE: HUNDRED THOUSAND;25+TY: THOUSAND;21+ONE: HUNDRED THOUSAND;21+SEVEN:
HUNDRED THOUSAND;26+TY: THOUSAND;22+IX: HUNDRED THOUSAND;24+TY: THOUSAND;21+TEN: THOUSAND;22+HIRTY:
THOUSAND;23+REE: HUNDRED THOUSAND;22+WENTY: THOUSAND;23+O: HUNDRED THOUSAND;1+UNCE: SIGN;2+TBOX:
TRAY;3+LINED BLACK: STAR;9+GREEK: CROSS;9+LATIN: CROSS;9+WHITE: STAR;1+VERHEATED: FACE;4+LAPPING
BLACK: SQUARES;12+WHITE: SQUARES;17+ AND BLACK: SQUARES;0+PADDING: CHARACTER;2+GE FACING: UP;5+WITH:
CURL;9+ CIRCLED: TEXT;2+HAWH HMONG CLAN SIGN: FAJ HAM HAWJ KHAB KOO KWM LAUJ LIS MUAS PHAB THOJ TSAB
TSHEEJ TSWB VAJ VWJ XYOOJ YAJ YEEG;14+ONSONANT: AU CAU CHAU HAU HLAU HNAU LAU MAU NAU NCHAU NKAU
NLAU NTHAU NTSAU PLHAU QHAU RAU VAU XAU YAU;13+DIGIT: EIGHT FIVE FOUR NINE ONE SEVEN SIX THREE TWO
ZERO;13+MARK CIM: HOM KES KHAV SO SUAM TAUM TUB;13+NUMBER: HUNDREDS MILLIONS TENS TRILLIONS;19+
HUNDRED: MILLIONS;20+TEN: BILLIONS THOUSANDS;13+SIGN: AV HLI HNUB LOS MUS NQIG NTUJ TAU XAUS XIAB
XYOO;17+ CIM: CHEEM TXWV;21+ CUAM: TSHOOJ;22+HAIS LUS NTOG: NTOG;22+NRES: TOS;22+PUB: DAWB;22+TSOV:
ROG;23+XWV: CHWV;18+IB: YAM;18+MEEJ: SUAB TSEEB;18+THIRD-STAGE: HLI;19+XHEEJ: CEEV;18+VOS: FEEM LUB
NRUA SEEV THIAB THOM;21+ TSHAB: CEEB;18+XYEEM: FAIB NTXIV RHO TOV;18+ZWJ: THAJ;13+VOWEL: KAAB KAAV
KAB KAIB KAIV KAUB KAUV KAV KAWB KAWV KEB KEEB KEEV KEV KIAB KIAV KIB KIV KOB KOOB KOOV KOV KUAB
KUAV KUB KUV KWB KWV;2+LM: BRANCH TREE;4+ DOWN: HAND;5+UP: HAND;4+S UP: TOGETHER;4+YRENE
LEFT-POINTING: FLEURON;12+TTER: ALEPH AYIN BETH DALETH GIMEL HE HETH KAPH LAMEDH MEM NUN PE QOPH
RESH SADHE SAMEKH SHIN TAW TETH WAW YODH ZAYIN;16+ FINAL: NUN;10+NUMBER: FIVE FOUR ONE TEN THREE
TWENTY TWO;10+RIGHT-POINTING: FLEURON;2+NDA: FACE;2+RAGRAPH: SEPARATOR;9+US: MARK;4+LLEL: TO;8+ WITH
HORIZONTAL: STROKE;14+TILDE: OPERATOR;3+ENTHESIZED DIGIT: EIGHT FIVE FOUR NINE ONE SEVEN SIX THREE
TWO;14+HANGUL: CHIEUCH CIEUC HIEUH IEUNG KHIEUKH KIYEOK MIEUM NIEUN PHIEUPH PIEUP RIEUL SIOS THIEUTH
TIKEUT;20+ CHIEUCH: A;22+IEUC: A U;21+HIEUH: A;21+IEUNG: A;21+KHIEUKH: A;22+IYEOK: A;21+MIEUM: A;
21+NIEUN: A;21+PHIEUPH: A;22+IEUP: A;21+RIEUL: A;21+SIOS: A;21+THIEUTH: A;22+IKEUT: A;14+IDEOGRAPH:
ALLIANCE CALL CONGRATULATION EARTH EIGHT ENTERPRISE FESTIVAL FINANCIAL FIRE FIVE FOUR HAVE LABOR
METAL MOON NAME NINE ONE REACH REPRESENT RESOURCE REST SELF SEVEN SIX SOCIETY SPECIAL STOCK STUDY
SUN SUPERVISE TEN THREE TWO WATER WOOD;14+KOREAN CHARACTER: OJEON;30+ O: HU;14+LATIN CAPITAL LETTER:
A B C D E F G H I J K L M N O P Q R S T U V W X Y Z;20+SMALL LETTER: A B C D E F G H I J K L M N O P
Q R S T U V W X Y Z;14+NUMBER: EIGHTEEN ELEVEN FIFTEEN FOURTEEN NINETEEN SEVENTEEN SIXTEEN TEN
THIRTEEN TWELVE TWENTY;3+T ALTERNATION: MARK;4+IAL: DIFFERENTIAL;7+ LINE: BACKWARD DOWN FORWARD UP;
7+LY-RECYCLED PAPER: SYMBOL;4+NERSHIP: SIGN;4+Y: POPPER;2+SSED: SYMBOL;5+NGER: SHIP;
4+IVE-PULL-DOWN-OUTPUT: SYMBOL;13+UP-OUTPUT: SYMBOL;0+PASSPORT: CONTROL;2+U CIN HAU GLOTTAL: STOP;
19+ STOP: FINAL VARIANT;12+LETTER: A BA CA CHA DA E FA GA HA I IA KA KHA LA MA NA NGA O PA PHA RA SA
TA THA U UA VA ZA;18+ FINAL: K L M N NG P T W Y;13+OW-FALLING: TONE;23+ TONE: FINAL LONG;28+ LONG:
FINAL;12+MID-LEVEL: TONE;21+ TONE: FINAL;26+ LONG: FINAL;12+RISING: TONE;18+ TONE: FINAL LONG;23+
LONG: FINAL;12+SANDHI: TONE;18+ GLOTTAL: STOP;26+ STOP: FINAL;19+TONE: FINAL LONG;23+ LONG: FINAL;
2+W: PRINTS;1+EACE: SYMBOL;2+N OVER STAMPED: ENVELOPE;3+SIVE: FACE;2+OPLE: HUGGING;2+R: SIGN;3+
MILLE: SIGN;4+TEN THOUSAND: SIGN;3+CENT: SIGN;3+FORMING: ARTS;3+MANENT PAPER: SIGN;3+PENDICULAR
WITH: S;3+SEVERING: FACE;4+ON: CLIMBING FROWNING;6+ BOWING: DEEPLY;7+DOING: CARTWHEEL;7+IN LOTUS:
POSITION;10+STEAMY: ROOM;7+RAISING BOTH HANDS IN: CELEBRATION;7+WITH: BALL CROWN HEADSCARF;11+
BLOND: HAIR;12+FOLDED: HANDS;12+POUTING: FACE;6+AL: COMPUTER;2+SETA: SIGN;3+O: SIGN;2+TRI: DISH;
1+HAGS-PA DOUBLE HEAD: MARK;9+LETTER: A BA CA CANDRABINDU CHA DA DDA DZA E EE FA GA GGA HA I JA KA
KHA LA MA NA NGA NNA NYA O PA PHA QA RA SA SHA TA THA TSA TSHA TTA TTHA U WA XA YA ZA ZHA;15+
ALTERNATE: YA;17+SPIRATED: FA;16+SMALL: A;16+VOICED: HA;21+LESS: SHA;9+MARK: SHAD;13+ DOUBLE: SHAD;
9+SINGLE HEAD: MARK;10+UBJOINED LETTER: RA WA YA;11+PERFIXED LETTER: RA;3+ISTOS DISC SIGN: ARROW BEE
BEEHIVE BOOMERANG BOW CAPTIVE CAT CHILD CLUB COLUMN COMB DOLIUM DOVE EAGLE FLUTE GAUNTLET GRATER
HELMET HIDE HORN LID LILY MANACLES MATTOCK PAPYRUS PEDESTRIAN RAM ROSETTE SAW SHIELD SHIP SLING
STRAINER TIARA TUNNY VINE WOMAN;18+ BULLS: LEG;19+CARPENTRY: PLANE;20+OMBINING OBLIQUE: STROKE;
19+OX: BACK;19+PLANE: TREE;21+UMED: HEAD;19+SMALL: AXE;19+TATTOOED: HEAD;19+WAVY: BAND;2+ILIPPINE
DOUBLE: PUNCTUATION;11+SINGLE: PUNCTUATION;2+OENICIAN LETTER: AIN ALF BET DELT GAML HE HET KAF LAMD
MEM NUN PE QOF ROSH SADE SEMK SHIN TAU TET WAU YOD ZAI;11+NUMBER: ONE TEN THREE TWENTY TWO;17+ ONE:
HUNDRED;11+WORD: SEPARATOR;1+ICKUP: TRUCK;2+G: FACE NOSE;2+LCROW: SIGN;3+E OF: POO;2+NCHED: FINGERS;
5+ING: HAND;3+E: DECORATION;3+WHEEL: STAR;2+TCHFORK WITH TEE: TOP;1+LACE OF: WORSHIP;8+ INTEREST:
SIGN;3+NCK: CONSTANT;6+ CONSTANT OVER TWO: PI;3+YGROUND: SLIDE;4+ING CARD: BACK FOOL TRUMP-10~21
TRUMP-1~9;12+ ACE OF: CLUBS DIAMONDS HEARTS SPADES;13+BLACK: JOKER;13+EIGHT OF: CLUBS DIAMONDS
HEARTS SPADES;13+FIVE OF: CLUBS DIAMONDS HEARTS SPADES;14+OUR OF: CLUBS DIAMONDS HEARTS SPADES;
13+JACK OF: CLUBS DIAMONDS HEARTS SPADES;13+KING OF: CLUBS DIAMONDS HEARTS SPADES;14+NIGHT OF: CLUBS
DIAMONDS HEARTS SPADES;13+NINE OF: CLUBS DIAMONDS HEARTS SPADES;13+QUEEN OF: CLUBS DIAMONDS HEARTS
SPADES;13+RED: JOKER;13+SEVEN OF: CLUBS DIAMONDS HEARTS SPADES;14+IX OF: CLUBS DIAMONDS HEARTS
SPADES;13+TEN OF: CLUBS DIAMONDS HEARTS SPADES;14+HREE OF: CLUBS DIAMONDS HEARTS SPADES;14+WO OF:
CLUBS DIAMONDS HEARTS SPADES;13+WHITE: JOKER;2+US: SIGN;4+ SIGN ABOVE EQUALS: SIGN;10+IN: TRIANGLE;
12+ LEFT HALF: CIRCLE;13+RIGHT HALF: CIRCLE;10+WITH BLACK: TRIANGLE;15+CIRCUMFLEX ACCENT: ABOVE;
15+DOT: BELOW;15+SMALL CIRCLE: ABOVE;16+UBSCRIPT: TWO;15+TILDE: ABOVE BELOW;4+-MINUS: SIGN;3+TO
FORM: FIVE FOUR THREE TWO;1+OCKET: CALCULATOR;2+LICE: CAR OFFICER;6+ CARS REVOLVING: LIGHT;2+P
DIRECTIONAL: FORMATTING ISOLATE;2+RTABLE: STEREO;2+SITION: INDICATOR;3+TAL: HORN MARK;6+ MARK: FACE;
2+T OF: FOOD;3+ABLE WATER: SYMBOL;3+TED: PLANT;2+ULTRY: LEG;3+ND: SIGN;3+RING: LIQUID;3+TING: FACE;
7+ CAT: FACE;2+WER: SYMBOL;5+ ON: SYMBOL;8+-OFF: SYMBOL;6+SLEEP: SYMBOL;1+RAYER: BEADS;2+ECEDES
ABOVE ALMOST EQUAL: TO;15+EQUALS: SIGN;15+NOT ALMOST EQUAL: TO;19+EQUAL: TO;15+SINGLE-LINE EQUALS:
SIGN;27+NOT EQUAL: TO;9+BUT NOT EQUIVALENT: TO;9+OR EQUAL: TO;15+IVALENT: TO;9+UNDER: RELATION;
3+GNANT: MAN PERSON WOMAN;3+SCRIPTION: TAKE;4+ENTATION FORM FOR VERTICAL: COLON COMMA SEMICOLON;30+
EM: DASH;32+N: DASH;32+XCLAMATION: MARK;31+HORIZONTAL: ELLIPSIS;31+IDEOGRAPHIC: COMMA;42+ FULL:
STOP;31+LEFT: PARENTHESIS;35+ ANGLE: BRACKET;36+BLACK LENTICULAR: BRACKET;36+CORNER: BRACKET;
37+URLY: BRACKET;36+DOUBLE ANGLE: BRACKET;36+SQUARE: BRACKET;36+TORTOISE SHELL: BRACKET;36+WHITE
CORNER: BRACKET;42+LENTICULAR: BRACKET;32+OW: LINE;31+QUESTION: MARK;31+RIGHT: PARENTHESIS;36+
ANGLE: BRACKET;37+BLACK LENTICULAR: BRACKET;37+CORNER: BRACKET;38+URLY: BRACKET;37+DOUBLE ANGLE:
BRACKET;37+SQUARE: BRACKET;37+TORTOISE SHELL: BRACKET;37+WHITE CORNER: BRACKET;43+LENTICULAR:
BRACKET BRAKCET;31+TWO DOT: LEADER;31+WAVY LOW: LINE;3+VIOUS: PAGE;2+INT SCREEN: SYMBOL;5+ER: ICON;
3+VACY: MESSAGE;5+TE: USE-1 USE-2;7+ USE: ONE TWO;2+OBING: CANE;3+HIBITED: SIGN;3+PERTY: LINE;
4+ORTIONAL: TO;1+SALTER PAHLAVI FOUR DOTS WITH: CROSS DOT;16+LETTER: ALEPH BETH DALETH GIMEL HE HETH
KAPH LAMEDH MEM-QOPH NUN PE SADHE SAMEKH SHIN TAW WAW-AYIN-RESH YODH ZAYIN;16+NUMBER: FOUR ONE TEN
THREE TWENTY TWO;22+ ONE: HUNDRED;16+SECTION: MARK;16+TURNED SECTION: MARK;1+UBLIC ADDRESS:
LOUDSPEAKER;2+NCTUATION: SPACE;6+S ELEVATUS: MARK;2+RPLE: HEART;2+T LITTER IN ITS PLACE: SYMBOL;
0+QUADRANT LOWER: LEFT RIGHT;9+UPPER: LEFT RIGHT;14+ LEFT AND LOWER: RIGHT;29+ LEFT AND LOWER:
RIGHT;24+UPPER RIGHT AND LOWER: LEFT RIGHT;15+RIGHT AND LOWER: LEFT;30+ LEFT AND LOWER: RIGHT;
5+UPLE: PRIME;9+ INTEGRAL: OPERATOR;3+RTER: NOTE;3+TERNION INTEGRAL: OPERATOR;2+ESTION: MARK;8+
EXCLAMATION: MARK;8+ED EQUAL: TO;2+OTATION: MARK;0+RABBIT: FACE;2+CING: CAR MOTORCYCLE;2+DICAL
SYMBOL: BOTTOM;4+O: BUTTON;5+ACTIVE: SIGN;2+ILWAY: CAR TRACK;3+SED: COMMA DOT FIST HAND SQUARE;6+
BACK OF: HAND;7+DOTTED INTERPOLATION: MARKER;7+HAND WITH FINGERS: SPLAYED;17+PART BETWEEN MIDDLE AND
RING: FINGERS;7+INTERPOLATION: MARKER;7+MC: SIGN;8+D: SIGN;8+R: SIGN;1+ECORD: SEPARATOR;3+REATIONAL:
VEHICLE;3+YCLED PAPER: SYMBOL;6+ING SYMBOL FOR GENERIC: MATERIALS;21+TYPE-1: PLASTICS;26+2:
PLASTICS;26+3: PLASTICS;26+4: PLASTICS;26+5: PLASTICS;26+6: PLASTICS;26+7: PLASTICS;2+D: APPLE;3+
GIFT: ENVELOPE;2+FERENCE: MARK;2+GIONAL INDICATOR SYMBOL LETTER: A B C D E F G H I J K L M N O P Q R
S T U V W X Y Z;4+STERED: SIGN;2+JANG: VIRAMA;6+ CONSONANT SIGN: H N NG R;7+LETTER: A BA CA DA GA HA
JA KA LA MA MBA NA NDA NGA NGGA NYA NYJA PA RA SA TA WA YA;7+SECTION: MARK;7+VOWEL SIGN: AI AU E EA
EU I O U;2+LIEVED: FACE;2+MINDER: RIBBON;2+PLACEMENT: CHARACTER;2+STRICTED LEFT: ENTRY-1 ENTRY-2;
2+TURN: LEFT RIGHT SYMBOL;2+VERSE: INDEX SOLIDUS;7+ CHECKER: BOARD;8+LIGHT FOUR POINTED PINWHEEL:
STAR;10+NE: FEED;8+SOLIDUS: OPERATOR;15+ PRECEDING: SUBSET;16+WITH HORIZONTAL: STROKE;8+TILDE
OPERATOR ABOVE LEFTWARDS: ARROW;29+RIGHTWARDS: ARROW;7+D: ANGLE COMMA PRIME SEMICOLON TILDE;8+ ANGLE
WITH: UNDERBAR;9+DOUBLE: PRIME;15+ PRIME QUOTATION: MARK;16+STROKE NOT: SIGN;9+EMPTY: SET;9+FORKED:
PARAGRAPHOS;9+HAND WITH MIDDLE FINGER: EXTENDED;9+NOT: SIGN;9+PILCROW: SIGN;9+QUESTION: MARK;
9+RAISED HAND WITH FINGERS: SPLAYED;10+IGHT: ANGLE;10+OTATED FLORAL HEART: BULLET;9+SANS-SERIF
CAPITAL: L;9+THUMBS DOWN: SIGN;16+UP: SIGN;10+ILDE: EQUALS;10+RIPLE: PRIME;9+VICTORY: HAND;3+OLVING:
HEARTS;1+IAL: SIGN;2+BBON ARROW DOWN: LEFT RIGHT;13+LEFT: DOWN UP;13+RIGHT: DOWN UP;13+UP: LEFT
RIGHT;2+CE: BALL CRACKER;2+GHT: ANGLE CEILING FLOOR PARENTHESIS SPEAKER TACK TRIANGLE;5+ AND LOWER
ONE EIGHTH: BLOCK;10+UPPER ONE EIGHTH: BLOCK;8+GER: BUBBLE;9+LE: BRACKET;11+ BRACKET WITH: DOT;
12+DOTTED SUBSTITUTION: MARKER;12+SUBSTITUTION: MARKER;12+VARIANT WITH: SQUARE;12+WITH: ARC;16+
DOWNWARDS ZIGZAG: ARROW;7+RC GREATER-THAN: BRACKET;8+ROW WITH CIRCLED: PLUS;17+SMALL: CIRCLE;6+BLACK
LENTICULAR: BRACKET;12+TORTOISE SHELL: BRACKET;6+CORNER: BRACKET;7+URLY: BRACKET;11+ BRACKET LOWER:
HOOK;20+MIDDLE: PIECE;20+UPPER: HOOK;6+DOTTED SUBSTITUTION: BRACKET;8+UBLE: PARENTHESIS;12+ ANGLE:
BRACKET;14+RROW WITH ROUNDED: HEAD;13+QUOTATION: MARK;13+WIGGLY: FENCE;6+FISH: TAIL;8+VE EIGHTHS:
BLOCK;6+HALF: BLOCK FOLDER;10+ BLACK: CIRCLE STAR;11+MEDIUM: SHADE;11+RUNNING: MAN;8+ND TELEPHONE:
RECEIVER;6+LOW PARAPHRASE: BRACKET;6+NORMAL FACTOR SEMIDIRECT: PRODUCT;6+ONE EIGHTH: BLOCK;
10+QUARTER: BLOCK;7+PEN SQUARED: DOT;7+UTER: JOIN;6+PARENTHESIS: EXTENSION;17+ LOWER: HOOK;18+UPPER:
HOOK;6+RAISED OMISSION: BRACKET;6+S-SHAPED BAG: DELIMITER;7+EMIDIRECT: PRODUCT;8+VEN EIGHTHS: BLOCK;
7+IDEWAYS U: BRACKET;8+NGLE QUOTATION: MARK;7+PEAKER WITH ONE SOUND: WAVE;19+THREE SOUND: WAVES;
9+ECH: BUBBLE;7+QUARE: BRACKET;12+ BRACKET: EXTENSION;20+ LOWER: CORNER;21+UPPER: CORNER;21+WITH:
QUILL STROKE UNDERBAR;25+ DOUBLE: STROKE;26+TICK IN BOTTOM: CORNER;34+TOP: CORNER;7+UBSTITUTION:
BRACKET;6+THIRD WHITE RIGHT POINTING: INDEX;8+OUGHT: BUBBLE;8+REE EIGHTHS: BLOCK;12+QUARTERS: BLOCK;
7+ORTOISE SHELL: BRACKET;7+RANSPOSITION: BRACKET;8+IANGLE ABOVE LEFT: TRIANGLE;12+ULAR ONE QUARTER:
BLOCK;6+VERTICAL BAR WITH: QUILL;16+OX: LINE;6+WHITE: PARENTHESIS;11+ CORNER: BRACKET;13+URLY:
BRACKET;12+LENTICULAR: BRACKET;12+SQUARE: BRACKET;12+TORTOISE SHELL: BRACKET;7+IGGLY: FENCE;
5+-FACING: FIST;12+ ARMENIAN ETERNITY: SIGN;13+SVASTI: SIGN;19+ SIGN WITH: DOTS;6+HANDED INTERLACED:
PENTAGRAM;6+POINTING ANGLE: BRACKET;15+CURVED ANGLE: BRACKET;15+DOUBLE ANGLE QUOTATION: MARK;
15+MAGNIFYING: GLASS;6+SHADED WHITE RIGHTWARDS: ARROW;7+IDE ARC CLOCKWISE: ARROW;6+TO-LEFT:
EMBEDDING ISOLATE MARK OVERRIDE;5+HAND INTERIOR: PRODUCT;5+WARDS: ARROW ARROW-TAIL HAND ROCKET;10+
ARROW ABOVE ALMOST EQUAL: TO;23+REVERSE ALMOST EQUAL: TO;31+TILDE: OPERATOR;23+SHORT LEFTWARDS:
ARROW;23+TILDE: OPERATOR;18+ND UPPER AND LOWER ONE EIGHTH: BLOCK;17+FROM: BAR;21+ BAR TO BLACK:
DIAMOND;17+OVER LEFTWARDS: ARROW;17+THROUGH: GREATER-THAN SUPERSET X;18+O: BAR;19+ BLACK: DIAMOND;
17+WITH: HOOK LOOP STROKE TAIL;21+ CORNER: DOWNWARDS;22+DOTTED: STEM;24+UBLE VERTICAL: STROKE;
22+EQUILATERAL: ARROWHEAD;22+LARGE TRIANGLE: ARROWHEAD;22+MEDIUM TRIANGLE: ARROWHEAD;22+NOTCHED:
TAIL;22+PLUS: BELOW;22+SMALL EQUILATERAL: ARROWHEAD;28+TRIANGLE: ARROWHEAD;22+TAIL WITH DOUBLE
VERTICAL: STROKE;32+VERTICAL: STROKE;23+IP: DOWNWARDS UPWARDS;22+VERTICAL: STROKE;11+BACK-TILTED
SHADOWED WHITE: ARROW;12+LACK: ARROW;16+ CIRCLED WHITE: ARROW;12+OTTOM SHADED WHITE: ARROW;
11+COMPRESSED: ARROW;11+DASHED: ARROW;12+OUBLE: ARROW ARROW-TAIL;17+ ARROW FROM: BAR;24+WITH:
STROKE;28+ VERTICAL: STROKE;18+DASH: ARROW;11+FINGER-POST: ARROW;12+RONT-TILTED SHADOWED WHITE:
ARROW;11+HARPOON OVER LEFTWARDS: HARPOON;19+WITH BARB: DOWNWARDS UPWARDS;28+ DOWN ABOVE LEFTWARDS
HARPOON WITH BARB: DOWN;34+BELOW LONG: DASH;34+FROM: BAR;34+TO: BAR;29+UP ABOVE LEFTWARDS HARPOON
WITH BARB: UP;39+ONG: DASH;38+RIGHTWARDS HARPOON WITH BARB: DOWN;32+FROM: BAR;32+TO: BAR;12+EAVY:
ARROW;16+ COMPRESSED: ARROW;11+LEFT-SHADED WHITE: ARROW;11+OPEN-HEADED: ARROW;11+PAIRED: ARROWS;
11+QUADRUPLE: ARROW;11+RIGHT-SHADED WHITE: ARROW;11+SANS-SERIF: ARROW;12+QUARED: ARROW;14+IGGLE:
ARROW;11+TOP SHADED WHITE: ARROW;12+RIANGLE: ARROWHEAD;19+-HEADED: ARROW;26+ ARROW OVER LEFTWARDS
TRIANGLE-HEADED: ARROW;33+TO: BAR;33+WITH BOLD: SHAFT;38+DOUBLE HORIZONTAL: STROKE;45+VERTICAL:
STROKE;38+HEAVY: SHAFT;38+LONG TIP: DOWNWARDS UPWARDS;38+MEDIUM: SHAFT;38+NARROW: SHAFT;38+VERY
HEAVY: SHAFT;27+DASHED: ARROW;27+PAIRED: ARROWS;14+PLE: ARROW;17+ DASH: ARROW;12+WO HEADED: ARROW;
14+-HEADED ARROW FROM: BAR;28+WITH: TAIL;32+ DOUBLE VERTICAL: STROKE;33+TAIL WITH DOUBLE VERTICAL:
STROKE;43+VERTICAL: STROKE;34+RIANGLE: ARROWHEADS;33+VERTICAL: STROKE;22+TRIPLE DASH: ARROW;11+WAVE:
ARROW;12+HITE: ARROW;16+ ARROW FROM: WALL;23+WITHIN TRIANGLE: ARROWHEAD;2+NG: ABOVE BUOY OPERATOR
POINT;4+ EQUAL: TO;5+IN EQUAL: TO;4+ED: PLANET;4+ING: BELL;2+SING DIAGONAL CROSSING FALLING:
DIAGONAL;25+SOUTH EAST: ARROW;1+OASTED SWEET: POTATO;2+BOT: FACE;2+LL OF: PAPER;4+ED-UP: NEWSPAPER;
5+R: COASTER SKATE;4+ING ON THE FLOOR: LAUGHING;2+MAN AS: SIGN;6+CENTURIAL: SIGN;6+DENARIUS: SIGN;
7+IMIDIA SEXTULA: SIGN;7+UPONDIUS: SIGN;6+NUMERAL: EIGHT ELEVEN FIFTY FIVE FOUR NINE ONE SEVEN SIX
TEN THREE TWELVE TWO;13+ FIFTY: THOUSAND;19+ EARLY: FORM;16+VE: HUNDRED THOUSAND;14+ONE: HUNDRED
THOUSAND;17+ HUNDRED: THOUSAND;18+THOUSAND C: D;14+REVERSED ONE: HUNDRED;14+SIX LATE: FORM;14+TEN:
THOUSAND;6+QUINARIUS: SIGN;6+SEMUNCIA: SIGN;8+STERTIUS: SIGN;8+XTANS: SIGN;10+ULA: SIGN;7+ILIQUA:
SIGN;6+UNCIA: SIGN;2+TATED CAPITAL: Q;8+FLORAL HEART: BULLET;8+HEAVY BLACK HEART: BULLET;8+LIGHT
FOUR POINTED BLACK: CUSP;8+WHITE FOUR POINTED: CUSP;2+UND: PUSHPIN TARGET;5+ED SYMBOL FOR: CAI FU LU
SHOU SHUANGXI XI;1+UBLE: SIGN;2+GBY: FOOTBALL;2+MI DIGIT: EIGHT FIVE FOUR NINE ONE SEVEN SIX THREE
TWO;5+FRACTION ONE: HALF QUARTER THIRD;14+TWO: THIRDS;5+NUMBER: EIGHTY FIFTY FORTY NINETY SEVENTY
SIXTY TEN THIRTY TWENTY;11+ EIGHT: HUNDRED;12+FIVE: HUNDRED;13+OUR: HUNDRED;12+NINE: HUNDRED;12+ONE:
HUNDRED;12+SEVEN: HUNDRED;13+IX: HUNDRED;12+THREE: HUNDRED;13+WO: HUNDRED;2+NIC ARLAUG: SYMBOL;
6+BELGTHOR: SYMBOL;6+CROSS: PUNCTUATION;6+LETTER: AESC C CALC CEALC CEN CWEORTH D DOTTED-L DOTTED-N
DOTTED-P E EAR ENG ETH G GAR GER ICELANDIC-YR ING INGWAZ IOR K KAUNA LONG-BRANCH-YR O OE ON OO
OPEN-P Q SH SHORT-TWIG-YR STAN V W X Y YR Z;12+ AC: A;14+LGIZ: EOLHX;14+NSUZ: A;13+BERKANAN BEORC
BJARKAN: B;13+DAGAZ DAEG: D;13+EHWAZ EH: E;13+FEHU FEOH FE: F;14+RANKS CASKET: AC AESC EH IS OS;
13+GEBO GYFU: G;13+HAEGL: H;15+GLAZ: H;13+ISAZ IS ISS: I;14+WAZ: EOH;13+JERAN: J;13+KAUN: K;
13+LAUKAZ LAGU LOGR: L;14+ONG-BRANCH-AR: AE;25+HAGALL: H;25+MADR: M;25+OSS: O;13+MANNAZ MAN: M;
13+NAUDIZ NYD NAUD: N;13+OS: O;14+THALAN ETHEL: O;13+PERTHO PEORTH: P;13+RAIDO RAD REID: R;
13+SHORT-TWIG-AR: A;24+BJARKAN: B;24+HAGALL: H;24+MADR: M;24+NAUD: N;24+OSS: O;24+SOL: S;24+TYR: T;
14+IGEL LONG-BRANCH-SOL: S;14+OWILO: S;13+THURISAZ THURS: THORN;14+IWAZ TIR TYR: T;13+URUZ UR: U;
13+WUNJO WYNN: W;6+MULTIPLE: PUNCTUATION;6+SINGLE: PUNCTUATION;6+TVIMADUR: SYMBOL;3+NING SHIRT WITH:
SASH;2+PEE: SIGN;2+SSIAN ASTROLOGICAL SYMBOL: BINOVILE NOVILE QUINTILE SENTAGON TREDECILE VIGINTILE;
0+S IN: TRIANGLE;1+AFETY: PIN VEST;2+KE BOTTLE AND: CUP;2+LT: SHAKER;3+UTING: FACE;2+MARITAN
ABBREVIATION: MARK;10+LETTER: ALAF BAA BIT DALAT FI GAMAN IN IT IY KAAF LABAT MIM NUN QUF RISH SHAN
SINGAAT TAAF TIT TSAADIY YUT ZEN;10+MARK: DAGESH IN IN-ALAF NEQUDAA OCCLUSION;14+ EPENTHETIC: YUT;
11+ODIFIER LETTER: I;25+ EPENTHETIC: YUT;26+SHORT: A;10+PUNCTUATION: AFSAAQ ANGED ANNAAU ARKAANU
ATMAAU BAU NEQUDAA QITSA SHIYYAALAA TURU ZAEF ZIQAA;21+ MELODIC: QITSA;22+SOF: MASHFAAT;10+VOWEL
SIGN: A AA E I O SUKUN U;20+ LONG: A AA E I U;21+OVERLONG: A AA;21+SHORT: A;2+NS-SERIF HEAVY DOUBLE
COMMA QUOTATION MARK: ORNAMENT;24+TURNED COMMA QUOTATION MARK: ORNAMENT;17+LOW DOUBLE COMMA
QUOTATION MARK: ORNAMENT;11+INTERROBANG: ORNAMENT;2+TELLITE: ANTENNA;2+URASHTRA: DANDA;10+ CONSONANT
SIGN: HAARU;11+DIGIT: EIGHT FIVE FOUR NINE ONE SEVEN SIX THREE TWO ZERO;12+OUBLE: DANDA;11+LETTER: A
AA AI AU BA BHA CA CHA DA DDA DDHA DHA E EE GA GHA HA I II JA JHA KA KHA LA LLA MA NA NGA NNA NYA O
OO PA PHA RA SA SHA SSA TA THA TTA TTHA U UU VA YA;17+ VOCALIC: L LL R RR;11+SIGN: ANUSVARA
CANDRABINDU VIRAMA VISARGA;11+VOWEL SIGN: AA AI AU E EE I II O OO U UU;21+ VOCALIC: L LL R RR;
1+CHOOL: SATCHEL;2+RIPT CAPITAL: B E F H I L M P R;7+LIGATURE ET: ORNAMENT;7+SMALL: E G L O;1+ECOND
PLACE: MEDAL;3+TION: SIGN;2+E-NO-EVIL: MONKEY;2+GMENTED DIGIT: EIGHT FIVE FOUR NINE ONE SEVEN SIX
THREE TWO ZERO;2+MIDIRECT PRODUCT WITH BOTTOM: CLOSED;2+PARATED: SYMBOL;2+RIOUS FACE WITH SYMBOLS
COVERING: MOUTH;3+VICE: MARK;2+SAME: DOT;2+T: MINUS;3+ TRANSMIT: STATE;2+WING: NEEDLE;1+HADOWED
WHITE: CIRCLE STAR;14+ LATIN: CROSS;3+LLOW PAN OF: FOOD;3+RADA: DANDA EKAM HEADSTROKE OM SEPARATOR;
7+ ABBREVIATION: SIGN;8+CONTINUATION: SIGN;8+DIGIT: EIGHT FIVE FOUR NINE ONE SEVEN SIX THREE TWO
ZERO;9+OUBLE: DANDA;8+EXTRA SHORT VOWEL: MARK;8+LETTER: A AA AI AU BA BHA CA CHA DA DDA DDHA DHA E
GA GHA HA I II JA JHA KA KHA LA LLA MA NA NGA NNA NYA O PA PHA RA SA SHA SSA TA THA TTA TTHA U UU VA
YA;14+ VOCALIC: L LL R RR;8+SANDHI: MARK;9+ECTION: MARK-1 MARK-2;9+IGN: ANUSVARA AVAGRAHA
CANDRABINDU JIHVAMULIYA NUKTA SIDDHAM UPADHMANIYA VIRAMA VISARGA;12+ INVERTED: CANDRABINDU;9+UTRA:
MARK;8+VOWEL MODIFIER: MARK;14+SIGN: AA AI AU E I II O U UU;18+ PRISHTHAMATRA: E;19+VOCALIC: L LL R
RR;3+VED: ICE;4+IAN LETTER: ADO AGE AH AIR ARE ARRAY ASH AWE BIB CHURCH DEAD EAR EAT EGG ERR FEE GAG
HA-HA HUNG IAN ICE IF JUDGE KICK LOLL MEASURE MIME NUN OAK OIL ON OOZE OR OUT PEEP ROAR SO SURE THEY
THIGH TOT UP VOW WOE WOOL YEA YEW ZOO;2+IFT: IN OUT;3+NTO: SHRINE;2+OCKED FACE WITH EXPLODING: HEAD;
3+OTING: STAR;3+PPING: BAGS TROLLEY;3+RT BACKSLANTED SOUTH: ARROW;7+ENT ARROW POINTING DOWNWARDS
THEN NORTH: EAST;6+DOWN: TACK;10+ TACK WITH: OVERBAR;6+LEFT: TACK;6+RIGHTWARDS ARROW ABOVE
LEFTWARDS: ARROW;6+SLANTED NORTH: ARROW;6+UP: TACK;8+ TACK ABOVE SHORT DOWN: TACK;14+WITH: UNDERBAR;
5+HAND FORMAT CONTINUING: OVERLAP;17+DOWN: STEP;17+LETTER: OVERLAP;17+UP: STEP;3+ULDERED OPEN: BOX;
2+UFFLE: PRODUCT;1+IDDHAM: DANDA;7+ DOUBLE: DANDA;8+END OF TEXT: MARK;8+LETTER: A AA AI AU BA BHA CA
CHA DA DDA DDHA DHA E GA GHA HA I II JA JHA KA KHA LA MA NA NGA NNA NYA O PA PHA RA SA SHA SSA TA
THA TTA TTHA U UU VA YA;14+ ALTERNATE: U;15+THREE-CIRCLE ALTERNATE: I;16+WO-CIRCLE ALTERNATE: I II;
15+VOCALIC: L LL R RR;8+REPETITION: MARK-1~3;8+SECTION MARK DOUBLE: RING;27+ RING WITH: RAYS;21+WITH
CIRCLES AND: RAYS;37+ FOUR: ENCLOSURES;38+TWO: ENCLOSURES;26+DOUBLE: CRESCENTS;26+QUADRUPLE:
CRESCENTS;26+RAYS AND DOTTED: CRESCENTS;41+ DOUBLE: CRESCENTS;42+TRIPLE: CRESCENTS;26+SEPTUPLE:
CRESCENTS;26+TRIDENT AND DOTTED: CRESCENTS;38+U-SHAPED: ORNAMENTS;29+PLE: CRESCENTS;10+PARATOR: BAR
DOT;9+IGN: ANUSVARA CANDRABINDU NUKTA SIDDHAM VIRAMA VISARGA;8+VOWEL SIGN: AA AI AU E I II O U UU;
18+ ALTERNATE: U UU;19+VOCALIC: R RR;3+EWAYS BLACK DOWN POINTING: INDEX;15+LEFT POINTING: INDEX;
15+RIGHT POINTING: INDEX;15+UP POINTING: INDEX;9+WHITE DOWN POINTING: INDEX;15+LEFT POINTING: INDEX;
15+RIGHT POINTING: INDEX;15+UP POINTING: INDEX;2+GN OF THE: HORNS;4+WRITING: COLON COMMA EARS
EXCITEMENT FINGER HAIR HAND-ANGLE HAND-CIRCLE HAND-CLAW HAND-CUP HAND-CURLICUE HAND-FIST HAND-FLAT
HAND-HINGE HAND-HOOK HAND-OVAL HEAD NECK PARENTHESIS SEMICOLON TEETH;11+ AIR BLOW SMALL: ROTATIONS;
20+ING: OUT;16+SUCK SMALL: ROTATIONS;20+ING: IN;12+BREATH: EXHALE INHALE;14+USH: BETWEEN MULTIPLE
SINGLE;12+CHEEKS: NEUTRAL PUFFED SUCKED;12+DREAMY EYEBROWS DOWN: NEUTRAL;28+NEUTRAL: DOWN UP;28+UP:
NEUTRAL;13+YNAMIC: FAST GRADUAL RELAXED SIMULTANEOUS SLOW TENSE;19+ ARROWHEAD: LARGE SMALL;20+EVERY
OTHER: TIME;20+SIMULTANEOUS: ALTERNATING;12+EYE: WINK;15+ BLINK: MULTIPLE SINGLE;15+BROWS STRAIGHT:
DOWN NEUTRAL UP;15+GAZE-FLOORPLANE: CURVED STRAIGHT;30+ STRAIGHT: ALTERNATING DOUBLE;20+WALLPLANE:
CIRCLING CURVED STRAIGHT;29+ STRAIGHT: ALTERNATING DOUBLE;15+LASHES: DOWN FLUTTERING UP;15+S: CLOSED
OPEN SQUEEZED;16+ HALF: CLOSED OPEN;17+WIDE: OPEN;21+NING: MOVEMENT;12+FACE DIRECTION POSITION NOSE
FORWARD: TILTING;41+UP OR: DOWN;46+ DOWN: TILTING;13+ILL: MODIFIER-2~6;13+LICK: SEQUENTIAL;17+
LARGE: MULTIPLE SINGLE;18+SMALL: MULTIPLE SINGLE;14+OORPLANE SHOULDER HIP: MOVE;13+OREHEAD: CONTACT
NEUTRAL WRINKLED;13+ULL: STOP;12+GRASP: BETWEEN MULTIPLE SINGLE;12+HAND-ANGLE: INDEX;22+ INDEX:
THUMB;28+ MIDDLE: LITTLE RING;29+RING: LITTLE;33+ LITTLE: OUT;29+THUMB: IN OUT;23+LITTLE: INDEX UP;
29+ INDEX THUMB INDEX: THUMB;47+ THUMB: OUT;23+MIDDLE RING: LITTLE;34+ LITTLE: IN OUT;23+RING:
LITTLE;27+ DOWN MIDDLE THUMB INDEX: CROSS;17+CIRCLE: INDEX;23+ INDEX: BENT HINGE MIDDLE;29+ MIDDLE:
CROSSED LITTLE RING THUMB;36+ CROSS: LITTLE;30+RING: LITTLE;24+LITTLE: INDEX UP;24+MIDDLE: UP;30+
RING: LITTLE;35+ LITTLE: BENT;24+RING: LITTLE;18+LAW FOUR FINGERS: CONJOINED;22+INDEX THUMB CURVE
THUMB: INSIDE;22+MIDDLE RING LITTLE: CONJOINED;40+ CONJOINED: SIDE;22+NO: THUMB;22+THUMB: FORWARD
SIDE;18+UP: INDEX OPEN;20+ FIVE FINGERS: SPREAD;33+ SPREAD: OPEN;21+INDEX: THUMB;26+ RING: LITTLE;
27+THUMB: OPEN;21+MIDDLE RING: LITTLE;21+NO: THUMB;21+OPEN NO: THUMB;26+THUMB: FORWARD SIDE;
21+THUMB: FORWARD SIDE;19+RLICUE: OPEN;25+ INDEX RING LITTLE: ON;26+MIDDLE RING LITTLE: ON;17+FIST:
HEEL INDEX THUMB;21+ FOUR FINGERS CONJOINED: BENT;22+INDEX: BENT CUPPED HINGED MIDDLE;27+ BENT OVER:
MIDDLE;28+HINGED: LOW;34+ MIDDLE: UP;41+ UP THUMB: SIDE;28+MIDDLE: BENT CONJOINED CROSSED HINGED
LITTLE RING THUMB;34+ BENT THUMB: STRAIGHT;35+CONJOINED: CUPPED HINGED;44+ CUPPED THUMB: FORWARD;
45+HINGED THUMB: SIDE;45+INDEX: BENT;45+MIDDLE: BENT;45+THUMB: FORWARD SIDE;50+ SIDE: BENT
CONJOINED;36+ROSS: LITTLE;40+ED THUMB: SIDE;35+HINGED SPREAD THUMB: SIDE;35+RAISED: KNUCKLES;36+ING:
BENT CONJOINED;35+STRAIGHT THUMB: BENT;35+THUMB: ANGLED BENT CIRCLED CUPPED HINGED HOOKED;40+
ANGLED: OUT;41+CONJOINED: HINGED;35+UP SPREAD THUMB: FORWARD;28+RAISED: KNUCKLE;29+ING: LITTLE;
28+THUMB: CIRCLE CURLICUE HOOK SIDE;33+ ANGLED IN MIDDLE: UP;41+OUT MIDDLE: UP;34+CIRCLED MIDDLE:
UP;35+UPPED MIDDLE: UP;36+RVE THUMB: INSIDE UNDER;34+FORWARD INDEX: BENT STRAIGHT;34+HOOKED MIDDLE:
HINGED UP;34+SIDE BOTH: BENT;39+INDEX: BENT HINGE;39+THUMB: BENT CONJOINED DIAGONAL;28+UP MIDDLE:
HINGED;37+ HINGED THUMB: CONJOINED SIDE;22+LITTLE: BENT DOWN INDEX THUMB UP;28+ DOWN OTHERS:
CIRCLED;34+RIPPLE: CURVED STRAIGHT;29+INDEX: THUMB;29+RAISED: KNUCKLE;29+TOUCHES: THUMB;22+MIDDLE:
DOWN LITTLE UP;28+ BENT OVER: INDEX;29+RAISED: KNUCKLE;30+ING: LITTLE;29+THUMB: LITTLE;34+ ANGLED
INDEX: UP;42+OUT INDEX: CROSSED UP;35+CIRCLED INDEX: HINGED UP;36+UPPED INDEX: UP;35+HOOKED INDEX:
UP;29+UP THUMB: SIDE;22+RING: DOWN INDEX LITTLE MIDDLE THUMB UP;26+ MIDDLE: CONJOINED;33+ RAISED:
KNUCKLES;27+RAISED: KNUCKLE;22+THUMB: FORWARD HEEL;27+ BETWEEN INDEX: MIDDLE;41+ MIDDLE: STRAIGHT;
36+MIDDLE: RING;36+RING: LITTLE;28+OVER FOUR RAISED: KNUCKLES;33+TWO: FINGERS;28+SIDE: BENT
CONJOINED DIAGONAL;28+UNDER FOUR: FINGERS;34+INDEX: BENT;34+LITTLE: UP;34+THREE: FINGERS;35+WO:
FINGERS;18+LAT: HEEL;21+ BETWEEN PALM: FACINGS;22+FIVE FINGERS: SPREAD;34+ SPREAD: BENT HINGED;41+
FOUR: BENT;42+HINGED NO: THUMB;49+THUMB: SIDE;42+THUMB: FORWARD;23+OUR: FINGERS;26+ FINGERS: BENT
CONJOINED HINGED;34+ CONJOINED: SPLIT;22+HEEL FIVE FINGERS: SPREAD;39+ SPREAD: BENT;46+ FOUR: BENT;
27+THUMB: SIDE;22+SPLIT: CENTRE LITTLE;27+ CENTRE THUMB: SIDE;40+ SIDE: BENT;28+INDEX THUMB: SIDE;
22+THUMB: BENT FORWARD SIDE;17+HINGE: INDEX LITTLE MIDDLE OPEN RING SMALL;22+ FIVE FINGERS SPREAD:
OPEN;24+OUR FINGERS: CONJOINED;23+INDEX: HINGED THUMB;28+ MIDDLE: LITTLE RING;35+ RING: CONJOINED;
29+RING: LITTLE;29+THUMB: LARGE OPEN SIDE SMALL;23+LITTLE: INDEX THUMB;29+ INDEX: THUMB;23+MIDDLE
RING: LITTLE;23+NO: THUMB;23+OPEN NO: THUMB;28+THUMB: FORWARD SIDE;23+RING DOWN INDEX THUMB HOOK:
MIDDLE;23+THUMB: SIDE;28+ BETWEEN MIDDLE: RING;29+SIDE TOUCHING: INDEX;18+OOK: CURLICUE;21+ INDEX
RING LITTLE: IN OUT UNDER;22+MIDDLE: THUMB;28+ RING LITTLE: CONJOINED;40+ CONJOINED: IN OUT;22+RING:
THUMB;17+OVAL: INDEX;21+ FIVE FINGERS: SPREAD;22+LITTLE: UP;22+NO: THUMB;22+RING: LITTLE;22+THUMB:
FORWARD SIDE;13+EAD: RIM;16+ MOVEMENT: CIRCLE;25+-FLOORPLANE: CURVE STRAIGHT;26+WALLPLANE: CURVE
STRAIGHT TILT;12+LIMB: COMBINATION LENGTH-1~7;14+P LOWER OVER: UPPER;16+UPPER OVER: LOWER;15+S
PRESSED: TOGETHER;13+OCATION: DEPTH HEIGHT TORSO WIDTH;20+ HEAD: NECK;21+LIMBS: DIGITS;
20+-FLOORPLANE: SPACE;21+WALLPLANE: SPACE;12+MOUTH: CORNERS FROWN KISS SMILE TENSE;17+ CLOSED:
CONTACT FORWARD NEUTRAL;18+FROWN: OPEN WRINKLED;18+KISS: FORWARD WRINKLED;18+OPEN: CIRCLE FORWARD
OVAL RECTANGLE WRINKLED;22+ OVAL: WRINKLED YAWN;23+RECTANGLE: WRINKLED YAWN;18+SMILE: OPEN WRINKLED;
18+TENSE: FORWARD SUCKED;18+WRINKLES: DOUBLE SINGLE;14+VEMENT-DIAGONAL AWAY: LARGE LARGEST MEDIUM
SMALL;30+BETWEEN AWAY: LARGE LARGEST MEDIUM SMALL;38+TOWARDS: LARGE LARGEST MEDIUM SMALL;30+TOWARDS:
LARGE LARGEST MEDIUM SMALL;21+FLOORPLANE: BEND CHECK CROSS JAW;31+ ARM CIRCLE HITTING WALL LARGE:
DOUBLE SINGLE;56+MEDIUM: DOUBLE SINGLE;56+SMALL: DOUBLE SINGLE;32+BOX: LARGE MEDIUM SMALL;32+CORNER:
LARGE MEDIUM SMALL;33+URVE: COMBINED LARGE LARGEST MEDIUM SMALL;37+ HITTING CEILING: LARGE SMALL;
46+FLOOR: LARGE SMALL;32+DOUBLE: ALTERNATING STRAIGHT;38+ ALTERNATING WRIST: FLEX;39+WRIST: FLEX;
32+FINGER: CONTACT;38+ CIRCLES HITTING WALL: DOUBLE SINGLE;32+HUMP: SMALL;36+ HITTING CEILING LARGE:
DOUBLE TRIPLE;53+SMALL: DOUBLE TRIPLE;45+FLOOR LARGE: DOUBLE;51+SMALL: DOUBLE;51+TRIPLE LARGE:
TRIPLE;58+SMALL: TRIPLE;32+LOOP: SMALL;36+ HITTING CEILING LARGE: DOUBLE SINGLE;53+SMALL: DOUBLE
SINGLE;45+FLOOR LARGE: DOUBLE SINGLE;51+SMALL: DOUBLE SINGLE;32+PEAKS: LARGE MEDIUM SMALL;
32+SHAKING: PARALLEL;33+INGLE STRAIGHT: LARGE LARGEST MEDIUM SMALL;39+WRIST: FLEX;32+TRIPLE
ALTERNATING: MOVEMENT;50+ WRIST: FLEX;39+STRAIGHT: MOVEMENT;39+WRIST: FLEX;32+WAVE: LARGE SMALL
SNAKE;36+ HITTING CEILING: LARGE SMALL;45+FLOOR: LARGE SMALL;33+RIST CIRCLE HITTING WALL: DOUBLE
SINGLE;32+ZIGZAG: LARGE MEDIUM SMALL;21+HINGE DOWN: SEQUENTIAL;27+SIDE TO SIDE: SCISSORS;27+UP:
SEQUENTIAL;29+ DOWN: LARGE SMALL;34+ ALTERNATING: LARGE SMALL;21+WALLPLANE: CROSS JAW SHAKING;30+
ARM CIRCLE MEDIUM: DOUBLE SINGLE;42+SMALL: DOUBLE SINGLE;31+BEND: LARGE MEDIUM SMALL;32+OX: LARGE
MEDIUM SMALL;31+CHECK: LARGE MEDIUM SMALL;32+ORNER: LARGE MEDIUM ROTATION SMALL;32+URVE HALF-CIRCLE:
LARGE LARGEST MEDIUM SMALL;38+ITTING: CHEST;44+ FRONT: WALL;37+QUARTER: LARGE LARGEST MEDIUM SMALL;
37+THEN: STRAIGHT;39+REE-QUARTER CIRCLE: MEDIUM SMALL;36+D CROSS: MEDIUM SMALL;31+DOUBLE:
ALTERNATING STRAIGHT;37+ ALTERNATING WRIST: FLEX;38+WRIST: FLEX;31+FINGER: CONTACT;37+ CIRCLES:
DOUBLE SINGLE;31+HUMP: LARGE MEDIUM SMALL;35+ HITTING: CHEST;43+ FRONT: WALL;31+LOOP: LARGE MEDIUM
SMALL;35+ HITTING: CHEST;43+ FRONT: WALL;36+SMALL: DOUBLE;31+PEAKS: LARGE MEDIUM SMALL;31+SINGLE
STRAIGHT: LARGE LARGEST MEDIUM SMALL;38+WRIST: FLEX;31+TRIPLE: ALTERNATING;37+ ALTERNATING WRIST:
FLEX;38+STRAIGHT: MOVEMENT;38+WRIST: FLEX;31+WAVE CURVE DOUBLE: LARGE MEDIUM SMALL;42+TRIPLE: LARGE
MEDIUM SMALL;36+DIAGONAL PATH: LARGE MEDIUM SMALL;36+HITTING: CHEST;43+ FRONT: WALL;32+RIST CIRCLE
FRONT: DOUBLE SINGLE;31+ZIGZAG: LARGE MEDIUM SMALL;12+NOSE: CONTACT NEUTRAL WIGGLES WRINKLES;
12+ROTATION: MODIFIER-10~16 MODIFIER-2~9;20+-FLOORPLANE: ALTERNATING DOUBLE SINGLE;31+ ALTERNATING
HITTING: CEILING FLOOR;32+DOUBLE HITTING: CEILING FLOOR;32+SINGLE HITTING: CEILING FLOOR;
21+WALLPLANE: ALTERNATE DOUBLE SINGLE;30+ ALTERNATING HITTING: CHEST;50+ FRONT: WALL;31+DOUBLE
HITTING: CHEST;45+ FRONT: WALL;31+SINGLE HITTING: CHEST;45+ FRONT: WALL;13+UB: BETWEEN MULTIPLE
SINGLE;12+SHOULDER HIP: POSITIONS SPINE;21+TILTING FROM: WAIST;13+QUEEZE: SEQUENTIAL;19+ FLICK:
ALTERNATING;20+LARGE: MULTIPLE SINGLE;20+SMALL: MULTIPLE SINGLE;13+TRIKE: BETWEEN MULTIPLE SINGLE;
13+URFACE: BETWEEN SYMBOLS;12+TEETH: MOVEMENT;17+ BITE: LIPS;18+ON: LIPS TONGUE;20+ LIPS: MOVEMENT;
21+TONGUE: MOVEMENT;14+NSE CHEEKS: HIGH LOW MIDDLE;13+ONGUE CENTRE INSIDE: MOUTH;26+STICKING: OUT;
19+INSIDE MOUTH: RELAXED;19+LICKING: LIPS;19+MOVES AGAINST: CHEEK;19+STICKING OUT: FAR;19+TIP
BETWEEN: LIPS;23+TOUCHING INSIDE: MOUTH;14+RSO-FLOORPLANE: TWISTING;18+WALLPLANE CURVED: BEND;
28+STRAIGHT: STRETCH;14+UCH: BETWEEN MULTIPLE SINGLE;13+RAVEL-FLOORPLANE: SHAKING;29+
ROTATION-FLOORPLANE: ALTERNATING DOUBLE SINGLE;39+WALLPLANE: ALTERNATING DOUBLE SINGLE;19+WALLPLANE:
SHAKING;28+ ARM SPIRAL: DOUBLE SINGLE TRIPLE;29+ROTATION-FLOORPLANE: ALTERNATING DOUBLE SINGLE;
38+WALLPLANE: ALTERNATING DOUBLE SINGLE;12+UPPER BODY TILTING FROM HIP: JOINTS;12+WALLPLANE SHOULDER
HIP: MOVE;2+LHOUETTE OF: JAPAN;2+MILAR ABOVE GREATER-THAN ABOVE EQUALS: SIGN;14+LESS-THAN ABOVE
EQUALS: SIGN;8+MINUS: SIMILAR;8+OR: GREATER-THAN LESS-THAN;2+NE: WAVE;3+GLE CHARACTER: INTRODUCER;
7+GRAPHIC CHARACTER: INTRODUCER;7+HIGH-REVERSED-9 QUOTATION: MARK;7+LEFT-POINTING ANGLE QUOTATION:
MARK;8+OW-9 QUOTATION: MARK;7+RIGHT-POINTING ANGLE QUOTATION: MARK;7+SHIFT: THREE TWO;3+HALA ARCHAIC
DIGIT: EIGHT FIVE FOUR NINE ONE SEVEN SIX THREE TWO;16+NUMBER: EIGHTY FIFTY FORTY NINETY SEVENTY
SIXTY TEN THIRTY TWENTY;22+ ONE: HUNDRED THOUSAND;8+LETTER: AAYANNA AEEYANNA AEYANNA AIYANNA AUYANNA
AYANNA EEYANNA EYANNA FAYANNA HAYANNA IIYANNA ILUUYANNA ILUYANNA IRUUYANNA IRUYANNA IYANNA MAYANNA
OOYANNA OYANNA RAYANNA UUYANNA UYANNA VAYANNA YAYANNA;14+ ALPAPRAANA: BAYANNA CAYANNA DAYANNA
DDAYANNA GAYANNA JAYANNA KAYANNA PAYANNA TAYANNA TTAYANNA;16+MBA: BAYANNA;15+DANTAJA: LAYANNA
NAYANNA SAYANNA;15+KANTAJA: NAASIKYAYA;15+MAHAAPRAANA: BAYANNA CAYANNA DAYANNA DDAYANNA GAYANNA
JAYANNA KAYANNA PAYANNA TAYANNA TTAYANNA;16+UURDHAJA: LAYANNA NAYANNA SAYANNA;15+SANYAKA: DAYANNA
DDAYANNA GAYANNA JAYANNA;15+TAALUJA: NAASIKYAYA SAYANNA;22+ SANYOOGA: NAAKSIKYAYA;9+ITH DIGIT: EIGHT
FIVE FOUR NINE ONE SEVEN SIX THREE TWO ZERO;8+PUNCTUATION: KUNDDALIYA;8+SIGN: AL-LAKUNA ANUSVARAYA
CANDRABINDU VISARGAYA;8+VOWEL SIGN: AELA-PILLA GAETTA-PILLA GAYANUKITTA KOMBUVA;18+ DIGA: AEDA-PILLA
GAETTA-PILLA GAYANUKITTA IS-PILLA KOMBUVA PAA-PILLA;19+KETTI: AEDA-PILLA IS-PILLA PAA-PILLA;20+OMBU:
DEKA;24+VA HAA: AELA-PILLA GAYANUKITTA;30+ DIGA: AELA-PILLA;2+X PETALLED BLACK AND WHITE: FLORETTE;
5+OINTED BLACK: STAR;12+PINWHEEL: STAR;12+STAR WITH MIDDLE: DOT;3+-PER-EM: SPACE;3+TEEN POINTED:
ASTERISK;1+KI AND SKI: BOOT;2+ULL AND: CROSSBONES;1+LANTED EQUAL TO OR: GREATER-THAN LESS-THAN;19+
GREATER-THAN WITH DOT: INSIDE;20+LESS-THAN WITH DOT: INSIDE;8+NORTH ARROW WITH HOOKED: HEAD;
27+RIZONTAL: TAIL;3+VONIC: ASTERISK;2+EEPING: ACCOMMODATION FACE SYMBOL;5+Y: FACE;3+UTH OR: SPY;
2+ICE OF: PIZZA;3+GHTLY FROWNING: FACE;9+SMILING: FACE;2+OPING LARGE: AND OR;3+T: MACHINE;1+MALL:
AIRPLANE AMPERSAND ASTERISK COLON COMMA HYPHEN-MINUS SEMICOLON TILDE;5+ BLUE: DIAMOND;6+COMMERCIAL:
AT;8+NTAINS AS: MEMBER;15+WITH: OVERBAR;19+ VERTICAL BAR AT END OF HORIZONTAL: STROKE;6+DOLLAR:
SIGN;6+ELEMENT: OF;13+ OF WITH: OVERBAR;21+ VERTICAL BAR AT END OF HORIZONTAL: STROKE;7+M: DASH;
7+QUALS: SIGN;7+XCLAMATION: MARK;6+FULL: STOP;6+GREATER-THAN: SIGN;6+IDEOGRAPHIC: COMMA;6+LEFT:
PARENTHESIS;10+ CURLY: BRACKET;11+TORTOISE SHELL: BRACKET;8+SS-THAN: SIGN;6+NUMBER: SIGN;6+ORANGE:
DIAMOND;6+PERCENT: SIGN;7+LUS: SIGN;6+QUESTION: MARK;6+REVERSE: SOLIDUS;7+IGHT: PARENTHESIS;11+
CURLY: BRACKET;12+TORTOISE SHELL: BRACKET;7+OMAN NUMERAL: EIGHT ELEVEN FIFTY FIVE FOUR NINE ONE
SEVEN SIX TEN THREE TWELVE TWO;19+ FIVE: HUNDRED;20+ONE: HUNDRED THOUSAND;6+TWO DOTS OVER ONE DOT:
PUNCTUATION;6+VEE WITH: UNDERBAR;5+ER: THAN;7+ THAN OR EQUAL: TO;3+SH: PRODUCT;2+ILING CAT FACE WITH
HEART-SHAPED: EYES;22+OPEN: MOUTH;8+FACE WITH: HALO HORNS SUNGLASSES TEAR;17+ HEART-SHAPED: EYES;
18+OPEN: MOUTH;22+ MOUTH AND COLD: SWEAT;33+SMILING: EYES;33+TIGHTLY-CLOSED: EYES;18+SMILING: EYES;
25+ EYES AND HAND COVERING: MOUTH;35+THREE: HEARTS;3+RKING: FACE;2+OKING: SYMBOL;1+NEEZING: FACE;
2+OW CAPPED: MOUNTAIN;4+MAN WITHOUT: SNOW;1+OCCER: BALL;2+FT: HYPHEN;4+ ICE: CREAM;5+SHELL FLOPPY:
DISK;4+WARE-FUNCTION: SYMBOL;2+GDIAN COMBINING CURVE: ABOVE BELOW;18+DOT: ABOVE BELOW;18+HOOK: ABOVE
BELOW;18+LONG HOOK: BELOW;18+RESH: BELOW;18+STROKE: BELOW;18+TWO DOTS: ABOVE BELOW;8+INDEPENDENT:
SHIN;8+LETTER: ALEPH AYIN BETH FETH GIMEL HE HETH KAPH LAMEDH LESH MEM NUN PE RESH-AYIN SADHE SAMEKH
SHIN TAW WAW YODH ZAYIN;8+NUMBER: ONE TEN TWENTY;14+ ONE: HUNDRED;8+PUNCTUATION CIRCLE WITH: DOT;
20+HALF CIRCLE WITH: DOT;20+TWO CIRCLES WITH: DOTS;24+VERTICAL: BARS;32+ BARS WITH: DOTS;2+LID QUILT
SQUARE: ORNAMENT;18+ ORNAMENT IN BLACK: SQUARE;5+US WITH: OVERBAR;2+M: SIGN;2+ON WITH RIGHTWARDS
ARROW: ABOVE;2+RA SOMPENG DIGIT: EIGHT FIVE FOUR NINE ONE SEVEN SIX THREE TWO ZERO;13+LETTER: AH BAH
CAH DAH EEH EH GAH HAH IH JAH KAH LAH MAE MAH NAH NGAH NYAH OH PAH RAH SAH TAH UH VAH YAH;2+UND
RECORDING: COPYRIGHT;3+TH EAST: ARROW;10+ ARROW AND SOUTH WEST: ARROW;17+CROSSING NORTH EAST: ARROW;
17+TO: CORNER;17+WITH: HOOK;11+BLACK: ARROW;11+DOUBLE: ARROW;11+POINTING: BUD LEAF;19+ VINE: LEAF;
11+SANS-SERIF: ARROW;11+TRIANGLE-HEADED: ARROW;26+ ARROW TO: BAR;11+WHITE: ARROW;6+WEST: ARROW;10+
ARROW AND NORTH WEST: ARROW;17+WITH: HOOK;11+BLACK: ARROW;11+DOUBLE: ARROW;11+POINTING: BUD LEAF;19+
VINE: LEAF;11+SANS-SERIF: ARROW;11+TRIANGLE-HEADED: ARROW;26+ ARROW TO: BAR;11+WHITE: ARROW;2+YOMBO:
SUBJOINER;7+ CLUSTER-INITIAL LETTER: LA RA SA SHA;8+FINAL CONSONANT SIGN: -A B D G K L M N NG R S
SH;8+GEMINATION: MARK;8+HEAD MARK WITH MOON AND: SUN;31+ SUN AND: FLAME;39+ TRIPLE: FLAME;8+LETTER:
-A A BA BHA CA CHA DA DDA DDHA DHA DZA GA GHA HA JA JHA KA KHA KSSA LA MA NA NGA NNA NYA PA PHA RA
SA SHA SSA TA THA TSA TSHA TTA TTHA VA YA ZA ZHA;8+MARK: PLUTA SHAD TSHEG;12+ DOUBLE: SHAD;8+SIGN:
ANUSVARA JIHVAMULIYA UPADHMANIYA VISARGA;8+TERMINAL: MARK-1 MARK-2;8+VOWEL LENGTH: MARK;14+SIGN: AI
AU E I O OE U UE;18+ VOCALIC: L R;1+PARKLING: HEART;2+EAK-NO-EVIL: MONKEY;5+ER WITH CANCELLATION:
STROKE;13+ONE SOUND: WAVE;13+THREE SOUND: WAVES;5+ING HEAD IN: SILHOUETTE;3+ECH: BALLOON;3+SMILO:
SIGN;2+HERICAL: ANGLE;9+ ANGLE OPENING: LEFT UP;2+IDER: WEB;3+RAL: SHELL;6+ CALENDAR: PAD;7+NOTE:
PAD;2+LASHING SWEAT: SYMBOL;2+OOL OF: THREAD;3+RTS: MEDAL;3+UTING: WHALE;1+QUARE: AARU AM ANPEA
APAATO ARUHUA AU BAARERU BAR BEETA BIRU BORUTO BQ BUSSYERU CAL CAP CC CD CM CO CORPORATION CUP DA
DAASU DB DESI DJ DL DM DORU EEKAA ERG ESUKUUDO EV FM FOOT GAL GANMA GARON GB GHZ GIGA GINII GIRUDAA
GPA GURAMU GURAMUTON GY HA HAITU HEKUTAARU HERUTU HG HON HOON HOORU HP HPA HUARADDO HUIITO HURAN HZ
IN ININGU INTI IU KA KAIRI KARATTO KARORII KB KCAL KEESU KG KHZ KIRO KIROGURAMU KIROMEETORU
KIROWATTO KK KL KM KOOPO KORUNA KPA KT KUROONE KURUZEIRO KV KW KYURII LM LN LOG LOZENGE LX MA MAHHA
MAIKURO MAIRU MANSYON MARUKU MB MEETORU MEGA MEGATON MG MHZ MIKURON MIL MIRI MIRIBAARU ML MM MOL MPA
MS MV MW NA NANO NF NM NOTTO NS NV NW ONSU OOMU OV PA PAASENTO PAATU PC PEEZI PENIHI PENSU PESO PF
PH PIASUTORU PIKO PIKURU PM POINTO PONDO PPM PR PS PV PW RAD REMU RENTOGEN RIRA RITTORU ROOT RUPII
RUUBURU SAIKURU SANTIIMU SENTI SENTO SIRINGU SR SV TARGET THZ TON UON WATTO WB YAADO YAARU YUAN;6+ A
OVER: M;7+C OVER: KG;8+M: CUBED SQUARED;7+DM: CUBED SQUARED;7+ERA NAME: HEISEI MEIZI REIWA SYOUWA
TAISYOU;7+FOUR: CORNERS;7+HIRAGANA: HOKA;7+IMAGE: OF;12+ OF OR EQUAL: TO;19+NOT EQUAL: TO;7+K: OHM;
8+M: CAPITAL CUBED SQUARED;7+LEFT OPEN BOX: OPERATOR;7+M: CUBED OHM SQUARED;8+ OVER: S;13+ S:
SQUARED;8+B: SMALL;8+M: CUBED SQUARED;8+U: A F G L M S V W;8+V: MEGA;8+W: MEGA;7+OR:;9+IGINAL: OF;
15+ OF OR EQUAL: TO;22+NOT EQUAL: TO;7+PA: AMPS;8+OSITION: INDICATOR;7+RAD OVER: S;15+ S: SQUARED;
8+IGHT OPEN BOX: OPERATOR;7+V OVER: M;7+WITH BOTTOM HALF: BLACK;12+CONTOURED: OUTLINE;12+DIAGONAL
CROSSHATCH: FILL;12+HORIZONTAL: FILL;12+LEFT HALF: BLACK;13+OWER LEFT DIAGONAL HALF: BLACK;18+RIGHT
DIAGONAL HALF: BLACK;12+ORTHOGONAL CROSSHATCH: FILL;12+RIGHT HALF: BLACK;12+TOP HALF: BLACK;12+UPPER
LEFT DIAGONAL HALF: BLACK;23+TO LOWER RIGHT: FILL;18+RIGHT DIAGONAL HALF: BLACK;24+TO LOWER LEFT:
FILL;12+VERTICAL: FILL;6+D: ASTERISK CL COOL FREE HC HDR HI-RES HV ID KEY LOSSLESS MINUS MV NEW NG
OK PLUS PPV SALTIRE SD SHV SOS SQUARE SS TIMES UHD VOD VS WC;7+ CJK UNIFIED: IDEOGRAPH-4E00
IDEOGRAPH-4E09 IDEOGRAPH-4E2D IDEOGRAPH-4E8C IDEOGRAPH-4EA4 IDEOGRAPH-518D IDEOGRAPH-521D
IDEOGRAPH-524D IDEOGRAPH-5272 IDEOGRAPH-53CC IDEOGRAPH-53F3 IDEOGRAPH-5408 IDEOGRAPH-5439
IDEOGRAPH-55B6 IDEOGRAPH-58F0 IDEOGRAPH-591A IDEOGRAPH-5929 IDEOGRAPH-5B57 IDEOGRAPH-5DE6
IDEOGRAPH-5F8C IDEOGRAPH-624B IDEOGRAPH-6253 IDEOGRAPH-6295 IDEOGRAPH-6307 IDEOGRAPH-6355
IDEOGRAPH-6599 IDEOGRAPH-65B0 IDEOGRAPH-6620 IDEOGRAPH-6708 IDEOGRAPH-6709 IDEOGRAPH-6E80
IDEOGRAPH-6F14 IDEOGRAPH-7121 IDEOGRAPH-751F IDEOGRAPH-7533 IDEOGRAPH-7981 IDEOGRAPH-7A7A
IDEOGRAPH-7D42 IDEOGRAPH-89E3 IDEOGRAPH-8CA9 IDEOGRAPH-8D70 IDEOGRAPH-904A IDEOGRAPH-914D;8+DOT:
OPERATOR;8+EIGHT: K;8+FALLING DIAGONAL: SLASH;9+IVE POINT: ONE;9+OUR: K;12+ DOT: PUNCTUATION;
8+KATAKANA: DE KOKO SA;8+LATIN CAPITAL LETTER: A B C D E F G H I J K L M N O P Q R S T U V W X Y Z;
14+SMALL LETTER: D;9+OGICAL: AND OR;8+ONE HUNDRED TWENTY: P;8+RISING DIAGONAL: SLASH;8+SECOND:
SCREEN;10+VEN POINT: ONE;9+IXTY: P;9+MALL: CIRCLE;8+THREE: D;9+WENTY-TWO POINT: TWO;10+O: K;8+UP
WITH EXCLAMATION: MARK;4+T BLACK RIGHTWARDS: ARROW;1+TAFF OF: AESCULAPIUS HERMES;3+MPED: ENVELOPE;
3+NDING: PERSON;3+R: EQUALS OPERATOR;4+ AND: CRESCENT;5+OF: DAVID;5+WITH LEFT HALF: BLACK;10+RIGHT
HALF: BLACK;4+T OF: HEADING STRING TEXT;8+ GUARDED: AREA;9+PROTECTED: AREA;9+SELECTED: AREA;3+TUE
OF: LIBERTY;2+EAM: LOCOMOTIVE;5+ING: BOWL;3+NOGRAPHIC FULL: STOP;2+ICK: FIGURE;5+ FIGURE LEANING:
LEFT RIGHT;13+WITH: DRESS;17+ ARMS: RAISED;2+OCK: CHART;2+RAIGHT: RULER;3+ESS OUTLINED WHITE: STAR;
3+ICTLY EQUIVALENT: TO;4+NG: TERMINATOR;2+UDIO: MICROPHONE;3+FFED: FLATBREAD;1+UBSCRIPT: EIGHT FIVE
FOUR MINUS NINE ONE SEVEN SIX THREE TWO ZERO;9+ EQUALS: SIGN;10+LEFT: PARENTHESIS;10+PLUS: SIGN;
10+RIGHT: PARENTHESIS;4+ET: OF;6+ ABOVE: SUBSET SUPERSET;12+ RIGHTWARDS: ARROW;7+OF ABOVE ALMOST
EQUAL: TO;16+EQUALS: SIGN;16+NOT EQUAL: TO;16+TILDE: OPERATOR;10+OR EQUAL: TO;18+ TO WITH DOT:
ABOVE;10+WITH NOT EQUAL: TO;7+WITH: DOT;11+ MULTIPLICATION SIGN: BELOW;12+PLUS SIGN: BELOW;2+CCEEDS
ABOVE ALMOST EQUAL: TO;15+EQUALS: SIGN;15+NOT ALMOST EQUAL: TO;19+EQUAL: TO;15+SINGLE-LINE EQUALS:
SIGN;27+NOT EQUAL: TO;9+BUT NOT EQUIVALENT: TO;9+OR EQUAL: TO;15+IVALENT: TO;9+UNDER: RELATION;
2+MMATION: BOTTOM TOP;9+ WITH: INTEGRAL;2+N BEHIND: CLOUD;4+WITH: FACE;3+DANESE: AVAGRAHA;9+
CONSONANT SIGN: PAMINGKAL PANYAKRA PANYIKU;24+ PASANGAN: MA WA;10+DIGIT: EIGHT FIVE FOUR NINE ONE
SEVEN SIX THREE TWO ZERO;10+LETTER: A AE BA BHA CA DA E EU FA GA HA I JA KA KHA LA LEU MA NA NGA NYA
O PA QA RA REU SA SYA TA U VA WA XA YA ZA;16+ FINAL: K M;10+PUNCTUATION BINDU: CAKRA PANGLONG
PURNAMA SURYA;27+ BA: SATANGA;28+DA: SATANGA;28+KA: SATANGA;28+LEU: SATANGA;10+SIGN: PAMAAEH
PANGLAYAR PANGWISAD PANYECEK VIRAMA;10+VOWEL SIGN: PAMEPET PANAELAENG PANEULEUNG PANGHULU PANOLONG
PANYUKU;3+RISE OVER: MOUNTAINS;3+SET OVER: BUILDINGS;2+PERSCRIPT: EIGHT FIVE FOUR MINUS NINE ONE
SEVEN SIX THREE TWO ZERO;11+ EQUALS: SIGN;12+LATIN SMALL LETTER: I N;13+EFT: PARENTHESIS;12+PLUS:
SIGN;12+RIGHT: PARENTHESIS;6+ET: OF;8+ ABOVE: SUBSET SUPERSET;14+ LEFTWARDS: ARROW;9+BESIDE: SUBSET;
15+ AND JOINED BY DASH WITH: SUBSET;9+OF ABOVE ALMOST EQUAL: TO;18+EQUALS: SIGN;18+NOT EQUAL: TO;
18+TILDE: OPERATOR;12+OR EQUAL: TO;20+ TO WITH DOT: ABOVE;12+WITH NOT EQUAL: TO;9+PRECEDING:
SOLIDUS;9+WITH: DOT;13+ MULTIPLICATION SIGN: BELOW;14+PLUS SIGN: BELOW;2+RFACE: INTEGRAL;2+SPENSION:
RAILWAY;1+WASH AMPERSAND: ORNAMENT;2+UNG: DASH;1+YLOTI NAGRI LETTER: A BHO BO CHO CO DDHO DDO DHO DO
E GHO GO HO I JHO JO KHO KO LO MO NO O PHO PO RO RRO SO THO TO TTHO TTO U;13+POETRY: MARK-1~4;
13+SIGN: ANUSVARA DVISVARA HASANTA;17+ ALTERNATE: HASANTA;13+VOWEL SIGN: A E I OO U;2+MBOL FOR:
ACKNOWLEDGE BACKSPACE BELL CANCEL DELETE ENQUIRY ESCAPE NEWLINE NULL SPACE SUBSTITUTE;10+ CARRIAGE:
RETURN;11+DATA LINK: ESCAPE;12+ELETE FORM: TWO;13+VICE CONTROL: FOUR ONE THREE TWO;11+END OF: MEDIUM
TEXT TRANSMISSION;17+ TRANSMISSION: BLOCK;11+FILE: SEPARATOR;12+ORM: FEED;11+GROUP: SEPARATOR;
11+HORIZONTAL: TABULATION;11+LINE: FEED;11+MARKS: CHAPTER;11+NEGATIVE: ACKNOWLEDGE;11+RECORD:
SEPARATOR;11+SAMARITAN: SOURCE;12+HIFT: IN OUT;12+TART OF: HEADING TEXT;12+UBSTITUTE FORM: TWO;
12+YNCHRONOUS: IDLE;11+TYPE A: ELECTRONICS;11+UNIT: SEPARATOR;11+VERTICAL: TABULATION;2+NCHRONOUS:
IDLE;2+RIAC: BARREKH CONTRACTION MUSIC QUSHSHAYA RUKKAKHA RWAHA;6+ ABBREVIATION: MARK;7+COLON
SKEWED: LEFT RIGHT;7+DOTTED ZLAMA: ANGULAR HORIZONTAL;7+END OF: PARAGRAPH;8+SASA: ABOVE BELOW;
7+FEMININE: DOT;7+HARKLEAN: ASTERISCUS METOBELUS OBELUS;8+BASA: ABOVE BELOW;12+-ESASA: DOTTED;
8+ORIZONTAL: COLON;7+LETTER: ALAPH BETH DALATH E GAMAL HE HETH KAPH LAMADH MIM NUN PE QAPH RISH
SADHE SEMKATH SHIN TAW TETH WAW YUDH ZAIN;13+ DOTLESS DALATH: RISH;14+FINAL: SEMKATH;14+GAMAL:
GARSHUNI;14+MALAYALAM: BHA JA LLA LLLA NGA NNA NNNA NYA RA SSA TTA;14+PERSIAN: BHETH DHALATH GHAMAL;
14+REVERSED: PE;14+SOGDIAN: FE KHAPH ZHAIN;15+UPERSCRIPT: ALAPH;14+TETH: GARSHUNI;14+YUDH: HE;
7+OBLIQUE LINE: ABOVE BELOW;7+PTHAHA: ABOVE BELOW DOTTED;7+RBASA: ABOVE BELOW;7+SUBLINEAR: COLON;16+
COLON SKEWED: LEFT RIGHT;17+FULL: STOP;9+PRALINEAR: COLON;18+ COLON SKEWED: LEFT;19+FULL: STOP;
7+THREE DOTS: ABOVE BELOW;8+WO VERTICAL DOTS: ABOVE BELOW;7+ZQAPHA: ABOVE BELOW DOTTED;0+TABLE
TENNIS PADDLE AND: BALL;2+G: AMPERSAND APOSTROPHE ASTERISK COLON COMMA HYPHEN-MINUS SEMICOLON
SOLIDUS SPACE TILDE;3+ CIRCUMFLEX: ACCENT;5+OMMERCIAL: AT;4+DIGIT: EIGHT FIVE FOUR NINE ONE SEVEN
SIX THREE TWO ZERO;5+OLLAR: SIGN;4+EQUALS: SIGN;5+XCLAMATION: MARK;4+FULL: STOP;4+GRAVE: ACCENT;
6+EATER-THAN: SIGN;4+LATIN CAPITAL LETTER: A B C D E F G H I J K L M N O P Q R S T U V W X Y Z;
10+SMALL LETTER: A B C D E F G H I J K L M N O P Q R S T U V W X Y Z;5+EFT: PARENTHESIS;8+ CURLY:
BRACKET;9+SQUARE: BRACKET;6+SS-THAN: SIGN;5+OW: LINE;4+NUMBER: SIGN;4+PERCENT: SIGN;5+LUS: SIGN;
4+QUESTION: MARK;6+OTATION: MARK;4+REVERSE: SOLIDUS;5+IGHT: PARENTHESIS;9+ CURLY: BRACKET;10+SQUARE:
BRACKET;4+VERTICAL: LINE;3+ALOG LETTER: A BA DA GA HA I KA LA MA NA NGA PA RA SA TA U WA YA;14+
ARCHAIC: RA;8+SIGN: PAMUDPOD VIRAMA;8+VOWEL SIGN: I U;3+BANWA LETTER: A BA DA GA I KA LA MA NA NGA
PA SA TA U WA YA;9+VOWEL SIGN: I U;2+I LE LETTER: A AI AUE E EE EH FA HA I KA KHA LA MA NA NGA O OO
PA PHA QA SA TA THA TONE-2~6 TSA TSHA U UE VA XA YA;4+THAM COMBINING CRYPTOGRAMMIC: DOT;11+NSONANT
SIGN: BA MA SA;23+ FINAL: NGA;24+HIGH RATHA OR LOW: PA;24+LA TANG: LAI;25+OW: PA;24+MEDIAL: LA RA;
9+HORA DIGIT: EIGHT FIVE FOUR NINE ONE SEVEN SIX THREE TWO ZERO;9+LETTER: A BA DA EE I II LA LAE LLA
LUE MA NA NGA NYA OO RA RANA RATA RUE U UU WA;15+ GREAT: SA;16+HIGH: CA CHA FA HA KA KHA KXA PA PHA
RATHA SA SHA SSA TA THA YA;16+LOW: CA CHA FA HA KA KHA KXA PA PHA RATHA SA TA THA YA;9+SIGN: CAANG
DOKMAI HANG HOY KAAN KAANKUU KEOW SAKOT SATKAAN SATKAANKUU SAWAN TONE-1 TONE-2 WIANG WIANGWAAK;13+
KHUEN: TONE-3~5;19+-LUE: KARAN;14+MAI: KANG SAM YAMOK;17+ KANG: LAI;14+RA: HAAM;15+EVERSED ROTATED:
RANA;9+THAM DIGIT: EIGHT FIVE FOUR NINE ONE SEVEN SIX THREE TWO ZERO;9+VOWEL SIGN: A AA AE AI E I II
O OO OY U UE UU UUE;19+ MAI: SAT;20+OA: ABOVE BELOW;20+TALL: AA;21+HAM: AI;4+VIET LETTER HIGH: BO
CHO CO DO FO GO HO KHHO KHO KO LO MO NGO NO NYO O PHO PO RO SO THO TO VO YO;16+LOW: BO CHO CO DO FO
GO HO KHHO KHO KO LO MO NGO NO NYO O PHO PO RO SO THO TO VO YO;9+MAI: KANG KHIT;9+SYMBOL: KON NUENG
SAM;15+ HO: HOI;16+KOI: KOI;9+TONE MAI: EK NUENG SONG THO;9+VOWEL: AA AM AN AUE AY E I IA O U UA UE
UEA;2+KEOUT: BOX;3+RI ABBREVIATION: SIGN;6+DIGIT: EIGHT FIVE FOUR NINE ONE SEVEN SIX THREE TWO ZERO;
6+LETTER: A AA AI AU BA BHA CA CHA DA DDA DDHA DHA E GA GHA HA I II JA JHA KA KHA LA MA NA NGA NNA
NYA O PA PHA RA RRA SA SHA TA THA TTA TTHA U UU VA YA;12+ ARCHAIC: KHA;6+SIGN: ANUSVARA NUKTA VIRAMA
VISARGA;6+VOWEL SIGN: AA AI AU E I II O U UU;2+LLY MARK: FIVE ONE;2+MIL: OM;5+ AND ODD: SIGN;7+S
ABOVE: SIGN;7+U LENGTH: MARK;6+CREDIT: SIGN;7+URRENT: SIGN;6+DAY: SIGN;7+EBIT: SIGN;7+IGIT: EIGHT
FIVE FOUR NINE ONE SEVEN SIX THREE TWO ZERO;7+RY CULTIVATION: SIGN;6+FRACTION DOWNSCALING FACTOR:
KIIZH;15+ONE: EIGHTH EIGHTIETH FIFTH FORTIETH HALF-1 HALF-2 ONE-HUNDRED-AND-SIXTIETH QUARTER
SIXTEENTH-1 SIXTEENTH-2 SIXTY-FOURTH TENTH THIRTY-SECOND THREE-HUNDRED-AND-TWENTIETH TWENTIETH;
15+THREE: EIGHTIETHS QUARTERS SIXTEENTHS SIXTY-FOURTHS TWENTIETHS;6+IN POSSESSION: SIGN;6+LAND:
SIGN;7+ETTER: A AA AI AU CA E EE HA I II JA KA LA LLA LLLA MA NA NGA NNA NNNA NYA O OO PA RA RRA SA
SHA SSA TA TTA U UU VA YA;6+MONTH: SIGN;6+NUMBER: SIGN TEN;12+ ONE: HUNDRED THOUSAND;6+PUNCTUATION
END OF: TEXT;6+RUPEE: SIGN;6+SALT PAN: SIGN;7+IGN: AAZHAAKKU ANUSVARA CEVITU KAACU KURUNI KUZHI
MUKKURUNI MUTHALIYA MUUVUZHAKKU NEL PAARAM PANAM PATHAKKU PON UZHAKKU VAKAIYARAA VARAAKAN VELI
VIRAMA VISARGA;7+PENT: SIGN;7+TARTING FROM: SIGN;6+TOTAL: SIGN;7+RADITIONAL CREDIT: SIGN;18+NUMBER:
SIGN;6+VOWEL SIGN: AA AI AU E EE I II O OO U UU;6+WET CULTIVATION: SIGN;6+YEAR: SIGN;2+NABATA: TREE;
3+GSA DIGIT: EIGHT FIVE FOUR NINE ONE SEVEN SIX THREE TWO ZERO;7+LETTER: AC AQ AWC AWQ AWX AWZ AX AZ
BA CA CHA DA DHA EC EQ EX EZ FA GA GHA HA HTA HTTA IC IQ IX IZ KA KHA LA MA MC MQ MX MZ NA NGA NHA
NYA OC OQ OX OZ PA PHA RA SA SHA TA THA TSA UC UEC UEQ UEX UEZ UIC UIQ UIUC UIUQ UIUX UIUZ UIX UIZ
UQ UX UZ VC VQ VX VZ WA XA YA ZA;13+ FINAL: NG;14+LONG: UEX;14+SHORT: AWX UEZ;4+UT:
COMPONENT-001~768;6+ ITERATION: MARK;2+PE: CARTRIDGE DRIVE;1+EACUP WITHOUT: HANDLE;3+R-OFF:
CALENDAR;4+DROP-BARBED RIGHTWARDS: ARROW;9+SPOKED: ASTERISK;2+DDY: BEAR;2+LEPHONE: RECEIVER RECORDER
SIGN;9+ LOCATION: SIGN;10+ON TOP OF: MODEM;10+RECEIVER WITH: PAGE;3+UGU AI LENGTH: MARK;7+DIGIT:
EIGHT FIVE FOUR NINE ONE SEVEN SIX THREE TWO ZERO;7+FRACTION DIGIT ONE FOR EVEN POWERS OF: FOUR;
30+ODD POWERS OF: FOUR;22+THREE FOR EVEN POWERS OF: FOUR;32+ODD POWERS OF: FOUR;23+WO FOR EVEN
POWERS OF: FOUR;30+ODD POWERS OF: FOUR;22+ZERO FOR ODD POWERS OF: FOUR;7+LENGTH: MARK;9+TTER: A AA
AI AU BA BHA CA CHA DA DDA DDHA DHA DZA E EE GA GHA HA I II JA JHA KA KHA LA LLA LLLA MA NA NGA NNA
NYA O OO PA PHA RA RRA RRRA SA SHA SSA TA THA TSA TTA TTHA U UU VA YA;13+ NAKAARA: POLLU;14+VOCALIC:
L LL R RR;7+SIGN: ANUSVARA AVAGRAHA CANDRABINDU NUKTA SIDDHAM TUUMU VIRAMA VISARGA;11+ COMBINING
ANUSVARA: ABOVE;22+CANDRABINDU: ABOVE;7+VOWEL SIGN: AA AI AU E EE I II O OO U UU;17+ VOCALIC: L LL R
RR;2+NGE: SIGN;3+NIS RACQUET AND: BALL;2+ST: TUBE;2+TRAGRAM FOR: ACCUMULATION ADVANCE AGGRAVATION
ASCENT BARRIER CENTRE CHANGE CLOSENESS CLOSURE COMPLETION COMPLIANCE CONSTANCY CONTACT CONTENTION
CONTRARIETY DARKENING DECISIVENESS DEPARTURE DIFFICULTIES DIMINISHMENT DIMMING DIVERGENCE DOUBT
DUTIES EASE EMBELLISHMENT ENCOUNTERS ENDEAVOUR ENLARGEMENT ETERNITY EXHAUSTION FAILURE FLIGHT
FOLLOWING FOSTERING FULLNESS GATHERING GREATNESS GUARDEDNESS HARDNESS INCREASE INNER JOY KINSHIP
LABOURING LEGION MASSING MEASURE MIRED OPPOSITION PACKING PATTERN PENETRATION PURITY REACH RELEASE
RESIDENCE RESISTANCE RESPONSE RITUAL SEVERANCE SINKING STOPPAGE STOVE STRENGTH UNITY WAITING WATCH
YOUTHFULNESS;13+ BOLD: RESOLUTION;15+RANCHING: OUT;14+CLOSED: MOUTH;14+DEFECTIVENESS OR: DISTORTION;
14+FULL: CIRCLE;14+GATHERING: IN;15+OING TO: MEET;14+HOLDING: BACK;14+KEEPING: SMALL;14+LAW OR:
MODEL;14+ON THE: VERGE;14+VASTNESS OR: WASTING;1+HAANA: AABAAFILI ABAFILI EBEFILI EEBEEFILI
EYBEYFILI IBIFILI OABOAFILI OBOFILI OOBOOFILI SUKUN UBUFILI;6+ LETTER: AINU ALIFU BAA CHAVIYANI
DAADHU DAVIYANI DHAALU FAAFU GAAFU GHAINU GNAVIYANI HAA HHAA JAVIYANI KAAFU KHAA LAAMU LHAVIYANI
MEEMU NAA NOONU PAVIYANI QAAFU RAA SAADHU SEENU SHAVIYANI SHEENU TAVIYANI THAA THAALU TO TTAA VAAVU
WAAVU YAA ZAA ZAVIYANI ZO;3+I CHARACTER: ANGKHANKHU FONGMAN KHOMUT LAKKHANGYAO LU MAITAIKHU MAIYAMOK
NIKHAHIT PAIYANNOI PHINTHU RU THANTHAKHAT YAMAKKAN;14+ BO: BAIMAI;15+CHO: CHAN CHANG CHING CHOE;
15+DO: CHADA DEK;15+FO: FA FAN;15+HO: HIP NOKHUK;15+KHO: KHAI KHON KHUAT KHWAI RAKHANG;16+O: KAI;
15+LO: CHULA LING;15+MAI: CHATTAWA EK HAN-AKAT THO TRI;16+O: MA;15+NGO: NGU;16+O: NEN NU;15+O: ANG;
15+PHO: PHAN PHUNG SAMPHAO;16+O: PLA;15+RO: RUA;15+SARA: A AA AE AM E I II O U UE UEE UU;19+ AI:
MAIMALAI MAIMUAN;16+O: RUSI SALA SO SUA;15+THO: NANGMONTHO PHUTHAO THAHAN THAN THONG THUNG;16+O:
PATAK TAO;15+WO: WAEN;15+YO: YAK YING;6+URRENCY SYMBOL: BAHT;5+DIGIT: EIGHT FIVE FOUR NINE ONE SEVEN
SIX THREE TWO ZERO;2+ERE: EXISTS;5+ DOES NOT: EXIST;2+IN: SALTIRE SPACE;4+ GREEK: CROSS;4+KING:
FACE;3+RD PLACE: MEDAL;2+ONG: SANDAL;3+UGHT: BALLOON;2+REE BUTTON: MOUSE;6+CONSECUTIVE EQUALS:
SIGNS;6+DIMENSIONAL: ANGLE;7+OT: PUNCTUATION;6+LEFTWARDS: ARROWS;7+INES CONVERGING: LEFT RIGHT;
6+NETWORKED: COMPUTERS;6+POINTED BLACK: STAR;6+RAYS: ABOVE BELOW LEFT RIGHT;7+IGHTWARDS: ARROWS;
6+SPEECH: BUBBLES;5+-D BOTTOM-LIGHTED RIGHTWARDS: ARROWHEAD;8+LEFT-LIGHTED DOWNWARDS EQUILATERAL:
ARROWHEAD;8+RIGHT-LIGHTED UPWARDS EQUILATERAL: ARROWHEAD;8+TOP-LIGHTED LEFTWARDS EQUILATERAL:
ARROWHEAD;20+RIGHTWARDS: ARROWHEAD;30+ EQUILATERAL: ARROWHEAD;6+EM: DASH;6+PER-EM: SPACE;2+UMBS
DOWN: SIGN;7+UP: SIGN;3+NDER CLOUD AND: RAIN;1+IBETAN ASTROLOGICAL SIGN -KHYUD: PA;26+SDONG: TSHUGS;
27+GRA GCAN -CHAR: RTAGS;8+CANTILLATION SIGN CANG: TE-U;26+HEAVY: BEAT;26+LIGHT: BEAT;26+SBUB:
-CHAL;8+DIGIT: EIGHT FIVE FOUR NINE ONE SEVEN SIX THREE TWO ZERO;13+ HALF: EIGHT FIVE FOUR NINE ONE
SEVEN SIX THREE TWO ZERO;8+KU RU: KHA;13+ KHA BZHI MIG: CAN;8+LETTER: -A A BA BHA CA CHA DA DDA DDHA
DHA DZA DZHA GA GHA HA JA KA KHA KKA KSSA LA MA NA NGA NNA NYA PA PHA RA RRA SA SHA SSA TA THA TSA
TSHA TTA TTHA WA YA ZA ZHA;14+ FIXED-FORM: RA;9+OGOTYPE SIGN CHAD: RTAGS;22+LHAG: RTAGS;8+MARK:
HALANTA PALUTA SHAD;12+ ANG KHANG: GYAS GYON;13+BKA- SHOG GI MGO: RGYAN;23+YIG: MGO;14+SDUS: RTAGS;
15+KA- SHOG GI MGO: RGYAN;16+UR YIG: MGO;13+CARET -DZUD RTAGS BZHI MIG: CAN;31+ME LONG: CAN;19+YIG
MGO PHUR SHAD: MA;14+HE: MGO;14+LOSING BRDA RNYING YIG MGO SGAB: MA;21+YIG MGO SGAB: MA;13+DELIMITER
TSHEG: BSTAR;13+GTER: TSHEG;17+ YIG MGO -UM GTER TSHEG: MA;30+RNAM BCAD: MA;26+TRUNCATED: A;14+UG
RTAGS: GYAS GYON;13+INITIAL BRDA RNYING YIG MGO MDUN: MA;21+YIG MGO MDUN: MA;15+TERSYLLABIC: TSHEG;
13+LEADING MCHAN: RTAGS;13+MNYAM YIG GI MGO: RGYAN;13+NGAS BZUNG NYI: ZLA;24+SGOR: RTAGS;14+YIS:
SHAD TSHEG;17+ TSHEG: SHAD;13+RGYA GRAM: SHAD;14+IN CHEN SPUNGS: SHAD;13+SBRUL: SHAD;13+TRAILING
MCHAN: RTAGS;14+SA: -PHRU;15+HEG: SHAD;13+YIG MGO TSHEG SHAD: MA;8+SIGN GRU CAN: RGYINGS;17+MED:
RGYINGS;13+INVERTED MCHU: CAN;13+LCE TSA: CAN;15+I: RTAGS;13+MAR: TSHES;14+CHU: CAN;13+NYI ZLA NAA:
DA;13+RDEL DKAR: GCIG GNYIS GSUM;22+ RDEL: NAG;18+NAG: GCIG GNYIS GSUM;21+ RDEL: DKAR;14+JES SU NGA:
RO;14+NAM: BCAD;13+SNA: LDAN;13+YANG: RTAGS;15+R: TSHES;9+UBJOINED LETTER: -A A BA BHA CA CHA DA DDA
DDHA DHA DZA DZHA GA GHA HA JA KA KHA KSSA LA MA NA NGA NNA NYA PA PHA RA SA SHA SSA TA THA TSA TSHA
TTA TTHA WA YA ZA ZHA;24+ FIXED-FORM: RA WA YA;18+SIGN INVERTED MCHU: CAN;23+LCE TSA: CAN;23+MCHU:
CAN;9+YLLABLE: OM;10+MBOL DRIL: BU;15+NOR: BU;18+ BU BZHI: -KHYIL;22+GSUM: -KHYIL;22+NYIS: -KHYIL;
15+PADMA: GDAN;16+HUR: PA;15+RDO: RJE;18+ RJE RGYA: GRAM;8+VOWEL SIGN: AA E EE I II O OO U UU;18+
REVERSED: I II;19+VOCALIC: L LL R RR;2+E OVER: INFINITY;2+FINAGH CONSONANT: JOINER;9+LETTER: YA YAA
YAB YABH YACH YAD YADD YADDH YADH YAF YAG YAGH YAGHH YAH YAHH YAJ YAK YAKH YAKHH YAL YAM YAN YAP YAQ
YAR YARR YAS YASH YASS YAT YATH YATT YAV YAW YAY YAZ YAZH YAZZ YE YEY YI YO YU;15+ AHAGGAR: YAZH;
17+YER: YAGH;16+BERBER ACADEMY: YAH YAJ;16+TAWELLEMET: YAZ;17+UAREG: YAGH YAGN YAH YAK YAKH YANG YAQ
YAZH;9+MODIFIER LETTER LABIALIZATION: MARK;9+SEPARATOR: MARK;2+GER: FACE;3+HT TRIFOLIATE: SNOWFLAKE;
2+LDE: OPERATOR;5+ OPERATOR ABOVE LEFTWARDS: ARROW;21+RIGHTWARDS: ARROW;15+WITH DOT: ABOVE;
20+RISING: DOTS;6+WITH DOT: ABOVE BELOW;11+RING: ABOVE;2+MER: CLOCK;4+S WITH LEFT HALF: BLACK;
11+RIGHT HALF: BLACK;2+NY TWO DOTS OVER ONE DOT: PUNCTUATION;2+RED: FACE;3+HUTA: ANJI GVANG OM;7+
ABBREVIATION: SIGN;8+DIGIT: EIGHT FIVE FOUR NINE ONE SEVEN SIX THREE TWO ZERO;8+LETTER: A AA AI AU
BA BHA CA CHA DA DDA DDHA DHA E GA GHA HA I II JA JHA KA KHA LA MA NA NGA NNA NYA O PA PHA RA SA SHA
SSA TA THA TTA TTHA U UU VA YA;14+ VOCALIC: L LL R RR;8+SIGN: ANUSVARA AVAGRAHA CANDRABINDU NUKTA
VIRAMA VISARGA;8+VOWEL SIGN: AA AI AU E I II O U UU;18+ SHORT: E O;19+VOCALIC: L LL R RR;3+ONIAN
SIGN: ET;13+ CAPITAL: ET;1+OKYO: TOWER;2+P: HAT PARENTHESIS;3+ ARC ANTICLOCKWISE: ARROW;21+ ARROW
WITH: PLUS;8+CLOCKWISE ARROW WITH: MINUS;4+CURLY: BRACKET;4+HALF: INTEGRAL;8+ BLACK: CIRCLE;9+LEFT:
PARENTHESIS;9+RIGHT: PARENTHESIS;9+SECTION: SIGN;4+LEFT: CORNER CROP;8+ HALF: BRACKET;4+RIGHT:
CORNER CROP;9+ HALF: BRACKET;4+SQUARE: BRACKET;4+TORTOISE SHELL: BRACKET;4+WITH UPWARDS ARROW:
ABOVE;2+RTOISE SHELL BRACKETED CJK UNIFIED: IDEOGRAPH-4E09 IDEOGRAPH-4E8C IDEOGRAPH-52DD
IDEOGRAPH-5B89 IDEOGRAPH-6253 IDEOGRAPH-6557 IDEOGRAPH-672C IDEOGRAPH-70B9 IDEOGRAPH-76D7;25+LATIN
CAPITAL LETTER: S;2+TAL: RUNOUT;3+O LETTER: A AE BA CHA DA E EO GA HA I IU JA KA LA MA NA NGA O PA
RA SA TA U WA YA;11+ BREATHY: AE E EO I IU;5+SIGN RISING: TONE;1+RADE MARK: SIGN;3+M: CAR;
3+NSVERSAL: INTERSECTION;2+IANGLE WITH: UNDERBAR;13+ DOT: ABOVE;14+ROUNDED: CORNERS;14+SERIFS AT:
BOTTOM;8+-HEADED RIGHTWARDS: ARROW;6+ULAR: BULLET RULER;10+ FLAG ON: POST;3+DENT: EMBLEM;3+GRAM FOR:
EARTH FIRE HEAVEN LAKE MOUNTAIN THUNDER WATER WIND;3+PLE: DAGGER INTEGRAL PLUS PRIME TILDE;6+ COLON:
OPERATOR;7+HORIZONTAL BAR WITH DOUBLE VERTICAL: STROKE;27+TRIPLE VERTICAL: STROKE;7+NESTED:
GREATER-THAN LESS-THAN;7+SOLIDUS BINARY: RELATION;7+VERTICAL BAR: DELIMITER;19+ BINARY: RELATION;
20+RIGHT: TURNSTILE;20+WITH HORIZONTAL: STROKE;2+OPICAL: DRINK FISH;2+UE LIGHT MOON: ARTA;1+UGRIK:
SIGN;2+MBLER: GLASS;2+RKISH LIRA: SIGN;3+NED: AMPERSAND ANGLE COMMA DAGGER SEMICOLON;6+ BLACK:
PENTAGON;12+ SHOGI: PIECE;7+CAPITAL: F;7+DIGIT: THREE TWO;7+GREEK SMALL LETTER: IOTA;7+NORTH EAST
POINTING: LEAF;13+WEST POINTING: LEAF;9+T: SIGN;7+OK HAND: SIGN;7+SANS-SERIF CAPITAL: G L Y;8+MALL:
F;8+OUTH EAST POINTING: LEAF;13+WEST POINTING: LEAF;7+WHITE SHOGI: PIECE;1+WELVE POINTED BLACK:
STAR;2+ISTED RIGHTWARDS: ARROWS;2+O: HEARTS;3+ ASTERISKS ALIGNED: VERTICALLY;4+BUTTON: MOUSE;
4+CONSECUTIVE EQUALS: SIGNS;4+DOT: LEADER PUNCTUATION;7+S OVER ONE DOT: PUNCTUATION;4+INTERSECTING
LOGICAL: AND OR;4+JOINED: SQUARES;4+LOGICAL AND: OPERATOR;12+OR: OPERATOR;4+MEN HOLDING: HANDS;
4+SPEECH: BUBBLES;4+WOMEN HOLDING: HANDS;3+-EM: DASH;0+UGARITIC LETTER: AIN ALPA BETA DELTA DHAL
GAMLA GHAIN HO HOTA I KAF KHA LAMDA MEM NUN PU QOPA RASHA SADE SAMKA SHIN SSU TET THANNA TO U WO YOD
ZETA ZU;9+WORD: DIVIDER;1+MBRELLA ON: GROUND;9+WITH RAIN: DROPS;1+NAMUSED: FACE;2+CERTAINTY: SIGN;
2+DO: SYMBOL;2+ICORN: FACE;3+ON ABOVE: INTERSECTION;11+ BAR ABOVE: INTERSECTION;6+BESIDE AND JOINED
WITH: UNION;6+WITH: OVERBAR;10+ LOGICAL: OR;11+MINUS: SIGN;3+T: SEPARATOR;4+ED: SYMBOL;3+VERSAL
RECYCLING: SYMBOL;2+MARRIED PARTNERSHIP: SYMBOL;1+P: ARROWHEAD TACK;2+ ARROW THROUGH: CIRCLE;8+HEAD
BETWEEN TWO HORIZONTAL: BARS;13+IN A RECTANGLE: BOX;3+BARB LEFT DOWN BARB LEFT: HARPOON;23+RIGHT:
HARPOON;8+RIGHT DOWN BARB LEFT: HARPOON;24+RIGHT: HARPOON;3+DOWN: ARROW;7+ ARROW WITH: BASE;8+BLACK:
ARROW;8+DOUBLE: ARROW;8+SANS-SERIF: ARROW;8+TRIANGLE-HEADED: ARROW;8+WHITE: ARROW;3+FISH: TAIL;
3+RIGHT DIAGONAL: ELLIPSIS;3+TACK WITH CIRCLE: ABOVE;2+-POINTING: AIRPLANE;11+ MILITARY: AIRPLANE;
12+RED: TRIANGLE;12+SMALL: AIRPLANE;17+ RED: TRIANGLE;12+TRIANGLE WITH LEFT HALF: BLACK;26+RIGHT
HALF: BLACK;2+PER AND LEFT AND LOWER TRIANGULAR THREE QUARTERS: BLOCK;11+OWER ONE EIGHTH: BLOCK;
16+TRIANGULAR HALF: BLOCK;10+RIGHT AND LOWER TRIANGULAR THREE QUARTERS: BLOCK;6+BLADE: SCISSORS;
6+FIVE EIGHTHS: BLOCK;6+HALF: BLOCK CIRCLE;10+ BLOCK AND LOWER HALF INVERSE MEDIUM: SHADE;11+INVERSE
MEDIUM SHADE AND LOWER HALF: BLOCK;19+WHITE: CIRCLE;11+MEDIUM: SHADE;6+LEFT: TRIANGLE;10+ BLOCK
DIAGONAL LOWER CENTRE TO LOWER MIDDLE: RIGHT;42+UPPER: RIGHT;47+ MIDDLE: RIGHT;32+LEFT TO LOWER
MIDDLE: RIGHT;40+UPPER: CENTRE;45+ MIDDLE: RIGHT;32+MIDDLE LEFT TO UPPER: CENTRE RIGHT;52+ MIDDLE:
RIGHT;26+UPPER MIDDLE LEFT TO UPPER: CENTRE RIGHT;11+CORNER WITH: DOT;11+OR LOWER RIGHT CURLY
BRACKET: SECTION;11+QUADRANT CIRCULAR: ARC;11+TO LOWER RIGHT: FILL;12+RIANGULAR MEDIUM: SHADE;6+ONE
EIGHTH: BLOCK;10+QUARTER: BLOCK;6+RIGHT: PENCIL TRIANGLE;11+ BLOCK DIAGONAL LOWER MIDDLE LEFT TO
LOWER: CENTRE RIGHT;27+UPPER CENTRE TO LOWER: RIGHT;48+ MIDDLE: RIGHT;43+UPPER MIDDLE: RIGHT;33+LEFT
TO LOWER: CENTRE;46+ MIDDLE: RIGHT;41+UPPER MIDDLE: RIGHT;33+MIDDLE LEFT TO LOWER: CENTRE RIGHT;53+
MIDDLE: RIGHT;12+DROP-SHADOWED WHITE: SQUARE;12+OR LOWER LEFT CURLY BRACKET: SECTION;12+QUADRANT
CIRCULAR: ARC;12+SHADOWED WHITE: CIRCLE SQUARE;12+TO LOWER LEFT: FILL;13+RIANGULAR MEDIUM: SHADE;
6+SEVEN EIGHTHS: BLOCK;6+THREE EIGHTHS: BLOCK;12+QUARTERS: BLOCK;7+RIANGULAR ONE QUARTER: BLOCK;
2+SIDE-DOWN: FACE;2+WARDS: ANCORA ARROW ROCKET;7+ ARROW AND RIGHT ONE EIGHTH: BLOCK;14+FROM: BAR;
14+LEFTWARDS OF DOWNWARDS: ARROW;14+TO: BAR;14+WITH DOUBLE: STROKE;19+EQUILATERAL: ARROWHEAD;
19+HORIZONTAL: STROKE;19+LARGE TRIANGLE: ARROWHEAD;19+MEDIUM TRIANGLE: ARROWHEAD;19+NOTCHED: TAIL;
19+SMALL EQUILATERAL: ARROWHEAD;25+TRIANGLE: ARROWHEAD;19+TIP: LEFTWARDS RIGHTWARDS;8+BLACK: ARROW;
13+ CIRCLED WHITE: ARROW;8+COMPRESSED: ARROW;8+DASHED: ARROW;9+OUBLE: ARROW;8+FINGER-POST: ARROW;
8+HARPOON WITH BARB: LEFTWARDS RIGHTWARDS;25+ LEFT BESIDE DOWNWARDS HARPOON WITH BARB: RIGHT;
38+UPWARDS HARPOON WITH BARB: RIGHT;31+FROM: BAR;31+TO: BAR;26+RIGHT FROM: BAR;32+TO: BAR;9+EAVY:
ARROW;13+ COMPRESSED: ARROW;8+PAIRED: ARROWS;8+QUADRUPLE: ARROW;8+SANS-SERIF: ARROW;9+QUARED: ARROW;
8+TRIANGLE: ARROWHEAD;16+-HEADED: ARROW;23+ ARROW LEFTWARDS OF DOWNWARDS TRIANGLE-HEADED: ARROW;
30+TO: BAR;30+WITH BOLD: SHAFT;35+DOUBLE HORIZONTAL: STROKE;35+HEAVY: SHAFT;35+LONG TIP: LEFTWARDS
RIGHTWARDS;35+MEDIUM: SHAFT;35+NARROW: SHAFT;35+VERY HEAVY: SHAFT;24+DASHED: ARROW;24+PAIRED:
ARROWS;11+PLE: ARROW;9+WO HEADED: ARROW;11+-HEADED ARROW FROM SMALL: CIRCLE;25+WITH TRIANGLE:
ARROWHEADS;8+WHITE: ARROW;13+ ARROW FROM: BAR;24+ BAR WITH HORIZONTAL: BAR;20+ON: PEDESTAL;22+
PEDESTAL WITH HORIZONTAL: BAR;37+VERTICAL: BAR;20+WITHIN TRIANGLE: ARROWHEAD;14+DOUBLE: ARROW;20+
ARROW ON: PEDESTAL;0+VAI: COMMA;3+ DIGIT: EIGHT FIVE FOUR NINE ONE SEVEN SIX THREE TWO ZERO;4+FULL:
STOP;4+QUESTION: MARK;4+SYLLABLE: A AN BA BE BEE BHA BHE BHEE BHI BHO BHOO BHU BI BO BOO BU CA CE
CEE CI CO COO CU DA DE DEE DHA DHE DHEE DHHA DHHE DHHEE DHHI DHHO DHHOO DHHU DHI DHO DHOO DHU DI DO
DOO DU E EE EEN EN FA FE FEE FI FO FOO FU GA GBA GBE GBEE GBEN GBI GBO GBON GBOO GBU GE GEE GEN GI
GO GOO GU HA HAN HE HEE HEN HI HIN HO HON HOO HU HUN I IN JA JE JEE JI JO JOO JU KA KAN KE KEE KI KO
KOO KPA KPAN KPE KPEE KPEN KPI KPO KPOO KPU KU LA LE LEE LENGTHENER LI LO LOO LU MA MBA MBE MBEE MBI
MBO MBOO MBU ME MEE MGBA MGBE MGBEE MGBI MGBO MGBOO MGBU MI MO MOO MU NA NDA NDE NDEE NDI NDO NDOO
NDU NE NEE NG NGAN NGEN NGGA NGGE NGGEE NGGEN NGGI NGGO NGGOO NGGU NGON NI NJA NJE NJEE NJI NJO NJOO
NJU NO NOO NU NYA NYE NYEE NYI NYO NYOO NYU O ON OO OON PA PE PEE PI PO POO PU RA RE REE RI RO ROO
RU SA SE SEE SHA SHE SHEE SHI SHO SHOO SHU SI SO SOO SU TA TE TEE THA THE THEE THI THO THOO THU TI
TO TOO TU U UN VA VE VEE VI VO VOO VU WA WAN WE WEE WEEN WEN WI WIN WO WON WOO WOON WU WUN YA YE YEE
YI YO YOO YU ZA ZE ZEE ZHA ZHE ZHEE ZHI ZHO ZHOO ZHU ZI ZO ZOO ZU;12+ NDOLE: DO FA KA MA SOO;6+MBOL:
BANG DANG DO-O DOONG FAA FEENG JONG KEENG KUNG NII TAA TING TONG;2+RIATION: SELECTOR-100~256
SELECTOR-10~99 SELECTOR-1~9;1+ECTOR OR CROSS: PRODUCT;2+DIC SIGN: ARDHAVISARGA ATIKRAMA JIHVAMULIYA
NIHSHVASA TIRYAK UPADHMANIYA;10+ ANUSVARA: ANTARGOMUKHA BAHIRGOMUKHA VAMAGOMUKHA;19+ UBHAYATO:
MUKHA;20+VAMAGOMUKHA WITH: TAIL;11+DOUBLE ANUSVARA: ANTARGOMUKHA;11+HEXIFORM LONG: ANUSVARA;11+LONG:
ANUSVARA;11+REVERSED VISARGA: ANUDATTA UDATTA;12+OTATED: ARDHAVISARGA;12+THANG LONG: ANUSVARA;
11+VISARGA: ANUDATTA SVARITA UDATTA;18+ ANUDATTA WITH: TAIL;19+UDATTA WITH: TAIL;11+YAJURVEDIC
MIDLINE: SVARITA;6+TONE: KARSHANA PRENKHA SHARA;10+ ATHARVAVEDIC INDEPENDENT: SVARITA;11+CANDRA:
ABOVE BELOW;11+DOT: BELOW;13+UBLE: SVARITA;17+ RING: ABOVE;11+KATHAKA: ANUDATTA;11+RIGVEDIC KASHMIRI
INDEPENDENT: SVARITA;13+NG: ABOVE;11+THREE DOTS: BELOW;12+RIPLE: SVARITA;12+WO DOTS: BELOW;
11+YAJURVEDIC AGGRAVATED INDEPENDENT: SVARITA;22+INDEPENDENT: SVARITA;22+KATHAKA INDEPENDENT:
SVARITA;41+ SVARITA: SCHROEDER;2+RTICAL: ELLIPSIS LINE TABULATION TILDE;8+ BAR BESIDE RIGHT:
TRIANGLE;13+DOUBLE LEFT: TURNSTILE;13+TRIPLE RIGHT: TURNSTILE;13+WITH HORIZONTAL: STROKE;9+FOUR:
DOTS;9+IDEOGRAPHIC ITERATION: MARK;9+KANA REPEAT: MARK;20+ MARK LOWER: HALF;26+UPPER: HALF;21+WITH
VOICED SOUND: MARK;38+ MARK UPPER: HALF;9+LINE: EXTENSION;13+ WITH CIRCLE: ABOVE BELOW;19+MIDDLE:
DOT;9+MALE WITH STROKE: SIGN;9+ONE EIGHTH: BLOCK-2~7;9+SIX: DOTS;9+TAB: KEY;12+ULATION: SET;
10+RAFFIC: LIGHT;9+ZIGZAG: LINE;3+Y BOLD GREEK: CROSS;5+HEAVY: SALTIRE SOLIDUS;10+ EIGHT POINTED
BLACK: STAR;17+SPOKED: ASTERISK;11+FIVE SPOKED: ASTERISK;11+GREEK: CROSS;11+REVERSE: SOLIDUS;11+SIX
SPOKED: ASTERISK;11+WHITE: CIRCLE SQUARE;5+MUCH: GREATER-THAN LESS-THAN;1+IBRATION: MODE;2+CTORY:
HAND;2+DEO: CAMERA GAME;2+ETNAMESE ALTERNATE READING MARK: CA NHAY;3+WDATA: SQUARE;2+THKUQI CAPITAL
LETTER: A BBE BE CE CHE DE DHE E EI FE GA HA HHA I IJE JE KA LA LLA ME NE NJE O PE QA RE SE SHE TE
THE U VE XE Y ZE;9+SMALL LETTER: A BBE BE CE CHE DE DHE E EI FE GA HA HHA I IJE JE KA LA LLA ME NE
NJE O PE QA RE SE SHE TE THE U VE XE Y ZE;1+OIDED GREEK: CROSS;2+LUME: INTEGRAL;1+ULGAR FRACTION
FIVE: EIGHTHS SIXTHS;17+OUR: FIFTHS;16+ONE: EIGHTH FIFTH HALF NINTH QUARTER SEVENTH SIXTH TENTH
THIRD;16+SEVEN: EIGHTHS;16+THREE: EIGHTHS FIFTHS QUARTERS;17+WO: FIFTHS THIRDS;16+ZERO: THIRDS;
0+WANCHO DIGIT: EIGHT FIVE FOUR NINE ONE SEVEN SIX THREE TWO ZERO;7+LETTER: A AA AAN AANG ANG AU BA
CA DA E EN FA GA HA I ING JA KA KHA LA LLHA MA NA NGA NYA O ON ONG PA PHA RA SA SHA TA THA TRA TSA U
UEN VA WA YA YIH ZA;7+NGUN: SIGN;7+TONE: KOI KOINI TUP TUPNI;3+ING CRESCENT MOON: SYMBOL;7+GIBBOUS
MOON: SYMBOL;2+RANG CITI: OM;11+ CAPITAL LETTER: A AM ANG AT BU DA E ENN ENY GA HAR HIYO HOLO HORR
II KO NGAA NUNG O ODD PU SII SSUU TTE UC UU VIYO WI YA YO YU YUJ;12+DIGIT: EIGHT FIVE FOUR NINE ONE
SEVEN SIX THREE TWO ZERO;12+NUMBER: EIGHTY FIFTY FORTY NINETY SEVENTY SIXTY TEN THIRTY TWENTY;
12+SMALL LETTER: A AM ANG AT BU DA E ENN ENY GA HAR HIYO HOLO HORR II KO NGAA NUNG O ODD PU SII SSUU
TTE UC UU VIYO WI YA YO YU YUJ;3+NING: SIGN;2+TER: BUFFALO CLOSET POLO WAVE;2+VE: DASH;4+ ARROW
POINTING DIRECTLY: LEFT RIGHT;3+ING BLACK: FLAG;7+HAND: SIGN;7+WHITE: FLAG;3+Y: DASH LINE OVERLINE;
4+ LOW: LINE;2+XING CRESCENT MOON: SYMBOL;7+GIBBOUS MOON: SYMBOL;1+EARY: FACE;5+ CAT: FACE;
2+DGE-TAILED RIGHTWARDS: ARROW;2+IERSTRASS ELLIPTIC: FUNCTION;3+GHT: LIFTER;2+ST SYRIAC: CROSS;
1+HEEL OF: DHARMA;5+CHAIR: SYMBOL;2+ITE: BULLET CIRCLE DIAMOND FLAG FLORETTE FLOWER HEART HEXAGON
HOURGLASS NIB PARALLELOGRAM PENNANT PENTAGON RECTANGLE SCISSORS SQUARE STAR SUN TELEPHONE TRAPEZIUM;
5+ ARROW SHAFT WIDTH: ONE;23+ TWO: THIRDS;6+CHESS: BISHOP EQUIHOPPER KING KNIGHT KNIGHT-BISHOP
KNIGHT-QUEEN KNIGHT-ROOK PAWN QUEEN ROOK;11+ BISHOP ROTATED NINETY: DEGREES;27+TWO HUNDRED SEVENTY:
DEGREES;12+EQUIHOPPER ROTATED NINETY: DEGREES;12+KING ROTATED NINETY: DEGREES;25+TWO HUNDRED
SEVENTY: DEGREES;13+NIGHT ROTATED FORTY-FIVE: DEGREES;27+NINETY: DEGREES;27+ONE HUNDRED THIRTY-FIVE:
DEGREES;27+THREE HUNDRED FIFTEEN: DEGREES;28+WO HUNDRED SEVENTY: DEGREES;39+TWENTY-FIVE: DEGREES;
12+PAWN ROTATED NINETY: DEGREES;25+TWO HUNDRED SEVENTY: DEGREES;12+QUEEN ROTATED NINETY: DEGREES;
26+TWO HUNDRED SEVENTY: DEGREES;12+ROOK ROTATED NINETY: DEGREES;25+TWO HUNDRED SEVENTY: DEGREES;
12+TURNED: BISHOP KING KNIGHT PAWN QUEEN ROOK;7+IRCLE CONTAINING BLACK SMALL: CIRCLE;13+WITH DOT:
RIGHT;20+WN: ARROW;18+LOWER LEFT: QUADRANT;24+RIGHT: QUADRANT;18+TWO: DOTS;18+UPPER LEFT: QUADRANT;
24+RIGHT: QUADRANT;7+LUB: SUIT;7+ONCAVE-SIDED: DIAMOND;19+ DIAMOND WITH LEFTWARDS: TICK;
33+RIGHTWARDS: TICK;6+DIAMOND: SUIT;13+ CONTAINING BLACK MEDIUM: DIAMOND;31+SMALL: DIAMOND;31+VERY
SMALL: DIAMOND;14+IN: SQUARE;14+WITH CENTRED: DOT;7+OWN POINTING: INDEX;19+ BACKHAND: INDEX;20+LEFT
HAND: INDEX;10+-POINTING: TRIANGLE;19+ SMALL: TRIANGLE;7+RAUGHTS: KING MAN;6+EXCLAMATION MARK:
ORNAMENT;6+FLAG WITH HORIZONTAL MIDDLE BLACK: STRIPE;7+OUR POINTED: CUSP STAR;7+ROWNING: FACE;6+HARD
SHELL FLOPPY: DISK;7+EART: SUIT;9+VY CHECK: MARK;12+SALTIRE WITH ROUNDED: CORNERS;7+ORIZONTAL:
ELLIPSE;6+LARGE: SQUARE;8+TIN: CROSS;7+EFT LANE: MERGE;11+POINTING: INDEX;19+ BACKHAND: INDEX;
10+-POINTING: POINTER TRIANGLE;19+ SMALL: TRIANGLE;7+OZENGE CONTAINING BLACK SMALL: LOZENGE;
6+MEDIUM: DIAMOND LOZENGE SQUARE STAR;12+ SMALL: SQUARE;7+OON: SELENA;6+QUESTION MARK: ORNAMENT;
6+RIGHT POINTING: INDEX;20+ BACKHAND: INDEX;11+-POINTING: PENTAGON POINTER TRIANGLE;20+ SMALL:
TRIANGLE;6+SESAME: DOT;7+HOGI: PIECE;7+MALL: LOZENGE SQUARE STAR;8+ILING: FACE;7+PADE: SUIT;7+QUARE:
BUTTON;12+ CONTAINING BLACK MEDIUM: SQUARE;30+SMALL: SQUARE;30+VERY SMALL: SQUARE;13+WITH CENTRE
VERTICAL: LINE;18+LEFTWARDS: TICK;19+OWER LEFT: QUADRANT;24+RIGHT: QUADRANT;18+RIGHTWARDS: TICK;
19+OUNDED: CORNERS;18+UPPER LEFT: QUADRANT;24+RIGHT: QUADRANT;18+VERTICAL BISECTING: LINE;7+UN
BEHIND: CLOUD;16+ CLOUD WITH: RAIN;10+WITH: RAYS;14+ SMALL: CLOUD;6+TOUCHTONE: TELEPHONE;7+RIANGLE
CONTAINING SMALL WHITE: TRIANGLE;7+WO-WAY LEFT WAY: TRAFFIC;6+UP POINTING: INDEX;17+ BACKHAND:
INDEX;8+-POINTING: CHEVRON TRIANGLE;17+ SMALL: TRIANGLE;18+TRIANGLE WITH: DOT;6+VERTICAL: BAR
ELLIPSE RECTANGLE;9+Y SMALL: SQUARE;5+-FEATHERED RIGHTWARDS: ARROW;1+IDE-HEADED DOWNWARDS BARB:
ARROW;22+HEAVY BARB: ARROW;22+LIGHT BARB: ARROW;22+MEDIUM BARB: ARROW;22+VERY HEAVY BARB: ARROW;
12+LEFTWARDS BARB: ARROW;22+HEAVY BARB: ARROW;22+LIGHT BARB: ARROW;22+MEDIUM BARB: ARROW;22+VERY
HEAVY BARB: ARROW;12+NORTH EAST BARB: ARROW;23+HEAVY BARB: ARROW;23+LIGHT BARB: ARROW;23+MEDIUM
BARB: ARROW;23+VERY HEAVY BARB: ARROW;18+WEST BARB: ARROW;23+HEAVY BARB: ARROW;23+LIGHT BARB: ARROW;
23+MEDIUM BARB: ARROW;23+VERY HEAVY BARB: ARROW;12+RIGHTWARDS BARB: ARROW;23+HEAVY BARB: ARROW;
23+LIGHT BARB: ARROW;23+MEDIUM BARB: ARROW;23+VERY HEAVY BARB: ARROW;12+SOUTH EAST BARB: ARROW;
23+HEAVY BARB: ARROW;23+LIGHT BARB: ARROW;23+MEDIUM BARB: ARROW;23+VERY HEAVY BARB: ARROW;18+WEST
BARB: ARROW;23+HEAVY BARB: ARROW;23+LIGHT BARB: ARROW;23+MEDIUM BARB: ARROW;23+VERY HEAVY BARB:
ARROW;12+UPWARDS BARB: ARROW;20+HEAVY BARB: ARROW;20+LIGHT BARB: ARROW;20+MEDIUM BARB: ARROW;20+VERY
HEAVY BARB: ARROW;2+GGLY VERTICAL: LINE;2+LTED: FLOWER;2+ND: CHIME;4+ BLOWING: FACE;3+E: GLASS;
3+KING: FACE;2+RED: KEYBOARD;1+OLF: FACE;2+MAN WITH BUNNY: EARS;5+S: BOOTS CLOTHES HAT SANDAL;3+ENS:
SYMBOL;2+N: SIGN;2+RD: JOINER;4+ SEPARATOR MIDDLE: DOT;3+LD: MAP;3+RIED: FACE;1+RAPPED: PRESENT;
2+EATH: PRODUCT;2+ITING: HAND;0+X IN A RECTANGLE: BOX;1+IANGQI BLACK: CANNON CHARIOT ELEPHANT
GENERAL HORSE MANDARIN SOLDIER;8+RED: CANNON CHARIOT ELEPHANT GENERAL HORSE MANDARIN SOLDIER;
0+YAWNING: FACE;1+ELLOW: HEART;2+N: SIGN;2+ZIDI COMBINING HAMZA: MARK;17+MADDA: MARK;7+HYPHENATION:
MARK;7+LETTER: BE CHHIM CHIM CIM DAD DAL ELIF ET EW EYN FA GAF HAY HHA JA KAF KHAF LAM MIM NUN OW PE
PHE QAF RA RHA SAD SE SHIN SIN TA THE UM VA WAW XA XHEYN YOT ZA ZAL ZE;13+ LAM WITH DOT: ABOVE;14+VA
ALTERNATE: FORM;14+YOT WITH CIRCUMFLEX: ABOVE;1+I RADICAL: BBUT BUR CHE CIP CUOP CY CYP CYT DDUR DU
GA GEP GGOP GGUO GOT HMO HXIT HXOP HXUO JJIE JJUT JJY JO KE KIT LI LIE LYR MI MOP NBIE NYIP NYOP
NZUP OP PUT PYT QOT SHAT SHOP SHUR SHY SSI TAT TU VEP VUR WO YIT YO ZA ZOT ZUP ZUR ZZIET;3+SYLLABLE:
A AP AT AX BA BAP BAT BAX BBA BBAP BBAT BBAX BBE BBEP BBEX BBI BBIE BBIEP BBIET BBIEX BBIP BBIT BBIX
BBO BBOP BBOT BBOX BBU BBUO BBUOP BBUOX BBUP BBUR BBURX BBUT BBUX BBY BBYP BBYT BBYX BE BEP BEX BI
BIE BIEP BIET BIEX BIP BIT BIX BO BOP BOT BOX BU BUO BUOP BUOX BUP BUR BURX BUT BUX BY BYP BYR BYRX
BYT BYX CA CAP CAT CAX CE CEP CEX CHA CHAP CHAT CHAX CHE CHEP CHET CHEX CHO CHOP CHOT CHOX CHU CHUO
CHUOP CHUOT CHUOX CHUP CHUR CHURX CHUX CHY CHYP CHYR CHYRX CHYT CHYX CI CIE CIEP CIET CIEX CIP CIT
CIX CO COP COT COX CU CUO CUOP CUOX CUP CUR CURX CUT CUX CY CYP CYR CYRX CYT CYX DA DAP DAT DAX DDA
DDAP DDAT DDAX DDE DDEP DDEX DDI DDIE DDIEP DDIEX DDIP DDIT DDIX DDO DDOP DDOT DDOX DDU DDUO DDUOP
DDUOX DDUP DDUR DDURX DDUT DDUX DE DEP DEX DI DIE DIEP DIEX DIP DIT DIX DO DOP DOT DOX DU DUO DUOX
DUP DUR DURX DUT DUX E EX FA FAP FAT FAX FI FIP FIT FIX FO FOP FOX FU FUP FUR FURX FUT FUX FY FYP
FYT FYX GA GAP GAT GAX GE GEP GET GEX GGA GGAP GGAT GGAX GGE GGEP GGET GGEX GGI GGIE GGIEP GGIEX
GGIT GGIX GGO GGOP GGOT GGOX GGU GGUO GGUOP GGUOT GGUOX GGUP GGUR GGURX GGUT GGUX GI GIE GIEP GIET
GIEX GIP GIT GIX GO GOP GOT GOX GU GUO GUOP GUOT GUOX GUP GUR GURX GUT GUX HA HAP HAT HAX HE HEP HEX
HIE HIEX HIT HLA HLAP HLAT HLAX HLE HLEP HLEX HLI HLIE HLIEP HLIEX HLIP HLIT HLIX HLO HLOP HLOX HLU
HLUO HLUOP HLUOX HLUP HLUR HLURX HLUT HLUX HLY HLYP HLYR HLYRX HLYT HLYX HMA HMAP HMAT HMAX HMI HMIE
HMIEP HMIEX HMIP HMIT HMIX HMO HMOP HMOT HMOX HMU HMUO HMUOP HMUOX HMUP HMUR HMURX HMUT HMUX HMY
HMYP HMYR HMYRX HMYX HNA HNAP HNAT HNAX HNE HNEP HNEX HNI HNIE HNIEP HNIET HNIEX HNIP HNIT HNIX HNOP
HNOT HNOX HNUO HNUOX HNUT HO HOP HOT HOX HUO HUOP HUOT HUOX HXA HXAP HXAT HXAX HXE HXEP HXEX HXI
HXIE HXIEP HXIET HXIEX HXIP HXIT HXIX HXO HXOP HXOT HXOX HXUO HXUOP HXUOT HXUOX I IE IEP IET IEX IP
IT IX JI JIE JIEP JIET JIEX JIP JIT JIX JJI JJIE JJIEP JJIET JJIEX JJIP JJIT JJIX JJO JJOP JJOT JJOX
JJU JJUO JJUOP JJUOX JJUP JJUR JJURX JJUT JJUX JJY JJYP JJYT JJYX JO JOP JOT JOX JU JUO JUOP JUOT
JUOX JUP JUR JURX JUT JUX JY JYP JYR JYRX JYT JYX KA KAP KAT KAX KE KEP KET KEX KI KIE KIEP KIEX KIP
KIT KIX KO KOP KOT KOX KU KUO KUOP KUOX KUP KUR KURX KUT KUX LA LAP LAT LAX LE LEP LEX LI LIE LIEP
LIET LIEX LIP LIT LIX LO LOP LOT LOX LU LUO LUOP LUOT LUOX LUP LUR LURX LUT LUX LY LYP LYR LYRX LYT
LYX MA MAP MAT MAX ME MEX MGA MGAP MGAT MGAX MGE MGEP MGEX MGIE MGIEX MGO MGOP MGOT MGOX MGU MGUO
MGUOP MGUOX MGUP MGUR MGURX MGUT MGUX MI MIE MIEP MIEX MIP MIT MIX MO MOP MOT MOX MU MUO MUOP MUOT
MUOX MUP MUR MURX MUT MUX MY MYP MYT MYX NA NAP NAX NBA NBAP NBAT NBAX NBI NBIE NBIEP NBIEX NBIP
NBIT NBIX NBO NBOP NBOT NBOX NBU NBUP NBUR NBURX NBUT NBUX NBY NBYP NBYR NBYRX NBYT NBYX NDA NDAP
NDAT NDAX NDE NDEP NDEX NDI NDIE NDIEX NDIP NDIT NDIX NDO NDOP NDOT NDOX NDU NDUP NDUR NDURX NDUT
NDUX NE NEP NEX NGA NGAP NGAT NGAX NGE NGEP NGEX NGIE NGIEP NGIEX NGO NGOP NGOT NGOX NGUO NGUOT
NGUOX NI NIE NIEP NIEX NIP NIT NIX NJI NJIE NJIEP NJIET NJIEX NJIP NJIT NJIX NJO NJOP NJOT NJOX NJU
NJUO NJUOX NJUP NJUR NJURX NJUX NJY NJYP NJYR NJYRX NJYT NJYX NO NOP NOT NOX NRA NRAP NRAT NRAX NRE
NREP NRET NREX NRO NROP NROX NRU NRUP NRUR NRURX NRUT NRUX NRY NRYP NRYR NRYRX NRYT NRYX NU NUO NUOP
NUOX NUP NUR NURX NUT NUX NYI NYIE NYIEP NYIET NYIEX NYIP NYIT NYIX NYO NYOP NYOT NYOX NYU NYUO
NYUOP NYUOX NYUP NYUT NYUX NZA NZAP NZAT NZAX NZE NZEX NZI NZIE NZIEP NZIEX NZIP NZIT NZIX NZOP NZOX
NZU NZUO NZUOX NZUP NZUR NZURX NZUX NZY NZYP NZYR NZYRX NZYT NZYX O OP OT OX PA PAP PAT PAX PI PIE
PIEP PIEX PIP PIT PIX PO POP POT POX PU PUO PUOP PUOX PUP PUR PURX PUT PUX PY PYP PYR PYRX PYT PYX
QI QIE QIEP QIET QIEX QIP QIT QIX QO QOP QOT QOX QU QUO QUOP QUOT QUOX QUP QUR QURX QUT QUX QY QYP
QYR QYRX QYT QYX RA RAP RAT RAX RE REP REX RO ROP ROT ROX RRA RRAX RRE RREP RRET RREX RRO RROP RROT
RROX RRU RRUO RRUOX RRUP RRUR RRURX RRUT RRUX RRY RRYP RRYR RRYRX RRYT RRYX RU RUO RUOP RUOX RUP RUR
RURX RUT RUX RY RYP RYR RYRX RYT RYX SA SAP SAT SAX SE SEP SEX SHA SHAP SHAT SHAX SHE SHEP SHET SHEX
SHO SHOP SHOT SHOX SHU SHUO SHUOP SHUOX SHUP SHUR SHURX SHUT SHUX SHY SHYP SHYR SHYRX SHYT SHYX SI
SIE SIEP SIEX SIP SIT SIX SO SOP SOT SOX SSA SSAP SSAT SSAX SSE SSEP SSEX SSI SSIE SSIEP SSIEX SSIP
SSIT SSIX SSO SSOP SSOT SSOX SSU SSUP SSUT SSUX SSY SSYP SSYR SSYRX SSYT SSYX SU SUO SUOP SUOX SUP
SUR SURX SUT SUX SY SYP SYR SYRX SYT SYX TA TAP TAT TAX TE TEP TEX TI TIE TIEP TIEX TIP TIT TIX TO
TOP TOT TOX TU TUO TUOP TUOT TUOX TUP TUR TURX TUT TUX UO UOP UOX VA VAP VAT VAX VEP VEX VI VIE VIEP
VIET VIEX VIP VIT VIX VO VOP VOT VOX VU VUP VUR VURX VUT VUX VY VYP VYR VYRX VYT VYX WA WAP WAT WAX
WE WEP WEX WO WOP WOX WU WUO WUOP WUOX XI XIE XIEP XIET XIEX XIP XIT XIX XO XOP XOT XOX XUO XUOX XY
XYP XYR XYRX XYT XYX YI YIE YIEP YIET YIEX YIP YIT YIX YO YOP YOT YOX YU YUO YUOP YUOT YUOX YUP YUR
YURX YUT YUX YY YYP YYR YYRX YYT YYX ZA ZAP ZAT ZAX ZE ZEP ZEX ZHA ZHAP ZHAT ZHAX ZHE ZHEP ZHET ZHEX
ZHO ZHOP ZHOT ZHOX ZHU ZHUO ZHUOP ZHUOX ZHUP ZHUR ZHURX ZHUT ZHUX ZHY ZHYP ZHYR ZHYRX ZHYT ZHYX ZI
ZIE ZIEP ZIEX ZIP ZIT ZIX ZO ZOP ZOT ZOX ZU ZUO ZUOP ZUOX ZUP ZUR ZURX ZUT ZUX ZY ZYP ZYR ZYRX ZYT
ZYX ZZA ZZAP ZZAT ZZAX ZZE ZZEP ZZEX ZZI ZZIE ZZIEP ZZIET ZZIEX ZZIP ZZIT ZZIX ZZO ZZOP ZZOX ZZU
ZZUP ZZUR ZZURX ZZUX ZZY ZZYP ZZYR ZZYRX ZZYT ZZYX;11+ ITERATION: MARK;2+N: YANG;0+Z NOTATION: SPOT;
10+ BAG: MEMBERSHIP;11+DOMAIN: ANTIRESTRICTION;11+LEFT BINDING: BRACKET;16+IMAGE: BRACKET;11+RANGE:
ANTIRESTRICTION;12+ELATIONAL: COMPOSITION;12+IGHT BINDING: BRACKET;17+IMAGE: BRACKET;11+SCHEMA:
COMPOSITION PIPING PROJECTION;11+TYPE: COLON;1+ANABAZAR SQUARE: SUBJOINER;16+ CLOSING DOUBLE-LINED
HEAD: MARK;25+HEAD: MARK;19+USTER-FINAL LETTER: LA RA VA YA;25+INITIAL LETTER: RA;17+FINAL
CONSONANT: MARK;17+INITIAL DOUBLE-LINED HEAD: MARK;25+HEAD: MARK;17+LETTER: -A A BA BHA CA CHA DA
DDA DDHA DHA DZA DZHA GA GHA HA JA KA KHA KSSA LA MA NA NGA NNA NYA PA PHA RA SA SHA SSA TA THA TSA
TSHA TTA TTHA VA YA ZA ZHA;17+MARK: SHAD TSHEG;21+ DOUBLE: SHAD;22+LONG: TSHEG;17+SIGN: ANUSVARA
CANDRABINDU VIRAMA VISARGA;21+ CANDRA WITH: ORNAMENT;28+BINDU WITH: ORNAMENT;17+VOWEL LENGTH: MARK;
23+SIGN: AI AU E I O OE U UE;27+ REVERSED: I;1+EBRA: FACE;2+RO WIDTH: JOINER NON-JOINER SPACE;10+
NO-BREAK: SPACE;1+IPPER-MOUTH: FACE;1+NAMENNY COMBINING ATTACHING VERTICAL: OMET;19+LOWER TONAL
RANGE: INDICATOR;19+MARK: BORZAYA CHASHKA DVOETOCHIE KACHKA KRYZH KUPNAYA LOMKA OBLACHKO ON OTSECHKA
PODCHASHIE PODVERTKA RAVNO RAZSEKA SKOBA TIKHAYA TOCHKA UDARKA ZADERZHKA ZELO ZEVOK;23+ CHASHKA:
POLNAYA;25+URVED: OMET;24+DEMESTVENNY: ZADERZHKA;24+GORAZDO: VYSOKO;31+ NIZKO ON: LEFT RIGHT;38+S
KRYZHEM ON: LEFT RIGHT;24+KRYZH ON: LEFT;24+MALO POVYSHE: STRANNO;36+ ON: LEFT RIGHT;37+S: KRYZHEM;
38+ KHOKHLOM ON: LEFT RIGHT;24+NIZKO ON: LEFT RIGHT;30+S KRYZHEM ON: LEFT RIGHT;24+PODCHASHIE WITH
VERTICAL: STROKE;26+VYSHE: STRANNO;31+ ON: LEFT RIGHT;32+S: KRYZHEM;33+ KHOKHLOM ON: LEFT RIGHT;
24+SOROCHYA: NOZHKA;25+REDNE ON: LEFT RIGHT;25+TRANNO MALO: POVYSHE;24+TSATA ON: LEFT RIGHT;30+S:
KRYZHEM;24+VYSOKO ON: LEFT RIGHT;31+S: KRYZHEM;32+ KHOKHLOM ON: LEFT RIGHT;19+TONAL RANGE MARK:
MRACHNO SVETLO TRESVETLO;9+NEUME: CHASHKA CHELYUSTKA DERBITSA DUDA FITA KHAMILO KLYUCH KOBYLA KRYUK
KRYZH KUFISMA MECHIK NEMKA OBLAKO OSOKA PALKA PARAKLIT PAUK PEREVODKA PODCHASHIE POLKULIZMY ROG
SLOZHITIE STATYA STOPITSA ZANOZHEK ZAPYATAYA ZMEYTSA;14+ DEMESTVENNY: KLYUCH;16+OUBLE: ZAPYATAYA;
16+VA V: CHELNU;15+GOLUBCHIK: BORZY MRACHNY SVETLY TIKHY TRESVETLY;15+KRYUK: TIKHY;15+MECHIK:
KLYUCHENEPOSTOYANNY KLYUCHEPOVODNY KLYUCHEVOY POVODNY;15+OSOKA: SVETLAYA TRESVETLAYA;20+
KLYUCHEVAYA: NEPOSTOYANNAYA SVETLAYA;22+RYUKOVAYA: SVETLAYA;15+PEREVODKA: NEPOSTOYANNAYA;
15+REVERSED: CHELYUSTKA;15+SKAMEYTSA: KLYUCHENEPOSTOYANNAYA MRACHNAYA SVETLAYA TIKHAYA TRESVETLAYA;
24+ DVOECHELNAYA: KLYUCHEVAYA NEPOSTOYANNAYA PROSTAYA SVETLAYA;25+KLYUCHEVAYA: SVETLAYA TIKHAYA;
16+LOZHITIE: ZAKRYTOE;24+ S: KRYZHEM ZAPYATOY;16+TATYA: NEPOSTOYANNAYA ZAKRYTAYA;21+ S: KRYZHEM
ROGOM ZAPYATOY;23+ DVUMYA: ZAPYATYMI;24+KRYZHEM I: ZAPYATOY;24+ZAPYATOY I: KRYZHEM PODCHASHIEM;
22+ZAKRYTAYA S: ZAPYATOY;17+OPITSA S: OCHKOM;24+WITH SOROCHYA: NOZHKA;17+RELA: DVOECHELNAYA
DVOECHELNOKRYZHEVAYA DVOECHELNOPOVODNAYA GROMNAYA GROMOKRYZHEVAYA GROMOPOVODNAYA
KLYUCHENEPOSTOYANNAYA KLYUCHEPOVODNAYA KRYUKOVAYA KRYZHEVAYA MRACHNOTIKHAYA NEPOSTOYANNAYA
POLUPOVODNAYA POVODNAYA PROSTAYA TRYASOGLASNAYA TRYASOPOVODNAYA TRYASOSTRELNAYA;21+ DVOECHELNAYA:
KLYUCHEVAYA;31+OPOVODNAYA: KLYUCHEVAYA;22+GROMNAYA WITH SINGLE: ZAPYATAYA;26+OKRYZHEVAYA: POVODNAYA;
27+POVODNAYA WITH DOUBLE: ZAPYATAYA;42+SINGLE: ZAPYATAYA;22+KRYUKOVAYA: GROMNAYA GROMOKRYZHEVAYA
GROMOPOVODNAYA POVODNAYA TRYASKA;32+ GROMNAYA WITH SINGLE: ZAPYATAYA;37+OKRYZHEVAYA: POVODNAYA;
38+POVODNAYA WITH DOUBLE: ZAPYATAYA;53+SINGLE: ZAPYATAYA;22+TIKHAYA: PUTNAYA;15+VRAKHIYA: MRACHNAYA
PROSTAYA SVETLAYA TRESVETLAYA;23+ KLYUCHEVAYA: MRACHNAYA PROSTAYA SVETLAYA TRESVETLAYA;9+PRIZNAK
MODIFIER: KRYZH LEVEL-2 LEVEL-3 ROG;25+ DIRECTION: FLIP"

end AlignedLedger.Text
